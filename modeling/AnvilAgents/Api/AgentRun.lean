import AnvilAgents.Lib.MergePatch
import AnvilAgents.Standing.Claim

/-! The AgentRun resource: spec, status and the identity of the Job and payload it launches. -/

namespace AnvilAgents

open Text

/-- Namespace and name of an object. -/
structure Key where
  ns : String
  name : String
deriving DecidableEq

/-- A key as messages print it. -/
def Key.text (key : Key) : String :=
  key.ns ++ "/" ++ key.name

/-- A reference to an object by name and optional namespace. -/
structure NamespacedObjectReference where
  name : String := ""
  ns : String := ""
deriving DecidableEq

/-- Identities the API server assigns; zero is the empty identity. -/
abbrev UID := Nat

/-- Where a run stands; `unset` is the phase of a run no reconcile has reported on. -/
inductive AgentRunPhase where
  | unset
  | pending
  | running
  | needsHuman
  | succeeded
  | failed
deriving DecidableEq

/-- The phases in which a run counts as finished. -/
def agentRunPhaseTerminal : AgentRunPhase → Bool
  | .succeeded | .failed | .needsHuman => true
  | .unset | .pending | .running => false

/-- The phase as the API spells it. -/
def AgentRunPhase.text : AgentRunPhase → String
  | .unset => ""
  | .pending => "Pending"
  | .running => "Running"
  | .needsHuman => "NeedsHuman"
  | .succeeded => "Succeeded"
  | .failed => "Failed"

/-- Where a harness executes. -/
inductive AgentRunExecutionRuntime where
  | job
  | substrateActor
  | inProcess
deriving DecidableEq

/-- What a run was created for. -/
structure AgentRunSourceRef where
  kind : String := ""
  name : String := ""
  ns : String := ""
deriving DecidableEq

/-- How a run executes; `body` stands for the fields that are only copied. -/
structure AgentRunHarnessSpec where
  backend : String := ""
  intent : String := ""
  runtime : AgentRunExecutionRuntime := .job
  ttlSecondsAfterFinished : Option Nat := none
  body : String := ""
deriving DecidableEq

/-- The spec fields that reconciliation reads. -/
structure AgentRunSpec where
  sourceRef : AgentRunSourceRef := {}
  sourceUID : UID := 0
  prompt : String := ""
  profileRef : Option NamespacedObjectReference := none
  applicationRef : Option String := none
  scheduleRef : Option NamespacedObjectReference := none
  situationRef : Option NamespacedObjectReference := none
  harness : AgentRunHarnessSpec := {}
deriving DecidableEq

/-- A status condition; times are the whole seconds the API server stores. -/
structure Condition where
  type : String
  status : Bool
  observedGeneration : Nat
  lastTransitionTime : Nat
  reason : String
  message : String
deriving DecidableEq

structure AgentRunDecisionStatus where
  classification : String := ""
  action : String := ""
  summary : String := ""
  residualRisk : String := ""
deriving DecidableEq

/-- One report a harness printed. -/
structure AgentRunStatusReport where
  type : String := ""
  classification : String := ""
  action : String := ""
  summary : String := ""
  detail : String := ""
  pullRequestURL : String := ""
  residualRisk : String := ""
  needsHuman : Bool := false
  humanFollowUp : String := ""
deriving DecidableEq

/-- The archive receipt of a finished run. -/
structure AgentRunArchiveStatus where
  store : String := ""
  archivedAt : Option Nat := none
  digest : String := ""
  error : String := ""
deriving DecidableEq

/-- The inputs a run was composed from; `references` stands for the resolved object versions. -/
structure AgentRunResolvedCompositionStatus where
  resolvedAt : Option Nat := none
  references : String := ""
  effectiveDigest : String := ""
  payloadDigest : String := ""
deriving DecidableEq

/-- The status fields that record the launch of a run's one execution. -/
structure LaunchStatus where
  plannedJobRef : Option NamespacedObjectReference := none
  jobCreateAttemptedAt : Option Nat := none
  jobRef : Option NamespacedObjectReference := none
  jobUID : UID := 0
  jobSpecDigest : String := ""
  payloadRef : Option NamespacedObjectReference := none
  payloadUID : UID := 0
  promptHash : String := ""
  resolvedComposition : Option AgentRunResolvedCompositionStatus := none
deriving DecidableEq

structure AgentRunStatus where
  observedGeneration : Nat := 0
  conditions : List Condition := []
  phase : AgentRunPhase := .unset
  backend : String := ""
  intent : String := ""
  image : String := ""
  executionRuntime : Option AgentRunExecutionRuntime := none
  launch : LaunchStatus := {}
  runnerPodRef : Option NamespacedObjectReference := none
  runnerPodUID : UID := 0
  dataVolumes : List String := []
  externalSecretRefreshes : List String := []
  archive : Option AgentRunArchiveStatus := none
  startedAt : Option Nat := none
  completedAt : Option Nat := none
  decision : Option AgentRunDecisionStatus := none
  reports : List AgentRunStatusReport := []
  output : String := ""
  pullRequestURL : String := ""
  error : String := ""
deriving DecidableEq

/-- The annotations and labels that reconciliation reads; the empty text is an absent entry. -/
structure AgentRunMeta where
  interruptDuplicate : String := ""
  peerRun : String := ""
  standingClaim : Option Claim := none
  chatThread : String := ""
  chatTurn : String := ""
  schedule : String := ""
deriving DecidableEq

structure AgentRun where
  key : Key
  uid : UID
  resourceVersion : Nat
  generation : Nat
  creationTimestamp : Nat
  deleting : Bool := false
  notes : AgentRunMeta := {}
  spec : AgentRunSpec := {}
  status : AgentRunStatus := {}
deriving DecidableEq

/-- Whether the status holds everything needed to recognise the one Job this run may create. -/
def agentRunLaunchReceiptComplete (launch : LaunchStatus) : Bool :=
  (match launch.plannedJobRef with
    | some ref => !isBlank ref.name && !isBlank ref.ns
    | none => false) &&
  !isBlank launch.jobSpecDigest &&
  (match launch.payloadRef with
    | some ref => !isBlank ref.name && !isBlank ref.ns
    | none => false) &&
  launch.payloadUID != 0 &&
  !isBlank launch.promptHash &&
  (match launch.resolvedComposition with
    | some composition => !isBlank composition.payloadDigest
    | none => false)

/-- A run counts as archived when its receipt is whole and carries no error. -/
def agentRunArchived (status : AgentRunStatus) : Bool :=
  match status.archive with
  | none => false
  | some receipt =>
    !isBlank receipt.store && receipt.archivedAt.isSome && !isBlank receipt.digest &&
      isBlank receipt.error

/-- The condition type every AgentRun reports under. -/
def agentRunReady : String := "Ready"

/-- Replace the first condition of the type, keeping its transition time while its status stays. -/
def setStatusCondition : List Condition → Condition → List Condition
  | [], new => [new]
  | old :: rest, new =>
    if old.type = new.type then
      { new with
        lastTransitionTime :=
          if old.status = new.status then old.lastTransitionTime else new.lastTransitionTime } :: rest
    else old :: setStatusCondition rest new

section Merge

open MergePatch

def mergeReference (read new stored : NamespacedObjectReference) : NamespacedObjectReference where
  name := field read.name new.name stored.name
  ns := field read.ns new.ns stored.ns

def mergeDecision (read new stored : AgentRunDecisionStatus) : AgentRunDecisionStatus where
  classification := field read.classification new.classification stored.classification
  action := field read.action new.action stored.action
  summary := field read.summary new.summary stored.summary
  residualRisk := field read.residualRisk new.residualRisk stored.residualRisk

def mergeArchive (read new stored : AgentRunArchiveStatus) : AgentRunArchiveStatus where
  store := field read.store new.store stored.store
  archivedAt := field read.archivedAt new.archivedAt stored.archivedAt
  digest := field read.digest new.digest stored.digest
  error := field read.error new.error stored.error

def mergeComposition (read new stored : AgentRunResolvedCompositionStatus) :
    AgentRunResolvedCompositionStatus where
  resolvedAt := field read.resolvedAt new.resolvedAt stored.resolvedAt
  references := field read.references new.references stored.references
  effectiveDigest := field read.effectiveDigest new.effectiveDigest stored.effectiveDigest
  payloadDigest := field read.payloadDigest new.payloadDigest stored.payloadDigest

def mergeLaunch (read new stored : LaunchStatus) : LaunchStatus where
  plannedJobRef :=
    object mergeReference {} read.plannedJobRef new.plannedJobRef stored.plannedJobRef
  jobCreateAttemptedAt :=
    field read.jobCreateAttemptedAt new.jobCreateAttemptedAt stored.jobCreateAttemptedAt
  jobRef := object mergeReference {} read.jobRef new.jobRef stored.jobRef
  jobUID := field read.jobUID new.jobUID stored.jobUID
  jobSpecDigest := field read.jobSpecDigest new.jobSpecDigest stored.jobSpecDigest
  payloadRef := object mergeReference {} read.payloadRef new.payloadRef stored.payloadRef
  payloadUID := field read.payloadUID new.payloadUID stored.payloadUID
  promptHash := field read.promptHash new.promptHash stored.promptHash
  resolvedComposition :=
    object mergeComposition {} read.resolvedComposition new.resolvedComposition
      stored.resolvedComposition

/-- The status that results when a status patch is applied to the stored status. -/
def mergeStatus (read new stored : AgentRunStatus) : AgentRunStatus where
  observedGeneration :=
    field read.observedGeneration new.observedGeneration stored.observedGeneration
  conditions := field read.conditions new.conditions stored.conditions
  phase := field read.phase new.phase stored.phase
  backend := field read.backend new.backend stored.backend
  intent := field read.intent new.intent stored.intent
  image := field read.image new.image stored.image
  executionRuntime := field read.executionRuntime new.executionRuntime stored.executionRuntime
  launch := mergeLaunch read.launch new.launch stored.launch
  runnerPodRef := object mergeReference {} read.runnerPodRef new.runnerPodRef stored.runnerPodRef
  runnerPodUID := field read.runnerPodUID new.runnerPodUID stored.runnerPodUID
  dataVolumes := field read.dataVolumes new.dataVolumes stored.dataVolumes
  externalSecretRefreshes := field read.externalSecretRefreshes new.externalSecretRefreshes
    stored.externalSecretRefreshes
  archive := object mergeArchive {} read.archive new.archive stored.archive
  startedAt := field read.startedAt new.startedAt stored.startedAt
  completedAt := field read.completedAt new.completedAt stored.completedAt
  decision := object mergeDecision {} read.decision new.decision stored.decision
  reports := field read.reports new.reports stored.reports
  output := field read.output new.output stored.output
  pullRequestURL := field read.pullRequestURL new.pullRequestURL stored.pullRequestURL
  error := field read.error new.error stored.error

/-- Merge of the annotations; labels are never patched. -/
def mergeNotes (read new stored : AgentRunMeta) : AgentRunMeta where
  interruptDuplicate :=
    field read.interruptDuplicate new.interruptDuplicate stored.interruptDuplicate
  peerRun := field read.peerRun new.peerRun stored.peerRun
  standingClaim := field read.standingClaim new.standingClaim stored.standingClaim
  chatThread := stored.chatThread
  chatTurn := stored.chatTurn
  schedule := stored.schedule

@[simp]
theorem mergeReference_fresh (read new : NamespacedObjectReference) :
    mergeReference read new read = new := by
  simp [mergeReference]

@[simp]
theorem mergeDecision_fresh (read new : AgentRunDecisionStatus) :
    mergeDecision read new read = new := by
  simp [mergeDecision]

@[simp]
theorem mergeComposition_fresh (read new : AgentRunResolvedCompositionStatus) :
    mergeComposition read new read = new := by
  simp [mergeComposition]

/-- A launch patch applied to the launch fields it was computed from writes the new ones. -/
@[simp]
theorem mergeLaunch_fresh (read new : LaunchStatus) : mergeLaunch read new read = new := by
  simp [mergeLaunch, object_fresh]

@[simp]
theorem mergeArchive_fresh (read new : AgentRunArchiveStatus) : mergeArchive read new read = new := by
  simp [mergeArchive]

/-- A patch against the stored version stores exactly what its writer computed. -/
@[simp]
theorem mergeStatus_fresh (read new : AgentRunStatus) : mergeStatus read new read = new := by
  simp [mergeStatus, object_fresh]

/-- A writer that leaves the launch fields alone leaves the stored ones alone. -/
@[simp]
theorem mergeLaunch_unchanged (read stored : LaunchStatus) :
    mergeLaunch read read stored = stored := by
  simp [mergeLaunch]

end Merge

end AnvilAgents
