import AnvilAgents.Lib.Contract
import AnvilAgents.Controller.Reconcile

/-!
What a reconcile pass may write, given what it has read.

Every invariant of the controller is derived from this contract and never from the text of the pass.
-/

namespace AnvilAgents

open Conc Text

/-- How far a pass has come: which status writes are still open to it. -/
inductive Stage where
  | start
  | held
  | live
  | closing
deriving DecidableEq

/-- What a pass has learnt from the replies it got. -/
structure Know where
  key : Key
  limit : Nat := 0
  uid : UID := 0
  stage : Stage := .start
  base : Option AgentRun := none
  noted : Option AgentRun := none
  launch : LaunchStatus := {}
  archive : Option AgentRunArchiveStatus := none
  pending : Bool := false
  sawJobs : List Job := []
  sawMissing : List Key := []
  removed : List Key := []
  peer : Option AgentRun := none
  record : Option AgentRunArchiveRecord := none
  profile : Option (Key × AgentRunProfile) := none
  gated : Bool := false

/-- What a pass knows before its first call: its key, and the limit the operator was started with. -/
def Know.start (r : AgentRunReconciler) (key : Key) : Know where
  key := key
  limit := r.applicationMaxConcurrentRuns

/-- The stage a pass enters when it first reads its run. -/
def firstStage (run : AgentRun) : Stage :=
  if run.deleting then .closing
  else if (agentRunInterruptDuplicateHold run).isSome then .held
  else if agentRunPhaseTerminal run.status.phase then .closing
  else .live

variable (K : Know)

def Know.readOwn (run : AgentRun) : Know :=
  match K.stage with
  | .start =>
    { K with
      uid := run.uid
      base := some run
      launch := run.status.launch
      archive := run.status.archive
      stage := firstStage run
      sawJobs := []
      sawMissing := []
      removed := []
      gated := false }
  | _ => { K with base := some run }

/-- A pass is done with the version of its run it has read. -/
def Know.close : Know :=
  { K with stage := .closing, base := none }

@[simp]
theorem Know.close_stage : K.close.stage = .closing := rfl

@[simp]
theorem Know.close_base : K.close.base = none := rfl

/-- The Job is controlled by the run this pass is about. -/
def Know.owns (job : Job) : Prop :=
  K.uid ≠ 0 ∧ job.owner = some ⟨K.key.name, K.uid⟩

instance (K : Know) (job : Job) : Decidable (K.owns job) :=
  inferInstanceAs (Decidable (_ ∧ _))

/-- A status write that records the attempt to create the Job. -/
def recordsAttempt (read new : AgentRun) : Bool :=
  read.status.launch.jobCreateAttemptedAt.isNone && new.status.launch.jobCreateAttemptedAt.isSome

/--
What a reply adds.

What was seen of Jobs before one is created or seen again may be out of date, and so is the version of
the run that was read before the pass patched or deleted it.
-/
def Know.learn : (c : Call) → Reply c → Know
  | .getRun key, reply =>
    match (reply : Option AgentRun) with
    | none => if key = K.key then K.close else K
    | some run => if key = K.key then K.readOwn run else { K with peer := some run }
  | .getJob key, reply =>
    match (reply : Option Job) with
    | none => { K with sawMissing := key :: K.sawMissing }
    | some job => { K with
        sawJobs := job :: K.sawJobs
        removed := []
        pending := K.pending && !decide (K.owns job) }
  | .listJobs _, reply => { K with sawJobs := (reply : List Job) ++ K.sawJobs, removed := [] }
  | .createJob _, reply =>
    match (reply : WriteReply Job) with
    | .ok job => { K with pending := false, sawJobs := [job], sawMissing := [], removed := [] }
    | _ => K
  | .deleteJob key, reply =>
    match (reply : WriteReply Unit) with
    | .ok _ | .notFound => { K with removed := key :: K.removed }
    | _ => K
  | .patchNotes _ new, reply =>
    match (reply : WriteReply AgentRun) with
    | .ok run => if new.key = K.key then { K with noted := some run } else K
    | _ => K
  | .patchStatus _ read new, reply =>
    if new.key ≠ K.key then K
    else
      match recordsAttempt read new, (reply : WriteReply AgentRun) with
      | true, .ok run => { K with base := some run, launch := new.status.launch, pending := true }
      | _, _ => K.close
  | .archiveRun record, reply =>
    match (reply : Except String Nat) with
    | .ok _ => { K with record := some record }
    | .error _ => K
  | .deleteRun _, _ => { K with base := none }
  | .getProfile key, reply =>
    match (reply : Option AgentRunProfile) with
    | some profile => { K with profile := some (key, profile) }
    | none => K
  | .queuedBehind _ _, reply =>
    match (reply : Except AgentRunScopeConflict (Option (AgentRun × String))) with
    | .ok none => { K with gated := true }
    | _ => K
  | _, _ => K

/-- What the launch fields of a stored run satisfy. -/
structure LaunchSound (launch : LaunchStatus) : Prop where
  complete : launch.jobCreateAttemptedAt.isSome → agentRunLaunchReceiptComplete launch
  paired : launch.jobRef = none ↔ launch.jobUID = 0
  named : ∀ ref, launch.jobRef = some ref → isBlank ref.name = false

/-- The Job key a launch status points to, as a pass resolves it. -/
def recordedJobKey (ns : String) (launch : LaunchStatus) : Option Key :=
  (launch.jobRef.or launch.plannedJobRef).map (·.resolve ns)

/-- The pass looked for the recorded Job and did not find the run's own Job there. -/
def Know.sawRecordedGone : Prop :=
  ∃ key, recordedJobKey K.key.ns K.launch = some key ∧
    (key.ns ≠ K.key.ns ∨ key ∈ K.sawMissing ∨
      ∃ job ∈ K.sawJobs, job.key = key ∧
        (¬ K.owns job ∨ K.launch.jobUID ≠ 0 ∧ job.uid ≠ K.launch.jobUID))

/-- The pass has evidence that no Job of the run is running. -/
def Know.sawExecutionOver : Prop :=
  K.launch.jobCreateAttemptedAt = none ∨
  (∃ job ∈ K.sawJobs, K.owns job ∧ (job.running = false ∨ job.key ∈ K.removed)) ∨
  K.sawRecordedGone

/-- Where the Job identity in the launch fields may come from. -/
def Know.jobIdentity (launch : LaunchStatus) : Prop :=
  (launch.jobRef = K.launch.jobRef ∧ launch.jobUID = K.launch.jobUID) ∨
  (launch.jobRef = none ∧ launch.jobUID = 0) ∨
  ∃ job ∈ K.sawJobs, K.owns job ∧ launch.jobRef = some job.key.ref ∧ launch.jobUID = job.uid

/-- Launch fields a pass may write without recording an attempt. -/
structure LaunchKept (K : Know) (launch : LaunchStatus) : Prop where
  attempt : launch.jobCreateAttemptedAt = K.launch.jobCreateAttemptedAt
  planned : K.launch.jobCreateAttemptedAt.isSome → launch.plannedJobRef = K.launch.plannedJobRef
  identity : K.jobIdentity launch
  sound : LaunchSound launch

/-- The status patch that ends a pass over a run that was neither held nor finished. -/
structure LivePatch (K : Know) (read new : AgentRun) : Prop where
  stage : K.stage = .live
  base : K.base = some read
  settled : K.pending = false
  launch : LaunchKept K new.status.launch
  archive : new.status.archive = K.archive ∨ new.status.archive = none
  ended : agentRunPhaseTerminal new.status.phase = true → K.sawExecutionOver

/-- The locked status patch that records the attempt to create the Job. -/
structure AttemptPatch (K : Know) (lock : Bool) (read new : AgentRun) : Prop where
  stage : K.stage = .live
  base : K.base = some read
  settled : K.pending = false
  locked : lock = true
  first : K.launch.jobCreateAttemptedAt = none
  launch : ∃ when, new.status.launch = { K.launch with jobCreateAttemptedAt := some when }
  complete : agentRunLaunchReceiptComplete K.launch = true
  unlaunched : K.launch.jobRef = none
  archive : new.status.archive = K.archive
  phase : agentRunPhaseTerminal new.status.phase = false

structure HoldPatch (K : Know) (lock : Bool) (read new : AgentRun) : Prop where
  stage : K.stage = .held ∨ K.stage = .live
  version : K.base = some read ∨ K.noted = some read
  settled : K.pending = false
  unlocked : lock = false
  status : ∃ requester now, new = { read with status := holdStatus read requester now }

structure ArchivePatch (K : Know) (lock : Bool) (read new : AgentRun) : Prop where
  stage : K.stage = .closing
  base : K.base = some read
  unlocked : lock = false
  status : ∃ receipt, new = { read with status := { read.status with archive := receipt } }
  archived : agentRunArchived new.status = true →
    ∃ now record, newAgentRunArchiveRecord read now = .ok record ∧ K.record = some record

/-- The status patch that fails another run as a duplicate. -/
structure PeerPatch (K : Know) (lock : Bool) (read new : AgentRun) : Prop where
  version : K.peer = some read
  distinct : read.key ≠ K.key
  unlocked : lock = false
  status : ∃ summary now, new = { read with status := interruptedStatus read summary now }

/-- The profile a pass may take to be that of the run: the one it read under the run's reference. -/
def Know.sawProfile (run : AgentRun) : Option AgentRunProfile → Prop
  | none => run.spec.profileRef = none
  | some profile => ∃ ref, run.spec.profileRef = some ref ∧ isBlank ref.name = false ∧
      (ref.resolve run.key.ns).ns = run.key.ns ∧ K.profile = some (ref.resolve run.key.ns, profile)

structure EffectiveRun (K : Know) (run effective : AgentRun) : Prop where
  key : effective.key = run.key
  uid : effective.uid = run.uid
  created : effective.creationTimestamp = run.creationTimestamp
  spec : ∃ profile harness, K.sawProfile run profile ∧
    effective.spec = agentRunApplyProfile run.spec profile harness

def Know.permits : Call → Prop
  | .patchStatus lock read new =>
    if new.key = K.key then
      LivePatch K read new ∧ recordsAttempt read new = false ∨ AttemptPatch K lock read new ∨
        HoldPatch K lock read new ∨ ArchivePatch K lock read new
    else PeerPatch K lock read new
  | .patchNotes read new =>
    (∃ peer, new = { read with notes := { read.notes with peerRun := peer } }) ∨
      ∃ requester, new = { read with notes := { read.notes with interruptDuplicate := requester } }
  | .createJob job =>
    K.stage = .live ∧ K.owns job ∧ job.key.ns = K.key.ns ∧
      ((K.pending = true ∧ K.gated = true ∧ K.launch.plannedJobRef = some job.key.ref) ∨
        (K.launch.jobCreateAttemptedAt = none ∧ ∃ seen ∈ K.sawJobs, K.owns seen))
  | .deleteJob key =>
    ∃ job ∈ K.sawJobs, job.key = key
  | .deleteRun key =>
    K.stage = .closing ∧ ∃ run, K.base = some run ∧ run.key = key ∧
      agentRunPhaseTerminal run.status.phase = true ∧ agentRunArchived run.status = true
  | .archiveRun record =>
    K.stage = .closing ∧ ∃ run now, K.base = some run ∧
      newAgentRunArchiveRecord run now = .ok record ∧ agentRunArchived run.status = false
  | .queuedBehind limit effective =>
    limit = K.limit ∧ K.stage = .live ∧ ∃ run, K.base = some run ∧ EffectiveRun K run effective
  | .updateNotes _ | .updateStatus _ => False
  | _ => True

/-- What the server promises about a reply. -/
def promised : (c : Call) → Reply c → Prop
  | .getRun key, reply => ∀ run, (reply : Option AgentRun) = some run →
      run.key = key ∧ run.uid ≠ 0 ∧ LaunchSound run.status.launch
  | .listRuns ns, reply => ∀ run ∈ (reply : List AgentRun), run.key.ns = ns
  | .getJob key, reply => ∀ job, (reply : Option Job) = some job →
      job.key = key ∧ job.uid ≠ 0 ∧ job.key.valid = true
  | .listJobs ns, reply => ∀ job ∈ (reply : List Job),
      job.key.ns = ns ∧ job.uid ≠ 0 ∧ job.key.valid = true
  | .createJob draft, reply => ∀ job, (reply : WriteReply Job) = .ok job →
      job.key = draft.key ∧ job.owner = draft.owner ∧ job.uid ≠ 0 ∧ job.key.valid = true
  | .patchStatus _ read new, reply => ∀ run, (reply : WriteReply AgentRun) = .ok run →
      run.key = new.key ∧ (recordsAttempt read new = true →
        run.status.launch.jobCreateAttemptedAt = new.status.launch.jobCreateAttemptedAt)
  | .patchNotes _ new, reply => ∀ run, (reply : WriteReply AgentRun) = .ok run → run.key = new.key
  | _, _ => True

abbrev reconcileContract : Contract Call Reply where
  Know := Know
  permits := Know.permits
  learn := Know.learn
  promised := promised

end AnvilAgents
