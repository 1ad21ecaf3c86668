import AnvilAgents.Automation.Run
import AnvilAgents.Lib.Machine

/-!
The reconciler of AgentChains.

A chain runs instances of a linear workflow. A pass creates at most one AgentRun, the first step of
a new instance or the next step of the active one, and then writes the status. It may be cut off
between the two.
-/

namespace AnvilAgents.Automation.Chain

open Text GoTime

inductive AgentChainPhase where
  | unset
  | pending
  | idle
  | running
  | cancelling
  | waitingHuman
  | suspended
  | blocked

structure AgentChainWhenSpec where
  previousStep : String := ""
  onPhases : List AgentRunPhase := []
  onDecisionActions : List String := []
deriving DecidableEq

structure AgentChainHandoffSpec where
  includeDecision : Bool := false
  includeLatestReports : Bool := false
  includePullRequestURL : Bool := false
  includeOutputExcerptBytes : Int := 0
  includeAncestorSteps : List String := []
deriving DecidableEq

structure AgentChainStepSpec where
  name : String
  when_ : Option AgentChainWhenSpec := none
  runTemplate : RunSpec := {}
  handoff : Option AgentChainHandoffSpec := none
deriving DecidableEq

structure AgentChainBackoffSpec where
  failedSeconds : Int := 0
  needsHumanSeconds : Int := 0

structure AgentChainCompletionSpec where
  onDecisionActions : List String := []
deriving DecidableEq

inductive ConcurrencyPolicy where
  | unset
  | forbid
  | queue
deriving DecidableEq

structure AgentChainSpec where
  /-- The name in `applicationRef`. -/
  applicationRef : Option String := none
  suspend : Bool := false
  startIntervalSeconds : Int := 0
  startInitialDelaySeconds : Int := 0
  concurrencyPolicy : ConcurrencyPolicy := .unset
  maxInstancesPerDay : Int := 0
  backoff : Option AgentChainBackoffSpec := none
  completion : Option AgentChainCompletionSpec := none
  steps : List AgentChainStepSpec

/-- What the workflow digest covers. Two digests are equal when these are. -/
structure Workflow where
  applicationRef : Option String
  completion : Option AgentChainCompletionSpec
  /-- The labels of the chain that its runs inherit. -/
  dynamic : String
  managerRepository : String
  steps : List AgentChainStepSpec
deriving DecidableEq

structure AgentChainStepRunStatus where
  instanceID : String
  step : String
  runRef : Option NamespacedObjectReference
  runUID : UID
  phase : AgentRunPhase
  sourceGeneration : Nat
  workflowDigest : Option Workflow

structure AgentChainStatus where
  observedGeneration : Nat := 0
  conditions : List Condition := []
  phase : AgentChainPhase := .unset
  activeInstanceID : String := ""
  activeStep : String := ""
  activeRunRef : Option NamespacedObjectReference := none
  activeRunUID : UID := 0
  activeSourceGeneration : Nat := 0
  activeWorkflowDigest : Option Workflow := none
  cancelRequestedInstanceID : String := ""
  lastInstanceID : String := ""
  lastStartToken : String := ""
  lastCancelToken : String := ""
  stepRuns : List AgentChainStepRunStatus := []
  nextStartAt : Option Time := none
  instancesToday : Nat := 0
  lastError : String := ""

structure AgentChain where
  ns : String
  name : String
  uid : UID
  generation : Nat := 1
  creationTimestamp : Time
  deleted : Bool := false
  /-- The finalizer that keeps a deleted chain until its runs are finished. -/
  drainFinalizer : Bool := false
  labels : Labels := []
  /-- The annotation that asks for a new instance. -/
  startNow : Option String := none
  /-- The annotation that cancels an instance. -/
  cancelInstance : Option String := none
  spec : AgentChainSpec
  status : AgentChainStatus := {}

/-- What the AgentRun controller writes. -/
structure RunStatus where
  phase : AgentRunPhase := .unset
  completedAt : Option Time := none
  decision : Option AgentRunDecisionStatus := none
  pullRequestURL : String := ""
  reports : List AgentRunStatusReport := []
  output : String := ""

structure Run where
  name : String
  uid : UID
  labels : Labels := []
  digestAnnotation : Option Workflow := none
  spec : RunSpec := {}
  sourceDigest : Option Workflow := none
  creationTimestamp : Time
  status : RunStatus := {}

def Run.terminal (run : Run) : Bool := agentRunPhaseTerminal run.status.phase

/-- What the reconciler reads: one chain, the runs of its namespace and the controls. -/
structure World where
  now : Time
  chain : AgentChain
  runs : List Run := []
  controls : List AgentRunControl := []
  nextUID : UID := 1

/-- Digests of workflows are printed in messages only. -/
structure ChainEnv extends Env where
  digestText : Option Workflow → String
  digests : Digests shortHash

def agentChainReady : String := "Ready"
def agentRunChainLabel : String := "control.anvil.hazyforge.io/agent-chain"
def agentRunChainInstLabel : String := "control.anvil.hazyforge.io/agent-chain-instance"
def agentRunChainStepLabel : String := "control.anvil.hazyforge.io/agent-chain-step"
def agentRunPurposeChained : String := "chained"
def agentChainHandoffMax : Int := 8192

/-! ### The spec -/

def checkDecisionActions (actions : List String) (message : Nat → String) : Except String Unit :=
  match actions.findIdx? isBlank with
  | some index => .error (message index)
  | none => .ok ()

def checkPhases (phases : List AgentRunPhase) (name : String) : Except String Unit :=
  match phases.zipIdx.find? fun (phase, _) => phase ≠ .succeeded ∧ phase ≠ .failed with
  | some (phase, j) => .error
      s!"step \"{name}\" when.onPhases[{j}]=\"{phase.text}\" is not a terminal AgentRun phase"
  | none => .ok ()

/-- The gate of a step that follows another one. -/
def validateWhen (name : String) (previous : AgentChainStepSpec) (when_ : AgentChainWhenSpec) :
    Except String Unit := do
  if isBlank when_.previousStep then
    throw s!"step \"{name}\" requires when.previousStep"
  checkDecisionActions when_.onDecisionActions fun j =>
    s!"step \"{name}\" when.onDecisionActions[{j}] must not be blank"
  checkPhases when_.onPhases name
  if trimSpace when_.previousStep ≠ previous.name then
    throw (s!"step \"{name}\" when.previousStep must be the immediately previous step " ++
      s!"\"{previous.name}\" (got \"{trimSpace when_.previousStep}\"); v1 is linear only")

/-- The checks of one step, given the step before it. -/
def validateStep (index : Nat) (seen : List String) (previous : Option AgentChainStepSpec)
    (step : AgentChainStepSpec) : Except String Unit := do
  let name := trimSpace step.name
  if name = "" then
    throw s!"spec.steps[{index}].name is required"
  if name ∈ seen then
    throw s!"duplicate step name \"{name}\""
  match previous, step.when_ with
  | none, none => pure ()
  | none, some when_ =>
    if !isBlank when_.previousStep then
      throw s!"first step \"{name}\" must not set when.previousStep"
  | some _, none => throw s!"step \"{name}\" requires when.previousStep"
  | some previous, some when_ => validateWhen name previous when_

def validateSteps (index : Nat) (seen : List String) (previous : Option AgentChainStepSpec) :
    List AgentChainStepSpec → Except String Unit
  | [] => .ok ()
  | step :: rest => do
    validateStep index seen previous step
    validateSteps (index + 1) (trimSpace step.name :: seen) (some step) rest

variable (env : ChainEnv) (s : World) (chain : AgentChain) (applicationName : String)
  (status : AgentChainStatus)

def validateAgentChainSpec : Except String Unit := do
  let spec := chain.spec
  if spec.steps = [] then
    throw "spec.steps must contain at least one step"
  if spec.concurrencyPolicy = .queue then
    throw "spec.concurrencyPolicy=Queue is not implemented yet; use Forbid"
  if spec.startIntervalSeconds < 0 ∨ spec.startInitialDelaySeconds < 0 then
    throw "start interval/delay cannot be negative"
  if spec.maxInstancesPerDay < 0 then
    throw "spec.maxInstancesPerDay cannot be negative"
  if (spec.backoff.any fun backoff =>
      decide (backoff.failedSeconds < 0 ∨ backoff.needsHumanSeconds < 0)) then
    throw "spec.backoff values cannot be negative"
  checkDecisionActions ((spec.completion.map (·.onDecisionActions)).getD []) fun i =>
    s!"spec.completion.onDecisionActions[{i}] must not be blank"
  validateSteps 0 [] none spec.steps

def agentChainWorkflowDigest : Workflow where
  applicationRef := chain.spec.applicationRef
  completion := chain.spec.completion
  dynamic := chain.labels.value agentDynamicLabel
  managerRepository := chain.labels.value agentManagerRepositoryLabel
  steps := chain.spec.steps

/-- The application of a chain, which its spec or a step must name, and on which all must agree. -/
def resolveAgentChainApplicationName : Except String String :=
  let names := ((chain.spec.applicationRef :: chain.spec.steps.map (·.runTemplate.application)).map
    fun ref => trimSpace (ref.getD "")).filter (· ≠ "")
  match names with
  | [] => .error "AgentChain requires applicationRef or step runTemplate.scope.applicationRef"
  | canonical :: rest =>
    match rest.find? (· ≠ canonical) with
    | some other => .error
        s!"AgentChain application identity conflicts: \"{canonical}\" vs \"{other}\""
    | none => .ok canonical

def agentChainStepIndex (steps : List AgentChainStepSpec) (stepName : String) : Option Nat :=
  steps.findIdx? fun step => step.name == trimSpace stepName

/-! ### Gates -/

def agentRunDecisionAction (run : Run) : String :=
  trimSpace ((run.status.decision.map (·.action)).getD "")

/-- The prior run is of the expected step, ended in a phase and with a decision that let the next
step start. -/
def agentChainWhenMatches (when_ : Option AgentChainWhenSpec) (expectedPrev : String) (prior : Run) :
    Bool :=
  (expectedPrev == "" ||
      prior.labels.value agentRunChainStepLabel == sanitizeLabelValue expectedPrev) &&
    (let phases := (when_.map (·.onPhases)).getD []
    (if phases = [] then [.succeeded] else phases).contains prior.status.phase) &&
    (let actions := (when_.map (·.onDecisionActions)).getD []
    actions.isEmpty ||
      actions.any fun allowed => equalFold (trimSpace allowed) (agentRunDecisionAction prior))

def agentChainCompletionMatches (completion : Option AgentChainCompletionSpec) (run : Run) : Bool :=
  let actions := (completion.map (·.onDecisionActions)).getD []
  run.status.phase == .succeeded && (actions.isEmpty ||
    actions.any fun allowed => equalFold (trimSpace allowed) (agentRunDecisionAction run))

/-! ### Runs -/

def Run.ref (run : Run) (chain : AgentChain) : NamespacedObjectReference :=
  { name := run.name, ns := chain.ns }

def chainSourceRef : SourceRef where
  apiVersion := groupVersion
  kind := "AgentChain"
  ns := chain.ns
  name := chain.name

/-- The labels by which a child of the chain is known. -/
def agentChainChildLabels (applicationName instanceID step : String) : Labels :=
  [(agentRunChainLabel, sanitizeLabelValue chain.name),
   (agentRunChainInstLabel, sanitizeLabelValue instanceID),
   (agentRunChainStepLabel, sanitizeLabelValue step),
   (agentManagedByLabel, "anvil-agents")] ++
  (if applicationName = "" then [] else [(agentApplicationLabel, sanitizeLabelValue applicationName)])
  ++ [agentDynamicLabel, agentManagerRepositoryLabel].filterMap fun key =>
    if chain.labels.value key = "" then none else some (key, chain.labels.value key)

/-- The runs of the chain by its label. -/
def agentChainRuns : List Run :=
  s.runs.filter fun run =>
    run.labels.value agentRunChainLabel == sanitizeLabelValue s.chain.name

/-- The instances of which the first step was created on the current UTC day. -/
def instancesToday : Nat :=
  let firstStep := (s.chain.spec.steps.head?.map fun step => sanitizeLabelValue step.name).getD ""
  let firsts := (agentChainRuns s).filter fun run =>
    run.labels.value agentRunChainInstLabel != "" && firstStep != "" &&
      run.labels.value agentRunChainStepLabel == firstStep &&
      dayOf run.creationTimestamp == dayOf s.now
  (firsts.map fun run => run.labels.value agentRunChainInstLabel).dedup.length

/-- A child of the chain, by what cannot be changed. -/
def ownedBy (run : Run) : Bool :=
  run.spec.purpose == agentRunPurposeChained && run.spec.sourceRef == chainSourceRef chain &&
    run.spec.sourceUID == chain.uid

def agentChainOwnedNonterminalRuns : List Run :=
  s.runs.filter fun run => !run.terminal && ownedBy s.chain run

/-- Whether the status can be rebuilt from a run. -/
def validateAgentChainRecoverableRun (run : Run) : Except String Unit :=
  let applicationName := trimSpace (run.spec.application.getD "")
  if run.spec.sourceGeneration = 0 ∨ run.sourceDigest = none ∨
      run.digestAnnotation ≠ run.sourceDigest ∨
      run.labels.value agentRunChainLabel ≠ sanitizeLabelValue chain.name ∨
      isBlank (run.labels.value agentRunChainInstLabel) ∨
      isBlank (run.labels.value agentRunChainStepLabel) ∨
      run.labels.value agentManagedByLabel ≠ "anvil-agents" ∨ applicationName = "" ∨
      run.labels.value agentApplicationLabel ≠ sanitizeLabelValue applicationName then
    .error ("immutable source provenance or controller-owned identity metadata is incomplete or " ++
      "inconsistent")
  else .ok ()

/-- Why a run that a status names cannot be used. -/
structure RunError where
  message : String
  /-- The run is there, but is not the one that the status has frozen. -/
  provenance : Bool := false

def findRun (name : String) : Except RunError Run :=
  match s.runs.find? fun run => run.name == name with
  | some run => .ok run
  | none => .error { message := s!"agentruns.control.anvil.hazyforge.io \"{name}\" not found" }

/-- The run that a status names for a step of the active instance. -/
def agentChainRunByRef (step : String) (ref : NamespacedObjectReference) (expectedUID : UID) :
    Except RunError Run := do
  let chain := s.chain
  if isBlank ref.name then
    throw { message := "run reference is incomplete" }
  let ns := firstNonEmpty [trimSpace ref.ns, chain.ns]
  if ns ≠ chain.ns then
    throw { message :=
      s!"run reference namespace \"{ns}\" differs from chain namespace \"{chain.ns}\"" }
  let run ← findRun s ref.name
  if expectedUID ≠ 0 ∧ run.uid ≠ expectedUID then
    throw {
      message := s!"AgentRun provenance mismatch: AgentRun {chain.ns}/{run.name} UID " ++
        s!"\"{run.uid}\" differs from frozen UID \"{expectedUID}\""
      provenance := true }
  let applicationName ← (resolveAgentChainApplicationName chain).mapError fun message => { message }
  if run.spec.sourceRef ≠ chainSourceRef chain ∨ run.spec.sourceUID ≠ chain.uid ∨
      run.spec.sourceGeneration ≠ status.activeSourceGeneration ∨
      run.sourceDigest ≠ status.activeWorkflowDigest ∨
      run.digestAnnotation ≠ status.activeWorkflowDigest ∨
      run.labels.value agentRunChainLabel ≠ sanitizeLabelValue chain.name ∨
      run.labels.value agentRunChainInstLabel ≠ sanitizeLabelValue status.activeInstanceID ∨
      run.labels.value agentRunChainStepLabel ≠ sanitizeLabelValue step then
    throw {
      message := s!"AgentRun provenance mismatch: AgentRun {chain.ns}/{run.name} identity does not " ++
        s!"match frozen instance {status.activeInstanceID} step {step}"
      provenance := true }
  match (agentChainChildLabels chain applicationName status.activeInstanceID step).find?
      fun (key, value) => run.labels.value key != value with
  | some (key, _) => throw {
      message := s!"AgentRun provenance mismatch: AgentRun {chain.ns}/{run.name} controller label " ++
        s!"\"{key}\" does not match frozen instance"
      provenance := true }
  | none => return run

def agentChainActiveRun : Except RunError Run :=
  match status.activeRunRef with
  | none => .error { message := "status.activeRunRef is missing" }
  | some ref => agentChainRunByRef s status status.activeStep ref status.activeRunUID

/-! ### Handing over -/

def truncateRunes (value : String) (max : Nat) : String :=
  if value.length ≤ max then value else limit max value ++ "…"

/-- The first bytes of a text; the bytes of a character that is cut are sent as replacements. -/
def firstBytes : Nat → List Char → List Char
  | _, [] => []
  | max, c :: rest =>
    if c.utf8Size ≤ max then c :: firstBytes (max - c.utf8Size) rest else List.replicate max '\uFFFD'

def truncateBytes (value : String) (max : Nat) : String :=
  if value.utf8ByteSize ≤ max then value else String.ofList (firstBytes max value.toList) ++ "…"

/-- What the status of one prior run tells the next step. -/
def handoffOf (handoff : AgentChainHandoffSpec) (name : String) (run : Option Run) : String :=
  match run with
  | none => s!"\n### Step \"{name}\"\n- missing prior AgentRun\n"
  | some run =>
    let url := trimSpace run.status.pullRequestURL
    let decision := match run.status.decision with
      | none => ""
      | some decision =>
        s!"- decision.classification: {decision.classification}\n" ++
          s!"- decision.action: {decision.action}\n" ++
          if isBlank decision.summary then ""
          else s!"- decision.summary: {truncateRunes (trimSpace decision.summary) 1024}\n"
    let excerptLimit := min handoff.includeOutputExcerptBytes agentChainHandoffMax
    s!"\n### Step \"{name}\" → AgentRun {chain.ns}/{run.name}\n" ++
    s!"- phase: {run.status.phase.text}\n" ++
    (if handoff.includePullRequestURL ∧ url ≠ "" then s!"- pullRequestURL: {url}\n" else "") ++
    (if handoff.includeDecision then decision else "") ++
    (if handoff.includeLatestReports then
      String.join (run.status.reports.map fun report =>
        s!"- report[{report.type}]: {truncateRunes report.summary 512}\n")
    else "") ++
    (if 0 < handoff.includeOutputExcerptBytes ∧ !isBlank run.status.output then
      "- outputExcerpt:\n```\n" ++ truncateBytes run.status.output excerptLimit.toNat ++ "\n```\n"
    else "")

/-- The text about prior steps that goes into the prompt of the next one. -/
def renderAgentChainHandoff (step : AgentChainStepSpec) (priorByStep : List (String × Run)) : String
    :=
  match step.handoff with
  | none => ""
  | some handoff =>
    let previous := (step.when_.map (·.previousStep)).getD ""
    let ancestors := if handoff.includeAncestorSteps = [] ∧ !isBlank previous then [previous]
      else handoff.includeAncestorSteps
    trimSpace ("## AgentChain handoff (controller-injected, status only)\n" ++
      "This context is derived from prior AgentRun status. It is not release authority and does " ++
      "not grant credentials.\n" ++
      String.join (ancestors.map fun name =>
        handoffOf chain handoff name
          ((priorByStep.lookup name).or (priorByStep.lookup (sanitizeLabelValue name)))))

/-! ### Creating a run -/

/-- What a run is created for. -/
structure StepRequest where
  applicationName : String
  instanceID : String
  sourceGeneration : Nat
  workflowDigest : Workflow
  step : AgentChainStepSpec
  /-- The runs of earlier steps, when the step is not the first. -/
  priorByStep : Option (List (String × Run)) := none
  detectedAt : Option Time := none
  reason : String
  message : String

/-- The name of a run says which step of which instance it is. -/
def chainRunName (instanceID step : String) : String :=
  agentRunChildName env.shortHash ["agentrun", chain.name, instanceID, step,
    env.shortHash ("|".intercalate [toString chain.uid, instanceID, step])]

def chainRunPrompt (request : StepRequest) : String :=
  let prompt := request.step.runTemplate.prompt
  match request.priorByStep with
  | none => prompt
  | some prior =>
    let handoff := renderAgentChainHandoff chain request.step prior
    if handoff = "" then prompt
    else if isBlank prompt then handoff
    else trimSpace prompt ++ "\n\n" ++ handoff

/-- The run that a request asks for. -/
def chainRun (request : StepRequest) (application : Option String) : Run where
  name := chainRunName env s.chain request.instanceID request.step.name
  uid := s.nextUID
  labels := agentChainChildLabels s.chain request.applicationName request.instanceID
    request.step.name
  digestAnnotation := some request.workflowDigest
  spec := { request.step.runTemplate with
    application
    purpose := agentRunPurposeChained
    sourceRef := chainSourceRef s.chain
    sourceUID := s.chain.uid
    sourceGeneration := request.sourceGeneration
    trigger := { reason := request.reason, message := request.message,
                 detectedAt := request.detectedAt.map stored }
    scheduleRef := none
    prompt := chainRunPrompt s.chain request }
  sourceDigest := some request.workflowDigest
  creationTimestamp := stored s.now

/-- The application of a step run, on which the chain and the template must agree. -/
def chainRunApplication (request : StepRequest) : Except String (Option String) :=
  match request.step.runTemplate.application with
  | none => .ok (if request.applicationName = "" then none else some request.applicationName)
  | some own =>
    if request.applicationName ≠ "" ∧ trimSpace own ≠ request.applicationName then
      .error (s!"chain applicationRef \"{request.applicationName}\" conflicts with step " ++
        s!"\"{request.step.name}\" applicationRef \"{trimSpace own}\"")
    else .ok (some own)

/-- An existing run is taken for the expected one only if it is the same step of the same
instance. -/
def acceptExisting (run expected : Run) : Except String Unit := do
  if run.spec.sourceUID ≠ chain.uid ∨
      run.labels.value agentRunChainLabel ≠ sanitizeLabelValue chain.name then
    throw (s!"AgentRun {chain.ns}/{run.name} collides with the expected child for AgentChain " ++
      s!"{chain.ns}/{chain.name}")
  if run.labels.value agentRunChainInstLabel ≠ expected.labels.value agentRunChainInstLabel ∨
      run.labels.value agentRunChainStepLabel ≠ expected.labels.value agentRunChainStepLabel then
    throw s!"AgentRun {chain.ns}/{run.name} has mismatched chain instance/step labels"
  if run.digestAnnotation ≠ expected.digestAnnotation ∨
      run.sourceDigest ≠ expected.sourceDigest ∨ run.spec ≠ expected.spec ∨
      !expected.labels.within run.labels then
    throw (s!"AgentRun {chain.ns}/{run.name} already exists with a different immutable chain step " ++
      "spec or provenance")

/-- Create the run of a step, or take the run of its name that is already there. -/
def createChainedAgentRun (request : StepRequest) : Except String (Bool × Run) := do
  let application ← chainRunApplication request
  let expected := chainRun env s request application
  match s.runs.find? fun run => run.name == expected.name with
  | none => return (true, expected)
  | some run =>
    acceptExisting s.chain run expected
    return (false, run)

/-! ### Times -/

def agentChainInstanceID (manual : Bool) (startToken : String) (dueAt : Time) : String :=
  if manual then
    let token := trimSpace startToken
    let token := if token = "" then env.rfc3339Nano dueAt else token
    "m-" ++ limit 12 (env.shortHash ("|".intercalate [toString chain.uid, "manual", token]))
  else
    "i-" ++ limit 12
      (env.shortHash ("|".intercalate [toString chain.uid, "interval", env.rfc3339 dueAt]))

/-- The duration between automatic starts. -/
def interval : Int := seconds chain.spec.startIntervalSeconds

/-- When the first automatic instance may start. -/
def firstStart : Int :=
  if 0 < chain.spec.startInitialDelaySeconds then
    chain.creationTimestamp + seconds chain.spec.startInitialDelaySeconds
  else chain.creationTimestamp

/-- The last point of the cadence that is not in the future, or the first one. -/
def latestCadence (now : Int) : Int :=
  firstStart chain + int64 ((sub now (firstStart chain)).tdiv (interval chain) * interval chain)

def agentChainNextStartTime (now : Int) : Option Int :=
  if chain.spec.startIntervalSeconds ≤ 0 then none
  else
    match status.nextStartAt with
    | some next => some next
    | none =>
      if firstStart chain < now then some (latestCadence chain now) else some (firstStart chain)

/-- The next start divides by an interval that has wrapped to zero, at which the pass panics. -/
def startPanics (now : Int) : Bool :=
  0 < chain.spec.startIntervalSeconds && status.nextStartAt.isNone && firstStart chain < now &&
    interval chain == 0

/-- A time that stands for the start, the same for every retry of it. -/
def agentChainStartDueAt (manual : Bool) (nextStart : Option Time) (now : Time) : Time :=
  if manual then stored now
  else
    match nextStart with
    | some next => stored next
    | none =>
      if 0 < chain.spec.startIntervalSeconds then
        (if now < firstStart chain then firstStart chain else latestCadence chain now).toNat
      else stored now

def agentChainNextCadenceAfter (base interval now : Int) : Int :=
  let next := base + interval
  if interval ≤ 0 ∨ now < next then next
  else next + int64 (int64 ((sub now next).tdiv interval + 1) * interval)

/-- When a run finished, or when it was created if that is not recorded. -/
def Run.terminalAt (run : Run) : Time :=
  match run.status.completedAt with
  | some completed => if completed = 0 then run.creationTimestamp else completed
  | none => run.creationTimestamp

/-- How long a run that ended in a phase holds back automatic starts. -/
def backoffDelay (phase : AgentRunPhase) : Int :=
  match chain.spec.backoff, phase with
  | some backoff, .failed => backoff.failedSeconds
  | some backoff, .needsHuman => backoff.needsHumanSeconds
  | _, _ => 0

/-- Hold back the next automatic start after a run that ended badly. -/
def agentChainApplyTerminalBackoffDeadline (terminal : Run) (now : Time) : AgentChainStatus :=
  let delay := backoffDelay chain terminal.status.phase
  let resume := terminal.terminalAt + seconds delay
  let later (next : Time) : Bool := resume < next
  if delay ≤ 0 ∨ resume < now ∨ status.nextStartAt.any later then status
  else { status with nextStartAt := some resume.toNat }

/-- Until when automatic starts are held back by the last step that ran. -/
def agentChainTerminalBackoffUntil : Option Time :=
  match s.chain.spec.backoff, status.stepRuns.getLast? with
  | some _, some last =>
    match status.nextStartAt with
    | some next =>
      if s.now < next ∧ (last.phase = .failed ∨ last.phase = .needsHuman) then some next
      else computed last
    | none => computed last
  | _, _ => none
where
  computed (last : AgentChainStepRunStatus) : Option Time :=
    let delay := backoffDelay s.chain last.phase
    let terminal := (agentChainRuns s).find? fun run =>
      last.runRef == some (run.ref s.chain)
    let resume := (match terminal with
      | some run => run.terminalAt
      | none => s.now) + seconds delay
    if delay ≤ 0 ∨ resume ≤ s.now then none else some resume.toNat

/-! ### The status -/

/-- What a pass has done, beside writing a report. -/
inductive Did where
  | nothing
  | recovered (instanceID : String)
  | cancelled (instanceID : String)
  | stopped (instanceID : String)
  | started (instanceID : String) (manual : Bool) (dueAt : Time)
  | advanced (instanceID : String) (step : String)

/-- What a pass does: the run it creates, and the status it then writes. A pass that fails writes
no status. -/
structure Pass where
  create : Option Run := none
  status : Option AgentChainStatus := none
  finalizer : Option Bool := none
  did : Did := .nothing

def AgentChainStatus.report (s : World) (ready : Bool) (reason message : String) : AgentChainStatus
    :=
  { status with
    conditions := setStatusCondition status.conditions
      { type := agentChainReady, status := ready, observedGeneration := s.chain.generation,
        lastTransitionTime := s.now / second, reason, message } }

def AgentChainStatus.block (s : World) (reason message : String) : AgentChainStatus :=
  { status with phase := .blocked, lastError := message }.report s false reason message

def agentChainClearActive : AgentChainStatus :=
  { status with
    activeInstanceID := ""
    activeStep := ""
    activeRunRef := none
    activeRunUID := 0
    activeSourceGeneration := 0
    activeWorkflowDigest := none
    cancelRequestedInstanceID := "" }

def agentChainUpsertStepRun (existing : List AgentChainStepRunStatus)
    (next : AgentChainStepRunStatus) : List AgentChainStepRunStatus :=
  let same (item : AgentChainStepRunStatus) : Bool :=
    item.instanceID == next.instanceID && item.step == next.step
  let kept := (existing.filter fun item => item.instanceID == next.instanceID).map fun item =>
    if same item then next else item
  if existing.any same then kept else kept ++ [next]

/-- The checks that come before anything else; the result is the application. -/
def checkChain : Except AgentChainStatus String :=
  match validateAgentChainSpec s.chain with
  | .error message => .error ({ status with nextStartAt := none }.block s "InvalidSpec" message)
  | .ok () =>
    if s.chain.spec.suspend then
      .error ({ status with phase := .suspended, lastError := "" }.report s false "Suspended"
        "AgentChain is suspended.")
    else
      match resolveAgentChainApplicationName s.chain with
      | .error message => .error ({ status with nextStartAt := none }.block s
          "InvalidApplicationIdentity" message)
      | .ok applicationName =>
        match activeAgentRunPauseForApplication s.controls applicationName s.now with
        | some pause =>
          let message :=
            s!"Application \"{applicationName}\" is paused by AgentRunControl " ++
              s!"\"{pause.controlName}\"."
          .error ({ status with phase := .suspended, lastError := "" }.report s false
            "ApplicationPaused"
            (if pause.reason = "" then message else s!"{message} Reason: {pause.reason}"))
        | none => .ok applicationName

def startToken : String := trimSpace (chain.startNow.getD "")

def cancelToken : String := trimSpace (chain.cancelInstance.getD "")

/-- Rebuild the status from the one run that is not finished. -/
def recover (active : Run) : Pass :=
  match validateAgentChainRecoverableRun s.chain active with
  | .error message =>
    { status := some (status.block s "UnrecoveredActiveRun"
        (s!"provenance-valid nonterminal AgentRun {s.chain.ns}/{active.name} cannot be safely " ++
          s!"recovered: {message}")) }
  | .ok () =>
    let instanceID := active.labels.value agentRunChainInstLabel
    let step := active.labels.value agentRunChainStepLabel
    let token := startToken s.chain
    let base := match active.spec.trigger.detectedAt with
      | some detected =>
        if hasPrefix instanceID "i-" ∧ detected ≠ 0 then detected else active.creationTimestamp
      | none => active.creationTimestamp
    { status := some ({ status with
        phase := .running
        activeInstanceID := instanceID
        activeStep := step
        activeRunRef := some (active.ref s.chain)
        activeRunUID := active.uid
        activeSourceGeneration := active.spec.sourceGeneration
        activeWorkflowDigest := active.sourceDigest
        lastInstanceID := instanceID
        lastStartToken :=
          if hasPrefix instanceID "m-" ∧ token ≠ "" ∧
              agentChainInstanceID env s.chain true token s.now = instanceID then token
          else status.lastStartToken
        nextStartAt :=
          if 0 < s.chain.spec.startIntervalSeconds then
            some (agentChainNextCadenceAfter base (interval s.chain) s.now).toNat
          else status.nextStartAt
        stepRuns := [{
          instanceID, step
          runRef := some (active.ref s.chain)
          runUID := active.uid
          phase := active.status.phase
          sourceGeneration := active.spec.sourceGeneration
          workflowDigest := active.sourceDigest }]
        lastError := "" }.report s false "ActiveRunRecovered"
          (s!"Recovered Forbid ownership of nonterminal AgentRun {s.chain.ns}/{active.name} for " ++
            s!"instance {instanceID} step {step} after missing status."))
      did := .recovered instanceID }

/-- Stop an instance for which cancellation was asked, once its run is finished. -/
def cancelActive : Pass :=
  match agentChainActiveRun s status with
  | .error error =>
    { status := some (status.block s "MissingCancellationRun"
        (s!"cannot resolve exact AgentRun while cancelling instance {status.activeInstanceID} " ++
          s!"step {status.activeStep}: {error.message}")) }
  | .ok current =>
    if !current.terminal then
      { status := some { status with phase := .cancelling, lastError := "" } }
    else
      let instanceID := status.activeInstanceID
      let cleared := agentChainClearActive { status with lastInstanceID := instanceID }
      { status := some ({ cleared with phase := .idle, lastError := "" }.report s true
          "InstanceCancelled"
          (s!"Stopped chain instance \"{instanceID}\" after its active AgentRun became terminal; " ++
            "no successor was created."))
        did := .cancelled instanceID }

/-- The runs of earlier steps that the status names, for handing over. -/
def priorRuns : Except (AgentChainStepRunStatus × RunError) (List (String × Run)) :=
  status.stepRuns.foldlM (fun prior stepRun =>
    match stepRun.runRef with
    | none => .ok prior
    | some ref =>
      if stepRun.instanceID ≠ status.activeInstanceID then .ok prior
      else
        match agentChainRunByRef s status stepRun.step ref stepRun.runUID with
        | .error error => .error (stepRun, error)
        | .ok run => .ok ((stepRun.step, run) :: prior)) []

def stepRunStatus (step : String) (run : Run) : AgentChainStepRunStatus where
  instanceID := status.activeInstanceID
  step := step
  runRef := some (run.ref s.chain)
  runUID := run.uid
  phase := run.status.phase
  sourceGeneration := status.activeSourceGeneration
  workflowDigest := status.activeWorkflowDigest

def stopInstance (phase : AgentChainPhase) : AgentChainStatus :=
  { agentChainClearActive { status with lastInstanceID := status.activeInstanceID } with
    phase, lastError := "" }

/-- The last step is finished. -/
def finishInstance (finalStep : String) (current : Run) : Pass :=
  let instanceID := status.activeInstanceID
  let stopped := stopInstance status .idle
  let status := if agentChainCompletionMatches s.chain.spec.completion current then
      stopped.report s true "InstanceCompleted"
        s!"Instance {instanceID} completed successfully at final step \"{finalStep}\"."
    else
      (agentChainApplyTerminalBackoffDeadline s.chain stopped current s.now).report s true
        (if current.status.phase = .succeeded then "InstanceCompletionCriteriaUnmet"
        else "InstanceFailed")
        (s!"Instance {instanceID} stopped at final step \"{finalStep}\" with phase " ++
          s!"{current.status.phase.text} and decision action " ++
          s!"\"{agentRunDecisionAction current}\"; completion criteria did not match.")
  { status := some status, did := .stopped instanceID }

def nextStepRequest (digest : Workflow) (current : Run) (stepName : String)
    (nextStep : AgentChainStepSpec) (prior : List (String × Run)) : StepRequest where
  applicationName := applicationName
  instanceID := status.activeInstanceID
  sourceGeneration := status.activeSourceGeneration
  workflowDigest := digest
  step := nextStep
  priorByStep := some ((stepName, current) :: prior)
  detectedAt := some current.terminalAt
  reason := "AgentChainStep"
  message := s!"instance={status.activeInstanceID} step={nextStep.name} " ++
    s!"previousRun={s.chain.ns}/{current.name} previousPhase={current.status.phase.text}"

/-- Create the run of the next step. -/
def advance (digest : Workflow) (current : Run) (stepName : String) (nextStep : AgentChainStepSpec)
    : Pass :=
  let instanceID := status.activeInstanceID
  match priorRuns s status with
  | .error (stepRun, error) =>
    { status := some (status.block s "HandoffProvenanceMismatch"
        (s!"cannot resolve exact handoff AgentRun for instance {instanceID} step " ++
          s!"{stepRun.step}: {error.message}")) }
  | .ok prior =>
    match createChainedAgentRun env s
        (nextStepRequest s applicationName status digest current stepName nextStep prior) with
    | .error _ => {}
    | .ok (created, run) =>
      { create := if created then some run else none
        status := some ({ status with
          phase := .running
          activeStep := nextStep.name
          activeRunRef := some (run.ref s.chain)
          activeRunUID := run.uid
          stepRuns := agentChainUpsertStepRun status.stepRuns
            (stepRunStatus s status nextStep.name run)
          lastError := "" }.report s false "StepAdvanced"
            (s!"Instance {instanceID} advanced to step \"{nextStep.name}\" as AgentRun " ++
              s!"{s.chain.ns}/{run.name}."))
        did := .advanced instanceID nextStep.name }

/-- The active step is finished: stop, or go on to the next step. -/
def afterStep (digest : Workflow) (stepIndex : Nat) (step : AgentChainStepSpec) (current : Run) :
    Pass :=
  let instanceID := status.activeInstanceID
  if current.status.phase = .needsHuman then
    { status := some ((agentChainApplyTerminalBackoffDeadline s.chain
        (stopInstance status .waitingHuman) current s.now).report s false "WaitingHuman"
          (s!"Instance {instanceID} stopped at step " ++
            s!"\"{current.labels.value agentRunChainStepLabel}\" with NeedsHuman on AgentRun " ++
            s!"{s.chain.ns}/{current.name}."))
      did := .stopped instanceID }
  else
    match s.chain.spec.steps[stepIndex + 1]? with
    | none => finishInstance s status step.name current
    | some nextStep =>
      if agentChainWhenMatches nextStep.when_ step.name current then
        advance env s applicationName status digest current step.name nextStep
      else
        { status := some ((agentChainApplyTerminalBackoffDeadline s.chain
            (stopInstance status .idle) current s.now).report s true "InstanceStopped"
              (s!"Instance {instanceID} stopped after step \"{step.name}\" phase " ++
                s!"{current.status.phase.text}; next step \"{nextStep.name}\" when-clause did " ++
                "not match."))
          did := .stopped instanceID }

/-- Follow the active instance: report its step, stop it, or create the run of the next step. -/
def reconcileActiveInstance : Pass :=
  let instanceID := status.activeInstanceID
  match status.activeWorkflowDigest with
  | none =>
    { status := some (status.block s "MissingInstanceSnapshot"
        s!"active instance {instanceID} has no frozen source generation/workflow digest") }
  | some digest =>
    if status.activeSourceGeneration = 0 then
      { status := some (status.block s "MissingInstanceSnapshot"
          s!"active instance {instanceID} has no frozen source generation/workflow digest") }
    else if digest ≠ agentChainWorkflowDigest s.chain then
      { status := some (status.block s "InstanceNeedsRevalidation"
          (s!"active instance {instanceID} is frozen at source generation " ++
            s!"{status.activeSourceGeneration} digest \"{env.digestText (some digest)}\"; current " ++
            s!"AgentChain is generation {s.chain.generation} digest " ++
            s!"\"{env.digestText (some (agentChainWorkflowDigest s.chain))}\"")) }
    else
      match agentChainStepIndex s.chain.spec.steps status.activeStep with
      | none =>
        { status := some (status.block s "InvalidActiveStep"
            s!"active step \"{status.activeStep}\" is not in the chain spec") }
      | some stepIndex =>
        match agentChainActiveRun s status with
        | .error error =>
          { status := some (status.block s
              (if error.provenance then "StepProvenanceMismatch" else "MissingStepRun")
              (s!"cannot resolve exact AgentRun for active instance {instanceID} step " ++
                s!"{status.activeStep}: {error.message}")) }
        | .ok current =>
          let status := { status with
            stepRuns := agentChainUpsertStepRun status.stepRuns
              (stepRunStatus s status status.activeStep current) }
          if !current.terminal then
            { status := some ({ status with phase := .running, lastError := "" }.report s false
                "StepRunning"
                (s!"Instance {instanceID} step \"{status.activeStep}\" is " ++
                  s!"{current.status.phase.text} on AgentRun {s.chain.ns}/{current.name}.")) }
          else
            match s.chain.spec.steps[stepIndex]? with
            | none => {}
            | some step => afterStep env s applicationName status digest stepIndex step current

/-- A new instance is asked for by a token that has not been served. -/
def manualPending : Bool :=
  startToken chain != "" && startToken chain != status.lastStartToken

def startRequest (manual : Bool) (dueAt : Time) (first : AgentChainStepSpec) : StepRequest :=
  let instanceID := agentChainInstanceID env chain manual (startToken chain) dueAt
  { applicationName, instanceID
    sourceGeneration := chain.generation
    workflowDigest := agentChainWorkflowDigest chain
    step := first
    detectedAt := if manual then none else some dueAt
    reason := "AgentChainStart"
    message := s!"instance={instanceID} step={first.name}" }

def startInstance (manual : Bool) (dueAt : Time) (first : AgentChainStepSpec) : Pass :=
  let chain := s.chain
  let instanceID := agentChainInstanceID env chain manual (startToken chain) dueAt
  let workflowDigest := agentChainWorkflowDigest chain
  let collision := (agentChainRuns s).find? fun existing =>
    existing.labels.value agentRunChainInstLabel == sanitizeLabelValue instanceID &&
      (existing.spec.sourceGeneration != chain.generation ||
        existing.sourceDigest != some workflowDigest)
  match collision with
  | some existing =>
    { status := some (status.block s "InstanceSnapshotCollision"
        (s!"existing AgentRun {chain.ns}/{existing.name} for instance {instanceID} belongs to " ++
          s!"source generation {existing.spec.sourceGeneration} digest " ++
          s!"\"{env.digestText existing.sourceDigest}\", not generation {chain.generation} digest " ++
          s!"\"{env.digestText (some workflowDigest)}\"")) }
  | none =>
    match createChainedAgentRun env s
        (startRequest env chain applicationName manual dueAt first) with
    | .error _ => {}
    | .ok (created, run) =>
      let runs := if created then s.runs ++ [run] else s.runs
      { create := if created then some run else none
        status := some ({ status with
          phase := .running
          activeInstanceID := instanceID
          activeSourceGeneration := chain.generation
          activeWorkflowDigest := some workflowDigest
          lastInstanceID := instanceID
          activeStep := first.name
          activeRunRef := some (run.ref chain)
          activeRunUID := run.uid
          stepRuns := [{
            instanceID
            step := first.name
            runRef := some (run.ref chain)
            runUID := run.uid
            phase := run.status.phase
            sourceGeneration := chain.generation
            workflowDigest := some workflowDigest }]
          lastError := ""
          lastStartToken := if manual then startToken chain else status.lastStartToken
          nextStartAt :=
            if 0 < chain.spec.startIntervalSeconds then
              some ((if manual then s.now else dueAt : Time) + interval chain).toNat
            else if manual then status.nextStartAt
            else none
          instancesToday := instancesToday { s with runs } }.report s false "InstanceStarted"
            (s!"Started chain instance {instanceID} with step \"{first.name}\" as AgentRun " ++
              s!"{chain.ns}/{run.name}."))
        did := .started instanceID manual dueAt }

/-- Nothing is active: start an instance when one is asked for or due. -/
def maybeStart : Pass :=
  let chain := s.chain
  let manual := manualPending chain status
  if startPanics chain status s.now then {}
  else
    let nextStart := (agentChainNextStartTime chain status s.now).map Int.toNat
    let status := { status with nextStartAt := nextStart.or status.nextStartAt }
    if !manual ∧ !(nextStart.any fun next => decide (next ≤ s.now)) then
      { status := some ({ status with phase := .idle, lastError := "" }.report s true "Idle"
          (match status.nextStartAt with
          | some next =>
            s!"Next automatic instance start is scheduled for {env.rfc3339 next}."
          | none => "AgentChain is idle.")) }
    else if 0 < chain.spec.maxInstancesPerDay ∧ chain.spec.maxInstancesPerDay ≤ instancesToday s ∧
        !manual then
      { status := some ({ status with phase := .idle, lastError := "" }.report s true
          "DailyBudgetExhausted"
          (s!"maxInstancesPerDay={chain.spec.maxInstancesPerDay} already reached for the current " ++
            "UTC day.")) }
    else
      match (if manual then none else agentChainTerminalBackoffUntil s status) with
      | some resume =>
        { status := some ({ status with
            phase := .idle
            nextStartAt := some resume
            lastError := "" }.report s true "TerminalBackoff"
              s!"Automatic starts are backed off until {env.rfc3339 resume}.") }
      | none =>
        match chain.spec.steps with
        | [] => {}
        | first :: _ => startInstance env s applicationName status manual
            (agentChainStartDueAt chain manual nextStart s.now) first

/-- A cancel token that has been seen. It may be for the active instance. -/
def cancelPending : Bool :=
  cancelToken chain != "" && cancelToken chain != status.lastCancelToken

def noteCancelToken : AgentChainStatus :=
  if cancelPending chain status then { status with lastCancelToken := cancelToken chain } else status

/-- An instance is active: begin to cancel it, stop it, or follow it. -/
def reconcileActive : Pass :=
  if cancelPending s.chain status ∧
      (cancelToken s.chain = status.activeInstanceID ∨ cancelToken s.chain = "*") then
    { status := some ({ status with
        cancelRequestedInstanceID := status.activeInstanceID
        phase := .cancelling
        lastError := ""
        lastCancelToken := cancelToken s.chain }.report s false "CancellationPending"
          (s!"Chain instance \"{status.activeInstanceID}\" will not advance; waiting for its " ++
            "active AgentRun to become terminal without deleting its Job.")) }
  else
    let status := noteCancelToken s.chain status
    if status.cancelRequestedInstanceID = status.activeInstanceID then cancelActive s status
    else reconcileActiveInstance env s applicationName status

def reconcile : Pass :=
  if s.chain.deleted then
    if s.chain.drainFinalizer ∧ agentChainOwnedNonterminalRuns s = [] then
      { finalizer := some false }
    else {}
  else if !s.chain.drainFinalizer then { finalizer := some true }
  else
    let status := { s.chain.status with observedGeneration := s.chain.generation }
    match checkChain s status with
    | .error status => { status := some status }
    | .ok applicationName =>
      let status := { status with instancesToday := instancesToday s }
      if status.activeInstanceID ≠ "" then reconcileActive env s applicationName status
      else
        match agentChainOwnedNonterminalRuns s with
        | [] => maybeStart env s applicationName (noteCancelToken s.chain status)
        | [active] => recover env s status active
        | runs =>
          { status := some (status.block s "UnrecoveredActiveRun"
              (s!"found {runs.length} provenance-valid nonterminal AgentRuns without one frozen " ++
                "active status reference")) }

/-- The status as it is stored. -/
def AgentChainStatus.persist : AgentChainStatus :=
  { status with nextStartAt := status.nextStartAt.map stored }

/-! ### The chain among everything that acts on it -/

/-- The world, the instances whose cancellation a stored status has acknowledged, when and for which
due times automatic instances were created, and the runs created for instances already cancelled. -/
structure Sys where
  world : World
  cancelled : List String := []
  starts : List (Time × Time) := []
  late : List String := []

inductive Event where
  /-- One pass; it may be cut off between creating the run and writing the status. -/
  | reconcile (cutOff : Bool)
  | edit (spec : AgentChainSpec)
  | annotate (startNow cancelInstance : Option String) (labels : Labels)
  | delete
  | setControls (controls : List AgentRunControl)
  /-- The AgentRun controller writes the status of a run. -/
  | progress (name : String) (status : RunStatus)
  | wait (duration : Nat)

/-- A finished run keeps its phase and its decision. -/
def Run.progress (name : String) (status : RunStatus) (run : Run) : Run :=
  if run.name ≠ name then run
  else if run.terminal then
    { run with status := { run.status with
        pullRequestURL := status.pullRequestURL
        reports := status.reports
        output := status.output } }
  else { run with status }

def AgentChain.record (pass : Pass) : AgentChain :=
  { chain with
    drainFinalizer := pass.finalizer.getD chain.drainFinalizer
    status := match pass.status with
      | some status => status.persist
      | none => chain.status }

def World.pass (s : World) (pass : Pass) (cutOff : Bool) : World :=
  { s with
    runs := s.runs ++ pass.create.toList
    nextUID := if pass.create.isSome then s.nextUID + 1 else s.nextUID
    chain := if cutOff then s.chain else s.chain.record pass }

/-- The instance for which a pass created a run. -/
def Pass.createdFor (pass : Pass) : Option String :=
  match pass.create, pass.did with
  | some _, .started instanceID _ _ => some instanceID
  | some _, .advanced instanceID _ => some instanceID
  | _, _ => none

def Sys.reconcile (t : Sys) (cutOff : Bool) : Sys :=
  let pass := Chain.reconcile env t.world
  { world := t.world.pass pass cutOff
    cancelled := match pass.did with
      | .cancelled instanceID => if cutOff then t.cancelled else instanceID :: t.cancelled
      | _ => t.cancelled
    starts := match pass.did, pass.create with
      | .started _ false dueAt, some _ => (t.world.now, dueAt) :: t.starts
      | _, _ => t.starts
    late := match pass.createdFor with
      | some instanceID => if instanceID ∈ t.cancelled then instanceID :: t.late else t.late
      | none => t.late }

def system : Machine Sys Event where
  next t event :=
    let chain := t.world.chain
    match event with
    | .reconcile cutOff => some (t.reconcile env cutOff)
    | .edit spec => some { t with
        world := { t.world with chain := { chain with spec, generation := chain.generation + 1 } } }
    | .annotate startNow cancelInstance labels => some { t with
        world := { t.world with chain := { chain with startNow, cancelInstance, labels } } }
    | .delete => some { t with world := { t.world with chain := { chain with deleted := true } } }
    | .setControls controls => some { t with world := { t.world with controls } }
    | .progress name status => some { t with
        world := { t.world with runs := t.world.runs.map (Run.progress name status) } }
    | .wait duration => some { t with world := { t.world with now := t.world.now + duration } }

end AnvilAgents.Automation.Chain
