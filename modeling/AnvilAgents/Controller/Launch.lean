import AnvilAgents.Controller.Server

/-! The payload and the Job of a run: how they are built, ensured and checked against the receipt. -/

namespace AnvilAgents

open Conc Text

/-- A program that calls the API server. -/
abbrev Pass := Prog Call Reply

/-- One call. -/
def ask (c : Call) : Pass (Reply c) := Prog.ask c

/-- The reconciler: its options, and the pure functions of a run that no decision looks into. -/
structure AgentRunReconciler where
  archiveEnabled : Bool
  terminalRetention : Nat
  applicationMaxConcurrentRuns : Nat
  platformContext : String
  generateOnActor : AgentRunSpec → Bool
  credentialViolation : AgentRunSpec → Option (String × String)
  specViolation : AgentRunSpec → Option Blocked
  agentRunImage : AgentRunSpec → String
  buildAgentRunPrompt : Key → AgentRunSpec → String
  agentRunOutputSummary : String → String
  shortHash : String → String
  digestPayload : AgentRunPayload → String
  digestJob : AgentRunJobSnapshot → String
  digestRecord : AgentRunArchiveRecord → String
  payloadSize : AgentRunPayload → Nat

/-- The largest payload a ConfigMap may hold. -/
def agentRunPayloadConfigMapMaxBytes : Nat := 900 * 1024

/-- Whether an object is controlled by this very run. -/
def agentRunControllerOwnerMatches (owner : Option OwnerReference) (run : AgentRun) : Bool :=
  run.uid ≠ 0 && owner = some ⟨run.key.name, run.uid⟩

variable (r : AgentRunReconciler) (obj : AgentRun)

def agentRunLabels : AgentRunLabels where
  run := sanitizeLabelValue obj.key.name
  sourceKind := sanitizeLabelValue obj.spec.sourceRef.kind
  sourceName := sanitizeLabelValue obj.spec.sourceRef.name
  situation := obj.spec.situationRef.map fun ref => sanitizeLabelValue ref.name
  schedule := obj.spec.scheduleRef.map fun ref => sanitizeLabelValue ref.name

/-- A situation as the payload shows it: without responders and report identities. -/
def AdverseSituation.sanitized (situation : AdverseSituation) : AdverseSituation :=
  { situation with
    responders := ""
    events := situation.events.map fun event => { event with reportIDs := [] } }

/-- A schedule as the payload shows it: without run templates. -/
def AgentSchedule.sanitized (schedule : AgentSchedule) : AgentSchedule :=
  { schedule with runTemplate := "", runTemplates := [] }

/-- Read the object a reference names; it has to be in the namespace of the run. -/
def getReferenced {α : Type} (obj : AgentRun) (ref : Option NamespacedObjectReference)
    (fault : String) (get : Key → Pass (Option α)) : Pass (Option α) :=
  match referencedKey obj.key.ns ref with
  | none => pure none
  | some key => if key.ns ≠ obj.key.ns then .fail fault else get key

/-- The context document: the run, its composition, and the objects it refers to as they are now. -/
def agentRunContextJSON : Pass AgentRunContext := do
  let situation ← getReferenced obj obj.spec.situationRef
    ("AgentRun situationRef must be in namespace " ++ obj.key.ns) fun key => ask (.getSituation key)
  let schedule ← getReferenced obj obj.spec.scheduleRef
    ("AgentRun scheduleRef must be in namespace " ++ obj.key.ns) fun key => ask (.getSchedule key)
  return {
    key := obj.key
    generation := obj.generation
    uid := obj.uid
    spec := obj.spec
    resolvedComposition := obj.status.launch.resolvedComposition
    platformContext := r.platformContext
    adverseSituation := situation.map (·.sanitized)
    agentSchedule := schedule.map (·.sanitized) }

/-- The files of the payload; a payload that is too large is refused. -/
def agentRunConfigMapData (prompt : String) (context : AgentRunContext) : Pass AgentRunPayload := do
  match ← ask (.skillFiles obj.key) with
  | none => .fail "fetch AgentRun skill content"
  | some files =>
    let data : AgentRunPayload := { prompt := prompt, context := context, files := files }
    if agentRunPayloadConfigMapMaxBytes < r.payloadSize data then
      .fail "AgentRun payload exceeds the maximum supported ConfigMap payload"
    else return data

/-- What is wrong with the owner, data or labels of a payload ConfigMap. -/
def validateAgentRunConfigMapIdentityAndData (configMap : ConfigMap) (run : AgentRun)
    (expectedData : AgentRunPayload) : Option String :=
  if !agentRunControllerOwnerMatches configMap.owner run then
    some ("AgentRun payload ConfigMap " ++ configMap.key.text ++ " is not controlled by AgentRun " ++
      run.key.text ++ " with the current UID")
  else if configMap.data ≠ expectedData then
    some ("AgentRun payload ConfigMap " ++ configMap.key.text ++
      " does not match the resolved run payload")
  else if configMap.labels ≠ agentRunLabels run then
    some ("AgentRun payload ConfigMap " ++ configMap.key.text ++ " has an invalid label")
  else none

/-- The same, and the ConfigMap has to be immutable. -/
def validateAgentRunConfigMap (configMap : ConfigMap) (run : AgentRun)
    (expectedData : AgentRunPayload) : Option String :=
  match validateAgentRunConfigMapIdentityAndData configMap run expectedData with
  | some fault => some fault
  | none =>
    if configMap.immutable then none
    else some ("AgentRun payload ConfigMap " ++ configMap.key.text ++
      " is mutable; refusing to execute it")

/-- Stop the pass when a check found something. -/
def require (fault : Option String) : Pass Unit :=
  match fault with
  | some fault => .fail fault
  | none => pure ()

/-- The value a write stored; any other answer ends the pass with an error. -/
def written {α : Type} (reply : WriteReply α) (action : String) : Pass α :=
  match reply with
  | .ok value => pure value
  | .notFound => .fail (action ++ ": not found")
  | .conflict => .fail (action ++ ": conflict")
  | .alreadyExists => .fail (action ++ ": already exists")
  | .invalid => .fail (action ++ ": invalid")

/-- Create the payload ConfigMap, or check that the stored one is the payload of this pass. -/
def ensureAgentRunConfigMap (prompt promptHash : String) : Pass (ConfigMap × String) := do
  let context ← agentRunContextJSON r obj
  let data ← agentRunConfigMapData r obj prompt context
  let key : Key := ⟨obj.key.ns, agentRunChildName r.shortHash [obj.key.name, "context", promptHash]⟩
  match ← ask (.getConfigMap key) with
  | none =>
    let reply ← ask (.createConfigMap
      { key := key, owner := some ⟨obj.key.name, obj.uid⟩, labels := agentRunLabels obj, data := data })
    let configMap ← written reply "create AgentRun payload ConfigMap"
    return (configMap, r.digestPayload configMap.data)
  | some configMap =>
    require (validateAgentRunConfigMapIdentityAndData configMap obj data)
    if configMap.immutable then
      require (validateAgentRunConfigMap configMap obj data)
      return (configMap, r.digestPayload configMap.data)
    else
      let reply ← ask (.makeImmutable key)
      let configMap ← written reply "make AgentRun payload ConfigMap immutable"
      require (validateAgentRunConfigMap configMap obj data)
      return (configMap, r.digestPayload configMap.data)

def agentRunJob (jobName configMapName : String) (dataVolumes : List String) : Job where
  key := ⟨obj.key.ns, jobName⟩
  owner := some ⟨obj.key.name, obj.uid⟩
  image := r.agentRunImage obj.spec
  snapshot := {
    labels := agentRunLabels obj
    composition := obj.status.launch.resolvedComposition
    spec := obj.spec
    jobName := jobName
    configMapName := configMapName
    dataVolumes := dataVolumes }

/-- What is wrong with a Job that should be the desired one. -/
def validateAgentRunJob (job desired : Job) (run : AgentRun) : Option String :=
  if !agentRunControllerOwnerMatches job.owner run then
    some ("AgentRun Job " ++ job.key.text ++ " is not controlled by AgentRun " ++ run.key.text ++
      " with the current UID")
  else if job.snapshot.labels ≠ desired.snapshot.labels then
    some ("AgentRun Job " ++ job.key.text ++ " has invalid labels")
  else if job.snapshot.composition ≠ desired.snapshot.composition then
    some ("AgentRun Job " ++ job.key.text ++ " has invalid annotations")
  else if job.snapshot ≠ desired.snapshot then
    some ("AgentRun Job " ++ job.key.text ++ " does not match the resolved run execution spec")
  else none

/-- Create the Job, or check that the stored one is the desired one. -/
def ensureAgentRunJob (promptHash : String) (dataVolumes : List String) : Pass Job := do
  let jobName := agentRunChildName r.shortHash [obj.key.name, "harness", promptHash]
  let configMapName := agentRunChildName r.shortHash [obj.key.name, "context", promptHash]
  let desired := agentRunJob r obj jobName configMapName dataVolumes
  match ← ask (.getJob desired.key) with
  | none =>
    let reply ← ask (.createJob desired)
    written reply "create AgentRun Job"
  | some job =>
    if job.deleting then
      .fail ("AgentRun Job " ++ job.key.text ++
        " is still terminating; retry after deletion completes")
    else
      require (validateAgentRunJob job desired obj)
      return job

def agentRunJobSnapshotDigest (job : Job) : Pass String :=
  let digest := r.digestJob job.snapshot
  if digest = "" then .fail ("digest AgentRun Job " ++ job.key.text ++ " execution snapshot")
  else pure digest

/-- What keeps a recorded launch plan from being the one this pass resolved. -/
def validateAgentRunLaunchPlan (status : AgentRunStatus) (desiredJob : Job) (payload : ConfigMap)
    (promptHash : String) (composition : AgentRunResolvedCompositionStatus)
    (dataVolumes : List String) : Option String :=
  let launch := status.launch
  if !agentRunLaunchReceiptComplete launch then some "AgentRun launch receipt is incomplete"
  else if launch.plannedJobRef ≠ some ⟨desiredJob.key.name, desiredJob.key.ns⟩ then
    some ("AgentRun launch plan references another Job than resolved Job " ++ desiredJob.key.text)
  else if r.digestJob desiredJob.snapshot = "" then
    some ("digest AgentRun Job " ++ desiredJob.key.text ++ " execution snapshot")
  else if launch.jobSpecDigest ≠ r.digestJob desiredJob.snapshot then
    some "AgentRun resolved execution changed after its launch receipt was recorded"
  else if launch.payloadRef ≠ some ⟨payload.key.name, payload.key.ns⟩ then
    some ("AgentRun launch plan references another payload than resolved payload " ++ payload.key.text)
  else if launch.payloadUID ≠ 0 ∧ launch.payloadUID ≠ payload.uid then
    some ("AgentRun payload ConfigMap " ++ payload.key.text ++ " UID does not match recorded UID")
  else if launch.promptHash ≠ promptHash then
    some "AgentRun prompt changed after its launch receipt was recorded"
  else if status.dataVolumes ≠ dataVolumes then
    some "AgentRun data volumes changed after its launch receipt was recorded"
  else if launch.resolvedComposition ≠ some composition then
    some "AgentRun composition changed after its launch receipt was recorded"
  else none

/-- The payload a receipt refers to. -/
def recordedPayloadKey (run : AgentRun) (launch : LaunchStatus) : Key :=
  let payloadRef := launch.payloadRef.getD {}
  ⟨firstNonEmpty [trimSpace payloadRef.ns, run.key.ns], trimSpace payloadRef.name⟩

/-- What keeps a recorded payload from being the one a recovered Job was launched with. -/
def recordedPayloadFault (run : AgentRun) (job : Job) (launch : LaunchStatus) (payload : ConfigMap)
    : Option String :=
  let subject := "AgentRun payload ConfigMap " ++ payload.key.text
  if !agentRunControllerOwnerMatches payload.owner run then
    some (subject ++ " is not controlled by AgentRun " ++ run.key.text ++ " with the current UID")
  else if launch.payloadUID ≠ 0 ∧ payload.uid ≠ launch.payloadUID then
    some (subject ++ " UID does not match recorded UID")
  else if !payload.immutable then
    some (subject ++ " is mutable; refusing recovered execution")
  else if launch.resolvedComposition.map (·.payloadDigest) ≠ some (r.digestPayload payload.data) then
    some (subject ++ " does not match the recorded payload digest")
  else if r.shortHash payload.data.prompt ≠ launch.promptHash then
    some (subject ++ " prompt does not match the recorded prompt hash")
  else if payload.key.name ≠
        agentRunChildName r.shortHash [run.key.name, "context", launch.promptHash] ∨
      job.key.name ≠ agentRunChildName r.shortHash [run.key.name, "harness", launch.promptHash] then
    some "AgentRun recovered child names do not match the recorded prompt identity"
  else none

/-- Check a Job found again against the recorded receipt and the recorded payload. -/
def validateAgentRunLaunchReceipt (run : AgentRun) (job : Job) (launch : LaunchStatus) : Pass Unit
    := do
  if !agentRunLaunchReceiptComplete launch then
    .fail ("AgentRun " ++ run.key.text ++ " has no complete launch receipt")
  else if launch.plannedJobRef ≠ some ⟨job.key.name, run.key.ns⟩ ∨ job.key.ns ≠ run.key.ns then
    .fail ("recovered AgentRun Job " ++ job.key.text ++
      " does not match the recorded planned Job")
  else
    let digest ← agentRunJobSnapshotDigest r job
    if digest ≠ launch.jobSpecDigest then
      .fail ("recovered AgentRun Job " ++ job.key.text ++
        " does not match the recorded execution snapshot")
    else
      let key := recordedPayloadKey run launch
      if key.ns ≠ run.key.ns then
        .fail ("AgentRun payload reference " ++ key.text ++ " is outside AgentRun namespace " ++
          run.key.ns)
      else
        match ← ask (.getConfigMap key) with
        | none => .fail ("get recorded AgentRun payload ConfigMap " ++ key.text)
        | some payload => require (recordedPayloadFault r run job launch payload)

end AnvilAgents
