import AnvilAgents.Lib.Program
import AnvilAgents.Lib.Table
import AnvilAgents.Controller.Gates

/-! The API server as controllers see it: stored objects, calls, and what each call does. -/

namespace AnvilAgents

open Text

inductive JobState where
  | active
  | complete
  | failed
deriving DecidableEq

structure OwnerReference where
  name : String
  uid : UID
deriving DecidableEq

structure AgentRunLabels where
  run : String
  sourceKind : String
  sourceName : String
  situation : Option String
  schedule : Option String
deriving DecidableEq

/-- What the rendered Job of a run depends on. -/
structure AgentRunJobSnapshot where
  labels : AgentRunLabels
  composition : Option AgentRunResolvedCompositionStatus
  spec : AgentRunSpec
  jobName : String
  configMapName : String
  dataVolumes : List String
deriving DecidableEq

structure Job where
  key : Key
  uid : UID := 0
  owner : Option OwnerReference := none
  deleting : Bool := false
  state : JobState := .active
  failureMessage : String := ""
  image : String := ""
  ttlSecondsAfterFinished : Option Nat := none
  snapshot : AgentRunJobSnapshot
deriving DecidableEq

/-- A Job whose execution has neither ended nor been deleted. -/
def Job.running (job : Job) : Bool :=
  !job.deleting && job.state == .active

structure AgentRunContext where
  key : Key
  generation : Nat
  uid : UID
  spec : AgentRunSpec
  resolvedComposition : Option AgentRunResolvedCompositionStatus
  platformContext : String
  adverseSituation : Option AdverseSituation
  agentSchedule : Option AgentSchedule
deriving DecidableEq

/-- The files of a payload; the context document is kept as the value it encodes. -/
structure AgentRunPayload where
  prompt : String
  context : AgentRunContext
  files : List (String × String)
deriving DecidableEq

structure ConfigMap where
  key : Key
  uid : UID := 0
  owner : Option OwnerReference := none
  labels : AgentRunLabels
  data : AgentRunPayload
  immutable : Bool := true

structure AgentRunArchiveRecord where
  key : Key
  uid : UID
  resourceVersion : Nat
  phase : AgentRunPhase
  decision : Option AgentRunDecisionStatus
  output : String
  completedAt : Option Nat
  archivedAt : Nat
  status : AgentRunStatus

/-- Why a run cannot proceed: the phase, reason and message it reports. -/
structure Blocked where
  phase : AgentRunPhase
  reason : String
  message : String
deriving DecidableEq

/-- Outcome of resolving harness profile, council, skill sets and tool sets over a profile. -/
inductive CompositionResult where
  | error (message : String)
  | blocked (harness : AgentRunHarnessSpec) (why : Blocked)
  | resolved (harness : AgentRunHarnessSpec) (composition : AgentRunResolvedCompositionStatus)

/-- Outcome of resolving data volumes. -/
inductive DataVolumesResult where
  | error (message : String)
  | blocked (why : Blocked)
  | resolved (volumes : List String)

/-- Outcome of the credential preflight; the refresh entries are recorded in every case. -/
structure ExternalSecretsResult where
  refreshes : List String
  waiting : Option Blocked

/-- What a runner has printed, and what the status lines in it say. -/
structure RunnerLogs where
  text : String
  reports : List AgentRunStatusReport := []
  duplicateRunName : String := ""
  peerProfileName : String := ""
  peerPrompt : String := ""

structure RunnerPod where
  ref : NamespacedObjectReference
  uid : UID
  logs : Option RunnerLogs := none
  launchFailure : String := ""
  terminationMessage : String := ""

/-- Outcome of one generation on a bound actor. -/
inductive GenerateOutcome where
  | transient
  | failed
  | reply (text : String)

/-- What the harness of a chat thread asks of its standing session. -/
structure StandingSessionSpec where
  harnessKind : String
  runtime : Option AgentRunExecutionRuntime

/--
Everything a pass reads that is not modelled as a stored object.

The environment may replace it at any moment, so these inputs may change or vanish between two reads.
-/
structure Inputs where
  composition : Key → CompositionResult
  dataVolumes : Key → DataVolumesResult
  externalSecrets : Key → ExternalSecretsResult
  skillFiles : Key → Option (List (String × String))
  runnerPod : UID → Option RunnerPod
  actorBound : Key → Bool
  generate : Key → GenerateOutcome
  archiveFault : Option String
  standingSpec : String → Option StandingSessionSpec
  turnSession : String → Option String
  streamTurn : String → String → Option String

/-- The stored state, the clock, and the log of all Jobs ever created. -/
structure World where
  clock : Nat
  cluster : Cluster
  inputs : Inputs
  runs : Table Key AgentRun
  jobs : Table Key Job
  configMaps : Table Key ConfigMap
  archive : Table (Key × UID) AgentRunArchiveRecord
  nextUID : UID
  nextVersion : Nat
  created : List Job

inductive WriteReply (α : Type) where
  | ok (value : α)
  | notFound
  | conflict
  | alreadyExists
  | invalid

/-- Where a pause check reads: in the cache of the client, or from the API server itself. -/
inductive Reader where
  | client
  | apiReader

/-- The calls a process makes; each is one atomic step. -/
inductive Call where
  | now
  | getRun (key : Key)
  | listRuns (ns : String)
  | getJob (key : Key)
  | listJobs (ns : String)
  | getConfigMap (key : Key)
  | getSituation (key : Key)
  | getSchedule (key : Key)
  | getProfile (key : Key)
  | resolveComposition (key : Key)
  | readSchedule (reader : Reader) (key : Key)
  | readProfile (reader : Reader) (key : Key)
  | listControls (reader : Reader)
  | queuedBehind (configured : Nat) (effective : AgentRun)
  | resolveDataVolumes (key : Key)
  | externalSecrets (key : Key)
  | skillFiles (key : Key)
  | runnerPod (job : UID)
  | bindActor (key : Key)
  | generate (key : Key)
  | patchStatus (lock : Bool) (read new : AgentRun)
  | patchNotes (read new : AgentRun)
  | updateNotes (new : AgentRun)
  | updateStatus (new : AgentRun)
  | createPeer (ns generateName : String) (spec : AgentRunSpec)
  | deleteRun (key : Key)
  | createJob (job : Job)
  | deleteJob (key : Key)
  | setJobTTL (key : Key) (ttl : Nat)
  | createConfigMap (configMap : ConfigMap)
  | makeImmutable (key : Key)
  | archiveRun (record : AgentRunArchiveRecord)
  | standingSpec (turnID : String)
  | ensureTurnSession (turnID : String)
  | streamTurn (turnID prompt : String)

@[reducible]
def Reply : Call → Type
  | .now => Nat
  | .getRun _ => Option AgentRun
  | .listRuns _ => List AgentRun
  | .getJob _ => Option Job
  | .listJobs _ => List Job
  | .getConfigMap _ => Option ConfigMap
  | .getSituation _ => Option AdverseSituation
  | .getSchedule _ => Option AgentSchedule
  | .getProfile _ => Option AgentRunProfile
  | .resolveComposition _ => CompositionResult
  | .readSchedule _ _ => Option AgentSchedule
  | .readProfile _ _ => Option AgentRunProfile
  | .listControls _ => List AgentRunControl
  | .queuedBehind _ _ => Except AgentRunScopeConflict (Option (AgentRun × String))
  | .resolveDataVolumes _ => DataVolumesResult
  | .externalSecrets _ => ExternalSecretsResult
  | .skillFiles _ => Option (List (String × String))
  | .runnerPod _ => Option RunnerPod
  | .bindActor _ => Bool
  | .generate _ => GenerateOutcome
  | .patchStatus _ _ _ => WriteReply AgentRun
  | .patchNotes _ _ => WriteReply AgentRun
  | .updateNotes _ => WriteReply AgentRun
  | .updateStatus _ => WriteReply AgentRun
  | .createPeer _ _ _ => WriteReply AgentRun
  | .deleteRun _ => WriteReply Unit
  | .createJob _ => WriteReply Job
  | .deleteJob _ => WriteReply Unit
  | .setJobTTL _ _ => WriteReply Unit
  | .createConfigMap _ => WriteReply ConfigMap
  | .makeImmutable _ => WriteReply ConfigMap
  | .archiveRun _ => Except String Nat
  | .standingSpec _ => Option StandingSessionSpec
  | .ensureTurnSession _ => Option String
  | .streamTurn _ _ => Option String

/-- A namespace and name the API server accepts, as far as white space goes. -/
def Key.valid (key : Key) : Bool :=
  !isBlank key.name && trimSpace key.name = key.name && !isBlank key.ns && trimSpace key.ns = key.ns

namespace World

variable (w : World)

/-- Store a new version of a run. -/
def putRun (key : Key) (run : AgentRun) : AgentRun × World :=
  let stored := { run with resourceVersion := w.nextVersion }
  (stored, { w with runs := w.runs.put key stored, nextVersion := w.nextVersion + 1 })

/-- The version a status patch insists on: that of a locked read, or one the diff itself carries. -/
def expectedVersion (lock : Bool) (read new : AgentRun) : Option Nat :=
  if lock then some read.resourceVersion
  else if new.resourceVersion ≠ read.resourceVersion then some new.resourceVersion
  else none

/-- Apply a status patch. A patch that changes nothing leaves the version alone. -/
def patchStatus (lock : Bool) (read new : AgentRun) : WriteReply AgentRun × World :=
  match w.runs.get new.key with
  | none => (.notFound, w)
  | some stored =>
    if (expectedVersion lock read new).any (· ≠ stored.resourceVersion) then (.conflict, w)
    else
      let status := mergeStatus read.status new.status stored.status
      if status = stored.status then (.ok stored, w)
      else
        let (run, w') := w.putRun new.key { stored with status := status }
        (.ok run, w')

def patchNotes (read new : AgentRun) : WriteReply AgentRun × World :=
  match w.runs.get new.key with
  | none => (.notFound, w)
  | some stored =>
    let notes := mergeNotes read.notes new.notes stored.notes
    if notes = stored.notes then (.ok stored, w)
    else
      let (run, w') := w.putRun new.key { stored with notes := notes }
      (.ok run, w')

/--
Replace the annotations of a run, or its status, if the version sent is still the stored one.

An update that changes nothing leaves the version alone.
-/
def replaceRun (new : AgentRun) (change : AgentRun → AgentRun) : WriteReply AgentRun × World :=
  match w.runs.get new.key with
  | none => (.notFound, w)
  | some stored =>
    if stored.resourceVersion ≠ new.resourceVersion then (.conflict, w)
    else if change stored = stored then (.ok stored, w)
    else
      let (run, w') := w.putRun new.key (change stored)
      (.ok run, w')

/-- Create a run under a name that must be free. -/
def createRun (key : Key) (notes : AgentRunMeta) (spec : AgentRunSpec) : WriteReply AgentRun × World
    :=
  match w.runs.get key with
  | some _ => (.alreadyExists, w)
  | none =>
    let (run, w') := w.putRun key
      { key := key, uid := w.nextUID, resourceVersion := 0, generation := 1,
        creationTimestamp := w.clock / second, notes := notes, spec := spec }
    (.ok run, { w' with nextUID := w.nextUID + 1 })

/-- Create a Job under a name that must be free and valid. -/
def createJob (job : Job) : WriteReply Job × World :=
  if !job.key.valid then (.invalid, w)
  else
    match w.jobs.get job.key with
    | some _ => (.alreadyExists, w)
    | none =>
      let stored := { job with uid := w.nextUID }
      (.ok stored,
        { w with
          jobs := w.jobs.put job.key stored
          nextUID := w.nextUID + 1
          created := w.created ++ [stored] })

/-- Create a ConfigMap under a name that must be free. -/
def createConfigMap (configMap : ConfigMap) : WriteReply ConfigMap × World :=
  match w.configMaps.get configMap.key with
  | some _ => (.alreadyExists, w)
  | none =>
    let stored := { configMap with uid := w.nextUID }
    (.ok stored,
      { w with
        configMaps := w.configMaps.put configMap.key stored
        nextUID := w.nextUID + 1 })

end World

/-- The server: the reply to a call and the state it leaves. -/
def serve : (c : Call) → World → Reply c × World
  | .now, w => (w.clock, w)
  | .getRun key, w => (w.runs.get key, w)
  | .listRuns ns, w => (w.runs.values.filter (·.key.ns = ns), w)
  | .getJob key, w => (w.jobs.get key, w)
  | .listJobs ns, w => (w.jobs.values.filter (·.key.ns = ns), w)
  | .getConfigMap key, w => (w.configMaps.get key, w)
  | .getSituation key, w => (w.cluster.getSituation key, w)
  | .getSchedule key, w => (w.cluster.getSchedule key, w)
  | .getProfile key, w => (w.cluster.getProfile key, w)
  | .resolveComposition key, w => (w.inputs.composition key, w)
  | .readSchedule _ key, w => (w.cluster.getSchedule key, w)
  | .readProfile _ key, w => (w.cluster.getProfile key, w)
  | .listControls _, w => (w.cluster.controls, w)
  | .queuedBehind configured effective, w =>
    (agentRunQueuedBehind w.cluster configured w.runs.values effective, w)
  | .resolveDataVolumes key, w => (w.inputs.dataVolumes key, w)
  | .externalSecrets key, w => (w.inputs.externalSecrets key, w)
  | .skillFiles key, w => (w.inputs.skillFiles key, w)
  | .runnerPod job, w => (w.inputs.runnerPod job, w)
  | .bindActor key, w => (w.inputs.actorBound key, w)
  | .generate key, w => (w.inputs.generate key, w)
  | .patchStatus lock read new, w => w.patchStatus lock read new
  | .patchNotes read new, w => w.patchNotes read new
  | .updateNotes new, w => w.replaceRun new fun stored => { stored with notes := new.notes }
  | .updateStatus new, w => w.replaceRun new fun stored => { stored with status := new.status }
  | .createPeer ns generateName spec, w =>
    w.createRun ⟨ns, generateName ++ toString w.nextUID⟩ {} spec
  | .deleteRun key, w =>
    match w.runs.get key with
    | none => (.notFound, w)
    | some _ => (.ok (), { w with runs := w.runs.erase key })
  | .createJob job, w => w.createJob job
  | .deleteJob key, w =>
    match w.jobs.get key with
    | none => (.notFound, w)
    | some _ => (.ok (), { w with jobs := w.jobs.erase key })
  | .setJobTTL key ttl, w =>
    match w.jobs.get key with
    | none => (.notFound, w)
    | some job =>
      (.ok (), { w with jobs := w.jobs.put key { job with ttlSecondsAfterFinished := some ttl } })
  | .createConfigMap configMap, w => w.createConfigMap configMap
  | .makeImmutable key, w =>
    match w.configMaps.get key with
    | none => (.notFound, w)
    | some configMap =>
      let stored := { configMap with immutable := true }
      (.ok stored, { w with configMaps := w.configMaps.put key stored })
  | .archiveRun record, w =>
    match w.inputs.archiveFault with
    | some fault => (.error fault, w)
    | none =>
      (.ok record.archivedAt, { w with archive := w.archive.put (record.key, record.uid) record })
  | .standingSpec turnID, w => (w.inputs.standingSpec turnID, w)
  | .ensureTurnSession turnID, w => (w.inputs.turnSession turnID, w)
  | .streamTurn turnID prompt, w => (w.inputs.streamTurn turnID prompt, w)

/-- What may happen outside the processes. -/
inductive Act where
  | tick (elapsed : Nat)
  | setCluster (cluster : Cluster)
  | setInputs (inputs : Inputs)
  | createRun (key : Key) (notes : AgentRunMeta) (spec : AgentRunSpec)
  | changeGeneration (key : Key) (generation : Nat)
  | requestDeletion (key : Key)
  | finishJob (key : Key) (state : JobState) (message : String)
  | terminateJob (key : Key)
  | removeJob (key : Key)
  | removeConfigMap (key : Key)

def World.changeJob (w : World) (key : Key) (change : Job → Job) : Option World :=
  (w.jobs.get key).map fun job => { w with jobs := w.jobs.put key (change job) }

/-- Change the metadata of a stored run in place, which makes a new version of it. -/
def World.changeRun (w : World) (key : Key) (change : AgentRun → AgentRun) : Option World :=
  (w.runs.get key).map fun run => (w.putRun key (change run)).2

/--
The environment.

Users create runs and ask for their deletion, anyone may delete a Job or a ConfigMap, and a Job that
is active ends at some point.
-/
def act : Act → World → Option World
  | .tick elapsed, w => some { w with clock := w.clock + elapsed }
  | .setCluster cluster, w => some { w with cluster := cluster }
  | .setInputs inputs, w => some { w with inputs := inputs }
  | .createRun key notes spec, w =>
    match w.createRun key notes spec with
    | (.ok _, w') => some w'
    | _ => none
  | .changeGeneration key generation, w =>
    w.changeRun key fun run => { run with generation := generation }
  | .requestDeletion key, w => w.changeRun key fun run => { run with deleting := true }
  | .finishJob key state message, w => w.changeJob key fun job =>
    if job.state = .active then { job with state := state, failureMessage := message } else job
  | .terminateJob key, w => w.changeJob key fun job => { job with deleting := true }
  | .removeJob key, w => some { w with jobs := w.jobs.erase key }
  | .removeConfigMap key, w => some { w with configMaps := w.configMaps.erase key }

end AnvilAgents
