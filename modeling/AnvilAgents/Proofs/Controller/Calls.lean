import AnvilAgents.Lib.Contract
import AnvilAgents.Controller.Reconcile

/-! Which calls the parts of a reconcile pass make, whatever the server answers. -/

namespace AnvilAgents

open Conc

/-- The calls, without their arguments. -/
inductive CallName where
  | now | getRun | listRuns | getJob | listJobs | getConfigMap | getSituation | getSchedule | getProfile
  | resolveComposition | readSchedule | readProfile | listControls | queuedBehind | resolveDataVolumes | externalSecrets
  | skillFiles | runnerPod | bindActor | generate | patchStatus | patchNotes | updateNotes
  | updateStatus | createPeer | deleteRun | createJob | deleteJob | setJobTTL | createConfigMap
  | makeImmutable | archiveRun | standingSpec | ensureTurnSession | streamTurn
deriving DecidableEq

def Call.name : Call → CallName
  | .now => .now
  | .getRun _ => .getRun
  | .listRuns _ => .listRuns
  | .getJob _ => .getJob
  | .listJobs _ => .listJobs
  | .getConfigMap _ => .getConfigMap
  | .getSituation _ => .getSituation
  | .getSchedule _ => .getSchedule
  | .getProfile _ => .getProfile
  | .resolveComposition _ => .resolveComposition
  | .readSchedule _ _ => .readSchedule
  | .readProfile _ _ => .readProfile
  | .listControls _ => .listControls
  | .queuedBehind _ _ => .queuedBehind
  | .resolveDataVolumes _ => .resolveDataVolumes
  | .externalSecrets _ => .externalSecrets
  | .skillFiles _ => .skillFiles
  | .runnerPod _ => .runnerPod
  | .bindActor _ => .bindActor
  | .generate _ => .generate
  | .patchStatus _ _ _ => .patchStatus
  | .patchNotes _ _ => .patchNotes
  | .updateNotes _ => .updateNotes
  | .updateStatus _ => .updateStatus
  | .createPeer _ _ _ => .createPeer
  | .deleteRun _ => .deleteRun
  | .createJob _ => .createJob
  | .deleteJob _ => .deleteJob
  | .setJobTTL _ _ => .setJobTTL
  | .createConfigMap _ => .createConfigMap
  | .makeImmutable _ => .makeImmutable
  | .archiveRun _ => .archiveRun
  | .standingSpec _ => .standingSpec
  | .ensureTurnSession _ => .ensureTurnSession
  | .streamTurn _ _ => .streamTurn

/-- The program keeps to calls of these names. -/
abbrev Only {α : Type} (names : List CallName) (p : Pass α) : Prop :=
  p.Confined fun call => call.name ∈ names

variable {α : Type} {names names' : List CallName} {r : AgentRunReconciler}

theorem Only.mono {p : Pass α} (only : Only names p) (more : names ⊆ names') : Only names' p :=
  Prog.Confined.mono (fun call listed => by simpa using more (by simpa using listed)) only

theorem only_ask {call : Call} (listed : names.contains call.name = true) :
    Only names (ask call) :=
  Prog.confined_ask (by simpa using listed)

theorem only_then {call : Call} {rest : Reply call → Pass α}
    (listed : names.contains call.name = true) (later : ∀ reply, Only names (rest reply)) :
    Only names (ask call >>= rest) :=
  .bind (only_ask listed) later

theorem only_written {reply : WriteReply α} {action : String} : Only names (written reply action) := by
  cases reply <;> trivial

theorem only_require {fault : Option String} : Only names (require fault) := by
  cases fault <;> trivial

/-! ## Ending a run -/

/-- What is called to end a run: its status is patched, and it is archived and deleted. -/
def closingCalls : List CallName :=
  [.now, .getRun, .getJob, .setJobTTL, .archiveRun, .deleteRun, .patchStatus]

theorem patchAgentRunStatus_only {lock : Bool} {original obj : AgentRun} :
    Only [.patchStatus] (patchAgentRunStatus lock original obj) := by
  refine only_then rfl fun reply => ?_
  cases reply <;> trivial

variable {run : AgentRun}

theorem ensureTerminalAgentRunJobTTL_only :
    Only [.getJob, .setJobTTL] (ensureTerminalAgentRunJobTTL run) := by
  unfold ensureTerminalAgentRunJobTTL
  split
  next => trivial
  rename_i ref _
  refine .ite trivial (.ite trivial ?_)
  refine only_then rfl fun reply => ?_
  cases reply with
  | none => trivial
  | some job =>
    refine .ite trivial ?_
    split
    next => exact only_then rfl fun _ => only_written
    next => trivial

theorem archiveTerminalAgentRun_only :
    Only [.now, .archiveRun, .patchStatus] (archiveTerminalAgentRun r run) := by
  refine only_then rfl fun now => ?_
  split
  next => exact patchAgentRunStatus_only.mono (by decide)
  refine only_then rfl fun reply => ?_
  cases reply <;> exact patchAgentRunStatus_only.mono (by decide)

theorem reconcileTerminalAgentRun_only :
    Only closingCalls (reconcileTerminalAgentRun r run) := by
  refine .bind (ensureTerminalAgentRunJobTTL_only.mono (by decide)) fun _ => ?_
  refine .ite (archiveTerminalAgentRun_only.mono (by decide)) ?_
  refine only_then rfl fun now => ?_
  refine .ite ?_ trivial
  refine only_then rfl fun reply => ?_
  cases reply <;> trivial

variable {obj : AgentRun}

theorem reconcileAgentRunInterruptDuplicateHold_only {requester : String} :
    Only closingCalls (reconcileAgentRunInterruptDuplicateHold r obj requester) := by
  refine only_then rfl fun now => ?_
  refine .bind (patchAgentRunStatus_only.mono (by decide)) fun _ => ?_
  refine only_then rfl fun reply => ?_
  cases reply with
  | none => trivial
  | some run => exact reconcileTerminalAgentRun_only

/-! ## Observing a Job -/

variable {now : Nat} {status : AgentRunStatus}

/-- What is called to write down how a Job stands. -/
def settleCalls : List CallName :=
  .deleteJob :: closingCalls

variable {job : Job}

theorem deleteAgentRunJobAfterLaunchFailure_only :
    Only [.deleteJob] (deleteAgentRunJobAfterLaunchFailure job) := by
  refine .ite trivial (only_then rfl fun reply => ?_)
  cases reply <;> trivial

theorem settleAgentRun_only {original obj effective : AgentRun}
    {pod : Option RunnerPod} :
    Only settleCalls (settleAgentRun r original obj effective status job pod now) := by
  have patch {new : AgentRun} : Only settleCalls (patchAgentRunStatus false original new) :=
    patchAgentRunStatus_only.mono (by decide)
  have hold {requester : String} :
      Only settleCalls (reconcileAgentRunInterruptDuplicateHold r obj requester) :=
    reconcileAgentRunInterruptDuplicateHold_only.mono (by decide)
  unfold settleAgentRun
  refine .ite ?_ ?_
  · exact .bind (deleteAgentRunJobAfterLaunchFailure_only.mono (by decide)) fun _ => patch
  · cases job.state with
    | complete | failed => exact patch
    | active =>
      cases agentRunInterruptDuplicateHold obj with
      | some requester => exact hold
      | none => exact .ite hold patch

theorem agentRunJobSnapshotDigest_only :
    Only names (agentRunJobSnapshotDigest r job) :=
  .ite trivial trivial

theorem validateAgentRunLaunchReceipt_only {launch : LaunchStatus} :
    Only [.getConfigMap] (validateAgentRunLaunchReceipt r run job launch) := by
  refine .ite trivial (.ite trivial ?_)
  refine .bind agentRunJobSnapshotDigest_only fun digest => ?_
  refine .ite trivial (.ite trivial ?_)
  refine only_then rfl fun payload => ?_
  cases payload with
  | none => trivial
  | some payload => exact only_require

/-! ## Preparing a launch -/

theorem resolveAgentRunProfileObject_only :
    Only [.getProfile] (resolveAgentRunProfileObject obj) := by
  unfold resolveAgentRunProfileObject
  split
  next => trivial
  refine .ite trivial (.ite trivial ?_)
  refine only_then rfl fun profile => ?_
  cases profile <;> trivial

theorem resolveAgentRunComposition_only :
    Only [.getProfile, .resolveComposition] (resolveAgentRunComposition r obj) := by
  unfold resolveAgentRunComposition
  split
  next => trivial
  refine .bind (resolveAgentRunProfileObject_only.mono (by decide)) fun profile => ?_
  cases profile with
  | error => trivial
  | ok profile =>
    refine only_then rfl fun result => ?_
    cases result <;> trivial

/-- What is called to find out whether a launch is paused. -/
def pauseCalls : List CallName :=
  [.now, .readSchedule, .readProfile, .listControls]

theorem agentRunLaunchPausedWithReader_only {reader : Reader} :
    Only pauseCalls (agentRunLaunchPausedWithReader reader obj) := by
  unfold agentRunLaunchPausedWithReader suspendedSchedule readActivePause
  refine .bind ?_ fun suspended => ?_
  · split
    next => trivial
    next => exact only_then rfl fun _ => trivial
  cases suspended with
  | some schedule => trivial
  | none =>
    refine .bind (.bind ?_ fun found => ?_) fun name => only_then rfl fun now => ?_
    · unfold readApplicationProfile
      split
      next => trivial
      next => exact only_ask rfl
    · cases specApplicationName obj.spec found <;> trivial
    · exact .bind (.ite trivial (only_then rfl fun _ => trivial)) fun _ => trivial

/-- What is called to make the payload of a run. -/
def payloadCalls : List CallName :=
  [.getSituation, .getSchedule, .skillFiles, .getConfigMap, .createConfigMap, .makeImmutable]

variable {ref : Option NamespacedObjectReference}

theorem getReferenced_only {fault : String} {get : Key → Pass (Option α)}
    (gets : ∀ key, Only names (get key)) :
    Only names (getReferenced obj ref fault get) := by
  unfold getReferenced
  split
  next => trivial
  next key _ => exact .ite trivial (gets key)

theorem agentRunContextJSON_only :
    Only [.getSituation, .getSchedule] (agentRunContextJSON r obj) := by
  refine .bind (getReferenced_only fun key => only_ask rfl) fun situation => ?_
  refine .bind (getReferenced_only fun key => only_ask rfl) fun schedule => ?_
  trivial

theorem agentRunConfigMapData_only {prompt : String} {context : AgentRunContext} :
    Only [.skillFiles] (agentRunConfigMapData r obj prompt context) := by
  refine only_then rfl fun files => ?_
  cases files with
  | none => trivial
  | some files => exact .ite trivial trivial

theorem ensureAgentRunConfigMap_only {prompt promptHash : String} :
    Only payloadCalls (ensureAgentRunConfigMap r obj prompt promptHash) := by
  refine .bind (agentRunContextJSON_only.mono (by decide)) fun context => ?_
  refine .bind (agentRunConfigMapData_only.mono (by decide)) fun data => ?_
  refine only_then rfl fun stored => ?_
  cases stored with
  | none =>
    refine only_then rfl fun reply => ?_
    exact .bind only_written fun _ => trivial
  | some configMap =>
    refine .bind only_require fun _ => .ite ?_ ?_
    · exact .bind only_require fun _ => trivial
    · refine only_then rfl fun reply => ?_
      exact .bind only_written fun _ => .bind only_require fun _ => trivial

theorem reconcileSubstrateActorRun_only {obj effective : AgentRun} :
    Only [.bindActor, .generate, .patchStatus]
      (reconcileSubstrateActorRun r obj effective status now) := by
  have patch {new : AgentRun} :
      Only [.bindActor, .generate, .patchStatus] (patchAgentRunStatus false obj new) :=
    patchAgentRunStatus_only.mono (by decide)
  refine only_then rfl fun bound => .ite trivial ?_
  refine .ite patch (only_then rfl fun outcome => ?_)
  cases outcome with
  | transient | failed => exact patch
  | reply text => exact .ite patch patch

theorem reconcileAgentRunChatStartupDeadline_only :
    Only [.listJobs, .patchStatus] (reconcileAgentRunChatStartupDeadline obj status now) := by
  refine only_then rfl fun jobs => ?_
  exact .ite trivial (patchAgentRunStatus_only.mono (by decide))

theorem existingAgentRunJob_only {expectedUID : UID} {allowPlannedMissing : Bool} :
    Only [.getJob, .listJobs] (existingAgentRunJob obj ref expectedUID allowPlannedMissing) := by
  unfold existingAgentRunJob
  split
  next =>
    refine only_then rfl fun jobs => ?_
    split <;> trivial
  refine .ite trivial (only_then rfl fun found => ?_)
  cases found with
  | none => exact .ite trivial trivial
  | some job => exact .ite trivial (.ite trivial trivial)

end AnvilAgents
