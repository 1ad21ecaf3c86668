import AnvilAgents.Automation.Run
import AnvilAgents.Lib.Interference

/-!
Opening the log of the pod that runs an AgentRun.

Pods and Jobs are found by name, and the log is opened by name. Whose they are is told by UIDs. In
between, anybody may delete an object and create another one under its name.
-/

namespace AnvilAgents.RunAPI

open Text Conc Automation

/-- The first value that is not blank, without the white space around it. -/
def firstNonEmpty : List String → String
  | [] => ""
  | value :: rest => if trimSpace value ≠ "" then trimSpace value else firstNonEmpty rest

structure OwnerReference where
  apiVersion : String
  kind : String
  name : String
  uid : UID
  controller : Bool
deriving DecidableEq

inductive PodPhase where
  | pending
  | running
  | succeeded
  | failed
  | unknown
deriving DecidableEq

structure Pod where
  key : Key
  uid : UID
  labels : Labels := []
  owners : List OwnerReference := []
  phase : PodPhase := .pending
  containers : List String := []
deriving DecidableEq

structure Job where
  key : Key
  uid : UID
  labels : Labels := []
  owners : List OwnerReference := []
deriving DecidableEq

def getControllerOf (owners : List OwnerReference) : Option OwnerReference :=
  owners.find? fun owner => owner.controller

def agentRunLabel : String := "control.anvil.hazyforge.io/agent-run"
def agentRunJobLabel : String := "control.anvil.hazyforge.io/agent-run-job"
def agentContainer : String := "agent"
def batchGroupVersion : String := "batch/v1"

def ownedByAgentRun (job : Job) (run : AgentRun) : Bool :=
  match getControllerOf job.owners with
  | none => false
  | some owner => owner.apiVersion == groupVersion && owner.kind == "AgentRun" &&
      owner.name == run.key.name && owner.uid == run.uid

def ownedByJob (pod : Pod) (job : Job) : Bool :=
  match getControllerOf pod.owners with
  | none => false
  | some owner => owner.apiVersion == batchGroupVersion && owner.kind == "Job" &&
      owner.name == job.key.name && owner.uid == job.uid

/-! ### The API server and those who use it -/

/-- The pods and Jobs that exist, and those that were ever created. -/
structure Cluster where
  pods : List Pod := []
  jobs : List Job := []
  madePods : List Pod := []
  madeJobs : List Job := []
deriving DecidableEq

def Cluster.pod (s : Cluster) (key : Key) : Option Pod := s.pods.find? fun pod => pod.key == key

def Cluster.job (s : Cluster) (key : Key) : Option Job := s.jobs.find? fun job => job.key == key

/-- The UIDs that were ever given to an object. -/
def Cluster.uids (s : Cluster) : List UID := s.madePods.map (·.uid) ++ s.madeJobs.map (·.uid)

/-- An open log, by the pod it is read from. -/
structure LogStream where
  podUID : UID
deriving DecidableEq

inductive Call where
  | getPod (key : Key)
  | getJob (key : Key)
  | openLogs (key : Key) (container : String)

/-- A call that fails is answered by nothing. -/
abbrev Reply : Call → Type
  | .getPod _ => Option Pod
  | .getJob _ => Option Job
  | .openLogs _ _ => Option LogStream

def serve : (c : Call) → Cluster → Reply c × Cluster
  | .getPod key, s => (s.pod key, s)
  | .getJob key, s => (s.job key, s)
  | .openLogs key container, s =>
    (match s.pod key with
      | some pod => if container ∈ pod.containers then some ⟨pod.uid⟩ else none
      | none => none, s)

/-- What others do: create objects under fresh UIDs, delete them, and change all but their identity
and their controller. -/
inductive Others : Cluster → Cluster → Prop
  | createPod {s : Cluster} {pod : Pod} (fresh : pod.uid ∉ s.uids)
      (free : ∀ other ∈ s.pods, other.key ≠ pod.key) :
      Others s { s with pods := s.pods ++ [pod], madePods := s.madePods ++ [pod] }
  | deletePod {s : Cluster} (uid : UID) :
      Others s { s with pods := s.pods.filter fun pod => pod.uid != uid }
  | changePod {s : Cluster} (change : Pod → Pod)
      (keeps : ∀ pod, (change pod).key = pod.key ∧ (change pod).uid = pod.uid ∧
        getControllerOf (change pod).owners = getControllerOf pod.owners) :
      Others s { s with pods := s.pods.map change }
  | createJob {s : Cluster} {job : Job} (fresh : job.uid ∉ s.uids)
      (free : ∀ other ∈ s.jobs, other.key ≠ job.key) :
      Others s { s with jobs := s.jobs ++ [job], madeJobs := s.madeJobs ++ [job] }
  | deleteJob {s : Cluster} (uid : UID) :
      Others s { s with jobs := s.jobs.filter fun job => job.uid != uid }
  | changeJob {s : Cluster} (change : Job → Job)
      (keeps : ∀ job, (change job).key = job.key ∧ (change job).uid = job.uid ∧
        getControllerOf (change job).owners = getControllerOf job.owners) :
      Others s { s with jobs := s.jobs.map change }

/-! ### Opening -/

abbrev Request := Prog Call Reply

def getPod (key : Key) (fault : String) : Request Pod := do
  let found : Option Pod ← Prog.ask (Call.getPod key)
  match found with
  | some pod => pure pod
  | none => .fail fault

def getJob (key : Key) (fault : String) : Request Job := do
  let found : Option Job ← Prog.ask (Call.getJob key)
  match found with
  | some job => pure job
  | none => .fail fault

def openLogs (key : Key) (container fault : String) : Request LogStream := do
  let opened : Option LogStream ← Prog.ask (Call.openLogs key container)
  match opened with
  | some stream => pure stream
  | none => .fail fault

/-- The part of the check that follows once the reference to the Job is there. -/
def validateJob (run : AgentRun) (pod : Pod) (jobRef : NamespacedObjectReference) : Request Unit := do
  let jobNamespace := firstNonEmpty [jobRef.ns, run.key.ns]
  if isBlank jobRef.name then
    .fail "AgentRun has no controller-owned Job reference"
  else if jobNamespace ≠ run.key.ns ∨ pod.labels.value agentRunJobLabel ≠ jobRef.name then
    .fail "runner pod does not match the AgentRun Job"
  else do
    let job ← getJob ⟨jobNamespace, jobRef.name⟩ "get AgentRun Job"
    if job.labels.value agentRunLabel ≠ sanitizeLabelValue run.key.name ∨
        ownedByAgentRun job run = false then
      .fail s!"Job is not owned by AgentRun {run.key.text}"
    else if run.status.launch.jobUID ≠ 0 ∧ job.uid ≠ run.status.launch.jobUID then
      .fail "Job does not match the recorded AgentRun Job UID"
    else if ownedByJob pod job = false then
      .fail "runner pod is not owned by the referenced Job"
    else pure ()

def validateOwnership (run : AgentRun) (pod : Pod) : Request Unit :=
  if pod.labels.value agentRunLabel ≠ sanitizeLabelValue run.key.name then
    .fail s!"runner pod is not labeled for AgentRun {run.key.text}"
  else if run.status.runnerPodUID ≠ 0 ∧ pod.uid ≠ run.status.runnerPodUID then
    .fail "runner pod does not match the recorded UID"
  else
    match run.status.launch.jobRef with
    | none => .fail "AgentRun has no controller-owned Job reference"
    | some jobRef => validateJob run pod jobRef

def errLogsPending : String := "runner pod is not available yet"

def verifiedRunnerPod (run : AgentRun) : Request Pod :=
  match run.status.runnerPodRef with
  | none => .fail errLogsPending
  | some podRef =>
    let podNamespace := firstNonEmpty [podRef.ns, run.key.ns]
    if isBlank podRef.name then .fail errLogsPending
    else if podNamespace ≠ run.key.ns then .fail "runner pod reference crosses namespaces"
    else do
      let pod ← getPod ⟨podNamespace, podRef.name⟩ "get runner pod"
      validateOwnership run pod
      if agentContainer ∉ pod.containers then
        .fail s!"runner pod does not contain required \"{agentContainer}\" container"
      else pure pod

/-- Open the log of the run's pod: check the pod, open the log under its name, and see that the name
still belongs to it. -/
def openRunnerLogs (run : AgentRun) : Request (LogStream × Pod) := do
  let pod ← verifiedRunnerPod run
  if pod.phase = .pending then .fail errLogsPending
  else do
    let stream ← openLogs pod.key agentContainer "open runner logs"
    let confirmed ← getPod pod.key "confirm runner pod after opening logs"
    if confirmed.uid ≠ pod.uid then .fail "runner pod was replaced while opening logs"
    else pure (stream, pod)

end AnvilAgents.RunAPI
