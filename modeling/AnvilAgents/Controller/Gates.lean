import AnvilAgents.Api.AgentRun
import AnvilAgents.Controller.Naming
import AnvilAgents.Lib.Select

/-! The gates before a launch: pauses, and the queues of a schedule and of an application. -/

namespace AnvilAgents

open Text

/-- How runs of one schedule may overlap. -/
inductive AgentScheduleConcurrencyPolicy where
  | unset
  | forbid
  | allow
  | queue
deriving DecidableEq

/-- A schedule; `body` and `status` stand for the fields that are only copied. -/
structure AgentSchedule where
  key : Key
  uid : UID
  resourceVersion : Nat
  suspend : Bool := false
  concurrencyPolicy : AgentScheduleConcurrencyPolicy := .unset
  maxConcurrentRuns : Int := 0
  runTemplate : String := ""
  runTemplates : List String := []
  body : String := ""
  status : String := ""
deriving DecidableEq

structure AdverseSituationEvent where
  reportIDs : List String := []
  body : String := ""
deriving DecidableEq

/-- An adverse situation; `body` and `status` stand for the fields that are only copied. -/
structure AdverseSituation where
  key : Key
  uid : UID
  resourceVersion : Nat
  responders : String := ""
  events : List AdverseSituationEvent := []
  body : String := ""
  status : String := ""
deriving DecidableEq

/-- A profile, as far as the gates read it. -/
structure AgentRunProfile where
  key : Key
  applicationRef : Option String := none

/-- Whether runs of an application may launch. -/
inductive AgentRunControlLaunchPolicy where
  | allowed
  | paused
deriving DecidableEq

/-- A cluster-wide control over the launches of one application. -/
structure AgentRunControl where
  name : String
  applicationRef : String
  launchPolicy : AgentRunControlLaunchPolicy := .allowed
  maxConcurrentRuns : Int := 0
  reason : String := ""
  expiresAt : Option Nat := none
deriving DecidableEq

/-- The objects the gates and the payload are read from. -/
structure Cluster where
  schedules : List AgentSchedule := []
  situations : List AdverseSituation := []
  profiles : List AgentRunProfile := []
  controls : List AgentRunControl := []

/-- Follow an optional reference, whose namespace defaults to that of the referring object. -/
def referencedKey (ns : String) (ref : Option NamespacedObjectReference) : Option Key :=
  match ref with
  | none => none
  | some ref =>
    if isBlank ref.name then none
    else some ⟨firstNonEmpty [trimSpace ref.ns, ns], trimSpace ref.name⟩

namespace Cluster

def getSchedule (c : Cluster) (key : Key) : Option AgentSchedule :=
  c.schedules.find? (·.key = key)

def getSituation (c : Cluster) (key : Key) : Option AdverseSituation :=
  c.situations.find? (·.key = key)

def getProfile (c : Cluster) (key : Key) : Option AgentRunProfile :=
  c.profiles.find? (·.key = key)

end Cluster

/-- A run names one application and its profile another. -/
structure AgentRunScopeConflict where
  direct : String
  profile : String
deriving DecidableEq

/-- The profile that may give a spec its application; a foreign one contributes nothing. -/
def applicationProfile (ns : String) (spec : AgentRunSpec) : Option Key :=
  (referencedKey ns spec.profileRef).filter (·.ns = ns)

/-- The application of a spec, given what was found of its profile. -/
def specApplicationName (spec : AgentRunSpec) (found : Option AgentRunProfile) :
    Except AgentRunScopeConflict String :=
  let direct := trimSpace (spec.applicationRef.getD "")
  match found with
  | none => .ok direct
  | some profile =>
    let profileApplication := trimSpace (profile.applicationRef.getD "")
    if direct ≠ "" ∧ profileApplication ≠ "" ∧ direct ≠ profileApplication then
      .error ⟨direct, profileApplication⟩
    else .ok (firstNonEmpty [direct, profileApplication])

/-- The application a spec belongs to. -/
def resolveAgentRunSpecApplicationName (c : Cluster) (ns : String) (spec : AgentRunSpec) :
    Except AgentRunScopeConflict String :=
  specApplicationName spec ((applicationProfile ns spec).bind c.getProfile)

def resolveAgentRunApplicationName (c : Cluster) (obj : AgentRun) :
    Except AgentRunScopeConflict String :=
  resolveAgentRunSpecApplicationName c obj.key.ns obj.spec

/-- Whether a neighbouring run counts against an application; a conflict counts against both. -/
def agentRunMayUseApplication (c : Cluster) (run : AgentRun) (application : String) : Bool :=
  match resolveAgentRunApplicationName c run with
  | .ok name => name = application
  | .error conflict => conflict.direct = application || conflict.profile = application

/-- Queue order: older first, and by name alone among runs of the same second. -/
def agentRunPrecedes (candidate target : AgentRun) : Bool :=
  if candidate.creationTimestamp ≠ 0 ∧ target.creationTimestamp ≠ 0 ∧
      candidate.creationTimestamp ≠ target.creationTimestamp then
    candidate.creationTimestamp < target.creationTimestamp
  else candidate.key.name < target.key.name

/-- One step of a queue's scan: how many runs are ahead so far, and the one to wait behind. -/
def scanAhead (maxConcurrent : Nat) (state : Nat × Option AgentRun) (run : AgentRun) :
    Nat × Option AgentRun :=
  let precedingRuns := state.1 + 1
  if maxConcurrent ≤ precedingRuns then
    match state.2 with
    | none => (precedingRuns, some run)
    | some blockedBy =>
      (precedingRuns, some (if agentRunPrecedes run blockedBy then run else blockedBy))
  else (precedingRuns, state.2)

/--
The run a queue of `maxConcurrent` places makes its target wait behind.

The scan counts the runs ahead in list order and reports the earliest of those counted from the
limit on.
-/
def queuedBehind (maxConcurrent : Nat) (ahead : List AgentRun) : Option AgentRun :=
  (ahead.foldl (scanAhead maxConcurrent) (0, none)).2

/-- A schedule without a policy forbids overlap. -/
def agentScheduleConcurrencyPolicy (schedule : AgentSchedule) : AgentScheduleConcurrencyPolicy :=
  if schedule.concurrencyPolicy = .unset then .forbid else schedule.concurrencyPolicy

/-- How many runs of a schedule may be in flight; zero is no limit. -/
def agentScheduleMaxConcurrentRuns (schedule : AgentSchedule) : Nat :=
  let policy := agentScheduleConcurrencyPolicy schedule
  if policy = .forbid then 1
  else if schedule.maxConcurrentRuns ≤ 0 then
    if policy = .queue then 1 else 0
  else schedule.maxConcurrentRuns.toNat

/-- Whether this very schedule object created the run. -/
def agentRunBelongsToSchedule (run : AgentRun) (schedule : AgentSchedule) : Bool :=
  match run.spec.scheduleRef with
  | none => false
  | some ref =>
    firstNonEmpty [trimSpace ref.ns, run.key.ns] = schedule.key.ns &&
      trimSpace ref.name = schedule.key.name &&
      run.spec.sourceUID ≠ 0 && run.spec.sourceUID = schedule.uid

/-- The run ahead in the queue of the schedule, if its places are taken. -/
def agentRunQueuedBehindSchedule (c : Cluster) (runs : List AgentRun) (obj : AgentRun) :
    Option AgentRun :=
  match (referencedKey obj.key.ns obj.spec.scheduleRef).bind c.getSchedule with
  | none => none
  | some schedule =>
    if agentScheduleConcurrencyPolicy schedule = .allow then none
    else
      let maxConcurrent := agentScheduleMaxConcurrentRuns schedule
      if maxConcurrent = 0 then none
      else
        -- The list is restricted to the namespace and to the schedule's label.
        queuedBehind maxConcurrent <| runs.filter fun run =>
          run.key.ns = obj.key.ns &&
          run.notes.schedule = sanitizeLabelValue schedule.key.name &&
          agentRunBelongsToSchedule run schedule && run.key.name ≠ obj.key.name &&
          !agentRunPhaseTerminal run.status.phase && agentRunPrecedes run obj

def defaultApplicationConcurrency : Nat := 1

/-- The limit of an application: the lowest positive control, else what is configured. -/
def agentRunApplicationMaxConcurrentRuns (c : Cluster) (configured : Nat)
    (applicationName : String) : Nat :=
  if isBlank applicationName then 0
  else
    let limits := (c.controls.filter fun control =>
      trimSpace control.applicationRef = trimSpace applicationName &&
        decide (0 < control.maxConcurrentRuns)).map (·.maxConcurrentRuns.toNat)
    match limits.min? with
    | some limit => limit
    | none => if 0 < configured then configured else defaultApplicationConcurrency

/-- The run ahead in the queue of the application, if its places are taken. -/
def agentRunQueuedBehindApplication (c : Cluster) (configured : Nat) (runs : List AgentRun)
    (obj : AgentRun) : Except AgentRunScopeConflict (Option AgentRun) := do
  let applicationName ← resolveAgentRunApplicationName c obj
  if applicationName = "" then return none
  let maxConcurrent := agentRunApplicationMaxConcurrentRuns c configured applicationName
  if maxConcurrent = 0 then return none
  return queuedBehind maxConcurrent <| runs.filter fun run =>
    run.key ≠ obj.key && !agentRunPhaseTerminal run.status.phase &&
      agentRunMayUseApplication c run applicationName && agentRunPrecedes run obj

/-- Both queues; the schedule's comes first. -/
def agentRunQueuedBehind (c : Cluster) (configured : Nat) (runs : List AgentRun)
    (obj : AgentRun) : Except AgentRunScopeConflict (Option (AgentRun × String)) :=
  match agentRunQueuedBehindSchedule c runs obj with
  | some run => .ok (some (run, "QueuedBehindScheduledRun"))
  | none =>
    (agentRunQueuedBehindApplication c configured runs obj).map
      (·.map fun run => (run, "QueuedBehindApplicationRun"))

def agentRunControlExpired (control : AgentRunControl) (now : Nat) : Bool :=
  match control.expiresAt with
  | none => false
  | some expiresAt => expiresAt * second ≤ now

/-- A pause, as it is reported. -/
structure ActivePause where
  controlName : String
  reason : String

/-- The pause in force for an application: the first by name among those that hold. -/
def activeAgentRunPauseForApplication (controls : List AgentRunControl) (applicationName : String)
    (now : Nat) : Option ActivePause :=
  if isBlank applicationName then none
  else
    let holding := controls.filter fun control =>
      trimSpace control.applicationRef = trimSpace applicationName &&
        control.launchPolicy = .paused && !isBlank control.reason && !agentRunControlExpired control now
    (Select.choose (fun selected control => control.name < selected.name) holding).map fun control =>
      ⟨control.name, trimSpace control.reason⟩

theorem activeAgentRunPauseForApplication_eq_none_iff {controls : List AgentRunControl}
    {name : String} {now : Nat} :
    activeAgentRunPauseForApplication controls name now = none ↔
      (isBlank name = false → ∀ control ∈ controls,
        trimSpace control.applicationRef = trimSpace name → control.launchPolicy = .paused →
        isBlank control.reason = false → agentRunControlExpired control now = true) := by
  unfold activeAgentRunPauseForApplication
  cases blank : isBlank name with
  | true => simp
  | false =>
    -- Something is chosen as soon as one control holds.
    rw [if_neg Bool.false_ne_true, Option.map_eq_none_iff, Select.choose_eq_none,
      List.filter_eq_nil_iff, forall_prop_of_true rfl]
    refine forall₂_congr fun control _ => ?_
    simp only [Bool.and_eq_true, decide_eq_true_eq, Bool.not_eq_true', not_and, and_imp,
      Bool.not_eq_false]

end AnvilAgents
