import AnvilAgents.Automation.Run
import AnvilAgents.Lib.Machine

/-!
The reconciler of AgentSchedules.

A pass reads the schedule, its runs and the controls, and then makes at most one AgentRun and one
status patch, in this order. It may crash between the two.
-/

namespace AnvilAgents.Automation.Schedule

open Text

inductive AgentSchedulePhase where
  | unset
  | pending
  | scheduled
  | running
  | suspended
  | blocked

inductive ConcurrencyPolicy where
  | unset
  | forbid
  | allow
  | queue
deriving DecidableEq

structure AgentScheduleRunTemplateSpec where
  name : String
  template : RunSpec

structure AgentScheduleBackoffSpec where
  failedSeconds : Int := 0
  needsHumanSeconds : Int := 0

structure AgentScheduleSpec where
  /-- The name in `applicationRef`. -/
  applicationRef : Option String := none
  suspend : Bool := false
  intervalSeconds : Int
  initialDelaySeconds : Int := 0
  backoff : Option AgentScheduleBackoffSpec := none
  concurrencyPolicy : ConcurrencyPolicy := .unset
  maxConcurrentRuns : Int := 0
  maxRunsPerDay : Int := 0
  runTemplate : RunSpec := {}
  runTemplates : List AgentScheduleRunTemplateSpec := []

structure AgentScheduleStatus where
  observedGeneration : Nat := 0
  conditions : List Condition := []
  phase : AgentSchedulePhase := .unset
  lastRunAt : Option Time := none
  nextRunAt : Option Time := none
  activeRunRef : Option NamespacedObjectReference := none
  activeRunCount : Nat := 0
  lastRunRef : Option NamespacedObjectReference := none
  lastRunPhase : AgentRunPhase := .unset
  lastRunTemplate : String := ""
  lastManualRunToken : String := ""
  lastError : String := ""

structure AgentSchedule where
  ns : String
  name : String
  uid : UID
  generation : Nat := 1
  creationTimestamp : Time
  deleted : Bool := false
  labels : Labels := []
  /-- The annotation that asks for a manual run. -/
  runNow : Option String := none
  /-- The annotation that selects the template of a manual run. -/
  runTemplate : Option String := none
  spec : AgentScheduleSpec
  status : AgentScheduleStatus := {}

/-- An AgentRun as the reconciler sees it. -/
structure Run where
  name : String
  labels : Labels := []
  spec : RunSpec := {}
  creationTimestamp : Time
  phase : AgentRunPhase := .unset
  startedAt : Option Time := none
  completedAt : Option Time := none
deriving DecidableEq

def Run.terminal (run : Run) : Bool := agentRunPhaseTerminal run.phase

/-- What the reconciler reads: one schedule, the runs of its namespace, profiles and controls. -/
structure World where
  now : Time
  schedule : AgentSchedule
  runs : List Run := []
  profiles : Profiles := []
  controls : List AgentRunControl := []

def agentScheduleReady : String := "Ready"
def agentRunScheduleLabel : String := "control.anvil.hazyforge.io/agent-schedule"
def agentRunTemplateLabel : String := "control.anvil.hazyforge.io/agent-schedule-template"
def scheduledAgentRun : String := "ScheduledAgentRun"
def manualAgentScheduleNudge : String := "ManualAgentScheduleNudge"
def agentRunPurposeScheduledHealthCheck : String := "scheduledHealthCheck"

/-- What a pass asks for when it creates a run. -/
structure RunRequest where
  applicationName : String := ""
  nameSegment : String := ""
  nameTimestamp : String := ""
  nameIdentityKey : String := ""
  templateName : String := ""
  triggerReason : String
  triggerMessage : String
  forceTrigger : Bool := false
  token : String
  nameTime : Option Time := none

/-- The application of a schedule, on which its spec and all its templates must agree. -/
def resolveAgentScheduleApplicationName (profiles : Profiles) (schedule : AgentSchedule) :
    Except String String := do
  let explicit := trimSpace (schedule.spec.applicationRef.getD "")
  if schedule.spec.applicationRef.isSome ∧ explicit = "" then
    throw "spec.applicationRef.name is required when applicationRef is set"
  let templates := if schedule.spec.runTemplates = [] then [schedule.spec.runTemplate]
    else schedule.spec.runTemplates.map (·.template)
  let resolve (index : Nat) (template : RunSpec) : Except String String :=
    match resolveAgentRunSpecApplicationNameStrict profiles schedule.ns template with
    | .error message => .error s!"resolve run template {index} application: {message}"
    | .ok name => .ok name
  let resolved ← templates.zipIdx.foldlM (fun resolved (template, index) => do
    let name ← resolve index template
    if name = "" then
      return resolved
    if explicit ≠ "" ∧ name ≠ explicit then
      throw s!"spec.applicationRef \"{explicit}\" conflicts with run template applicationRef \"{name}\""
    if resolved ≠ "" ∧ name ≠ resolved then
      throw s!"run templates resolve to multiple Applications \"{resolved}\" and \"{name}\""
    return name) ""
  return if explicit ≠ "" then explicit else resolved

variable (env : Env) (s : World) (schedule : AgentSchedule) (status : AgentScheduleStatus)

/-- A run of this schedule, by reference and by the schedule's identity. -/
def agentRunBelongsToSchedule (run : Run) : Bool :=
  match run.spec.scheduleRef with
  | none => false
  | some ref =>
    firstNonEmpty [trimSpace ref.ns, schedule.ns] == schedule.ns &&
      trimSpace ref.name == schedule.name &&
      run.spec.sourceUID != 0 && run.spec.sourceUID == schedule.uid

/-- The order in which runs are launched: by creation, and by name within a second. -/
def agentRunPrecedes (candidate target : Run) : Bool :=
  if candidate.creationTimestamp ≠ 0 ∧ target.creationTimestamp ≠ 0 then
    if candidate.creationTimestamp < target.creationTimestamp then true
    else if target.creationTimestamp < candidate.creationTimestamp then false
    else candidate.name < target.name
  else candidate.name < target.name

/-- The runs that carry the schedule's label and belong to it. -/
def ownRuns : List Run :=
  s.runs.filter fun run =>
    run.labels.value agentRunScheduleLabel == sanitizeLabelValue s.schedule.name &&
      agentRunBelongsToSchedule s.schedule run

def activeRuns : List Run :=
  (ownRuns s).filter fun run => !run.terminal

/-- The runs created on the current UTC day. -/
def runsToday : Nat :=
  (ownRuns s).countP fun run => dayOf run.creationTimestamp == dayOf s.now

/-- The run created last; of several in one second the first that is listed. -/
def lastRun : Option Run :=
  Select.choose (fun last run => last.creationTimestamp < run.creationTimestamp) (ownRuns s)

def lastIntervalTemplate : String :=
  match Select.choose agentRunPrecedes
      ((ownRuns s).filter fun run => run.spec.trigger.reason == scheduledAgentRun) with
  | some run => run.labels.value agentRunTemplateLabel
  | none => ""

def agentScheduleConcurrencyPolicy : ConcurrencyPolicy :=
  if schedule.spec.concurrencyPolicy = .unset then .forbid else schedule.spec.concurrencyPolicy

def agentScheduleMaxConcurrentRuns : Int :=
  match agentScheduleConcurrencyPolicy schedule with
  | .forbid => 1
  | policy =>
    if schedule.spec.maxConcurrentRuns ≤ 0 then (if policy = .queue then 1 else 0)
    else schedule.spec.maxConcurrentRuns

/-- The run a status names: the head of a queue, otherwise the newest. -/
def agentScheduleActiveRunForStatus (policy : ConcurrencyPolicy) (runs : List Run) : Option Run :=
  if policy = .queue then Select.choose (fun chosen run => agentRunPrecedes run chosen) runs
  else Select.choose agentRunPrecedes runs

def agentScheduleManualRunToken : String :=
  trimSpace (schedule.runNow.getD "")

def agentScheduleManualRunTemplateName : String :=
  trimSpace (schedule.runTemplate.getD "")

/-- When the next interval run is due, before any backoff. -/
def agentScheduleNextRunTime (now : Time) (generationChanged : Bool) : Time :=
  match (if generationChanged then none else status.nextRunAt), status.lastRunAt with
  | some next, _ => next
  | none, some last => timeOf (last + GoTime.seconds schedule.spec.intervalSeconds)
  | none, none =>
    if 0 < schedule.spec.initialDelaySeconds then
      timeOf (schedule.creationTimestamp + GoTime.seconds schedule.spec.initialDelaySeconds)
    else now

/-- How long a finished run holds back the next one. -/
def backoffSeconds (backoff : AgentScheduleBackoffSpec) : AgentRunPhase → Int
  | .failed => backoff.failedSeconds
  | .needsHuman => backoff.needsHumanSeconds
  | _ => 0

/-- When a run finished, or when it was created if that is not recorded. -/
def Run.terminalAt (run : Run) : Time :=
  match run.completedAt with
  | some completed => if completed = 0 then run.creationTimestamp else completed
  | none => run.creationTimestamp

/-- Until when the last run holds back the next one. -/
def backoffUntil (newest : Option Run) : Option Int :=
  match schedule.spec.backoff, newest with
  | some backoff, some run =>
    let seconds := backoffSeconds backoff run.phase
    if seconds ≤ 0 ∨ run.terminalAt = 0 then none else some (run.terminalAt + GoTime.seconds seconds)
  | _, _ => none

/-- The due time after the backoff, and whether the backoff decides it. -/
def agentScheduleNextRunWithTerminalBackoff (newest : Option Run) (existing : Time) : Time × Bool :=
  match backoffUntil schedule newest with
  | none => (existing, false)
  | some resume => if existing < resume then (resume.toNat, true) else (existing, resume == existing)

/-- The loop that adds the duration while the time is not after `now`; `none` if it has not come to
its end after `fuel` turns. -/
def advancePast (interval now : Int) : Nat → Int → Option Int
  | 0, _ => none
  | fuel + 1, next => if now < next then some next else advancePast interval now fuel (next + interval)

def agentScheduleNextRunAfterCreation (scheduledNext now : Int) (manual : Bool) (fuel : Nat) :
    Option Int :=
  if manual then some scheduledNext
  else advancePast (GoTime.seconds schedule.spec.intervalSeconds) now fuel scheduledNext

/-- The due time after this one; none if the loop never ends. Every turn of a loop that ends adds a
positive duration, so there are no more of them than nanoseconds. -/
def nextDue (scheduledNext now : Time) (manual : Bool) : Option Time :=
  (agentScheduleNextRunAfterCreation schedule scheduledNext now manual
    (now + 1 - scheduledNext).succ).map Int.toNat

def agentScheduleIntervalTriggerMessage (dueAt : Time) : String :=
  s!"AgentSchedule {schedule.ns}/{schedule.name} reached its interval due at {env.rfc3339 dueAt}."

def agentScheduleIntervalRunForMessage (message : String) : Option Run :=
  let wanted := trimSpace message
  if wanted = "" then none
  else Select.choose agentRunPrecedes ((ownRuns s).filter fun run =>
    run.spec.trigger.reason == scheduledAgentRun && trimSpace run.spec.trigger.message == wanted)

/-- The template after the last one used, in a circle. -/
def agentScheduleNextTemplateName (lastTemplateName : String) : String :=
  match schedule.spec.runTemplates with
  | [] => ""
  | first :: rest =>
    let templates := first :: rest
    if isBlank lastTemplateName then first.name
    else
      match templates.findIdx? fun template => template.name == lastTemplateName with
      | some index => (templates[(index + 1) % templates.length]?.getD first).name
      | none => first.name

def agentScheduleSelectedRunTemplate (requested : String) : Except String (RunSpec × String) :=
  let templateName := trimSpace requested
  match schedule.spec.runTemplates with
  | [] =>
    if templateName ≠ "" then
      .error s!"run template \"{templateName}\" was requested, but spec.runTemplates is empty"
    else .ok (schedule.spec.runTemplate, "")
  | first :: rest =>
    let wanted := if templateName = "" then first.name else templateName
    match (first :: rest).find? fun template => template.name == wanted with
    | some template => .ok (template.template, template.name)
    | none => .error
        s!"run template \"{wanted}\" was not found in AgentSchedule {schedule.ns}/{schedule.name}"

def agentScheduleIntervalRunRequest (dueAt : Time) (lastTemplateName : String) : RunRequest where
  templateName := agentScheduleNextTemplateName schedule lastTemplateName
  triggerReason := scheduledAgentRun
  triggerMessage := agentScheduleIntervalTriggerMessage env schedule dueAt
  token := env.rfc3339Nano dueAt
  nameTime := some dueAt

/-- The part of a manual run's name that stands for a time. -/
def agentScheduleManualNameTimestamp (token : String) (fallback : Time) : String :=
  match env.parseStamp (trimSpace token) with
  | some time => time
  | none =>
    let sanitized := sanitizeDNSLabel (trimSpace token)
    if sanitized ≠ "" then limit 24 sanitized else env.stamp fallback

def agentScheduleManualRunRequest (token templateName : String) (now : Time) : RunRequest where
  nameSegment := "manual"
  nameTimestamp := agentScheduleManualNameTimestamp env token now
  nameIdentityKey := "manual|" ++ trimSpace token
  templateName := trimSpace templateName
  triggerReason := manualAgentScheduleNudge
  triggerMessage :=
    s!"AgentSchedule {schedule.ns}/{schedule.name} was manually nudged with token \"{token}\"."
  forceTrigger := true
  token := trimSpace token

/-- The labels of a schedule that its runs inherit. -/
def agentScheduleProvenanceLabels : Labels :=
  [agentManagedByLabel, agentApplicationLabel, agentDynamicLabel, agentManagerRepositoryLabel].filterMap
    fun key =>
      let value := trimSpace (schedule.labels.value key)
      if value = "" then none else some (key, value)

/-- The template as a run of this schedule: what it leaves open is filled in. -/
def completeTemplate (spec : RunSpec) : RunSpec :=
  { spec with
    purpose := if isBlank spec.purpose then agentRunPurposeScheduledHealthCheck else spec.purpose
    sourceRef := if isBlank spec.sourceRef.kind then
        { apiVersion := groupVersion, kind := "AgentSchedule", ns := schedule.ns,
          name := schedule.name }
      else spec.sourceRef
    sourceUID := schedule.uid
    sourceGeneration := schedule.generation
    scheduleRef := some (spec.scheduleRef.getD { name := schedule.name, ns := schedule.ns }) }

/-- The application of a new run, on which its template must agree with the schedule. -/
def scheduledRunApplication (request : RunRequest) (spec : RunSpec) : Except String (Option String)
    :=
  let requested := trimSpace request.applicationName
  let applicationName :=
    if requested = "" then trimSpace (schedule.spec.applicationRef.getD "") else requested
  if applicationName = "" then .ok spec.application
  else
    match spec.application with
    | none => .ok (some applicationName)
    | some selected =>
      if trimSpace selected ≠ applicationName then
        .error (s!"resolved schedule applicationRef \"{applicationName}\" conflicts with selected " ++
          s!"run template applicationRef \"{trimSpace selected}\"")
      else .ok (some selected)

/-- The spec of a new run, or why the template cannot be used. -/
def scheduledRunSpec (now : Time) (schedule : AgentSchedule) (request : RunRequest)
    (spec : RunSpec) : Except String RunSpec := do
  let application ← scheduledRunApplication schedule request spec
  if spec.sourceUID ≠ 0 ∧ spec.sourceUID ≠ schedule.uid then
    throw "selected run template sourceUID does not match AgentSchedule UID"
  if spec.sourceGeneration ≠ 0 ∧ spec.sourceGeneration ≠ schedule.generation then
    throw "selected run template sourceGeneration does not match AgentSchedule generation"
  return { completeTemplate schedule spec with
    application
    trigger := if request.forceTrigger ∨ isBlank spec.trigger.reason then
        { reason := request.triggerReason, message := request.triggerMessage,
          detectedAt := some (stored now) }
      else spec.trigger }

/-- The name of a run. An interval run is named after its due time alone, so that two templates
cannot both run for it; a manual run is named after its token and its template. -/
def scheduledRunName (now : Time) (schedule : AgentSchedule) (request : RunRequest)
    (templateName : String) : String :=
  let nameTime := match request.nameTime with
    | some time => if time = 0 then now else time
    | none => now
  let nameTimestamp := firstNonEmpty [trimSpace request.nameTimestamp, env.stamp nameTime]
  let nameIdentityKey := firstNonEmpty [trimSpace request.nameIdentityKey, env.rfc3339Nano nameTime]
  let nameTemplatePart :=
    if request.triggerReason = scheduledAgentRun ∧ isBlank request.nameSegment then ""
    else templateName
  let nameHashInput :=
    "|".intercalate [nameIdentityKey, request.token, request.triggerReason, nameTemplatePart]
  agentRunChildName env.shortHash ["agentrun", schedule.name, request.nameSegment, nameTemplatePart,
    nameTimestamp, env.shortHash nameHashInput]

def scheduledRunLabels (templateName : String) : Labels :=
  (agentRunScheduleLabel, sanitizeLabelValue schedule.name) ::
    (agentScheduleProvenanceLabels schedule ++
      if templateName = "" then [] else [(agentRunTemplateLabel, sanitizeLabelValue templateName)])

/-- Equal up to the time of detection. -/
def scheduledAgentRunSpecMatches (actual expected : RunSpec) : Bool :=
  actual == { expected with
    trigger := { expected.trigger with detectedAt := actual.trigger.detectedAt } }

/-- The spec that a template of the schedule gives for the trigger of an expected run. -/
def candidateSpec (expected : RunSpec) (template : RunSpec) : Option RunSpec :=
  let application := match expected.application, template.application with
    | some wanted, some own =>
      if trimSpace own ≠ trimSpace wanted then none else some (some own)
    | some wanted, none => some (some wanted)
    | none, own => some own
  match application with
  | none => none
  | some application =>
    if template.sourceUID ≠ 0 ∧ template.sourceUID ≠ schedule.uid then none
    else if template.sourceGeneration ≠ 0 ∧ template.sourceGeneration ≠ schedule.generation then none
    else some { completeTemplate schedule template with application, trigger := expected.trigger }

def scheduledAgentRunMatchesSelectedTemplate (run expected : Run) : Bool :=
  run.spec.trigger.reason == scheduledAgentRun &&
    (("", schedule.spec.runTemplate) ::
        schedule.spec.runTemplates.map fun item => (item.name, item.template)).any
      fun (name, template) =>
        sanitizeLabelValue name == trimSpace (run.labels.value agentRunTemplateLabel) &&
          (candidateSpec schedule expected.spec template).any (scheduledAgentRunSpecMatches run.spec)

/-- An existing run is taken for the expected one only if this schedule would have made it. -/
def validateScheduledAgentRun (run expected : Run) : Except String Unit :=
  let collides := s!"AgentRun {schedule.ns}/{run.name} collides with the expected child for " ++
    s!"AgentSchedule {schedule.ns}/{schedule.name}"
  if run.name ≠ expected.name ∨ run.spec.sourceUID ≠ schedule.uid then .error collides
  else
    match expected.labels.find? fun (key, value) =>
        key != agentRunTemplateLabel && run.labels.value key != value with
    | some (key, _) => .error
        s!"AgentRun {schedule.ns}/{run.name} has invalid AgentSchedule provenance label {key}"
    | none =>
      if scheduledAgentRunSpecMatches run.spec expected.spec ||
          scheduledAgentRunMatchesSelectedTemplate schedule run expected then .ok ()
      else .error collides

/-- The run a pass ends up with: whether it made it, and of which template. -/
structure Launched where
  created : Bool
  run : Run
  template : String

/-- Create the run of a request, or take the run of its name that is already there. -/
def createScheduledAgentRun (request : RunRequest) : Except String Launched := do
  let (template, templateName) ← agentScheduleSelectedRunTemplate s.schedule request.templateName
  let spec ← scheduledRunSpec s.now s.schedule request template
  let run : Run := {
    name := scheduledRunName env s.now s.schedule request templateName
    labels := scheduledRunLabels s.schedule templateName
    spec
    creationTimestamp := stored s.now }
  match s.runs.find? fun other => other.name == run.name with
  | none => return ⟨true, run, templateName⟩
  | some other =>
    validateScheduledAgentRun s.schedule other run
    return ⟨false, other, templateName⟩

/-- What a pass does: the run it creates, the status it then writes, and whether it comes to its end.
A pass that fails writes no status. -/
structure Pass where
  create : Option Run := none
  status : Option AgentScheduleStatus := none
  ends : Bool := true

/-- What a pass has found when nothing holds the next run back. -/
structure Admission where
  applicationName : String
  status : AgentScheduleStatus
  nextRunAt : Time

def AgentScheduleStatus.report (s : World) (ready : Bool) (reason message : String) :
    AgentScheduleStatus :=
  { status with
    conditions := setStatusCondition status.conditions
      { type := agentScheduleReady, status := ready, observedGeneration := s.schedule.generation,
        lastTransitionTime := s.now / second, reason, message } }

def generationChanged : Bool :=
  schedule.status.observedGeneration != 0 && schedule.status.observedGeneration != schedule.generation

/-- A manual run is asked for and not yet made. -/
def manualPending : Bool :=
  agentScheduleManualRunToken schedule != "" &&
    agentScheduleManualRunToken schedule != schedule.status.lastManualRunToken

/-- Refuse a spec that the reconciler cannot follow. -/
def invalidSpec (reason message : String) : AgentScheduleStatus :=
  { status with phase := .blocked, lastError := message }.report s false reason message

/-- A check that holds the next run back gives the status to write, or none if it does not return. -/
abbrev Check := Except (Option AgentScheduleStatus)

def checkSpec : Check Unit := do
  let spec := s.schedule.spec
  if spec.suspend then
    let message := if manualPending s.schedule then
        s!"AgentSchedule is suspended; manual run token " ++
          s!"\"{agentScheduleManualRunToken s.schedule}\" remains pending."
      else "AgentSchedule is suspended."
    throw (some <| { status with phase := .suspended, nextRunAt := none }.report s false "Suspended"
      message)
  if spec.intervalSeconds ≤ 0 then
    throw (some <| invalidSpec s status "InvalidInterval"
      "spec.intervalSeconds must be greater than zero.")
  if spec.maxConcurrentRuns < 0 then
    throw (some <| invalidSpec s status "InvalidMaxConcurrentRuns"
      "spec.maxConcurrentRuns cannot be negative.")
  if spec.maxRunsPerDay < 0 then
    throw (some <| invalidSpec s status "InvalidMaxRunsPerDay"
      "spec.maxRunsPerDay cannot be negative.")
  match spec.backoff with
  | some backoff =>
    if backoff.failedSeconds < 0 ∨ backoff.needsHumanSeconds < 0 then
      throw (some <| invalidSpec s status "InvalidBackoff"
        "spec.backoff failedSeconds and needsHumanSeconds cannot be negative.")
    else pure ()
  | none => pure ()

/-- The application of the schedule, or the report that it has none. -/
def resolveApplication : Check String :=
  match resolveAgentScheduleApplicationName s.profiles s.schedule with
  | .ok name => .ok name
  | .error message => .error ((invalidSpec s { status with nextRunAt := none }
      "InvalidApplicationIdentity" message))

def Run.ref (run : Run) (schedule : AgentSchedule) : NamespacedObjectReference :=
  { name := run.name, ns := schedule.ns }

/-- The status after the runs of the schedule have been listed. -/
def observeRuns : AgentScheduleStatus :=
  let active := agentScheduleActiveRunForStatus (agentScheduleConcurrencyPolicy s.schedule)
    (activeRuns s)
  let status := { status with
    activeRunRef := active.map (·.ref s.schedule)
    activeRunCount := (activeRuns s).length }
  match lastRun s with
  | none => status
  | some last => { status with
      lastRunRef := some (last.ref s.schedule)
      lastRunPhase := last.phase
      lastRunAt := last.startedAt.or status.lastRunAt }

/-- Hold everything while the application is paused. -/
def checkPause (applicationName : String) (status : AgentScheduleStatus) : Check Unit :=
  match activeAgentRunPauseForApplication s.controls applicationName s.now with
  | none => .ok ()
  | some pause =>
    let message :=
      s!"Application \"{applicationName}\" is paused by AgentRunControl \"{pause.controlName}\"."
    .error ({ status with phase := .suspended, nextRunAt := none, lastError := "" }.report s false
      "ApplicationPaused"
      (if pause.reason = "" then message else s!"{message} Reason: {pause.reason}"))

/-- A tick that falls into a run is skipped, unless a manual run is waiting. -/
def dueWhileActive (nextRunAt : Time) : Option Time :=
  if !manualPending s.schedule ∧ nextRunAt ≤ s.now then nextDue s.schedule nextRunAt s.now false
  else some nextRunAt

/-- Hold the next run while as many as the policy allows are active. -/
def checkConcurrency (nextRunAt : Time) : Check Unit :=
  let schedule := s.schedule
  let policy := agentScheduleConcurrencyPolicy schedule
  let token := agentScheduleManualRunToken schedule
  let running := { status with phase := .running, lastError := "" }
  match policy, agentScheduleActiveRunForStatus policy (activeRuns s) with
  | .forbid, some active =>
    let message := s!"active AgentRun {schedule.ns}/{active.name} to finish."
    .error ((dueWhileActive s nextRunAt).map fun next =>
      { running with nextRunAt := some next }.report s false "RunActive"
        (if manualPending schedule then
          s!"Manual run token \"{token}\" is pending; waiting for {message}"
        else s!"Waiting for {message}"))
  | .allow, _ =>
    let maxConcurrent := agentScheduleMaxConcurrentRuns schedule
    let count := (activeRuns s).length
    if 0 < maxConcurrent ∧ maxConcurrent ≤ count then
      let message :=
        s!"{count} active AgentRuns to drop below maxConcurrentRuns={maxConcurrent}."
      .error (running.report s false "MaxConcurrentRunsReached"
        (if manualPending schedule then
          s!"Manual run token \"{token}\" is pending; waiting for {message}"
        else s!"Waiting for {message}"))
    else .ok ()
  | _, _ => .ok ()

/-- Hold an interval run until it is due. -/
def checkDue (nextRunAt : Time) (terminalBackoffApplied : Bool) : Check Unit :=
  let schedule := s.schedule
  let policy := agentScheduleConcurrencyPolicy schedule
  if manualPending schedule ∨ nextRunAt ≤ s.now then .ok ()
  else
    match policy, agentScheduleActiveRunForStatus policy (activeRuns s) with
    | .queue, some active =>
      let maxConcurrent := agentScheduleMaxConcurrentRuns schedule
      let limited := if 1 < maxConcurrent then s!" with maxConcurrentRuns={maxConcurrent}" else ""
      .error ({ status with phase := .running, lastError := "" }.report s false "QueueActive"
        (s!"Waiting for {(activeRuns s).length} non-terminal AgentRuns to drain{limited}; queue " ++
          s!"head is {schedule.ns}/{active.name}. Next AgentRun is scheduled for " ++
          s!"{env.rfc3339 nextRunAt}."))
    | _, _ =>
      let scheduled := { status with phase := .scheduled, lastError := "" }
      match terminalBackoffApplied, lastRun s with
      | true, some last => .error (scheduled.report s true "TerminalBackoff"
          (s!"Newest AgentRun {schedule.ns}/{last.name} is {last.phase.text}; automatic runs are " ++
            s!"backed off until {env.rfc3339 nextRunAt}."))
      | _, _ => .error (scheduled.report s true "NextRunScheduled"
          s!"Next AgentRun is scheduled for {env.rfc3339 nextRunAt}.")

/-- Hold the next run when the budget of the day is spent. -/
def checkDailyBudget : Check Unit :=
  let limit := s.schedule.spec.maxRunsPerDay
  if 0 < limit ∧ limit ≤ runsToday s then
    .error ({ status with phase := .blocked, lastError := "" }.report s false
      "DailyRunBudgetReached"
      (if manualPending s.schedule then
        s!"Manual run token \"{agentScheduleManualRunToken s.schedule}\" is pending; created " ++
          s!"{runsToday s} AgentRuns today and is waiting for the UTC daily " ++
          s!"maxRunsPerDay={limit} budget to reset."
      else s!"Created {runsToday s} AgentRuns today; waiting for the UTC daily " ++
        s!"maxRunsPerDay={limit} budget to reset."))
  else .ok ()

/-- Do not run twice for one due time: the run that is already there is reported instead. -/
def checkExistingDue (nextRunAt : Time) : Check Unit :=
  let schedule := s.schedule
  let policy := agentScheduleConcurrencyPolicy schedule
  let active := agentScheduleActiveRunForStatus policy (activeRuns s)
  if manualPending schedule then .ok ()
  else
    match agentScheduleIntervalRunForMessage s
        (agentScheduleIntervalTriggerMessage env schedule nextRunAt) with
    | none => .ok ()
    | some existing =>
      let template := existing.labels.value agentRunTemplateLabel
      let created := s!"Interval due at {env.rfc3339 nextRunAt} already created AgentRun " ++
        s!"{schedule.ns}/{existing.name};"
      .error ((nextDue schedule nextRunAt s.now false).map fun next => { status with
        phase := .running
        activeRunRef := match active with
          | some run => some (run.ref schedule)
          | none => if existing.terminal then status.activeRunRef else some (existing.ref schedule)
        lastRunRef := some (existing.ref schedule)
        lastRunPhase := existing.phase
        lastRunAt := some (existing.startedAt.getD (status.lastRunAt.getD s.now))
        lastRunTemplate := if template = "" then status.lastRunTemplate else template
        nextRunAt := some next
        lastError := "" }.report s false "IntervalAlreadyCreated"
          (match policy, active with
          | .queue, some head => s!"{created} waiting for queue head {schedule.ns}/{head.name}. " ++
              s!"Next AgentRun is scheduled for {env.rfc3339 next}."
          | _, _ => s!"{created} advanced next run to {env.rfc3339 next}."))

/-- The due time of the next interval run, and whether the backoff decides it. -/
def dueTime : Time × Bool :=
  agentScheduleNextRunWithTerminalBackoff s.schedule (lastRun s)
    (agentScheduleNextRunTime s.schedule status s.now (generationChanged s.schedule))

/-- Everything that can hold the next run back, in the order in which it is looked at. -/
def admission : Check Admission := do
  let status := { s.schedule.status with observedGeneration := s.schedule.generation }
  checkSpec s status
  let applicationName ← resolveApplication s status
  let status := observeRuns s status
  checkPause s applicationName status
  let (nextRunAt, terminalBackoffApplied) := dueTime s status
  let status := { status with nextRunAt := some nextRunAt }
  checkConcurrency s status nextRunAt
  checkDue env s status nextRunAt terminalBackoffApplied
  checkDailyBudget s status
  checkExistingDue env s status nextRunAt
  return { applicationName, status, nextRunAt }

def Admission.request (env : Env) (s : World) (admission : Admission) : RunRequest :=
  let request := if manualPending s.schedule then
      agentScheduleManualRunRequest env s.schedule (agentScheduleManualRunToken s.schedule)
        (agentScheduleManualRunTemplateName s.schedule) s.now
    else agentScheduleIntervalRunRequest env s.schedule admission.nextRunAt (lastIntervalTemplate s)
  { request with applicationName := admission.applicationName }

/-- The status once the run is there, if the next due time is found. -/
def Admission.created (admission : Admission) (launched : Launched) : Option AgentScheduleStatus :=
  let schedule := s.schedule
  let policy := agentScheduleConcurrencyPolicy schedule
  let manual := manualPending schedule
  let token := agentScheduleManualRunToken schedule
  let run := launched.run
  let runs := activeRuns s
  let activeForStatus := match policy, agentScheduleActiveRunForStatus policy runs with
    | .queue, some head => head
    | _, _ => run
  let template := if launched.template = "" then "" else s!" from template \"{launched.template}\""
  (nextDue schedule admission.nextRunAt s.now manual).map fun next => { admission.status with
    phase := .running
    activeRunRef := some (activeForStatus.ref schedule)
    lastRunRef := some (run.ref schedule)
    activeRunCount :=
      if !run.terminal ∧ !(runs.any fun other => other.name == run.name) then runs.length + 1
      else admission.status.activeRunCount
    lastRunAt := some s.now
    lastRunTemplate := launched.template
    nextRunAt := some next
    lastManualRunToken := if manual then token else admission.status.lastManualRunToken
    lastError := "" }.report s false "RunCreated"
      (if manual then s!"Created manually nudged AgentRun {schedule.ns}/{run.name}{template} " ++
        s!"for token \"{token}\"."
      else s!"Created scheduled AgentRun {schedule.ns}/{run.name}{template}.")

def reconcile : Pass :=
  if s.schedule.deleted then {}
  else
    match admission env s with
    | .error status => { status, ends := status.isSome }
    | .ok admission =>
      match createScheduledAgentRun env s (admission.request env s) with
      | .error _ => {}
      | .ok launched =>
        let status := admission.created s launched
        { create := if launched.created then some launched.run else none
          status, ends := status.isSome }

/-- The status as it is stored. -/
def AgentScheduleStatus.persist : AgentScheduleStatus :=
  { status with lastRunAt := status.lastRunAt.map stored, nextRunAt := status.nextRunAt.map stored }

/-! ### The schedule among everything that acts on it -/

/-- The status from which a pass takes the due time. -/
def observed : AgentScheduleStatus :=
  observeRuns s { s.schedule.status with observedGeneration := s.schedule.generation }

/-- The due time of the next interval run. -/
def dueAt : Time := (dueTime s (observed s)).1

/-- No run is recorded and nothing else fixes the first due time, so the clock does. -/
def dueFromClock : Bool :=
  (generationChanged s.schedule || (observed s).nextRunAt.isNone) &&
    (observed s).lastRunAt.isNone && decide (s.schedule.spec.initialDelaySeconds ≤ 0)

/-- What an interval run is for: the first tick of a schedule that starts at once, or a due time. -/
inductive Tick where
  | first
  | due (time : Time)
deriving DecidableEq

def tick : Tick :=
  if dueFromClock s then .first else .due (dueAt s)

/-- The world, the ticks for which runs were created, and how many manual runs were created since
the token has its value. -/
structure Sys where
  world : World
  ticks : List Tick := []
  manual : Nat := 0

inductive Event where
  /-- One pass; it may be cut off between creating the run and writing the status, and it is when it
  does not come to its end. -/
  | reconcile (cutOff : Bool)
  | edit (spec : AgentScheduleSpec)
  | annotate (runNow runTemplate : Option String) (labels : Labels)
  | setControls (controls : List AgentRunControl)
  | setProfiles (profiles : Profiles)
  /-- The AgentRun controller writes the status of a run that is not finished. -/
  | progress (name : String) (phase : AgentRunPhase) (startedAt completedAt : Option Time)
  /-- Listings have no order of their own. -/
  | relist (runs : List Run)
  | wait (duration : Nat)

def AgentSchedule.record (status : Option AgentScheduleStatus) : AgentSchedule :=
  match status with
  | some status => { schedule with status := status.persist }
  | none => schedule

def Run.progress (name : String) (phase : AgentRunPhase) (startedAt completedAt : Option Time)
    (run : Run) : Run :=
  if run.name == name && !run.terminal then { run with phase, startedAt, completedAt } else run

def World.pass (s : World) (pass : Pass) (cutOff : Bool) : World :=
  { s with
    runs := s.runs ++ pass.create.toList
    schedule := if cutOff then s.schedule else s.schedule.record pass.status }

def Sys.reconcile (s : Sys) (cutOff : Bool) : Sys :=
  let pass := Schedule.reconcile env s.world
  let created := pass.create.isSome
  let manual := manualPending s.world.schedule
  { world := s.world.pass pass cutOff
    ticks := if created && !manual then tick s.world :: s.ticks else s.ticks
    manual := if created && manual then s.manual + 1 else s.manual }

def Sys.setSchedule (s : Sys) (schedule : AgentSchedule) : Sys :=
  { s with
    world := { s.world with schedule }
    manual := if agentScheduleManualRunToken schedule = agentScheduleManualRunToken s.world.schedule
      then s.manual else 0 }

def system : Machine Sys Event where
  next s event :=
    match event with
    | .reconcile cutOff =>
      if cutOff ∨ (Schedule.reconcile env s.world).ends then some (s.reconcile env cutOff) else none
    | .edit spec => some (s.setSchedule
        { s.world.schedule with spec, generation := s.world.schedule.generation + 1 })
    | .annotate runNow runTemplate labels => some (s.setSchedule
        { s.world.schedule with runNow, runTemplate, labels })
    | .setControls controls => some { s with world := { s.world with controls } }
    | .setProfiles profiles => some { s with world := { s.world with profiles } }
    | .progress name phase startedAt completedAt => some { s with
        world := { s.world with
          runs := s.world.runs.map (Run.progress name phase startedAt completedAt) } }
    | .relist runs =>
      if runs.isPerm s.world.runs then some { s with world := { s.world with runs } } else none
    | .wait duration => some { s with world := { s.world with now := s.world.now + duration } }

end AnvilAgents.Automation.Schedule
