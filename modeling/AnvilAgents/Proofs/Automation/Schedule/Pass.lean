import AnvilAgents.Automation.Schedule
import AnvilAgents.Lib.Fallible

/-! What a pass of the schedule reconciler has checked when it creates a run. -/

namespace AnvilAgents.Automation.Schedule

open Fallible

variable {env : Env} {s : World} {status : AgentScheduleStatus}

theorem checkSpec_ok (passed : checkSpec s status = .ok ()) :
    s.schedule.spec.suspend = false ∧ 0 < s.schedule.spec.intervalSeconds := by
  unfold checkSpec at passed
  simp only [bind, Except.bind, throw, throwThe, MonadExceptOf.throw, pure, Except.pure] at passed
  split at passed
  next => cases passed
  rename_i running
  split at passed
  next => cases passed
  next positive => exact ⟨by simpa using running, by omega⟩

theorem resolveApplication_ok {name : String} (passed : resolveApplication s status = .ok name) :
    resolveAgentScheduleApplicationName s.profiles s.schedule = .ok name := by
  unfold resolveApplication at passed
  split at passed
  next resolved =>
    cases passed
    exact resolved
  next => cases passed

theorem checkPause_ok {name : String} (passed : checkPause s name status = .ok ()) :
    activeAgentRunPauseForApplication s.controls name s.now = none := by
  unfold checkPause at passed
  split at passed
  next unpaused => exact unpaused
  next => cases passed

theorem agentScheduleActiveRunForStatus_eq_none {policy : ConcurrencyPolicy} {runs : List Run} :
    agentScheduleActiveRunForStatus policy runs = none ↔ runs = [] := by
  unfold agentScheduleActiveRunForStatus
  split <;> exact Select.choose_eq_none

/-- What the concurrency check leaves: nothing active under Forbid, room under Allow. -/
structure Room (s : World) : Prop where
  forbid : agentScheduleConcurrencyPolicy s.schedule = .forbid → activeRuns s = []
  allow : agentScheduleConcurrencyPolicy s.schedule = .allow →
    0 < agentScheduleMaxConcurrentRuns s.schedule →
    (activeRuns s).length < agentScheduleMaxConcurrentRuns s.schedule

theorem checkConcurrency_ok {next : Time} (passed : checkConcurrency s status next = .ok ()) :
    Room s := by
  unfold checkConcurrency at passed
  dsimp only at passed
  split at passed
  next => cases passed
  next policy =>
    have room := (of_check_ok passed).1
    exact ⟨fun forbid => (nomatch policy.symm.trans forbid), fun _ positive => by omega⟩
  rename_i notAllow noneActive
  refine ⟨fun forbid => ?_, fun allow => (notAllow allow).elim⟩
  -- Under Forbid the only way past the check is that no run is selected as active.
  by_contra some_
  obtain ⟨active, selected⟩ := Option.ne_none_iff_exists'.mp
    (mt agentScheduleActiveRunForStatus_eq_none.mp some_)
  exact noneActive active forbid selected

theorem checkDue_ok {next : Time} {backoff : Bool}
    (passed : checkDue env s status next backoff = .ok ()) :
    manualPending s.schedule = true ∨ next ≤ s.now := by
  unfold checkDue at passed
  dsimp only at passed
  split at passed
  next due => exact due
  split at passed
  next => cases passed
  next => split at passed <;> cases passed

theorem checkDailyBudget_ok (passed : checkDailyBudget s status = .ok ()) :
    0 < s.schedule.spec.maxRunsPerDay → runsToday s < s.schedule.spec.maxRunsPerDay := by
  intro positive
  unfold checkDailyBudget at passed
  have within := (of_check_ok passed).1
  omega

/-- What holds when nothing holds the next run back. -/
structure Admitted (s : World) (a : Admission) : Prop where
  running : s.schedule.spec.suspend = false
  interval : 0 < s.schedule.spec.intervalSeconds
  application : resolveAgentScheduleApplicationName s.profiles s.schedule = .ok a.applicationName
  unpaused : activeAgentRunPauseForApplication s.controls a.applicationName s.now = none
  room : Room s
  due : manualPending s.schedule = true ∨ a.nextRunAt ≤ s.now
  budget : 0 < s.schedule.spec.maxRunsPerDay → runsToday s < s.schedule.spec.maxRunsPerDay
  next : a.nextRunAt = dueAt s
  status : a.status = { observed s with nextRunAt := some (dueAt s) }

theorem admission_ok {a : Admission} (passed : admission env s = .ok a) : Admitted s a := by
  -- The checks run one after the other, so success of the whole is success of each.
  obtain ⟨_, spec, passed⟩ := bind_ok passed
  obtain ⟨name, application, passed⟩ := bind_ok passed
  obtain ⟨_, pause, passed⟩ := bind_ok passed
  obtain ⟨_, concurrency, passed⟩ := bind_ok passed
  obtain ⟨_, due, passed⟩ := bind_ok passed
  obtain ⟨_, budget, passed⟩ := bind_ok passed
  obtain ⟨_, -, passed⟩ := bind_ok passed
  cases passed
  obtain ⟨running, interval⟩ := checkSpec_ok spec
  exact {
    running, interval
    application := resolveApplication_ok application
    unpaused := checkPause_ok pause
    room := checkConcurrency_ok concurrency
    due := checkDue_ok due
    budget := checkDailyBudget_ok budget
    next := rfl
    status := rfl }

/-- The run that a request makes of a template. -/
structure Made (env : Env) (s : World) (request : RunRequest) (launched : Launched) : Prop where
  template : ∃ spec, agentScheduleSelectedRunTemplate s.schedule request.templateName =
      .ok (spec, launched.template) ∧
    launched.run.spec.scheduleRef =
      some (spec.scheduleRef.getD { name := s.schedule.name, ns := s.schedule.ns })
  name : launched.run.name = scheduledRunName env s.now s.schedule request launched.template
  fresh : ∀ other ∈ s.runs, other.name ≠ launched.run.name
  labels : launched.run.labels = scheduledRunLabels s.schedule launched.template
  sourceUID : launched.run.spec.sourceUID = s.schedule.uid
  created : launched.run.creationTimestamp = stored s.now
  phase : launched.run.phase = .unset
  started : launched.run.startedAt = none

variable {request : RunRequest}

theorem scheduledRunSpec_ok {template spec : RunSpec}
    (passed : scheduledRunSpec s.now s.schedule request template = .ok spec) :
    spec.sourceUID = s.schedule.uid ∧ spec.scheduleRef =
      some (template.scheduleRef.getD { name := s.schedule.name, ns := s.schedule.ns }) := by
  obtain ⟨application, -, passed⟩ := bind_ok passed
  have afterUID := (of_check_ok passed).2
  have afterGeneration := (of_check_ok afterUID).2
  cases afterGeneration
  exact ⟨rfl, rfl⟩

theorem createScheduledAgentRun_ok {launched : Launched}
    (passed : createScheduledAgentRun env s request = .ok launched)
    (created : launched.created = true) : Made env s request launched := by
  obtain ⟨⟨template, templateName⟩, selected, passed⟩ := bind_ok passed
  obtain ⟨spec, completed, passed⟩ := bind_ok passed
  obtain ⟨sourceUID, scheduleRef⟩ := scheduledRunSpec_ok completed
  dsimp only at passed
  split at passed
  next absent =>
    cases passed
    have fresh := List.find?_eq_none.mp absent
    exact {
      template := ⟨template, selected, scheduleRef⟩
      name := rfl
      fresh := fun other member same => fresh other member (beq_iff_eq.mpr same)
      labels := rfl
      sourceUID
      created := rfl
      phase := rfl
      started := rfl }
  next =>
    -- A run that was already there is not created.
    obtain ⟨_, -, passed⟩ := bind_ok passed
    cases passed
    cases created

/-- What a pass that creates a run has checked, and what it makes and reports. -/
structure Creates (env : Env) (s : World) (run : Run) : Prop where
  pass : ∃ a launched, Admitted s a ∧ Made env s (a.request env s) launched ∧
    launched.run = run ∧ (reconcile env s).status = a.created s launched ∧
    (reconcile env s).ends = (a.created s launched).isSome

theorem creates_of_create {run : Run} (created : (reconcile env s).create = some run) :
    Creates env s run := by
  unfold reconcile at created
  split at created
  next => cases created
  rename_i alive
  split at created
  next => cases created
  rename_i a admitted
  split at created
  next => cases created
  rename_i launched made
  by_cases fresh : launched.created = true
  · refine ⟨a, launched, admission_ok admitted, createScheduledAgentRun_ok made fresh, ?_, ?_⟩
    · simpa [fresh] using created
    · simp only [reconcile, if_neg alive, admitted, made, and_self]
  · simp [fresh] at created

end AnvilAgents.Automation.Schedule
