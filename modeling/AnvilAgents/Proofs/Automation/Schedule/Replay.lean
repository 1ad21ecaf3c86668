import AnvilAgents.Proofs.Automation.Schedule.Limits

/-!
Passes that are cut off after they created a run, and the runs that their retries create.

A retry finds the earlier run by its name. The name of an interval run is that of its due time, and
the name of a manual run is that of its token and template, so a retry goes wrong exactly where
these are taken from something that has changed in between.
-/

namespace AnvilAgents.Automation.Schedule

open Text List Fallible Option Nat Machine

variable {env : Env} {s : World} {status : AgentScheduleStatus}

/-! ### The due time after a run -/

/-- The loop ends in the future. -/
theorem lt_of_advancePast {interval now next last : Int} {fuel : Nat}
    (found : advancePast interval now fuel next = some last) : now < last := by
  induction fuel generalizing next with
  | zero => cases found
  | succ fuel ih =>
    rw [advancePast] at found
    split at found
    next later =>
      cases found
      exact later
    next => exact ih found

/-- The next due time is the one before, for a manual run, or else in the future. -/
theorem second_le_nextDue {schedule : AgentSchedule} {due now next : Time} {manual : Bool}
    (found : nextDue schedule due now manual = some next) (clock : second ≤ now)
    (set : second ≤ due) : second ≤ next := by
  obtain ⟨last, computed, rfl⟩ := map_eq_some_iff.mp found
  unfold agentScheduleNextRunAfterCreation at computed
  split at computed
  · cases computed
    exact set
  · exact le_trans clock (Int.lt_toNat.mpr (lt_of_advancePast computed)).le

/-! ### What a status that a pass writes keeps -/

/-- A stored due time is a time. -/
def Dated (status : AgentScheduleStatus) : Prop :=
  ∀ due, status.nextRunAt = some due → second ≤ due

/-- What a report of something that holds the next run back keeps of the status before. -/
structure Follows (status status' : AgentScheduleStatus) : Prop where
  lastRunAt : status.lastRunAt.isSome → status'.lastRunAt.isSome
  dated : Dated status → Dated status'
  token : status'.lastManualRunToken = status.lastManualRunToken

/-- What a check reports follows the status before, if it comes to its end. -/
def Reports (before : AgentScheduleStatus) : Option AgentScheduleStatus → Prop
  | some status => Follows before status
  | none => True

theorem Follows.trans {status' status'' : AgentScheduleStatus} (first : Follows status status')
    (second : Follows status' status'') : Follows status status'' :=
  ⟨second.lastRunAt ∘ first.lastRunAt, second.dated ∘ first.dated, second.token.trans first.token⟩

section Checks

variable {before : AgentScheduleStatus} (seen : Follows before status) {due : Time}

include seen

theorem checkSpec_fails : Fails (Reports before) (checkSpec s status) := by
  unfold checkSpec
  simp only [bind, Except.bind, throw, throwThe, MonadExceptOf.throw, pure, Except.pure]
  split
  · exact seen.trans ⟨id, fun _ _ => nofun, rfl⟩
  -- All other reports leave the times alone.
  have plain {reason message : String} : Follows before (invalidSpec s status reason message) :=
    seen.trans ⟨id, id, rfl⟩
  split
  · exact plain
  split
  · exact plain
  split
  · exact plain
  split
  · split
    · exact plain
    · trivial
  · trivial

theorem resolveApplication_fails : Fails (Reports before) (resolveApplication s status) := by
  unfold resolveApplication
  split
  · trivial
  · exact seen.trans ⟨id, fun _ _ => nofun, rfl⟩

theorem checkPause_fails (name : String) : Fails (Reports before) (checkPause s name status) := by
  unfold checkPause
  split
  · trivial
  · exact seen.trans ⟨id, fun _ _ => nofun, rfl⟩

theorem checkConcurrency_fails (clock : second ≤ s.now) (set : second ≤ due) :
    Fails (Reports before) (checkConcurrency s status due) := by
  unfold checkConcurrency
  dsimp only
  split
  · cases found : dueWhileActive s due with
    | none => trivial
    | some next =>
      refine seen.trans ⟨id, fun _ _ same => some.inj same ▸ ?_, rfl⟩
      unfold dueWhileActive at found
      split at found
      · exact second_le_nextDue found clock set
      · exact some.inj found ▸ set
  · split
    · exact seen.trans ⟨id, id, rfl⟩
    · trivial
  · trivial

theorem checkDue_fails (backoff : Bool) :
    Fails (Reports before) (checkDue env s status due backoff) := by
  unfold checkDue
  dsimp only
  split
  · trivial
  split
  · exact seen.trans ⟨id, id, rfl⟩
  split
  · exact seen.trans ⟨id, id, rfl⟩
  · exact seen.trans ⟨id, id, rfl⟩

theorem checkDailyBudget_fails : Fails (Reports before) (checkDailyBudget s status) := by
  unfold checkDailyBudget
  dsimp only
  split
  · exact seen.trans ⟨id, id, rfl⟩
  · trivial

theorem checkExistingDue_fails (clock : second ≤ s.now) (set : second ≤ due) :
    Fails (Reports before) (checkExistingDue env s status due) := by
  unfold checkExistingDue
  dsimp only
  split
  · trivial
  split
  · trivial
  cases found : nextDue s.schedule due s.now false with
  | none => trivial
  | some next =>
    refine seen.trans ⟨fun _ => rfl, fun _ _ same => ?_, rfl⟩
    exact some.inj same ▸ second_le_nextDue found clock set

end Checks

theorem observeRuns_follows : Follows status (observeRuns s status) := by
  unfold observeRuns
  split
  next => exact ⟨id, id, rfl⟩
  rename_i last _
  refine ⟨fun known => ?_, id, rfl⟩
  cases started : last.startedAt with
  | none => simpa [started] using known
  | some time => simp

theorem generation_follows : Follows s.schedule.status
    { s.schedule.status with observedGeneration := s.schedule.generation } :=
  ⟨id, id, rfl⟩

theorem observed_follows : Follows s.schedule.status (observed s) :=
  generation_follows.trans observeRuns_follows

/-- The clock and the stored due time are set. -/
structure Clocked (s : World) : Prop where
  clock : second ≤ s.now
  dated : Dated s.schedule.status

/-- What any status that a pass writes keeps; the token is the stored one or the one just served. -/
structure Written (s : World) (status : AgentScheduleStatus) : Prop where
  lastRunAt : s.schedule.status.lastRunAt.isSome → status.lastRunAt.isSome
  dated : Dated status
  token : status.lastManualRunToken = s.schedule.status.lastManualRunToken ∨
    manualPending s.schedule = true ∧
      status.lastManualRunToken = agentScheduleManualRunToken s.schedule

variable {a : Admission}

/-- What a pass reports of the run that it has created. -/
theorem created_some {launched : Launched} (wrote : a.created s launched = some status) :
    ∃ next, nextDue s.schedule a.nextRunAt s.now (manualPending s.schedule) = some next ∧
      status.nextRunAt = some next ∧ status.lastRunAt = some s.now ∧
      status.lastManualRunToken = if manualPending s.schedule then
        agentScheduleManualRunToken s.schedule else a.status.lastManualRunToken := by
  obtain ⟨next, found, rfl⟩ := map_eq_some_iff.mp wrote
  exact ⟨next, found, rfl, rfl, rfl⟩

section Clocked

variable (clocked : Clocked s)

include clocked

/-- Every due time is a time: it is stored, or it is the clock, or it is computed. -/
theorem le_dueAt : second ≤ dueAt s := by
  refine le_trans ?_ (le_nextRunWithTerminalBackoff ..).1
  have dated : Dated (observed s) := observeRuns_follows.dated clocked.dated
  unfold agentScheduleNextRunTime
  split
  next stored =>
    split at stored
    · cases stored
    · exact dated _ stored
  next => exact le_max_left _ _
  split
  next => exact le_max_left _ _
  next => exact clocked.clock

/-- What the checks after the due time start from. -/
theorem dated_follows :
    Follows s.schedule.status { observed s with nextRunAt := some (dueAt s) } := by
  refine ⟨observed_follows.lastRunAt, fun _ due same => ?_, observed_follows.token⟩
  exact some.inj same ▸ le_dueAt clocked

/-- A pass that is held back follows the stored status. -/
theorem admission_fails : Fails (Reports s.schedule.status) (admission env s) := by
  have due := le_dueAt clocked
  have seen := dated_follows clocked
  refine (checkSpec_fails generation_follows).bind fun _ _ => ?_
  refine (resolveApplication_fails generation_follows).bind fun _ _ => ?_
  refine (checkPause_fails observed_follows _).bind fun _ _ => ?_
  refine (checkConcurrency_fails seen clocked.clock due).bind fun _ _ => ?_
  refine (checkDue_fails seen _).bind fun _ _ => ?_
  refine (checkDailyBudget_fails seen).bind fun _ _ => ?_
  exact (checkExistingDue_fails seen clocked.clock due).bind fun _ _ => trivial

theorem Follows.written (follows : Follows s.schedule.status status) : Written s status :=
  ⟨follows.lastRunAt, follows.dated clocked.dated, .inl follows.token⟩

theorem created_written {launched : Launched} (admitted : Admitted s a)
    (wrote : a.created s launched = some status) : Written s status := by
  obtain ⟨next, found, nextRunAt, lastRunAt, token⟩ := created_some wrote
  refine ⟨fun _ => by rw [lastRunAt]; rfl, fun due same => ?_, ?_⟩
  · have set := le_dueAt clocked
    rw [← admitted.next] at set
    cases nextRunAt.symm.trans same
    exact second_le_nextDue found clocked.clock set
  · rw [token]
    cases pending : manualPending s.schedule with
    | true => exact .inr ⟨rfl, rfl⟩
    | false =>
      left
      rw [admitted.status]
      exact (observed_follows (s := s)).token

theorem reconcile_written (wrote : (reconcile env s).status = some status) : Written s status := by
  unfold reconcile at wrote
  split at wrote
  next => cases wrote
  split at wrote
  next failed =>
    cases wrote
    have held : Fails (Reports s.schedule.status) (admission env s) := admission_fails clocked
    rw [failed] at held
    exact Follows.written clocked held
  rename_i admitted
  split at wrote
  next => cases wrote
  exact created_written clocked (admission_ok admitted) wrote

end Clocked

/-! ### Names -/

def intervalRunName (env : Env) (scheduleName : String) (due : Time) : String :=
  agentRunChildName env.shortHash ["agentrun", scheduleName, "", "",
    firstNonEmpty [env.stamp due],
    env.shortHash ("|".intercalate
      [firstNonEmpty [env.rfc3339Nano due], env.rfc3339Nano due, scheduledAgentRun, ""])]

theorem firstNonEmpty_empty (rest : List String) : firstNonEmpty (trimSpace "" :: rest) =
    firstNonEmpty rest := by
  simp [firstNonEmpty, isBlank]

/-- Neither the clock nor the template goes into the name of an interval run. -/
theorem scheduledRunName_interval (interval : manualPending s.schedule = false)
    (set : a.nextRunAt ≠ 0) (template : String) :
    scheduledRunName env s.now s.schedule (a.request env s) template =
      intervalRunName env s.schedule.name a.nextRunAt := by
  have request : a.request env s =
      { agentScheduleIntervalRunRequest env s.schedule a.nextRunAt (lastIntervalTemplate s) with
        applicationName := a.applicationName } := by
    rw [Admission.request, interval]
    rfl
  rw [request]
  simp only [scheduledRunName, agentScheduleIntervalRunRequest, firstNonEmpty_empty, if_neg set]
  simp [intervalRunName, isBlank]

/-- The token is a time or leaves something for a name, so that the name does not need the clock. -/
def nameable (env : Env) (token : String) : Bool :=
  (env.parseStamp (trimSpace token)).isSome || sanitizeDNSLabel (trimSpace token) != ""

/-- The part of a manual run's name that stands for the time of such a token. -/
def tokenStamp (env : Env) (token : String) : String :=
  trimSpace (agentScheduleManualNameTimestamp env token 0)

theorem firstNonEmpty_of_solid {value : String} (solid : isBlank value = false)
    (rest : List String) : firstNonEmpty (trimSpace value :: rest) = trimSpace value := by
  have shown : isBlank (trimSpace value) = false := by
    rw [isBlank, trimSpace_trimSpace]
    exact solid
  simp [firstNonEmpty, shown]

theorem isBlank_limit_label {value : String} (some_ : sanitizeDNSLabel value ≠ "") :
    isBlank (limit 24 (sanitizeDNSLabel value)) = false := by
  have solid : ∀ c ∈ (limit 24 (sanitizeDNSLabel value)).toList, isSpace c = false := by
    intro c member
    rw [limit, String.toList_ofList] at member
    exact sanitizeDNSLabel_solid value c (mem_of_mem_take member)
  rw [isBlank, trimSpace_of_solid solid]
  refine beq_eq_false_iff_ne.mpr fun empty => some_ ?_
  -- Only the empty label has an empty start.
  have chars : (sanitizeDNSLabel value).toList.take 24 = [] := by
    have same := congrArg String.toList empty
    simpa [limit] using same
  rw [← String.ofList_toList (s := sanitizeDNSLabel value),
    (take_eq_nil_iff.mp chars).resolve_left (by decide)]

/-- The clock does not show in the name of a manual run with such a token. -/
theorem manualNameTimestamp_stable {token : String} (named : nameable env token = true)
    (now : Time) (rest : List String) :
    firstNonEmpty (trimSpace (agentScheduleManualNameTimestamp env token now) :: rest) =
      tokenStamp env token := by
  unfold tokenStamp agentScheduleManualNameTimestamp
  split
  next time parsed => exact firstNonEmpty_of_solid (env.parseStamp_solid _ _ parsed) rest
  rename_i unparsed
  have label : sanitizeDNSLabel (trimSpace token) ≠ "" := by
    simpa [nameable, unparsed] using named
  rw [if_pos label, if_pos label]
  exact firstNonEmpty_of_solid (isBlank_limit_label label) rest

def manualRunName (env : Env) (scheduleName token template : String) : String :=
  agentRunChildName env.shortHash ["agentrun", scheduleName, "manual", template,
    tokenStamp env token,
    env.shortHash ("|".intercalate [trimSpace ("manual|" ++ trimSpace token), trimSpace token,
      manualAgentScheduleNudge, template])]

theorem scheduledRunName_manual (pending : manualPending s.schedule = true)
    (named : nameable env (agentScheduleManualRunToken s.schedule) = true) (template : String) :
    scheduledRunName env s.now s.schedule (a.request env s) template =
      manualRunName env s.schedule.name (agentScheduleManualRunToken s.schedule) template := by
  have request : a.request env s =
      { agentScheduleManualRunRequest env s.schedule (agentScheduleManualRunToken s.schedule)
          (agentScheduleManualRunTemplateName s.schedule) s.now with
        applicationName := a.applicationName } := by
    rw [Admission.request, pending]
    rfl
  have key : isBlank ("manual|" ++ trimSpace (agentScheduleManualRunToken s.schedule)) = false :=
    isBlank_of_mem (c := 'm') (by simp) (by decide)
  rw [request]
  simp only [scheduledRunName, agentScheduleManualRunRequest, manualNameTimestamp_stable named,
    firstNonEmpty_of_solid key]
  simp [manualRunName, manualAgentScheduleNudge, scheduledAgentRun]

/-! ### What passes and everything else leave behind -/

theorem second_le_stored {time : Time} (set : second ≤ time) : second ≤ stored time := by
  have whole : 1 ≤ time / second := (one_le_div_iff (by decide)).mpr set
  exact Nat.le_mul_of_pos_left _ whole

variable {t t' : Sys}

/-- The schedule after a pass. -/
def passed (env : Env) (s : World) (cutOff : Bool) : AgentSchedule :=
  (s.pass (reconcile env s) cutOff).schedule

/-- A pass changes nothing of the schedule but its status, and keeps what matters there. -/
structure Passed (s : World) (schedule : AgentSchedule) : Prop extends
    Written s schedule.status where
  same : schedule = { s.schedule with status := schedule.status }

variable {schedule : AgentSchedule}

theorem Passed.name (after : Passed s schedule) :
    schedule.name = s.schedule.name := by
  have same := congrArg AgentSchedule.name after.same
  exact same

theorem Passed.manualToken (after : Passed s schedule) :
    agentScheduleManualRunToken schedule = agentScheduleManualRunToken s.schedule := by
  have same := congrArg agentScheduleManualRunToken after.same
  exact same

theorem passed_spec (clocked : Clocked s) (cutOff : Bool) : Passed s (passed env s cutOff) := by
  have unchanged : Passed s s.schedule := ⟨⟨id, clocked.dated, .inl rfl⟩, rfl⟩
  unfold passed World.pass
  split
  next => exact unchanged
  cases wrote : (reconcile env s).status with
  | none => exact unchanged
  | some status =>
    have written := reconcile_written clocked wrote
    refine ⟨⟨fun known => ?_, fun due same => ?_, written.token⟩, rfl⟩
    · simpa [AgentSchedule.record, AgentScheduleStatus.persist] using written.lastRunAt known
    · -- Storing a due time drops its fraction of a second only.
      obtain ⟨time, set, rfl⟩ := map_eq_some_iff.mp same
      exact second_le_stored (written.dated time set)

/-- What no event but a pass changes: the schedule's name and status, and the names of runs. -/
structure Quiet (t t' : Sys) : Prop where
  name : t'.world.schedule.name = t.world.schedule.name
  status : t'.world.schedule.status = t.world.schedule.status
  clock : t.world.now ≤ t'.world.now
  runs : ∀ run ∈ t.world.runs, ∃ run' ∈ t'.world.runs, run'.name = run.name
  ticks : t'.ticks = t.ticks

theorem quiet_of_next {event : Event} (stepped : (system env).next t event = some t')
    (notPass : ∀ cutOff, event ≠ .reconcile cutOff) : Quiet t t' := by
  have same {runs : List Run} : ∀ run ∈ runs, ∃ run' ∈ runs, run'.name = run.name :=
    fun run member => ⟨run, member, rfl⟩
  cases event with
  | reconcile cutOff => exact (notPass cutOff rfl).elim
  | edit | annotate | setControls | setProfiles =>
    cases stepped
    exact ⟨rfl, rfl, le_refl _, same, rfl⟩
  | progress name phase startedAt completedAt =>
    cases stepped
    refine ⟨rfl, rfl, le_refl _, fun run member => ?_, rfl⟩
    refine ⟨_, mem_map_of_mem member, ?_⟩
    unfold Run.progress
    split <;> rfl
  | relist runs =>
    simp only [system] at stepped
    split at stepped
    next perm =>
      cases stepped
      refine ⟨rfl, rfl, le_refl _, fun run member => ?_, rfl⟩
      exact ⟨run, (isPerm_iff.mp perm).mem_iff.mpr member, rfl⟩
    next => cases stepped
  | wait duration =>
    cases stepped
    exact ⟨rfl, rfl, le_add_right _ _, same, rfl⟩

theorem Clocked.quiet (clocked : Clocked t.world) (quiet : Quiet t t') : Clocked t'.world :=
  ⟨le_trans clocked.clock quiet.clock, quiet.status ▸ clocked.dated⟩

/-- The clock and the stored due time are set, and nothing has been recorded yet. -/
structure Begins (t : Sys) : Prop where
  clocked : Clocked t.world
  ticks : t.ticks = []
  manual : t.manual = 0

/-! ### One run for each tick -/

/-- A pass that takes the due time from the clock is not cut off. -/
def firstTickWhole (s : World) : Event → Bool
  | .reconcile cutOff => !(cutOff && dueFromClock s && !manualPending s.schedule)
  | _ => true

/-- What is stored tells that a run was created for the tick. -/
def Told (env : Env) (s : World) : Tick → Prop
  | .first => s.schedule.status.lastRunAt.isSome
  | .due due => ∃ run ∈ s.runs, run.name = intervalRunName env s.schedule.name due

/-- Every tick for which a run was created can be told from what is stored. -/
structure OneEach (env : Env) (t : Sys) : Prop where
  clocked : Clocked t.world
  nodup : t.ticks.Nodup
  told : ∀ tick ∈ t.ticks, Told env t.world tick

theorem Told.mono {s' : World} {tick : Tick} (told : Told env s tick)
    (known : s.schedule.status.lastRunAt.isSome → s'.schedule.status.lastRunAt.isSome)
    (name : s'.schedule.name = s.schedule.name)
    (kept : ∀ run ∈ s.runs, ∃ run' ∈ s'.runs, run'.name = run.name) : Told env s' tick := by
  cases tick with
  | first => exact known told
  | due due =>
    obtain ⟨run, among, named⟩ := told
    obtain ⟨run', among', same⟩ := kept run among
    exact ⟨run', among', by rw [same, named, name]⟩

theorem OneEach.quiet (one : OneEach env t) (quiet : Quiet t t') : OneEach env t' where
  clocked := one.clocked.quiet quiet
  nodup := quiet.ticks ▸ one.nodup
  told tick member :=
    (one.told tick (quiet.ticks ▸ member)).mono (quiet.status ▸ id) quiet.name quiet.runs

/-- A recorded run fixes the due times that follow it. -/
theorem dueFromClock_eq_false (known : s.schedule.status.lastRunAt.isSome) :
    dueFromClock s = false := by
  have seen : (observed s).lastRunAt.isSome := observed_follows.lastRunAt known
  simp [dueFromClock, isNone_eq_false_iff.mpr seen]

/-- A pass that is not cut off and has created a run reports it. -/
theorem reported {launched : Launched} {cutOff : Bool} (whole : cutOff = false)
    (ended : cutOff = true ∨ (reconcile env s).ends = true)
    (wrote : (reconcile env s).status = a.created s launched ∧
      (reconcile env s).ends = (a.created s launched).isSome) :
    ∃ status, a.created s launched = some status ∧
      (passed env s cutOff).status = status.persist := by
  subst whole
  obtain ⟨status, made⟩ := isSome_iff_exists.mp (wrote.2 ▸ ended.resolve_left nofun)
  refine ⟨status, made, ?_⟩
  simp [passed, World.pass, wrote.1, made, AgentSchedule.record]

theorem OneEach.reconcile {cutOff : Bool} (one : OneEach env t)
    (ended : cutOff = true ∨ (Schedule.reconcile env t.world).ends = true)
    (whole : firstTickWhole t.world (.reconcile cutOff) = true) :
    OneEach env (t.reconcile env cutOff) := by
  have after : Passed t.world (passed env t.world cutOff) := passed_spec one.clocked cutOff
  have clocked : Clocked (t.reconcile env cutOff).world := ⟨one.clocked.clock, after.dated⟩
  -- Runs are only added, so what was told stays told.
  have kept : ∀ tick ∈ t.ticks, Told env (t.reconcile env cutOff).world tick := fun tick member =>
    (one.told tick member).mono after.lastRunAt after.name fun run among =>
      ⟨run, mem_append_left _ among, rfl⟩
  by_cases launched : ((Schedule.reconcile env t.world).create.isSome &&
      !manualPending t.world.schedule) = true
  · have ticks : (t.reconcile env cutOff).ticks = tick t.world :: t.ticks := if_pos launched
    obtain ⟨created, interval⟩ := Bool.and_eq_true_iff.mp launched
    have interval : manualPending t.world.schedule = false := by simpa using interval
    obtain ⟨run, created⟩ := isSome_iff_exists.mp created
    obtain ⟨a, launched, admitted, made, rfl, wrote⟩ := (creates_of_create created).pass
    have new : ¬Told env t.world (tick t.world) ∧
        Told env (t.reconcile env cutOff).world (tick t.world) := by
      cases clock : dueFromClock t.world with
      | true =>
        rw [show tick t.world = .first by simp [tick, clock]]
        refine ⟨fun known => ?_, ?_⟩
        · rw [dueFromClock_eq_false known] at clock
          cases clock
        · -- The pass is whole, so it records the run.
          have kept : cutOff = false := by simpa [firstTickWhole, clock, interval] using whole
          obtain ⟨status, made, stored⟩ := reported kept ended wrote
          obtain ⟨-, -, -, lastRunAt, -⟩ := created_some made
          show (passed env t.world cutOff).status.lastRunAt.isSome
          simp [stored, AgentScheduleStatus.persist, lastRunAt]
      | false =>
        rw [show tick t.world = .due (dueAt t.world) by simp [tick, clock]]
        have set : a.nextRunAt ≠ 0 := by
          rw [admitted.next]
          exact ne_of_gt (lt_of_lt_of_le (by decide) (le_dueAt one.clocked))
        have named : launched.run.name =
            intervalRunName env t.world.schedule.name (dueAt t.world) := by
          rw [made.name, scheduledRunName_interval interval set, admitted.next]
        refine ⟨?_, launched.run, mem_append_right _ (by simp [created]), ?_⟩
        · rintro ⟨run, among, same⟩
          exact made.fresh run among (same.trans named.symm)
        · rw [named]
          exact congrArg (intervalRunName env · _) after.name.symm
    refine ⟨clocked, ?_, ?_⟩
    · rw [ticks]
      exact nodup_cons.mpr ⟨fun member => new.1 (one.told _ member), one.nodup⟩
    · rw [ticks]
      exact forall_mem_cons.mpr ⟨new.2, kept⟩
  · have ticks : (t.reconcile env cutOff).ticks = t.ticks := if_neg launched
    exact ⟨clocked, ticks ▸ one.nodup, ticks ▸ kept⟩

/-- As long as no pass that takes its due time from the clock is cut off, no tick leads to two
runs, however often passes are cut off otherwise. -/
theorem one_run_per_tick (env : Env)
    (reached : (system env).Reaches Begins (fun t event => firstTickWhole t.world event = true) t) :
    t.ticks.Nodup := by
  refine (reached.invariant (I := OneEach env) (fun t begins => ?_) ?_).nodup
  · refine ⟨begins.clocked, ?_, fun tick member => ?_⟩
    · rw [begins.ticks]
      exact nodup_nil
    · rw [begins.ticks] at member
      cases member
  · intro t t' event _ one whole stepped
    cases event with
    | reconcile cutOff =>
      obtain ⟨ended, ⟨⟩⟩ := ite_none_right_eq_some.mp stepped
      exact one.reconcile ended whole
    | _ => exact one.quiet (quiet_of_next stepped nofun)

theorem begins_unrecorded (world : World) (now : world.now = 1000 * second)
    (status : world.schedule.status = {}) : Begins ⟨world, [], 0⟩ where
  clocked := ⟨by rw [now]; decide, by rw [status]; exact nofun⟩
  ticks := rfl
  manual := rfl

/-- The first pass is whole; the one of the next tick is cut off once. -/
theorem one_run_per_tick_cut_off :
    ∃ t, (system sampleEnv).Reaches Begins (fun t event => firstTickWhole t.world event = true) t ∧
      t.world.runs.length = 2 ∧ t.ticks.length = 2 ∧ t.ticks.Nodup :=
  Reaches.played (P := fun t => t.world.runs.length = 2 ∧ t.ticks.length = 2)
    (fun t event => firstTickWhole t.world event)
    [.reconcile false, .progress "agentrun-nightly-1000-h0" .succeeded none none,
     .wait (60 * second), .reconcile true, .wait second, .reconcile false, .reconcile false]
    (.start (begins_unrecorded sampleWorld rfl rfl)) (fun _ _ passes => passes) (by decide +kernel)
    fun _ reached facts => ⟨facts.1, facts.2, one_run_per_tick sampleEnv reached⟩

/-- Runs do not wait for each other. -/
def concurrentWorld : World :=
  { sampleWorld with
    schedule := { sampleWorld.schedule with
      spec := { sampleSpec with concurrencyPolicy := .allow } } }

/-- A pass of the first tick that is cut off and retried a second later runs twice for it. -/
theorem first_tick_runs_twice :
    ∃ t, (system sampleEnv).Reaches Begins (fun _ _ => True) t ∧
      t.ticks = [.first, .first] ∧ t.world.runs.length = 2 ∧ ¬t.ticks.Nodup :=
  Reaches.played (fun _ _ => true) [.reconcile true, .wait second, .reconcile false]
    (.start (begins_unrecorded concurrentWorld rfl rfl)) (fun _ _ _ => trivial) (by decide +kernel)
    fun _ _ facts => facts

/-! ### One run for each token -/

/-- The template that a manual run would take. -/
def manualTemplate (schedule : AgentSchedule) : Option String :=
  match agentScheduleSelectedRunTemplate schedule (agentScheduleManualRunTemplateName schedule) with
  | .ok (_, name) => some name
  | .error _ => none

/-- Once a run exists for a token that is still pending, its template stays selected. -/
def keepsManualTemplate (t : Sys) (schedule : AgentSchedule) : Bool :=
  t.manual == 0 || !manualPending schedule ||
    agentScheduleManualRunToken schedule != agentScheduleManualRunToken t.world.schedule ||
    manualTemplate schedule == manualTemplate t.world.schedule

/-- The name of the run of a token stays what it is: a pass that is cut off has a token that gives
a name, and edits keep the template. -/
def keepsManualName (env : Env) (t : Sys) : Event → Bool
  | .reconcile cutOff => !(cutOff && manualPending t.world.schedule) ||
      nameable env (agentScheduleManualRunToken t.world.schedule)
  | .edit spec => keepsManualTemplate t
      { t.world.schedule with spec, generation := t.world.schedule.generation + 1 }
  | .annotate runNow runTemplate labels => keepsManualTemplate t
      { t.world.schedule with runNow, runTemplate, labels }
  | _ => true

/-- The run of the token exists under the name that a retry would give it. -/
def ManualRunExists (env : Env) (schedule : AgentSchedule) (runs : List Run) : Prop :=
  nameable env (agentScheduleManualRunToken schedule) = true ∧
    ∃ template, manualTemplate schedule = some template ∧
      ∃ run ∈ runs, run.name =
        manualRunName env schedule.name (agentScheduleManualRunToken schedule) template

structure OneManual (env : Env) (t : Sys) : Prop where
  clocked : Clocked t.world
  count : t.manual ≤ 1
  found : t.manual ≠ 0 → manualPending t.world.schedule = true →
    ManualRunExists env t.world.schedule t.world.runs

theorem ManualRunExists.mono {schedule schedule' : AgentSchedule} {runs runs' : List Run}
    (exists_ : ManualRunExists env schedule runs) (name : schedule'.name = schedule.name)
    (token : agentScheduleManualRunToken schedule' = agentScheduleManualRunToken schedule)
    (template : manualTemplate schedule' = manualTemplate schedule)
    (kept : ∀ run ∈ runs, ∃ run' ∈ runs', run'.name = run.name) :
    ManualRunExists env schedule' runs' := by
  obtain ⟨named, selected, chosen, run, member, same⟩ := exists_
  obtain ⟨run', member', same'⟩ := kept run member
  exact ⟨token ▸ named, selected, template.trans chosen, run', member', by
    rw [same', same, name, token]⟩

/-- Edits of a schedule that keep the template of a token that has been used. -/
theorem OneManual.setSchedule (one : OneManual env t)
    (name : schedule.name = t.world.schedule.name)
    (status : schedule.status = t.world.schedule.status)
    (keeps : keepsManualTemplate t schedule = true) : OneManual env (t.setSchedule schedule) := by
  refine ⟨⟨one.clocked.clock, status ▸ one.clocked.dated⟩, ?_, fun used pending => ?_⟩
  · show (if _ then t.manual else 0) ≤ 1
    split
    · exact one.count
    · exact zero_le _
  · -- A new token has no run yet, so the token is the old one, and with it the template.
    by_cases token : agentScheduleManualRunToken schedule =
        agentScheduleManualRunToken t.world.schedule
    · have manual : (t.setSchedule schedule).manual = t.manual := if_pos token
      have pending : manualPending schedule = true := pending
      have before : manualPending t.world.schedule = true := by
        simpa only [manualPending, token, status] using pending
      rw [manual] at used
      have template : manualTemplate schedule = manualTemplate t.world.schedule := by
        simpa [keepsManualTemplate, used, pending, token] using keeps
      exact (one.found used before).mono name token template fun run member => ⟨run, member, rfl⟩
    · exact (used (if_neg token)).elim

/-- A pass leaves a manual run pending only if it was pending before. -/
theorem Passed.pending (after : Passed s schedule)
    (pending : manualPending schedule = true) : manualPending s.schedule = true := by
  rcases after.token with same | ⟨before, -⟩
  · simpa only [manualPending, after.manualToken, same] using pending
  · exact before

theorem OneManual.reconcile {cutOff : Bool} (one : OneManual env t)
    (ended : cutOff = true ∨ (Schedule.reconcile env t.world).ends = true)
    (keeps : keepsManualName env t (.reconcile cutOff) = true) :
    OneManual env (t.reconcile env cutOff) := by
  have after : Passed t.world (passed env t.world cutOff) := passed_spec one.clocked cutOff
  have clocked : Clocked (t.reconcile env cutOff).world := ⟨one.clocked.clock, after.dated⟩
  have token := after.manualToken
  have template : manualTemplate (passed env t.world cutOff) = manualTemplate t.world.schedule := by
    have same := congrArg manualTemplate after.same
    exact same
  have kept : ∀ run ∈ t.world.runs, ∃ run' ∈ (t.reconcile env cutOff).world.runs,
      run'.name = run.name := fun run member => ⟨run, mem_append_left _ member, rfl⟩
  by_cases launched : ((Schedule.reconcile env t.world).create.isSome &&
      manualPending t.world.schedule) = true
  · have manual : (t.reconcile env cutOff).manual = t.manual + 1 := if_pos launched
    obtain ⟨created, pending⟩ := Bool.and_eq_true_iff.mp launched
    obtain ⟨run, created⟩ := isSome_iff_exists.mp created
    obtain ⟨a, launched, admitted, made, rfl, wrote⟩ := (creates_of_create created).pass
    obtain ⟨spec, selected, -⟩ := made.template
    have requested : (a.request env t.world).templateName =
        agentScheduleManualRunTemplateName t.world.schedule := by
      simp [Admission.request, pending, agentScheduleManualRunRequest,
        agentScheduleManualRunTemplateName]
    have chosen : manualTemplate t.world.schedule = some launched.template := by
      rw [manualTemplate, ← requested, selected]
    have unused : t.manual = 0 := by
      by_contra used
      -- The run of the token exists under the very name of the new one.
      obtain ⟨named, selected', chosen', run, member, same⟩ := one.found used pending
      cases chosen.symm.trans chosen'
      exact made.fresh run member
        (same.trans (made.name.trans (scheduledRunName_manual pending named _)).symm)
    refine ⟨clocked, by omega, fun _ stillPending => ?_⟩
    cases cutOff with
    | false =>
      -- A whole pass records the token.
      have recorded : (passed env t.world false).status.lastManualRunToken =
          agentScheduleManualRunToken (passed env t.world false) := by
        obtain ⟨status, made, stored⟩ := reported rfl ended wrote
        obtain ⟨-, -, -, -, served⟩ := created_some made
        rw [token, stored]
        exact served.trans (if_pos pending)
      have stillPending : manualPending (passed env t.world false) = true := stillPending
      simp [manualPending, recorded] at stillPending
    | true =>
      have named : nameable env (agentScheduleManualRunToken t.world.schedule) = true := by
        simpa [keepsManualName, pending] using keeps
      refine ⟨token ▸ named, launched.template, template.trans chosen, launched.run, ?_, ?_⟩
      · exact mem_append_right _ (by simp [created])
      · exact made.name.trans (scheduledRunName_manual pending named _)
  · have manual : (t.reconcile env cutOff).manual = t.manual := if_neg launched
    refine ⟨clocked, manual ▸ one.count, fun used pending => ?_⟩
    exact (one.found (manual ▸ used) (after.pending pending)).mono after.name token template kept

theorem OneManual.quiet (one : OneManual env t) (quiet : Quiet t t')
    (schedule : t'.world.schedule = t.world.schedule) (manual : t'.manual = t.manual) :
    OneManual env t' := by
  refine ⟨one.clocked.quiet quiet, manual ▸ one.count, fun used pending => ?_⟩
  rw [schedule] at pending
  exact (one.found (manual ▸ used) pending).mono quiet.name (by rw [schedule]) (by rw [schedule])
    quiet.runs

/-- As long as a token's run keeps its name, one token leads to at most one run, however often
passes are cut off. -/
theorem one_run_per_token (env : Env)
    (reached : (system env).Reaches Begins (fun t event => keepsManualName env t event = true) t) :
    t.manual ≤ 1 := by
  refine (reached.invariant (I := OneManual env) (fun t begins => ?_) ?_).count
  · exact ⟨begins.clocked, by simp [begins.manual], fun used => (used begins.manual).elim⟩
  · intro t t' event _ one keeps stepped
    cases event with
    | reconcile cutOff =>
      obtain ⟨ended, ⟨⟩⟩ := ite_none_right_eq_some.mp stepped
      exact one.reconcile ended keeps
    | edit | annotate =>
      cases stepped
      exact one.setSchedule rfl rfl keeps
    | setControls | setProfiles | progress | wait =>
      have quiet := quiet_of_next stepped nofun
      cases stepped
      exact one.quiet quiet rfl rfl
    | relist runs =>
      have quiet := quiet_of_next stepped nofun
      simp only [system] at stepped
      split at stepped
      next =>
        cases stepped
        exact one.quiet quiet rfl rfl
      next => cases stepped

/-- Two templates to choose from, and a manual run asked for. -/
def nudgedWorld : World :=
  { sampleWorld with
    schedule := { sampleWorld.schedule with
      runNow := some "go"
      spec := { sampleSpec with
        concurrencyPolicy := .allow
        runTemplates := [⟨"quick", {}⟩, ⟨"full", {}⟩] } } }

/-- A pass is cut off and the spec is edited; the retry finds the run under its name. -/
theorem one_run_per_token_cut_off :
    ∃ t, (system sampleEnv).Reaches Begins (fun t event => keepsManualName sampleEnv t event = true)
        t ∧ t.world.schedule.generation = 2 ∧ t.world.runs.length = 1 ∧ t.manual ≤ 1 :=
  Reaches.played (P := fun t => t.world.schedule.generation = 2 ∧ t.world.runs.length = 1)
    (keepsManualName sampleEnv) [.reconcile true,
      .edit { nudgedWorld.schedule.spec with maxRunsPerDay := 5 }, .reconcile false]
    (.start (begins_unrecorded nudgedWorld rfl rfl)) (fun _ _ passes => passes) (by decide +kernel)
    fun _ reached facts => ⟨facts.1, facts.2, one_run_per_token sampleEnv reached⟩

/-- Only the annotation that selects the template changes between a pass that is cut off and its
retry, and the same token runs twice. -/
theorem token_runs_twice :
    ∃ t, (system sampleEnv).Reaches Begins (fun t event =>
        ∀ runNow runTemplate labels, event = .annotate runNow runTemplate labels →
          runNow = t.world.schedule.runNow) t ∧
      t.world.schedule.runNow = some "go" ∧ t.manual = 2 ∧ t.world.runs.length = 2 := by
  refine Reaches.played (fun t event => match event with
      | .annotate runNow _ _ => runNow == t.world.schedule.runNow
      | _ => true) [.reconcile true, .annotate (some "go") (some "full") [], .reconcile false]
    (.start (begins_unrecorded nudgedWorld rfl rfl)) ?_ (by decide +kernel) fun _ _ facts => facts
  intro t event passes runNow runTemplate labels same
  subst same
  exact beq_iff_eq.mp passes

end AnvilAgents.Automation.Schedule
