import AnvilAgents.Proofs.Automation.Schedule.Pass

/-!
The limits of a schedule over every run of the system.

The reconciler counts the runs that refer to the schedule. All limits follow once these are all the
runs it has made, which fails when a template refers to another schedule.
-/

namespace AnvilAgents.Automation.Schedule

open Text List World Nat

/-- The runs that the reconciler has made for the schedule. -/
def World.made (s : World) : List Run :=
  s.runs.filter fun run => run.spec.sourceUID == s.schedule.uid

/-- How many of them are not finished. -/
def World.nonterminal (s : World) : Nat :=
  s.made.countP fun run => !run.terminal

/-- How many of them were created on a day. -/
def World.createdOn (s : World) (day : Nat) : Nat :=
  s.made.countP fun run => dayOf run.creationTimestamp == day

/-- No duration of the spec is longer than Go's durations are. -/
def durationsFit (spec : AgentScheduleSpec) : Bool :=
  let backoff := spec.backoff.getD {}
  [spec.intervalSeconds, spec.initialDelaySeconds, backoff.failedSeconds,
    backoff.needsHumanSeconds].all (· ≤ 9223372036)

/-- A schedule and its namespace are named and identified, the clock runs, and no run has been made
for the schedule yet. -/
structure Fresh (s : World) : Prop where
  name : trimSpace s.schedule.name = s.schedule.name
  ns : trimSpace s.schedule.ns = s.schedule.ns
  identified : s.schedule.uid ≠ 0
  clock : second ≤ s.now
  fits : durationsFit s.schedule.spec = true
  unmade : s.made = []

/-- The control holds an application. -/
def Pauses (control : AgentRunControl) (application : String) (now : Time) : Prop :=
  isBlank application = false ∧ trimSpace control.applicationRef = trimSpace application ∧
    control.launchPolicy = .paused ∧ isBlank control.reason = false ∧
    agentRunControlExpired control now = false

/-- The limits on what exists at one time. -/
structure Limited (s : World) : Prop where
  forbid : agentScheduleConcurrencyPolicy s.schedule = .forbid → s.nonterminal ≤ 1
  allow : agentScheduleConcurrencyPolicy s.schedule = .allow → 0 < s.schedule.spec.maxConcurrentRuns →
    s.nonterminal ≤ s.schedule.spec.maxConcurrentRuns
  daily : 0 < s.schedule.spec.maxRunsPerDay →
    ∀ day, s.createdOn day ≤ s.schedule.spec.maxRunsPerDay

/-- Of the runs made the one created last; of several in one second the first that is listed. -/
def World.newest (s : World) : Option Run :=
  Select.choose (fun last run => last.creationTimestamp < run.creationTimestamp) s.made

/-- What an interval run waits for. -/
structure IntervalRunAllowed (s : World) : Prop where
  notSuspended : s.schedule.spec.suspend = false
  notPaused : ∀ application,
    resolveAgentScheduleApplicationName s.profiles s.schedule = .ok application →
    ∀ control ∈ s.controls, ¬Pauses control application s.now
  due : agentScheduleNextRunTime s.schedule (observed s) s.now (generationChanged s.schedule) ≤ s.now
  backoff : ∀ last ∈ s.newest, ∀ backoff ∈ s.schedule.spec.backoff,
    0 < backoffSeconds backoff last.phase →
      last.terminalAt + (backoffSeconds backoff last.phase).toNat * second ≤ s.now

variable (schedule : AgentSchedule)

/-- Every template leaves the schedule of its runs open or names this one. -/
def templatesReferHere : Bool :=
  (schedule.spec.runTemplate :: schedule.spec.runTemplates.map (·.template)).all fun template =>
    match template.scheduleRef with
    | none => true
    | some ref =>
      firstNonEmpty [trimSpace ref.ns, schedule.ns] == schedule.ns &&
        trimSpace ref.name == schedule.name

/-- Edits keep the limits, and ask for durations that fit. -/
def keepsLimits (s : World) : Event → Bool
  | .edit spec => durationsFit spec && spec.concurrencyPolicy == s.schedule.spec.concurrencyPolicy &&
      spec.maxConcurrentRuns == s.schedule.spec.maxConcurrentRuns &&
      spec.maxRunsPerDay == s.schedule.spec.maxRunsPerDay
  | _ => true

/-- A pass only runs while the templates refer to the schedule itself. -/
def passesReferHere (s : World) : Event → Bool
  | .reconcile _ => templatesReferHere s.schedule
  | _ => true

variable {env : Env} {s s' : World}

/-! ### What is counted -/

/-- The listing of the reconciler keeps a run. -/
def counted (run : Run) : Bool :=
  run.labels.value agentRunScheduleLabel == sanitizeLabelValue schedule.name &&
    agentRunBelongsToSchedule schedule run

theorem sourceUID_of_counted {schedule : AgentSchedule} {run : Run}
    (isCounted : counted schedule run = true) : run.spec.sourceUID = schedule.uid := by
  have belongs := (Bool.and_eq_true_iff.mp isCounted).2
  unfold agentRunBelongsToSchedule at belongs
  split at belongs
  next => cases belongs
  next => exact beq_iff_eq.mp (Bool.and_eq_true_iff.mp belongs).2

/-- If every run made is counted, the reconciler sees exactly the runs it has made. -/
theorem ownRuns_eq_made
    (all : ∀ run ∈ s.made, counted s.schedule run = true) : ownRuns s = s.made := by
  refine filter_congr fun run member => Bool.eq_iff_iff.mpr ⟨fun isCounted => ?_, fun same => ?_⟩
  · exact beq_iff_eq.mpr (sourceUID_of_counted isCounted)
  · exact all run (mem_filter.mpr ⟨member, same⟩)

/-- A name that the API server accepts has no white space to trim. -/
theorem firstNonEmpty_self {ns : String} (trimmed : trimSpace ns = ns) :
    firstNonEmpty [trimSpace ns, ns] = ns := by
  rw [trimmed]
  simp only [firstNonEmpty]
  split
  next blank =>
    rw [isBlank, trimmed] at blank
    exact (beq_iff_eq.mp blank).symm
  next => rfl

variable {request : RunRequest} {launched : Launched}

/-- A template that passes the check gives runs that are counted. -/
theorem counted_of_made (name : trimSpace s.schedule.name = s.schedule.name)
    (ns : trimSpace s.schedule.ns = s.schedule.ns) (identified : s.schedule.uid ≠ 0)
    (here : templatesReferHere s.schedule = true) (made : Made env s request launched) :
    counted s.schedule launched.run = true := by
  obtain ⟨template, selected, ref⟩ := made.template
  have known : template ∈
      s.schedule.spec.runTemplate :: s.schedule.spec.runTemplates.map (·.template) := by
    -- The selected template is the single one or one of the list.
    unfold agentScheduleSelectedRunTemplate at selected
    dsimp only at selected
    split at selected
    next =>
      have same := (Fallible.of_check_ok selected).2
      rw [← (Prod.mk.inj (Except.ok.inj same)).1]
      exact .head _
    next first rest templates =>
      split at selected
      next found =>
        rw [templates, ← (Prod.mk.inj (Except.ok.inj selected)).1]
        exact .tail _ (mem_map_of_mem (mem_of_find?_eq_some found))
      next => cases selected
  have refersHere := all_eq_true.mp here template known
  have labelled : launched.run.labels.value agentRunScheduleLabel =
      sanitizeLabelValue s.schedule.name := by
    simp [made.labels, scheduledRunLabels, Labels.value]
  unfold counted agentRunBelongsToSchedule
  rw [labelled, ref, made.sourceUID]
  cases declared : template.scheduleRef with
  | none => simp [firstNonEmpty_self ns, name, identified]
  | some other =>
    rw [declared] at refersHere
    simpa [identified] using refersHere

/-! ### Which run is the last -/

/-- A due time is never before the interval's own time or the end of the backoff. -/
theorem le_nextRunWithTerminalBackoff (newest : Option Run) (existing : Time) : existing ≤
    (agentScheduleNextRunWithTerminalBackoff schedule newest existing).1 ∧ ∀ resume, backoffUntil
    schedule newest = some resume → resume ≤
    ((agentScheduleNextRunWithTerminalBackoff schedule newest existing).1 : Int) := by
  unfold agentScheduleNextRunWithTerminalBackoff
  split
  next absent => exact ⟨le_refl _, fun _ given => (nomatch absent.symm.trans given)⟩
  next resume given =>
    rw [given]
    split
    next later =>
      refine ⟨(Int.lt_toNat.mpr later).le, fun other same => ?_⟩
      cases same
      exact Int.self_le_toNat _
    next earlier =>
      refine ⟨le_refl _, fun other same => ?_⟩
      cases same
      exact Int.not_lt.mp earlier

/-- A backoff of such a spec fits into a duration. -/
theorem backoffSeconds_le {spec : AgentScheduleSpec} {backoff : AgentScheduleBackoffSpec}
    (fits : durationsFit spec = true) (declared : spec.backoff = some backoff)
    (phase : AgentRunPhase) : backoffSeconds backoff phase ≤ 9223372036 := by
  simp only [durationsFit, declared, Option.getD_some, all_cons, all_nil, Bool.and_true,
    Bool.and_eq_true, decide_eq_true_eq] at fits
  unfold backoffSeconds
  split
  · exact fits.2.2.1
  · exact fits.2.2.2
  · decide

theorem pause_ne_none {controls : List AgentRunControl} {control : AgentRunControl}
    {application : String} {now : Time} (member : control ∈ controls)
    (pauses : Pauses control application now) :
    activeAgentRunPauseForApplication controls application now ≠ none := by
  obtain ⟨named, same, paused, reason, unexpired⟩ := pauses
  intro absent
  have expired := activeAgentRunPauseForApplication_eq_none_iff.mp absent named control member same
    paused reason
  cases unexpired.symm.trans expired

/-! ### What every step keeps -/

/-- Everything that the limits rest on. -/
structure Held (s : World) : Prop extends Limited s where
  name : trimSpace s.schedule.name = s.schedule.name
  ns : trimSpace s.schedule.ns = s.schedule.ns
  identified : s.schedule.uid ≠ 0
  clock : second ≤ s.now
  fits : durationsFit s.schedule.spec = true
  counted : ∀ run ∈ s.made, counted s.schedule run = true
  dated : ∀ run ∈ s.made, run.creationTimestamp ≠ 0

theorem Fresh.held (fresh : Fresh s) : Held s where
  forbid _ := by simp [nonterminal, fresh.unmade]
  allow _ positive := by simpa [nonterminal, fresh.unmade] using Int.le_of_lt positive
  daily positive day := by simpa [createdOn, fresh.unmade] using Int.le_of_lt positive
  name := fresh.name
  ns := fresh.ns
  identified := fresh.identified
  clock := fresh.clock
  fits := fresh.fits
  counted := by simp [fresh.unmade]
  dated := by simp [fresh.unmade]

/-- The schedule is the same, and so are its limits. -/
structure SameLimits (schedule schedule' : AgentSchedule) : Prop where
  name : schedule'.name = schedule.name
  ns : schedule'.ns = schedule.ns
  uid : schedule'.uid = schedule.uid
  policy : schedule'.spec.concurrencyPolicy = schedule.spec.concurrencyPolicy
  concurrent : schedule'.spec.maxConcurrentRuns = schedule.spec.maxConcurrentRuns
  daily : schedule'.spec.maxRunsPerDay = schedule.spec.maxRunsPerDay
  fits : durationsFit schedule.spec = true → durationsFit schedule'.spec = true

theorem SameLimits.record (status : Option AgentScheduleStatus) : SameLimits schedule
    (schedule.record status) := by
  cases status <;> exact ⟨rfl, rfl, rfl, rfl, rfl, rfl, id⟩

/-- Changes that leave the runs and the limits alone. -/
theorem Held.frame (held : Held s) (same : SameLimits s.schedule s'.schedule)
    (runs : s'.runs = s.runs) (clock : s.now ≤ s'.now) : Held s' := by
  have made : s'.made = s.made := by rw [World.made, World.made, runs, same.uid]
  have policy : agentScheduleConcurrencyPolicy s'.schedule =
      agentScheduleConcurrencyPolicy s.schedule := by
    rw [agentScheduleConcurrencyPolicy, agentScheduleConcurrencyPolicy, same.policy]
  exact {
    forbid := by rw [policy, nonterminal, made]; exact held.forbid
    allow := by rw [policy, nonterminal, made, same.concurrent]; exact held.allow
    daily := by simp only [createdOn, made, same.daily]; exact held.daily
    name := by rw [same.name]; exact held.name
    ns := by rw [same.ns]; exact held.ns
    identified := same.uid ▸ held.identified
    clock := le_trans held.clock clock
    fits := same.fits held.fits
    counted := by
      intro run member
      have before := held.counted run (made ▸ member)
      simpa only [Schedule.counted, agentRunBelongsToSchedule, same.name, same.ns, same.uid]
        using before
    dated := made ▸ held.dated }

/-- Changes to the runs made that neither reopen one nor touch what it is. -/
theorem Held.rerun {runs : List Run} (held : Held s)
    (open_ : nonterminal { s with runs } ≤ s.nonterminal)
    (days : ∀ day, createdOn { s with runs } day ≤ s.createdOn day)
    (origin : ∀ run ∈ World.made { s with runs }, ∃ before ∈ s.made,
      run.labels = before.labels ∧ run.spec = before.spec ∧
        run.creationTimestamp = before.creationTimestamp) : Held { s with runs } where
  forbid policy := le_trans open_ (held.forbid policy)
  allow policy positive := Int.le_trans (Int.ofNat_le.mpr open_) (held.allow policy positive)
  daily positive day := Int.le_trans (Int.ofNat_le.mpr (days day)) (held.daily positive day)
  name := held.name
  ns := held.ns
  identified := held.identified
  clock := held.clock
  fits := held.fits
  counted := by
    intro run member
    obtain ⟨before, among, labels, spec, -⟩ := origin run member
    have isCounted := held.counted before among
    simpa only [Schedule.counted, agentRunBelongsToSchedule, labels, spec] using isCounted
  dated := by
    intro run member
    obtain ⟨before, among, -, -, created⟩ := origin run member
    exact created ▸ held.dated before among

section Progress

variable (name : String) (phase : AgentRunPhase) (startedAt completedAt : Option Time) (run : Run)

theorem progress_keeps :
    (run.progress name phase startedAt completedAt).labels = run.labels ∧
      (run.progress name phase startedAt completedAt).spec = run.spec ∧
      (run.progress name phase startedAt completedAt).creationTimestamp = run.creationTimestamp := by
  unfold Run.progress
  split <;> exact ⟨rfl, rfl, rfl⟩

theorem terminal_progress (finished : run.terminal = true) :
    (run.progress name phase startedAt completedAt).terminal = true := by
  simp [Run.progress, finished]

theorem Held.progress (held : Held s) :
    Held { s with runs := s.runs.map (Run.progress name phase startedAt completedAt) } := by
  have made : World.made { s with runs := s.runs.map (Run.progress name phase startedAt completedAt) }
      = s.made.map (Run.progress name phase startedAt completedAt) := by
    simp only [World.made, filter_map, Function.comp_def,
      (progress_keeps name phase startedAt completedAt _).2.1]
  refine held.rerun ?_ (fun day => ?_) (fun run member => ?_)
  · rw [nonterminal, nonterminal, made, countP_map]
    refine countP_mono_left fun run _ still => ?_
    by_contra finished
    have finished := terminal_progress name phase startedAt completedAt run (by simpa using finished)
    simp [finished] at still
  · rw [createdOn, createdOn, made, countP_map]
    simp only [Function.comp_def, (progress_keeps name phase startedAt completedAt _).2.2, le_refl]
  · rw [made] at member
    obtain ⟨before, among, rfl⟩ := mem_map.mp member
    exact ⟨before, among, progress_keeps name phase startedAt completedAt before⟩

end Progress

theorem Held.relist {runs : List Run} (held : Held s) (perm : runs.Perm s.runs) :
    Held { s with runs } := by
  have made : (World.made { s with runs }).Perm s.made := perm.filter _
  refine held.rerun (made.countP_eq _).le (fun day => (made.countP_eq _).le) fun run member => ?_
  exact ⟨run, made.mem_iff.mp member, rfl, rfl, rfl⟩

/-! ### A run is added only where there is room for it -/

theorem dayOf_stored (t : Time) : dayOf (stored t) = dayOf t := by
  -- A day is a whole number of seconds.
  have split : 24 * hour = second * 86400 := by decide
  rw [dayOf, dayOf, stored, split, ← Nat.div_div_eq_div_mul, ← Nat.div_div_eq_div_mul,
    Nat.mul_div_cancel _ (by decide)]

theorem stored_ne_zero {t : Time} (clock : second ≤ t) : stored t ≠ 0 := by
  have whole : 1 ≤ t / second := (one_le_div_iff (by decide)).mpr clock
  exact Nat.mul_ne_zero (Nat.ne_of_gt whole) (by decide)

theorem activeRuns_length (all : ∀ run ∈ s.made, counted s.schedule run = true) :
    (activeRuns s).length = s.nonterminal := by
  rw [activeRuns, ownRuns_eq_made all, nonterminal, countP_eq_length_filter]

theorem runsToday_eq (all : ∀ run ∈ s.made, counted s.schedule run = true) :
    runsToday s = s.createdOn (dayOf s.now) := by
  rw [runsToday, ownRuns_eq_made all, createdOn]

theorem agentScheduleMaxConcurrentRuns_allow {schedule : AgentSchedule}
    (policy : agentScheduleConcurrencyPolicy schedule = .allow)
    (positive : 0 < schedule.spec.maxConcurrentRuns) :
    agentScheduleMaxConcurrentRuns schedule = schedule.spec.maxConcurrentRuns := by
  unfold agentScheduleMaxConcurrentRuns
  rw [policy]
  dsimp only
  rw [if_neg (by omega)]

theorem Held.create {a : Admission} (held : Held s) (here : templatesReferHere s.schedule = true)
    (admitted : Admitted s a) (made : Made env s request launched) :
    Held { s with runs := s.runs ++ [launched.run] } := by
  have isCounted := counted_of_made held.name held.ns held.identified here made
  have after : World.made { s with runs := s.runs ++ [launched.run] } = s.made ++ [launched.run] := by
    simp [World.made, made.sourceUID]
  have open_ : nonterminal { s with runs := s.runs ++ [launched.run] } =
      (activeRuns s).length + 1 := by
    rw [nonterminal, after, countP_append, ← nonterminal,
      ← activeRuns_length held.counted]
    simp [Run.terminal, made.phase, agentRunPhaseTerminal]
  exact {
    forbid := by
      intro policy
      simp [open_, admitted.room.forbid policy]
    allow := by
      intro policy positive
      have room := admitted.room.allow policy
      rw [agentScheduleMaxConcurrentRuns_allow policy positive] at room
      have below : (activeRuns s).length < s.schedule.spec.maxConcurrentRuns := room positive
      rw [open_]
      exact Int.add_one_le_of_lt below
    daily := by
      intro positive day
      have budget := admitted.budget positive
      have before := held.daily positive day
      rw [runsToday_eq held.counted] at budget
      rw [createdOn, after, countP_append, ← createdOn]
      -- Only the count of the current day grows, and there the budget was not spent.
      by_cases today : day = dayOf s.now
      · subst today
        simp only [made.created, dayOf_stored, countP_singleton, beq_self_eq_true, if_true]
        omega
      · simp only [made.created, dayOf_stored, countP_singleton, beq_iff_eq, Ne.symm today,
          if_false]
        exact before
    name := held.name
    ns := held.ns
    identified := held.identified
    clock := held.clock
    fits := held.fits
    counted := by
      rw [after]
      exact forall_mem_append.mpr ⟨held.counted, by simpa using isCounted⟩
    dated := by
      rw [after]
      refine forall_mem_append.mpr ⟨held.dated, ?_⟩
      simpa [made.created] using stored_ne_zero held.clock }

/-- What a run of an interval has waited for. -/
theorem Held.intervalRunAllowed {run : Run} (held : Held s)
    (created : (reconcile env s).create = some run) (interval : manualPending s.schedule = false) :
    IntervalRunAllowed s := by
  obtain ⟨a, launched, admitted, -, -, -⟩ := (creates_of_create created).pass
  have due : dueAt s ≤ s.now := by
    have due := admitted.due
    rw [interval, admitted.next] at due
    exact due.resolve_left nofun
  obtain ⟨own, resumed⟩ := le_nextRunWithTerminalBackoff s.schedule (lastRun s)
    (agentScheduleNextRunTime s.schedule (observed s) s.now (generationChanged s.schedule))
  refine ⟨admitted.running, ?_, le_trans own due, ?_⟩
  · intro application resolved control member pauses
    cases admitted.application.symm.trans resolved
    exact pause_ne_none member pauses admitted.unpaused
  · intro last among backoff declared positive
    have newest : lastRun s = some last := by
      rw [lastRun, ownRuns_eq_made held.counted]
      exact among
    -- The run was created at a known time, so the backoff of its phase has a known end.
    have ended : last.terminalAt ≠ 0 := by
      have dated := held.dated last (Select.mem_of_choose among)
      unfold Run.terminalAt
      grind
    have fits := backoffSeconds_le held.fits declared last.phase
    have until_ : backoffUntil s.schedule (lastRun s) =
        some (last.terminalAt + GoTime.seconds (backoffSeconds backoff last.phase)) := by
      simp only [backoffUntil, newest, Option.mem_def.mp declared]
      exact if_neg (not_or.mpr ⟨Int.not_le.mpr positive, ended⟩)
    have resumes := le_trans (resumed _ until_) (Int.ofNat_le.mpr due)
    rw [GoTime.seconds, GoTime.int64_eq (by omega) (by omega)] at resumes
    refine Int.ofNat_le.mp ?_
    rwa [Int.natCast_add, Int.natCast_mul, Int.toNat_of_nonneg positive.le]

/-! ### Every run of the system -/

variable {t t' : Sys} {event : Event}

theorem Held.next (held : Held t.world) (limits : keepsLimits t.world event = true)
    (here : passesReferHere t.world event = true) (stepped : (system env).next t event = some t') :
    Held t'.world := by
  cases event with
  | reconcile cutOff =>
    obtain ⟨-, ⟨⟩⟩ := Option.ite_none_right_eq_some.mp stepped
    have recorded (runs : List Run) (before : Held { t.world with runs }) :
        Held { t.world with
          runs
          schedule := if cutOff then t.world.schedule
            else t.world.schedule.record (reconcile env t.world).status } := by
      refine before.frame ?_ rfl (le_refl _)
      split
      · exact ⟨rfl, rfl, rfl, rfl, rfl, rfl, id⟩
      · exact .record _ _
    cases created : (reconcile env t.world).create with
    | none =>
      have kept := recorded t.world.runs held
      simpa [Sys.reconcile, World.pass, created] using kept
    | some run =>
      obtain ⟨a, launched, admitted, made, rfl, -⟩ := (creates_of_create created).pass
      have kept := recorded (t.world.runs ++ [launched.run]) (held.create here admitted made)
      simpa [Sys.reconcile, World.pass, created] using kept
  | edit spec =>
    cases stepped
    simp only [keepsLimits, Bool.and_eq_true, beq_iff_eq] at limits
    obtain ⟨⟨⟨fits, policy⟩, concurrent⟩, daily⟩ := limits
    exact held.frame ⟨rfl, rfl, rfl, policy, concurrent, daily, fun _ => fits⟩ rfl (le_refl _)
  | annotate | setControls | setProfiles =>
    cases stepped
    exact held.frame ⟨rfl, rfl, rfl, rfl, rfl, rfl, id⟩ rfl (le_refl _)
  | progress name phase startedAt completedAt =>
    cases stepped
    exact held.progress name phase startedAt completedAt
  | relist runs =>
    simp only [system] at stepped
    split at stepped
    next perm =>
      cases stepped
      exact held.relist (isPerm_iff.mp perm)
    next => cases stepped
  | wait duration =>
    cases stepped
    exact held.frame ⟨rfl, rfl, rfl, rfl, rfl, rfl, id⟩ rfl (le_add_right _ _)

/-- A system starts with a schedule that has made no run. -/
def Starts (t : Sys) : Prop := Fresh t.world

/-- While edits keep the limits and every pass finds templates that refer to the schedule itself,
the limits hold in every state, and an interval run is only created when nothing holds it back. -/
theorem schedule_limits (env : Env)
    (reached : (system env).Reaches Starts (fun t event =>
      keepsLimits t.world event = true ∧ passesReferHere t.world event = true) t) :
    Limited t.world ∧ ∀ run, (reconcile env t.world).create = some run →
      manualPending t.world.schedule = false → IntervalRunAllowed t.world := by
  have held : Held t.world := by
    refine reached.invariant (I := fun t : Sys => Held t.world)
      (fun t starts => Fresh.held starts) ?_
    exact fun _ held meets stepped => held.next meets.1 meets.2 stepped
  exact ⟨held.toLimited, fun run created interval => held.intervalRunAllowed created interval⟩

theorem unstamped (_token time : String) (parsed : none = some time) : isBlank time = false := by
  cases parsed

/-- Times print as numbers, and all hashes agree. -/
def sampleEnv : Env where
  shortHash _ := "h0"
  rfc3339 time := toString (time / second)
  rfc3339Nano time := toString time
  stamp time := toString (time / second)
  parseStamp _ := none
  parseStamp_solid := unstamped

def sampleSpec : AgentScheduleSpec where
  intervalSeconds := 60
  maxRunsPerDay := 3
  runTemplate := { prompt := "check" }

def sampleWorld : World where
  now := 1000 * second
  schedule := { ns := "anvil", name := "nightly", uid := 7, creationTimestamp := 900 * second,
                spec := sampleSpec }

theorem sampleWorld_fresh : Fresh sampleWorld where
  name := by decide +kernel
  ns := by decide +kernel
  identified := by decide
  clock := by decide
  fits := by decide
  unmade := rfl

/-- Run, finish the run, and run again at the next tick. -/
def twoTicks : List Event :=
  [.reconcile false, .progress "agentrun-nightly-1000-h0" .succeeded none none,
   .wait (60 * second), .reconcile false]

theorem schedule_limits_two_ticks :
    ∃ t, (system sampleEnv).Reaches Starts (fun t event =>
        keepsLimits t.world event = true ∧ passesReferHere t.world event = true) t ∧
      t.world.made.length = 2 ∧ Limited t.world :=
  Machine.Reaches.played (P := fun t => t.world.made.length = 2)
    (fun t event => keepsLimits t.world event && passesReferHere t.world event) twoTicks
    (.start (show Starts ⟨sampleWorld, [], 0⟩ from sampleWorld_fresh))
    (fun _ _ passes => Bool.and_eq_true_iff.mp passes) (by decide +kernel)
    fun _ reached two => ⟨two, (schedule_limits sampleEnv reached).1⟩

/-- The template names another schedule, so the runs it gives are not counted. -/
def foreignWorld : World where
  now := 1000 * second
  schedule := { ns := "anvil", name := "nightly", uid := 7, creationTimestamp := 900 * second,
                spec := { sampleSpec with
                  runTemplate := { scheduleRef := some { name := "weekly", ns := "anvil" } } } }

theorem foreignWorld_fresh : Fresh foreignWorld where
  name := by decide +kernel
  ns := by decide +kernel
  identified := by decide
  clock := by decide
  fits := by decide
  unmade := rfl

theorem foreign_template_overruns :
    ∃ t, (system sampleEnv).Reaches Starts (fun t event => keepsLimits t.world event = true) t ∧
      agentScheduleConcurrencyPolicy t.world.schedule = .forbid ∧ t.world.nonterminal = 2 ∧
      ¬Limited t.world := by
  refine Machine.Reaches.played
    (P := fun t => agentScheduleConcurrencyPolicy t.world.schedule = .forbid ∧ t.world.nonterminal = 2)
    (fun t event => keepsLimits t.world event) [.reconcile false, .wait (60 * second), .reconcile false]
    (.start (show Starts ⟨foreignWorld, [], 0⟩ from foreignWorld_fresh)) (fun _ _ passes => passes)
    (by decide +kernel) fun t _ facts => ⟨facts.1, facts.2, fun limited => ?_⟩
  have atMostOne := limited.forbid facts.1
  omega

end AnvilAgents.Automation.Schedule
