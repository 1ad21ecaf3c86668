import AnvilAgents.Proofs.RunAPI.StreamComplete

/-!
What the event stream of a run shows of a log that is too long for it.

The handler turns a line away when the budget has no room for it, and goes on with the lines that
follow: some of them may be smaller.
-/

namespace AnvilAgents.RunAPI.Stream

open List

variable {config : Config} {used : Nat} {lines : List LogLine}

def limitReached : StreamEvent := .reset "log_limit_reached"

/-- The handler receives lines one after the other, and writes what it makes of them. -/
def State.receiveAll (config : Config) (t : State) (lines : List LogLine) : State :=
  lines.foldl (fun t line => t.receiveLine config line true) t

/-- The lines shown are the first of those received, they are within the budget, and none comes after
the reset. -/
structure Clean (config : Config) (used : Nat) (lines : List LogLine) (written : List StreamEvent) :
    Prop where
  leads : written.filterMap StreamEvent.line? <+: lines
  within : used + ((written.filterMap StreamEvent.line?).map (·.bytes)).sum ≤ config.maxLogBytes
  last : written.Pairwise fun event later => event = limitReached → later.line? = none

/-- After the first line for which there is no room, there is none for any other. -/
def NoSmallerLater (config : Config) : Nat → List LogLine → Prop
  | _, [] => True
  | used, line :: rest =>
    if used + line.bytes ≤ config.maxLogBytes then NoSmallerLater config (used + line.bytes) rest
    else ∀ later ∈ rest, config.maxLogBytes < used + later.bytes

/-- The events that lines lead to. -/
def shown (config : Config) : Nat → List LogLine → List StreamEvent
  | _, [] => []
  | used, line :: rest =>
    if used + line.bytes ≤ config.maxLogBytes then .log line :: shown config (used + line.bytes) rest
    else limitReached :: shown config used rest

theorem receiveAll_written {t : State} (own : ∀ line ∈ lines, line.pod = t.currentPod) :
    (t.receiveAll config lines).written = t.written ++ shown config t.used lines := by
  induction lines generalizing t with
  | nil => exact (append_nil _).symm
  | cons line rest ih =>
    obtain ⟨mine, later⟩ := forall_mem_cons.mp own
    -- A line that is turned away leaves the pod and the budget as they are.
    have kept : (t.receiveLine config line true).currentPod = t.currentPod := by
      unfold State.receiveLine
      repeat' split
      all_goals rfl
    refine (ih (t := t.receiveLine config line true) (kept ▸ later)).trans ?_
    rw [State.receiveLine, if_neg (not_not.mpr mine), shown]
    split
    · exact append_assoc t.written [.log line] _
    · exact append_assoc t.written [limitReached] _

/-- Nothing is shown exactly if nothing fits. -/
theorem shown_silent_iff : (∀ event ∈ shown config used lines, event.line? = none) ↔
    ∀ line ∈ lines, config.maxLogBytes < used + line.bytes := by
  induction lines with
  | nil => exact ⟨nofun, nofun⟩
  | cons line rest ih =>
    rw [shown, forall_mem_cons]
    split
    next room => exact iff_of_false (fun silent => nomatch silent _ (.head _)) (by omega)
    next exceeds =>
      rw [forall_mem_cons, ih]
      exact ⟨fun silent => ⟨by omega, silent.2⟩, fun none => ⟨rfl, none.2⟩⟩

theorem shown_clean_iff (within : used ≤ config.maxLogBytes) :
    Clean config used lines (shown config used lines) ↔ NoSmallerLater config used lines := by
  induction lines generalizing used with
  | nil =>
    have leads : [] <+: ([] : List LogLine) := nil_prefix
    exact iff_of_true ⟨leads, within, .nil⟩ trivial
  | cons line rest ih =>
    rw [shown, NoSmallerLater]
    split
    next room =>
      rw [← ih room]
      refine ⟨fun ⟨leads, within, last⟩ => ⟨(prefix_cons_inj line).mp leads, ?_, (pairwise_cons.mp last).2⟩,
        fun ⟨leads, within, last⟩ => ⟨(prefix_cons_inj line).mpr leads, ?_, pairwise_cons.mpr ⟨nofun, last⟩⟩⟩
      · rw [Nat.add_assoc]
        exact within
      · rw [Nat.add_assoc] at within
        exact within
    next =>
      rw [← shown_silent_iff]
      refine ⟨fun clean event member => (pairwise_cons.mp clean.last).1 event member rfl, fun silent => ?_⟩
      have all : ∀ event ∈ limitReached :: shown config used rest, event.line? = none :=
        forall_mem_cons.mpr ⟨rfl, silent⟩
      have nothing := filterMap_eq_nil_iff.mpr all
      refine ⟨nothing ▸ nil_prefix, by rwa [nothing], ?_⟩
      exact .imp_of_mem (fun _ later _ _ => all _ later) (pairwise_of_forall fun _ _ => trivial)

/-! ### Runs of the stream -/

section Runs

variable {pod : String} {t t' : State}

def StreamEvent.ofLog (event : StreamEvent) : Bool :=
  event.line?.isSome || event == limitReached

/-- The events that lines of a log lead to, in the order in which they were written. -/
def State.logged (t : State) : List StreamEvent := t.written.filter StreamEvent.ofLog

/-- The line that the handler takes from its channel in a move. -/
def taken (t : State) : Move → List LogLine
  | .receiveLine _ => t.logLines.take 1
  | _ => []

/-- The lines that the handler takes from its channel in the course of some moves. -/
def received (config : Config) : List Move → State → List LogLine
  | [], _ => []
  | move :: moves, t =>
    taken t move ++ ((machine config).next t move).elim [] (received config moves)

/-- The run keeps its pod, and what is written for a line of its log reaches the client. -/
def keepsStream (pod : String) (_ : State) : Move → Bool
  | .receiveLine ok => ok
  | .receiveStatus (.run latest _) _ _ => keepsPod pod latest
  | _ => true

/-- The handler follows the log of the one pod of the run. -/
structure Follows (pod : String) (t : State) : Prop where
  current : t.currentPod = pod
  keeps : keepsPod pod t.run = true

/-- A move that has nothing to do with lines. -/
structure Apart (pod : String) (t t' : State) : Prop where
  logged : t'.logged = t.logged
  used : t'.used = t.used
  follows : Follows pod t'

variable (follows : Follows pod t)

include follows

theorem Follows.apart {event : StreamEvent} (other : event.ofLog = false)
    (written : t'.written = t.written ∨ t'.written = t.written ++ [event]) (used : t'.used = t.used)
    (current : t'.currentPod = t.currentPod) (run : t'.run = t.run) : Apart pod t t' := by
  refine ⟨?_, used, current.trans follows.current, run ▸ follows.keeps⟩
  rcases written with same | same
  · rw [State.logged, same, State.logged]
  · rw [State.logged, same, filter_append, State.logged]
    simp [other]

theorem Follows.quiet (written : t'.written = t.written) (used : t'.used = t.used)
    (current : t'.currentPod = t.currentPod) (run : t'.run = t.run) : Apart pod t t' :=
  follows.apart (show StreamEvent.heartbeat.ofLog = false from rfl) (.inl written) used current run

theorem Follows.write (event : StreamEvent) (ok : Bool) (other : event.ofLog = false) :
    Apart pod t (t.write event ok) := by
  cases ok with
  | true => exact follows.apart other (.inr rfl) rfl rfl rfl
  | false => exact follows.apart other (.inl rfl) rfl rfl rfl

theorem Follows.writeLast (event : StreamEvent) (ok : Bool) (other : event.ofLog = false) :
    Apart pod t (t.writeLast event ok) := by
  cases ok with
  | true => exact follows.apart other (.inr rfl) rfl rfl rfl
  | false => exact follows.apart other (.inl rfl) rfl rfl rfl

theorem Follows.startLogs (named : Text.trimSpace pod = pod) (now : Time) :
    Apart pod t (t.startLogs now) := by
  unfold State.startLogs
  dsimp only
  split
  next => exact ⟨rfl, rfl, follows⟩
  next starts =>
    refine ⟨rfl, rfl, ?_, follows.keeps⟩
    have keeps := follows.keeps
    unfold keepsPod at keeps
    split at keeps
    next none_ =>
      rw [none_] at starts
      exact (starts (.inl (by decide +kernel))).elim
    next name isName =>
      show Text.trimSpace (t.run.runnerPod.getD "") = pod
      rw [isName, Option.getD_some, beq_iff_eq.mp keeps, named]

theorem Follows.receiveStatus (named : Text.trimSpace pod = pod) {result : StatusResult} (now : Time)
    (ok : Bool)
    (keeps : ∀ latest changed, result = .run latest changed → keepsPod pod latest = true) :
    Apart pod t (t.receiveStatus result now ok) := by
  unfold State.receiveStatus
  split
  next => exact follows.writeLast _ ok rfl
  next => exact follows.write _ ok rfl
  next latest changed =>
    split
    next => exact follows.writeLast _ ok rfl
    split
    next =>
      have latestFollows : Follows pod { t with run := latest } :=
        ⟨follows.current, keeps latest changed rfl⟩
      have wrote := latestFollows.write (.status latest) ok rfl
      dsimp only
      split
      next => exact ⟨wrote.logged, wrote.used, wrote.follows⟩
      next =>
        have started := wrote.follows.startLogs named now
        exact ⟨started.logged.trans wrote.logged, started.used.trans wrote.used, started.follows⟩
    next =>
      have waits : Follows pod { t with place := .test } := ⟨follows.current, follows.keeps⟩
      have started := waits.startLogs named now
      exact ⟨started.logged, started.used, started.follows⟩

/-- Every move but the receipt of a line is apart from the lines. -/
theorem Follows.next (named : Text.trimSpace pod = pod) {move : Move}
    (meets : keepsStream pod t move = true) (other : ∀ ok, move ≠ .receiveLine ok)
    (stepped : (machine config).next t move = some t') : Apart pod t t' := by
  -- A follower writes nothing.
  have followed {index : Nat} {step : State → Follower → Option (State × FollowerState)}
      (steps : t.follow index step = some t') (silent : ∀ follower stepped state,
        step t follower = some (stepped, state) → ∃ lines done,
          stepped = { t with logLines := lines, logDone := done }) : Apart pod t t' := by
    obtain ⟨follower, after, state, -, did, rfl⟩ := follow_some steps
    obtain ⟨lines, done, rfl⟩ := silent follower after state did
    exact follows.quiet rfl rfl rfl rfl
  cases move with
  | test held ok =>
    obtain ⟨-, ⟨⟩⟩ := Option.ite_none_right_eq_some.mp stepped
    unfold State.test
    split
    next => exact follows.writeLast _ ok rfl
    next => exact follows.quiet rfl rfl rfl rfl
  | requestDone =>
    obtain ⟨-, ⟨⟩⟩ := Option.ite_none_right_eq_some.mp stepped
    exact follows.quiet rfl rfl rfl rfl
  | tokenExpired ok | durationReached ok =>
    obtain ⟨-, ⟨⟩⟩ := Option.ite_none_right_eq_some.mp stepped
    exact follows.writeLast _ ok rfl
  | heartbeat ok =>
    obtain ⟨-, ⟨⟩⟩ := Option.ite_none_right_eq_some.mp stepped
    exact follows.write _ ok rfl
  | receiveLine ok => exact (other ok rfl).elim
  | receiveDone now ok =>
    obtain ⟨done, rest, at_, next, rfl⟩ := receiveDone_some stepped
    unfold State.receiveDone
    split
    next => exact follows.quiet rfl rfl rfl rfl
    next =>
      split
      next => exact follows.quiet rfl rfl rfl rfl
      next => exact follows.quiet rfl rfl rfl rfl
      next => exact follows.quiet rfl rfl rfl rfl
      next =>
        have idle : Follows pod { t with
            logDone := rest, logActive := false, place := .test,
            retryLogsAt := now + 5 * second } := ⟨follows.current, follows.keeps⟩
        have wrote := idle.write (.error "logs_unavailable") ok rfl
        exact ⟨wrote.logged, wrote.used, wrote.follows⟩
  | receiveStatus result now ok =>
    obtain ⟨-, ⟨⟩⟩ := Option.ite_none_right_eq_some.mp stepped
    refine follows.receiveStatus named now ok fun latest changed isRun => ?_
    subst isRun
    exact meets
  | cancelRequest =>
    cases stepped
    exact follows.quiet rfl rfl rfl rfl
  | openLog | sendLine | sendDone | seeCancelled =>
    refine followed stepped fun follower stepped state did => ?_
    simp only [openLogStep, sendLineStep, sendDoneStep, seeCancelledStep] at did
    (repeat' split at did) <;> cases did <;> exact ⟨_, _, rfl⟩

/-- A line of another pod is dropped; one of the pod leads to what the budget makes of it. -/
theorem Follows.receiveLine (config : Config) (line : LogLine) (waiting later : List LogLine) :
    let t' := { t with logLines := waiting }.receiveLine config line true
    Follows pod t' ∧ t'.logged ++ shown config t'.used later =
      t.logged ++ shown config t.used (([line].filter (·.pod = pod)) ++ later) := by
  unfold State.receiveLine
  by_cases own : line.pod = pod
  · rw [if_neg (by simp [own, follows.current])]
    split
    next room =>
      refine ⟨⟨follows.current, follows.keeps⟩, ?_⟩
      simp [State.write, State.logged, shown, own, room, StreamEvent.ofLog, StreamEvent.line?]
    next exceeds =>
      refine ⟨⟨follows.current, follows.keeps⟩, ?_⟩
      simp [State.cancelLogs, State.logged, shown, own, exceeds, StreamEvent.ofLog, limitReached]
  · rw [if_pos (by simpa [follows.current] using own)]
    exact ⟨⟨follows.current, follows.keeps⟩, by simp [own, State.logged]⟩

/-- What a run of the stream writes for the lines that it receives is what the budget makes of those of
its pod. -/
theorem Follows.logged_of_play (named : Text.trimSpace pod = pod) {moves : List Move}
    (played : (machine config).play (keepsStream pod) moves t = some t') :
    t'.logged = t.logged ++ shown config t.used ((received config moves t).filter (·.pod = pod)) := by
  -- The budget goes on from what one move leaves.
  induction moves generalizing t with
  | nil =>
    cases played
    simp [received, shown]
  | cons move moves ih =>
    rw [Machine.play] at played
    split at played
    next meets =>
      obtain ⟨middle, stepped, rest⟩ := Option.bind_eq_some_iff.mp played
      rw [received, stepped, Option.elim_some, filter_append]
      cases move with
      | receiveLine ok =>
        cases ok with
        | false => cases meets
        | true =>
          obtain ⟨line, waiting, -, next, rfl⟩ := receiveLine_some stepped
          obtain ⟨kept, same⟩ := follows.receiveLine config line waiting
            ((received config moves _).filter (·.pod = pod))
          rw [ih kept rest, same, taken, next]
          rfl
      | _ =>
        have apart := follows.next named meets (fun ok same => by cases same) stepped
        rw [ih apart.follows rest, apart.logged, apart.used]
        rfl
    next => cases played

end Runs

/-- What a handler that follows the log of a pod writes when it receives these lines of it. -/
def streamed (config : Config) (run : RunView) (pod : String) (lines : List LogLine) :
    List StreamEvent :=
  (State.receiveAll config { initialUID := run.uid, run, currentPod := pod, logActive := true }
    (lines.map ({ · with pod }))).written

/-- What the stream shows of a pod is clean exactly if no line fits any more once one did not. -/
theorem log_budget_clean_iff (config : Config) (run : RunView) (pod : String) (lines : List LogLine) :
    Clean config 0 (lines.map ({ · with pod })) (streamed config run pod lines) ↔
      NoSmallerLater config 0 (lines.map ({ · with pod })) := by
  rw [streamed, receiveAll_written (by simp)]
  exact shown_clean_iff (Nat.zero_le _)

/-- The second of three lines does not fit; the third one does, and is shown after the reset. -/
def smallerLast : List LogLine :=
  [[97, 97, 97, 97], [97, 97, 97, 97], [98]].map (logLine sampleConfig "runner" 7)

theorem smaller_line_shown_after_reset :
    ¬ Clean { sampleConfig with maxLogBytes := 8 } 0 (smallerLast.map ({ · with pod := "runner" }))
      (streamed { sampleConfig with maxLogBytes := 8 } (sampleRun 1 .running) "runner" smallerLast) :=
  fun clean => absurd clean.last (by decide)

end AnvilAgents.RunAPI.Stream
