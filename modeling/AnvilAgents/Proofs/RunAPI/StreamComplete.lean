import AnvilAgents.RunAPI.Stream
import Mathlib.Algebra.GroupWithZero.Nat

/-!
What a run's event stream shows of the log.

What was written, what waits in the channel and what the follower has still to send make up the lines
that the follower has read, in this order. The handler knows that the follower has ended by a message
that was sent after the last line, so that nothing but the channel can hold lines then. The follower
reads a part of the log that is limited by its bytes, while the budget counts no carriage returns.
-/

namespace AnvilAgents.RunAPI.Stream

open Text List Option

variable {config : Config} {pod : String} {log : Log} {all : List LogLine} {t t' : State}

/-- The lines of a log as a stream shows them. -/
def podLines (config : Config) (pod : String) (log : Log) : List LogLine :=
  (scanLines log.text).map (logLine config pod log.podUID)

def StreamEvent.line? : StreamEvent → Option LogLine
  | .log line => some line
  | _ => none

/-- The log events that were written, in order. -/
def State.lines (t : State) : List LogLine := t.written.filterMap StreamEvent.line?

/-- The log is within the byte budget, and its follower ends without error. -/
structure Fits (config : Config) (pod : String) (log : Log) : Prop where
  named : trimSpace pod = pod ∧ pod ≠ ""
  budget : ((podLines config pod log).map (·.bytes)).sum ≤ config.maxLogBytes
  short : ∀ line ∈ rawLines [] (log.cut config).text, line.length < lineLimit config
  whole : log.error = none

/-- A view of a run that has no other pod, and that has it once it is complete. -/
def keepsPod (pod : String) (run : RunView) : Bool :=
  match run.runnerPod with
  | none => !agentRunStreamComplete run false
  | some name => name == pod

/-- The moves of a schedule in which the run keeps its pod and the follower ends without error.

A follower that has sent all its lines may find its context cancelled before it says so. -/
def undisturbed (pod : String) (log : Log) (t : State) : Move → Bool
  | .receiveStatus (.run latest _) _ _ => keepsPod pod latest
  | .openLog _ (.ok opened) => opened == log
  | .openLog _ (.error _) => false
  | .seeCancelled index => t.followers[index]?.all fun follower => follower.state = .sending [] none
  | _ => true

/-- The handler has read a run and begins. -/
def Begins (pod : String) (t : State) : Prop :=
  ∃ run now, keepsPod pod run = true ∧ t = State.startLogs { initialUID := run.uid, run } now

/-- The states that such a schedule leads to. -/
abbrev Shown (config : Config) (pod : String) (log : Log) : State → Prop :=
  (machine config).Reaches (Begins pod) fun t move => undisturbed pod log t move = true

/-- In no such schedule a line is lost: log events are the first lines of the log, in order, and the
event that says that the run is complete comes last, after all the lines. -/
def LosesNothing (config : Config) (pod : String) (log : Log) : Prop :=
  ∀ t, Shown config pod log t → t.lines <+: podLines config pod log ∧
    ∀ code run, .terminal code run ∈ t.written →
      t.written.getLast? = some (.terminal code run) ∧
        (code = "deleted" ∨ code = "replaced" ∨ t.lines = podLines config pod log)

/-! ### What the follower reads -/

/-- The bytes that the budget counts for a text. -/
def counted (begun text : Bytes) : Nat :=
  ((rawLines begun text).map fun line => (dropCR line).length + 1).sum

theorem length_dropCR (line : Bytes) :
    line.length ≤ (dropCR line).length + 1 ∧ (dropCR line).length ≤ line.length := by
  unfold dropCR
  split
  · rw [length_dropLast]
    omega
  · omega

/-- A line that is begun counts, but for its carriage return. -/
theorem length_le_counted {begun : Bytes} (text : Bytes) (some_ : begun ≠ []) :
    begun.length ≤ counted begun text := by
  induction text generalizing begun with
  | nil =>
    have short := (length_dropCR begun.reverse).1
    simpa [counted, rawLines, some_] using short
  | cons byte rest ih =>
    rw [counted, rawLines]
    split
    · have short := (length_dropCR begun.reverse).1
      simp only [length_reverse, map_cons, sum_cons] at short ⊢
      omega
    · exact (Nat.le_succ _).trans (ih (cons_ne_nil byte begun))

theorem counted_take_le (n : Nat) (begun text : Bytes) :
    counted begun (text.take n) ≤ counted begun text := by
  induction text generalizing n begun with
  | nil => simp
  | cons byte rest ih =>
    cases n with
    | zero =>
      -- The line that is cut has at least as many bytes in the whole text.
      by_cases none_ : begun = []
      · simp [none_, counted, rawLines]
      rw [counted, counted, rawLines, take_zero, rawLines, if_neg none_]
      split
      · simp
      · have longer := length_le_counted rest (cons_ne_nil byte begun)
        have short := (length_dropCR begun.reverse).2
        simp only [counted, length_cons, length_reverse, map_cons, map_nil, sum_cons,
          sum_nil] at longer short ⊢
        omega
    | succ n =>
      rw [take_succ_cons, counted, counted, rawLines, rawLines]
      split
      · simp only [map_cons, sum_cons]
        exact Nat.add_le_add_left (ih n []) _
      · exact ih n (byte :: begun)

theorem podLines_bytes (config : Config) (pod : String) (log : Log) :
    ((podLines config pod log).map (·.bytes)).sum = counted [] log.text := by
  rw [podLines, scanLines, counted, List.map_map, List.map_map]
  rfl

/-- What the follower of a pod has to send, within the budget. -/
structure Sends (config : Config) (pod : String) (log : Log) (all : List LogLine) : Prop where
  named : trimSpace pod = pod ∧ pod ≠ ""
  budget : (all.map (·.bytes)).sum ≤ config.maxLogBytes
  own : ∀ line ∈ all, line.pod = pod
  reads : ∀ cancelled, Follower.reads config ⟨pod, cancelled, .opening⟩ log = .sending all none

/-- The follower of a log that fits sends the lines of the part that it reads. -/
theorem Fits.sends (fits : Fits config pod log) :
    Sends config pod log (podLines config pod (log.cut config)) where
  named := fits.named
  budget := by
    have budget := fits.budget
    rw [podLines_bytes] at budget ⊢
    exact (counted_take_le _ [] log.text).trans budget
  own line member := by
    obtain ⟨raw, -, rfl⟩ := mem_map.mp member
    rfl
  reads cancelled := by
    have all : ∀ line ∈ rawLines [] (log.cut config).text,
        decide (line.length < lineLimit config) = true :=
      fun line member => decide_eq_true (fits.short line member)
    unfold Follower.reads scan
    simp only [takeWhile_eq_self_iff.mpr all, if_pos (all_eq_true.mpr all), fits.whole]
    simp [podLines, scanLines, Log.cut]

/-! ### The invariant -/

/-- The followers, and what the handler knows of them. -/
structure View where
  followers : List Follower
  currentPod : String
  finishedPod : String
  logActive : Bool
  logDone : List LogDone

def State.view (t : State) : View :=
  ⟨t.followers, t.currentPod, t.finishedPod, t.logActive, t.logDone⟩

/-- Where the one follower stands, and what it has still to send. -/
inductive Stage (pod : String) (all : List LogLine) : View → List LogLine → Prop
  | unstarted : Stage pod all ⟨[], "", "", false, []⟩ (all)
  | opening {cancelled : Bool} {finishedPod : String} :
      Stage pod all ⟨[⟨pod, cancelled, .opening⟩], pod, finishedPod, true, []⟩
        (all)
  | sending {cancelled : Bool} {finishedPod : String} {rest : List LogLine} :
      Stage pod all ⟨[⟨pod, cancelled, .sending rest none⟩], pod, finishedPod, true, []⟩ rest
  | ended {cancelled : Bool} {finishedPod : String} :
      Stage pod all ⟨[⟨pod, cancelled, .ended⟩], pod, finishedPod, true, [⟨pod, none⟩]⟩ []
  | silent {cancelled : Bool} {finishedPod : String} :
      Stage pod all ⟨[⟨pod, cancelled, .ended⟩], pod, finishedPod, true, []⟩ []
  | finished {cancelled : Bool} :
      Stage pod all ⟨[⟨pod, cancelled, .ended⟩], pod, pod, false, []⟩ []

/-- What holds while the handler runs. -/
structure Live (pod : String) (all : List LogLine) (t : State) : Prop where
  stage : ∃ rest, Stage pod all t.view rest ∧
    t.lines ++ t.logLines ++ rest = all
  used : t.used = (t.lines.map (·.bytes)).sum
  run : keepsPod pod t.run = true
  begun : t.run.runnerPod = some pod → t.followers ≠ []
  unended : ∀ code run, .terminal code run ∉ t.written

/-- A terminal event says that the run is gone, or comes after all the lines. -/
def Ends (pod : String) (all : List LogLine) (t : State) (code : String) : Prop :=
  code = "deleted" ∨ code = "replaced" ∨ t.lines = all

/-- Lines are written in order, and all of them before the event that says that the run is
complete. -/
structure Flow (pod : String) (all : List LogLine) (t : State) : Prop where
  live : t.place ≠ .closed → Live pod all t
  leads : t.lines <+: all
  ends : ∀ code run, .terminal code run ∈ t.written →
    t.written.getLast? = some (.terminal code run) ∧ Ends pod all t code

theorem cancelFollower_nil (index : Option Nat) : cancelFollower index [] = [] := by
  unfold cancelFollower
  split
  · rfl
  · exact modify_nil _ _

theorem lines_append (t : State) (event : StreamEvent) :
    { t with written := t.written ++ [event] }.lines = t.lines ++ event.line?.toList := by
  simp only [State.lines, filterMap_append, filterMap_cons, filterMap_nil]
  cases event.line? <;> rfl

theorem agentRunStreamComplete_of_held {run : RunView} {held : Bool}
    (complete : agentRunStreamComplete run held = true) : agentRunStreamComplete run false = true := by
  unfold agentRunStreamComplete at complete ⊢
  cases phase : run.phase <;> simp [phase] at complete ⊢

variable {step : State → Follower → Option (State × FollowerState)} {index : Nat}

variable {follower : Follower}

theorem follow_some (followed : t.follow index step = some t') :
    ∃ follower stepped state, t.followers[index]? = some follower ∧
      step t follower = some (stepped, state) ∧
      t' = { stepped with
        followers := stepped.followers.modify index fun follower => { follower with state } } := by
  obtain ⟨follower, found, rest⟩ := bind_eq_some_iff.mp followed
  obtain ⟨⟨stepped, state⟩, did, done⟩ := bind_eq_some_iff.mp rest
  cases done
  exact ⟨follower, stepped, state, found, did, rfl⟩

/-- A line is received while the handler waits, from the front of its channel. -/
theorem receiveLine_some {ok : Bool}
    (stepped : (machine config).next t (.receiveLine ok) = some t') :
    ∃ line rest, t.place = .select ∧ t.logLines = line :: rest ∧
      t' = { t with logLines := rest }.receiveLine config line ok := by
  simp only [machine] at stepped
  split at stepped
  next line rest at_ next =>
    cases stepped
    exact ⟨line, rest, at_, next, rfl⟩
  next => cases stepped

theorem receiveDone_some {now : Time} {ok : Bool}
    (stepped : (machine config).next t (.receiveDone now ok) = some t') :
    ∃ done rest, t.place = .select ∧ t.logDone = done :: rest ∧
      t' = { t with logDone := rest }.receiveDone config done now ok := by
  simp only [machine] at stepped
  split at stepped
  next done rest at_ next =>
    cases stepped
    exact ⟨done, rest, at_, next, rfl⟩
  next => cases stepped

/-- The one follower there is. -/
theorem only_follower {other : Follower} (found : [follower][index]? = some other) :
    index = 0 ∧ other = follower := by
  cases index with
  | zero => exact ⟨rfl, (some.inj found).symm⟩
  | succ index => simp at found

/-- The handler returns, and nothing more is written. -/
theorem Flow.closed (flow : Flow pod all t) (closed : t'.place = .closed)
    (written : t'.written = t.written) : Flow pod all t' := by
  have lines : t'.lines = t.lines := congrArg (filterMap _) written
  refine ⟨fun there => (there closed).elim, lines ▸ flow.leads, fun code run member => ?_⟩
  obtain ⟨last, ends⟩ := flow.ends code run (written ▸ member)
  rw [Ends, lines, written]
  exact ⟨last, ends⟩

/-- Following the log is begun once, and not again when it is done. -/
theorem live_startLogs (sends : Sends config pod log all) (now : Time)
    (stage : ∃ rest, Stage pod all t.view rest ∧
      t.lines ++ t.logLines ++ rest = all)
    (used : t.used = (t.lines.map (·.bytes)).sum) (run : keepsPod pod t.run = true)
    (unended : ∀ code run, .terminal code run ∉ t.written) :
    Live pod all (t.startLogs now) := by
  obtain ⟨named, some_⟩ := sends.named
  unfold State.startLogs
  dsimp only
  split
  next skips =>
    refine ⟨stage, used, run, fun follows none => ?_, unended⟩
    -- Nothing is being followed, so the pod is neither finished nor current.
    rw [follows, getD_some, named] at skips
    obtain ⟨rest, stage, -⟩ := stage
    cases t
    dsimp only [State.view] at stage
    cases stage with
    | unstarted =>
      rcases skips with empty | empty | ⟨empty, -⟩
      · exact some_ empty
      · exact some_ empty
      · exact some_ empty
    | opening | sending | ended | silent | finished => cases none
  next starts =>
    have isPod : t.run.runnerPod = some pod := by
      unfold keepsPod at run
      split at run
      next none =>
        rw [none] at starts
        exact (starts (.inl (by decide +kernel))).elim
      next name isName => rw [isName, beq_iff_eq.mp run]
    rw [isPod, getD_some, named] at starts ⊢
    simp only [not_or, not_and] at starts
    obtain ⟨rest, stage, whole⟩ := stage
    cases t
    dsimp only [State.view] at stage isPod
    cases stage with
    | unstarted =>
      simp only [State.cancelLogs, cancelFollower_nil, isPod]
      exact ⟨⟨_, .opening, whole⟩, used, run, fun _ => nofun, unended⟩
    | opening | sending | ended | silent => exact ((starts.2.2 rfl).1 rfl).elim
    | finished => exact (starts.2.1 rfl).elim

section Live

variable (live : Live pod all t)

include live

theorem Live.flow : Flow pod all t where
  live _ := live
  leads := by
    obtain ⟨rest, -, whole⟩ := live.stage
    exact ⟨t.logLines ++ rest, by rw [← append_assoc, whole]⟩
  ends code run member := (live.unended code run member).elim

/-! ### What the handler does -/

variable {event : StreamEvent}

/-- An event that is not terminal, with the line that it shows. -/
theorem Live.wrote {line : List LogLine} {waiting : List LogLine} {used : Nat} (event : StreamEvent)
    (place : Place) (shows : event.line?.toList = line) (next : t.logLines = line ++ waiting)
    (counts : used = t.used + (line.map (·.bytes)).sum)
    (other : ∀ code run, event ≠ .terminal code run) : Live pod all { t with
      logLines := waiting, used, written := t.written ++ [event], place } := by
  have lines : State.lines { t with logLines := waiting, used, written := t.written ++ [event], place } =
      t.lines ++ line := shows ▸ lines_append t event
  obtain ⟨rest, stage, whole⟩ := live.stage
  refine ⟨⟨rest, stage, ?_⟩, ?_, live.run, live.begun,
    fun code run member => ?_⟩
  · -- The line moves from the head of the channel to the end of what was written.
    rw [lines, ← whole, next]
    simp
  · rw [lines, counts, live.used]
    simp
  · rcases mem_append.mp member with before | last
    · exact live.unended code run before
    · exact other code run (mem_singleton.mp last).symm

/-- An event that is neither a log line nor terminal. -/
theorem Live.write (ok : Bool) (silent : event.line? = none)
    (other : ∀ code run, event ≠ .terminal code run) : Flow pod all (t.write event ok) := by
  unfold State.write
  split
  next => exact (live.wrote event .test (congrArg Option.toList silent) rfl rfl other).flow
  next => exact live.flow.closed rfl rfl

/-- A last event; if it says that the run is complete, all lines were written. -/
theorem Live.writeLast (ok : Bool) (silent : event.line? = none)
    (ends : ∀ code run, event = .terminal code run → Ends pod all t code) :
    Flow pod all (t.writeLast event ok) := by
  cases ok with
  | false => exact live.flow.closed rfl rfl
  | true =>
    have lines : (t.writeLast event true).lines = t.lines := by
      have appended := lines_append t event
      rw [silent] at appended
      exact appended.trans (append_nil _)
    refine ⟨fun there => (there rfl).elim, lines ▸ live.flow.leads, fun code run member => ?_⟩
    rcases mem_append.mp member with before | last
    · exact (live.unended _ _ before).elim
    · obtain rfl : StreamEvent.terminal code run = event := mem_singleton.mp last
      rw [Ends, lines]
      exact ⟨getLast?_concat, ends code run rfl⟩

/-- When the follower has ended and the channel is empty, all lines were written. -/
theorem Live.complete (begun : t.followers ≠ []) (idle : t.logActive = false)
    (empty : t.logLines = []) : t.lines = all := by
  obtain ⟨rest, stage, whole⟩ := live.stage
  have none : rest = [] := by
    cases t
    dsimp only [State.view] at stage
    cases stage with
    | unstarted => exact (begun rfl).elim
    | opening | sending => cases idle
    | ended | silent | finished => rfl
  rw [none, empty, append_nil, append_nil] at whole
  exact whole

theorem Live.test (held ok : Bool) : Flow pod all (t.test held ok) := by
  unfold State.test
  split
  next ends =>
    refine live.writeLast ok rfl fun code run _ => .inr (.inr ?_)
    -- A complete run has its pod, so that its log has been followed.
    have complete := agentRunStreamComplete_of_held ends.1
    have keeps := live.run
    unfold keepsPod at keeps
    split at keeps
    next none =>
      rw [complete] at keeps
      cases keeps
    rename_i name named
    rw [beq_iff_eq.mp keeps] at named
    exact live.complete (live.begun named) ends.2.1 ends.2.2
  next => exact Live.flow ⟨live.stage, live.used, live.run, live.begun, live.unended⟩

variable {waiting : List LogLine}

/-- A line in the channel is of the pod that is followed, and the budget has room for it. -/
theorem Live.line (sends : Sends config pod log all) {line : LogLine}
    (next : t.logLines = line :: waiting) :
    line.pod = pod ∧ t.currentPod = pod ∧ t.used + line.bytes ≤ config.maxLogBytes := by
  obtain ⟨rest, stage, whole⟩ := live.stage
  rw [next] at whole
  have member : line ∈ all := by
    rw [← whole]
    simp
  refine ⟨sends.own line member, ?_, ?_⟩
  · cases t
    dsimp only [State.view] at stage
    cases stage with
    | unstarted =>
      -- Nothing can be in the channel before the log is followed.
      have length := congrArg length whole
      simp only [length_append, length_cons] at length
      omega
    | opening | sending | ended | silent | finished => rfl
  · -- The lines that were written and this one are among those of the log.
    have total := sends.budget
    rw [← whole] at total
    simp only [map_append, map_cons, sum_append, sum_cons] at total
    rw [live.used]
    omega

theorem Live.receiveLine (sends : Sends config pod log all) {line : LogLine}
    (next : t.logLines = line :: waiting) (ok : Bool) :
    Flow pod all ({ t with logLines := waiting }.receiveLine config line ok) := by
  obtain ⟨ofPod, current, room⟩ := live.line sends next
  unfold State.receiveLine
  rw [if_neg (by rw [ofPod, current]; simp), if_pos room, State.write]
  split
  next => exact (live.wrote (.log line) .test rfl next (by simp [StreamEvent.line?]) nofun).flow
  next => exact live.flow.closed rfl rfl

/-- The message that the follower has ended says that it has sent everything. -/
theorem Live.receiveDone {done : LogDone} {waiting : List LogDone}
    (next : t.logDone = done :: waiting) (now : Time) (ok : Bool) :
    Flow pod all ({ t with logDone := waiting }.receiveDone config done now ok) := by
  obtain ⟨rest, stage, whole⟩ := live.stage
  cases t
  dsimp only [State.view] at stage
  cases stage with
  | unstarted | opening | sending | silent | finished => cases next
  | ended =>
    cases next
    unfold State.receiveDone
    rw [if_neg (by simp)]
    exact Live.flow ⟨⟨[], .finished, whole⟩, live.used, live.run, live.begun, live.unended⟩

theorem Live.receiveStatus (sends : Sends config pod log all) {result : StatusResult} (now : Time)
    (ok : Bool)
    (keeps : ∀ latest changed, result = .run latest changed → keepsPod pod latest = true) :
    Flow pod all (t.receiveStatus result now ok) := by
  unfold State.receiveStatus
  split
  next => exact live.writeLast ok rfl fun _ _ same => by cases same; exact .inl rfl
  next => exact live.write ok rfl nofun
  rename_i latest changed
  have latestKeeps := keeps latest changed rfl
  split
  next => exact live.writeLast ok rfl fun _ _ same => by cases same; exact .inr (.inl rfl)
  split
  next =>
    cases ok with
    | false => exact live.flow.closed rfl rfl
    | true =>
      have wrote := live.wrote (.status latest) .test rfl rfl rfl nofun
      rw [if_neg (by simp [State.write])]
      obtain ⟨rest, stage, whole⟩ := wrote.stage
      exact (live_startLogs (t := State.write { t with run := latest } (.status latest) true) sends now
        ⟨rest, stage, whole⟩ wrote.used latestKeeps wrote.unended).flow
  next => exact (live_startLogs (t := { t with place := .test }) sends now live.stage live.used live.run
      live.unended).flow

/-! ### What the follower does -/

/-- The steps of a follower that reads the log without an error. -/
theorem Live.followed (sends : Sends config pod log all)
    (does : step ∈ [openLogStep config (.ok log), sendLineStep, sendDoneStep])
    (followed : t.follow index step = some t') : Live pod all t' := by
  obtain ⟨other, _, state, found, did, rfl⟩ := follow_some followed
  obtain ⟨rest, stage, whole⟩ := live.stage
  simp only [mem_cons, not_mem_nil, or_false] at does
  cases t
  dsimp only [State.view] at stage
  cases stage with
  | unstarted => cases found
  | opening =>
    obtain ⟨rfl, rfl⟩ := only_follower found
    rcases does with rfl | rfl | rfl <;> cases did
    exact ⟨⟨_, sends.reads _ ▸ .sending, whole⟩, live.used, live.run, fun _ => nofun, live.unended⟩
  | sending =>
    obtain ⟨rfl, rfl⟩ := only_follower found
    rcases does with rfl | rfl | rfl
    · cases did
    · cases rest with
      | nil => cases did
      | cons line after =>
        obtain ⟨-, did⟩ := ite_none_right_eq_some.mp did
        cases did
        refine ⟨⟨after, .sending, ?_⟩, live.used, live.run, fun _ => nofun, live.unended⟩
        -- The line moves from the follower to the end of the channel.
        simpa [State.lines] using whole
    · -- Only a follower that has sent all its lines says that it has ended.
      cases rest with
      | cons => cases did
      | nil =>
        cases did
        exact ⟨⟨[], .ended, whole⟩, live.used, live.run, fun _ => nofun, live.unended⟩
  | ended | silent | finished =>
    obtain ⟨rfl, rfl⟩ := only_follower found
    rcases does with rfl | rfl | rfl <;> cases did

/-- A follower that has sent all its lines may end without a word. -/
theorem Live.cancelled (followed : t.follow index seeCancelledStep = some t')
    (sent : (t.followers[index]?.all fun follower => follower.state = .sending [] none) = true) :
    Live pod all t' := by
  obtain ⟨other, _, state, found, did, rfl⟩ := follow_some followed
  obtain ⟨rest, stage, whole⟩ := live.stage
  rw [found, all_some, decide_eq_true_eq] at sent
  unfold seeCancelledStep at did
  rw [sent] at did
  obtain ⟨-, did⟩ := ite_none_right_eq_some.mp did
  cases did
  cases t
  dsimp only [State.view] at stage
  cases stage with
  | unstarted => cases found
  | opening | ended | silent | finished =>
    obtain ⟨-, rfl⟩ := only_follower found
    cases sent
  | sending =>
    obtain ⟨rfl, rfl⟩ := only_follower found
    cases sent
    exact ⟨⟨[], .silent, whole⟩, live.used, live.run, fun _ => nofun, live.unended⟩

end Live

/-! ### Every schedule -/

theorem Begins.live (sends : Sends config pod log all) (begins : Begins pod t) :
    Live pod all t := by
  obtain ⟨run, now, keeps, rfl⟩ := begins
  exact live_startLogs sends now ⟨_, .unstarted, rfl⟩ rfl keeps
    fun _ _ => not_mem_nil

/-- A follower leaves a handler that has returned where it is. -/
theorem Flow.followed (config : Config) (log : Log) (flow : Flow pod all t)
    (does : step ∈ [openLogStep config (.ok log), sendLineStep, sendDoneStep, seeCancelledStep])
    (followed : t.follow index step = some t')
    (there : t.place ≠ .closed → Live pod all t') : Flow pod all t' := by
  by_cases closed : t.place = .closed
  · obtain ⟨follower, stepped, state, -, did, rfl⟩ := follow_some followed
    simp only [mem_cons, not_mem_nil, or_false] at does
    rcases does with rfl | rfl | rfl | rfl
    · unfold openLogStep at did
      (repeat' split at did) <;> cases did <;> exact flow.closed closed rfl
    · unfold sendLineStep at did
      (repeat' split at did) <;> cases did
      exact flow.closed closed rfl
    · unfold sendDoneStep at did
      (repeat' split at did) <;> cases did <;> exact flow.closed closed rfl
    · unfold seeCancelledStep at did
      (repeat' split at did) <;> cases did <;> exact flow.closed closed rfl
  · exact (there closed).flow

theorem Flow.next (sends : Sends config pod log all) (flow : Flow pod all t) {move : Move}
    (meets : undisturbed pod log t move = true)
    (stepped : (machine config).next t move = some t') : Flow pod all t' := by
  -- A move of the handler is made while it is there.
  have there {place : Place} (at_ : t.place = place) (open_ : place ≠ .closed) :
      Live pod all t := flow.live (at_ ▸ open_)
  cases move with
  | test held ok =>
    obtain ⟨at_, ⟨⟩⟩ := ite_none_right_eq_some.mp stepped
    exact (there at_ nofun).test held ok
  | requestDone =>
    obtain ⟨-, ⟨⟩⟩ := ite_none_right_eq_some.mp stepped
    exact flow.closed rfl rfl
  | tokenExpired ok | durationReached ok =>
    obtain ⟨at_, ⟨⟩⟩ := ite_none_right_eq_some.mp stepped
    exact (there at_ nofun).writeLast ok rfl nofun
  | heartbeat ok =>
    obtain ⟨at_, ⟨⟩⟩ := ite_none_right_eq_some.mp stepped
    exact (there at_ nofun).write ok rfl nofun
  | receiveLine ok =>
    obtain ⟨line, rest, at_, next, rfl⟩ := receiveLine_some stepped
    exact (there at_ nofun).receiveLine sends next ok
  | receiveDone now ok =>
    obtain ⟨done, rest, at_, next, rfl⟩ := receiveDone_some stepped
    exact (there at_ nofun).receiveDone next now ok
  | receiveStatus result now ok =>
    obtain ⟨at_, ⟨⟩⟩ := ite_none_right_eq_some.mp stepped
    refine (there at_ nofun).receiveStatus sends now ok fun latest changed isRun => ?_
    subst isRun
    exact meets
  | cancelRequest =>
    cases stepped
    refine ⟨fun open_ => ?_, flow.leads, flow.ends⟩
    have live := flow.live open_
    exact ⟨live.stage, live.used, live.run, live.begun, live.unended⟩
  | openLog index result =>
    cases result with
    | error fault => cases meets
    | ok opened =>
      obtain rfl : opened = log := beq_iff_eq.mp meets
      refine flow.followed config opened (by simp) stepped fun open_ => ?_
      exact (flow.live open_).followed sends (by simp) stepped
  | sendLine index | sendDone index =>
    refine flow.followed config log (by simp) stepped fun open_ => ?_
    exact (flow.live open_).followed sends (by simp) stepped
  | seeCancelled index =>
    refine flow.followed config log (by simp) stepped fun open_ => ?_
    exact (flow.live open_).cancelled stepped meets

/-- What every schedule shows is what the follower has to send. -/
theorem flow_of_reaches (sends : Sends config pod log all) (reached : Shown config pod log t) :
    Flow pod all t := by
  refine reached.invariant (I := Flow pod all) (fun t begins => (begins.live sends).flow) ?_
  exact fun _ flow meets stepped => flow.next sends meets stepped

/-! ### A schedule to the end -/

/-- A run that has succeeded. -/
def doneRun (pod : String) : RunView where
  uid := 0
  resourceVersion := 0
  phase := .succeeded
  runnerPod := some pod

/-- The handler waits, and its follower has these lines still to send. -/
def following (pod : String) (rest : List LogLine) (used : Nat) (written : List StreamEvent) : State where
  place := .select
  initialUID := 0
  run := doneRun pod
  currentPod := pod
  logActive := true
  logCancel := some 0
  used := used
  followers := [⟨pod, false, .sending rest none⟩]
  written := written

/-- Every line is received as soon as it is sent, and then the end. -/
theorem following_ends {rest : List LogLine} {used : Nat} {written : List StreamEvent}
    (own : ∀ line ∈ rest, line.pod = pod)
    (room : used + (rest.map (·.bytes)).sum ≤ config.maxLogBytes)
    (reached : Shown config pod log (following pod rest used written)) :
    ∃ t, Shown config pod log t ∧ .terminal "" (some (doneRun pod)) ∈ t.written := by
  induction rest generalizing used written with
  | nil =>
    have sent : Shown config pod log { following pod [] used written with
        logDone := [⟨pod, none⟩], followers := [⟨pod, false, .ended⟩] } :=
      reached.step (show undisturbed pod log _ (.sendDone 0) = true from rfl) rfl
    let idle : State := { following pod [] used written with
      place := .test, logActive := false, finishedPod := pod, followers := [⟨pod, false, .ended⟩] }
    have received : Shown config pod log idle := by
      refine sent.step (show undisturbed pod log _ (.receiveDone 0 true) = true from rfl) ?_
      simp [machine, State.receiveDone, following, idle]
    have ended : Shown config pod log (idle.writeLast (.terminal "" (some (doneRun pod))) true) :=
      received.step (show undisturbed pod log _ (.test false true) = true from rfl) rfl
    exact ⟨_, ended, mem_append_right _ (.head _)⟩
  | cons line rest ih =>
    obtain ⟨mine, others⟩ := forall_mem_cons.mp own
    rw [map_cons, sum_cons] at room
    have fits : used + line.bytes ≤ config.maxLogBytes := by omega
    have sent : Shown config pod log { following pod rest used written with logLines := [line] } :=
      reached.step (show undisturbed pod log _ (.sendLine 0) = true from rfl) rfl
    have received : Shown config pod log { following pod rest (used + line.bytes)
        (written ++ [.log line]) with place := .test } := by
      refine sent.step (show undisturbed pod log _ (.receiveLine true) = true from rfl) ?_
      simp [machine, State.receiveLine, State.write, following, mine, fits]
    have ready : Shown config pod log
        (following pod rest (used + line.bytes) (written ++ [.log line])) :=
      received.step (show undisturbed pod log _ (.test false true) = true from rfl) rfl
    exact ih others (by omega) ready

def sampleConfig : Config where
  maxLogBytes := 64
  maxLineBytes := 64
  statusPollInterval := second
  parseTime _ := none

/-- Two lines of one letter. -/
def sampleLog : Log where
  podUID := 7
  text := [97, 10, 98, 10]

theorem sampleLog_fits : Fits sampleConfig "runner" sampleLog where
  named := by decide +kernel
  budget := by decide
  short := by decide
  whole := rfl

def sampleRun (resourceVersion : Nat) (phase : AgentRunPhase) : RunView where
  uid := 5
  resourceVersion := resourceVersion
  phase := phase
  runnerPod := some "runner"

/-- Five lines of one letter that end like those of a terminal. -/
def terminalLog : Log where
  podUID := 7
  text := [97, 13, 10, 97, 13, 10, 97, 13, 10, 97, 13, 10, 97, 13, 10]

/-- The log is followed to the end of what is read of it. -/
def toTheEnd : List Move :=
  [.openLog 0 (.ok terminalLog), .test false true] ++
    (replicate 4 [.sendLine 0, .receiveLine true, .test false true]).flatten ++
    [.sendDone 0, .receiveDone 0 true, .test false true]

end AnvilAgents.RunAPI.Stream
