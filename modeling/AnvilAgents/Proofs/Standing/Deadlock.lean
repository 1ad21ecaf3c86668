import AnvilAgents.Standing.Process

/-! When concurrent calls of the process backend can come to wait for one another. -/

namespace AnvilAgents

open Mutex Mutex.Thread Text Option Function

namespace ProcessBackend

/-- The session whose turn mutex a call asks for, when its arguments pass the checks. -/
def Call.turnOf : Call → Option String
  | .streamTurn none handle turnID prompt _ =>
    if isBlank turnID ∨ prompt.utf8ByteSize > maxPromptBytes then none
    else some (sessionKey handle.ns handle.sessionName)
  | _ => none

/-- The session that a call creates, unless it exists. -/
def Call.creates : Call → Option String
  | .createSession none spec =>
    if validateSpec spec = none then some (sessionKey spec.ns spec.sessionName) else none
  | _ => none

variable {Tid : Type} {resumes : Bool} {sessions : Sessions} {calls : Tid → Call}

/-- A session exists from the start, or one of the calls creates it. -/
def Live (sessions : Sessions) (calls : Tid → Call) (key : String) : Prop :=
  (sessions key).isSome ∨ ∃ t, (calls t).creates = some key

/-- No two different calls run a turn of one live session. -/
def OneTurnEach (sessions : Sessions) (calls : Tid → Call) : Prop :=
  ∀ key, Live sessions calls key →
    ∀ t t', (calls t).turnOf = some key → (calls t').turnOf = some key → t = t'

variable {key : String}

section Discipline

/-- Only live sessions exist. -/
def OnlyLive (sessions : Sessions) (calls : Tid → Call) (now : Sessions) : Prop :=
  ∀ key, (now key).isSome → Live sessions calls key

/-- The mutexes a call may take: the backend's, and that of its turn. -/
def May (sessions : Sessions) (calls : Tid → Call) (t : Tid) : Lock → Prop
  | .mu => True
  | .turnMu key => Live sessions calls key ∧ (calls t).turnOf = some key

variable {t : Tid} {held : Set Lock}

theorem onlyLive_change {now : Sessions} (only : OnlyLive sessions calls now) (key : String)
    (edit : ProcessSession → ProcessSession) : OnlyLive sessions calls (change key edit now) := by
  intro other found
  by_cases same : other = key
  · subst same
    exact only other (by simpa [change] using found)
  · exact only other (by simpa [change, same] using found)

/-- Changing a session under the backend's mutex keeps the discipline. -/
theorem follows_change {post : Set Lock → Sessions → Prop}
    (key : String) (edit : ProcessSession → ProcessSession) (free : Lock.mu ∉ held)
    (after : ∀ now, post held now) :
    Follows (OnlyLive sessions calls) (May sessions calls t) held
      (holding Lock.mu (modify (change key edit)) : Method Sessions) post := by
  have given : insert Lock.mu held \ {Lock.mu} = held := Set.insert_sdiff_self_of_notMem free
  simp only [follows_holding, follows_modify, given]
  refine ⟨free, trivial, fun now only => ⟨onlyLive_change only key edit, ?_, after now⟩⟩
  exact Set.mem_insert _ _

/-- A call that finds one session under the backend's mutex keeps the discipline. -/
theorem follows_onHandle (ctxErr : Option String) (ns name : String)
    (edit : SessionHandle → SessionHandle) :
    Follows (OnlyLive sessions calls) (May sessions calls t) ∅ (onHandle ctxErr ns name edit)
      fun held _ => held = ∅ := by
  cases ctxErr with
  | some err => rfl
  | none =>
    simp only [onHandle, follows_holding, follows_bind, follows_read]
    refine ⟨Set.notMem_empty _, trivial, fun now _ => ?_⟩
    cases lookup now ns name with
    | error err => simp
    | ok found =>
      simp only [follows_bind, follows_modify]
      exact fun now only => ⟨onlyLive_change only _ _, by simp⟩

theorem follows_createSession (ctxErr : Option String) (spec : SessionSpec)
    (named : (calls t).creates = (Call.createSession ctxErr spec).creates) :
    Follows (OnlyLive sessions calls) (May sessions calls t) ∅ (createSession ctxErr spec)
      fun held _ => held = ∅ := by
  cases ctxErr with
  | some err => rfl
  | none =>
    unfold createSession
    cases valid : validateSpec spec with
    | some err => rfl
    | none =>
      simp only [follows_holding, follows_bind, follows_read]
      refine ⟨Set.notMem_empty _, trivial, fun now _ => ?_⟩
      cases now (sessionKey spec.ns spec.sessionName) with
      | some existing =>
        simp only [follows_bind, follows_modify]
        exact fun now only => ⟨onlyLive_change only _ _, by simp⟩
      | none =>
        -- The new session is live because this call creates it.
        simp only [follows_bind, follows_modify]
        refine fun now only => ⟨fun key found => ?_, by simp⟩
        by_cases same : key = sessionKey spec.ns spec.sessionName
        · exact .inr ⟨t, by rw [named, same]; simp [Call.creates, valid]⟩
        · exact only key (by simpa [same] using found)

theorem follows_onDone {sink : Bool} {threadID turnID : String}
    {seq : Nat} {post : Set Lock → Option String → Prop} (after : ∀ refused, post held refused) :
    Follows (OnlyLive sessions calls) (May sessions calls t) held (onDone sink threadID turnID seq) post :=
  follows_ite (fun _ refused => after refused) fun _ => after none

/-- The part of a turn after the subprocess holds the turn mutex only. -/
theorem follows_finishTurn (key : String) (handle : SessionHandle)
    (turnID : String) (sink : Bool) (ran : Ran) (free : Lock.mu ∉ held) :
    Follows (OnlyLive sessions calls) (May sessions calls t) held (finishTurn key handle turnID sink ran)
      fun held' _ => held' = held := by
  unfold finishTurn
  refine follows_ite (fun _ => rfl) fun _ => ?_
  rw [follows_bind]
  refine follows_onDone fun refused => ?_
  cases refused with
  | some err => rfl
  | none =>
    rw [follows_bind]
    exact follows_change _ _ free fun _ => rfl

/-- So does the subprocess. -/
theorem follows_runTurn (key : String) (handle : SessionHandle)
    (turnID prompt resumeID : String) (free : Lock.mu ∉ held) :
    Follows (OnlyLive sessions calls) (May sessions calls t) held
      (runTurn resumes key handle turnID prompt resumeID) fun held' _ => held' = held := by
  unfold runTurn
  refine follows_ite (fun _ => ?_) fun _ => ?_
  · rw [follows_bind]
    intro answer
    cases (answer : Except String Ran) with
    | error | ok =>
      refine follows_ite (fun _ => ?_) fun _ => rfl
      rw [follows_bind]
      exact follows_change _ _ free fun _ => rfl
  · exact fun _ => rfl

theorem follows_streamTurn (ctxErr : Option String)
    (handle : SessionHandle) (turnID prompt : String) (sink : Bool)
    (named : (calls t).turnOf = (Call.streamTurn ctxErr handle turnID prompt sink).turnOf) :
    Follows (OnlyLive sessions calls) (May sessions calls t) ∅
      (streamTurn resumes ctxErr handle turnID prompt sink) fun held _ => held = ∅ := by
  cases ctxErr with
  | some err => rfl
  | none =>
    refine follows_ite (fun _ => rfl) fun blank => follows_ite (fun _ => rfl) fun long => ?_
    simp only [follows_bind, follows_acquire, follows_read]
    refine ⟨Set.notMem_empty _, trivial, fun now only => ?_⟩
    unfold lookup
    dsimp only
    cases found : now (sessionKey handle.ns handle.sessionName) with
    | none => simp
    | some session =>
      -- The session exists, so it is live.
      have live := only (sessionKey handle.ns handle.sessionName) (by simp [found])
      have mine : (calls t).turnOf = some (sessionKey handle.ns handle.sessionName) :=
        named.trans (if_neg (not_or.mpr ⟨blank, long⟩))
      have left : insert (Lock.turnMu (sessionKey handle.ns handle.sessionName))
          (insert Lock.mu (∅ : Set Lock)) \ {Lock.mu} =
            {Lock.turnMu (sessionKey handle.ns handle.sessionName)} := by
        ext m
        simp
      simp only [follows_holding, follows_bind, follows_read, follows_release, left]
      refine ⟨by simp, ⟨live, mine⟩, fun now _ => ⟨by simp, ?_⟩⟩
      refine Follows.mono ?_ (follows_runTurn _ _ _ _ _ (by simp))
      rintro held result rfl
      cases result with
      | error err => simp
      | ok ran =>
        refine Follows.mono ?_ (follows_finishTurn _ _ _ _ _ (by simp))
        rintro held result rfl
        simp

theorem follows_thread (t : Tid) :
    Follows (OnlyLive sessions calls) (May sessions calls t) ∅ ((calls t).thread resumes)
      fun held _ => held = ∅ := by
  cases called : calls t with
  | createSession ctxErr spec =>
    simpa [Call.thread] using follows_createSession ctxErr spec (by rw [called])
  | resumeSession ctxErr ns name =>
    simpa [Call.thread, resumeSession] using follows_onHandle ctxErr ns name _
  | describeSession ctxErr ns name =>
    simpa [Call.thread, describeSession] using follows_onHandle ctxErr ns name _
  | suspendSession ctxErr ns name =>
    simpa [Call.thread, suspendSession] using follows_onHandle ctxErr ns name _
  | streamTurn ctxErr handle turnID prompt sink =>
    simpa [Call.thread] using follows_streamTurn ctxErr handle turnID prompt sink (by rw [called])

end Discipline

section Begins

/-- A call that does anything begins by taking the backend's mutex. -/
theorem thread_begins (resumes : Bool) (call : Call) :
    (call.thread resumes).Finished ∨ ∃ next, call.thread resumes = .lock .mu next := by
  cases call with
  | createSession ctxErr spec =>
    cases ctxErr with
    | some err => exact .inl trivial
    | none =>
      cases valid : validateSpec spec with
      | some err => exact .inl (by simp only [Call.thread, createSession, valid]; trivial)
      | none => exact .inr ⟨_, by simp only [Call.thread, createSession, valid]; rfl⟩
  | resumeSession ctxErr ns name | describeSession ctxErr ns name
  | suspendSession ctxErr ns name =>
    cases ctxErr with
    | some err => exact .inl trivial
    | none => exact .inr ⟨_, rfl⟩
  | streamTurn ctxErr handle turnID prompt sink =>
    cases ctxErr with
    | some err => exact .inl trivial
    | none =>
      simp only [Call.thread, streamTurn]
      split
      · exact .inl trivial
      · split
        · exact .inl trivial
        · exact .inr ⟨_, rfl⟩

/-- What a call that creates a session does. -/
theorem creates_thread (resumes : Bool) {call : Call} (creates : call.creates = some key) :
    ∃ next, call.thread resumes = .lock .mu (.access id next) ∧
      ∀ now, ∃ edit value, next now = .access edit (fun _ => .unlock .mu (.ret value)) ∧
        (edit now key).isSome := by
  match call, creates with
  | .createSession none spec, creates =>
    simp only [Call.creates] at creates
    split at creates
    case isFalse => cases creates
    case isTrue valid =>
    obtain rfl := some.inj creates
    simp only [Call.thread, createSession, valid]
    refine ⟨_, rfl, fun now => ?_⟩
    cases found : now (sessionKey spec.ns spec.sessionName) with
    | some existing =>
      simp only [Thread.bind, found]
      exact ⟨_, _, rfl, by simp [change, found]⟩
    | none =>
      simp only [Thread.bind, found]
      exact ⟨_, _, rfl, by simp⟩

/-- A subprocess may answer such that the turn comes to its end, where it is counted. -/
theorem runTurn_asks (resumes sink : Bool) (key : String) (handle : SessionHandle)
    (turnID prompt resumeID : String) :
    ∃ last, Asks
      (do
        match ← runTurn resumes key handle turnID prompt resumeID with
        | .error err => return .error err
        | .ok ran => finishTurn key handle turnID sink ran : Method (Except String String))
      (.lock .mu last) := by
  -- The output is not blank, and no native id is reported.
  let ran : Ran := ⟨"done", 0, ""⟩
  have said : isBlank "done" = false := by decide +kernel
  have finish : ∃ last, Asks (finishTurn key handle turnID sink ran) (.lock .mu last) := by
    unfold finishTurn
    simp only [ran, said, Bool.false_eq_true, if_false]
    cases sink with
    | true => exact ⟨_, .ask none .refl⟩
    | false => exact ⟨_, .refl⟩
  obtain ⟨last, asks⟩ := finish
  refine ⟨last, ?_⟩
  unfold runTurn
  split
  · refine .ask (.ok ran : Except String Ran) ?_
    simp only [Thread.bind, ran, trimSpace_empty, ne_eq, not_true_eq_false, false_and, if_false]
    exact asks
  · exact .ask (.ok ran : Except String Ran) asks

/-- What a call that runs a turn does, up to the subprocess and on to where it counts the turn. -/
theorem turnOf_thread (resumes : Bool) {call : Call} (turn : call.turnOf = some key) :
    ∃ next, call.thread resumes = .lock .mu (.access id next) ∧
      ∀ now, (now key).isSome → ∃ next', next now = .lock (.turnMu key) (.access id next') ∧
        ∀ now', ∃ rest, next' now' = .unlock .mu rest ∧ ∃ last, Asks rest (.lock .mu last) := by
  match call, turn with
  | .streamTurn none handle turnID prompt sink, turn =>
    simp only [Call.turnOf] at turn
    split at turn
    case isTrue => cases turn
    case isFalse checked =>
    obtain rfl := some.inj turn
    obtain ⟨named, short⟩ := not_or.mp checked
    simp only [Call.thread, streamTurn, named, short, if_false]
    refine ⟨_, rfl, fun now found => ?_⟩
    obtain ⟨session, found⟩ := isSome_iff_exists.mp found
    simp only [Thread.bind, lookup, found]
    refine ⟨_, rfl, fun now' => ⟨_, rfl, ?_⟩⟩
    obtain ⟨last, asks⟩ := runTurn_asks resumes sink _ handle turnID prompt _
    exact ⟨_, (asks.bind _).bind _⟩

end Begins

section Jam

variable [DecidableEq Tid]

/-- No mutex is held, and each call has not begun or has returned. -/
structure Idle (resumes : Bool) (calls : Tid → Call)
    (cfg : Config Tid Lock Sessions Outside.Reply Response) : Prop where
  free : ∀ m, cfg.holder m = none
  waiting : ∀ t, cfg.threads t = (calls t).thread resumes ∨ (cfg.threads t).Finished

/-- A live session can be made to exist before any turn of it begins. -/
theorem live_reached (resumes : Bool) (live : Live sessions calls key) :
    ∃ cfg, Reachable sessions (fun t => (calls t).thread resumes) cfg ∧ Idle resumes calls cfg ∧
      (cfg.memory key).isSome ∧
      ∀ t, (calls t).turnOf = some key → cfg.threads t = (calls t).thread resumes := by
  rcases live with found | ⟨creator, creates⟩
  · exact ⟨_, .start, ⟨fun _ => rfl, fun _ => .inl rfl⟩, found, fun _ _ => rfl⟩
  · -- The creating call runs from its beginning to its end.
    obtain ⟨next, begins, goes⟩ := creates_thread resumes creates
    obtain ⟨edit, value, ends, made⟩ := goes sessions
    have started : Reachable sessions (fun t => (calls t).thread resumes)
        ⟨sessions, fun _ => none, fun t => (calls t).thread resumes⟩ := .start
    have looked := ((started.at (t := creator) begins).lock rfl).access
    rw [id, ends] at looked
    have released := looked.access.unlock
    refine ⟨_, released, ⟨fun m => ?_, fun t => ?_⟩, by simpa using made, fun t turn => ?_⟩
    · by_cases same : m = .mu <;> simp [same]
    · by_cases same : t = creator
      · right
        simp [same, Finished]
      · left
        simp [same]
    · have other : t ≠ creator := by
        rintro rfl
        cases called : calls t <;> simp [called, Call.creates, Call.turnOf] at creates turn
      simp [other]

/-- Two turns of one live session can come to wait for each other, and all other calls for them. -/
theorem deadlock_reached (resumes : Bool) (live : Live sessions calls key) (first second : Tid)
    (distinct : first ≠ second) (turn : (calls first).turnOf = some key)
    (turn₂ : (calls second).turnOf = some key) :
    ∃ cfg, Reachable sessions (fun t => (calls t).thread resumes) cfg ∧ Deadlocked cfg ∧
      cfg.holder .mu = some second ∧ cfg.holder (.turnMu key) = some first := by
  obtain ⟨⟨now, holder, code⟩, reached, ⟨free, waiting⟩, found, fresh⟩ :=
    live_reached resumes live
  simp only at free waiting found fresh
  obtain ⟨next, begins, goes⟩ := turnOf_thread resumes turn
  obtain ⟨next₁, takes, goes⟩ := goes now found
  obtain ⟨rest, releases, last, asks⟩ := goes now
  -- The first turn runs until it wants the backend's mutex again, and keeps its turn mutex.
  have looked := ((reached.at ((fresh first turn).trans begins)).lock (free _)).access
  rw [id, takes] at looked
  have taken := (looked.lock (by simp [free])).access
  rw [id, releases] at taken
  have paused := taken.unlock.asks asks
  -- The second one takes the backend's mutex, and then wants the turn mutex.
  obtain ⟨next', begins₂, goes₂⟩ := turnOf_thread resumes turn₂
  obtain ⟨last', takes₂, -⟩ := goes₂ now found
  have at_second :
      update code first (.lock .mu last) second = .lock .mu (.access id next') := by
    rw [update_of_ne distinct.symm, fresh second turn₂, begins₂]
  have jammed := ((paused.at at_second).lock (by simp)).access
  rw [id, takes₂] at jammed
  refine ⟨_, jammed, ⟨⟨first, by simp [distinct, Finished]⟩, fun t unfinished => ?_⟩, by simp, by simp⟩
  by_cases isSecond : t = second
  · subst isSecond
    exact ⟨.turnMu key, .access id last', by simp, by simp⟩
  · by_cases isFirst : t = first
    · subst isFirst
      exact ⟨.mu, last, by simp [isSecond], by simp⟩
    · -- Every other call has returned, or has not begun and wants the backend's mutex.
      simp only [update_of_ne isSecond, update_of_ne isFirst] at unfinished
      rcases waiting t with same | finished
      · rcases thread_begins resumes (calls t) with finished | ⟨next, begins⟩
        · exact absurd (same ▸ finished) unfinished
        · exact ⟨.mu, next, by simp [isSecond, isFirst, same, begins], by simp⟩
      · exact absurd finished unfinished

end Jam

/--
The process backend is free of deadlocks exactly when no two calls run a turn of one session.

For any sessions that exist at the start and any calls, no reachable state has all unfinished calls
blocked if and only if no session that exists, or that a call creates, has two different turns.
-/
theorem processBackend_deadlockFree_iff [DecidableEq Tid] (resumes : Bool) (sessions : Sessions)
    (calls : Tid → Call) :
    (∀ cfg, Reachable sessions (fun t => (calls t).thread resumes) cfg → ¬ Deadlocked cfg) ↔
      OneTurnEach sessions calls := by
  constructor
  · intro deadlockFree key live first second turn turn₂
    by_contra distinct
    obtain ⟨cfg, reached, deadlocked, -⟩ :=
      deadlock_reached resumes live first second distinct turn turn₂
    exact deadlockFree cfg reached deadlocked
  · intro one cfg reached
    refine reached.not_deadlocked .mu (fun key found => .inl found) ?_ follows_thread
    -- A turn mutex is taken by the one call that runs the turn.
    rintro t t' (_ | key) first second distinct
    · exact absurd rfl distinct
    · exact one key first.1 t t' first.2 second.2

/--
However calls interleave, those that come to a deadlock included: a call that has returned holds no
mutex, no call waits for a mutex of its own or gives back another's, and a turn mutex is held by a call
that runs a turn of its session.
-/
theorem mutexes_in_order [DecidableEq Tid] {cfg : Config Tid Lock Sessions Outside.Reply Response}
    (reached : Reachable sessions (fun t => (calls t).thread resumes) cfg) (t : Tid) (m : Lock) :
    ((cfg.threads t).Finished → cfg.holder m ≠ some t) ∧
      (∀ next, cfg.threads t = .lock m next → cfg.holder m ≠ some t) ∧
      (∀ next, cfg.threads t = .unlock m next → cfg.holder m = some t) ∧
      ∀ key, cfg.holder (.turnMu key) = some t → (calls t).turnOf = some key := by
  have initially : OnlyLive sessions calls sessions := fun key found => .inl found
  have follows := (reached.disciplined initially follows_thread).follows t
  refine ⟨fun finished holds => ?_, fun next at_t => ?_, fun next at_t => ?_, fun key holds => ?_⟩
  · cases code : cfg.threads t with
    | ret value =>
      rw [code] at follows
      exact Set.eq_empty_iff_forall_notMem.mp follows m holds
    | _ =>
      rw [code] at finished
      cases finished
  · rw [at_t] at follows
    exact follows.1
  · rw [at_t] at follows
    exact follows.1
  · exact (reached.allowed initially follows_thread holds).2

/-- The session of the calls below, as a caller knows it. -/
def sampleSession : SessionHandle :=
  { ns := "team", threadID := "thread-1", sessionName := "chat", harnessKind := "codex", id := "" }

/-- A call that creates a session, and two that each run a turn of it. -/
def turnsOfOne : Fin 3 → Call
  | 0 => .createSession none ⟨"team", "thread-1", "chat", "codex"⟩
  | 1 => .streamTurn none sampleSession "turn-1" "hi" true
  | 2 => .streamTurn none sampleSession "turn-2" "hi" true

/-- Two turns of that session wait for each other: one holds the backend, one the turn. -/
theorem turnsOfOne_jammed :
    ∃ cfg, Reachable (fun _ => none) (fun t => (turnsOfOne t).thread true) cfg ∧ Deadlocked cfg ∧
      cfg.holder .mu = some 2 ∧ cfg.holder (.turnMu "team/chat") = some 1 :=
  have live : Live (fun _ => none) turnsOfOne "team/chat" := .inr ⟨0, by decide +kernel⟩
  deadlock_reached true live 1 2 (by decide) (by decide +kernel) (by decide +kernel)

theorem processBackend_deadlocks :
    ∃ cfg, Reachable (fun _ => none) (fun t => (turnsOfOne t).thread true) cfg ∧ Deadlocked cfg :=
  have ⟨cfg, reached, deadlocked, _⟩ := turnsOfOne_jammed
  ⟨cfg, reached, deadlocked⟩

theorem mutexes_in_order_jammed :
    ∃ cfg, Reachable (fun _ => none) (fun t => (turnsOfOne t).thread true) cfg ∧
      cfg.holder .mu = some 2 ∧ cfg.holder (.turnMu "team/chat") = some 1 ∧
      ∀ t m, ((cfg.threads t).Finished → cfg.holder m ≠ some t) ∧
        (∀ next, cfg.threads t = .lock m next → cfg.holder m ≠ some t) ∧
        (∀ next, cfg.threads t = .unlock m next → cfg.holder m = some t) ∧
        ∀ key, cfg.holder (.turnMu key) = some t → (turnsOfOne t).turnOf = some key :=
  have ⟨cfg, reached, _, backend, turn⟩ := turnsOfOne_jammed
  ⟨cfg, reached, backend, turn, mutexes_in_order reached⟩

end ProcessBackend

end AnvilAgents
