import AnvilAgents.Standing.Process

/-!
Which harness a standing session runs when the selected harness changes between turns.

A session keeps the handle it was created with. A later call that asks for another harness resumes
that session, and its turns go on with the old harness.
-/

namespace AnvilAgents.ProcessBackend

open Mutex Mutex.Thread Text

/-- The harness that a call outside runs. -/
def Outside.harness : Outside → Option String
  | .run harnessKind _ => some harnessKind
  | .runWithResume handle _ _ _ => some handle.harnessKind
  | .onToken _ _ _ => none

variable (ctx : Nat → Option String) (spec : SessionSpec) (sessions : Sessions)

/-- A turn on a handle runs one subprocess, of one harness. -/
def TurnsRun (handle : SessionHandle) (harnessKind : String) : Prop :=
  ∀ resumes turnID prompt sink, isBlank turnID = false → prompt.utf8ByteSize ≤ maxPromptBytes →
    Alone [] (streamTurn resumes none handle turnID prompt sink) sessions
      fun asked _ _ => asked.filterMap Outside.harness = [harnessKind]

/-- The handle that a call returns is of the harness asked for, and so is every turn on it. -/
def Selects : Prop :=
  Alone [] (ensureTurnSession ctx spec) sessions fun _ result after =>
    ∀ handle warm, result = .ok (handle, warm) →
      handle.harnessKind = spec.harnessKind ∧ TurnsRun after handle spec.harnessKind

/-- A session that the call will resume was created for the harness asked for. -/
def Unchanged : Prop :=
  validateSpec spec = none → ctx 0 = none → ctx 1 = none → ctx 2 = none →
    ∀ session, sessions (sessionKey spec.ns spec.sessionName) = some session →
      session.handle.harnessKind = spec.harnessKind

/-- Every call of a sequence meets a condition on the sessions it finds. -/
def EachCall (holds : (Nat → Option String) → SessionSpec → Sessions → Prop) :
    List ((Nat → Option String) × SessionSpec) → Sessions → Prop
  | [], _ => True
  | (ctx, spec) :: rest, sessions => holds ctx spec sessions ∧
    Alone [] (ensureTurnSession ctx spec) sessions fun _ _ after => EachCall holds rest after

/-- Every session is stored under the key of its handle. -/
def Keyed (sessions : Sessions) : Prop :=
  ∀ key session, sessions key = some session →
    sessionKey session.handle.ns session.handle.sessionName = key

variable {ctx spec sessions}

theorem onHandle_alone {ns name : String} {edit : SessionHandle → SessionHandle}
    {ctxErr : Option String} {post : List Outside → Except String SessionHandle → Sessions → Prop} :
    Alone [] (onHandle ctxErr ns name edit) sessions post ↔
      match ctxErr, sessions (sessionKey ns name) with
      | some err, _ => post [] (.error err) sessions
      | none, none => post [] (.error ("standing session not found: " ++ sessionKey ns name)) sessions
      | none, some session => post [] (.ok (edit session.handle)) (Function.update sessions
        (sessionKey ns name) (some { session with handle := edit session.handle })) := by
  cases ctxErr with
  | some err => exact Iff.rfl
  | none =>
    cases found : sessions (sessionKey ns name) with
    | none => simp [onHandle, lookup, found, Thread.read]
    | some session => simp [onHandle, lookup, found, Thread.read, change]

/-- A call fails, or returns the handle of the session that it leaves. -/
theorem ensureTurnSession_alone (ctx : Nat → Option String) (spec : SessionSpec)
    (keyed : Keyed sessions) :
    (Unchanged ctx spec sessions ∧ ∃ err, ∀ post,
      Alone [] (ensureTurnSession ctx spec) sessions post ↔ post [] (.error err) sessions) ∨
    ∃ session warm, sessionKey session.handle.ns session.handle.sessionName =
        sessionKey spec.ns spec.sessionName ∧
      (Unchanged ctx spec sessions ↔ session.handle.harnessKind = spec.harnessKind) ∧
      ∀ post, Alone [] (ensureTurnSession ctx spec) sessions post ↔
        post [] (.ok (session.handle, warm)) (Function.update sessions
          (sessionKey spec.ns spec.sessionName) (some session)) := by
  rcases valid : validateSpec spec with _ | err
  case some => exact .inl ⟨by simp [Unchanged, valid], err, by simp [ensureTurnSession, valid]⟩
  rcases began : ctx 0 with _ | err
  case some =>
    exact .inl ⟨by simp [Unchanged, began], err, by simp [ensureTurnSession, valid, began]⟩
  simp only [ensureTurnSession, valid, began, describeSession, resumeSession, alone_bind,
    onHandle_alone]
  rcases described : ctx 1 with _ | err
  case some => exact .inl ⟨by simp [Unchanged, described], err, by simp⟩
  rcases found : sessions (sessionKey spec.ns spec.sessionName) with _ | session
  case none =>
    -- The call creates the session, for the harness asked for.
    rcases created : ctx 3 with _ | err
    case some => exact .inl ⟨by simp [Unchanged, found], err, by simp [createSession, Except.map]⟩
    refine .inr ⟨{ spec, handle := ⟨spec.ns, spec.threadID, spec.sessionName, spec.harnessKind,
      processID spec.ns spec.sessionName, false, 0, false⟩ }, false, rfl, ?_, ?_⟩
    · simp [Unchanged, found]
    · simp [createSession, valid, found, Thread.read, Except.map]
  -- Describing a session leaves it as it is.
  have same : Function.update sessions (sessionKey spec.ns spec.sessionName) (some session) =
    sessions := by rw [← found, Function.update_eq_self]
  rcases resumed : ctx 2 with _ | err
  case some => exact .inl ⟨by simp [Unchanged, resumed], err, by simp [same]⟩
  refine .inr ⟨{ session with handle := { session.handle with
    warm := true, suspended := false, resumes := session.handle.resumes + 1 } }, true,
    keyed _ session found, ?_, ?_⟩
  · simp [Unchanged, valid, began, described, resumed, found]
  · simp [same]

section Turn

variable {key turnID prompt resumeID : String} {handle : SessionHandle} {resumes sink : Bool}
  {asked : List Outside}

/-- A turn runs one subprocess, of the harness of its handle. -/
theorem runTurn_alone {post : List Outside → Except String Ran → Sessions → Prop}
    (after : ∀ asked ran s, asked.filterMap Outside.harness = [handle.harnessKind] →
      post asked ran s) :
    Alone [] (runTurn resumes key handle turnID prompt resumeID) sessions post := by
  rw [runTurn]
  refine alone_ite ?_ fun ran => after _ ran _ rfl
  rw [alone_bind]
  intro ran
  -- What comes after the subprocess only changes the session.
  cases (ran : Except String Ran) with
  | error err => exact alone_ite (after _ _ _ rfl) (after _ _ _ rfl)
  | ok ran => exact alone_ite (after _ _ _ rfl) (after _ _ _ rfl)

theorem finishTurn_alone {ran : Ran} {post : List Outside → Except String String → Sessions → Prop}
    (after : ∀ more result s, more.filterMap Outside.harness = [] → post (asked ++ more) result s) :
    Alone asked (finishTurn key handle turnID sink ran) sessions post := by
  rw [finishTurn, onDone]
  refine alone_ite (by simpa using after [] _ _ rfl) ?_
  rw [alone_bind]
  refine alone_ite (fun refused => ?_) (by simpa using after [] _ _ rfl)
  cases (refused : Option String) with
  | none => exact after _ _ _ rfl
  | some err => exact after _ _ _ rfl

theorem streamTurn_alone {session : ProcessSession}
    (stored : sessions (sessionKey handle.ns handle.sessionName) = some session) :
    TurnsRun sessions handle handle.harnessKind := by
  intro resumes turnID prompt sink named fits
  simp only [streamTurn, named, Nat.not_lt.mpr fits, if_false, alone_bind, lookup, stored, acquire,
    release, Thread.read, alone_modify, alone_holding, Alone, Bool.false_eq_true, id]
  refine runTurn_alone fun asked ran s runs => ?_
  cases ran with
  | error err => exact runs
  | ok ran => exact finishTurn_alone fun more _ _ quiet => by simp [runs, quiet]

end Turn

theorem selects_iff (keyed : Keyed sessions) :
    Selects ctx spec sessions ↔ Unchanged ctx spec sessions := by
  rw [Selects]
  obtain ⟨kept, err, runs⟩ | ⟨session, warm, named, kept, runs⟩ :=
    ensureTurnSession_alone ctx spec keyed
  · simp [runs, kept]
  · rw [runs, kept]
    refine ⟨fun selects => (selects _ _ rfl).1, ?_⟩
    rintro same _ _ ⟨⟩
    have stored : Function.update sessions (sessionKey spec.ns spec.sessionName) (some session)
        (sessionKey session.handle.ns session.handle.sessionName) = some session := by simp [named]
    exact ⟨same, same ▸ streamTurn_alone stored⟩

/-- In a sequence of calls each returns a handle of its harness, and turns on it run that harness,
exactly if no call resumes a session that was created for another harness. -/
theorem harness_selected_iff (calls : List ((Nat → Option String) × SessionSpec)) :
    EachCall Selects calls (fun _ => none) ↔ EachCall Unchanged calls fun _ => none := by
  -- Every session stays under the key of its handle.
  have each (sessions : Sessions) (keyed : Keyed sessions) :
      EachCall Selects calls sessions ↔ EachCall Unchanged calls sessions := by
    induction calls generalizing sessions with
    | nil => exact Iff.rfl
    | cons call rest ih =>
      refine and_congr (selects_iff keyed) ?_
      obtain ⟨_, err, runs⟩ | ⟨session, warm, named, _, runs⟩ :=
        ensureTurnSession_alone call.1 call.2 keyed
      · rw [runs, runs]
        exact ih sessions keyed
      · rw [runs, runs]
        refine ih _ fun key stored found => ?_
        obtain rfl | other := eq_or_ne key (sessionKey call.2.ns call.2.sessionName)
        · obtain rfl : session = stored := by simpa using found
          exact named
        · exact keyed key stored (by simpa [other] using found)
  exact each _ nofun

/-- The second call returns the session of the first, and its harness. -/
theorem harness_not_followed :
    ¬ EachCall Selects [(fun _ => none, ⟨"n", "t", "s", "codex"⟩),
      (fun _ => none, ⟨"n", "t", "s", "claude"⟩)] fun _ => none := by
  have valid : validateSpec ⟨"n", "t", "s", "codex"⟩ = none := by decide +kernel
  have valid' : validateSpec ⟨"n", "t", "s", "claude"⟩ = none := by decide +kernel
  simp [EachCall, Selects, ensureTurnSession, valid, valid', describeSession, resumeSession,
    onHandle_alone, createSession, Thread.read, Except.map]

end AnvilAgents.ProcessBackend
