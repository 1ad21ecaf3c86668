import AnvilAgents.Lib.Contract

/-!
Transactions against a database that commits them one by one.

A transaction is a program of statements. Each statement sees what was committed before it and what
its own transaction wrote, waits for the locks it needs, and keeps them until the transaction ends.
-/

namespace Transaction

open Conc List Function

/-- How a lock is held. -/
inductive Mode where
  | shared
  | exclusive
deriving DecidableEq

/-- Two transactions cannot hold one lock in these modes. -/
def Mode.conflicts : Mode → Mode → Bool
  | .shared, .shared => false
  | _, _ => true

/-- Whoever holds a lock in the first mode needs it in the second one no more. -/
def Mode.covers : Mode → Mode → Bool
  | .exclusive, _ => true
  | .shared, mode => mode = .shared

/--
What statements do.

On the rows it sees, a statement needs locks, in the order in which it takes them, and it fails or
replies and changes rows.
-/
structure Engine (Stmt : Type) (Reply : Stmt → Type) (Db Change Lock Err : Type) where
  apply : Change → Db → Db
  locks : Stmt → Db → List (Lock × Mode)
  exec : (s : Stmt) → Db → Except Err (Reply s × List Change)
  /-- The error of a program that stops for a reason of its own. -/
  stopped : Err

variable {Stmt : Type} {Reply : Stmt → Type} {Db Change Lock Err : Type}

namespace Engine

variable (e : Engine Stmt Reply Db Change Lock Err)

/-- The rows after some changes. -/
def applyAll (db : Db) (changes : List Change) : Db :=
  changes.foldl (fun db change => e.apply change db) db

@[simp]
theorem applyAll_nil (db : Db) : e.applyAll db [] = db := rfl

@[simp]
theorem applyAll_cons (db : Db) (change : Change) (changes : List Change) :
    e.applyAll db (change :: changes) = e.applyAll (e.apply change db) changes := rfl

@[simp]
theorem applyAll_append (db : Db) (first second : List Change) :
    e.applyAll db (first ++ second) = e.applyAll (e.applyAll db first) second := by
  simp [applyAll]

/-- Run the rest of a transaction that began with other rows, with nobody else around. -/
def runFrom {α : Type} (began : Db) :
    Prog Stmt Reply (Except Err α) → Db → Except Err α × Db
  | .ret (.ok value), db => (.ok value, db)
  -- A transaction that ends with an error is rolled back.
  | .ret (.error err), _ => (.error err, began)
  | .fail _, _ => (.error e.stopped, began)
  | .call s next, db =>
    match e.exec s db with
    | .error err => (.error err, began)
    | .ok (reply, changes) => runFrom began (next reply) (e.applyAll db changes)

/-- Run a transaction alone. -/
def run {α : Type} (p : Prog Stmt Reply (Except Err α)) (db : Db) : Except Err α × Db :=
  e.runFrom db p db

/-- What a transaction returns and writes when it runs alone, unless it fails. -/
def effect {α : Type} : Prog Stmt Reply (Except Err α) → Db → Except Err (α × List Change)
  | .ret (.ok value), _ => .ok (value, [])
  | .ret (.error err), _ => .error err
  | .fail _, _ => .error e.stopped
  | .call s next, db =>
    match e.exec s db with
    | .error err => .error err
    | .ok (reply, changes) =>
      (effect (next reply) (e.applyAll db changes)).map fun (value, later) =>
        (value, changes ++ later)

/-- A transaction that runs alone applies what it writes, or nothing. -/
theorem runFrom_eq {α : Type} (began : Db) (p : Prog Stmt Reply (Except Err α)) (db : Db) :
    e.runFrom began p db =
      match e.effect p db with
      | .ok (value, changes) => (.ok value, e.applyAll db changes)
      | .error err => (.error err, began) := by
  induction p generalizing db with
  | ret result => cases result <;> rfl
  | fail fault => rfl
  | call s next ih =>
    simp only [runFrom, effect]
    cases e.exec s db with
    | error err => rfl
    | ok done =>
      -- The rest starts from the rows that the statement left.
      simp only [ih]
      cases e.effect (next done.1) (e.applyAll db done.2) with
      | error err => rfl
      | ok rest => simp [Except.map]

/-- A sequence does what its parts do, one after the other. -/
theorem effect_bind {α β : Type} (p : ExceptT Err (Prog Stmt Reply) α)
    (rest : α → ExceptT Err (Prog Stmt Reply) β) (db : Db) :
    e.effect (p >>= rest).run db =
      (e.effect p.run db).bind fun (between, first) =>
        (e.effect (rest between).run (e.applyAll db first)).map fun (value, later) =>
          (value, first ++ later) := by
  change e.effect (Prog.bind p.run (ExceptT.bindCont rest)) db = _
  induction p.run generalizing db with
  | ret result =>
    cases result with
    | ok value =>
      show e.effect (rest value).run db = _
      simp only [effect, Except.bind, applyAll_nil, nil_append]
      cases e.effect (rest value).run db <;> rfl
    | error err => rfl
  | fail fault => rfl
  | call s next ih =>
    simp only [Prog.bind, effect]
    cases e.exec s db with
    | error err => rfl
    | ok done =>
      simp only [ih]
      cases e.effect (next done.1) (e.applyAll db done.2) with
      | error err => rfl
      | ok before =>
        simp only [Except.bind, Except.map, applyAll_append]
        cases e.effect (rest before.1).run (e.applyAll (e.applyAll db done.2) before.2) with
        | error err => rfl
        | ok after => simp

end Engine

/-- A transaction in flight. -/
structure Session (Op Stmt : Type) (Reply : Stmt → Type) (Change : Type) where
  op : Op
  /-- The statements that have been executed. -/
  seen : List (Event Stmt Reply)
  /-- What is left; it ends by saying whether to commit. -/
  code : Prog Stmt Reply Bool
  /-- What has been written and not committed. -/
  pending : List Change

/-- The committed rows, the transactions in flight, and who holds which lock. -/
structure State (Tid Op Stmt : Type) (Reply : Stmt → Type) (Db Change Lock : Type) where
  committed : Db
  sessions : Tid → Option (Session Op Stmt Reply Change)
  holders : Lock → List (Tid × Mode)

/-- What may happen next. -/
inductive Move (Tid Op : Type) where
  | start (tid : Tid) (op : Op)
  | acquire (tid : Tid)
  | exec (tid : Tid)
  | commit (tid : Tid)
  | abort (tid : Tid)

/-- A database, and the transaction that each operation runs. -/
structure Store (Op Stmt : Type) (Reply : Stmt → Type) (Db Change Lock Err : Type) where
  engine : Engine Stmt Reply Db Change Lock Err
  program : Op → Prog Stmt Reply Bool

variable {Tid Op : Type} [DecidableEq Tid] [DecidableEq Lock]

namespace State

/-- The state in which no transaction is in flight. -/
def idle (db : Db) : State Tid Op Stmt Reply Db Change Lock :=
  ⟨db, fun _ => none, fun _ => []⟩

variable (st : State Tid Op Stmt Reply Db Change Lock)

/-- A transaction holds a lock, in this mode or a stronger one. -/
def covered (tid : Tid) (lock : Lock × Mode) : Bool :=
  (st.holders lock.1).any fun holder => holder.1 = tid && holder.2.covers lock.2

/-- No other transaction holds a lock in a mode that stands against this one. -/
def grantable (tid : Tid) (lock : Lock × Mode) : Bool :=
  (st.holders lock.1).all fun holder => holder.1 = tid || !holder.2.conflicts lock.2

/-- The state once a transaction has ended, and its locks are free. -/
def ended (tid : Tid) (db : Db) : State Tid Op Stmt Reply Db Change Lock :=
  ⟨db, update st.sessions tid none, fun lock => (st.holders lock).filter (·.1 ≠ tid)⟩

def held (tid : Tid) (lock : Lock) (mode : Mode) : Prop :=
  (tid, mode) ∈ st.holders lock

/-- The state once a transaction has taken a lock. -/
abbrev taking (tid : Tid) (lock : Lock × Mode) : State Tid Op Stmt Reply Db Change Lock :=
  { st with holders := update st.holders lock.1 ((tid, lock.2) :: st.holders lock.1) }

end State

variable {wanted : Lock × Mode}

section Held

variable {st : State Tid Op Stmt Reply Db Change Lock} {tid tid' mover : Tid} {lock : Lock}
  {mode : Mode} {db : Db}

theorem Mode.conflicts_comm (mode mode' : Mode) : mode.conflicts mode' = mode'.conflicts mode := by
  cases mode <;> cases mode' <;> rfl

omit [DecidableEq Lock] in
theorem covered_iff :
    st.covered tid wanted = true ↔
      ∃ mode, st.held tid wanted.1 mode ∧ mode.covers wanted.2 = true := by
  simp only [State.covered, any_eq_true, Bool.and_eq_true, decide_eq_true_eq, State.held]
  constructor
  · rintro ⟨⟨holder, mode⟩, member, rfl, covers⟩
    exact ⟨mode, member, covers⟩
  · rintro ⟨mode, member, covers⟩
    exact ⟨(tid, mode), member, rfl, covers⟩

omit [DecidableEq Lock] in
theorem grantable_iff :
    st.grantable tid wanted = true ↔
      ∀ tid' mode, st.held tid' wanted.1 mode → tid' = tid ∨ mode.conflicts wanted.2 = false := by
  simp only [State.grantable, all_eq_true, Bool.or_eq_true, decide_eq_true_eq,
    Bool.not_eq_true', State.held, Prod.forall]

omit [DecidableEq Lock] in
/-- A transaction that has ended holds nothing, and the others keep their locks. -/
theorem held_ended :
    (st.ended mover db).held tid lock mode ↔ st.held tid lock mode ∧ tid ≠ mover := by
  simp [State.ended, State.held]

omit [DecidableEq Tid] in
/-- What is held after a lock was taken is that lock, or was held before. -/
theorem held_taking {taken : Lock × Mode} : (st.taking mover taken).held tid lock mode ↔
    (lock = taken.1 ∧ tid = mover ∧ mode = taken.2) ∨ st.held tid lock mode := by
  by_cases same : lock = taken.1
  · subst same
    simp [State.held]
  · simp [State.held, same]

end Held

namespace Store

variable (store : Store Op Stmt Reply Db Change Lock Err)

variable (st : State Tid Op Stmt Reply Db Change Lock)

/-- The rows as a transaction in flight sees them. -/
def view (s : Session Op Stmt Reply Change) : Db :=
  store.engine.applyAll st.committed s.pending

/-- The next lock that a statement waits for. -/
def missing (tid : Tid) (s : Session Op Stmt Reply Change) (stmt : Stmt) : Option (Lock × Mode) :=
  (store.engine.locks stmt (store.view st s)).find? fun lock => !st.covered tid lock

/-- One step. A transaction may be given up at any time. -/
def next : Move Tid Op → Option (State Tid Op Stmt Reply Db Change Lock)
  | .start tid op =>
    match st.sessions tid with
    | none => some { st with
        sessions := update st.sessions tid (some ⟨op, [], store.program op, []⟩) }
    | some _ => none
  | .acquire tid =>
    match st.sessions tid with
    | some ⟨op, seen, .call stmt rest, pending⟩ =>
      match store.missing st tid ⟨op, seen, .call stmt rest, pending⟩ stmt with
      | some lock =>
        if st.grantable tid lock then
          some { st with
            holders := update st.holders lock.1 ((tid, lock.2) :: st.holders lock.1) }
        else none
      | none => none
    | _ => none
  | .exec tid =>
    match st.sessions tid with
    | some ⟨op, seen, .call stmt rest, pending⟩ =>
      match store.missing st tid ⟨op, seen, .call stmt rest, pending⟩ stmt with
      | some _ => none
      | none =>
        match store.engine.exec stmt (store.engine.applyAll st.committed pending) with
        -- A statement that fails ends its transaction.
        | .error _ => some (st.ended tid st.committed)
        | .ok (reply, changes) =>
          some { st with
            sessions := update st.sessions tid
              (some ⟨op, seen ++ [⟨stmt, reply⟩], rest reply, pending ++ changes⟩) }
    | _ => none
  | .commit tid =>
    match st.sessions tid with
    | some ⟨_, _, .ret true, pending⟩ =>
      some (st.ended tid (store.engine.applyAll st.committed pending))
    | _ => none
  | .abort tid =>
    match st.sessions tid with
    | some _ => some (st.ended tid st.committed)
    | none => none

/-- The machine that takes these steps. -/
abbrev machine : Machine (State Tid Op Stmt Reply Db Change Lock) (Move Tid Op) :=
  ⟨store.next⟩

abbrev play (check : State Tid Op Stmt Reply Db Change Lock → Move Tid Op → Bool) :=
  store.machine.play check

abbrev Leads (good : State Tid Op Stmt Reply Db Change Lock → Move Tid Op → Prop) :=
  store.machine.Leads good

/-- The states reached from initial rows by steps that all meet a condition. -/
abbrev Reaches (init : Db → Prop)
    (good : State Tid Op Stmt Reply Db Change Lock → Move Tid Op → Prop) :=
  store.machine.Reaches (fun st => ∃ db, init db ∧ st = State.idle db) good

/-- The shapes of a step, with everything each one changes. -/
inductive StepCases (st : State Tid Op Stmt Reply Db Change Lock) :
    Move Tid Op → State Tid Op Stmt Reply Db Change Lock → Prop
  | start (tid : Tid) (op : Op) (free : st.sessions tid = none) :
      StepCases st (.start tid op)
        { st with sessions := update st.sessions tid (some ⟨op, [], store.program op, []⟩) }
  | acquire (tid : Tid) (s : Session Op Stmt Reply Change) (stmt : Stmt)
      (rest : Reply stmt → Prog Stmt Reply Bool) (lock : Lock × Mode)
      (found : st.sessions tid = some s) (code : s.code = .call stmt rest)
      (waits : store.missing st tid s stmt = some lock) (granted : st.grantable tid lock = true) :
      StepCases st (.acquire tid) (st.taking tid lock)
  | exec (tid : Tid) (s : Session Op Stmt Reply Change) (stmt : Stmt)
      (rest : Reply stmt → Prog Stmt Reply Bool) (reply : Reply stmt) (changes : List Change)
      (found : st.sessions tid = some s) (code : s.code = .call stmt rest)
      (ready : store.missing st tid s stmt = none)
      (done : store.engine.exec stmt (store.view st s) = .ok (reply, changes)) :
      StepCases st (.exec tid)
        { st with
          sessions := update st.sessions tid
            (some ⟨s.op, s.seen ++ [⟨stmt, reply⟩], rest reply, s.pending ++ changes⟩) }
  | rollback (move : Move Tid Op) (tid : Tid) (s : Session Op Stmt Reply Change)
      (mover : move = .exec tid ∨ move = .abort tid) (found : st.sessions tid = some s) :
      StepCases st move (st.ended tid st.committed)
  | commit (tid : Tid) (s : Session Op Stmt Reply Change) (found : st.sessions tid = some s)
      (code : s.code = .ret true) :
      StepCases st (.commit tid) (st.ended tid (store.view st s))

variable {store}

theorem next_cases {st st' : State Tid Op Stmt Reply Db Change Lock} {move : Move Tid Op}
    (stepped : store.next st move = some st') : store.StepCases st move st' := by
  cases move with
  | start tid op =>
    simp only [next] at stepped
    split at stepped
    next free => exact Option.some.inj stepped ▸ .start tid op free
    next => cases stepped
  | acquire tid =>
    simp only [next] at stepped
    split at stepped
    next op seen stmt rest pending found =>
      split at stepped
      next lock waits =>
        split at stepped
        next granted =>
          exact Option.some.inj stepped ▸ .acquire tid _ stmt rest lock found rfl waits granted
        next => cases stepped
      next => cases stepped
    next => cases stepped
  | exec tid =>
    simp only [next] at stepped
    split at stepped
    next op seen stmt rest pending found =>
      split at stepped
      next => cases stepped
      next ready =>
        split at stepped
        next => exact Option.some.inj stepped ▸ .rollback _ tid _ (.inl rfl) found
        next reply changes done =>
          exact Option.some.inj stepped ▸ .exec tid _ stmt rest reply changes found rfl ready done
    next => cases stepped
  | commit tid =>
    simp only [next] at stepped
    split at stepped
    next op seen pending found => exact Option.some.inj stepped ▸ .commit tid _ found rfl
    next => cases stepped
  | abort tid =>
    simp only [next] at stepped
    split at stepped
    next s found => exact Option.some.inj stepped ▸ .rollback _ tid s (.inr rfl) found
    next => cases stepped

section Rules

variable {init : Db → Prop} {good : State Tid Op Stmt Reply Db Change Lock → Move Tid Op → Prop}
  {st st' : State Tid Op Stmt Reply Db Change Lock}

theorem Reaches.idle {db : Db} (initial : init db) : store.Reaches init good (State.idle db) :=
  .start ⟨db, initial, rfl⟩

theorem Reaches.invariant {I : State Tid Op Stmt Reply Db Change Lock → Prop}
    (base : ∀ db, init db → I (State.idle db))
    (keep : ∀ {st st' move}, store.Reaches init good st → I st → good st move →
      store.StepCases st move st' → I st')
    (reached : store.Reaches init good st) : I st := by
  refine Machine.Reaches.invariant ?_ (fun before holds meets stepped => ?_) reached
  · rintro _ ⟨db, initial, rfl⟩
    exact base db initial
  · exact keep before holds meets (next_cases stepped)

end Rules

variable {s : Session Op Stmt Reply Change}

section Locks

variable {init : Db → Prop} {good : State Tid Op Stmt Reply Db Change Lock → Move Tid Op → Prop}
  {st st' : State Tid Op Stmt Reply Db Change Lock} {move : Move Tid Op} {tid tid' : Tid} {lock : Lock}
  {mode mode' : Mode}

/-- No two transactions hold one lock in modes that stand against each other. -/
theorem Reaches.exclusion (reached : store.Reaches init good st)
    (holds : st.held tid lock mode) (holds' : st.held tid' lock mode') (distinct : tid ≠ tid') :
    mode.conflicts mode' = false := by
  refine reached.invariant (I := fun st => ∀ lock tid mode tid' mode', st.held tid lock mode →
    st.held tid' lock mode' → tid ≠ tid' → mode.conflicts mode' = false)
    ?_ ?_ lock tid mode tid' mode' holds holds' distinct
  · intro db _ lock tid mode tid' mode' holds
    cases holds
  · intro st st' move _ known _ cases lock tid mode tid' mode' holds holds' distinct
    cases cases with
    | start mover op free => exact known lock tid mode tid' mode' holds holds' distinct
    | exec mover s stmt rest reply changes found code ready done =>
      exact known lock tid mode tid' mode' holds holds' distinct
    | rollback | commit =>
      exact known lock tid mode tid' mode' (held_ended.mp holds).1 (held_ended.mp holds').1 distinct
    | acquire mover s stmt rest taken found code waits granted =>
      -- The lock that is taken now stands against no holder of it.
      rcases held_taking.mp holds with ⟨rfl, rfl, rfl⟩ | before
      · rcases held_taking.mp holds' with ⟨-, same, -⟩ | before'
        · exact absurd same.symm distinct
        · rw [Mode.conflicts_comm]
          exact (grantable_iff.mp granted tid' mode' before').resolve_left (Ne.symm distinct)
      · rcases held_taking.mp holds' with ⟨rfl, rfl, rfl⟩ | before'
        · exact (grantable_iff.mp granted tid mode before).resolve_left distinct
        · exact known lock tid mode tid' mode' before before' distinct

/-- Only transactions in flight hold locks. -/
theorem Reaches.held_in_flight (reached : store.Reaches init good st)
    (holds : st.held tid lock mode) : (st.sessions tid).isSome := by
  refine reached.invariant (I := fun st => ∀ lock tid mode, st.held tid lock mode →
    (st.sessions tid).isSome) ?_ ?_ lock tid mode holds
  · intro db _ lock tid mode holds
    cases holds
  · intro st st' move _ known _ cases lock tid mode holds
    cases cases with
    | start mover op free | exec mover s stmt rest reply changes found code ready done =>
      by_cases same : tid = mover
      · simp [same]
      · simpa [same] using known lock tid mode holds
    | rollback | commit =>
      obtain ⟨before, distinct⟩ := held_ended.mp holds
      simpa [State.ended, distinct] using known lock tid mode before
    | acquire mover s stmt rest taken found code waits granted =>
      rcases held_taking.mp holds with ⟨-, rfl, -⟩ | before
      · simp [found]
      · exact known lock tid mode before

omit [DecidableEq Lock] in
/-- A statement that waits for no lock holds all the locks it needs. -/
theorem ready_held {stmt : Stmt} (ready : store.missing st tid s stmt = none)
    (needs : wanted ∈ store.engine.locks stmt (store.view st s)) :
    ∃ mode, st.held tid wanted.1 mode ∧ mode.covers wanted.2 = true := by
  have covered := find?_eq_none.mp ready wanted needs
  exact covered_iff.mp (by simpa using covered)

omit [DecidableEq Lock] in
theorem ready_exclusive {stmt : Stmt} (ready : store.missing st tid s stmt = none)
    (needs : (lock, .exclusive) ∈ store.engine.locks stmt (store.view st s)) :
    st.held tid lock .exclusive := by
  obtain ⟨mode, holds, covers⟩ := ready_held ready needs
  cases mode with
  | shared => cases covers
  | exclusive => exact holds

end Locks

section Sessions

variable {init : Db → Prop} {good : State Tid Op Stmt Reply Db Change Lock → Move Tid Op → Prop}
  {st : State Tid Op Stmt Reply Db Change Lock}

/-- A transaction waits for a lock that another one holds. -/
def Waits (store : Store Op Stmt Reply Db Change Lock Err)
    (st : State Tid Op Stmt Reply Db Change Lock) (tid tid' : Tid) : Prop :=
  ∃ s stmt rest lock mode, st.sessions tid = some s ∧ s.code = .call stmt rest ∧
    store.missing st tid s stmt = some lock ∧ tid ≠ tid' ∧ st.held tid' lock.1 mode ∧
    mode.conflicts lock.2 = true

/--
The invariant rule for transactions whose programs keep a contract.

`G` speaks of the committed rows, and `L` of the committed rows, the locks that one transaction
holds, the transaction, and what it knows. Nothing but a commit changes the committed rows, so the
others matter to a transaction only when they commit.
-/
theorem Reaches.session_invariant {C : Contract Stmt Reply} (start : Op → C.Know)
    (programs : ∀ op, C.Conforms (start op) (store.program op) fun _ _ => True)
    {G : Db → Prop}
    {L : Db → (Lock → Mode → Prop) → Session Op Stmt Reply Change → C.Know → Prop}
    (honest : ∀ st tid s stmt reply changes, store.Reaches init good st →
      st.sessions tid = some s → store.engine.exec stmt (store.view st s) = .ok (reply, changes) →
      C.promised stmt reply)
    (mono : ∀ db held held' s K, (∀ lock mode, held lock mode → held' lock mode) →
      L db held s K → L db held' s K)
    (base : ∀ db, init db → G db)
    (begun : ∀ st tid op, store.Reaches init good st → good st (.start tid op) →
      G st.committed → L st.committed (st.held tid) ⟨op, [], store.program op, []⟩ (start op))
    (own : ∀ st tid s stmt rest reply changes, store.Reaches init good st → good st (.exec tid) →
      st.sessions tid = some s → s.code = .call stmt rest → G st.committed →
      L st.committed (st.held tid) s (C.know (start s.op) s.seen) →
      C.permits (C.know (start s.op) s.seen) stmt → store.missing st tid s stmt = none →
      store.engine.exec stmt (store.view st s) = .ok (reply, changes) →
      L st.committed (st.held tid) ⟨s.op, s.seen ++ [⟨stmt, reply⟩], rest reply, s.pending ++ changes⟩
        (C.learn (C.know (start s.op) s.seen) stmt reply))
    (commits : ∀ st tid s, store.Reaches init good st → good st (.commit tid) →
      st.sessions tid = some s → s.code = .ret true → G st.committed →
      L st.committed (st.held tid) s (C.know (start s.op) s.seen) →
      G (store.view st s) ∧
        ∀ other p, other ≠ tid → st.sessions other = some p →
          L st.committed (st.held other) p (C.know (start p.op) p.seen) →
          L (store.view st s) (st.held other) p (C.know (start p.op) p.seen))
    (reached : store.Reaches init good st) :
    G st.committed ∧ ∀ tid s, st.sessions tid = some s →
      (C.Conforms (C.know (start s.op) s.seen) s.code fun _ _ => True) ∧
      L st.committed (st.held tid) s (C.know (start s.op) s.seen) := by
  refine reached.invariant
    (I := fun st => G st.committed ∧ ∀ tid s, st.sessions tid = some s →
      (C.Conforms (C.know (start s.op) s.seen) s.code fun _ _ => True) ∧
      L st.committed (st.held tid) s (C.know (start s.op) s.seen)) ?_ ?_
  · intro db initial
    exact ⟨base db initial, fun tid s found => by cases found⟩
  · intro st st' move before known meets cases
    obtain ⟨global, passes⟩ := known
    cases cases with
    | start mover op free =>
      refine ⟨global, fun tid s found => ?_⟩
      rcases System.update_cases found with ⟨rfl, started⟩ | ⟨-, earlier⟩
      · cases started
        exact ⟨programs op, begun st tid op before meets global⟩
      · exact passes tid s earlier
    | acquire mover s stmt rest lock found code waits granted =>
      -- More locks are held, and nothing else is new.
      refine ⟨global, fun tid s found => ?_⟩
      obtain ⟨conforms, mine⟩ := passes tid s found
      exact ⟨conforms, mono _ _ _ _ _ (fun _ _ holds => held_taking.mpr (.inr holds)) mine⟩
    | exec mover s stmt rest reply changes found code ready done =>
      obtain ⟨conforms, mine⟩ := passes mover s found
      rw [code] at conforms
      have kept := own st mover s stmt rest reply changes before meets found code global mine
        conforms.1 ready done
      refine ⟨global, fun tid p present => ?_⟩
      rcases System.update_cases present with ⟨rfl, advanced⟩ | ⟨-, earlier⟩
      · cases advanced
        rw [Contract.know_append]
        exact ⟨conforms.2 reply (honest st tid s _ _ _ before found done), kept⟩
      · exact passes tid p earlier
    | rollback move mover s how found =>
      refine ⟨global, fun tid p present => ?_⟩
      rcases System.update_cases present with ⟨-, ended⟩ | ⟨distinct, earlier⟩
      · cases ended
      · obtain ⟨conforms, mine⟩ := passes tid p earlier
        exact ⟨conforms, mono _ _ _ _ _ (fun _ _ holds => held_ended.mpr ⟨holds, distinct⟩) mine⟩
    | commit mover s found code =>
      obtain ⟨conforms, mine⟩ := passes mover s found
      have kept := commits st mover s before meets found code global mine
      refine ⟨kept.1, fun tid p present => ?_⟩
      rcases System.update_cases present with ⟨-, ended⟩ | ⟨distinct, earlier⟩
      · cases ended
      · obtain ⟨conforms, mine⟩ := passes tid p earlier
        refine ⟨conforms, ?_⟩
        exact mono _ _ _ _ _ (fun _ _ holds => held_ended.mpr ⟨holds, distinct⟩)
          (kept.2 tid p distinct earlier mine)

end Sessions

end Store

end Transaction
