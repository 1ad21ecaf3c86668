import Mathlib.Order.WellFounded

/-! Threads that share memory under mutexes, and when they cannot all wait for one another. -/

namespace Mutex

/-- What is left of a thread. -/
inductive Thread (M State : Type) {Query : Type} (Reply : Query → Type) (α : Type) where
  /-- The thread has returned. -/
  | ret (value : α)
  /-- Wait until a mutex is free, and take it. -/
  | lock (m : M) (next : Thread M State Reply α)
  /-- Give a mutex back. -/
  | unlock (m : M) (next : Thread M State Reply α)
  /-- Change the shared memory, and go on with what it was before. -/
  | access (update : State → State) (next : State → Thread M State Reply α)
  /-- Call something outside, which answers at some point. -/
  | ask (query : Query) (next : Reply query → Thread M State Reply α)

namespace Thread

variable {M State Query : Type} {Reply : Query → Type} {α β : Type}

def bind : Thread M State Reply α → (α → Thread M State Reply β) → Thread M State Reply β
  | ret value, rest => rest value
  | lock m next, rest => lock m (next.bind rest)
  | unlock m next, rest => unlock m (next.bind rest)
  | access update next, rest => access update fun s => (next s).bind rest
  | ask query next, rest => ask query fun answer => (next answer).bind rest

instance : Monad (Thread M State Reply) where
  pure := ret
  bind := bind

def acquire (m : M) : Thread M State Reply Unit :=
  lock m (ret ())

def release (m : M) : Thread M State Reply Unit :=
  unlock m (ret ())

/-- Change the shared memory, and return what it was before. -/
def modify (update : State → State) : Thread M State Reply State :=
  access update ret

def read : Thread M State Reply State :=
  modify id

/-- Call something outside. -/
def outside (query : Query) : Thread M State Reply (Reply query) :=
  ask query ret

/-- Hold a mutex while running a body, however the body returns. -/
def holding (m : M) (body : Thread M State Reply α) : Thread M State Reply α := do
  acquire m
  let value ← body
  release m
  return value

def Finished : Thread M State Reply α → Prop
  | ret _ => True
  | _ => False

/--
A thread keeps a locking discipline.

It takes only mutexes it does not hold and may take, gives back only what it holds, and ends in a
state that meets a postcondition. On the way it keeps an invariant of the memory, and may rely on
it.
-/
def Follows (inv : State → Prop) (may : M → Prop) :
    Set M → Thread M State Reply α → (Set M → α → Prop) → Prop
  | held, ret value, post => post held value
  | held, lock m next, post => m ∉ held ∧ may m ∧ Follows inv may (insert m held) next post
  | held, unlock m next, post => m ∈ held ∧ Follows inv may (held \ {m}) next post
  | held, access update next, post =>
    ∀ s, inv s → inv (update s) ∧ Follows inv may held (next s) post
  -- No answer from outside is relied on.
  | held, ask _ next, post => ∀ answer, Follows inv may held (next answer) post

variable {inv : State → Prop} {may : M → Prop} {held : Set M} {post : Set M → β → Prop}

@[simp]
theorem follows_pure (value : β) :
    Follows inv may held (pure value : Thread M State Reply β) post ↔ post held value := Iff.rfl

@[simp]
theorem follows_bind {p : Thread M State Reply α} {rest : α → Thread M State Reply β} :
    Follows inv may held (p >>= rest) post ↔
      Follows inv may held p fun held' value => Follows inv may held' (rest value) post := by
  -- Induction on the first part; only its leaf hands over.
  induction p generalizing held with
  | ret value => exact Iff.rfl
  | lock m next ih => exact and_congr Iff.rfl (and_congr Iff.rfl ih)
  | unlock m next ih => exact and_congr Iff.rfl ih
  | access update next ih => exact forall₂_congr fun s _ => and_congr Iff.rfl (ih s)
  | ask query next ih => exact forall_congr' fun answer => ih answer

@[simp]
theorem follows_acquire {m : M} {post : Set M → Unit → Prop} :
    Follows inv may held (acquire m : Thread M State Reply Unit) post ↔
      m ∉ held ∧ may m ∧ post (insert m held) () := Iff.rfl

@[simp]
theorem follows_release {m : M} {post : Set M → Unit → Prop} :
    Follows inv may held (release m : Thread M State Reply Unit) post ↔
      m ∈ held ∧ post (held \ {m}) () := Iff.rfl

@[simp]
theorem follows_modify {update : State → State} {post : Set M → State → Prop} :
    Follows inv may held (modify update : Thread M State Reply State) post ↔
      ∀ s, inv s → inv (update s) ∧ post held s := Iff.rfl

@[simp]
theorem follows_read {post : Set M → State → Prop} :
    Follows inv may held (read : Thread M State Reply State) post ↔ ∀ s, inv s → post held s :=
  forall₂_congr fun _ known => and_iff_right known

/-- A body that runs under a mutex keeps the discipline with that mutex held, and keeps it held. -/
@[simp]
theorem follows_holding {m : M} {body : Thread M State Reply β} :
    Follows inv may held (holding m body) post ↔
      m ∉ held ∧ may m ∧
        Follows inv may (insert m held) body fun after value =>
          m ∈ after ∧ post (after \ {m}) value := by
  simp [holding]

theorem follows_ite {cond : Prop} [Decidable cond] {p q : Thread M State Reply β}
    (yes : cond → Follows inv may held p post) (no : ¬ cond → Follows inv may held q post) :
    Follows inv may held (if cond then p else q) post := by
  split
  next holds => exact yes holds
  next fails => exact no fails

theorem Follows.mono {post' : Set M → β → Prop} {p : Thread M State Reply β}
    (weaker : ∀ held value, post held value → post' held value)
    (follows : Follows inv may held p post) : Follows inv may held p post' := by
  induction p generalizing held with
  | ret value => exact weaker held value follows
  | lock m next ih => exact ⟨follows.1, follows.2.1, ih follows.2.2⟩
  | unlock m next ih => exact ⟨follows.1, ih follows.2⟩
  | access update next ih => exact fun s known => ⟨(follows s known).1, ih s (follows s known).2⟩
  | ask query next ih => exact fun answer => ih answer (follows answer)

/-- A thread gets from one point to another by answers from outside only. -/
inductive Asks : Thread M State Reply α → Thread M State Reply α → Prop
  | refl {p : Thread M State Reply α} : Asks p p
  | ask {query : Query} {next : Reply query → Thread M State Reply α} {p : Thread M State Reply α}
      (answer : Reply query) (rest : Asks (next answer) p) : Asks (ask query next) p

theorem Asks.bind {p q : Thread M State Reply α} (asks : Asks p q)
    (rest : α → Thread M State Reply β) : Asks (p.bind rest) (q.bind rest) := by
  induction asks with
  | refl => exact .refl
  | ask answer _ ih => exact .ask answer ih

section Alone

/-! ### A thread that runs alone -/

/-- What holds when a thread that runs alone returns, after all it asked, whatever it was told. -/
def Alone : List Query → Thread M State Reply α → State → (List Query → α → State → Prop) → Prop
  | asked, ret value, s, post => post asked value s
  | asked, lock _ next, s, post | asked, unlock _ next, s, post => Alone asked next s post
  | asked, access update next, s, post => Alone asked (next s) (update s) post
  | asked, ask query next, s, post => ∀ answer, Alone (asked ++ [query]) (next answer) s post

variable {asked : List Query} {s : State} {post : List Query → β → State → Prop}

@[simp]
theorem alone_pure (value : β) :
    Alone asked (pure value : Thread M State Reply β) s post ↔ post asked value s := Iff.rfl

@[simp]
theorem alone_modify {update : State → State} {post : List Query → State → State → Prop} :
    Alone asked (modify update : Thread M State Reply State) s post ↔ post asked s (update s) :=
  Iff.rfl

@[simp]
theorem alone_bind {p : Thread M State Reply α} {rest : α → Thread M State Reply β} :
    Alone asked (p >>= rest) s post ↔
      Alone asked p s fun asked value s => Alone asked (rest value) s post := by
  induction p generalizing asked s with
  | ret value => exact Iff.rfl
  | lock m next ih | unlock m next ih => exact ih
  | access update next ih => exact ih s
  | ask query next ih => exact forall_congr' fun answer => ih answer

@[simp]
theorem alone_holding {m : M} {body : Thread M State Reply β} :
    Alone asked (holding m body) s post ↔ Alone asked body s post := by
  rw [holding, alone_bind]
  exact alone_bind

theorem alone_ite {cond : Prop} [Decidable cond] {p q : Thread M State Reply β}
    (yes : Alone asked p s post) (no : Alone asked q s post) :
    Alone asked (if cond then p else q) s post := by
  split
  · exact yes
  · exact no

end Alone

end Thread

/-- The shared memory, who holds which mutex, and what is left of each thread. -/
structure Config (Tid M State : Type) {Query : Type} (Reply : Query → Type) (α : Type) where
  memory : State
  holder : M → Option Tid
  threads : Tid → Thread M State Reply α

variable {Tid M State Query : Type} {Reply : Query → Type} {α : Type} [DecidableEq M]

/-- One step of one thread; a thread that waits for a mutex, or has returned, makes none. -/
inductive Step [DecidableEq Tid] :
    Config Tid M State Reply α → Tid → Config Tid M State Reply α → Prop
  | lock {cfg : Config Tid M State Reply α} {t : Tid} {m : M} {next : Thread M State Reply α}
      (at_t : cfg.threads t = .lock m next) (free : cfg.holder m = none) :
      Step cfg t ⟨cfg.memory, Function.update cfg.holder m (some t),
        Function.update cfg.threads t next⟩
  | unlock {cfg : Config Tid M State Reply α} {t : Tid} {m : M} {next : Thread M State Reply α}
      (at_t : cfg.threads t = .unlock m next) :
      Step cfg t ⟨cfg.memory, Function.update cfg.holder m none, Function.update cfg.threads t next⟩
  | access {cfg : Config Tid M State Reply α} {t : Tid} {update : State → State}
      {next : State → Thread M State Reply α} (at_t : cfg.threads t = .access update next) :
      Step cfg t ⟨update cfg.memory, cfg.holder, Function.update cfg.threads t (next cfg.memory)⟩
  | ask {cfg : Config Tid M State Reply α} {t : Tid} {query : Query}
      {next : Reply query → Thread M State Reply α} (at_t : cfg.threads t = .ask query next)
      (answer : Reply query) :
      Step cfg t ⟨cfg.memory, cfg.holder, Function.update cfg.threads t (next answer)⟩

/-- The configurations that threads reach, from one in which no mutex is held. -/
inductive Reachable [DecidableEq Tid] (memory : State) (threads : Tid → Thread M State Reply α) :
    Config Tid M State Reply α → Prop
  | start : Reachable memory threads ⟨memory, fun _ => none, threads⟩
  | step {cfg cfg' : Config Tid M State Reply α} {t : Tid}
      (reached : Reachable memory threads cfg) (stepped : Step cfg t cfg') :
      Reachable memory threads cfg'

section Runs

variable [DecidableEq Tid] {memory now : State} {threads code : Tid → Thread M State Reply α}
  {holder : M → Option Tid} {t : Tid}

-- One thread runs on while the others stay where they are.

theorem Reachable.at {p : Thread M State Reply α} (at_t : code t = p)
    (reached : Reachable memory threads ⟨now, holder, code⟩) :
    Reachable memory threads ⟨now, holder, Function.update code t p⟩ := by
  rwa [← at_t, Function.update_eq_self]

variable {next : Thread M State Reply α}

theorem Reachable.lock {m : M} (free : holder m = none)
    (reached : Reachable memory threads ⟨now, holder, Function.update code t (.lock m next)⟩) :
    Reachable memory threads
      ⟨now, Function.update holder m (some t), Function.update code t next⟩ := by
  simpa using reached.step (.lock (Function.update_self t _ code) free)

theorem Reachable.unlock {m : M}
    (reached : Reachable memory threads ⟨now, holder, Function.update code t (.unlock m next)⟩) :
    Reachable memory threads ⟨now, Function.update holder m none, Function.update code t next⟩ := by
  simpa using reached.step (.unlock (Function.update_self t _ code))

theorem Reachable.access {update : State → State} {next : State → Thread M State Reply α}
    (reached :
      Reachable memory threads ⟨now, holder, Function.update code t (.access update next)⟩) :
    Reachable memory threads ⟨update now, holder, Function.update code t (next now)⟩ := by
  simpa using reached.step (.access (Function.update_self t _ code))

theorem Reachable.asks {p q : Thread M State Reply α} (asks : p.Asks q)
    (reached : Reachable memory threads ⟨now, holder, Function.update code t p⟩) :
    Reachable memory threads ⟨now, holder, Function.update code t q⟩ := by
  induction asks with
  | refl => exact reached
  | ask answer _ ih =>
    refine ih ?_
    simpa using reached.step (.ask (Function.update_self t _ code) answer)

end Runs

/-- A thread waits for a mutex that somebody holds. -/
def Blocked (cfg : Config Tid M State Reply α) (t : Tid) : Prop :=
  ∃ m next, cfg.threads t = .lock m next ∧ cfg.holder m ≠ none

/-- Some threads have not returned, and all of them wait. -/
def Deadlocked (cfg : Config Tid M State Reply α) : Prop :=
  (∃ t, ¬ (cfg.threads t).Finished) ∧ ∀ t, ¬ (cfg.threads t).Finished → Blocked cfg t

section Discipline

/-- The mutexes a thread holds. -/
def Config.held (cfg : Config Tid M State Reply α) (t : Tid) : Set M :=
  { m | cfg.holder m = some t }

/--
The memory meets its invariant, and every thread keeps its discipline from where it is, and will
have given back everything.
-/
structure Disciplined (inv : State → Prop) (may : Tid → M → Prop)
    (cfg : Config Tid M State Reply α) : Prop where
  memory : inv cfg.memory
  follows : ∀ t, (cfg.threads t).Follows inv (may t) (cfg.held t) fun held _ => held = ∅

variable {inv : State → Prop} {may : Tid → M → Prop}
  {cfg cfg' : Config Tid M State Reply α} {t : Tid}

/-- What others hold does not change when a thread takes a free mutex or gives its own back. -/
theorem held_update_of_ne {other : Tid} {m : M} {owner : Option Tid} (distinct : other ≠ t)
    (mine : owner = none ∨ owner = some t) (was : cfg.holder m = none ∨ cfg.holder m = some t) :
    { m' | Function.update cfg.holder m owner m' = some other } = cfg.held other := by
  ext m'
  by_cases same : m' = m
  · subst same
    rcases mine with rfl | rfl <;> rcases was with free | held <;>
      simp [Config.held, *, Ne.symm distinct]
  · simp [Config.held, same]

theorem held_lock {m : M} :
    { m' | Function.update cfg.holder m (some t) m' = some t } = insert m (cfg.held t) := by
  ext m'
  by_cases same : m' = m <;> simp [Config.held, same]

theorem held_unlock {m : M} :
    { m' | Function.update cfg.holder m none m' = some t } = cfg.held t \ {m} := by
  ext m'
  by_cases same : m' = m <;> simp [Config.held, same]

/-- Each step keeps all threads disciplined. -/
theorem Disciplined.step [DecidableEq Tid] (disciplined : Disciplined inv may cfg)
    (stepped : Step cfg t cfg') : Disciplined inv may cfg' := by
  have mine := disciplined.follows t
  refine ⟨?_, fun other => ?_⟩
  · cases stepped with
    | access at_t =>
      rw [at_t] at mine
      exact (mine cfg.memory disciplined.memory).1
    | lock | unlock | ask => exact disciplined.memory
  by_cases same : other = t
  · -- The thread that moves goes on with the mutexes it holds now.
    subst same
    cases stepped with
    | lock at_t free =>
      rw [at_t] at mine
      simpa [Config.held, held_lock] using mine.2.2
    | unlock at_t =>
      rw [at_t] at mine
      simpa [Config.held, held_unlock] using mine.2
    | access at_t =>
      rw [at_t] at mine
      simpa [Config.held] using (mine cfg.memory disciplined.memory).2
    | ask at_t answer =>
      rw [at_t] at mine
      simpa [Config.held] using mine answer
  · -- The other threads hold what they held.
    have theirs := disciplined.follows other
    cases stepped with
    | lock at_t free =>
      simpa [Config.held, held_update_of_ne same (.inr rfl) (.inl free), same] using theirs
    | unlock at_t =>
      rw [at_t] at mine
      simpa [Config.held, held_update_of_ne same (.inl rfl) (.inr mine.1), same] using theirs
    | access | ask => simpa [Config.held, same] using theirs

variable {threads : Tid → Thread M State Reply α} {memory : State}

theorem Reachable.disciplined [DecidableEq Tid] (initially : inv memory)
    (follow : ∀ t, (threads t).Follows inv (may t) ∅ fun held _ => held = ∅)
    (reached : Reachable memory threads cfg) : Disciplined inv may cfg := by
  induction reached with
  | start =>
    refine ⟨initially, fun t => ?_⟩
    simpa [Config.held] using follow t
  | step _ stepped ih => exact ih.step stepped

/-- A mutex is held by a thread that was allowed to take it. -/
theorem Reachable.allowed [DecidableEq Tid] (initially : inv memory)
    (follow : ∀ t, (threads t).Follows inv (may t) ∅ fun held _ => held = ∅)
    (reached : Reachable memory threads cfg) {m : M} (holds : cfg.holder m = some t) :
    may t m := by
  induction reached generalizing t with
  | start => cases holds
  | @step before after mover reached stepped ih =>
    have disciplined := reached.disciplined initially follow
    cases stepped with
    | @lock taken next at_t free =>
      -- The mutex is the one taken in this step, or it was held before.
      by_cases same : m = taken
      · subst same
        obtain rfl : mover = t := by simpa using holds
        have mine := disciplined.follows mover
        rw [at_t] at mine
        exact mine.2.1
      · exact ih (by simpa [same] using holds)
    | @unlock given next at_t =>
      by_cases same : m = given
      · subst same
        simp at holds
      · exact ih (by simpa [same] using holds)
    | access | ask => exact ih holds

/-- Threads that have one mutex in common, and take no other one that another thread takes, never
all wait for one another. -/
theorem Reachable.not_deadlocked [DecidableEq Tid] (shared : M) (initially : inv memory)
    (apart : ∀ {t t' m}, may t m → may t' m → m ≠ shared → t = t')
    (follow : ∀ t, (threads t).Follows inv (may t) ∅ fun held _ => held = ∅)
    (reached : Reachable memory threads cfg) : ¬ Deadlocked cfg := by
  rintro ⟨⟨first, unfinished⟩, all_blocked⟩
  have disciplined := reached.disciplined initially follow
  -- A thread that waits does so for the common mutex, which another one holds.
  have waits : ∀ t, ¬ (cfg.threads t).Finished →
      ∃ holder, cfg.holder shared = some holder ∧ holder ≠ t := by
    intro t unfinished
    obtain ⟨m, next, at_t, taken⟩ := all_blocked t unfinished
    obtain ⟨holder, holds⟩ := Option.ne_none_iff_exists'.mp taken
    have mine := disciplined.follows t
    rw [at_t] at mine
    obtain ⟨fresh, allowed, -⟩ := mine
    have other : holder ≠ t := by
      rintro rfl
      exact fresh holds
    obtain rfl : m = shared := by
      by_contra distinct
      exact other (apart (reached.allowed initially follow holds) allowed distinct)
    exact ⟨holder, holds, other⟩
  obtain ⟨holder, holds, -⟩ := waits first unfinished
  -- Its holder has not returned, so it waits for itself.
  have busy : ¬ (cfg.threads holder).Finished := by
    intro finished
    have mine := disciplined.follows holder
    cases left : cfg.threads holder with
    | ret value =>
      rw [left] at mine
      have empty : cfg.held holder = ∅ := mine
      have : shared ∈ cfg.held holder := holds
      rw [empty] at this
      exact this
    | _ => simp [Thread.Finished, left] at finished
  obtain ⟨other, again, distinct⟩ := waits holder busy
  exact distinct (Option.some.inj (again.symm.trans holds))

end Discipline

end Mutex
