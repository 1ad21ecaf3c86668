import AnvilAgents.Proofs.Chat.Transcript

/-! What is kept of the attempts of a turn, through any sequence of calls with stale snapshots. -/

namespace AnvilAgents.Chat

open List Option

section

variable [UUIDs]

/-- The run of an attempt of a turn that a call has replaced by another attempt. -/
def superseding (entry : Entry) (id : String) : List (String × String) :=
  match entry.before.turns.get id, entry.after.turns.get id with
  | some old, some new =>
    if old.payload.retryCount ≠ new.payload.retryCount then
      [(old.payload.runName, old.payload.runUID)]
    else []
  | _, _ => []

/-- The runs of the earlier attempts of a turn, in their order. -/
def superseded (log : List Entry) (id : String) : List (String × String) :=
  log.flatMap (superseding · id)

/-- What is kept of the attempts of turns after some calls. -/
structure Bookkeeping (log : List Entry) (db : Database) : Prop where
  counted : ∀ id row, db.turns.get id = some row →
    row.payload.attempts.length = row.payload.retryCount ∧ row.payload.retryCount ≤ maxTurnRetries
  /-- The record of the attempts is that of the runs that were replaced. -/
  recorded : ∀ id row, db.turns.get id = some row →
    row.payload.attempts.map (fun attempt => (attempt.runName, attempt.runUID)) = superseded log id
  /-- A run that is known for an attempt stays. -/
  runs : ∀ entry ∈ log, ∀ id old new, entry.before.turns.get id = some old →
    entry.after.turns.get id = some new → new.payload.retryCount = old.payload.retryCount →
    old.payload.runUID ≠ "" → new.payload.runUID = old.payload.runUID
  stale : ∀ entry ∈ log, StaleCall entry.before entry.call → entry.after = entry.before
  /-- A turn that was retried does not wait. -/
  retried : ∀ id row, db.turns.get id = some row → row.payload.retryCount ≠ 0 →
    row.status ≠ .waiting
  /-- What is settled when a turn is accepted stays. -/
  settled : ∀ entry ∈ log, ∀ id old, entry.before.turns.get id = some old →
    ∃ new, entry.after.turns.get id = some new ∧ old.payload.Same new.payload

/-- New turns come without attempts. -/
def StartsFresh (log : List Entry) : Prop :=
  ∀ entry ∈ log, ∀ env t m, entry.call = .queueTurn env t m → t.retryCount = 0 ∧ t.attempts = []

section Steps

variable {log : List Entry} {db db' : Database} {call : Call}

theorem superseded_append (log : List Entry) (entry : Entry) (id : String) :
    superseded (log ++ [entry]) id = superseded log id ++ superseding entry id := by
  simp [superseded]

variable {id : String}

theorem superseding_of_absent {entry : Entry} (absent : entry.before.turns.get id = none) :
    superseding entry id = [] := by
  simp [superseding, absent]

/-- The record of a turn grows when an attempt is replaced, and only then. -/
theorem superseding_of_attempt {entry : Entry} {old new : TurnRow}
    (before : entry.before.turns.get id = some old) (after : entry.after.turns.get id = some new)
    (attempt : SameAttempt old.payload new.payload ∨ NextAttempt old.payload new.payload) :
    new.payload.attempts.map (fun attempt => (attempt.runName, attempt.runUID)) =
      old.payload.attempts.map (fun attempt => (attempt.runName, attempt.runUID)) ++
        superseding entry id := by
  simp only [superseding, before, after]
  rcases attempt with same | next
  · rw [if_neg (by simp [same.retryCount]), same.attempts, append_nil]
  · obtain ⟨error, completedAt, attempts⟩ := next.attempts
    rw [if_pos (by rw [next.retryCount]; omega), attempts, map_append]
    rfl

/-- How a turn goes on: as it is, or with the same or the next attempt. -/
theorem Served.goesOn {old new : TurnRow} (step : Served db call db') (consistent : db.Consistent)
    (before : db.turns.get id = some old) (after : db'.turns.get id = some new) :
    old.payload.Same new.payload ∧
      (SameAttempt old.payload new.payload ∨ NextAttempt old.payload new.payload) := by
  rcases step.get after with same | ⟨written, rfl⟩
  · obtain rfl := some.inj (before.symm.trans same)
    exact ⟨.refl _, .inl ⟨rfl, rfl, rfl, fun _ => rfl⟩⟩
  · cases written with
    | accept env t m t' message user prepared free =>
      cases (absent_of_free consistent free).symm.trans before
    | update call stood status payload stands same repeats running left attempt =>
      obtain rfl := some.inj (before.symm.trans stands)
      exact ⟨same, attempt⟩

/-- The bookkeeping, and that nothing is recorded of turns that are not there. -/
structure Books (log : List Entry) (db : Database) : Prop extends Bookkeeping log db where
  absent : ∀ id, db.turns.get id = none → superseded log id = []

theorem Books.start : Books [] .empty where
  counted _ _ found := nomatch found
  recorded _ _ found := nomatch found
  runs _ member := nomatch member
  stale _ member := nomatch member
  retried _ _ found := nomatch found
  settled _ member := nomatch member
  absent _ _ := rfl

theorem Books.step (books : Books log db) (consistent : db.Consistent) (step : Served db call db')
    (fresh : ∀ env t m, call = .queueTurn env t m → t.retryCount = 0 ∧ t.attempts = []) :
    Books (log ++ [⟨call, db, db'⟩]) db' where
  counted id row found := by
    rcases step.get found with before | ⟨written, rfl⟩
    · exact books.counted id row before
    cases written with
    | accept env t m t' message user prepared =>
      obtain ⟨rfl, -⟩ := prepareTurn_ok prepared
      obtain ⟨count, attempts⟩ := fresh env t m rfl
      show t.attempts.length = t.retryCount ∧ t.retryCount ≤ maxTurnRetries
      rw [count, attempts]
      exact ⟨rfl, Nat.zero_le _⟩
    | update call old status payload stands same repeats running left attempt =>
      show payload.attempts.length = payload.retryCount ∧ payload.retryCount ≤ maxTurnRetries
      obtain ⟨length, bound⟩ := books.counted old.id old stands
      rcases attempt with same | next
      · rw [same.attempts, same.retryCount]
        exact ⟨length, bound⟩
      · obtain ⟨error, completedAt, attempts⟩ := next.attempts
        rw [attempts, next.retryCount, length_append, length]
        exact ⟨rfl, next.bound⟩
  recorded id row found := by
    rw [superseded_append]
    cases before : db.turns.get id with
    | some old =>
      have attempt := (step.goesOn consistent before found).2
      rw [superseding_of_attempt (show (Entry.mk call db db').before.turns.get id = _ from before) found
        attempt, books.recorded id old before]
    | none =>
      rw [books.absent id before, superseding_of_absent before]
      rcases step.get found with same | ⟨written, rfl⟩
      · cases before.symm.trans same
      cases written with
      | accept env t m t' message user prepared =>
        obtain ⟨rfl, -⟩ := prepareTurn_ok prepared
        show t.attempts.map _ = []
        rw [(fresh env t m rfl).2]
        rfl
      | update call old status payload stands => cases before.symm.trans stands
  runs entry member id old new before after count known := by
    rcases mem_append.mp member with earlier | now
    · exact books.runs entry earlier id old new before after count known
    · obtain rfl := mem_singleton.mp now
      rcases (step.goesOn consistent before after).2 with same | next
      · exact same.runUID known
      · have more := next.retryCount
        omega
  stale entry member stale := by
    rcases mem_append.mp member with earlier | now
    · exact books.stale entry earlier stale
    · obtain rfl := mem_singleton.mp now
      exact step.current stale
  retried id row found count := by
    rcases step.get found with before | ⟨written, rfl⟩
    · exact books.retried id row before count
    cases written with
    | accept env t m t' message user prepared =>
      obtain ⟨rfl, -⟩ := prepareTurn_ok prepared
      exact absurd (fresh env t m rfl).1 count
    | update call old status payload stands same repeats running left => exact left
  settled entry member id old before := by
    rcases mem_append.mp member with earlier | now
    · exact books.settled entry earlier id old before
    · obtain rfl := mem_singleton.mp now
      obtain ⟨new, after⟩ := step.kept before
      exact ⟨new, after, (step.goesOn consistent before after).1⟩
  absent id gone := by
    have before : db.turns.get id = none := by
      by_contra present
      obtain ⟨old, stood⟩ := ne_none_iff_exists'.mp present
      obtain ⟨new, stands⟩ := step.kept stood
      cases gone.symm.trans stands
    rw [superseded_append, books.absent id before, superseding_of_absent before]
    rfl

theorem books_of_ran (ran : Ran log db) (fresh : StartsFresh log) : Books log db := by
  induction ran with
  | nil => exact .start
  | @serve log db ran call ih =>
    -- The calls before this one began fresh too.
    have books := ih fun entry member => fresh entry (mem_append_left _ member)
    have tidy := (sane_of_ran ran).toTidy
    exact books.step tidy.consistent (served_alone tidy call) (fresh _ (mem_append_right _ (.head _)))

end Steps

end

open Sample

/-- A turn that is recorded, retried, and retried again with the snapshot of its first attempt. -/
def sampleRetries : List Call :=
  let t := sampleTurn "t1" uuidA "coder"
  let recorded := { t with runUID := "u1" }
  [.createThread sampleEnv { sampleThread uuidA with metadata := .absent 0 },
    .queueTurn sampleEnv t (sampleMessage uuidA),
    .recordRun t "u1",
    .retryTurn sampleEnv recorded ⟨"run-2", "run", "lost", 9⟩,
    .retryTurn sampleEnv recorded ⟨"run-3", "run", "lost", 9⟩]

end AnvilAgents.Chat
