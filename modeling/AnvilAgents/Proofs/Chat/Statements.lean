import AnvilAgents.Chat.Postgres

/-! What statements change and lock, and how contracts are kept through a transaction. -/

namespace AnvilAgents.Chat

open Conc Transaction Option Sql Contract Database Fallible

section Keeps

variable {C : Contract Sql Reply} {K : C.Know} {α β : Type}

/--
A transaction keeps a contract, and leaves what its postcondition says when it succeeds.

Nothing is said about a transaction that ends with an error, since it is rolled back.
-/
def Keeps (C : Contract Sql Reply) (K : C.Know) (p : Tx α) (post : C.Know → α → Prop) : Prop :=
  C.Conforms K p.run fun K result =>
    match result with
    | .ok value => post K value
    | .error _ => True

variable {post : C.Know → β → Prop}

@[simp]
theorem keeps_throw (err : ChatError) : Keeps C K (throw err : Tx β) post := trivial

@[simp]
theorem keeps_bind {p : Tx α} {rest : α → Tx β} :
    Keeps C K (p >>= rest) post ↔ Keeps C K p fun K value => Keeps C K (rest value) post := by
  -- The rest is reached only through a success of the first part.
  simp only [Keeps, ExceptT.run_bind, conforms_bind]
  refine iff_of_eq (congrArg (C.Conforms K p.run) ?_)
  funext K result
  cases result with
  | ok value => rfl
  | error err => exact eq_true trivial

@[simp]
theorem keeps_sql {s : Sql} {post : C.Know → Reply s → Prop} :
    Keeps C K (sql s) post ↔
      C.permits K s ∧ ∀ reply, C.promised s reply → post (C.learn K s reply) reply := Iff.rfl

@[simp]
theorem keeps_check {value : Except ChatError β} :
    Keeps C K (check value) post ↔ ∀ v, value = .ok v → post K v := by
  cases value with
  | ok v => exact ⟨fun holds w same => Except.ok.inj same ▸ holds, fun holds => holds v rfl⟩
  | error err => exact ⟨fun _ _ same => (nomatch same), fun _ => trivial⟩

@[simp]
theorem keeps_require {err : ChatError} {found : Option β} :
    Keeps C K (require err found) post ↔ ∀ v, found = some v → post K v := by
  cases found with
  | some v => exact ⟨fun holds w same => some.inj same ▸ holds, fun holds => holds v rfl⟩
  | none => exact ⟨fun _ _ same => (nomatch same), fun _ => trivial⟩

theorem keeps_ite {cond : Prop} [Decidable cond] {p q : Tx β}
    (yes : cond → Keeps C K p post) (no : ¬ cond → Keeps C K q post) :
    Keeps C K (if cond then p else q) post := by
  split
  next holds => exact yes holds
  next fails => exact no fails

/-- A transaction that keeps a contract is a program that conforms to it. -/
theorem Keeps.commits {p : Tx β} (keeps : Keeps C K p fun _ _ => True) :
    C.Conforms K p.commits fun _ _ => True := by
  refine conforms_bind.mpr (Conforms.mono (fun K result _ => ?_) keeps)
  exact trivial

end Keeps

variable {reply : Unit} {row : TurnRow} {check : TurnRow → Bool}

section Turns

/-- The turn that a change writes. -/
def Change.turnRow? : Change → Option TurnRow
  | .insertTurn row | .updateTurn row => some row
  | _ => none

/-- Whether a change writes a turn. -/
def Change.onTurn (change : Change) : Bool :=
  change.turnRow?.isSome

/-- The changes of turns, as they stand in a list of changes. -/
def turnChanges (changes : List Change) : List Change :=
  changes.filter Change.onTurn

@[simp]
theorem turnChanges_append (first second : List Change) :
    turnChanges (first ++ second) = turnChanges first ++ turnChanges second :=
  List.filter_append ..

/-- Only changes of turns change the table of turns. -/
theorem applyAll_turns (db : Database) (changes : List Change) :
    (postgres.applyAll db changes).turns = (postgres.applyAll db (turnChanges changes)).turns := by
  have congr : ∀ (changes : List Change) (db db' : Database), db.turns = db'.turns →
      (postgres.applyAll db changes).turns = (postgres.applyAll db' changes).turns := by
    intro changes
    induction changes with
    | nil => exact fun _ _ same => same
    | cons change changes ih =>
      intro db db' same
      refine ih _ _ ?_
      cases change <;> simp [postgres, Change.apply, same]
  induction changes generalizing db with
  | nil => rfl
  | cons change changes ih =>
    rw [Engine.applyAll_cons, ih]
    cases change with
    | insertTurn row | updateTurn row => rfl
    | insertThread thread | updateThread thread | insertMessage message | updateMessage message
    | insertStanding ns profileName threadID =>
      -- The change itself is dropped, and it has not touched the turns.
      exact congr (turnChanges changes) _ db rfl

/-- Two snapshots of one turn agree in what is settled when the turn is accepted. -/
structure Turn.Same (a b : Turn) : Prop where
  id : a.id = b.id
  threadID : a.threadID = b.threadID
  ns : a.ns = b.ns
  requestID : a.requestID = b.requestID
  userMessageID : a.userMessageID = b.userMessageID
  profileName : a.profileName = b.profileName
  lockKeys : a.lockKeys = b.lockKeys

theorem Turn.Same.refl (t : Turn) : t.Same t := ⟨rfl, rfl, rfl, rfl, rfl, rfl, rfl⟩

theorem Turn.Same.symm {a b : Turn} (same : a.Same b) : b.Same a :=
  ⟨same.id.symm, same.threadID.symm, same.ns.symm, same.requestID.symm, same.userMessageID.symm,
    same.profileName.symm, same.lockKeys.symm⟩

theorem Turn.Same.trans {a b c : Turn} (first : a.Same b) (second : b.Same c) : a.Same c :=
  ⟨first.id.trans second.id, first.threadID.trans second.threadID, first.ns.trans second.ns,
    first.requestID.trans second.requestID, first.userMessageID.trans second.userMessageID,
    first.profileName.trans second.profileName, first.lockKeys.trans second.lockKeys⟩

/-- A retry that is accepted queues the same turn again. -/
theorem prepareTurnRetry_ok {old expected next : Turn} {retry : TurnRetry} {now : Time}
    (prepared : prepareTurnRetry old expected retry now = .ok next) :
    active old = true ∧ sameTurnAttempt old expected = true ∧ old.Same next ∧
      next.status = .queued := by
  obtain ⟨fits, prepared⟩ := of_check_ok prepared
  obtain ⟨-, ⟨⟩⟩ := of_check_ok prepared
  simp only [Bool.or_eq_true, Bool.not_eq_true', not_or, Bool.not_eq_false] at fits
  exact ⟨fits.1, fits.2, ⟨rfl, rfl, rfl, rfl, rfl, rfl, rfl⟩, rfl⟩

theorem sameTurnAttempt_id {a b : Turn} (same : sameTurnAttempt a b = true) : a.id = b.id := by
  simp only [sameTurnAttempt, Bool.and_eq_true, decide_eq_true_eq] at same
  exact same.1.1.1.1.1

/-- The columns of a row are those of its payload. -/
structure TurnRow.Consistent (row : TurnRow) : Prop where
  id : row.payload.id = row.id
  threadID : row.payload.threadID = row.threadID
  ns : row.payload.ns = row.ns
  requestID : row.payload.requestID = row.requestID
  status : row.payload.status = row.status

/-- Every turn is stored under its own identity, with columns that repeat its payload. -/
def Database.Consistent (db : Database) : Prop :=
  ∀ id row, db.turns.get id = some row → row.id = id ∧ row.Consistent

/-- A row with another payload of the same turn is consistent again. -/
theorem TurnRow.Consistent.update (consistent : row.Consistent) {payload : Turn}
    (same : row.payload.Same payload) :
    ({ row with status := payload.status, payload } : TurnRow).Consistent :=
  ⟨same.id.symm.trans consistent.id, same.threadID.symm.trans consistent.threadID,
    same.ns.symm.trans consistent.ns, same.requestID.symm.trans consistent.requestID, rfl⟩

variable {db : Database} {changes : List Change}

theorem exists_of_anyTurn :
    db.anyTurn check = true ↔ ∃ id row, db.turns.get id = some row ∧ check row = true := by
  simp only [anyTurn, List.any_eq_true]
  constructor
  · rintro ⟨row, member, passes⟩
    obtain ⟨id, found⟩ := Table.exists_get_of_mem_values member
    exact ⟨id, row, found, passes⟩
  · rintro ⟨id, row, found, passes⟩
    exact ⟨row, Table.mem_values found, passes⟩

theorem anyTurn_eq_false :
    db.anyTurn check = false ↔ ∀ id row, db.turns.get id = some row → check row = false := by
  rw [← Bool.not_eq_true, exists_of_anyTurn]
  simp

theorem turn_mem_keys (row : TurnRow) : IndexKey.turn row.id ∈ row.keys := by
  simp [TurnRow.keys]

/-- A row whose keys are free has an identity that is free. -/
theorem absent_of_free (consistent : db.Consistent)
    (free : ∀ key ∈ row.keys, db.turnKeyTaken none key = false) : db.turns.get row.id = none := by
  by_contra present
  obtain ⟨other, found⟩ := ne_none_iff_exists'.mp present
  have held := anyTurn_eq_false.mp (free _ (turn_mem_keys row)) _ other found
  have same := (consistent _ other found).1
  rw [← same] at held
  simp [turn_mem_keys] at held

theorem replaceTurn_ok {new : TurnRow} (ran : replaceTurn db new = .ok changes) :
    changes = [.updateTurn new] ∧ ∀ key ∈ new.keys, db.turnKeyTaken (some new.id) key = false := by
  simp only [replaceTurn] at ran
  split at ran
  · cases ran
  next free =>
    cases ran
    exact ⟨rfl, by simpa using free⟩

end Turns

section Writes

/-- The row with another status and payload. -/
def TurnRow.replaced (row : TurnRow) (status : TurnStatus) (payload : Turn) : TurnRow :=
  { row with status, payload }

/-- What each statement may write, and under which conditions. -/
inductive Writes (db : Database) : Sql → Change → Prop
  | insertThread (thread : Thread) (free : db.threads.get thread.id = none) :
      Writes db (.insertThread thread) (.insertThread thread)
  | touchThread (id title : String) (updatedAt : Time) (old : Thread)
      (found : db.threads.get id = some old) :
      Writes db (.touchThread id title updatedAt) (.updateThread { old with title, updatedAt })
  | insertStanding (ns profileName threadID : String)
      (free : db.standing.get (ns, profileName) = none) :
      Writes db (.insertStanding ns profileName threadID) (.insertStanding ns profileName threadID)
  | insertMessage (m : Message) (free : ∀ key ∈ messageKeys m, db.messageKeyTaken key = false)
      (thread : (db.threads.get m.threadID).isSome) :
      Writes db (.insertMessage m) (.insertMessage m)
  | repairMessage (ns : String) (original repaired old : Message)
      (repairable : db.repairable ns original = true)
      (found : db.messages.find? (·.id = original.id) = some old) :
      Writes db (.repairMessage ns original repaired)
        (.updateMessage { old with content := repaired.content, metadata := repaired.metadata })
  | insertTurn (row : TurnRow) (free : ∀ key ∈ row.keys, db.turnKeyTaken none key = false)
      (thread : (db.threads.get row.threadID).isSome) :
      Writes db (.insertTurn row) (.insertTurn row)
  | updateTurn (id : String) (status : TurnStatus) (payload : Turn) (old : TurnRow)
      (found : db.turns.get id = some old)
      (free : ∀ key ∈ (old.replaced status payload).keys,
        db.turnKeyTaken (some old.id) key = false) :
      Writes db (.updateTurn id status payload) (.updateTurn (old.replaced status payload))
  | activateTurn (id : String) (old : TurnRow) (found : db.turns.get id = some old)
      (free : ∀ key ∈ (old.replaced .queued { old.payload with status := .queued }).keys,
        db.turnKeyTaken (some old.id) key = false) :
      Writes db (.activateTurn id)
        (.updateTurn (old.replaced .queued { old.payload with status := .queued }))
  | recordRun (turn : Turn) (uid : String) (old : TurnRow)
      (found : db.recordable turn uid = some old) :
      Writes db (.recordRun turn uid)
        (.updateTurn (old.replaced old.status { old.payload with runUID := uid }))

variable {db : Database} {changes : List Change}

theorem replaceTurn_writes {new : TurnRow}
    (ran : (replaceTurn db new).map (fun changes => ((), changes)) = .ok (reply, changes)) :
    changes = [.updateTurn new] ∧ ∀ key ∈ new.keys, db.turnKeyTaken (some new.id) key = false := by
  cases replaced : replaceTurn db new with
  | error err =>
    rw [replaced] at ran
    cases ran
  | ok written =>
    rw [replaced] at ran
    cases ran
    exact replaceTurn_ok replaced

theorem exec_insertThread {thread : Thread}
    (ran : (insertThread thread).exec db = .ok (reply, changes)) :
    changes = [.insertThread thread] ∧ db.threads.get thread.id = none := by
  obtain ⟨free, ⟨⟩⟩ := of_check_ok ran
  exact ⟨rfl, by simpa using free⟩

theorem exec_insertStanding {ns profileName threadID : String}
    (ran : (insertStanding ns profileName threadID).exec db = .ok (reply, changes)) :
    changes = [.insertStanding ns profileName threadID] ∧
      db.standing.get (ns, profileName) = none := by
  obtain ⟨free, ran⟩ := of_check_ok ran
  obtain ⟨-, ⟨⟩⟩ := of_check_ok ran
  exact ⟨rfl, by simpa using free⟩

theorem exec_insertMessage {m : Message}
    (ran : (insertMessage m).exec db = .ok (reply, changes)) :
    changes = [.insertMessage m] ∧ (∀ key ∈ messageKeys m, db.messageKeyTaken key = false) ∧
      (db.threads.get m.threadID).isSome := by
  obtain ⟨free, ran⟩ := of_check_ok ran
  obtain ⟨present, ⟨⟩⟩ := of_check_ok ran
  exact ⟨rfl, by simpa using free, by simpa [isSome_iff_ne_none] using present⟩

theorem exec_insertTurn (ran : (insertTurn row).exec db = .ok (reply, changes)) :
    changes = [.insertTurn row] ∧ (∀ key ∈ row.keys, db.turnKeyTaken none key = false) ∧
      (db.threads.get row.threadID).isSome := by
  obtain ⟨free, ran⟩ := of_check_ok ran
  obtain ⟨present, ⟨⟩⟩ := of_check_ok ran
  exact ⟨rfl, by simpa using free, by simpa [isSome_iff_ne_none] using present⟩

/-- A statement that succeeds writes one row, or none. -/
theorem exec_writes {s : Sql} {reply : Reply s} (ran : s.exec db = .ok (reply, changes)) :
    changes = [] ∨ ∃ change, changes = [change] ∧ Writes db s change := by
  cases s with
  | insertThread thread =>
    obtain ⟨rfl, free⟩ := exec_insertThread ran
    exact .inr ⟨_, rfl, .insertThread thread free⟩
  | touchThread id title updatedAt =>
    simp only [exec] at ran
    split at ran
    next old found =>
      cases ran
      exact .inr ⟨_, rfl, .touchThread id title updatedAt old found⟩
    cases ran
    exact .inl rfl
  | insertStanding ns profileName threadID =>
    obtain ⟨rfl, free⟩ := exec_insertStanding ran
    exact .inr ⟨_, rfl, .insertStanding ns profileName threadID free⟩
  | insertMessage m =>
    obtain ⟨rfl, free, present⟩ := exec_insertMessage ran
    exact .inr ⟨_, rfl, .insertMessage m free present⟩
  | repairMessage ns original repaired =>
    simp only [exec] at ran
    split at ran
    next repairable =>
      split at ran
      next old found =>
        cases ran
        exact .inr ⟨_, rfl, .repairMessage ns original repaired old repairable found⟩
      cases ran
      exact .inl rfl
    next =>
      cases ran
      exact .inl rfl
  | insertTurn row =>
    obtain ⟨rfl, free, present⟩ := exec_insertTurn ran
    exact .inr ⟨_, rfl, .insertTurn row free present⟩
  | updateTurn id status payload =>
    simp only [exec] at ran
    split at ran
    next old found =>
      obtain ⟨rfl, free⟩ := replaceTurn_writes ran
      exact .inr ⟨_, rfl, .updateTurn id status payload old found free⟩
    cases ran
    exact .inl rfl
  | activateTurn id =>
    simp only [exec, activated] at ran
    cases found : db.turns.get id with
    | none =>
      simp only [found, map_none] at ran
      cases ran
      exact .inl rfl
    | some old =>
      simp only [found, map_some] at ran
      obtain ⟨rfl, free⟩ := replaceTurn_writes ran
      exact .inr ⟨_, rfl, .activateTurn id old found free⟩
  | recordRun turn uid =>
    simp only [exec] at ran
    split at ran
    next old found =>
      cases ran
      exact .inr ⟨_, rfl, .recordRun turn uid old found⟩
    cases ran
    exact .inl rfl
  | _ =>
    cases ran
    exact .inl rfl

/-- Whoever writes a turn locks it, by its key or by its row. -/
theorem Writes.locked {s : Sql} {change : Change} (writes : Writes db s change)
    (consistent : db.Consistent) :
    match change with
    | .insertTurn row => (.key (.turn row.id), .exclusive) ∈ s.locks db
    | .updateTurn row => (.turnRow row.id, .exclusive) ∈ s.locks db
    | _ => True := by
  cases writes with
  | insertTurn row free thread =>
    simp only [locks, insertLocks, keyLocks, TurnRow.keys, List.mem_append, List.mem_map]
    refine .inl ⟨_, ?_, rfl⟩
    simp [free _ (turn_mem_keys row)]
  | updateTurn id status payload old found free => simp [locks, found, updateLocks, TurnRow.replaced]
  | activateTurn id old found free =>
    simp [locks, activated, found, updateLocks, TurnRow.replaced]
  | recordRun turn uid old found =>
    have sameID := (consistent _ old (filter_eq_some_iff.mp found).1).1
    simp [locks, found, TurnRow.replaced, sameID]
  | _ => trivial

end Writes

end AnvilAgents.Chat
