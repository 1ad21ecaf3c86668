import AnvilAgents.Chat.Memory
import AnvilAgents.Proofs.Chat.Transcript

/-! The store in memory against the Postgres store: where they answer alike, call for call. -/

namespace AnvilAgents.Chat

open Transaction Text MemoryStore List PostgresStore Table Engine Sql Fallible

/-- The kinds of errors that a caller tells apart. -/
inductive ErrorKind where
  | notFound
  | conflict
  | invalid
  | other

def ChatError.kind : ChatError → ErrorKind
  | .notFound _ => .notFound
  | .invalid _ => .invalid
  | .turnActive | .conversationChanged | .requestConflict => .conflict
  | .noRows | .uniqueViolation | .foreignKeyViolation => .other

def Thread.untimed (thread : Thread) : Thread :=
  { thread with createdAt := 0, updatedAt := 0 }

def Message.untimed (m : Message) : Message :=
  { m with createdAt := 0 }

def Turn.untimed (t : Turn) : Turn :=
  { t with
    createdAt := 0
    attempts := t.attempts.map fun attempt => { attempt with completedAt := 0 } }

section Calls

variable [UUIDs]

def Call.untimed : (call : Call) → call.Result → call.Result
  | .createThread _ _, thread | .getThread _ _, thread => Thread.untimed thread
  | .listThreads _, threads => threads.map Thread.untimed
  | .ensureStandingThread _ _, (thread, created) => (Thread.untimed thread, created)
  | .appendMessages _ _ _ _, (messages, thread) =>
    (messages.map Message.untimed, Thread.untimed thread)
  | .listMessages _ _, messages => messages.map Message.untimed
  | .repairAssistantReply _ _ _ _, m => Message.untimed m
  | .queueTurn _ _ _, (t, m, thread) => (t.untimed, Message.untimed m, Thread.untimed thread)
  | .listTurns _ _, turns | .pendingTurns _, turns => turns.map Turn.untimed
  | .activateTurn _, activated => activated
  | .retryTurn _ _ _, t => t.untimed
  | .recordRun _ _, done | .completeTurn _ _ _, done => done

/-- Two outcomes of a call: the same result up to times, or errors of one kind. -/
def SameOutcome (call : Call) : Except ChatError call.Result → Except ChatError call.Result → Prop
  | .ok value, .ok value' => call.untimed value = call.untimed value'
  | .error err, .error err' => err.kind = err'.kind
  | _, _ => False

/-- Both stores answer each of the calls alike, one after the other. -/
def Interchangeable : Database → MemoryStore → List (MapOrder × Call) → Prop
  | _, _, [] => True
  | db, s, (order, call) :: calls =>
    SameOutcome call (PostgresStore.serve call db).1 (MemoryStore.serve order call s).1 ∧
      Interchangeable (PostgresStore.serve call db).2 (MemoryStore.serve order call s).2 calls

section Alike

variable (db : Database) (s : MemoryStore)

/-- A namespace with which no two keys of the store in memory can be the same text. -/
def Slashless (ns : String) : Prop :=
  '/' ∉ ns.toList

instance (ns : String) : Decidable (Slashless ns) :=
  inferInstanceAs (Decidable (_ ∉ _))

def Titled (thread : Thread) : Prop :=
  thread.title ≠ "" ∧ thread.title ≠ defaultThreadTitle

instance (thread : Thread) : Decidable (Titled thread) :=
  inferInstanceAs (Decidable (_ ∧ _))

/-- Both stores hold the same update times for the threads of a namespace. -/
def Timely (ns : String) : Prop :=
  ∀ thread ∈ db.threads.values, thread.ns = ns →
    (s.threads.get (threadKey ns thread.id)).map (·.updatedAt) = some thread.updatedAt

instance (ns : String) : Decidable (Timely db s ns) :=
  inferInstanceAs (Decidable (∀ _ ∈ _, _))

/-- The identity under which a message is stored that a caller sends. -/
def messageID (m : MessageOf RawMetadata) (fresh : String) : String :=
  if trimSpace m.id = "" then fresh else trimSpace m.id

def Unused (id : String) : Prop :=
  ∀ m ∈ db.messages, m.id ≠ id

instance (id : String) : Decidable (Unused db id) :=
  inferInstanceAs (Decidable (∀ _ ∈ _, _))

/-- The identities under which a batch of messages is stored. -/
def messageIDs (env : Env) : Nat → List (MessageOf RawMetadata) → List String
  | _, [] => []
  | index, m :: messages => messageID m (env.newUUID index) :: messageIDs env (index + 1) messages

/-- A turn that is stored as it is, with no field that only the caller sees. -/
def Plain (t : Turn) : Prop :=
  stored t = t

instance (t : Turn) : Decidable (Plain t) :=
  inferInstanceAs (Decidable (_ = _))

/-- The turns that meet a condition are plain, and no two were accepted at one time. -/
def Listable (p : Turn → Bool) : Prop :=
  (∀ t ∈ s.turns.values, p t → Plain t) ∧
    ∀ t ∈ s.turns.values, ∀ t' ∈ s.turns.values, p t → p t' → t.createdAt = t'.createdAt →
      t.id = t'.id

instance (p : Turn → Bool) : Decidable (Listable s p) :=
  inferInstanceAs (Decidable ((∀ _ ∈ _, _) ∧ ∀ _ ∈ _, _))

/-- The calls for which the stores do not differ, given what they hold. -/
def alike : Call → Bool
  | .createThread env thread => decide <| ∀ stored ∈ (normalizeThread thread env).toOption,
    Slashless stored.ns ∧ db.threads.get stored.id = none
  | .getThread ns _ => decide <| Slashless (trimSpace ns)
  | .listThreads filter => decide <| Timely db s (trimSpace filter.ns) ∧
    ∀ thread ∈ db.threads.values, ∀ thread' ∈ db.threads.values, thread.ns = trimSpace filter.ns →
      thread'.ns = trimSpace filter.ns → thread.updatedAt = thread'.updatedAt →
        thread.id = thread'.id
  | .ensureStandingThread env seed => decide <| ∀ stored ∈ (normalizeThread seed env).toOption,
    Slashless stored.ns ∧ (db.standing.get (stored.ns, stored.profileName) = none →
      Timely db s stored.ns ∧
      (db.eligible stored.ns stored.profileName = none → db.threads.get stored.id = none))
  | .appendMessages env ns _ messages => decide <| Slashless (trimSpace ns) ∧
    (messageIDs env 0 messages).Nodup ∧ ∀ id ∈ messageIDs env 0 messages, Unused db id
  -- The Postgres store looks messages and turns up by the identity as the caller wrote it.
  | .listMessages ns threadID => decide <| Slashless (trimSpace ns) ∧
    ∀ id ∈ parseUUID (trimSpace threadID), id = threadID
  | .listTurns ns id => decide <| Slashless ns ∧ trimSpace ns = ns ∧ ns ≠ "" ∧
    parseUUID (trimSpace id) = some id ∧ Listable s fun t => t.ns = ns && t.threadID = id
  | .repairAssistantReply ns original _ _ => decide <| Slashless ns ∧
    ∀ m ∈ db.messages, m.id = original.id → m.sequence = original.sequence
  | .queueTurn env t m => decide <| Slashless t.ns ∧
    ∀ prepared ∈ (prepareTurn t m env).toOption, ∀ thread ∈ db.thread t.ns t.threadID,
      (∀ row ∈ db.request t.threadID t.requestID, ∀ old ∈ s.turns.get row.id, Plain old) ∧
      (db.request t.threadID t.requestID = none →
        Titled thread ∧ db.turns.get prepared.1.id = none ∧ Unused db prepared.2.id)
  | .pendingTurns _ => decide <| Listable s active
  -- The store in memory goes by the turn that it holds, and the Postgres store by the caller's.
  | .activateTurn t => decide <| ∃ old ∈ s.turns.get t.id, old.status = .waiting →
    t.ns = old.ns ∧ t.profileName = old.profileName ∧ t.lockKeys = old.lockKeys
  | .recordRun t uid => decide <| ∃ old ∈ s.turns.get t.id, old.status ≠ .waiting ∧
    (t.runUID = "" ∨ t.runUID = old.runUID) ∧ (old.runUID = "" ∨ old.runUID = uid)
  | .retryTurn _ expected _ => decide <| ∀ old ∈ s.turns.get expected.id,
    old.ns = expected.ns ∧ old.threadID = expected.threadID ∧ Plain old
  | .completeTurn env t m => decide <| active t = false ∧ ∃ old ∈ s.turns.get t.id,
    old.ns = t.ns ∧ old.threadID = t.threadID ∧
      (active old = true → m.role ≠ .user ∧ Unused db (messageID m (env.newUUID 1)))

end Alike

/-- All of the calls are such, one after the other. -/
def alikeAll : Database → MemoryStore → List (MapOrder × Call) → Bool
  | _, _, [] => true
  | db, s, (order, call) :: calls => alike db s call &&
    alikeAll (PostgresStore.serve call db).2 (MemoryStore.serve order call s).2 calls

end Calls

section Outcomes

variable {db : Database} {α β : Type} {rest : α → Tx β}

theorem ok_bind {ε : Type} (value : α) (rest : α → Except ε β) :
    (Except.ok value >>= rest) = rest value := rfl

theorem afterwards_nil (result : Except ChatError (β × List Change)) :
    afterwards [] result = result := by
  cases result <;> rfl

variable {changes : List Change}

theorem outcome_read {stmt : Sql} {rest : Reply stmt → Tx β} (answer : Reply stmt)
    (reads : stmt.exec db = .ok (answer, [])) :
    outcome db (sql stmt >>= rest) = outcome db (rest answer) := by
  rw [outcome_ok ((outcome_sql stmt).trans reads), afterwards_nil]
  rfl

theorem outcome_write {stmt : Sql} {rest : Reply stmt → Tx β} {reply : Reply stmt}
    (writes : stmt.exec db = .ok (reply, changes)) :
    outcome db (sql stmt >>= rest) =
      afterwards changes (outcome (postgres.applyAll db changes) (rest reply)) :=
  outcome_ok ((outcome_sql stmt).trans writes)

theorem outcome_check_ok (value : α) : outcome db (check (.ok value) >>= rest) =
    outcome db (rest value) :=
  (outcome_ok (show outcome db (check (.ok value)) = .ok (value, []) from rfl)).trans
    (afterwards_nil _)

theorem outcome_check_error (err : ChatError) :
    outcome db (check (.error err) >>= rest) = .error err :=
  outcome_error rfl

theorem outcome_require_some (err : ChatError) (value : α) :
    outcome db (require err (some value) >>= rest) = outcome db (rest value) :=
  (outcome_ok (show outcome db (require err (some value)) = .ok (value, []) from rfl)).trans
    (afterwards_nil _)

theorem outcome_require_none (err : ChatError) :
    outcome db (require err none >>= rest) = .error err :=
  outcome_error rfl

/-- Advisory locks are there for the taking. -/
theorem outcome_lockAll (names : List String) (rest : Unit → Tx β) :
    outcome db (lockAll names >>= rest) = outcome db (rest ()) := by
  have locked : outcome db (lockAll names) = .ok ((), []) := by
    induction names with
    | nil => rfl
    | cons name names ih =>
      rw [lockAll, outcome_read () rfl]
      exact ih
  rw [outcome_ok locked, afterwards_nil]
  rfl

end Outcomes

def Thread.undated (thread : Thread) : Thread :=
  { thread with updatedAt := 0 }

/-- The row and the entry of one turn, apart from what the columns repeat. -/
structure Paired (row : TurnRow) (t : Turn) : Prop where
  payload : row.payload = stored t
  deferred : t.status = .waiting → t.deferred = true
  since : row.createdAt = t.createdAt

/-- What the two stores have in common after the same calls. -/
structure Twin (db : Database) (s : MemoryStore) : Prop where
  threads : ∀ id thread, db.threads.get id = some thread →
    ∃ twin, s.threads.get (threadKey thread.ns id) = some twin ∧
      Thread.undated twin = Thread.undated thread
  known : ∀ key twin, s.threads.get key = some twin → key = threadKey twin.ns twin.id ∧
    ∃ thread, db.threads.get twin.id = some thread ∧ thread.ns = twin.ns
  named : ∀ id thread, db.threads.get id = some thread → Slashless thread.ns ∧ id ≠ ""
  messages : ∀ id thread, db.threads.get id = some thread →
    s.messagesAt (threadKey thread.ns id) = db.messagesOf id
  housed : ∀ m ∈ db.messages, (db.threads.get m.threadID).isSome
  bare : ∀ key, s.threads.get key = none → s.messages.get key = none
  turns : ∀ id, Option.Rel Paired (db.turns.get id) (s.turns.get id)
  home : ∀ id row, db.turns.get id = some row →
    ∃ thread, db.threads.get row.threadID = some thread ∧ thread.ns = row.ns
  unique : ∀ id id' row row', db.turns.get id = some row → db.turns.get id' = some row' →
    ∀ key ∈ row.keys, key ∈ row'.keys → id = id'
  standing : ∀ ns profileName, Slashless ns →
    s.standing.get (threadKey ns profileName) = db.standing.get (ns, profileName)
  pointer : ∀ ns profileName id, db.standing.get (ns, profileName) = some id →
    ∃ thread, db.threads.get id = some thread ∧ thread.ns = ns

/-- With such namespaces, keys are the same only for the same threads. -/
theorem threadKey_inj {ns ns' id id' : String} (slashless : Slashless ns) (slashless' : Slashless ns')
    (same : threadKey ns id = threadKey ns' id') : ns = ns' ∧ id = id' := by
  have texts : ns.toList ++ '/' :: id.toList = ns'.toList ++ '/' :: id'.toList := by
    simpa [threadKey] using congrArg String.toList same
  rw [Slashless] at slashless slashless'
  -- Were one namespace longer, it would go on with the slash that ends the other.
  rcases append_eq_append_iff.mp texts with ⟨_ | ⟨c, more⟩, longer, rest⟩ |
    ⟨_ | ⟨c, more⟩, longer, rest⟩
  · simpa [String.toList_inj, eq_comm] using And.intro longer rest
  · simp [longer, ← (cons.inj rest).1] at slashless'
  · simpa [String.toList_inj, eq_comm] using And.intro longer rest
  · simp [longer, ← (cons.inj rest).1] at slashless

theorem Twin.start : Twin .empty .empty where
  threads _ _ found := nomatch found
  known _ _ found := nomatch found
  named _ _ found := nomatch found
  messages _ _ found := nomatch found
  housed _ member := nomatch member
  bare _ _ := rfl
  turns _ := .none
  home _ _ found := nomatch found
  unique _ _ _ _ found := nomatch found
  standing _ _ _ := rfl
  pointer _ _ _ found := nomatch found

section Twins

variable {db : Database} {s : MemoryStore}

/-- Two threads that differ at most in the time of their last change. -/
theorem Thread.undated_eq {a b : Thread} (same : Thread.undated a = Thread.undated b) :
    a = { b with updatedAt := a.updatedAt } := by
  cases a
  cases b
  simp only [Thread.undated, ThreadOf.mk.injEq] at same ⊢
  tauto

variable {ns : String}

/-- Writing the messages of a thread leaves those of all others. -/
theorem messagesAt_put (threads : Table String Thread) (messages : Table String (List Message))
    (turns : Table String Turn) (standing : Table String String) (key other : String)
    (list : List Message) :
    (MemoryStore.mk threads (messages.put key list) turns standing).messagesAt other =
      if other = key then list else (MemoryStore.mk threads messages turns standing).messagesAt other := by
  split
  next same => simp [messagesAt, same]
  next other => simp [messagesAt, other]

variable {id : String}

/-- The messages of one thread come in addition to those of all others. -/
theorem messagesOf_append_own {added : List Message}
    (own : ∀ m ∈ added, m.threadID = id) (db : Database) (threads : Table String Thread)
    (other : String) :
    ({ db with threads, messages := db.messages ++ added } : Database).messagesOf other =
      db.messagesOf other ++ if other = id then added else [] := by
  rw [Database.messagesOf, Database.messagesOf, filter_append]
  congr 1
  split
  next same => exact filter_eq_self.mpr fun m member => by simp [own m member, same]
  next differs =>
    refine filter_eq_nil_iff.mpr fun m member => ?_
    simpa [own m member] using Ne.symm differs

variable {t : Turn}

/-- No other turn holds a key of this one. -/
def Apart (db : Database) (new : TurnRow) : Prop :=
  ∀ id other, db.turns.get id = some other → id ≠ new.id → ∀ key ∈ new.keys, key ∉ other.keys

variable {thread : Thread} {now : Time}

theorem mem_toOption {ε α : Type} {value : α} {result : Except ε α} (passed : result = .ok value) :
    value ∈ result.toOption := by
  rw [passed]
  rfl

/-- The row and the entry of one turn. -/
structure TurnTwin (row : TurnRow) (t : Turn) : Prop extends Paired row t where
  id : row.id = t.id
  threadID : row.threadID = t.threadID
  ns : row.ns = t.ns
  requestID : row.requestID = t.requestID
  status : row.status = t.status

theorem Paired.turnTwin {row : TurnRow} (held : Paired row t) (consistent : db.Consistent)
    (found : db.turns.get id = some row) : TurnTwin row t ∧ t.id = id := by
  obtain ⟨sameID, own, threadID, ns, requestID, status⟩ := consistent id row found
  -- Storing a turn keeps the fields that the columns repeat.
  rw [held.payload] at own threadID ns requestID status
  exact ⟨⟨held, own.symm, threadID.symm, ns.symm, requestID.symm, status.symm⟩, own.trans sameID⟩

/-- A turn that changes its place in no index can be replaced. -/
theorem replaceTurn_free {new : TurnRow} (consistent : db.Consistent) (apart : Apart db new) :
    replaceTurn db new = .ok [.updateTurn new] := by
  have free : new.keys.any (db.turnKeyTaken (some new.id)) = false := by
    rw [any_eq_false]
    intro key member taken
    obtain ⟨id, other, found, holds⟩ := exists_of_anyTurn.mp taken
    simp only [Bool.and_eq_true, decide_eq_true_eq, contains_iff_mem] at holds
    obtain ⟨differs, holds⟩ := holds
    have sameID := (consistent id other found).1
    exact apart id other found (fun mine => differs (by rw [sameID, mine])) key member holds
  rw [replaceTurn, free]
  rfl

variable {status : TurnStatus}

/-- A turn that does not wait occupies its resources as long as it is active. -/
theorem occupies_of_active (running : status ≠ .waiting) :
    status.occupies = status.unfinished := by
  cases status with
  | waiting => exact absurd rfl running
  | queued | running | ended => rfl

theorem occupies_eq (status : TurnStatus) :
    status.occupies = (status.unfinished && decide (status ≠ .waiting)) := by
  cases status <;> rfl

variable {p : TurnRow → Bool} {q : Turn → Bool}

/-- Which turns hold a key. -/
theorem mem_keys_iff {row : TurnRow} {key : IndexKey} : key ∈ row.keys ↔
    match key with
    | .turn id => row.id = id
    | .request threadID requestID => row.threadID = threadID ∧ row.requestID = requestID
    | .activeThread threadID => row.status.occupies = true ∧ row.threadID = threadID
    | .unfinishedThread threadID => row.status.unfinished = true ∧ row.threadID = threadID
    | .activeProfile ns profileName =>
      row.status.occupies = true ∧ row.ns = ns ∧ row.payload.profileName = profileName
    | _ => False := by
  cases h : row.status.occupies <;> cases h' : row.status.unfinished <;> cases key <;>
    simp [TurnRow.keys, h, h', eq_comm]

/-- A plain turn was neither deferred nor accepted at a place of the conversation. -/
theorem plain_iff : Plain t ↔ t.expectedSequence = none ∧ t.deferred = false := by
  cases t
  simp only [Plain, stored, Turn.mk.injEq]
  tauto

/-- A retry keeps the fields that only the caller sees, and the time. -/
theorem prepareTurnRetry_keeps {old expected next : Turn} {retry : TurnRetry}
    (prepared : prepareTurnRetry old expected retry now = .ok next) :
    next.expectedSequence = old.expectedSequence ∧ next.deferred = old.deferred ∧
      next.createdAt = old.createdAt := by
  obtain ⟨-, prepared⟩ := of_check_ok prepared
  obtain ⟨-, ⟨⟩⟩ := of_check_ok prepared
  exact ⟨rfl, rfl, rfl⟩

/-- A message with a new identity can be put at the end of its thread. -/
theorem insertMessage_exec (numbered : Numbered db) {m : Message}
    (present : (db.threads.get m.threadID).isSome) (unused : Unused db m.id)
    (last : m.sequence = (db.messagesOf m.threadID).length + 1) :
    (insertMessage m).exec db = .ok ((), [.insertMessage m]) := by
  have free : (messageKeys m).any db.messageKeyTaken = false := by
    rw [any_eq_false]
    intro key member taken
    obtain ⟨other, present, holds⟩ := any_eq_true.mp taken
    simp only [messageKeys, mem_cons, not_mem_nil, or_false, contains_iff_mem] at member holds
    rcases member with rfl | rfl
    · have sameID : m.id = other.id := by simpa using holds
      exact unused other present sameID.symm
    · -- The numbers of the thread end before this one.
      obtain ⟨sameThread, sameNumber⟩ : m.threadID = other.threadID ∧ m.sequence = other.sequence := by
        simpa using holds
      have inThread : other.sequence ∈ (db.messagesOf m.threadID).map (·.sequence) :=
        mem_map_of_mem (mem_filter.mpr ⟨present, by simp [sameThread]⟩)
      rw [numbered m.threadID, mem_range'_1] at inThread
      omega
  have housed : (db.threads.get m.threadID).isNone = false := by
    simpa using present
  simp only [Sql.exec, free, housed, Bool.false_eq_true, if_false]

/-- The title of a thread after a message. -/
def titleAfter (thread : Thread) (m : Message) : String :=
  if (thread.title = "" ∨ thread.title = defaultThreadTitle) ∧ m.role = .user then
    titleFromContent m.content
  else thread.title

/-- A turn with the end that another snapshot of it has. -/
def Turn.endedAs (old t : Turn) : Turn :=
  { old with status := t.status, error := t.error, delegates := t.delegates }

variable {part : List Message}

/-- A message is found by its identity in every part of the messages that it belongs to. -/
theorem Distinct.find {m : Message} (distinct : Distinct db)
    (within : ∀ other ∈ part, other ∈ db.messages) (present : m ∈ part) :
    part.find? (·.id = m.id) = some m := by
  cases found : part.find? (·.id = m.id) with
  | none => exact absurd (find?_eq_none.mp found m present) (by simp)
  | some other =>
    have sameID : other.id = m.id := by simpa using find?_some found
    rw [distinct.eq (within m present) (within other (mem_of_find?_eq_some found)) sameID]

/-- The stores count the messages of a thread alike. -/
theorem checkSequence_outcome {β : Type} (numbered : Numbered db) (t : Turn) (rest : Unit → Tx β) :
    outcome db (checkSequence t >>= rest) =
      if t.expectedSequence.any fun expected =>
          ((db.messagesOf t.threadID).length : Int) ≠ expected then .error .conversationChanged
      else outcome db (rest ()) := by
  rw [checkSequence]
  cases t.expectedSequence with
  | none => exact (outcome_ok (show outcome db (pure ()) = .ok ((), []) from rfl)).trans (afterwards_nil _)
  | some expected =>
    have counted : outcome db (do
        let current : Nat ← sql (.maxSequence t.threadID)
        if (current : Int) ≠ expected then throw .conversationChanged else return ()) =
        if ((db.messagesOf t.threadID).length : Int) ≠ expected then .error .conversationChanged
        else .ok ((), []) := by
      rw [outcome_read _ rfl, numbered.maxSequence, apply_ite (outcome db)]
      rfl
    by_cases differs : ((db.messagesOf t.threadID).length : Int) ≠ expected
    · rw [if_pos differs] at counted
      rw [if_pos (by simpa using differs)]
      exact outcome_error counted
    · rw [if_neg differs] at counted
      rw [if_neg (by simpa using differs)]
      exact (outcome_ok counted).trans (afterwards_nil _)

theorem insertTurn_exec {row : TurnRow} (housed : (db.threads.get row.threadID).isSome)
    (apart : ∀ id other, db.turns.get id = some other → ∀ key ∈ row.keys, key ∉ other.keys) :
    (insertTurn row).exec db = .ok ((), [.insertTurn row]) := by
  have free : row.keys.any (db.turnKeyTaken none) = false := by
    rw [any_eq_false]
    intro key member taken
    obtain ⟨id, other, found, holds⟩ := exists_of_anyTurn.mp taken
    simp only [Bool.and_eq_true, contains_iff_mem] at holds
    exact apart id other found key member holds.2
  have referenced : (db.threads.get row.threadID).isNone = false := by
    simpa using housed
  simp only [Sql.exec, free, referenced, Bool.false_eq_true, if_false]

theorem applyAll_messages (db : Database) (added : List Message) :
    postgres.applyAll db (added.map .insertMessage) =
      { db with messages := db.messages ++ added } := by
  induction added generalizing db with
  | nil => simp
  | cons m added ih =>
    rw [map_cons, applyAll_cons, ih]
    simp [postgres, Change.apply]

instance : Std.Total fun a b : Turn => a.createdAt ≤ b.createdAt :=
  ⟨fun _ _ => le_total _ _⟩

instance : IsTrans Turn fun a b => a.createdAt ≤ b.createdAt :=
  ⟨fun _ _ _ first second => le_trans first second⟩

theorem Keyed.eq (keyed : Keyed db) {a b : Thread} (member : a ∈ db.threads.values)
    (member' : b ∈ db.threads.values) (same : a.id = b.id) : a = b := by
  obtain ⟨id, found⟩ := exists_get_of_mem_values member
  obtain ⟨id', found'⟩ := exists_get_of_mem_values member'
  rw [← (keyed id a found).1, same, (keyed id' b found').1] at found
  exact Option.some.inj (found.symm.trans found')

instance : Std.Total fun a b : Thread => b.updatedAt ≤ a.updatedAt :=
  ⟨fun _ _ => le_total _ _⟩

instance : IsTrans Thread fun a b => b.updatedAt ≤ a.updatedAt :=
  ⟨fun _ _ _ first second => le_trans second first⟩

theorem normalizeThreadFilter_ok {filter filter' : ThreadFilter}
    (passed : normalizeThreadFilter filter = .ok filter') : filter'.ns = trimSpace filter.ns := by
  dsimp only [normalizeThreadFilter] at passed
  split_ifs at passed <;> cases passed <;> rfl

/-- The newest thread first, and among those of one time the one with the smallest identity. -/
def newerThan (a b : Thread) : Prop :=
  b.updatedAt < a.updatedAt ∨ (b.updatedAt = a.updatedAt ∧ a.id ≤ b.id)

instance : DecidableRel newerThan :=
  fun _ _ => inferInstanceAs (Decidable (_ ∨ _))

instance : Std.Total newerThan where
  total a b := by
    rcases lt_trichotomy a.updatedAt b.updatedAt with older | same | newer
    · exact .inr (.inl older)
    · exact (le_total a.id b.id).imp (fun first => .inr ⟨same.symm, first⟩) fun second =>
        .inr ⟨same, second⟩
    · exact .inl (.inl newer)

theorem newerThan.trans {a b c : Thread} (ab : newerThan a b) (bc : newerThan b c) :
    newerThan a c := by
  rcases ab with newer | ⟨same, first⟩ <;> rcases bc with newer' | ⟨same', first'⟩
  · exact .inl (lt_trans newer' newer)
  · exact .inl (same' ▸ newer)
  · exact .inl (same ▸ newer')
  · exact .inr ⟨same'.trans same, le_trans first first'⟩

instance : IsTrans Thread newerThan :=
  ⟨fun _ _ _ => newerThan.trans⟩

theorem preferred_iff {best : Thread} (candidate : Thread) (named : best.id ≠ "") :
    preferred best candidate = true ↔ newerThan candidate best ∧
      ¬(candidate.updatedAt = best.updatedAt ∧ candidate.id = best.id) := by
  simp only [preferred, named, decide_false, Bool.false_or, Bool.or_eq_true, decide_eq_true_eq,
    Bool.and_eq_true, newerThan, lt_iff_le_and_ne]
  grind

/-- The choice in memory is the first row of the ordered query. -/
theorem chosenThread_eq {rows entries : List Thread} (perm : rows.Perm entries)
    (named : ∀ thread ∈ rows, thread.id ≠ "")
    (distinct : ∀ a ∈ rows, ∀ b ∈ rows, a.id = b.id → a = b) :
    chosenThread entries = (rows.insertionSort newerThan).head?.getD noThread := by
  -- The loop from the back takes the candidates in the order in which they are sorted in.
  have choice : ∀ list : List Thread, list ⊆ rows → list.foldr (fun candidate chosen =>
      if preferred chosen candidate then candidate else chosen) noThread =
        (list.insertionSort newerThan).head?.getD noThread := by
    intro list within
    induction list with
    | nil => rfl
    | cons candidate list ih =>
      obtain ⟨inside, within⟩ := cons_subset.mp within
      rw [foldr_cons, ih within, insertionSort_cons]
      cases sorted : list.insertionSort newerThan with
      | nil => rfl
      | cons best rest =>
        have member : best ∈ rows :=
          within ((mem_insertionSort newerThan).mp (sorted ▸ .head _))
        have newer := preferred_iff candidate (named best member)
        show (if preferred best candidate then candidate else best) = _
        rw [orderedInsert_cons]
        by_cases prefers : preferred best candidate = true
        · rw [if_pos prefers, if_pos (newer.mp prefers).1]
          rfl
        · rw [if_neg prefers]
          split
          next same => exact (distinct _ inside _ member (by tauto)).symm
          next => rfl
  have sorted : rows.insertionSort newerThan = entries.reverse.insertionSort newerThan := by
    refine (perm.trans (reverse_perm _).symm).insertionSort_eq fun a member b member' le ge => ?_
    refine distinct a member b member' ?_
    unfold newerThan at le ge
    grind
  rw [sorted, ← choice _ fun thread member => perm.mem_iff.mpr (mem_reverse.mp member),
    foldr_reverse]
  rfl

/-- The first message with an identity is the one that has it. -/
theorem findIdx_of_distinct {m : Message} (nodup : (part.map (·.id)).Nodup) (present : m ∈ part) :
    part[part.findIdx (·.id = m.id)]? = some m ∧
      ∀ new : Message, part.set (part.findIdx (·.id = m.id)) new =
        part.map fun other => if other.id = m.id then new else other := by
  induction part with
  | nil => cases present
  | cons head part ih =>
    rw [map_cons, nodup_cons] at nodup
    obtain ⟨fresh, nodup⟩ := nodup
    by_cases same : head.id = m.id
    · -- The rest has other identities.
      have others : ∀ other ∈ part, other.id ≠ m.id := by
        intro other member equal
        exact fresh (mem_map.mpr ⟨other, member, equal.trans same.symm⟩)
      have mine : m = head := by
        rcases mem_cons.mp present with mine | later
        · exact mine
        · exact absurd rfl (others m later)
      have kept : ∀ new : Message,
          part.map (fun other => if other.id = m.id then new else other) = part := by
        intro new
        rw [map_congr_left fun other member => if_neg (others other member), map_id']
      subst mine
      simp [findIdx_cons, kept]
    · obtain ⟨found, sets⟩ := ih nodup ((mem_cons.mp present).resolve_left fun mine =>
        same (congrArg (·.id) mine).symm)
      simp [findIdx_cons, same, found, sets]

variable {content format : String}

/-- A repair keeps all of an assistant's message but its body. -/
theorem repairedAssistant_ok {original repaired : Message}
    (valid : repairedAssistant original content format = .ok repaired) :
    original.role = .assistant ∧ repaired =
      { original with content := repaired.content, metadata := repaired.metadata } := by
  obtain ⟨fits, valid⟩ := of_check_ok valid
  obtain ⟨-, ⟨⟩⟩ := of_check_ok valid
  exact ⟨not_not.mp (not_or.mp fits).1, rfl⟩

/-- What may be repaired is in its thread as the caller has seen it. -/
theorem repairable_iff {original : Message} (looked : db.thread ns original.threadID = some thread) :
    db.repairable ns original = true ↔ ∃ m ∈ db.messagesOf original.threadID, m.id = original.id ∧
      m.role = .assistant ∧ m.content = original.content ∧ m.metadata = original.metadata := by
  simp [Database.repairable, looked, Database.messagesOf, and_assoc]

/-! ### The two stores side by side -/

section Rows

variable (twin : Twin db s)

include twin

/-- A thread is in both stores or in none, with the same messages. -/
theorem Twin.lookup (slashless : Slashless ns) (id : String) :
    (db.thread ns id = none ∧ s.threads.get (threadKey ns id) = none) ∨
      ∃ thread there, db.thread ns id = some thread ∧ db.threads.get id = some thread ∧
        thread.ns = ns ∧ s.threads.get (threadKey ns id) = some there ∧
        there = { thread with updatedAt := there.updatedAt } ∧
        s.messagesAt (threadKey ns id) = db.messagesOf id := by
  cases found : db.thread ns id with
  | some thread =>
    obtain ⟨present, within⟩ := Option.filter_eq_some_iff.mp found
    obtain rfl : thread.ns = ns := of_decide_eq_true within
    obtain ⟨there, stored, same⟩ := twin.threads id thread present
    exact .inr ⟨thread, there, rfl, present, rfl, stored, Thread.undated_eq same,
      twin.messages id thread present⟩
  | none =>
    refine .inl ⟨rfl, ?_⟩
    -- A thread in memory would be in the tables, in the same namespace.
    by_contra stored
    obtain ⟨there, stored⟩ := Option.ne_none_iff_exists'.mp stored
    obtain ⟨key, thread, present, within⟩ := twin.known _ there stored
    have free : Slashless there.ns := within ▸ (twin.named _ _ present).1
    obtain ⟨rfl, rfl⟩ := threadKey_inj slashless free key
    have absent := Option.filter_eq_none_iff.mp found thread present
    exact absent (decide_eq_true within)

/-- A thread is written to both stores, new or changed, with messages that come in addition. -/
theorem Twin.write {thread there : Thread} (added list : List Message)
    (slashless : Slashless thread.ns) (named : thread.id ≠ "")
    (same : Thread.undated there = Thread.undated thread)
    (kept : ∀ old, db.threads.get thread.id = some old → old.ns = thread.ns)
    (own : ∀ m ∈ added, m.threadID = thread.id) (listed : list = db.messagesOf thread.id ++ added) :
    Twin { db with threads := db.threads.put thread.id thread, messages := db.messages ++ added }
      { s with
        threads := s.threads.put (threadKey thread.ns thread.id) there
        messages := s.messages.put (threadKey thread.ns thread.id) list } := by
  obtain ⟨sameID, sameNs⟩ : there.id = thread.id ∧ there.ns = thread.ns := by
    rw [Thread.undated_eq same]
    exact ⟨rfl, rfl⟩
  -- The key of any other thread is another one.
  have apart : ∀ {id old}, id ≠ thread.id → db.threads.get id = some old →
      threadKey old.ns id ≠ threadKey thread.ns thread.id := by
    intro id old differs found sameKey
    exact differs (threadKey_inj (twin.named id old found).1 slashless sameKey).2
  -- A thread that is there stays there, in its namespace.
  have stays : ∀ {id ns}, (∃ old, db.threads.get id = some old ∧ old.ns = ns) →
      ∃ new, (db.threads.put thread.id thread).get id = some new ∧ new.ns = ns := by
    rintro id _ ⟨old, found, rfl⟩
    by_cases mine : id = thread.id
    · subst mine
      exact ⟨thread, by simp, (kept old found).symm⟩
    · exact ⟨old, by simpa [mine] using found, rfl⟩
  refine ⟨fun id new found => ?_, fun key new found => ?_, fun id new found => ?_,
    fun id new found => ?_, fun m member => ?_, fun key absent => ?_, twin.turns,
    fun id row found => ?_, twin.unique, twin.standing, fun ns profileName id found => ?_⟩
  · rcases get_put_cases found with ⟨rfl, rfl⟩ | ⟨differs, before⟩
    · exact ⟨there, by simp, same⟩
    · obtain ⟨old, stored, equal⟩ := twin.threads id new before
      exact ⟨old, by simpa [apart differs before] using stored, equal⟩
  · rcases get_put_cases found with ⟨rfl, rfl⟩ | ⟨-, before⟩
    · exact ⟨by rw [sameID, sameNs], thread, by rw [sameID]; simp, sameNs.symm⟩
    · exact (twin.known key new before).imp_right stays
  · rcases get_put_cases found with ⟨rfl, rfl⟩ | ⟨-, before⟩
    · exact ⟨slashless, named⟩
    · exact twin.named id new before
  · rw [messagesOf_append_own own]
    rcases get_put_cases found with ⟨rfl, rfl⟩ | ⟨differs, before⟩
    · rw [messagesAt_put, if_pos rfl, if_pos rfl, listed]
    · rw [messagesAt_put, if_neg (apart differs before), if_neg differs, append_nil]
      exact twin.messages id new before
  · rcases mem_append.mp member with before | new
    · obtain ⟨old, present⟩ := Option.isSome_iff_exists.mp (twin.housed m before)
      obtain ⟨now, found, -⟩ := stays ⟨old, present, rfl⟩
      exact Option.isSome_iff_exists.mpr ⟨now, found⟩
    · rw [own m new]
      simp
  · by_cases mine : key = threadKey thread.ns thread.id
    · subst mine
      simp at absent
    · simp only [get_put_of_ne _ _ mine] at absent ⊢
      exact twin.bare key absent
  · exact stays (twin.home id row found)
  · exact stays (twin.pointer ns profileName id found)

theorem Twin.noMessages (absent : db.threads.get id = none) : db.messagesOf id = [] := by
  refine filter_eq_nil_iff.mpr fun m member mine => ?_
  have housed := twin.housed m member
  rw [of_decide_eq_true mine, absent] at housed
  cases housed

theorem Twin.putTurn (row : TurnRow) (held : Paired row t)
    (home : ∃ thread, db.threads.get row.threadID = some thread ∧ thread.ns = row.ns)
    (apart : Apart db row) :
    Twin { db with turns := db.turns.put row.id row } { s with turns := s.turns.put row.id t } := by
  refine ⟨twin.threads, twin.known, twin.named, twin.messages, twin.housed, twin.bare, fun id => ?_,
    fun id new found => ?_,
    fun id id' new new' found found' key here there => ?_, twin.standing, twin.pointer⟩
  · by_cases mine : id = row.id
    · subst mine
      simpa using Option.Rel.some held
    · simpa [mine] using twin.turns id
  · rcases get_put_cases found with ⟨-, rfl⟩ | ⟨-, before⟩
    · exact home
    · exact twin.home id new before
  · -- The keys of the written turn are its own, and all others were apart before.
    rcases get_put_cases found with ⟨rfl, rfl⟩ | ⟨differs, before⟩ <;>
      rcases get_put_cases found' with ⟨rfl, rfl⟩ | ⟨differs', before'⟩
    · rfl
    · exact absurd there (apart id' new' before' differs' key here)
    · exact absurd here (apart id new before differs key there)
    · exact twin.unique id id' new new' before before' key here there

/-- A thread with a new identity is new to both stores. -/
theorem Twin.newThread (slashless : Slashless thread.ns) (named : thread.id ≠ "")
    (absent : db.threads.get thread.id = none) :
    (insertThread thread).exec db = .ok ((), [.insertThread thread]) ∧
      s.threads.get (threadKey thread.ns thread.id) = none ∧
      Twin (postgres.applyAll db [.insertThread thread]) { s with
        threads := s.threads.put (threadKey thread.ns thread.id) thread
        messages := s.messages.put (threadKey thread.ns thread.id) [] } := by
  refine ⟨?_, ?_, ?_⟩
  · simp only [Sql.exec, absent, Option.isSome_none, Bool.false_eq_true, if_false]
  · rcases twin.lookup slashless thread.id with ⟨-, missing⟩ | ⟨_, _, -, found, -⟩
    · exact missing
    · cases absent.symm.trans found
  · have written := twin.write [] [] slashless named rfl
      (fun old found => by cases absent.symm.trans found) (by simp)
      (by rw [twin.noMessages absent]; rfl)
    rw [append_nil] at written
    exact written

/-- A thread that both stores have gets messages, and perhaps a title and a time. -/
theorem Twin.extend (present : db.threads.get thread.id = some thread) {title : String}
    {there : Thread} (added : List Message)
    (same : Thread.undated there = Thread.undated { thread with title, updatedAt := now })
    (own : ∀ m ∈ added, m.threadID = thread.id) :
    Twin { db with
        threads := db.threads.put thread.id { thread with title, updatedAt := now }
        messages := db.messages ++ added }
      { s with
        threads := s.threads.put (threadKey thread.ns thread.id) there
        messages := s.messages.put (threadKey thread.ns thread.id)
          (db.messagesOf thread.id ++ added) } :=
  @Twin.write db s twin { thread with title, updatedAt := now } there added _
    (twin.named _ thread present).1 (twin.named _ thread present).2 same
    (fun was before => by rw [Option.some.inj (present.symm.trans before)]) own rfl

theorem Twin.putStanding (found : db.threads.get thread.id = some thread) (profileName : String) :
    Twin { db with standing := db.standing.put (thread.ns, profileName) thread.id }
      { s with standing := s.standing.put (threadKey thread.ns profileName) thread.id } := by
  have free : Slashless thread.ns := (twin.named _ _ found).1
  refine { twin with standing := fun ns profile slashless => ?_, pointer := fun ns profile id => ?_ }
  · by_cases mine : (ns, profile) = (thread.ns, profileName)
    · cases mine
      simp
    · have other : threadKey ns profile ≠ threadKey thread.ns profileName := by
        intro same
        obtain ⟨rfl, rfl⟩ := threadKey_inj slashless free same
        exact mine rfl
      simpa only [get_put_of_ne _ _ mine, get_put_of_ne _ _ other] using
        twin.standing ns profile slashless
  · intro pointed
    rcases get_put_cases pointed with ⟨same, rfl⟩ | ⟨-, before⟩
    · cases same
      exact ⟨thread, found, rfl⟩
    · exact twin.pointer ns profile id before

theorem Twin.apart {row : TurnRow} {payload : Turn} (found : db.turns.get row.id = some row)
    (within : ∀ key ∈ (row.replaced status payload).keys, key ∈ row.keys) :
    Apart db (row.replaced status payload) :=
  fun id other present differs key member taken =>
    differs (twin.unique id row.id other row present found key taken (within key member))

theorem Twin.replace (row : TurnRow) (status : TurnStatus) (payload : Turn)
    (found : db.turns.get row.id = some row) (held : Paired (row.replaced status payload) t)
    (apart : Apart db (row.replaced status payload)) :
    Twin { db with turns := db.turns.put row.id (row.replaced status payload) }
      { s with turns := s.turns.put row.id t } :=
  twin.putTurn (row.replaced status payload) held (twin.home row.id row found) apart

/-- A waiting turn may be activated when nothing occupies its profile. -/
theorem Twin.activated_apart {row : TurnRow} {payload : Turn}
    (found : db.turns.get row.id = some row) (waiting : row.status = .waiting)
    (profile : payload.profileName = row.payload.profileName)
    (idle : ∀ id other, db.turns.get id = some other → other.status.occupies = true →
      other.ns = row.ns → other.payload.profileName ≠ row.payload.profileName) :
    Apart db (row.replaced .queued payload) := by
  intro id other present differs key member taken
  have own : ∀ key ∈ row.keys, key ∉ other.keys := fun key mine theirs =>
    differs (twin.unique id row.id other row present found key theirs mine)
  have unfinished : row.status.unfinished = true := by rw [waiting]; rfl
  cases key with
  | turn | request => exact own _ (mem_keys_iff.mpr (mem_keys_iff.mp member :)) taken
  | activeThread threadID =>
    -- Whoever occupies the thread has not finished in it.
    obtain ⟨occupies, sameThread⟩ := mem_keys_iff.mp taken
    exact own (.unfinishedThread threadID) (mem_keys_iff.mpr ⟨unfinished, (mem_keys_iff.mp member).2⟩)
      (mem_keys_iff.mpr ⟨unfinished_of_occupies occupies, sameThread⟩)
  | unfinishedThread threadID =>
    exact own (.unfinishedThread threadID) (mem_keys_iff.mpr ⟨unfinished, (mem_keys_iff.mp member).2⟩)
      taken
  | activeProfile =>
    obtain ⟨-, rfl, rfl⟩ := mem_keys_iff.mp member
    obtain ⟨occupies, sameNs, sameProfile⟩ := mem_keys_iff.mp taken
    exact idle id other present occupies sameNs (sameProfile.trans profile)
  | _ => exact mem_keys_iff.mp member

end Rows

variable [UUIDs] {env : Env} {m : MessageOf RawMetadata} {messages : List (MessageOf RawMetadata)}
  {log : List Entry}

/-- Both stores have answered a call alike, and they have the same in common again. -/
def Agrees (db : Database) (call : Call) (there : Except ChatError (call.Result × List Change))
    (here : Except ChatError (call.Result × MemoryStore)) : Prop :=
  match there, here with
  | .ok (value, changes), .ok (value', after) =>
    call.untimed value = call.untimed value' ∧ Twin (postgres.applyAll db changes) after
  | .error err, .error err' => err.kind = err'.kind
  | _, _ => False

section Agreements

variable {call : Call} {α : Type}

/-- Both stores check first, and go on alike with what has passed. -/
theorem Agrees.checked {checked : Except ChatError α} {rest : α → Tx call.Result}
    {next : α → Except ChatError (call.Result × MemoryStore)}
    (passes : ∀ value, checked = .ok value → Agrees db call (outcome db (rest value)) (next value)) :
    Agrees db call (outcome db (check checked >>= rest)) (checked >>= next) := by
  cases checked with
  | error err =>
    rw [outcome_check_error]
    exact rfl
  | ok value =>
    rw [outcome_check_ok]
    exact passes value rfl

/-- Both stores decide the same, and go on alike either way. -/
theorem Agrees.ite {c : Prop} [Decidable c] {p q : Tx call.Result}
    {a b : Except ChatError (call.Result × MemoryStore)} (yes : c → Agrees db call (outcome db p) a)
    (no : ¬c → Agrees db call (outcome db q) b) :
    Agrees db call (outcome db (if c then p else q)) (if c then a else b) := by
  split
  next holds => exact yes holds
  next fails => exact no fails

end Agreements

theorem normalizeThreadLookup_ok {ns id : String} {place : String × String}
    (looked : normalizeThreadLookup ns id = .ok place) :
    place.1 = trimSpace ns ∧ parseUUID (trimSpace id) = some place.2 := by
  obtain ⟨-, looked⟩ := of_check_ok looked
  split at looked
  · cases looked
  next parsed =>
    cases looked
    exact ⟨rfl, parsed⟩

/-- What appending the message of a turn writes. -/
theorem insertTurnMessage_outcome (numbered : Numbered db) (env : Env)
    (m : MessageOf RawMetadata) (found : db.threads.get thread.id = some thread)
    (trimmed : trimSpace thread.id = thread.id) :
    (∀ err, normalizeMessage { m with
        threadID := thread.id, sequence := (db.messagesOf thread.id).length + 1 } env.now
        (env.newUUID 1) = .error err →
      outcome db (insertTurnMessage env thread m) = .error err) ∧
    ∀ stored, normalizeMessage { m with
        threadID := thread.id, sequence := (db.messagesOf thread.id).length + 1 } env.now
        (env.newUUID 1) = .ok stored → Unused db stored.id →
      outcome db (insertTurnMessage env thread m) = .ok (stored, [.insertMessage stored,
        .updateThread { thread with title := titleAfter thread stored, updatedAt := env.now }]) := by
  rw [insertTurnMessage, outcome_read _ rfl, numbered.maxSequence]
  constructor
  · intro err failed
    rw [failed, outcome_check_error]
  · intro stored normalized unused
    obtain ⟨threadID, -, -, sequence, -⟩ := normalizeMessage_ok normalized
    have own : stored.threadID = thread.id := threadID.trans trimmed
    have inserts := insertMessage_exec numbered (by rw [own, found]; rfl) unused
      (by rw [own]; exact sequence)
    rw [normalized, outcome_check_ok, outcome_write inserts]
    -- Inserting the message has left the threads as they were.
    have touches : (touchThread thread.id (titleAfter thread stored) env.now).exec
        (postgres.applyAll db [.insertMessage stored]) = .ok ((), [.updateThread
          { thread with title := titleAfter thread stored, updatedAt := env.now }]) := by
      have still : (postgres.applyAll db [.insertMessage stored]).threads.get thread.id = some thread :=
        found
      simp only [Sql.exec, still]
    show afterwards _ (outcome _ (sql (.touchThread thread.id (titleAfter thread stored) env.now) >>= _)) =
      _
    rw [outcome_write touches]
    rfl

theorem messageID_of_normalized {fresh : String} {stored : Message}
    (normalized : normalizeMessage m now fresh = .ok stored) :
    stored.id = messageID m fresh := by
  obtain ⟨-, -, -, -, identified⟩ := normalizeMessage_ok normalized
  exact (normalizeID_ok identified).1.symm

/-- A message that was prepared passes the checks again, with its place in the thread. -/
theorem prepareTurn_again {t t' : Turn} {message : Message}
    (prepared : prepareTurn t m env = .ok (t', message)) (trimmed : trimSpace t.threadID = t.threadID)
    (count : Nat) (fresh : String) :
    message.threadID = t.threadID ∧
      normalizeMessage { message.raw with threadID := t.threadID, sequence := count + 1 } env.now
        fresh = .ok { message with sequence := count + 1 } := by
  obtain ⟨-, normalized⟩ := prepareTurn_ok prepared
  unfold normalizeMessage at normalized
  split at normalized
  · cases normalized
  next fault =>
    obtain ⟨metadata, -, normalized⟩ := bind_ok normalized
    obtain ⟨id, given, normalized⟩ := bind_ok normalized
    cases normalized
    refine ⟨trimmed, ?_⟩
    have sound : messageFault { (MessageOf.raw { m with
        id, metadata, threadID := trimSpace t.threadID, sequence := 1, role := Role.user
        createdAt := if m.createdAt = 0 then env.now else m.createdAt }) with
        threadID := t.threadID, sequence := count + 1 } = none := by
      simpa [messageFault, MessageOf.raw] using fault
    unfold normalizeMessage
    rw [sound]
    have identified : normalizeID "message" (trimSpace id) fresh = .ok id :=
      normalizeID_again (normalizeID_valid (env.valid 1) given)
    have dated : (if (if m.createdAt = 0 then env.now else m.createdAt) = 0 then env.now
        else (if m.createdAt = 0 then env.now else m.createdAt)) =
        if m.createdAt = 0 then env.now else m.createdAt := by
      by_cases unset : m.createdAt = 0
      · simp [unset]
      · simp [unset]
    simp only [MessageOf.raw, normalizeMetadata, identified, trimmed, dated]
    rfl

/-- What both stores make of a batch of messages with new identities. -/
theorem appendAll_outcome (env : Env) (time : Time) {last index : Nat} (numbered : Numbered db)
    (trimmed : trimSpace thread.id = thread.id) (present : (db.threads.get thread.id).isSome)
    (count : last = (db.messagesOf thread.id).length)
    (distinct : (messageIDs env index messages).Nodup)
    (unused : ∀ id ∈ messageIDs env index messages, Unused db id) :
    outcome db (PostgresStore.appendAll env thread last index messages) =
      (MemoryStore.appendAll env thread.id { thread with updatedAt := time } last index messages).map
        fun (stored, titled) =>
          ((stored, { titled with updatedAt := thread.updatedAt }), stored.map .insertMessage) := by
  -- Induction on the batch: each message leaves a thread that is one longer.
  induction messages generalizing db thread last index with
  | nil => rfl
  | cons incoming messages ih =>
    rw [PostgresStore.appendAll, MemoryStore.appendAll]
    cases normalized : normalizeMessage { incoming with threadID := thread.id, sequence := last + 1 }
        env.now (env.newUUID index) with
    | error err =>
      rw [outcome_check_error]
      rfl
    | ok m =>
      obtain ⟨threadID, -, -, sequence, -⟩ := normalizeMessage_ok normalized
      have own : m.threadID = thread.id := threadID.trans trimmed
      have sameID : m.id = messageID incoming (env.newUUID index) := by
        rw [messageID_of_normalized normalized]
        rfl
      obtain ⟨new, distinct⟩ := nodup_cons.mp distinct
      have place : m.sequence = (db.messagesOf m.threadID).length + 1 := by
        rw [own, ← count]
        exact sequence
      have free : Unused db m.id := by
        rw [sameID]
        exact unused _ (.head _)
      have inserts := insertMessage_exec numbered (by rw [own]; exact present) free place
      rw [outcome_check_ok, outcome_write inserts]
      have rest := @ih (postgres.applyAll db [.insertMessage m])
        { thread with title := titleAfter thread m } (last + 1) (index + 1)
        (numbered.append ⟨place, free⟩) trimmed present
        (by rw [messagesOf_append, if_pos own, length_append, ← count]; rfl)
        distinct (fun id member other inside => by
          rcases mem_append.mp inside with before | now
          · exact unused id (.tail _ member) other before
          · rw [mem_singleton.mp now, sameID]
            rintro rfl
            exact new member)
      show afterwards _ (outcome _ (PostgresStore.appendAll env
        { thread with title := titleAfter thread m } (last + 1) (index + 1) messages >>= _)) =
        (MemoryStore.appendAll env thread.id { thread with
            title := titleAfter thread m, updatedAt := time } (last + 1) (index + 1) messages >>=
          fun (stored, titled) => .ok (m :: stored, titled)).map _
      cases appended : MemoryStore.appendAll env thread.id { thread with
          title := titleAfter thread m, updatedAt := time } (last + 1) (index + 1) messages with
      | error err =>
        rw [appended] at rest
        rw [outcome_error rest]
        rfl
      | ok done =>
        rw [appended] at rest
        rw [outcome_ok rest]
        show Except.ok (_, [Change.insertMessage m] ++ (done.1.map Change.insertMessage ++ [])) =
          Except.ok (_, _)
        rw [append_nil]
        rfl

/-- A batch changes nothing of the thread but its title, and each message belongs to the thread. -/
theorem appendAll_ok {thread titled : Thread} {next index : Nat}
    {stored : List Message}
    (trimmed : trimSpace id = id)
    (appended : MemoryStore.appendAll env id thread next index messages = .ok (stored, titled)) :
    titled = { thread with title := titled.title } ∧ ∀ m ∈ stored, m.threadID = id := by
  induction messages generalizing thread next index stored titled with
  | nil =>
    cases appended
    exact ⟨rfl, nofun⟩
  | cons incoming messages ih =>
    rw [MemoryStore.appendAll] at appended
    obtain ⟨m, normalized, appended⟩ := bind_ok appended
    obtain ⟨⟨rest, titled'⟩, more, appended⟩ := bind_ok appended
    cases appended
    obtain ⟨same, own⟩ := ih more
    refine ⟨same, fun m' member => ?_⟩
    rcases mem_cons.mp member with rfl | later
    · exact (normalizeMessage_ok normalized).1.trans trimmed
    · exact own m' later

variable (twin : Twin db s)

include twin

theorem createThread_agrees {thread : ThreadOf RawMetadata}
    (fair : alike db s (.createThread env thread) = true) :
    Agrees db (.createThread env thread) (outcome db (PostgresStore.createThread env thread))
      (MemoryStore.createThread env thread s) := by
  refine .checked fun stored normalized => ?_
  obtain ⟨slashless, free⟩ := of_decide_eq_true fair stored (mem_toOption normalized)
  obtain ⟨inserts, absent, written⟩ :=
    twin.newThread slashless (ne_empty_of_valid (normalizeThread_valid normalized).1) free
  rw [outcome_write inserts, if_neg (by simp [absent])]
  exact ⟨rfl, written⟩

/-- What looking a thread up comes to: an error, no thread, or the thread of both stores. -/
theorem lookup_agrees (id : String) (slashless : Slashless (trimSpace ns)) :
    (∃ err, normalizeThreadLookup ns id = .error err ∧
      outcome db (PostgresStore.getThread ns id) = .error err) ∨
    ∃ id', normalizeThreadLookup ns id = .ok (trimSpace ns, id') ∧
      parseUUID (trimSpace id) = some id' ∧
      ((∃ detail, outcome db (PostgresStore.getThread ns id) = .error (.notFound detail) ∧
          s.threads.get (threadKey (trimSpace ns) id') = none) ∨
        ∃ thread there, outcome db (PostgresStore.getThread ns id) = .ok (thread, []) ∧
          db.threads.get id' = some thread ∧
          s.threads.get (threadKey (trimSpace ns) id') = some there ∧
          there = { thread with updatedAt := there.updatedAt } ∧
          s.messagesAt (threadKey (trimSpace ns) id') = db.messagesOf id') := by
  rw [PostgresStore.getThread]
  cases looked : normalizeThreadLookup ns id with
  | error err => exact .inl ⟨err, rfl, outcome_check_error err⟩
  | ok place =>
    obtain ⟨ns', id'⟩ := place
    obtain ⟨rfl, parsed⟩ := normalizeThreadLookup_ok looked
    refine .inr ⟨id', rfl, parsed, ?_⟩
    rw [outcome_check_ok]
    rw [outcome_read _ rfl]
    rcases twin.lookup slashless id' with ⟨none, absent⟩ |
      ⟨thread, there, found, present, -, stored, same, messages⟩
    · rw [none]
      exact .inl ⟨_, rfl, absent⟩
    · rw [found]
      exact .inr ⟨thread, there, rfl, present, stored, same, messages⟩

theorem getThread_agrees {ns id : String} (fair : alike db s (.getThread ns id) = true) :
    Agrees db (.getThread ns id) (outcome db (PostgresStore.getThread ns id))
      (MemoryStore.getThread ns id s) := by
  rw [MemoryStore.getThread]
  rcases lookup_agrees twin id (of_decide_eq_true fair) with ⟨err, looked, failed⟩ |
    ⟨id', looked, -, ⟨detail, failed, absent⟩ | ⟨thread, there, got, -, stored, same, -⟩⟩
  · rw [looked, failed]
    rfl
  · rw [looked, failed]
    simp only [ok_bind, absent]
    rfl
  · rw [looked, got]
    simp only [ok_bind, stored]
    refine ⟨?_, twin⟩
    rw [same]
    rfl

theorem listMessages_agrees (numbered : Numbered db) {ns threadID : String}
    (fair : alike db s (.listMessages ns threadID) = true) :
    Agrees db (.listMessages ns threadID) (outcome db (PostgresStore.listMessages ns threadID))
      (MemoryStore.listMessages ns threadID s) := by
  obtain ⟨slashless, canonical⟩ := of_decide_eq_true fair
  rw [PostgresStore.listMessages, MemoryStore.listMessages]
  rcases lookup_agrees twin threadID slashless with ⟨err, looked, failed⟩ |
    ⟨id', looked, parsed, ⟨detail, failed, absent⟩ | ⟨thread, there, got, found, stored, -, messages⟩⟩
  · rw [looked, outcome_error failed]
    rfl
  · rw [looked, outcome_error failed]
    simp only [ok_bind, absent]
    rfl
  · obtain rfl : id' = threadID := canonical id' parsed
    rw [looked, outcome_ok got, afterwards_nil, outcome_sql]
    simp only [ok_bind, stored]
    refine ⟨?_, twin⟩
    -- The messages are in the order of their numbers.
    have sorted : (db.messagesOf id').Pairwise fun a b => a.sequence ≤ b.sequence := by
      have numbers : ((db.messagesOf id').map (·.sequence)).Pairwise (· ≤ ·) := by
        rw [numbered id']
        exact (pairwise_lt_range' 1).imp le_of_lt
      exact pairwise_map.mp numbers
    show (insertionSort _ (db.messagesOf id')).map Message.untimed =
      (s.messagesAt (threadKey (trimSpace ns) id')).map Message.untimed
    rw [sorted.insertionSort_eq, messages]

section Consistent

variable (consistent : db.Consistent) (order : MapOrder)

include consistent

omit [UUIDs] in
theorem Twin.row (held : s.turns.get id = some t) :
    ∃ row, db.turns.get id = some row ∧ TurnTwin row t ∧ t.id = id := by
  have both := twin.turns id
  rw [held] at both
  generalize found : db.turns.get id = row? at both
  cases both with
  | some both => exact ⟨_, rfl, both.turnTwin consistent found⟩

omit [UUIDs] in
theorem Twin.entry {row : TurnRow} (found : db.turns.get id = some row) :
    ∃ t, s.turns.get id = some t ∧ TurnTwin row t ∧ t.id = id := by
  have both := twin.turns id
  rw [found] at both
  generalize s.turns.get id = t? at both
  cases both with
  | some both => exact ⟨_, rfl, both.turnTwin consistent found⟩

omit [UUIDs] in
/-- Both stores replace a turn. -/
theorem Twin.update (row : TurnRow) (status : TurnStatus) (payload : Turn)
    (found : db.turns.get row.id = some row) (held : Paired (row.replaced status payload) t)
    (within : ∀ key ∈ (row.replaced status payload).keys, key ∈ row.keys) :
    (updateTurn row.id status payload).exec db =
        .ok ((), [.updateTurn (row.replaced status payload)]) ∧
      Twin { db with turns := db.turns.put row.id (row.replaced status payload) }
        { s with turns := s.turns.put row.id t } := by
  have apart := twin.apart found within
  refine ⟨?_, twin.replace row status payload found held apart⟩
  simp only [Sql.exec, found]
  rw [show TurnRow.mk row.id row.threadID row.ns row.requestID status payload row.createdAt =
    row.replaced status payload from rfl, replaceTurn_free consistent apart]
  rfl

theorem recordRun_agrees {uid : String} (fair : alike db s (.recordRun t uid) = true) :
    Agrees db (.recordRun t uid) (outcome db (PostgresStore.recordRun t uid))
      (MemoryStore.recordRun t uid s) := by
  obtain ⟨old, held, running, given, unbound⟩ := of_decide_eq_true fair
  obtain ⟨row, found, both, own⟩ := twin.row consistent held
  -- The condition of the statement is what the store in memory checks.
  have checks : (row.ns = t.ns && row.threadID = t.threadID && row.status.occupies &&
      row.payload.runName = t.runName && row.payload.retryCount = t.retryCount &&
      (row.payload.runUID = "" || row.payload.runUID = uid) : Bool) =
        (active old && sameTurnAttempt old t) := by
    rw [both.ns, both.threadID, both.status, both.payload, occupies_of_active running]
    have bound : (decide (old.runUID = "") || decide (old.runUID = uid)) = true := by
      simpa using unbound
    have snapshot : (decide (t.runUID = "") || decide (old.runUID = t.runUID)) = true := by
      rcases given with blank | same
      · simp [blank]
      · simp [same]
    show (_ && old.status.unfinished && _ && _ && (decide (old.runUID = "") || decide (old.runUID = uid)) :
      Bool) = _
    rw [bound, sameTurnAttempt, snapshot, decide_eq_true own, active]
    ac_rfl
  have recordable : db.recordable t uid =
      if active old && sameTurnAttempt old t then some row else none := by
    rw [Database.recordable, found, ← checks]
    rfl
  rw [PostgresStore.recordRun, MemoryStore.recordRun, held]
  show Agrees db _ _ (if !active old || !sameTurnAttempt old t then _ else _)
  by_cases passes : (active old && sameTurnAttempt old t) = true
  · have records : (Sql.recordRun t uid).exec db = .ok ((1 : Nat),
        [.updateTurn { row with payload := { row.payload with runUID := uid } }]) := by
      simp only [Sql.exec, recordable, passes, if_true]
    have unmoved : ¬ (!active old || !sameTurnAttempt old t) = true := by
      simpa [not_or] using passes
    have free : ¬ (old.runUID ≠ "" ∧ old.runUID ≠ uid) := by tauto
    rw [outcome_write records, if_neg unmoved, if_neg free]
    refine ⟨rfl, ?_⟩
    rw [show t.id = row.id from (both.id.trans own).symm] at found held ⊢
    refine twin.replace row row.status { row.payload with runUID := uid } found
      ⟨?_, both.deferred, both.since⟩ (twin.apart found fun key member => member)
    rw [both.payload]
    rfl
  · have misses : (Sql.recordRun t uid).exec db = .ok ((0 : Nat), []) := by
      simp only [Sql.exec, recordable, passes, Bool.false_eq_true, if_false]
    have refused : (!active old || !sameTurnAttempt old t) = true := by
      rw [Bool.not_eq_true] at passes
      rw [← Bool.not_and, passes]
      rfl
    rw [outcome_read _ misses, if_pos refused]
    rfl

omit [UUIDs] in
/-- Both stores find a turn that meets a condition, or none does. -/
theorem Twin.anyTurn (same : ∀ row t, TurnTwin row t → p row = q t) (loop : Nat) :
    (order.shuffle loop s.turns.values).any q = db.anyTurn p := by
  rw [(order.perm loop _).any_eq, Bool.eq_iff_iff, exists_of_anyTurn, any_eq_true]
  constructor
  · rintro ⟨t, member, passes⟩
    obtain ⟨id, held⟩ := exists_get_of_mem_values member
    obtain ⟨row, found, both, -⟩ := twin.row consistent held
    exact ⟨id, row, found, same row t both ▸ passes⟩
  · rintro ⟨id, row, found, passes⟩
    obtain ⟨t, held, both, -⟩ := twin.entry consistent found
    exact ⟨t, mem_values held, same row t both ▸ passes⟩

theorem activateTurn_agrees (fair : alike db s (.activateTurn t) = true) :
    Agrees db (.activateTurn t) (outcome db (PostgresStore.activateTurn t))
      (MemoryStore.activateTurn order t s) := by
  obtain ⟨old, held, resources⟩ := of_decide_eq_true fair
  obtain ⟨row, found, both, own⟩ := twin.row consistent held
  rw [PostgresStore.activateTurn, MemoryStore.activateTurn, held, PostgresStore.lockTurnResources,
    outcome_lockAll, outcome_read _ rfl, found]
  show Agrees db _ (outcome db (require _ (some row.status) >>= _)) _
  rw [outcome_require_some, both.status]
  refine .ite (fun moves => ⟨(occupies_of_active moves).trans rfl, twin⟩) fun waits => ?_
  have waiting : old.status = .waiting := not_not.mp waits
  obtain ⟨sameNs, sameProfile, sameKeys⟩ := resources waiting
  rw [outcome_read _ rfl]
  -- Both look for a turn that occupies what this one needs.
  have busy : ((order.shuffle 0 s.turns.values).any fun other => other.ns = old.ns &&
      sharedTurnResource other old && active other && other.status ≠ .waiting) =
        db.busy t.ns t.profileName t.lockKeys := by
    refine twin.anyTurn consistent order (fun row other both => ?_) 0
    rw [TurnRow.needs, both.ns, both.status, both.payload, sameNs, sameProfile, sameKeys,
      occupies_eq, ← Bool.and_assoc]
    rfl
  rw [busy]
  refine .ite (fun _ => ⟨rfl, twin⟩) fun free => ?_
  rw [show t.id = row.id from (both.id.trans own).symm] at found held ⊢
  have apart := twin.activated_apart found (both.status.trans waiting)
    (show ({ row.payload with status := .queued } : Turn).profileName = _ from rfl) (by
      intro id other present occupies sameNs' sameProfile'
      have idle := anyTurn_eq_false.mp (Bool.not_eq_true _ ▸ free) id other present
      simp [TurnRow.needs, occupies, sameNs', sameProfile', sameNs, sameProfile, both.ns,
        both.payload, stored] at idle)
  have activates : (activateTurn row.id).exec db = .ok ((),
      [.updateTurn (row.replaced .queued { row.payload with status := .queued })]) := by
    have activated : db.activated row.id =
        some (row.replaced .queued { row.payload with status := .queued }) := by
      rw [Database.activated, found]
      rfl
    simp only [Sql.exec, activated]
    rw [replaceTurn_free consistent apart]
    rfl
  rw [outcome_write activates]
  refine ⟨rfl, twin.replace row .queued { row.payload with status := .queued } found
    ⟨?_, by simp, both.since⟩ apart⟩
  rw [both.payload]
  rfl

theorem retryTurn_agrees {expected : Turn} {retry : TurnRetry}
    (fair : alike db s (.retryTurn env expected retry) = true) :
    Agrees db (.retryTurn env expected retry)
      (outcome db (PostgresStore.retryTurn env expected retry))
      (MemoryStore.retryTurn env expected retry s) := by
  rw [PostgresStore.retryTurn, MemoryStore.retryTurn, outcome_read _ rfl]
  cases held : s.turns.get expected.id with
  | none =>
    have absent : db.turns.get expected.id = none := by
      have both := twin.turns expected.id
      rw [held] at both
      generalize db.turns.get expected.id = row? at both
      cases both
      rfl
    rw [Database.turn, absent]
    exact rfl
  | some old =>
    obtain ⟨sameNs, sameThread, plain⟩ := of_decide_eq_true fair old held
    obtain ⟨row, found, both, own⟩ := twin.row consistent held
    have present : db.turn expected.id expected.threadID (some expected.ns) = some row := by
      simp [Database.turn, found, both.threadID, both.ns, sameNs, sameThread]
    rw [present]
    show Agrees db _ (outcome db (require _ (some row.payload) >>= _)) _
    have payload : row.payload = old := both.payload.trans plain
    rw [outcome_require_some, payload]
    refine .checked fun next prepared => ?_
    obtain ⟨running, -, same, queued⟩ := prepareTurnRetry_ok prepared
    obtain ⟨sequence, deferred, since⟩ := prepareTurnRetry_keeps prepared
    obtain ⟨noSequence, undeferred⟩ := plain_iff.mp plain
    -- A turn in memory that is not deferred does not wait.
    have moving : row.status ≠ .waiting := by
      intro waiting
      cases (both.deferred (both.status.symm.trans waiting)).symm.trans undeferred
    have nextID : next.id = row.id := same.id.symm.trans both.id.symm
    rw [show expected.id = row.id from (both.id.trans own).symm] at found held
    have within : ∀ key ∈ (row.replaced next.status next).keys, key ∈ row.keys := by
      have unfinished : row.status.unfinished = true := both.status ▸ running
      have occupies : row.status.occupies = true := (occupies_of_active moving).trans unfinished
      intro key member
      rw [mem_keys_iff] at member ⊢
      cases key with
      | activeThread => exact ⟨occupies, member.2⟩
      | unfinishedThread => exact ⟨unfinished, member.2⟩
      | activeProfile =>
        exact ⟨occupies, member.2.1, by rw [payload, same.profileName]; exact member.2.2⟩
      | _ => exact member
    have plain : stored next = next :=
      plain_iff.mpr ⟨sequence.trans noSequence, deferred.trans undeferred⟩
    obtain ⟨updates, after⟩ := twin.update consistent row next.status next found
      ⟨plain.symm, by simp [queued], both.since.trans since.symm⟩ within
    rw [nextID, outcome_write updates]
    exact ⟨rfl, after⟩

omit [UUIDs] in
theorem Twin.ends {row : TurnRow} {old t : Turn} (found : db.turns.get row.id = some row)
    (both : TurnTwin row old) (ended : active t = false) :
    (updateTurn row.id t.status ((stored old).endedAs t)).exec db =
      .ok ((), [.updateTurn (row.replaced t.status ((stored old).endedAs t))]) ∧
    Twin { db with turns := db.turns.put row.id (row.replaced t.status ((stored old).endedAs t)) }
      { s with turns := s.turns.put row.id (old.endedAs t) } := by
  -- What has ended is in no index but those of all turns.
  have within : ∀ key ∈ (row.replaced t.status ((stored old).endedAs t)).keys, key ∈ row.keys := by
    have idle : t.status.occupies = false := by
      rw [occupies_eq, show t.status.unfinished = false from ended]
      rfl
    intro key member
    rw [mem_keys_iff] at member ⊢
    cases key with
    | activeThread | activeProfile => cases idle.symm.trans member.1
    | unfinishedThread => cases ended.symm.trans member.1
    | _ => exact member
  refine twin.update consistent row t.status _ found ⟨rfl, fun waiting => ?_, both.since⟩ within
  have ended : t.status.unfinished = false := ended
  rw [show t.status = .waiting from waiting] at ended
  cases ended

theorem completeTurn_agrees (keyed : Keyed db) (numbered : Numbered db)
    (fair : alike db s (.completeTurn env t m) = true) :
    Agrees db (.completeTurn env t m) (outcome db (PostgresStore.completeTurn env t m))
      (MemoryStore.completeTurn env t m s) := by
  obtain ⟨ended, old, held, sameNs, sameThread, fits⟩ := of_decide_eq_true fair
  obtain ⟨row, found, both, own⟩ := twin.row consistent held
  -- The turn is in a thread of its namespace.
  obtain ⟨thread, present, within⟩ := twin.home _ row found
  rw [both.threadID, sameThread] at present
  rw [both.ns, sameNs] at within
  obtain ⟨threadID, trimmed⟩ := keyed _ thread present
  have looked : db.thread t.ns t.threadID = some thread := by
    simp [Database.thread, present, within]
  have locked : db.turn t.id t.threadID none = some row := by
    simp [Database.turn, found, both.threadID, sameThread]
  rw [PostgresStore.completeTurn, MemoryStore.completeTurn, held, if_neg (by simp [ended]),
    outcome_read _ rfl, looked, outcome_require_some, outcome_read _ rfl, locked]
  show Agrees db _ (outcome db (require _ (some row.payload) >>= _)) _
  rw [outcome_require_some, both.payload]
  refine .ite (fun _ => ⟨rfl, twin⟩) fun running => .ite (fun _ => rfl) fun same => ?_
  obtain ⟨role, unused⟩ := fits (by simpa [active, stored] using running)
  rw [if_neg (by simp [ended])]
  have messages : s.messagesAt (threadKey t.ns t.threadID) = db.messagesOf t.threadID := by
    rw [← within]
    exact twin.messages _ thread present
  obtain ⟨there, kept, sameThere⟩ := twin.threads _ thread present
  dsimp only
  rw [messages]
  rw [within] at kept
  rw [← threadID] at present trimmed kept ⊢
  obtain ⟨fails, passes⟩ := insertTurnMessage_outcome numbered env m present trimmed
  cases normalized : normalizeMessage { m with
      threadID := thread.id, sequence := (db.messagesOf thread.id).length + 1 } env.now
      (env.newUUID 1) with
  | error err =>
    rw [outcome_error (fails err normalized)]
    exact rfl
  | ok reply =>
    obtain ⟨sameReply, sameRole, -, -, -⟩ := normalizeMessage_ok normalized
    have own' : reply.threadID = thread.id := sameReply.trans trimmed
    have inserted := passes reply normalized
      (by rw [messageID_of_normalized normalized]; exact unused)
    -- An answer gives the thread no title, so both stores keep the one they have.
    have untitled : titleAfter thread reply = thread.title := by
      rw [titleAfter, if_neg]
      rintro ⟨-, user⟩
      exact role (sameRole.symm.trans user)
    rw [outcome_ok inserted, untitled]
    -- First the message, which leaves the thread in memory as it was.
    have written := twin.extend present [reply] (show Thread.undated there =
      Thread.undated { thread with updatedAt := env.now } from sameThere) (by simpa using own')
    rw [show threadKey thread.ns thread.id = threadKey t.ns thread.id from
      congrArg (threadKey · thread.id) within, put_self kept] at written
    -- Then the turn, which gives up the keys of its thread and its profile.
    rw [show t.id = row.id from (both.id.trans own).symm] at found held ⊢
    obtain ⟨updates, after⟩ := written.ends consistent found both ended
    rw [both.id] at updates
    have done : outcome (postgres.applyAll db [.insertMessage reply,
        .updateThread { thread with updatedAt := env.now }])
        (sql (.updateTurn old.id t.status ((stored old).endedAs t))) = _ :=
      (outcome_sql _).trans updates
    show Agrees db (.completeTurn env t m) (afterwards _ (outcome _ (sql
      (.updateTurn old.id t.status ((stored old).endedAs t))))) _
    rw [done]
    exact ⟨rfl, after⟩

omit [UUIDs] in
theorem Twin.replayed_none (key : String) (requested : db.request t.threadID t.requestID = none) :
    (order.shuffle 0 s.turns.values).findSome? (s.replayed key t) = none := by
  refine findSome?_eq_none_iff.mpr fun other member => ?_
  obtain ⟨id, held⟩ := exists_get_of_mem_values ((order.perm 0 _).mem_iff.mp member)
  obtain ⟨row, found, both, -⟩ := twin.row consistent held
  have differs := find?_eq_none.mp requested row (mem_values found)
  rw [replayed, if_neg]
  simpa [both.threadID, both.requestID] using differs

omit [UUIDs] in
/-- A new turn for which nothing stands in the way takes no key from another. -/
theorem Twin.accepted_apart (now : Time) (present : db.threads.get t.threadID = some thread)
    (within : thread.ns = t.ns) (fresh : db.turns.get t.id = none)
    (requested : db.request t.threadID t.requestID = none)
    (waits : t.status = if t.deferred then .waiting else .queued)
    (clear : db.conflict t.ns t.threadID t.profileName t.deferred t.lockKeys = false) :
    ∀ id other, db.turns.get id = some other → ∀ key ∈ (newRow t now).keys, key ∉ other.keys := by
  intro id other found key member taken
  have idle := anyTurn_eq_false.mp clear id other found
  -- Another turn of the thread is in its namespace, and so it would be in the way.
  have sameHome : other.threadID = t.threadID → other.ns = t.ns := by
    intro sameThread
    obtain ⟨home, there, ns⟩ := twin.home id other found
    rw [sameThread] at there
    obtain rfl := Option.some.inj (present.symm.trans there)
    exact ns.symm.trans within
  have finished : other.threadID = t.threadID → other.status.unfinished = false := by
    intro sameThread
    rw [decide_eq_true (sameHome sameThread), decide_eq_true sameThread] at idle
    simp only [Bool.true_and, Bool.or_eq_false_iff] at idle
    exact idle.1
  cases key with
  | turn =>
    cases mem_keys_iff.mp member
    have sameID : other.id = t.id := mem_keys_iff.mp taken
    rw [(consistent id other found).1] at sameID
    rw [sameID, fresh] at found
    cases found
  | request =>
    obtain ⟨rfl, rfl⟩ := mem_keys_iff.mp member
    have differs := find?_eq_none.mp requested other (mem_values found)
    exact differs (by simpa [newRow] using mem_keys_iff.mp taken)
  | activeThread =>
    obtain ⟨-, rfl⟩ := mem_keys_iff.mp member
    obtain ⟨occupies, sameThread⟩ := mem_keys_iff.mp taken
    cases (finished sameThread).symm.trans (unfinished_of_occupies occupies)
  | unfinishedThread =>
    obtain ⟨-, rfl⟩ := mem_keys_iff.mp member
    obtain ⟨unfinished, sameThread⟩ := mem_keys_iff.mp taken
    cases (finished sameThread).symm.trans unfinished
  | activeProfile =>
    obtain ⟨occupies, rfl, rfl⟩ := mem_keys_iff.mp member
    obtain ⟨occupied, sameNs, sameProfile⟩ := mem_keys_iff.mp taken
    have undeferred : t.deferred = false := by
      cases deferred : t.deferred with
      | false => rfl
      | true =>
        rw [deferred] at waits
        rw [show (newRow t now).status = t.status from rfl, waits] at occupies
        cases occupies
    simp [sameNs, sameProfile, occupied, undeferred, TurnRow.needs, newRow, stored]
      at idle
  | _ => exact mem_keys_iff.mp member

omit [UUIDs] in
/-- Both stores list the same turns, in some order. -/
theorem Twin.turns_listed (same : ∀ row t, TurnTwin row t → p row = q t)
    (plain : ∀ t ∈ s.turns.values, q t = true → Plain t) :
    ((db.turns.values.filter p).map (·.payload)).Perm
      ((order.shuffle 0 s.turns.values).filter q) := by
  refine Perm.trans ?_ ((order.perm 0 s.turns.values).filter q).symm
  -- No turn is listed twice, so it is enough that each is listed on both sides.
  have rows : db.turns.values.Nodup :=
    nodup_values (·.id) fun id row found => (consistent id row found).1
  have entries : s.turns.values.Nodup := by
    refine nodup_values (·.id) fun id t held => ?_
    obtain ⟨-, -, -, own⟩ := twin.row consistent held
    exact own
  have payloads : ((db.turns.values.filter p).map (·.payload)).Nodup := by
    refine (rows.filter p).map_on fun row member other member' equal => ?_
    obtain ⟨id, found⟩ := exists_get_of_mem_values (mem_filter.mp member).1
    obtain ⟨id', found'⟩ := exists_get_of_mem_values (mem_filter.mp member').1
    obtain ⟨sameID, columns⟩ := consistent id row found
    obtain ⟨sameID', columns'⟩ := consistent id' other found'
    have ids : id = id' := by
      rw [← sameID, ← sameID', ← columns.id, ← columns'.id, equal]
    exact Option.some.inj (found.symm.trans (ids ▸ found'))
  refine (perm_ext_iff_of_nodup payloads (entries.filter q)).mpr fun t => ?_
  simp only [mem_map, mem_filter]
  constructor
  · rintro ⟨row, ⟨member, passes⟩, rfl⟩
    obtain ⟨id, found⟩ := exists_get_of_mem_values member
    obtain ⟨t, held, both, -⟩ := twin.entry consistent found
    have passes' : q t = true := same row t both ▸ passes
    have payload : row.payload = t := both.payload.trans (plain t (mem_values held) passes')
    rw [payload]
    exact ⟨mem_values held, passes'⟩
  · rintro ⟨member, passes⟩
    obtain ⟨id, held⟩ := exists_get_of_mem_values member
    obtain ⟨row, found, both, -⟩ := twin.row consistent held
    exact ⟨row, ⟨mem_values found, (same row t both).trans passes⟩,
      both.payload.trans (plain t member passes)⟩

omit [UUIDs] in
/-- Turns of different times are in one order only. -/
theorem Twin.turns_strict {p : Turn → Bool} (listable : Listable s p) :
    ∀ a ∈ (order.shuffle 0 s.turns.values).filter p, ∀ b ∈ (order.shuffle 0 s.turns.values).filter p,
      a.createdAt ≤ b.createdAt → b.createdAt ≤ a.createdAt → a = b := by
  intro a member b member' before after
  obtain ⟨inside, passes⟩ := mem_filter.mp member
  obtain ⟨inside', passes'⟩ := mem_filter.mp member'
  have held := (order.perm 0 _).mem_iff.mp inside
  have held' := (order.perm 0 _).mem_iff.mp inside'
  have sameID := listable.2 a held b held' passes passes' (le_antisymm before after)
  obtain ⟨id, got⟩ := exists_get_of_mem_values held
  obtain ⟨id', got'⟩ := exists_get_of_mem_values held'
  obtain ⟨-, -, -, own⟩ := twin.row consistent got
  obtain ⟨-, -, -, own'⟩ := twin.row consistent got'
  rw [← own, sameID, own'] at got
  exact Option.some.inj (got.symm.trans got')

omit [UUIDs] in
/-- Both stores list the same turns in the same order, by the times at which they were accepted. -/
theorem Twin.turns_sorted (same : ∀ row t, TurnTwin row t → p row = q t) (listable : Listable s q)
    {r : TurnRow → TurnRow → Prop} [DecidableRel r]
    (timed : ∀ a ∈ db.turns.values.filter p, ∀ b ∈ db.turns.values.filter p,
      r a b ↔ a.payload.createdAt ≤ b.payload.createdAt) :
    ((db.turns.values.filter p).insertionSort r).map (·.payload) =
      ((order.shuffle 0 s.turns.values).filter q).insertionSort
        fun a b => a.createdAt ≤ b.createdAt := by
  have perm := twin.turns_listed consistent order same listable.1
  rw [map_insertionSort r (fun a b : Turn => a.createdAt ≤ b.createdAt) (·.payload) _ timed]
  refine perm.insertionSort_eq fun a member b member' => ?_
  exact twin.turns_strict consistent order listable a (perm.mem_iff.mp member) b
    (perm.mem_iff.mp member')

theorem listTurns_agrees {ns id : String} (fair : alike db s (.listTurns ns id) = true) :
    Agrees db (.listTurns ns id) (outcome db (PostgresStore.listTurns ns id))
      (MemoryStore.listTurns order ns id s) := by
  obtain ⟨slashless, trimmed, given, canonical, listable⟩ := of_decide_eq_true fair
  have place : normalizeThreadLookup ns id = .ok (ns, id) := by
    simp only [normalizeThreadLookup, trimmed, given, canonical, if_false]
  have lookup := lookup_agrees twin id (show Slashless (trimSpace ns) by rwa [trimmed])
  rw [place, trimmed] at lookup
  rw [PostgresStore.listTurns, MemoryStore.listTurns]
  rcases lookup with ⟨err, looked, -⟩ | ⟨id', looked, parsed, outcomes⟩
  · cases looked
  obtain rfl : id = id' := (Prod.mk.inj (Except.ok.inj looked)).2
  rcases outcomes with ⟨detail, failed, absent⟩ | ⟨thread, there, got, found, kept, -, -⟩
  · rw [outcome_error failed, absent]
    exact rfl
  · rw [outcome_ok got, afterwards_nil, outcome_sql, kept]
    refine ⟨congrArg (map Turn.untimed) ?_, twin⟩
    refine twin.turns_sorted consistent order (fun row t both => by rw [both.ns, both.threadID])
      listable fun a member b member' => ?_
    -- The time of a row is the time of its turn.
    have since : ∀ row ∈ db.turns.values, row.createdAt = row.payload.createdAt := by
      intro row inside
      obtain ⟨id, found⟩ := exists_get_of_mem_values inside
      obtain ⟨t, -, both, -⟩ := twin.entry consistent found
      rw [both.since, both.payload]
      rfl
    rw [since a (mem_filter.mp member).1, since b (mem_filter.mp member').1]

theorem pendingTurns_agrees {limit : Nat} (fair : alike db s (.pendingTurns limit) = true) :
    Agrees db (.pendingTurns limit) (outcome db (PostgresStore.pendingTurns limit))
      (MemoryStore.pendingTurns order limit s) := by
  have listable := of_decide_eq_true fair
  rw [PostgresStore.pendingTurns, MemoryStore.pendingTurns, outcome_sql]
  refine ⟨congrArg (map Turn.untimed) ?_, twin⟩
  rw [Database.pendingTurns, map_take]
  refine congrArg (take limit) ?_
  refine twin.turns_sorted consistent order (fun row t both => by rw [both.status]; rfl) listable
    fun a member b member' => ?_
  -- None of the turns waits: one that waits was deferred.
  have moving : ∀ row ∈ db.turns.values.filter (·.status.unfinished), row.status ≠ .waiting ∧
      row.createdAt = row.payload.createdAt := by
    intro row member
    obtain ⟨inside, unfinished⟩ := mem_filter.mp member
    obtain ⟨id, found⟩ := exists_get_of_mem_values inside
    obtain ⟨t, held, both, -⟩ := twin.entry consistent found
    have plain := listable.1 t (mem_values held) (show t.status.unfinished = true from
      both.status ▸ unfinished)
    refine ⟨fun waiting => ?_, by rw [both.since, both.payload]; rfl⟩
    cases (both.deferred (both.status.symm.trans waiting)).symm.trans (plain_iff.mp plain).2
  obtain ⟨moves, time⟩ := moving a member
  obtain ⟨moves', time'⟩ := moving b member'
  simp only [moves, moves', ne_eq, not_false_eq_true, and_false, iff_self, true_and, false_or, time,
    time']

end Consistent

theorem appendMessages_agrees (keyed : Keyed db) (numbered : Numbered db) {ns threadID : String}
    (fair : alike db s (.appendMessages env ns threadID messages) = true) :
    Agrees db (.appendMessages env ns threadID messages)
      (outcome db (PostgresStore.appendMessages env ns threadID messages))
      (MemoryStore.appendMessages env ns threadID messages s) := by
  obtain ⟨slashless, distinct, unused⟩ := of_decide_eq_true fair
  refine .checked fun ⟨ns', id⟩ looked => ?_
  obtain ⟨rfl, -⟩ := normalizeThreadLookup_ok looked
  refine .ite (fun _ => rfl) fun _ => .ite (fun _ => rfl) fun _ => ?_
  rw [outcome_read _ rfl]
  rcases twin.lookup slashless id with ⟨none, absent⟩ |
    ⟨thread, there, found, present, within, kept, same, listed⟩
  · rw [none, outcome_require_none]
    dsimp only
    rw [absent]
    exact rfl
  rw [found, outcome_require_some, outcome_read _ rfl, numbered.maxSequence]
  dsimp only
  rw [kept]
  dsimp only
  rw [listed, same]
  obtain ⟨sameID, trimmed⟩ := keyed id thread present
  subst sameID
  have batch := appendAll_outcome env there.updatedAt numbered trimmed (by rw [present]; rfl) rfl
    distinct unused
  cases appended : MemoryStore.appendAll env thread.id { thread with updatedAt := there.updatedAt }
      (db.messagesOf thread.id).length 0 messages with
  | error err =>
    rw [appended] at batch
    rw [outcome_error batch]
    exact rfl
  | ok done =>
    obtain ⟨added, titled⟩ := done
    obtain ⟨sameTitled, own⟩ := appendAll_ok trimmed appended
    rw [appended] at batch
    rw [outcome_ok batch]
    -- The messages have left the thread as it was; now it gets its title and its time.
    have touches : (touchThread thread.id titled.title env.now).exec
        (postgres.applyAll db (added.map .insertMessage)) = .ok ((), [.updateThread
          { thread with title := titled.title, updatedAt := env.now }]) := by
      rw [applyAll_messages]
      simp only [Sql.exec, present]
    rw [outcome_write touches]
    have written := twin.extend present added
      (show Thread.undated { titled with updatedAt := env.now } =
        Thread.undated { thread with title := titled.title, updatedAt := env.now } by
          rw [sameTitled]) own
    refine ⟨rfl, ?_⟩
    rw [applyAll_append, applyAll_messages, ← within]
    exact written

omit [UUIDs] in
/-- The threads of a namespace are the same when their update times are. -/
theorem Twin.threads_listed (keyed : Keyed db) (order : MapOrder) (timely : Timely db s ns)
    {p : Thread → Bool} (within : ∀ thread, p thread = true → thread.ns = ns) :
    (db.threads.values.filter p).Perm ((order.shuffle 0 s.threads.values).filter p) := by
  refine Perm.trans ?_ ((order.perm 0 s.threads.values).filter p).symm
  have rows : db.threads.values.Nodup :=
    nodup_values (·.id) fun id thread found => (keyed id thread found).1
  have entries : s.threads.values.Nodup :=
    nodup_values (fun thread => threadKey thread.ns thread.id) fun key there kept =>
      (twin.known key there kept).1.symm
  -- A thread of the namespace in the table is the thread in memory, its time included.
  have same : ∀ {id thread}, db.threads.get id = some thread → thread.ns = ns →
      s.threads.get (threadKey ns id) = some thread := by
    rintro id thread found rfl
    obtain ⟨there, kept, undated⟩ := twin.threads id thread found
    have timed := timely thread (mem_values found) rfl
    rw [(keyed id thread found).1, kept] at timed
    have sameTime : there.updatedAt = thread.updatedAt := Option.some.inj timed
    rw [kept, Thread.undated_eq undated, sameTime]
  refine (perm_ext_iff_of_nodup (rows.filter p) (entries.filter p)).mpr fun thread => ?_
  simp only [mem_filter]
  constructor
  · rintro ⟨member, passes⟩
    obtain ⟨id, found⟩ := exists_get_of_mem_values member
    exact ⟨mem_values (same found (within thread passes)), passes⟩
  · rintro ⟨member, passes⟩
    obtain ⟨key, kept⟩ := exists_get_of_mem_values member
    obtain ⟨rfl, old, found, sameNs⟩ := twin.known key thread kept
    have within' := within thread passes
    have again := same found (sameNs.trans within')
    rw [← within', kept] at again
    obtain rfl := Option.some.inj again
    exact ⟨mem_values found, passes⟩

theorem listThreads_agrees (keyed : Keyed db) (order : MapOrder) {filter : ThreadFilter}
    (fair : alike db s (.listThreads filter) = true) :
    Agrees db (.listThreads filter) (outcome db (PostgresStore.listThreads filter))
      (MemoryStore.listThreads order filter s) := by
  obtain ⟨timely, apart⟩ := of_decide_eq_true fair
  refine .checked fun filter' passed => ?_
  rw [outcome_sql]
  refine ⟨congrArg (map Thread.untimed) (congrArg (take _) ?_), twin⟩
  have named := normalizeThreadFilter_ok passed
  rw [← named] at timely apart
  have perm := twin.threads_listed keyed order timely (p := fun thread => thread.ns = filter'.ns &&
    (filter'.profileName = "" || thread.profileName = filter'.profileName) &&
    (filter'.mode = .unset || thread.mode = filter'.mode)) (by
      intro thread passes
      simp only [Bool.and_eq_true, decide_eq_true_eq] at passes
      exact passes.1.1)
  refine perm.insertionSort_eq fun a member b member' before after => ?_
  -- Threads of one time would be one thread.
  simp only [mem_filter, Bool.and_eq_true, decide_eq_true_eq] at member member'
  exact keyed.eq member.1 member'.1
    (apart a member.1 b member'.1 member.2.1.1 member'.2.1.1 (le_antisymm after before))

theorem ensureStandingThread_agrees (keyed : Keyed db) (order : MapOrder)
    {seed : ThreadOf RawMetadata} (fair : alike db s (.ensureStandingThread env seed) = true) :
    Agrees db (.ensureStandingThread env seed)
      (outcome db (PostgresStore.ensureStandingThread env seed))
      (MemoryStore.ensureStandingThread order env seed s) := by
  refine .checked fun new normalized => ?_
  obtain ⟨slashless, fair⟩ := of_decide_eq_true fair new (mem_toOption normalized)
  refine .ite (fun _ => rfl) fun _ => ?_
  rw [outcome_read _ rfl, outcome_read _ rfl]
  dsimp only
  have recorded := twin.standing new.ns new.profileName slashless
  cases pointed : db.standing.get (new.ns, new.profileName) with
  | some id =>
    obtain ⟨thread, found, within⟩ := twin.pointer _ _ id pointed
    obtain ⟨there, kept, undated⟩ := twin.threads id thread found
    rw [within] at kept
    rw [pointed] at recorded
    have given : id ≠ "" := (twin.named id thread found).2
    rw [recorded, show (some id).bind db.threads.get = some thread from found]
    show Agrees db (.ensureStandingThread env seed) _ (if id ≠ "" then
      .ok (((s.threads.get (threadKey new.ns id)).getD noThread, false), s) else _)
    rw [if_pos given, kept]
    refine ⟨?_, twin⟩
    rw [Thread.undated_eq undated]
    rfl
  | none =>
    obtain ⟨timely, free⟩ := fair pointed
    rw [pointed] at recorded
    rw [recorded]
    show Agrees db (.ensureStandingThread env seed) (outcome db (sql (.selectEligible new.ns
      new.profileName) >>= _)) (if "" ≠ "" then _ else if (chosenThread _).id ≠ "" then _ else _)
    rw [outcome_read _ rfl, if_neg (not_not.mpr rfl)]
    -- Both choose among the same threads.
    have perm := twin.threads_listed keyed order timely (p := fun candidate =>
      candidate.ns = new.ns && candidate.profileName = new.profileName &&
        standingEligible candidate) (by
          intro thread passes
          simp only [Bool.and_eq_true, decide_eq_true_eq] at passes
          exact passes.1.1)
    have choice := chosenThread_eq perm
      (fun thread member => by
        obtain ⟨id, found⟩ := exists_get_of_mem_values (mem_filter.mp member).1
        rw [(keyed id thread found).1]
        exact (twin.named id thread found).2)
      (fun a member b member' =>
        keyed.eq (mem_filter.mp member).1 (mem_filter.mp member').1)
    rw [choice, show ((db.threads.values.filter _).insertionSort newerThan).head? =
      db.eligible new.ns new.profileName from rfl]
    cases adopted : db.eligible new.ns new.profileName with
    | some thread =>
      have member : thread ∈ db.threads.values.filter fun candidate => candidate.ns = new.ns &&
          candidate.profileName = new.profileName && standingEligible candidate :=
        (mem_insertionSort newerThan).mp (mem_of_mem_head? adopted)
      obtain ⟨inside, passes⟩ := mem_filter.mp member
      simp only [Bool.and_eq_true, decide_eq_true_eq] at passes
      obtain ⟨id, found⟩ := exists_get_of_mem_values inside
      obtain ⟨rfl, -⟩ := keyed id thread found
      have inserts : (insertStanding thread.ns thread.profileName thread.id).exec db =
          .ok ((), [.insertStanding thread.ns thread.profileName thread.id]) := by
        simp [Sql.exec, passes.1.1, passes.1.2, pointed, found]
      show Agrees db (.ensureStandingThread env seed) (outcome db (sql (.insertStanding thread.ns
        thread.profileName thread.id) >>= _)) (if thread.id ≠ "" then _ else _)
      rw [outcome_write inserts, if_pos (twin.named _ thread found).2]
      refine ⟨rfl, ?_⟩
      have after := twin.putStanding found thread.profileName
      rw [passes.1.1, passes.1.2] at after ⊢
      exact after
    | none =>
      have absent := free adopted
      obtain ⟨inserts, missing, written⟩ :=
        twin.newThread slashless (ne_empty_of_valid (normalizeThread_valid normalized).1) absent
      have points : (insertStanding new.ns new.profileName new.id).exec
          (postgres.applyAll db [.insertThread new]) =
          .ok ((), [.insertStanding new.ns new.profileName new.id]) := by
        have unpointed : (postgres.applyAll db [.insertThread new]).standing.get
            (new.ns, new.profileName) = none := pointed
        have there : (postgres.applyAll db [.insertThread new]).threads.get new.id = some new :=
          get_put_self ..
        simp only [Sql.exec, unpointed, there, Option.isSome_none, Option.isNone_some,
          Bool.false_eq_true, if_false]
      show Agrees db (.ensureStandingThread env seed) (outcome db (sql (.insertThread new) >>= _))
        (if noThread.id ≠ "" then _ else if (s.threads.get (threadKey new.ns new.id)).isSome then _
          else _)
      rw [outcome_write inserts, outcome_write points, if_neg (show ¬ noThread.id ≠ "" from
        not_not.mpr rfl), if_neg (by simp [missing])]
      exact ⟨rfl, written.putStanding (get_put_self ..) new.profileName⟩

omit [UUIDs] in
theorem Twin.repair (distinct : Distinct db) {old : Message} (new : Message) {list : List Message}
    (present : db.threads.get old.threadID = some thread) (member : old ∈ db.messages)
    (sameID : new.id = old.id) (sameThread : new.threadID = old.threadID)
    (listed : list = (db.messagesOf old.threadID).map fun m => if m.id = old.id then new else m) :
    Twin { db with messages := repairedIn db.messages new }
      { s with messages := s.messages.put (threadKey thread.ns old.threadID) list } := by
  -- Replacing the message leaves it in its thread.
  have home : ∀ m ∈ db.messages, (if m.id = new.id then new else m).threadID = m.threadID := by
    intro m inside
    split
    next same =>
      rw [distinct.eq member inside (same.trans sameID), sameThread]
    next => rfl
  have ofThread : ∀ id, ({ db with messages := repairedIn db.messages new } : Database).messagesOf id =
      (db.messagesOf id).map fun m => if m.id = new.id then new else m := by
    intro id
    rw [Database.messagesOf, repairedIn, filter_map, Database.messagesOf]
    congr 1
    refine filter_congr fun m inside => ?_
    rw [Function.comp_apply, home m inside]
  refine { twin with messages := fun id other found => ?_, housed := fun m inside => ?_,
                     bare := fun key absent => ?_ }
  · rw [ofThread, messagesAt_put]
    by_cases mine : id = old.threadID
    · subst mine
      obtain rfl := Option.some.inj (present.symm.trans found)
      rw [if_pos rfl, listed, sameID]
    · -- The message is in no other thread.
      have apart : threadKey other.ns id ≠ threadKey thread.ns old.threadID := fun same =>
        mine (threadKey_inj (twin.named _ _ found).1 (twin.named _ _ present).1 same).2
      rw [if_neg apart, map_congr_left (g := fun m => m), map_id']
      · exact twin.messages id other found
      · intro m inside
        obtain ⟨inMessages, inThread⟩ := mem_filter.mp inside
        refine if_neg fun same => mine ?_
        rw [← of_decide_eq_true inThread, distinct.eq member inMessages (same.trans sameID)]
  · obtain ⟨m', before, rfl⟩ := mem_map.mp inside
    rw [home m' before]
    exact twin.housed m' before
  · by_cases mine : key = threadKey thread.ns old.threadID
    · obtain ⟨there, kept, -⟩ := twin.threads _ thread present
      rw [mine] at absent
      cases absent.symm.trans kept
    · rw [get_put_of_ne _ _ mine]
      exact twin.bare key absent

theorem repairAssistantReply_agrees (distinct : Distinct db) {original : Message}
    (fair : alike db s (.repairAssistantReply ns original content format) = true) :
    Agrees db (.repairAssistantReply ns original content format)
      (outcome db (PostgresStore.repairAssistantReply ns original content format))
      (MemoryStore.repairAssistantReply ns original content format s) := by
  obtain ⟨slashless, placed⟩ := of_decide_eq_true fair
  refine .checked fun repaired valid => ?_
  dsimp only
  -- Nothing to repair is a conflict for both stores.
  have misses : db.repairable ns original ≠ true →
      (repairMessage ns original repaired).exec db = .ok ((0 : Nat), []) := by
    intro none
    simp only [Sql.exec, none, Bool.false_eq_true, if_false]
  rcases twin.lookup slashless original.threadID with ⟨none, absent⟩ |
    ⟨thread, there, looked, present, within, -, -, messages⟩
  · rw [outcome_read _ (misses (by simp [Database.repairable, none])), messagesAt,
      twin.bare _ absent]
    exact rfl
  rw [messages]
  by_cases found : ∃ m ∈ db.messagesOf original.threadID, m.id = original.id
  · obtain ⟨m, inThread, sameID⟩ := found
    obtain ⟨inMessages, own⟩ := mem_filter.mp inThread
    have own : m.threadID = original.threadID := of_decide_eq_true own
    have nodup : ((db.messagesOf original.threadID).map (·.id)).Nodup :=
      Nodup.sublist (Sublist.map _ filter_sublist) distinct
    obtain ⟨first, sets⟩ := findIdx_of_distinct nodup inThread
    rw [sameID] at first sets
    rw [first]
    dsimp only
    by_cases same : m.role = .assistant ∧ m.content = original.content ∧
        m.metadata = original.metadata
    · -- The message is the caller's, and so is its place.
      have repairable : db.repairable ns original = true :=
        (repairable_iff looked).mpr ⟨m, inThread, sameID, same⟩
      obtain ⟨role, sameContent, sameMetadata⟩ := same
      have repairs : (repairMessage ns original repaired).exec db = .ok ((1 : Nat),
          [.updateMessage { m with content := repaired.content, metadata := repaired.metadata }]) := by
        have only := distinct.find (fun _ member => member) inMessages
        rw [sameID] at only
        simp only [Sql.exec, repairable, only, if_true]
      rw [outcome_write repairs, if_neg (show ¬ (1 : Nat) ≠ 1 by simp),
        if_neg (by simp [role, sameContent, sameMetadata]), sets]
      obtain ⟨sameRole, body⟩ := repairedAssistant_ok valid
      refine ⟨?_, ?_⟩
      · show Message.untimed repaired = Message.untimed _
        rw [body]
        simp [Message.untimed, sameID, own, role, sameRole, placed m inMessages sameID]
      · have after := twin.repair distinct { m with
          content := repaired.content, metadata := repaired.metadata } (own ▸ present) inMessages rfl
          rfl rfl
        rw [← own, ← sameID, ← within]
        exact after
    · -- Whatever has the identity is this message, which differs from the caller's.
      rw [outcome_read _ (misses fun repairable => ?_), if_pos (show (0 : Nat) ≠ 1 by simp),
        if_pos (by tauto)]
      · exact rfl
      · obtain ⟨other, inside, sameOther, equal⟩ := (repairable_iff looked).mp repairable
        rw [distinct.eq inMessages (mem_of_mem_filter inside) (sameOther.trans sameID.symm)] at equal
        exact same equal
  · have none : (db.messagesOf original.threadID)[
        (db.messagesOf original.threadID).findIdx (·.id = original.id)]? = none := by
      have missing : (db.messagesOf original.threadID).findIdx (·.id = original.id) =
          (db.messagesOf original.threadID).length :=
        findIdx_eq_length_of_false fun m inside => by
          simpa using fun same => found ⟨m, inside, same⟩
      rw [missing]
      exact getElem?_eq_none (le_refl _)
    rw [outcome_read _ (misses fun repairable => ?_), none]
    · exact rfl
    · obtain ⟨other, inside, sameID, -⟩ := (repairable_iff looked).mp repairable
      exact found ⟨other, inside, sameID⟩

variable (sane : Sane log db) (order : MapOrder)

include sane

/-- A repeated request gets the same turn and the same message from both stores. -/
theorem Twin.replayed_some {row : TurnRow} (present : db.threads.get t.threadID = some thread)
    (within : thread.ns = t.ns) (requested : db.request t.threadID t.requestID = some row) :
    ∃ old user, s.turns.get row.id = some old ∧ TurnTwin row old ∧
      db.messages.find? (·.id = row.payload.userMessageID) = some user ∧
      (order.shuffle 0 s.turns.values).findSome? (s.replayed (threadKey t.ns t.threadID) t) =
        some (old, user) := by
  obtain ⟨id, found⟩ := exists_get_of_mem_values (mem_of_find?_eq_some requested)
  obtain ⟨sameID, -⟩ := sane.consistent id row found
  obtain ⟨old, held, both, -⟩ := twin.entry sane.consistent found
  obtain ⟨sameThread, sameRequest⟩ : row.threadID = t.threadID ∧ row.requestID = t.requestID := by
    simpa using find?_some requested
  obtain ⟨user, inMessages, userID, userThread, -⟩ := sane.answered id row found
  have messages : s.messagesAt (threadKey t.ns t.threadID) = db.messagesOf t.threadID :=
    within ▸ twin.messages _ thread present
  have inThread : user ∈ db.messagesOf t.threadID :=
    mem_filter.mpr ⟨inMessages, by simp [userThread, sameThread]⟩
  have sameUser : old.userMessageID = user.id := by
    rw [userID, both.payload]
    rfl
  have ofThread : ∀ m ∈ db.messagesOf t.threadID, m ∈ db.messages :=
    fun m member => (mem_filter.mp member).1
  -- The turn of the request finds its message in the thread.
  have replays : s.replayed (threadKey t.ns t.threadID) t old = some (old, user) := by
    rw [replayed, if_pos ⟨both.threadID.symm.trans sameThread, both.requestID.symm.trans sameRequest⟩,
      messages, sameUser, sane.distinct.find ofThread inThread]
    rfl
  refine ⟨old, user, sameID.symm ▸ held, both, ?_, ?_⟩
  · rw [← userID]
    exact sane.distinct.find (fun _ member => member) inMessages
  · cases first : (order.shuffle 0 s.turns.values).findSome?
      (s.replayed (threadKey t.ns t.threadID) t) with
    | none =>
      have member : old ∈ order.shuffle 0 s.turns.values :=
        (order.perm 0 _).mem_iff.mpr (mem_values held)
      cases (findSome?_eq_none_iff.mp first old member).symm.trans replays
    | some pair =>
      -- No other turn of the thread has the request.
      obtain ⟨other, member, passes⟩ := exists_of_findSome?_eq_some first
      obtain ⟨otherID, otherHeld⟩ :=
        exists_get_of_mem_values ((order.perm 0 _).mem_iff.mp member)
      obtain ⟨otherRow, otherFound, otherBoth, -⟩ := twin.row sane.consistent otherHeld
      have sameOther : other.threadID = t.threadID ∧ other.requestID = t.requestID := by
        by_contra differs
        rw [replayed, if_neg differs] at passes
        cases passes
      have sameTurn : otherID = id := sane.requests otherID id otherRow row otherFound found
        (otherBoth.threadID.trans (sameOther.1.trans sameThread.symm))
        (otherBoth.requestID.trans (sameOther.2.trans sameRequest.symm))
      rw [sameTurn, held] at otherHeld
      cases otherHeld
      exact passes.symm.trans replays

theorem acceptTurn_agrees {t t' : Turn} {message : Message} {thread there : Thread}
    (prepared : prepareTurn t m env = .ok (t', message))
    (present : db.threads.get t'.threadID = some thread) (within : thread.ns = t'.ns)
    (same : there = { thread with updatedAt := there.updatedAt })
    (requested : db.request t'.threadID t'.requestID = none) (titled : Titled thread)
    (fresh : db.turns.get t'.id = none) (unused : Unused db message.id) :
    Agrees db (.queueTurn env t m) (outcome db (PostgresStore.acceptTurn env t' message thread))
      (MemoryStore.acceptTurn order t' message there s) := by
  obtain ⟨sameID, trimmed⟩ := sane.keyed _ thread present
  have messages : s.messagesAt (threadKey t'.ns t'.threadID) = db.messagesOf t'.threadID :=
    within ▸ twin.messages _ thread present
  obtain ⟨made, -⟩ := prepareTurn_ok prepared
  have waits : t'.status = if t'.deferred then .waiting else .queued := by
    rw [made]
    rfl
  have dated : t'.createdAt = env.now := by
    rw [made]
    rfl
  have deferred : t'.status = .waiting → t'.deferred = true := by
    intro waiting
    cases asked : t'.deferred with
    | true => rfl
    | false =>
      rw [asked] at waits
      cases waits.symm.trans waiting
  have sameThread : t'.threadID = t.threadID := by
    rw [made]
    rfl
  -- Both look for a turn that stands in the way.
  have conflict : (order.shuffle 1 s.turns.values).any (obstructs t') =
      db.conflict t'.ns t'.threadID t'.profileName t'.deferred t'.lockKeys := by
    refine twin.anyTurn sane.consistent order (fun row other both => ?_) 1
    rw [obstructs, TurnRow.needs, both.ns, both.threadID, both.status, both.payload, occupies_eq,
      ← Bool.and_assoc]
    rfl
  rw [PostgresStore.acceptTurn, MemoryStore.acceptTurn, outcome_read _ rfl]
  dsimp only
  rw [messages, conflict]
  refine .ite (fun _ => rfl) fun blocked => ?_
  rw [checkSequence_outcome sane.numbered]
  by_cases moved : (t'.expectedSequence.any fun expected =>
      decide (((db.messagesOf t'.threadID).length : Int) ≠ expected)) = true
  · rw [if_pos moved, if_pos moved]
    exact rfl
  rw [if_neg moved, if_neg moved]
  -- The message gets the next number, and the thread keeps the title that it has.
  rw [sameThread] at trimmed
  obtain ⟨messageThread, again⟩ := prepareTurn_again prepared trimmed
    (db.messagesOf t'.threadID).length (env.newUUID 1)
  rw [← sameThread] at trimmed messageThread again
  rw [← sameID] at present trimmed messageThread again
  have inserted := (insertTurnMessage_outcome sane.numbered env message.raw present trimmed).2 _ again
    unused
  have untitled : titleAfter thread { message with sequence := (db.messagesOf thread.id).length + 1 } =
      thread.title := by
    rw [titleAfter, if_neg]
    rintro ⟨blank | standard, -⟩
    · exact titled.1 blank
    · exact titled.2 standard
  rw [untitled] at inserted
  rw [outcome_ok inserted]
  have written := twin.extend present
    [{ message with sequence := (db.messagesOf thread.id).length + 1 }]
    (show Thread.undated { there with updatedAt := t'.createdAt } =
        Thread.undated { thread with updatedAt := env.now } by rw [same]; rfl)
    (by simpa using messageThread)
  -- The turn takes its keys from nobody.
  have apart := twin.accepted_apart sane.consistent env.now (sameID ▸ present) within fresh
    requested waits (by simpa using blocked)
  have inserts : (insertTurn (newRow t' env.now)).exec (postgres.applyAll db
      [.insertMessage { message with sequence := (db.messagesOf thread.id).length + 1 },
        .updateThread { thread with updatedAt := env.now }]) =
      .ok ((), [.insertTurn (newRow t' env.now)]) := by
    refine insertTurn_exec ?_ apart
    show ((db.threads.put thread.id _).get t'.threadID).isSome
    rw [← sameID, get_put_self]
    rfl
  have after := written.putTurn (newRow t' env.now) ⟨rfl, deferred, dated.symm⟩
    ⟨{ thread with updatedAt := env.now }, by
      show (db.threads.put thread.id _).get t'.threadID = _
      rw [← sameID, get_put_self], within⟩
    (fun id other found _ => apart id other found)
  have keptTitle : there.title ≠ defaultThreadTitle := by
    rw [same]
    exact titled.2
  rw [← within, ← sameID, if_neg keptTitle]
  rw [outcome_write inserts]
  refine ⟨?_, after⟩
  rw [same]
  rfl

theorem queueTurn_agrees (fair : alike db s (.queueTurn env t m) = true) :
    Agrees db (.queueTurn env t m) (outcome db (PostgresStore.queueTurn env t m))
      (MemoryStore.queueTurn order env t m s) := by
  obtain ⟨slashless, fair⟩ := of_decide_eq_true fair
  refine .checked fun ⟨t', message⟩ prepared => ?_
  have fair := fair _ (mem_toOption prepared)
  obtain ⟨same, -⟩ := prepareTurn_ok prepared
  have sameNs : t'.ns = t.ns := by rw [same]; rfl
  have sameThread : t'.threadID = t.threadID := by rw [same]; rfl
  have sameRequest : t'.requestID = t.requestID := by rw [same]; rfl
  rw [← sameNs, ← sameThread, ← sameRequest] at fair
  show Agrees db (.queueTurn env t m) (outcome db (lockAll _ >>= _)) _
  rw [outcome_lockAll, outcome_read _ rfl]
  dsimp only
  rcases twin.lookup (sameNs ▸ slashless) t'.threadID with ⟨none, absent⟩ |
    ⟨thread, there, looked, present, within, kept, sameThere, -⟩
  · rw [none, absent, outcome_require_none]
    exact rfl
  obtain ⟨replays, accepts⟩ := fair thread looked
  rw [looked, kept, outcome_require_some, outcome_read _ rfl]
  cases requested : db.request t'.threadID t'.requestID with
  | none =>
    obtain ⟨titled, fresh, unused⟩ := accepts requested
    rw [twin.replayed_none sane.consistent order _ requested]
    exact acceptTurn_agrees twin sane order prepared present within sameThere requested titled fresh
      unused
  | some row =>
    obtain ⟨old, user, held, both, found, first⟩ :=
      twin.replayed_some sane order present within requested
    have payload : row.payload = old := both.payload.trans (replays row requested old held)
    rw [first]
    show Agrees db (.queueTurn env t m) (outcome db (replayTurn row.payload message thread)) _
    rw [replayTurn, outcome_read _ rfl, found, outcome_require_some, payload]
    refine .ite (fun _ => rfl) fun _ => ⟨?_, twin⟩
    rw [sameThere]
    rfl

/-- Both stores answer a call alike and have the same in common again. -/
theorem agrees {call : Call} (fair : alike db s call = true) :
    Agrees db call (outcome db call.tx) (call.inMemory order s) := by
  cases call with
  | createThread env thread => exact createThread_agrees twin fair
  | getThread ns id => exact getThread_agrees twin fair
  | listThreads filter => exact listThreads_agrees twin sane.keyed order fair
  | ensureStandingThread env seed => exact ensureStandingThread_agrees twin sane.keyed order fair
  | appendMessages env ns threadID messages =>
    exact appendMessages_agrees twin sane.keyed sane.numbered fair
  | listMessages ns threadID => exact listMessages_agrees twin sane.numbered fair
  | repairAssistantReply ns original content format =>
    exact repairAssistantReply_agrees twin sane.distinct fair
  | queueTurn env t m => exact queueTurn_agrees twin sane order fair
  | listTurns ns id => exact listTurns_agrees twin sane.consistent order fair
  | pendingTurns limit => exact pendingTurns_agrees twin sane.consistent order fair
  | activateTurn t => exact activateTurn_agrees twin sane.consistent order fair
  | recordRun t uid => exact recordRun_agrees twin sane.consistent fair
  | retryTurn env expected retry => exact retryTurn_agrees twin sane.consistent fair
  | completeTurn env t m =>
    exact completeTurn_agrees twin sane.consistent sane.keyed sane.numbered fair

theorem served_alike {call : Call} (fair : alike db s call = true) :
    SameOutcome call (PostgresStore.serve call db).1 (MemoryStore.serve order call s).1 ∧
      Twin (PostgresStore.serve call db).2 (MemoryStore.serve order call s).2 := by
  have both := agrees twin sane order fair
  rw [serve_eq, MemoryStore.serve]
  revert both
  cases outcome db call.tx <;> cases call.inMemory order s <;> intro both
  · exact ⟨both, twin⟩
  · exact both.elim
  · exact both.elim
  · exact both

end Twins

section Sample

open Sample

/-- Maps in the order in which they were filled. -/
def plainOrder : MapOrder :=
  ⟨fun _ entries => entries, fun _ entries => .refl entries⟩

/-- A thread without a title, and the first turn in it. -/
def firstTurn : List (MapOrder × Call) :=
  [(plainOrder, .createThread sampleEnv
      { sampleThread uuidA with title := "", metadata := .absent 0 }),
    (plainOrder, .queueTurn sampleEnv (sampleTurn "t1" uuidA "coder") (sampleMessage uuidB))]

/-- Outcomes that are the same have threads of one title. -/
theorem SameOutcome.title [UUIDs] {env : Env} {t : Turn} {m : MessageOf RawMetadata}
    {there here : Except ChatError (Turn × Message × Thread)}
    (same : SameOutcome (.queueTurn env t m) there here) :
    there.toOption.map (·.2.2.title) = here.toOption.map (·.2.2.title) := by
  cases there <;> cases here
  · rfl
  · exact same.elim
  · exact same.elim
  · exact congrArg (fun result => some result.2.2.title) same

theorem succeeded_final : "succeeded" ∉ ["waiting", "queued", "running"] := by
  decide

/-- A conversation with a turn that is retried, answered and listed. -/
def sampleTalk : List (MapOrder × Call) :=
  let t := sampleTurn "t1" uuidA "coder"
  let retried := { t with runName := "run-2", retryCount := 1 }
  [.createThread sampleEnv { sampleThread uuidA with metadata := .absent 0 },
    .ensureStandingThread sampleEnv { sampleThread "" with metadata := .absent 0 },
    .appendMessages sampleEnv "team" uuidA [{ sampleMessage uuidB with role := .system }],
    .queueTurn sampleEnv t (sampleMessage ""),
    .queueTurn sampleEnv t (sampleMessage ""),
    .pendingTurns 5,
    .activateTurn t,
    .recordRun t "uid-1",
    .retryTurn sampleEnv t ⟨"run-2", "run", "lost", 9⟩,
    .completeTurn sampleEnv { retried with status := .ended "succeeded" succeeded_final }
      { sampleMessage uuidA with role := .assistant },
    .listTurns "team" uuidA, .listMessages "team" uuidA, .getThread "team" uuidA].map
      (plainOrder, ·)

end Sample

end AnvilAgents.Chat
