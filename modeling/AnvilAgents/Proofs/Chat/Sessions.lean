import AnvilAgents.Proofs.Chat.Statements
import Mathlib.Data.Prod.Lex

/-! What a transaction of the chat store knows about the committed turns while it is in flight. -/

namespace AnvilAgents.Chat

open Conc Transaction PostgresStore List Table

/-- What a turn occupies while it runs. -/
structure Resources where
  ns : String
  profileName : String
  lockKeys : List String

/-- The names under which they are locked. -/
def Resources.names (r : Resources) : List String :=
  resourceNames r.ns r.profileName r.lockKeys

/-- What a turn needs. -/
def Turn.resources (t : Turn) : Resources :=
  ⟨t.ns, t.profileName, t.lockKeys⟩

variable {row : TurnRow}

/-- A row that needs one of the resources has a name in common with them. -/
theorem shared_name {r : Resources} (consistent : row.Consistent) (sameNs : row.ns = r.ns)
    (needs : row.needs r.profileName r.lockKeys = true) :
    ∃ name, name ∈ row.payload.resources.names ∧ name ∈ r.names := by
  have payloadNs : row.payload.ns = r.ns := consistent.ns.trans sameNs
  simp only [TurnRow.needs, Bool.or_eq_true, decide_eq_true_eq, any_eq_true,
    contains_iff_mem] at needs
  simp only [Resources.names, Turn.resources, resourceNames, payloadNs,
    mem_map, mem_insertionSort, mem_cons]
  rcases needs with profile | ⟨key, mine, theirs⟩
  · exact ⟨_, ⟨_, .inl rfl, rfl⟩, ⟨_, .inl rfl, by rw [profile]⟩⟩
  · exact ⟨_, ⟨key, .inr mine, rfl⟩, ⟨key, .inr theirs, rfl⟩⟩

/-- The place of a lock in the order: its kind, and for advisory locks the name. -/
abbrev Level := Nat ×ₗ String

/-- The level of a kind of which a transaction takes one lock. -/
def kindLevel (rank : Nat) : Level :=
  toLex (rank, "")

theorem kindLevel_lt {a b : Nat} : kindLevel a < kindLevel b ↔ a < b := by
  simp [kindLevel, Prod.Lex.toLex_lt_toLex]

theorem advisory_lt {name : String} {rank : Nat} (later : 1 < rank) :
    (toLex (1, name) : Level) < kindLevel rank :=
  Prod.Lex.toLex_lt_toLex.mpr (.inl later)

/-- The kinds of locks that a statement takes, from the first to the last. -/
def Sql.span : Sql → Option (Nat × Nat)
  | .selectThread _ _ true => some (4, 4)
  | .insertThread _ => some (2, 2)
  | .insertStanding _ _ _ => some (3, 4)
  | .insertMessage _ => some (7, 8)
  | .repairMessage _ _ _ => some (6, 6)
  | .selectTurn _ _ _ => some (5, 5)
  | .insertTurn _ | .updateTurn _ _ _ => some (9, 13)
  | .activateTurn _ => some (5, 13)
  | .recordRun _ _ => some (5, 5)
  | _ => none

variable [UUIDs]

/-- What a transaction has learnt from its statements. -/
structure TxKnow where
  op : Op
  /-- The advisory locks it has taken, the last one first. -/
  advised : List String := []
  /-- The thread it has locked, behind the identity that it was looked up by. -/
  thread : Option (String × Thread) := none
  /-- The turn it has locked. -/
  claimed : Option Turn := none
  /-- The status it has read without a lock. -/
  status : Option TurnStatus := none
  /-- What it has found unoccupied. -/
  free : Option Resources := none
  /-- Whether it has written a turn. -/
  wrote : Bool := false
  /-- The level of its last lock. -/
  top : Level := kindLevel 0

variable (K : TxKnow)

/-- What a transaction may send next: it writes at most one turn, and only what it has checked. -/
def TxKnow.permits : Sql → Prop
  -- Whether something is occupied is asked only under the locks that keep the answer true.
  | .selectConflict ns _ profileName _ lockKeys | .selectBusy ns profileName lockKeys =>
    K.wrote = false ∧ ∀ name ∈ (Resources.mk ns profileName lockKeys).names, name ∈ K.advised
  | .selectTurn _ _ _ => K.wrote = false
  -- A status is read without a lock only for the turn that is to be activated.
  | .selectTurnStatus id => K.wrote = false ∧ ∃ t, K.op = .activateTurn t ∧ id = t.id
  | .insertTurn row => K.wrote = false ∧ row.Consistent ∧
      (row.status.occupies = true → K.free = some row.payload.resources)
  -- A locked turn is ended, or its attempt is replaced.
  | .updateTurn id status payload => K.wrote = false ∧ ∃ old, K.claimed = some old ∧ id = old.id ∧
      old.Same payload ∧ payload.status = status ∧ old.status.unfinished = true ∧
      (status.unfinished = true → status = .queued ∧
        ∃ env expected retry, K.op = .retryTurn env expected retry ∧ old.id = expected.id)
  | .activateTurn id => K.wrote = false ∧ ∃ t, K.op = .activateTurn t ∧ id = t.id ∧
      K.free = some t.resources ∧ K.status = some .waiting
  | .recordRun _ _ => K.wrote = false
  | .insertThread thread => Text.trimSpace thread.id = thread.id
  | _ => True

/-- The locked thread has this identity, if it is stored under its own. -/
def TxKnow.Under (id : String) : Prop :=
  ∃ key thread, K.thread = some (key, thread) ∧
    (thread.id = key → Text.trimSpace key = key → id = key)

/-- Which statements come next in the order of the locks. -/
def TxKnow.inOrder (s : Sql) : Prop :=
  (match s.span with
    | some (first, _) => K.top < kindLevel first
    | none => True) ∧
  match s with
  -- A name may be locked twice in a row.
  | .advisoryLock name =>
    K.top ≤ toLex (1, name) ∧ (K.top = toLex (1, name) → K.advised.head? = some name)
  -- What refers to a thread is written under the lock of the thread.
  | .touchThread id _ _ => K.Under id
  | .insertMessage message => K.Under message.threadID
  | .insertTurn row => K.Under row.threadID
  | _ => True

/-- What a statement adds. -/
def TxKnow.learn (s : Sql) (reply : Sql.Reply s) : TxKnow where
  op := K.op
  advised :=
    match s with
    | .advisoryLock name => name :: K.advised
    | _ => K.advised
  thread :=
    match s, reply with
    | .selectThread _ id true, found => ((found : Option Thread).map (id, ·)).or K.thread
    | _, _ => K.thread
  claimed :=
    match s, reply with
    | .selectTurn _ _ _, found => (found : Option Turn).or K.claimed
    | _, _ => K.claimed
  status :=
    match s, reply with
    | .selectTurnStatus _, found => found
    | _, _ => K.status
  free :=
    match s, reply with
    | .selectConflict ns _ profileName false lockKeys, conflict =>
      if (conflict : Bool) then K.free else some ⟨ns, profileName, lockKeys⟩
    | .selectBusy ns profileName lockKeys, busy =>
      if (busy : Bool) then K.free else some ⟨ns, profileName, lockKeys⟩
    | _, _ => K.free
  wrote :=
    match s with
    | .insertTurn _ | .updateTurn _ _ _ | .activateTurn _ | .recordRun _ _ => true
    | _ => K.wrote
  top :=
    match s with
    | .advisoryLock name => toLex (1, name)
    | s =>
      match s.span with
      | some (_, last) => kindLevel last
      | none => K.top

/-- What has been written stays written. -/
theorem unwritten_of_learn {K : TxKnow} {s : Sql} {reply : Sql.Reply s}
    (unwritten : (K.learn s reply).wrote = false) : K.wrote = false := by
  cases s <;> first | exact unwritten | cases unwritten

/-- The contract that every transaction of the store keeps. -/
abbrev txContract : Contract Sql Sql.Reply where
  Know := TxKnow
  permits K s := K.permits s ∧ K.inOrder s
  learn := TxKnow.learn
  promised _ _ := True

section Conformance

/-- A statement that takes no lock and asks nothing about turns. -/
def Sql.plain : Sql → Bool
  | .selectThread _ _ false | .selectThreads _ | .selectStanding _ _ | .selectEligible _ _
  | .selectMessage _ | .selectMessages _ | .maxSequence _ | .selectRequest _ _ | .selectTurns _ _
  | .selectPending _ => true
  | _ => false

variable {K}

theorem keeps_plain {s : Sql} {post : TxKnow → Sql.Reply s → Prop}
    (plain : s.plain = true) (after : ∀ reply, post K reply) : Keeps txContract K (sql s) post := by
  cases s with
  | selectThread ns id forUpdate =>
    cases forUpdate with
    | true => cases plain
    | false => exact ⟨⟨trivial, trivial, trivial⟩, fun reply _ => after reply⟩
  | _ => first | (cases plain; done) |
    exact ⟨⟨trivial, trivial, trivial⟩, fun reply _ => after reply⟩

variable {post : TxKnow → Unit → Prop}

/-- Names in order are locked in order, and after them the other kinds of locks are still free. -/
theorem keeps_lockAll {names : List String} (ordered : names.Pairwise (· ≤ ·))
    (low : K.top < kindLevel 2)
    (next : ∀ name ∈ names, K.top ≤ toLex (1, name) ∧
      (K.top = toLex (1, name) → K.advised.head? = some name))
    (after : ∀ top, top < kindLevel 2 →
      post { K with advised := names.reverse ++ K.advised, top } ()) :
    Keeps txContract K (lockAll names) post := by
  induction names generalizing K with
  | nil => exact after K.top low
  | cons name names ih =>
    obtain ⟨least, ordered⟩ := pairwise_cons.mp ordered
    rw [lockAll, keeps_bind, keeps_sql]
    refine ⟨⟨trivial, trivial, next name (.head _)⟩, fun _ _ =>
      ih ordered (advisory_lt (by decide)) (fun later member => ?_) fun top low => ?_⟩
    · -- A later name is larger, or the same one again.
      have behind : name ≤ later := least later member
      refine ⟨Prod.Lex.toLex_le_toLex.mpr (.inr ⟨rfl, behind⟩), fun same => ?_⟩
      have equal : name = later := (Prod.mk.inj (toLex.injective same)).2
      exact congrArg some equal
    · simpa [txContract, TxKnow.learn] using after top low

omit [UUIDs] in
/-- The names of the resources of a turn are in order. -/
theorem resourceNames_ordered (ns profileName : String) (lockKeys : List String) :
    (resourceNames ns profileName lockKeys).Pairwise (· ≤ ·) := by
  refine pairwise_map.mpr ((pairwise_insertionSort (· ≤ ·) _).imp fun {a b} less => ?_)
  -- A common beginning does not change the order.
  rw [String.le_iff_toList_le] at less ⊢
  simp only [String.toList_append]
  rcases less.lt_or_eq with less | same
  · exact le_of_lt (Lex.append_left (· < ·) less _)
  · rw [same]

omit [UUIDs] in
theorem start_lt_advisory (name : String) : kindLevel 0 < toLex (1, name) :=
  Prod.Lex.toLex_lt_toLex.mpr (.inl Nat.zero_lt_one)

variable {t : Turn}

theorem keeps_lockTurnResources (fresh : K.top = kindLevel 0)
    (after : ∀ top advised, top < kindLevel 2 → (∀ name ∈ t.resources.names, name ∈ advised) →
      post { K with advised, top } ()) :
    Keeps txContract K (lockTurnResources t) post := by
  refine keeps_lockAll (resourceNames_ordered ..) ?_ (fun name _ => ?_) fun top low =>
    after top _ low fun name member => mem_append_left _ (mem_reverse.mpr member)
  · rw [fresh]
    exact kindLevel_lt.mpr (by decide)
  · rw [fresh]
    exact ⟨(start_lt_advisory name).le, fun same => absurd same (start_lt_advisory name).ne⟩

variable {env : Env} {m : MessageOf RawMetadata} {thread : Thread}

/-- A message is appended under the lock of its thread. -/
theorem keeps_insertTurnMessage {post : TxKnow → Message → Prop} {id : String}
    (owns : K.thread = some (id, thread)) (low : K.top < kindLevel 7)
    (after : ∀ m, post { K with top := kindLevel 8 } m) :
    Keeps txContract K (insertTurnMessage env thread m) post := by
  simp only [insertTurnMessage, keeps_bind]
  refine keeps_plain rfl fun last => ?_
  rw [keeps_check]
  intro m normalized
  refine keeps_sql.mpr ⟨⟨trivial, low, id, thread, owns, fun same trimmed => ?_⟩, fun _ _ => ?_⟩
  · subst same
    exact (normalizeMessage_ok normalized).1.trans trimmed
  · exact keeps_sql.mpr ⟨⟨trivial, trivial, id, thread, owns, fun same _ => same⟩, fun _ _ => after m⟩

omit [UUIDs] in
theorem newRow_consistent (t : Turn) (now : Time) : (newRow t now).Consistent :=
  ⟨rfl, rfl, rfl, rfl, rfl⟩

theorem keeps_replayTurn {existing : Turn} {message : Message} :
    Keeps txContract K (replayTurn existing message thread) fun _ _ => True := by
  simp only [replayTurn, keeps_bind]
  refine keeps_plain rfl fun found => ?_
  rw [keeps_require]
  intro user _
  exact keeps_ite (fun _ => keeps_throw _) fun _ => trivial

theorem keeps_checkSequence (after : post K ()) : Keeps txContract K (checkSequence t) post := by
  unfold checkSequence
  split
  · exact after
  · rw [keeps_bind]
    refine keeps_plain rfl fun current => ?_
    exact keeps_ite (fun _ => keeps_throw _) fun _ => after

/-- A turn that is stored to run at once has been found free to run. -/
theorem keeps_acceptTurn {message : Message} (fresh : K.wrote = false)
    (locked : ∀ name ∈ t.resources.names, name ∈ K.advised)
    (status : t.status = if t.deferred then .waiting else .queued)
    (owns : K.thread = some (t.threadID, thread)) (low : K.top < kindLevel 7) :
    Keeps txContract K (acceptTurn env t message thread) fun _ _ => True := by
  rw [acceptTurn, keeps_bind, keeps_sql]
  refine ⟨⟨⟨fresh, locked⟩, trivial, trivial⟩, fun conflict _ => ?_⟩
  cases conflict with
  | true => trivial
  | false =>
    simp only [Bool.false_eq_true, if_false, keeps_bind]
    refine keeps_checkSequence (keeps_insertTurnMessage owns low fun _ => keeps_sql.mpr
      ⟨⟨⟨fresh, newRow_consistent t env.now, fun occupies => ?_⟩, kindLevel_lt.mpr (by decide), _, _,
        owns, fun _ _ => rfl⟩, fun _ _ => trivial⟩)
    cases deferred : t.deferred with
    | true => simp [newRow, status, deferred, TurnStatus.occupies] at occupies
    | false => rfl

theorem keeps_queueTurn {op : Op} : Keeps txContract { op } (queueTurn env t m) fun _ _ => True := by
  simp only [queueTurn, keeps_bind, keeps_check]
  rintro ⟨t', message⟩ prepared
  obtain ⟨rfl, -⟩ := prepareTurn_ok prepared
  refine keeps_lockTurnResources rfl fun top advised low locked => keeps_sql.mpr
    ⟨⟨trivial, low.trans (kindLevel_lt.mpr (by decide)), trivial⟩, fun found _ => ?_⟩
  rw [keeps_require]
  rintro thread rfl
  refine keeps_plain rfl fun existing => ?_
  cases existing with
  | some existing => exact keeps_replayTurn
  | none => exact keeps_acceptTurn rfl locked rfl rfl (kindLevel_lt.mpr (by decide))

theorem keeps_completeTurn {op : Op} :
    Keeps txContract { op } (completeTurn env t m) fun _ _ => True := by
  refine keeps_ite (fun _ => keeps_throw _) fun ended => ?_
  rw [keeps_bind]
  refine keeps_sql.mpr ⟨⟨trivial, kindLevel_lt.mpr (by decide), trivial⟩, fun found _ => ?_⟩
  rw [keeps_bind, keeps_require]
  rintro thread rfl
  rw [keeps_bind]
  refine keeps_sql.mpr ⟨⟨rfl, kindLevel_lt.mpr (by decide), trivial⟩, fun found _ => ?_⟩
  rw [keeps_bind, keeps_require]
  rintro old rfl
  refine keeps_ite (fun _ => trivial) fun running => keeps_ite (fun _ => keeps_throw _) fun same => ?_
  rw [keeps_bind]
  refine keeps_insertTurnMessage rfl (kindLevel_lt.mpr (by decide)) fun _ => keeps_sql.mpr
    ⟨⟨⟨rfl, old, rfl, rfl, ⟨rfl, rfl, rfl, rfl, rfl, rfl, rfl⟩, rfl, ?_, fun unfinished => ?_⟩,
      kindLevel_lt.mpr (by decide), trivial⟩, fun _ _ => trivial⟩
  · simpa [active] using running
  · exact absurd unfinished (by simpa [active] using ended)

theorem keeps_recordRun {op : Op} {uid : String} :
    Keeps txContract { op } (recordRun t uid) fun _ _ => True := by
  rw [recordRun, keeps_bind, keeps_sql]
  refine ⟨⟨rfl, kindLevel_lt.mpr (by decide), trivial⟩, fun rows _ => ?_⟩
  exact keeps_ite (fun _ => keeps_throw _) fun _ => trivial

theorem keeps_activateTurn :
    Keeps txContract { op := .activateTurn t } (activateTurn t) fun _ _ => True := by
  rw [activateTurn, keeps_bind]
  refine keeps_lockTurnResources rfl fun top advised low locked => ?_
  simp only [keeps_bind]
  refine keeps_sql.mpr ⟨⟨⟨rfl, t, rfl, rfl⟩, trivial, trivial⟩, fun found _ => ?_⟩
  rw [keeps_require]
  rintro status rfl
  refine keeps_ite (fun _ => trivial) fun waiting => ?_
  rw [keeps_bind, keeps_sql]
  refine ⟨⟨⟨rfl, locked⟩, trivial, trivial⟩, fun busy _ => ?_⟩
  cases busy with
  | true => trivial
  | false =>
    simp only [Bool.false_eq_true, if_false]
    rw [keeps_bind, keeps_sql]
    refine ⟨⟨⟨rfl, t, rfl, rfl, rfl, ?_⟩, low.trans (kindLevel_lt.mpr (by decide)), trivial⟩,
      fun _ _ => trivial⟩
    simpa [TxKnow.learn] using waiting

theorem keeps_retryTurn {expected : Turn} {retry : TurnRetry} :
    Keeps txContract { op := .retryTurn env expected retry } (retryTurn env expected retry)
      fun _ _ => True := by
  simp only [retryTurn, keeps_bind]
  refine keeps_sql.mpr ⟨⟨rfl, kindLevel_lt.mpr (by decide), trivial⟩, fun found _ => ?_⟩
  rw [keeps_require]
  rintro old rfl
  rw [keeps_check]
  intro next prepared
  obtain ⟨running, attempt, same, queued⟩ := prepareTurnRetry_ok prepared
  refine keeps_sql.mpr ⟨⟨⟨rfl, old, rfl, same.id.symm, same, rfl, running, fun _ => ⟨queued, ?_⟩⟩,
    kindLevel_lt.mpr (by decide), trivial⟩, fun _ _ => trivial⟩
  exact ⟨env, expected, retry, rfl, sameTurnAttempt_id attempt⟩

theorem keeps_ensureStandingThread {op : Op} {seed : ThreadOf RawMetadata} :
    Keeps txContract { op } (ensureStandingThread env seed) fun _ _ => True := by
  simp only [ensureStandingThread, keeps_bind, keeps_check]
  intro seed normalized
  refine keeps_ite (fun _ => keeps_throw _) fun _ => ?_
  simp only [keeps_bind]
  -- The only advisory lock comes before the row of the thread and the record of it.
  refine keeps_sql.mpr ⟨⟨trivial, trivial, (start_lt_advisory _).le, fun same =>
    absurd same (start_lt_advisory _).ne⟩, fun _ _ => keeps_plain rfl fun recorded => ?_⟩
  cases recorded with
  | some thread => trivial
  | none =>
    rw [keeps_bind]
    refine keeps_plain rfl fun adopted => ?_
    cases adopted with
    | some thread =>
      rw [keeps_bind]
      exact keeps_sql.mpr ⟨⟨trivial, advisory_lt (by decide), trivial⟩, fun _ _ => trivial⟩
    | none =>
      simp only [keeps_bind]
      refine keeps_sql.mpr ⟨⟨(normalizeThread_valid normalized).2, advisory_lt (by decide), trivial⟩,
        fun _ _ => ?_⟩
      exact keeps_sql.mpr ⟨⟨trivial, kindLevel_lt.mpr (by decide), trivial⟩, fun _ _ => trivial⟩

theorem op_conforms (op : Op) : txContract.Conforms { op } op.program fun _ _ => True := by
  cases op with
  | queueTurn env t m => exact keeps_queueTurn.commits
  | activateTurn t => exact keeps_activateTurn.commits
  | recordRun t uid => exact keeps_recordRun.commits
  | retryTurn env expected retry => exact keeps_retryTurn.commits
  | completeTurn env t m => exact keeps_completeTurn.commits
  | ensureStandingThread env seed => exact keeps_ensureStandingThread.commits

end Conformance

variable {changes : List Change}

section Soundness

/-- What a transaction in flight holds. -/
abbrev Held := Lock → Mode → Prop

/-- A written turn is new, or a locked one with another payload, and it never goes back to waiting. -/
inductive Grounded (db : Database) (held : Held) : Change → TurnRow → Prop
  | insert {row : TurnRow} (locked : held (.key (.turn row.id)) .exclusive)
      (absent : db.turns.get row.id = none) (columns : row.Consistent) :
      Grounded db held (.insertTurn row) row
  | update {row old : TurnRow} (locked : held (.turnRow row.id) .exclusive)
      (columns : row.Consistent) (left : row.status ≠ .waiting)
      (found : db.turns.get row.id = some old) (same : old.payload.Same row.payload) :
      Grounded db held (.updateTurn row) row

/-- What holds of a transaction in flight. -/
structure Sound (db : Database) (held : Held) (pending : List Change) (K : TxKnow) : Prop where
  unwritten : K.wrote = false → turnChanges pending = []
  written : turnChanges pending = [] ∨
    ∃ change row, turnChanges pending = [change] ∧ Grounded db held change row
  advised : ∀ name ∈ K.advised, held (.advisory name) .exclusive
  claimed : ∀ payload, K.claimed = some payload → held (.turnRow payload.id) .exclusive ∧
    ∃ row, db.turns.get payload.id = some row ∧ row.payload = payload

/-- A turn of the committed rows stays, in all that is settled when it is accepted. -/
structure Evolves (db db' : Database) : Prop where
  kept : ∀ id row, db.turns.get id = some row → ∃ row', db'.turns.get id = some row' ∧
    row.payload.Same row'.payload ∧ (row'.status = .waiting → row.status = .waiting)

variable {db : Database} {held held' : Held} {pending : List Change} {K : TxKnow}

theorem Sound.mono (more : ∀ lock mode, held lock mode → held' lock mode)
    (sound : Sound db held pending K) : Sound db held' pending K where
  unwritten := sound.unwritten
  written := by
    refine sound.written.imp_right fun ⟨change, row, only, grounded⟩ => ⟨change, row, only, ?_⟩
    cases grounded with
    | insert locked absent columns => exact .insert (more _ _ locked) absent columns
    | update locked columns left found same => exact .update (more _ _ locked) columns left found same
  advised name member := more _ _ (sound.advised name member)
  claimed payload known := (sound.claimed payload known).imp_left (more _ _)

section

variable (sound : Sound db held pending K)

include sound

/-- Until a transaction writes a turn, it sees the committed turns. -/
theorem Sound.view_turns (unwritten : K.wrote = false) :
    (postgres.applyAll db pending).turns = db.turns := by
  rw [applyAll_turns, sound.unwritten unwritten]
  rfl

/-- What a commit makes of the turns: nothing, or one of them written. -/
theorem Sound.commit_turns :
    (postgres.applyAll db pending).turns = db.turns ∨
      ∃ change row, Grounded db held change row ∧ turnChanges pending = [change] ∧
        (postgres.applyAll db pending).turns = db.turns.put row.id row := by
  rw [applyAll_turns]
  rcases sound.written with none | ⟨change, row, only, grounded⟩
  · exact .inl (by rw [none]; rfl)
  · refine .inr ⟨change, row, grounded, only, ?_⟩
    rw [only]
    cases grounded <;> rfl

end

omit [UUIDs] in
theorem recordable_iff {turn : Turn} {uid : String} :
    db.recordable turn uid = some row ↔ db.turns.get turn.id = some row ∧ row.ns = turn.ns ∧
      row.threadID = turn.threadID ∧ row.status.occupies = true ∧
      row.payload.runName = turn.runName ∧ row.payload.retryCount = turn.retryCount ∧
      (row.payload.runUID = "" ∨ row.payload.runUID = uid) := by
  simp [Database.recordable, Option.filter_eq_some_iff, and_assoc]

omit [UUIDs] in
theorem occupies_ne_waiting {status : TurnStatus} (occupies : status.occupies = true) :
    status ≠ .waiting := by
  rintro rfl
  cases occupies

/-- Why a turn may be replaced: it is ended or retried, it is activated, or its run is recorded. -/
def Replaceable (K : TxKnow) (old : TurnRow) (status : TurnStatus) : Prop :=
  (old.status.unfinished = true ∧ (status.unfinished = true →
    ∃ env expected retry, K.op = .retryTurn env expected retry ∧ old.id = expected.id)) ∨
  (∃ t, K.op = .activateTurn t ∧ old.id = t.id ∧ K.free = some t.resources ∧
    K.status = some .waiting) ∨
  old.status.occupies = true

/-- What a permitted statement writes of the turns, as the first one of its transaction. -/
inductive TurnWrite (db : Database) (held : Held) (K : TxKnow) : Change → Prop
  | insert {row : TurnRow} (locked : held (.key (.turn row.id)) .exclusive)
      (absent : db.turns.get row.id = none) (columns : row.Consistent)
      (free : row.status.occupies = true → K.free = some row.payload.resources) :
      TurnWrite db held K (.insertTurn row)
  | update {old : TurnRow} {status : TurnStatus} {payload : Turn}
      (locked : held (.turnRow old.id) .exclusive) (found : db.turns.get old.id = some old)
      (same : old.payload.Same payload) (columns : (old.replaced status payload).Consistent)
      (left : status ≠ .waiting) (why : Replaceable K old status) :
      TurnWrite db held K (.updateTurn (old.replaced status payload))

theorem TurnWrite.grounded {change : Change} (write : TurnWrite db held K change) :
    turnChanges [change] = [change] ∧ ∃ row, Grounded db held change row := by
  cases write with
  | insert locked absent columns free => exact ⟨rfl, _, .insert locked absent columns⟩
  | update locked found same columns left why =>
    exact ⟨rfl, _, .update locked columns left found same⟩

section

variable {s : Sql} {reply : Sql.Reply s} (sound : Sound db held pending K)
  (consistent : db.Consistent) (permitted : K.permits s)
  (locked : ∀ lock, (lock, .exclusive) ∈ s.locks (postgres.applyAll db pending) →
    held lock .exclusive)
  (ran : s.exec (postgres.applyAll db pending) = .ok (reply, changes))

include sound consistent permitted locked ran

/-- What each permitted statement writes of the turns. -/
theorem Sound.turnWrite : turnChanges changes = [] ∨ K.wrote = false ∧
    (K.learn s reply).wrote = true ∧ ∃ change, changes = [change] ∧ TurnWrite db held K change := by
  rcases exec_writes ran with rfl | ⟨change, rfl, writes⟩
  · exact .inl rfl
  -- Nothing has been written before, so what is seen of the turns is committed.
  have seen (unwritten : K.wrote = false) : (postgres.applyAll db pending).Consistent :=
    fun id row => sound.view_turns unwritten ▸ consistent id row
  cases writes with
  | insertTurn row free thread =>
    obtain ⟨unwritten, columns, occupies⟩ := permitted
    have lock := (Writes.insertTurn row free thread).locked (seen unwritten)
    have absent := absent_of_free (seen unwritten) free
    rw [sound.view_turns unwritten] at absent
    exact .inr ⟨unwritten, rfl, _, rfl, .insert (locked _ lock) absent columns occupies⟩
  | updateTurn id status payload old found free =>
    obtain ⟨unwritten, claimed, known, rfl, same, rfl, running, again⟩ := permitted
    have lock := (Writes.updateTurn _ _ payload old found free).locked (seen unwritten)
    rw [sound.view_turns unwritten] at found
    obtain ⟨-, row, stands, rfl⟩ := sound.claimed _ known
    obtain rfl := Option.some.inj (stands.symm.trans found)
    obtain ⟨rowID, columns⟩ := consistent _ row found
    refine .inr ⟨unwritten, rfl, _, rfl, .update (locked _ lock) (rowID.symm ▸ found) same
      (columns.update same) (fun waiting => ?_) (.inl ⟨columns.status ▸ running, fun unfinished => ?_⟩)⟩
    · have queued := (again (by rw [waiting]; rfl)).1
      cases waiting.symm.trans queued
    · obtain ⟨-, env, expected, retry, called, sameID⟩ := again unfinished
      exact ⟨env, expected, retry, called, columns.id.symm.trans sameID⟩
  | activateTurn id old found free =>
    obtain ⟨unwritten, t, called, rfl, resources, waiting⟩ := permitted
    have lock := (Writes.activateTurn _ old found free).locked (seen unwritten)
    rw [sound.view_turns unwritten] at found
    obtain ⟨rowID, columns⟩ := consistent _ old found
    have same : old.payload.Same { old.payload with status := .queued } :=
      ⟨rfl, rfl, rfl, rfl, rfl, rfl, rfl⟩
    exact .inr ⟨unwritten, rfl, _, rfl, .update (locked _ lock) (rowID.symm ▸ found) same
      (columns.update same) (by simp) (.inr (.inl ⟨t, called, rowID, resources, waiting⟩))⟩
  | recordRun turn uid old found =>
    have lock := (Writes.recordRun turn uid old found).locked (seen permitted)
    obtain ⟨present, -, -, occupies, -⟩ := recordable_iff.mp found
    rw [sound.view_turns permitted] at present
    obtain ⟨rowID, columns⟩ := consistent _ old present
    have same : old.payload.Same { old.payload with runUID := uid } :=
      ⟨rfl, rfl, rfl, rfl, rfl, rfl, rfl⟩
    exact .inr ⟨permitted, rfl, _, rfl, .update (locked _ lock) (rowID.symm ▸ present) same
      ⟨columns.id, columns.threadID, columns.ns, columns.requestID, columns.status⟩
      (occupies_ne_waiting occupies) (.inr (.inr occupies))⟩
  | _ => exact .inl rfl

/-- The one written turn was written before, or just now. -/
theorem Sound.lastWrite {change : Change} (only : turnChanges (pending ++ changes) = [change]) :
    turnChanges pending = [change] ∨ TurnWrite db held K change := by
  rw [turnChanges_append] at only
  rcases sound.turnWrite consistent permitted locked ran with none | ⟨unwritten, -, now, rfl, write⟩
  · rw [none, append_nil] at only
    exact .inl only
  · rw [sound.unwritten unwritten, nil_append, write.grounded.1] at only
    exact .inr (singleton_inj.mp only ▸ write)

/-- Each statement that the contract permits leaves a transaction sound. -/
theorem Sound.step : Sound db held (pending ++ changes) (K.learn s reply) := by
  have write := sound.turnWrite consistent permitted locked ran
  refine ⟨fun unwritten => ?_, ?_, fun name known => ?_, fun payload known => ?_⟩
  · rcases write with none | ⟨-, wrote, -⟩
    · rw [turnChanges_append, none, append_nil]
      exact sound.unwritten (unwritten_of_learn unwritten)
    · cases unwritten.symm.trans wrote
  · rw [turnChanges_append]
    rcases write with none | ⟨unwritten, -, change, rfl, write⟩
    · rw [none, append_nil]
      exact sound.written
    · rw [sound.unwritten unwritten, nil_append, write.grounded.1]
      obtain ⟨row, grounded⟩ := write.grounded.2
      exact .inr ⟨change, row, rfl, grounded⟩
  · cases s with
    | advisoryLock other =>
      rcases mem_cons.mp known with rfl | earlier
      · exact locked _ (.head _)
      · exact sound.advised name earlier
    | _ => exact sound.advised name known
  · cases s with
    | selectTurn id threadID ns =>
      cases reply with
      | none => exact sound.claimed payload known
      | some read =>
        obtain rfl := Option.some.inj known
        -- The row that was read is a committed one, and its lock is held.
        have answered : ((postgres.applyAll db pending).turn id threadID ns).map (·.payload) = some read :=
          (Prod.mk.inj (Except.ok.inj ran)).1
        obtain ⟨row, there, rfl⟩ := Option.map_eq_some_iff.mp answered
        have found : db.turns.get id = some row := by
          rw [← sound.view_turns permitted]
          exact (Option.filter_eq_some_iff.mp there).1
        obtain ⟨rowID, columns⟩ := consistent id row found
        rw [columns.id.trans rowID]
        refine ⟨locked _ ?_, row, found, rfl⟩
        simp [Sql.locks, there]
    | _ => exact sound.claimed payload known

end

variable {pending' : List Change} {K' : TxKnow} {change : Change}

/-- A turn that somebody else has locked is not the one that is written. -/
theorem Sound.locked_stays {id : String} (other : Sound db held' pending' K')
    (apart : ∀ lock, held lock .exclusive → held' lock .exclusive → False)
    (locked : held (.turnRow id) .exclusive) (present : db.turns.get id ≠ none) :
    (postgres.applyAll db pending').turns.get id = db.turns.get id := by
  rcases other.commit_turns with same | ⟨change, row, grounded, -, turns⟩
  · rw [same]
  · rw [turns, get_put_of_ne]
    rintro rfl
    cases grounded with
    | insert _ absent => exact present absent
    | update theirs => exact apart _ locked theirs

/-- What a transaction knows survives the commit of another one. -/
theorem Sound.commit_other (sound : Sound db held pending K) (other : Sound db held' pending' K')
    (apart : ∀ lock, held lock .exclusive → held' lock .exclusive → False) :
    Sound (postgres.applyAll db pending') held pending K := by
  have stays {id : String} {mine : TurnRow} (lock : held (.turnRow id) .exclusive)
      (found : db.turns.get id = some mine) :
      (postgres.applyAll db pending').turns.get id = some mine :=
    (other.locked_stays apart lock (by simp [found])).trans found
  refine ⟨sound.unwritten, ?_, sound.advised, fun payload known => ?_⟩
  · refine sound.written.imp_right fun ⟨mine, row, only, known⟩ => ⟨mine, row, only, ?_⟩
    cases known with
    | insert lock absent columns =>
      refine .insert lock ?_ columns
      rcases other.commit_turns with same | ⟨change, new, grounded, -, turns⟩
      · rwa [same]
      · rwa [turns, get_put_of_ne]
        -- Nobody else is inserting this turn, and it is not there to be updated.
        intro written
        cases grounded with
        | insert theirs => exact apart _ lock (written ▸ theirs)
        | update _ _ _ found => cases absent.symm.trans (written ▸ found)
    | update lock columns left found same => exact .update lock columns left (stays lock found) same
  · obtain ⟨lock, mine, found, same⟩ := sound.claimed payload known
    exact ⟨lock, mine, stays lock found, same⟩

omit [UUIDs] in
theorem Grounded.consistent (grounded : Grounded db held change row) : row.Consistent := by
  cases grounded with
  | insert _ _ columns | update _ columns => exact columns

omit [UUIDs] in
theorem Grounded.writes (grounded : Grounded db held change row) : change.turnRow? = some row := by
  cases grounded <;> rfl

omit [UUIDs] in
/-- A written turn that was there before is the same turn, and it does not wait. -/
theorem Grounded.same {row old : TurnRow} (grounded : Grounded db held change row)
    (before : db.turns.get row.id = some old) :
    old.payload.Same row.payload ∧ row.status ≠ .waiting := by
  cases grounded with
  | insert _ absent => cases absent.symm.trans before
  | update _ _ left found same =>
    exact ⟨Option.some.inj (found.symm.trans before) ▸ same, left⟩

theorem Sound.commit_consistent (sound : Sound db held pending K) (consistent : db.Consistent) :
    (postgres.applyAll db pending).Consistent := by
  rcases sound.commit_turns with same | ⟨change, row, grounded, -, turns⟩
  · exact fun id row => same ▸ consistent id row
  · intro id found present
    rw [turns] at present
    rcases get_put_cases present with ⟨rfl, rfl⟩ | ⟨-, before⟩
    · exact ⟨rfl, grounded.consistent⟩
    · exact consistent id found before

theorem Sound.commit_evolves (sound : Sound db held pending K) :
    Evolves db (postgres.applyAll db pending) := by
  refine ⟨fun id row found => ?_⟩
  rcases sound.commit_turns with same | ⟨change, new, grounded, -, turns⟩
  · exact ⟨row, same ▸ found, .refl _, fun waiting => waiting⟩
  · rw [turns]
    by_cases written : id = new.id
    · subst written
      obtain ⟨same, status⟩ := grounded.same found
      exact ⟨new, get_put_self .., same, fun waiting => absurd waiting status⟩
    · exact ⟨row, by rwa [get_put_of_ne _ _ written], .refl _, fun waiting => waiting⟩

end Soundness

section Runs

variable {Tid : Type} [DecidableEq Tid] {init : Database → Prop}
  {good : ChatState Tid → ChatMove Tid → Prop} {st : ChatState Tid}

/-- What a call knows before its first statement. -/
abbrev TxKnow.start (op : Op) : TxKnow :=
  { op }

/-- What a transaction in flight knows. -/
abbrev know (s : Session Op Sql Sql.Reply Change) : TxKnow :=
  txContract.know (TxKnow.start s.op) s.seen

/-- Two transactions never hold one lock exclusively. -/
theorem held_apart {tid tid' : Tid} (reached : chatStore.Reaches init good st)
    (distinct : tid ≠ tid') (lock : Lock) (mine : st.held tid lock .exclusive)
    (theirs : st.held tid' lock .exclusive) : False := by
  cases reached.exclusion mine theirs distinct

/-- In every reachable state the turns are consistent and every transaction is sound. -/
theorem chat_sound (initially : ∀ db, init db → db.Consistent)
    (reached : chatStore.Reaches init good st) :
    st.committed.Consistent ∧ ∀ tid s, st.sessions tid = some s →
      (txContract.Conforms (know s) s.code fun _ _ => True) ∧
      Sound st.committed (st.held tid) s.pending (know s) := by
  refine reached.session_invariant (C := txContract) TxKnow.start op_conforms
    (L := fun db held s K => Sound db held s.pending K)
    (fun _ _ _ _ _ _ _ _ _ => trivial) (fun db held held' s K more sound => sound.mono more) initially
    ?_ ?_ ?_
  · intro st tid op _ _ _
    refine ⟨fun _ => rfl, .inl rfl, fun name member => ?_, fun payload known => ?_⟩
    · cases member
    · cases known
  · intro st tid s stmt rest reply changes _ _ _ _ consistent sound permitted ready ran
    exact sound.step consistent permitted.1 (fun lock needs => Store.ready_exclusive ready needs) ran
  · intro st tid s reached _ _ _ consistent sound
    refine ⟨sound.commit_consistent consistent, fun other p distinct _ theirs => ?_⟩
    exact theirs.commit_other sound (held_apart reached distinct)

/-- Every thread is stored under its own identity, which has no white space around it. -/
def Keyed (db : Database) : Prop :=
  ∀ id thread, db.threads.get id = some thread → thread.id = id ∧ Text.trimSpace id = id

/-- A thread that is written has such an identity. -/
def Change.keyed : Change → Prop
  | .insertThread thread | .updateThread thread => Text.trimSpace thread.id = thread.id
  | _ => True

omit [UUIDs] in
/-- Such changes keep the threads under their identities. -/
theorem Keyed.applyAll {db : Database} (keyed : Keyed db)
    (written : ∀ change ∈ changes, change.keyed) : Keyed (postgres.applyAll db changes) := by
  induction changes generalizing db with
  | nil => exact keyed
  | cons change changes ih =>
    refine ih ?_ fun later member => written later (.tail _ member)
    have now := written change (.head _)
    cases change with
    | insertThread thread | updateThread thread =>
      intro id found present
      rcases get_put_cases present with ⟨rfl, rfl⟩ | ⟨-, before⟩
      · exact ⟨rfl, now⟩
      · exact keyed id found before
    | _ => exact keyed

/-- In every reachable state, every transaction sees the threads under their identities. -/
theorem chat_keyed (initially : ∀ db, init db → Keyed db)
    (reached : chatStore.Reaches init good st) {tid : Tid} {s : Session Op Sql Sql.Reply Change}
    (found : st.sessions tid = some s) : Keyed (chatStore.view st s) := by
  have invariant := reached.session_invariant (C := txContract) TxKnow.start op_conforms
    (G := Keyed) (L := fun _ _ s _ => ∀ change : Change, change ∈ s.pending → change.keyed)
    (fun _ _ _ _ _ _ _ _ _ => trivial) (fun _ _ _ _ _ _ written => written) initially
    (fun _ _ _ _ _ _ => by simp) ?_ ?_
  · exact invariant.1.applyAll (invariant.2 tid s found).2
  · intro st tid s stmt rest reply changes _ _ _ _ keyed written permitted _ ran change member
    rcases mem_append.mp member with earlier | now
    · exact written change earlier
    · -- A thread is written with a checked identity, or with the one it has.
      rcases exec_writes ran with none | ⟨written', only, writes⟩
      · rw [none] at now
        cases now
      · rw [only] at now
        obtain rfl := mem_singleton.mp now
        cases writes with
        | insertThread thread free => exact permitted.1
        | touchThread id title updatedAt old present =>
          obtain ⟨same, trimmed⟩ := keyed.applyAll written id old present
          exact same.symm ▸ trimmed
        | _ => trivial
  · intro st tid s _ _ _ _ keyed written
    exact ⟨keyed.applyAll written, fun _ _ _ _ theirs => theirs⟩

end Runs

end AnvilAgents.Chat
