import AnvilAgents.Chat.Normalize
import AnvilAgents.Lib.Table
import AnvilAgents.Lib.Transaction

/-! The tables of the chat schema, and the SQL statements that the Postgres store sends. -/

namespace AnvilAgents.Chat

open Transaction

/-- A row of the turns table; the payload repeats the other columns. -/
structure TurnRow where
  id : String
  threadID : String
  ns : String
  requestID : String
  status : TurnStatus
  payload : Turn
  createdAt : Time

/-- The tables; messages are in the order in which they were inserted. -/
structure Database where
  threads : Table String Thread
  messages : List Message
  turns : Table String TurnRow
  standing : Table (String × String) String

namespace Database

def messagesOf (db : Database) (threadID : String) : List Message :=
  db.messages.filter (·.threadID = threadID)

/-- The largest sequence number of a thread, or zero. -/
def maxSequence (db : Database) (threadID : String) : Nat :=
  ((db.messagesOf threadID).map (·.sequence)).foldr max 0

/-- Some turn meets a condition. -/
def anyTurn (db : Database) (check : TurnRow → Bool) : Bool :=
  db.turns.values.any check

end Database

/-- Whether a row needs the profile or one of the lock keys. -/
def TurnRow.needs (row : TurnRow) (profileName : String) (lockKeys : List String) : Bool :=
  row.payload.profileName = profileName || row.payload.lockKeys.any (lockKeys.contains ·)

inductive IndexKey where
  | thread (id : String)
  | standing (ns profileName : String)
  | message (id : String)
  | sequence (threadID : String) (sequence : Nat)
  | turn (id : String)
  | request (threadID requestID : String)
  /-- One occupying turn for each thread. -/
  | activeThread (threadID : String)
  /-- One unfinished turn for each thread. -/
  | unfinishedThread (threadID : String)
  /-- One occupying turn for each profile. -/
  | activeProfile (ns profileName : String)
deriving DecidableEq

/-- The keys under which the unique indexes hold a turn, in the order of the indexes. -/
def TurnRow.keys (row : TurnRow) : List IndexKey :=
  [.turn row.id, .request row.threadID row.requestID] ++
    (if row.status.occupies then [.activeThread row.threadID] else []) ++
    (if row.status.unfinished then [.unfinishedThread row.threadID] else []) ++
    (if row.status.occupies then [.activeProfile row.ns row.payload.profileName] else [])

/-- The keys under which the unique indexes hold a message. -/
def messageKeys (m : Message) : List IndexKey :=
  [.message m.id, .sequence m.threadID m.sequence]

/-- A key is taken by a turn, other than the one that an update replaces. -/
def Database.turnKeyTaken (db : Database) (replaced : Option String) (key : IndexKey) : Bool :=
  db.anyTurn fun row => replaced ≠ some row.id && row.keys.contains key

/-- A key is taken by a message. -/
def Database.messageKeyTaken (db : Database) (key : IndexKey) : Bool :=
  db.messages.any fun m => (messageKeys m).contains key

/-- What a transaction waits for: advisory locks, rows, and keys of rows not yet committed. -/
inductive Lock where
  | advisory (name : String)
  | threadRow (id : String)
  | turnRow (id : String)
  | messageRow (id : String)
  | key (key : IndexKey)
deriving DecidableEq

/-- One row changed. -/
inductive Change where
  | insertThread (thread : Thread)
  | updateThread (thread : Thread)
  | insertMessage (message : Message)
  | updateMessage (message : Message)
  | insertTurn (row : TurnRow)
  | updateTurn (row : TurnRow)
  | insertStanding (ns profileName threadID : String)

def Change.apply : Change → Database → Database
  | .insertThread thread, db | .updateThread thread, db =>
    { db with threads := db.threads.put thread.id thread }
  | .insertMessage message, db => { db with messages := db.messages ++ [message] }
  | .updateMessage message, db =>
    { db with messages := db.messages.map fun m => if m.id = message.id then message else m }
  | .insertTurn row, db | .updateTurn row, db => { db with turns := db.turns.put row.id row }
  | .insertStanding ns profileName threadID, db =>
    { db with standing := db.standing.put (ns, profileName) threadID }

inductive Sql where
  | advisoryLock (name : String)
  | selectThread (ns id : String) (forUpdate : Bool)
  | selectThreads (filter : ThreadFilter)
  | insertThread (thread : Thread)
  | touchThread (id title : String) (updatedAt : Time)
  | selectStanding (ns profileName : String)
  | selectEligible (ns profileName : String)
  | insertStanding (ns profileName threadID : String)
  | selectMessage (id : String)
  | selectMessages (threadID : String)
  | maxSequence (threadID : String)
  | insertMessage (message : Message)
  | repairMessage (ns : String) (original repaired : Message)
  | selectRequest (threadID requestID : String)
  /-- Lock one turn of a thread, and of a namespace when one is given. -/
  | selectTurn (id threadID : String) (ns : Option String)
  | selectTurnStatus (id : String)
  | selectTurns (ns threadID : String)
  | selectPending (limit : Nat)
  /-- Whether the thread has an unfinished turn, or another turn occupies what this one needs. -/
  | selectConflict (ns threadID profileName : String) (deferred : Bool) (lockKeys : List String)
  /-- Whether a turn occupies the profile or one of the locks. -/
  | selectBusy (ns profileName : String) (lockKeys : List String)
  | insertTurn (row : TurnRow)
  | updateTurn (id : String) (status : TurnStatus) (payload : Turn)
  | activateTurn (id : String)
  | recordRun (turn : Turn) (uid : String)

/-- What a statement returns: rows, or the number of rows it changed. -/
@[reducible]
def Sql.Reply : Sql → Type
  | .selectThread _ _ _ | .selectStanding _ _ | .selectEligible _ _ => Option Thread
  | .selectThreads _ => List Thread
  | .selectMessage _ => Option Message
  | .selectMessages _ => List Message
  | .maxSequence _ => Nat
  | .selectRequest _ _ | .selectTurn _ _ _ => Option Turn
  | .selectTurnStatus _ => Option TurnStatus
  | .selectTurns _ _ | .selectPending _ => List Turn
  | .selectConflict _ _ _ _ _ | .selectBusy _ _ _ => Bool
  | .repairMessage _ _ _ | .recordRun _ _ => Nat
  | .advisoryLock _ | .insertThread _ | .touchThread _ _ _ | .insertStanding _ _ _
  | .insertMessage _ | .insertTurn _ | .updateTurn _ _ _ | .activateTurn _ => Unit

namespace Database

variable (db : Database)

def thread (ns id : String) : Option Thread :=
  (db.threads.get id).filter (·.ns = ns)

/-- A turn of a thread, and of a namespace when one is given. -/
def turn (id threadID : String) (ns : Option String) : Option TurnRow :=
  (db.turns.get id).filter fun row => row.threadID = threadID && ns.all (· = row.ns)

def request (threadID requestID : String) : Option TurnRow :=
  db.turns.values.find? fun row => row.threadID = threadID && row.requestID = requestID

/-- Whether one turn must wait for another, as a new turn finds out. -/
def conflict (ns threadID profileName : String) (deferred : Bool) (lockKeys : List String) : Bool :=
  db.anyTurn fun row => row.ns = ns &&
    ((row.threadID = threadID && row.status.unfinished) ||
      (!deferred && row.needs profileName lockKeys && row.status.occupies))

/-- Whether a turn occupies the profile or one of the locks. -/
def busy (ns profileName : String) (lockKeys : List String) : Bool :=
  db.anyTurn fun row => row.ns = ns && row.needs profileName lockKeys && row.status.occupies

/-- The row that an attempt's run is recorded in. -/
def recordable (turn : Turn) (uid : String) : Option TurnRow :=
  (db.turns.get turn.id).filter fun row =>
    row.ns = turn.ns && row.threadID = turn.threadID && row.status.occupies &&
      row.payload.runName = turn.runName && row.payload.retryCount = turn.retryCount &&
      (row.payload.runUID = "" || row.payload.runUID = uid)

/-- The message that a repair replaces. -/
def repairable (ns : String) (original : Message) : Bool :=
  (db.thread ns original.threadID).isSome && db.messages.any fun m =>
    m.threadID = original.threadID && m.id = original.id && m.role = .assistant &&
      m.content = original.content && m.metadata = original.metadata

/-- The row with its turn activated; the payload repeats the status. -/
def activated (id : String) : Option TurnRow :=
  (db.turns.get id).map fun row =>
    { row with status := .queued, payload := { row.payload with status := .queued } }

/-- The threads of a namespace, of a profile and a mode when they are given, the newest first. -/
def listThreads (filter : ThreadFilter) : List Thread :=
  (((db.threads.values.filter fun thread => thread.ns = filter.ns &&
      (filter.profileName = "" || thread.profileName = filter.profileName) &&
      (filter.mode = .unset || thread.mode = filter.mode)).insertionSort
        fun a b => b.updatedAt ≤ a.updatedAt).take filter.limit.toNat)

/-- The newest thread that may be the standing conversation of a profile. -/
def eligible (ns profileName : String) : Option Thread :=
  ((db.threads.values.filter fun thread => thread.ns = ns && thread.profileName = profileName &&
      standingEligible thread).insertionSort fun a b =>
        b.updatedAt < a.updatedAt ∨ (b.updatedAt = a.updatedAt ∧ a.id ≤ b.id)).head?

def listTurns (ns threadID : String) : List Turn :=
  ((db.turns.values.filter fun row => row.ns = ns && row.threadID = threadID).insertionSort
    fun a b => a.createdAt ≤ b.createdAt).map (·.payload)

/-- The unfinished turns, those that wait last, and the oldest first. -/
def pendingTurns (limit : Nat) : List Turn :=
  (((db.turns.values.filter (·.status.unfinished)).insertionSort fun a b =>
    (a.status ≠ .waiting ∧ b.status = .waiting) ∨
      ((a.status = .waiting ↔ b.status = .waiting) ∧ a.createdAt ≤ b.createdAt)).take limit).map
        (·.payload)

end Database

/-- The locks on keys of a new row, up to the first key that a row holds already. -/
def keyLocks (taken : IndexKey → Bool) (keys : List IndexKey) : List (Lock × Mode) :=
  (keys.takeWhile fun key => !taken key).map fun key => (.key key, .exclusive)

/-- The locks of a new row of a thread; a reference keeps the row of the thread from being removed. -/
def insertLocks (taken : IndexKey → Bool) (keys : List IndexKey) (threadID : String) :
    List (Lock × Mode) :=
  keyLocks taken keys ++ if keys.any taken then [] else [(.threadRow threadID, .shared)]

/-- The locks that a changed turn needs: its row, and the keys that it did not have. -/
def updateLocks (db : Database) (old new : TurnRow) : List (Lock × Mode) :=
  (.turnRow old.id, .exclusive) ::
    keyLocks (db.turnKeyTaken (some old.id)) (new.keys.filter fun key => !old.keys.contains key)

def Sql.locks (s : Sql) (db : Database) : List (Lock × Mode) :=
  match s with
  | .advisoryLock name => [(.advisory name, .exclusive)]
  | .selectThread ns id true =>
    if (db.thread ns id).isSome then [(.threadRow id, .exclusive)] else []
  | .insertThread thread => keyLocks (fun _ => (db.threads.get thread.id).isSome) [.thread thread.id]
  | .touchThread id _ _ => if (db.threads.get id).isSome then [(.threadRow id, .exclusive)] else []
  | .insertStanding ns profileName threadID =>
    insertLocks (fun _ => (db.standing.get (ns, profileName)).isSome) [.standing ns profileName]
      threadID
  | .insertMessage message =>
    insertLocks db.messageKeyTaken (messageKeys message) message.threadID
  | .insertTurn row => insertLocks (db.turnKeyTaken none) row.keys row.threadID
  | .repairMessage ns original _ =>
    if db.repairable ns original then [(.messageRow original.id, .exclusive)] else []
  | .selectTurn id threadID ns =>
    if (db.turn id threadID ns).isSome then [(.turnRow id, .exclusive)] else []
  | .updateTurn id status payload =>
    match db.turns.get id with
    | some old => updateLocks db old { old with status, payload }
    | none => []
  | .activateTurn id =>
    match db.turns.get id, db.activated id with
    | some old, some new => updateLocks db old new
    | _, _ => []
  | .recordRun turn uid =>
    if (db.recordable turn uid).isSome then [(.turnRow turn.id, .exclusive)] else []
  | _ => []

/-- Replace a turn, unless one of its keys belongs to another. -/
def replaceTurn (db : Database) (new : TurnRow) : Except ChatError (List Change) :=
  if new.keys.any (db.turnKeyTaken (some new.id)) then .error .uniqueViolation
  else .ok [.updateTurn new]

/-- What a statement returns and changes. -/
def Sql.exec (s : Sql) (db : Database) : Except ChatError (Sql.Reply s × List Change) :=
  match s with
  | .advisoryLock _ => .ok ((), [])
  | .selectThread ns id _ => .ok (db.thread ns id, [])
  | .selectThreads filter => .ok (db.listThreads filter, [])
  | .insertThread thread =>
    if (db.threads.get thread.id).isSome then .error .uniqueViolation
    else .ok ((), [.insertThread thread])
  | .touchThread id title updatedAt =>
    match db.threads.get id with
    | some thread => .ok ((), [.updateThread { thread with title, updatedAt }])
    | none => .ok ((), [])
  | .selectStanding ns profileName =>
    .ok ((db.standing.get (ns, profileName)).bind db.threads.get, [])
  | .selectEligible ns profileName => .ok (db.eligible ns profileName, [])
  | .insertStanding ns profileName threadID =>
    if (db.standing.get (ns, profileName)).isSome then .error .uniqueViolation
    else if (db.threads.get threadID).isNone then .error .foreignKeyViolation
    else .ok ((), [.insertStanding ns profileName threadID])
  | .selectMessage id => .ok (db.messages.find? (·.id = id), [])
  | .selectMessages threadID =>
    .ok ((db.messagesOf threadID).insertionSort fun a b => a.sequence ≤ b.sequence, [])
  | .maxSequence threadID => .ok (db.maxSequence threadID, [])
  | .insertMessage message =>
    if (messageKeys message).any db.messageKeyTaken then .error .uniqueViolation
    else if (db.threads.get message.threadID).isNone then .error .foreignKeyViolation
    else .ok ((), [.insertMessage message])
  | .repairMessage ns original repaired =>
    if db.repairable ns original then
      match db.messages.find? (·.id = original.id) with
      | some m =>
        .ok ((1 : Nat),
          [.updateMessage { m with content := repaired.content, metadata := repaired.metadata }])
      | none => .ok ((0 : Nat), [])
    else .ok ((0 : Nat), [])
  | .selectRequest threadID requestID =>
    .ok ((db.request threadID requestID).map (·.payload), [])
  | .selectTurn id threadID ns => .ok ((db.turn id threadID ns).map (·.payload), [])
  | .selectTurnStatus id => .ok ((db.turns.get id).map (·.status), [])
  | .selectTurns ns threadID => .ok (db.listTurns ns threadID, [])
  | .selectPending limit => .ok (db.pendingTurns limit, [])
  | .selectConflict ns threadID profileName deferred lockKeys =>
    .ok (db.conflict ns threadID profileName deferred lockKeys, [])
  | .selectBusy ns profileName lockKeys => .ok (db.busy ns profileName lockKeys, [])
  | .insertTurn row =>
    if row.keys.any (db.turnKeyTaken none) then .error .uniqueViolation
    else if (db.threads.get row.threadID).isNone then .error .foreignKeyViolation
    else .ok ((), [.insertTurn row])
  | .updateTurn id status payload =>
    match db.turns.get id with
    | some row => (replaceTurn db { row with status, payload }).map fun changes => ((), changes)
    | none => .ok ((), [])
  | .activateTurn id =>
    match db.activated id with
    | some row => (replaceTurn db row).map fun changes => ((), changes)
    | none => .ok ((), [])
  | .recordRun turn uid =>
    match db.recordable turn uid with
    | some row =>
      .ok ((1 : Nat), [.updateTurn { row with payload := { row.payload with runUID := uid } }])
    | none => .ok ((0 : Nat), [])

/-- The database engine, as far as the chat needs one. -/
def postgres : Engine Sql Sql.Reply Database Change Lock ChatError where
  apply := Change.apply
  locks := Sql.locks
  exec := Sql.exec
  stopped := .noRows

end AnvilAgents.Chat
