import AnvilAgents.Chat.Database

/-! The operations of the Postgres store, each one transaction. -/

namespace AnvilAgents.Chat

open Conc Transaction Sql

variable [UUIDs]

/-- A transaction: an error rolls it back, and everything else commits it. -/
abbrev Tx := ExceptT ChatError (Prog Sql Reply)

/-- Send one statement. -/
def sql (s : Sql) : Tx (Reply s) :=
  ExceptT.lift (Prog.ask s)

/-- Go on with a value that was checked before. -/
def check {α : Type} (value : Except ChatError α) : Tx α :=
  ExceptT.mk (pure value)

/-- A row that must be there. -/
def require {α : Type} (err : ChatError) : Option α → Tx α
  | some value => return value
  | none => throw err

namespace PostgresStore

/-- Take advisory locks, one by one. -/
def lockAll : List String → Tx Unit
  | [] => return ()
  | name :: names => do
    sql (.advisoryLock name)
    lockAll names

/-- The names under which the profile and the lock keys of a turn are locked, in their order. -/
def resourceNames (ns profileName : String) (lockKeys : List String) : List String :=
  ((("profile:" ++ profileName) :: lockKeys).insertionSort (· ≤ ·)).map fun key => ns ++ "/" ++ key

variable (env : Env) (t : Turn)

def lockTurnResources : Tx Unit :=
  lockAll (resourceNames t.ns t.profileName t.lockKeys)

/-- Append a message to a thread whose row is locked. -/
def insertTurnMessage (thread : Thread) (m : MessageOf RawMetadata) : Tx Message := do
  let last : Nat ← sql (.maxSequence thread.id)
  let m ← check (normalizeMessage { m with threadID := thread.id, sequence := last + 1 } env.now
    (env.newUUID 1))
  sql (.insertMessage m)
  -- The first user message gives the thread its title.
  let title := if (thread.title = "" ∨ thread.title = defaultThreadTitle) ∧ m.role = .user then
    titleFromContent m.content else thread.title
  sql (.touchThread thread.id title env.now)
  return m

def newRow (now : Time) : TurnRow :=
  { id := t.id, threadID := t.threadID, ns := t.ns, requestID := t.requestID, status := t.status,
    payload := stored t, createdAt := now }

/-- What a repeated request gets: the turn that was accepted, if the content is the same. -/
def replayTurn (existing : Turn) (message : Message) (thread : Thread) :
    Tx (Turn × Message × Thread) := do
  let found : Option Message ← sql (.selectMessage existing.userMessageID)
  let user ← require .noRows found
  if user.content ≠ message.content then throw .requestConflict
  else return (existing, user, thread)

/-- Whether the conversation is where the caller saw it. -/
def checkSequence : Tx Unit :=
  match t.expectedSequence with
  | none => return ()
  | some expected => do
    let current : Nat ← sql (.maxSequence t.threadID)
    if (current : Int) ≠ expected then throw .conversationChanged else return ()

/-- Store a new turn with its message, unless something stands against it. -/
def acceptTurn (message : Message) (thread : Thread) : Tx (Turn × Message × Thread) := do
  let conflict : Bool ← sql (.selectConflict t.ns t.threadID t.profileName t.deferred t.lockKeys)
  if conflict then throw .turnActive
  else
    checkSequence t
    let message ← insertTurnMessage env thread message.raw
    sql (.insertTurn (newRow t env.now))
    return (t, message, thread)

/-- Accept a message and queue the turn that answers it. -/
def queueTurn (m : MessageOf RawMetadata) : Tx (Turn × Message × Thread) := do
  let (t, message) ← check (prepareTurn t m env)
  lockTurnResources t
  let found : Option Thread ← sql (.selectThread t.ns t.threadID true)
  let thread ← require (.notFound "") found
  let existing : Option Turn ← sql (.selectRequest t.threadID t.requestID)
  match existing with
  | some existing => replayTurn existing message thread
  | none => acceptTurn env t message thread

/-- End a turn with the message that answers it; a turn that has ended stays as it is. -/
def completeTurn (m : MessageOf RawMetadata) : Tx Unit := do
  if active t then throw (.invalid "completion must be terminal")
  else
    let found : Option Thread ← sql (.selectThread t.ns t.threadID true)
    let thread ← require .noRows found
    let found : Option Turn ← sql (.selectTurn t.id t.threadID none)
    let old ← require .noRows found
    if !active old then return ()
    else if !sameTurnAttempt old t then throw .requestConflict
    else
      let _ ← insertTurnMessage env thread m
      sql (.updateTurn old.id t.status
        { old with status := t.status, error := t.error, delegates := t.delegates })

/-- Bind the current attempt of a turn to the UID of its run. -/
def recordRun (uid : String) : Tx Unit := do
  let rows : Nat ← sql (.recordRun t uid)
  if rows ≠ 1 then throw .requestConflict else return ()

/-- Let a waiting turn run, unless another one occupies what it needs. -/
def activateTurn : Tx Bool := do
  lockTurnResources t
  let found : Option TurnStatus ← sql (.selectTurnStatus t.id)
  let status ← require .noRows found
  if status ≠ .waiting then return status.occupies
  else
    let busy : Bool ← sql (.selectBusy t.ns t.profileName t.lockKeys)
    if busy then return false
    else
      sql (.activateTurn t.id)
      return true

/-- Replace an attempt that never launched by another one. -/
def retryTurn (expected : Turn) (retry : TurnRetry) : Tx Turn := do
  let found : Option Turn ← sql (.selectTurn expected.id expected.threadID (some expected.ns))
  let old ← require (.notFound "") found
  let next ← check (prepareTurnRetry old expected retry env.now)
  sql (.updateTurn next.id next.status next)
  return next

def createThread (thread : ThreadOf RawMetadata) : Tx Thread := do
  let normalized ← check (normalizeThread thread env)
  sql (.insertThread normalized)
  return normalized

/-- Insert messages one after the other, and give the thread a title on the way. -/
def appendAll (env : Env) (thread : Thread) (last index : Nat) :
    List (MessageOf RawMetadata) → Tx (List Message × Thread)
  | [] => return ([], thread)
  | incoming :: messages => do
    let m ← check (normalizeMessage { incoming with threadID := thread.id, sequence := last + 1 }
      env.now (env.newUUID index))
    sql (.insertMessage m)
    let title := if (thread.title = "" ∨ thread.title = defaultThreadTitle) ∧ m.role = .user then
      titleFromContent m.content else thread.title
    let (stored, thread) ← appendAll env { thread with title } (last + 1) (index + 1) messages
    return (m :: stored, thread)

def appendMessages (ns threadID : String) (messages : List (MessageOf RawMetadata)) : Tx
    (List Message × Thread) := do
  let (ns, threadID) ← check (normalizeThreadLookup ns threadID)
  if messages = [] then throw (.invalid "at least one message is required")
  else if messages.length > maxAppendBatch then
    throw (.invalid ("at most " ++ toString maxAppendBatch ++ " messages may be appended at once"))
  else
    let found : Option Thread ← sql (.selectThread ns threadID true)
    let thread ← require (.notFound ("thread " ++ ns ++ "/" ++ threadID)) found
    let last : Nat ← sql (.maxSequence threadID)
    let (stored, thread) ← appendAll env thread last 0 messages
    sql (.touchThread threadID thread.title env.now)
    return (stored, { thread with updatedAt := env.now })

/-- The standing conversation of a profile: the one on record, an eligible one, or a new one. -/
def ensureStandingThread (seed : ThreadOf RawMetadata) : Tx (Thread × Bool) := do
  let seed ← check (normalizeThread seed env)
  if !standingEligible seed then
    throw (.invalid "standing conversations require a direct agent profile")
  else
    sql (.advisoryLock ("chat-standing/" ++ seed.ns ++ "/" ++ seed.profileName))
    let recorded : Option Thread ← sql (.selectStanding seed.ns seed.profileName)
    match recorded with
    | some thread => return (thread, false)
    | none =>
      let adopted : Option Thread ← sql (.selectEligible seed.ns seed.profileName)
      match adopted with
      | some thread =>
        sql (.insertStanding thread.ns thread.profileName thread.id)
        return (thread, false)
      | none =>
        sql (.insertThread seed)
        sql (.insertStanding seed.ns seed.profileName seed.id)
        return (seed, true)

/-- Replace the body of an assistant message by the reply in its native output. -/
def repairAssistantReply (ns : String) (original : Message) (content format : String) :
    Tx Message := do
  let repaired ← check (repairedAssistant original content format)
  let rows : Nat ← sql (.repairMessage ns original repaired)
  if rows ≠ 1 then throw .requestConflict else return repaired

def getThread (ns id : String) : Tx Thread := do
  let (ns, id) ← check (normalizeThreadLookup ns id)
  let found : Option Thread ← sql (.selectThread ns id false)
  require (.notFound ("thread " ++ ns ++ "/" ++ id)) found

def listThreads (filter : ThreadFilter) : Tx (List Thread) := do
  let filter ← check (normalizeThreadFilter filter)
  sql (.selectThreads filter)

/-- The messages of a thread; they are looked up by the identity as the caller wrote it. -/
def listMessages (ns threadID : String) : Tx (List Message) := do
  let _ ← getThread ns threadID
  sql (.selectMessages threadID)

/-- The turns of a thread; they are looked up by the identity as the caller wrote it. -/
def listTurns (ns id : String) : Tx (List Turn) := do
  let _ ← getThread ns id
  sql (.selectTurns ns id)

def pendingTurns (limit : Nat) : Tx (List Turn) :=
  sql (.selectPending limit)

end PostgresStore

/-- A call of the store that runs beside others. -/
inductive Op where
  | queueTurn (env : Env) (t : Turn) (m : MessageOf RawMetadata)
  | activateTurn (t : Turn)
  | recordRun (t : Turn) (uid : String)
  | retryTurn (env : Env) (expected : Turn) (retry : TurnRetry)
  | completeTurn (env : Env) (t : Turn) (m : MessageOf RawMetadata)
  | ensureStandingThread (env : Env) (seed : ThreadOf RawMetadata)

/-- A transaction as the database sees it: statements, and whether it commits at the end. -/
def Tx.commits {α : Type} (p : Tx α) : Prog Sql Reply Bool :=
  p.run >>= fun result => return result.isOk

def Op.program : Op → Prog Sql Reply Bool
  | .queueTurn env t m => (PostgresStore.queueTurn env t m).commits
  | .activateTurn t => (PostgresStore.activateTurn t).commits
  | .recordRun t uid => (PostgresStore.recordRun t uid).commits
  | .retryTurn env expected retry => (PostgresStore.retryTurn env expected retry).commits
  | .completeTurn env t m => (PostgresStore.completeTurn env t m).commits
  | .ensureStandingThread env seed => (PostgresStore.ensureStandingThread env seed).commits

/-- The committed rows, and the transactions of any number of replicas. -/
abbrev ChatState (Tid : Type) := State Tid Op Sql Reply Database Change Lock

/-- What may happen next to them. -/
abbrev ChatMove (Tid : Type) := Transaction.Move Tid Op

/-- Any number of replicas at work on one database. -/
def chatStore : Store Op Sql Reply Database Change Lock ChatError where
  engine := postgres
  program := Op.program

end AnvilAgents.Chat
