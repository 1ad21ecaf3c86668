import AnvilAgents.Chat.Calls

/-! The calls of the store interface, served one at a time by the store in memory. -/

namespace AnvilAgents.Chat

/-- The orders in which the loops of a call come across the entries of a map: any orders at all. -/
structure MapOrder where
  shuffle : {α : Type} → Nat → List α → List α
  perm : ∀ {α : Type} (loop : Nat) (entries : List α), (shuffle loop entries).Perm entries

/-- The maps of the store; threads, messages and standing conversations have texts as their keys. -/
structure MemoryStore where
  threads : Table String Thread
  messages : Table String (List Message)
  turns : Table String Turn
  standing : Table String String

namespace MemoryStore

def empty : MemoryStore :=
  ⟨.empty, .empty, .empty, .empty⟩

/-- The key of a thread, or of the standing conversation of a profile. -/
def threadKey (ns id : String) : String :=
  ns ++ "/" ++ id

/-- The thread that is no thread. -/
def noThread : Thread :=
  ⟨"", "", "", .unset, "", 0, 0, "", .empty⟩

def messagesAt (s : MemoryStore) (key : String) : List Message :=
  (s.messages.get key).getD []

def putThread (s : MemoryStore) (thread : Thread) : MemoryStore :=
  { s with threads := s.threads.put (threadKey thread.ns thread.id) thread }

variable [UUIDs] (order : MapOrder) (env : Env)

def createThread (thread : ThreadOf RawMetadata) (s : MemoryStore) : Except ChatError
    (Thread × MemoryStore) := do
  let normalized ← normalizeThread thread env
  let key := threadKey normalized.ns normalized.id
  if (s.threads.get key).isSome then
    .error (.invalid ("thread " ++ normalized.id ++ " already exists"))
  else
    return (normalized, { s.putThread normalized with messages := s.messages.put key [] })

def listThreads (filter : ThreadFilter) (s : MemoryStore) : Except ChatError
    (List Thread × MemoryStore) := do
  let filter ← normalizeThreadFilter filter
  let out := (order.shuffle 0 s.threads.values).filter fun thread => thread.ns = filter.ns &&
    (filter.profileName = "" || thread.profileName = filter.profileName) &&
    (filter.mode = .unset || thread.mode = filter.mode)
  return ((out.insertionSort fun a b => b.updatedAt ≤ a.updatedAt).take filter.limit.toNat, s)

def getThread (ns id : String) (s : MemoryStore) : Except ChatError (Thread × MemoryStore) := do
  let (ns, id) ← normalizeThreadLookup ns id
  match s.threads.get (threadKey ns id) with
  | none => .error (.notFound ("thread " ++ ns ++ "/" ++ id))
  | some thread => return (thread, s)

def listMessages (ns threadID : String) (s : MemoryStore) :
    Except ChatError (List Message × MemoryStore) := do
  let (ns, threadID) ← normalizeThreadLookup ns threadID
  match s.threads.get (threadKey ns threadID) with
  | none => .error (.notFound ("thread " ++ ns ++ "/" ++ threadID))
  | some _ => return (s.messagesAt (threadKey ns threadID), s)

/-- Number messages one after the other, and give the thread a title on the way. -/
def appendAll (env : Env) (threadID : String) (thread : Thread) (next index : Nat) :
    List (MessageOf RawMetadata) → Except ChatError (List Message × Thread)
  | [] => return ([], thread)
  | incoming :: messages => do
    let m ← normalizeMessage { incoming with threadID, sequence := next + 1 } env.now
      (env.newUUID index)
    let title := if (thread.title = "" ∨ thread.title = defaultThreadTitle) ∧ m.role = .user then
      titleFromContent m.content else thread.title
    let (stored, thread) ← appendAll env threadID { thread with title } (next + 1) (index + 1)
      messages
    return (m :: stored, thread)

def appendMessages (ns threadID : String) (messages : List (MessageOf RawMetadata))
    (s : MemoryStore) : Except ChatError ((List Message × Thread) × MemoryStore) := do
  let (ns, threadID) ← normalizeThreadLookup ns threadID
  if messages = [] then .error (.invalid "at least one message is required")
  else if messages.length > maxAppendBatch then
    .error (.invalid ("at most " ++ toString maxAppendBatch ++ " messages may be appended at once"))
  else
    let key := threadKey ns threadID
    match s.threads.get key with
    | none => .error (.notFound ("thread " ++ ns ++ "/" ++ threadID))
    | some thread => do
      let existing := s.messagesAt key
      let (stored, thread) ← appendAll env threadID thread existing.length 0 messages
      let thread := { thread with updatedAt := env.now }
      return ((stored, thread), { s with
        threads := s.threads.put key thread
        messages := s.messages.put key (existing ++ stored) })

/-- The turn of a request, with its message when that is still among the messages. -/
def replayed (s : MemoryStore) (key : String) (t old : Turn) : Option (Turn × Message) :=
  if old.threadID = t.threadID ∧ old.requestID = t.requestID then
    ((s.messagesAt key).find? (·.id = old.userMessageID)).map fun user => (old, user)
  else none

/-- Whether a new turn must wait for another one. -/
def obstructs (t old : Turn) : Bool :=
  old.ns = t.ns && ((old.threadID = t.threadID && active old) ||
    (!t.deferred && sharedTurnResource old t && active old && old.status ≠ .waiting))

/-- Store a new turn with its message, unless something stands against it. -/
def acceptTurn (t : Turn) (m : Message) (thread : Thread) (s : MemoryStore) : Except ChatError
    ((Turn × Message × Thread) × MemoryStore) :=
  let key := threadKey t.ns t.threadID
  if (order.shuffle 1 s.turns.values).any (obstructs t) then .error .turnActive
  else if t.expectedSequence.any fun expected => ((s.messagesAt key).length : Int) ≠ expected then
    .error .conversationChanged
  else
    let m := { m with sequence := (s.messagesAt key).length + 1 }
    -- The first message gives the thread its title.
    let title := if thread.title = defaultThreadTitle then titleFromContent m.content
      else thread.title
    let thread := { thread with title, updatedAt := t.createdAt }
    .ok ((t, m, thread), { s with
      threads := s.threads.put key thread
      messages := s.messages.put key (s.messagesAt key ++ [m])
      turns := s.turns.put t.id t })

/-- Accept a message and queue the turn that answers it. -/
def queueTurn (t : Turn) (m : MessageOf RawMetadata) (s : MemoryStore) : Except ChatError
    ((Turn × Message × Thread) × MemoryStore) := do
  let (t, m) ← prepareTurn t m env
  let key := threadKey t.ns t.threadID
  match s.threads.get key with
  | none => .error (.notFound "")
  | some thread =>
    match (order.shuffle 0 s.turns.values).findSome? (s.replayed key t) with
    | some (old, user) =>
      if user.content ≠ m.content then .error .requestConflict else return ((old, user, thread), s)
    | none => acceptTurn order t m thread s

/-- The turns of a thread, the oldest first; the thread is looked up as the caller wrote it. -/
def listTurns (ns id : String) (s : MemoryStore) : Except ChatError (List Turn × MemoryStore) :=
  match s.threads.get (threadKey ns id) with
  | none => .error (.notFound "")
  | some _ =>
    .ok (((order.shuffle 0 s.turns.values).filter fun t => t.ns = ns && t.threadID = id).insertionSort
      fun a b => a.createdAt ≤ b.createdAt, s)

def pendingTurns (limit : Nat) (s : MemoryStore) : Except ChatError (List Turn × MemoryStore) :=
  .ok ((((order.shuffle 0 s.turns.values).filter active).insertionSort
    fun a b => a.createdAt ≤ b.createdAt).take limit, s)

/-- End a turn with the message that answers it; a turn that has ended stays as it is. -/
def completeTurn (t : Turn) (m : MessageOf RawMetadata) (s : MemoryStore) : Except ChatError
    (Unit × MemoryStore) :=
  match s.turns.get t.id with
  | none => .error (.notFound "")
  | some old =>
    if !active old then .ok ((), s)
    else if !sameTurnAttempt old t then .error .requestConflict
    else if active t then .error (.invalid "")
    else do
      let key := threadKey t.ns t.threadID
      let m ← normalizeMessage { m with
        threadID := t.threadID, sequence := (s.messagesAt key).length + 1 } env.now (env.newUUID 1)
      -- Title and time of the thread stay as they are.
      return ((), { s with
        messages := s.messages.put key (s.messagesAt key ++ [m])
        turns := s.turns.put t.id
          { old with status := t.status, error := t.error, delegates := t.delegates } })

/-- Bind the current attempt of a turn to the UID of its run. -/
def recordRun (t : Turn) (uid : String) (s : MemoryStore) : Except ChatError (Unit × MemoryStore) :=
  match s.turns.get t.id with
  | none => .error (.notFound "")
  | some old =>
    if !active old || !sameTurnAttempt old t then .error .requestConflict
    else if old.runUID ≠ "" ∧ old.runUID ≠ uid then .error (.invalid "")
    else .ok ((), { s with turns := s.turns.put t.id { old with runUID := uid } })

/-- Let a waiting turn run, unless another one occupies what it needs. -/
def activateTurn (t : Turn) (s : MemoryStore) : Except ChatError (Bool × MemoryStore) :=
  match s.turns.get t.id with
  | none => .error (.notFound "")
  | some old =>
    if old.status ≠ .waiting then .ok (active old, s)
    else if (order.shuffle 0 s.turns.values).any fun other => other.ns = old.ns &&
        sharedTurnResource other old && active other && other.status ≠ .waiting then .ok (false, s)
    else .ok (true, { s with turns := s.turns.put t.id { old with status := .queued } })

/-- Replace an attempt that never launched by another one. -/
def retryTurn (expected : Turn) (retry : TurnRetry) (s : MemoryStore) : Except ChatError
    (Turn × MemoryStore) :=
  match s.turns.get expected.id with
  | none => .error (.notFound "")
  | some old => do
    let next ← prepareTurnRetry old expected retry env.now
    return (next, { s with turns := s.turns.put next.id next })

/-- Whether a thread takes the place of the one chosen so far. -/
def preferred (chosen candidate : Thread) : Bool :=
  chosen.id = "" || chosen.updatedAt < candidate.updatedAt ||
    (candidate.updatedAt = chosen.updatedAt && candidate.id < chosen.id)

/-- The newest thread that may be the standing conversation of a profile, or no thread. -/
def chosenThread (candidates : List Thread) : Thread :=
  candidates.foldl (fun chosen candidate => if preferred chosen candidate then candidate else chosen)
    noThread

/-- The standing conversation of a profile: the one on record, an eligible one, or a new one. -/
def ensureStandingThread (seed : ThreadOf RawMetadata) (s : MemoryStore) : Except ChatError
    ((Thread × Bool) × MemoryStore) := do
  let seed ← normalizeThread seed env
  if !standingEligible seed then
    .error (.invalid "standing conversations require a direct agent profile")
  else
    let key := threadKey seed.ns seed.profileName
    let recorded := (s.standing.get key).getD ""
    if recorded ≠ "" then
      return (((s.threads.get (threadKey seed.ns recorded)).getD noThread, false), s)
    else
      let chosen := chosenThread ((order.shuffle 0 s.threads.values).filter fun candidate =>
        candidate.ns = seed.ns && candidate.profileName = seed.profileName &&
          standingEligible candidate)
      if chosen.id ≠ "" then
        return ((chosen, false), { s with standing := s.standing.put key chosen.id })
      else if (s.threads.get (threadKey seed.ns seed.id)).isSome then
        .error (.invalid "thread already exists")
      else
        return ((seed, true), { s.putThread seed with
          messages := s.messages.put (threadKey seed.ns seed.id) []
          standing := s.standing.put key seed.id })

/-- Replace the body of an assistant message by the reply in its native output. -/
def repairAssistantReply (ns : String) (original : Message) (content format : String)
    (s : MemoryStore) : Except ChatError (Message × MemoryStore) := do
  let repaired ← repairedAssistant original content format
  let key := threadKey ns original.threadID
  let index := (s.messagesAt key).findIdx (·.id = original.id)
  match (s.messagesAt key)[index]? with
  | none => .error .requestConflict
  | some current =>
    if current.role ≠ .assistant ∨ current.content ≠ original.content ∨
        current.metadata ≠ original.metadata then .error .requestConflict
    else
      let current := { current with content := repaired.content, metadata := repaired.metadata }
      return (current, { s with
        messages := s.messages.put key ((s.messagesAt key).set index current) })

end MemoryStore

variable [UUIDs]

/-- What a call returns from memory, and the store after it, unless it fails. -/
def Call.inMemory (order : MapOrder) :
    (call : Call) → MemoryStore → Except ChatError (call.Result × MemoryStore)
  | .createThread env thread => MemoryStore.createThread env thread
  | .getThread ns id => MemoryStore.getThread ns id
  | .listThreads filter => MemoryStore.listThreads order filter
  | .ensureStandingThread env seed => MemoryStore.ensureStandingThread order env seed
  | .appendMessages env ns threadID messages => MemoryStore.appendMessages env ns threadID messages
  | .listMessages ns threadID => MemoryStore.listMessages ns threadID
  | .repairAssistantReply ns original content format =>
    MemoryStore.repairAssistantReply ns original content format
  | .queueTurn env t m => MemoryStore.queueTurn order env t m
  | .listTurns ns id => MemoryStore.listTurns order ns id
  | .pendingTurns limit => MemoryStore.pendingTurns order limit
  | .activateTurn t => MemoryStore.activateTurn order t
  | .recordRun t uid => MemoryStore.recordRun t uid
  | .retryTurn env expected retry => MemoryStore.retryTurn env expected retry
  | .completeTurn env t m => MemoryStore.completeTurn env t m

namespace MemoryStore

/-- What a call returns, and the store after it; a call that fails has changed nothing. -/
def serve (order : MapOrder) (call : Call) (s : MemoryStore) :
    Except ChatError call.Result × MemoryStore :=
  match call.inMemory order s with
  | .ok (value, after) => (.ok value, after)
  | .error err => (.error err, s)

end MemoryStore

end AnvilAgents.Chat
