import AnvilAgents.Chat.Types
import AnvilAgents.Lib.Fallible

/-! The checks and defaults that a thread, a message or a turn passes before it is stored. -/

namespace AnvilAgents.Chat

open Text List Fallible

def defaultThreadTitle : String := "New chat"

def maxTitleRunes : Nat := 200

def maxMessageBytes : Nat := 64 * 1024

def maxMetadataBytes : Nat := 8 * 1024

/-- How many threads are listed unless the caller says. -/
def defaultListLimit : Nat := 50

def maxListLimit : Nat := 200

def maxAppendBatch : Nat := 16

/-- The library of UUIDs. -/
class UUIDs where
  /-- A UUID in its usual form. -/
  parseUUID : String → Option String
  trimmed : ∀ {s id : String}, parseUUID s = some id → trimSpace id = id
  empty : parseUUID "" = none

export UUIDs (parseUUID)

variable [UUIDs]

/-- What a call takes from its surroundings: the time, and the identities it may generate. -/
structure Env where
  now : Time
  newUUID : Nat → String
  valid : ∀ i, parseUUID (newUUID i) = some (newUUID i)

/-- The namespace and the identity under which a thread is looked up. -/
def normalizeThreadLookup (ns id : String) : Except ChatError (String × String) :=
  let ns := trimSpace ns
  if ns = "" then .error (.invalid "namespace is required")
  else
    match parseUUID (trimSpace id) with
    | none => .error (.invalid "thread id must be a UUID")
    | some parsed => .ok (ns, parsed)

/-- The metadata to store. -/
def normalizeMetadata : RawMetadata → Except ChatError Metadata
  | .absent size =>
    if size > maxMetadataBytes then
      .error (.invalid ("metadata exceeds " ++ toString maxMetadataBytes ++ " bytes"))
    else .ok .empty
  | .object size fields =>
    if size > maxMetadataBytes then
      .error (.invalid ("metadata exceeds " ++ toString maxMetadataBytes ++ " bytes"))
    else .ok fields
  | .malformed size =>
    if size > maxMetadataBytes then
      .error (.invalid ("metadata exceeds " ++ toString maxMetadataBytes ++ " bytes"))
    else .error (.invalid "metadata must be a JSON object")

/-- The fields of metadata that may be anything. -/
def RawMetadata.fields : RawMetadata → Metadata
  | .object _ fields => fields
  | .absent _ | .malformed _ => .empty

/-- The identity to store: the given one, or a new one when there is none. -/
def normalizeID (what id fresh : String) : Except ChatError String :=
  if id = "" then .ok fresh
  else if (parseUUID id).isSome then .ok id
  else .error (.invalid (what ++ " id must be a UUID"))

/-- A stored identity is the given one, which is valid then, or else a new one. -/
theorem normalizeID_ok {what id fresh stored : String}
    (passed : normalizeID what id fresh = .ok stored) :
    (if id = "" then fresh else id) = stored ∧ (id ≠ "" → (parseUUID id).isSome) := by
  by_cases blank : id = ""
  · simpa [normalizeID, blank] using passed
  · by_cases valid : (parseUUID id).isSome = true
    · simpa [normalizeID, blank, valid] using passed
    · simp [normalizeID, blank, valid] at passed

/-- A stored identity is valid, without blanks around it. -/
theorem normalizeID_valid {what given fresh stored : String} (generated : parseUUID fresh = some fresh)
    (passed : normalizeID what (trimSpace given) fresh = .ok stored) :
    (parseUUID stored).isSome ∧ trimSpace stored = stored := by
  obtain ⟨rfl, valid⟩ := normalizeID_ok passed
  split
  next => exact ⟨by rw [generated]; rfl, UUIDs.trimmed generated⟩
  next given => exact ⟨valid given, trimSpace_trimSpace _⟩

theorem ne_empty_of_valid {id : String} (valid : (parseUUID id).isSome) : id ≠ "" := by
  rintro rfl
  rw [UUIDs.empty] at valid
  cases valid

/-- The mode to store. -/
def ThreadMode.orPersona (mode : ThreadMode) : ThreadMode :=
  if mode = .unset then .persona else mode

def titleOf (title : String) : String :=
  if isBlank title then defaultThreadTitle else trimSpace title

/-- What is wrong with a thread, if anything. -/
def threadFault (thread : ThreadOf RawMetadata) : Option String :=
  if thread.mode.orPersona ≠ .persona ∧ thread.mode.orPersona ≠ .fleet then
    some "mode must be persona or fleet"
  else if isBlank thread.ns then some "namespace is required"
  else if isBlank thread.createdBy then some "createdBy is required"
  else if thread.mode.orPersona = .persona ∧ isBlank thread.profileName ∧
      isBlank (thread.metadata.fields.text "harnessProfileName") then
    some "profileName is required for persona threads"
  else if (titleOf thread.title).length > maxTitleRunes then
    some ("title must be at most " ++ toString maxTitleRunes ++ " characters")
  else none

def normalizeThread (thread : ThreadOf RawMetadata) (env : Env) : Except ChatError Thread :=
  match threadFault thread with
  | some detail => .error (.invalid detail)
  | none => do
    let metadata ← normalizeMetadata thread.metadata
    let id ← normalizeID "thread" (trimSpace thread.id) (env.newUUID 0)
    let createdAt := if thread.createdAt = 0 then env.now else thread.createdAt
    return { id, createdAt, metadata
             ns := trimSpace thread.ns
             profileName := trimSpace thread.profileName
             mode := thread.mode.orPersona
             title := titleOf thread.title
             createdBy := trimSpace thread.createdBy
             updatedAt := if thread.updatedAt = 0 then createdAt else thread.updatedAt }

theorem normalizeThread_valid {thread : ThreadOf RawMetadata} {env : Env} {stored : Thread}
    (passed : normalizeThread thread env = .ok stored) :
    (parseUUID stored.id).isSome ∧ trimSpace stored.id = stored.id := by
  unfold normalizeThread at passed
  split at passed
  · cases passed
  · obtain ⟨metadata, -, passed⟩ := bind_ok passed
    obtain ⟨id, identified, passed⟩ := bind_ok passed
    cases passed
    exact normalizeID_valid (env.valid 0) identified

/-- What is wrong with a message, if anything. -/
def messageFault (message : MessageOf RawMetadata) : Option String :=
  if message.role ∉ [.system, .user, .assistant, .tool] then
    some "role must be system, user, assistant, or tool"
  else if isBlank message.content then some "content is required"
  else if message.content.utf8ByteSize > maxMessageBytes then
    some ("content exceeds " ++ toString maxMessageBytes ++ " bytes")
  else if isBlank message.threadID then some "threadId is required"
  else if (parseUUID (trimSpace message.threadID)).isNone then some "thread id must be a UUID"
  else if message.sequence < 1 then some "sequence must be positive"
  else none

/-- The message to store; its generated identity is `fresh`. -/
def normalizeMessage (message : MessageOf RawMetadata) (now : Time) (fresh : String) :
    Except ChatError Message :=
  match messageFault message with
  | some detail => .error (.invalid detail)
  | none => do
    let metadata ← normalizeMetadata message.metadata
    let id ← normalizeID "message" (trimSpace message.id) fresh
    return { message with
      id, metadata
      threadID := trimSpace message.threadID
      createdAt := if message.createdAt = 0 then now else message.createdAt }

/-- What is stored of a message that passes the checks. -/
theorem normalizeMessage_ok {message : MessageOf RawMetadata} {now : Time} {fresh : String}
    {m : Message} (passed : normalizeMessage message now fresh = .ok m) :
    m.threadID = trimSpace message.threadID ∧ m.role = message.role ∧
      m.content = message.content ∧ m.sequence = message.sequence ∧
      normalizeID "message" (trimSpace message.id) fresh = .ok m.id := by
  unfold normalizeMessage at passed
  split at passed
  · cases passed
  · obtain ⟨metadata, -, passed⟩ := bind_ok passed
    obtain ⟨id, identified, passed⟩ := bind_ok passed
    cases passed
    exact ⟨rfl, rfl, rfl, rfl, identified⟩

/-- A stored message as a caller would send it again. -/
def MessageOf.raw (m : Message) : MessageOf RawMetadata :=
  { m with metadata := .object 0 m.metadata }

/-- The words of a text, joined by single blanks. -/
def collapsed (content : String) : String :=
  String.intercalate " "
    (((content.toList.splitOnP isSpace).filter (· ≠ [])).map String.ofList)

-- Irreducible: no proof looks into the words of a message.
/-- A title made of the first words of a message. -/
@[irreducible]
def titleFromContent (content : String) : String :=
  if collapsed content = "" then defaultThreadTitle else limit 80 (collapsed content)

/-- A new turn with its defaults. -/
def newTurn (t : Turn) (env : Env) (userMessageID : String) : Turn :=
  { t with
    userMessageID
    id := if t.id = "" then env.newUUID 0 else t.id
    lockKeys := t.lockKeys.insertionSort (· ≤ ·)
    status := if t.deferred then .waiting else .queued
    createdAt := env.now }

/-- A turn and its message as they are stored, unless the request is malformed. -/
def prepareTurn (t : Turn) (m : MessageOf RawMetadata) (env : Env) :
    Except ChatError (Turn × Message) :=
  if (parseUUID t.requestID).isNone then .error (.invalid "requestId must be a UUID")
  else do
    let _ ← normalizeThreadLookup t.ns t.threadID
    let message ← normalizeMessage
      { m with threadID := t.threadID, sequence := 1, role := .user } env.now (env.newUUID 1)
    return (newTurn t env message.id, message)

/-- A prepared turn is the new one, with the message that it was accepted with. -/
theorem prepareTurn_ok {t t' : Turn} {m : MessageOf RawMetadata} {m' : Message} {env : Env}
    (prepared : prepareTurn t m env = .ok (t', m')) :
    t' = newTurn t env m'.id ∧ normalizeMessage
      { m with threadID := t.threadID, sequence := 1, role := .user } env.now (env.newUUID 1) =
        .ok m' := by
  unfold prepareTurn at prepared
  split at prepared
  · cases prepared
  · obtain ⟨lookup, -, prepared⟩ := bind_ok prepared
    obtain ⟨message, normalized, prepared⟩ := bind_ok prepared
    cases prepared
    exact ⟨rfl, normalized⟩

/-- An identity that was stored once is stored as it is. -/
theorem normalizeID_again {what id fresh : String} (stored : (parseUUID id).isSome ∧ trimSpace id = id) :
    normalizeID what (trimSpace id) fresh = .ok id := by
  rw [stored.2, normalizeID, if_neg (ne_empty_of_valid stored.1), if_pos stored.1]

/-- The next attempt of a turn, unless the caller's snapshot is stale or the request is malformed. -/
def prepareTurnRetry (old expected : Turn) (retry : TurnRetry) (now : Time) :
    Except ChatError Turn :=
  if !active old || !sameTurnAttempt old expected then .error .requestConflict
  else if old.retryCount ≥ maxTurnRetries || retry.runName = "" || retry.runName = old.runName ||
      retry.runJSON = "" || retry.reason = "" || retry.retryAt = 0 then .error (.invalid "")
  else .ok { old with
    attempts := old.attempts ++ [⟨old.runName, old.runUID, retry.reason, now⟩]
    retryCount := old.retryCount + 1
    retryAt := some retry.retryAt
    recoveryReason := retry.reason
    runName := retry.runName
    runUID := ""
    runJSON := retry.runJSON
    status := .queued
    error := "" }

/-- Whether a thread may be the standing conversation of its profile. -/
def standingEligible (thread : Thread) : Bool :=
  thread.profileName ≠ "" &&
    ["harnessProfileName", "sourceThreadId", "sourceTurnId", "sourceProfileName"].all fun field =>
      (thread.metadata.get field).isNone

/-- The only reply format that a repair writes. -/
def repairFormat : String := "openclaw.payloads/v1"

/-- A field that is absent or null. -/
def Metadata.isNil (m : Metadata) (name : String) : Bool :=
  match m.get name with
  | none | some .null => true
  | some _ => false

/-- The message with its reply read again from the native output of its run. -/
def repairedAssistant (original : Message) (content format : String) : Except ChatError Message :=
  if original.role ≠ .assistant ∨ original.id = "" ∨ original.threadID = "" ∨ isBlank content ∨
      content.utf8ByteSize > maxMessageBytes ∨ format ≠ repairFormat ∨
      original.metadata.get "backend" ≠ some (.str "openClaw") ∨
      original.metadata.isNil "replyFormat" = false then .error (.invalid "")
  else if original.metadata.isNil "turnId" ∨ original.metadata.isNil "runName" then
    .error (.invalid "")
  else .ok { original with
    content, metadata := original.metadata.set "replyFormat" (.str format) }

/-- Which threads to list. -/
structure ThreadFilter where
  ns : String
  profileName : String
  mode : ThreadMode
  limit : Int

def normalizeThreadFilter (filter : ThreadFilter) : Except ChatError ThreadFilter :=
  if isBlank filter.ns then .error (.invalid "namespace is required")
  else if filter.mode ≠ .unset ∧ filter.mode ≠ .persona ∧ filter.mode ≠ .fleet then
    .error (.invalid "mode must be persona or fleet")
  else
    let count : Int := if filter.limit ≤ 0 then defaultListLimit else filter.limit
    if count > maxListLimit then
      .error (.invalid ("limit must be between 1 and " ++ toString maxListLimit))
    else .ok { filter with
      ns := trimSpace filter.ns, profileName := trimSpace filter.profileName, limit := count }

end AnvilAgents.Chat
