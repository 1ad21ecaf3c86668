import AnvilAgents.Lib.Text
import Mathlib.Data.List.Sort
import Mathlib.Data.String.Basic

/-! Threads, messages and turns of the chat, as the API hands them to its store. -/

namespace AnvilAgents.Chat

open List

/-- A point in time; zero stands for the zero time. -/
abbrev Time := Nat

/-- A value of a metadata field; what no code looks into is kept as text. -/
inductive Json where
  | null
  | str (text : String)
  | other (text : String)
deriving DecidableEq

/-- A JSON object: its fields by name, each name once. -/
structure Metadata where
  fields : List (String × Json)
  sorted : fields.Pairwise (fun a b => a.1 < b.1)
deriving DecidableEq

namespace Metadata

def empty : Metadata := ⟨[], .nil⟩

def get (m : Metadata) (name : String) : Option Json :=
  m.fields.lookup name

/-- The text of a field that holds one. -/
def text (m : Metadata) (name : String) : String :=
  match m.get name with
  | some (.str value) => value
  | _ => ""

/-- Put a field among fields sorted by name, in place of one of that name. -/
def setIn (name : String) (value : Json) : List (String × Json) → List (String × Json)
  | [] => [(name, value)]
  | field :: fields =>
    if name < field.1 then (name, value) :: field :: fields
    else if name = field.1 then (name, value) :: fields
    else field :: setIn name value fields

variable {fields : List (String × Json)}

theorem mem_setIn {name : String} {value : Json} {field : String × Json}
    (member : field ∈ setIn name value fields) :
    field = (name, value) ∨ field ∈ fields := by
  induction fields with
  | nil => exact .inl (by simpa [setIn] using member)
  | cons head fields ih =>
    simp only [setIn] at member
    split at member
    · simpa using member
    · split at member
      · rcases mem_cons.mp member with same | later
        · exact .inl same
        · exact .inr (.tail _ later)
      · rcases mem_cons.mp member with same | later
        · exact .inr (same ▸ .head _)
        · exact (ih later).imp_right (.tail _)

theorem sorted_setIn (name : String) (value : Json)
    (sorted : fields.Pairwise (fun a b => a.1 < b.1)) :
    (setIn name value fields).Pairwise (fun a b => a.1 < b.1) := by
  induction fields with
  | nil => exact pairwise_singleton _ _
  | cons head fields ih =>
    obtain ⟨least, rest⟩ := pairwise_cons.mp sorted
    simp only [setIn]
    split
    next below =>
      -- The new field comes first, below the head and so below everything.
      refine pairwise_cons.mpr ⟨fun field member => ?_, sorted⟩
      rcases mem_cons.mp member with same | later
      · exact same ▸ below
      · exact lt_trans below (least field later)
    next notBelow =>
      split
      next same => exact pairwise_cons.mpr ⟨fun field member => same ▸ least field member, rest⟩
      next differs =>
        refine pairwise_cons.mpr ⟨fun field member => ?_, ih rest⟩
        rcases mem_setIn member with same | later
        · exact same ▸ lt_of_le_of_ne (not_lt.mp notBelow) (Ne.symm differs)
        · exact least field later

/-- Set one field. -/
def set (m : Metadata) (name : String) (value : Json) : Metadata :=
  ⟨setIn name value m.fields, sorted_setIn name value m.sorted⟩

theorem get_set_self (m : Metadata) (name : String) (value : Json) :
    (m.set name value).get name = some value := by
  obtain ⟨fields, sorted⟩ := m
  simp only [get, set]
  clear sorted
  induction fields with
  | nil => simp [setIn]
  | cons head fields ih =>
    obtain ⟨key, was⟩ := head
    simp only [setIn]
    split
    · simp
    · split
      · simp
      next differs =>
        -- A field of another name is passed over.
        have other : (name == key) = false := by simpa using differs
        simp only [lookup_cons, other, ih]

end Metadata

/-- Metadata as a caller sends it, with its size in bytes. -/
inductive RawMetadata where
  /-- Nothing, white space or null. -/
  | absent (size : Nat)
  | object (size : Nat) (fields : Metadata)
  /-- Anything that is not a JSON object. -/
  | malformed (size : Nat)

/-- The author of a message; anything but the four known roles is refused. -/
inductive Role where
  | system
  | user
  | assistant
  | tool
  | other (text : String)
deriving DecidableEq

/-- The kind of a thread; anything but the two known modes is refused. -/
inductive ThreadMode where
  | unset
  | persona
  | fleet
  | other (text : String)
deriving DecidableEq

/-- A thread as a caller sends it, or as it is stored when its metadata is an object. -/
structure ThreadOf (M : Type) where
  id : String
  ns : String
  profileName : String
  mode : ThreadMode
  title : String
  createdAt : Time
  updatedAt : Time
  createdBy : String
  metadata : M
deriving DecidableEq

abbrev Thread := ThreadOf Metadata

/-- A message as a caller sends it, or as it is stored when its metadata is an object. -/
structure MessageOf (M : Type) where
  id : String
  threadID : String
  role : Role
  content : String
  createdAt : Time
  sequence : Nat
  metadata : M

abbrev Message := MessageOf Metadata

/-- Where a turn stands; every status but the first three is final. -/
inductive TurnStatus where
  | waiting
  | queued
  | running
  | ended (outcome : String) (final : outcome ∉ ["waiting", "queued", "running"])
deriving DecidableEq

/-- A message to a peer that a turn has sent. -/
structure Delegate where
  profileName : String
  threadID : String
  turnID : String
  runName : String
  status : TurnStatus
deriving DecidableEq

/-- An execution of a turn that never launched. -/
structure TurnAttempt where
  runName : String
  runUID : String
  error : String
  completedAt : Time
deriving DecidableEq

/-- A turn: one accepted message, and the run that answers it. -/
structure Turn where
  expectedSequence : Option Int := none
  lockKeys : List String
  deferred : Bool := false
  delegates : List Delegate := []
  profileName : String
  runUID : String := ""
  id : String
  threadID : String
  ns : String
  requestID : String
  runName : String
  status : TurnStatus := .queued
  error : String := ""
  userMessageID : String := ""
  createdAt : Time := 0
  runJSON : String
  retryCount : Nat := 0
  retryAt : Option Time := none
  recoveryReason : String := ""
  attempts : List TurnAttempt := []
deriving DecidableEq

/-- The run of the next attempt of a turn, and why there is one. -/
structure TurnRetry where
  runName : String
  runJSON : String
  reason : String
  retryAt : Time

def maxTurnRetries : Nat := 2

/-- Whether the turn still runs or may still run. -/
def TurnStatus.unfinished : TurnStatus → Bool
  | .waiting | .queued | .running => true
  | .ended _ _ => false

/-- Whether the turn occupies its resources. -/
def TurnStatus.occupies : TurnStatus → Bool
  | .queued | .running => true
  | .waiting | .ended _ _ => false

/-- Whether a turn is not over. -/
def active (t : Turn) : Bool :=
  t.status.unfinished

/-- Whether two snapshots are of one attempt of one turn; a blank run UID matches any. -/
def sameTurnAttempt (a b : Turn) : Bool :=
  a.id = b.id && a.ns = b.ns && a.threadID = b.threadID && a.runName = b.runName &&
    a.retryCount = b.retryCount && (b.runUID = "" || a.runUID = b.runUID)

/-- Whether two turns need the same profile or the same lock. -/
def sharedTurnResource (a b : Turn) : Bool :=
  a.profileName = b.profileName || a.lockKeys.any (b.lockKeys.contains ·)

/-- What storing a turn as JSON and reading it back keeps: all but the private fields. -/
def stored (t : Turn) : Turn :=
  { t with expectedSequence := none, deferred := false }

/-- What went wrong, by the kind the API looks at. -/
inductive ChatError where
  | notFound (detail : String)
  | invalid (detail : String)
  | turnActive
  | conversationChanged
  | requestConflict
  /-- A query that must find a row found none. -/
  | noRows
  | uniqueViolation
  | foreignKeyViolation

end AnvilAgents.Chat
