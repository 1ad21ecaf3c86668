import AnvilAgents.Lib.Text

/-!
Decoding JSON into values that hold something already.

A decoder that is given a populated value keeps what the document does not mention: absent fields of
a struct, entries of a map, and what is left of slice elements whose place is taken by new ones.
-/

namespace GoJson

open List Option Function

inductive Json where
  | null
  | bool (value : Bool)
  | num (literal : String)
  | str (value : String)
  | arr (items : List Json)
  | obj (members : List (String × Json))

/-- What a document does to a value without structure: nothing, or set it, or change it. -/
inductive Effect (α : Type) where
  | keep
  | set (value : α)
  | change (f : α → α)

namespace Effect

variable {α : Type}

def apply : Effect α → α → α
  | keep, old => old
  | set value, _ => value
  | change f, old => f old

/-- Two values are the same afterwards. -/
def Settles : Effect α → α → α → Prop
  | keep, left, right => left = right
  | set _, _, _ => True
  | change f, left, right => f left = f right

def sets : Effect α → Bool
  | set _ => true
  | _ => false

theorem apply_eq_iff (effect : Effect α) (left right : α) :
    effect.apply left = effect.apply right ↔ effect.Settles left right := by
  cases effect <;> simp [apply, Settles]

end Effect

/-- The types without structure, and what documents do to their values. -/
structure Leaves (Kind : Type) where
  Val : Kind → Type
  zero : (kind : Kind) → Val kind
  effect : (kind : Kind) → Json → Effect (Val kind)
  accepts : Kind → Json → Bool

mutual

inductive GoType (Kind : Type) where
  | leaf (kind : Kind)
  | pointer (elem : GoType Kind)
  | slice (elem : GoType Kind)
  | map (elem : GoType Kind)
  | struct (fields : Fields Kind)

/-- The fields of a struct under the names that documents use. -/
inductive Fields (Kind : Type) where
  | nil
  | cons (name : String) (type : GoType Kind) (rest : Fields Kind)

end

variable {Kind : Type}

def Fields.ofList : List (String × GoType Kind) → Fields Kind
  | [] => .nil
  | (name, type) :: rest => .cons name type (ofList rest)

def Fields.names : Fields Kind → List String
  | .nil => []
  | .cons name _ rest => name :: rest.names

/-- The field that a member of a document is for: the one of that name, or the first one whose name
differs in case only. -/
def Fields.index (fields : Fields Kind) (key : String) : Option Nat :=
  (fields.names.idxOf? key).or (fields.names.findIdx? fun name => Text.equalFold name key)

variable (leaves : Leaves Kind)

/-- A slice and what its backing array holds beyond the slice's end. -/
structure Slice (α : Type) where
  items : List α
  beyond : List α

def Slice.backing {α : Type} (slice : Slice α) : List α :=
  slice.items ++ slice.beyond

mutual

def GoType.Val : GoType Kind → Type
  | .leaf kind => leaves.Val kind
  | .pointer elem => Option elem.Val
  | .slice elem => Option (Slice elem.Val)
  | .map elem => Option (String → Option elem.Val)
  | .struct fields => fields.Val

def Fields.Val : Fields Kind → Type
  | .nil => Unit
  | .cons _ type rest => type.Val × rest.Val

end

mutual

/-- What a value shows: all of it except what lies beyond the end of a slice. -/
def GoType.View : GoType Kind → Type
  | .leaf kind => leaves.Val kind
  | .pointer elem => Option elem.View
  | .slice elem => Option (List elem.View)
  | .map elem => Option (String → Option elem.View)
  | .struct fields => fields.View

def Fields.View : Fields Kind → Type
  | .nil => Unit
  | .cons _ type rest => type.View × rest.View

end

mutual

def GoType.see : (type : GoType Kind) → type.Val leaves → type.View leaves
  | .leaf _, value => value
  | .pointer elem, value => Option.map elem.see value
  | .slice elem, value => Option.map (fun slice => slice.items.map elem.see) value
  | .map elem, value => Option.map (fun entries key => Option.map elem.see (entries key)) value
  | .struct fields, value => fields.see value

def Fields.see : (fields : Fields Kind) → fields.Val leaves → fields.View leaves
  | .nil, _ => ()
  | .cons _ type rest, (value, values) => (type.see value, rest.see values)

end

mutual

/-- The value of a variable that has just been declared. -/
def GoType.zero : (type : GoType Kind) → type.Val leaves
  | .leaf kind => leaves.zero kind
  | .pointer _ => none
  | .slice _ => none
  | .map _ => none
  | .struct fields => fields.zero

def Fields.zero : (fields : Fields Kind) → fields.Val leaves
  | .nil => ()
  | .cons _ type rest => (type.zero, rest.zero)

end

/-- Decode items into a list, each into the value that has its place, or into a new one. -/
def putItems {α : Type} (put : Json → α → α) (zero : α) : List Json → List α → List α
  | [], _ => []
  | item :: items, [] => put item zero :: putItems put zero items []
  | item :: items, value :: values => put item value :: putItems put zero items values

/-- Decode items into a slice. A shorter result keeps the backing array, an empty one does not. -/
def Slice.put {α : Type} (put : Json → α → α) (zero : α) (items : List Json) (slice : Slice α) :
    Slice α :=
  match items with
  | [] => ⟨[], []⟩
  | items => ⟨putItems put zero items slice.backing, slice.backing.drop items.length⟩

mutual

/-- Decode a document into a value. -/
def GoType.put : (type : GoType Kind) → Json → type.Val leaves → type.Val leaves
  | .leaf kind, document, old => (leaves.effect kind document).apply old
  | .pointer elem, document, old =>
    match document with
    | .null => none
    | document => some (elem.put document (old.getD (elem.zero leaves)))
  | .slice elem, document, old =>
    match document with
    | .null => none
    | .arr items => some (Slice.put elem.put (elem.zero leaves) items (old.getD ⟨[], []⟩))
    | _ => old
  | .map elem, document, old =>
    match document with
    | .null => none
    | .obj members => some (members.foldl
        (fun entries (key, member) =>
          update entries key (some (elem.put member (elem.zero leaves))))
        (old.getD fun _ => none))
    | _ => old
  | .struct fields, document, old =>
    match document with
    | .obj members => members.foldl
        (fun value (key, member) =>
          match fields.index key with
          | some index => fields.putAt index member value
          | none => value) old
    | _ => old

/-- Decode a document into one field. -/
def Fields.putAt : (fields : Fields Kind) → Nat → Json → fields.Val leaves → fields.Val leaves
  | .nil, _, _, _ => ()
  | .cons _ type _, 0, document, (value, rest) => (type.put document value, rest)
  | .cons _ _ fields, index + 1, document, (value, rest) => (value, fields.putAt index document rest)

end

mutual

/-- The document fits the type. -/
def GoType.accepts : GoType Kind → Json → Bool
  | .leaf kind, document => leaves.accepts kind document
  | .pointer elem, document =>
    match document with
    | .null => true
    | document => elem.accepts document
  | .slice elem, document =>
    match document with
    | .null => true
    | .arr items => items.all elem.accepts
    | _ => false
  | .map elem, document =>
    match document with
    | .null => true
    | .obj members => members.all fun (_, member) => elem.accepts member
    | _ => false
  | .struct fields, document =>
    match document with
    | .null => true
    | .obj members => members.all fun (key, member) =>
        match fields.index key with
        | some index => fields.acceptsAt index member
        | none => true
    | _ => false

def Fields.acceptsAt : Fields Kind → Nat → Json → Bool
  | .nil, _, _ => true
  | .cons _ type _, 0, document => type.accepts document
  | .cons _ _ fields, index + 1, document => fields.acceptsAt index document

end

/-! ## What a document settles -/

/-- Documents decoded one after the other settle a difference as the last one does. -/
def settlesAll {α β : Type} (see : α → β) (put : Json → α → α) (settles : Json → α → α → Prop) :
    List Json → α → α → Prop
  | [], left, right => see left = see right
  | [document], left, right => settles document left right
  | document :: documents, left, right =>
    settlesAll see put settles documents (put document left) (put document right)

/-- The members of a document that are for a field. -/
def Fields.membersAt (fields : Fields Kind) (members : List (String × Json)) (index : Nat) :
    List Json :=
  members.filterMap fun (key, member) =>
    if fields.index key = some index then some member else none

mutual

/--
The document settles all in which two values differ.

A leaf it must set, or the values agree there. A struct is settled field by field, where fields that
it does not mention agree; a slice place by place; and of the entries of a map those it has no key for
must agree.
-/
def GoType.settles : (type : GoType Kind) → Json → type.Val leaves → type.Val leaves → Prop
  | .leaf kind, document, left, right => (leaves.effect kind document).Settles left right
  | .pointer elem, document, left, right =>
    match document with
    | .null => True
    | document =>
      elem.settles document (left.getD (elem.zero leaves)) (right.getD (elem.zero leaves))
  | .slice elem, document, left, right =>
    match document with
    | .null => True
    | .arr items => ∀ (place : Nat) (item : Json), items[place]? = some item →
        elem.settles item
          ((left.getD ⟨[], []⟩).backing[place]?.getD (elem.zero leaves))
          ((right.getD ⟨[], []⟩).backing[place]?.getD (elem.zero leaves))
    | _ => (GoType.slice elem).see leaves left = (GoType.slice elem).see leaves right
  | .map elem, document, left, right =>
    match document with
    | .null => True
    | .obj members => ∀ key, key ∉ members.map Prod.fst →
        Option.map (elem.see leaves) (left.getD (fun _ => none) key) =
          Option.map (elem.see leaves) (right.getD (fun _ => none) key)
    | _ => (GoType.map elem).see leaves left = (GoType.map elem).see leaves right
  | .struct fields, document, left, right =>
    match document with
    | .obj members => fields.settles (fields.membersAt members) left right
    | _ => fields.see leaves left = fields.see leaves right

def Fields.settles : (fields : Fields Kind) → (Nat → List Json) →
    fields.Val leaves → fields.Val leaves → Prop
  | .nil, _, _, _ => True
  | .cons _ type rest, membersAt, (left, lefts), (right, rights) =>
    settlesAll (type.see leaves) (type.put leaves) type.settles (membersAt 0) left right ∧
      rest.settles (fun index => membersAt (index + 1)) lefts rights

end

variable {members : List (String × Json)}

section Parts

variable {α β : Type} {put : Json → α → α} {zero : α} {see : α → β}

theorem putItems_getElem? (items : List Json) (values : List α) (place : Nat) :
    (putItems put zero items values)[place]? =
      items[place]?.map fun item => put item (values[place]?.getD zero) := by
  -- Items and values are consumed together; after the values the new ones are zero.
  induction items generalizing values place with
  | nil => simp [putItems]
  | cons item items ih =>
    cases values with
    | nil | cons => cases place <;> simp [putItems, ih]

@[simp]
theorem Slice.put_items (items : List Json) (slice : Slice α) :
    (slice.put put zero items).items = putItems put zero items slice.backing := by
  cases items <;> simp [Slice.put, putItems]

/-- Two slices show the same after a document when each place does. -/
theorem Slice.put_see_iff {settles : Json → α → α → Prop}
    (each : ∀ item left right, see (put item left) = see (put item right) ↔
      settles item left right)
    (items : List Json) (left right : Slice α) :
    (left.put put zero items).items.map see = (right.put put zero items).items.map see ↔
      ∀ (place : Nat) (item : Json), items[place]? = some item →
        settles item (left.backing[place]?.getD zero) (right.backing[place]?.getD zero) := by
  simp only [Slice.put_items, List.ext_getElem?_iff, List.getElem?_map, putItems_getElem?,
    Option.map_map]
  refine forall_congr' fun place => ?_
  cases at_place : items[place]? with
  | none => simp
  | some item => simp [each]

/-- The step of decoding one member into a map. -/
def putEntry (put : Json → α → α) (zero : α) (entries : String → Option α)
    (member : String × Json) : String → Option α :=
  update entries member.1 (some (put member.2 zero))

theorem putEntry_foldl_of_notMem {key : String} (absent : key ∉ members.map Prod.fst)
    (entries : String → Option α) :
    members.foldl (putEntry put zero) entries key = entries key := by
  induction members generalizing entries with
  | nil => rfl
  | cons member members ih =>
    simp only [map_cons, mem_cons, not_or] at absent
    rw [foldl_cons, ih absent.2, putEntry, update_of_ne absent.1]

theorem putEntry_foldl_of_mem {key : String} (present : key ∈ members.map Prod.fst)
    (left right : String → Option α) :
    members.foldl (putEntry put zero) left key = members.foldl (putEntry put zero) right key := by
  induction members generalizing left right with
  | nil => cases present
  | cons member members ih =>
    rw [foldl_cons, foldl_cons]
    by_cases later : key ∈ members.map Prod.fst
    · exact ih later _ _
    · -- The last member of the key is this one, and its value is new.
      have now : key = member.1 := by
        simpa [later] using present
      rw [putEntry_foldl_of_notMem later, putEntry_foldl_of_notMem later, now]
      simp [putEntry]

/-- Two maps show the same after a document when they agree on the keys that it leaves out. -/
theorem putEntry_foldl_see_iff (members : List (String × Json)) (left right : String → Option α) :
    ((fun key => Option.map see (members.foldl (putEntry put zero) left key)) =
        fun key => Option.map see (members.foldl (putEntry put zero) right key)) ↔
      ∀ key, key ∉ members.map Prod.fst →
        Option.map see (left key) = Option.map see (right key) := by
  rw [funext_iff]
  refine forall_congr' fun key => ?_
  by_cases present : key ∈ members.map Prod.fst
  · simp only [putEntry_foldl_of_mem present left right, present, not_true_eq_false,
      false_implies]
  · simp only [putEntry_foldl_of_notMem present, present, not_false_eq_true, true_implies]

theorem settlesAll_iff {settles : Json → α → α → Prop}
    (each : ∀ document left right, see (put document left) = see (put document right) ↔
      settles document left right)
    (documents : List Json) (left right : α) :
    see (documents.foldl (fun value document => put document value) left) =
        see (documents.foldl (fun value document => put document value) right) ↔
      settlesAll see put settles documents left right := by
  induction documents generalizing left right with
  | nil => rfl
  | cons document documents ih =>
    cases documents with
    | nil => exact each document left right
    | cons next documents => exact ih (put document left) (put document right)

end Parts

/-- Every field after the documents that are for it. -/
def Fields.putEach : (fields : Fields Kind) → (Nat → List Json) →
    fields.Val leaves → fields.Val leaves
  | .nil, _, _ => ()
  | .cons _ type rest, membersAt, (value, values) =>
    ((membersAt 0).foldl (fun value document => type.put leaves document value) value,
      rest.putEach (fun index => membersAt (index + 1)) values)

/-- The step of decoding one member into a struct. -/
def Fields.putMember (fields : Fields Kind) (value : fields.Val leaves) (member : String × Json) :
    fields.Val leaves :=
  match fields.index member.1 with
  | some index => fields.putAt leaves index member.2 value
  | none => value

theorem Fields.putEach_nil (fields : Fields Kind) (value : fields.Val leaves) :
    fields.putEach leaves (fun _ => []) value = value := by
  match fields, value with
  | .nil, _ => rfl
  | .cons _ _ rest, (value, values) => exact Prod.ext rfl (rest.putEach_nil values)

/-- One more document in front of those for a field. -/
def Fields.membersWith (index : Nat) (document : Json) (membersAt : Nat → List Json) (place : Nat) :
    List Json :=
  if index = place then document :: membersAt place else membersAt place

theorem Fields.putEach_putAt (fields : Fields Kind) (index : Nat) (document : Json)
    (membersAt : Nat → List Json) (value : fields.Val leaves) :
    fields.putEach leaves membersAt (fields.putAt leaves index document value) =
      fields.putEach leaves (membersWith index document membersAt) value := by
  match fields, index, value with
  | .nil, _, _ => rfl
  | .cons _ _ _, 0, (_, _) => rfl
  | .cons _ _ rest, index + 1, (_, values) =>
    have later : (fun place => membersWith (index + 1) document membersAt (place + 1)) =
        membersWith index document fun place => membersAt (place + 1) := by
      funext place
      simp [membersWith]
    have inner := rest.putEach_putAt index document (fun place => membersAt (place + 1)) values
    rw [← later] at inner
    exact Prod.ext rfl inner

theorem Fields.membersAt_cons (fields : Fields Kind) (member : String × Json)
    (members : List (String × Json)) :
    fields.membersAt (member :: members) =
      match fields.index member.1 with
      | some index => membersWith index member.2 (fields.membersAt members)
      | none => fields.membersAt members := by
  funext place
  cases found : fields.index member.1 with
  | none => simp [membersAt, found]
  | some index => by_cases same : index = place <;> simp [membersAt, membersWith, found, same]

/-- Members are for different fields, or come one after the other for one. -/
theorem Fields.putMember_foldl (fields : Fields Kind) (members : List (String × Json))
    (value : fields.Val leaves) :
    members.foldl (fields.putMember leaves) value =
      fields.putEach leaves (fields.membersAt members) value := by
  induction members generalizing value with
  | nil => exact (fields.putEach_nil leaves value).symm
  | cons member members ih =>
    rw [foldl_cons, ih, Fields.putMember, fields.membersAt_cons]
    cases fields.index member.1 with
    | none => rfl
    | some index => exact fields.putEach_putAt leaves index member.2 _ value

mutual

/-- Two values show the same after a document if and only if it settles their differences. -/
theorem GoType.put_see_iff : (type : GoType Kind) → (document : Json) →
    (left right : type.Val leaves) →
    (type.see leaves (type.put leaves document left) =
        type.see leaves (type.put leaves document right) ↔
      type.settles leaves document left right)
  | .leaf kind, document, left, right => (leaves.effect kind document).apply_eq_iff left right
  | .pointer elem, document, left, right => by
    -- A pointer that is set leads to the value it had, or to a new one.
    have inner := elem.put_see_iff document (getD left (elem.zero leaves))
      (getD right (elem.zero leaves))
    cases document with
    | null => exact iff_of_true rfl trivial
    | _ => exact Option.some_inj.trans inner
  | .slice elem, document, left, right => by
    cases document with
    | null => exact iff_of_true rfl trivial
    | arr items =>
      exact Option.some_inj.trans
        (Slice.put_see_iff elem.put_see_iff items (getD left ⟨[], []⟩)
          (getD right ⟨[], []⟩))
    | _ => exact Iff.rfl
  | .map elem, document, left, right => by
    cases document with
    | null => exact iff_of_true rfl trivial
    | obj members =>
      exact Option.some_inj.trans
        (putEntry_foldl_see_iff members (getD left fun _ => none)
          (getD right fun _ => none))
    | _ => exact Iff.rfl
  | .struct fields, document, left, right => by
    cases document with
    | obj members =>
      have inner := fields.putEach_see_iff (fields.membersAt members) left right
      rw [← fields.putMember_foldl leaves members left, ← fields.putMember_foldl leaves members right]
        at inner
      exact inner
    | _ => exact Iff.rfl

theorem Fields.putEach_see_iff : (fields : Fields Kind) → (membersAt : Nat → List Json) →
    (left right : fields.Val leaves) →
    (fields.see leaves (fields.putEach leaves membersAt left) =
        fields.see leaves (fields.putEach leaves membersAt right) ↔
      fields.settles leaves membersAt left right)
  | .nil, _, _, _ => iff_of_true rfl trivial
  | .cons _ type rest, membersAt, (left, lefts), (right, rights) =>
    Prod.ext_iff.trans (and_congr
      (settlesAll_iff type.put_see_iff (membersAt 0) left right)
      (rest.putEach_see_iff (fun place => membersAt (place + 1)) lefts rights))

end

end GoJson
