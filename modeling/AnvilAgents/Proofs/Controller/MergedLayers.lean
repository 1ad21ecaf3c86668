import AnvilAgents.Proofs.Controller.References

/-!
Lists of an execution that are merged layer by layer.

Each merge keeps a table of positions beside the growing list. With names everywhere and distinct
keys at first, the table is right, and the last layer that has a key gives its value.
-/

namespace AnvilAgents.Controller

open Text Positions List

variable {α : Type}

structure EnvVar (Source : Type) where
  name : String
  value : String := ""
  valueFrom : Option Source := none

structure LocalObjectReference where
  name : String

section Merge

variable (name key : α → String)

/-- An entry without a name is kept as it is. -/
def mergeEntry (merged : List α × Table String Nat) (entry : α) : List α × Table String Nat :=
  if isBlank (name entry) then (merged.1 ++ [entry], merged.2)
  else upsert key entry merged.1 merged.2

/-- The positions of the entries that have a name. -/
def namedPositions (base : List α) : Table String Nat :=
  base.zipIdx.foldl (fun table entry =>
    if isBlank (name entry.1) then table else table.put (name entry.1) entry.2) .empty

/-- Entries that are told apart by their names as they are. -/
def mergeNamed (base additions : List α) : List α :=
  (additions.foldl (mergeEntry name name) (base, namedPositions name base)).1

end Merge

def mergeEnvVars {Source : Type} :
    List (EnvVar Source) → List (EnvVar Source) → List (EnvVar Source) :=
  mergeNamed EnvVar.name

def mergeLocalObjectRefs :
    List LocalObjectReference → List LocalObjectReference → List LocalObjectReference :=
  mergeNamed LocalObjectReference.name

/-- Every entry has a name. -/
def Named (name : α → String) (entries : List α) : Prop :=
  ∀ entry ∈ entries, isBlank (name entry) = false

/-- The base in its order, then the new keys in the order of their first addition, each with the
value of its last addition. -/
structure LastWins (key : α → String) (base additions merged : List α) : Prop where
  distinct : (merged.map key).Nodup
  order : merged.map key =
    base.map key ++ ((additions.map key).filter (· ∉ base.map key)).eraseDups
  value : ∀ k, merged.find? (key · = k) = (additions.reverse ++ base).find? (key · = k)

/-- The last layer wins, and it does not matter which layers are merged first. -/
structure Layered (name key : α → String) (merge : List α → List α → List α) : Prop where
  lastWins : ∀ base additions, Named name base → (base.map key).Nodup → Named name additions →
    LastWins key base additions (merge base additions)
  assoc : ∀ a b c, Named name a → Named name b → Named name c → (a.map key).Nodup →
    (b.map key).Nodup → merge (merge a b) c = merge a (merge b c)

variable {name key : α → String} {base additions : List α} {table : Table String Nat}

/-- With a right table, entries that have names are put in one after the other. -/
theorem mergeEntry_foldl (named : Named name additions) (distinct : (base.map key).Nodup)
    (indexes : Indexes (fun _ => True) table (base.map key)) :
    (additions.foldl (mergeEntry name key) (base, table)).1 = putAll key base additions := by
  -- The table stays right, and keys stay distinct.
  induction additions generalizing base table with
  | nil => rfl
  | cons entry additions ih =>
    have step : mergeEntry name key (base, table) entry =
        (put key base entry, (upsert key entry base table).2) := by
      rw [mergeEntry, if_neg (by simp [named entry (.head _)]), ← indexes.upsert_eq_put distinct]
    have right := (indexes.upsert entry).1
    rw [indexes.upsert_eq_put distinct] at right
    rw [foldl_cons, step]
    exact ih (fun other later => named other (.tail _ later)) (nodup_put distinct) right

theorem Named.putAll (first : Named name base) (second : Named name additions) :
    Named name (putAll key base additions) := by
  induction additions generalizing base with
  | nil => exact first
  | cons entry additions ih =>
    refine ih (fun other member => ?_) fun other later => second other (.tail _ later)
    rcases mem_put member with old | rfl
    · exact first other old
    · exact second other (.head _)

/-- Merging is putting in the additions, so the facts about that hold of it. -/
theorem layered_of_table {table : List α → Table String Nat}
    (indexes : ∀ base, Named name base → Indexes (fun _ => True) (table base) (base.map key)) :
    Layered name key fun base additions =>
      (additions.foldl (mergeEntry name key) (base, table base)).1 := by
  have merges {base additions : List α} (first : Named name base) (distinct : (base.map key).Nodup)
      (second : Named name additions) := mergeEntry_foldl second distinct (indexes base first)
  constructor
  · intro base additions first distinct second
    rw [merges first distinct second]
    exact ⟨nodup_putAll distinct, map_putAll base additions, find?_putAll base additions⟩
  · intro a b c namedA namedB namedC distinctA distinctB
    rw [merges namedA distinctA namedB, merges namedB distinctB namedC,
      merges (namedA.putAll namedB) (nodup_putAll distinctA) namedC,
      merges namedA distinctA (namedB.putAll namedC)]
    exact putAll_putAll distinctB c

theorem namedPositions_eq (named : Named name base) :
    namedPositions name base = positions name base := by
  refine foldl_ext _ _ _ fun table entry member => ?_
  rw [if_neg (by simp [named _ (fst_mem_of_mem_zipIdx member)])]

/-- The four merges are layered. -/
theorem merges_layered :
    (∀ Source, Layered EnvVar.name EnvVar.name (@mergeEnvVars Source)) ∧
      Layered AgentRunDataVolumeRef.name (refKey AgentRunDataVolumeRef.volume)
        mergeAgentRunDataVolumeRefs ∧
      Layered LocalObjectReference.name LocalObjectReference.name mergeLocalObjectRefs ∧
      Layered NamespacedObjectReference.name (refKey id) mergeNamespacedRefs := by
  have named {α : Type} {name : α → String} (base : List α) (named : Named name base) :
      Indexes (fun _ => True) (namedPositions name base) (base.map name) :=
    namedPositions_eq named ▸ indexes_positions base
  exact ⟨fun _ => layered_of_table named, layered_of_table fun base _ => indexes_positions base,
    layered_of_table named, layered_of_table fun base _ => indexes_positions base⟩

end AnvilAgents.Controller
