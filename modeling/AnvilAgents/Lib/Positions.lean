import AnvilAgents.Lib.Table
import Mathlib.Data.List.Induction

/-! Lists with a table that tells at which position the entry of a key is. -/

namespace Positions

open List

variable {K α : Type} [DecidableEq K] (key : α → K)

/-- The positions of the entries of a list; of several with one key the last is found. -/
def positions (entries : List α) : Table K Nat :=
  entries.zipIdx.foldl (fun table entry => table.put (key entry.1) entry.2) .empty

/-- Put an entry in the place of the one with its key, or at the end. -/
def upsert (entry : α) (entries : List α) (table : Table K Nat) : List α × Table K Nat :=
  match table.get (key entry) with
  | some position => (entries.set position entry, table)
  | none => (entries ++ [entry], table.put (key entry) entries.length)

/-- What the table finds is there, and it finds every key that is to be found. -/
structure Indexes (listed : K → Prop) (table : Table K Nat) (keys : List K) : Prop where
  points : ∀ k i, table.get k = some i → keys[i]? = some k
  covers : ∀ k ∈ keys, listed k → (table.get k).isSome

variable {key} {listed : K → Prop} {table : Table K Nat} {keys : List K} {entries : List α}

theorem getElem?_concat_of_some {entry : α} {i : Nat} (there : entries[i]? = some entry) (last : α) :
    (entries ++ [last])[i]? = some entry := by
  obtain ⟨inside, -⟩ := List.getElem?_eq_some_iff.mp there
  rw [getElem?_append_left inside, there]

/-- A key at the end is found there. -/
theorem Indexes.push (indexes : Indexes listed table keys) (last : K) :
    Indexes listed (table.put last keys.length) (keys ++ [last]) where
  points k i found := by
    rcases Table.get_put_cases found with ⟨rfl, rfl⟩ | ⟨-, before⟩
    · exact getElem?_concat_length
    · exact getElem?_concat_of_some (indexes.points k i before) last
  covers k member needed := by
    by_cases same : k = last
    · simp [same]
    · rw [Table.get_put_of_ne _ _ same]
      exact indexes.covers k (by simpa [same] using member) needed

theorem indexes_positions (entries : List α) :
    Indexes listed (positions key entries) (entries.map key) := by
  -- By induction from the end, where the last entry is put into the table.
  induction entries using reverseRecOn with
  | nil => exact ⟨nofun, nofun⟩
  | append_singleton entries entry ih =>
    have last : positions key (entries ++ [entry]) =
        (positions key entries).put (key entry) (entries.map key).length := by
      simp [positions, zipIdx_append]
    rw [last, map_append]
    exact ih.push (key entry)

/-- An entry takes the place of one with its key, or comes at the end if none was to be found. -/
theorem Indexes.upsert (indexes : Indexes listed table (entries.map key)) (entry : α) :
    Indexes listed (upsert key entry entries table).2 ((upsert key entry entries table).1.map key) ∧
      ((upsert key entry entries table).1.map key = entries.map key ∧ key entry ∈ entries.map key ∨
        (upsert key entry entries table).1.map key = entries.map key ++ [key entry] ∧
          (listed (key entry) → key entry ∉ entries.map key)) := by
  unfold Positions.upsert
  cases found : table.get (key entry) with
  | none =>
    have pushed := indexes.push (key entry)
    rw [length_map] at pushed
    refine ⟨by rw [map_append]; exact pushed, .inr ⟨map_append, fun needed member => ?_⟩⟩
    have there := indexes.covers _ member needed
    rw [found] at there
    cases there
  | some position =>
    have there := indexes.points _ _ found
    obtain ⟨inside, same⟩ := List.getElem?_eq_some_iff.mp there
    have keys : (entries.set position entry).map key = entries.map key := by
      rw [map_set, ← same, set_getElem_self]
    refine ⟨?_, .inl ⟨keys, mem_of_getElem? there⟩⟩
    rw [keys]
    exact indexes

/-! ### Lists without repetitions -/

section Put

variable (key)

/-- Put an entry in the place of the first one with its key, or at the end, without a table. -/
def put : List α → α → List α
  | [], entry => [entry]
  | old :: rest, entry => if key old = key entry then entry :: rest else old :: put rest entry

variable {key} {entry other : α}

theorem put_of_notMem (absent : key entry ∉ entries.map key) :
    put key entries entry = entries ++ [entry] := by
  induction entries with
  | nil => rfl
  | cons old rest ih =>
    simp only [map_cons, mem_cons, not_or] at absent
    rw [put, if_neg (Ne.symm absent.1), ih absent.2, cons_append]

theorem put_of_getElem? (distinct : (entries.map key).Nodup) {position : Nat}
    (there : (entries.map key)[position]? = some (key entry)) :
    put key entries entry = entries.set position entry := by
  induction entries generalizing position with
  | nil => cases there
  | cons old rest ih =>
    obtain ⟨absent, distinct⟩ := nodup_cons.mp distinct
    cases position with
    | zero => rw [put, if_pos (Option.some.inj there), set_cons_zero]
    | succ position =>
      -- The key is behind the first entry, which therefore has another one.
      have later : (rest.map key)[position]? = some (key entry) := there
      have differs : key old ≠ key entry := fun same => absent (same ▸ mem_of_getElem? later)
      rw [put, if_neg differs, ih distinct later, set_cons_succ]

/-- A table that finds every key of a list without repetitions puts entries in their place. -/
theorem Indexes.upsert_eq_put (indexes : Indexes (fun _ => True) table (entries.map key))
    (distinct : (entries.map key).Nodup) (entry : α) :
    (Positions.upsert key entry entries table).1 = put key entries entry := by
  unfold Positions.upsert
  cases found : table.get (key entry) with
  | some position => exact (put_of_getElem? distinct (indexes.points _ _ found)).symm
  | none =>
    refine (put_of_notMem fun member => ?_).symm
    have there := indexes.covers _ member trivial
    rw [found] at there
    cases there

theorem map_put (entries : List α) (entry : α) : (put key entries entry).map key =
    if key entry ∈ entries.map key then entries.map key else entries.map key ++ [key entry] := by
  induction entries with
  | nil => rfl
  | cons old rest ih =>
    by_cases same : key old = key entry
    · simp [put, same]
    · simp only [put, if_neg same, map_cons, ih, mem_cons, Ne.symm same, false_or]
      split <;> rfl

theorem nodup_put (distinct : (entries.map key).Nodup) : ((put key entries entry).map key).Nodup := by
  rw [map_put]
  exact Table.nodup_listing distinct _

theorem find?_put (entries : List α) (entry : α) (k : K) :
    (put key entries entry).find? (key · = k) =
      if key entry = k then some entry else entries.find? (key · = k) := by
  induction entries with
  | nil => by_cases hit : key entry = k <;> simp [put, hit]
  | cons old rest ih =>
    by_cases same : key old = key entry
    · by_cases hit : key entry = k <;> simp [put, same, hit]
    · by_cases hit : key old = k
      · subst hit
        simp [put, same, Ne.symm same]
      · simp [put, same, hit, ih]

theorem mem_put (member : other ∈ put key entries entry) : other ∈ entries ∨ other = entry := by
  induction entries with
  | nil => exact .inr (mem_singleton.mp member)
  | cons old rest ih =>
    unfold put at member
    split at member <;> grind

theorem put_put (same : key other = key entry) :
    put key (put key entries other) entry = put key entries entry := by
  induction entries with
  | nil => simp [put, same]
  | cons old rest ih => 
    by_cases here : key old = key entry
    · simp [put, same, here]
    · simp [put, same, here, ih]

theorem put_comm (differs : key other ≠ key entry) (present : key entry ∈ entries.map key) :
    put key (put key entries other) entry = put key (put key entries entry) other := by
  induction entries with
  | nil => cases present
  | cons old rest ih =>
    by_cases first : key old = key entry
    · simp [put, first, Ne.symm differs]
    · have later : key entry ∈ rest.map key := by simpa [Ne.symm first] using present
      by_cases second : key old = key other
      · simp [put, second, differs]
      · simp [put, first, second, ih later]


/-- The additions are put in one after the other. -/
def putAll (key : α → K) (base additions : List α) : List α :=
  additions.foldl (put key) base

variable {base additions : List α}

theorem nodup_putAll (distinct : (base.map key).Nodup) :
    ((putAll key base additions).map key).Nodup := by
  induction additions generalizing base with
  | nil => exact distinct
  | cons entry additions ih => exact ih (nodup_put distinct)

theorem map_putAll (base additions : List α) : (putAll key base additions).map key =
    base.map key ++ ((additions.map key).filter (· ∉ base.map key)).eraseDups := by
  induction additions generalizing base with
  | nil => simp [putAll]
  | cons entry additions ih =>
    have step := ih (put key base entry)
    rw [map_put] at step
    refine step.trans ?_
    rw [map_cons]
    generalize base.map key = keys
    by_cases present : key entry ∈ keys
    · simp [present]
    · -- A new key is the first of the new ones, and later additions of it are none.
      have later : (fun k => decide (k ∉ keys ++ [key entry])) =
          fun k => !k == key entry && decide (k ∉ keys) := by
        funext k
        rw [Bool.eq_iff_iff]
        simp [and_comm]
      rw [if_neg present, filter_cons_of_pos (by simpa using present), eraseDups_cons, filter_filter,
        later, append_assoc, singleton_append]

theorem find?_putAll (base additions : List α) (k : K) :
    (putAll key base additions).find? (key · = k) =
      (additions.reverse ++ base).find? (key · = k) := by
  induction additions generalizing base with
  | nil => rfl
  | cons entry additions ih =>
    refine (ih _).trans ?_
    rw [find?_append, find?_put]
    by_cases hit : key entry = k <;> simp [hit]

theorem putAll_put (later : key entry ∉ additions.map key) (present : key entry ∈ base.map key) :
    put key (putAll key base additions) entry = putAll key (put key base entry) additions := by
  induction additions generalizing base with
  | nil => rfl
  | cons other additions ih =>
    simp only [map_cons, mem_cons, not_or] at later
    have still : key entry ∈ (put key base other).map key := by
      rw [map_put]
      split
      · exact present
      · exact mem_append_left _ present
    refine (ih later.2 still).trans ?_
    exact congrArg (putAll key · additions) (put_comm (Ne.symm later.1) present)

/-- An entry put into the additions is put in after them. -/
theorem putAll_of_put (distinct : (additions.map key).Nodup) :
    putAll key base (put key additions entry) = put key (putAll key base additions) entry := by
  induction additions generalizing base with
  | nil => rfl
  | cons first rest ih =>
    obtain ⟨absent, distinct⟩ := nodup_cons.mp distinct
    by_cases same : key first = key entry
    · -- The first addition is replaced, and no later one has its key.
      have present : key entry ∈ (put key base first).map key := by
        rw [map_put, same]
        split
        · assumption
        · exact mem_append_right _ (mem_singleton_self _)
      rw [put, if_pos same]
      refine Eq.trans ?_ (putAll_put (same ▸ absent) present).symm
      rw [put_put same]
      rfl
    · rw [put, if_neg same]
      exact ih distinct

theorem putAll_putAll (distinct : (additions.map key).Nodup) (more : List α) :
    putAll key (putAll key base additions) more = putAll key base (putAll key additions more) := by
  induction more generalizing additions with
  | nil => rfl
  | cons entry more ih =>
    refine Eq.trans ?_ (ih (nodup_put distinct))
    rw [putAll_of_put distinct]
    rfl

end Put

end Positions
