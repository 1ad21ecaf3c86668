import Mathlib.Data.List.Sort

/-! Finite tables: a lookup function together with the keys that can be listed. -/

/--
A table from keys to values, listed in the order in which its keys were first written.

Every row is listed, and no key is listed twice.
-/
structure Table (K V : Type) where
  keys : List K
  get : K → Option V
  listed : ∀ key value, get key = some value → key ∈ keys
  nodup : keys.Nodup

namespace Table

open Function List

variable {K V : Type}

def empty : Table K V where
  keys := []
  get _ := none
  listed := by simp
  nodup := .nil

def values (t : Table K V) : List V :=
  t.keys.filterMap t.get

variable [DecidableEq K]

/-- A key put on a list it was not on. -/
theorem nodup_listing {keys : List K} (nodup : keys.Nodup) (key : K) :
    (if key ∈ keys then keys else keys ++ [key]).Nodup := by
  split
  next => exact nodup
  next absent =>
    refine nodup.append (nodup_singleton key) ?_
    simpa using absent

def put (t : Table K V) (key : K) (value : V) : Table K V where
  keys := if key ∈ t.keys then t.keys else t.keys ++ [key]
  get := update t.get key (some value)
  listed other row found := by
    by_cases same : other = key
    · subst same
      split <;> simp_all
    · rw [update_of_ne same] at found
      have before := t.listed other row found
      split
      · exact before
      · exact mem_append_left _ before
  nodup := nodup_listing t.nodup key

/-- Remove a row; its key stays listed and yields nothing. -/
def erase (t : Table K V) (key : K) : Table K V where
  keys := t.keys
  get := update t.get key none
  listed other row found := by
    by_cases same : other = key
    · simp [same] at found
    · exact t.listed other row (by rwa [update_of_ne same] at found)
  nodup := t.nodup

@[simp]
theorem get_put_self (t : Table K V) (key : K) (value : V) :
    (t.put key value).get key = some value := by
  simp [put]

variable {key other : K}

@[simp]
theorem get_put_of_ne (t : Table K V) (value : V) (distinct : other ≠ key) :
    (t.put key value).get other = t.get other := by
  simp [put, distinct]

@[simp]
theorem get_erase_self (t : Table K V) (key : K) : (t.erase key).get key = none := by
  simp [erase]

@[simp]
theorem get_erase_of_ne (t : Table K V) (distinct : other ≠ key) :
    (t.erase key).get other = t.get other := by
  simp [erase, distinct]

variable {t : Table K V}

/-- A row found after a write is the one written, or was there before. -/
theorem get_put_cases {value found : V} (present : (t.put key value).get other = some found) :
    (other = key ∧ value = found) ∨ (other ≠ key ∧ t.get other = some found) := by
  by_cases same : other = key
  · subst same
    exact .inl ⟨rfl, by simpa using present⟩
  · exact .inr ⟨same, by simpa [same] using present⟩

omit [DecidableEq K] in
/-- Every listed value is the row of some key. -/
theorem exists_get_of_mem_values {value : V} (member : value ∈ t.values) :
    ∃ key, t.get key = some value := by
  obtain ⟨key, -, found⟩ := mem_filterMap.mp member
  exact ⟨key, found⟩

theorem put_self {key : K} {value : V} (found : t.get key = some value) :
    t.put key value = t := by
  obtain ⟨keys, get, listed, nodup⟩ := t
  have present : key ∈ keys := listed key value found
  have same : update get key (some value) = get := by
    rw [← found]
    exact update_eq_self key get
  simp only [put, present, same, if_true]

omit [DecidableEq K] in
theorem mem_values {key : K} {value : V} (found : t.get key = some value) :
    value ∈ t.values :=
  mem_filterMap.mpr ⟨key, t.listed key value found, found⟩

omit [DecidableEq K] in
/-- No row is listed twice when each is stored under its own key. -/
theorem nodup_values (owner : V → K)
    (owned : ∀ key value, t.get key = some value → owner value = key) : t.values.Nodup := by
  refine t.nodup.filterMap fun key other value found again => ?_
  rw [← owned key value found, owned other value again]

end Table

/-- Sorting forgets the order of its input when no two entries can change places. -/
theorem List.Perm.insertionSort_eq {α : Type} {r : α → α → Prop} [DecidableRel r] [Std.Total r]
    [IsTrans α r] {l l' : List α} (perm : l.Perm l')
    (strict : ∀ a ∈ l, ∀ b ∈ l, r a b → r b a → a = b) : l.insertionSort r = l'.insertionSort r := by
  have sorted : (l.insertionSort r).Perm (l'.insertionSort r) :=
    ((l.perm_insertionSort r).trans perm).trans (l'.perm_insertionSort r).symm
  refine sorted.eq_of_pairwise (fun a b left right => ?_) (l.pairwise_insertionSort r)
    (l'.pairwise_insertionSort r)
  have inLeft : a ∈ l := (l.mem_insertionSort r).mp left
  have inRight : b ∈ l := perm.mem_iff.mpr ((l'.mem_insertionSort r).mp right)
  exact strict a inLeft b inRight
