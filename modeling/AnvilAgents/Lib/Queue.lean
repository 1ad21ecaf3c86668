import Mathlib.Data.Finset.Max
import AnvilAgents.Lib.Table

/-! Queues over a table: a row is admitted while fewer than a limit of others are ahead of it. -/

namespace Table

open List

variable {K V : Type}

/-- Filtering what a list of keys looks up keeps as many values as keys that look up a kept one. -/
theorem length_filter_filterMap (keys : List K) (get : K → Option V) (check : V → Bool) :
    ((keys.filterMap get).filter check).length =
      (keys.filter fun key => (get key).any check).length := by
  induction keys with
  | nil => rfl
  | cons key keys ih =>
    -- The first key yields nothing, a value that is dropped, or a value that is kept.
    cases found : get key with
    | none => simp [found, ih]
    | some value =>
      cases kept : check value with
      | false | true => simp [found, kept, ih]

variable [DecidableEq K] {t t' : Table K V}

/-- The keys whose rows pass a check. -/
def keysWhere (t : Table K V) (check : V → Bool) : Finset K :=
  t.keys.toFinset.filter fun key => (t.get key).any check = true

theorem mem_keysWhere {check : V → Bool} {key : K} :
    key ∈ t.keysWhere check ↔ ∃ value, t.get key = some value ∧ check value = true := by
  simp only [keysWhere, Finset.mem_filter, mem_toFinset, Option.any_eq_true]
  constructor
  · exact fun member => member.2
  · -- A key that has a row is listed.
    rintro ⟨value, found, passes⟩
    exact ⟨t.listed key value found, value, found, passes⟩

/-- Counting rows counts keys, since no key is listed twice. -/
theorem length_filter_values (t : Table K V) (check : V → Bool) :
    (t.values.filter check).length = (t.keysWhere check).card := by
  have once : (t.keys.filter fun key => (t.get key).any check).Nodup := t.nodup.filter _
  rw [values, length_filter_filterMap, ← toFinset_card_of_nodup once, toFinset_filter]
  rfl

/-- A check that only rows can pass that passed another one before is passed by no more rows. -/
theorem card_keysWhere_le {check check' : V → Bool}
    (earlier : ∀ key value, t'.get key = some value → check' value = true →
      ∃ before, t.get key = some before ∧ check before = true) :
    (t'.keysWhere check').card ≤ (t.keysWhere check).card := by
  refine Finset.card_le_card fun key member => ?_
  obtain ⟨value, found, passes⟩ := mem_keysWhere.mp member
  exact mem_keysWhere.mpr (earlier key value found passes)

/--
No more rows are admitted than the limit.

Admitted rows are ranked, every row is behind those of lower rank, and fewer rows than the limit are
ahead of any. The row of highest rank then has all the others ahead of it.
-/
theorem admitted_le {admitted : V → Bool} {ahead : V → V → Bool} {limit : Nat} (rank : V → Nat)
    (ranked : ∀ key key' value value', t.get key = some value → t.get key' = some value' →
      admitted value = true → admitted value' = true → rank value = rank value' → key = key')
    (ordered : ∀ key key' value value', t.get key = some value → t.get key' = some value' →
      admitted value = true → admitted value' = true → rank value < rank value' →
      ahead value value' = true)
    (few : ∀ key value, t.get key = some value → admitted value = true →
      (t.keysWhere (ahead · value)).card < limit) :
    (t.keysWhere admitted).card ≤ limit := by
  rcases (t.keysWhere admitted).eq_empty_or_nonempty with none | some
  · simp [none]
  · obtain ⟨last, member, highest⟩ := Finset.exists_max_image (t.keysWhere admitted)
      (fun key => (t.get key).elim 0 rank) some
    obtain ⟨value, found, passes⟩ := mem_keysWhere.mp member
    -- Every other admitted row is of lower rank than the last one.
    have others : (t.keysWhere admitted).erase last ⊆ t.keysWhere (ahead · value) := by
      intro key other
      obtain ⟨distinct, among⟩ := Finset.mem_erase.mp other
      obtain ⟨value', found', passes'⟩ := mem_keysWhere.mp among
      have below : rank value' ≤ rank value := by simpa [found, found'] using highest key among
      have apart : rank value' ≠ rank value := fun same =>
        distinct (ranked _ _ _ _ found' found passes' passes same)
      exact mem_keysWhere.mpr
        ⟨value', found', ordered _ _ _ _ found' found passes' passes (by omega)⟩
    have bound := Finset.card_le_card others
    rw [Finset.card_erase_of_mem member] at bound
    have behind := few last value found passes
    omega

end Table
