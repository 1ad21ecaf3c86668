/-! The element of a list that remains when each one may replace the one chosen so far. -/

namespace Select

open List

variable {α : Type}

/-- Take the next element when there is none yet or when it replaces the chosen one. -/
def take (replaces : (chosen candidate : α) → Bool) (chosen : Option α) (candidate : α) : Option α :=
  match chosen with
  | none => some candidate
  | some best => if replaces best candidate then some candidate else some best

def choose (replaces : (chosen candidate : α) → Bool) (list : List α) : Option α :=
  list.foldl (take replaces) none

variable {replaces : α → α → Bool} {list : List α} {chosen : α}

theorem take_some (replaces : α → α → Bool) (best candidate : α) :
    take replaces (some best) candidate = some candidate ∨
      take replaces (some best) candidate = some best := by
  unfold take
  dsimp only
  split
  · exact .inl rfl
  · exact .inr rfl

theorem fold_some (replaces : α → α → Bool) (list : List α) (best : α) :
    ∃ chosen, list.foldl (take replaces) (some best) = some chosen ∧
      (chosen = best ∨ chosen ∈ list) := by
  -- Once an element is chosen it is only ever replaced by another one of the list.
  induction list generalizing best with
  | nil => exact ⟨best, rfl, .inl rfl⟩
  | cons head rest ih =>
    rw [foldl_cons]
    rcases take_some replaces best head with replaced | kept
    · obtain ⟨chosen, found, origin⟩ := ih head
      rw [replaced]
      exact ⟨chosen, found, .inr (origin.elim (fun same => same ▸ .head _) (.tail _))⟩
    · obtain ⟨chosen, found, origin⟩ := ih best
      rw [kept]
      exact ⟨chosen, found, origin.imp id (.tail _)⟩

theorem choose_eq_none : choose replaces list = none ↔ list = [] := by
  cases list with
  | nil => simp [choose]
  | cons head rest =>
    obtain ⟨chosen, found, -⟩ := fold_some replaces rest head
    exact ⟨fun absent => (nomatch absent.symm.trans found), nofun⟩

theorem mem_of_choose (found : choose replaces list = some chosen) : chosen ∈ list := by
  cases list with
  | nil => cases found
  | cons head rest =>
    obtain ⟨other, found', origin⟩ := fold_some replaces rest head
    cases found.symm.trans found'
    exact origin.elim (fun same => same ▸ .head _) (.tail _)

end Select
