/-! What the outcome of a computation that may fail tells of its parts. -/

namespace Fallible

variable {ε α β : Type} {rest : α → Except ε β} {first : Except ε α}

theorem bind_ok {value : β} (ran : (first >>= rest) = .ok value) :
    ∃ between, first = .ok between ∧ rest between = .ok value := by
  cases first with
  | error err => cases ran
  | ok between => exact ⟨between, rfl, ran⟩

/-- Every failure meets a condition. -/
def Fails (P : ε → Prop) : Except ε α → Prop
  | .error err => P err
  | .ok _ => True

theorem Fails.bind {P : ε → Prop} (now : Fails P first)
    (later : ∀ value, first = .ok value → Fails P (rest value)) : Fails P (first >>= rest) := by
  cases first with
  | error err => exact now
  | ok value => exact later value rfl

/-- A check that let the computation go on did not apply. -/
theorem of_check_ok {c : Prop} [Decidable c] {error : ε} {rest : Except ε α} {value : α}
    (ran : (if c then .error error else rest) = .ok value) : ¬c ∧ rest = .ok value := by
  split at ran
  next => cases ran
  next passed => exact ⟨passed, ran⟩

end Fallible
