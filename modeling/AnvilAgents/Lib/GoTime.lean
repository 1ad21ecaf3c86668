import Mathlib.Order.Bounds.Basic

/-! Go's durations, which are nanoseconds in an `int64`, and the ticks of a fixed interval. -/

namespace GoTime

/-- What an `int64` holds after an operation with this exact result. -/
def int64 (n : Int) : Int := (n + 9223372036854775808) % 18446744073709551616 - 9223372036854775808

/-- The number of seconds as a duration. -/
def seconds (n : Int) : Int := int64 (n * 1000000000)

/-- The difference of two instants, cut off where a duration ends. -/
def sub (t u : Int) : Int := max (-9223372036854775808) (min 9223372036854775807 (t - u))

theorem int64_lt (n : Int) : int64 n < 9223372036854775808 := by
  unfold int64
  omega

theorem int64_eq {n : Int} (low : -9223372036854775808 ≤ n) (high : n < 9223372036854775808) :
    int64 n = n := by
  unfold int64
  omega

/-- What does not fit loses all of the range at least once. -/
theorem int64_add_le {n : Int} (large : 9223372036854775808 ≤ n) :
    int64 n + 18446744073709551616 ≤ n := by
  unfold int64
  omega

/-- The ticks from `base` on that are later than `now`. -/
def ticks (base interval now : Int) : Set Int :=
  {t | now < t ∧ ∃ k ≥ 0, t = base + k * interval}

/-- A tick after `now` is the first such one when the tick before it is not after `now`. -/
theorem isLeast_tick {base interval now k : Int} (positive : 0 < interval) (nonneg : 0 ≤ k)
    (later : now < base + k * interval) (first : k = 0 ∨ base + (k - 1) * interval ≤ now) :
    IsLeast (ticks base interval now) (base + k * interval) := by
  refine ⟨⟨later, k, nonneg, rfl⟩, ?_⟩
  rintro t ⟨past, j, count, rfl⟩
  refine Int.not_lt.mp fun less => ?_
  -- A tick before this one is not after the one just before it, which has passed.
  have fewer : j < k := Int.lt_of_mul_lt_mul_right (by omega) positive.le
  have := Int.mul_le_mul_of_nonneg_right (Int.le_sub_one_of_lt fewer) positive.le
  omega

end GoTime
