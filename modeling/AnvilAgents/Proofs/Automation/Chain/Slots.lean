import AnvilAgents.Automation.Chain

/-! The cadence of a chain in the arithmetic of Go's durations. -/

namespace AnvilAgents.Automation.Chain

open GoTime

variable (chain : AgentChain) (status : AgentChainStatus)

/-- The interval of a chain, by exact arithmetic. -/
def exactInterval : Int := chain.spec.startIntervalSeconds * 1000000000

/-- Where the cadence of a chain starts. -/
def cadenceStart : Int :=
  match status.nextStartAt with
  | some next => next
  | none => firstStart chain

/-- The slot is the last one that is not after `now`. -/
def LastSlot (base interval now slot : Int) : Prop :=
  (∃ k ≥ 0, slot = base + k * interval) ∧ slot ≤ now ∧ now < slot + interval

/-- The start is the last slot, and the cadence goes on with the slot after it. -/
def Surrounds (now : Int) : Prop :=
  ∃ start, agentChainNextStartTime chain status now = some start ∧
    LastSlot (cadenceStart chain status) (exactInterval chain) now start ∧
    agentChainNextCadenceAfter start (interval chain) now = start + exactInterval chain

/-- How many intervals late a start may be and still be the last slot: one when it is stored, and as
many as fit into a duration when it is computed. -/
def slack : Int :=
  match status.nextStartAt with
  | some _ => 1
  | none => 9223372036854775807 / exactInterval chain + 1

theorem agentChainNextCadenceAfter_lt (base interval now : Int) :
    agentChainNextCadenceAfter base interval now < base + interval + 9223372036854775808 := by
  have := int64_lt (int64 ((sub now (base + interval)).tdiv interval + 1) * interval)
  dsimp only [agentChainNextCadenceAfter]
  split <;> omega

theorem agentChainNextCadenceAfter_of_lt {base interval now : Int} (soon : now < base + interval) :
    agentChainNextCadenceAfter base interval now = base + interval :=
  if_pos (.inr soon)

/-- The next cadence slot is right exactly when it is the first, or when the time from the first to
it fits into a duration. -/
theorem agentChainNextCadenceAfter_iff {base interval now : Int} (positive : 0 < interval) :
    IsLeast (ticks (base + interval) interval now) (agentChainNextCadenceAfter base interval now) ↔
      now < base + interval ∨
        ((now - (base + interval)) / interval + 1) * interval < 9223372036854775808 := by
  by_cases soon : now < base + interval
  · rw [agentChainNextCadenceAfter_of_lt soon]
    exact iff_of_true (by simpa using isLeast_tick (k := 0) positive le_rfl (by simpa) (.inl rfl))
      (.inl soon)
  -- The slot after `now` by exact arithmetic, and its distance from the first slot.
  have computed : agentChainNextCadenceAfter base interval now = base + interval +
      int64 (int64 ((sub now (base + interval)).tdiv interval + 1) * interval) :=
    if_neg (by omega)
  have later := Int.lt_ediv_add_one_mul_self (now - (base + interval)) positive
  have near := Int.ediv_mul_le (now - (base + interval)) positive.ne'
  have nonneg := Int.ediv_nonneg (show 0 ≤ now - (base + interval) by omega) positive.le
  generalize count : (now - (base + interval)) / interval = k at later near nonneg ⊢
  have right : IsLeast (ticks (base + interval) interval now) (base + interval + (k + 1) * interval) :=
    isLeast_tick positive (by omega) (by omega) (.inr (by rw [Int.add_sub_cancel]; omega))
  constructor
  · intro least
    have same := least.unique right
    rw [computed] at same
    have := int64_lt (int64 ((sub now (base + interval)).tdiv interval + 1) * interval)
    omega
  · intro fits
    have short : (k + 1) * interval < 9223372036854775808 := fits.resolve_left soon
    have small := Int.mul_le_mul_of_nonneg_left (Int.add_one_le_of_lt positive)
      (show 0 ≤ k + 1 by omega)
    have elapsed : sub now (base + interval) = now - (base + interval) := by
      unfold sub
      omega
    rw [computed, elapsed, Int.tdiv_eq_ediv_of_nonneg (by omega), count, int64_eq (n := k + 1)
      (by omega) (by omega), int64_eq (by omega) short]
    exact right

section

variable {chain : AgentChain} {now : Int} (automatic : 0 < chain.spec.startIntervalSeconds)
include automatic

theorem interval_eq (small : chain.spec.startIntervalSeconds ≤ 9223372036) :
    interval chain = exactInterval chain :=
  int64_eq (by omega) (by omega)

/-- The cadence goes on with the next slot exactly when the interval fits into a duration. -/
theorem next_slot_iff {start : Int} (soon : now < start + exactInterval chain) :
    agentChainNextCadenceAfter start (interval chain) now =
      start + exactInterval chain ↔ chain.spec.startIntervalSeconds ≤ 9223372036 := by
  constructor
  · intro next
    refine Int.not_lt.mp fun large => ?_
    -- What an interval loses when it wraps is more than a duration can make up for.
    have lost := int64_add_le (n := exactInterval chain) (by unfold exactInterval; omega)
    have bound := agentChainNextCadenceAfter_lt start (interval chain) now
    rw [next] at bound
    change _ < _ + int64 (exactInterval chain) + _ at bound
    omega
  · intro small
    rw [interval_eq automatic small, agentChainNextCadenceAfter_of_lt soon]

/-- The start is the last slot exactly when it is not too late. -/
theorem start_lastSlot_iff {status : AgentChainStatus}
    (small : chain.spec.startIntervalSeconds ≤ 9223372036)
    (overdue : cadenceStart chain status ≤ now) :
    (∃ start, agentChainNextStartTime chain status now = some start ∧
      LastSlot (cadenceStart chain status) (exactInterval chain) now start) ↔
    now < cadenceStart chain status + slack chain status * exactInterval chain := by
  have positive : 0 < exactInterval chain := by
    unfold exactInterval
    omega
  rw [agentChainNextStartTime, if_neg (by omega)]
  simp only [latestCadence, interval_eq automatic small]
  cases stored : status.nextStartAt with
  | some next =>
    simp only [cadenceStart, slack, stored, Option.some.injEq, exists_eq_left', Int.one_mul]
      at overdue ⊢
    exact ⟨fun last => last.2.2, fun soon => ⟨⟨0, le_rfl, by simp⟩, overdue, soon⟩⟩
  | none =>
    simp only [cadenceStart, slack, stored] at overdue ⊢
    generalize firstStart chain = base at overdue ⊢
    -- The elapsed time, cut off where a duration ends, decides the count of intervals.
    obtain ⟨elapsed, cut⟩ : ∃ e, e = min (now - base) 9223372036854775807 := ⟨_, rfl⟩
    have same : sub now base = elapsed := by
      unfold sub
      omega
    have count := Int.ediv_nonneg (show 0 ≤ elapsed by omega) positive.le
    have below := Int.mul_nonneg count positive.le
    have whole := Int.ediv_mul_le elapsed positive.ne'
    have rest := Int.lt_ediv_add_one_mul_self elapsed positive
    have most := Int.mul_le_mul_of_nonneg_right
      (Int.ediv_le_ediv positive (show elapsed ≤ 9223372036854775807 by omega)) positive.le
    have computed : (if base < now then
        some (base + int64 ((sub now base).tdiv (exactInterval chain) * exactInterval chain))
        else some base) = some (base + elapsed / exactInterval chain * exactInterval chain) := by
      rw [same, Int.tdiv_eq_ediv_of_nonneg (by omega), int64_eq (by omega) (by omega)]
      split
      · rfl
      · congr 1
        omega
    simp only [computed, Option.some.injEq, exists_eq_left', LastSlot, Int.add_mul, Int.one_mul]
      at rest ⊢
    constructor
    · rintro ⟨-, -, soon⟩
      omega
    · intro soon
      refine ⟨⟨_, count, rfl⟩, by omega, ?_⟩
      rcases Int.le_total (now - base) 9223372036854775807 with held | beyond
      · omega
      · rw [show elapsed = 9223372036854775807 by omega]
        omega

end

/-- When the next cadence slot is the right one, and when the start and the slot after it are those
around `now`. -/
theorem cadence_slots_iff {chain : AgentChain} {status : AgentChainStatus} {base interval now : Int}
    (positive : 0 < interval) (automatic : 0 < chain.spec.startIntervalSeconds)
    (overdue : cadenceStart chain status ≤ now) :
    (IsLeast (ticks (base + interval) interval now) (agentChainNextCadenceAfter base interval now) ↔
      now < base + interval ∨
        ((now - (base + interval)) / interval + 1) * interval < 9223372036854775808) ∧
    (Surrounds chain status now ↔ chain.spec.startIntervalSeconds ≤ 9223372036 ∧
      now < cadenceStart chain status + slack chain status * exactInterval chain) := by
  refine ⟨agentChainNextCadenceAfter_iff positive, ?_⟩
  constructor
  · rintro ⟨start, found, last, next⟩
    have small := (next_slot_iff automatic last.2.2).mp next
    exact ⟨small, (start_lastSlot_iff automatic small overdue).mp ⟨start, found, last⟩⟩
  · rintro ⟨small, soon⟩
    obtain ⟨start, found, last⟩ := (start_lastSlot_iff automatic small overdue).mpr soon
    exact ⟨start, found, last, (next_slot_iff automatic last.2.2).mpr small⟩

/-- A chain that starts every minute. -/
def minutely : AgentChain where
  ns := "anvil"
  name := "loop"
  uid := 1
  creationTimestamp := 0
  spec := { startIntervalSeconds := 60, steps := [] }

theorem minutely_surrounds : Surrounds minutely {} 3600000000000 :=
  have slots := @cadence_slots_iff minutely {} 0 1 3600000000000 (by decide) (by decide) (by decide)
  slots.2.mpr (by decide)

/-- A start that is stored and two minutes late is no longer the last slot. -/
theorem stored_start_is_old :
    ¬ Surrounds minutely { nextStartAt := some 0 } 120000000000 := by
  rintro ⟨start, found, ⟨-, -, soon⟩, -⟩
  cases found
  exact absurd soon (by decide)

end AnvilAgents.Automation.Chain
