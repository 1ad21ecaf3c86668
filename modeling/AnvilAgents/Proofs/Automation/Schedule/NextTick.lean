import AnvilAgents.Automation.Schedule

/-! The next due time of a schedule in the arithmetic of Go's durations. -/

namespace AnvilAgents.Automation.Schedule

/-- The function returns, and what it returns is the next tick of the schedule. -/
def ReturnsNextTick (schedule : AgentSchedule) (manual : Bool) (scheduledNext now : Int) : Prop :=
  ∃ fuel next, agentScheduleNextRunAfterCreation schedule scheduledNext now manual fuel = some next ∧
    IsLeast (GoTime.ticks scheduledNext (schedule.spec.intervalSeconds * 1000000000) now) next

/-- The loop ends at most one duration after `now`, unless it has nothing to do. -/
theorem advancePast_le {interval now next last : Int} {fuel : Nat}
    (found : advancePast interval now fuel next = some last) :
    last ≤ max next (now + interval) := by
  induction fuel generalizing next with
  | zero => cases found
  | succ fuel ih =>
    rw [advancePast] at found
    split at found
    · cases found
      omega
    · have := ih found
      omega

/-- With a positive duration the loop ends, at the first tick after `now`. -/
theorem advancePast_returns {interval : Int} (positive : 0 < interval) (now next : Int)
    {fuel : Nat} (enough : (now - next + 1).toNat < fuel) :
    ∃ k ≥ 0, advancePast interval now fuel next = some (next + k * interval) ∧
      now < next + k * interval ∧ (k = 0 ∨ next + (k - 1) * interval ≤ now) := by
  induction fuel generalizing next with
  | zero => omega
  | succ fuel ih =>
    rw [advancePast]
    split
    · exact ⟨0, le_rfl, by simp, by omega, .inl rfl⟩
    · obtain ⟨k, nonneg, found, later, first⟩ := ih (next + interval) (by omega)
      -- One turn adds one interval, so the counts of the rest are shifted by one.
      have shift (j : Int) : next + interval + j * interval = next + (j + 1) * interval := by
        rw [Int.add_mul, Int.one_mul, Int.add_assoc, Int.add_comm interval]
      rw [shift] at found later
      refine ⟨k + 1, by omega, found, later, .inr ?_⟩
      rcases first with rfl | before
      · omega
      · rwa [shift, Int.sub_add_cancel, ← Int.add_sub_cancel k 1] at before

/-- A due time that lies ahead is returned as it is, and is the next tick. -/
theorem returns_ahead (schedule : AgentSchedule) (manual : Bool)
    (admitted : 1 ≤ schedule.spec.intervalSeconds) {scheduledNext now : Int}
    (ahead : now < scheduledNext) : ReturnsNextTick schedule manual scheduledNext now := by
  have positive : 0 < schedule.spec.intervalSeconds * 1000000000 := by omega
  have least := GoTime.isLeast_tick (k := 0) positive le_rfl (by simpa using ahead) (.inl rfl)
  refine ⟨1, scheduledNext, ?_, by simpa using least⟩
  cases manual with
  | true => rfl
  | false => exact if_pos ahead

/-- A due time that lies ahead is always the next tick. For those that have passed the function
returns the next tick exactly when the run is not a manual one and the interval in nanoseconds fits
into an `int64`. -/
theorem returns_nextTick_iff (schedule : AgentSchedule) (manual : Bool)
    (admitted : 1 ≤ schedule.spec.intervalSeconds) :
    (∀ scheduledNext now, now < scheduledNext →
      ReturnsNextTick schedule manual scheduledNext now) ∧
    ((∀ scheduledNext now, scheduledNext ≤ now →
      ReturnsNextTick schedule manual scheduledNext now) ↔
        manual = false ∧ schedule.spec.intervalSeconds ≤ 9223372036) := by
  refine ⟨fun _ _ ahead => returns_ahead schedule manual admitted ahead, ?_, ?_⟩
  · intro returns
    obtain ⟨fuel, next, found, ⟨later, k, count, tick⟩, -⟩ := returns 0 0 le_rfl
    cases manual with
    | true =>
      cases found
      exact absurd later (Int.lt_irrefl 0)
    | false =>
      refine ⟨rfl, Int.not_lt.mp fun large => ?_⟩
      -- One duration after the start is before the first tick, which is more than a duration away.
      have near := advancePast_le found
      have short := GoTime.int64_lt (schedule.spec.intervalSeconds * 1000000000)
      have far := Int.mul_le_mul_of_nonneg_right (show 1 ≤ k by grind)
        (show 0 ≤ schedule.spec.intervalSeconds * 1000000000 by omega)
      rw [GoTime.seconds] at near
      omega
  · rintro ⟨rfl, small⟩ scheduledNext now -
    have positive : 0 < schedule.spec.intervalSeconds * 1000000000 := by omega
    have fits := GoTime.int64_eq (n := schedule.spec.intervalSeconds * 1000000000) (by omega)
      (by omega)
    obtain ⟨k, nonneg, found, later, first⟩ := advancePast_returns positive now scheduledNext
      (Nat.lt_succ_self _)
    refine ⟨(now - scheduledNext + 1).toNat.succ, _, ?_,
      GoTime.isLeast_tick positive nonneg later first⟩
    rw [agentScheduleNextRunAfterCreation, GoTime.seconds, fits]
    exact found

/-- A schedule with this interval. -/
def every (intervalSeconds : Int) : AgentSchedule where
  ns := "anvil"
  name := "tick"
  uid := 1
  creationTimestamp := 1
  spec := { intervalSeconds }

theorem hourly_returns_nextTick :
    1 ≤ (every 3600).spec.intervalSeconds ∧ ReturnsNextTick (every 3600) false 0 0 :=
  ⟨by decide, (returns_nextTick_iff (every 3600) false (by decide)).2.mpr (by decide) 0 0 le_rfl⟩

/-- An interval of nearly three hundred years wraps to a negative duration, with which the loop goes
back in time. -/
theorem wrapped_interval_never_returns :
    1 ≤ (every 9223372037).spec.intervalSeconds ∧ ¬ ReturnsNextTick (every 9223372037) false 0 0 := by
  refine ⟨by decide, ?_⟩
  rintro ⟨fuel, next, found, ⟨later, -⟩, -⟩
  exact absurd (advancePast_le found) (Int.not_le.mpr later)

end AnvilAgents.Automation.Schedule
