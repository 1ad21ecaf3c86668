import AnvilAgents.Proofs.Automation.Chain.OneStep

/-!
Backoff after an instance that ended badly.

The deadline is taken from the status while it lies ahead, and else from the run of the last step. Without
that run it is counted from the clock, and so it never passes.
-/

namespace AnvilAgents.Automation.Chain

open Option Nat

variable {s : World} {status : AgentChainStatus} {last : AgentChainStepRunStatus}

/-- Once a deadline has passed, automatic starts are no longer held back. -/
def BackoffExpires (s : World) (status : AgentChainStatus) : Prop :=
  ∀ t u : Nat, agentChainTerminalBackoffUntil { s with now := t } status = some u →
    ∀ t' : Nat, u ≤ t' → agentChainTerminalBackoffUntil { s with now := t' } status = none

/-- The run of a step, as far as it still exists. -/
def runOf (s : World) (last : AgentChainStepRunStatus) : Option Run :=
  (agentChainRuns s).find? fun run => last.runRef == some (run.ref s.chain)

/-- The delay of a step as the code computes it. -/
def delayOf (s : World) (last : AgentChainStepRunStatus) : Int :=
  GoTime.seconds (backoffDelay s.chain last.phase)

/-- A last step with a backoff has its run, and no deadline before that of the run is stored; without
the run, its delay has wrapped to one that is over at once. -/
def BackoffAnchored (s : World) (status : AgentChainStatus) : Prop :=
  ∀ last, status.stepRuns.getLast? = some last → 0 < backoffDelay s.chain last.phase →
    match runOf s last with
    | some run => ∀ next : Nat, status.nextStartAt = some next → next = 0 ∨
        run.terminalAt + delayOf s last ≤ next
    | none => delayOf s last ≤ 0

/-- Until when a step holds back automatic starts, at a time. -/
def resumeAt (s : World) (last : AgentChainStepRunStatus) (t : Nat) : Int :=
  (match runOf s last with
    | some run => run.terminalAt
    | none => t) + delayOf s last

/-- No deadline is stored that lies ahead. -/
def Passed (status : AgentChainStatus) (t : Nat) : Prop :=
  ∀ next : Nat, status.nextStartAt = some next → next ≤ t

/-- While the last step has a backoff, starts are held back by the stored deadline, then by the run. -/
theorem terminalBackoffUntil_eq (ended : status.stepRuns.getLast? = some last)
    (positive : 0 < backoffDelay s.chain last.phase) (t : Nat) :
    (∀ next : Nat, status.nextStartAt = some next → t < next →
      agentChainTerminalBackoffUntil { s with now := t } status = some next) ∧
    (Passed status t → agentChainTerminalBackoffUntil { s with now := t } status =
      if resumeAt s last t ≤ t then none else some (resumeAt s last t).toNat) := by
  -- Only a chain with a backoff has such a delay, and only for the two phases.
  obtain ⟨backoff, given⟩ : ∃ backoff, s.chain.spec.backoff = some backoff := by
    refine ne_none_iff_exists'.mp fun none => ?_
    simp [backoffDelay, none] at positive
  have bad : last.phase = .failed ∨ last.phase = .needsHuman := by
    revert positive
    cases last.phase <;> simp [backoffDelay, given]
  have computed : agentChainTerminalBackoffUntil.computed { s with now := t } last =
      if resumeAt s last t ≤ t then none else some (resumeAt s last t).toNat :=
    if_congr (or_iff_right (Int.not_le.mpr positive)) rfl rfl
  simp only [agentChainTerminalBackoffUntil, given, ended, computed, bad, and_true]
  refine ⟨fun next stored early => ?_, fun passed => ?_⟩
  · simp [stored, early]
  · cases stored : status.nextStartAt with
    | none => rfl
    | some next => exact if_neg (Nat.not_lt.mpr (passed next stored))

/-- Without a backoff of the last step, only the stored deadline holds back starts. -/
theorem terminalBackoffUntil_stored {t u : Nat} (ended : status.stepRuns.getLast? = some last)
    (unset : backoffDelay s.chain last.phase ≤ 0)
    (held : agentChainTerminalBackoffUntil { s with now := t } status = some u) :
    status.nextStartAt = some u ∧ t < u := by
  have computed : agentChainTerminalBackoffUntil.computed { s with now := t } last = none :=
    if_pos (.inl unset)
  simp only [agentChainTerminalBackoffUntil, ended] at held
  cases given : s.chain.spec.backoff with
  | none => simp [given] at held
  | some backoff =>
    cases stored : status.nextStartAt with
    | none => simp [given, stored, computed] at held
    | some next =>
      simp only [given, stored, computed, ite_none_right_eq_some, some.injEq] at held
      exact ⟨congrArg some held.2, held.2 ▸ held.1.1⟩

/-- Backoff expires just if the last step still has its run, and nothing earlier is stored. -/
theorem backoff_expires_iff (s : World) (status : AgentChainStatus) :
    BackoffExpires s status ↔ BackoffAnchored s status := by
  constructor
  · intro expires last ended positive
    have held := terminalBackoffUntil_eq ended positive
    cases found : runOf s last with
    | none =>
      show delayOf s last ≤ 0
      by_contra wait
      -- Past the deadline that is stored, every time is held back from itself on.
      have again (t : Nat) (late : status.nextStartAt.getD 0 ≤ t) :
          agentChainTerminalBackoffUntil { s with now := t } status =
            some (t + delayOf s last).toNat := by
        have resumes : resumeAt s last t = t + delayOf s last := by rw [resumeAt, found]
        rw [(held t).2 (fun next stored => by rwa [stored] at late), resumes, if_neg (by omega)]
      have ended := expires _ _ (again _ (le_refl _)) _ (le_refl _)
      rw [again _ (by rw [← Int.ofNat_le]; omega)] at ended
      cases ended
    | some run =>
      intro next stored
      by_contra early
      obtain ⟨set, early⟩ := not_or.mp early
      -- The stored deadline passes before that of the run.
      have ended := expires 0 next ((held 0).1 next stored (Nat.pos_of_ne_zero set)) next (le_refl _)
      have passed : Passed status next := fun _ stored' => (some.inj (stored'.symm.trans stored)).le
      rw [(held next).2 passed, resumeAt, found, if_neg early] at ended
      cases ended
  · intro anchored t u held t' late
    cases ended : status.stepRuns.getLast? with
    | none => simp [agentChainTerminalBackoffUntil, ended] at held
    | some last =>
      by_cases unset : backoffDelay s.chain last.phase ≤ 0
      · by_contra again
        obtain ⟨u', again⟩ := ne_none_iff_exists'.mp again
        obtain ⟨stored, -⟩ := terminalBackoffUntil_stored ended unset held
        obtain ⟨stored', ahead⟩ := terminalBackoffUntil_stored ended unset again
        cases stored.symm.trans stored'
        exact absurd late (Nat.not_le.mpr ahead)
      have anchored := anchored last ended (Int.not_le.mp unset)
      have holds := terminalBackoffUntil_eq ended (Int.not_le.mp unset)
      -- Both the stored deadline and that of the run have passed by then.
      obtain ⟨passed, resumed⟩ : Passed status t' ∧ resumeAt s last t' ≤ t' := by
        unfold resumeAt
        by_cases ahead : ∃ next : Nat, status.nextStartAt = some next ∧ t < next
        · obtain ⟨next, stored, early⟩ := ahead
          cases ((holds t).1 next stored early).symm.trans held
          refine ⟨fun _ stored' => some.inj (stored'.symm.trans stored) ▸ late, ?_⟩
          cases found : runOf s last with
          | none => simp only [found] at anchored ⊢; omega
          | some run =>
            simp only [found] at anchored ⊢
            have := anchored _ stored
            omega
        · have past : Passed status t := fun next stored =>
            Nat.not_lt.mp fun early => ahead ⟨next, stored, early⟩
          rw [(holds t).2 past, resumeAt] at held
          obtain ⟨waits, rfl⟩ := ite_none_left_eq_some.mp held |>.imp id some.inj
          cases found : runOf s last with
          | none =>
            simp only [found] at anchored waits
            omega
          | some run =>
            simp only [found] at waits late ⊢
            refine ⟨fun next stored => ?_, by omega⟩
            have := past next stored
            omega
      rw [(holds t').2 passed, if_pos resumed]

/-- A chain whose last step failed, and was deleted since. -/
def failedWorld : World where
  now := 0
  chain := { sampleChain [{ name := "build" }] with
    spec := { steps := [{ name := "build" }], backoff := some { failedSeconds := 60 } } }

def failedStatus : AgentChainStatus where
  stepRuns := [
    { step := "build", instanceID := "i-1", runRef := some { name := "gone", ns := "anvil" }, runUID := 1,
      phase := .failed, sourceGeneration := 1, workflowDigest := none }]

/-- Starts that are held back at first for a minute are held back again when it is over. -/
theorem backoff_never_expires : ¬BackoffExpires failedWorld failedStatus := by
  intro expires
  have held : agentChainTerminalBackoffUntil { failedWorld with now := 0 } failedStatus =
      some (60 * second) := by
    decide
  have ended := expires 0 (60 * second) held (60 * second) (le_refl _)
  exact absurd ended (by decide)

end AnvilAgents.Automation.Chain
