import AnvilAgents.Lib.Queue
import AnvilAgents.Controller.Contract

/-! Laws of the launch gates: when a queue lets a run through, and what queue order is. -/

namespace AnvilAgents

open Text List

/-- A scan that has a run to wait behind ends with one. -/
theorem scanAhead_blocked (limit : Nat) (ahead : List AgentRun) (count : Nat) (blockedBy : AgentRun) :
    (ahead.foldl (scanAhead limit) (count, some blockedBy)).2 ≠ none := by
  induction ahead generalizing count blockedBy with
  | nil => simp
  | cons run ahead ih =>
    rw [foldl_cons, scanAhead]
    -- The scan may replace the run it waits behind, but never drops it.
    split
    · exact ih _ _
    · exact ih _ _

/-- A scan that ends with none to wait behind counted fewer runs than the limit. -/
theorem scanAhead_free (limit : Nat) (ahead : List AgentRun) (count : Nat) (room : count < limit)
    (free : (ahead.foldl (scanAhead limit) (count, none)).2 = none) :
    count + ahead.length < limit := by
  induction ahead generalizing count with
  | nil => simpa using room
  | cons run ahead ih =>
    rw [foldl_cons, scanAhead] at free
    split at free
    next full =>
      -- From the limit on, every run counted is one to wait behind.
      exact absurd free (scanAhead_blocked limit ahead (count + 1) run)
    next notFull =>
      have rest := ih (count + 1) (by omega) free
      rw [length_cons]
      omega

/-- A queue lets its target through only while fewer runs than the limit are ahead. -/
theorem queuedBehind_free {limit : Nat} {ahead : List AgentRun} (positive : 0 < limit)
    (free : queuedBehind limit ahead = none) : ahead.length < limit := by
  have counted := scanAhead_free limit ahead 0 positive free
  omega

/-- No two runs are each ahead of the other. -/
theorem agentRunPrecedes_asymm {run run' : AgentRun} (first : agentRunPrecedes run run' = true) :
    agentRunPrecedes run' run = false := by
  unfold agentRunPrecedes at first ⊢
  by_cases dated : run.creationTimestamp ≠ 0 ∧ run'.creationTimestamp ≠ 0 ∧
      run.creationTimestamp ≠ run'.creationTimestamp
  · -- Runs of different seconds compare by time.
    have dated' : run'.creationTimestamp ≠ 0 ∧ run.creationTimestamp ≠ 0 ∧
        run'.creationTimestamp ≠ run.creationTimestamp := ⟨dated.2.1, dated.1, dated.2.2.symm⟩
    rw [if_pos dated, decide_eq_true_eq] at first
    rw [if_pos dated', decide_eq_false_iff_not]
    omega
  · -- All others compare by name.
    have dated' : ¬(run'.creationTimestamp ≠ 0 ∧ run.creationTimestamp ≠ 0 ∧
        run'.creationTimestamp ≠ run.creationTimestamp) :=
      fun both => dated ⟨both.2.1, both.1, both.2.2.symm⟩
    rw [if_neg dated, decide_eq_true_eq] at first
    rw [if_neg dated', decide_eq_false_iff_not]
    exact fun last => String.lt_asymm first last

/-- A reference with a name leads to the key it resolves to. -/
theorem referencedKey_named (ns : String) {ref : NamespacedObjectReference}
    (named : isBlank ref.name = false) : referencedKey ns (some ref) = some (ref.resolve ns) := by
  simp [referencedKey, named, NamespacedObjectReference.resolve]

/-- A text given twice yields what it yields when given once. -/
theorem firstNonEmpty_twice (value : String) : firstNonEmpty [value, value] = firstNonEmpty ["", value] := by
  simp only [firstNonEmpty, isBlank_empty, if_true]
  split <;> rfl

/--
A run and its effective form belong to the same application.

The profile the run was laid over has to be the one the gate reads.
-/
theorem resolveAgentRunApplicationName_effective {c : Cluster} {K : Know} {run effective : AgentRun}
    (shape : EffectiveRun K run effective)
    (current : ∀ key profile, K.profile = some (key, profile) → c.getProfile key = some profile) :
    resolveAgentRunApplicationName c effective = resolveAgentRunApplicationName c run := by
  obtain ⟨profile, harness, seen, spec⟩ := shape.spec
  -- Both specs name the same profile, so only what they make of it can differ.
  simp only [resolveAgentRunApplicationName, resolveAgentRunSpecApplicationName, shape.key, spec]
  have same : applicationProfile run.key.ns (agentRunApplyProfile run.spec profile harness) =
      applicationProfile run.key.ns run.spec := rfl
  rw [same]
  cases profile with
  | none => simp only [specApplicationName, agentRunApplyProfile, Option.bind_none, Option.or_none]
  | some profile =>
    obtain ⟨ref, named, given, near, read⟩ := seen
    have found : (applicationProfile run.key.ns run.spec).bind c.getProfile = some profile := by
      rw [applicationProfile, named, referencedKey_named run.key.ns given, Option.filter, if_pos
        (decide_eq_true near)]
      exact current _ _ read
    rw [found]
    cases direct : run.spec.applicationRef with
    | some application =>
      simp only [specApplicationName, agentRunApplyProfile, direct, Option.some_or]
    | none =>
      -- The application then comes from the profile on both sides.
      simp [specApplicationName, agentRunApplyProfile, direct, firstNonEmpty_twice]

end AnvilAgents
