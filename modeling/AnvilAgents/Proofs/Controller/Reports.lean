import AnvilAgents.Controller.Reconcile

/-! What is left of a run's status reports once they are cut to the last ones. -/

namespace AnvilAgents.Controller

open List

/-- How many reports a status keeps. -/
def maxReports : Nat := 25

/-- The last report with a decision. -/
def lastDecision (reports : List AgentRunStatusReport) : Option AgentRunStatusReport :=
  reports.reverse.find? agentRunReportHasDecision

/-- The last reports; when none of them has a decision, the first makes room for the latest earlier
report that has one. -/
def agentRunTrimStatusReports (reports : List AgentRunStatusReport) : List AgentRunStatusReport :=
  if reports.length ≤ maxReports then reports
  else
    let trimmed := reports.drop (reports.length - maxReports)
    if trimmed.any agentRunReportHasDecision then trimmed
    else
      match lastDecision (reports.take (reports.length - maxReports)) with
      | some report => trimmed.set 0 report
      | none => trimmed

/-- All but one of the reports that a status has room for, which are the last ones. -/
def recentReports (reports : List AgentRunStatusReport) : List AgentRunStatusReport :=
  reports.drop (reports.length - 24)

/-- The report in the place that is left: the one before the recent ones, or the last decision before
them when none of them decides. -/
def placedReport (reports : List AgentRunStatusReport) : Option AgentRunStatusReport :=
  let early := reports.take (reports.length - 24)
  if (recentReports reports).any agentRunReportHasDecision then early.getLast?
  else (lastDecision early).or early.getLast?

variable {reports : List AgentRunStatusReport}

/-- A decision in the later part hides those before it. -/
theorem lastDecision_append (old new : List AgentRunStatusReport) :
    lastDecision (old ++ new) = (lastDecision new).or (lastDecision old) := by
  simp only [lastDecision, reverse_append, find?_append]

theorem lastDecision_singleton (report : AgentRunStatusReport) :
    lastDecision [report] = if agentRunReportHasDecision report then some report else none := by
  by_cases decided : agentRunReportHasDecision report <;> simp [lastDecision, decided]

theorem lastDecision_isSome :
    (lastDecision reports).isSome = reports.any agentRunReportHasDecision := by
  rw [Bool.eq_iff_iff]
  simp [lastDecision]

/-- The decision that a fold of reports ends with is that of the last report that has one. -/
theorem foldl_applyReport_decision (status : AgentRunStatus) (reports : List AgentRunStatusReport) :
    (reports.foldl applyReport status).decision =
      match lastDecision reports with
      | some report => (applyReport {} report).decision
      | none => status.decision := by
  -- The last report is applied last, so the list is taken apart from its end.
  induction reports using reverseRecOn with
  | nil => rfl
  | append_singleton reports report ih =>
    rw [foldl_append, lastDecision_append]
    by_cases decided : agentRunReportHasDecision report
    · simp [lastDecision, decided, applyReport]
    · simpa [lastDecision, decided, applyReport] using ih

/-- What is kept: the recent reports, after the one in the place that is left. -/
theorem agentRunTrimStatusReports_eq (reports : List AgentRunStatusReport) :
    agentRunTrimStatusReports reports = (placedReport reports).toList ++ recentReports reports := by
  have split := take_append_drop (reports.length - 24) reports
  have size : (reports.drop (reports.length - 24)).length = min reports.length 24 := by
    rw [length_drop]
    omega
  unfold agentRunTrimStatusReports placedReport recentReports
  -- What comes before the recent reports is nothing, or ends with the report that may give way.
  generalize reports.take (reports.length - 24) = early at split ⊢
  generalize reports.drop (reports.length - 24) = recent at split size ⊢
  subst split
  rcases eq_nil_or_concat' early with rfl | ⟨old, first, rfl⟩
  · simp only [nil_append] at size ⊢
    rw [if_pos (by simp only [maxReports]; omega)]
    simp [lastDecision]
  · simp only [length_append, length_singleton] at size ⊢
    have cut : old.length + 1 + recent.length - maxReports = old.length := by
      simp only [maxReports]
      omega
    rw [cut, append_assoc, drop_left, take_left, getLast?_concat, lastDecision_append,
      lastDecision_singleton]
    split
    next short =>
      have none : old = [] := by
        simp only [maxReports] at short
        exact length_eq_zero_iff.mp (by omega)
      subst none
      by_cases decided : agentRunReportHasDecision first <;> simp [lastDecision, decided]
    next =>
      by_cases later : recent.any agentRunReportHasDecision
      · simp [later]
      · by_cases decided : agentRunReportHasDecision first
        · simp [later, decided]
        · cases latest : lastDecision old <;> simp [later, decided]

/-- A report in the place that is left comes from before the recent ones. -/
theorem placedReport_mem {report : AgentRunStatusReport} (placed : placedReport reports = some report) :
    report ∈ reports.take (reports.length - 24) := by
  simp only [placedReport] at placed
  split at placed
  · exact mem_of_getLast? placed
  · rcases Option.or_eq_some_iff.mp placed with last | ⟨-, edge⟩
    · exact mem_reverse.mp (mem_of_find?_eq_some last)
    · exact mem_of_getLast? edge

theorem lastDecision_trim (reports : List AgentRunStatusReport) :
    lastDecision (agentRunTrimStatusReports reports) = lastDecision reports := by
  have whole := lastDecision_append (reports.take (reports.length - 24)) (recentReports reports)
  rw [recentReports, take_append_drop] at whole
  rw [agentRunTrimStatusReports_eq, lastDecision_append, whole, recentReports]
  by_cases decided : (recentReports reports).any agentRunReportHasDecision
  · -- A recent report decides, so what comes before does not count.
    have some := lastDecision_isSome.trans decided
    rw [recentReports] at some
    rw [Option.or_of_isSome some, Option.or_of_isSome some]
  · congr 1
    simp only [placedReport, if_neg decided]
    generalize reports.take (reports.length - 24) = early
    cases latest : lastDecision early with
    | some report =>
      have decides : agentRunReportHasDecision report := find?_some latest
      simp [lastDecision_singleton, decides]
    | none =>
      cases edge : early.getLast? with
      | none => rfl
      | some report =>
        have undecided := find?_eq_none.mp latest report (mem_reverse.mpr (mem_of_getLast? edge))
        simp [lastDecision_singleton, undecided]

/-- The kept reports are among the reports, in their order, and there are not too many of them. -/
theorem agentRunTrimStatusReports_sublist (reports : List AgentRunStatusReport) :
    (agentRunTrimStatusReports reports).Sublist reports ∧
      (agentRunTrimStatusReports reports).length ≤ maxReports := by
  have size : (recentReports reports).length ≤ 24 := by
    rw [recentReports, length_drop]
    omega
  rw [agentRunTrimStatusReports_eq]
  cases placed : placedReport reports with
  | none => exact ⟨drop_sublist _ _, size.trans (by decide)⟩
  | some report =>
    refine ⟨?_, Nat.succ_le_succ size⟩
    have early := singleton_sublist.mpr (placedReport_mem placed)
    simpa [recentReports] using early.append (Sublist.refl (recentReports reports))

/-- Cutting the reports keeps their order, at most as many as a status holds, all of them when they
fit, the last report with a decision, and with it the decision. -/
theorem trim_keeps_decision (status : AgentRunStatus) (reports : List AgentRunStatusReport) :
    (agentRunTrimStatusReports reports).length ≤ 25 ∧
      (agentRunTrimStatusReports reports).Sublist reports ∧
      (reports.length ≤ 25 → agentRunTrimStatusReports reports = reports) ∧
      (∀ report, lastDecision reports = some report →
        report ∈ agentRunTrimStatusReports reports) ∧
      (agentRunApplyStatusReports status (agentRunTrimStatusReports reports)).decision =
        (agentRunApplyStatusReports status reports).decision := by
  obtain ⟨ordered, size⟩ := agentRunTrimStatusReports_sublist reports
  have same := lastDecision_trim reports
  refine ⟨size, ordered, fun short => if_pos short, fun report last => ?_, ?_⟩
  · -- The last decision of what is kept is that report, so it is kept.
    rw [← same] at last
    exact mem_reverse.mp (mem_of_find?_eq_some last)
  · have folded (reports : List AgentRunStatusReport) :
        (agentRunApplyStatusReports status reports).decision =
          match lastDecision reports with
          | some report => (applyReport {} report).decision
          | none => status.decision := by
      unfold agentRunApplyStatusReports
      split
      case isTrue empty => rw [empty]; rfl
      case isFalse => rw [foldl_applyReport_decision]
    rw [folded, folded, same]

end AnvilAgents.Controller
