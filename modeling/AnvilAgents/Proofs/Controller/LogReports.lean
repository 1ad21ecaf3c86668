import AnvilAgents.Proofs.Controller.Reports
import AnvilAgents.Proofs.Controller.SingleExecution

/-!
What a completed run takes from the log of its runner.

A scanner reads the log and stops at the first line that does not fit its buffer, and a status has
room for few of the reports read until then.
-/

namespace AnvilAgents.Controller

open Text List

/-- What comes before a report within its line. -/
def agentRunStatusLinePrefix : String := "ANVIL_AGENT_RUN_STATUS_JSON="

/-- What follows the first occurrence of a mark. -/
def afterMark (mark : List Char) : List Char → Option (List Char)
  | [] => none
  | c :: rest =>
    if mark.isPrefixOf (c :: rest) then some ((c :: rest).drop mark.length)
    else afterMark mark rest

/-- A scanner's buffer, which has to hold a line and its end. -/
def scannerBufferBytes : Nat := 1024 * 1024

def logLines (output : String) : List String :=
  (output.toList.splitOn '\n').map String.ofList

-- What a JSON text holds, normalized; none if it is no report, or an empty one.
variable (decode : String → Option AgentRunStatusReport) (output : String)

/-- The report that a line carries. -/
def lineReport (line : String) : Option AgentRunStatusReport := do
  let rest ← afterMark agentRunStatusLinePrefix.toList (trimSpace line).toList
  let raw := trimSpace (String.ofList rest)
  if raw = "" then none else decode raw

/-- The reports of a whole log. -/
def logReports : List AgentRunStatusReport :=
  (logLines output).filterMap (lineReport decode)

/-- The reports before the first line that does not fit. -/
def scannedReports : List AgentRunStatusReport :=
  ((logLines output).takeWhile fun line => line.utf8ByteSize < scannerBufferBytes).filterMap
    (lineReport decode)

def agentRunStatusReportsFromOutput : List AgentRunStatusReport :=
  agentRunTrimStatusReports (scannedReports decode output)

/-- Whether a report asks for a human. -/
def asksHuman (report : AgentRunStatusReport) : Bool :=
  agentRunReportsNeedHuman [report]

/-- The last link to a pull request; empty when there is none. -/
def lastLink (reports : List AgentRunStatusReport) : String :=
  match reports.reverse.find? fun report => !isBlank report.pullRequestURL with
  | some report => trimSpace report.pullRequestURL
  | none => ""

/-- Applied to an empty status, reports leave themselves and the last of their links. -/
theorem agentRunApplyStatusReports_empty (reports : List AgentRunStatusReport) :
    (agentRunApplyStatusReports {} reports).reports = reports ∧
      (agentRunApplyStatusReports {} reports).pullRequestURL = lastLink reports := by
  have folded (status : AgentRunStatus) (unlinked : status.pullRequestURL = "") :
      (reports.foldl applyReport status).reports = status.reports ∧
        (reports.foldl applyReport status).pullRequestURL = lastLink reports := by
    -- The last report is applied last, so the list is taken apart from its end.
    induction reports using reverseRecOn with
    | nil => exact ⟨rfl, unlinked⟩
    | append_singleton reports report ih =>
      rw [foldl_append]
      by_cases blank : isBlank report.pullRequestURL
      · by_cases decided : agentRunReportHasDecision report <;>
          simpa [applyReport, lastLink, blank, decided] using ih
      · by_cases decided : agentRunReportHasDecision report <;>
          simpa [applyReport, lastLink, blank, decided] using ih.1
  unfold agentRunApplyStatusReports
  split
  next none =>
    subst none
    exact ⟨rfl, rfl⟩
  next => exact folded _ rfl

section Completion

variable (r : AgentRunReconciler) (obj effective : AgentRun) (now : Nat)

/-- The status of a run whose Job completed with these reports. -/
def completedWith (reports : List AgentRunStatusReport) : AgentRunStatus :=
  completedStatus r obj effective (agentRunApplyStatusReports {} reports) now

theorem completedWith_ends (reports : List AgentRunStatusReport) :
    (completedWith r obj effective now reports).phase =
        (if reports.any asksHuman then .needsHuman else .succeeded) ∧
      (completedWith r obj effective now reports).pullRequestURL = lastLink reports := by
  obtain ⟨kept, link⟩ := agentRunApplyStatusReports_empty reports
  have asks : agentRunReportsNeedHuman reports = reports.any asksHuman :=
    congrArg reports.any (funext fun report => by simp [asksHuman, agentRunReportsNeedHuman])
  unfold completedWith completedStatus
  simp only [kept, asks]
  split
  · exact ⟨rfl, link⟩
  · exact ⟨rfl, link⟩

/-- What is read of a log is part of it. -/
theorem fromOutput_sublist :
    (agentRunStatusReportsFromOutput decode output).Sublist (logReports decode output) :=
  (agentRunTrimStatusReports_sublist _).1.trans ((takeWhile_sublist _).filterMap _)

/-- A completed run ends as the reports of the whole log tell, and with the last link of the log,
just when the reports of the scanned lines that have a place in a status ask for a human whenever
some report does, and the last link among them is that of the log. -/
theorem human_remembered_iff :
    ((completedWith r obj effective now (agentRunStatusReportsFromOutput decode output)).phase =
        (completedWith r obj effective now (logReports decode output)).phase ∧
      (completedWith r obj effective now
          (agentRunStatusReportsFromOutput decode output)).pullRequestURL =
        (completedWith r obj effective now (logReports decode output)).pullRequestURL) ↔
    ((∃ report ∈ logReports decode output, asksHuman report) →
      ∃ report, (report ∈ recentReports (scannedReports decode output) ∨
        placedReport (scannedReports decode output) = some report) ∧ asksHuman report) ∧
    lastLink ((placedReport (scannedReports decode output)).toList ++
      recentReports (scannedReports decode output)) = lastLink (logReports decode output) := by
  have among : (agentRunStatusReportsFromOutput decode output).any asksHuman →
      (logReports decode output).any asksHuman := by
    simp only [any_eq_true]
    exact fun ⟨report, member, asks⟩ => ⟨report, (fromOutput_sublist ..).subset member, asks⟩
  have told : (agentRunStatusReportsFromOutput decode output).any asksHuman ↔
      ∃ report, (report ∈ recentReports (scannedReports decode output) ∨
        placedReport (scannedReports decode output) = some report) ∧ asksHuman report := by
    simp only [any_eq_true, agentRunStatusReportsFromOutput, agentRunTrimStatusReports_eq,
      mem_append, Option.mem_toList, or_comm]
  simp only [completedWith_ends]
  rw [← told, ← any_eq_true, ← agentRunTrimStatusReports_eq]
  refine and_congr_left fun _ => ?_
  -- What is kept asks for a human only if the log does, so the phases differ in one case.
  generalize (logReports decode output).any asksHuman = asked at among ⊢
  generalize (agentRunStatusReportsFromOutput decode output).any asksHuman = kept at among ⊢
  cases asked <;> cases kept <;> simp_all

end Completion

section Sample

/-- A log of whole lines. -/
def logOf (lines : List String) : String :=
  String.ofList (['\n'].intercalate (lines.map String.toList))

theorem logLines_logOf {lines : List String} (some : lines ≠ [])
    (whole : ∀ line ∈ lines, '\n' ∉ line.toList) : logLines (logOf lines) = lines := by
  have texts : ∀ chars ∈ lines.map String.toList, '\n' ∉ chars := by simpa using whole
  rw [logLines, logOf, String.toList_ofList, splitOn_intercalate _ texts (by simpa using some)]
  simp [Function.comp_def]

/-- Two reports, by their JSON texts. -/
def sampleDecode (raw : String) : Option AgentRunStatusReport :=
  if raw = "\x7b\"needsHuman\":true\x7d" then some { needsHuman := true }
  else if raw = "\x7b\"action\":\"noted\"\x7d" then some { action := "noted" }
  else none

/-- A request for a human, followed by as many decisions as a status keeps. -/
def sampleLines : List String :=
  (agentRunStatusLinePrefix ++ "\x7b\"needsHuman\":true\x7d") ::
    replicate 25 (agentRunStatusLinePrefix ++ "\x7b\"action\":\"noted\"\x7d")

/-- How a run with these reports ends. -/
def sampleEnd (reports : List AgentRunStatusReport) : AgentRunPhase :=
  let run : AgentRun := ⟨⟨"ns", "run"⟩, 1, 1, 1, 0, false, {}, {}, {}⟩
  (completedWith sampleReconciler run run 0 reports).phase

/-- The run of that log ends as succeeded though a report asks for a human. -/
theorem human_forgotten :
    sampleEnd (agentRunStatusReportsFromOutput sampleDecode (logOf sampleLines)) = .succeeded ∧
      sampleEnd (logReports sampleDecode (logOf sampleLines)) = .needsHuman := by
  have lines : logLines (logOf sampleLines) = sampleLines := by
    refine logLines_logOf (cons_ne_nil _ _) fun line member => ?_
    rcases mem_cons.mp member with rfl | later
    · decide
    · rw [eq_of_mem_replicate later]
      decide
  have whole : sampleLines.filterMap (lineReport sampleDecode) =
      { needsHuman := true } :: replicate 25 { action := "noted" } := by
    rw [sampleLines, filterMap_cons_some (b := { needsHuman := true }) (by decide +kernel),
      filterMap_replicate_of_some (b := { action := "noted" }) (by decide +kernel)]
  have fits : sampleLines.takeWhile (fun line => line.utf8ByteSize < scannerBufferBytes) =
      sampleLines := by decide
  rw [agentRunStatusReportsFromOutput, scannedReports, logReports, lines, fits, whole]
  decide +kernel

end Sample

end AnvilAgents.Controller
