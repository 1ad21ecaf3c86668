import AnvilAgents.Controller.Terminal

/-! One reconcile of an AgentRun, from the first read to the last status patch. -/

namespace AnvilAgents

open Conc Text

variable (r : AgentRunReconciler) (obj : AgentRun) (status : AgentRunStatus) (now : Nat)

/-- Whether a generation change must leave the recorded execution alone. -/
def preserveExecution : Bool :=
  !agentRunPhaseTerminal status.phase &&
    ((status.launch.jobRef.any fun ref => !isBlank ref.name) ||
      agentRunLaunchReceiptComplete status.launch || status.launch.jobCreateAttemptedAt.isSome)

/-- The status a pass starts from: that of the run, or a blank one after a generation change. -/
def observedStatus : AgentRunStatus :=
  let status :=
    if obj.status.observedGeneration ≠ 0 ∧ obj.status.observedGeneration ≠ obj.generation ∧
        !preserveExecution obj.status then {}
    else obj.status
  { status with observedGeneration := obj.generation }

/-- The key a reference on a run in this namespace resolves to. -/
def NamespacedObjectReference.resolve (ref : NamespacedObjectReference) (ns : String) : Key :=
  ⟨firstNonEmpty [trimSpace ref.ns, ns], trimSpace ref.name⟩

/-- What a pass finds when it looks for the run's Job. -/
inductive JobLookup where
  | found (job : Job)
  | absent
  | missing (message : String)
deriving DecidableEq

/-- Look for the Job a reference names, or for the one Job the run owns when none is named. -/
def existingAgentRunJob (ref : Option NamespacedObjectReference) (expectedUID : UID)
    (allowPlannedMissing : Bool) : Pass JobLookup := do
  match ref.filter fun ref => !isBlank ref.name with
  | none =>
    let jobs ← ask (.listJobs obj.key.ns)
    match jobs.filter fun job =>
      job.snapshot.labels.run = sanitizeLabelValue obj.key.name && !job.deleting &&
        agentRunControllerOwnerMatches job.owner obj with
    | [] => return .absent
    | [job] => return .found job
    | _ => .fail ("AgentRun " ++ obj.key.text ++ " owns multiple harness Jobs; refusing to select one")
  | some ref =>
    let key := ref.resolve obj.key.ns
    if key.ns ≠ obj.key.ns then
      return .missing ("Agent run job reference " ++ key.text ++ " is outside AgentRun namespace " ++
        obj.key.ns ++ ".")
    else
      match ← ask (.getJob key) with
      | none =>
        if allowPlannedMissing && expectedUID = 0 then return .absent
        else return .missing ("Agent run job " ++ key.text ++ " no longer exists.")
      | some job =>
        if !agentRunControllerOwnerMatches job.owner obj then
          return .missing ("Agent run job " ++ key.text ++ " is not controller-owned by AgentRun " ++
            obj.key.text ++ " with the current UID.")
        else if expectedUID ≠ 0 ∧ job.uid ≠ expectedUID then
          return .missing ("Agent run job " ++ key.text ++ " UID " ++ toString job.uid ++
            " does not match recorded UID " ++ toString expectedUID ++ ".")
        else return .found job

/-- The status of a run whose recorded Job is gone. -/
def jobMissingStatus (message : String) : AgentRunStatus :=
  let status : AgentRunStatus := { status with
    phase := .failed
    completedAt := some (now / second)
    error := message }
  status.setReady obj.generation now false "HarnessJobMissing" message

/-- How long a chat turn may take to start. -/
def agentRunChatStartupBudget : Nat := 5 * 60 * second

/-- What a chat turn that did not start reports. -/
def agentRunChatStartupMessage : String :=
  "This chat turn did not start within 5 minutes. No runner Job was found. Send a new message to try again."

/-- A value the API server accepts for a label and that is not empty. -/
def isLabelValue (value : String) : Bool :=
  let inner (c : Char) : Bool := c.isAlphanum || c = '-' || c = '_' || c = '.'
  value ≠ "" && value.length ≤ 63 && value.toList.all inner &&
    (value.toList.head?.any Char.isAlphanum) && (value.toList.getLast?.any Char.isAlphanum)

/-- Whether a chat turn has used up its time to start without having launched anything. -/
def agentRunChatStartupExpired (run : AgentRun) (status : AgentRunStatus) (now : Nat) : Bool :=
  run.spec.sourceRef.kind = "ChatThread" && run.creationTimestamp ≠ 0 &&
    !agentRunPhaseTerminal status.phase && status.phase ≠ .running && status.startedAt.isNone &&
    status.launch.jobRef.isNone && status.launch.jobUID = 0 &&
    status.launch.jobCreateAttemptedAt.isNone && status.runnerPodRef.isNone &&
    isLabelValue run.notes.chatThread && isLabelValue run.notes.chatTurn &&
    run.notes.chatThread = run.spec.sourceRef.name &&
    (run.spec.sourceRef.ns = "" || run.spec.sourceRef.ns = run.key.ns) &&
    run.creationTimestamp * second + agentRunChatStartupBudget ≤ now

/-- Fail a chat turn that did not start, unless some Job of the run exists after all. -/
def reconcileAgentRunChatStartupDeadline : Pass Unit := do
  let jobs ← ask (.listJobs obj.key.ns)
  if jobs.any fun job => agentRunControllerOwnerMatches job.owner obj then return ()
  else
    let status : AgentRunStatus := { status with
      phase := .failed
      completedAt := some (now / second)
      error := agentRunChatStartupMessage }
    patchAgentRunStatus true obj { obj with
      status := status.setReady obj.generation now false "ChatStartupDeadlineExceeded"
        agentRunChatStartupMessage }

/-- Hold a run whose turn is meant for a live actor that is not wired, or that a replica owns. -/
def agentRunSubstrateHold : Option Blocked :=
  if obj.spec.harness.runtime ≠ .substrateActor then none
  else
    match claimForTurn obj.notes.standingClaim (trimSpace obj.notes.chatTurn) now claimTTL with
    | some claim => some ⟨.needsHuman, "StandingClaimed",
        "execution.runtime SubstrateActor standing turn \"" ++ claim.turnID ++
          "\" is owned by API replica \"" ++ claim.owner ++
          "\"; the controller yields and created no Kubernetes Job. " ++
          "See docs/standing-inprocess-harness.md (slice 4)."⟩
    | none =>
      if r.generateOnActor obj.spec then none
      else some ⟨.needsHuman, "SubstrateActorNotWired",
        "execution.runtime SubstrateActor is an API-first spike surface; live Substrate dispatch is " ++
          "not enabled in this build, so no Kubernetes Job was created. " ++
          "See docs/substrate-spike.md for the Kind e2e follow-up."⟩

/-- Hold a run whose turn a replica executes in process. -/
def agentRunInProcessHold : Option Blocked :=
  if obj.spec.harness.runtime ≠ .inProcess then none
  else
    match claimForTurn obj.notes.standingClaim (trimSpace obj.notes.chatTurn) now claimTTL with
    | some claim => some ⟨.needsHuman, "StandingClaimed",
        "execution.runtime InProcess standing turn \"" ++ claim.turnID ++
          "\" is owned by API replica \"" ++ claim.owner ++
          "\"; the controller yields and created no Kubernetes Job. " ++
          "See docs/standing-inprocess-harness.md (slice 4)."⟩
    | none => some ⟨.needsHuman, "InProcessNotWired",
        "execution.runtime InProcess is an API-first slice-1 surface; no standing in-process harness " ++
          "backend is wired in this build, so no Kubernetes Job was created. " ++
          "See docs/standing-inprocess-harness.md for the live-backend follow-up."⟩

/-- Why an effective run may not be launched: a bad spec first, then the holds. -/
def agentRunBlockingValidation (effective : AgentRun) (now : Nat) : Option Blocked :=
  match r.specViolation effective.spec with
  | some why => some why
  | none =>
    match agentRunSubstrateHold r effective now with
    | some why => some why
    | none => agentRunInProcessHold effective now

/-- An intent that is not given is to observe. -/
def agentRunIntent (spec : AgentRunSpec) : String :=
  if isBlank spec.harness.intent then "observe" else spec.harness.intent

/-- Note on the status what the effective run executes. -/
def describeExecution (spec : AgentRunSpec) : AgentRunStatus :=
  { status with
    backend := spec.harness.backend
    intent := agentRunIntent spec
    image := r.agentRunImage spec
    executionRuntime := some spec.harness.runtime }

/-- The status of a run that stops before launch. -/
def blockedStatus (why : Blocked) : AgentRunStatus :=
  let status : AgentRunStatus := { status with
    phase := why.phase
    startedAt := some (status.startedAt.getD (now / second))
    completedAt := some (now / second)
    error := why.message }
  status.setReady obj.generation now false why.reason why.message

/-- The status of a run that waits. -/
def waitingStatus (reason message : String) : AgentRunStatus :=
  let status : AgentRunStatus := { status with phase := .pending, completedAt := none, error := "" }
  status.setReady obj.generation now false reason message

/-- The status of a run whose credentials are not fresh. -/
def secretsStatus (why : Blocked) : AgentRunStatus :=
  let status : AgentRunStatus := { status with
    phase := why.phase
    completedAt := if why.phase = .pending then none else some (now / second)
    error := why.message }
  status.setReady obj.generation now false why.reason why.message

/-- The profile a run names, or why it cannot be used. -/
def resolveAgentRunProfileObject : Pass (Except Blocked (Option AgentRunProfile)) := do
  match obj.spec.profileRef with
  | none => return .ok none
  | some ref =>
    if isBlank ref.name then
      return .error ⟨.failed, "InvalidProfileRef",
        "spec.profileRef.name is required when profileRef is set."⟩
    else
      let key := ref.resolve obj.key.ns
      if key.ns ≠ obj.key.ns then
        return .error ⟨.failed, "CrossNamespaceProfileRef",
          "AgentRun profileRef must reference an AgentRunProfile in the AgentRun namespace."⟩
      else
        match ← ask (.getProfile key) with
        | none => return .error ⟨.needsHuman, "ProfileNotFound",
            "AgentRunProfile " ++ key.text ++ " was not found."⟩
        | some profile => return .ok (some profile)

/-- The effective spec: the run's own application wins over that of its profile. -/
def agentRunApplyProfile (spec : AgentRunSpec) (profile : Option AgentRunProfile)
    (harness : AgentRunHarnessSpec) : AgentRunSpec :=
  { spec with
    applicationRef := spec.applicationRef.or (profile.bind (·.applicationRef))
    harness := harness }

/-- What a run executes, or why it cannot. -/
inductive Composition where
  | error (message : String)
  | blocked (effective : AgentRunSpec) (why : Blocked)
  | resolved (effective : AgentRunSpec) (composition : AgentRunResolvedCompositionStatus)
deriving DecidableEq

/-- Resolve a run against its profile, its harness and its sets. -/
def resolveAgentRunComposition : Pass Composition := do
  match r.credentialViolation obj.spec with
  | some (reason, message) => return .blocked obj.spec ⟨.failed, reason, message⟩
  | none =>
    match ← resolveAgentRunProfileObject obj with
    | .error why => return .blocked obj.spec why
    | .ok profile =>
      match ← ask (.resolveComposition obj.key) with
      | .error message => return .error message
      | .blocked harness why => return .blocked (agentRunApplyProfile obj.spec profile harness) why
      | .resolved harness composition =>
        return .resolved (agentRunApplyProfile obj.spec profile harness) composition

/-- The run with its effective spec and the composition it was resolved from. -/
def effectiveRun (spec : AgentRunSpec) (composition : AgentRunResolvedCompositionStatus) : AgentRun
    :=
  { obj with
    spec := spec
    status := { obj.status with
      launch := { obj.status.launch with resolvedComposition := some composition } } }

/--
Resolve what the run executes and check that it may.

A pass that has found a Job it cannot account for gives up where a pass without a Job stops the run.
-/
def resolveForLaunch (unverified : Option Job)
    (proceed : AgentRun → AgentRunResolvedCompositionStatus → AgentRunStatus → Pass Unit) : Pass
    Unit := do
  match ← resolveAgentRunComposition r obj with
  | .error message => .fail message
  | .blocked spec why =>
    match unverified with
    | some job => .fail ("cannot validate recovered AgentRun Job " ++ job.key.text ++
        " without its original resolved composition: " ++ why.message)
    | none =>
      patchAgentRunStatus false obj { obj with
        status := blockedStatus obj (describeExecution r status spec) now why }
  | .resolved spec composition =>
    let effective := effectiveRun obj spec composition
    let status := describeExecution r status spec
    let checkedAt ← ask .now
    match agentRunBlockingValidation r effective checkedAt with
    | some why =>
      patchAgentRunStatus false obj { obj with status := blockedStatus obj status now why }
    | none => proceed effective composition status

def resolveVolumes (unverified : Option Job) (proceed : List String → AgentRunStatus → Pass Unit) :
    Pass Unit := do
  match ← ask (.resolveDataVolumes obj.key) with
  | .error message => .fail message
  | .blocked why =>
    match unverified with
    | some job => .fail ("cannot validate recovered AgentRun Job " ++ job.key.text ++
        " without its original resolved data volumes: " ++ why.message)
    | none =>
      let status : AgentRunStatus := { status with dataVolumes := [] }
      patchAgentRunStatus false obj { obj with
        status :=
          if why.phase = .pending then waitingStatus obj status now why.reason why.message
          else blockedStatus obj status now why }
  | .resolved volumes => proceed volumes { status with dataVolumes := volumes }

/-- The schedule of a run, if it is there and suspended. -/
def suspendedSchedule (reader : Reader) (obj : AgentRun) : Pass (Option AgentSchedule) :=
  match referencedKey obj.key.ns obj.spec.scheduleRef with
  | none => return none
  | some key => do
    let found ← ask (.readSchedule reader key)
    return found.filter (·.suspend)

/-- The profile that may give a run its application. -/
def readApplicationProfile (reader : Reader) (obj : AgentRun) : Pass (Option AgentRunProfile) :=
  match applicationProfile obj.key.ns obj.spec with
  | none => return none
  | some key => ask (.readProfile reader key)

def resolvedName {ε : Type} : Except ε String → Pass String
  | .error _ => .fail "resolve AgentRun application"
  | .ok applicationName => return applicationName

/-- The application of a run, with its profile as the reader finds it. -/
def readApplicationName (reader : Reader) (obj : AgentRun) : Pass String := do
  let found ← readApplicationProfile reader obj
  resolvedName (specApplicationName obj.spec found)

/-- The pause of an application; without an application nothing is listed. -/
def readActivePause (reader : Reader) (applicationName : String) (now : Nat) :
    Pass (Option ActivePause) :=
  if isBlank applicationName then return none
  else do
    let controls ← ask (.listControls reader)
    return activeAgentRunPauseForApplication controls applicationName now

/-- Whether a launch has to wait, with the reason and message the run then reports. -/
def agentRunLaunchPausedWithReader (reader : Reader) (obj : AgentRun) :
    Pass (Option (String × String)) := do
  match ← suspendedSchedule reader obj with
  | some schedule =>
    return some ("ScheduleSuspended", "Waiting because AgentSchedule " ++ schedule.key.text ++
      " is suspended.")
  | none =>
    let applicationName ← readApplicationName reader obj
    let now ← ask .now
    let pause ← readActivePause reader applicationName now
    return pause.map fun pause =>
      ("ApplicationPaused", "Waiting because Application \"" ++ applicationName ++
        "\" is paused by AgentRunControl \"" ++ pause.controlName ++ "\". Reason: " ++
        pause.reason)

/-- Keep the run pending while its launch is paused. -/
def unlessPaused (reader : Reader) (obj effective : AgentRun) (status : AgentRunStatus)
    (proceed : Pass Unit) : Pass Unit := do
  match ← agentRunLaunchPausedWithReader reader effective with
  | some (reason, message) =>
    let pausedAt ← ask .now
    patchAgentRunStatus false obj { obj with
      status := waitingStatus obj status pausedAt reason message }
  | none => proceed

/-- Keep the run pending while it is not its turn. -/
def unlessQueued (obj effective : AgentRun) (status : AgentRunStatus) (proceed : Pass Unit) : Pass
    Unit := do
  match ← ask (.queuedBehind r.applicationMaxConcurrentRuns effective) with
  | .error _ => .fail "resolve AgentRun application"
  | .ok (some (ahead, reason)) =>
    let queuedAt ← ask .now
    let queue := if reason = "QueuedBehindApplicationRun" then "application" else "scheduled"
    patchAgentRunStatus false obj { obj with
      status := waitingStatus obj status queuedAt reason
        ("Waiting behind " ++ queue ++ " AgentRun " ++ ahead.key.text ++ ".") }
  | .ok none => proceed

/-- Hold the run until its credentials are fresh. -/
def unlessSecretsStale (proceed : AgentRunStatus → Pass Unit) : Pass Unit := do
  let secrets ← ask (.externalSecrets obj.key)
  let status : AgentRunStatus := { status with externalSecretRefreshes := secrets.refreshes }
  match secrets.waiting with
  | some why => patchAgentRunStatus false obj { obj with status := secretsStatus obj status now why }
  | none => proceed status

/-- The last part of a log that a status keeps. -/
def agentRunTrimOutput (output : String) : String :=
  let cs := (trimSpace output).toList
  String.ofList (cs.drop (cs.length - 32 * 1024))

/-- Whether a report carries a decision. -/
def agentRunReportHasDecision (report : AgentRunStatusReport) : Bool :=
  equalFold (trimSpace report.type) "decision" || !isBlank report.classification ||
    !isBlank report.action || !isBlank report.residualRisk || report.needsHuman

/-- Apply one report: a later link or decision replaces an earlier one. -/
def applyReport (report : AgentRunStatusReport) : AgentRunStatus :=
  let status : AgentRunStatus := { status with
    pullRequestURL :=
      if isBlank report.pullRequestURL then status.pullRequestURL
      else trimSpace report.pullRequestURL }
  if agentRunReportHasDecision report then
    { status with
      decision := some {
        classification := trimSpace report.classification
        action := trimSpace report.action
        summary := trimSpace report.summary
        residualRisk := trimSpace report.residualRisk } }
  else status

/-- Apply the reports of a log; a log without reports changes nothing. -/
def agentRunApplyStatusReports (reports : List AgentRunStatusReport) : AgentRunStatus :=
  if reports = [] then status
  else reports.foldl applyReport { status with reports := reports }

/-- Whether some report asks for a human. -/
def agentRunReportsNeedHuman (reports : List AgentRunStatusReport) : Bool :=
  reports.any fun report => report.needsHuman || equalFold (trimSpace report.type) "needsHuman"

def agentRunLatestHumanFollowUp (reports : List AgentRunStatusReport) : String :=
  firstTrimmed (reports.reverse.map (·.humanFollowUp))

/-- The decision of a completed run: the reported one, with a summary of the output if it has none. -/
def completedDecision (effective : AgentRun) : AgentRunDecisionStatus :=
  match status.decision with
  | none => {
      classification := "completed"
      action := firstNonEmpty [trimSpace status.intent, agentRunIntent effective.spec]
      summary := r.agentRunOutputSummary status.output }
  | some decision =>
    if isBlank decision.summary then
      { decision with summary := r.agentRunOutputSummary status.output }
    else decision

/-- The status of a run whose Job completed. -/
def completedStatus (obj effective : AgentRun) (status : AgentRunStatus) (now : Nat) :
    AgentRunStatus :=
  let decision := completedDecision r status effective
  let status : AgentRunStatus := { status with
    completedAt := some (now / second)
    error := ""
    decision := some decision }
  if agentRunReportsNeedHuman status.reports then
    { status with phase := .needsHuman }.setReady obj.generation now false "HarnessNeedsHuman"
      (firstNonEmpty [decision.summary, agentRunLatestHumanFollowUp status.reports,
        "Agent run reported that human follow-up is required."])
  else
    { status with phase := .succeeded }.setReady obj.generation now true "HarnessSucceeded"
      (firstNonEmpty [decision.summary, "Agent run harness completed successfully."])

/-- The status of a run that failed while or before executing. -/
def failedStatus (reason message : String) : AgentRunStatus :=
  let status : AgentRunStatus := { status with
    phase := .failed
    completedAt := some (now / second)
    error := message }
  status.setReady obj.generation now false reason message

/-- The status of a run whose Job is under way. -/
def runningStatus (job : Job) : AgentRunStatus :=
  let status : AgentRunStatus := { status with phase := .running, completedAt := none, error := "" }
  status.setReady obj.generation now false "HarnessRunning"
    ("Agent run job " ++ job.key.text ++ " is running or pending.")

/-- Delete a Job whose Pod cannot start. -/
def deleteAgentRunJobAfterLaunchFailure (job : Job) : Pass Unit := do
  if job.deleting then return ()
  else
    match ← ask (.deleteJob job.key) with
    | .ok _ => return ()
    | .notFound => return ()
    | .conflict | .alreadyExists | .invalid => .fail "delete AgentRun Job"

/-- Write what the Job and its Pod show: a failed launch, an end, or progress. -/
def settleAgentRun (original obj effective : AgentRun) (status : AgentRunStatus) (job : Job)
    (pod : Option RunnerPod) (now : Nat) : Pass Unit := do
  let launchFailure := (pod.map (·.launchFailure)).getD ""
  if launchFailure ≠ "" then
    deleteAgentRunJobAfterLaunchFailure job
    patchAgentRunStatus false original { obj with
      status := failedStatus obj status now "HarnessLaunchFailed" launchFailure }
  else
    match job.state with
    | .complete =>
      patchAgentRunStatus false original { obj with
        status := completedStatus r obj effective status now }
    | .failed =>
      patchAgentRunStatus false original { obj with
        status := failedStatus obj status now "HarnessFailed"
          (firstNonEmpty [job.failureMessage, (pod.map (·.terminationMessage)).getD "",
            "Agent run harness failed."]) }
    | .active =>
      -- The run was read again when a peer was recorded, so a hold may have appeared meanwhile.
      match agentRunInterruptDuplicateHold obj with
      | some requester => reconcileAgentRunInterruptDuplicateHold r obj requester
      | none =>
        if agentRunStatusShowsInterruptDuplicate status then
          reconcileAgentRunInterruptDuplicateHold r obj (agentRunInterruptDuplicateRequester obj)
        else
          patchAgentRunStatus false original { obj with status := runningStatus obj status now job }

/-- Read the Pod and the log of the Job, act on its decision, and write the outcome. -/
def observeAgentRunJob (original effective : AgentRun) (status : AgentRunStatus) (job : Job)
    (now : Nat) : Pass Unit := do
  let status : AgentRunStatus := { status with
    startedAt := some (status.startedAt.getD (now / second))
    image := firstNonEmpty [trimSpace job.image, r.agentRunImage effective.spec] }
  match ← ask (.runnerPod job.uid) with
  | none =>
    let status : AgentRunStatus := { status with runnerPodRef := none, runnerPodUID := 0 }
    settleAgentRun r original original effective status job none now
  | some pod =>
    let status : AgentRunStatus := { status with
      runnerPodRef := some pod.ref
      runnerPodUID := pod.uid }
    match pod.logs with
    | none => settleAgentRun r original original effective status job (some pod) now
    | some logs =>
      let status := agentRunApplyStatusReports status logs.reports
      let status : AgentRunStatus := { status with output := agentRunTrimOutput logs.text }
      let obj ← reconcileMidRunPeerDecisions original status logs
      settleAgentRun r original obj effective status job (some pod) now

/-- A reference to an object by its key. -/
def Key.ref (key : Key) : NamespacedObjectReference where
  name := key.name
  ns := key.ns

/-- Go on with a Job whose identity is recorded: what the record lacks is read off the Job. -/
def observeRecordedJob (job : Job) (now : Nat) : Pass Unit :=
  let launch := { status.launch with
    jobUID := if status.launch.jobUID = 0 then job.uid else status.launch.jobUID
    resolvedComposition := status.launch.resolvedComposition.or job.snapshot.composition }
  let status : AgentRunStatus := { status with
    launch := launch
    dataVolumes := if status.dataVolumes = [] then job.snapshot.dataVolumes else status.dataVolumes
    backend := firstNonEmpty [status.backend, job.snapshot.spec.harness.backend]
    intent := firstNonEmpty [status.intent, agentRunIntent job.snapshot.spec]
    image := firstNonEmpty [trimSpace job.image, status.image]
    executionRuntime := some (status.executionRuntime.getD .job) }
  observeAgentRunJob r obj obj status job now

/-- Record the identity of a Job that an earlier pass created but did not live to record. -/
def recoverAgentRunJob (job : Job) (now : Nat) : Pass Unit := do
  match status.launch.jobCreateAttemptedAt with
  | none => .fail ("AgentRun Job " ++ job.key.text ++
      " exists without the required create-attempt receipt")
  | some _ =>
    validateAgentRunLaunchReceipt r obj job status.launch
    let launch := { status.launch with
      jobUID := job.uid
      jobRef := some job.key.ref
      resolvedComposition := status.launch.resolvedComposition.map fun composition =>
        { composition with resolvedAt := some (composition.resolvedAt.getD (now / second)) } }
    observeRecordedJob r obj { status with launch := launch } job now

/-- Check a Job that no receipt accounts for by resolving again what the run would launch. -/
def adoptAgentRunJob (job : Job) (now : Nat) : Pass Unit :=
  resolveForLaunch r obj status now (some job) fun effective composition status =>
  resolveVolumes obj status now (some job) fun volumes status => do
    let prompt := r.buildAgentRunPrompt effective.key effective.spec
    let promptHash := r.shortHash prompt
    let expectedJobName := agentRunChildName r.shortHash [effective.key.name, "harness", promptHash]
    if job.key.name ≠ expectedJobName then
      .fail ("recovered AgentRun Job " ++ job.key.text ++ " does not match expected identity " ++
        effective.key.ns ++ "/" ++ expectedJobName)
    else
      let (payload, payloadDigest) ← ensureAgentRunConfigMap r effective prompt promptHash
      let composition := { composition with payloadDigest := payloadDigest }
      let effective := effectiveRun effective effective.spec composition
      let validatedJob ← ensureAgentRunJob r effective promptHash volumes
      if job.uid ≠ 0 ∧ validatedJob.uid ≠ job.uid then
        .fail ("recovered AgentRun Job " ++ job.key.text ++ " changed UID during validation")
      else
        let digest ← agentRunJobSnapshotDigest r validatedJob
        let launch := { status.launch with
          promptHash := promptHash
          jobRef := some validatedJob.key.ref
          jobUID := validatedJob.uid
          payloadRef := some payload.key.ref
          payloadUID := payload.uid
          jobSpecDigest := digest
          resolvedComposition := some { composition with resolvedAt := some (now / second) } }
        observeAgentRunJob r obj effective { status with launch := launch } validatedJob now

/-- Execute a turn on a live actor; no Job is involved. -/
def reconcileSubstrateActorRun (obj effective : AgentRun) (status : AgentRunStatus) (now : Nat) :
    Pass Unit := do
  if !(← ask (.bindActor obj.key)) then .fail "ensure turn actor"
  else
    let status : AgentRunStatus := { status with
      executionRuntime := some .substrateActor
      startedAt := some (status.startedAt.getD (now / second))
      backend := effective.spec.harness.backend }
    let fail (message : String) : Pass Unit :=
      patchAgentRunStatus false obj { obj with
        status := failedStatus obj status now "SubstrateActorGenerateFailed" message }
    if isBlank effective.spec.prompt then
      fail "AgentRun spec.prompt is empty; generate-on-actor cannot complete this turn."
    else
      match ← ask (.generate obj.key) with
      | .failed => fail "generate-on-actor failed; no Kubernetes Job was created."
      | .transient =>
        let status : AgentRunStatus := { status with phase := .running, completedAt := none, error := "" }
        patchAgentRunStatus false obj { obj with
          status := status.setReady obj.generation now false "SubstrateActorBound"
            "Generate-on-actor bound its actor; retrying atenet stream. No Kubernetes Job was created." }
      | .reply text =>
        let output := agentRunTrimOutput text
        if isBlank output then
          fail "generate-on-actor returned an empty reply; no Kubernetes Job was created."
        else
          let status : AgentRunStatus := { status with
            output := output
            launch := { status.launch with
              promptHash := r.shortHash (trimSpace effective.spec.prompt) }
            completedAt := some (now / second)
            error := ""
            phase := .succeeded
            decision := some {
              classification := "completed"
              action := firstNonEmpty [trimSpace status.intent, agentRunIntent effective.spec]
              summary := r.agentRunOutputSummary output } }
          patchAgentRunStatus false obj { obj with
            status := status.setReady obj.generation now true "SubstrateActorGenerated"
              ("Generate-on-actor streamed the frozen prompt through atenet; " ++
                "no Kubernetes Job was created.") }

/-- The receipt of a prepared launch. -/
def recordReceipt (launch : LaunchStatus) (promptHash : String) (jobKey : Key)
    (jobSpecDigest : String) (payload : ConfigMap)
    (composition : AgentRunResolvedCompositionStatus) : LaunchStatus :=
  { launch with
    promptHash := promptHash
    plannedJobRef := some jobKey.ref
    jobSpecDigest := jobSpecDigest
    payloadRef := some payload.key.ref
    payloadUID := payload.uid
    resolvedComposition := some composition }

/-- Create the Job of a prepared launch, record it, and observe it. -/
def createAndObserveJob (original effective : AgentRun) (status : AgentRunStatus)
    (promptHash : String) (composition : AgentRunResolvedCompositionStatus) (volumes : List String)
    (now : Nat) : Pass Unit := do
  let job ← ensureAgentRunJob r effective promptHash volumes
  let launch := { status.launch with
    promptHash := promptHash
    jobRef := some job.key.ref
    jobUID := job.uid
    resolvedComposition := some { composition with resolvedAt := some (now / second) } }
  observeAgentRunJob r original effective { status with launch := launch } job now

/-- What a pass would launch: the payload, the Job, and the identities they are recorded by. -/
structure LaunchPlan where
  promptHash : String
  payload : ConfigMap
  composition : AgentRunResolvedCompositionStatus
  effective : AgentRun
  desiredJob : Job
  jobSpecDigest : String

/-- Ensure the payload of a launch and render its Job. -/
def resolveLaunchPlan (effective : AgentRun) (composition : AgentRunResolvedCompositionStatus)
    (volumes : List String) : Pass LaunchPlan := do
  let prompt := r.buildAgentRunPrompt effective.key effective.spec
  let promptHash := r.shortHash prompt
  let (payload, payloadDigest) ← ensureAgentRunConfigMap r effective prompt promptHash
  let composition := { composition with payloadDigest := payloadDigest }
  let effective := effectiveRun effective effective.spec composition
  let jobName := agentRunChildName r.shortHash [effective.key.name, "harness", promptHash]
  let desiredJob := agentRunJob r effective jobName payload.key.name volumes
  let jobSpecDigest ← agentRunJobSnapshotDigest r desiredJob
  return ⟨promptHash, payload, composition, effective, desiredJob, jobSpecDigest⟩

/--
Prepare the launch, or carry out a prepared one.

Preparing writes the receipt and ends the pass. A later pass that resolves the same launch records the
attempt under an optimistic lock and only then creates the Job.
-/
def launchAgentRun (obj effective : AgentRun) (composition : AgentRunResolvedCompositionStatus)
    (status : AgentRunStatus) (volumes : List String) (now : Nat) : Pass Unit := do
  let ⟨promptHash, payload, composition, effective, desiredJob, jobSpecDigest⟩ ←
    resolveLaunchPlan r effective composition volumes
  if !agentRunLaunchReceiptComplete status.launch then
    patchAgentRunStatus false obj { obj with
      status := { status with
        dataVolumes := volumes
        launch := recordReceipt status.launch promptHash desiredJob.key jobSpecDigest payload
          composition } }
  else
    require (validateAgentRunLaunchPlan r status desiredJob payload promptHash composition volumes)
    let preflightAt ← ask .now
    if agentRunChatStartupExpired obj status preflightAt then return ()
    else
      match status.launch.jobCreateAttemptedAt with
      | some _ => createAndObserveJob r obj effective status promptHash composition volumes now
      | none =>
        let status : AgentRunStatus := { status with
          launch := { status.launch with jobCreateAttemptedAt := some (now / second) } }
        match ← ask (.patchStatus true obj { obj with status := status }) with
        | .ok obj => createAndObserveJob r obj effective status promptHash composition volumes now
        | .conflict => return ()
        | .notFound | .alreadyExists | .invalid => .fail "patch AgentRun status"

/-- A pass that found no Job: resolve the run, pass its gates, and launch it. -/
def reconcileUnlaunched : Pass Unit :=
  if agentRunChatStartupExpired obj status now then
    reconcileAgentRunChatStartupDeadline obj status now
  else
    resolveForLaunch r obj status now none fun effective composition status =>
    unlessPaused .client obj effective status <|
    unlessQueued r obj effective status <|
    resolveVolumes obj status now none fun volumes status =>
    unlessSecretsStale obj status now fun status =>
    -- Right before the launch, pauses are read from the API server itself.
    unlessPaused .apiReader obj effective status <|
      if r.generateOnActor effective.spec then
        reconcileSubstrateActorRun r obj effective status now
      else launchAgentRun r obj effective composition status volumes now

/-- The launch is prepared, and no Job is recorded for it yet. -/
def plannedLaunch (launch : LaunchStatus) : Bool :=
  agentRunLaunchReceiptComplete launch && launch.jobRef.isNone && launch.jobUID = 0

/-- The Job to look for: the planned one of a prepared launch, otherwise the recorded one. -/
def expectedJobRef (launch : LaunchStatus) : Option NamespacedObjectReference :=
  if plannedLaunch launch then launch.plannedJobRef else launch.jobRef

/-- A pass over a run that is neither held nor finished. -/
def reconcileLive : Pass Unit := do
  let status := observedStatus obj
  let launch := status.launch
  let now ← ask .now
  let ref := expectedJobRef launch
  let attempted := launch.jobCreateAttemptedAt.isSome
  match ← existingAgentRunJob obj ref launch.jobUID (plannedLaunch launch && !attempted) with
  | .missing message =>
    let message :=
      if plannedLaunch launch && attempted then
        "Agent run job " ++ (ref.getD {}).ns ++ "/" ++ (ref.getD {}).name ++
          " is absent after a recorded create attempt; refusing to create a replacement execution."
      else message
    patchAgentRunStatus false obj { obj with status := jobMissingStatus obj status now message }
  | .absent => reconcileUnlaunched r obj status now
  | .found job =>
    if launch.jobUID = 0 && agentRunLaunchReceiptComplete launch then
      recoverAgentRunJob r obj status job now
    else if launch.jobRef.isNone then adoptAgentRunJob r obj status job now
    else observeRecordedJob r obj status job now

def reconcile (key : Key) : Pass Unit := do
  match ← ask (.getRun key) with
  | none => return ()
  | some obj =>
    if obj.deleting then return ()
    else
      match agentRunInterruptDuplicateHold obj with
      | some requester => reconcileAgentRunInterruptDuplicateHold r obj requester
      | none =>
        if agentRunPhaseTerminal obj.status.phase then reconcileTerminalAgentRun r obj
        else reconcileLive r obj

/--
The controller: one worker for each key.

A work queue never hands out one key twice at a time, and a worker that crashed is started again.
-/
def controllers : System Key Call Reply World Act where
  serve := serve
  program := reconcile r
  act := act

/-- A cluster before the first run. -/
structure World.Initial (w : World) : Prop where
  runs : w.runs = .empty
  jobs : w.jobs = .empty
  created : w.created = []
  uids : 0 < w.nextUID

/-- The Jobs ever created for a run, by its UID. -/
def World.createdFor (w : World) (uid : UID) : List Job :=
  w.created.filter fun job => job.owner.any fun owner => owner.uid = uid

end AnvilAgents
