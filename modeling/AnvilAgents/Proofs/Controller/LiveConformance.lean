import AnvilAgents.Proofs.Controller.Conformance

/-! The pass over a run that is neither held nor finished keeps the contract. -/

namespace AnvilAgents

open Conc Text List Know Option

-- No proof here looks into a text, and unfolding one is slow.
attribute [local irreducible] agentRunChildName

variable {K : Know} {r : AgentRunReconciler} {original obj effective : AgentRun}
  {status status' : AgentRunStatus}

variable {job : Job}

/-- Removing a Job the pass has seen is evidence that it no longer runs. -/
theorem deleteAgentRunJobAfterLaunchFailure_obeys (seen : job ∈ K.sawJobs)
    (owned : K.owns job) :
    Obeys K (deleteAgentRunJobAfterLaunchFailure job) fun K' _ =>
      K.Grows K' ∧ K'.sawExecutionOver := by
  unfold deleteAgentRunJobAfterLaunchFailure
  refine .ite (fun deleting => ?_) fun _ => ?_
  · have stopped : job.running = false := by simp [Job.running, deleting]
    exact .pure ⟨.refl K, .inr (.inl ⟨job, seen, owned, .inl stopped⟩)⟩
  · refine Obeys.call ⟨job, seen, rfl⟩ fun reply _ => ?_
    have grows : K.Grows { K with removed := job.key :: K.removed } :=
      ⟨rfl, rfl, rfl, rfl, rfl, rfl, rfl, rfl, id, fun _ h => h⟩
    have ended : sawExecutionOver { K with removed := job.key :: K.removed } :=
      .inr (.inl ⟨job, seen, owned, .inr (.head _)⟩)
    -- A Job that is already gone counts as removed too.
    cases reply with
    | ok | notFound => exact .pure ⟨grows, ended⟩
    | _ => exact .fail

/-- What the Job shows is written onto the version the pass holds. -/
theorem settleAgentRun_ends (live : LiveKnow K original)
    (endable : Endable K status) (own : obj.key = K.key)
    (version : obj = original ∨ K.noted = some obj) (seen : job ∈ K.sawJobs) (owned : K.owns job)
    (pod : Option RunnerPod) (now : Nat) :
    Ends K (settleAgentRun r original obj effective status job pod now) := by
  have held (requester : String) :
      Ends K (reconcileAgentRunInterruptDuplicateHold r obj requester) := by
    refine reconcileAgentRunInterruptDuplicateHold_ends own (.inr live.stage) ?_ live.settled
    rcases version with rfl | noted
    · exact .inl live.base
    · exact .inr noted
  -- A Job that has ended is evidence by itself.
  have ended (stopped : job.running = false) : K.sawExecutionOver :=
    .inr (.inl ⟨job, seen, owned, .inl stopped⟩)
  unfold settleAgentRun
  refine .ite (fun _ => ?_) fun _ => ?_
  · refine (deleteAgentRunJobAfterLaunchFailure_obeys seen owned).bind fun K' _ after => ?_
    obtain ⟨grows, ended⟩ := after
    exact livePatch_ends (live.grow grows) (own.trans grows.key.symm)
      ((endable.grow grows).congr rfl rfl) fun _ => ended
  · cases state : job.state with
    | complete =>
      have stopped : job.running = false := by simp [Job.running, state]
      refine livePatch_ends live own (endable.congr ?_ ?_) fun _ => ended stopped <;>
        (simp only [completedStatus]; split <;> rfl)
    | failed =>
      have stopped : job.running = false := by simp [Job.running, state]
      exact livePatch_ends live own (endable.congr rfl rfl) fun _ => ended stopped
    | active =>
      cases agentRunInterruptDuplicateHold obj with
      | some requester => exact held requester
      | none =>
        refine .ite (fun _ => held _) fun _ => ?_
        -- A running run is not finished, so no evidence is asked for.
        refine livePatch_ends live own (endable.congr rfl rfl) fun finished => ?_
        simp [runningStatus, AgentRunStatus.setReady, agentRunPhaseTerminal] at finished

theorem applyReport_frame (status : AgentRunStatus) (report : AgentRunStatusReport) :
    (applyReport status report).launch = status.launch ∧
      (applyReport status report).archive = status.archive := by
  simp only [applyReport]
  split <;> exact ⟨rfl, rfl⟩

theorem applyReports_frame (reports : List AgentRunStatusReport) :
    (reports.foldl applyReport status).launch = status.launch ∧
      (reports.foldl applyReport status).archive = status.archive := by
  induction reports generalizing status with
  | nil => exact ⟨rfl, rfl⟩
  | cons report reports ih =>
    obtain ⟨launch, archive⟩ := applyReport_frame status report
    rw [foldl_cons, ih.1, ih.2]
    exact ⟨launch, archive⟩

/-- Reports change neither the launch fields nor the archive receipt. -/
theorem agentRunApplyStatusReports_frame (reports : List AgentRunStatusReport) :
    (agentRunApplyStatusReports status reports).launch = status.launch ∧
      (agentRunApplyStatusReports status reports).archive = status.archive := by
  unfold agentRunApplyStatusReports
  by_cases empty : reports = []
  · rw [if_pos empty]
    exact ⟨rfl, rfl⟩
  · rw [if_neg empty, (applyReports_frame reports).1, (applyReports_frame reports).2]
    exact ⟨rfl, rfl⟩

/-- Observing a Job of the run keeps the contract. -/
theorem observeAgentRunJob_ends (live : LiveKnow K original)
    (endable : Endable K status) (seen : job ∈ K.sawJobs) (owned : K.owns job) (now : Nat) :
    Ends K (observeAgentRunJob r original effective status job now) := by
  unfold observeAgentRunJob
  refine obeys_quiet_ask fun pod => ?_
  cases pod with
  | none =>
    refine settleAgentRun_ends live ?_ live.key (.inl rfl) seen owned none now
    exact endable.congr rfl rfl
  | some pod =>
    cases read : pod.logs with
    | none =>
      simp only [read]
      refine settleAgentRun_ends live ?_ live.key (.inl rfl) seen owned _ now
      exact endable.congr rfl rfl
    | some logs =>
      simp only [read]
      refine (reconcileMidRunPeerDecisions_obeys live.key _ logs).bind fun K' obj refreshed => ?_
      have grows := refreshed.toGrows
      refine settleAgentRun_ends (live.grow grows) ?_ (refreshed.own.trans grows.key.symm)
        refreshed.version (grows.sawJobs seen) (grows.owns.mpr owned) _ now
      refine (endable.grow grows).congr ?_ ?_
      · rw [(agentRunApplyStatusReports_frame logs.reports).1]
      · rw [(agentRunApplyStatusReports_frame logs.reports).2]

/-- The pass has read its run, which is neither held nor finished, and written nothing yet. -/
structure FreshKnow (K : Know) (obj : AgentRun) : Prop extends LiveKnow K obj where
  uid : obj.uid = K.uid
  known : K.uid ≠ 0
  launch : obj.status.launch = K.launch
  archive : obj.status.archive = K.archive
  sound : LaunchSound K.launch
  open_ : agentRunPhaseTerminal obj.status.phase = false

variable {K' : Know}

theorem FreshKnow.grow (fresh : FreshKnow K obj) (grows : K.Grows K') :
    FreshKnow K' obj where
  toLiveKnow := fresh.toLiveKnow.grow grows
  uid := fresh.uid.trans grows.uid.symm
  known := by rw [grows.uid]; exact fresh.known
  launch := fresh.launch.trans grows.launch.symm
  archive := fresh.archive.trans grows.archive.symm
  sound := by rw [grows.launch]; exact fresh.sound
  open_ := fresh.open_

/-- The owner check of the source is the contract's notion of ownership. -/
theorem FreshKnow.owns_iff (fresh : FreshKnow K obj) :
    K.owns job ↔ agentRunControllerOwnerMatches job.owner obj = true := by
  simp [owns, agentRunControllerOwnerMatches, fresh.uid, fresh.key]

variable {launch : LaunchStatus}

/-- A launch status that names no Job records none. -/
theorem LaunchSound.unnamed (sound : LaunchSound launch)
    (unnamed : launch.jobRef.filter (fun ref => !isBlank ref.name) = none) :
    launch.jobRef = none ∧ launch.jobUID = 0 := by
  have absent : launch.jobRef = none := by
    cases recorded : launch.jobRef with
    | none => rfl
    | some ref => simp [recorded, Option.filter, sound.named ref recorded] at unnamed
  exact ⟨absent, sound.paired.mp absent⟩

theorem launchSound_blank : LaunchSound {} :=
  ⟨fun attempted => by simp at attempted, by simp, fun ref recorded => by simp at recorded⟩

/-- The launch fields a pass starts from: the stored ones, or blank ones that forget nothing. -/
theorem observedStatus_launch (fresh : FreshKnow K obj) :
    (observedStatus obj).launch = K.launch ∨
      (observedStatus obj).launch = {} ∧ K.launch.jobCreateAttemptedAt = none ∧
        agentRunLaunchReceiptComplete K.launch = false ∧ K.launch.jobRef = none := by
  simp only [observedStatus]
  split
  next changed =>
    -- The status is dropped only when it records neither a Job, nor a receipt, nor an attempt.
    have dropped : preserveExecution obj.status = false := by simpa using changed.2.2
    simp only [preserveExecution, fresh.open_, fresh.launch, Bool.not_false, Bool.true_and,
      Bool.or_eq_false_iff] at dropped
    obtain ⟨⟨unnamed, incomplete⟩, unattempted⟩ := dropped
    refine .inr ⟨rfl, by simpa using unattempted, incomplete, ?_⟩
    refine (fresh.sound.unnamed ?_).1
    cases recorded : K.launch.jobRef with
    | none => rfl
    | some ref =>
      rw [recorded] at unnamed
      simpa [Option.filter] using unnamed
  next => exact .inl fresh.launch

/-- The status a pass starts from may be written back. -/
theorem observedStatus_endable (fresh : FreshKnow K obj) :
    Endable K (observedStatus obj) := by
  refine ⟨?_, ?_⟩
  · rcases observedStatus_launch fresh with same | ⟨blank, unattempted, -, -⟩
    · rw [same]
      exact ⟨rfl, fun _ => rfl, .inl ⟨rfl, rfl⟩, fresh.sound⟩
    · rw [blank]
      exact ⟨unattempted.symm, fun attempted => by simp [unattempted] at attempted,
        .inr (.inl ⟨rfl, rfl⟩), launchSound_blank⟩
  · simp only [observedStatus]
    split
    · exact .inr rfl
    · exact .inl fresh.archive

/-- What a lookup tells the pass. -/
def LookupFacts (K : Know) (ref : Option NamespacedObjectReference) (uid : UID) (allow : Bool) :
    JobLookup → Prop
  | .found job => job ∈ K.sawJobs ∧ K.owns job ∧ job.uid ≠ 0 ∧ job.key.valid = true
  | .absent => ref.filter (fun ref => !isBlank ref.name) = none ∨ allow = true ∧ uid = 0
  | .missing _ => ∃ named, ref.filter (fun ref => !isBlank ref.name) = some named ∧
      ((named.resolve K.key.ns).ns ≠ K.key.ns ∨
        named.resolve K.key.ns ∈ K.sawMissing ∨
        ∃ job ∈ K.sawJobs, job.key = named.resolve K.key.ns ∧
          (¬ K.owns job ∨ uid ≠ 0 ∧ job.uid ≠ uid))

theorem existingAgentRunJob_obeys (fresh : FreshKnow K obj) (ref : Option NamespacedObjectReference)
    (uid : UID) (allow : Bool) :
    Obeys K (existingAgentRunJob obj ref uid allow) fun K' lookup =>
      K.Grows K' ∧ LookupFacts K' ref uid allow lookup := by
  unfold existingAgentRunJob
  cases named : ref.filter fun ref => !isBlank ref.name with
  | none =>
    -- No name is recorded, so the run's Jobs are searched by label and owner.
    refine Obeys.call trivial fun jobs honest => ?_
    have grows : K.Grows { K with sawJobs := jobs ++ K.sawJobs, removed := [] } :=
      ⟨rfl, rfl, rfl, rfl, rfl, rfl, rfl, rfl, id, fun _ h => mem_append_right _ h⟩
    split
    next => exact .pure ⟨grows, .inl named⟩
    next job only =>
      have chosen : job ∈ jobs.filter fun job =>
          job.snapshot.labels.run = sanitizeLabelValue obj.key.name && !job.deleting &&
            agentRunControllerOwnerMatches job.owner obj := only ▸ mem_singleton.mpr rfl
      obtain ⟨listed, matches_⟩ := mem_filter.mp chosen
      have owned : K.owns job := fresh.owns_iff.mpr (Bool.and_eq_true_iff.mp matches_).2
      obtain ⟨-, exists_, valid⟩ := honest job listed
      exact .pure ⟨grows, mem_append_left _ listed, owned, exists_, valid⟩
    next => exact .fail
  | some ref =>
    refine .ite (fun outside => ?_) fun _ => ?_
    · exact .pure ⟨.refl K, ref, named, .inl (fresh.key ▸ outside)⟩
    · refine Obeys.call trivial fun reply honest => ?_
      cases reply with
      | none =>
        have grows (key : Key) : K.Grows (K.learn (.getJob key) none) :=
          ⟨rfl, rfl, rfl, rfl, rfl, rfl, rfl, rfl, id, fun _ h => h⟩
        refine .ite (fun allowed => ?_) fun _ => ?_
        · refine .pure ⟨grows _, .inr ?_⟩
          simpa using allowed
        · refine .pure ⟨grows _, ref, named, .inr (.inl ?_)⟩
          rw [fresh.key]
          exact .head _
      | some job =>
        obtain ⟨at_key, exists_, valid⟩ := honest job rfl
        have grows (key : Key) : K.Grows (K.learn (.getJob key) (some job)) :=
          ⟨rfl, rfl, rfl, rfl, rfl, rfl, by simp [learn, fresh.settled], rfl, id,
            fun _ h => .tail _ h⟩
        refine .ite (fun foreign => ?_) fun matches_ => ?_
        · refine .pure ⟨grows _, ref, named, .inr (.inr ⟨job, .head _, ?_, .inl ?_⟩)⟩
          · rw [at_key, fresh.key]
            rfl
          · rw [(grows _).owns, fresh.owns_iff]
            simpa using foreign
        · refine .ite (fun other => ?_) fun _ => ?_
          · refine .pure ⟨grows _, ref, named, .inr (.inr ⟨job, .head _, ?_, .inr other⟩)⟩
            rw [at_key, fresh.key]
            rfl
          · refine .pure ⟨grows _, .head _, ?_, exists_, valid⟩
            rw [(grows _).owns, fresh.owns_iff]
            simpa using matches_

/-- A complete receipt names the planned Job. -/
theorem planned_named (complete : agentRunLaunchReceiptComplete launch = true) :
    ∃ ref, launch.plannedJobRef = some ref ∧ isBlank ref.name = false := by
  cases planned : launch.plannedJobRef with
  | none => simp [agentRunLaunchReceiptComplete, planned] at complete
  | some ref =>
    refine ⟨ref, rfl, ?_⟩
    simp only [agentRunLaunchReceiptComplete, planned, Bool.and_eq_true] at complete
    simpa using complete.1.1.1.1.1.1

/-- A pass that finds no Job is about a launch that was neither attempted nor recorded. -/
theorem LaunchSound.absent (sound : LaunchSound launch)
    (facts : LookupFacts K (expectedJobRef launch) launch.jobUID
      (plannedLaunch launch && !launch.jobCreateAttemptedAt.isSome) .absent) :
    launch.jobCreateAttemptedAt = none ∧ launch.jobRef = none := by
  by_cases planned : plannedLaunch launch = true
  · have parts := planned
    simp only [plannedLaunch, Bool.and_eq_true] at parts
    have unrecorded : launch.jobRef = none := by simpa using parts.1.2
    rcases facts with unnamed | ⟨allowed, -⟩
    · -- The receipt of a prepared launch names its Job.
      obtain ⟨ref, at_ref, named⟩ := planned_named parts.1.1
      simp [expectedJobRef, planned, at_ref, Option.filter, named] at unnamed
    · exact ⟨by simpa [planned] using allowed, unrecorded⟩
  · have recorded : expectedJobRef launch = launch.jobRef := by simp [expectedJobRef, planned]
    rcases facts with unnamed | ⟨allowed, -⟩
    · obtain ⟨unrecorded, zero⟩ := sound.unnamed (recorded ▸ unnamed)
      -- Without a recorded Job only a complete receipt could come with an attempt.
      refine ⟨?_, unrecorded⟩
      by_contra attempted
      have complete := sound.complete (isSome_iff_ne_none.mpr attempted)
      exact planned (by simp [plannedLaunch, complete, unrecorded, zero])
    · simp [planned] at allowed

/-- The expected Job is the recorded one, or the planned one while none is recorded. -/
theorem recordedJobKey_expected (ns : String)
    {named : NamespacedObjectReference} (expected : expectedJobRef launch = some named) :
    recordedJobKey ns launch = some (named.resolve ns) := by
  by_cases planned : plannedLaunch launch = true
  · have unrecorded : launch.jobRef = none := by
      simp only [plannedLaunch, Bool.and_eq_true] at planned
      simpa using planned.1.2
    rw [expectedJobRef, if_pos planned] at expected
    simp [recordedJobKey, unrecorded, expected]
  · rw [expectedJobRef, if_neg planned] at expected
    simp [recordedJobKey, expected]

/-- A pass that misses the Job it expects has evidence that no Job of the run is running. -/
theorem FreshKnow.missing (fresh : FreshKnow K obj) {allow : Bool} {message : String}
    (facts : LookupFacts K (expectedJobRef (observedStatus obj).launch)
      (observedStatus obj).launch.jobUID allow (.missing message)) : K.sawExecutionOver := by
  by_cases unattempted : K.launch.jobCreateAttemptedAt = none
  · exact .inl unattempted
  · have kept : (observedStatus obj).launch = K.launch := by
      rcases observedStatus_launch fresh with same | ⟨-, none, -⟩
      · exact same
      · exact absurd none unattempted
    obtain ⟨named, at_named, why⟩ := facts
    rw [kept] at at_named why
    refine .inr (.inr ⟨named.resolve K.key.ns, ?_, why⟩)
    exact recordedJobKey_expected _ (filter_eq_some_iff.mp at_named).1

/-- A pass that found no Job for the run and prepares its launch from this status. -/
structure Preparing (K : Know) (obj : AgentRun) (status : AgentRunStatus) : Prop
    extends FreshKnow K obj where
  endable : Endable K status
  unattempted : K.launch.jobCreateAttemptedAt = none
  unlaunched : K.launch.jobRef = none
  stored : status.launch = K.launch ∧ status.archive = K.archive ∨ status.launch = {}
  phase : agentRunPhaseTerminal status.phase = false

section

variable (prep : Preparing K obj status)

include prep

theorem Preparing.congr (launch : status'.launch = status.launch)
    (archive : status'.archive = status.archive) (phase : status'.phase = status.phase) :
    Preparing K obj status' :=
  ⟨prep.toFreshKnow, prep.endable.congr launch archive, prep.unattempted, prep.unlaunched,
    launch ▸ archive ▸ prep.stored, phase ▸ prep.phase⟩

theorem Preparing.grow (grows : K.Grows K') :
    Preparing K' obj status where
  toFreshKnow := prep.toFreshKnow.grow grows
  endable := prep.endable.grow grows
  unattempted := by rw [grows.launch]; exact prep.unattempted
  unlaunched := by rw [grows.launch]; exact prep.unlaunched
  stored := by rw [grows.launch, grows.archive]; exact prep.stored
  phase := prep.phase

theorem Preparing.stop_ends {lock : Bool} (launch : status'.launch = status.launch)
    (archive : status'.archive = status.archive) :
    Ends K (patchAgentRunStatus lock obj { obj with status := status' }) := by
  refine livePatch_ends prep.toLiveKnow prep.key ?_ fun _ => .inl prep.unattempted
  exact prep.endable.congr launch archive

/-- Before an attempt the launch fields may be rewritten, as long as no Job is recorded in them. -/
theorem Preparing.relaunch
    (attempt : launch.jobCreateAttemptedAt = status.launch.jobCreateAttemptedAt)
    (ref : launch.jobRef = status.launch.jobRef) (uid : launch.jobUID = status.launch.jobUID) :
    LaunchKept K launch := by
  have kept := prep.endable.launch
  have unattempted : launch.jobCreateAttemptedAt = none :=
    attempt.trans (kept.attempt.trans prep.unattempted)
  refine ⟨attempt.trans kept.attempt, fun attempted => ?_, ?_, fun attempted => ?_, ?_, ?_⟩
  · simp [prep.unattempted] at attempted
  · rw [jobIdentity, ref, uid]
    exact kept.identity
  · simp [unattempted] at attempted
  · rw [ref, uid]
    exact kept.sound.paired
  · rw [ref]
    exact kept.sound.named

end

/-- The profile a pass goes on with is the one it read. -/
theorem resolveAgentRunProfileObject_obeys (obj : AgentRun) :
    Obeys K (resolveAgentRunProfileObject obj) fun K' outcome =>
      K.Grows K' ∧ ∀ profile, outcome = .ok profile → K'.sawProfile obj profile := by
  unfold resolveAgentRunProfileObject
  cases named : obj.spec.profileRef with
  | none =>
    refine .pure ⟨.refl K, ?_⟩
    rintro profile ⟨⟩
    exact named
  | some ref =>
    refine .ite (fun _ => .pure ⟨.refl K, by simp⟩) fun given => ?_
    refine .ite (fun _ => .pure ⟨.refl K, by simp⟩) fun near => ?_
    refine Obeys.call trivial fun reply _ => ?_
    cases reply with
    | none => exact .pure ⟨.refl K, by simp⟩
    | some found =>
      refine .pure ⟨⟨rfl, rfl, rfl, rfl, rfl, rfl, rfl, rfl, id, fun _ h => h⟩, ?_⟩
      rintro profile ⟨⟩
      exact ⟨ref, named, by simpa using given, not_not.mp near, rfl⟩

/-- The effective spec is that of the run over the profile it names. -/
theorem resolveAgentRunComposition_obeys (obj : AgentRun) :
    Obeys K (resolveAgentRunComposition r obj) fun K' outcome =>
      K.Grows K' ∧ ∀ spec composition, outcome = .resolved spec composition →
        ∃ profile harness, K'.sawProfile obj profile ∧
          spec = agentRunApplyProfile obj.spec profile harness := by
  unfold resolveAgentRunComposition
  cases r.credentialViolation obj.spec with
  | some violation => exact .pure ⟨.refl K, by simp⟩
  | none =>
    refine (resolveAgentRunProfileObject_obeys obj).bind fun K' outcome seen => ?_
    obtain ⟨grows, seen⟩ := seen
    cases outcome with
    | error why => exact .pure ⟨grows, by simp⟩
    | ok profile =>
      refine obeys_quiet_ask fun resolution => ?_
      cases resolution with
      | error | blocked => exact .pure ⟨grows, by simp⟩
      | resolved harness composition =>
        refine .pure ⟨grows, ?_⟩
        rintro spec composition' ⟨⟩
        exact ⟨profile, harness, seen profile rfl, rfl⟩

variable {proceed : Pass Unit}

section

variable (prep : Preparing K obj status)

include prep

theorem resolveForLaunch_ends (now : Nat) (unverified : Option Job)
    {proceed : AgentRun → AgentRunResolvedCompositionStatus → AgentRunStatus → Pass Unit}
    (after : ∀ K' effective composition status', K.Grows K' → EffectiveRun K' obj effective →
      Preparing K' obj status' → Ends K' (proceed effective composition status')) :
    Ends K (resolveForLaunch r obj status now unverified proceed) := by
  unfold resolveForLaunch
  refine (resolveAgentRunComposition_obeys obj).bind fun K' resolution resolves => ?_
  obtain ⟨grows, effective⟩ := resolves
  have prep := prep.grow grows
  cases resolution with
  | error message => exact .fail
  | blocked spec why =>
    cases unverified with
    | some job => exact .fail
    | none =>
      exact prep.stop_ends rfl rfl
  | resolved spec composition =>
    refine obeys_quiet_ask fun checkedAt => ?_
    split
    next why _ =>
      exact prep.stop_ends rfl rfl
    exact after K' _ _ _ grows ⟨rfl, rfl, rfl, effective spec composition rfl⟩
      (prep.congr rfl rfl rfl)

theorem resolveVolumes_ends (now : Nat) (unverified : Option Job)
    {proceed : List String → AgentRunStatus → Pass Unit}
    (after : ∀ volumes status', Preparing K obj status' → Ends K (proceed volumes status')) :
    Ends K (resolveVolumes obj status now unverified proceed) := by
  unfold resolveVolumes
  refine obeys_quiet_ask fun resolution => ?_
  cases resolution with
  | error message => exact .fail
  | blocked why =>
    cases unverified with
    | some job => exact .fail
    | none =>
      refine prep.stop_ends ?_ ?_
      · split <;> rfl
      · split <;> rfl
  | resolved volumes =>
    exact after _ _ (prep.congr rfl rfl rfl)

theorem unlessPaused_ends {reader : Reader} (after : Ends K proceed) :
    Ends K (unlessPaused reader obj effective status proceed) := by
  unfold unlessPaused
  refine (agentRunLaunchPausedWithReader_only.quietly (by decide)).bind fun paused => ?_
  cases paused with
  | some why =>
    refine obeys_quiet_ask fun pausedAt => ?_
    exact prep.stop_ends rfl rfl
  | none => exact after

/-- A pass goes on from the queues knowing that it was let through. -/
theorem unlessQueued_ends (shape : EffectiveRun K obj effective)
    (limit : K.limit = r.applicationMaxConcurrentRuns)
    (after : Ends { K with gated := true } proceed) :
    Ends K (unlessQueued r obj effective status proceed) := by
  unfold unlessQueued
  refine Obeys.call ⟨limit.symm, prep.stage, obj, prep.base, shape⟩ fun queued _ => ?_
  rcases queued with _ | _ | ahead
  · exact .fail
  · exact after
  · refine obeys_quiet_ask fun queuedAt => ?_
    exact prep.stop_ends rfl rfl

theorem unlessSecretsStale_ends (now : Nat) {proceed : AgentRunStatus → Pass Unit}
    (after : ∀ status', Preparing K obj status' → Ends K (proceed status')) :
    Ends K (unlessSecretsStale obj status now proceed) := by
  unfold unlessSecretsStale
  refine obeys_quiet_ask fun secrets => ?_
  split
  next why _ =>
    exact prep.stop_ends rfl rfl
  exact after _ (prep.congr rfl rfl rfl)

theorem reconcileAgentRunChatStartupDeadline_ends (now : Nat) :
    Ends K (reconcileAgentRunChatStartupDeadline obj status now) := by
  unfold reconcileAgentRunChatStartupDeadline
  refine Obeys.call trivial fun jobs _ => .ite (fun _ => .pure trivial) fun _ => ?_
  have grows : K.Grows { K with sawJobs := jobs ++ K.sawJobs, removed := [] } :=
    ⟨rfl, rfl, rfl, rfl, rfl, rfl, rfl, rfl, id, fun _ h => mem_append_right _ h⟩
  refine livePatch_ends (prep.toLiveKnow.grow grows) prep.key ?_ fun _ => .inl prep.unattempted
  exact (prep.endable.grow grows).congr rfl rfl

/-- A turn on a live actor records no Job. -/
theorem reconcileSubstrateActorRun_ends (now : Nat) :
    Ends K (reconcileSubstrateActorRun r obj effective status now) := by
  unfold reconcileSubstrateActorRun
  refine obeys_quiet_ask fun bound => ?_
  refine .ite (fun _ => .fail) fun _ => ?_
  refine .ite (fun _ => ?_) fun _ => ?_
  · exact prep.stop_ends rfl rfl
  refine obeys_quiet_ask fun outcome => ?_
  cases outcome with
  | failed | transient => exact prep.stop_ends rfl rfl
  | reply text =>
    refine .ite (fun _ => ?_) fun _ => ?_
    · exact prep.stop_ends rfl rfl
    · exact livePatch_ends prep.toLiveKnow prep.key
        ⟨prep.relaunch rfl rfl rfl, prep.endable.archive⟩ fun _ => .inl prep.unattempted

end

theorem require_obeys (fault : Option String) :
    Obeys K (require fault) fun K' _ => K' = K ∧ fault = none := by
  cases fault <;> simp [require]

/-- A chain of checks that finds nothing found nothing at its head. -/
theorem check_passed {α : Type} {c : Prop} {decided : Decidable c} {fault : α} {rest : Option α}
    (passes : (if c then some fault else rest) = none) : ¬c ∧ rest = none := by
  by_cases holds : c
  · simp [holds] at passes
  · exact ⟨holds, by simpa [holds] using passes⟩

theorem validateAgentRunJob_owner {job desired : Job} {run : AgentRun}
    (passes : validateAgentRunJob job desired run = none) :
    agentRunControllerOwnerMatches job.owner run = true := by
  unfold validateAgentRunJob at passes
  simpa using (check_passed passes).1

/-- A Job of the run that the pass has seen and whose identity can be recorded. -/
structure SeenJob (K : Know) (job : Job) : Prop where
  seen : job ∈ K.sawJobs
  owned : K.owns job
  exists_ : job.uid ≠ 0
  valid : job.key.valid = true

/-- The key of the Job that a launch of this run creates. -/
def launchKey (r : AgentRunReconciler) (run : AgentRun) (promptHash : String) : Key :=
  ⟨run.key.ns, agentRunChildName r.shortHash [run.key.name, "harness", promptHash]⟩

/-- Ensuring the Job creates it under its one name or finds it there; either way none is pending. -/
theorem ensureAgentRunJob_obeys (key : effective.key = K.key) (uid : effective.uid = K.uid)
    (known : K.uid ≠ 0) (live : K.stage = .live) (promptHash : String) (volumes : List String)
    (may : (K.pending = true ∧ K.gated = true ∧
        K.launch.plannedJobRef = some (launchKey r effective promptHash).ref) ∨
      (K.launch.jobCreateAttemptedAt = none ∧ ∃ seen ∈ K.sawJobs, K.owns seen)) :
    Obeys K (ensureAgentRunJob r effective promptHash volumes) fun K' job =>
      Grows { K with pending := false, sawJobs := [] } K' ∧ SeenJob K' job := by
  unfold ensureAgentRunJob
  refine Obeys.call trivial fun reply honest => ?_
  cases reply with
  | none =>
    refine Obeys.call ⟨live, ⟨known, ?_⟩, ?_, may⟩ fun reply honest => ?_
    · simp [agentRunJob, key, uid, learn]
    · simp [agentRunJob, key, learn]
    cases reply with
    | ok job =>
      obtain ⟨-, owner, exists_, valid⟩ := honest job rfl
      refine .pure ⟨⟨rfl, rfl, rfl, rfl, rfl, rfl, rfl, rfl, id, by simp⟩, .head _,
        ⟨known, ?_⟩,
        exists_, valid⟩
      rw [owner]
      simp [agentRunJob, key, uid, learn]
    | _ => exact .fail
  | some job =>
    obtain ⟨-, exists_, valid⟩ := honest job rfl
    refine .ite (fun _ => .fail) fun _ => ?_
    refine (require_obeys _).bind fun K' _ passed => ?_
    obtain ⟨rfl, passes⟩ := passed
    have owned : K.owns job := by
      have matches_ := validateAgentRunJob_owner passes
      simpa [agentRunControllerOwnerMatches, owns, key, uid] using matches_
    refine .pure ⟨⟨rfl, rfl, rfl, rfl, rfl, rfl, ?_, rfl, id, by simp⟩, .head _, owned, exists_,
      valid⟩
    simp [learn, owned]

/-- Recording the identity of a Job of the run. -/
theorem SeenJob.recorded (seen : SeenJob K job)
    (attempt : launch.jobCreateAttemptedAt = K.launch.jobCreateAttemptedAt)
    (planned : K.launch.jobCreateAttemptedAt.isSome →
      launch.plannedJobRef = K.launch.plannedJobRef)
    (complete : launch.jobCreateAttemptedAt.isSome → agentRunLaunchReceiptComplete launch = true)
    (ref : launch.jobRef = some job.key.ref) (uid : launch.jobUID = job.uid) :
    LaunchKept K launch := by
  refine ⟨attempt, planned, .inr (.inr ⟨job, seen.seen, seen.owned, ref, uid⟩), complete, ?_, ?_⟩
  · simp [ref, uid, seen.exists_]
  · intro named recorded
    obtain rfl : job.key.ref = named := some.inj (ref.symm.trans recorded)
    have valid := seen.valid
    simp only [Key.valid, Bool.and_eq_true] at valid
    simpa [Key.ref] using valid.1.1.1

variable {promptHash : String}

/-- The pass that has just recorded the attempt creates the Job and records it. -/
theorem createAndObserveJob_ends (own : original.key = K.key) (stage : K.stage = .live)
    (base : K.base = some original)
    (attempt : original.status.launch.jobCreateAttemptedAt = K.launch.jobCreateAttemptedAt)
    (pending : K.pending = true) (gated : K.gated = true) (known : K.uid ≠ 0)
    (key : effective.key = K.key) (uid : effective.uid = K.uid) (launch : status.launch = K.launch)
    (complete : agentRunLaunchReceiptComplete K.launch = true)
    (planned : K.launch.plannedJobRef = some (launchKey r effective promptHash).ref)
    (archive : status.archive = K.archive) (composition : AgentRunResolvedCompositionStatus)
    (digested : isBlank composition.payloadDigest = false) (hashed : isBlank promptHash = false)
    (volumes : List String) (now : Nat) :
    Ends K (createAndObserveJob r original effective status promptHash composition volumes now) := by
  unfold createAndObserveJob
  refine (ensureAgentRunJob_obeys key uid known stage promptHash volumes
    (.inl ⟨pending, gated, planned⟩)).bind fun K' job ensured => ?_
  obtain ⟨grows, seen⟩ := ensured
  have kept : K'.launch = K.launch := grows.launch
  have live : LiveKnow K' original := by
    refine ⟨own.trans grows.key.symm, grows.stage.trans stage, grows.base.trans base, grows.pending, ?_⟩
    rw [attempt, kept]
  refine observeAgentRunJob_ends live ?_ seen.seen seen.owned now
  refine ⟨seen.recorded ?_ (fun _ => ?_) (fun _ => ?_) ?_ ?_, .inl ?_⟩
  · rw [kept, launch]
  · rw [kept, launch]
  · -- The receipt stays complete: the new composition carries the digest it was checked with.
    rw [launch]
    simp only [agentRunLaunchReceiptComplete, Bool.and_eq_true] at complete ⊢
    exact ⟨⟨complete.1.1, by simpa using hashed⟩, by simpa using digested⟩
  · rfl
  · rfl
  · exact archive.trans grows.archive.symm

/-- The receipt in a status is that of this Job and this payload. -/
structure Records (r : AgentRunReconciler) (status : AgentRunStatus) (desired : Job)
    (payload : ConfigMap) (promptHash : String) (composition : AgentRunResolvedCompositionStatus)
    (volumes : List String) : Prop where
  complete : agentRunLaunchReceiptComplete status.launch = true
  planned : status.launch.plannedJobRef = some desired.key.ref
  digestible : r.digestJob desired.snapshot ≠ ""
  digest : status.launch.jobSpecDigest = r.digestJob desired.snapshot
  payloadRef : status.launch.payloadRef = some payload.key.ref
  payloadUID : status.launch.payloadUID ≠ 0 → status.launch.payloadUID = payload.uid
  prompt : status.launch.promptHash = promptHash
  volumes : status.dataVolumes = volumes
  composed : status.launch.resolvedComposition = some composition

variable {composition : AgentRunResolvedCompositionStatus}

/-- The plan check passes exactly the plans whose receipt is in the status. -/
theorem validateAgentRunLaunchPlan_eq_none {desired : Job} {payload : ConfigMap}
    {volumes : List String} :
    validateAgentRunLaunchPlan r status desired payload promptHash composition volumes = none ↔
      Records r status desired payload promptHash composition volumes := by
  unfold validateAgentRunLaunchPlan
  constructor
  · intro passes
    obtain ⟨complete, passes⟩ := check_passed passes
    obtain ⟨planned, passes⟩ := check_passed passes
    obtain ⟨digestible, passes⟩ := check_passed passes
    obtain ⟨digest, passes⟩ := check_passed passes
    obtain ⟨payload, passes⟩ := check_passed passes
    obtain ⟨uid, passes⟩ := check_passed passes
    obtain ⟨prompt, passes⟩ := check_passed passes
    obtain ⟨volumes, passes⟩ := check_passed passes
    obtain ⟨composed, -⟩ := check_passed passes
    exact ⟨by simpa using complete, not_not.mp planned, digestible, not_not.mp digest,
      not_not.mp payload, fun known => by_contra fun differs => uid ⟨known, differs⟩,
      not_not.mp prompt, not_not.mp volumes, not_not.mp composed⟩
  · rintro ⟨complete, planned, digestible, digest, payload, uid, prompt, volumes, composed⟩
    simp only [complete, planned, digestible, digest, payload, prompt, volumes, composed, Key.ref,
      Bool.not_true, Bool.false_eq_true, ne_eq, not_true, if_false]
    exact if_neg fun differs => differs.2 (uid differs.1)

/-- A complete receipt has a prompt hash and a payload digest. -/
theorem receipt_identity (complete : agentRunLaunchReceiptComplete launch = true)
    (composed : launch.resolvedComposition = some composition) :
    isBlank launch.promptHash = false ∧ isBlank composition.payloadDigest = false := by
  simp only [agentRunLaunchReceiptComplete, composed, Bool.and_eq_true] at complete
  exact ⟨by simpa using complete.1.2, by simpa using complete.2⟩

/-- A complete receipt names the payload by its UID. -/
theorem receipt_payloadUID
    (complete : agentRunLaunchReceiptComplete launch = true) : launch.payloadUID ≠ 0 := by
  simp only [agentRunLaunchReceiptComplete, Bool.and_eq_true] at complete
  simpa using complete.1.1.2

/-- What the pass knows once its attempt is stored. -/
theorem learn_attempt {lock : Bool} {read new run : AgentRun}
    (records : recordsAttempt read new = true) (own : new.key = K.key) :
    K.learn (.patchStatus lock read new) (.ok run) =
      { K with base := some run, launch := new.status.launch, pending := true } := by
  simp [learn, own, records]

/-- A resolved plan is one for this run, under its one Job name. -/
theorem resolveLaunchPlan_obeys (composition : AgentRunResolvedCompositionStatus)
    (volumes : List String) :
    Obeys K (resolveLaunchPlan r effective composition volumes) fun K' plan =>
      K' = K ∧ plan.effective.key = effective.key ∧ plan.effective.uid = effective.uid ∧
        plan.desiredJob.key = launchKey r plan.effective plan.promptHash := by
  unfold resolveLaunchPlan
  refine (ensureAgentRunConfigMap_only.quietly (by decide)).bind fun payload => ?_
  refine (agentRunJobSnapshotDigest_quiet _).bind fun digest => ?_
  exact .pure ⟨rfl, rfl, rfl, rfl⟩

/-- Preparing a launch, or recording the attempt of a prepared one and carrying it out. -/
theorem launchAgentRun_ends (prep : Preparing K obj status) (gated : K.gated = true)
    (key : effective.key = obj.key) (uid : effective.uid = obj.uid) (composition : AgentRunResolvedCompositionStatus)
    (volumes : List String) (now : Nat) :
    Ends K (launchAgentRun r obj effective composition status volumes now) := by
  unfold launchAgentRun
  refine (resolveLaunchPlan_obeys composition volumes).bind fun K' plan resolved => ?_
  obtain ⟨rfl, key', uid', named⟩ := resolved
  obtain ⟨promptHash, payload, composition, effective, desired, digest⟩ := plan
  have key := key'.trans key
  have uid := uid'.trans uid
  refine .ite (fun _ => ?_) fun _ => ?_
  · exact livePatch_ends prep.toLiveKnow prep.key
      ⟨prep.relaunch rfl rfl rfl, prep.endable.archive⟩ fun _ => .inl prep.unattempted
  refine (require_obeys _).bind fun K'' _ passed => ?_
  obtain ⟨rfl, passes⟩ := passed
  obtain ⟨complete, planned, -, -, -, -, prompt, -, composed⟩ :=
    validateAgentRunLaunchPlan_eq_none.mp passes
  rw [named] at planned
  obtain ⟨hashed, digested⟩ := receipt_identity complete composed
  -- A blank status has no complete receipt, so the receipt checked is the stored one.
  obtain ⟨stored, archive⟩ : status.launch = K''.launch ∧ status.archive = K''.archive := by
    rcases prep.stored with same | blank
    · exact same
    · simp [blank, agentRunLaunchReceiptComplete] at complete
  refine obeys_quiet_ask fun preflightAt => ?_
  refine .ite (fun _ => .pure trivial) fun _ => ?_
  have unattempted : status.launch.jobCreateAttemptedAt = none := by rw [stored, prep.unattempted]
  split
  next attempted => simp [unattempted] at attempted
  refine Obeys.call ?_ fun reply honest => ?_
  · refine (permits_own ?_).mpr (.inr (.inl ⟨prep.stage, prep.base, prep.settled, rfl,
      prep.unattempted, ⟨now / second, by rw [stored]⟩, stored ▸ complete, prep.unlaunched,
      archive, ?_⟩))
    · exact prep.key
    · exact prep.phase
  cases reply with
  | conflict => exact .pure trivial
  | ok run =>
    obtain ⟨at_key, attempt⟩ := honest run rfl
    have records : recordsAttempt obj { obj with
        status := { status with
          launch := { status.launch with jobCreateAttemptedAt := some (now / second) } } } = true := by
      simp [recordsAttempt, prep.attempt, prep.unattempted]
    rw [learn_attempt records prep.key]
    refine createAndObserveJob_ends
      (K := { K'' with
        base := some run
        launch := { status.launch with jobCreateAttemptedAt := some (now / second) }
        pending := true })
      ?_ prep.stage rfl (attempt records) rfl gated prep.known ?_ ?_ rfl ?_ ?_ ?_ _ digested
      (prompt ▸ hashed) volumes now
    · exact at_key.trans prep.key
    · exact key.trans prep.key
    · exact uid.trans prep.uid
    · exact complete
    · exact planned
    · exact archive
  | _ => exact .fail

/-- Observing a Job whose identity is in the status, or can be read off the Job. -/
theorem observeRecordedJob_ends (live : LiveKnow K obj) (endable : Endable K status)
    (seen : SeenJob K job) (recorded : status.launch.jobUID ≠ 0) (now : Nat)
    (complete : ∀ composition, status.launch.jobCreateAttemptedAt.isSome →
      agentRunLaunchReceiptComplete { status.launch with
        resolvedComposition := status.launch.resolvedComposition.or composition } = true) :
    Ends K (observeRecordedJob r obj status job now) := by
  unfold observeRecordedJob
  refine observeAgentRunJob_ends live ?_ seen.seen seen.owned now
  have kept := endable.launch
  refine ⟨⟨kept.attempt, kept.planned, ?_, ?_, ?_, kept.sound.named⟩, endable.archive⟩
  · simpa [jobIdentity, recorded] using kept.identity
  · simpa [agentRunLaunchReceiptComplete] using complete job.snapshot.composition
  · simpa [recorded] using kept.sound.paired

/-- Completing the composition of a complete receipt changes nothing. -/
theorem receipt_complete_or (complete : agentRunLaunchReceiptComplete launch = true)
    (composition : Option AgentRunResolvedCompositionStatus) :
    agentRunLaunchReceiptComplete { launch with
      resolvedComposition := launch.resolvedComposition.or composition } = true := by
  cases composed : launch.resolvedComposition with
  | none => simp [agentRunLaunchReceiptComplete, composed] at complete
  | some _ => simpa [agentRunLaunchReceiptComplete, composed] using complete

/-- The identity of a Job found again is recorded under the receipt it was created with. -/
theorem recoverAgentRunJob_ends (live : LiveKnow K obj) (endable : Endable K status)
    (seen : SeenJob K job) (stored : status.launch = K.launch)
    (complete : agentRunLaunchReceiptComplete status.launch = true) (now : Nat) :
    Ends K (recoverAgentRunJob r obj status job now) := by
  unfold recoverAgentRunJob
  split
  next => exact .fail
  refine (validateAgentRunLaunchReceipt_only.quietly (by decide)).bind fun _ => ?_
  -- Dating the composition keeps the digest the receipt is recognised by.
  have dated : ∀ launch : LaunchStatus, launch = { status.launch with
      jobUID := job.uid
      jobRef := some job.key.ref
      resolvedComposition := status.launch.resolvedComposition.map fun composition =>
        { composition with resolvedAt := some (composition.resolvedAt.getD (now / second)) } } →
      agentRunLaunchReceiptComplete launch = true := by
    rintro launch rfl
    cases composed : status.launch.resolvedComposition with
    | none => simp [agentRunLaunchReceiptComplete, composed] at complete
    | some _ => simpa [agentRunLaunchReceiptComplete, composed] using complete
  refine observeRecordedJob_ends live ?_ seen seen.exists_ now fun composition _ => ?_
  · refine ⟨seen.recorded ?_ (fun _ => ?_) (fun _ => dated _ rfl) ?_ ?_, endable.archive⟩
    · rw [stored]
    · rw [stored]
    · rfl
    · rfl
  · exact receipt_complete_or (dated _ rfl) composition

theorem SeenJob.grow (seen : SeenJob K job) (grows : K.Grows K') :
    SeenJob K' job :=
  ⟨grows.sawJobs seen.seen, grows.owns.mpr seen.owned, seen.exists_, seen.valid⟩

/-- Adopting a Job no receipt accounts for. -/
theorem adoptAgentRunJob_ends (prep : Preparing K obj status) (seen : SeenJob K job)
    (now : Nat) : Ends K (adoptAgentRunJob r obj status job now) := by
  unfold adoptAgentRunJob
  refine resolveForLaunch_ends prep now _ fun K effective composition status₁ grows shape prep => ?_
  have seen := seen.grow grows
  refine resolveVolumes_ends prep now _ fun volumes status₂ prep => ?_
  refine .ite (fun _ => .fail) fun _ => ?_
  refine (ensureAgentRunConfigMap_only.quietly (by decide)).bind fun payload => ?_
  refine (ensureAgentRunJob_obeys ?_ ?_ prep.known prep.stage _ volumes
    (.inr ⟨prep.unattempted, job, seen.seen, seen.owned⟩)).bind fun K' validated ensured => ?_
  · exact shape.key.trans prep.key
  · exact shape.uid.trans prep.uid
  · obtain ⟨grows, seen⟩ := ensured
    have live : LiveKnow K' obj := by
      refine ⟨prep.key.trans grows.key.symm, grows.stage.trans prep.stage, grows.base.trans prep.base,
        grows.pending, ?_⟩
      rw [grows.launch]
      exact prep.attempt
    refine .ite (fun _ => .fail) fun _ => ?_
    refine (agentRunJobSnapshotDigest_quiet _).bind fun digest => ?_
    have unattempted : status₂.launch.jobCreateAttemptedAt = none :=
      prep.endable.launch.attempt.trans prep.unattempted
    refine observeAgentRunJob_ends live ?_ seen.seen seen.owned now
    refine ⟨seen.recorded ?_ (fun attempted => ?_) (fun attempted => ?_) ?_ ?_, ?_⟩
    · rw [grows.launch]
      exact prep.endable.launch.attempt
    · rw [grows.launch] at attempted
      simp [prep.unattempted] at attempted
    · simp [unattempted] at attempted
    · rfl
    · rfl
    · rw [grows.archive]
      exact prep.endable.archive

/-- A pass that found no Job: gates, then launch. -/
theorem reconcileUnlaunched_ends (prep : Preparing K obj status)
    (limit : K.limit = r.applicationMaxConcurrentRuns) (now : Nat) :
    Ends K (reconcileUnlaunched r obj status now) := by
  unfold reconcileUnlaunched
  refine .ite (fun _ => reconcileAgentRunChatStartupDeadline_ends prep now) fun _ => ?_
  refine resolveForLaunch_ends prep now _ fun K' effective composition status₁ grows shape prep => ?_
  refine unlessPaused_ends prep (unlessQueued_ends prep shape (grows.limit.trans limit) ?_)
  have prep : Preparing { K' with gated := true } obj status₁ :=
    prep.grow ⟨rfl, rfl, rfl, rfl, rfl, rfl, rfl, rfl, fun _ => rfl, fun _ h => h⟩
  refine resolveVolumes_ends prep now _ fun volumes status₂ prep => ?_
  refine unlessSecretsStale_ends prep now fun status₃ prep => ?_
  refine unlessPaused_ends prep (.ite (fun _ => ?_) fun _ => ?_)
  · exact reconcileSubstrateActorRun_ends prep now
  · exact launchAgentRun_ends prep rfl shape.key shape.uid composition volumes now

/-- A pass that found no Job, or one it cannot account for, prepares from the status it read. -/
theorem FreshKnow.preparing (fresh : FreshKnow K obj)
    (unattempted : (observedStatus obj).launch.jobCreateAttemptedAt = none)
    (unlaunched : (observedStatus obj).launch.jobRef = none) :
    Preparing K obj (observedStatus obj) := by
  have endable := observedStatus_endable fresh
  refine ⟨fresh, endable, endable.launch.attempt.symm.trans unattempted, ?_, ?_, ?_⟩
  · rcases observedStatus_launch fresh with same | ⟨-, -, -, none⟩
    · exact same ▸ unlaunched
    · exact none
  · simp only [observedStatus]
    split
    · exact .inr rfl
    · exact .inl ⟨fresh.launch, fresh.archive⟩
  · simp only [observedStatus]
    split
    · rfl
    · exact fresh.open_

/-- A pass over a run that is neither held nor finished keeps the contract. -/
theorem reconcileLive_ends (fresh : FreshKnow K obj)
    (limit : K.limit = r.applicationMaxConcurrentRuns) : Ends K (reconcileLive r obj) := by
  unfold reconcileLive
  refine obeys_quiet_ask fun now => ?_
  refine (existingAgentRunJob_obeys fresh _ _ _).bind fun K' lookup found => ?_
  obtain ⟨grows, facts⟩ := found
  have fresh := fresh.grow grows
  have endable := observedStatus_endable fresh
  have sound := endable.launch.sound
  cases lookup with
  | missing message =>
    refine livePatch_ends fresh.toLiveKnow fresh.key ?_ fun _ => fresh.missing facts
    exact endable.congr rfl rfl
  | absent =>
    obtain ⟨unattempted, unlaunched⟩ := sound.absent facts
    exact reconcileUnlaunched_ends (fresh.preparing unattempted unlaunched)
      (grows.limit.trans limit) now
  | found job =>
    have seen : SeenJob K' job := ⟨facts.1, facts.2.1, facts.2.2.1, facts.2.2.2⟩
    refine .ite (fun planned => ?_) fun unplanned => ?_
    · -- The receipt is complete, so it is the stored one.
      have complete := (Bool.and_eq_true_iff.mp planned).2
      have stored : (observedStatus obj).launch = K'.launch := by
        rcases observedStatus_launch fresh with same | ⟨blank, -⟩
        · exact same
        · simp [blank, agentRunLaunchReceiptComplete] at complete
      exact recoverAgentRunJob_ends fresh.toLiveKnow endable seen stored complete now
    · refine .ite (fun unrecorded => ?_) fun recorded => ?_
      · -- No Job is recorded and the receipt is not complete, so none was attempted.
        have unlaunched : (observedStatus obj).launch.jobRef = none := by simpa using unrecorded
        have zero := sound.paired.mp unlaunched
        have unattempted : (observedStatus obj).launch.jobCreateAttemptedAt = none := by
          by_contra attempted
          have complete := sound.complete (isSome_iff_ne_none.mpr attempted)
          simp [zero, complete] at unplanned
        exact adoptAgentRunJob_ends (fresh.preparing unattempted unlaunched) seen now
      · have named : (observedStatus obj).launch.jobUID ≠ 0 := by
          intro zero
          simp [sound.paired.mpr zero] at recorded
        refine observeRecordedJob_ends fresh.toLiveKnow endable seen named now ?_
        exact fun composition attempted => receipt_complete_or (sound.complete attempted) composition

/-- Every pass keeps the contract, whatever the server answers. -/
theorem reconcile_conforms (r : AgentRunReconciler) (key : Key) :
    reconcileContract.Conforms (start r key) (reconcile r key) fun _ _ => True := by
  rw [← Contract.obeys_iff]
  unfold reconcile
  refine Obeys.call trivial fun reply honest => ?_
  cases reply with
  | none => exact .pure trivial
  | some obj =>
    obtain ⟨own, known, sound⟩ := honest obj rfl
    have learnt : (start r key).learn (.getRun key) (some obj) =
        { start r key with
          uid := obj.uid, base := some obj, launch := obj.status.launch,
          archive := obj.status.archive, stage := firstStage obj } := by
      simp [learn, readOwn, start]
    rw [learnt]
    refine .ite (fun _ => .pure trivial) fun present => ?_
    have present : obj.deleting = false := by simpa using present
    cases held : agentRunInterruptDuplicateHold obj with
    | some requester =>
      refine reconcileAgentRunInterruptDuplicateHold_ends own (.inl ?_) (.inl rfl) rfl
      simp [firstStage, present, held]
    | none =>
      refine .ite (fun finished => ?_) fun unfinished => ?_
      · refine reconcileTerminalAgentRun_ends ⟨own, ?_, rfl⟩
        simp [firstStage, present, held, finished]
      · have open_ : agentRunPhaseTerminal obj.status.phase = false := by simpa using unfinished
        refine reconcileLive_ends ⟨⟨own, ?_, rfl, rfl, rfl⟩, rfl, known, rfl, rfl, sound, open_⟩ rfl
        simp [firstStage, present, held, open_]

end AnvilAgents
