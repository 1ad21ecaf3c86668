import AnvilAgents.Proofs.Controller.SingleExecution

/-!
A launch is prepared in one pass and carried out by a later one, which resolves it again.

The payload shows the schedule and the situation of the run as they are when it is rendered, so the
later pass finds the launch it recorded only while these objects look the same.
-/

namespace AnvilAgents

open Conc Text Prog Option

variable {r : AgentRunReconciler} {w w' : World} {run : AgentRun} {payload : ConfigMap}

section Payload

/-- The situation and the schedule of a run, as a payload shows them. -/
def shownObjects (cluster : Cluster) (run : AgentRun) :
    Option AdverseSituation × Option AgentSchedule :=
  (((referencedKey run.key.ns run.spec.situationRef).bind cluster.getSituation).map (·.sanitized),
    ((referencedKey run.key.ns run.spec.scheduleRef).bind cluster.getSchedule).map (·.sanitized))

/-- A reference stays inside the namespace of its run. -/
def Inside (run : AgentRun) (ref : Option NamespacedObjectReference) : Prop :=
  ∀ key, referencedKey run.key.ns ref = some key → key.ns = run.key.ns

/-- Reading a referenced object succeeds exactly when the reference stays inside the namespace. -/
theorem getReferenced_run_iff {α : Type} {ref : Option NamespacedObjectReference} {fault : String}
    {get : Key → Pass (Option α)} {found : Option α} (look : Key → Option α)
    (reads : ∀ key, (get key).run serve w = (.ok (look key), w)) :
    (getReferenced run ref fault get).run serve w = (.ok found, w') ↔
      Inside run ref ∧ found = (referencedKey run.key.ns ref).bind look ∧ w' = w := by
  unfold getReferenced Inside
  cases named : referencedKey run.key.ns ref with
  | none => simp [eq_comm]
  | some key =>
    by_cases inside : key.ns = run.key.ns
    · simp [inside, reads, eq_comm]
    · simp [inside, Prog.run]

/-- The context document a pass renders. -/
def contextIn (r : AgentRunReconciler) (cluster : Cluster) (run : AgentRun) : AgentRunContext where
  key := run.key
  generation := run.generation
  uid := run.uid
  spec := run.spec
  resolvedComposition := run.status.launch.resolvedComposition
  platformContext := r.platformContext
  adverseSituation := (shownObjects cluster run).1
  agentSchedule := (shownObjects cluster run).2

variable {context : AgentRunContext}

theorem agentRunContextJSON_run_iff :
    (agentRunContextJSON r run).run serve w = (.ok context, w') ↔
      (Inside run run.spec.situationRef ∧ Inside run run.spec.scheduleRef) ∧
        context = contextIn r w.cluster run ∧ w' = w := by
  unfold agentRunContextJSON
  simp only [run_bind_eq_ok]
  constructor
  · rintro ⟨situation, w₁, first, schedule, w₂, second, last⟩
    obtain ⟨inside, rfl, rfl⟩ := (getReferenced_run_iff w.cluster.getSituation fun _ => rfl).mp first
    obtain ⟨inside', rfl, rfl⟩ := (getReferenced_run_iff w₁.cluster.getSchedule fun _ => rfl).mp second
    simp only [run_pure, Prod.mk.injEq, Except.ok.injEq] at last
    exact ⟨⟨inside, inside'⟩, last.1.symm, last.2.symm⟩
  · rintro ⟨⟨inside, inside'⟩, rfl, rfl⟩
    exact ⟨_, _, (getReferenced_run_iff _ fun _ => rfl).mpr ⟨inside, rfl, rfl⟩, _, _,
      (getReferenced_run_iff _ fun _ => rfl).mpr ⟨inside', rfl, rfl⟩, rfl⟩

/-- These are the files a pass over the run renders in this world. -/
structure Renders (r : AgentRunReconciler) (w : World) (run : AgentRun) (prompt : String)
    (data : AgentRunPayload) : Prop where
  situation : Inside run run.spec.situationRef
  schedule : Inside run run.spec.scheduleRef
  prompt : data.prompt = prompt
  context : data.context = contextIn r w.cluster run
  files : w.inputs.skillFiles run.key = some data.files
  fits : r.payloadSize data ≤ agentRunPayloadConfigMapMaxBytes

variable {data : AgentRunPayload}

theorem agentRunConfigMapData_run_iff {prompt : String} :
    (agentRunConfigMapData r run prompt context).run serve w = (.ok data, w') ↔
      (w.inputs.skillFiles run.key = some data.files ∧ data.prompt = prompt ∧
        data.context = context ∧ r.payloadSize data ≤ agentRunPayloadConfigMapMaxBytes) ∧ w' = w := by
  simp only [agentRunConfigMapData, ask, run_ask_bind, serve]
  cases stored : w.inputs.skillFiles run.key with
  | none => simp [Prog.run]
  | some files =>
    dsimp only
    split
    next large =>
      simp only [Prog.run, Prod.mk.injEq, reduceCtorEq, false_and, false_iff]
      rintro ⟨⟨same, rfl, rfl, fits⟩, -⟩
      obtain rfl := some.inj same
      exact absurd fits (Nat.not_le.mpr large)
    next fits =>
      rw [run_pure]
      constructor
      · rintro ⟨⟩
        exact ⟨⟨rfl, rfl, rfl, Nat.not_lt.mp fits⟩, rfl⟩
      · rintro ⟨⟨same, rfl, rfl, -⟩, rfl⟩
        obtain rfl := some.inj same
        rfl

/-- The name a payload is stored under. -/
def payloadKey (r : AgentRunReconciler) (run : AgentRun) (promptHash : String) : Key :=
  ⟨run.key.ns, agentRunChildName r.shortHash [run.key.name, "context", promptHash]⟩

/-- A ConfigMap that is the payload of a run. -/
structure PayloadOf (run : AgentRun) (data : AgentRunPayload) (payload : ConfigMap) : Prop where
  owner : payload.owner = some ⟨run.key.name, run.uid⟩
  labels : payload.labels = agentRunLabels run
  data : payload.data = data
  immutable : payload.immutable = true

variable {configMap : ConfigMap}

/-- The check passes exactly a payload of this run that is not immutable yet. -/
theorem validateAgentRunConfigMapIdentityAndData_eq_none :
    validateAgentRunConfigMapIdentityAndData configMap run data = none ↔
      run.uid ≠ 0 ∧ PayloadOf run data { configMap with immutable := true } := by
  have owned : agentRunControllerOwnerMatches configMap.owner run = true ↔
      run.uid ≠ 0 ∧ configMap.owner = some ⟨run.key.name, run.uid⟩ := by
    simp [agentRunControllerOwnerMatches]
  unfold validateAgentRunConfigMapIdentityAndData
  constructor
  · intro passes
    obtain ⟨owner, passes⟩ := check_passed passes
    obtain ⟨same, passes⟩ := check_passed passes
    obtain ⟨labels, -⟩ := check_passed passes
    obtain ⟨identified, owner⟩ := owned.mp (by simpa using owner)
    exact ⟨identified, owner, not_not.mp labels, not_not.mp same, rfl⟩
  · rintro ⟨identified, owner, labels, same, -⟩
    dsimp only at owner labels same
    simp [owned.mpr ⟨identified, owner⟩, same, labels]

theorem validateAgentRunConfigMap_eq_none :
    validateAgentRunConfigMap configMap run data = none ↔
      run.uid ≠ 0 ∧ PayloadOf run data configMap := by
  unfold validateAgentRunConfigMap
  constructor
  · intro passes
    split at passes
    · cases passes
    next identity =>
      obtain ⟨identified, payload⟩ := validateAgentRunConfigMapIdentityAndData_eq_none.mp identity
      refine ⟨identified, payload.owner, payload.labels, payload.data, ?_⟩
      by_contra mutable
      simp [mutable] at passes
  · rintro ⟨identified, payload⟩
    rw [validateAgentRunConfigMapIdentityAndData_eq_none.mpr
      ⟨identified, payload.owner, payload.labels, payload.data, rfl⟩]
    simp [payload.immutable]

theorem require_run_iff {fault : Option String} :
    (require fault).run serve w = (.ok (), w') ↔ fault = none ∧ w' = w := by
  cases fault with
  | none => simp [require, eq_comm]
  | some fault => simp [require, Prog.run]

/-- What a pass leaves when it has ensured the payload of a run. -/
structure Ensured (r : AgentRunReconciler) (w w' : World) (run : AgentRun) (prompt promptHash : String)
    (payload : ConfigMap) : Prop where
  renders : Renders r w run prompt payload.data
  wellFormed : PayloadOf run payload.data payload
  stored : w'.configMaps.get (payloadKey r run promptHash) = some payload
  runs : w'.runs = w.runs
  created : w.configMaps.get (payloadKey r run promptHash) = none → payload.uid = w.nextUID
  kept : ∀ before, w.configMaps.get (payloadKey r run promptHash) = some before →
    payload = { before with immutable := true }

theorem ensureAgentRunConfigMap_ensured {prompt promptHash digest : String}
    (ran : (ensureAgentRunConfigMap r run prompt promptHash).run serve w = (.ok (payload, digest), w'))
    :
    Ensured r w w' run prompt promptHash payload ∧ digest = r.digestPayload payload.data := by
  obtain ⟨_, _, shown, afterContext⟩ := run_bind_eq_ok.mp ran
  obtain ⟨⟨situation, schedule⟩, rfl, rfl⟩ := agentRunContextJSON_run_iff.mp shown
  obtain ⟨data, _, rendered, afterData⟩ := run_bind_eq_ok.mp afterContext
  obtain ⟨⟨files, prompted, context, fits⟩, rfl⟩ := agentRunConfigMapData_run_iff.mp rendered
  have renders := Renders.mk situation schedule prompted context files fits
  simp only [ask, run_ask_bind, serve] at afterData
  split at afterData
  next absent =>
    -- The name is free, so the payload is created and gets a new UID.
    simp only [run_ask_bind, serve, World.createConfigMap, absent, written] at afterData
    obtain ⟨⟨rfl, rfl⟩, rfl⟩ := afterData
    refine ⟨⟨renders, ⟨rfl, rfl, rfl, rfl⟩, ?_, rfl, fun _ => rfl, ?_⟩, rfl⟩
    · simp [payloadKey]
    · intro before present
      simp [payloadKey, absent] at present
  next before present =>
    obtain ⟨_, _, checked, afterCheck⟩ := run_bind_eq_ok.mp afterData
    obtain ⟨identity, rfl⟩ := require_run_iff.mp checked
    obtain ⟨-, wellFormed⟩ := validateAgentRunConfigMapIdentityAndData_eq_none.mp identity
    have same : before.data = data := wellFormed.data
    subst same
    split at afterCheck
    next immutable =>
      obtain ⟨_, _, checked, finished⟩ := run_bind_eq_ok.mp afterCheck
      obtain ⟨-, rfl⟩ := require_run_iff.mp checked
      obtain ⟨⟨rfl, rfl⟩, rfl⟩ := finished
      refine ⟨⟨renders, ⟨wellFormed.owner, wellFormed.labels, rfl, immutable⟩, present, rfl, ?_, ?_⟩,
        rfl⟩
      · intro absent
        simp [payloadKey, present] at absent
      · intro stored found
        obtain rfl := some.inj (present.symm.trans found)
        rw [← immutable]
    next mutable =>
      simp only [run_ask_bind, serve, present, written] at afterCheck
      obtain ⟨_, _, ⟨rfl, rfl⟩, checks⟩ := run_bind_eq_ok.mp afterCheck
      obtain ⟨_, _, checked, finished⟩ := run_bind_eq_ok.mp checks
      obtain ⟨-, rfl⟩ := require_run_iff.mp checked
      obtain ⟨⟨rfl, rfl⟩, rfl⟩ := finished
      refine ⟨⟨renders, ⟨wellFormed.owner, wellFormed.labels, rfl, rfl⟩, ?_, rfl, ?_, ?_⟩, rfl⟩
      · simp [payloadKey]
      · intro absent
        simp [payloadKey, present] at absent
      · intro stored found
        obtain rfl := some.inj (present.symm.trans found)
        rfl

/-- A pass that renders the stored payload again accepts it and writes nothing. -/
theorem ensureAgentRunConfigMap_stored {prompt promptHash : String} (identified : run.uid ≠ 0)
    (renders : Renders r w run prompt payload.data)
    (wellFormed : PayloadOf run payload.data payload)
    (stored : w.configMaps.get (payloadKey r run promptHash) = some payload) :
    (ensureAgentRunConfigMap r run prompt promptHash).run serve w =
      (.ok (payload, r.digestPayload payload.data), w) := by
  have context : (agentRunContextJSON r run).run serve w = (.ok payload.data.context, w) :=
    agentRunContextJSON_run_iff.mpr ⟨⟨renders.situation, renders.schedule⟩, renders.context, rfl⟩
  have data : (agentRunConfigMapData r run prompt payload.data.context).run serve w =
      (.ok payload.data, w) :=
    agentRunConfigMapData_run_iff.mpr ⟨⟨renders.files, renders.prompt, rfl, renders.fits⟩, rfl⟩
  have identity := validateAgentRunConfigMapIdentityAndData_eq_none.mpr
    ⟨identified, wellFormed.owner, wellFormed.labels, wellFormed.data, rfl⟩
  have whole := validateAgentRunConfigMap_eq_none.mpr ⟨identified, wellFormed⟩
  unfold ensureAgentRunConfigMap
  rw [run_bind_of_ok context, run_bind_of_ok data]
  unfold payloadKey at stored
  simp only [ask, run_ask_bind, serve, stored, identity, whole, wellFormed.immutable, if_true]
  rfl

end Payload

section Plan

variable {composition : AgentRunResolvedCompositionStatus} {volumes : List String}

def promptHashOf (r : AgentRunReconciler) (run : AgentRun) : String :=
  r.shortHash (r.buildAgentRunPrompt run.key run.spec)

/-- The plan that follows from an ensured payload. -/
def planOf (r : AgentRunReconciler) (run : AgentRun) (composition : AgentRunResolvedCompositionStatus)
    (volumes : List String) (payload : ConfigMap) : LaunchPlan :=
  let composition := { composition with payloadDigest := r.digestPayload payload.data }
  let effective := effectiveRun run run.spec composition
  let desiredJob := agentRunJob r effective
    (agentRunChildName r.shortHash [run.key.name, "harness", promptHashOf r run]) payload.key.name
    volumes
  ⟨promptHashOf r run, payload, composition, effective, desiredJob, r.digestJob desiredJob.snapshot⟩

theorem planOf_jobSpecDigest (payload : ConfigMap) :
    (planOf r run composition volumes payload).jobSpecDigest =
      r.digestJob (planOf r run composition volumes payload).desiredJob.snapshot := rfl

theorem agentRunJobSnapshotDigest_run_iff {job : Job} {digest : String} :
    (agentRunJobSnapshotDigest r job).run serve w = (.ok digest, w') ↔
      (r.digestJob job.snapshot ≠ "" ∧ digest = r.digestJob job.snapshot) ∧ w' = w := by
  unfold agentRunJobSnapshotDigest
  by_cases blank : r.digestJob job.snapshot = ""
  · simp [blank, Prog.run]
  · simp [blank, eq_comm]

/-- A plan is resolved exactly when the payload was ensured and the Job has a digest. -/
theorem resolveLaunchPlan_run_iff {plan : LaunchPlan} :
    (resolveLaunchPlan r run composition volumes).run serve w = (.ok plan, w') ↔
      ∃ payload, (ensureAgentRunConfigMap r run (r.buildAgentRunPrompt run.key run.spec)
          (promptHashOf r run)).run serve w = (.ok (payload, r.digestPayload payload.data), w') ∧
        (planOf r run composition volumes payload).jobSpecDigest ≠ "" ∧
        plan = planOf r run composition volumes payload := by
  unfold resolveLaunchPlan
  simp only [run_bind_eq_ok]
  constructor
  · rintro ⟨⟨payload, digest⟩, _, ensured, digest', _, digested, finished⟩
    obtain ⟨-, rfl⟩ := ensureAgentRunConfigMap_ensured ensured
    obtain ⟨⟨named, rfl⟩, rfl⟩ := agentRunJobSnapshotDigest_run_iff.mp digested
    obtain ⟨rfl, rfl⟩ := finished
    exact ⟨payload, ensured, named, rfl⟩
  · rintro ⟨payload, ensured, named, rfl⟩
    exact ⟨_, _, ensured, _, _, agentRunJobSnapshotDigest_run_iff.mpr ⟨⟨named, rfl⟩, rfl⟩, rfl⟩

end Plan

section Same

variable {w₀ w₁ : World} {run₀ run₁ : AgentRun}

/-- The same reference finds the same profile while that profile stays the same. -/
theorem resolveAgentRunProfileObject_same (key : run₁.key = run₀.key) (spec : run₁.spec = run₀.spec)
    (profile : ∀ ref, run₁.spec.profileRef = some ref →
      w₁.cluster.getProfile (ref.resolve run₁.key.ns) =
        w₀.cluster.getProfile (ref.resolve run₁.key.ns)) :
    ∃ found, (resolveAgentRunProfileObject run₁).run serve w₁ = (.ok found, w₁) ∧
      (resolveAgentRunProfileObject run₀).run serve w₀ = (.ok found, w₀) := by
  unfold resolveAgentRunProfileObject
  rw [key, spec] at profile
  rw [key, spec]
  cases named : run₀.spec.profileRef with
  | none => exact ⟨_, rfl, rfl⟩
  | some ref =>
    dsimp only
    by_cases blank : isBlank ref.name = true
    · rw [if_pos blank]
      exact ⟨_, rfl, rfl⟩
    by_cases outside : (ref.resolve run₀.key.ns).ns ≠ run₀.key.ns
    · rw [if_neg blank, if_pos outside]
      exact ⟨_, rfl, rfl⟩
    rw [if_neg blank, if_neg outside]
    simp only [ask, run_ask_bind, serve, profile ref named]
    cases w₀.cluster.getProfile (ref.resolve run₀.key.ns) with
    | none | some => exact ⟨_, rfl, rfl⟩

/-- The same spec resolves to the same composition while its inputs stay the same. -/
theorem resolveAgentRunComposition_same (key : run₁.key = run₀.key) (spec : run₁.spec = run₀.spec)
    (profile : ∀ ref, run₁.spec.profileRef = some ref →
      w₁.cluster.getProfile (ref.resolve run₁.key.ns) =
        w₀.cluster.getProfile (ref.resolve run₁.key.ns))
    (composition : w₁.inputs.composition run₁.key = w₀.inputs.composition run₁.key) :
    ((resolveAgentRunComposition r run₁).run serve w₁).1 =
      ((resolveAgentRunComposition r run₀).run serve w₀).1 := by
  obtain ⟨found, first, second⟩ := resolveAgentRunProfileObject_same key spec profile
  unfold resolveAgentRunComposition
  rw [key] at composition
  rw [spec]
  cases r.credentialViolation run₀.spec with
  | some violation => rfl
  | none =>
    rw [run_bind_of_ok first, run_bind_of_ok second]
    cases found with
    | error why => rfl
    | ok profile =>
      simp only [ask, run_ask_bind, serve, key, composition]
      cases w₀.inputs.composition run₀.key <;> rfl

end Same

section Passing

/-- What a run resolves to: its effective spec, its composition and its volumes. -/
structure Resolution where
  spec : AgentRunSpec
  composition : AgentRunResolvedCompositionStatus
  volumes : List String

variable (res : Resolution)

def Resolution.effective (run : AgentRun) : AgentRun :=
  effectiveRun run res.spec res.composition

@[simp]
theorem effective_key (run : AgentRun) : (res.effective run).key = run.key := rfl

@[simp]
theorem effective_uid (run : AgentRun) : (res.effective run).uid = run.uid := rfl

@[simp]
theorem effective_generation (run : AgentRun) : (res.effective run).generation = run.generation := rfl

@[simp]
theorem effective_spec (run : AgentRun) : (res.effective run).spec = res.spec := rfl

@[simp]
theorem effective_composition (run : AgentRun) :
    (res.effective run).status.launch.resolvedComposition = some res.composition := rfl

/-- The status a pass has computed when it comes to the launch. -/
def statusAtLaunch (r : AgentRunReconciler) (w : World) (run : AgentRun) (res : Resolution) :
    AgentRunStatus :=
  { describeExecution r (observedStatus run) res.spec with
    dataVolumes := res.volumes
    externalSecretRefreshes := (w.inputs.externalSecrets run.key).refreshes }

/-- A pass over the run gets past all gates: it finds no Job, no pause, no queue and no other hold. -/
structure PastGates (r : AgentRunReconciler) (w : World) (run : AgentRun) (res : Resolution) : Prop where
  stored : w.runs.get run.key = some run
  identified : run.uid ≠ 0
  present : run.deleting = false
  unheld : agentRunInterruptDuplicateHold run = none
  live : agentRunPhaseTerminal run.status.phase = false
  jobless : ((existingAgentRunJob run (expectedJobRef (observedStatus run).launch)
    (observedStatus run).launch.jobUID (plannedLaunch (observedStatus run).launch &&
      !(observedStatus run).launch.jobCreateAttemptedAt.isSome)).run serve w).1 = .ok .absent
  inTime : agentRunChatStartupExpired run (observedStatus run) w.clock = false
  composed : ((resolveAgentRunComposition r run).run serve w).1 =
    .ok (.resolved res.spec res.composition)
  valid : agentRunBlockingValidation r (res.effective run) w.clock = none
  unpaused : ∀ reader,
    ((agentRunLaunchPausedWithReader reader (res.effective run)).run serve w).1 = .ok none
  unqueued : agentRunQueuedBehind w.cluster r.applicationMaxConcurrentRuns w.runs.values
    (res.effective run) = .ok none
  volumes : w.inputs.dataVolumes run.key = .resolved res.volumes
  secrets : (w.inputs.externalSecrets run.key).waiting = none
  onJob : r.generateOnActor res.spec = false

/-- A program that makes only such calls leaves everything as it was. -/
theorem Only.reads {α : Type} {p : Pass α} {names : List CallName} (only : Only names p)
    (listed : names ⊆ [.getJob, .listJobs, .getProfile, .resolveComposition] ++ pauseCalls) :
    (p.run serve w).2 = w := by
  refine (only.mono listed).run_snd (fun c w' member => ?_) w
  cases c <;> first | rfl | simp [Call.name, pauseCalls] at member

/-- Such a pass only reads until it comes to the launch. -/
theorem PastGates.reconcile_run {res : Resolution} (past : PastGates r w run res) :
    (reconcile r run.key).run serve w =
      (launchAgentRun r run (res.effective run) res.composition (statusAtLaunch r w run res)
        res.volumes w.clock).run serve w := by
  have started : (reconcile r run.key).run serve w = (reconcileLive r run).run serve w := by
    simp [reconcile, ask, serve, past.stored, past.present, past.unheld, past.live]
  rw [started]
  simp only [reconcileLive, ask, run_ask_bind, serve]
  rw [run_bind_of_ok (Prod.ext past.jobless (existingAgentRunJob_only.reads (by decide)))]
  simp only [reconcileUnlaunched, past.inTime, resolveForLaunch, Bool.false_eq_true, if_false]
  rw [run_bind_of_ok (Prod.ext past.composed (resolveAgentRunComposition_only.reads (by decide)))]
  have valid := past.valid
  have unpaused (reader : Reader) :
      (agentRunLaunchPausedWithReader reader (res.effective run)).run serve w = (.ok none, w) :=
    Prod.ext (past.unpaused reader) (agentRunLaunchPausedWithReader_only.reads (by decide))
  have unqueued := past.unqueued
  have onActor : r.generateOnActor (effectiveRun run res.spec res.composition).spec = false := past.onJob
  simp only [Resolution.effective] at valid unpaused unqueued
  simp only [ask, run_ask_bind, serve, valid, unlessPaused]
  rw [run_bind_of_ok (unpaused .client)]
  simp only [ask, run_ask_bind, serve, unlessQueued, unqueued, resolveVolumes, past.volumes,
    unlessSecretsStale, past.secrets]
  rw [run_bind_of_ok (unpaused .apiReader)]
  simp only [onActor, Bool.false_eq_true, if_false]
  rfl

/-- Neither the payload nor the plan of the launch is refused. -/
def LaunchAccepted (r : AgentRunReconciler) (w : World) (run : AgentRun) (res : Resolution) : Prop :=
  ∃ plan w', (resolveLaunchPlan r (res.effective run) res.composition res.volumes).run serve w =
      (.ok plan, w') ∧
    validateAgentRunLaunchPlan r (statusAtLaunch r w run res) plan.desiredJob plan.payload
      plan.promptHash plan.composition res.volumes = none

theorem PastGates.refused {res : Resolution} (past : PastGates r w run res)
    (prepared : agentRunLaunchReceiptComplete (observedStatus run).launch = true)
    (refused : ¬LaunchAccepted r w run res) :
    ∃ fault w', (reconcile r run.key).run serve w = (.error fault, w') := by
  rw [past.reconcile_run, launchAgentRun]
  rcases resolved : (resolveLaunchPlan r (res.effective run) res.composition res.volumes).run serve w
    with ⟨fault | plan, w'⟩
  · exact ⟨fault, w', run_bind_of_error resolved⟩
  · rw [run_bind_of_ok resolved]
    have complete : agentRunLaunchReceiptComplete (statusAtLaunch r w run res).launch = true := prepared
    dsimp only
    rw [if_neg (by simp [complete])]
    cases invalid : validateAgentRunLaunchPlan r (statusAtLaunch r w run res) plan.desiredJob
      plan.payload plan.promptHash plan.composition res.volumes with
    | none => exact absurd ⟨plan, w', resolved, invalid⟩ refused
    | some fault => exact ⟨fault, w', rfl⟩

/-- What a pass leaves when it has prepared the launch of a run. -/
structure Prepared (r : AgentRunReconciler) (w w' : World) (run prepared : AgentRun)
    (res : Resolution) (payload : ConfigMap) : Prop where
  renders : Renders r w (res.effective run) (r.buildAgentRunPrompt run.key res.spec) payload.data
  wellFormed : PayloadOf (res.effective run) payload.data payload
  digestible : (planOf r (res.effective run) res.composition res.volumes payload).jobSpecDigest ≠ ""
  payloadStored : w'.configMaps.get
    (payloadKey r run (promptHashOf r (res.effective run))) = some payload
  runStored : w'.runs.get run.key = some prepared
  key : prepared.key = run.key
  generation : prepared.generation = run.generation
  uid : prepared.uid = run.uid
  spec : prepared.spec = run.spec
  receipt : prepared.status.launch =
    let plan := planOf r (res.effective run) res.composition res.volumes payload
    recordReceipt (observedStatus run).launch plan.promptHash plan.desiredJob.key plan.jobSpecDigest
      plan.payload plan.composition

/-- A pass over an unprepared run that succeeds has prepared its launch. -/
theorem PastGates.prepares {res : Resolution} (past : PastGates r w run res)
    (unprepared : agentRunLaunchReceiptComplete (observedStatus run).launch = false)
    (ran : (reconcile r run.key).run serve w = (.ok (), w')) :
    ∃ prepared payload, Prepared r w w' run prepared res payload := by
  rw [past.reconcile_run, launchAgentRun] at ran
  obtain ⟨plan, between, resolved, patched⟩ := run_bind_eq_ok.mp ran
  obtain ⟨payload, ensured, digestible, rfl⟩ := resolveLaunchPlan_run_iff.mp resolved
  obtain ⟨ensured, -⟩ := ensureAgentRunConfigMap_ensured ensured
  have incomplete : agentRunLaunchReceiptComplete (statusAtLaunch r w run res).launch = false :=
    unprepared
  dsimp only at patched
  rw [if_pos (by simp [incomplete])] at patched
  have found : between.runs.get run.key = some run := ensured.runs ▸ past.stored
  obtain ⟨after, version, stored, at_key, -, configMaps⟩ := patchAgentRunStatus_run found _
  obtain ⟨-, rfl⟩ := Prod.mk.inj (stored.symm.trans patched)
  exact ⟨_, payload, {
    renders := ensured.renders
    wellFormed := ensured.wellFormed
    digestible := digestible
    payloadStored := configMaps ▸ ensured.stored
    runStored := at_key
    key := rfl
    generation := rfl
    uid := rfl
    spec := rfl
    receipt := rfl }⟩

/--
What the cluster keeps between two passes.

The receipt stands, nothing that goes into the composition, the skills or the volumes has changed, an
immutable ConfigMap is not edited, and no UID is given out twice. Everything else may differ.
-/
structure InputsKept (w₀ w w₁ : World) (prepared run : AgentRun) : Prop where
  key : run.key = prepared.key
  uid : run.uid = prepared.uid
  spec : run.spec = prepared.spec
  receipt : run.status.launch = prepared.status.launch
  profile : ∀ ref, run.spec.profileRef = some ref →
    w₁.cluster.getProfile (ref.resolve run.key.ns) = w₀.cluster.getProfile (ref.resolve run.key.ns)
  composition : w₁.inputs.composition run.key = w₀.inputs.composition run.key
  volumes : w₁.inputs.dataVolumes run.key = w₀.inputs.dataVolumes run.key
  skills : w₁.inputs.skillFiles run.key = w₀.inputs.skillFiles run.key
  immutable : ∀ key before after, w.configMaps.get key = some before → before.immutable = true →
    w₁.configMaps.get key = some after → after.uid = before.uid → after = before
  issued : prepared.status.launch.payloadUID < w₁.nextUID

section Same

variable {w₀ w₁ : World} {run₀ run₁ : AgentRun} {prepared : AgentRun}

/-- What a run resolves to does not change while its inputs stay the same. -/
theorem PastGates.same_resolution {w : World} {res₀ res₁ : Resolution}
    (first : PastGates r w₀ run₀ res₀) (second : PastGates r w₁ run₁ res₁)
    (kept : InputsKept w₀ w w₁ prepared run₁) (key : prepared.key = run₀.key)
    (spec : prepared.spec = run₀.spec) : res₁ = res₀ := by
  have key := kept.key.trans key
  have composed := resolveAgentRunComposition_same (r := r) key (kept.spec.trans spec) kept.profile
    kept.composition
  rw [first.composed, second.composed] at composed
  obtain ⟨specs, compositions⟩ := Composition.resolved.inj (Except.ok.inj composed)
  have volumes := kept.volumes
  rw [second.volumes, key, first.volumes] at volumes
  cases res₀
  cases res₁
  simp_all

/-- The Job of a launch is rendered from the identity and the effective spec of its run. -/
theorem planOf_desiredJob {composition : AgentRunResolvedCompositionStatus} {volumes : List String}
    (key : run₁.key = run₀.key) (uid : run₁.uid = run₀.uid) (spec : run₁.spec = run₀.spec) :
    (planOf r run₁ composition volumes payload).desiredJob =
      (planOf r run₀ composition volumes payload).desiredJob := by
  simp [planOf, promptHashOf, agentRunJob, effectiveRun, agentRunLabels, key, uid, spec]

/-- A live run keeps a complete receipt, whatever its generation. -/
theorem observedStatus_prepared {run : AgentRun} (live : agentRunPhaseTerminal run.status.phase = false)
    (complete : agentRunLaunchReceiptComplete run.status.launch = true) :
    (observedStatus run).launch = run.status.launch := by
  have preserved : preserveExecution run.status = true := by
    simp [preserveExecution, live, complete]
  simp [observedStatus, preserved]

/--
A later pass accepts a prepared launch exactly while what the payload shows is still there.

The context document carries the generation of the run and the whole situation and schedule it refers
to, so it is the same only if these are; and a payload that was deleted comes back under another UID.
-/
theorem launchAccepted_iff {w : World} {res : Resolution}
    (first : Prepared r w₀ w run₀ prepared res payload)
    (complete : agentRunLaunchReceiptComplete prepared.status.launch = true)
    (kept : InputsKept w₀ w w₁ prepared run₁) (second : PastGates r w₁ run₁ res) :
    LaunchAccepted r w₁ run₁ res ↔
      run₁.generation = run₀.generation ∧
      shownObjects w₁.cluster (res.effective run₁) = shownObjects w₀.cluster (res.effective run₀) ∧
      w₁.configMaps.get (payloadKey r run₁ run₁.status.launch.promptHash) =
        w.configMaps.get (payloadKey r run₁ run₁.status.launch.promptHash) := by
  have key : run₁.key = run₀.key := kept.key.trans first.key
  have uid : run₁.uid = run₀.uid := kept.uid.trans first.uid
  have receipt := kept.receipt.trans first.receipt
  have launch : (statusAtLaunch r w₁ run₁ res).launch = run₁.status.launch :=
    observedStatus_prepared second.live (kept.receipt ▸ complete)
  have hash : promptHashOf r (res.effective run₁) = promptHashOf r (res.effective run₀) := by
    simp [promptHashOf, key]
  have hashed : run₁.status.launch.promptHash = promptHashOf r (res.effective run₁) := by
    rw [receipt, hash]
    rfl
  have at_key : payloadKey r run₁ run₁.status.launch.promptHash =
      payloadKey r (res.effective run₁) (promptHashOf r (res.effective run₁)) := by
    rw [hashed]
    rfl
  have stored : w.configMaps.get
      (payloadKey r (res.effective run₁) (promptHashOf r (res.effective run₁))) = some payload := by
    rw [hash, payloadKey, effective_key, key]
    exact first.payloadStored
  rw [at_key]
  constructor
  · rintro ⟨plan, w', resolved, valid⟩
    obtain ⟨payload', ensured, -, rfl⟩ := resolveLaunchPlan_run_iff.mp resolved
    obtain ⟨ensured, -⟩ := ensureAgentRunConfigMap_ensured ensured
    have records := validateAgentRunLaunchPlan_eq_none.mp valid
    -- The payload of this pass has the recorded UID, so it was not created by this pass.
    have recorded : run₁.status.launch.payloadUID = payload.uid := by
      rw [receipt]
      rfl
    have identified : run₁.status.launch.payloadUID ≠ 0 := receipt_payloadUID (kept.receipt ▸ complete)
    have same : payload'.uid = payload.uid := by
      rw [← recorded, ← launch]
      exact (records.payloadUID (launch ▸ identified)).symm
    cases found : w₁.configMaps.get
      (payloadKey r (res.effective run₁) (promptHashOf r (res.effective run₁))) with
    | none =>
      have fresh : payload.uid = w₁.nextUID := same.symm.trans (ensured.created found)
      have issued := kept.issued
      rw [← kept.receipt, recorded, fresh] at issued
      exact absurd issued (Nat.lt_irrefl _)
    | some before =>
      have unchanged : before = payload := by
        refine kept.immutable _ _ _ stored first.wellFormed.immutable found ?_
        rw [← same, ensured.kept _ found]
      subst unchanged
      have data : payload'.data = before.data := by rw [ensured.kept _ found]
      have contexts := ensured.renders.context
      rw [data, first.renders.context] at contexts
      refine ⟨?_, ?_, stored.symm⟩
      · exact (congrArg AgentRunContext.generation contexts).symm
      · exact Prod.ext (congrArg AgentRunContext.adverseSituation contexts).symm
          (congrArg AgentRunContext.agentSchedule contexts).symm
  · rintro ⟨generation, shown, unchanged⟩
    have jobs : (planOf r (res.effective run₁) res.composition res.volumes payload).desiredJob =
        (planOf r (res.effective run₀) res.composition res.volumes payload).desiredJob :=
      planOf_desiredJob key uid rfl
    have context : contextIn r w₁.cluster (res.effective run₁) =
        contextIn r w₀.cluster (res.effective run₀) := by
      simp [contextIn, shown, key, uid, generation]
    have renders : Renders r w₁ (res.effective run₁)
        (r.buildAgentRunPrompt (res.effective run₁).key (res.effective run₁).spec) payload.data := by
      obtain ⟨situation, schedule, prompt, rendered, files, fits⟩ := first.renders
      refine ⟨?_, ?_, ?_, rendered.trans context.symm, ?_, fits⟩
      · simpa [Inside, key] using situation
      · simpa [Inside, key] using schedule
      · simpa [key] using prompt
      · rw [effective_key, kept.skills, key]
        exact files
    have wellFormed : PayloadOf (res.effective run₁) payload.data payload := by
      obtain ⟨owner, labels, data, immutable⟩ := first.wellFormed
      exact ⟨by simpa [key, uid] using owner, by simpa [agentRunLabels, key] using labels, data,
        immutable⟩
    have identified : (res.effective run₁).uid ≠ 0 := second.identified
    have ensured := ensureAgentRunConfigMap_stored identified renders wellFormed
      (unchanged.trans stored)
    have digests : (planOf r (res.effective run₁) res.composition res.volumes payload).jobSpecDigest =
        (planOf r (res.effective run₀) res.composition res.volumes payload).jobSpecDigest := by
      rw [planOf_jobSpecDigest, planOf_jobSpecDigest, jobs]
    have digestible :
        (planOf r (res.effective run₁) res.composition res.volumes payload).jobSpecDigest ≠ "" := by
      rw [digests]
      exact first.digestible
    refine ⟨_, w₁, resolveLaunchPlan_run_iff.mpr ⟨payload, ensured, digestible, rfl⟩,
      validateAgentRunLaunchPlan_eq_none.mpr ?_⟩
    exact {
      complete := by rw [launch, kept.receipt]; exact complete
      planned := by rw [launch, receipt, jobs]; rfl
      digestible := digestible
      digest := by rw [launch, receipt]; exact digests.symm
      payloadRef := by rw [launch, receipt]; rfl
      payloadUID := fun _ => by rw [launch, receipt]; rfl
      prompt := by rw [launch]; exact hashed
      volumes := rfl
      composed := by rw [launch, receipt]; rfl }

end Same

end Passing

section Sample

/-- A schedule as it was when the run was prepared. -/
def nightly : AgentSchedule where
  key := ⟨"ns", "nightly"⟩
  uid := 40
  resourceVersion := 7
  runTemplate := "first"

/-- A run that names its schedule as context, and the cluster it lives in. -/
def scheduledRun : AgentRun where
  key := ⟨"ns", "x"⟩
  uid := 1
  resourceVersion := 1
  generation := 1
  creationTimestamp := 100
  notes := {}
  spec := { scheduleRef := some ⟨"nightly", ""⟩ }

def scheduledWorld : World :=
  { sampleWorld with
    cluster := { schedules := [nightly] }
    runs := sampleWorld.runs.put ⟨"ns", "x"⟩ scheduledRun
    nextUID := 2
    nextVersion := 2 }

def scheduledResolution : Resolution where
  spec := scheduledRun.spec
  composition := {}
  volumes := []

/-- The world after the preparing pass. -/
def preparedWorld : World :=
  ((reconcile sampleReconciler scheduledRun.key).run serve scheduledWorld).2

/-- A minute later there is another schedule, which the payload does not show. -/
def laterWorld : World :=
  { preparedWorld with
    clock := preparedWorld.clock + 60 * second
    inputs := sampleInputs
    cluster := { schedules := [nightly, { nightly with key := ⟨"ns", "weekly"⟩, uid := 41 }] } }

def preparedRun : AgentRun :=
  (preparedWorld.runs.get scheduledRun.key).getD scheduledRun

/-- The schedule after its controller has written its status. -/
def nightlyScheduled : AgentSchedule :=
  { nightly with resourceVersion := 8, status := "lastScheduleTime: 02:00" }

/-- The run is prepared, and then the status of its schedule is updated. -/
def scheduleStatusUpdate : List (Move Key Act) :=
  .act (.setCluster { schedules := [nightly] }) ::
    .act (.createRun scheduledRun.key {} scheduledRun.spec) :: work scheduledRun.key 17 ++
    [.act (.setCluster { schedules := [nightlyScheduled] })]

end Sample

end AnvilAgents
