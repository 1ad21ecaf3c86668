import AnvilAgents.Automation.Chain
import AnvilAgents.Lib.Fallible

/-! What one pass of the chain reconciler can do. -/

namespace AnvilAgents.Automation.Chain

open Text Fallible List

/-- What a status says about the active instance. -/
structure Active where
  instanceID : String
  step : String
  runRef : Option NamespacedObjectReference
  runUID : UID
  sourceGeneration : Nat
  digest : Option Workflow

def AgentChainStatus.active (status : AgentChainStatus) : Active where
  instanceID := status.activeInstanceID
  step := status.activeStep
  runRef := status.activeRunRef
  runUID := status.activeRunUID
  sourceGeneration := status.activeSourceGeneration
  digest := status.activeWorkflowDigest

variable {env : ChainEnv} {s : World} {status : AgentChainStatus}

/-! ### Runs -/

/-- The run that a status names. -/
structure ActiveRun (s : World) (active : Active) (run : Run) : Prop where
  ref : ∃ ref, active.runRef = some ref ∧
    s.runs.find? (fun other => other.name == ref.name) = some run
  made : run.spec.sourceUID = s.chain.uid
  instanceID : run.labels.value agentRunChainInstLabel = sanitizeLabelValue active.instanceID
  step : run.labels.value agentRunChainStepLabel = sanitizeLabelValue active.step
  digest : run.sourceDigest = active.digest

variable {run : Run}

theorem findRun_ok {name : String} (found : findRun s name = .ok run) :
    s.runs.find? (fun other => other.name == name) = some run := by
  unfold findRun at found
  split at found
  next same =>
    cases found
    exact same
  next => cases found

theorem agentChainRunByRef_ok {step : String} {ref : NamespacedObjectReference} {uid : UID}
    (resolved : agentChainRunByRef s status step ref uid = .ok run) :
    s.runs.find? (fun other => other.name == ref.name) = some run ∧
      run.spec.sourceUID = s.chain.uid ∧
      run.labels.value agentRunChainInstLabel = sanitizeLabelValue status.activeInstanceID ∧
      run.labels.value agentRunChainStepLabel = sanitizeLabelValue step ∧
      run.sourceDigest = status.activeWorkflowDigest := by
  -- Every check lets the next one run, and the last one returns the run that was found.
  have afterName := (of_check_ok resolved).2
  have afterNs := (of_check_ok afterName).2
  obtain ⟨found, lookup, afterFind⟩ := bind_ok afterNs
  have afterUID := (of_check_ok afterFind).2
  obtain ⟨_, -, afterApplication⟩ := bind_ok afterUID
  obtain ⟨identity, afterIdentity⟩ := of_check_ok afterApplication
  split at afterIdentity
  next => cases afterIdentity
  cases afterIdentity
  simp only [not_or, ne_eq, not_not] at identity
  exact ⟨findRun_ok lookup, identity.2.1, identity.2.2.2.2.2.2.1, identity.2.2.2.2.2.2.2,
    identity.2.2.2.1⟩

theorem agentChainActiveRun_ok (resolved : agentChainActiveRun s status = .ok run) :
    ActiveRun s status.active run := by
  unfold agentChainActiveRun at resolved
  split at resolved
  next => cases resolved
  rename_i ref named
  obtain ⟨found, made, instanceID, step, digest⟩ := agentChainRunByRef_ok resolved
  exact ⟨⟨ref, named, found⟩, made, instanceID, step, digest⟩

/-- The run that a request ends up with: a new one, or the one of its name. -/
structure Launched (env : ChainEnv) (s : World) (request : StepRequest) (created : Bool) (run : Run) :
    Prop where
  name : run.name = chainRunName env s.chain request.instanceID request.step.name
  new : created = true → (∀ other ∈ s.runs, other.name ≠ run.name) ∧
    ∃ application, run = chainRun env s request application
  old : created = false → s.runs.find? (fun other => other.name ==
      chainRunName env s.chain request.instanceID request.step.name) = some run
  made : run.spec.sourceUID = s.chain.uid
  instanceID : run.labels.value agentRunChainInstLabel = sanitizeLabelValue request.instanceID
  step : run.labels.value agentRunChainStepLabel = sanitizeLabelValue request.step.name
  digest : run.sourceDigest = some request.workflowDigest
  detectedAt : run.spec.trigger.detectedAt = request.detectedAt.map stored

theorem childLabels_instance (chain : AgentChain) (application instanceID step : String) :
    (agentChainChildLabels chain application instanceID step).value agentRunChainInstLabel =
      sanitizeLabelValue instanceID := by
  simp [agentChainChildLabels, Labels.value, agentRunChainInstLabel, agentRunChainLabel,
    lookup_cons]

theorem childLabels_step (chain : AgentChain) (application instanceID step : String) :
    (agentChainChildLabels chain application instanceID step).value agentRunChainStepLabel =
      sanitizeLabelValue step := by
  simp [agentChainChildLabels, Labels.value, agentRunChainInstLabel, agentRunChainLabel,
    agentRunChainStepLabel, lookup_cons]

theorem childLabels_chain (chain : AgentChain) (application instanceID step : String) :
    (agentChainChildLabels chain application instanceID step).value agentRunChainLabel =
      sanitizeLabelValue chain.name := by
  simp [agentChainChildLabels, Labels.value, agentRunChainLabel]

theorem createChainedAgentRun_ok {request : StepRequest} {created : Bool}
    (made : createChainedAgentRun env s request = .ok (created, run)) :
    Launched env s request created run := by
  obtain ⟨application, -, made⟩ := bind_ok made
  dsimp only at made
  split at made
  next absent =>
    cases made
    have fresh := find?_eq_none.mp absent
    exact {
      name := rfl
      new := fun _ => ⟨fun other member same => fresh other member (beq_iff_eq.mpr same),
        application, rfl⟩
      old := nofun
      made := rfl
      instanceID := childLabels_instance ..
      step := childLabels_step ..
      digest := rfl
      detectedAt := rfl }
  next existing found =>
    obtain ⟨_, accepted, made⟩ := bind_ok made
    cases made
    obtain ⟨identity, afterIdentity⟩ := of_check_ok accepted
    obtain ⟨labels, afterLabels⟩ := of_check_ok afterIdentity
    have spec := (of_check_ok afterLabels).1
    simp only [not_or, ne_eq, not_not] at identity labels spec
    have named := find?_some found
    exact {
      name := beq_iff_eq.mp named
      new := nofun
      old := fun _ => found
      made := identity.1
      instanceID := labels.1.trans (childLabels_instance ..)
      step := labels.2.trans (childLabels_step ..)
      digest := spec.2.1
      detectedAt := congrArg (fun spec => spec.trigger.detectedAt) spec.2.2.1 }

/-! ### Outcomes -/

/-- A due time that is set is not taken back. -/
def Later (old new : AgentChainStatus) : Prop :=
  ∀ due, old.nextStartAt = some due → ∃ due', new.nextStartAt = some due' ∧ due ≤ due'

theorem Later.refl : Later status status := fun due set => ⟨due, set, le_refl _⟩

theorem Later.trans {first second third : AgentChainStatus} (one : Later first second)
    (two : Later second third) : Later first third := by
  intro due set
  obtain ⟨due', set', le⟩ := one due set
  obtain ⟨due'', set'', le'⟩ := two due' set'
  exact ⟨due'', set'', le_trans le le'⟩

/-- A due time that is written is stored already, or not over, or the next one of the cadence. -/
def Recent (s : World) (status : AgentChainStatus) : Prop :=
  ∀ next, status.nextStartAt = some next → s.chain.status.nextStartAt = some next ∨ s.now ≤ next ∨
    (agentChainNextStartTime s.chain s.chain.status s.now).map Int.toNat = some next

/-- The spec passes its checks and names one application. -/
def Valid (chain : AgentChain) : Prop :=
  validateAgentChainSpec chain = .ok () ∧
    ∃ name, resolveAgentChainApplicationName chain = .ok name

/-- The status keeps the active instance. -/
structure Keeps (s : World) (status : AgentChainStatus) : Prop where
  active : status.active = s.chain.status.active
  later : Valid s.chain → Later s.chain.status status
  recent : Recent s status

/-- The active instance is over. -/
structure Stops (s : World) (status : AgentChainStatus) : Prop where
  was : s.chain.status.activeInstanceID ≠ ""
  idle : status.activeInstanceID = ""
  current : ∃ run, ActiveRun s s.chain.status.active run ∧ run.terminal = true
  later : Later s.chain.status status
  recent : Recent s status

/-- The status is rebuilt from the one run that is not finished. -/
structure Recovers (s : World) (run : Run) (status : AgentChainStatus) : Prop where
  was : s.chain.status.activeInstanceID = ""
  owned : agentChainOwnedNonterminalRuns s = [run]
  active : status.active = {
    instanceID := run.labels.value agentRunChainInstLabel
    step := run.labels.value agentRunChainStepLabel
    runRef := some (run.ref s.chain)
    runUID := run.uid
    sourceGeneration := run.spec.sourceGeneration
    digest := run.sourceDigest }
  named : isBlank (run.labels.value agentRunChainInstLabel) = false

/-- What the first run of an instance is asked for with. -/
structure Starts (env : ChainEnv) (s : World) (request : StepRequest) (manual : Bool) (dueAt : Time) :
    Prop where
  was : s.chain.status.activeInstanceID = ""
  owned : agentChainOwnedNonterminalRuns s = []
  instanceID : request.instanceID =
    agentChainInstanceID env s.chain manual (startToken s.chain) dueAt
  workflow : request.workflowDigest = agentChainWorkflowDigest s.chain
  step : s.chain.spec.steps.head? = some request.step
  agree : ∀ run ∈ agentChainRuns s,
    run.labels.value agentRunChainInstLabel = sanitizeLabelValue request.instanceID →
    run.sourceDigest = some request.workflowDigest
  due : manual = false → ∃ next,
    (agentChainNextStartTime s.chain s.chain.status s.now).map Int.toNat = some next ∧
      next ≤ s.now ∧ dueAt = stored next

/-- What the run of the next step is asked for with. -/
structure Advances (s : World) (request : StepRequest) (index : Nat) (step : AgentChainStepSpec)
    (current : Run) : Prop where
  was : s.chain.status.activeInstanceID ≠ ""
  instanceID : request.instanceID = s.chain.status.activeInstanceID
  frozen : s.chain.status.activeWorkflowDigest = some request.workflowDigest
  workflow : request.workflowDigest = agentChainWorkflowDigest s.chain
  named : agentChainStepIndex s.chain.spec.steps s.chain.status.activeStep = some index
  here : s.chain.spec.steps[index]? = some step
  next : s.chain.spec.steps[index + 1]? = some request.step
  resolved : ActiveRun s s.chain.status.active current
  terminal : current.terminal = true
  gate : agentChainWhenMatches request.step.when_ step.name current = true

/-- The active instance once the run of a request is there. -/
def StepRequest.active (request : StepRequest) (s : World) (run : Run) : Active where
  instanceID := request.instanceID
  step := request.step.name
  runRef := some (run.ref s.chain)
  runUID := run.uid
  sourceGeneration := request.sourceGeneration
  digest := some request.workflowDigest

/-- Everything a pass can do. -/
inductive Outcome (env : ChainEnv) (s : World) : Pass → Prop
  | held {pass : Pass} (create : pass.create = none) (did : pass.did = .nothing)
      (status : ∀ status, pass.status = some status → Keeps s status) : Outcome env s pass
  | stopped {pass : Pass} {status : AgentChainStatus} (create : pass.create = none)
      (did : pass.did = .stopped s.chain.status.activeInstanceID ∨
        pass.did = .cancelled s.chain.status.activeInstanceID)
      (wrote : pass.status = some status) (stops : Stops s status) : Outcome env s pass
  | recovered {pass : Pass} {status : AgentChainStatus} {run : Run} (create : pass.create = none)
      (did : pass.did = .recovered (run.labels.value agentRunChainInstLabel))
      (wrote : pass.status = some status) (recovers : Recovers s run status) : Outcome env s pass
  | started {pass : Pass} {status : AgentChainStatus} {request : StepRequest} {manual created : Bool}
      {dueAt : Time} {run : Run} (create : pass.create = if created then some run else none)
      (did : pass.did = .started request.instanceID manual dueAt)
      (wrote : pass.status = some status) (starts : Starts env s request manual dueAt)
      (launched : Launched env s request created run)
      (active : status.active = request.active s run)
      (next : 0 < s.chain.spec.startIntervalSeconds →
        status.nextStartAt = some ((if manual then s.now else dueAt : Time) + interval s.chain).toNat) :
      Outcome env s pass
  | advanced {pass : Pass} {status : AgentChainStatus} {request : StepRequest} {created : Bool}
      {index : Nat} {step : AgentChainStepSpec} {current run : Run}
      (create : pass.create = if created then some run else none)
      (did : pass.did = .advanced request.instanceID request.step.name)
      (wrote : pass.status = some status) (advances : Advances s request index step current)
      (launched : Launched env s request created run)
      (active : status.active = request.active s run)
      (later : Later s.chain.status status) (recent : Recent s status) : Outcome env s pass

theorem Outcome.silent {pass : Pass} (create : pass.create = none) (did : pass.did = .nothing)
    (quiet : pass.status = none) : Outcome env s pass := by
  refine .held create did fun status wrote => ?_
  rw [quiet] at wrote
  cases wrote

theorem Outcome.empty : Outcome env s {} := .silent rfl rfl rfl

variable {status' : AgentChainStatus}

/-- A report that leaves the active instance and the due time alone. -/
theorem Outcome.reported {pass : Pass} (create : pass.create = none) (did : pass.did = .nothing)
    (wrote : pass.status = some status') (active : status'.active = s.chain.status.active)
    (same : status'.nextStartAt = s.chain.status.nextStartAt) : Outcome env s pass := by
  refine .held create did fun status set => ?_
  cases wrote.symm.trans set
  exact ⟨active, fun _ due old => ⟨due, same.trans old, le_refl _⟩, fun _ set => .inl (same ▸ set)⟩

/-- The status in memory agrees with the stored one on everything that decides what to do. -/
structure Fresh (s : World) (status : AgentChainStatus) : Prop where
  active : status.active = s.chain.status.active
  next : status.nextStartAt = s.chain.status.nextStartAt
  cancel : status.cancelRequestedInstanceID = s.chain.status.cancelRequestedInstanceID

variable {applicationName : String}

theorem checkChain_ok {name : String} (passed : checkChain s status = .ok name) :
    s.chain.spec.suspend = false ∧ Valid s.chain := by
  unfold checkChain at passed
  split at passed
  next => cases passed
  rename_i valid
  split at passed
  next => cases passed
  rename_i running
  split at passed
  next => cases passed
  next resolved =>
    exact ⟨by simpa using running, valid, _, resolved⟩

/-- A deadline only replaces one that is not after it. -/
theorem later_applyTerminalBackoffDeadline (chain : AgentChain) (run : Run) (now : Time) :
    Later status (agentChainApplyTerminalBackoffDeadline chain status run now) := by
  unfold agentChainApplyTerminalBackoffDeadline
  dsimp only
  split
  next => exact .refl
  rename_i applies
  intro due set
  simp only [not_or, set, Option.any_some, decide_eq_true_eq] at applies
  refine ⟨_, rfl, Int.ofNat_le.mp (le_trans (Int.not_lt.mp applies.2.2) (Int.self_le_toNat _))⟩

/-- A deadline that has passed is not set. -/
theorem recent_applyTerminalBackoffDeadline (recent : Recent s status) (chain : AgentChain)
    (run : Run) : Recent s (agentChainApplyTerminalBackoffDeadline chain status run s.now) := by
  unfold agentChainApplyTerminalBackoffDeadline
  dsimp only
  split
  next => exact recent
  rename_i applies
  intro next set
  cases set
  have ahead := Int.not_lt.mp (not_or.mp (not_or.mp applies).2).1
  exact .inr (.inl (Int.ofNat_le.mp (le_trans ahead (Int.self_le_toNat _))))

theorem applyTerminalBackoffDeadline_idle (chain : AgentChain) (run : Run) (now : Time) :
    (agentChainApplyTerminalBackoffDeadline chain status run now).activeInstanceID =
      status.activeInstanceID := by
  unfold agentChainApplyTerminalBackoffDeadline
  dsimp only
  split <;> rfl

theorem startInstance_outcome {manual : Bool} {dueAt : Time}
    {first : AgentChainStepSpec} (fresh : status.active = s.chain.status.active)
    (later : Later s.chain.status status) (recent : Recent s status)
    (was : status.activeInstanceID = "") (owned : agentChainOwnedNonterminalRuns s = []) (step : s.chain.spec.steps.head? = some first)
    (due : manual = false → ∃ next,
      (agentChainNextStartTime s.chain s.chain.status s.now).map Int.toNat = some next ∧
        next ≤ s.now ∧ dueAt = stored next) :
    Outcome env s (startInstance env s applicationName status manual dueAt first) := by
  have active : status.activeInstanceID = s.chain.status.activeInstanceID :=
    congrArg Active.instanceID fresh
  unfold startInstance
  dsimp only
  split
  next =>
    refine .held rfl rfl fun status' wrote => ?_
    cases wrote
    exact ⟨fresh, fun _ => later, recent⟩
  rename_i noCollision
  split
  next => exact .empty
  rename_i created run made
  have starts : Starts env s (startRequest env s.chain applicationName manual dueAt first) manual
      dueAt := {
    was := active ▸ was
    owned
    instanceID := rfl
    workflow := rfl
    step
    agree := by
      intro run member same
      have checked := find?_eq_none.mp noCollision run member
      have same : run.labels.value agentRunChainInstLabel = sanitizeLabelValue
          (agentChainInstanceID env s.chain manual (startToken s.chain) dueAt) := same
      simp only [same, beq_self_eq_true, Bool.true_and, Bool.or_eq_true, bne_iff_ne, ne_eq,
        not_or, not_not] at checked
      exact checked.2
    due }
  refine .started rfl rfl rfl starts (createChainedAgentRun_ok made) rfl ?_
  intro positive
  exact if_pos positive

/-- A backoff ends in the future. -/
theorem agentChainTerminalBackoffUntil_after {resume : Time}
    (held : agentChainTerminalBackoffUntil s status = some resume) : s.now < resume := by
  have checked {delay ends : Int}
      (computed : (if delay ≤ 0 ∨ ends ≤ s.now then none else some ends.toNat) = some resume) :
      s.now < resume := by
    split at computed
    next => cases computed
    rename_i applies
    cases computed
    exact Int.lt_toNat.mpr (Int.not_le.mp (not_or.mp applies).2)
  unfold agentChainTerminalBackoffUntil at held
  split at held
  next =>
    split at held
    next =>
      split at held
      next later =>
        cases held
        exact later.1
      next => exact checked held
    next => exact checked held
  next => cases held

section Fresh

variable (fresh : Fresh s status)

include fresh

theorem Fresh.instanceID : status.activeInstanceID = s.chain.status.activeInstanceID :=
  congrArg Active.instanceID fresh.active

theorem Fresh.digest : status.activeWorkflowDigest = s.chain.status.activeWorkflowDigest :=
  congrArg Active.digest fresh.active

theorem Fresh.step : status.activeStep = s.chain.status.activeStep :=
  congrArg Active.step fresh.active

theorem Fresh.later : Later s.chain.status status :=
  fun due set => ⟨due, fresh.next.trans set, le_refl _⟩

theorem Fresh.recent : Recent s status :=
  fun _ set => .inl (fresh.next ▸ set)

theorem checkChain_error (failed : checkChain s status = .error status') : Keeps s status' := by
  unfold checkChain at failed
  split at failed
  next message invalid =>
    cases failed
    refine ⟨fresh.active, fun valid => ?_, fun _ => nofun⟩
    cases invalid.symm.trans valid.1
  split at failed
  next =>
    cases failed
    exact ⟨fresh.active, fun _ => fresh.later, fresh.recent⟩
  split at failed
  next message invalid =>
    cases failed
    refine ⟨fresh.active, fun valid => ?_, fun _ => nofun⟩
    obtain ⟨name, resolved⟩ := valid.2
    cases invalid.symm.trans resolved
  split at failed
  next =>
    cases failed
    exact ⟨fresh.active, fun _ => fresh.later, fresh.recent⟩
  next => cases failed

theorem recover_outcome (was : status.activeInstanceID = "")
    (owned : agentChainOwnedNonterminalRuns s = [run]) :
    Outcome env s (recover env s status run) := by
  unfold recover
  split
  next => exact .reported rfl rfl rfl fresh.active fresh.next
  rename_i recoverable
  refine .recovered rfl rfl rfl ⟨fresh.instanceID ▸ was, owned, rfl, ?_⟩
  have checks := (of_check_ok recoverable).1
  simp only [not_or] at checks
  simpa using checks.2.2.2.2.1

theorem cancelActive_outcome (was : status.activeInstanceID ≠ "") :
    Outcome env s (cancelActive s status) := by
  unfold cancelActive
  split
  next => exact .reported rfl rfl rfl fresh.active fresh.next
  rename_i current resolved
  split
  next => exact .reported rfl rfl rfl fresh.active fresh.next
  rename_i finished
  have current' := fresh.active ▸ agentChainActiveRun_ok resolved
  refine .stopped rfl (.inr ?_) rfl ⟨fresh.instanceID ▸ was, rfl, ⟨current, current', ?_⟩,
    fresh.later, fresh.recent⟩
  · rw [← fresh.instanceID]
  · simpa using finished

theorem finishInstance_outcome {finalStep : String} {current : Run}
    (was : status.activeInstanceID ≠ "") (resolved : ActiveRun s s.chain.status.active current)
    (terminal : current.terminal = true) :
    Outcome env s (finishInstance s status finalStep current) := by
  have later : Later s.chain.status (stopInstance status .idle) := fresh.later
  have recent : Recent s (stopInstance status .idle) := fresh.recent
  refine .stopped rfl (.inl ?_) rfl
    ⟨fresh.instanceID ▸ was, ?_, ⟨current, resolved, terminal⟩, ?_, ?_⟩
  · rw [← fresh.instanceID]
    rfl
  · split
    · rfl
    · exact applyTerminalBackoffDeadline_idle _ _ _
  · split
    · exact later
    · exact later.trans (later_applyTerminalBackoffDeadline _ _ _)
  · split
    · exact recent
    · exact recent_applyTerminalBackoffDeadline recent _ _

section Step

variable {digest : Workflow} {current : Run} {step : AgentChainStepSpec} {index : Nat}
  (was : status.activeInstanceID ≠ "") (frozen : status.activeWorkflowDigest = some digest)
  (workflow : digest = agentChainWorkflowDigest s.chain)
  (named : agentChainStepIndex s.chain.spec.steps status.activeStep = some index)
  (here : s.chain.spec.steps[index]? = some step)
  (resolved : ActiveRun s s.chain.status.active current) (terminal : current.terminal = true)

include was frozen workflow named here resolved terminal

theorem advance_outcome {nextStep : AgentChainStepSpec}
    (next : s.chain.spec.steps[index + 1]? = some nextStep)
    (gate : agentChainWhenMatches nextStep.when_ step.name current = true) :
    Outcome env s
      (advance env s applicationName status digest current step.name nextStep) := by
  unfold advance
  split
  next => exact .reported rfl rfl rfl fresh.active fresh.next
  rename_i prior _
  split
  next => exact .empty
  rename_i created run made
  have advances : Advances s (nextStepRequest s applicationName status digest current step.name
      nextStep prior) index step current := {
      was := fresh.instanceID ▸ was
      instanceID := fresh.instanceID
      frozen := fresh.digest ▸ frozen
      workflow
      named := fresh.step ▸ named
      here, next, resolved, terminal, gate }
  refine .advanced rfl rfl rfl advances (createChainedAgentRun_ok made) ?_ fresh.later fresh.recent
  simp [AgentChainStatus.active, AgentChainStatus.report, StepRequest.active, nextStepRequest,
    frozen]

theorem afterStep_outcome :
    Outcome env s (afterStep env s applicationName status digest index step current) := by
  have stops {phase : AgentChainPhase} (ready : Bool) (reason message : String) :
      Stops s ((agentChainApplyTerminalBackoffDeadline s.chain (stopInstance status phase) current
        s.now).report s ready reason message) := by
    have later : Later s.chain.status (stopInstance status phase) := fresh.later
    have recent : Recent s (stopInstance status phase) := fresh.recent
    exact ⟨fresh.instanceID ▸ was, applyTerminalBackoffDeadline_idle _ _ _,
      ⟨current, resolved, terminal⟩, later.trans (later_applyTerminalBackoffDeadline _ _ _),
      recent_applyTerminalBackoffDeadline recent _ _⟩
  unfold afterStep
  split
  next => exact .stopped rfl (.inl (by rw [← fresh.instanceID])) rfl (stops ..)
  split
  next => exact finishInstance_outcome fresh was resolved terminal
  rename_i nextStep next
  split
  next gate =>
    exact advance_outcome fresh was frozen workflow named here resolved terminal next gate
  next => exact .stopped rfl (.inl (by rw [← fresh.instanceID])) rfl (stops ..)

end Step

theorem reconcileActiveInstance_outcome (was : status.activeInstanceID ≠ "") :
    Outcome env s (reconcileActiveInstance env s applicationName status) := by
  have blocked {reason message : String} :
      Outcome env s { status := some (status.block s reason message) } :=
    .reported rfl rfl rfl fresh.active fresh.next
  unfold reconcileActiveInstance
  split
  next => exact blocked
  rename_i digest frozen
  split
  next => exact blocked
  split
  next => exact blocked
  rename_i workflow
  split
  next => exact blocked
  rename_i index named
  split
  next => exact blocked
  rename_i current resolved
  split
  next => exact .reported rfl rfl rfl fresh.active fresh.next
  rename_i finished
  split
  next => exact .empty
  rename_i step here
  -- Noting the step's run changes neither the active instance nor the due time.
  have noted : Fresh s { status with
      stepRuns := agentChainUpsertStepRun status.stepRuns
        (stepRunStatus s status status.activeStep current) } :=
    ⟨fresh.active, fresh.next, fresh.cancel⟩
  exact afterStep_outcome noted was frozen (not_not.mp workflow) named here
    (fresh.active ▸ agentChainActiveRun_ok resolved) (by simpa using finished)

theorem maybeStart_outcome (was : status.activeInstanceID = "")
    (owned : agentChainOwnedNonterminalRuns s = []) :
    Outcome env s (maybeStart env s applicationName status) := by
  have same : agentChainNextStartTime s.chain status s.now =
      agentChainNextStartTime s.chain s.chain.status s.now := by
    unfold agentChainNextStartTime
    rw [fresh.next]
  -- The due time that is written is the stored one, or the first one when none is stored.
  have kept : Later s.chain.status { status with
      nextStartAt := ((agentChainNextStartTime s.chain status s.now).map Int.toNat).or
        status.nextStartAt } := by
    intro due set
    refine ⟨due, ?_, le_refl _⟩
    have stored : status.nextStartAt = some due := fresh.next.trans set
    simp only [agentChainNextStartTime, stored]
    split <;> rfl
  have recent : Recent s { status with
      nextStartAt := ((agentChainNextStartTime s.chain status s.now).map Int.toNat).or
        status.nextStartAt } := by
    intro next set
    rw [same] at set
    rcases Option.or_eq_some_iff.mp set with start | ⟨-, stored⟩
    · exact .inr (.inr start)
    · exact .inl (fresh.next ▸ stored)
  have reported {status' : AgentChainStatus} (active : status'.active = status.active)
      (later : Later s.chain.status status') (recent : Recent s status') :
      Outcome env s { status := some status' } := by
    refine .held rfl rfl fun written wrote => ?_
    cases wrote
    exact ⟨active.trans fresh.active, fun _ => later, recent⟩
  unfold maybeStart
  dsimp only
  split
  next => exact .empty
  split
  next => exact reported rfl kept recent
  rename_i shouldStart
  split
  next => exact reported rfl kept recent
  split
  next resume backedOff =>
    -- Only automatic starts are held back, and only when they are due already.
    split at backedOff
    next => cases backedOff
    rename_i automatic
    have after := agentChainTerminalBackoffUntil_after backedOff
    refine reported rfl (fun due set => ⟨resume, rfl, ?_⟩) fun next set => .inr (.inl ?_)
    · have stored : status.nextStartAt = some due := fresh.next.trans set
      simp only [automatic, Bool.not_false, true_and, Bool.not_eq_true', Bool.not_eq_false,
        Option.any_eq_true, decide_eq_true_eq] at shouldStart
      obtain ⟨next, start, isDue⟩ := shouldStart
      have next_eq : next = due := by
        simp only [agentChainNextStartTime, stored] at start
        split at start
        · cases start
        · exact (Option.some.inj start).symm
      exact next_eq ▸ (lt_of_le_of_lt isDue after).le
    · cases set
      exact after.le
  next =>
    split
    next => exact .empty
    rename_i first rest steps
    refine startInstance_outcome fresh.active kept recent was owned ?_ ?_
    · rw [steps]
      rfl
    · intro automatic
      simp only [automatic, Bool.not_false, true_and, Bool.not_eq_true', Bool.not_eq_false,
        Option.any_eq_true, decide_eq_true_eq] at shouldStart
      obtain ⟨next, start, due⟩ := shouldStart
      refine ⟨next, same ▸ start, due, ?_⟩
      simp [agentChainStartDueAt, automatic, start]

theorem noteCancelToken_fresh : Fresh s (noteCancelToken s.chain status) := by
  unfold noteCancelToken
  split
  · exact ⟨fresh.active, fresh.next, fresh.cancel⟩
  · exact fresh

theorem reconcileActive_outcome (was : status.activeInstanceID ≠ "") :
    Outcome env s (reconcileActive env s applicationName status) := by
  have noted := noteCancelToken_fresh fresh
  have still : (noteCancelToken s.chain status).activeInstanceID ≠ "" :=
    noted.instanceID ▸ fresh.instanceID ▸ was
  unfold reconcileActive
  dsimp only
  split
  next => exact .reported rfl rfl rfl fresh.active fresh.next
  split
  next => exact cancelActive_outcome noted still
  next => exact reconcileActiveInstance_outcome noted still

end Fresh

/-- Every pass has one of the outcomes. -/
theorem reconcile_outcome (env : ChainEnv) (s : World) : Outcome env s (reconcile env s) := by
  unfold reconcile
  split
  next =>
    split
    next => exact .silent rfl rfl rfl
    next => exact .empty
  split
  next => exact .silent rfl rfl rfl
  have start : Fresh s { s.chain.status with observedGeneration := s.chain.generation } :=
    ⟨rfl, rfl, rfl⟩
  dsimp only
  split
  next status' failed =>
    refine .held rfl rfl fun status wrote => ?_
    cases wrote
    exact checkChain_error start failed
  rename_i applicationName passed
  have counted : Fresh s { s.chain.status with
      observedGeneration := s.chain.generation, instancesToday := instancesToday s } :=
    ⟨rfl, rfl, rfl⟩
  split
  next active => exact reconcileActive_outcome counted active
  rename_i idle
  have idle := not_not.mp idle
  split
  next owned =>
    have noted := noteCancelToken_fresh counted
    exact maybeStart_outcome noted (noted.instanceID.trans idle) owned
  next active owned => exact recover_outcome counted idle owned
  next => exact .reported rfl rfl rfl rfl rfl

/-- A pass that does more than report has met a valid spec. -/
theorem reconcile_valid (env : ChainEnv) (acted : (reconcile env s).did ≠ .nothing) :
    Valid s.chain := by
  unfold reconcile at acted
  split at acted
  next => split at acted <;> exact (acted rfl).elim
  split at acted
  next => exact (acted rfl).elim
  dsimp only at acted
  split at acted
  next => exact (acted rfl).elim
  next passes => exact (checkChain_ok passes).2

end AnvilAgents.Automation.Chain
