import AnvilAgents.Proofs.Automation.Chain.OneStep

/-!
Chain instances follow their workflow.

The runs that were made for an instance are those of the first steps of one workflow, in order. A
run that was left behind by a pass that was cut off is known by its step label only, so that this
takes step names with different labels.
-/

namespace AnvilAgents.Automation.Chain

open Text List

variable {env : ChainEnv} {s s' : World} {t t' : Sys} {instanceID : String} {workflow : Workflow}

/-! ### Instances and their labels -/

/-- The label of an instance is the instance. -/
def Plain (instanceID : String) : Prop := sanitizeLabelValue instanceID = instanceID

theorem plain_of_hash {first : Char} {hash : List Char} (letter : isLabelChar first = true)
    (label : ∀ c ∈ hash, isLabelChar c = true) (length : hash.length = 12) :
    Plain (String.ofList (first :: '-' :: hash.take 12)) := by
  have kept : ∀ c ∈ hash.take 12, isLabelChar c = true := fun c member => label c (mem_of_mem_take member)
  have some_ : hash.take 12 ≠ [] := by
    rw [take_of_length_le length.le]
    exact ne_nil_of_length_pos (by omega)
  obtain ⟨label, spaced⟩ := label_of_kept kept
  obtain ⟨alone, -⟩ := label_of_kept (show ∀ c ∈ [first], isLabelChar c = true by simpa using letter)
  have apart : Spaced (first :: '-' :: hash.take 12) := by
    refine isChain_cons_cons.mpr ⟨fun dash => absurd dash (dash_of_isLabelChar letter), ?_⟩
    exact isChain_cons.mpr
      ⟨fun c next _ => dash_of_isLabelChar (kept c (mem_of_mem_head? next)), spaced⟩
  have whole := (alone.join label (cons_ne_nil _ _) some_).sanitizeDNSLabel apart
  rw [cons_append, nil_append] at whole
  rw [Plain, sanitizeLabelValue, whole, limit, String.toList_ofList, take_of_length_le]
  simp [length]

theorem agentChainInstanceID_plain (env : ChainEnv) (chain : AgentChain) (manual : Bool)
    (token : String) (dueAt : Time) : Plain (agentChainInstanceID env chain manual token dueAt) := by
  have hashed (text : String) {first : Char} (letter : isLabelChar first = true) :
      Plain (String.ofList [first, '-'] ++ limit 12 (env.shortHash text)) := by
    have plain := plain_of_hash letter (env.digests.label text) (env.digests.twelve text)
    rw [limit, ← String.ofList_append]
    exact plain
  unfold agentChainInstanceID
  split
  · exact hashed _ (by decide)
  · exact hashed _ (by decide)

/-- The runs that the reconciler has made for an instance, in the order of their creation. -/
def madeFor (s : World) (instanceID : String) : List Run :=
  s.runs.filter fun run =>
    run.spec.sourceUID == s.chain.uid && run.labels.value agentRunChainInstLabel == instanceID

variable {run : Run}

theorem mem_madeFor : run ∈ madeFor s instanceID ↔ run ∈ s.runs ∧
    run.spec.sourceUID = s.chain.uid ∧ run.labels.value agentRunChainInstLabel = instanceID := by
  simp [madeFor]

/-- The run is of a step of a workflow. -/
structure StepRun (env : ChainEnv) (chain : AgentChain) (instanceID : String) (workflow : Workflow)
    (step : AgentChainStepSpec) (run : Run) : Prop where
  name : run.name = chainRunName env chain instanceID step.name
  digest : run.sourceDigest = some workflow
  label : run.labels.value agentRunChainStepLabel = sanitizeLabelValue step.name

/-- The runs of an instance are those of the first steps of a workflow, in order; each of them but
the last is finished, and has let the next one through. -/
structure Follows (env : ChainEnv) (s : World) (instanceID : String) (workflow : Workflow) :
    Prop where
  steps : ∀ (i : Nat) run, (madeFor s instanceID)[i]? = some run →
    ∃ step, workflow.steps[i]? = some step ∧ StepRun env s.chain instanceID workflow step run
  gates : ∀ (i : Nat) run step next, (madeFor s instanceID)[i]? = some run →
    i + 1 < (madeFor s instanceID).length → workflow.steps[i]? = some step →
    workflow.steps[i + 1]? = some next →
    run.terminal = true ∧ agentChainWhenMatches next.when_ step.name run = true

/-- The status and the runs name instances as their labels do. -/
structure Labelled (s : World) : Prop where
  active : s.chain.status.activeInstanceID ≠ "" → Plain s.chain.status.activeInstanceID
  labels : ∀ run ∈ s.runs, run.spec.sourceUID = s.chain.uid →
    Plain (run.labels.value agentRunChainInstLabel) ∧
      run.labels.value agentRunChainLabel = sanitizeLabelValue s.chain.name

/-- Every instance follows a workflow, if the step labels of all specs so far were apart. -/
structure Orderly (env : ChainEnv) (apart : Prop) (s : World) : Prop extends Labelled s where
  follows : apart → ∀ instanceID, ∃ workflow, Follows env s instanceID workflow

/-- The labels of the steps tell them apart. -/
def labelsApart (chain : AgentChain) : Prop :=
  (chain.spec.steps.map fun step => sanitizeLabelValue step.name).Nodup

instance (chain : AgentChain) : Decidable (labelsApart chain) :=
  inferInstanceAs (Decidable (Nodup _))

/-! ### What does not create a run -/

theorem Follows.empty (none : madeFor s instanceID = []) : Follows env s instanceID workflow := by
  constructor
  · intro i run at_
    simp [none] at at_
  · intro i run _ _ at_
    simp [none] at at_

theorem Follows.congr (follows : Follows env s instanceID workflow)
    (made : madeFor s' instanceID = madeFor s instanceID) (name : s'.chain.name = s.chain.name)
    (uid : s'.chain.uid = s.chain.uid) : Follows env s' instanceID workflow := by
  refine ⟨fun i run at_ => ?_, fun i run step next at_ => ?_⟩
  · obtain ⟨step, here, stepRun⟩ := follows.steps i run (made ▸ at_)
    refine ⟨step, here, ?_, stepRun.digest, stepRun.label⟩
    rw [chainRunName_congr name uid]
    exact stepRun.name
  · rw [made]
    exact follows.gates i run step next (made ▸ at_)

variable {apart : Prop}

theorem Orderly.frame (orderly : Orderly env apart s) (runs : s'.runs = s.runs)
    (name : s'.chain.name = s.chain.name) (uid : s'.chain.uid = s.chain.uid)
    (active : s'.chain.status.activeInstanceID ≠ "" → Plain s'.chain.status.activeInstanceID) :
    Orderly env apart s' where
  active := active
  labels run member made := by
    rw [name]
    exact orderly.labels run (runs ▸ member) (uid ▸ made)
  follows apart instanceID := by
    obtain ⟨workflow, follows⟩ := orderly.follows apart instanceID
    exact ⟨workflow, follows.congr (by rw [madeFor, madeFor, runs, uid]) name uid⟩

/-- A finished run still lets through what it has let through. -/
theorem whenMatches_progress (name : String) (status : RunStatus) (run : Run)
    (finished : run.terminal = true) (when_ : Option AgentChainWhenSpec) (previous : String) :
    agentChainWhenMatches when_ previous (run.progress name status) =
      agentChainWhenMatches when_ previous run := by
  obtain ⟨phase, decision, -⟩ := progress_terminal name status run finished
  obtain ⟨-, -, labels, -, -⟩ := progress_spec name status run
  simp only [agentChainWhenMatches, agentRunDecisionAction, phase, decision, labels]

theorem madeFor_progress (s : World) (name : String) (status : RunStatus) (instanceID : String) :
    madeFor { s with runs := s.runs.map (Run.progress name status) } instanceID =
      (madeFor s instanceID).map (Run.progress name status) := by
  rw [madeFor, madeFor, filter_map]
  refine congrArg _ (filter_congr fun run _ => ?_)
  obtain ⟨-, spec, labels, -, -⟩ := progress_spec name status run
  simp only [Function.comp, spec, labels]

theorem Follows.progress (follows : Follows env s instanceID workflow) (name : String)
    (status : RunStatus) :
    Follows env { s with runs := s.runs.map (Run.progress name status) } instanceID workflow := by
  refine ⟨fun i run' at_ => ?_, fun i run' step next at_ more here after => ?_⟩
  · rw [madeFor_progress, getElem?_map] at at_
    obtain ⟨run, before, rfl⟩ := Option.map_eq_some_iff.mp at_
    obtain ⟨step, here, stepRun⟩ := follows.steps i run before
    obtain ⟨sameName, -, labels, digest, -⟩ := progress_spec name status run
    exact ⟨step, here, sameName.trans stepRun.name, digest.trans stepRun.digest,
      labels ▸ stepRun.label⟩
  · rw [madeFor_progress, getElem?_map] at at_
    rw [madeFor_progress, length_map] at more
    obtain ⟨run, before, rfl⟩ := Option.map_eq_some_iff.mp at_
    obtain ⟨finished, gate⟩ := follows.gates i run step next before more here after
    refine ⟨?_, (whenMatches_progress name status run finished _ _).trans gate⟩
    rw [Run.terminal, (progress_terminal name status run finished).1]
    exact finished

theorem Orderly.progress (orderly : Orderly env apart s) (name : String) (status : RunStatus) :
    Orderly env apart { s with runs := s.runs.map (Run.progress name status) } where
  active := orderly.active
  labels run' member made := by
    obtain ⟨run, before, rfl⟩ := mem_map.mp member
    obtain ⟨-, spec, labels, -, -⟩ := progress_spec name status run
    rw [labels]
    exact orderly.labels run before (spec ▸ made)
  follows apart instanceID := by
    obtain ⟨workflow, follows⟩ := orderly.follows apart instanceID
    exact ⟨workflow, follows.progress name status⟩

/-! ### What creates a run -/

theorem madeFor_append (s : World) (run : Run) (made : run.spec.sourceUID = s.chain.uid)
    (instanceID : String) :
    madeFor { s with runs := s.runs ++ [run] } instanceID = madeFor s instanceID ++
      if run.labels.value agentRunChainInstLabel = instanceID then [run] else [] := by
  rw [madeFor, madeFor, filter_append]
  congr 1
  simp [filter_cons, made]

variable {step : AgentChainStepSpec}

/-- One more run, for the step after those that have one. -/
theorem Follows.append (follows : Follows env s instanceID workflow)
    (made : run.spec.sourceUID = s.chain.uid)
    (labelled : run.labels.value agentRunChainInstLabel = instanceID)
    (stepRun : StepRun env s.chain instanceID workflow step run)
    (here : workflow.steps[(madeFor s instanceID).length]? = some step)
    (gate : ∀ (i : Nat) earlier before, (madeFor s instanceID)[i]? = some earlier →
      i + 1 = (madeFor s instanceID).length → workflow.steps[i]? = some before →
      earlier.terminal = true ∧ agentChainWhenMatches step.when_ before.name earlier = true) :
    Follows env { s with runs := s.runs ++ [run] } instanceID workflow := by
  have runs : madeFor { s with runs := s.runs ++ [run] } instanceID =
      madeFor s instanceID ++ [run] := by
    rw [madeFor_append s run made, if_pos labelled]
  refine ⟨fun i other at_ => ?_, fun i other step' next at_ more here' after => ?_⟩
  · rw [runs] at at_
    -- The run is an earlier one, or the new one in its place.
    by_cases earlier : i < (madeFor s instanceID).length
    · rw [getElem?_append_left earlier] at at_
      exact follows.steps i other at_
    · rw [getElem?_append_right (Nat.le_of_not_lt earlier), getElem?_singleton] at at_
      split at at_
      next last =>
        cases at_
        have same : i = (madeFor s instanceID).length := by omega
        exact ⟨step, same ▸ here, stepRun⟩
      next => cases at_
  · rw [runs, length_append, length_singleton] at more
    have earlier : i < (madeFor s instanceID).length := by omega
    rw [runs, getElem?_append_left earlier] at at_
    by_cases last : i + 1 = (madeFor s instanceID).length
    · rw [last, here] at after
      cases after
      exact gate i other step' at_ last here'
    · exact follows.gates i other step' next at_ (by omega) here' after

variable {request : StepRequest}

theorem Launched.stepRun {created : Bool}
    (launched : Launched env s request created run) :
    StepRun env s.chain request.instanceID request.workflowDigest request.step run :=
  ⟨launched.name, launched.digest, launched.step⟩

theorem Starts.plain {manual : Bool} {dueAt : Time}
    (starts : Starts env s request manual dueAt) : Plain request.instanceID :=
  starts.instanceID ▸ agentChainInstanceID_plain ..

section Launched

variable (launched : Launched env s request true run)

include launched

/-- No instance but that of a request has got the run that was created for it. -/
theorem Launched.madeFor_of_ne (plain : Plain request.instanceID)
    (other : request.instanceID ≠ instanceID) :
    madeFor { s with runs := s.runs ++ [run] } instanceID = madeFor s instanceID := by
  have unlabelled : ¬run.labels.value agentRunChainInstLabel = instanceID :=
    fun labelled => other (plain.symm.trans (launched.instanceID.symm.trans labelled))
  rw [madeFor_append s run launched.made, if_neg unlabelled, append_nil]

theorem Orderly.create (orderly : Orderly env apart s) (plain : Plain request.instanceID)
    (follows : apart →
      ∃ workflow, Follows env { s with runs := s.runs ++ [run] } request.instanceID workflow) :
    Orderly env apart { s with runs := s.runs ++ [run] } where
  active := orderly.active
  labels other member made := by
    rcases mem_append.mp member with before | new
    · exact orderly.labels other before made
    · rw [mem_singleton.mp new, launched.instanceID, plain]
      obtain ⟨_, application, rfl⟩ := launched.new rfl
      exact ⟨plain, childLabels_chain ..⟩
  follows apart instanceID := by
    by_cases same : request.instanceID = instanceID
    · exact same ▸ follows apart
    · obtain ⟨workflow, before⟩ := orderly.follows apart instanceID
      exact ⟨workflow, before.congr (launched.madeFor_of_ne plain same) rfl rfl⟩

/-- A new instance has no run before its first one. -/
theorem Orderly.start {manual : Bool} {dueAt : Time} (orderly : Orderly env apart s)
    (starts : Starts env s request manual dueAt) :
    Orderly env apart { s with runs := s.runs ++ [run] } := by
  have plain := starts.plain
  refine orderly.create launched plain fun apart => ⟨request.workflowDigest, ?_⟩
  have first : request.workflowDigest.steps[0]? = some request.step := by
    rw [starts.workflow, ← head?_eq_getElem?]
    exact starts.step
  have none : madeFor s request.instanceID = [] := by
    by_contra some_
    obtain ⟨earliest, rest, made⟩ := exists_cons_of_ne_nil some_
    -- It would be of the same workflow, hence of the same first step and of the same name.
    obtain ⟨workflow, follows⟩ := orderly.follows apart request.instanceID
    obtain ⟨step, here, stepRun⟩ := follows.steps 0 earliest (by rw [made]; rfl)
    obtain ⟨member, same, labelled⟩ := mem_madeFor.mp (made ▸ mem_cons_self : earliest ∈ _)
    have listed : earliest ∈ agentChainRuns s := by
      refine mem_filter.mpr ⟨member, beq_iff_eq.mpr ?_⟩
      exact (orderly.labels earliest member same).2
    have agree := starts.agree earliest listed (labelled.trans plain.symm)
    cases stepRun.digest.symm.trans agree
    cases here.symm.trans first
    exact (launched.new rfl).1 earliest member (stepRun.name.trans launched.name.symm)
  refine (Follows.empty none).append launched.made (launched.instanceID.trans plain)
    launched.stepRun ?_ ?_
  · simpa [none] using first
  · intro i earlier _ at_
    simp [none] at at_

/-- The run of the active step is the last one of its instance that was made when the run of the
next step is missing. -/
theorem Orderly.advance {index : Nat} {current : Run} (orderly : Orderly env apart s)
    (labels : apart → labelsApart s.chain) (advances : Advances s request index step current) :
    Orderly env apart { s with runs := s.runs ++ [run] } := by
  have plain : Plain request.instanceID := advances.instanceID ▸ orderly.active advances.was
  refine orderly.create launched plain fun apart => ⟨request.workflowDigest, ?_⟩
  obtain ⟨workflow, follows⟩ := orderly.follows apart request.instanceID
  obtain ⟨ref, -, found⟩ := advances.resolved.ref
  have member : current ∈ madeFor s request.instanceID := by
    have labelled := advances.resolved.instanceID.trans (orderly.active advances.was)
    exact mem_madeFor.mpr ⟨mem_of_find?_eq_some found, advances.resolved.made,
      labelled.trans advances.instanceID.symm⟩
  obtain ⟨place, here⟩ := getElem?_of_mem member
  obtain ⟨step', at_, stepRun⟩ := follows.steps place current here
  -- The workflow that the run carries is the one of the status, and that is the current one.
  have same : workflow = request.workflowDigest := by
    have carried := stepRun.digest.symm.trans (advances.resolved.digest.trans advances.frozen)
    exact Option.some.inj carried
  subst same
  have steps : request.workflowDigest.steps = s.chain.spec.steps := by
    rw [advances.workflow]
    rfl
  -- The label of the run tells its step.
  have place_eq : index = place := by
    have named : step.name = trimSpace s.chain.status.activeStep := by
      obtain ⟨bound, isNamed, -⟩ := findIdx?_eq_some_iff_getElem.mp advances.named
      rw [← (List.getElem?_eq_some_iff.mp advances.here).2]
      exact beq_iff_eq.mp isNamed
    have label : sanitizeLabelValue step.name = sanitizeLabelValue step'.name := by
      rw [named, sanitizeLabelValue_trimSpace, ← stepRun.label]
      exact advances.resolved.step.symm
    have bound : index < s.chain.spec.steps.length := (List.getElem?_eq_some_iff.mp advances.here).1
    refine (getElem?_inj (by simpa using bound) (labels apart)).mp ?_
    rw [getElem?_map, getElem?_map, advances.here, ← steps, at_]
    exact congrArg some label
  subst place_eq
  have next : request.workflowDigest.steps[index + 1]? = some request.step := steps ▸ advances.next
  have last : (madeFor s request.instanceID).length = index + 1 := by
    refine Nat.le_antisymm (Nat.le_of_not_lt fun more => ?_) (List.getElem?_eq_some_iff.mp here).1
    -- A run in the next place would have the name of the new one.
    obtain ⟨other, taken⟩ : ∃ other, (madeFor s request.instanceID)[index + 1]? = some other :=
      ⟨_, getElem?_eq_getElem more⟩
    obtain ⟨_, at', stepRun'⟩ := follows.steps (index + 1) other taken
    cases at'.symm.trans next
    have among := (mem_madeFor.mp (mem_of_getElem? taken)).1
    exact (launched.new rfl).1 other among (stepRun'.name.trans launched.name.symm)
  refine follows.append launched.made (launched.instanceID.trans plain) launched.stepRun ?_ ?_
  · rw [last]
    exact next
  · intro i earlier before at' isLast here'
    obtain rfl : i = index := by omega
    cases at'.symm.trans here
    rw [steps] at here'
    cases here'.symm.trans advances.here
    exact ⟨advances.terminal, advances.gate⟩

end Launched

/-! ### Every pass, and every run of the system -/

/-- The run that a status is rebuilt from was made by the reconciler. -/
theorem Recovers.made {status : AgentChainStatus} (recovers : Recovers s run status) :
    run ∈ s.runs ∧ run.spec.sourceUID = s.chain.uid ∧ run.terminal = false := by
  have among : run ∈ agentChainOwnedNonterminalRuns s := recovers.owned ▸ mem_singleton_self run
  obtain ⟨member, isOpen⟩ := mem_filter.mp among
  obtain ⟨unfinished, owned⟩ := Bool.and_eq_true_iff.mp isOpen
  exact ⟨member, beq_iff_eq.mp (Bool.and_eq_true_iff.mp owned).2, by simpa using unfinished⟩

/-- The active instance after a pass. -/
theorem Outcome.becomes {pass : Pass} (outcome : Outcome env s pass) (cutOff : Bool) :
    (passed s pass cutOff).status.activeInstanceID = s.chain.status.activeInstanceID ∨
      (passed s pass cutOff).status.activeInstanceID = "" ∨
      (∃ run status, Recovers s run status ∧
        (passed s pass cutOff).status.activeInstanceID = run.labels.value agentRunChainInstLabel) ∨
      ∃ request manual dueAt, Starts env s request manual dueAt ∧
        pass.did = .started request.instanceID manual dueAt ∧
        (passed s pass cutOff).status.activeInstanceID = request.instanceID := by
  cases cutOff with
  | true => exact .inl rfl
  | false =>
    -- A whole pass stores what the status it has written says.
    have stored {status : AgentChainStatus} (wrote : pass.status = some status) :
        (passed s pass false).status.activeInstanceID = status.active.instanceID :=
      congrArg Active.instanceID (passed_active wrote)
    cases outcome with
    | held _ _ status =>
      have same : SameChain s.chain (passed s pass false) :=
        passed_same fun written wrote => (status written wrote).active
      exact .inl (congrArg Active.instanceID same.active)
    | stopped _ _ wrote stops => exact .inr (.inl ((stored wrote).trans stops.idle))
    | recovered _ _ wrote recovers =>
      refine .inr (.inr (.inl ⟨_, _, recovers, (stored wrote).trans ?_⟩))
      exact congrArg Active.instanceID recovers.active
    | started _ did wrote starts _ active _ =>
      refine .inr (.inr (.inr ⟨_, _, _, starts, did, (stored wrote).trans ?_⟩))
      exact congrArg Active.instanceID active
    | advanced _ _ wrote advances _ active _ =>
      refine .inl ((stored wrote).trans ?_)
      exact (congrArg Active.instanceID active).trans advances.instanceID

theorem Labelled.plain {pass : Pass} (labelled : Labelled s) (outcome : Outcome env s pass)
    (cutOff : Bool) (busy : (passed s pass cutOff).status.activeInstanceID ≠ "") :
    Plain (passed s pass cutOff).status.activeInstanceID := by
  rcases outcome.becomes cutOff with same | idle | ⟨run, _, recovers, named⟩ |
    ⟨request, manual, dueAt, starts, -, named⟩
  · exact same ▸ labelled.active (same ▸ busy)
  · exact (busy idle).elim
  · exact named ▸ (labelled.labels run recovers.made.1 recovers.made.2.1).1
  · exact named ▸ starts.plain

/-- A pass that leaves the runs alone, or adds one for a request. -/
theorem Outcome.runs {pass : Pass} (outcome : Outcome env s pass) :
    pass.create = none ∨ ∃ request run, pass.create = some run ∧ Launched env s request true run ∧
      ((∃ manual dueAt, Starts env s request manual dueAt ∧
          pass.did = .started request.instanceID manual dueAt) ∨
        ∃ index step current, Advances s request index step current ∧
          pass.did = .advanced request.instanceID request.step.name) := by
  cases outcome with
  | held create | stopped create | recovered create => exact .inl create
  | @started _ request manual created dueAt run create did _ starts launched =>
    cases created with
    | false => exact .inl create
    | true => exact .inr ⟨request, run, create, launched, .inl ⟨manual, dueAt, starts, did⟩⟩
  | @advanced _ request created index step current run create did _ advances launched =>
    cases created with
    | false => exact .inl create
    | true => exact .inr ⟨request, run, create, launched, .inr ⟨index, step, current, advances, did⟩⟩

theorem Orderly.pass (orderly : Orderly env apart s) (labels : apart → labelsApart s.chain)
    (cutOff : Bool) : Orderly env apart (s.pass (reconcile env s) cutOff) := by
  have outcome := reconcile_outcome env s
  generalize reconcile env s = pass at *
  obtain ⟨-, name, uid⟩ := passed_identity (s := s) pass cutOff
  have active := orderly.plain outcome cutOff
  rcases outcome.runs with create | ⟨request, run, create, launched, reason⟩
  · exact orderly.frame (pass_runs_none create) name uid active
  · have extended : Orderly env apart { s with runs := s.runs ++ [run] } := by
      rcases reason with ⟨_, _, starts, -⟩ | ⟨_, _, _, advances, -⟩
      · exact orderly.start launched starts
      · exact orderly.advance launched labels advances
    exact extended.frame (by simp [World.pass, create]) name uid active

/-- Nothing has been made for the chain yet, and no instance is active. -/
structure Begins (t : Sys) : Prop where
  unmade : Unmade t.world
  idle : t.world.chain.status.activeInstanceID = ""
  fresh : t.cancelled = [] ∧ t.starts = [] ∧ t.late = []

theorem Begins.labelled (begins : Begins t) : Labelled t.world where
  active busy := (busy begins.idle).elim
  labels run member made := (begins.unmade.unmade run member made).elim

theorem Begins.orderly (begins : Begins t) : Orderly env apart t.world where
  toLabelled := begins.labelled
  follows _ instanceID := by
    have none : madeFor t.world instanceID = [] := by
      refine filter_eq_nil_iff.mpr fun run member isMade => ?_
      exact begins.unmade.unmade run member (beq_iff_eq.mp (Bool.and_eq_true_iff.mp isMade).1)
    exact ⟨agentChainWorkflowDigest t.world.chain, .empty none⟩

/-- A pass meets a spec whose step labels differ. -/
def passesApart (t : Sys) : Event → Bool
  | .reconcile _ => decide (labelsApart t.world.chain)
  | _ => true

theorem Orderly.next {event : Event} (orderly : Orderly env apart t.world)
    (labels : apart → passesApart t event = true) (stepped : (system env).next t event = some t') :
    Orderly env apart t'.world := by
  cases event with
  | reconcile cutOff =>
    cases stepped
    exact orderly.pass (fun apart => of_decide_eq_true (labels apart)) cutOff
  | edit | annotate | delete | setControls | wait =>
    cases stepped
    exact orderly.frame rfl rfl rfl orderly.active
  | progress name status =>
    cases stepped
    exact orderly.progress name status

theorem Labelled.next {event : Event} (labelled : Labelled t.world)
    (stepped : (system env).next t event = some t') : Labelled t'.world := by
  have orderly : Orderly env False t.world := ⟨labelled, False.elim⟩
  exact (orderly.next False.elim stepped).toLabelled

/-- In every run in which the passes meet step names with different labels, every instance follows
one workflow. -/
theorem instances_follow_workflow (env : ChainEnv)
    (reached : (system env).Reaches Begins (fun t event => passesApart t event = true) t)
    (instanceID : String) : ∃ workflow, Follows env t.world instanceID workflow := by
  have orderly : Orderly env True t.world := by
    refine reached.invariant (I := fun t : Sys => Orderly env True t.world)
      (fun t begins => begins.orderly) ?_
    exact fun _ orderly apart stepped => orderly.next (fun _ => apart) stepped
  exact orderly.follows trivial instanceID

theorem sample_begins (steps : List AgentChainStepSpec) : Begins { world := sampleWorld steps } :=
  ⟨sampleWorld_unmade steps, rfl, rfl, rfl, rfl⟩

theorem instances_follow_workflow_cut_off :
    ∃ t, (system sampleEnv).Reaches Begins (fun t event => passesApart t event = true) t ∧
      (madeFor t.world "m-0123456789ab").length = 2 ∧
      ∃ workflow, Follows sampleEnv t.world "m-0123456789ab" workflow :=
  Machine.Reaches.played (P := fun t => (madeFor t.world "m-0123456789ab").length = 2) passesApart
    cutOffSecond (.start (sample_begins [{ name := "build" }, stepAfter "build" "test"]))
    (fun _ _ passes => passes) (by decide +kernel)
    fun _ reached two => ⟨two, instances_follow_workflow sampleEnv reached _⟩

/-- The label of the first step is the name of the second one. -/
def twinSteps : List AgentChainStepSpec :=
  [{ name := "a--b" }, stepAfter "a--b" "a-b", stepAfter "a-b" "c"]

/-- The pass that creates the first run is cut off. The next one takes that run for the second
step, so that the third step follows the first. -/
def skipSecond : List Event :=
  [.reconcile true, .reconcile false,
   .progress "agentrun-c-m-0123456789ab-a-b-0123456789ab" { phase := .succeeded },
   .reconcile false]

theorem twin_labels_skip_a_step :
    ∃ t, (system sampleEnv).Reaches Begins (fun _ _ => True) t ∧
      ¬∃ workflow, Follows sampleEnv t.world "m-0123456789ab" workflow := by
  refine Machine.Reaches.played (P := fun t => ∃ run ∈ (madeFor t.world "m-0123456789ab")[1]?,
      run.labels.value agentRunChainStepLabel = "c" ∧ ∃ workflow ∈ run.sourceDigest,
        ∃ step ∈ workflow.steps[1]?, step.name = "a-b")
    (fun _ _ => true) skipSecond (.start (sample_begins twinSteps)) (fun _ _ _ => trivial)
    (by decide +kernel) ?_
  rintro t - ⟨run, at_, labelled, _, carries, _, second, named⟩ ⟨workflow, follows⟩
  -- The second run carries the workflow, and is not of its second step.
  obtain ⟨step, here, stepRun⟩ := follows.steps 1 run at_
  cases stepRun.digest.symm.trans carries
  cases here.symm.trans second
  rw [stepRun.label, named] at labelled
  exact absurd labelled (by decide +kernel)

end AnvilAgents.Automation.Chain
