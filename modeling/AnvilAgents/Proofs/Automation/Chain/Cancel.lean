import AnvilAgents.Proofs.Automation.Chain.Workflow

/-!
Cancellation is final.

A pass that was cut off can leave an unfinished run that no status names. If the instance is then
cancelled by its earlier run, the reconciler finds the later one and takes up the instance again. A
start token that is used a second time does the same. In every run without these, an instance that
was cancelled stays so.
-/

namespace AnvilAgents.Automation.Chain

open List

variable {env : ChainEnv} {s s' : World} {t t' : Sys} {cancelled : List String}

/-- Nothing of the cancelled instances is left to do. -/
structure Over (cancelled : List String) (s : World) : Prop where
  named : ∀ instanceID ∈ cancelled, instanceID ≠ ""
  /-- A run of each has been made, so that it cannot be started as a new one. -/
  made : ∀ instanceID ∈ cancelled, madeFor s instanceID ≠ []
  finished : ∀ instanceID ∈ cancelled, ∀ run ∈ madeFor s instanceID, run.terminal = true
  inactive : s.chain.status.activeInstanceID ∉ cancelled

variable {request : StepRequest} {instanceID : String}

section Over

variable (ended : Over cancelled s)

include ended

theorem Over.congr (same : ∀ instanceID ∈ cancelled, madeFor s' instanceID = madeFor s instanceID)
    (inactive : s'.chain.status.activeInstanceID ∉ cancelled) : Over cancelled s' := by
  refine ⟨ended.named, fun instanceID among => ?_, fun instanceID among => ?_, inactive⟩
  · rw [same instanceID among]
    exact ended.made instanceID among
  · rw [same instanceID among]
    exact ended.finished instanceID among

theorem Over.frame (runs : s'.runs = s.runs) (uid : s'.chain.uid = s.chain.uid)
    (inactive : s'.chain.status.activeInstanceID ∉ cancelled) : Over cancelled s' :=
  ended.congr (fun _ _ => by rw [madeFor, madeFor, runs, uid]) inactive

theorem Over.progress (name : String) (status : RunStatus) :
    Over cancelled { s with runs := s.runs.map (Run.progress name status) } := by
  refine ⟨ended.named, fun instanceID among => ?_, fun instanceID among run' member => ?_,
    ended.inactive⟩
  · rw [madeFor_progress]
    simpa using ended.made instanceID among
  · rw [madeFor_progress] at member
    obtain ⟨run, before, rfl⟩ := mem_map.mp member
    have finished := ended.finished instanceID among run before
    rw [Run.terminal, (progress_terminal name status run finished).1]
    exact finished

theorem Over.create {run : Run} (launched : Launched env s request true run)
    (plain : Plain request.instanceID) (new : request.instanceID ∉ cancelled) :
    Over cancelled { s with runs := s.runs ++ [run] } := by
  refine ended.congr (fun instanceID among => ?_) ended.inactive
  exact launched.madeFor_of_ne plain fun isRequest => new (isRequest ▸ among)

theorem Over.cancel (run : Run) (named : instanceID ≠ "") (member : run ∈ madeFor s instanceID)
    (finished : ∀ run ∈ s.runs, openRun s run = false) (idle : s.chain.status.activeInstanceID = "")
    : Over (instanceID :: cancelled) s := by
  have names : ∀ other ∈ instanceID :: cancelled, other ≠ "" := by
    intro other among
    rcases mem_cons.mp among with rfl | before
    · exact named
    · exact ended.named other before
  refine ⟨names, fun other among => ?_, fun other among run made => ?_, fun among => ?_⟩
  · rcases mem_cons.mp among with rfl | before
    · exact ne_nil_of_mem member
    · exact ended.made other before
  · -- No run of the chain is unfinished, of whichever instance.
    obtain ⟨inside, owner, -⟩ := mem_madeFor.mp made
    simpa [openRun, owner] using finished run inside
  · exact names _ among idle

end Over

/-! ### Passes -/

/-- A pass that acknowledges a cancellation finds no unfinished run, and a pass that starts an
instance finds no finished run of it. -/
def keepsCancelled (env : ChainEnv) (t : Sys) : Event → Bool
  | .reconcile cutOff =>
    match (reconcile env t.world).did with
    | .cancelled _ => cutOff || t.world.runs.all fun run => !openRun t.world run
    | .started instanceID _ _ => (madeFor t.world instanceID).all fun run => !run.terminal
    | _ => true
  | _ => true

theorem Over.starts {manual : Bool} {dueAt : Time} {cutOff : Bool}
    (ended : Over t.cancelled t.world)
    (did : (reconcile env t.world).did = .started request.instanceID manual dueAt)
    (keeps : keepsCancelled env t (.reconcile cutOff) = true) :
    request.instanceID ∉ t.cancelled := by
  intro among
  simp only [keepsCancelled, did, all_eq_true, Bool.not_eq_true'] at keeps
  obtain ⟨run, member⟩ := exists_mem_of_ne_nil _ (ended.made _ among)
  have unfinished := keeps run member
  rw [ended.finished _ among run member] at unfinished
  cases unfinished

theorem Over.pass {cutOff : Bool} (ended : Over t.cancelled t.world) (labelled : Labelled t.world)
    (keeps : keepsCancelled env t (.reconcile cutOff) = true) :
    Over t.cancelled (t.world.pass (reconcile env t.world) cutOff) ∧
      ∀ instanceID, (reconcile env t.world).createdFor = some instanceID →
        instanceID ∉ t.cancelled := by
  have outcome := reconcile_outcome env t.world
  have starts {request : StepRequest} {manual : Bool} {dueAt : Time}
      (did : (reconcile env t.world).did = .started request.instanceID manual dueAt) :
      request.instanceID ∉ t.cancelled := ended.starts did keeps
  generalize reconcile env t.world = pass at *
  obtain ⟨-, -, uid⟩ := passed_identity (s := t.world) pass cutOff
  have inactive : (passed t.world pass cutOff).status.activeInstanceID ∉ t.cancelled := by
    rcases outcome.becomes cutOff with same | idle | ⟨run, _, recovers, named⟩ |
      ⟨request, manual, dueAt, _, did, named⟩
    · exact same ▸ ended.inactive
    · exact idle ▸ fun among => ended.named _ among rfl
    · intro among
      obtain ⟨member, made, unfinished⟩ := recovers.made
      have finished := ended.finished _ among run (mem_madeFor.mpr ⟨member, made, named.symm⟩)
      cases finished.symm.trans unfinished
    · exact named ▸ starts did
  rcases outcome.runs with create | ⟨request, run, create, launched, reason⟩
  · refine ⟨ended.frame (pass_runs_none create) uid inactive, ?_⟩
    simp [Pass.createdFor, create]
  · have new : request.instanceID ∉ t.cancelled ∧ Plain request.instanceID ∧
        pass.createdFor = some request.instanceID := by
      rcases reason with ⟨manual, dueAt, begun, did⟩ | ⟨_, _, _, advances, did⟩
      · exact ⟨starts did, begun.plain, by simp [Pass.createdFor, create, did]⟩
      · have plain := labelled.active advances.was
        refine ⟨?_, advances.instanceID ▸ plain, by simp [Pass.createdFor, create, did]⟩
        rw [advances.instanceID]
        exact ended.inactive
    refine ⟨(ended.create launched new.2.1 new.1).frame (by simp [World.pass, create]) uid inactive,
      fun instanceID created => ?_⟩
    cases new.2.2.symm.trans created
    exact new.1

/-! ### Every run of the system -/

/-- No instance that was cancelled has come back. -/
structure Settled (t : Sys) : Prop where
  labelled : Labelled t.world
  ended : Over t.cancelled t.world
  late : t.late = []

/-- The run by which an instance was cancelled is one of its own. -/
theorem Stops.madeFor {status : AgentChainStatus} (stops : Stops s status) (labelled : Labelled s) :
    ∃ run, run ∈ madeFor s s.chain.status.activeInstanceID := by
  obtain ⟨run, current, -⟩ := stops.current
  obtain ⟨ref, -, found⟩ := current.ref
  have plain := labelled.active stops.was
  exact ⟨run, mem_madeFor.mpr ⟨mem_of_find?_eq_some found, current.made,
    current.instanceID.trans plain⟩⟩

/-- A pass that acknowledges the cancellation of an instance has stopped it. -/
theorem cancelled_stops (did : (reconcile env s).did = .cancelled instanceID) :
    instanceID = s.chain.status.activeInstanceID ∧ (reconcile env s).create = none ∧
      ∃ status, (reconcile env s).status = some status ∧ Stops s status := by
  have outcome := reconcile_outcome env s
  generalize reconcile env s = pass at *
  cases outcome with
  | stopped create stopped wrote stops =>
    rw [did] at stopped
    rcases stopped with stopped | stopped
    · cases stopped
    · cases stopped
      exact ⟨rfl, create, _, wrote, stops⟩
  | held _ did' | recovered _ did' | started _ did' | advanced _ did' => cases did'.symm.trans did

theorem Settled.reconcile (settled : Settled t) {cutOff : Bool}
    (labelled : Labelled (t.reconcile env cutOff).world)
    (keeps : keepsCancelled env t (.reconcile cutOff) = true) : Settled (t.reconcile env cutOff) := by
  obtain ⟨ended, created⟩ := settled.ended.pass settled.labelled keeps
  refine ⟨labelled, ?_, ?_⟩
  · simp only [Sys.reconcile]
    split
    next instanceID did =>
      cases cutOff with
      | true => exact ended
      | false =>
        -- The instance was the active one, and none of the runs is unfinished.
        obtain ⟨rfl, create, status, wrote, stops⟩ := cancelled_stops did
        obtain ⟨run, member⟩ := stops.madeFor settled.labelled
        have same : (t.world.pass (Chain.reconcile env t.world) false).runs = t.world.runs :=
          pass_runs_none create
        have idle := congrArg Active.instanceID (passed_active (s := t.world) wrote)
        refine ended.cancel run stops.was ?_ ?_ (idle.trans stops.idle)
        · exact mem_madeFor.mpr (same ▸ mem_madeFor.mp member)
        · intro other among
          simp only [keepsCancelled, did, Bool.false_or, all_eq_true, Bool.not_eq_true'] at keeps
          exact keeps other (same ▸ among)
    next => exact ended
  · simp only [Sys.reconcile]
    split
    next instanceID made => rw [if_neg (created instanceID made), settled.late]
    next => exact settled.late

theorem Settled.next {event : Event} (settled : Settled t)
    (keeps : keepsCancelled env t event = true) (stepped : (system env).next t event = some t') :
    Settled t' := by
  have labelled := settled.labelled.next stepped
  cases event with
  | reconcile cutOff =>
    cases stepped
    exact settled.reconcile labelled keeps
  | edit | annotate | delete | setControls | wait =>
    cases stepped
    exact ⟨labelled, settled.ended.frame rfl rfl settled.ended.inactive, settled.late⟩
  | progress name status =>
    cases stepped
    exact ⟨labelled, settled.ended.progress name status, settled.late⟩

/-- In every run in which cancellations are acknowledged with no run unfinished, and in which no
instance is started that has run, an instance that was cancelled is never active again and gets no
further run. -/
theorem cancellation_final (env : ChainEnv)
    (reached : (system env).Reaches Begins (fun t event => keepsCancelled env t event = true) t) :
    t.late = [] ∧ t.world.chain.status.activeInstanceID ∉ t.cancelled := by
  have settled : Settled t := by
    refine reached.invariant (I := Settled) (fun t begins => ?_) ?_
    · obtain ⟨cancelled, -, late⟩ := begins.fresh
      refine ⟨begins.labelled, ?_, late⟩
      rw [cancelled]
      exact ⟨nofun, nofun, nofun, not_mem_nil⟩
    · exact fun _ settled keeps stepped => settled.next keeps stepped
  exact ⟨settled.late, settled.ended.inactive⟩

/-- The first step is cancelled while it runs, and then finishes. -/
def cancelFirst : List Event :=
  [.reconcile false, .annotate (some "go") (some "m-0123456789ab") [], .reconcile false,
   .progress "agentrun-c-m-0123456789ab-build-0123456789ab" { phase := .succeeded },
   .reconcile false, .reconcile false]

theorem cancellation_final_first_step :
    ∃ t, (system sampleEnv).Reaches Begins (fun t event => keepsCancelled sampleEnv t event = true) t ∧
      t.cancelled = ["m-0123456789ab"] ∧ t.late = [] ∧
      t.world.chain.status.activeInstanceID ∉ t.cancelled :=
  Machine.Reaches.played (P := fun t => t.cancelled = ["m-0123456789ab"]) (keepsCancelled sampleEnv)
    cancelFirst (.start (sample_begins [{ name := "build" }, stepAfter "build" "test"]))
    (fun _ _ passes => passes) (by decide +kernel)
    fun _ reached acknowledged => ⟨acknowledged, cancellation_final sampleEnv reached⟩

/-- The pass that creates the second run is cut off. The instance is cancelled by its first run,
taken up again by its second, and goes on to its third. -/
def cancelCutOff : List Event :=
  [.reconcile false,
   .progress "agentrun-c-m-0123456789ab-build-0123456789ab" { phase := .succeeded },
   .reconcile true, .annotate (some "go") (some "m-0123456789ab") [], .reconcile false,
   .reconcile false, .reconcile false,
   .progress "agentrun-c-m-0123456789ab-test-0123456789ab" { phase := .succeeded },
   .reconcile false]

theorem cancelled_instance_comes_back :
    ∃ t, (system sampleEnv).Reaches Begins (fun _ _ => True) t ∧
      t.late = ["m-0123456789ab"] ∧ t.world.chain.status.activeInstanceID ∈ t.cancelled :=
  Machine.Reaches.played (fun _ _ => true) cancelCutOff (.start (sample_begins
    [{ name := "build" }, stepAfter "build" "test", stepAfter "test" "ship"])) (fun _ _ _ => trivial)
    (by decide +kernel) fun _ _ facts => facts

end AnvilAgents.Automation.Chain
