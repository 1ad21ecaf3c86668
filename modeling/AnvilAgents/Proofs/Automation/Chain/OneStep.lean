import AnvilAgents.Proofs.Automation.Chain.Pass
import Mathlib.Data.List.Nodup

/-!
A chain runs one step at a time.

After a pass that was cut off, the status does not name the run that exists. It still determines
the name of that run, so that the next pass either finds it or has to wait for it.
-/

namespace AnvilAgents.Automation.Chain

open List

variable {env : ChainEnv} {s s' : World} {t t' : Sys}

/-- A run that the reconciler has made for the chain and that is not finished. -/
def openRun (s : World) (run : Run) : Bool :=
  run.spec.sourceUID == s.chain.uid && !run.terminal

/-- No run has been made for the chain yet, and names are unique. -/
structure Unmade (s : World) : Prop where
  names : (s.runs.map (·.name)).Nodup
  unmade : ∀ run ∈ s.runs, run.spec.sourceUID ≠ s.chain.uid

/-- The name of the run that follows the active step in the frozen workflow. -/
def successorName (env : ChainEnv) (chain : AgentChain) (active : Active) (name : String) : Prop :=
  ∃ digest index next, active.digest = some digest ∧
    agentChainStepIndex digest.steps active.step = some index ∧
    digest.steps[index + 1]? = some next ∧
    name = chainRunName env chain active.instanceID next.name

/-- An unfinished run is the one that the status names, or the one that follows it. -/
def Known (env : ChainEnv) (s : World) (run : Run) : Prop :=
  (∃ ref, s.chain.status.active.runRef = some ref ∧ run.name = ref.name) ∨
    successorName env s.chain s.chain.status.active run.name

structure Single (env : ChainEnv) (s : World) : Prop where
  names : (s.runs.map (·.name)).Nodup
  owned : ∀ run ∈ s.runs, run.spec.sourceUID = s.chain.uid → ownedBy s.chain run = true
  one : s.runs.countP (openRun s) ≤ 1
  known : s.chain.status.activeInstanceID ≠ "" →
    ∀ run ∈ s.runs, openRun s run = true → Known env s run

theorem Unmade.single (unmade : Unmade s) : Single env s where
  names := unmade.names
  owned run member same := (unmade.unmade run member same).elim
  one := by
    rw [countP_eq_zero.mpr fun run member => by simp [openRun, unmade.unmade run member]]
    exact Nat.zero_le 1
  known _ run member isOpen := by simp [openRun, unmade.unmade run member] at isOpen

/-- What the scan of the reconciler finds are the unfinished runs it has made. -/
theorem ownedNonterminalRuns_eq
    (owned : ∀ run ∈ s.runs, run.spec.sourceUID = s.chain.uid → ownedBy s.chain run = true) :
    agentChainOwnedNonterminalRuns s = s.runs.filter (openRun s) := by
  refine filter_congr fun run member => ?_
  have same : ownedBy s.chain run = (run.spec.sourceUID == s.chain.uid) := by
    refine Bool.eq_iff_iff.mpr ⟨fun isOwned => ?_, fun made => owned run member (beq_iff_eq.mp made)⟩
    exact (Bool.and_eq_true_iff.mp isOwned).2
  rw [openRun, same, Bool.and_comm]

theorem eq_of_find_name {runs : List Run} {run other : Run} {name : String}
    (names : (runs.map (·.name)).Nodup) (found : runs.find? (fun run => run.name == name) = some run)
    (member : other ∈ runs) (same : other.name = name) : other = run := by
  have named := find?_some found
  have inside := mem_of_find?_eq_some found
  exact inj_on_of_nodup_map names member inside (same.trans (beq_iff_eq.mp named).symm)

/-! ### What the surroundings change -/

/-- The chain is the same, and so is what it says about the active instance. -/
structure SameChain (chain chain' : AgentChain) : Prop where
  ns : chain'.ns = chain.ns
  name : chain'.name = chain.name
  uid : chain'.uid = chain.uid
  active : chain'.status.active = chain.status.active

variable {chain chain' : AgentChain}

theorem chainRunName_congr (name : chain'.name = chain.name) (uid : chain'.uid = chain.uid)
    (instanceID step : String) :
    chainRunName env chain' instanceID step = chainRunName env chain instanceID step := by
  rw [chainRunName, chainRunName, name, uid]

theorem ownedBy_congr (ns : chain'.ns = chain.ns) (name : chain'.name = chain.name)
    (uid : chain'.uid = chain.uid) (run : Run) :
    ownedBy chain' run = ownedBy chain run := by
  simp only [ownedBy, chainSourceRef, ns, name, uid]

theorem openRun_congr (uid : s'.chain.uid = s.chain.uid) : openRun s' = openRun s := by
  funext run
  rw [openRun, openRun, uid]

section Progress

variable (name : String) (status : RunStatus) (run : Run)

theorem progress_spec : (run.progress name status).name = run.name ∧
    (run.progress name status).spec = run.spec ∧ (run.progress name status).labels = run.labels ∧
    (run.progress name status).sourceDigest = run.sourceDigest ∧
    (run.progress name status).creationTimestamp = run.creationTimestamp := by
  unfold Run.progress
  split
  next => exact ⟨rfl, rfl, rfl, rfl, rfl⟩
  next => split <;> exact ⟨rfl, rfl, rfl, rfl, rfl⟩

/-- A finished run keeps its phase and its decision. -/
theorem progress_terminal (finished : run.terminal = true) :
    (run.progress name status).status.phase = run.status.phase ∧
      (run.progress name status).status.decision = run.status.decision ∧
      (run.progress name status).status.completedAt = run.status.completedAt := by
  unfold Run.progress
  split
  next => exact ⟨rfl, rfl, rfl⟩
  next => exact ⟨rfl, rfl, rfl⟩

theorem terminal_of_progress (unfinished : (run.progress name status).terminal = false) :
    run.terminal = false := by
  by_contra finished
  have finished : run.terminal = true := by simpa using finished
  have same := (progress_terminal name status run finished).1
  rw [Run.terminal, same] at unfinished
  rw [Run.terminal, unfinished] at finished
  cases finished

theorem openRun_of_progress
    (isOpen : openRun s (run.progress name status) = true) : openRun s run = true := by
  simp only [openRun, Bool.and_eq_true, Bool.not_eq_true', (progress_spec name status run).2.1]
    at isOpen ⊢
  exact ⟨isOpen.1, terminal_of_progress name status run isOpen.2⟩

theorem Single.progress (single : Single env s) :
    Single env { s with runs := s.runs.map (Run.progress name status) } where
  names := by
    have same : (s.runs.map (Run.progress name status)).map (·.name) = s.runs.map (·.name) := by
      simp only [map_map, Function.comp_def, (progress_spec name status _).1]
    exact same ▸ single.names
  owned run member made := by
    obtain ⟨before, among, rfl⟩ := mem_map.mp member
    have spec := (progress_spec name status before).2.1
    have isOwned := single.owned before among (by simpa only [spec] using made)
    simpa only [ownedBy, spec] using isOwned
  one := by
    rw [countP_map]
    refine Nat.le_trans (countP_mono_left fun run _ isOpen => ?_) single.one
    exact openRun_of_progress name status run isOpen
  known active run member isOpen := by
    obtain ⟨before, among, rfl⟩ := mem_map.mp member
    have known := single.known active before among (openRun_of_progress name status before isOpen)
    unfold Known at known ⊢
    rwa [(progress_spec name status before).1]

end Progress

/-! ### What a pass changes -/

theorem chainRun_owned (request : StepRequest) (application : Option String) :
    ownedBy s.chain (chainRun env s request application) = true := by
  simp [ownedBy, chainRun]

variable {request : StepRequest}

/-- The chain after a pass, whole or cut off. -/
def passed (s : World) (pass : Pass) (cutOff : Bool) : AgentChain :=
  if cutOff then s.chain else s.chain.record pass

theorem passed_identity (pass : Pass) (cutOff : Bool) :
    (passed s pass cutOff).ns = s.chain.ns ∧ (passed s pass cutOff).name = s.chain.name ∧
      (passed s pass cutOff).uid = s.chain.uid := by
  unfold passed
  split <;> exact ⟨rfl, rfl, rfl⟩

/-- A whole pass stores the active instance of the status it writes. -/
theorem passed_active {pass : Pass} {status : AgentChainStatus} (wrote : pass.status = some status) :
    (passed s pass false).status.active = status.active := by
  simp only [passed, Bool.false_eq_true, if_false, AgentChain.record, wrote]
  rfl

/-- A pass that keeps the active instance, or is cut off, keeps what the chain says about it. -/
theorem passed_same {pass : Pass} {cutOff : Bool}
    (keeps : ∀ status, pass.status = some status → status.active = s.chain.status.active) :
    SameChain s.chain (passed s pass cutOff) := by
  unfold passed
  split
  next => exact ⟨rfl, rfl, rfl, rfl⟩
  next =>
    refine ⟨rfl, rfl, rfl, ?_⟩
    cases wrote : pass.status with
    | some status =>
      simp only [AgentChain.record, wrote]
      exact keeps status wrote
    | none => simp only [AgentChain.record, wrote]

theorem pass_runs_none {pass : Pass} {cutOff : Bool} (create : pass.create = none) :
    (s.pass pass cutOff).runs = s.runs := by
  simp [World.pass, create]

theorem alone_of_fresh {name : String} (only : ∀ other ∈ s.runs, openRun s other = true → other.name = name)
    (fresh : ∀ other ∈ s.runs, other.name ≠ name) : s.runs.countP (openRun s) = 0 :=
  countP_eq_zero.mpr fun other member isOpen => fresh other member (only other member isOpen)

section Single

variable (single : Single env s)

include single

/-- With the same runs, it is left to say which of them the status knows. -/
theorem Single.transfer (runs : s'.runs = s.runs) (ns : s'.chain.ns = s.chain.ns)
    (name : s'.chain.name = s.chain.name) (uid : s'.chain.uid = s.chain.uid)
    (known : s'.chain.status.activeInstanceID ≠ "" →
      ∀ run ∈ s.runs, openRun s run = true → Known env s' run) : Single env s' := by
  refine ⟨runs ▸ single.names, fun run member made => ?_, ?_, ?_⟩
  · rw [ownedBy_congr ns name uid]
    exact single.owned run (runs ▸ member) (uid ▸ made)
  · rw [runs, openRun_congr uid]
    exact single.one
  · rw [runs, openRun_congr uid]
    exact known

theorem Single.frame (runs : s'.runs = s.runs) (same : SameChain s.chain s'.chain) :
    Single env s' := by
  refine single.transfer runs same.ns same.name same.uid fun active run member isOpen => ?_
  have instanceID := congrArg Active.instanceID same.active
  have before := single.known (fun none => active (instanceID.trans none)) run member isOpen
  unfold Known successorName at before ⊢
  simpa only [same.active, chainRunName_congr same.name same.uid] using before

theorem Single.create {run : Run} (launched : Launched env s request true run)
    (alone : s.runs.countP (openRun s) = 0)
    (follows : s.chain.status.activeInstanceID ≠ "" → Known env s run) :
    Single env { s with runs := s.runs ++ [run] } := by
  obtain ⟨fresh, application, made⟩ := launched.new rfl
  have none := countP_eq_zero.mp alone
  refine ⟨?_, fun other member same => ?_, ?_, fun active other member isOpen => ?_⟩
  · rw [map_append, map_singleton]
    refine nodup_append.mpr ⟨single.names, nodup_singleton _, ?_⟩
    intro name member name' member' same
    obtain ⟨other, among, rfl⟩ := mem_map.mp member
    exact fresh other among (same.trans (mem_singleton.mp member'))
  · rcases mem_append.mp member with before | new
    · exact single.owned other before same
    · rw [mem_singleton.mp new, made]
      exact chainRun_owned request application
  · show (s.runs ++ [run]).countP (openRun s) ≤ 1
    rw [countP_append, alone, Nat.zero_add]
    exact countP_le_length
  · -- No run was unfinished before, so this is the new one.
    rcases mem_append.mp member with before | new
    · exact (none other before isOpen).elim
    · rw [mem_singleton.mp new]
      exact follows active

/-- The status names the only run that may be unfinished. -/
theorem Single.name (run : Run) (runs : s'.runs = s.runs) (ns : s'.chain.ns = s.chain.ns)
    (name : s'.chain.name = s.chain.name) (uid : s'.chain.uid = s.chain.uid)
    (named : ∃ ref, s'.chain.status.active.runRef = some ref ∧ run.name = ref.name)
    (only : ∀ other ∈ s.runs, openRun s other = true → other.name = run.name) : Single env s' := by
  refine single.transfer runs ns name uid fun _ other member isOpen => ?_
  obtain ⟨ref, refers, same⟩ := named
  exact .inl ⟨ref, refers, (only other member isOpen).trans same⟩

/-- While the active step is finished, the only run that may be unfinished is that of the next. -/
theorem Single.only_next {index : Nat} {step : AgentChainStepSpec} {current : Run}
    (advances : Advances s request index step current) : ∀ other ∈ s.runs, openRun s other = true →
      other.name = chainRunName env s.chain request.instanceID request.step.name := by
  intro other member isOpen
  rcases single.known advances.was other member isOpen with ⟨ref, refers, same⟩ | successor
  · -- The run that the status names is finished.
    obtain ⟨ref', refers', found⟩ := advances.resolved.ref
    cases refers.symm.trans refers'
    rw [eq_of_find_name single.names found member same, openRun, advances.terminal] at isOpen
    simp at isOpen
  · obtain ⟨digest, index', next, frozen, named, follows, same⟩ := successor
    -- The frozen workflow is the current one, so its next step is the one that is asked for.
    have digest_eq : digest = agentChainWorkflowDigest s.chain := by
      have both := frozen.symm.trans advances.frozen
      exact (Option.some.inj both).trans advances.workflow
    subst digest_eq
    cases named.symm.trans advances.named
    cases follows.symm.trans advances.next
    rw [same, advances.instanceID]
    rfl

theorem alone_of_owned (owned : agentChainOwnedNonterminalRuns s = []) :
    s.runs.countP (openRun s) = 0 := by
  rw [ownedNonterminalRuns_eq single.owned] at owned
  rw [countP_eq_length_filter, owned]
  rfl

/-- The pass with the run of a request leaves at most one run unfinished. -/
theorem Single.launch {created cutOff : Bool} {run : Run} {pass : Pass} {status : AgentChainStatus}
    (launched : Launched env s request created run)
    (create : pass.create = if created then some run else none) (wrote : pass.status = some status)
    (active : status.active = request.active s run)
    (only : ∀ other ∈ s.runs, openRun s other = true →
      other.name = chainRunName env s.chain request.instanceID request.step.name)
    (follows : s.chain.status.activeInstanceID ≠ "" → Known env s run) :
    Single env (s.pass pass cutOff) := by
  obtain ⟨ns, name, uid⟩ := passed_identity (s := s) pass cutOff
  have after : Single env { s with runs := s.runs ++ pass.create.toList } := by
    cases created with
    | false => simpa [create] using single
    | true =>
      have fresh := (launched.new rfl).1
      have alone := alone_of_fresh only (launched.name ▸ fresh)
      simpa [create] using single.create launched alone follows
  cases cutOff with
  | true => exact after.frame rfl ⟨rfl, rfl, rfl, rfl⟩
  | false =>
    have written := (passed_active (s := s) wrote).trans active
    refine after.name run rfl ns name uid ⟨run.ref s.chain, congrArg Active.runRef written, rfl⟩
      fun other member isOpen => ?_
    rcases mem_append.mp member with before | new
    · exact (only other before isOpen).trans launched.name.symm
    · cases created with
      | false => simp [create] at new
      | true =>
        simp only [create, if_true, Option.toList_some, mem_singleton] at new
        rw [new]

theorem Single.pass (cutOff : Bool) : Single env (s.pass (reconcile env s) cutOff) := by
  have outcome := reconcile_outcome env s
  generalize reconcile env s = pass at *
  obtain ⟨ns, name, uid⟩ := passed_identity (s := s) pass cutOff
  have quiet (create : pass.create = none) (same : SameChain s.chain (passed s pass cutOff)) :
      Single env (s.pass pass cutOff) :=
    single.frame (pass_runs_none create) same
  cases outcome with
  | held create did status => exact quiet create (passed_same fun status' wrote => (status _ wrote).active)
  | stopped create did wrote stops =>
    cases cutOff with
    | true => exact quiet create ⟨rfl, rfl, rfl, rfl⟩
    | false =>
      have idle := congrArg Active.instanceID (passed_active (s := s) wrote)
      exact single.transfer (pass_runs_none create) ns name uid fun busy =>
        (busy (idle.trans stops.idle)).elim
  | @recovered status run create did wrote recovers =>
    cases cutOff with
    | true => exact quiet create ⟨rfl, rfl, rfl, rfl⟩
    | false =>
      have written := (passed_active (s := s) wrote).trans recovers.active
      refine single.name run (pass_runs_none create) ns name uid
        ⟨run.ref s.chain, congrArg Active.runRef written, rfl⟩ fun other member isOpen => ?_
      have owned := recovers.owned
      rw [ownedNonterminalRuns_eq single.owned] at owned
      have among : other ∈ s.runs.filter (openRun s) := mem_filter.mpr ⟨member, isOpen⟩
      rw [owned] at among
      rw [mem_singleton.mp among]
  | started create did wrote starts launched active next =>
    have none := countP_eq_zero.mp (alone_of_owned single starts.owned)
    refine single.launch launched create wrote active ?_ fun busy => (busy starts.was).elim
    exact fun other member isOpen => (none other member isOpen).elim
  | @advanced _ request _ index step _ run create did wrote advances launched active later =>
    refine single.launch launched create wrote active (single.only_next advances) fun _ => .inr ?_
    refine ⟨request.workflowDigest, index, request.step, advances.frozen, ?_, ?_, ?_⟩
    · rw [advances.workflow]
      exact advances.named
    · rw [advances.workflow]
      exact advances.next
    · rw [launched.name, advances.instanceID]
      rfl

end Single

/-! ### Every run of the system -/

theorem Single.next {event : Event} (single : Single env t.world)
    (stepped : (system env).next t event = some t') : Single env t'.world := by
  cases event with
  | reconcile cutOff =>
    cases stepped
    exact single.pass cutOff
  | edit | annotate | delete | setControls | wait =>
    cases stepped
    exact single.frame rfl ⟨rfl, rfl, rfl, rfl⟩
  | progress name status =>
    cases stepped
    exact single.progress name status

/-- In every state that is reached, at most one run that the reconciler has made for the chain is
not finished. -/
theorem one_step_at_a_time (env : ChainEnv)
    (reached : (system env).Reaches (fun t => Unmade t.world) (fun _ _ => True) t) :
    (t.world.runs.filter fun run => run.spec.sourceUID == t.world.chain.uid && !run.terminal).length
      ≤ 1 := by
  have single : Single env t.world := by
    refine reached.invariant (I := fun t : Sys => Single env t.world) (fun t unmade => unmade.single) ?_
    exact fun _ single _ stepped => single.next stepped
  rw [← countP_eq_length_filter]
  exact single.one

/-! ### A chain of two steps -/

def sampleEnv : ChainEnv where
  shortHash := twelveDigits
  rfc3339 time := toString (time / second)
  rfc3339Nano time := toString time
  stamp time := toString (time / second)
  parseStamp _ := none
  parseStamp_solid := nofun
  digestText _ := ""
  digests := twelveDigits_digests

/-- A step that follows another one when that succeeds. -/
def stepAfter (previousStep name : String) : AgentChainStepSpec where
  name := name
  when_ := some { previousStep }

def sampleChain (steps : List AgentChainStepSpec) : AgentChain where
  ns := "anvil"
  name := "c"
  uid := 7
  creationTimestamp := 1000 * second
  drainFinalizer := true
  spec := { applicationRef := some "shop", steps }

/-- A chain whose runs have not been made, started by a token. -/
def sampleWorld (steps : List AgentChainStepSpec) : World where
  now := 1000 * second
  chain := { sampleChain steps with startNow := some "go" }

theorem sampleWorld_unmade (steps : List AgentChainStepSpec) : Unmade (sampleWorld steps) where
  names := nodup_nil
  unmade _ member := (not_mem_nil member).elim

/-- The first step runs and succeeds, and the pass that creates the second one is cut off. -/
def cutOffSecond : List Event :=
  [.reconcile false, .progress "agentrun-c-m-0123456789ab-build-0123456789ab" { phase := .succeeded },
   .reconcile true, .reconcile false]

/-- The run of the second step is there although no status names it, and the pass after the cut
takes it over. -/
theorem one_step_at_a_time_cut_off :
    ∃ t, (system sampleEnv).Reaches (fun t => Unmade t.world) (fun _ _ => True) t ∧
      t.world.chain.status.activeStep = "test" ∧ t.world.runs.length = 2 ∧
      (t.world.runs.filter fun run =>
        run.spec.sourceUID == t.world.chain.uid && !run.terminal).length ≤ 1 :=
  Machine.Reaches.played
    (P := fun t => t.world.chain.status.activeStep = "test" ∧ t.world.runs.length = 2)
    (fun _ _ => true) cutOffSecond
    (.start (s := { world := sampleWorld [{ name := "build" }, stepAfter "build" "test"] })
      (sampleWorld_unmade _)) (fun _ _ _ => trivial) (by decide +kernel)
    fun _ reached facts => ⟨facts.1, facts.2, one_step_at_a_time sampleEnv reached⟩

end AnvilAgents.Automation.Chain
