import AnvilAgents.Controller.Reconcile

/-! Whether the actor of a run is suspended when the run ends, as its composed settings ask for. -/

namespace AnvilAgents.Substrate

open Text

structure AgentRunSubstrateSpec where
  actorClass : String := ""
  suspendOnIdle : Option Bool := none

/-- Where a harness executes, as far as one layer of the settings tells. -/
structure Execution where
  runtime : Option AgentRunExecutionRuntime := none
  substrate : Option AgentRunSubstrateSpec := none

def Execution.usesSubstrateActors (execution : Execution) : Bool :=
  execution.runtime = some .substrateActor

def Execution.suspendOnIdle (execution : Execution) : Option Bool :=
  execution.substrate.bind (·.suspendOnIdle)

def agentRunMergeExecution (profile run : Execution) : Execution where
  runtime := run.runtime.or profile.runtime
  substrate := run.substrate.or profile.substrate

/-- A run, with what decides where it executes. -/
structure Run where
  key : Key
  sourceRef : AgentRunSourceRef := {}
  phase : AgentRunPhase := .unset
  prompt : String := ""
  harnessProfileRef : Option NamespacedObjectReference := none
  execution : Execution := {}

/-- A run that names a harness profile itself takes no settings from its profile. -/
def agentRunHarnessWithProfile (profile : Execution) (obj : Run) (harnessProfile : Execution) :
    Execution :=
  agentRunMergeExecution
    (if obj.harnessProfileRef = none then agentRunMergeExecution harnessProfile profile
      else harnessProfile) obj.execution

/-- The run with the settings of its profile and its harness profile, if it has them. -/
def effectiveRun (obj : Run) (profile harnessProfile : Option Execution) : Run :=
  { obj with
    execution := match harnessProfile with
      | none => agentRunMergeExecution (profile.getD {}) obj.execution
      | some harnessProfile => agentRunHarnessWithProfile (profile.getD {}) obj harnessProfile }

/-- Where an actor is found. -/
structure ObjectRef where
  atespace : String
  name : String
deriving DecidableEq

/-- The actor plane: whether it is wired, the classes that generate, and how actors are named. -/
structure Plane where
  live : Bool
  generates : String → Bool
  atespace : String
  actorNameForThread : String → String

variable (r : Plane) (obj effective run : Run)

/-- A namespace is the atespace of the same name, unless one is forced. -/
def Plane.ref (ns name : String) : ObjectRef where
  atespace := if r.atespace = "" then trimSpace ns else r.atespace
  name := trimSpace name

/-- A run of a chat turn belongs to its thread, and any other run to itself. -/
def substrateThreadID : String :=
  if trimSpace run.sourceRef.kind = "ChatThread" ∧ trimSpace run.sourceRef.name ≠ "" then
    trimSpace run.sourceRef.name
  else trimSpace run.key.name

def shouldGenerateOnActor : Bool :=
  run.execution.usesSubstrateActors && r.live &&
    r.generates (trimSpace ((run.execution.substrate.map (·.actorClass)).getD ""))

/-- The actor that is created or resumed for a run. -/
def turnActor : ObjectRef :=
  r.ref (trimSpace run.key.ns) (trimSpace (r.actorNameForThread (substrateThreadID run)))

/-- The actors that a pass over a finished run suspends. -/
def suspendSubstrateActorOnTerminal : List ObjectRef :=
  if !run.execution.usesSubstrateActors || !r.live then []
  else if run.execution.suspendOnIdle.getD true then
    [r.ref run.key.ns (r.actorNameForThread (substrateThreadID run))]
  else []

/-- Whether the actor is there, what it generates, and whether the status is stored. -/
structure Answers where
  ensured : Bool
  generated : GenerateOutcome
  patched : Bool

/-- The actor that a pass binds, the phase that it stores, and the actors that it suspends. -/
structure Outcome where
  bound : Option ObjectRef := none
  recorded : Option AgentRunPhase := none
  suspended : List ObjectRef := []

/-- The phase of a run whose prompt has been sent. -/
def phaseOf : GenerateOutcome → AgentRunPhase
  | .transient => .running
  | .failed => .failed
  | .reply text => if isBlank (agentRunTrimOutput text) then .failed else .succeeded

/-- Store the phase of a run that is bound to its actor; a finished run gives the actor back. -/
def record (patched : Bool) (phase : AgentRunPhase) : Outcome :=
  let bound := some (turnActor r effective)
  if !patched then { bound }
  else if phase = .running then { bound, recorded := some phase }
  else { bound, recorded := some phase, suspended := suspendSubstrateActorOnTerminal r obj }

def reconcileSubstrateActorRun (observed : AgentRunPhase) (answers : Answers) : Outcome :=
  if agentRunPhaseTerminal obj.phase || agentRunPhaseTerminal observed then {}
  else if !shouldGenerateOnActor r effective then {}
  else if !answers.ensured then {}
  else
    record r obj effective answers.patched <|
      if isBlank effective.prompt then .failed else phaseOf answers.generated

/-- The passes over a run: the one that executes it, and those that find it finished. -/
def passes (profile harnessProfile : Option Execution) (observed : AgentRunPhase)
    (answers : Answers) (later : Nat) : Outcome :=
  let outcome :=
    reconcileSubstrateActorRun r obj (effectiveRun obj profile harnessProfile) observed answers
  { outcome with
    suspended := outcome.suspended ++
      (List.replicate later (suspendSubstrateActorOnTerminal r obj)).flatten }

variable {r obj effective} {profile harnessProfile : Option Execution}
  {observed phase : AgentRunPhase} {answers : Answers} {actor : ObjectRef} {later : Nat}

theorem mem_suspendSubstrateActorOnTerminal (live : r.live = true) :
    actor ∈ suspendSubstrateActorOnTerminal r run ↔
      actor = turnActor r run ∧
        run.execution.usesSubstrateActors = true ∧ run.execution.suspendOnIdle ≠ some false := by
  rcases idle : run.execution.suspendOnIdle with _ | _ | _ <;>
    simp [suspendSubstrateActorOnTerminal, turnActor, Plane.ref, live, idle, and_comm]

/-- A pass that finishes a run has bound the actor of the effective run, on a live plane. -/
theorem reconcileSubstrateActorRun_finished
    (recorded : (reconcileSubstrateActorRun r obj effective observed answers).recorded = some phase)
    (ended : agentRunPhaseTerminal phase = true) :
    r.live = true ∧ reconcileSubstrateActorRun r obj effective observed answers =
      ⟨turnActor r effective, phase, suspendSubstrateActorOnTerminal r obj⟩ := by
  unfold reconcileSubstrateActorRun at recorded ⊢
  generalize (if isBlank effective.prompt then _ else phaseOf answers.generated) = stored
    at recorded ⊢
  unfold record at recorded ⊢
  split_ifs at recorded ⊢ with _ generates _ _ running
  all_goals cases recorded
  · -- a run that is still going is not finished
    cases running ▸ ended
  · simp only [shouldGenerateOnActor, Bool.not_eq_true', Bool.not_eq_false, Bool.and_eq_true]
      at generates
    exact ⟨generates.1.2, rfl⟩

/-- When a run that is bound to an actor ends, that actor is suspended, and no other, just if the
composed settings do not say to keep it, exactly if the run's own settings ask for the same. -/
theorem actor_released_iff
    (bound : (passes r obj profile harnessProfile observed answers later).bound = some actor)
    (recorded :
      (passes r obj profile harnessProfile observed answers later).recorded = some phase)
    (ended : agentRunPhaseTerminal phase = true) :
    (∀ other, other ∈ (passes r obj profile harnessProfile observed answers later).suspended ↔
        other = actor ∧
          (effectiveRun obj profile harnessProfile).execution.suspendOnIdle ≠ some false) ↔
      ((obj.execution.usesSubstrateActors = true ∧ obj.execution.suspendOnIdle ≠ some false) ↔
        (effectiveRun obj profile harnessProfile).execution.suspendOnIdle ≠ some false) := by
  obtain ⟨live, outcome⟩ := reconcileSubstrateActorRun_finished recorded ended
  -- the effective run keeps what the actor is named after
  have own : actor = turnActor r obj := by
    simp only [passes, outcome, Option.some.injEq] at bound
    exact bound.symm
  have mem_suspended (other : ObjectRef) :
      other ∈ (passes r obj profile harnessProfile observed answers later).suspended ↔
        other ∈ suspendSubstrateActorOnTerminal r obj := by
    simp only [passes, outcome, List.mem_append, List.mem_flatten, List.mem_replicate]
    exact ⟨fun mem => mem.elim id fun ⟨_, ⟨_, same⟩, mem⟩ => same ▸ mem, .inl⟩
  simp only [mem_suspended, mem_suspendSubstrateActorOnTerminal obj live, own]
  exact ⟨fun follows => by simpa using follows (turnActor r obj),
    fun agree _ => and_congr_right' agree⟩

def warmPlane : Plane where
  live := true
  generates := fun _ => true
  atespace := ""
  actorNameForThread := id

/-- A run that leaves its runtime to its profile. -/
def profiledRun : Run where
  key := ⟨"default", "run"⟩
  prompt := "hi"

def onActors (suspendOnIdle : Option Bool) : Option Execution :=
  some { runtime := some .substrateActor, substrate := some { suspendOnIdle } }

theorem kept_actor_stays :
    (passes warmPlane profiledRun (onActors (some false)) none .unset ⟨true, .reply "done", true⟩
        1).recorded = some .succeeded ∧
      ∀ other, other ∈ (passes warmPlane profiledRun (onActors (some false)) none .unset
        ⟨true, .reply "done", true⟩ 1).suspended ↔ other = ⟨"default", "run"⟩ ∧
          (effectiveRun profiledRun (onActors (some false)) none).execution.suspendOnIdle ≠
            some false := by
  have recorded : (passes warmPlane profiledRun (onActors (some false)) none .unset
      ⟨true, .reply "done", true⟩ 1).recorded = some .succeeded := by decide +kernel
  exact ⟨recorded, (actor_released_iff (by decide +kernel) recorded rfl).2 (by decide +kernel)⟩

/-- The actor of a run that takes the runtime from its profile is not suspended. -/
theorem profiled_actor_held : ∃ outcome,
    outcome = passes warmPlane profiledRun (onActors none) none .unset
        ⟨true, .reply "done", true⟩ 1 ∧
      outcome.bound = some ⟨"default", "run"⟩ ∧ outcome.recorded = some .succeeded ∧
      (effectiveRun profiledRun (onActors none) none).execution.suspendOnIdle ≠ some false ∧
      outcome.suspended = [] :=
  ⟨_, rfl, by decide +kernel⟩

end AnvilAgents.Substrate
