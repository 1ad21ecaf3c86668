import AnvilAgents.Proofs.Controller.Soundness

/-! A run executes at most once, however its passes interleave, crash and start again. -/

namespace AnvilAgents

open Conc Text World System Prog

variable {w : World} {r : AgentRunReconciler}

section Missing

variable {obj : AgentRun}

/-- After an attempt the pass looks for the planned or the recorded Job by name. -/
theorem expectedJobRef_named {launch : LaunchStatus} (sound : LaunchSound launch)
    (attempted : launch.jobCreateAttemptedAt.isSome) :
    ∃ ref, (expectedJobRef launch).filter (fun ref => !isBlank ref.name) = some ref := by
  have complete := sound.complete attempted
  by_cases planned : plannedLaunch launch = true
  · obtain ⟨ref, at_ref, named⟩ := planned_named complete
    exact ⟨ref, by simp [expectedJobRef, planned, at_ref, Option.filter, named]⟩
  · cases recorded : launch.jobRef with
    | none => simp [plannedLaunch, complete, recorded, sound.paired.mp recorded] at planned
    | some ref =>
      exact ⟨ref, by simp [expectedJobRef, planned, recorded, Option.filter, sound.named ref recorded]⟩

/-- A named Job that is not there, or is not the run's own, is reported missing. -/
theorem existingAgentRunJob_missing {ref : Option NamespacedObjectReference}
    {named : NamespacedObjectReference} (uid : UID)
    (at_named : ref.filter (fun ref => !isBlank ref.name) = some named)
    (foreign : ∀ job, w.jobs.get (named.resolve obj.key.ns) = some job →
      agentRunControllerOwnerMatches job.owner obj = false) :
    ∃ message, (existingAgentRunJob obj ref uid false).run serve w = (.ok (.missing message), w) := by
  unfold existingAgentRunJob
  rw [at_named]
  dsimp only
  by_cases outside : (named.resolve obj.key.ns).ns ≠ obj.key.ns
  · exact ⟨_, by rw [if_pos outside]; rfl⟩
  · rw [if_neg outside]
    simp only [ask, run_ask_bind, serve]
    cases found : w.jobs.get (named.resolve obj.key.ns) with
    | none => exact ⟨_, rfl⟩
    | some job =>
      simp only [foreign _ found, Bool.not_false, if_true]
      exact ⟨_, rfl⟩

/-- After an attempt a generation change does not reset the status. -/
theorem observedStatus_attempted (open_ : agentRunPhaseTerminal obj.status.phase = false)
    (attempted : obj.status.launch.jobCreateAttemptedAt.isSome) :
    observedStatus obj = { obj.status with observedGeneration := obj.generation } := by
  have preserved : preserveExecution obj.status = true := by
    simp [preserveExecution, open_, attempted]
  simp [observedStatus, preserved]

/-- A status computed from the stored version is stored at once, and nothing else changes. -/
theorem patchAgentRunStatus_run (found : w.runs.get obj.key = some obj) (status : AgentRunStatus) :
    ∃ w' version, (patchAgentRunStatus false obj { obj with status := status }).run serve w =
        (.ok (), w') ∧
      w'.runs.get obj.key = some { obj with status := status, resourceVersion := version } ∧
      w'.created = w.created ∧ w'.configMaps = w.configMaps := by
  have patched : (patchStatus w false obj { obj with status := status }) =
      if status = obj.status then (.ok obj, w)
      else (.ok (w.putRun obj.key { obj with status := status }).1,
        (w.putRun obj.key { obj with status := status }).2) := by
    simp [patchStatus, found, expectedVersion]
  simp only [patchAgentRunStatus, ask, run_ask_bind, serve, patched]
  by_cases same : status = obj.status
  · -- The server leaves a run alone that already has this status.
    subst same
    exact ⟨w, obj.resourceVersion, by rw [if_pos rfl]; rfl, found, rfl, rfl⟩
  · refine ⟨(w.putRun obj.key { obj with status := status }).2, w.nextVersion, ?_, ?_, rfl, rfl⟩
    · rw [if_neg same]
      rfl
    · simp [putRun]

/-- A pass over a run whose Job is missing after the attempt fails the run and creates nothing. -/
theorem reconcile_missing {key : Key} (sound : Sound w) (found : w.runs.get key = some obj)
    (present : obj.deleting = false) (unheld : agentRunInterruptDuplicateHold obj = none)
    (open_ : agentRunPhaseTerminal obj.status.phase = false)
    (attempted : obj.status.launch.jobCreateAttemptedAt.isSome)
    (gone : ∀ jobKey job, recordedJobKey key.ns obj.status.launch = some jobKey →
      w.jobs.get jobKey = some job → job.owner ≠ some ⟨key.name, obj.uid⟩) :
    ∃ w' after, (reconcile r key).run serve w = (.ok (), w') ∧ w'.created = w.created ∧
      w'.runs.get key = some after ∧ after.uid = obj.uid ∧ after.status.phase = .failed := by
  obtain rfl := sound.runKey key obj found
  have kept := observedStatus_attempted open_ attempted
  obtain ⟨named, at_named⟩ := expectedJobRef_named (sound.launch _ obj found) attempted
  have foreign : ∀ job, w.jobs.get (named.resolve obj.key.ns) = some job →
      agentRunControllerOwnerMatches job.owner obj = false := by
    intro job stored
    have recorded := recordedJobKey_expected obj.key.ns (Option.filter_eq_some_iff.mp at_named).1
    simp [agentRunControllerOwnerMatches, gone _ job recorded stored]
  obtain ⟨message, missed⟩ :=
    existingAgentRunJob_missing (w := w) obj.status.launch.jobUID at_named foreign
  -- Up to the lookup the pass only reads.
  have lookup : (reconcile r obj.key).run serve w = (reconcileLive r obj).run serve w := by
    simp [reconcile, ask, serve, found, present, unheld, open_]
  rw [lookup]
  simp only [reconcileLive, ask, run_ask_bind, serve, kept, attempted, Bool.not_true,
    Bool.and_false]
  rw [run_bind, missed]
  obtain ⟨w', version, patched, stored, created, -⟩ :=
    patchAgentRunStatus_run found (jobMissingStatus obj
      { obj.status with observedGeneration := obj.generation } w.clock _)
  exact ⟨w', _, patched, created, stored, rfl, rfl⟩

end Missing

/--
Single execution.

In every run of the controller, whatever crashes and outside changes come in between: at most one Job
is ever created for a UID; a pass that began when the attempt was already recorded makes no create
call; and a pass that finds the attempt recorded, and no Job of the run where the record points, fails
the run and creates nothing.
-/
theorem single_execution {cfg : Config Key Call Reply World}
    (reached : (controllers r).Reaches Initial (fun _ _ => True) cfg) :
    (∀ uid, (cfg.server.createdFor uid).length ≤ 1) ∧
    (∀ key began seen job run, Calling cfg key began seen (.createJob job) →
      began.runs.get key = some run → run.status.launch.jobCreateAttemptedAt = none) ∧
    (∀ key run, cfg.server.runs.get key = some run → run.deleting = false →
      agentRunInterruptDuplicateHold run = none → agentRunPhaseTerminal run.status.phase = false →
      run.status.launch.jobCreateAttemptedAt.isSome →
      (∀ jobKey job, recordedJobKey key.ns run.status.launch = some jobKey →
        cfg.server.jobs.get jobKey = some job → job.owner ≠ some ⟨key.name, run.uid⟩) →
      ∃ w' after, (reconcile r key).run serve cfg.server = (.ok (), w') ∧
        w'.created = cfg.server.created ∧ w'.runs.get key = some after ∧ after.uid = run.uid ∧
        after.status.phase = .failed) := by
  obtain ⟨sound, passes⟩ := controllers_sound reached
  refine ⟨sound.single, ?_, ?_⟩
  · intro key began seen job run calling before
    obtain ⟨rest, at_key⟩ := calling
    obtain ⟨⟨permitted, -⟩, pass⟩ := passes key _ at_key
    obtain ⟨pending, -, -⟩ := pass.creating sound permitted
    -- A pass that began after an attempt never comes to wait for its Job.
    by_contra attempted
    have since := pass.since run (by rw [pass.key]; exact before) (Option.isSome_iff_ne_none.mpr attempted)
    rw [if_neg (by simp [permitted.1])] at since
    simp [pending] at since
  · intro key run found present unheld open_ attempted gone
    exact reconcile_missing sound found present unheld open_ attempted gone

section Sample

/-- A reconciler with fixed digests and no optional feature. -/
def sampleReconciler : AgentRunReconciler where
  archiveEnabled := false
  terminalRetention := 0
  applicationMaxConcurrentRuns := 0
  platformContext := ""
  generateOnActor _ := false
  credentialViolation _ := none
  specViolation _ := none
  agentRunImage _ := "runner"
  buildAgentRunPrompt _ spec := spec.prompt
  agentRunOutputSummary := id
  shortHash _ := "h"
  digestPayload _ := "p"
  digestJob _ := "j"
  digestRecord _ := "r"
  payloadSize _ := 0

/-- Inputs under which every run resolves and no Pod has appeared. -/
def sampleInputs : Inputs where
  composition _ := .resolved {} {}
  dataVolumes _ := .resolved []
  externalSecrets _ := ⟨[], none⟩
  skillFiles _ := some []
  runnerPod _ := none
  actorBound _ := false
  generate _ := .failed
  archiveFault := none
  standingSpec _ := none
  turnSession _ := none
  streamTurn _ _ := none

def sampleWorld : World where
  clock := 100 * second
  cluster := {}
  inputs := sampleInputs
  runs := .empty
  jobs := .empty
  configMaps := .empty
  archive := .empty
  nextUID := 1
  nextVersion := 1
  created := []

theorem sampleWorld_initial : sampleWorld.Initial :=
  ⟨rfl, rfl, rfl, by decide⟩

instance decidableExistsSome {α : Type} {value : Option α} {P : α → Prop} [DecidablePred P] :
    Decidable (∃ a, value = some a ∧ P a) :=
  inferInstanceAs (Decidable (∃ a ∈ value, P a))

/-- A worker is handed a key, makes some calls, and returns or crashes. -/
def work (key : Key) (calls : Nat) : List (Move Key Act) :=
  .start key :: List.replicate calls (.advance key) ++ [.stop key]

/-- A run is prepared, its Job is created by a worker that crashes, and the Job is deleted. -/
def crashAfterCreate : List (Move Key Act) :=
  .act (.createRun ⟨"ns", "x"⟩ {} {}) :: work ⟨"ns", "x"⟩ 14 ++ work ⟨"ns", "x"⟩ 16 ++
    [.act (.removeJob ⟨"ns", "x-harness-h"⟩)]

theorem single_execution_crash :
    ∃ cfg w' after, (controllers sampleReconciler).Reaches Initial (fun _ _ => True) cfg ∧
      (cfg.server.createdFor 1).length = 1 ∧
      (reconcile sampleReconciler ⟨"ns", "x"⟩).run serve cfg.server = (.ok (), w') ∧
      w'.created = cfg.server.created ∧ w'.runs.get ⟨"ns", "x"⟩ = some after ∧
      after.status.phase = .failed := by
  obtain ⟨cfg, reaches, single, run, found, present, unheld, open_, attempted, gone⟩ :
      ∃ cfg ∈ (controllers sampleReconciler).play (fun _ _ => true) crashAfterCreate
        (idle sampleWorld), (cfg.server.createdFor 1).length = 1 ∧
        ∃ run ∈ cfg.server.runs.get ⟨"ns", "x"⟩, run.deleting = false ∧
          agentRunInterruptDuplicateHold run = none ∧ agentRunPhaseTerminal run.status.phase = false ∧
          run.status.launch.jobCreateAttemptedAt.isSome ∧
          ∀ key ∈ recordedJobKey "ns" run.status.launch, cfg.server.jobs.get key = none := by
    decide +kernel
  have reached := Machine.Reaches.play (Reaches.idle sampleWorld_initial) (fun _ _ _ => trivial) reaches
  obtain ⟨w', after, ran, created, stored, -, failed⟩ :=
    (single_execution reached).2.2 ⟨"ns", "x"⟩ run found present unheld open_ attempted
      fun key job at_key there => by simp [gone key at_key] at there
  exact ⟨cfg, w', after, reached, single, ran, created, stored, failed⟩

end Sample

end AnvilAgents
