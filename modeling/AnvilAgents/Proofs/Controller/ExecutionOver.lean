import AnvilAgents.Proofs.Controller.AppendOnly
import AnvilAgents.Proofs.Controller.Evidence

/-! Whether a Job outlives the record of its run: interruptions leave it running, and nothing else does. -/

namespace AnvilAgents

open Conc System World Know

variable {w w' : World} {K : Know} {c : Call} {r : AgentRunReconciler}

/-- No Job that the run controls is running. -/
def Stopped (w : World) (run : AgentRun) : Prop :=
  ∀ jobKey job, w.jobs.get jobKey = some job → agentRunControllerOwnerMatches job.owner run = true →
    job.running = false

/-- A run in a final phase holds no live Job, under whatever name. -/
def NoLiveJob (w : World) : Prop :=
  ∀ key run, w.runs.get key = some run → agentRunPhaseTerminal run.status.phase = true → Stopped w run

/--
The steps at which an interruption leaves nothing running.

A patch that writes an interruption finds that no Job of the run is running, and no pass of that run is
in flight except the one that patches.
-/
def InterruptsStopped (cfg : Config Key Call Reply World) : Move Key Act → Prop
  | .advance pid => ∀ began seen lock read new run,
    Calling cfg pid began seen (.patchStatus lock read new) →
    agentRunStatusShowsInterruptDuplicate new.status = true →
    cfg.server.runs.get new.key = some run →
    (new.key = pid ∨ cfg.procs new.key = none) ∧ Stopped cfg.server run
  | _ => True

/-- A condition that was set is found again by its type and reason. -/
theorem setStatusCondition_any (conditions : List Condition) (new : Condition) :
    (setStatusCondition conditions new).any (fun condition =>
      condition.type = new.type && condition.reason = new.reason) = true := by
  induction conditions with
  | nil => simp [setStatusCondition]
  | cons old rest ih =>
    simp only [setStatusCondition]
    split
    · simp
    · rw [List.any_cons, ih, Bool.or_true]

/-- A status that reports an interruption shows it. -/
theorem setReady_shows (status : AgentRunStatus) (generation now : Nat) (message : String) :
    agentRunStatusShowsInterruptDuplicate
      (status.setReady generation now false "InterruptDuplicate" message) = true := by
  rw [agentRunStatusShowsInterruptDuplicate, Bool.or_eq_true]
  exact .inr (setStatusCondition_any status.conditions _)

variable {lock : Bool} {read new : AgentRun}

theorem HoldPatch.shows (patch : HoldPatch K lock read new) :
    agentRunStatusShowsInterruptDuplicate new.status = true := by
  obtain ⟨requester, now, rfl⟩ := patch.status
  exact setReady_shows _ _ _ _

theorem PeerPatch.shows (patch : PeerPatch K lock read new) :
    agentRunStatusShowsInterruptDuplicate new.status = true := by
  obtain ⟨summary, now, rfl⟩ := patch.status
  exact setReady_shows _ _ _ _

/-- Where interruptions leave nothing running, they hit no run with a pass in flight. -/
theorem interruptsStopped_apart : PeersApart r InterruptsStopped := by
  intro cfg pid began seen lock read new run stops calling other patch found
  exact (stops began seen lock read new run calling patch.shows found).1.resolve_left other

variable {pid : Key} {began : World}

/-- A patch that brings a run into a final phase finds nothing of it running. -/
theorem PassSeen.stopped {read new stored : AgentRun} (sound : Sound w) (linked : Linked w)
    (pass : PassSound w pid began K) (seen : PassSeen w K)
    (permitted : K.permits (.patchStatus lock read new)) (found : w.runs.get new.key = some stored)
    (interrupts : agentRunStatusShowsInterruptDuplicate new.status = true → Stopped w stored)
    (open_ : agentRunPhaseTerminal stored.status.phase = false)
    (final : agentRunPhaseTerminal (mergeStatus read.status new.status stored.status).phase = true)
    :
    Stopped w stored := by
  have sent : new.status.phase ≠ read.status.phase ∧ agentRunPhaseTerminal new.status.phase = true := by
    simp only [mergeStatus, MergePatch.field] at final
    split at final
    · simp [open_] at final
    · exact ⟨‹_›, final⟩
  by_cases own : new.key = K.key
  · rw [permits, if_pos own] at permitted
    rcases permitted with ⟨patch, -⟩ | patch | patch | patch
    · -- The outcome of an execution is written on evidence that it is over.
      obtain ⟨run, found', uid, -⟩ := pass.live patch.stage
      rw [own] at found
      cases found.symm.trans found'
      intro jobKey job there matches_
      simp only [agentRunControllerOwnerMatches, Bool.and_eq_true, decide_eq_true_eq] at matches_
      refine seen.ended sound pass linked patch.stage (patch.ended sent.2) there ?_
      rw [owns, ← uid, ← sound.runKey _ _ found]
      exact matches_
    · simp [patch.phase] at sent
    · exact interrupts patch.shows
    · obtain ⟨receipt, rfl⟩ := patch.status
      exact absurd rfl sent.1
  · exact interrupts (permitted.peer own).shows

/-- A Job of a run found after a call was there before, or the pass of that run has created it. -/
theorem PassSound.jobOrigin {key jobKey : Key} {run : AgentRun} {job : Job} (sound : Sound w)
    (pass : PassSound w pid began K) (permitted : K.permits c)
    (found : (serve c w).2.runs.get key = some run) (there : (serve c w).2.jobs.get jobKey = some job)
    (matches_ : agentRunControllerOwnerMatches job.owner run = true) :
    (∃ before, w.jobs.get jobKey = some before ∧ before.owner = job.owner ∧
        (job.running = true → before.running = true)) ∨
      (key = K.key ∧ K.stage = .live ∧ w.runs.get key = some run) := by
  cases serve_job there with
  | same kept => exact .inl ⟨job, kept, rfl, id⟩
  | created own valid absent log =>
    simp only [serve, createJob_runs] at found
    obtain ⟨waits, mine, -⟩ := pass.creating sound permitted
    have live := (pass.pending waits).1
    obtain ⟨run', at_key, uid, -⟩ := pass.live live
    simp only [agentRunControllerOwnerMatches, Bool.and_eq_true, decide_eq_true_eq] at matches_
    have same : run.uid = K.uid :=
      congrArg OwnerReference.uid (Option.some.inj (matches_.2.symm.trans mine))
    exact .inr ⟨sound.runUnique _ _ _ _ found at_key (same.trans uid.symm), live, found⟩
  | @expires old ttl before => exact .inl ⟨old, before, rfl, id⟩

/-- A permitted call leaves no finished run with a live Job. -/
theorem NoLiveJob.serve (sound : Sound w) (linked : Linked w) (pass : PassSound w pid began K)
    (seen : PassSeen w K) (unfinal : PassUnfinal w K) (permitted : K.permits c)
    (interrupts : ∀ lock read new stored, c = .patchStatus lock read new →
      agentRunStatusShowsInterruptDuplicate new.status = true → w.runs.get new.key = some stored →
      Stopped w stored)
    (none : NoLiveJob w) : NoLiveJob (serve c w).2 := by
  intro key run found final jobKey job there matches_
  rcases pass.jobOrigin sound permitted found there matches_ with
    ⟨before, was, owner, runs⟩ | ⟨rfl, live, at_key⟩
  · -- An older Job was not running, or it is the patch that ends the run.
    rw [← owner] at matches_
    have ended (stored : AgentRun) (name : stored.key = run.key) (uid : stored.uid = run.uid)
        (stopped : Stopped w stored) : job.running = false := by
      by_contra running
      have ended := stopped jobKey before was (by
        simpa only [agentRunControllerOwnerMatches, name, uid] using matches_)
      simp [runs (by simpa using running)] at ended
    cases serve_run found with
    | same kept => exact ended run rfl rfl (none key run kept final)
    | @status lock read new stored₀ own at_key meets =>
      subst own
      cases open_ : agentRunPhaseTerminal stored₀.status.phase with
      | true => exact ended stored₀ rfl rfl (none _ stored₀ at_key open_)
      | false =>
        refine ended stored₀ rfl rfl ?_
        exact seen.stopped sound linked pass permitted at_key
          (fun shows => interrupts lock read new stored₀ rfl shows at_key) open_ final
    | @notes read new stored₀ own at_key =>
      exact ended stored₀ rfl rfl (none key stored₀ at_key final)
    | updatedNotes | updatedStatus => exact absurd permitted id
    | created => simp [agentRunPhaseTerminal] at final
  · -- A Job is created only while the phase of the run is not final.
    obtain ⟨run', found', phase⟩ := unfinal live
    cases at_key.symm.trans found'
    simp [phase] at final

/-- The environment leaves no finished run with a live Job. -/
theorem NoLiveJob.act {action : Act} (none : NoLiveJob w) (acted : act action w = some w') :
    NoLiveJob w' := by
  intro key run found final jobKey job there matches_
  obtain ⟨before, was, same, runs⟩ := act_jobOrigin acted there
  rcases act_origin acted found with ⟨stored, at_key, uid, name, status⟩ | ⟨-, -, status, -⟩
  · by_contra running
    have ended := none key stored at_key (status ▸ final) jobKey before was (by
      rw [same.owner]
      simpa only [agentRunControllerOwnerMatches, name, uid] using matches_)
    simp [runs (by simpa using running)] at ended
  · simp [status, agentRunPhaseTerminal] at final

/--
No execution outlives its record where interruptions leave nothing running.

In every run of the controller whose steps all meet `InterruptsStopped`, no state has a run in a final
phase that controls a running Job.
-/
theorem finished_noLiveJob {cfg : Config Key Call Reply World}
    (reached : (controllers r).Reaches Initial InterruptsStopped cfg) :
    NoLiveJob cfg.server := by
  refine (reached.local_invariant (C := reconcileContract) (G := NoLiveJob)
    (L := fun _ _ _ _ => True) (start r) (reconcile_conforms r)
    ?_ ?_ ?_ ?_ ?_ ?_).1
  · exact fun cfg reached _ => (controllers_sound reached.unrestricted).1.honest
  · intro w initial key run found
    simp [initial.runs, Table.empty] at found
  · exact fun _ _ _ _ _ => trivial
  · intro cfg pid began seen request reached stops calling none _ permitted
    obtain ⟨rest, at_pid⟩ := calling
    obtain ⟨sound, passes⟩ := controllers_sound reached.unrestricted
    obtain ⟨linked, saw⟩ := controllers_evidence reached.unrestricted
    refine ⟨none.serve sound linked (passes pid _ at_pid).2 (saw pid _ at_pid)
      (controllers_unfinal interruptsStopped_apart reached pid _ at_pid) permitted ?_, trivial⟩
    rintro lock read new stored rfl shows found
    exact (stops began seen lock read new stored ⟨rest, at_pid⟩ shows found).2
  · exact fun _ _ _ _ _ _ _ _ _ _ _ _ _ _ _ _ => trivial
  · exact fun cfg action w' _ _ acted none => ⟨none.act acted, fun _ _ _ _ => trivial⟩

/-- A check that implies `InterruptsStopped`. -/
def interruptsStopped (cfg : Config Key Call Reply World) : Move Key Act → Bool
  | .advance pid =>
    match cfg.procs pid with
    | some ⟨_, _, .call (.patchStatus _ _ new) _⟩ =>
      !agentRunStatusShowsInterruptDuplicate new.status
    | _ => true
  | _ => true

theorem interruptsStopped_sound (cfg : Config Key Call Reply World) (move : Move Key Act)
    (checked : interruptsStopped cfg move = true) : InterruptsStopped cfg move := by
  cases move with
  | advance pid =>
    rintro began seen lock read new run ⟨rest, at_pid⟩ shows
    simp [interruptsStopped, at_pid, shows] at checked
  | _ => trivial

theorem finished_noLiveJob_succeeded :
    ∃ cfg run job, (controllers sampleReconciler).Reaches Initial InterruptsStopped cfg ∧
      cfg.server.runs.get ⟨"ns", "x"⟩ = some run ∧ run.status.phase = .succeeded ∧
      cfg.server.jobs.get ⟨"ns", "x-harness-h"⟩ = some job ∧
      agentRunControllerOwnerMatches job.owner run = true ∧ job.running = false := by
  obtain ⟨cfg, reaches, run, found, job, there, succeeded, matches_⟩ :
      ∃ cfg ∈ (controllers sampleReconciler).play interruptsStopped launchAndSucceed
        (idle sampleWorld), ∃ run ∈ cfg.server.runs.get ⟨"ns", "x"⟩,
        ∃ job ∈ cfg.server.jobs.get ⟨"ns", "x-harness-h"⟩,
          run.status.phase = .succeeded ∧ agentRunControllerOwnerMatches job.owner run = true := by
    decide +kernel
  have reached := Machine.Reaches.play (Reaches.idle sampleWorld_initial) interruptsStopped_sound reaches
  exact ⟨cfg, run, job, reached, found, succeeded, there, matches_,
    finished_noLiveJob reached _ run found (by simp [succeeded, agentRunPhaseTerminal]) _ job there
      matches_⟩

/-- The interrupted run is failed while the Job recorded for it goes on running. -/
theorem execution_outlives_interruption :
    ∃ cfg run jobKey job, (controllers sampleReconciler).Reaches Initial (fun _ _ => True) cfg ∧
      cfg.server.runs.get ⟨"ns", "x"⟩ = some run ∧ agentRunPhaseTerminal run.status.phase = true ∧
      recordedJobKey "ns" run.status.launch = some jobKey ∧
      cfg.server.jobs.get jobKey = some job ∧
      agentRunControllerOwnerMatches job.owner run = true ∧ job.running = true := by
  simp only [exists_and_left]
  exact Machine.Reaches.played (fun _ _ => true) interruptFirst (Reaches.idle sampleWorld_initial)
    (fun _ _ _ => trivial) (by decide +kernel) fun _ _ facts => facts

/--
No execution escapes its record.

Wherever workers crash, a run that controls a stored Job has its attempt recorded, and the lookup that a
pass over it begins with finds that Job.
-/
theorem controlled_job_found {cfg : Config Key Call Reply World} {key jobKey : Key} {run : AgentRun}
    {job : Job} (reached : (controllers r).Reaches Initial (fun _ _ => True) cfg)
    (found : cfg.server.runs.get key = some run) (there : cfg.server.jobs.get jobKey = some job)
    (controls : agentRunControllerOwnerMatches job.owner run = true) (allowPlannedMissing : Bool) :
    run.status.launch.jobCreateAttemptedAt.isSome ∧
      (existingAgentRunJob run (expectedJobRef run.status.launch) run.status.launch.jobUID
        allowPlannedMissing).run serve cfg.server = (.ok (.found job), cfg.server) := by
  obtain ⟨sound, -⟩ := controllers_sound reached
  obtain ⟨linked, -⟩ := controllers_evidence reached
  obtain rfl := sound.runKey key run found
  obtain ⟨rfl, -, valid⟩ := sound.job jobKey job there
  obtain ⟨made, member, same⟩ := sound.logged _ job there
  have owner : made.owner = some ⟨run.key.name, run.uid⟩ := by
    rw [same.owner]
    simpa [agentRunControllerOwnerMatches] using (Bool.and_eq_true_iff.mp controls).2
  have names := linked _ run made _ found member owner rfl
  have attempted := sound.attempted found member owner rfl
  -- The reference looked up is the planned or the recorded one, and both name the Job.
  obtain ⟨named, at_named⟩ := expectedJobRef_named (sound.launch _ run found) attempted
  have leads : named.resolve run.key.ns = job.key := by
    have expected := recordedJobKey_expected run.key.ns (Option.filter_eq_some_iff.mp at_named).1
    rw [names.recorded (same.key ▸ valid), same.key] at expected
    exact (Option.some.inj expected).symm
  refine ⟨attempted, ?_⟩
  unfold existingAgentRunJob
  rw [at_named]
  dsimp only
  rw [leads, if_neg (by simp [← same.key, names.ns])]
  rcases names.jobUID with unset | set
  · simp [ask, serve, there, controls, unset]
  · simp [ask, serve, there, controls, set, same.uid]

theorem controlled_job_found_succeeded :
    ∃ cfg run job, (controllers sampleReconciler).Reaches Initial (fun _ _ => True) cfg ∧
      (existingAgentRunJob run (expectedJobRef run.status.launch) run.status.launch.jobUID false).run
        serve cfg.server = (.ok (.found job), cfg.server) := by
  obtain ⟨cfg, plays, run, found, job, there, controls⟩ :
      ∃ cfg ∈ (controllers sampleReconciler).play (fun _ _ => true) launchAndSucceed
        (idle sampleWorld), ∃ run ∈ cfg.server.runs.get ⟨"ns", "x"⟩,
        ∃ job ∈ cfg.server.jobs.get ⟨"ns", "x-harness-h"⟩,
          agentRunControllerOwnerMatches job.owner run = true := by
    decide +kernel
  have reached := Machine.Reaches.play (Reaches.idle sampleWorld_initial) (fun _ _ _ => trivial) plays
  exact ⟨cfg, run, job, reached, (controlled_job_found reached found there controls false).2⟩

end AnvilAgents
