import AnvilAgents.Proofs.Controller.Passes
import AnvilAgents.Proofs.Controller.SingleExecution

/-! Whether a finished run is ever rewritten: interruptions do it, and nothing else does. -/

namespace AnvilAgents

open Conc System World

variable {w w' : World} {K : Know} {r : AgentRunReconciler}

/-- A run that has succeeded or failed. -/
def AgentRunStatus.finished (status : AgentRunStatus) : Bool :=
  status.phase = .succeeded || status.phase = .failed

/-- Every finished run that is still there has kept its phase, completion time and decision. -/
def AppendOnly (w w' : World) : Prop :=
  ∀ key run run', w.runs.get key = some run → run.status.finished = true →
    w'.runs.get key = some run' → run'.uid = run.uid →
    run'.status.phase = run.status.phase ∧ run'.status.completedAt = run.status.completedAt ∧
      run'.status.decision = run.status.decision

/--
The steps at which interruptions do no harm.

The first read of a pass does not find its run both finished and held, and the patch that interrupts a
peer finds the peer unfinished and no pass of it in flight.
-/
def InterruptsSafely (cfg : Config Key Call Reply World) : Move Key Act → Prop
  | .advance pid =>
    (∀ began seen run, Calling cfg pid began seen (.getRun pid) →
      (∀ event ∈ seen, event.1 ≠ .getRun pid) → cfg.server.runs.get pid = some run →
      (agentRunInterruptDuplicateHold run).isSome → run.status.finished = false) ∧
    (∀ began seen lock read new run, Calling cfg pid began seen (.patchStatus lock read new) →
      new.key ≠ pid → cfg.server.runs.get new.key = some run →
      run.status.finished = false ∧ cfg.procs new.key = none)
  | _ => True

/-- The stages in which a pass may still write an outcome. -/
def Stage.writes (stage : Stage) : Prop :=
  stage = .live ∨ stage = .held

theorem finished_eq_false {status : AgentRunStatus} :
    status.finished = false ↔ status.phase ≠ .succeeded ∧ status.phase ≠ .failed := by
  simp [AgentRunStatus.finished]

/-- A pass that may still write an outcome is over a run that is not finished. -/
abbrev PassOpen : World → Know → Prop :=
  PassOver Stage.writes fun phase => phase ≠ .succeeded ∧ phase ≠ .failed

/-- A first read that lets a pass write an outcome found no final phase, or a held run. -/
theorem firstStage_writes {run : AgentRun} (writes : (firstStage run).writes)
    (unheld : (agentRunInterruptDuplicateHold run).isSome → run.status.finished = false) :
    run.status.finished = false := by
  simp only [Stage.writes, firstStage] at writes
  split at writes
  next => simp at writes
  next =>
    split at writes
    next held => exact unheld held
    next =>
      split at writes
      next => simp at writes
      next unfinal => cases phase : run.status.phase <;> simp_all [AgentRunStatus.finished, agentRunPhaseTerminal]

/-- Where interruptions do no harm, a pass that may still write is over an unfinished run. -/
theorem controllers_open {cfg : Config Key Call Reply World}
    (reached : (controllers r).Reaches Initial InterruptsSafely cfg) :
    ∀ pid p, cfg.procs pid = some p →
      PassOpen cfg.server (reconcileContract.know (Know.start r pid) p.seen) := by
  refine controllers_over ?_ ?_ ?_ ?_ reached
  · rintro stage (rfl | rfl) <;> simp
  · intro phase unfinal
    cases phase <;> simp_all [agentRunPhaseTerminal]
  · intro cfg pid began seen run safe calling unread found writes
    exact finished_eq_false.mp (firstStage_writes writes (safe.1 began seen run calling unread found))
  · intro cfg pid began seen lock read new run safe calling other _ found
    exact (safe.2 began seen lock read new run calling other found).2

/-- What a pass may still write to its run once that has finished: the receipt of its archive. -/
theorem PassOpen.archives {lock : Bool} {read new stored : AgentRun} (open_ : PassOpen w K)
    (own : new.key = K.key) (permitted : K.permits (.patchStatus lock read new))
    (found : w.runs.get K.key = some stored) (finished : stored.status.finished = true) :
    ∃ receipt, new = { read with status := { read.status with archive := receipt } } := by
  have writing (stage : K.stage = .live ∨ K.stage = .held) : False := by
    obtain ⟨run, found', unfinished⟩ := open_ stage
    cases found.symm.trans found'
    simp [finished_eq_false.mpr unfinished] at finished
  rw [Know.permits, if_pos own] at permitted
  rcases permitted with ⟨patch, -⟩ | patch | patch | patch
  · exact (writing (.inl patch.stage)).elim
  · exact (writing (.inl patch.stage)).elim
  · exact (writing patch.stage.symm).elim
  · exact patch.status

/--
Finished runs are append-only where interruptions do no harm.

In every run of the controller whose steps all meet `InterruptsSafely`, no step changes the phase, the
completion time or the decision of a run that has succeeded or failed.
-/
theorem finished_appendOnly {cfg cfg' : Config Key Call Reply World} {move : Move Key Act}
    (reached : (controllers r).Reaches Initial InterruptsSafely cfg)
    (safe : InterruptsSafely cfg move) (stepped : (controllers r).next cfg move = some cfg') :
    AppendOnly cfg.server cfg'.server := by
  have always := controllers_sound reached.unrestricted
  intro key run run' found finished found' uid
  cases next_cases stepped with
  | start | stop => cases found.symm.trans found'; exact ⟨rfl, rfl, rfl⟩
  | act action w' acted =>
    rcases act_origin acted found' with ⟨before, was, -, -, status⟩ | ⟨-, new, -⟩
    · cases found.symm.trans was
      rw [status]
      exact ⟨rfl, rfl, rfl⟩
    · exact absurd (uid.symm.trans new) (Nat.ne_of_lt (always.1.runUID key run found).2)
  | advance pid began seen request rest at_pid =>
    obtain ⟨⟨permitted, -⟩, pass⟩ := always.2 pid _ at_pid
    have open_ := controllers_open reached pid _ at_pid
    cases serve_run found' with
    | same kept =>
      cases found.symm.trans kept
      exact ⟨rfl, rfl, rfl⟩
    | @status lock read new stored₀ own before meets =>
      cases found.symm.trans before
      by_cases mine : new.key = pid
      · have at_key := know_key (r := r) pid seen
        obtain ⟨receipt, rfl⟩ := open_.archives (mine.trans at_key.symm) permitted
          (by rw [at_key, ← mine, own]; exact found) finished
        simp [mergeStatus]
      · have peer := (safe.2 began seen lock read new run ⟨rest, at_pid⟩ mine (own ▸ found)).1
        simp [finished] at peer
    | notes own before =>
      cases found.symm.trans before
      exact ⟨rfl, rfl, rfl⟩
    | updatedNotes | updatedStatus => exact absurd permitted id
    | created named absent next => cases found.symm.trans absent

/-- A check that implies `InterruptsSafely`. -/
def interruptsSafely (cfg : Config Key Call Reply World) : Move Key Act → Bool
  | .advance pid =>
    match cfg.procs pid with
    | some ⟨_, _, .call (.getRun _) _⟩ => (cfg.server.runs.get pid).all fun run =>
        (agentRunInterruptDuplicateHold run).isNone
    | some ⟨_, _, .call (.patchStatus _ _ new) _⟩ => new.key = pid
    | _ => true
  | _ => true

theorem interruptsSafely_sound (cfg : Config Key Call Reply World) (move : Move Key Act)
    (checked : interruptsSafely cfg move = true) : InterruptsSafely cfg move := by
  cases move with
  | advance pid =>
    refine ⟨?_, ?_⟩
    · rintro began seen run ⟨rest, at_pid⟩ - found held
      simp only [interruptsSafely, at_pid, found, Option.all_some, Option.isNone_iff_eq_none] at checked
      simp [checked] at held
    · rintro began seen lock read new run ⟨rest, at_pid⟩ other
      simp [interruptsSafely, at_pid, other] at checked
  | _ => trivial

/-- A run is launched, its Job completes, the run succeeds, and a worker is handed it once more. -/
def launchAndSucceed : List (Move Key Act) :=
  .act (.createRun ⟨"ns", "x"⟩ {} {}) :: work ⟨"ns", "x"⟩ 14 ++ work ⟨"ns", "x"⟩ 18 ++
    .act (.finishJob ⟨"ns", "x-harness-h"⟩ .complete "") :: work ⟨"ns", "x"⟩ 5 ++ [.start ⟨"ns", "x"⟩]

theorem finished_appendOnly_succeeded :
    ∃ cfg cfg' run, (controllers sampleReconciler).Reaches Initial InterruptsSafely cfg ∧
      (controllers sampleReconciler).next cfg (.advance ⟨"ns", "x"⟩) = some cfg' ∧
      cfg.server.runs.get ⟨"ns", "x"⟩ = some run ∧ run.status.finished = true ∧
      AppendOnly cfg.server cfg'.server := by
  obtain ⟨cfg, reaches, checked, cfg', stepped, run, found, finished⟩ :
      ∃ cfg ∈ (controllers sampleReconciler).play interruptsSafely launchAndSucceed
        (idle sampleWorld), interruptsSafely cfg (.advance ⟨"ns", "x"⟩) = true ∧
        ∃ cfg' ∈ (controllers sampleReconciler).next cfg (.advance ⟨"ns", "x"⟩),
        ∃ run ∈ cfg.server.runs.get ⟨"ns", "x"⟩, run.status.finished = true := by
    decide +kernel
  have reached := Machine.Reaches.play (Reaches.idle sampleWorld_initial) interruptsSafely_sound reaches
  exact ⟨cfg, cfg', run, reached, stepped, found, finished,
    finished_appendOnly reached (interruptsSafely_sound _ _ checked) stepped⟩

/-- A Pod whose log says that other runs do the same work. -/
def duplicatePod : RunnerPod where
  ref := { name := "pod" }
  uid := 9
  logs := some { text := "", reports := [{ action := "interruptDuplicate", summary := "same" }] }

/-- Two runs of one source execute, and the second one's log interrupts the first. -/
def interruptFirst : List (Move Key Act) :=
  [.act (.createRun ⟨"ns", "x"⟩ {} {}), .act (.createRun ⟨"ns", "y"⟩ {} {})] ++
    work ⟨"ns", "x"⟩ 14 ++ work ⟨"ns", "x"⟩ 18 ++ work ⟨"ns", "y"⟩ 14 ++ work ⟨"ns", "y"⟩ 18 ++
    .act (.setInputs { sampleInputs with
      runnerPod := fun uid => if uid = 6 then some duplicatePod else none }) :: work ⟨"ns", "y"⟩ 10

/-- The interrupted run is failed; ten seconds later its own pass fails it again, as of then. -/
theorem finished_rewritten :
    ∃ cfg cfg', (controllers sampleReconciler).Reaches Initial (fun _ _ => True) cfg ∧
      (controllers sampleReconciler).next cfg (.advance ⟨"ns", "x"⟩) = some cfg' ∧
      ¬ AppendOnly cfg.server cfg'.server := by
  obtain ⟨cfg, reaches, cfg', stepped, run, found, run', found', finished, uid, moved⟩ :
      ∃ cfg ∈ (controllers sampleReconciler).play (fun _ _ => true)
        (interruptFirst ++ [.act (.tick (10 * second)), .start ⟨"ns", "x"⟩, .advance ⟨"ns", "x"⟩,
          .advance ⟨"ns", "x"⟩]) (idle sampleWorld),
        ∃ cfg' ∈ (controllers sampleReconciler).next cfg (.advance ⟨"ns", "x"⟩),
        ∃ run ∈ cfg.server.runs.get ⟨"ns", "x"⟩, ∃ run' ∈ cfg'.server.runs.get ⟨"ns", "x"⟩,
          run.status.finished = true ∧ run'.uid = run.uid ∧
            run'.status.completedAt ≠ run.status.completedAt := by
    decide +kernel
  have reached := Machine.Reaches.play (Reaches.idle sampleWorld_initial) (fun _ _ _ => trivial) reaches
  exact ⟨cfg, cfg', reached, stepped, fun kept =>
    moved (kept ⟨"ns", "x"⟩ run run' found finished found' uid).2.1⟩

end AnvilAgents
