import AnvilAgents.Proofs.Controller.Soundness

/-! How the stage of a pass and the phase of its run move together. -/

namespace AnvilAgents

open Conc Know List World

variable {w w' : World} {K : Know} {c : Call} {r : AgentRunReconciler}

/-- A patch of another run's status interrupts it. -/
theorem Know.permits.peer {lock : Bool} {read new : AgentRun}
    (permitted : K.permits (.patchStatus lock read new)) (other : new.key ≠ K.key) :
    PeerPatch K lock read new := by
  rwa [permits, if_neg other] at permitted

/-- A call that patches no status leaves every phase as it is. -/
theorem phase_stays {key : Key} (permitted : K.permits c)
    (unpatched : ∀ lock read new, c = .patchStatus lock read new → new.key ≠ key)
    (undeleted : c ≠ .deleteRun key) :
    ∀ run, w.runs.get key = some run →
      ∃ run', (serve c w).2.runs.get key = some run' ∧ run'.status.phase = run.status.phase := by
  intro run found
  have silent : ¬ c.writesStatus key := by
    intro writes
    cases c with
    | patchStatus lock read new => exact unpatched lock read new rfl writes
    | updateStatus new => exact permitted
    | deleteRun dropped => exact undeleted (congrArg _ writes)
    | _ => exact writes
  obtain ⟨run', after, -, status⟩ := status_stays silent found
  exact ⟨run', after, by rw [status]⟩

theorem firstStage_begun (run : AgentRun) : firstStage run ≠ .start := by
  unfold firstStage
  split
  · simp
  · split
    · simp
    · split <;> simp

theorem Know.readOwn_stage (K : Know) (run : AgentRun) : (K.readOwn run).stage ≠ .start := by
  unfold readOwn
  split
  · exact firstStage_begun run
  · assumption

/-- A pass is at its start only as long as it has not looked for its run. -/
theorem Know.learn_start {reply : Reply c} (start : (K.learn c reply).stage = .start) :
    K.stage = .start ∧ c ≠ .getRun K.key := by
  have learnt := K.learnt c reply
  generalize K.learn c reply = K' at learnt start
  cases learnt with
  | nothing other => exact ⟨start, other⟩
  | gone => cases start
  | read run => exact absurd start (K.readOwn_stage run)
  | peer run other => exact ⟨start, by simpa using other⟩
  | patched => cases start
  | _ => exact ⟨start, by simp⟩

/-- Learning changes neither which run a pass is about nor its limit. -/
theorem Know.learn_self (K : Know) (c : Call) (reply : Reply c) :
    (K.learn c reply).key = K.key ∧ (K.learn c reply).limit = K.limit := by
  have learnt := K.learnt c reply
  generalize K.learn c reply = K' at learnt ⊢
  cases learnt with
  | read run =>
    unfold readOwn
    split <;> exact ⟨rfl, rfl⟩
  | _ => exact ⟨rfl, rfl⟩

/-- A pass never forgets its run, nor the limit the operator was started with. -/
theorem know_self (pid : Key) (seen : List (Event Call Reply)) :
    (reconcileContract.know (start r pid) seen).key = pid ∧
      (reconcileContract.know (start r pid) seen).limit = r.applicationMaxConcurrentRuns := by
  induction seen using reverseRecOn with
  | nil => exact ⟨rfl, rfl⟩
  | append_singleton seen event ih =>
    rw [Contract.know_append]
    obtain ⟨key, limit⟩ := learn_self (reconcileContract.know (start r pid) seen) event.1 event.2
    exact ⟨key.trans ih.1, limit.trans ih.2⟩

theorem know_key (pid : Key) (seen : List (Event Call Reply)) :
    (reconcileContract.know (start r pid) seen).key = pid :=
  (know_self pid seen).1

/-- A pass still at its start has not looked for its run yet. -/
theorem know_start {pid : Key} {seen : List (Event Call Reply)}
    (start : (reconcileContract.know (start r pid) seen).stage = .start) :
    ∀ event ∈ seen, event.1 ≠ .getRun pid := by
  induction seen using reverseRecOn with
  | nil => simp
  | append_singleton seen event ih =>
    rw [Contract.know_append] at start
    obtain ⟨earlier, other⟩ := learn_start start
    rw [know_key] at other
    intro event' member
    rcases mem_append.mp member with before | last
    · exact ih earlier event' before
    · cases mem_singleton.mp last
      exact other

variable {pid : Key} {began : World}

/-- A pass deletes a run only when it may no longer write an outcome. -/
theorem PassSound.undeleted (pass : PassSound w pid began K) (permitted : K.permits c) {key : Key}
    (elsewhere : key ≠ K.key ∨ K.stage ≠ .closing) : c ≠ .deleteRun key := by
  rintro rfl
  obtain ⟨stage, base, read, own, -⟩ := permitted
  rcases elsewhere with other | open_
  · exact other (own.symm.trans (pass.baseKey base read))
  · exact open_ stage

/-- While a pass is in one of these stages, the phase of its run is one of these. -/
def PassOver (stages : Stage → Prop) (phases : AgentRunPhase → Prop) (w : World) (K : Know) : Prop :=
  stages K.stage → ∃ run, w.runs.get K.key = some run ∧ phases run.status.phase

variable {good : Config Key Call Reply World → Move Key Act → Prop}
  {cfg : Config Key Call Reply World}

section Over

variable {stages : Stage → Prop} {phases : AgentRunPhase → Prop}

/-- The phase of a run stays under what other writers do to it. -/
theorem PassOver.stays {K' : Know} (ended : PassOver stages phases w K) (key : K'.key = K.key)
    (stage : K'.stage = K.stage)
    (stays : stages K.stage → ∀ run, w.runs.get K.key = some run →
      ∃ run', w'.runs.get K.key = some run' ∧ run'.status.phase = run.status.phase) :
    PassOver stages phases w' K' := by
  intro open_
  rw [stage] at open_
  obtain ⟨run, found, phase⟩ := ended open_
  obtain ⟨run', found', same⟩ := stays open_ run found
  exact ⟨run', by rw [key]; exact found', same ▸ phase⟩

variable (writing : ∀ stage, stages stage → stage ≠ .start ∧ stage ≠ .closing)
  (unfinal : ∀ phase, agentRunPhaseTerminal phase = false → phases phase)

include writing unfinal

/-- The phase stays among those allowed through the pass's own calls. -/
theorem PassOver.learn (pass : PassSound w pid began K) (ended : PassOver stages phases w K)
    (permitted : K.permits c)
    (first : K.stage = .start → c = .getRun K.key → ∀ run, w.runs.get K.key = some run →
      stages (firstStage run) → phases run.status.phase) :
    PassOver stages phases (serve c w).2 (K.learn c (serve c w).1) := by
  have closed (K' : Know) (stage : K'.stage = .closing) : PassOver stages phases (serve c w).2 K' :=
    fun open_ => absurd stage (writing _ open_).2
  by_cases aside : K.looksAside c
  · have alike := aside.alike (serve c w).1
    refine ended.stays alike.key alike.stage fun open_ => ?_
    refine phase_stays permitted ?_ (pass.undeleted permitted (.inr (writing _ open_).2))
    rintro lock read new rfl
    exact aside
  · cases c with
    | getRun key =>
      obtain rfl : key = K.key := not_not.mp aside
      simp only [serve] at closed ⊢
      cases found : w.runs.get K.key with
      | none =>
        simp only [learn, if_true]
        exact closed _ rfl
      | some run =>
        simp only [learn, readOwn, if_true]
        split
        -- The first read decides what the pass may write.
        next start => exact fun open_ => ⟨run, found, first start rfl run found open_⟩
        next => exact ended
    | patchStatus lock read new =>
      have own : new.key = K.key := not_not.mp aside
      simp only [serve] at closed ⊢
      -- The patch ends the pass unless it stored the attempt.
      have ends (K' : Know) (ended : K' = K.close) :
          PassOver stages phases (w.patchStatus lock read new).2 K' := closed K' (by rw [ended, close_stage])
      cases records : recordsAttempt read new with
      | false => exact ends _ (by simp [learn, own, records])
      | true =>
        cases reply : (w.patchStatus lock read new).1 with
        | ok run =>
          rw [learn_attempt records own]
          intro open_
          have patch := (ownPatch_stage own permitted).2.2 records
          obtain ⟨stored, found, -, -, -, status, after⟩ := patchStatus_reply reply
          obtain ⟨current, found', phase⟩ := ended open_
          rw [own] at found
          cases found.symm.trans found'
          refine ⟨run, own ▸ after, ?_⟩
          simp only [status, mergeStatus, MergePatch.field]
          split
          · exact phase
          · exact unfinal _ patch.phase
        | _ => exact ends _ (by simp [learn, own, records])
    | _ => exact absurd trivial aside

/-- No pass patches a run that has a pass of its own. -/
abbrev PeersApart (r : AgentRunReconciler) (good : Config Key Call Reply World → Move Key Act → Prop) :
    Prop :=
  ∀ {cfg pid began seen lock read new run}, good cfg (.advance pid) →
    System.Calling cfg pid began seen (.patchStatus lock read new) → new.key ≠ pid →
    PeerPatch (reconcileContract.know (start r pid) seen) lock read new →
    cfg.server.runs.get new.key = some run → cfg.procs new.key = none

/-- The phase stays among those allowed in every reachable state, if peers keep their hands off. -/
theorem controllers_over (first : ∀ {cfg pid began seen run}, good cfg (.advance pid) →
      System.Calling cfg pid began seen (.getRun pid) → (∀ event ∈ seen, event.1 ≠ .getRun pid) →
      cfg.server.runs.get pid = some run → stages (firstStage run) → phases run.status.phase)
    (apart : PeersApart r good) (reached : (controllers r).Reaches Initial good cfg) :
    ∀ pid p, cfg.procs pid = some p →
      PassOver stages phases cfg.server (reconcileContract.know (start r pid) p.seen) := by
  have always {cfg : Config Key Call Reply World}
      (reached : (controllers r).Reaches Initial good cfg) :=
    controllers_sound reached.unrestricted
  refine fun pid p found => (((reached.local_invariant (C := reconcileContract) (G := fun _ => True)
    (L := fun w _ _ K => PassOver stages phases w K) (start r)
    (reconcile_conforms r) ?_ ?_ ?_ ?_ ?_ ?_).2 pid p found).2)
  · exact fun cfg reached _ => (always reached).1.honest
  · exact fun _ _ => trivial
  · intro cfg pid _ _ _ open_
    exact absurd rfl (writing _ open_).1
  · intro cfg pid began seen request reached meets calling _ ended permitted
    obtain ⟨rest, at_pid⟩ := calling
    have pass := ((always reached).2 pid _ at_pid).2
    refine ⟨trivial, ended.learn writing unfinal pass permitted ?_⟩
    intro start call run stored
    rw [know_key] at call stored
    subst call
    exact first meets ⟨rest, at_pid⟩ (know_start start) stored
  · intro cfg pid began seen request other p reached meets calling _ _ permitted distinct busy ended
    obtain ⟨rest, at_pid⟩ := calling
    have pass := ((always reached).2 pid _ at_pid).2
    have apart' : (reconcileContract.know (start r other) p.seen).key ≠
        (reconcileContract.know (start r pid) seen).key := by
      rwa [know_key, know_key]
    refine ended.stays rfl rfl fun _ => phase_stays permitted ?_ (pass.undeleted permitted (.inl apart'))
    -- A run with a pass in flight is not patched by another pass.
    rintro lock read new rfl same
    have other_ : new.key ≠ (reconcileContract.know (start r pid) seen).key := same ▸ apart'
    obtain ⟨run, stored, -⟩ := ended ‹_›
    rw [know_key] at stored same
    subst same
    cases busy.symm.trans (apart meets ⟨rest, at_pid⟩ distinct (permits.peer permitted other_) stored)
  · intro cfg action w' _ _ acted _
    refine ⟨trivial, fun pid p _ ended => ended.stays rfl rfl fun _ run found => ?_⟩
    obtain ⟨run', found', -, status⟩ := act_stays acted found
    exact ⟨run', found', by rw [status]⟩

end Over

/-- A pass is live only over a run in a phase that is not final. -/
theorem firstStage_live {run : AgentRun} (live : firstStage run = .live) :
    agentRunPhaseTerminal run.status.phase = false := by
  unfold firstStage at live
  split at live
  next => cases live
  next =>
    split at live
    next => cases live
    next =>
      split at live
      next => cases live
      next unfinal => simpa using unfinal

/-- A pass that may create a Job is over a run in a phase that is not final. -/
abbrev PassUnfinal : World → Know → Prop :=
  PassOver (· = .live) (agentRunPhaseTerminal · = false)

/-- A pass that may create a Job stays over such a run, if peers keep their hands off. -/
theorem controllers_unfinal (apart : PeersApart r good)
    (reached : (controllers r).Reaches Initial good cfg) :
    ∀ pid p, cfg.procs pid = some p →
      PassUnfinal cfg.server (reconcileContract.know (start r pid) p.seen) := by
  refine controllers_over ?_ ?_ ?_ apart reached
  · rintro stage rfl
    simp
  · exact fun phase unfinal => unfinal
  · exact fun _ _ _ _ live => firstStage_live live

end AnvilAgents
