import AnvilAgents.Proofs.Standing.ArchiveFidelity
import AnvilAgents.Proofs.Controller.AppendOnly

/-! When the reply of the replica that claimed a turn is stored, and stays. -/

namespace AnvilAgents

open Conc Text World System Option DriveKnow

variable {w w' : World} {D : DriveKnow} {c : Call} {key pid : Key} {began : World}
  {r : AgentRunReconciler} {chat : Chat} {cfg cfg' : Config Worker Call Reply World}
  {replica : Replica}

/-- A replica has claimed the turn of a run and not yet tried to record the reply. -/
def Claiming (chat : Chat) (cfg : Config Worker Call Reply World) (replica : Replica) (key : Key)
    (run : AgentRun) : Prop :=
  ∃ p, cfg.procs (.drive replica key) = some p ∧
    (driveKnow chat replica key p.seen).claimed = some run ∧
    (driveKnow chat replica key p.seen).updated = none

/--
The steps at which replies are safe.

Nobody but the claiming replica writes the run of a claimed turn until the reply is recorded, no
reconcile of the run is in flight at that moment, and interruptions do no harm: no reconcile first
reads a run that is both finished and held, and a peer is interrupted only while it is unfinished and
not being reconciled.
-/
structure AnswersSafely (chat : Chat) (cfg : Config Worker Call Reply World) (worker : Worker)
    (request : Call) (seen : List (Event Call Reply)) : Prop where
  claimed : ∀ replica key run, Claiming chat cfg replica key run → worker ≠ .drive replica key →
    (serve request cfg.server).2.runs.get key = cfg.server.runs.get key
  answered : ∀ new, request = .updateStatus new → cfg.procs (.controller new.key) = none
  first : ∀ pid run, worker = .controller pid → request = .getRun pid →
    (∀ event ∈ seen, event.1 ≠ .getRun pid) → cfg.server.runs.get pid = some run →
    (agentRunInterruptDuplicateHold run).isSome → run.status.finished = false
  peer : ∀ pid lock read new run, worker = .controller pid → request = .patchStatus lock read new →
    new.key ≠ pid → cfg.server.runs.get new.key = some run →
    run.status.finished = false ∧ cfg.procs (.controller new.key) = none

/-- The condition on a step; the environment does not write the run of a claimed turn either. -/
def ReplySafe (chat : Chat) (cfg : Config Worker Call Reply World) : Move Worker Act → Prop
  | .advance worker => ∀ began seen request, Calling cfg worker began seen request →
    AnswersSafely chat cfg worker request seen
  | .act action => ∀ w', act action cfg.server = some w' → ∀ replica key run,
    Claiming chat cfg replica key run → w'.runs.get key = cfg.server.runs.get key
  | _ => True

variable {move : Move Worker Act}

/-- Only the update itself ends the time between claim and update. -/
theorem DriveKnow.learn_updated {reply : Reply c} (pending : (D.learn c reply).updated = none) :
    D.updated = none ∧ ∀ new, c ≠ .updateStatus new := by
  cases c with
  | updateStatus new => cases reply <;> simp [learn] at pending
  | updateNotes | streamTurn => cases reply <;> exact ⟨pending, by simp⟩
  | _ => exact ⟨pending, by simp⟩

/-- A run found after a step was there before under the same UID, or its UID is new. -/
theorem step_origin {after : AgentRun}
    (stepped : StepCases (platform r chat) cfg move cfg')
    (found : cfg'.server.runs.get key = some after) :
    (∃ before, cfg.server.runs.get key = some before ∧ before.uid = after.uid) ∨
      after.uid = cfg.server.nextUID := by
  cases stepped with
  | start | stop => exact .inl ⟨after, found, rfl⟩
  | act action s acted =>
    rcases act_origin acted found with ⟨before, was, uid, -⟩ | ⟨-, uid, -⟩
    · exact .inl ⟨before, was, uid⟩
    · exact .inr uid
  | advance mover began seen request rest calling =>
    rcases serve_origin found with ⟨before, was, uid, -⟩ | ⟨-, uid, -⟩
    · exact .inl ⟨before, was, uid⟩
    · exact .inr uid

/-- Counters of the server do not go back. -/
theorem step_uids (stepped : StepCases (platform r chat) cfg move cfg') :
    cfg.server.nextUID ≤ cfg'.server.nextUID := by
  cases stepped with
  | start | stop => exact Nat.le_refl _
  | act action s acted => exact (act_frame acted).2.2.1
  | advance mover began seen request rest calling => exact (serve_counters request cfg.server).1

section Safe

variable (reached : (platform r chat).Reaches Initial (ReplySafe chat) cfg)

include reached

/-- What others do leaves a reconcile over an unfinished run, where replies are safe. -/
theorem PassOpen.elsewhere {worker : Worker} {seen : List (Event Call Reply)}
    {p : Proc Call Reply World} (safe : AnswersSafely chat cfg worker c seen)
    (calling : Calling cfg worker began seen c) (distinct : Worker.controller key ≠ worker)
    (busy : cfg.procs (.controller key) = some p)
    (open_ : PassOpen cfg.server (passKnow r key p.seen)) :
    PassOpen (serve c cfg.server).2 (passKnow r key p.seen) := by
  have at_key : (passKnow r key p.seen).key = key := know_key key p.seen
  refine open_.stays rfl rfl fun _ run found => ?_
  rw [at_key] at found ⊢
  have silent : ¬ c.writesStatus key := by
    intro writes
    cases c with
    | updateStatus new =>
      obtain rfl : new.key = key := writes
      cases busy.symm.trans (safe.answered new rfl)
    | patchStatus lock read new =>
      obtain rfl : new.key = key := writes
      cases worker with
      | drive replica driven => exact drive_permits reached calling
      | controller pid =>
        have other : new.key ≠ pid := by
          rintro rfl
          exact distinct rfl
        cases busy.symm.trans (safe.peer pid lock read new run rfl rfl other found).2
    | deleteRun dropped =>
      obtain rfl : dropped = key := writes
      cases worker with
      | drive replica driven => exact drive_permits reached calling
      | controller pid =>
        have permitted := pass_permits reached calling
        obtain ⟨rest, moves⟩ := calling
        refine (pass_sound reached moves).undeleted permitted (.inl fun same => ?_) rfl
        exact distinct (congrArg _ (same.trans (know_key pid seen)))
    | _ => exact writes
  obtain ⟨run', after, -, status⟩ := status_stays silent found
  exact ⟨run', after, by rw [status]⟩

/-- Where replies are safe, a reconcile that may still write is over an unfinished run. -/
theorem platform_open :
    ∀ key p, cfg.procs (.controller key) = some p → PassOpen cfg.server (passKnow r key p.seen) := by
  have writing (stage : Stage) (writes : stage.writes) : stage ≠ .start ∧ stage ≠ .closing := by
    rcases writes with rfl | rfl <;> simp
  have unfinal (phase : AgentRunPhase) (open_ : agentRunPhaseTerminal phase = false) :
      phase ≠ .succeeded ∧ phase ≠ .failed := by
    cases phase <;> simp_all [agentRunPhaseTerminal]
  refine (platform_passes (G := fun _ => True) (L := PassOpen) ?_ ?_ ?_ ?_ ?_ ?_ reached).2
  · exact fun _ _ => trivial
  · exact fun w key writes => absurd rfl (writing _ writes).1
  · intro cfg key began seen request reached safe calling _ pass open_ permitted
    have first := (safe began seen request calling).first
    refine ⟨trivial, PassOver.learn writing unfinal pass open_ permitted ?_⟩
    -- The first read decides what the pass may write.
    intro start call run stored writes
    have at_key : (passKnow r key seen).key = key := know_key key seen
    rw [at_key] at call stored
    exact finished_eq_false.mp (firstStage_writes writes (first key run rfl call (know_start start) stored))
  · exact fun _ _ _ _ _ _ _ _ _ _ _ _ => trivial
  · intro cfg worker began seen request key p reached safe calling distinct busy _ open_
    exact PassOpen.elsewhere reached (safe began seen request calling) calling distinct busy open_
  · intro cfg action w' _ _ acted _
    refine ⟨trivial, fun key seen open_ => open_.stays rfl rfl fun _ run found => ?_⟩
    obtain ⟨run', found', -, status⟩ := act_stays acted found
    exact ⟨run', found', by rw [status]⟩

/-- Where replies are safe, the run of a claimed turn is stored as it was claimed. -/
theorem platform_claimed :
    ∀ replica key run, Claiming chat cfg replica key run → cfg.server.runs.get key = some run := by
  refine reached.invariant (I := fun cfg => ∀ replica key run, Claiming chat cfg replica key run →
    cfg.server.runs.get key = some run) ?_ ?_
  · rintro w - _ _ _ ⟨_, ⟨⟩, _⟩
  · rintro cfg cfg' move before holds safe stepped replica key run ⟨p, found, claimed, pending⟩
    cases stepped with
    | start mover free =>
      rcases update_cases found with ⟨rfl, started⟩ | ⟨-, earlier⟩
      · cases started
        cases claimed
      · exact holds replica key run ⟨p, earlier, claimed, pending⟩
    | stop mover =>
      rcases update_cases found with ⟨-, stopped⟩ | ⟨-, earlier⟩
      · cases stopped
      · exact holds replica key run ⟨p, earlier, claimed, pending⟩
    | act action s acted =>
      have claiming : Claiming chat cfg replica key run := ⟨p, found, claimed, pending⟩
      exact (safe s acted replica key run claiming).trans (holds replica key run claiming)
    | advance mover began seen request rest calling =>
      rcases update_cases found with ⟨rfl, advanced⟩ | ⟨distinct, earlier⟩
      · cases advanced
        rw [driveKnow, Contract.know_append] at claimed pending
        obtain ⟨pending, unanswered⟩ := learn_updated pending
        have sound := drive_sound before calling
        have permitted := drive_permits before ⟨rest, calling⟩
        rcases learn_claimed claimed with earlier | ⟨new, rfl, written⟩
        · -- Between claim and update a drive writes nothing.
          have there := holds replica key run ⟨_, calling, earlier, pending⟩
          rcases sound.run permitted (serve_run rfl) with
            same | ⟨stored, -, ⟨new, rfl, -⟩ | ⟨new, rfl, -⟩⟩
          · exact same.trans there
          · rw [permitted.1] at earlier
            cases earlier
          · exact absurd rfl (unanswered new)
        · obtain ⟨fresh, now, won⟩ := sound.won permitted written
          have after := won.after
          rwa [(driveKnow_self chat replica key seen).2.1] at after
      · have claiming : Claiming chat cfg replica key run := ⟨p, earlier, claimed, pending⟩
        exact ((safe began seen request ⟨rest, calling⟩).claimed replica key run claiming
          (Ne.symm distinct)).trans (holds replica key run claiming)

/-- Where replies are safe, no step changes what a finished run came to. -/
theorem finished_kept {run run' : AgentRun} (safe : ReplySafe chat cfg move)
    (stepped : StepCases (platform r chat) cfg move cfg')
    (found : cfg.server.runs.get key = some run) (finished : run.status.finished = true)
    (found' : cfg'.server.runs.get key = some run') (uid : run'.uid = run.uid) :
    run'.status.outcome = run.status.outcome := by
  cases stepped with
  | start | stop => cases found.symm.trans found'; rfl
  | act action s acted =>
    have sound := (platform_sound reached).1.1
    rcases act_origin acted found' with ⟨before, was, -, -, status⟩ | ⟨-, new, -⟩
    · cases found.symm.trans was
      rw [status]
    · exact absurd (uid.symm.trans new) (Nat.ne_of_lt (sound.runUID key run found).2)
  | advance mover began seen request rest calling =>
    replace safe := safe began seen request ⟨rest, calling⟩
    replace found' : (serve request cfg.server).2.runs.get key = some run' := found'
    by_cases writes : request.writesStatus key
    · cases request with
      | patchStatus lock read new =>
        obtain rfl : new.key = key := writes
        cases mover with
        | drive replica driven => exact absurd (drive_permits reached ⟨rest, calling⟩) id
        | controller pid =>
          by_cases mine : new.key = pid
          · have at_key : (passKnow r pid seen).key = pid := know_key pid seen
            have own : new.key = (passKnow r pid seen).key := mine.trans at_key.symm
            obtain ⟨receipt, added⟩ := (platform_open reached pid _ calling).archives own
              (pass_permits reached ⟨rest, calling⟩) (own ▸ found) finished
            cases serve_run found' with
            | same kept => cases found.symm.trans kept; rfl
            | status _ before _ =>
              cases found.symm.trans before
              simp [AgentRunStatus.outcome, mergeStatus, added]
          · have peer := (safe.peer pid lock read new run rfl rfl mine found).1
            simp [finished] at peer
      | updateStatus new =>
        obtain rfl : new.key = key := writes
        cases mover with
        | controller pid => exact absurd (pass_permits reached ⟨rest, calling⟩) id
        | drive replica driven =>
          have sound := drive_sound reached calling
          have permitted := drive_permits reached ⟨rest, calling⟩
          rcases sound.run permitted (serve_run rfl) with
            same | ⟨stored, was, ⟨_, call, -⟩ | ⟨_, _, -, -, claimed, -⟩⟩
          · cases found.symm.trans (same.symm.trans found')
            rfl
          · cases call
          · -- The version that was claimed is not finished.
            cases found.symm.trans was
            have unfinished := finished_eq_false.mpr (sound.claimed run claimed).2.unfinished
            simp [finished] at unfinished
      | deleteRun dropped =>
        obtain rfl : dropped = key := writes
        simp [serve, found] at found'
      | _ => exact absurd writes id
    · obtain ⟨run'', after, -, status⟩ := status_stays writes found
      cases found'.symm.trans after
      rw [status]

/-- Where replies are safe, a finished run has the same outcome for as long as it is stored. -/
theorem finished_lasts {run : AgentRun} (leads : (platform r chat).Leads (ReplySafe chat) cfg cfg')
    (found : cfg.server.runs.get key = some run) (finished : run.status.finished = true) :
    ∀ run', cfg'.server.runs.get key = some run' → run'.uid = run.uid →
      run'.status.outcome = run.status.outcome := by
  have issued := ((platform_sound reached).1.1.runUID key run found).2
  -- The UID of the run stays below the counter, so it is never given to another run.
  suffices holds : run.uid < cfg'.server.nextUID ∧ ∀ run', cfg'.server.runs.get key = some run' →
      run'.uid = run.uid → run'.status.outcome = run.status.outcome from holds.2
  induction leads with
  | start same =>
    refine ⟨same ▸ issued, fun run' found' _ => ?_⟩
    rw [same] at found'
    cases found.symm.trans found'
    rfl
  | @step middle last move before meets stepped ih =>
    obtain ⟨issued, same⟩ := ih
    have stepped := next_cases stepped
    refine ⟨Nat.lt_of_lt_of_le issued (step_uids stepped), fun run' found' uid => ?_⟩
    rcases step_origin stepped found' with ⟨between, was, uid'⟩ | new
    · have earlier := same between was (uid'.trans uid)
      have still : between.status.finished = true := by
        have phase : between.status.phase = run.status.phase := congrArg Outcome.phase earlier
        rw [AgentRunStatus.finished, phase]
        exact finished
      exact (finished_kept (reached.leads before) meets stepped was still found' uid'.symm).trans earlier
    · exact absurd (uid.symm.trans new) (Nat.ne_of_lt issued)

end Safe

theorem claimed_reply_stored {seen : List (Event Call Reply)} {new : AgentRun}
    (reached : (platform r chat).Reaches Initial (ReplySafe chat) cfg)
    (calling : Calling cfg (.drive replica key) began seen (.updateStatus new))
    (safe : ReplySafe chat cfg (.advance (.drive replica key))) :
    ∃ run, (serve (.updateStatus new) cfg.server).1 = .ok run ∧ run.status.phase = .succeeded ∧
      (∃ harnessKind reply, (driveKnow chat replica key seen).answers chat.server reply ∧
        run.status.output = chat.server.standingTurnOutput harnessKind (trimSpace reply)) ∧
      ∀ cfg₁ cfg₂, (platform r chat).next cfg (.advance (.drive replica key)) = some cfg₁ →
        (platform r chat).Leads (ReplySafe chat) cfg₁ cfg₂ →
        cfg₁.server.runs.get key = some run ∧
        ∀ run', cfg₂.server.runs.get key = some run' → run'.uid = run.uid →
          run'.status.outcome = run.status.outcome := by
  obtain ⟨pending, claimed, known, answered⟩ := drive_permits reached calling
  obtain ⟨rest, found⟩ := calling
  have mine := ((drive_sound reached found).claimed claimed known).2.key
  rw [(driveKnow_self chat replica key seen).2.1] at mine
  have stored := platform_claimed reached replica key claimed ⟨_, found, known, pending⟩
  obtain ⟨harnessKind, runtime, reply, completedAt, answers, shape⟩ := answered
  have at_key : new.key = key := by rw [shape, mine]
  -- The stored version is the claimed one, which is the one the update sends.
  obtain ⟨run, accepted⟩ : ∃ run, (serve (.updateStatus new) cfg.server).1 = .ok run :=
    replaceRun_ok (at_key ▸ stored) (by rw [shape])
  obtain ⟨before, was, -, after, change⟩ := (replaceRun_rewrites _ _).reply accepted
  have status : run.status = new.status := by
    rcases change with ⟨rfl, unchanged⟩ | rfl
    · exact (congrArg AgentRun.status unchanged).symm
    · rfl
  have outcome : run.status.phase = .succeeded ∧
      run.status.output = chat.server.standingTurnOutput harnessKind (trimSpace reply) := by
    rw [status, shape]
    exact ⟨rfl, rfl⟩
  refine ⟨run, accepted, outcome.1, ⟨harnessKind, reply, answers, outcome.2⟩, ?_⟩
  intro cfg₁ cfg₂ stepped leads
  have there : cfg₁.server.runs.get key = some run := by
    have moved := stepped
    simp only [next, found, some.injEq] at moved
    rw [← moved]
    exact at_key ▸ after
  refine ⟨there, finished_lasts (reached.step safe stepped) leads there ?_⟩
  simp [AgentRunStatus.finished, outcome.1]

section Sample

/-- An empty cluster in which every run is to be executed in process. -/
def inProcessWorld : World :=
  { chatWorld with
    inputs :=
      { chatWorld.inputs with
        composition := fun _ => .resolved { runtime := .inProcess } {} } }

theorem inProcessWorld_initial : inProcessWorld.Initial :=
  ⟨rfl, rfl, rfl, by decide⟩

/-- The only worker of the sample. -/
def soleDrive : Worker :=
  .drive replicaA ⟨"ns", "t"⟩

/-- The environment acts before the drive begins, and nobody else does. -/
def actsBefore (cfg : Config Worker Call Reply World) : Move Worker Act → Bool
  | .act _ => (cfg.procs soleDrive).isNone
  | .start worker => worker = soleDrive
  | _ => true

theorem actsBefore_safe {cfg : Config Worker Call Reply World} {move : Move Worker Act}
    (only : ∀ worker p, cfg.procs worker = some p → worker = soleDrive)
    (passes : actsBefore cfg move = true) : ReplySafe sampleChat cfg move := by
  have idle (key : Key) : cfg.procs (.controller key) = none :=
    eq_none_iff_forall_ne_some.mpr fun p found => nomatch only _ p found
  cases move with
  | start | stop => trivial
  | act action =>
    rintro w' acted replica key run ⟨p, found, -⟩
    rw [only _ p found] at found
    simp [actsBefore, found] at passes
  | advance worker =>
    rintro began seen request ⟨rest, found⟩
    obtain rfl := only _ _ found
    refine ⟨?_, fun new _ => idle new.key, ?_, ?_⟩
    · rintro replica key run ⟨p, claiming, -⟩ distinct
      exact absurd (only _ p claiming).symm distinct
    · rintro pid run ⟨⟩
    · rintro pid lock read new run ⟨⟩

theorem reaches_safe {cfg : Config Worker Call Reply World}
    (reached : (platform sampleReconciler sampleChat).Reaches Initial
      (fun cfg move => actsBefore cfg move = true) cfg) :
    (platform sampleReconciler sampleChat).Reaches Initial (ReplySafe sampleChat) cfg ∧
      ∀ worker p, cfg.procs worker = some p → worker = soleDrive := by
  induction reached with
  | start initial =>
    obtain ⟨w, initial, rfl⟩ := initial
    exact ⟨.idle initial, nofun⟩
  | step _ passes stepped ih =>
    obtain ⟨safely, only⟩ := ih
    refine ⟨safely.step (actsBefore_safe only passes) stepped, fun worker p found => ?_⟩
    cases next_cases stepped with
    | start mover =>
      rcases update_cases found with ⟨rfl, -⟩ | ⟨-, earlier⟩
      · exact of_decide_eq_true passes
      · exact only worker p earlier
    | advance mover began seen request rest calling =>
      rcases update_cases found with ⟨rfl, -⟩ | ⟨-, earlier⟩
      · exact only worker _ calling
      · exact only worker p earlier
    | stop mover =>
      rcases update_cases found with ⟨-, ⟨⟩⟩ | ⟨-, earlier⟩
      exact only worker p earlier
    | act => exact only worker p found

/-- The drive is about to record its reply. -/
def recordsReply (cfg : Config Worker Call Reply World) : Bool :=
  match cfg.procs (.drive replicaA ⟨"ns", "t"⟩) with
  | some ⟨_, _, .call (.updateStatus _) _⟩ => true
  | _ => false

theorem recordsReply_sound {cfg : Config Worker Call Reply World} (passes : recordsReply cfg = true) :
    ∃ began seen new,
      Calling cfg (.drive replicaA ⟨"ns", "t"⟩) began seen (.updateStatus new) := by
  unfold recordsReply at passes
  split at passes
  next found => exact ⟨_, _, _, _, found⟩
  next => cases passes

theorem claimed_reply_stored_undisturbed :
    ∃ cfg began seen new run,
      (platform sampleReconciler sampleChat).Reaches Initial (ReplySafe sampleChat) cfg ∧
      Calling cfg (.drive replicaA ⟨"ns", "t"⟩) began seen (.updateStatus new) ∧
      (serve (.updateStatus new) cfg.server).1 = .ok run ∧ run.status.phase = .succeeded := by
  obtain ⟨cfg, reaches, passes⟩ :
      ∃ cfg ∈ (platform sampleReconciler sampleChat).play actsBefore
        (turnRequested :: begins soleDrive 10) (idle inProcessWorld), recordsReply cfg = true := by
    decide +kernel
  obtain ⟨began, seen, new, calling⟩ := recordsReply_sound passes
  obtain ⟨reached, only⟩ := reaches_safe (.play (Reaches.idle inProcessWorld_initial) (fun _ _ => id) reaches)
  obtain ⟨run, accepted, phase, -⟩ := claimed_reply_stored reached calling
    (actsBefore_safe only rfl)
  exact ⟨cfg, began, seen, new, run, reached, calling, accepted, phase⟩

/-- The controller yields to the claim while the reply is being streamed. -/
def yieldsMeanwhile : List (Move Worker Act) :=
  turnRequested :: begins (.drive replicaA ⟨"ns", "t"⟩) 7 ++
    worksFor (.controller ⟨"ns", "t"⟩) 6 ++ List.replicate 3 (.advance (.drive replicaA ⟨"ns", "t"⟩))

theorem claimed_reply_lost :
    ∃ cfg began seen new run,
      (platform sampleReconciler sampleChat).Reaches Initial (fun _ _ => True) cfg ∧
      Calling cfg (.drive replicaA ⟨"ns", "t"⟩) began seen (.updateStatus new) ∧
      (driveKnow sampleChat replicaA ⟨"ns", "t"⟩ seen).replies = ["hello"] ∧
      (serve (.updateStatus new) cfg.server).1 = .conflict ∧
      (serve (.updateStatus new) cfg.server).2.runs.get ⟨"ns", "t"⟩ = some run ∧
      run.status.phase = .needsHuman ∧ run.status.output = "" := by
  have played : ((platform sampleReconciler sampleChat).play (fun _ _ => true) yieldsMeanwhile
      (idle inProcessWorld)).any (fun cfg =>
        match cfg.procs (.drive replicaA ⟨"ns", "t"⟩) with
        | some ⟨_, seen, .call (.updateStatus new) _⟩ =>
          (driveKnow sampleChat replicaA ⟨"ns", "t"⟩ seen).replies = ["hello"] &&
          (match (serve (.updateStatus new) cfg.server).1 with
            | .conflict => true
            | _ => false) &&
          ((serve (.updateStatus new) cfg.server).2.runs.get ⟨"ns", "t"⟩).any fun run =>
            run.status.phase = .needsHuman && run.status.output = ""
        | _ => false) = true := by
    decide +kernel
  obtain ⟨cfg, reaches, facts⟩ := (any_eq_true _ _).mp played
  split at facts
  next began seen new rest found =>
    simp only [Bool.and_eq_true, decide_eq_true_eq] at facts
    obtain ⟨⟨replies, refused⟩, stored⟩ := facts
    obtain ⟨run, stored, facts⟩ := (any_eq_true _ _).mp stored
    simp only [Bool.and_eq_true, decide_eq_true_eq] at facts
    split at refused
    next conflict =>
      exact ⟨cfg, began, seen, new, run,
        .play (Reaches.idle inProcessWorld_initial) (fun _ _ _ => trivial) reaches, ⟨rest, found⟩, replies,
        conflict, stored, facts.1, facts.2⟩
    next => cases refused
  next => cases facts

end Sample

end AnvilAgents
