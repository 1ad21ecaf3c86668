import AnvilAgents.Proofs.Standing.Exclusion
import AnvilAgents.Proofs.Controller.Passes

/-! When the archive record of a deleted run says what the run came to. -/

namespace AnvilAgents

open Conc Text World System MergePatch Know

variable {w w' : World} {K : Know} {D : DriveKnow} {c : Call} {key pid : Key} {began : World}
  {r : AgentRunReconciler} {chat : Chat} {cfg : Config Worker Call Reply World}

/-- What a run came to. -/
structure Outcome where
  phase : AgentRunPhase
  output : String
  decision : Option AgentRunDecisionStatus
  completedAt : Option Nat
deriving DecidableEq

def AgentRunStatus.outcome (status : AgentRunStatus) : Outcome where
  phase := status.phase
  output := status.output
  decision := status.decision
  completedAt := status.completedAt

/-- A record carries the outcome of a run; its output column is trimmed, its status document is not. -/
structure Faithful (record : AgentRunArchiveRecord) (run : AgentRun) : Prop where
  phase : record.phase = run.status.phase
  output : record.output = trimSpace run.status.output
  fullOutput : record.status.output = run.status.output
  decision : record.decision = run.status.decision
  completedAt : record.completedAt = run.status.completedAt

/-- The archive has a faithful record of every run whose status says that it is archived. -/
def Archived (w : World) : Prop :=
  ∀ key run, w.runs.get key = some run → agentRunArchived run.status = true →
    ∃ record, w.archive.get (key, run.uid) = some record ∧ Faithful record run

/--
The steps at which outcomes are kept.

A call changes what a run came to only if the run is not archived yet, and, unless it is a call of the
run's own reconcile, only while no reconcile of the run is in flight.
-/
def OutcomeKept (cfg : Config Worker Call Reply World) : Move Worker Act → Prop
  | .advance worker => ∀ began seen request key run run',
    Calling cfg worker began seen request → cfg.server.runs.get key = some run →
    (serve request cfg.server).2.runs.get key = some run' →
    run'.status.outcome ≠ run.status.outcome →
    agentRunArchived run.status = false ∧
      (worker = .controller key ∨ cfg.procs (.controller key) = none)
  | _ => True

variable {record : AgentRunArchiveRecord}

theorem Faithful.congr {run run' : AgentRun}
    (faithful : Faithful record run) (same : run'.status.outcome = run.status.outcome) :
    Faithful record run' := by
  simp only [AgentRunStatus.outcome, Outcome.mk.injEq] at same
  obtain ⟨phase, output, decision, completedAt⟩ := same
  refine ⟨?_, ?_, ?_, ?_, ?_⟩
  · rw [phase, faithful.phase]
  · rw [output, faithful.output]
  · rw [output, faithful.fullOutput]
  · rw [decision, faithful.decision]
  · rw [completedAt, faithful.completedAt]

variable {run : AgentRun}

/-- A record is made of the run's key, UID and outcome. -/
theorem newAgentRunArchiveRecord_eq_ok {now : Nat}
    (made : newAgentRunArchiveRecord run now = .ok record) :
    record.key = run.key ∧ record.uid = run.uid ∧ Faithful record run := by
  unfold newAgentRunArchiveRecord at made
  repeat' split at made
  all_goals cases made
  exact ⟨rfl, rfl, rfl, rfl, rfl, rfl, rfl⟩

/-- Whether a run is archived is read off its receipt. -/
theorem agentRunArchived_congr {status status' : AgentRunStatus}
    (same : status'.archive = status.archive) : agentRunArchived status' = agentRunArchived status := by
  rw [agentRunArchived, agentRunArchived, same]

variable {server : Server} {read new stored : AgentRun} {lock : Bool}

section Rows

/-- The archive changes only by a record that is put into it. -/
theorem serve_archive (c : Call) (w : World) :
    (serve c w).2.archive = w.archive ∨
      ∃ record, c = .archiveRun record ∧
        (serve c w).2.archive = w.archive.put (record.key, record.uid) record := by
  cases kind : c.isJobOrArchive with
  | false => exact .inl (serve_untouched kind).archive
  | true =>
    cases c with
    | createJob job =>
      refine .inl ?_
      simp only [serve]
      rcases createJob_cases w job with ⟨reply, -, made⟩ | ⟨-, -, made⟩ <;> rw [made]
    | deleteJob | setJobTTL =>
      simp only [serve]
      split <;> exact .inl rfl
    | archiveRun record =>
      simp only [serve]
      split
      · exact .inl rfl
      · exact .inr ⟨record, rfl, rfl⟩
    | _ => simp [Call.isJobOrArchive] at kind

/-- An interruption leaves the receipt of a run alone. -/
theorem PeerPatch.archive (patch : PeerPatch K lock read new) :
    (mergeStatus read.status new.status stored.status).archive = stored.status.archive := by
  obtain ⟨summary, now, rfl⟩ := patch.status
  simp [mergeStatus, interruptedStatus, AgentRunStatus.setReady]

/-- The reconciles of other runs leave the receipt of a run alone. -/
theorem PassSound.foreign (pass : PassSound w pid began K) (permitted : K.permits c)
    (other : key ≠ K.key) (found : w.runs.get key = some run) :
    ∃ run', (serve c w).2.runs.get key = some run' ∧ run'.uid = run.uid ∧
      run'.status.archive = run.status.archive := by
  by_cases writes : c.writesStatus key
  · cases c with
    | patchStatus lock read new =>
      have own : new.key = key := writes
      have peer := permits.peer permitted (own ▸ other)
      generalize after : (serve (.patchStatus lock read new) w).2.runs.get key = result
      cases serve_run after with
      | same kept => exact ⟨run, kept.symm.trans found, rfl, rfl⟩
      | status own before _ =>
        cases found.symm.trans before
        exact ⟨_, rfl, rfl, peer.archive⟩
    | updateStatus new => exact absurd permitted id
    | deleteRun dropped =>
      obtain rfl : dropped = key := writes
      exact absurd rfl (pass.undeleted permitted (.inl other))
    | _ => exact absurd writes id
  · obtain ⟨run', after, uid, status⟩ := status_stays writes found
    exact ⟨run', after, uid, by rw [status]⟩

/-- They leave its records alone as well. -/
theorem PassSound.foreign_records (pass : PassSound w pid began K) (permitted : K.permits c)
    (other : key ≠ K.key) (uid : UID) :
    (serve c w).2.archive.get (key, uid) = w.archive.get (key, uid) := by
  rcases serve_archive c w with same | ⟨record, rfl, put⟩
  · rw [same]
  · obtain ⟨-, base, now, read, made, -⟩ := permitted
    have at_key : record.key = K.key :=
      (newAgentRunArchiveRecord_eq_ok made).1.trans (pass.baseKey base read)
    rw [put, Table.get_put_of_ne]
    intro same
    exact other ((congrArg Prod.fst same).trans at_key)

/-- A reply is recorded beside the receipt of a run. -/
theorem Answered.archive {run new : AgentRun} (answered : Answered server D run new) :
    new.status.archive = run.status.archive := by
  obtain ⟨_, _, _, _, -, shape⟩ := answered
  rw [shape]
  rfl

/-- Drives leave receipts alone. -/
theorem DriveSound.foreign (sound : DriveSound w D) (permitted : D.permits server c)
    (found : w.runs.get key = some run) :
    ∃ run', (serve c w).2.runs.get key = some run' ∧ run'.uid = run.uid ∧
      run'.status.archive = run.status.archive := by
  rcases sound.run permitted (serve_run rfl) with
    same | ⟨stored, was, ⟨new, -, -, -, after⟩ | ⟨new, -, -, -, -, answered, after⟩⟩
  · exact ⟨run, same.trans found, rfl, rfl⟩
  · cases found.symm.trans was
    exact ⟨_, after, rfl, rfl⟩
  · cases found.symm.trans was
    exact ⟨_, after, rfl, answered.archive⟩

/-- Drives put nothing into the archive. -/
theorem DriveKnow.foreign_records (permitted : D.permits server c) :
    (serve c w).2.archive = w.archive := by
  rcases serve_archive c w with same | ⟨record, rfl, -⟩
  · exact same
  · exact absurd permitted id

end Rows

/-- What a pass knows of the receipt, the outcome and the record of its run. -/
structure Receipts (w : World) (K : Know) : Prop where
  live : K.stage = .live → ∃ run, w.runs.get K.key = some run ∧ run.status.archive = K.archive ∧
    ∀ base, K.base = some base → base.status.archive = K.archive
  closing : K.stage = .closing → ∀ base, K.base = some base →
    ∃ run, w.runs.get K.key = some run ∧ run.uid = base.uid ∧
      run.status.archive = base.status.archive ∧ run.status.outcome = base.status.outcome
  record : ∀ record, K.record = some record →
    record.key = K.key ∧ w.archive.get (record.key, record.uid) = some record

/-- A pass that has dropped its version of the run, with the records it had. -/
theorem Receipts.close {K' : Know} (stage : K'.stage = .closing) (base : K'.base = none)
    (record : ∀ record, K'.record = some record →
      record.key = K'.key ∧ w.archive.get (record.key, record.uid) = some record) : Receipts w K' := by
  refine ⟨?_, ?_, record⟩
  · simp [stage]
  · simp [base]

/-- The receipt a pass started from changes only by its first read. -/
theorem Know.learn_receipt (K : Know) (c : Call) (reply : Reply c) (other : c ≠ .getRun K.key) :
    (K.learn c reply).archive = K.archive := by
  have learnt := K.learnt c reply
  generalize K.learn c reply = K' at learnt ⊢
  cases learnt with
  | read => exact absurd rfl other
  | _ => rfl

/-- A record a pass knows of is one it knew of, or one it has just put into the archive. -/
theorem Know.learn_record (known : (K.learn c (serve c w).1).record = some record) :
    K.record = some record ∧ (serve c w).2.archive = w.archive ∨
      c = .archiveRun record ∧
        (serve c w).2.archive = w.archive.put (record.key, record.uid) record := by
  by_cases archives : ∃ given, c = .archiveRun given
  · obtain ⟨given, rfl⟩ := archives
    cases fault : w.inputs.archiveFault with
    | some message =>
      simp only [serve, fault, learn] at known ⊢
      exact .inl ⟨known, trivial⟩
    | none =>
      simp only [serve, fault, learn, Option.some.injEq] at known ⊢
      subst known
      exact .inr ⟨rfl, rfl⟩
  · refine .inl ⟨?_, (serve_archive c w).resolve_right fun wrote => archives (wrote.imp fun _ => And.left)⟩
    generalize (serve c w).1 = reply at known
    have learnt := K.learnt c reply
    generalize K.learn c reply = K' at learnt known
    cases learnt with
    | read run =>
      unfold readOwn at known
      split at known <;> exact known
    | recorded => exact absurd ⟨_, rfl⟩ archives
    | _ => exact known

section Own

variable (receipts : Receipts w K)

include receipts

/-- The attempt patch keeps the receipt the pass started from. -/
theorem Receipts.attempted {read new run : AgentRun} (own : new.key = K.key)
    (patch : AttemptPatch K lock read new) (reply : (w.patchStatus lock read new).1 = .ok run) :
    ∃ run', (w.patchStatus lock read new).2.runs.get K.key = some run' ∧
      run'.status.archive = K.archive ∧ run.status.archive = K.archive := by
  obtain ⟨stored, found, -, -, -, status, after⟩ := patchStatus_reply reply
  obtain ⟨current, found', archive, base⟩ := receipts.live patch.stage
  rw [own] at found after
  cases found.symm.trans found'
  have merged : run.status.archive = K.archive := by
    simp only [status, mergeStatus]
    rw [archive, patch.archive, base read patch.base, object_unchanged]
  exact ⟨run, after, merged, merged⟩

/-- What a pass knows of the receipt stays true through each of its own calls. -/
theorem Receipts.learn (pass : PassSound w pid began K) (permitted : K.permits c) :
    Receipts (serve c w).2 (K.learn c (serve c w).1) := by
  have at_key : (K.learn c (serve c w).1).key = K.key := (learn_self K c _).1
  have record (record : AgentRunArchiveRecord)
      (known : (K.learn c (serve c w).1).record = some record) :
      record.key = (K.learn c (serve c w).1).key ∧
        (serve c w).2.archive.get (record.key, record.uid) = some record := by
    rw [at_key]
    rcases learn_record known with ⟨before, same⟩ | ⟨rfl, put⟩
    · rw [same]
      exact receipts.record record before
    · obtain ⟨-, base, now, read, made, -⟩ := permitted
      refine ⟨(newAgentRunArchiveRecord_eq_ok made).1.trans (pass.baseKey base read), ?_⟩
      rw [put, Table.get_put_self]
  by_cases aside : K.looksAside c
  · have alike := aside.alike (serve c w).1
    have other : c ≠ .getRun K.key := by
      rintro rfl
      exact aside rfl
    -- The pass's own run is written by nothing it does here, and kept unless it is deleted.
    have kept (present : ∀ dropped, c ≠ .deleteRun dropped) : ¬ c.writesStatus K.key := by
      intro writes
      cases c with
      | patchStatus lock read new => exact aside writes
      | updateStatus new => exact permitted
      | deleteRun dropped => exact present dropped rfl
      | _ => exact writes
    refine ⟨fun live => ?_, fun closing base known => ?_, record⟩
    · rw [alike.stage] at live
      obtain ⟨run, found, archive, based⟩ := receipts.live live
      have present (dropped : Key) : c ≠ .deleteRun dropped := by
        rintro rfl
        simp [permitted.1] at live
      obtain ⟨run', after, -, status⟩ := status_stays (kept present) found
      refine ⟨run', at_key ▸ after, ?_, fun base known => ?_⟩
      · rw [status, archive, learn_receipt K c _ other]
      · rw [learn_receipt K c _ other]
        exact based base (alike.base base known)
    · rw [alike.stage] at closing
      obtain ⟨run, found, uid, archive, outcome⟩ := receipts.closing closing base (alike.base base known)
      have present (dropped : Key) : c ≠ .deleteRun dropped := by
        rintro rfl
        simp [learn] at known
      obtain ⟨run', after, uid', status⟩ := status_stays (kept present) found
      exact ⟨run', at_key ▸ after, uid'.trans uid, by rw [status, archive], by rw [status, outcome]⟩
  · cases c with
    | getRun key =>
      obtain rfl : key = K.key := not_not.mp aside
      simp only [serve] at record ⊢
      cases found : w.runs.get K.key with
      | none =>
        simp only [found, learn, if_true] at record ⊢
        exact .close rfl rfl record
      | some run =>
        simp only [found, learn, readOwn, if_true] at record ⊢
        split
        next start =>
          simp only [start] at record
          refine ⟨fun _ => ⟨run, found, rfl, ?_⟩, ?_, record⟩
          · rintro base ⟨⟩
            rfl
          · rintro - base ⟨⟩
            exact ⟨run, found, rfl, rfl, rfl⟩
        next stage begun =>
          refine ⟨fun live => ?_, ?_, receipts.record⟩
          · obtain ⟨run', found', archive, -⟩ := receipts.live live
            cases found.symm.trans found'
            refine ⟨run, found, archive, ?_⟩
            rintro base ⟨⟩
            exact archive
          · rintro - base ⟨⟩
            exact ⟨run, found, rfl, rfl, rfl⟩
    | patchStatus lock read new =>
      have own : new.key = K.key := not_not.mp aside
      simp only [serve] at record ⊢
      cases records : recordsAttempt read new with
      | false =>
        simp only [learn, own, records, ne_eq, not_true_eq_false, if_false] at record ⊢
        exact .close rfl rfl record
      | true =>
        cases reply : (w.patchStatus lock read new).1 with
        | ok run =>
          rw [reply, learn_attempt records own] at record
          rw [learn_attempt records own]
          obtain ⟨run', after, archive, returned⟩ := receipts.attempted own
            ((ownPatch_stage own permitted).2.2 records) reply
          refine ⟨fun _ => ⟨run', after, archive, ?_⟩, ?_, record⟩
          · rintro base ⟨⟩
            exact returned
          · intro closing
            have live := ((ownPatch_stage own permitted).2.2 records).stage
            simp [live] at closing
        | _ =>
          simp only [reply, learn, own, records, ne_eq, not_true_eq_false, if_false] at record ⊢
          exact .close rfl rfl record
    | _ => exact absurd trivial aside

/-- The record of an archived run is not written over. -/
theorem Receipts.unwritten (pass : PassSound w pid began K) (permitted : K.permits c)
    (found : w.runs.get key = some run) (archived : agentRunArchived run.status = true) :
    (serve c w).2.archive.get (key, run.uid) = w.archive.get (key, run.uid) := by
  rcases serve_archive c w with same | ⟨record, rfl, put⟩
  · rw [same]
  · obtain ⟨closing, base, now, read, made, unarchived⟩ := permitted
    rw [put, Table.get_put_of_ne]
    intro same
    -- Only a run that is not archived is put into the archive.
    have at_key : key = K.key := (congrArg Prod.fst same).trans
      ((newAgentRunArchiveRecord_eq_ok made).1.trans (pass.baseKey base read))
    obtain ⟨run', found', -, archive, -⟩ := receipts.closing closing base read
    rw [← at_key] at found'
    cases found.symm.trans found'
    rw [agentRunArchived_congr archive, unarchived] at archived
    cases archived

/-- A status patch makes a run archived only by the receipt of a record of its outcome. -/
theorem Receipts.patched (permitted : K.permits (.patchStatus lock read new))
    (found : w.runs.get new.key = some stored) (before : agentRunArchived stored.status = false)
    (after : agentRunArchived (mergeStatus read.status new.status stored.status) = true) :
    ∃ record, w.archive.get (new.key, stored.uid) = some record ∧ Faithful record stored ∧
      (mergeStatus read.status new.status stored.status).outcome = stored.status.outcome := by
  have kept (same : (mergeStatus read.status new.status stored.status).archive =
      stored.status.archive) : False := by
    rw [agentRunArchived_congr same, before] at after
    cases after
  by_cases own : new.key = K.key
  · rw [own] at found
    rw [permits, if_pos own] at permitted
    rcases permitted with ⟨patch, -⟩ | patch | patch | patch
    · obtain ⟨run, found', archive, based⟩ := receipts.live patch.stage
      cases found.symm.trans found'
      rcases patch.archive with same | gone
      · refine (kept ?_).elim
        simp only [mergeStatus]
        rw [same, based read patch.base, object_unchanged]
      · by_cases never : none = read.status.archive
        · refine (kept ?_).elim
          simp only [mergeStatus]
          rw [gone, never, object_unchanged]
        · have removed : (mergeStatus read.status new.status stored.status).archive = none := by
            simp [mergeStatus, object, gone, never]
          simp [agentRunArchived, removed] at after
    · obtain ⟨run, found', archive, based⟩ := receipts.live patch.stage
      cases found.symm.trans found'
      refine (kept ?_).elim
      simp only [mergeStatus]
      rw [patch.archive, based read patch.base, object_unchanged]
    · obtain ⟨requester, now, rfl⟩ := patch.status
      refine (kept ?_).elim
      simp [mergeStatus, holdStatus, AgentRunStatus.setReady]
    · obtain ⟨run, found', uid, archive, outcome⟩ := receipts.closing patch.stage read patch.base
      cases found.symm.trans found'
      have archived := patch.archived
      obtain ⟨receipt, rfl⟩ := patch.status
      have whole : agentRunArchived { read.status with archive := receipt } = true := by
        rw [← after]
        refine agentRunArchived_congr ?_
        simp only [mergeStatus]
        rw [archive, object_fresh mergeArchive_fresh]
      obtain ⟨now, record, made, known⟩ := archived whole
      obtain ⟨at_key, same, faithful⟩ := newAgentRunArchiveRecord_eq_ok made
      refine ⟨record, ?_, faithful.congr outcome, ?_⟩
      · rw [uid, ← same, ← at_key]
        exact (receipts.record record known).2
      · simp [AgentRunStatus.outcome, mergeStatus]
  · exact (kept (permits.peer permitted own).archive).elim

/-- A permitted call of a reconcile that changes no archived outcome leaves the archive faithful. -/
theorem Archived.serve_pass (pass : PassSound w pid began K) (archived : Archived w)
    (permitted : K.permits c)
    (kept : ∀ key run run', w.runs.get key = some run → (serve c w).2.runs.get key = some run' →
      run'.status.outcome ≠ run.status.outcome → agentRunArchived run.status = false) :
    Archived (serve c w).2 := by
  intro key after found whole
  -- A run that was archived before has kept its outcome and its record.
  have already (run : AgentRun) (was : w.runs.get key = some run) (uid : after.uid = run.uid)
      (before : agentRunArchived run.status = true) :
      ∃ record, (serve c w).2.archive.get (key, after.uid) = some record ∧ Faithful record after := by
    obtain ⟨record, there, faithful⟩ := archived key run was before
    have same : after.status.outcome = run.status.outcome := by
      by_contra differs
      simp [kept key run after was found differs] at before
    refine ⟨record, ?_, faithful.congr same⟩
    rw [uid, receipts.unwritten pass permitted was before, there]
  cases serve_run found with
  | same same => exact already after same rfl whole
  | @status lock read new before own was meets =>
    cases archivedBefore : agentRunArchived before.status with
    | true => exact already before was rfl archivedBefore
    | false =>
      subst own
      obtain ⟨record, there, faithful, outcome⟩ :=
        receipts.patched permitted was archivedBefore whole
      have untouched : (w.patchStatus lock read new).2.archive = w.archive :=
        (serve_untouched (c := .patchStatus lock read new) rfl).archive
      refine ⟨record, ?_, faithful.congr outcome⟩
      rw [show (serve (.patchStatus lock read new) w).2.archive = w.archive from untouched]
      exact there
  | @notes read new before own was => exact already before was rfl whole
  | updatedNotes | updatedStatus => exact absurd permitted id
  | created => simp [agentRunArchived] at whole

end Own

theorem Archived.serve_drive (sound : DriveSound w D) (archived : Archived w)
    (permitted : D.permits server c)
    (kept : ∀ key run run', w.runs.get key = some run → (serve c w).2.runs.get key = some run' →
      run'.status.outcome ≠ run.status.outcome → agentRunArchived run.status = false) :
    Archived (serve c w).2 := by
  intro key after found whole
  obtain ⟨run, was, uid, -, -⟩ := (sound.launchFrame permitted).run key after found
  obtain ⟨run', found', -, archive⟩ := sound.foreign permitted was
  cases found.symm.trans found'
  have before : agentRunArchived run.status = true := by rwa [← agentRunArchived_congr archive]
  have same : after.status.outcome = run.status.outcome := by
    by_contra differs
    simp [kept key run after was found differs] at before
  obtain ⟨record, there, faithful⟩ := archived key run was before
  exact ⟨record, by rw [DriveKnow.foreign_records permitted, ← uid, there], faithful.congr same⟩

/-- What others leave alone, the pass still knows. -/
theorem Receipts.stays (receipts : Receipts w K)
    (rows : ∀ run, w.runs.get K.key = some run → ∃ run', w'.runs.get K.key = some run' ∧
      run'.uid = run.uid ∧ run'.status.archive = run.status.archive ∧
      run'.status.outcome = run.status.outcome)
    (records : ∀ uid, w'.archive.get (K.key, uid) = w.archive.get (K.key, uid)) : Receipts w' K := by
  refine ⟨fun live => ?_, fun closing base known => ?_, fun record known => ?_⟩
  · obtain ⟨run, found, archive, based⟩ := receipts.live live
    obtain ⟨run', after, -, same, -⟩ := rows run found
    exact ⟨run', after, same.trans archive, based⟩
  · obtain ⟨run, found, uid, archive, outcome⟩ := receipts.closing closing base known
    obtain ⟨run', after, uid', archive', outcome'⟩ := rows run found
    exact ⟨run', after, uid'.trans uid, archive'.trans archive, outcome'.trans outcome⟩
  · obtain ⟨at_key, there⟩ := receipts.record record known
    refine ⟨at_key, ?_⟩
    rw [at_key, records, ← at_key]
    exact there

section Platform

/-- Another worker's call leaves what a reconcile in flight knows true, if it keeps outcomes. -/
theorem Receipts.elsewhere {worker : Worker} {began : World} {seen : List (Event Call Reply)}
    {p : Proc Call Reply World} (receipts : Receipts cfg.server (passKnow r key p.seen))
    (reached : (platform r chat).Reaches Initial OutcomeKept cfg)
    (meets : OutcomeKept cfg (.advance worker)) (calling : Calling cfg worker began seen c)
    (distinct : Worker.controller key ≠ worker) (busy : cfg.procs (.controller key) = some p) :
    Receipts (serve c cfg.server).2 (passKnow r key p.seen) := by
  have at_key : (passKnow r key p.seen).key = key := know_key key p.seen
  have kept {run run' : AgentRun} (was : cfg.server.runs.get key = some run)
      (after : (serve c cfg.server).2.runs.get key = some run') :
      run'.status.outcome = run.status.outcome := by
    by_contra differs
    rcases (meets began seen c key run run' calling was after differs).2 with same | idle
    · exact distinct same.symm
    · cases busy.symm.trans idle
  obtain ⟨rows, records⟩ : (∀ {run}, cfg.server.runs.get key = some run →
      ∃ run', (serve c cfg.server).2.runs.get key = some run' ∧ run'.uid = run.uid ∧
        run'.status.archive = run.status.archive) ∧
      ∀ uid, (serve c cfg.server).2.archive.get (key, uid) = cfg.server.archive.get (key, uid) := by
    cases worker with
    | drive replica driven =>
      have permitted := drive_permits reached calling
      obtain ⟨rest, found⟩ := calling
      exact ⟨(drive_sound reached found).foreign permitted,
        fun _ => by rw [DriveKnow.foreign_records permitted]⟩
    | controller pid =>
      have permitted := pass_permits reached calling
      obtain ⟨rest, found⟩ := calling
      have pass := pass_sound reached found
      have other : key ≠ (passKnow r pid seen).key := by
        rintro rfl
        exact distinct (congrArg _ (know_key pid seen))
      exact ⟨pass.foreign permitted other, pass.foreign_records permitted other⟩
  refine receipts.stays ?_ ?_
  · rw [at_key]
    intro run was
    obtain ⟨run', after, uid, archive⟩ := rows was
    exact ⟨run', after, uid, archive, kept was after⟩
  · rw [at_key]
    exact records

theorem Receipts.act {action : Act} (receipts : Receipts w K) (acted : act action w = some w') :
    Receipts w' K := by
  obtain ⟨-, archive, -⟩ := act_frame acted
  refine receipts.stays (fun run found => ?_) fun uid => by rw [archive]
  obtain ⟨run', found', uid, status⟩ := act_stays acted found
  exact ⟨run', found', uid, by rw [status], by rw [status]⟩

theorem Archived.act {action : Act} (archived : Archived w) (acted : act action w = some w') :
    Archived w' := by
  intro key after found whole
  obtain ⟨-, archive, -⟩ := act_frame acted
  rcases act_origin acted found with ⟨before, was, uid, -, status⟩ | ⟨-, -, status, -⟩
  · rw [← status] at whole
    obtain ⟨record, there, faithful⟩ := archived key before was whole
    exact ⟨record, by rw [archive, ← uid, there], faithful.congr (by rw [status])⟩
  · simp [status, agentRunArchived] at whole

/-- Where outcomes are kept, the archive is faithful in every reachable state. -/
theorem platform_archived (reached : (platform r chat).Reaches Initial OutcomeKept cfg) :
    Archived cfg.server ∧ ∀ key p, cfg.procs (.controller key) = some p →
      Receipts cfg.server (passKnow r key p.seen) := by
  have kept {cfg : Config Worker Call Reply World} {worker : Worker} {began : World}
      {seen : List (Event Call Reply)} {request : Call} (meets : OutcomeKept cfg (.advance worker))
      (calling : Calling cfg worker began seen request) (key : Key) (run run' : AgentRun)
      (was : cfg.server.runs.get key = some run)
      (after : (serve request cfg.server).2.runs.get key = some run')
      (differs : run'.status.outcome ≠ run.status.outcome) :=
    (meets began seen request key run run' calling was after differs).1
  refine platform_passes (G := Archived) (L := Receipts) ?_ ?_ ?_ ?_ ?_ ?_ reached
  · intro w initial key run found
    simp [initial.runs, Table.empty] at found
  · exact fun w key => ⟨by simp [start], by simp [start], by simp [start]⟩
  · intro cfg key began seen request _ meets calling archived pass receipts permitted
    exact ⟨archived.serve_pass receipts pass permitted (kept meets calling),
      receipts.learn pass permitted⟩
  · intro cfg replica key began seen request _ meets calling archived sound permitted
    exact archived.serve_drive sound permitted (kept meets calling)
  · intro cfg worker began seen request key p reached meets calling distinct busy _ receipts
    exact receipts.elsewhere reached meets calling distinct busy
  · intro cfg action w' _ _ acted archived
    exact ⟨archived.act acted, fun key seen receipts => receipts.act acted⟩

theorem archive_fidelity {began : World} {seen : List (Event Call Reply)} {run : AgentRun}
    (reached : (platform r chat).Reaches Initial OutcomeKept cfg)
    (deleting : Calling cfg (.controller pid) began seen (.deleteRun key))
    (found : cfg.server.runs.get key = some run) :
    ∃ record, cfg.server.archive.get (key, run.uid) = some record ∧ Faithful record run := by
  obtain ⟨archived, workers⟩ := platform_archived reached
  obtain ⟨closing, base, known, at_key, -, whole⟩ := pass_permits reached deleting
  obtain ⟨rest, calling⟩ := deleting
  obtain ⟨stored, there, -, archive, -⟩ := (workers pid _ calling).closing closing base known
  rw [← (pass_sound reached calling).baseKey base known, at_key] at there
  cases found.symm.trans there
  exact archived key run found (by rw [agentRunArchived_congr archive, whole])

end Platform

section Sample

/-- A check of one step by which outcomes are kept. -/
def outcomeKept (cfg : Config Worker Call Reply World) : Move Worker Act → Bool
  | .advance worker =>
    match cfg.procs worker with
    | some ⟨_, _, .call request _⟩ => cfg.server.runs.keys.all fun key =>
      match cfg.server.runs.get key, (serve request cfg.server).2.runs.get key with
      | some run, some run' => run'.status.outcome = run.status.outcome ||
          !agentRunArchived run.status &&
            (worker = .controller key || (cfg.procs (.controller key)).isNone)
      | _, _ => true
    | _ => true
  | _ => true

theorem outcomeKept_sound (cfg : Config Worker Call Reply World) (move : Move Worker Act)
    (passes : outcomeKept cfg move = true) : OutcomeKept cfg move := by
  cases move with
  | advance worker =>
    rintro began seen request key run run' ⟨rest, found⟩ before after differs
    simp only [outcomeKept, found, List.all_eq_true] at passes
    have row := passes key (cfg.server.runs.listed key run before)
    simpa [before, after, differs] using row
  | _ => trivial

/-- A controller that archives finished runs and keeps them for a minute. -/
def archivingReconciler : AgentRunReconciler :=
  { sampleReconciler with
    archiveEnabled := true
    terminalRetention := 60 * second }

/-- An empty cluster that lacks a skill set every run asks for. -/
def unskilledWorld : World :=
  { chatWorld with
    inputs :=
      { chatWorld.inputs with
        composition := fun _ => .blocked {}
          ⟨.needsHuman, "SkillSetNotFound", "AgentSkillSet ns/s was not found."⟩ } }

theorem unskilledWorld_initial : unskilledWorld.Initial :=
  ⟨rfl, rfl, rfl, by decide⟩

def turnRequested : Move Worker Act :=
  .act (.createRun ⟨"ns", "t"⟩ { chatTurn := "turn" } { prompt := "hi" })

/-- A worker makes some calls, and returns or crashes. -/
def worksFor (worker : Worker) (calls : Nat) : List (Move Worker Act) :=
  begins worker calls ++ [.stop worker]

/-- The run is held for a human, archived, and due for deletion. -/
def heldAndArchived : List (Move Worker Act) :=
  turnRequested :: worksFor (.controller ⟨"ns", "t"⟩) 5 ++ worksFor (.controller ⟨"ns", "t"⟩) 4 ++
    .act (.tick (100 * second)) :: begins (.controller ⟨"ns", "t"⟩) 2

/-- The reconcile of the run is about to delete it. -/
def deletes (cfg : Config Worker Call Reply World) : Bool :=
  match cfg.procs (.controller ⟨"ns", "t"⟩) with
  | some ⟨_, _, .call (.deleteRun key) _⟩ => key = ⟨"ns", "t"⟩
  | _ => false

theorem deletes_sound {cfg : Config Worker Call Reply World} (passes : deletes cfg = true) :
    ∃ began seen, Calling cfg (.controller ⟨"ns", "t"⟩) began seen (.deleteRun ⟨"ns", "t"⟩) := by
  unfold deletes at passes
  split at passes
  next found =>
    simp only [decide_eq_true_eq] at passes
    subst passes
    exact ⟨_, _, _, found⟩
  next => cases passes

theorem archive_fidelity_held :
    ∃ cfg began seen run record,
      (platform archivingReconciler sampleChat).Reaches Initial OutcomeKept cfg ∧
      Calling cfg (.controller ⟨"ns", "t"⟩) began seen (.deleteRun ⟨"ns", "t"⟩) ∧
      cfg.server.runs.get ⟨"ns", "t"⟩ = some run ∧
      cfg.server.archive.get (⟨"ns", "t"⟩, run.uid) = some record ∧ Faithful record run := by
  obtain ⟨cfg, reaches, passes, run, found⟩ :
      ∃ cfg ∈ (platform archivingReconciler sampleChat).play outcomeKept heldAndArchived
        (idle unskilledWorld), deletes cfg = true ∧
        ∃ run ∈ cfg.server.runs.get ⟨"ns", "t"⟩, True := by
    decide +kernel
  obtain ⟨began, seen, calling⟩ := deletes_sound passes
  have reached := Machine.Reaches.play (Reaches.idle unskilledWorld_initial) outcomeKept_sound reaches
  obtain ⟨record, stored, faithful⟩ := archive_fidelity reached calling found.1
  exact ⟨cfg, began, seen, run, record, reached, calling, found.1, stored, faithful⟩

/-- A held run is archived, then the replica that had claimed its turn takes it over and answers. -/
def answeredAfterArchive : List (Move Worker Act) :=
  turnRequested :: worksFor (.drive replicaA ⟨"ns", "t"⟩) 7 ++
    worksFor (.controller ⟨"ns", "t"⟩) 5 ++ worksFor (.controller ⟨"ns", "t"⟩) 4 ++
    worksFor (.drive replicaA ⟨"ns", "t"⟩) 13 ++
    .act (.tick (100 * second)) :: begins (.controller ⟨"ns", "t"⟩) 2

theorem archive_unfaithful :
    ∃ cfg began seen run record,
      (platform archivingReconciler sampleChat).Reaches Initial (fun _ _ => True) cfg ∧
      Calling cfg (.controller ⟨"ns", "t"⟩) began seen (.deleteRun ⟨"ns", "t"⟩) ∧
      cfg.server.runs.get ⟨"ns", "t"⟩ = some run ∧
      cfg.server.archive.get (⟨"ns", "t"⟩, run.uid) = some record ∧
      run.status.phase = .succeeded ∧ run.status.output = "hello" ∧
      record.phase = .needsHuman ∧ record.status.output = "" ∧ ¬ Faithful record run := by
  obtain ⟨cfg, reaches, passes, run, found, record, stored, phase, output, phase', output'⟩ :
      ∃ cfg ∈ (platform archivingReconciler sampleChat).play (fun _ _ => true) answeredAfterArchive
        (idle unskilledWorld), deletes cfg = true ∧
        ∃ run ∈ cfg.server.runs.get ⟨"ns", "t"⟩,
        ∃ record ∈ cfg.server.archive.get (⟨"ns", "t"⟩, run.uid),
          run.status.phase = .succeeded ∧ run.status.output = "hello" ∧
            record.phase = .needsHuman ∧ record.status.output = "" := by
    decide +kernel
  obtain ⟨began, seen, calling⟩ := deletes_sound passes
  refine ⟨cfg, began, seen, run, record, .play (Reaches.idle unskilledWorld_initial) (fun _ _ _ => trivial) reaches,
    calling, found, stored, phase, output, phase', output', fun faithful => ?_⟩
  have same := faithful.phase
  rw [phase, phase'] at same
  cases same

end Sample

end AnvilAgents
