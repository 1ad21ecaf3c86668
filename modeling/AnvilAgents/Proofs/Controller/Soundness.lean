import AnvilAgents.Proofs.Controller.LiveConformance
import AnvilAgents.Proofs.Controller.Steps

/-! What holds of the server and of every pass in flight, however passes interleave and crash. -/

namespace AnvilAgents

open Conc List World Know Nat

variable {w w' : World} {K : Know} {c : Call} {r : AgentRunReconciler}

/-- Two versions of one Job. -/
structure SameJob (made job : Job) : Prop where
  key : made.key = job.key
  uid : made.uid = job.uid
  owner : made.owner = job.owner

theorem SameJob.refl (job : Job) : SameJob job job :=
  ⟨rfl, rfl, rfl⟩

theorem SameJob.trans {first second third : Job} (h : SameJob first second)
    (h' : SameJob second third) : SameJob first third :=
  ⟨h.key.trans h'.key, h.uid.trans h'.uid, h.owner.trans h'.owner⟩

/-- What holds of the stored objects at any time. -/
structure Sound (w : World) : Prop where
  runKey : ∀ key run, w.runs.get key = some run → run.key = key
  runUID : ∀ key run, w.runs.get key = some run → run.uid ≠ 0 ∧ run.uid < w.nextUID
  runUnique : ∀ key key' run run', w.runs.get key = some run → w.runs.get key' = some run' →
    run.uid = run'.uid → key = key'
  launch : ∀ key run, w.runs.get key = some run → LaunchSound run.status.launch
  job : ∀ key job, w.jobs.get key = some job →
    job.key = key ∧ job.uid ≠ 0 ∧ job.key.valid = true
  logged : ∀ key job, w.jobs.get key = some job → ∃ made ∈ w.created, SameJob made job
  positive : 0 < w.nextUID
  owner : ∀ made ∈ w.created, ∀ owner, made.owner = some owner → owner.uid < w.nextUID
  unattempted : ∀ key run, w.runs.get key = some run →
    run.status.launch.jobCreateAttemptedAt = none →
    ∀ made ∈ w.created, ∀ owner, made.owner = some owner → owner.uid ≠ run.uid
  single : ∀ uid, (w.createdFor uid).length ≤ 1

/-- What holds of a pass in flight: for a live pass, the stored launch fields are those it knows. -/
structure PassSound (w : World) (pid : Key) (began : World) (K : Know) : Prop where
  key : K.key = pid
  baseKey : ∀ base, K.base = some base → base.key = K.key
  live : K.stage = .live →
    ∃ run, w.runs.get K.key = some run ∧ run.uid = K.uid ∧ run.status.launch = K.launch
  baseLaunch : K.stage = .live → ∀ base, K.base = some base → base.status.launch = K.launch
  saw : ∀ job ∈ K.sawJobs, ∃ made ∈ w.created, SameJob made job
  pending : K.pending = true → K.stage = .live ∧ K.launch.jobCreateAttemptedAt.isSome ∧
    ∀ made ∈ w.created, ∀ owner, made.owner = some owner → owner.uid ≠ K.uid
  -- An attempt recorded before the pass began is seen by its first read.
  since : ∀ run, began.runs.get K.key = some run → run.status.launch.jobCreateAttemptedAt.isSome →
    if K.stage = .start then
      ∃ run', w.runs.get K.key = some run' ∧ run'.status.launch.jobCreateAttemptedAt.isSome
    else K.launch.jobCreateAttemptedAt.isSome ∧ K.pending = false

theorem World.Initial.sound (initial : w.Initial) : Sound w := by
  have noRun : ∀ key run, w.runs.get key ≠ some run := by simp [initial.runs, Table.empty]
  have noJob : ∀ key job, w.jobs.get key ≠ some job := by simp [initial.jobs, Table.empty]
  have noneMade : ∀ made, made ∉ w.created := by simp [initial.created]
  exact {
    runKey := fun key run found => absurd found (noRun key run)
    runUID := fun key run found => absurd found (noRun key run)
    runUnique := fun key _ run _ found => absurd found (noRun key run)
    launch := fun key run found => absurd found (noRun key run)
    job := fun key job found => absurd found (noJob key job)
    logged := fun key job found => absurd found (noJob key job)
    positive := initial.uids
    owner := fun made member => absurd member (noneMade made)
    unattempted := fun key run found => absurd found (noRun key run)
    single := fun uid => by simp [createdFor, initial.created] }

variable {key : Key} {after : AgentRun}

/-- A run found after a call was there before with the same UID, or has just been created. -/
theorem serve_origin (found : (serve c w).2.runs.get key = some after) :
    (∃ before, w.runs.get key = some before ∧ before.uid = after.uid ∧ before.key = after.key) ∨
      (after.key = key ∧ after.uid = w.nextUID ∧ (serve c w).2.nextUID = w.nextUID + 1 ∧
        ∀ other, other ≠ key → (serve c w).2.runs.get other = w.runs.get other) := by
  cases serve_run found with
  | same kept => exact .inl ⟨after, kept, rfl, rfl⟩
  | status _ before | notes _ before | updatedNotes _ before | updatedStatus _ before =>
    exact .inl ⟨_, before, rfl, rfl⟩
  | created named absent next =>
    subst named
    exact .inr ⟨rfl, rfl, next, fun _ distinct => createRun_other distinct _ _⟩

/-- Runs keep the keys and UIDs they were created with, and new ones get new UIDs. -/
theorem Sound.identified (sound : Sound w) (counters : w.nextUID ≤ w'.nextUID)
    (origin : ∀ {key after}, w'.runs.get key = some after →
      (∃ before, w.runs.get key = some before ∧ before.uid = after.uid ∧ before.key = after.key) ∨
        (after.key = key ∧ after.uid = w.nextUID ∧ w'.nextUID = w.nextUID + 1 ∧
          ∀ other, other ≠ key → w'.runs.get other = w.runs.get other)) :
    (∀ key run, w'.runs.get key = some run → run.key = key) ∧
      (∀ key run, w'.runs.get key = some run → run.uid ≠ 0 ∧ run.uid < w'.nextUID) ∧
      ∀ key key' run run', w'.runs.get key = some run → w'.runs.get key' = some run' →
        run.uid = run'.uid → key = key' := by
  refine ⟨fun key after found => ?_, fun key after found => ?_, ?_⟩
  · rcases origin found with ⟨before, was, -, same⟩ | ⟨same, -⟩
    · exact same.symm.trans (sound.runKey key before was)
    · exact same
  · rcases origin found with ⟨before, was, uid, -⟩ | ⟨-, uid, next, -⟩
    · have old := sound.runUID key before was
      exact ⟨uid ▸ old.1, uid ▸ lt_of_lt_of_le old.2 counters⟩
    · rw [uid, next]
      exact ⟨ne_of_gt sound.positive, lt_succ_self _⟩
  · intro key key' after after' found found' same
    have older {key : Key} {before : AgentRun} (was : w.runs.get key = some before) :
        before.uid ≠ w.nextUID := Nat.ne_of_lt (sound.runUID key before was).2
    rcases origin found with ⟨before, was, uid, -⟩ | ⟨-, uid, -, others⟩
    · rcases origin found' with ⟨before', was', uid', -⟩ | ⟨-, uid', -⟩
      · exact sound.runUnique _ _ _ _ was was' (uid.trans (same.trans uid'.symm))
      · exact absurd (uid.trans (same.trans uid')) (older was)
    · -- Nothing but the new run changed, so another run with its UID was there before.
      by_contra distinct
      rw [others key' (Ne.symm distinct)] at found'
      exact absurd (same.symm.trans uid) (older found')

/-- A sound server keeps the promises the contract relies on. -/
theorem Sound.honest (sound : Sound w) (c : Call) : promised c (serve c w).1 := by
  cases c with
  | getRun key =>
    intro run found
    exact ⟨sound.runKey key run found, (sound.runUID key run found).1, sound.launch key run found⟩
  | listRuns ns =>
    intro run listed
    simpa using (mem_filter.mp listed).2
  | getJob key =>
    intro job found
    exact sound.job key job found
  | listJobs ns =>
    intro job listed
    obtain ⟨member, near⟩ := mem_filter.mp listed
    obtain ⟨key, found⟩ := Table.exists_get_of_mem_values member
    exact ⟨by simpa using near, (sound.job key job found).2⟩
  | createJob draft =>
    intro job made
    simp only [serve] at made
    rcases createJob_cases w draft with ⟨reply, refused, same⟩ | ⟨valid, -, stored⟩
    · rw [same] at made
      exact absurd made (refused job)
    · rw [stored] at made
      cases made
      exact ⟨rfl, rfl, ne_of_gt sound.positive, valid⟩
  | patchStatus lock read new =>
    intro run patched
    obtain ⟨stored, found, -, key, -, status, -⟩ := patchStatus_reply patched
    refine ⟨key.trans (sound.runKey _ _ found), fun records => ?_⟩
    -- A time that was not there when it was read is part of the patch.
    have differs : new.status.launch.jobCreateAttemptedAt ≠ read.status.launch.jobCreateAttemptedAt := by
      intro same
      cases time : read.status.launch.jobCreateAttemptedAt <;>
        simp [recordsAttempt, same, time] at records
    rw [status]
    simp [mergeStatus, mergeLaunch, MergePatch.field, differs]
  | patchNotes read new =>
    intro run patched
    obtain ⟨stored, found, key, -⟩ := patchNotes_reply patched
    exact key.trans (sound.runKey _ _ found)
  | _ => trivial

/-- How a permitted status patch changes the launch fields of the stored run. -/
inductive LaunchChange (K : Know) (lock : Bool) (read new stored : AgentRun) : LaunchStatus → Prop
  | kept : LaunchChange K lock read new stored stored.status.launch
  | live (own : new.key = K.key) (stage : K.stage = .live) (was : stored.status.launch = K.launch)
      (kept : LaunchKept K new.status.launch) : LaunchChange K lock read new stored new.status.launch
  | attempt (own : new.key = K.key) (was : stored.status.launch = K.launch)
      (patch : AttemptPatch K lock read new) : LaunchChange K lock read new stored new.status.launch

variable {lock : Bool}

/-- The Jobs created for a UID, after one more was created. -/
theorem createdFor_append (job : Job) (uid : UID) (after : w'.created = w.created ++ [job]) :
    w'.createdFor uid =
      w.createdFor uid ++ if job.owner.any (fun owner => owner.uid = uid) then [job] else [] := by
  simp only [createdFor, after, filter_append]
  congr 1
  by_cases theirs : job.owner.any (fun owner => owner.uid = uid) <;> simp [theirs]

/-- A UID no created Job belongs to. -/
theorem createdFor_eq_nil {uid : UID}
    (none : ∀ made ∈ w.created, ∀ owner, made.owner = some owner → owner.uid ≠ uid) :
    w.createdFor uid = [] := by
  refine filter_eq_nil_iff.mpr fun made member => ?_
  cases owner : made.owner with
  | none => simp
  | some owner' => simpa using none made member owner' owner

/-- A call leaves the log of created Jobs or adds to it. -/
theorem serve_logged (c : Call) {made : Job} (member : made ∈ w.created) :
    made ∈ (serve c w).2.created := by
  rcases serve_created c w with same | ⟨_, -, -, grown, -⟩
  · rwa [same]
  · rw [grown]
    exact mem_append_left _ member

/-- The run under this key keeps its UID and its launch fields, if there is one. -/
def LaunchStays (w w' : World) (key : Key) : Prop :=
  ∀ run, w.runs.get key = some run → ∃ run', w'.runs.get key = some run' ∧ run'.uid = run.uid ∧
    run'.status.launch = run.status.launch

/-- What a reply may add to the knowledge of a pass. -/
inductive Learnt (K : Know) : (c : Call) → Reply c → Know → Prop
  | nothing {c : Call} {reply : Reply c} (other : c ≠ .getRun K.key) : Learnt K c reply K
  | gone : Learnt K (.getRun K.key) none K.close
  | read (run : AgentRun) : Learnt K (.getRun K.key) (some run) (K.readOwn run)
  | peer {key : Key} (run : AgentRun) (other : key ≠ K.key) :
      Learnt K (.getRun key) (some run) { K with peer := some run }
  | missing {key : Key} :
      Learnt K (.getJob key) none { K with sawMissing := key :: K.sawMissing }
  | job {key : Key} (job : Job) : Learnt K (.getJob key) (some job) { K with
      sawJobs := job :: K.sawJobs
      removed := []
      pending := K.pending && !decide (K.owns job) }
  | jobs {ns : String} (jobs : List Job) :
      Learnt K (.listJobs ns) jobs { K with sawJobs := jobs ++ K.sawJobs, removed := [] }
  | created {draft : Job} (job : Job) : Learnt K (.createJob draft) (.ok job) { K with
      pending := false, sawJobs := [job], sawMissing := [], removed := [] }
  | removed {key : Key} {reply : WriteReply Unit} :
      Learnt K (.deleteJob key) reply { K with removed := key :: K.removed }
  | noted {read new : AgentRun} (run : AgentRun) :
      Learnt K (.patchNotes read new) (.ok run) { K with noted := some run }
  | attempt {lock : Bool} {read new : AgentRun} (run : AgentRun) (own : new.key = K.key)
      (records : recordsAttempt read new = true) : Learnt K (.patchStatus lock read new) (.ok run)
        { K with base := some run, launch := new.status.launch, pending := true }
  | patched {lock : Bool} {read new : AgentRun} {reply : WriteReply AgentRun} (own : new.key = K.key) :
      Learnt K (.patchStatus lock read new) reply K.close
  | recorded {record : AgentRunArchiveRecord} {archivedAt : Nat} :
      Learnt K (.archiveRun record) (.ok archivedAt) { K with record := some record }
  | dropped {key : Key} {reply : WriteReply Unit} : Learnt K (.deleteRun key) reply { K with base := none }
  | profile {key : Key} (profile : AgentRunProfile) :
      Learnt K (.getProfile key) (some profile) { K with profile := some (key, profile) }
  | gated {limit : Nat} {effective : AgentRun} :
      Learnt K (.queuedBehind limit effective) (.ok none) { K with gated := true }

theorem Know.learnt (K : Know) (c : Call) (reply : Reply c) : Learnt K c reply (K.learn c reply) := by
  cases c with
  | getRun key =>
    by_cases own : key = K.key
    · subst own
      cases reply with
      | none => simpa [learn] using .gone
      | some run => simpa [learn] using .read run
    · cases reply with
      | none => simpa [learn, own] using .nothing (by simpa using own)
      | some run => simpa [learn, own] using .peer run own
  | getJob key =>
    cases reply with
    | none => exact .missing
    | some job => exact .job job
  | listJobs ns => exact .jobs reply
  | createJob draft =>
    cases reply with
    | ok job => exact .created job
    | _ => exact .nothing (by simp)
  | deleteJob key =>
    cases reply with
    | ok | notFound => exact .removed
    | _ => exact .nothing (by simp)
  | patchNotes read new =>
    cases reply with
    | ok run =>
      simp only [learn]
      split
      · exact .noted run
      · exact .nothing (by simp)
    | _ => exact .nothing (by simp)
  | patchStatus lock read new =>
    simp only [learn]
    split
    next => exact .nothing (by simp)
    next own =>
      split
      next records => exact .attempt _ (not_not.mp own) records
      next => exact .patched (not_not.mp own)
  | archiveRun record =>
    cases reply with
    | ok archivedAt => exact .recorded
    | error => exact .nothing (by simp)
  | deleteRun key => exact .dropped
  | getProfile key =>
    cases reply with
    | none => exact .nothing (by simp)
    | some profile => exact .profile profile
  | queuedBehind limit effective =>
    rcases reply with _ | _ | _
    · exact .nothing (by simp)
    · exact .gated
    · exact .nothing (by simp)
  | _ => exact .nothing (by simp)

/-- The same knowledge about the pass's own run, whatever else was seen. -/
structure Know.Alike (K K' : Know) : Prop where
  key : K'.key = K.key
  uid : K'.uid = K.uid
  stage : K'.stage = K.stage
  base : ∀ base, K'.base = some base → K.base = some base
  launch : K'.launch = K.launch
  pending : K'.pending = true → K.pending = true

theorem Know.Alike.refl (K : Know) : K.Alike K := ⟨rfl, rfl, rfl, fun _ => id, rfl, id⟩

/-- A call that is no read and no status patch of the pass's own run. -/
def Know.looksAside (K : Know) : Call → Prop
  | .getRun key => key ≠ K.key
  | .patchStatus _ _ new => new.key ≠ K.key
  | _ => True

/-- Such a call teaches nothing about the own run. -/
theorem Know.looksAside.alike (aside : K.looksAside c) (reply : Reply c) :
    K.Alike (K.learn c reply) := by
  have learnt := K.learnt c reply
  generalize K.learn c reply = K' at learnt ⊢
  cases learnt with
  | gone | read => exact absurd rfl aside
  | attempt _ own | patched own => exact absurd own aside
  | job =>
    refine ⟨rfl, rfl, rfl, fun _ => id, rfl, fun waits => ?_⟩
    exact (Bool.and_eq_true_iff.mp waits).1
  | created => exact ⟨rfl, rfl, rfl, fun _ => id, rfl, by simp⟩
  | dropped => exact ⟨rfl, rfl, rfl, by simp, rfl, id⟩
  | _ => exact ⟨rfl, rfl, rfl, fun _ => id, rfl, id⟩

variable {read new : AgentRun}

/-- The stages in which a pass may patch the status of its own run. -/
theorem ownPatch_stage (own : new.key = K.key) (permitted : K.permits (.patchStatus lock read new))
    :
    K.stage ≠ .start ∧ (K.pending = false ∨ K.stage = .closing) ∧
      (recordsAttempt read new = true → AttemptPatch K lock read new) := by
  rw [permits, if_pos own] at permitted
  have same (launch : new.status.launch = read.status.launch) : recordsAttempt read new = false := by
    cases time : read.status.launch.jobCreateAttemptedAt <;> simp [recordsAttempt, launch, time]
  rcases permitted with ⟨patch, plain⟩ | patch | patch | patch
  · exact ⟨by simp [patch.stage], .inl patch.settled, by simp [plain]⟩
  · exact ⟨by simp [patch.stage], .inl patch.settled, fun _ => patch⟩
  · obtain ⟨requester, now, shape⟩ := patch.status
    refine ⟨?_, .inl patch.settled, ?_⟩
    · rcases patch.stage with stage | stage <;> simp [stage]
    · simp [same (by rw [shape]; rfl)]
  · obtain ⟨receipt, shape⟩ := patch.status
    refine ⟨by simp [patch.stage], .inr patch.stage, ?_⟩
    simp [same (by rw [shape])]

variable {job : Job}

/-- A Job that a reply shows. -/
def shows : (c : Call) → Reply c → Job → Prop
  | .getJob _, reply, job => (reply : Option Job) = some job
  | .listJobs _, reply, job => job ∈ (reply : List Job)
  | .createJob _, reply, job => (reply : WriteReply Job) = .ok job
  | _, _, _ => False

theorem Know.readOwn_sawJobs {run : AgentRun} (seen : job ∈ (K.readOwn run).sawJobs) :
    job ∈ K.sawJobs := by
  unfold Know.readOwn at seen
  split at seen
  · cases seen
  · exact seen

/-- Sightings come from replies. -/
theorem Know.learn_sawJobs {reply : Reply c} (seen : job ∈ (K.learn c reply).sawJobs) :
    job ∈ K.sawJobs ∨ shows c reply job := by
  have learnt := K.learnt c reply
  generalize K.learn c reply = K' at learnt seen
  cases learnt with
  | read run => exact .inl (readOwn_sawJobs seen)
  | job found =>
    rcases mem_cons.mp seen with rfl | earlier
    · exact .inr rfl
    · exact .inl earlier
  | jobs listed => exact (mem_append.mp seen).symm
  | created made =>
    cases mem_singleton.mp seen
    exact .inr rfl
  | _ => exact .inl seen

/-- A Job that a reply shows was created at some point. -/
theorem Sound.shown (sound : Sound w) (shown : shows c (serve c w).1 job) :
    ∃ made ∈ (serve c w).2.created, SameJob made job := by
  cases c with
  | getJob key => exact sound.logged key job shown
  | listJobs ns =>
    obtain ⟨key, found⟩ := Table.exists_get_of_mem_values (mem_filter.mp shown).1
    exact sound.logged key job found
  | createJob draft =>
    simp only [shows, serve] at shown ⊢
    rcases createJob_cases w draft with ⟨reply, refused, same⟩ | ⟨-, -, made⟩
    · rw [same] at shown
      exact absurd shown (refused job)
    · rw [made] at shown ⊢
      cases shown
      exact ⟨_, mem_append_right _ (.head _), .refl _⟩
  | _ => exact absurd shown id

section Call

variable {pid : Key} {began : World} (pass : PassSound w pid began K)

include pass

theorem PassSound.launchChange {stored : AgentRun}
    (permitted : K.permits (.patchStatus lock read new)) (found : w.runs.get new.key = some stored)
    : LaunchChange K lock read new stored
      (mergeLaunch read.status.launch new.status.launch stored.status.launch) := by
  by_cases own : new.key = K.key
  · -- A live pass patches launch fields nobody else has touched since it read them.
    have fresh (stage : K.stage = .live) (base : K.base = some read) :
        stored.status.launch = K.launch ∧
          mergeLaunch read.status.launch new.status.launch stored.status.launch =
            new.status.launch := by
      obtain ⟨run, at_key, -, launch⟩ := pass.live stage
      rw [own, at_key] at found
      cases found
      refine ⟨launch, ?_⟩
      rw [launch, pass.baseLaunch stage read base, mergeLaunch_fresh]
    rw [permits, if_pos own] at permitted
    rcases permitted with ⟨patch, -⟩ | patch | patch | patch
    · obtain ⟨was, becomes⟩ := fresh patch.stage patch.base
      rw [becomes]
      exact .live own patch.stage was patch.launch
    · obtain ⟨was, becomes⟩ := fresh patch.stage patch.base
      rw [becomes]
      exact .attempt own was patch
    · obtain ⟨requester, now, rfl⟩ := patch.status
      simp only [holdStatus, AgentRunStatus.setReady, mergeLaunch_unchanged]
      exact .kept
    · obtain ⟨receipt, rfl⟩ := patch.status
      simp only [mergeLaunch_unchanged]
      exact .kept
  · rw [permits, if_neg own] at permitted
    obtain ⟨summary, now, rfl⟩ := permitted.status
    simp only [interruptedStatus, AgentRunStatus.setReady, mergeLaunch_unchanged]
    exact .kept

/-- A permitted call leaves the launch fields of all other runs alone. -/
theorem PassSound.launchStays (permitted : K.permits c) (elsewhere : key ≠ K.key ∨
      K.stage ≠ .closing ∧ ∀ lock read new, c = .patchStatus lock read new → new.key ≠ key) :
    LaunchStays w (serve c w).2 key := by
  intro run found
  generalize stored : (serve c w).2.runs.get key = result
  cases serve_run stored with
  | same kept => exact ⟨run, kept.symm.trans found, rfl, rfl⟩
  | @status lock read new stored₀ own before meets =>
    cases found.symm.trans before
    subst own
    refine ⟨_, rfl, rfl, ?_⟩
    have change := pass.launchChange permitted before
    simp only [mergeStatus]
    generalize mergeLaunch read.status.launch new.status.launch run.status.launch = launch at change
    rcases elsewhere with other | ⟨-, unpatched⟩
    · cases change with
      | kept => rfl
      | live own | attempt own => exact absurd own other
    · exact absurd rfl (unpatched lock read new rfl)
  | notes own before =>
    cases found.symm.trans before
    exact ⟨_, rfl, rfl, rfl⟩
  | updatedNotes | updatedStatus => exact absurd permitted id
  | created named absent next => cases found.symm.trans absent
  | deleted =>
    -- A pass deletes only the run it has read, and only when it is done with it.
    obtain ⟨stage, base, read, own, -⟩ := permitted
    rcases elsewhere with other | ⟨open_, -⟩
    · exact absurd (own.symm.trans (pass.baseKey base read)) other
    · exact absurd stage open_

/-- What a pass knows stays true while its run keeps its launch fields and its sightings grow. -/
theorem PassSound.aside {K' : Know} (alike : K.Alike K')
    (stays : K.stage ≠ .closing → LaunchStays w w' K.key) (created : K'.pending = true →
      ∀ made ∈ w'.created, ∀ owner, made.owner = some owner → owner.uid ≠ K.uid)
    (saw : ∀ job ∈ K'.sawJobs, ∃ made ∈ w'.created, SameJob made job) :
    PassSound w' pid began K' := by
  obtain ⟨key, uid, stage, base, launch, pending⟩ := alike
  refine ⟨key.trans pass.key, ?_, ?_, ?_, saw, fun waits => ?_, fun run before attempted => ?_⟩
  · rw [key]
    exact fun read known => pass.baseKey read (base read known)
  · rw [stage, key, uid, launch]
    intro live
    obtain ⟨run, found, uid, launch⟩ := pass.live live
    obtain ⟨run', found', uid', launch'⟩ := stays (by simp [live]) run found
    exact ⟨run', found', uid'.trans uid, launch'.trans launch⟩
  · rw [stage, launch]
    exact fun live read known => pass.baseLaunch live read (base read known)
  · rw [stage, launch, uid]
    obtain ⟨live, attempted, -⟩ := pass.pending (pending waits)
    exact ⟨live, attempted, created waits⟩
  · rw [key] at before
    have since := pass.since run before attempted
    rw [stage, key, launch]
    split at since
    next start =>
      rw [if_pos start]
      obtain ⟨run₁, found, attempted⟩ := since
      obtain ⟨run₂, found', -, launch'⟩ := stays (by simp [start]) run₁ found
      exact ⟨run₂, found', launch' ▸ attempted⟩
    next later =>
      rw [if_neg later]
      refine ⟨since.1, ?_⟩
      by_contra waits
      exact absurd (pending (by simpa using waits)) (by simp [since.2])

/-- A pass that waits for no Job may be done with its run. -/
theorem PassSound.close (idle : K.pending = false) (created : w'.created = w.created)
    (begun : K.stage = .start → w.runs.get K.key = none) : PassSound w' pid began K.close := by
  refine ⟨pass.key, ?_, ?_, ?_, ?_, ?_, fun run before attempted => ?_⟩
  · simp
  · simp
  · simp
  · rw [created]
    exact pass.saw
  · simp [Know.close, idle]
  · have since := pass.since run before attempted
    rw [if_neg (by simp)]
    split at since
    next start =>
      obtain ⟨run', found, -⟩ := since
      cases (begun start).symm.trans found
    next => exact since

/-- A pass that does not find its run will write nothing more. -/
theorem PassSound.readNone (missing : w.runs.get K.key = none) : PassSound w pid began K.close := by
  refine pass.close ?_ rfl fun _ => missing
  by_contra waits
  obtain ⟨run, found, -⟩ := pass.live (pass.pending (by simpa using waits)).1
  cases missing.symm.trans found

variable (sound : Sound w)

include sound

/-- A pass creates a Job only right after it recorded the attempt. -/
theorem PassSound.creating (permitted : K.permits (.createJob job)) :
    K.pending = true ∧ job.owner = some ⟨K.key.name, K.uid⟩ ∧ K.uid < w.nextUID := by
  obtain ⟨stage, owned, -, may⟩ := permitted
  obtain ⟨run, found, uid, launch⟩ := pass.live stage
  refine ⟨?_, owned.2, uid ▸ (sound.runUID _ _ found).2⟩
  rcases may with ⟨pending, -⟩ | ⟨unattempted, seen, member, theirs⟩
  · exact pending
  · -- A Job of the run seen without an attempt would have been created without one.
    obtain ⟨made, logged, same⟩ := pass.saw seen member
    have other := sound.unattempted _ run found (by rw [launch, unattempted]) made logged
      ⟨K.key.name, K.uid⟩ (same.owner.trans theirs.2)
    exact absurd uid.symm other

/-- What a permitted call leaves of the launch fields of a run. -/
theorem PassSound.launchAfter (permitted : K.permits c)
    (found : (serve c w).2.runs.get key = some after) :
    LaunchSound after.status.launch ∧ (after.status.launch.jobCreateAttemptedAt = none →
      after.uid = w.nextUID ∨ ∃ before, w.runs.get key = some before ∧ before.uid = after.uid ∧
        before.status.launch.jobCreateAttemptedAt = none) := by
  cases serve_run found with
  | same kept => exact ⟨sound.launch key after kept, fun none => .inr ⟨after, kept, rfl, none⟩⟩
  | @status lock read new stored₀ own before meets =>
    subst own
    have change := pass.launchChange permitted before
    simp only [mergeStatus]
    generalize mergeLaunch read.status.launch new.status.launch stored₀.status.launch = launch at change
    cases change with
    | kept => exact ⟨sound.launch _ _ before, fun none => .inr ⟨_, before, rfl, none⟩⟩
    | live own stage was kept =>
      refine ⟨kept.sound, fun none => .inr ⟨_, before, rfl, ?_⟩⟩
      rw [was, ← kept.attempt, none]
    | attempt own was patch =>
      obtain ⟨time, launch⟩ := patch.launch
      have old := was ▸ sound.launch _ _ before
      rw [launch]
      exact ⟨⟨fun _ => patch.complete, old.paired, old.named⟩, fun none => by simp at none⟩
  | @notes read new stored₀ own before =>
    exact ⟨sound.launch key stored₀ before, fun none => .inr ⟨_, before, rfl, none⟩⟩
  | updatedNotes | updatedStatus => exact absurd permitted id
  | created => exact ⟨launchSound_blank, fun _ => .inl rfl⟩

/-- A permitted call leaves the server sound. -/
theorem PassSound.serve_sound (permitted : K.permits c) : Sound (serve c w).2 := by
  have counters := (serve_counters c w).1
  obtain ⟨runKey, runUID, runUnique⟩ := sound.identified counters serve_origin
  -- The log changes only by a Job for the run of this pass, which has none yet.
  have grown : (serve c w).2.created = w.created ∨ K.pending = true ∧ K.uid < w.nextUID ∧
      ∃ job : Job, job.owner = some ⟨K.key.name, K.uid⟩ ∧
        (serve c w).2.created = w.created ++ [job] := by
    rcases serve_created c w with same | ⟨job, rfl, -, grown, -⟩
    · exact .inl same
    · obtain ⟨pending, owned, old⟩ := pass.creating sound permitted
      exact .inr ⟨pending, old, { job with uid := w.nextUID }, owned, grown⟩
  have logged {made : Job} {owner : OwnerReference} (member : made ∈ (serve c w).2.created)
      (owned : made.owner = some owner) :
      made ∈ w.created ∨ K.pending = true ∧ K.uid < w.nextUID ∧ owner.uid = K.uid := by
    rcases grown with unchanged | ⟨pending, old, job, theirs, grown⟩
    · exact .inl (unchanged ▸ member)
    · rw [grown, mem_append, mem_singleton] at member
      rcases member with earlier | rfl
      · exact .inl earlier
      · cases theirs.symm.trans owned
        exact .inr ⟨pending, old, rfl⟩
  refine ⟨runKey, runUID, runUnique, ?_, ?_, ?_, ?_, ?_, ?_, ?_⟩
  · exact fun key after found => (pass.launchAfter sound permitted found).1
  · intro key job found
    cases serve_job found with
    | same kept => exact sound.job key job kept
    | created own valid => exact ⟨own, ne_of_gt sound.positive, valid⟩
    | @expires old ttl before => exact sound.job key old before
  · intro key job found
    cases serve_job found with
    | same kept =>
      obtain ⟨made, member, same⟩ := sound.logged key job kept
      exact ⟨made, serve_logged c member, same⟩
    | created own valid absent log => exact ⟨_, log ▸ mem_append_right _ (.head _), .refl _⟩
    | @expires old ttl before =>
      obtain ⟨made, member, same⟩ := sound.logged key old before
      exact ⟨made, serve_logged _ member, same.key, same.uid, same.owner⟩
  · exact lt_of_lt_of_le sound.positive counters
  · intro made member owner owned
    refine lt_of_lt_of_le ?_ counters
    rcases logged member owned with earlier | ⟨-, old, theirs⟩
    · exact sound.owner made earlier owner owned
    · exact theirs ▸ old
  · intro key after found none made member owner owned same
    obtain fresh | ⟨before, was, uid, unattempted⟩ := (pass.launchAfter sound permitted found).2 none
    · refine absurd (same.trans fresh) (Nat.ne_of_lt ?_)
      rcases logged member owned with earlier | ⟨-, old, theirs⟩
      · exact sound.owner made earlier owner owned
      · exact theirs ▸ old
    · rcases logged member owned with earlier | ⟨pending, -, theirs⟩
      · exact sound.unattempted key before was unattempted made earlier owner owned
          (same.trans uid.symm)
      · -- The run the Job was made for has its attempt recorded.
        obtain ⟨stage, attempted, -⟩ := pass.pending pending
        obtain ⟨run, at_key, own, launch⟩ := pass.live stage
        obtain rfl : key = K.key :=
          sound.runUnique _ _ _ _ was at_key (uid.trans (same.symm.trans (theirs.trans own.symm)))
        cases was.symm.trans at_key
        rw [← launch, unattempted] at attempted
        cases attempted
  · intro uid
    rcases grown with unchanged | ⟨pending, -, job, owned, grown⟩
    · simpa [createdFor, unchanged] using sound.single uid
    · rw [createdFor_append job uid grown]
      by_cases theirs : K.uid = uid
      · subst theirs
        rw [createdFor_eq_nil (pass.pending pending).2.2]
        simp [owned]
      · simpa [owned, theirs] using sound.single uid

/-- What a pass learns from reading its own run. -/
theorem PassSound.readOwn {run : AgentRun} (found : w.runs.get K.key = some run) :
    PassSound w pid began (K.readOwn run) := by
  have at_key := sound.runKey _ _ found
  unfold Know.readOwn
  split
  next start =>
    have idle : K.pending = false := by
      by_contra waits
      have stage := (pass.pending (by simpa using waits)).1
      rw [start] at stage
      cases stage
    refine ⟨pass.key, ?_, fun _ => ⟨run, found, rfl, rfl⟩, ?_, by simp, ?_, ?_⟩
    · rintro base ⟨⟩
      exact at_key
    · rintro - base ⟨⟩
      rfl
    · intro waits
      simp [idle] at waits
    · intro before began' attempted
      have since := pass.since before began' attempted
      rw [if_pos start] at since
      obtain ⟨run', found', attempted'⟩ := since
      cases found.symm.trans found'
      have moved : firstStage run ≠ .start := by
        unfold firstStage
        split <;> [simp; split <;> [simp; split <;> simp]]
      rw [if_neg moved]
      exact ⟨attempted', idle⟩
  next later =>
    refine ⟨pass.key, ?_, pass.live, ?_, pass.saw, pass.pending, pass.since⟩
    · rintro base ⟨⟩
      exact at_key
    · rintro stage base ⟨⟩
      obtain ⟨stored, found', -, launch⟩ := pass.live stage
      cases found.symm.trans found'
      exact launch

/-- What a pass knows once it has stored the attempt: no Job of the run was created before. -/
theorem PassSound.attempted {read new run : AgentRun} (own : new.key = K.key)
    (patch : AttemptPatch K lock read new) (reply : (w.patchStatus lock read new).1 = .ok run) :
    PassSound (w.patchStatus lock read new).2 pid began
      { K with base := some run, launch := new.status.launch, pending := true } := by
  obtain ⟨stored, found, -, at_key, uid, status, after⟩ := patchStatus_reply reply
  rw [own] at found after
  obtain ⟨current, found', theirs, launch⟩ := pass.live patch.stage
  cases found.symm.trans found'
  have recorded : run.status.launch = new.status.launch := by
    simp only [status, mergeStatus]
    rw [launch, pass.baseLaunch patch.stage read patch.base, mergeLaunch_fresh]
  have untouched : Untouched w (w.patchStatus lock read new).2 :=
    serve_untouched (c := .patchStatus lock read new) rfl
  refine ⟨pass.key, ?_, fun _ => ⟨run, after, uid.trans theirs, recorded⟩, ?_, ?_, fun _ => ?_, ?_⟩
  · rintro base ⟨⟩
    exact at_key.trans (sound.runKey _ _ found)
  · rintro - base ⟨⟩
    exact recorded
  · rw [untouched.created]
    exact pass.saw
  · rw [untouched.created]
    obtain ⟨time, launch'⟩ := patch.launch
    refine ⟨patch.stage, by simp [launch'], ?_⟩
    rw [← theirs]
    exact sound.unattempted _ _ found (by rw [launch, patch.first])
  · -- A pass that began after an attempt knows of it and records none.
    intro run before attempted
    have since := pass.since run before attempted
    rw [if_neg (by simp [patch.stage]), patch.first] at since
    cases since.1

/-- What a pass knows after it patched the status of its own run. -/
theorem PassSound.patched (own : new.key = K.key)
    (permitted : K.permits (.patchStatus lock read new)) :
    PassSound (serve (.patchStatus lock read new) w).2 pid began
      (K.learn (.patchStatus lock read new) (serve (.patchStatus lock read new) w).1) := by
  obtain ⟨begun, settled, attempts⟩ := ownPatch_stage own permitted
  have idle : K.pending = false := by
    rcases settled with idle | closing
    · exact idle
    · by_contra waits
      have live := (pass.pending (by simpa using waits)).1
      rw [closing] at live
      cases live
  have untouched : Untouched w (w.patchStatus lock read new).2 :=
    serve_untouched (c := .patchStatus lock read new) rfl
  simp only [serve]
  -- The patch ends the pass unless it stored the attempt.
  have closes : PassSound (w.patchStatus lock read new).2 pid began K.close :=
    pass.close idle untouched.created fun start => absurd start begun
  cases records : recordsAttempt read new with
  | false => simpa [learn, own, records] using closes
  | true =>
    cases reply : (w.patchStatus lock read new).1 with
    | ok run =>
      rw [learn_attempt records own]
      exact pass.attempted sound own (attempts records) reply
    | notFound | conflict | alreadyExists | invalid => simpa [learn, own, records] using closes

/-- Every Job a pass has seen was created at some point. -/
theorem PassSound.sawLogged : ∀ job ∈ (K.learn c (serve c w).1).sawJobs,
      ∃ made ∈ (serve c w).2.created, SameJob made job := by
  intro job seen
  rcases learn_sawJobs seen with earlier | shown
  · obtain ⟨made, logged, same⟩ := pass.saw job earlier
    exact ⟨made, serve_logged c logged, same⟩
  · exact sound.shown shown

/-- What a pass knows stays true through each of its own calls. -/
theorem PassSound.learn (permitted : K.permits c) :
    PassSound (serve c w).2 pid began (K.learn c (serve c w).1) := by
  by_cases aside : K.looksAside c
  · have alike := aside.alike (serve c w).1
    refine pass.aside alike (fun open_ => ?_) (fun waits => ?_) (pass.sawLogged sound)
    · refine pass.launchStays permitted (.inr ⟨open_, ?_⟩)
      rintro lock read new rfl
      exact aside
    · rcases serve_created c w with same | ⟨job, rfl, absent, -, -⟩
      · rw [same]
        exact (pass.pending (alike.pending waits)).2.2
      · -- The pass that created the Job no longer waits for it.
        simp only [serve] at waits ⊢
        rcases createJob_cases w job with ⟨reply, -, refused⟩ | ⟨-, -, made⟩
        · rw [refused]
          exact (pass.pending (alike.pending waits)).2.2
        · rw [made] at waits
          simp [learn] at waits
  · cases c with
    | getRun key =>
      obtain rfl : key = K.key := not_not.mp aside
      simp only [serve]
      cases found : w.runs.get K.key with
      | none => simpa [learn] using pass.readNone found
      | some run => simpa [learn] using pass.readOwn sound found
    | patchStatus lock read new => exact pass.patched sound (not_not.mp aside) permitted
    | _ => exact absurd trivial aside

/-- What another pass knows stays true as well. -/
theorem PassSound.elsewhere {other : Key} {began' : World} {K' : Know} (permitted : K.permits c)
    (distinct : other ≠ pid) (theirs : PassSound w other began' K') :
    PassSound (serve c w).2 other began' K' := by
  have apart : K'.key ≠ K.key := by rwa [theirs.key, pass.key]
  refine theirs.aside (.refl K') (fun _ => pass.launchStays permitted (.inl apart)) ?_ ?_
  · intro waits made member owner owned
    obtain ⟨live, -, none⟩ := theirs.pending waits
    rcases serve_created c w with same | ⟨job, rfl, -, grown, -⟩
    · exact none made (same ▸ member) owner owned
    · rw [grown, mem_append, mem_singleton] at member
      rcases member with earlier | rfl
      · exact none made earlier owner owned
      · -- The Job is for the run of the calling pass, and runs differ in UID.
        obtain ⟨waits', own, -⟩ := pass.creating sound permitted
        obtain ⟨run, found, uid, -⟩ := pass.live (pass.pending waits').1
        obtain ⟨run', found', uid', -⟩ := theirs.live live
        cases own.symm.trans owned
        intro same
        exact apart (sound.runUnique _ _ _ _ found' found (uid'.trans (same.symm.trans uid.symm)))
  · intro job seen
    obtain ⟨made, logged, same⟩ := theirs.saw job seen
    exact ⟨made, serve_logged c logged, same⟩

end Call

section Act

variable {action : Act}

/-- A run found after an act was there before with the same status, or has just been created. -/
theorem act_origin (acted : act action w = some w') (found : w'.runs.get key = some after) :
    (∃ before, w.runs.get key = some before ∧ before.uid = after.uid ∧ before.key = after.key ∧
        before.status = after.status) ∨
      (after.key = key ∧ after.uid = w.nextUID ∧ after.status = {} ∧ w'.nextUID = w.nextUID + 1 ∧
        ∀ other, other ≠ key → w'.runs.get other = w.runs.get other) := by
  cases act_run acted found with
  | same kept => exact .inl ⟨after, kept, rfl, rfl, rfl⟩
  | changed before => exact .inl ⟨_, before, rfl, rfl, rfl⟩
  | created absent next others => exact .inr ⟨rfl, rfl, rfl, next, others⟩

/-- A Job found after an act was there before, with the same identity. -/
theorem act_jobOrigin {after : Job} (acted : act action w = some w')
    (found : w'.jobs.get key = some after) :
    ∃ before, w.jobs.get key = some before ∧ SameJob before after ∧
      (after.running = true → before.running = true) := by
  cases act_job acted found with
  | same kept => exact ⟨after, kept, .refl after, id⟩
  | changed before at_key uid owner ends =>
    exact ⟨_, before, ⟨at_key.symm, uid.symm, owner.symm⟩, ends⟩

theorem Sound.act (sound : Sound w) (acted : act action w = some w') : Sound w' := by
  obtain ⟨log, -, counters, -, -⟩ := act_frame acted
  obtain ⟨runKey, runUID, runUnique⟩ := sound.identified counters fun found => by
    rcases act_origin acted found with ⟨before, was, uid, key, -⟩ | ⟨key, uid, -, next⟩
    · exact .inl ⟨before, was, uid, key⟩
    · exact .inr ⟨key, uid, next⟩
  refine ⟨runKey, runUID, runUnique, ?_, ?_, ?_, lt_of_lt_of_le sound.positive counters, ?_, ?_, ?_⟩
  · intro key after found
    rcases act_origin acted found with ⟨before, was, -, -, status⟩ | ⟨-, -, status, -⟩
    · exact status ▸ sound.launch key before was
    · rw [status]
      exact launchSound_blank
  · intro key after found
    obtain ⟨before, was, same, -⟩ := act_jobOrigin acted found
    rw [← same.key, ← same.uid]
    exact sound.job key before was
  · intro key after found
    obtain ⟨before, was, same, -⟩ := act_jobOrigin acted found
    obtain ⟨made, member, alike⟩ := sound.logged key before was
    exact ⟨made, log ▸ member, alike.trans same⟩
  · intro made member owner owned
    exact lt_of_lt_of_le (sound.owner made (log ▸ member) owner owned) counters
  · intro key after found none made member owner owned
    rw [log] at member
    rcases act_origin acted found with ⟨before, was, uid, -, status⟩ | ⟨-, uid, -⟩
    · rw [← uid]
      exact sound.unattempted key before was (by rw [status, none]) made member owner owned
    · rw [uid]
      exact Nat.ne_of_lt (sound.owner made member owner owned)
  · intro uid
    simpa [createdFor, log] using sound.single uid

theorem PassSound.act {pid : Key} {began : World} (pass : PassSound w pid began K)
    (acted : act action w = some w') : PassSound w' pid began K := by
  obtain ⟨log, -⟩ := act_frame acted
  refine pass.aside (.refl K) (fun _ run found => ?_) ?_ ?_
  · obtain ⟨run', found', uid, status⟩ := act_stays acted found
    exact ⟨run', found', uid, by rw [status]⟩
  · rw [log]
    exact fun waits => (pass.pending waits).2.2
  · rw [log]
    exact pass.saw

end Act

theorem PassSound.start (w : World) (pid : Key) : PassSound w pid w (Know.start r pid) := by
  refine ⟨rfl, ?_, ?_, ?_, ?_, ?_, fun run found attempted => ?_⟩
  · simp [Know.start]
  · simp [Know.start]
  · simp [Know.start]
  · simp [Know.start]
  · simp [Know.start]
  · exact ⟨run, found, attempted⟩

/-- Every reachable server is sound, and so is what every pass in flight knows. -/
theorem controllers_sound {cfg : Config Key Call Reply World}
    (reached : (controllers r).Reaches Initial (fun _ _ => True) cfg) :
    Sound cfg.server ∧ ∀ pid p, cfg.procs pid = some p →
      (reconcileContract.Conforms (reconcileContract.know (Know.start r pid) p.seen) p.code
        fun _ _ => True) ∧
      PassSound cfg.server pid p.began (reconcileContract.know (Know.start r pid) p.seen) := by
  refine reached.local_invariant (C := reconcileContract) (G := Sound) (L := PassSound)
    (Know.start r) (reconcile_conforms r) ?_ ?_ ?_ ?_ ?_ ?_
  · exact fun cfg _ sound => sound.honest
  · exact fun w initial => initial.sound
  · exact fun cfg pid _ _ _ => .start cfg.server pid
  · intro cfg pid began seen request _ _ _ sound pass permitted
    exact ⟨pass.serve_sound sound permitted, pass.learn sound permitted⟩
  · intro cfg pid began seen request other p _ _ _ sound pass permitted distinct _ theirs
    exact pass.elsewhere sound permitted distinct theirs
  · intro cfg action w' _ _ acted sound
    exact ⟨sound.act acted, fun pid p _ pass => pass.act acted⟩

end AnvilAgents
