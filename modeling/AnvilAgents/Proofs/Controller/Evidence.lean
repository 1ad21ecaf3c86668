import AnvilAgents.Proofs.Controller.Passes

/-! What a pass has seen of its run's Job is still true when it writes the outcome. -/

namespace AnvilAgents

open Conc Text List Know

variable {w w' : World} {K K' : Know} {c : Call} {r : AgentRunReconciler}

/-- Launch fields that name this Job, as far as they name one. -/
structure Names (ns : String) (launch : LaunchStatus) (made : Job) : Prop where
  ns : made.key.ns = ns
  planned : launch.plannedJobRef = some made.key.ref
  jobRef : launch.jobRef = none ∨ launch.jobRef = some made.key.ref
  jobUID : launch.jobUID = 0 ∨ launch.jobUID = made.uid

/-- Every run names the Job that was created for it. -/
def Linked (w : World) : Prop :=
  ∀ key run made owner, w.runs.get key = some run → made ∈ w.created → made.owner = some owner →
    owner.uid = run.uid → Names key.ns run.status.launch made

variable {made : Job} {launch : LaunchStatus}

/-- The names lead to the Job. -/
theorem Names.recorded {ns : String} (names : Names ns launch made) (valid : made.key.valid = true)
    :
    recordedJobKey ns launch = some made.key := by
  have resolves : made.key.ref.resolve ns = made.key := by
    simp only [Key.valid, Bool.and_eq_true, Bool.not_eq_true', decide_eq_true_eq] at valid
    obtain ⟨⟨⟨-, name⟩, named⟩, space⟩ := valid
    simp [NamespacedObjectReference.resolve, Key.ref, name, space, firstNonEmpty, named]
  rcases names.jobRef with unset | set
  · simp [recordedJobKey, unset, names.planned, resolves]
  · simp [recordedJobKey, set, resolves]

/-- What a pass has seen of its run's Job, against what is stored. -/
structure Evidence (w : World) (K : Know) : Prop where
  ended : ∀ job ∈ K.sawJobs, K.owns job → job.running = false →
    ∀ key stored, w.jobs.get key = some stored → K.owns stored → stored.running = false
  removed : ∀ job ∈ K.sawJobs, K.owns job → job.key ∈ K.removed →
    ∀ key stored, w.jobs.get key = some stored → ¬ K.owns stored
  missing : ∀ key ∈ K.sawMissing, ∀ stored, w.jobs.get key = some stored → ¬ K.owns stored
  foreign : ∀ job ∈ K.sawJobs, ¬ K.owns job →
    ∀ stored, w.jobs.get job.key = some stored → ¬ K.owns stored

/-- A live pass has evidence, and a pass about to create a Job knows of none. -/
structure PassSeen (w : World) (K : Know) : Prop where
  unlaunched : K.pending = true → K.launch.jobRef = none
  evidence : K.stage = .live → Evidence w K

/-- Every Job of the run found later was there before, and was running if it is. -/
def JobsKept (K : Know) (w w' : World) : Prop :=
  ∀ key after, w'.jobs.get key = some after → K.owns after →
    ∃ before, w.jobs.get key = some before ∧ K.owns before ∧
      (after.running = true → before.running = true)

/-- The same run and the same sightings of Jobs. -/
structure SameSightings (K K' : Know) : Prop where
  key : K'.key = K.key
  uid : K'.uid = K.uid
  sawJobs : K'.sawJobs = K.sawJobs
  sawMissing : K'.sawMissing = K.sawMissing
  removed : K'.removed = K.removed

theorem SameSightings.owns (same : SameSightings K K') (job : Job) : K'.owns job ↔ K.owns job := by
  simp only [Know.owns, same.key, same.uid]

/-- Evidence lasts as long as no Job of the run is created or revived. -/
theorem Evidence.keep (evidence : Evidence w K) (kept : JobsKept K w w')
    (same : SameSightings K K') : Evidence w' K' := by
  refine ⟨?_, ?_, ?_, ?_⟩
  · rw [same.sawJobs]
    intro job seen owned ended key after found theirs
    obtain ⟨before, was, own, runs⟩ := kept key after found ((same.owns _).mp theirs)
    by_contra running
    have ended := evidence.ended job seen ((same.owns _).mp owned) ended key before was own
    simp [runs (by simpa using running)] at ended
  · rw [same.sawJobs, same.removed]
    intro job seen owned dropped key after found theirs
    obtain ⟨before, was, own, -⟩ := kept key after found ((same.owns _).mp theirs)
    exact evidence.removed job seen ((same.owns _).mp owned) dropped key before was own
  · rw [same.sawMissing]
    intro key absent after found theirs
    obtain ⟨before, was, own, -⟩ := kept key after found ((same.owns _).mp theirs)
    exact evidence.missing key absent before was own
  · rw [same.sawJobs]
    intro job seen other after found theirs
    obtain ⟨before, was, own, -⟩ := kept job.key after found ((same.owns _).mp theirs)
    exact evidence.foreign job seen (mt (same.owns _).mpr other) before was own

/-- No call but the creation of a Job adds one or revives one. -/
theorem serve_jobsKept (K : Know) (other : ∀ job, c ≠ .createJob job) : JobsKept K w (serve c w).2 := by
  intro key after found owned
  cases serve_job found with
  | same kept => exact ⟨after, kept, owned, id⟩
  | created => exact absurd rfl (other _)
  | expires before => exact ⟨_, before, owned, id⟩

/-- The environment neither adds Jobs nor revives them. -/
theorem act_jobsKept {action : Act} (K : Know) (acted : act action w = some w') : JobsKept K w w' := by
  intro key after found owned
  obtain ⟨before, was, same, runs⟩ := act_jobOrigin acted found
  exact ⟨before, was, ⟨owned.1, same.owner.trans owned.2⟩, runs⟩

/-- The calls whose replies tell of Jobs. -/
def Call.tellsOfJobs : Call → Bool
  | .getJob _ | .listJobs _ | .createJob _ | .deleteJob _ => true
  | _ => false

/-- All other replies leave the sightings alone, once the run has been read. -/
theorem Know.learn_sightings (begun : K.stage ≠ .start) (silent : c.tellsOfJobs = false)
    (reply : Reply c) : SameSightings K (K.learn c reply) := by
  have learnt := K.learnt c reply
  generalize K.learn c reply = K' at learnt ⊢
  cases learnt with
  | read run =>
    unfold readOwn
    split
    next start => exact absurd start begun
    next => exact ⟨rfl, rfl, rfl, rfl, rfl⟩
  | missing | job | jobs | created | removed => cases silent
  | _ => exact ⟨rfl, rfl, rfl, rfl, rfl⟩

variable {key : Key}

theorem deleteJob_absent (w : World) (key : Key) : (serve (.deleteJob key) w).2.jobs.get key = none := by
  simp only [serve]
  split
  · assumption
  · simp

/-- A pass is live because it was, or because it has just read its run. -/
theorem Know.learn_live {reply : Reply c} (live : (K.learn c reply).stage = .live) :
    K.stage = .live ∨ ((K.learn c reply).sawJobs = [] ∧ (K.learn c reply).sawMissing = [] ∧
      (K.learn c reply).removed = []) := by
  have learnt := K.learnt c reply
  generalize K.learn c reply = K' at learnt live ⊢
  cases learnt with
  | gone => cases live
  | read run =>
    unfold readOwn at live ⊢
    split at live
    next => exact .inr (by simp)
    next => exact .inl live
  | patched => cases live
  | _ => exact .inl live

/-- A pass is about to create a Job because it was, or because it has just recorded the attempt. -/
theorem Know.learn_pending {reply : Reply c} (waits : (K.learn c reply).pending = true) :
    (K.pending = true ∧ (K.stage = .start ∨ (K.learn c reply).launch = K.launch)) ∨
      ∃ lock read new, c = .patchStatus lock read new ∧ new.key = K.key ∧
        recordsAttempt read new = true ∧ (K.learn c reply).launch = new.status.launch := by
  have learnt := K.learnt c reply
  generalize K.learn c reply = K' at learnt waits ⊢
  cases learnt with
  | read run =>
    unfold readOwn at waits ⊢
    split at waits
    next start => exact .inl ⟨waits, .inl start⟩
    next => exact .inl ⟨waits, .inr rfl⟩
  | job => exact .inl ⟨(Bool.and_eq_true_iff.mp waits).1, .inr rfl⟩
  | created => cases waits
  | attempt run own records => exact .inr ⟨_, _, _, rfl, own, records, rfl⟩
  | _ => exact .inl ⟨waits, .inr rfl⟩

theorem PassSeen.keep (seen : PassSeen w K) (kept : K.stage = .live → JobsKept K w w') :
    PassSeen w' K :=
  ⟨seen.unlaunched, fun live => (seen.evidence live).keep (kept live) ⟨rfl, rfl, rfl, rfl, rfl⟩⟩

variable {owner : OwnerReference}

section Pass

variable (sound : Sound w)

include sound

/-- Two Jobs created for one UID are one. -/
theorem Sound.sole {made made' : Job} {owner owner' : OwnerReference} (member : made ∈ w.created)
    (member' : made' ∈ w.created) (owned : made.owner = some owner)
    (owned' : made'.owner = some owner') (same : owner.uid = owner'.uid) : made = made' := by
  have first : made ∈ w.createdFor owner.uid := mem_filter.mpr ⟨member, by simp [owned]⟩
  have second : made' ∈ w.createdFor owner.uid := mem_filter.mpr ⟨member', by simp [owned', same]⟩
  have single := sound.single owner.uid
  match only : w.createdFor owner.uid with
  | [] => simp [only] at first
  | [job] =>
    rw [only, mem_singleton] at first second
    exact first.trans second.symm
  | _ :: _ :: _ => simp [only] at single

/-- A Job of the run that is stored is the one a sighting of its own shows. -/
theorem Sound.sameOwn {job stored made : Job} (member : made ∈ w.created) (same : SameJob made job)
    (owned : K.owns job) (found : w.jobs.get key = some stored) (theirs : K.owns stored) :
    key = job.key ∧ stored.uid = job.uid := by
  obtain ⟨made', member', same'⟩ := sound.logged key stored found
  obtain rfl := sound.sole member member' (same.owner.trans owned.2) (same'.owner.trans theirs.2) rfl
  have at_key := (sound.job key stored found).1
  exact ⟨at_key.symm.trans (same'.key.symm.trans same.key), same'.uid.symm.trans same.uid⟩

/-- A sighting of what is stored right now is evidence. -/
theorem Evidence.sight (evidence : Evidence w K) (seen : List Job)
    (current : ∀ job ∈ seen, w.jobs.get job.key = some job) (waits : Bool) :
    Evidence w { K with sawJobs := seen ++ K.sawJobs, removed := [], pending := waits } := by
  refine ⟨?_, by simp, evidence.missing, ?_⟩
  · intro job member owned ended key stored found theirs
    rcases mem_append.mp member with new | old
    · obtain ⟨made, logged, same⟩ := sound.logged _ job (current job new)
      obtain ⟨rfl, -⟩ := sound.sameOwn (K := K) logged same owned found theirs
      cases (current job new).symm.trans found
      exact ended
    · exact evidence.ended job old owned ended key stored found theirs
  · intro job member other stored found
    rcases mem_append.mp member with new | old
    · cases (current job new).symm.trans found
      exact other
    · exact evidence.foreign job old other stored found

/-- A run with a Job has recorded the attempt to create it. -/
theorem Sound.attempted {run : AgentRun} (found : w.runs.get key = some run)
    (member : made ∈ w.created) (owned : made.owner = some owner) (theirs : owner.uid = run.uid) :
    run.status.launch.jobCreateAttemptedAt.isSome := by
  by_contra unattempted
  exact sound.unattempted key run found (by simpa using unattempted) made member owner owned theirs

theorem Linked.act {action : Act} (linked : Linked w) (acted : act action w = some w') :
    Linked w' := by
  obtain ⟨log, -⟩ := act_frame acted
  intro key after made owner found member owned theirs
  rw [log] at member
  rcases act_origin acted found with ⟨before, was, uid, -, status⟩ | ⟨-, uid, -⟩
  · exact status ▸ linked key before made owner was member owned (theirs.trans uid.symm)
  · exact absurd (theirs.trans uid) (Nat.ne_of_lt (sound.owner made member owner owned))

variable {pid : Key} {began : World} (pass : PassSound w pid began K)

include pass

/-- Evidence grows with every reply a live pass gets. -/
theorem Evidence.learn (after : Sound (serve c w).2) (live : K.stage = .live)
    (evidence : Evidence w K) : Evidence (serve c w).2 (K.learn c (serve c w).1) := by
  cases tells : c.tellsOfJobs with
  | false =>
    have other (job : Job) : c ≠ .createJob job := by
      rintro rfl
      simp [Call.tellsOfJobs] at tells
    exact evidence.keep (serve_jobsKept K other) (learn_sightings (by simp [live]) tells _)
  | true =>
    cases c with
    | getJob key =>
      simp only [serve]
      cases found : w.jobs.get key with
      | none =>
        refine ⟨evidence.ended, evidence.removed, fun key' absent stored found' => ?_, evidence.foreign⟩
        rcases mem_cons.mp absent with rfl | earlier
        · cases found.symm.trans found'
        · exact evidence.missing key' earlier stored found'
      | some job =>
        refine evidence.sight sound [job] ?_ _
        intro job' only
        cases mem_singleton.mp only
        rw [(sound.job key job found).1]
        exact found
    | listJobs ns =>
      have current : ∀ job ∈ w.jobs.values.filter (·.key.ns = ns), w.jobs.get job.key = some job := by
        intro job listed
        obtain ⟨key, found⟩ := Table.exists_get_of_mem_values (mem_filter.mp listed).1
        rw [(sound.job key job found).1]
        exact found
      exact evidence.sight sound _ current K.pending
    | createJob draft =>
      simp only [serve] at after ⊢
      rcases createJob_cases w draft with ⟨reply, refused, same⟩ | ⟨-, absent, made⟩
      · rw [same] at after ⊢
        cases reply with
        | ok job => exact absurd rfl (refused job)
        | _ => exact evidence
      · -- What was seen before the new Job is forgotten; the new Job itself is stored.
        rw [made] at after ⊢
        have fresh : Evidence (w.createJob draft).2
            { K with sawJobs := [], sawMissing := [], removed := [], pending := false } :=
          ⟨by simp, by simp, by simp, by simp⟩
        rw [made] at fresh
        have sighted := fresh.sight after [{ draft with uid := w.nextUID }] (fun job only => by
          cases mem_singleton.mp only
          simp) false
        exact sighted
    | deleteJob key =>
      have kept : Evidence (serve (.deleteJob key) w).2 K :=
        evidence.keep (serve_jobsKept K (by simp)) ⟨rfl, rfl, rfl, rfl, rfl⟩
      have gone := deleteJob_absent w key
      have dropped : Evidence (serve (.deleteJob key) w).2 { K with removed := key :: K.removed } := by
        refine ⟨kept.ended, fun job seen owned member key' stored found theirs => ?_, kept.missing,
          kept.foreign⟩
        rcases mem_cons.mp member with now | earlier
        · -- The run's one Job is the one that was deleted.
          obtain ⟨made, logged, same⟩ := pass.saw job seen
          obtain ⟨rfl, -⟩ := after.sameOwn (K := K) (serve_logged _ logged) same owned found theirs
          rw [now, gone] at found
          cases found
        · exact kept.removed job seen owned earlier key' stored found theirs
      cases found : w.jobs.get key <;>
        · simp only [serve, found] at dropped ⊢
          exact dropped
    | _ => simp [Call.tellsOfJobs] at tells

/-- What a pass has seen stays true through its own calls. -/
theorem PassSeen.learn (after : Sound (serve c w).2) (permitted : K.permits c) (seen : PassSeen w K)
    : PassSeen (serve c w).2 (K.learn c (serve c w).1) := by
  refine ⟨fun waits => ?_, fun live => ?_⟩
  · rcases learn_pending waits with ⟨waited, start | same⟩ | ⟨lock, read, new, rfl, own, records, launch⟩
    · have live := (pass.pending waited).1
      simp [start] at live
    · rw [same]
      exact seen.unlaunched waited
    · have patch := (ownPatch_stage own permitted).2.2 records
      obtain ⟨time, recorded⟩ := patch.launch
      rw [launch, recorded]
      exact patch.unlaunched
  · rcases learn_live live with live | ⟨jobs, missing, removed⟩
    · exact (seen.evidence live).learn sound pass after live
    · exact ⟨by simp [jobs], by simp [jobs], by simp [missing], by simp [jobs]⟩

/-- The Jobs of one run are no business of the passes of others. -/
theorem PassSound.jobsKept {pid' : Key} {began' : World} (permitted : K.permits c)
    (theirs : PassSound w pid' began' K') (apart : K'.key ≠ K.key) (live : K'.stage = .live) :
    JobsKept K' w (serve c w).2 := by
  intro key after found owned
  cases serve_job found with
  | same kept => exact ⟨after, kept, owned, id⟩
  | created own valid absent log =>
    -- The Job is for the run of the calling pass, and runs differ in UID.
    obtain ⟨waits, mine, -⟩ := pass.creating sound permitted
    obtain ⟨run, at_key, uid, -⟩ := pass.live (pass.pending waits).1
    obtain ⟨run', at_key', uid', -⟩ := theirs.live live
    have same : K'.uid = K.uid :=
      congrArg OwnerReference.uid (Option.some.inj (owned.2.symm.trans mine))
    exact absurd (sound.runUnique _ _ _ _ at_key' at_key (uid'.trans (same.trans uid.symm))) apart
  | expires before => exact ⟨_, before, owned, id⟩

/-- A status patch leaves the run naming its Job. -/
theorem Linked.patched {lock : Bool} {read new stored : AgentRun} (linked : Linked w)
    (found : w.runs.get new.key = some stored) (change : LaunchChange K lock read new stored launch)
    (member : made ∈ w.created) (owned : made.owner = some owner) (theirs : owner.uid = stored.uid)
    : Names new.key.ns launch made := by
  have names := linked _ _ _ _ found member owned theirs
  have attempted := sound.attempted found member owned theirs
  cases change with
  | kept => exact names
  | live own stage was kept =>
    rw [was] at names attempted
    have planned := (kept.planned attempted).trans names.planned
    rcases kept.identity with ⟨ref, uid⟩ | ⟨ref, uid⟩ | ⟨job, seen, mine, ref, uid⟩
    · exact ⟨names.ns, planned, ref ▸ names.jobRef, uid ▸ names.jobUID⟩
    · exact ⟨names.ns, planned, .inl ref, .inl uid⟩
    · -- A Job of the run that the pass has seen is the one that was created.
      obtain ⟨run, found', theirs', -⟩ := pass.live stage
      rw [own] at found
      cases found.symm.trans found'
      obtain ⟨made', logged, same⟩ := pass.saw job seen
      obtain rfl := sound.sole member logged owned (same.owner.trans mine.2) (theirs.trans theirs')
      exact ⟨names.ns, planned, .inr (same.key ▸ ref), .inr (uid.trans same.uid.symm)⟩
  | attempt own was patch => simp [was, patch.first] at attempted

/-- The Job a pass creates is the one its run names. -/
theorem PassSeen.names {run : AgentRun} {job : Job} (seen : PassSeen w K)
    (permitted : K.permits (.createJob job)) (found : w.runs.get key = some run)
    (theirs : K.uid = run.uid) (uid : UID) :
    Names key.ns run.status.launch { job with uid := uid } := by
  obtain ⟨waits, -, -⟩ := pass.creating sound permitted
  obtain ⟨stage, -, near, may⟩ := permitted
  obtain ⟨run', found', uid', launch⟩ := pass.live stage
  obtain rfl := sound.runUnique _ _ _ _ found' found (uid'.trans theirs)
  cases found.symm.trans found'
  have unset : run.status.launch.jobRef = none := launch ▸ seen.unlaunched waits
  refine ⟨near, ?_, .inl unset, .inl ((sound.launch _ _ found).paired.mp unset)⟩
  rcases may with ⟨-, -, planned⟩ | ⟨unattempted, -⟩
  · exact launch ▸ planned
  · have attempted := (pass.pending waits).2.1
    simp [unattempted] at attempted

/-- A permitted call leaves every run naming its Job. -/
theorem Linked.serve (seen : PassSeen w K) (permitted : K.permits c) (linked : Linked w) :
    Linked (serve c w).2 := by
  intro key after made owner found member owned theirs
  rcases serve_created c w with same | ⟨job, rfl, -, grown, -⟩
  · rw [same] at member
    cases serve_run found with
    | same kept => exact linked key after made owner kept member owned theirs
    | @status lock read new stored₀ own before meets =>
      subst own
      exact linked.patched sound pass before (pass.launchChange permitted before) member owned theirs
    | @notes read new stored₀ own before =>
      exact linked key stored₀ made owner before member owned theirs
    | updatedNotes | updatedStatus => exact absurd permitted id
    | created => exact absurd theirs (Nat.ne_of_lt (sound.owner made member owner owned))
  · simp only [AnvilAgents.serve, createJob_runs] at found
    rw [grown, mem_append, mem_singleton] at member
    rcases member with earlier | rfl
    · exact linked key after made owner found earlier owned theirs
    · obtain ⟨-, mine, -⟩ := pass.creating sound permitted
      cases mine.symm.trans owned
      exact seen.names sound pass permitted found theirs w.nextUID

/-- A pass that has evidence that the execution is over is right. -/
theorem PassSeen.ended {job : Job} (linked : Linked w) (seen : PassSeen w K)
    (live : K.stage = .live) (ended : K.sawExecutionOver) (found : w.jobs.get key = some job)
    (owned : K.owns job) : job.running = false := by
  obtain ⟨run, at_key, uid, launch⟩ := pass.live live
  have evidence := seen.evidence live
  obtain ⟨made, member, same⟩ := sound.logged key job found
  have theirs : made.owner = some ⟨K.key.name, K.uid⟩ := same.owner.trans owned.2
  have attempted := sound.attempted at_key member theirs uid.symm
  have names := linked _ _ _ _ at_key member theirs uid.symm
  rw [launch] at attempted names
  rcases ended with unattempted | ⟨sighted, member', mine, ended | dropped⟩ | ⟨key', recorded, gone⟩
  · simp [unattempted] at attempted
  · exact evidence.ended sighted member' mine ended key job found owned
  · exact absurd owned (evidence.removed sighted member' mine dropped key job found)
  · -- The recorded key is the one the stored Job is under, so no sighting can say otherwise.
    obtain ⟨stored_at, -, valid⟩ := sound.job key job found
    rw [names.recorded (same.key ▸ valid), Option.some.injEq] at recorded
    have here : key' = key := recorded.symm.trans (same.key.trans stored_at)
    rcases gone with elsewhere | missing | ⟨sighted, member', rfl, other | ⟨known, differs⟩⟩
    · exact absurd (recorded ▸ names.ns) elsewhere
    · exact absurd owned (evidence.missing key' missing job (here ▸ found))
    · exact absurd owned (evidence.foreign sighted member' other job (here ▸ found))
    · by_cases mine : K.owns sighted
      · obtain ⟨made', logged, same'⟩ := pass.saw sighted member'
        obtain rfl := sound.sole member logged theirs (same'.owner.trans mine.2) rfl
        rcases names.jobUID with unset | set
        · exact absurd unset known
        · exact absurd (same'.uid.symm.trans set.symm) differs
      · exact absurd owned (evidence.foreign sighted member' mine job (here ▸ found))

end Pass

/-- In every reachable state runs name their Jobs and passes can rely on what they saw. -/
theorem controllers_evidence {cfg : Config Key Call Reply World}
    (reached : (controllers r).Reaches World.Initial (fun _ _ => True) cfg) :
    Linked cfg.server ∧ ∀ pid p, cfg.procs pid = some p →
      PassSeen cfg.server (reconcileContract.know (start r pid) p.seen) := by
  have holds := reached.local_invariant (C := reconcileContract) (G := Linked)
    (L := fun w _ _ K => PassSeen w K) (start r) (reconcile_conforms r)
    ?_ ?_ ?_ ?_ ?_ ?_
  · exact ⟨holds.1, fun pid p found => (holds.2 pid p found).2⟩
  · exact fun cfg reached _ => (controllers_sound reached).1.honest
  · intro w initial key run made owner found
    simp [initial.runs, Table.empty] at found
  · intro cfg pid _ _ _
    exact ⟨by simp [start], by simp [start]⟩
  · intro cfg pid began seen request reached _ calling linked saw permitted
    obtain ⟨rest, at_pid⟩ := calling
    obtain ⟨sound, passes⟩ := controllers_sound reached
    have pass := (passes pid _ at_pid).2
    exact ⟨linked.serve sound pass saw permitted,
      saw.learn sound pass (pass.serve_sound sound permitted) permitted⟩
  · intro cfg pid began seen request other p reached _ calling linked saw permitted distinct busy theirs
    obtain ⟨rest, at_pid⟩ := calling
    obtain ⟨sound, passes⟩ := controllers_sound reached
    have pass := (passes pid _ at_pid).2
    have pass' := (passes other _ busy).2
    have apart : (reconcileContract.know (start r other) p.seen).key ≠
        (reconcileContract.know (start r pid) seen).key := by
      rwa [know_key, know_key]
    exact theirs.keep (pass.jobsKept sound permitted pass' apart)
  · intro cfg action w' reached _ acted linked
    obtain ⟨sound, -⟩ := controllers_sound reached
    exact ⟨linked.act sound acted, fun pid p _ saw => saw.keep fun _ => act_jobsKept _ acted⟩

end AnvilAgents
