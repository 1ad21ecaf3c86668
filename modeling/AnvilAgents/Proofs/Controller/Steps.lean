import AnvilAgents.Controller.Server

/-! What one call, or one act of the environment, does to a single stored object. -/

namespace AnvilAgents

open World Option Nat

variable {w w' : World} {c : Call} {key : Key}

/-- A patch meets the version it insists on, if it insists on one. -/
def World.meetsVersion (lock : Bool) (read new stored : AgentRun) : Prop :=
  ∀ version, expectedVersion lock read new = some version → version = stored.resourceVersion

/-- What a call may leave under the key of a run. -/
inductive RunStep (w : World) (key : Key) : Call → Option AgentRun → Prop
  | same {c : Call} {row : Option AgentRun} (kept : w.runs.get key = row) : RunStep w key c row
  | status {lock : Bool} {read new stored : AgentRun} (own : new.key = key)
      (found : w.runs.get key = some stored) (meets : meetsVersion lock read new stored) :
      RunStep w key (.patchStatus lock read new) (some { stored with
        status := mergeStatus read.status new.status stored.status
        resourceVersion := w.nextVersion })
  | notes {read new stored : AgentRun} (own : new.key = key) (found : w.runs.get key = some stored) :
      RunStep w key (.patchNotes read new) (some { stored with
        notes := mergeNotes read.notes new.notes stored.notes
        resourceVersion := w.nextVersion })
  | updatedNotes {new stored : AgentRun} (own : new.key = key) (found : w.runs.get key = some stored)
      (current : stored.resourceVersion = new.resourceVersion) :
      RunStep w key (.updateNotes new) (some { stored with
        notes := new.notes
        resourceVersion := w.nextVersion })
  | updatedStatus {new stored : AgentRun} (own : new.key = key) (found : w.runs.get key = some stored)
      (current : stored.resourceVersion = new.resourceVersion) :
      RunStep w key (.updateStatus new) (some { stored with
        status := new.status
        resourceVersion := w.nextVersion })
  | created {ns generateName : String} {spec : AgentRunSpec}
      (named : key = ⟨ns, generateName ++ toString w.nextUID⟩) (absent : w.runs.get key = none)
      (next : (serve (.createPeer ns generateName spec) w).2.nextUID = w.nextUID + 1)
      (made : (serve (.createPeer ns generateName spec) w).1 = .ok
        { key := key, uid := w.nextUID, resourceVersion := w.nextVersion, generation := 1,
          creationTimestamp := w.clock / second, spec := spec }) :
      RunStep w key (.createPeer ns generateName spec) (some
        { key := key, uid := w.nextUID, resourceVersion := w.nextVersion, generation := 1,
          creationTimestamp := w.clock / second, spec := spec })
  | deleted : RunStep w key (.deleteRun key) none

/-- The row of a table after one row was written or removed. -/
theorem Table.get_put {K V : Type} [DecidableEq K] (t : Table K V) (key other : K) (value : V) :
    (t.put key value).get other = if other = key then some value else t.get other := by
  by_cases same : other = key
  · subst same
    simp
  · simp [same]

/-- What writing a changed run back comes to, if only runs that fit are written. -/
inductive Rewrites (w : World) (key : Key) (fits : AgentRun → Prop) (change : AgentRun → AgentRun) :
    WriteReply AgentRun × World → Prop
  | refused {reply : WriteReply AgentRun} (fails : ∀ run, reply ≠ .ok run) :
      Rewrites w key fits change (reply, w)
  | kept {stored : AgentRun} (found : w.runs.get key = some stored) (fit : fits stored)
      (same : change stored = stored) : Rewrites w key fits change (.ok stored, w)
  | put {stored : AgentRun} (found : w.runs.get key = some stored) (fit : fits stored) :
      Rewrites w key fits change
        (.ok (w.putRun key (change stored)).1, (w.putRun key (change stored)).2)

theorem patchStatus_rewrites (lock : Bool) (read new : AgentRun) :
    Rewrites w new.key (meetsVersion lock read new)
      (fun stored => { stored with status := mergeStatus read.status new.status stored.status })
      (w.patchStatus lock read new) := by
  unfold patchStatus
  cases found : w.runs.get new.key with
  | none => exact .refused fun _ => nofun
  | some stored =>
    dsimp only
    split
    next => exact .refused fun _ => nofun
    next meets =>
      have fit : meetsVersion lock read new stored := fun version insists => by
        simpa [insists] using meets
      split
      next same => exact .kept found fit (by rw [same])
      next => exact .put found fit

theorem patchNotes_rewrites (read new : AgentRun) :
    Rewrites w new.key (fun _ => True)
      (fun stored => { stored with notes := mergeNotes read.notes new.notes stored.notes })
      (w.patchNotes read new) := by
  unfold patchNotes
  cases found : w.runs.get new.key with
  | none => exact .refused fun _ => nofun
  | some stored =>
    dsimp only
    split
    next same => exact .kept found trivial (by rw [same])
    next => exact .put found trivial

theorem replaceRun_rewrites (new : AgentRun) (change : AgentRun → AgentRun) :
    Rewrites w new.key (·.resourceVersion = new.resourceVersion) change
      (w.replaceRun new change) := by
  unfold replaceRun
  cases found : w.runs.get new.key with
  | none => exact .refused fun _ => nofun
  | some stored =>
    dsimp only
    split
    next => exact .refused fun _ => nofun
    next current =>
      split
      next same => exact .kept found (not_not.mp current) same
      next => exact .put found (not_not.mp current)

section

variable {fits : AgentRun → Prop} {change : AgentRun → AgentRun}
  {result : WriteReply AgentRun × World} (wrote : Rewrites w key fits change result)

include wrote

/-- What holds of a row that is kept and of one that is changed holds of every row afterwards. -/
theorem Rewrites.row {P : Option AgentRun → Prop} {other : Key} (same : P (w.runs.get other))
    (changed : ∀ stored, key = other → w.runs.get other = some stored → fits stored →
      P (some { change stored with resourceVersion := w.nextVersion })) :
    P (result.2.runs.get other) := by
  cases wrote with
  | refused | kept => exact same
  | put found fit =>
    simp only [putRun, Table.get_put]
    split
    next own => exact changed _ own.symm (own ▸ found) fit
    next => exact same

/-- The run that is returned is the stored one, changed unless that changes nothing. -/
theorem Rewrites.reply {run : AgentRun} (replied : result.1 = .ok run) :
    ∃ stored, w.runs.get key = some stored ∧ fits stored ∧ result.2.runs.get key = some run ∧
      (run = stored ∧ change stored = stored ∨
        run = { change stored with resourceVersion := w.nextVersion }) := by
  cases wrote with
  | refused fails => exact absurd replied (fails run)
  | kept found fit same =>
    cases replied
    exact ⟨run, found, fit, found, .inl ⟨rfl, same⟩⟩
  | put found fit =>
    cases replied
    exact ⟨_, found, fit, by simp [putRun], .inr rfl⟩

end

/-- Creating a run under a free name. -/
theorem createRun_eq (absent : w.runs.get key = none) (notes : AgentRunMeta) (spec : AgentRunSpec) :
    w.createRun key notes spec =
      let run : AgentRun :=
        { key := key, uid := w.nextUID, resourceVersion := w.nextVersion, generation := 1,
          creationTimestamp := w.clock / second, notes := notes, spec := spec }
      (.ok run, { (w.putRun key run).2 with nextUID := w.nextUID + 1 }) := by
  simp [createRun, absent, putRun]

theorem createRun_other {other : Key} (distinct : key ≠ other) (notes : AgentRunMeta)
    (spec : AgentRunSpec) : (w.createRun other notes spec).2.runs.get key = w.runs.get key := by
  unfold createRun
  cases w.runs.get other with
  | some _ => rfl
  | none => simp [putRun, distinct]

theorem createJob_runs (job : Job) : (w.createJob job).2.runs = w.runs := by
  unfold createJob
  split
  · rfl
  · split <;> rfl

/-- Every call leaves each run as one of the listed steps does. -/
theorem serve_run {row : Option AgentRun} (found : (serve c w).2.runs.get key = row) :
    RunStep w key c row := by
  subst found
  cases c with
  | patchStatus lock read new =>
    exact (patchStatus_rewrites lock read new).row (.same rfl) fun _ own found => .status own found
  | patchNotes read new =>
    exact (patchNotes_rewrites read new).row (.same rfl) fun _ own found _ => .notes own found
  | updateNotes new =>
    exact (replaceRun_rewrites new _).row (.same rfl) fun _ own found => .updatedNotes own found
  | updateStatus new =>
    exact (replaceRun_rewrites new _).row (.same rfl) fun _ own found => .updatedStatus own found
  | createPeer ns generateName spec =>
    simp only [serve]
    by_cases same : key = ⟨ns, generateName ++ toString w.nextUID⟩
    · subst same
      cases absent : w.runs.get ⟨ns, generateName ++ toString w.nextUID⟩ with
      | none =>
        have made := createRun_eq absent {} spec
        rw [made]
        simpa [putRun] using
          .created rfl absent (congrArg (·.2.nextUID) made) (congrArg (·.1) made)
      | some stored =>
        simp only [createRun, absent]
        exact .same absent
    · rw [createRun_other same]
      exact .same rfl
  | deleteRun dropped =>
    simp only [serve]
    split
    next => exact .same rfl
    by_cases same : key = dropped
    · subst same
      simpa using .deleted
    · simpa [same] using .same rfl
  | createJob job =>
    simp only [serve, createJob_runs]
    exact .same rfl
  | createConfigMap configMap =>
    simp only [serve, createConfigMap]
    split <;> exact .same rfl
  | deleteJob | setJobTTL | makeImmutable | archiveRun =>
    simp only [serve]
    split <;> exact .same rfl
  | _ => exact .same rfl

/-- The calls that write the status of a run, or remove it. -/
def Call.writesStatus (key : Key) : Call → Prop
  | .patchStatus _ _ new | .updateStatus new => new.key = key
  | .deleteRun dropped => dropped = key
  | _ => False

/-- All other calls leave the status of a run alone. -/
theorem status_stays {run : AgentRun} (silent : ¬ c.writesStatus key)
    (found : w.runs.get key = some run) :
    ∃ run', (serve c w).2.runs.get key = some run' ∧ run'.uid = run.uid ∧ run'.status = run.status := by
  generalize after : (serve c w).2.runs.get key = result
  cases serve_run after with
  | same kept => exact ⟨run, kept.symm.trans found, rfl, rfl⟩
  | status own before _ => exact absurd own silent
  | notes own before | updatedNotes own before _ =>
    cases found.symm.trans before
    exact ⟨_, rfl, rfl, rfl⟩
  | updatedStatus own before _ => exact absurd own silent
  | created named absent => cases found.symm.trans absent
  | deleted => exact absurd rfl silent

/-- What a call may leave under the key of a Job. -/
inductive JobStep (w : World) (key : Key) : Call → Option Job → Prop
  | same {c : Call} {row : Option Job} (kept : w.jobs.get key = row) : JobStep w key c row
  | created {job : Job} (own : job.key = key) (valid : job.key.valid = true)
      (absent : w.jobs.get key = none)
      (log : (serve (.createJob job) w).2.created = w.created ++ [{ job with uid := w.nextUID }]) :
      JobStep w key (.createJob job) (some { job with uid := w.nextUID })
  | expires {job : Job} {ttl : Nat} (found : w.jobs.get key = some job) :
      JobStep w key (.setJobTTL key ttl) (some { job with ttlSecondsAfterFinished := some ttl })
  | deleted : JobStep w key (.deleteJob key) none

/-- The three outcomes of creating a Job. -/
theorem createJob_cases (w : World) (job : Job) :
    (∃ reply, (∀ stored, reply ≠ .ok stored) ∧ w.createJob job = (reply, w)) ∨
      (job.key.valid = true ∧ w.jobs.get job.key = none ∧
        w.createJob job = (.ok { job with uid := w.nextUID },
          { w with
            jobs := w.jobs.put job.key { job with uid := w.nextUID }
            nextUID := w.nextUID + 1
            created := w.created ++ [{ job with uid := w.nextUID }] })) := by
  unfold createJob
  split
  next => exact .inl ⟨_, fun _ => by simp, rfl⟩
  rename_i valid
  cases absent : w.jobs.get job.key with
  | some _ => exact .inl ⟨_, fun _ => by simp, rfl⟩
  | none => exact .inr ⟨by simpa using valid, rfl, rfl⟩

/-- A change of at most one run or ConfigMap. -/
inductive ObjectChange (w : World) : World → Prop
  | same : ObjectChange w w
  | putRun (key : Key) (run : AgentRun) : ObjectChange w (w.putRun key run).2
  | createRun (key : Key) (run : AgentRun) :
      ObjectChange w { (w.putRun key run).2 with nextUID := w.nextUID + 1 }
  | eraseRun (key : Key) : ObjectChange w { w with runs := w.runs.erase key }
  | configMaps (table : Table Key ConfigMap) {uid : UID} (later : w.nextUID ≤ uid) :
      ObjectChange w { w with configMaps := table, nextUID := uid }

theorem createRun_change (key : Key) (notes : AgentRunMeta) (spec : AgentRunSpec) :
    ObjectChange w (w.createRun key notes spec).2 := by
  unfold createRun
  split
  · exact .same
  · exact .createRun _ _

theorem Rewrites.change {fits : AgentRun → Prop} {change : AgentRun → AgentRun}
    {result : WriteReply AgentRun × World} (wrote : Rewrites w key fits change result) :
    ObjectChange w result.2 := by
  cases wrote with
  | refused | kept => exact .same
  | put => exact .putRun _ _

/-- Everything but runs and ConfigMaps is as before, and counters have not gone back. -/
structure Untouched (w w' : World) : Prop where
  jobs : w'.jobs = w.jobs
  created : w'.created = w.created
  archive : w'.archive = w.archive
  clock : w'.clock = w.clock
  cluster : w'.cluster = w.cluster
  uids : w.nextUID ≤ w'.nextUID
  versions : w.nextVersion ≤ w'.nextVersion

theorem ObjectChange.untouched (change : ObjectChange w w') : Untouched w w' := by
  cases change with
  | same => exact ⟨rfl, rfl, rfl, rfl, rfl, le_refl _, le_refl _⟩
  | putRun => exact ⟨rfl, rfl, rfl, rfl, rfl, le_refl _, le_succ _⟩
  | createRun => exact ⟨rfl, rfl, rfl, rfl, rfl, le_succ _, le_succ _⟩
  | eraseRun => exact ⟨rfl, rfl, rfl, rfl, rfl, le_refl _, le_refl _⟩
  | configMaps table later => exact ⟨rfl, rfl, rfl, rfl, rfl, later, le_refl _⟩

/-- The calls that write Jobs or the archive. -/
def Call.isJobOrArchive : Call → Bool
  | .createJob _ | .deleteJob _ | .setJobTTL _ _ | .archiveRun _ => true
  | _ => false

/-- What a call may leave of everything. -/
inductive Served (w : World) : Call → World → Prop
  | object {c : Call} {w' : World} (other : c.isJobOrArchive = false) (change : ObjectChange w w') :
      Served w c w'
  | createJob {job : Job} (absent : w.jobs.get job.key = none) :
      Served w (.createJob job) { w with
        jobs := w.jobs.put job.key { job with uid := w.nextUID }
        nextUID := w.nextUID + 1
        created := w.created ++ [{ job with uid := w.nextUID }] }
  | jobs {c : Call} (table : Table Key Job) (kind : c.isJobOrArchive = true) :
      Served w c { w with jobs := table }
  | archive {record : AgentRunArchiveRecord} (table : Table (Key × UID) AgentRunArchiveRecord) :
      Served w (.archiveRun record) { w with archive := table }

theorem serve_served (c : Call) (w : World) : Served w c (serve c w).2 := by
  cases c with
  | patchStatus lock read new => exact .object rfl (patchStatus_rewrites lock read new).change
  | patchNotes read new => exact .object rfl (patchNotes_rewrites read new).change
  | updateNotes new | updateStatus new => exact .object rfl (replaceRun_rewrites new _).change
  | createPeer ns generateName spec => exact .object rfl (createRun_change _ _ _)
  | createConfigMap configMap =>
    refine .object rfl ?_
    simp only [serve, createConfigMap]
    split
    · exact .same
    · exact .configMaps _ (le_succ _)
  | deleteRun key =>
    refine .object rfl ?_
    simp only [serve]
    split
    · exact .same
    · exact .eraseRun _
  | makeImmutable key =>
    refine .object rfl ?_
    simp only [serve]
    split
    · exact .same
    · exact .configMaps _ (le_refl _)
  | createJob job =>
    simp only [serve]
    rcases createJob_cases w job with ⟨reply, -, made⟩ | ⟨-, absent, made⟩
    · rw [made]
      exact .jobs w.jobs rfl
    · rw [made]
      exact .createJob absent
  | deleteJob | setJobTTL =>
    simp only [serve]
    split
    · exact .jobs w.jobs rfl
    · exact .jobs _ rfl
  | archiveRun record =>
    simp only [serve]
    split
    · exact .archive w.archive
    · exact .archive _
  | _ => exact .object rfl .same

/-- All calls but those leave Jobs and the archive alone. -/
theorem serve_untouched (other : c.isJobOrArchive = false) : Untouched w (serve c w).2 := by
  have served := serve_served c w
  generalize (serve c w).2 = w' at served
  cases served with
  | object _ change => exact change.untouched
  | createJob => cases other
  | jobs _ kind => cases other.symm.trans kind
  | archive => cases other

/-- Every call leaves each Job as one of the listed steps does. -/
theorem serve_job {row : Option Job} (found : (serve c w).2.jobs.get key = row) :
    JobStep w key c row := by
  subst found
  cases kind : c.isJobOrArchive with
  | false =>
    rw [(serve_untouched kind).jobs]
    exact .same rfl
  | true =>
    cases c with
    | createJob job =>
      simp only [serve]
      rcases createJob_cases w job with ⟨reply, -, made⟩ | ⟨valid, absent, made⟩
      · rw [made]
        exact .same rfl
      · rw [made]
        simp only [Table.get_put]
        split
        next own =>
          subst own
          exact .created rfl valid absent (by simp only [serve, made])
        next => exact .same rfl
    | deleteJob dropped =>
      simp only [serve]
      split
      next => exact .same rfl
      by_cases same : key = dropped
      · subst same
        simpa using .deleted
      · simpa [same] using .same rfl
    | setJobTTL changed ttl =>
      simp only [serve]
      cases found : w.jobs.get changed with
      | none => exact .same rfl
      | some job =>
        simp only [Table.get_put]
        split
        next own =>
          subst own
          exact .expires found
        next => exact .same rfl
    | archiveRun record =>
      simp only [serve]
      split <;> exact .same rfl
    | _ => simp [Call.isJobOrArchive] at kind

/-- The log of created Jobs grows by creating one. -/
theorem serve_created (c : Call) (w : World) :
    ((serve c w).2.created = w.created) ∨
      ∃ job, c = .createJob job ∧ w.jobs.get job.key = none ∧
        (serve c w).2.created = w.created ++ [{ job with uid := w.nextUID }] ∧
        (serve c w).2.nextUID = w.nextUID + 1 := by
  have served := serve_served c w
  generalize (serve c w).2 = w' at served
  cases served with
  | object _ change => exact .inl change.untouched.created
  | createJob absent => exact .inr ⟨_, rfl, absent, rfl, rfl⟩
  | jobs | archive => exact .inl rfl

/-- No call takes a counter back. -/
theorem serve_counters (c : Call) (w : World) :
    w.nextUID ≤ (serve c w).2.nextUID ∧ w.nextVersion ≤ (serve c w).2.nextVersion := by
  have served := serve_served c w
  generalize (serve c w).2 = w' at served
  cases served with
  | object _ change => exact ⟨change.untouched.uids, change.untouched.versions⟩
  | createJob => exact ⟨le_succ _, le_refl _⟩
  | jobs | archive => exact ⟨le_refl _, le_refl _⟩

variable {read new run : AgentRun}

/-- The run a status patch returns is the stored one, with the merged status. -/
theorem patchStatus_reply {lock : Bool} (patched : (w.patchStatus lock read new).1 = .ok run) :
    ∃ stored, w.runs.get new.key = some stored ∧ meetsVersion lock read new stored ∧
      run.key = stored.key ∧ run.uid = stored.uid ∧
      run.status = mergeStatus read.status new.status stored.status ∧
      (w.patchStatus lock read new).2.runs.get new.key = some run := by
  obtain ⟨stored, found, current, after, ⟨rfl, same⟩ | rfl⟩ :=
    (patchStatus_rewrites lock read new).reply patched
  · exact ⟨run, found, current, rfl, rfl, (congrArg AgentRun.status same).symm, after⟩
  · exact ⟨stored, found, current, rfl, rfl, rfl, after⟩

/-- The run an annotation patch returns is the stored one, with the merged annotations. -/
theorem patchNotes_reply (patched : (w.patchNotes read new).1 = .ok run) :
    ∃ stored, w.runs.get new.key = some stored ∧ run.key = stored.key ∧
      run.status = stored.status := by
  obtain ⟨stored, found, -, -, ⟨rfl, -⟩ | rfl⟩ := (patchNotes_rewrites read new).reply patched
  · exact ⟨run, found, rfl, rfl⟩
  · exact ⟨stored, found, rfl, rfl⟩

variable {change : AgentRun → AgentRun}

theorem replaceRun_ok {new stored : AgentRun}
    (found : w.runs.get new.key = some stored)
    (current : stored.resourceVersion = new.resourceVersion) :
    ∃ run, (w.replaceRun new change).1 = .ok run := by
  simp only [replaceRun, found, if_neg (not_not.mpr current)]
  split
  · exact ⟨_, rfl⟩
  · exact ⟨_, rfl⟩

/-- What the environment may leave under the key of a run. -/
inductive ActRunStep (w w' : World) (action : Act) (key : Key) : Option AgentRun → Prop
  | same {row : Option AgentRun} (kept : w.runs.get key = row) : ActRunStep w w' action key row
  | changed {stored : AgentRun} {generation : Nat} {deleting : Bool}
      (found : w.runs.get key = some stored) :
      ActRunStep w w' action key (some { stored with
        generation := generation
        deleting := deleting
        resourceVersion := w.nextVersion })
  | created {notes : AgentRunMeta} {spec : AgentRunSpec} (absent : w.runs.get key = none)
      (next : w'.nextUID = w.nextUID + 1)
      (others : ∀ other, other ≠ key → w'.runs.get other = w.runs.get other)
      (ran : action = .createRun key notes spec)
      (made : (w.createRun key notes spec).1 = .ok
        { key := key, uid := w.nextUID, resourceVersion := w.nextVersion, generation := 1,
          creationTimestamp := w.clock / second, notes := notes, spec := spec }) :
      ActRunStep w w' action key (some
        { key := key, uid := w.nextUID, resourceVersion := w.nextVersion, generation := 1,
          creationTimestamp := w.clock / second, notes := notes, spec := spec })

/-- No call touches the clock, or the objects the gates read other than runs. -/
theorem serve_fixed (c : Call) (w : World) :
    (serve c w).2.cluster = w.cluster ∧ (serve c w).2.clock = w.clock := by
  have served := serve_served c w
  generalize (serve c w).2 = w' at served
  cases served with
  | object _ change => exact ⟨change.untouched.cluster, change.untouched.clock⟩
  | _ => exact ⟨rfl, rfl⟩

theorem serve_cluster (c : Call) (w : World) : (serve c w).2.cluster = w.cluster :=
  (serve_fixed c w).1

theorem serve_clock (c : Call) (w : World) : (serve c w).2.clock = w.clock :=
  (serve_fixed c w).2

/-- What the environment may leave under the key of a Job: it may end or go, and nothing else. -/
inductive ActJobStep (w : World) (key : Key) : Option Job → Prop
  | same {row : Option Job} (kept : w.jobs.get key = row) : ActJobStep w key row
  | changed {job job' : Job} (found : w.jobs.get key = some job) (at_key : job'.key = job.key)
      (uid : job'.uid = job.uid) (owner : job'.owner = job.owner)
      (ends : job'.running = true → job.running = true) : ActJobStep w key (some job')
  | removed : ActJobStep w key none

variable {action : Act}

theorem changeRun_step {changed : Key}
    (generation : AgentRun → Nat) (deleting : AgentRun → Bool)
    (shape : ∀ run, change run = { run with generation := generation run, deleting := deleting run })
    (acted : w.changeRun changed change = some w') : ActRunStep w w' action key (w'.runs.get key) := by
  obtain ⟨run, found, rfl⟩ := map_eq_some_iff.mp acted
  simp only [putRun, Table.get_put, shape]
  split
  next own =>
    subst own
    exact .changed found
  next => exact .same rfl

/-- Every act leaves each run as one of the listed steps does. -/
theorem act_run {row : Option AgentRun} (acted : act action w = some w')
    (found : w'.runs.get key = row) : ActRunStep w w' action key row := by
  subst found
  cases action with
  | createRun created notes spec =>
    simp only [act] at acted
    by_cases same : key = created
    · subst same
      cases absent : w.runs.get key with
      | some _ => simp [createRun, absent] at acted
      | none =>
        have made := createRun_eq absent notes spec
        rw [made] at acted
        cases acted
        simp only [putRun, Table.get_put, if_true]
        refine .created absent rfl (fun other distinct => ?_) rfl (congrArg (·.1) made)
        simp [distinct]
    · have after := createRun_other (w := w) same notes spec
      split at acted
      next w₁ made =>
        cases acted
        rw [made] at after
        rw [after]
        exact .same rfl
      next => cases acted
  | changeGeneration changed generation =>
    exact changeRun_step (fun _ => generation) (·.deleting) (fun _ => rfl) acted
  | requestDeletion changed =>
    exact changeRun_step (·.generation) (fun _ => true) (fun _ => rfl) acted
  | finishJob | terminateJob =>
    obtain ⟨job, -, rfl⟩ := map_eq_some_iff.mp acted
    exact .same rfl
  | _ =>
    cases acted
    exact .same rfl

/-- No act removes a run or touches its status. -/
theorem act_stays {run : AgentRun} (acted : act action w = some w')
    (found : w.runs.get key = some run) :
    ∃ run', w'.runs.get key = some run' ∧ run'.uid = run.uid ∧ run'.status = run.status := by
  generalize after : w'.runs.get key = result
  cases act_run acted after with
  | same kept => exact ⟨run, kept.symm.trans found, rfl, rfl⟩
  | changed before =>
    cases found.symm.trans before
    exact ⟨_, rfl, rfl, rfl⟩
  | created absent => cases found.symm.trans absent

theorem changeJob_step {changed : Key} {change : Job → Job}
    (identity : ∀ job, (change job).key = job.key ∧ (change job).uid = job.uid ∧
      (change job).owner = job.owner)
    (ends : ∀ job, (change job).running = true → job.running = true)
    (acted : w.changeJob changed change = some w') : ActJobStep w key (w'.jobs.get key) := by
  obtain ⟨job, found, rfl⟩ := map_eq_some_iff.mp acted
  simp only [Table.get_put]
  split
  next own =>
    subst own
    obtain ⟨at_key, uid, owner⟩ := identity job
    exact .changed found at_key uid owner (ends job)
  next => exact .same rfl

/-- Every act leaves each Job as one of the listed steps does. -/
theorem act_job {row : Option Job} (acted : act action w = some w')
    (found : w'.jobs.get key = row) : ActJobStep w key row := by
  subst found
  cases action with
  | createRun created notes spec =>
    simp only [act] at acted
    split at acted
    next run w₁ made =>
      cases acted
      have untouched := (createRun_change (w := w) created notes spec).untouched
      rw [made] at untouched
      rw [untouched.jobs]
      exact .same rfl
    next => cases acted
  | changeGeneration | requestDeletion =>
    obtain ⟨run, -, rfl⟩ := map_eq_some_iff.mp acted
    exact .same rfl
  | finishJob changed state message =>
    refine changeJob_step (fun job => ?_) (fun job => ?_) acted
    · split <;> exact ⟨rfl, rfl, rfl⟩
    · -- Only an active Job is changed, so a Job that runs afterwards ran before.
      split
      next active =>
        intro running
        simp only [Job.running, Bool.and_eq_true] at running
        simp [Job.running, active, running.1]
      next => exact id
  | terminateJob changed =>
    refine changeJob_step (fun job => ?_) (fun job => ?_) acted
    · exact ⟨rfl, rfl, rfl⟩
    · simp [Job.running]
  | removeJob dropped =>
    cases acted
    by_cases same : key = dropped
    · subst same
      simpa using .removed
    · simpa [same] using .same rfl
  | _ =>
    cases acted
    exact .same rfl

/-- What an act may leave of everything. -/
inductive Acted (w : World) : Act → World → Prop
  | tick (elapsed : Nat) : Acted w (.tick elapsed) { w with clock := w.clock + elapsed }
  | setCluster (cluster : Cluster) : Acted w (.setCluster cluster) { w with cluster := cluster }
  | setInputs (inputs : Inputs) : Acted w (.setInputs inputs) { w with inputs := inputs }
  | object {action : Act} {w' : World} (change : ObjectChange w w') : Acted w action w'
  | jobs {action : Act} (table : Table Key Job) : Acted w action { w with jobs := table }

section

variable (acted : act action w = some w')

include acted

theorem act_acted : Acted w action w' := by
  cases action with
  | createRun created notes spec =>
    have change := createRun_change (w := w) created notes spec
    simp only [act] at acted
    split at acted
    next made =>
      cases acted
      rw [made] at change
      exact .object change
    next => cases acted
  | changeGeneration | requestDeletion =>
    obtain ⟨run, -, rfl⟩ := map_eq_some_iff.mp acted
    exact .object (.putRun _ _)
  | finishJob | terminateJob =>
    obtain ⟨job, -, rfl⟩ := map_eq_some_iff.mp acted
    exact .jobs _
  | tick elapsed => cases acted; exact .tick elapsed
  | setCluster cluster => cases acted; exact .setCluster cluster
  | setInputs inputs => cases acted; exact .setInputs inputs
  | removeJob dropped => cases acted; exact .jobs _
  | removeConfigMap dropped => cases acted; exact .object (.configMaps _ (le_refl _))

/-- The environment changes what the gates read, other than runs, by replacing it. -/
theorem act_cluster :
    w'.cluster = w.cluster ∨ ∃ cluster, action = .setCluster cluster ∧ w'.cluster = cluster := by
  cases act_acted acted with
  | setCluster cluster => exact .inr ⟨cluster, rfl, rfl⟩
  | object change => exact .inl change.untouched.cluster
  | _ => exact .inl rfl

/-- The environment creates no Job, leaves the archive alone, and takes no counter back. -/
theorem act_frame :
    w'.created = w.created ∧ w'.archive = w.archive ∧ w.nextUID ≤ w'.nextUID ∧
      w.nextVersion ≤ w'.nextVersion ∧ w.clock ≤ w'.clock := by
  cases act_acted acted with
  | tick => exact ⟨rfl, rfl, le_refl _, le_refl _, le_add_right _ _⟩
  | object change =>
    have untouched := change.untouched
    exact ⟨untouched.created, untouched.archive, untouched.uids, untouched.versions,
      le_of_eq untouched.clock.symm⟩
  | _ => exact ⟨rfl, rfl, le_refl _, le_refl _, le_refl _⟩

/-- Only time itself moves the clock. -/
theorem act_clock :
    w'.clock = w.clock ∨ ∃ elapsed, action = .tick elapsed ∧ w'.clock = w.clock + elapsed := by
  cases act_acted acted with
  | tick elapsed => exact .inr ⟨elapsed, rfl, rfl⟩
  | object change => exact .inl change.untouched.clock
  | _ => exact .inl rfl

end

/-- A step that writes a run makes a new version of it. -/
structure Rewritten (w w' : World) : Prop where
  grows : w.nextVersion ≤ w'.nextVersion
  run : ∀ key run, w'.runs.get key = some run → w.runs.get key = some run ∨
    run.resourceVersion = w.nextVersion ∧ w.nextVersion < w'.nextVersion

/-- A step that writes no run. -/
theorem Rewritten.of_runs (grows : w.nextVersion ≤ w'.nextVersion) (same : w'.runs = w.runs) :
    Rewritten w w' :=
  ⟨grows, fun _ _ found => .inl (same ▸ found)⟩

theorem putRun_rewritten (key : Key) (run : AgentRun) : Rewritten w (w.putRun key run).2 := by
  refine ⟨le_succ _, fun other after found => ?_⟩
  simp only [putRun, Table.get_put] at found
  split at found
  next =>
    cases found
    exact .inr ⟨rfl, lt_succ_self _⟩
  next => exact .inl found

theorem ObjectChange.rewritten (change : ObjectChange w w') : Rewritten w w' := by
  cases change with
  | same => exact .of_runs (le_refl _) rfl
  | putRun key run => exact putRun_rewritten key run
  | createRun key run =>
    have written := putRun_rewritten (w := w) key run
    exact ⟨written.grows, written.run⟩
  | eraseRun dropped =>
    refine ⟨le_refl _, fun key after found => .inl ?_⟩
    by_cases same : key = dropped
    · subst same
      simp at found
    · simpa [same] using found
  | configMaps => exact .of_runs (le_refl _) rfl

/-- Every call makes new versions of the runs it writes. -/
theorem serve_rewritten (c : Call) (w : World) : Rewritten w (serve c w).2 := by
  have served := serve_served c w
  generalize (serve c w).2 = w' at served
  cases served with
  | object _ change => exact change.rewritten
  | _ => exact .of_runs (le_refl _) rfl

theorem act_rewritten (acted : act action w = some w') : Rewritten w w' := by
  cases act_acted acted with
  | object change => exact change.rewritten
  | _ => exact .of_runs (le_refl _) rfl

end AnvilAgents
