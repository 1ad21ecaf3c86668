import AnvilAgents.RunAPI.Logs
import Mathlib.Data.List.Nodup

/-!
Logs come from the run's own pod.

A UID that has disappeared does not come back. If the pod that was checked is still there under its
name after the log was opened, it was there when the log was opened.
-/

namespace AnvilAgents.RunAPI

open Conc Automation List Prog

variable {run : AgentRun} {s s' s'' : Cluster}

/-! ### What the cluster keeps -/

/-- Names and UIDs are unique, and every object is as it was made where that matters. -/
structure Sound (s : Cluster) : Prop where
  keys : (s.pods.map (·.key)).Nodup
  uids : s.uids.Nodup
  pods : ∀ pod ∈ s.pods, ∃ made ∈ s.madePods, made.uid = pod.uid ∧ made.key = pod.key ∧
    getControllerOf made.owners = getControllerOf pod.owners
  jobs : ∀ job ∈ s.jobs, ∃ made ∈ s.madeJobs, made.uid = job.uid ∧
    getControllerOf made.owners = getControllerOf job.owners

/-- What was made stays on record, and what is gone stays away. -/
structure Since (s s' : Cluster) : Prop where
  madePods : ∀ pod ∈ s.madePods, pod ∈ s'.madePods
  madeJobs : ∀ job ∈ s.madeJobs, job ∈ s'.madeJobs
  gone : ∀ uid ∈ s.uids, (∀ pod ∈ s.pods, pod.uid ≠ uid) → ∀ pod ∈ s'.pods, pod.uid ≠ uid

theorem Since.refl : Since s s := ⟨fun _ made => made, fun _ made => made, fun _ _ gone => gone⟩

theorem Since.uids (since : Since s s') {uid : UID} (given : uid ∈ s.uids) : uid ∈ s'.uids := by
  rcases mem_append.mp given with pod | job
  · obtain ⟨made, member, rfl⟩ := mem_map.mp pod
    exact mem_append_left _ (mem_map_of_mem (since.madePods made member))
  · obtain ⟨made, member, rfl⟩ := mem_map.mp job
    exact mem_append_right _ (mem_map_of_mem (since.madeJobs made member))

theorem Since.trans (first : Since s s') (second : Since s' s'') : Since s s'' where
  madePods pod made := second.madePods pod (first.madePods pod made)
  madeJobs job made := second.madeJobs job (first.madeJobs job made)
  gone uid given absent := second.gone uid (first.uids given) (first.gone uid given absent)

theorem Others.since (acted : Others s s') : Since s s' := by
  cases acted with
  | @createPod pod fresh =>
    refine ⟨fun _ made => mem_append_left _ made, fun _ made => made,
      fun uid given absent other member => ?_⟩
    -- The new pod has a UID that no object has had.
    rcases mem_append.mp member with before | new
    · exact absent other before
    · rw [mem_singleton.mp new]
      rintro rfl
      exact fresh given
  | deletePod =>
    exact ⟨fun _ made => made, fun _ made => made,
      fun _ _ absent other member => absent other (mem_of_mem_filter member)⟩
  | changePod change keeps =>
    refine ⟨fun _ made => made, fun _ made => made, fun uid _ absent other member => ?_⟩
    obtain ⟨pod, before, rfl⟩ := mem_map.mp member
    rw [(keeps pod).2.1]
    exact absent pod before
  | createJob =>
    exact ⟨fun _ made => made, fun _ made => mem_append_left _ made, fun _ _ absent => absent⟩
  | deleteJob | changeJob => exact ⟨fun _ made => made, fun _ made => made, fun _ _ absent => absent⟩

theorem Others.sound (acted : Others s s') (sound : Sound s) : Sound s' := by
  cases acted with
  | @createPod pod fresh free =>
    refine ⟨?_, ?_, fun other member => ?_, sound.jobs⟩
    · rw [map_append, map_singleton, nodup_append]
      refine ⟨sound.keys, nodup_singleton _, fun key before other new => ?_⟩
      obtain ⟨taken, member, rfl⟩ := mem_map.mp before
      rw [mem_singleton.mp new]
      exact free taken member
    · show (s.madePods ++ [pod]).map (·.uid) ++ _ |>.Nodup
      have order : ((s.madePods ++ [pod]).map (·.uid) ++ s.madeJobs.map (·.uid)).Perm
          (pod.uid :: s.uids) := by
        simp [Cluster.uids, perm_middle]
      exact order.nodup_iff.mpr (nodup_cons.mpr ⟨fresh, sound.uids⟩)
    · rcases mem_append.mp member with before | new
      · obtain ⟨made, recorded, same⟩ := sound.pods other before
        exact ⟨made, mem_append_left _ recorded, same⟩
      · exact ⟨other, mem_append_right _ new, rfl, rfl, rfl⟩
  | deletePod uid =>
    refine ⟨?_, sound.uids, fun other member => ?_, sound.jobs⟩
    · exact sound.keys.sublist (filter_sublist.map _)
    · exact sound.pods other (mem_of_mem_filter member)
  | changePod change keeps =>
    refine ⟨?_, sound.uids, fun other member => ?_, sound.jobs⟩
    · have same : (s.pods.map change).map (·.key) = s.pods.map (·.key) := by
        rw [map_map]
        exact map_congr_left fun pod _ => (keeps pod).1
      rw [same]
      exact sound.keys
    · obtain ⟨pod, before, rfl⟩ := mem_map.mp member
      obtain ⟨made, recorded, uid, key, controller⟩ := sound.pods pod before
      obtain ⟨sameKey, sameUID, sameController⟩ := keeps pod
      exact ⟨made, recorded, uid.trans sameUID.symm, key.trans sameKey.symm,
        controller.trans sameController.symm⟩
  | @createJob job fresh free =>
    refine ⟨sound.keys, ?_, sound.pods, fun other member => ?_⟩
    · show s.madePods.map (·.uid) ++ (s.madeJobs ++ [job]).map (·.uid) |>.Nodup
      have order : (s.madePods.map (·.uid) ++ (s.madeJobs ++ [job]).map (·.uid)).Perm
          (job.uid :: s.uids) := by
        rw [map_append, ← append_assoc, map_singleton]
        exact perm_append_singleton _ _
      exact order.nodup_iff.mpr (nodup_cons.mpr ⟨fresh, sound.uids⟩)
    · rcases mem_append.mp member with before | new
      · obtain ⟨made, recorded, same⟩ := sound.jobs other before
        exact ⟨made, mem_append_left _ recorded, same⟩
      · exact ⟨other, mem_append_right _ new, rfl, rfl⟩
  | deleteJob uid =>
    exact ⟨sound.keys, sound.uids, sound.pods,
      fun other member => sound.jobs other (mem_of_mem_filter member)⟩
  | changeJob change keeps =>
    refine ⟨sound.keys, sound.uids, sound.pods, fun other member => ?_⟩
    obtain ⟨job, before, rfl⟩ := mem_map.mp member
    obtain ⟨made, recorded, uid, controller⟩ := sound.jobs job before
    obtain ⟨-, sameUID, sameController⟩ := keeps job
    exact ⟨made, recorded, uid.trans sameUID.symm, controller.trans sameController.symm⟩

theorem acted_sound (acted : Relation.ReflTransGen Others s s') (sound : Sound s) :
    Sound s' ∧ Since s s' := by
  induction acted with
  | refl => exact ⟨sound, .refl⟩
  | tail _ last ih => exact ⟨last.sound ih.1, ih.2.trans last.since⟩

/-! ### What each request has seen -/

variable {pod : Pod} {key : Key}

theorem getPod_returns {fault : String} (returns : (getPod key fault).Returns serve Others s pod s')
    :
    Relation.ReflTransGen Others s s' ∧ s'.pod key = some pod := by
  obtain ⟨found, between, asked, rest⟩ := returns_bind.mp returns
  obtain ⟨_, acted, served⟩ := returns_ask.mp asked
  cases served
  split at rest
  next same =>
    obtain ⟨rfl, rfl⟩ := returns_pure.mp rest
    exact ⟨acted, same⟩
  next => exact (not_returns_fail rest).elim

variable {job : Job}

theorem getJob_returns {fault : String} (returns : (getJob key fault).Returns serve Others s job s')
    :
    Relation.ReflTransGen Others s s' ∧ s'.job key = some job := by
  obtain ⟨found, between, asked, rest⟩ := returns_bind.mp returns
  obtain ⟨_, acted, served⟩ := returns_ask.mp asked
  cases served
  split at rest
  next same =>
    obtain ⟨rfl, rfl⟩ := returns_pure.mp rest
    exact ⟨acted, same⟩
  next => exact (not_returns_fail rest).elim

/-- A log that was opened is that of the pod that had the name then. -/
theorem openLogs_returns {container fault : String} {stream : LogStream}
    (returns : (openLogs key container fault).Returns serve Others s stream s') :
    Relation.ReflTransGen Others s s' ∧ ∃ pod, s'.pod key = some pod ∧ pod.uid = stream.podUID := by
  obtain ⟨opened, between, asked, rest⟩ := returns_bind.mp returns
  obtain ⟨_, acted, served⟩ := returns_ask.mp asked
  obtain ⟨rfl, rfl⟩ := served
  split at rest
  next stream' same =>
    obtain ⟨rfl, rfl⟩ := returns_pure.mp rest
    split at same
    next pod found =>
      split at same
      next =>
        cases same
        exact ⟨acted, pod, found, rfl⟩
      next => cases same
    next => cases same
  next => exact (not_returns_fail rest).elim

/-- What a pod that passed the check belongs to. -/
structure Owned (run : AgentRun) (pod : Pod) (s : Cluster) : Prop where
  recorded : run.status.runnerPodUID ≠ 0 → pod.uid = run.status.runnerPodUID
  job : ∃ job ∈ s.jobs, (run.status.launch.jobUID ≠ 0 → job.uid = run.status.launch.jobUID) ∧
    (∃ owner, getControllerOf pod.owners = some owner ∧ owner.kind = "Job" ∧ owner.uid = job.uid) ∧
    ∃ owner, getControllerOf job.owners = some owner ∧ owner.kind = "AgentRun" ∧ owner.uid = run.uid

theorem ownedByAgentRun_eq (owned : ownedByAgentRun job run = true) :
    ∃ owner, getControllerOf job.owners = some owner ∧ owner.kind = "AgentRun" ∧
      owner.uid = run.uid := by
  unfold ownedByAgentRun at owned
  split at owned
  next => cases owned
  rename_i owner controller
  simp only [Bool.and_eq_true, beq_iff_eq] at owned
  exact ⟨owner, controller, owned.1.1.2, owned.2⟩

theorem ownedByJob_eq (owned : ownedByJob pod job = true) :
    ∃ owner, getControllerOf pod.owners = some owner ∧ owner.kind = "Job" ∧ owner.uid = job.uid := by
  unfold ownedByJob at owned
  split at owned
  next => cases owned
  rename_i owner controller
  simp only [Bool.and_eq_true, beq_iff_eq] at owned
  exact ⟨owner, controller, owned.1.1.2, owned.2⟩

theorem validateOwnership_returns
    (returns : (validateOwnership run pod).Returns serve Others s () s') :
    Relation.ReflTransGen Others s s' ∧ Owned run pod s' := by
  obtain ⟨-, afterLabel⟩ := returns_check returns
  obtain ⟨uid, afterUID⟩ := returns_check afterLabel
  have recorded : run.status.runnerPodUID ≠ 0 → pod.uid = run.status.runnerPodUID :=
    fun set => not_not.mp fun other => uid ⟨set, other⟩
  split at afterUID
  next => exact (not_returns_fail afterUID).elim
  rename_i jobRef _
  obtain ⟨-, afterName⟩ := returns_check afterUID
  obtain ⟨-, afterNamespace⟩ := returns_check afterName
  obtain ⟨job, between, got, afterJob⟩ := returns_bind.mp afterNamespace
  obtain ⟨acted, found⟩ := getJob_returns got
  obtain ⟨owner, afterOwner⟩ := returns_check afterJob
  obtain ⟨jobUID, afterJobUID⟩ := returns_check afterOwner
  obtain ⟨podOwner, done⟩ := returns_check afterJobUID
  obtain ⟨-, rfl⟩ := returns_pure.mp done
  refine ⟨acted, recorded, job, mem_of_find?_eq_some found,
    fun set => not_not.mp fun other => jobUID ⟨set, other⟩, ?_, ?_⟩
  · exact ownedByJob_eq (by simpa using podOwner)
  · exact ownedByAgentRun_eq (by simpa using (not_or.mp owner).2)

theorem verifiedRunnerPod_returns
    (returns : (verifiedRunnerPod run).Returns serve Others s pod s') :
    ∃ seen, Relation.ReflTransGen Others s seen ∧ pod ∈ seen.pods ∧
      Relation.ReflTransGen Others seen s' ∧ Owned run pod s' := by
  unfold verifiedRunnerPod at returns
  split at returns
  next => exact (not_returns_fail returns).elim
  rename_i podRef _
  obtain ⟨-, afterName⟩ := returns_check returns
  obtain ⟨-, afterNamespace⟩ := returns_check afterName
  obtain ⟨found, seen, got, afterPod⟩ := returns_bind.mp afterNamespace
  obtain ⟨⟨⟩, between, validated, afterOwner⟩ := returns_bind.mp afterPod
  obtain ⟨-, done⟩ := returns_check afterOwner
  obtain ⟨rfl, rfl⟩ := returns_pure.mp done
  obtain ⟨before, at_⟩ := getPod_returns got
  obtain ⟨after, owned⟩ := validateOwnership_returns validated
  exact ⟨seen, before, mem_of_find?_eq_some at_, after, owned⟩

/-! ### The log that is returned -/

theorem pod_key (found : s.pod key = some pod) :
    pod ∈ s.pods ∧ pod.key = key := by
  have named := find?_some found
  exact ⟨mem_of_find?_eq_some found, beq_iff_eq.mp named⟩

/-- A pod that was there before and after had its name in between. -/
theorem same_pod {seen opened confirmed : Cluster} {pod before after : Pod} (sound : Sound seen)
    (member : pod ∈ seen.pods) (first : Relation.ReflTransGen Others seen opened)
    (second : Relation.ReflTransGen Others opened confirmed) (named : opened.pod pod.key = some before)
    (still : confirmed.pod pod.key = some after) (same : after.uid = pod.uid) :
    before.uid = pod.uid := by
  obtain ⟨soundOpened, sinceSeen⟩ := acted_sound first sound
  obtain ⟨-, sinceOpened⟩ := acted_sound second soundOpened
  obtain ⟨made, recorded, uid, key, -⟩ := sound.pods pod member
  have given : pod.uid ∈ opened.uids := by
    rw [← uid]
    exact mem_append_left _ (mem_map_of_mem (sinceSeen.madePods made recorded))
  -- Were the pod gone when the log was opened, it could not be there afterwards.
  obtain ⟨alive, there, aliveUID⟩ : ∃ alive ∈ opened.pods, alive.uid = pod.uid := by
    by_contra none
    have absent : ∀ other ∈ opened.pods, other.uid ≠ pod.uid :=
      fun other member same => none ⟨other, member, same⟩
    exact sinceOpened.gone pod.uid given absent after (pod_key still).1 same
  -- Its name is the one it was made with, and only one pod has that name.
  have aliveKey : alive.key = pod.key := by
    obtain ⟨made', recorded', uid', key', -⟩ := soundOpened.pods alive there
    have madeUids : (opened.madePods.map (·.uid)).Nodup := (nodup_append.mp soundOpened.uids).1
    have isMade : made' = made := inj_on_of_nodup_map madeUids recorded'
      (sinceSeen.madePods made recorded) (uid'.trans (aliveUID.trans uid.symm))
    rw [← key', isMade, key]
  obtain ⟨inside, beforeKey⟩ := pod_key named
  have isAlive : before = alive :=
    inj_on_of_nodup_map soundOpened.keys inside there (beforeKey.trans aliveKey.symm)
  rw [isAlive, aliveUID]

/-- Whatever others do between the calls: a log that is returned is read from a pod whose controller
is a Job whose controller is the run, and both are the recorded ones where the run records them. -/
theorem logs_of_own_pod {stream : LogStream} {pod : Pod} (sound : Sound s)
    (opened : (openRunnerLogs run).Returns serve Others s (stream, pod) s') :
    ∃ made ∈ s'.madePods, ∃ job ∈ s'.madeJobs, made.uid = stream.podUID ∧
      (∃ owner, getControllerOf made.owners = some owner ∧ owner.kind = "Job" ∧
        owner.uid = job.uid) ∧
      (∃ owner, getControllerOf job.owners = some owner ∧ owner.kind = "AgentRun" ∧
        owner.uid = run.uid) ∧
      (run.status.runnerPodUID ≠ 0 → stream.podUID = run.status.runnerPodUID) ∧
      (run.status.launch.jobUID ≠ 0 → job.uid = run.status.launch.jobUID) := by
  obtain ⟨checked, afterCheck, verified, rest⟩ := returns_bind.mp opened
  obtain ⟨-, afterPhase⟩ := returns_check rest
  obtain ⟨log, atOpen, opens, afterOpen⟩ := returns_bind.mp afterPhase
  obtain ⟨confirmed, atConfirm, got, afterConfirm⟩ := returns_bind.mp afterOpen
  obtain ⟨replaced, done⟩ := returns_check afterConfirm
  obtain ⟨isResult, rfl⟩ := returns_pure.mp done
  cases isResult
  obtain ⟨seen, toSeen, member, toCheck, owned⟩ := verifiedRunnerPod_returns verified
  obtain ⟨toOpen, before, named, beforeUID⟩ := openLogs_returns opens
  obtain ⟨toConfirm, still⟩ := getPod_returns got
  obtain ⟨soundSeen, -⟩ := acted_sound toSeen sound
  have streamUID : stream.podUID = pod.uid := by
    rw [← beforeUID]
    exact same_pod soundSeen member (toCheck.trans toOpen) toConfirm named still (not_not.mp replaced)
  -- The records of the pod and of the Job say what was seen of them.
  obtain ⟨made, madeRecorded, uid, -, podController⟩ := soundSeen.pods pod member
  obtain ⟨soundCheck, -⟩ := acted_sound toCheck soundSeen
  obtain ⟨job, there, jobUID, ⟨podOwner, isPodOwner, podFacts⟩, ⟨jobOwner, isJobOwner, jobFacts⟩⟩ :=
    owned.job
  obtain ⟨madeJob, jobRecorded, madeJobUID, jobController⟩ := soundCheck.jobs job there
  obtain ⟨-, sinceSeen⟩ := acted_sound ((toCheck.trans toOpen).trans toConfirm) soundSeen
  obtain ⟨-, sinceCheck⟩ := acted_sound (toOpen.trans toConfirm) soundCheck
  refine ⟨made, sinceSeen.madePods made madeRecorded, madeJob,
    sinceCheck.madeJobs madeJob jobRecorded, uid.trans streamUID.symm, ?_, ?_, ?_, ?_⟩
  · exact ⟨podOwner, podController.trans isPodOwner, podFacts.1, podFacts.2.trans madeJobUID.symm⟩
  · exact ⟨jobOwner, jobController.trans isJobOwner, jobFacts⟩
  · exact fun set => streamUID.trans (owned.recorded set)
  · exact fun set => madeJobUID.trans (jobUID set)

def sampleRun : AgentRun where
  key := ⟨"anvil", "fix-tests"⟩
  uid := 5
  resourceVersion := 1
  generation := 1
  creationTimestamp := 0
  status := { runnerPodRef := some { name := "fix-tests-pod" }, runnerPodUID := 7,
              launch := { jobRef := some { name := "fix-tests-job" }, jobUID := 6 } }

def sampleJob : Job where
  key := ⟨"anvil", "fix-tests-job"⟩
  uid := 6
  labels := [(agentRunLabel, "fix-tests")]
  owners := [{ apiVersion := groupVersion, kind := "AgentRun", name := "fix-tests", uid := 5,
               controller := true }]

def samplePod : Pod where
  key := ⟨"anvil", "fix-tests-pod"⟩
  uid := 7
  labels := [(agentRunLabel, "fix-tests"), (agentRunJobLabel, "fix-tests-job")]
  owners := [{ apiVersion := batchGroupVersion, kind := "Job", name := "fix-tests-job", uid := 6,
               controller := true }]
  phase := .running
  containers := [agentContainer]

def sampleCluster : Cluster where
  pods := [samplePod]
  jobs := [sampleJob]
  madePods := [samplePod]
  madeJobs := [sampleJob]

theorem sampleCluster_sound : Sound sampleCluster where
  keys := by decide
  uids := by decide
  pods pod member := ⟨pod, member, rfl, rfl, rfl⟩
  jobs job member := ⟨job, member, rfl, rfl⟩

theorem logs_of_own_pod_sample :
    ∃ made ∈ sampleCluster.madePods, ∃ job ∈ sampleCluster.madeJobs, made.uid = 7 ∧
      (∃ owner, getControllerOf made.owners = some owner ∧ owner.kind = "Job" ∧
        owner.uid = job.uid) ∧
      (∃ owner, getControllerOf job.owners = some owner ∧ owner.kind = "AgentRun" ∧
        owner.uid = sampleRun.uid) ∧
      (sampleRun.status.runnerPodUID ≠ 0 → 7 = sampleRun.status.runnerPodUID) ∧
      (sampleRun.status.launch.jobUID ≠ 0 → job.uid = sampleRun.status.launch.jobUID) := by
  have ran : (openRunnerLogs sampleRun).run serve sampleCluster =
      (.ok (⟨7⟩, samplePod), sampleCluster) := by decide +kernel
  exact logs_of_own_pod sampleCluster_sound (returns_of_run ran)

end AnvilAgents.RunAPI
