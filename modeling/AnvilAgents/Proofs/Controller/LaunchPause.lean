import AnvilAgents.Lib.Interference
import AnvilAgents.Proofs.Controller.PassReads
import AnvilAgents.Proofs.Controller.SingleExecution

/-! What a pass has read of pauses when it creates a Job. -/

namespace AnvilAgents

open Conc Text List Contract

/-! ## Pauses -/

/-- Nothing pauses the launch of a run: neither its schedule nor a control of its application. -/
structure Unpaused (c : Cluster) (now : Nat) (run : AgentRun) : Prop where
  schedule : ∀ schedule, (referencedKey run.key.ns run.spec.scheduleRef).bind c.getSchedule =
    some schedule → schedule.suspend = false
  application : ∃ name, resolveAgentRunApplicationName c run = .ok name ∧
    (isBlank name = false → ∀ control ∈ c.controls,
      trimSpace control.applicationRef = trimSpace name → control.launchPolicy = .paused →
      isBlank control.reason = false → agentRunControlExpired control now = true)

/-- There is something to read: the Job names a schedule, a profile or an application. -/
def Pausable (job : Job) : Prop :=
  referencedKey job.key.ns job.snapshot.spec.scheduleRef ≠ none ∨
    applicationProfile job.key.ns job.snapshot.spec ≠ none ∨
    isBlank (job.snapshot.spec.applicationRef.getD "") = false

/-- The pass has read from the API server that nothing pauses the run whose Job it creates. -/
def ReadUnpaused (run : AgentRun) (read : PauseKnow) (job : Job) : Prop :=
  ∃ effective, EffectiveOf run effective ∧ JobOf effective job ∧ read.Passed .apiReader effective

namespace PauseKnow

variable {read : PauseKnow} {effective : AgentRun} {job : Job}

/-- Who reads nothing has passed just if there is nothing to read. -/
theorem passed_unasked_iff (unasked : read.Unasked) (mine : JobOf effective job) :
    read.Passed .apiReader effective ↔ ¬Pausable job := by
  have never {event : Event Call Reply} (asks : event.1.authoritative = true) : event ∉ read :=
    fun member => by simp [unasked event member] at asks
  unfold Pausable
  rw [mine.ns, mine.spec]
  constructor
  · rintro ⟨running, found, name, has, named, allowed⟩ pausable
    have unnamed : applicationProfile effective.key.ns effective.spec = none := by
      by_contra some_
      obtain ⟨key, given⟩ := Option.ne_none_iff_exists'.mp some_
      simp only [HasProfile, given] at has
      exact never rfl has
    simp only [HasProfile, unnamed] at has
    subst has
    cases named
    rcases pausable with scheduled | profiled | named
    · obtain ⟨key, given⟩ := Option.ne_none_iff_exists'.mp scheduled
      obtain ⟨found, member, -⟩ := running key given
      exact never rfl member
    · exact profiled unnamed
    · obtain ⟨now, controls, member, -⟩ := allowed (by rw [isBlank_trimSpace, named])
      exact never rfl (member.subset (.tail _ (.head _)))
  · intro unpausable
    simp only [not_or, not_not, Bool.not_eq_false] at unpausable
    obtain ⟨unscheduled, unnamed, unapplied⟩ := unpausable
    refine ⟨fun key given => ?_, none, _, ?_, rfl, fun given => ?_⟩
    · simp [unscheduled] at given
    · simp [HasProfile, unnamed]
    · simp [isBlank_trimSpace, unapplied] at given

end PauseKnow

/-! ## Passes -/

variable {others : World → World → Prop} {w : World} {r : AgentRunReconciler} {key : Key}
  {before calls : Calls Call World} {job : Job} {c : Call} {run : AgentRun}

theorem mem_events {event : Event Call Reply} (member : event ∈ calls.events serve) :
    ∃ w, (event.1, w) ∈ calls ∧ event.2 = (serve event.1 w).1 := by
  obtain ⟨⟨c, w⟩, among, rfl⟩ := mem_map.mp member
  exact ⟨w, among, rfl⟩

/-- While nobody changes what the reads are about, they speak of one moment. -/
theorem PauseKnow.Passed.unpaused {cluster : Cluster}
    (passed : PauseKnow.Passed (calls.events serve) .apiReader run)
    (steady : ∀ call ∈ calls, call.1.authoritative = true → call.2.cluster = cluster) :
    ∃ now, Unpaused cluster now run := by
  obtain ⟨running, found, name, has, named, allowed⟩ := passed
  have schedule (schedule : AgentSchedule)
      (given : (referencedKey run.key.ns run.spec.scheduleRef).bind cluster.getSchedule =
        some schedule) : schedule.suspend = false := by
    obtain ⟨key, named, there⟩ := Option.bind_eq_some_iff.mp given
    obtain ⟨found, member, unsuspended⟩ := running key named
    obtain ⟨w, among, reply⟩ := mem_events member
    refine unsuspended schedule (reply.trans ?_)
    rw [serve, steady _ among rfl, there]
  have application : resolveAgentRunApplicationName cluster run = .ok name := by
    have same : (applicationProfile run.key.ns run.spec).bind cluster.getProfile = found := by
      unfold PauseKnow.HasProfile at has
      split at has
      next unnamed => rw [unnamed, has, Option.bind_none]
      next key given =>
        obtain ⟨w, among, reply⟩ := mem_events has
        rw [given, Option.bind_some, ← steady _ among rfl]
        exact reply.symm
    rw [resolveAgentRunApplicationName, resolveAgentRunSpecApplicationName, same, named]
  cases blank : isBlank name with
  | true => exact ⟨0, schedule, name, application, fun given => by simp [blank] at given⟩
  | false =>
    obtain ⟨now, controls, member, expired⟩ := allowed blank
    obtain ⟨w, among, reply⟩ := mem_events (member.subset (.tail _ (.head _)))
    refine ⟨now, schedule, name, application, fun _ control listed => expired control ?_⟩
    rw [show controls = w.cluster.controls from reply, steady _ among rfl]
    exact listed

theorem know_pauses (read : List (Event Call Reply)) (K : PeerKnow × PauseKnow) :
    ((passContract False).know K read).2 = K.2 ++ read.filter (·.1.name ∈ pauseReads) := by
  induction read generalizing K with
  | nil => exact (append_nil _).symm
  | cons event read ih =>
    refine (ih _).trans ?_
    show PauseKnow.learn K.2 event.1 event.2 ++ _ = _
    unfold PauseKnow.learn
    by_cases listed : event.1.name ∈ pauseReads
    · rw [if_pos listed, filter_cons_of_pos (by simpa using listed), append_assoc, singleton_append]
    · rw [if_neg listed, filter_cons_of_neg (by simpa using listed)]

theorem reconcile_began {w' : World} (creates : c.name = .createJob)
    (makes : (reconcile r key).Makes serve others w (before ++ [(c, w')])) :
    ∃ run later, before.events serve = ⟨.getRun key, some run⟩ :: later := by
  cases before with
  | nil =>
    cases makes with
    | call => cases creates
  | cons first later =>
    cases makes with
    | call acted rest =>
      rename_i seen
      cases found : seen.runs.get key with
      | some run =>
        refine ⟨run, Calls.events serve later, ?_⟩
        show (⟨.getRun key, seen.runs.get key⟩ : Event Call Reply) :: Calls.events serve later = _
        rw [found]
      | none =>
        -- A pass that does not find its run is over.
        simp only [serve, found] at rest
        cases later <;> cases rest

/-- What bears on pauses is not lost when all other calls are left out. -/
theorem found_iff (read : PauseKnow) :
    PauseKnow.Found (read.filter (·.1.name ∈ pauseReads)) job ↔ read.Found job := by
  constructor
  · rintro ⟨old, ⟨ns, jobs, member, among⟩, same⟩
    exact ⟨old, ⟨ns, jobs, (mem_filter.mp member).1, among⟩, same⟩
  · rintro ⟨old, ⟨ns, jobs, member, among⟩, same⟩
    exact ⟨old, ⟨ns, jobs, mem_filter.mpr ⟨member, rfl⟩, among⟩, same⟩

theorem unasked_of_filter {read : PauseKnow}
    (unasked : PauseKnow.Unasked (read.filter (·.1.name ∈ pauseReads))) : read.Unasked := by
  intro event member
  by_contra asks
  refine asks (unasked event (mem_filter.mpr ⟨member, ?_⟩))
  obtain ⟨c, reply⟩ := event
  cases c <;> first | rfl | exact absurd rfl asks

theorem reconcile_permits {w' : World}
    (makes : (reconcile r key).Makes serve others w (before ++ [(.createJob job, w')])) :
    PauseKnow.permits ((before.events serve).filter (·.1.name ∈ pauseReads)) (.createJob job) := by
  have reads : Settles False ({ key := key }, []) (reconcile r key) := reconcile_reads key
  have permitted := (obeys_iff.mp reads).permits (fun c seen => ⟨False.elim, serve_lists c seen⟩) makes
  have known := know_pauses (before.events serve) ({ key := key }, [])
  exact (known.trans (nil_append _)) ▸ permitted.2

/--
A pass that creates a Job has read from the API server that nothing pauses the run, unless there was
something to read and the pass has listed a Job of the run under that name before.

Others may change anything between any two calls of the pass. The schedule, the profile and the
controls are each read at their own time; that is one time if nobody changes them in between.
-/
theorem launch_unpaused_iff {w' : World}
    (makes : (reconcile r key).Makes serve others w (before ++ [(.createJob job, w')])) :
    ∃ run, PauseKnow.Began (before.events serve) run ∧
      (ReadUnpaused run (before.events serve) job ↔
        ¬(PauseKnow.Found (before.events serve) job ∧ Pausable job)) ∧
      ∀ cluster, (∀ call ∈ before, call.1.authoritative = true → call.2.cluster = cluster) →
        ReadUnpaused run (before.events serve) job →
        ∃ effective now, EffectiveOf run effective ∧ JobOf effective job ∧
          Unpaused cluster now effective := by
  obtain ⟨run, later, first⟩ := reconcile_began rfl makes
  refine ⟨run, ⟨key, by rw [first]; rfl⟩, ?_, ?_⟩
  · obtain ⟨run', effective, ⟨key', began⟩, shape, mine, gate⟩ := reconcile_permits makes
    rw [first, filter_cons_of_pos rfl] at began
    cases began
    rcases gate with ⟨unlisted, passed⟩ | ⟨listed, unasked⟩
    · -- Behind the gate: the effective run that was let through is that of the Job.
      refine iff_of_true ⟨effective, shape, mine, passed.mono filter_sublist⟩ ?_
      exact fun both => unlisted ((found_iff _).mpr both.1)
    · -- In the place of a listed Job: nothing was read.
      have unasked := unasked_of_filter unasked
      have found := (found_iff _).mp listed
      constructor
      · rintro ⟨effective', -, mine', passed⟩ ⟨-, pausable⟩
        exact (PauseKnow.passed_unasked_iff unasked mine').mp passed pausable
      · intro free
        refine ⟨effective, shape, mine, (PauseKnow.passed_unasked_iff unasked mine).mpr ?_⟩
        exact fun pausable => free ⟨found, pausable⟩
  · rintro cluster steady ⟨effective, shape, mine, passed⟩
    obtain ⟨now, unpaused⟩ := passed.unpaused steady
    exact ⟨effective, now, shape, mine, unpaused⟩

section Sample

/-- Whoever is not a pass may do anything that the environment does. -/
def Acts (w w' : World) : Prop :=
  ∃ action, act action w = some w'

/-- The environment removes a Job just before a pass gets it. -/
def removeJobs : Call → World → World
  | .getJob key, w => { w with jobs := w.jobs.erase key }
  | _, w => w

theorem removeJobs_acts (c : Call) (w : World) : Relation.ReflTransGen Acts w (removeJobs c w) := by
  cases c with
  | getJob key => exact .single ⟨.removeJob key, rfl⟩
  | _ => exact .refl

/-- A script in which a Job is created, up to the creation. -/
theorem exists_creation {meddle : Call → World → World}
    (acts : ∀ c w, Relation.ReflTransGen Acts w (meddle c w)) {p : Pass Unit} {w : World}
    (creates : (p.script serve meddle w).any (fun call => call.1.name = .createJob)) :
    ∃ before job w' later, p.script serve meddle w = before ++ (.createJob job, w') :: later ∧
      p.Makes serve Acts w (before ++ [(.createJob job, w')]) := by
  obtain ⟨⟨c, w'⟩, member, named⟩ := any_eq_true.mp creates
  obtain ⟨before, later, split⟩ := append_of_mem member
  have makes : p.Makes serve Acts w (p.script serve meddle w) := Prog.makes_script acts p w
  rw [split] at makes
  cases c with
  | createJob job =>
    have whole : p.Makes serve Acts w ((before ++ [(.createJob job, w')]) ++ later) := by
      simpa using makes
    exact ⟨before, job, w', later, split, whole.cut⟩
  | _ => simp [Call.name] at named

/-- A run of an application, and the control that pauses the application. -/
def shopRun : AgentRun where
  key := ⟨"ns", "x"⟩
  uid := 1
  resourceVersion := 1
  generation := 1
  creationTimestamp := 100
  notes := {}
  spec := { applicationRef := some "shop" }

def shopPause : AgentRunControl where
  name := "incident"
  applicationRef := "shop"
  launchPolicy := .paused
  reason := "investigating"

def shopWorld : World :=
  { sampleWorld with
    runs := sampleWorld.runs.put ⟨"ns", "x"⟩ shopRun
    nextUID := 3
    nextVersion := 2 }

/-- The launch of the run is prepared. -/
def shopPrepared : World :=
  ((reconcile sampleReconciler ⟨"ns", "x"⟩).run serve shopWorld).2

theorem launch_unpaused_iff_prepared :
    ∃ (before : Calls Call World) (job : Job) (run : AgentRun),
      (reconcile sampleReconciler ⟨"ns", "x"⟩).Makes serve Acts shopPrepared before ∧
      PauseKnow.Began (before.events serve) run ∧
      (ReadUnpaused run (before.events serve) job ↔
        ¬(PauseKnow.Found (before.events serve) job ∧ Pausable job)) := by
  have creates : ((reconcile sampleReconciler ⟨"ns", "x"⟩).script serve (fun _ w => w)
      shopPrepared).any (fun call => call.1.name = .createJob) := by
    decide +kernel
  obtain ⟨before, job, w', later, -, makes⟩ := exists_creation (fun _ _ => .refl) creates
  obtain ⟨run, read, iff, -⟩ := launch_unpaused_iff makes
  exact ⟨before, job, run, makes.cut, read, iff⟩

/-- The application is paused, and the run has a Job that its status does not record. -/
def shopPaused : World :=
  { shopWorld with
    cluster := { controls := [shopPause] }
    jobs := shopWorld.jobs.put ⟨"ns", "x-harness-h"⟩
      { key := ⟨"ns", "x-harness-h"⟩, uid := 2, owner := some ⟨"x", 1⟩,
        snapshot := {
          labels := agentRunLabels shopRun, composition := none, spec := shopRun.spec,
          jobName := "x-harness-h", configMapName := "x-context-h", dataVolumes := [] } } }

/-- A Job that is created is for the application of the samples. -/
def Call.ofShop : Call → Bool
  | .createJob job => job.snapshot.spec.applicationRef = some "shop"
  | _ => true

/-- A Job is created under a pause after the one that was there is deleted. -/
theorem launch_under_pause :
    ∃ (before : Calls Call World) (job : Job) (w' : World),
      (reconcile sampleReconciler ⟨"ns", "x"⟩).Makes serve Acts shopPaused
        (before ++ [(.createJob job, w')]) ∧
      (∀ call ∈ before, call.2.cluster.controls = [shopPause]) ∧
      ∀ run, ¬ReadUnpaused run (before.events serve) job := by
  have creates : ((reconcile sampleReconciler ⟨"ns", "x"⟩).script serve removeJobs shopPaused).any
      (fun call => call.1.name = .createJob) := by
    decide +kernel
  have paused : ((reconcile sampleReconciler ⟨"ns", "x"⟩).script serve removeJobs shopPaused).all
      (fun call => !call.1.authoritative && call.2.cluster.controls = [shopPause] &&
        call.1.ofShop) := by
    decide +kernel
  obtain ⟨before, job, w', later, split, makes⟩ := exists_creation removeJobs_acts creates
  rw [split, all_eq_true] at paused
  simp only [Bool.and_eq_true, decide_eq_true_eq, Bool.not_eq_true'] at paused
  refine ⟨before, job, w', makes, fun call member => ?_, ?_⟩
  · exact (paused call (mem_append_left _ member)).1.2
  · rintro run ⟨effective, -, mine, passed⟩
    have unasked : PauseKnow.Unasked (Calls.events serve before) := by
      intro event member
      obtain ⟨w, among, -⟩ := mem_events member
      exact (paused _ (mem_append_left _ among)).1.1
    refine (PauseKnow.passed_unasked_iff unasked mine).mp passed (.inr (.inr ?_))
    have named : job.snapshot.spec.applicationRef = some "shop" :=
      of_decide_eq_true (paused (.createJob job, w') (by simp)).2
    rw [named]
    decide +kernel

end Sample

end AnvilAgents
