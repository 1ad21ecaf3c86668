import AnvilAgents.Proofs.Controller.AppendOnly
import AnvilAgents.Proofs.Controller.Gates

/-! How many runs of an application are launched at once, and when the queue keeps to its limit. -/

namespace AnvilAgents

open Conc World System Know

variable {w w' : World} {K : Know} {c : Call} {r : AgentRunReconciler} {application : String}

/-- Whether a run belongs to an application. -/
def resolvesTo (c : Cluster) (application : String) (run : AgentRun) : Bool :=
  match resolveAgentRunApplicationName c run with
  | .ok name => name = application
  | .error _ => false

/-- A run of the application that is not finished and for which a Job was created. -/
def World.launched (w : World) (application : String) (run : AgentRun) : Bool :=
  !agentRunPhaseTerminal run.status.phase && resolvesTo w.cluster application run &&
    !(w.createdFor run.uid).isEmpty

/-- All runs of the application that got past the gates and are not finished. -/
def World.launchedRuns (w : World) (application : String) : List AgentRun :=
  w.runs.values.filter (w.launched application)

/-- How many runs of an application this controller lets run at once. -/
abbrev placesOf (r : AgentRunReconciler) (c : Cluster) (application : String) : Nat :=
  agentRunApplicationMaxConcurrentRuns c r.applicationMaxConcurrentRuns application

/-- A run stands ahead of another in the queue of an application. -/
def aheadOf (c : Cluster) (application : String) (obj run : AgentRun) : Bool :=
  run.key ≠ obj.key && !agentRunPhaseTerminal run.status.phase &&
    agentRunMayUseApplication c run application && agentRunPrecedes run obj

/-- Every run that counts against the application is ahead of this one, should it count too. -/
def BehindAll (w : World) (application : String) (new : AgentRun) : Prop :=
  agentRunMayUseApplication w.cluster new application = true →
    ∀ key run, w.runs.get key = some run → agentRunPhaseTerminal run.status.phase = false →
      agentRunMayUseApplication w.cluster run application = true → agentRunPrecedes run new = true

/-- The steps the limit is about: profiles and the limit of the application stay as they are. -/
def FixedScope (r : AgentRunReconciler) (application : String) (cfg : Config Key Call Reply World) :
    Move Key Act → Prop
  | .act (.setCluster cluster) => cluster.profiles = cfg.server.cluster.profiles ∧
      placesOf r cluster application = placesOf r cfg.server.cluster application
  | _ => True

/-- The steps at which no run is interrupted by the pass of another while a pass of its own is in
flight, which would undo the interruption with its next patch. -/
def InterruptsIdle (cfg : Config Key Call Reply World) : Move Key Act → Prop
  | .advance pid => ∀ began seen lock read new,
      Calling cfg pid began seen (.patchStatus lock read new) →
      new.key = pid ∨ cfg.procs new.key = none
  | _ => True

/-- The steps at which every new run goes to the end of the queue. -/
def CreatesInOrder (application : String) (cfg : Config Key Call Reply World) : Move Key Act → Prop
  | .act (.createRun key notes spec) => ∀ new,
      (cfg.server.createRun key notes spec).1 = .ok new → BehindAll cfg.server application new
  | .advance pid => ∀ began seen ns generateName spec new,
      Calling cfg pid began seen (.createPeer ns generateName spec) →
      (serve (.createPeer ns generateName spec) cfg.server).1 = .ok new →
      BehindAll cfg.server application new
  | _ => True

/-- Two versions of one run. -/
structure SameRun (before after : AgentRun) : Prop where
  key : after.key = before.key
  uid : after.uid = before.uid
  created : after.creationTimestamp = before.creationTimestamp
  spec : after.spec = before.spec

theorem SameRun.refl (run : AgentRun) : SameRun run run :=
  ⟨rfl, rfl, rfl, rfl⟩

variable {before after run : AgentRun}

section Same

variable (same : SameRun before after)

include same

/-- The application of a run depends on profiles, and on what of the run never changes. -/
theorem SameRun.resolves {c c' : Cluster} (profiles : c'.profiles = c.profiles) :
    resolveAgentRunApplicationName c' after = resolveAgentRunApplicationName c before := by
  have found : c'.getProfile = c.getProfile := funext fun key => by simp only [Cluster.getProfile, profiles]
  simp only [resolveAgentRunApplicationName, resolveAgentRunSpecApplicationName, same.key, same.spec,
    found]

theorem SameRun.mayUse {c c' : Cluster} (profiles : c'.profiles = c.profiles) :
    agentRunMayUseApplication c' after application =
      agentRunMayUseApplication c before application := by
  simp only [agentRunMayUseApplication, same.resolves profiles]

theorem SameRun.resolvesTo {c c' : Cluster} (profiles : c'.profiles = c.profiles) :
    AnvilAgents.resolvesTo c' application after = AnvilAgents.resolvesTo c application before := by
  simp only [AnvilAgents.resolvesTo, same.resolves profiles]

theorem SameRun.precedes : agentRunPrecedes after run = agentRunPrecedes before run := by
  simp only [agentRunPrecedes, same.key, same.created]

theorem SameRun.preceded : agentRunPrecedes run after = agentRunPrecedes run before := by
  simp only [agentRunPrecedes, same.key, same.created]

end Same

/-- A run of the application counts against it. -/
theorem mayUse_of_resolvesTo {c : Cluster}
    (resolves : resolvesTo c application run = true) :
    agentRunMayUseApplication c run application = true := by
  unfold resolvesTo at resolves
  unfold agentRunMayUseApplication
  split at resolves
  next name resolved => simpa [resolved] using resolves
  next => cases resolves

/-- How one step may change runs: none is revived, and a new one goes to the end of the queue. -/
structure Progress (application : String) (w w' : World) : Prop where
  profiles : w'.cluster.profiles = w.cluster.profiles
  runs : ∀ key after, w'.runs.get key = some after →
    (∃ before, w.runs.get key = some before ∧ SameRun before after ∧
      (agentRunPhaseTerminal after.status.phase = false →
        agentRunPhaseTerminal before.status.phase = false)) ∨
    (w.runs.get key = none ∧ after.uid = w.nextUID ∧ BehindAll w application after)

/-- Older runs that are not finished are ahead of younger ones. -/
def Ordered (application : String) (w : World) : Prop :=
  ∀ key key' run run', w.runs.get key = some run → w.runs.get key' = some run' →
    agentRunPhaseTerminal run.status.phase = false →
    agentRunMayUseApplication w.cluster run application = true →
    agentRunMayUseApplication w.cluster run' application = true → run.uid < run'.uid →
    agentRunPrecedes run run' = true

/-- Queue order survives every step. -/
theorem Progress.ordered (progress : Progress application w w') (sound : Sound w)
    (ordered : Ordered application w) : Ordered application w' := by
  intro key key' run run' found found' unfinal uses uses' older
  rcases progress.runs key run found with ⟨before, was, same, unfinal'⟩ | ⟨-, new, -⟩
  · rw [same.mayUse progress.profiles] at uses
    rw [same.precedes]
    rcases progress.runs key' run' found' with ⟨before', was', same', -⟩ | ⟨-, -, behind⟩
    · rw [same'.mayUse progress.profiles] at uses'
      rw [same'.preceded]
      refine ordered key key' before before' was was' (unfinal' unfinal) uses uses' ?_
      rwa [← same.uid, ← same'.uid]
    · -- A new run is behind every run that counts.
      rw [(SameRun.refl run').mayUse progress.profiles] at uses'
      exact behind uses' key before was (unfinal' unfinal) uses
  · -- No run is younger than a new one.
    have bound : run'.uid ≤ w.nextUID := by
      rcases progress.runs key' run' found' with ⟨before', was', same', -⟩ | ⟨-, new', -⟩
      · rw [same'.uid]
        exact Nat.le_of_lt (sound.runUID key' before' was').2
      · exact Nat.le_of_eq new'
    exact absurd (new ▸ older) (Nat.not_lt.mpr bound)

variable {key : Key}

/-- No step puts a run ahead of one that was there before. -/
theorem Progress.ahead_le (progress : Progress application w w')
    (was : w.runs.get key = some before) (same : SameRun before after)
    (unfinal : agentRunPhaseTerminal before.status.phase = false)
    (uses : agentRunMayUseApplication w.cluster before application = true) :
    (w'.runs.keysWhere (aheadOf w'.cluster application after)).card ≤
      (w.runs.keysWhere (aheadOf w.cluster application before)).card := by
  refine Table.card_keysWhere_le fun key' run found ahead => ?_
  simp only [aheadOf, Bool.and_eq_true, decide_eq_true_eq, Bool.not_eq_true'] at ahead
  obtain ⟨⟨⟨other, open_⟩, counts⟩, first⟩ := ahead
  rcases progress.runs key' run found with ⟨run', was', same', open'⟩ | ⟨-, -, behind⟩
  · refine ⟨run', was', ?_⟩
    rw [same'.mayUse progress.profiles] at counts
    rw [same'.precedes, same.preceded] at first
    rw [same'.key, same.key] at other
    simp [aheadOf, other, open' open_, counts, first]
  · -- The new run would have to be both ahead and behind.
    rw [(SameRun.refl run).mayUse progress.profiles] at counts
    have last := agentRunPrecedes_asymm (behind counts key before was unfinal uses)
    rw [same.preceded, last] at first
    cases first

/-- Fewer runs than the limit are ahead of every launched run. -/
def Few (application : String) (limit : Nat) (w : World) : Prop :=
  ∀ key run, w.runs.get key = some run → w.launched application run = true →
    (w.runs.keysWhere (aheadOf w.cluster application run)).card < limit

/-- The parts of being launched. -/
theorem launched_iff : w.launched application run = true ↔
    agentRunPhaseTerminal run.status.phase = false ∧ resolvesTo w.cluster application run = true ∧
      w.createdFor run.uid ≠ [] := by
  simp [launched, and_assoc]

/-- The limit holds in a state in which queue order and the counts are right. -/
theorem launchedRuns_le {limit : Nat} (sound : Sound w) (ordered : Ordered application w)
    (few : Few application limit w) : (w.launchedRuns application).length ≤ limit := by
  rw [launchedRuns, Table.length_filter_values]
  refine Table.admitted_le (fun run => run.uid) ?_ ?_ few
  · intro key key' run run' found found' _ _ same
    exact sound.runUnique key key' run run' found found' same
  · intro key key' run run' found found' launched launched' older
    obtain ⟨open_, resolves, -⟩ := launched_iff.mp launched
    obtain ⟨open', resolves', -⟩ := launched_iff.mp launched'
    have first := ordered key key' run run' found found' open_ (mayUse_of_resolvesTo resolves)
      (mayUse_of_resolvesTo resolves') older
    have apart : run.key ≠ run'.key := by
      rw [sound.runKey key run found, sound.runKey key' run' found']
      rintro rfl
      cases found.symm.trans found'
      exact Nat.lt_irrefl _ older
    simp [aheadOf, apart, open_, mayUse_of_resolvesTo resolves, first]

/-- Counts stay right for runs whose Job is not new. -/
theorem Progress.few_old {limit : Nat} (progress : Progress application w w')
    (few : Few application limit w) (found : w'.runs.get key = some run)
    (launched : w'.launched application run = true) (sound : Sound w)
    (made : w'.createdFor run.uid = w.createdFor run.uid) :
    (w'.runs.keysWhere (aheadOf w'.cluster application run)).card < limit := by
  obtain ⟨open_, resolves, created⟩ := launched_iff.mp launched
  rcases progress.runs key run found with ⟨before, was, same, open'⟩ | ⟨-, new, -⟩
  · rw [same.resolvesTo progress.profiles] at resolves
    rw [made, same.uid] at created
    have bound := few key before was (launched_iff.mpr ⟨open' open_, resolves, created⟩)
    have shrinks := progress.ahead_le was same (open' open_) (mayUse_of_resolvesTo resolves)
    omega
  · -- No Job was created for a run before it was there.
    refine absurd (createdFor_eq_nil fun job member owner owned => ?_) (made ▸ created)
    rw [new]
    exact Nat.ne_of_lt (sound.owner job member owner owned)

/-- What a pass in flight knows about its place in the queue. -/
structure PassAdmitted (application : String) (limit : Nat) (w : World) (K : Know) : Prop where
  base : K.stage = .live → ∀ base run, K.base = some base → w.runs.get K.key = some run →
    SameRun base run
  profile : ∀ key profile, K.profile = some (key, profile) →
    w.cluster.getProfile key = some profile
  gated : K.stage = .live → K.gated = true → ∀ run, w.runs.get K.key = some run →
    resolvesTo w.cluster application run = true →
    (w.runs.keysWhere (aheadOf w.cluster application run)).card < limit

/-- A patch towards a failed run, or one that leaves the phase alone, revives nothing. -/
theorem mergeStatus_unfinal {read new stored : AgentRunStatus}
    (sent : new.phase = read.phase ∨ agentRunPhaseTerminal new.phase = true)
    (open_ : agentRunPhaseTerminal (mergeStatus read new stored).phase = false) :
    agentRunPhaseTerminal stored.phase = false := by
  simp only [mergeStatus, MergePatch.field] at open_
  split at open_
  next => exact open_
  next differs =>
    rcases sent with same | final
    · exact absurd same differs
    · simp [final] at open_

/-- No permitted patch revives a finished run, if only the pass of a run patches while it is live. -/
theorem PassUnfinal.patched {lock : Bool} {read new stored : AgentRun} (unfinal : PassUnfinal w K)
    (permitted : K.permits (.patchStatus lock read new)) (found : w.runs.get new.key = some stored)
    (open_ : agentRunPhaseTerminal (mergeStatus read.status new.status stored.status).phase = false) :
    agentRunPhaseTerminal stored.status.phase = false := by
  by_cases own : new.key = K.key
  · -- A live pass is over a run that is not finished.
    have live (stage : K.stage = .live) : agentRunPhaseTerminal stored.status.phase = false := by
      obtain ⟨run, found', phase⟩ := unfinal stage
      rw [own] at found
      cases found.symm.trans found'
      exact phase
    rw [permits, if_pos own] at permitted
    rcases permitted with ⟨patch, -⟩ | patch | patch | patch
    · exact live patch.stage
    · exact live patch.stage
    · obtain ⟨requester, now, rfl⟩ := patch.status
      refine mergeStatus_unfinal (.inr ?_) open_
      rfl
    · obtain ⟨receipt, rfl⟩ := patch.status
      refine mergeStatus_unfinal (.inl ?_) open_
      rfl
  · obtain ⟨summary, now, rfl⟩ := (permitted.peer own).status
    refine mergeStatus_unfinal (.inr ?_) open_
    rfl

variable {pid : Key} {began : World}

/-- A permitted call makes progress, if a peer it creates goes to the end of the queue. -/
theorem PassUnfinal.progress (unfinal : PassUnfinal w K) (permitted : K.permits c)
    (inOrder : ∀ ns generateName spec new, c = .createPeer ns generateName spec →
      (serve (.createPeer ns generateName spec) w).1 = .ok new → BehindAll w application new) :
    Progress application w (serve c w).2 := by
  refine ⟨by rw [serve_cluster], fun key after found => ?_⟩
  cases serve_run found with
  | same kept => exact .inl ⟨after, kept, .refl after, id⟩
  | @status lock read new stored₀ own before meets =>
    subst own
    refine .inl ⟨stored₀, before, ⟨rfl, rfl, rfl, rfl⟩, ?_⟩
    exact unfinal.patched permitted before
  | @notes read new stored₀ own before =>
    exact .inl ⟨stored₀, before, ⟨rfl, rfl, rfl, rfl⟩, id⟩
  | updatedNotes | updatedStatus => exact absurd permitted id
  | created named absent next made => exact .inr ⟨absent, rfl, inOrder _ _ _ _ rfl made⟩

variable {cfg : Config Key Call Reply World}

/-- The environment makes progress where it keeps profiles and creates runs in order. -/
theorem act_progress {action : Act} {w' : World}
    (acted : act action cfg.server = some w') (fixed : FixedScope r application cfg (.act action))
    (inOrder : CreatesInOrder application cfg (.act action)) :
    Progress application cfg.server w' := by
  refine ⟨?_, fun key after found => ?_⟩
  · rcases act_cluster acted with same | ⟨cluster, rfl, replaced⟩
    · rw [same]
    · rw [replaced]
      exact fixed.1
  · cases act_run acted found with
    | same kept => exact .inl ⟨after, kept, .refl after, id⟩
    | @changed stored₀ _ _ before => exact .inl ⟨stored₀, before, ⟨rfl, rfl, rfl, rfl⟩, id⟩
    | created absent next others ran made =>
      subst ran
      exact .inr ⟨absent, rfl, inOrder _ made⟩

theorem SameRun.trans {first second third : AgentRun} (h : SameRun first second)
    (h' : SameRun second third) : SameRun first third :=
  ⟨h'.key.trans h.key, h'.uid.trans h.uid, h'.created.trans h.created, h'.spec.trans h.spec⟩

variable {K' : Know} {limit : Nat}

/-- The same knowledge about the place in the queue, in the same stage or a later one. -/
structure SamePlace (K K' : Know) : Prop where
  key : K'.key = K.key
  stage : K'.stage = .live → K.stage = .live
  base : ∀ base, K'.base = some base → K.base = some base
  profile : K'.profile = K.profile
  gated : K'.gated = K.gated

variable {effective : AgentRun} {defaultLimit : Nat}

/-- A queue that lets a run of the application through has fewer runs than the limit ahead of it. -/
theorem agentRunQueuedBehind_free (positive : 0 < limit)
    (limited : agentRunApplicationMaxConcurrentRuns w.cluster defaultLimit application = limit)
    (resolves : resolveAgentRunApplicationName w.cluster effective = .ok application)
    (free : agentRunQueuedBehind w.cluster defaultLimit w.runs.values effective = .ok none) :
    (w.runs.keysWhere (aheadOf w.cluster application effective)).card < limit := by
  have named : application ≠ "" := by
    rintro rfl
    simp [agentRunApplicationMaxConcurrentRuns] at limited
    omega
  -- The schedule's queue let the run through, and so did the application's.
  have passed : agentRunQueuedBehindApplication w.cluster defaultLimit w.runs.values effective =
      .ok none := by
    unfold agentRunQueuedBehind at free
    split at free
    next => cases free
    next =>
      cases outcome : agentRunQueuedBehindApplication w.cluster defaultLimit w.runs.values effective with
      | error conflict => simp [outcome, Except.map] at free
      | ok ahead => cases ahead <;> simp_all [Except.map]
  have counted : queuedBehind limit (w.runs.values.filter (aheadOf w.cluster application effective)) =
      none := by
    have places : limit ≠ 0 := by omega
    simp only [agentRunQueuedBehindApplication, resolves, bind, Except.bind, named, if_false, limited,
      places, pure, Except.pure] at passed
    exact Except.ok.inj passed
  rw [← Table.length_filter_values]
  exact queuedBehind_free positive counted

/-- The calls that change what a pass knows of its place in the queue. -/
def Know.movesPlace (K : Know) : Call → Prop
  | .getRun key => key = K.key
  | .patchStatus _ _ new => new.key = K.key
  | .getProfile _ | .queuedBehind _ _ => True
  | _ => False

/-- All other calls leave it alone. -/
theorem Know.learn_place (still : ¬ K.movesPlace c) (reply : Reply c) :
    SamePlace K (K.learn c reply) := by
  have learnt := K.learnt c reply
  generalize K.learn c reply = K' at learnt ⊢
  cases learnt with
  | gone | read => exact absurd rfl still
  | attempt _ own | patched own => exact absurd own still
  | profile | gated => exact absurd trivial still
  | dropped => exact ⟨rfl, id, by simp, rfl, rfl⟩
  | _ => exact ⟨rfl, id, fun _ => id, rfl, rfl⟩

theorem SamePlace.refl (K : Know) : SamePlace K K :=
  ⟨rfl, id, fun _ => id, rfl, rfl⟩

theorem SamePlace.closing (K : Know) : SamePlace K K.close :=
  ⟨rfl, by simp, by simp, rfl, rfl⟩

section Admitted

variable (admitted : PassAdmitted application limit w K)

include admitted

/-- The place of a run in the queue does not get worse. -/
theorem PassAdmitted.keep (unfinal : PassUnfinal w K) (progress : Progress application w w')
    (same : SamePlace K K') : PassAdmitted application limit w' K' := by
  -- The run of a live pass was there before.
  have earlier (live : K'.stage = .live) {run : AgentRun} (found : w'.runs.get K.key = some run) :
      ∃ before, w.runs.get K.key = some before ∧ SameRun before run ∧
        agentRunPhaseTerminal before.status.phase = false := by
    obtain ⟨before, was, open_⟩ := unfinal (same.stage live)
    rcases progress.runs K.key run found with ⟨before', was', alike, -⟩ | ⟨absent, -⟩
    · cases was.symm.trans was'
      exact ⟨before, was, alike, open_⟩
    · cases was.symm.trans absent
  refine ⟨fun live base run at_base found => ?_, fun key profile read => ?_,
    fun live gate run found resolves => ?_⟩
  · rw [same.key] at found
    have at_base := same.base base at_base
    obtain ⟨before, was, alike, -⟩ := earlier live found
    exact (admitted.base (same.stage live) base before at_base was).trans alike
  · rw [same.profile] at read
    rw [Cluster.getProfile, progress.profiles]
    exact admitted.profile key profile read
  · rw [same.key] at found
    rw [same.gated] at gate
    obtain ⟨before, was, alike, open_⟩ := earlier live found
    rw [alike.resolvesTo progress.profiles] at resolves
    have bound := admitted.gated (same.stage live) gate before was resolves
    have shrinks := progress.ahead_le was alike open_ (mayUse_of_resolvesTo resolves)
    omega

/-- What a pass learns of its place when the queues let it through. -/
theorem PassAdmitted.gate (positive : 0 < limit)
    (limited : agentRunApplicationMaxConcurrentRuns w.cluster K.limit application = limit)
    (permitted : K.permits (.queuedBehind defaultLimit effective))
    (free : agentRunQueuedBehind w.cluster defaultLimit w.runs.values effective = .ok none) :
    PassAdmitted application limit w { K with gated := true } := by
  obtain ⟨rfl, live, base, at_base, shape⟩ := permitted
  refine ⟨admitted.base, admitted.profile, fun _ _ run found resolves => ?_⟩
  have same := admitted.base live base run at_base found
  -- The stored run, the version read and its effective form belong to one application.
  have belongs : resolveAgentRunApplicationName w.cluster effective = .ok application := by
    rw [resolveAgentRunApplicationName_effective shape admitted.profile, ← same.resolves rfl]
    unfold resolvesTo at resolves
    split at resolves
    next name resolved => rw [resolved, of_decide_eq_true resolves]
    next => cases resolves
  have bound := agentRunQueuedBehind_free positive limited belongs free
  have alike : aheadOf w.cluster application run = aheadOf w.cluster application effective := by
    funext other
    simp only [aheadOf, agentRunPrecedes, same.key, same.created, shape.key, shape.created]
  rwa [alike]

/-- What a pass knows of its place stays right through its own calls. -/
theorem PassAdmitted.learn (positive : 0 < limit)
    (limited : agentRunApplicationMaxConcurrentRuns w.cluster K.limit application = limit)
    (unfinal : PassUnfinal w K) (permitted : K.permits c)
    (progress : Progress application w (serve c w).2) :
    PassAdmitted application limit (serve c w).2 (K.learn c (serve c w).1) := by
  have kept := admitted.keep unfinal progress (.refl K)
  have closed := admitted.keep unfinal progress (.closing K)
  by_cases moves : K.movesPlace c
  · cases c with
    | getRun key =>
      obtain rfl : key = K.key := moves
      simp only [serve] at kept closed ⊢
      cases found : w.runs.get K.key with
      | none => simpa [learn] using closed
      | some run =>
        -- What was just read is what is stored.
        have current : ∀ base run', some run = some base → w.runs.get K.key = some run' →
            SameRun base run' := by
          rintro base run' ⟨⟩ found'
          cases found.symm.trans found'
          exact .refl run
        simp only [learn, readOwn, if_true]
        split
        next => exact ⟨fun _ => current, kept.profile, by simp⟩
        next => exact ⟨fun _ => current, kept.profile, kept.gated⟩
    | patchStatus lock read new =>
      have own : new.key = K.key := moves
      simp only [serve] at kept closed ⊢
      have ends (K' : Know) (ended : K' = K.close) :
          PassAdmitted application limit (w.patchStatus lock read new).2 K' := ended ▸ closed
      cases records : recordsAttempt read new with
      | false => exact ends _ (by simp [learn, own, records])
      | true =>
        cases reply : (w.patchStatus lock read new).1 with
        | ok run =>
          rw [learn_attempt records own]
          obtain ⟨-, -, -, -, -, -, after⟩ := patchStatus_reply reply
          refine ⟨fun _ => ?_, kept.profile, kept.gated⟩
          rintro base run' ⟨⟩ found
          rw [own] at after
          cases after.symm.trans found
          exact .refl run
        | _ => exact ends _ (by simp [learn, own, records])
    | getProfile key =>
      simp only [serve] at kept ⊢
      cases found : w.cluster.getProfile key with
      | none => exact kept
      | some profile =>
        refine ⟨kept.base, ?_, kept.gated⟩
        rintro key' profile' ⟨⟩
        exact found
    | queuedBehind defaultLimit effective =>
      simp only [serve] at kept ⊢
      rcases outcome : agentRunQueuedBehind w.cluster defaultLimit w.runs.values effective with
        conflict | _ | ahead
      · exact kept
      · exact admitted.gate positive limited permitted outcome
      · exact kept
    | _ => exact absurd moves id
  · exact admitted.keep unfinal progress (learn_place moves _)

/-- The run for which a pass creates a Job has few ahead of it. -/
theorem PassAdmitted.creating {job : Job} (sound : Sound w) (pass : PassSound w pid began K)
    (permitted : K.permits (.createJob job)) (found : w.runs.get key = some run)
    (theirs : run.uid = K.uid) (resolves : resolvesTo w.cluster application run = true) :
    (w.runs.keysWhere (aheadOf w.cluster application run)).card < limit := by
  obtain ⟨waits, -, -⟩ := pass.creating sound permitted
  obtain ⟨stage, -, -, may⟩ := permitted
  obtain ⟨run', found', uid, -⟩ := pass.live stage
  obtain rfl := sound.runUnique _ _ _ _ found found' (theirs.trans uid.symm)
  rcases may with ⟨-, gated, -⟩ | ⟨unattempted, -⟩
  · exact admitted.gated stage gated run found resolves
  · have attempted := (pass.pending waits).2.1
    simp [unattempted] at attempted

/-- A permitted call leaves the counts right. -/
theorem Few.serve (sound : Sound w) (pass : PassSound w pid began K) (permitted : K.permits c)
    (progress : Progress application w (serve c w).2) (few : Few application limit w) :
    Few application limit (serve c w).2 := by
  intro key run found launched
  rcases serve_created c w with same | ⟨job, rfl, -, grown, -⟩
  · exact progress.few_old few found launched sound (by simp only [createdFor, same])
  · by_cases theirs : run.uid = K.uid
    · -- The run whose Job is created was let through by the queues.
      have resolves := (launched_iff.mp launched).2.1
      have runs : (AnvilAgents.serve (.createJob job) w).2.runs = w.runs := createJob_runs job
      rw [serve_cluster] at resolves
      rw [runs] at found
      rw [serve_cluster, runs]
      exact admitted.creating sound pass permitted found theirs resolves
    · refine progress.few_old few found launched sound ?_
      obtain ⟨-, owned, -⟩ := pass.creating sound permitted
      have other : ¬ (job.owner.any fun owner => owner.uid = run.uid) = true := by
        simpa [owned] using Ne.symm theirs
      rw [createdFor_append _ run.uid grown]
      simp [other]

end Admitted

/-- The environment keeps the limit where it is fixed. -/
theorem act_places {action : Act} {w' : World}
    (acted : act action cfg.server = some w') (fixed : FixedScope r application cfg (.act action)) :
    placesOf r w'.cluster application = placesOf r cfg.server.cluster application := by
  rcases act_cluster acted with same | ⟨cluster, rfl, replaced⟩
  · rw [same]
  · rw [replaced]
    exact fixed.2

/-- A pass that has made no call yet knows nothing of the queue. -/
theorem PassAdmitted.start (w : World) (pid : Key) :
    PassAdmitted application limit w (Know.start r pid) := by
  refine ⟨?_, ?_, ?_⟩
  · simp [Know.start]
  · simp [Know.start]
  · simp [Know.start]

/-- The steps that keep the scope, interrupt only where no pass runs and create runs in order. -/
def KeepsOrder (r : AgentRunReconciler) (application : String) (cfg : Config Key Call Reply World)
    (move : Move Key Act) : Prop :=
  FixedScope r application cfg move ∧ InterruptsIdle cfg move ∧ CreatesInOrder application cfg move

theorem KeepsOrder.apart : PeersApart r (KeepsOrder r application) := by
  intro cfg pid began seen lock read new run keeps calling other _ _
  exact (keeps.2.1 began seen lock read new calling).resolve_left other

/-- Such a step of a pass makes progress. -/
theorem KeepsOrder.progress {pid : Key} {began : World}
    {seen : List (Event Call Reply)} (keeps : KeepsOrder r application cfg (.advance pid))
    (calling : Calling cfg pid began seen c) (unfinal : PassUnfinal cfg.server K)
    (permitted : K.permits c) : Progress application cfg.server (serve c cfg.server).2 := by
  refine unfinal.progress permitted ?_
  rintro ns generateName spec new rfl made
  exact keeps.2.2 began seen ns generateName spec new calling made

/-- Queue order and counts are right in every reachable state, and so is what passes know of them. -/
theorem controllers_admitted (positive : 0 < limit)
    (reached : (controllers r).Reaches Initial (KeepsOrder r application) cfg) :
    Ordered application cfg.server ∧
      (placesOf r cfg.server.cluster application = limit → Few application limit cfg.server) := by
  refine (reached.local_invariant (C := reconcileContract)
    (G := fun w => Ordered application w ∧
      (placesOf r w.cluster application = limit → Few application limit w))
    (L := fun w _ _ K => placesOf r w.cluster application = limit → PassAdmitted application limit w K)
    (Know.start r) (reconcile_conforms r) ?_ ?_ ?_ ?_ ?_ ?_).1
  · exact fun cfg reached _ => (controllers_sound reached.unrestricted).1.honest
  · intro w initial
    refine ⟨fun key key' run run' found => ?_, fun _ key run found => ?_⟩
    · simp [initial.runs, Table.empty] at found
    · simp [initial.runs, Table.empty] at found
  · exact fun cfg pid _ _ _ _ => .start cfg.server pid
  · intro cfg pid began seen request reached keeps calling counts admitted permitted
    obtain ⟨rest, at_pid⟩ := calling
    obtain ⟨sound, passes⟩ := controllers_sound reached.unrestricted
    have pass := (passes pid _ at_pid).2
    have unfinal := controllers_unfinal KeepsOrder.apart reached pid _ at_pid
    have progress := keeps.progress ⟨rest, at_pid⟩ unfinal permitted
    have same := serve_cluster request cfg.server
    refine ⟨⟨progress.ordered sound counts.1, fun places => ?_⟩, fun places => ?_⟩
    · have places := same ▸ places
      exact (counts.2 places).serve (admitted places) sound pass permitted progress
    · have places := same ▸ places
      refine (admitted places).learn positive ?_ unfinal permitted progress
      rwa [(know_self pid seen).2]
  · intro cfg pid began seen request other p reached keeps calling counts admitted permitted distinct
      busy theirs places
    obtain ⟨rest, at_pid⟩ := calling
    have unfinal := controllers_unfinal KeepsOrder.apart reached pid _ at_pid
    have unfinal' := controllers_unfinal KeepsOrder.apart reached other _ busy
    have progress := keeps.progress ⟨rest, at_pid⟩ unfinal permitted
    have same := serve_cluster request cfg.server
    exact (theirs (same ▸ places)).keep unfinal' progress (.refl _)
  · intro cfg action w' reached keeps acted counts
    obtain ⟨sound, -⟩ := controllers_sound reached.unrestricted
    have progress := act_progress acted keeps.1 keeps.2.2
    have same := act_places acted keeps.1
    obtain ⟨log, -⟩ := act_frame acted
    refine ⟨⟨progress.ordered sound counts.1, fun places key run found launched => ?_⟩,
      fun pid p busy admitted places => ?_⟩
    · exact progress.few_old (counts.2 (same ▸ places)) found launched sound
        (by simp only [createdFor, log])
    · have unfinal := controllers_unfinal KeepsOrder.apart reached pid _ busy
      exact (admitted (same ▸ places)).keep unfinal progress (.refl _)

/--
The limit of an application holds where runs are created in queue order.

In every run of the controller over a fixed scope in which every new run goes to the end of the queue,
and no run with a pass in flight is interrupted by another, no state has more launched runs of the
application than it has places.
-/
theorem launchedRuns_within_limit {cfg : Config Key Call Reply World}
    (reached : (controllers r).Reaches Initial (KeepsOrder r application) cfg)
    (positive : 0 < placesOf r cfg.server.cluster application) :
    (cfg.server.launchedRuns application).length ≤ placesOf r cfg.server.cluster application := by
  obtain ⟨ordered, few⟩ := controllers_admitted positive reached
  exact launchedRuns_le (controllers_sound reached.unrestricted).1 ordered (few rfl)

/-- A check that a step leaves the cluster alone, and that a pass patches its own run only. -/
def fixedScope (cfg : Config Key Call Reply World) : Move Key Act → Bool
  | .act (.setCluster _) => false
  | .advance pid =>
    match cfg.procs pid with
    | some ⟨_, _, .call (.patchStatus _ _ new) _⟩ => new.key = pid
    | _ => true
  | _ => true

theorem fixedScope_sound (cfg : Config Key Call Reply World) (move : Move Key Act)
    (checked : fixedScope cfg move = true) :
    FixedScope r application cfg move ∧ InterruptsIdle cfg move := by
  cases move with
  | act action =>
    cases action with
    | setCluster cluster => cases checked
    | _ => exact ⟨trivial, trivial⟩
  | advance pid =>
    refine ⟨trivial, ?_⟩
    rintro began seen lock read new ⟨rest, at_pid⟩
    exact .inl (by simpa [fixedScope, at_pid] using checked)
  | _ => exact ⟨trivial, trivial⟩

/-- A check that implies `CreatesInOrder`, for runs in which no peer is created. -/
def createsInOrder (cfg : Config Key Call Reply World) : Move Key Act → Bool
  | .act (.createRun key notes spec) =>
    match (cfg.server.createRun key notes spec).1 with
    | .ok new => cfg.server.runs.values.all fun run => agentRunPrecedes run new
    | _ => true
  | .advance pid =>
    match cfg.procs pid with
    | some ⟨_, _, .call (.createPeer _ _ _) _⟩ => false
    | _ => true
  | _ => true

theorem createsInOrder_sound (cfg : Config Key Call Reply World) (move : Move Key Act)
    (checked : createsInOrder cfg move = true) :
    CreatesInOrder application cfg move := by
  cases move with
  | act action =>
    cases action with
    | createRun key notes spec =>
      intro new made _ key' run found _ _
      simp only [createsInOrder, made, List.all_eq_true] at checked
      exact checked run (Table.mem_values found)
    | _ => trivial
  | advance pid =>
    rintro began seen ns generateName spec new ⟨rest, at_pid⟩
    simp [createsInOrder, at_pid] at checked
  | _ => trivial

/-- A controller that lets one run of an application run at once. -/
def oneAtATime : AgentRunReconciler :=
  { sampleReconciler with applicationMaxConcurrentRuns := 1 }

/-- A run of the application is created and launched. -/
def launchApplicationRun (name : String) : List (Move Key Act) :=
  .act (.createRun ⟨"ns", name⟩ {} { applicationRef := some "app" }) ::
    work ⟨"ns", name⟩ 16 ++ work ⟨"ns", name⟩ 20

/-- A run of the application is created and has to wait. -/
def queueApplicationRun (name : String) : List (Move Key Act) :=
  .act (.createRun ⟨"ns", name⟩ {} { applicationRef := some "app" }) :: work ⟨"ns", name⟩ 10

theorem launchedRuns_within_limit_queued :
    ∃ cfg, (controllers oneAtATime).Reaches Initial (KeepsOrder oneAtATime "app") cfg ∧
      placesOf oneAtATime cfg.server.cluster "app" = 1 ∧
      (cfg.server.launchedRuns "app").length = 1 ∧ cfg.server.runs.values.length = 2 ∧
      (cfg.server.launchedRuns "app").length ≤ placesOf oneAtATime cfg.server.cluster "app" :=
  Machine.Reaches.played (P := fun cfg => placesOf oneAtATime cfg.server.cluster "app" = 1 ∧
      (cfg.server.launchedRuns "app").length = 1 ∧ cfg.server.runs.values.length = 2)
    (fun cfg move => fixedScope cfg move && createsInOrder cfg move)
    (launchApplicationRun "a" ++ queueApplicationRun "b") (Reaches.idle sampleWorld_initial)
    (fun cfg move checked =>
      have ⟨fixed, inOrder⟩ := Bool.and_eq_true_iff.mp checked
      have ⟨scope, idle⟩ := fixedScope_sound cfg move fixed
      ⟨scope, idle, createsInOrder_sound cfg move inOrder⟩) (by decide +kernel)
    fun _ reached ⟨places, launched, both⟩ =>
      ⟨places, launched, both, launchedRuns_within_limit reached (by omega)⟩

/-- Of two runs created in one second, the one with the smaller name overtakes the launched one. -/
theorem launchedRuns_overtaken :
    ∃ cfg, (controllers oneAtATime).Reaches Initial
        (fun cfg move => FixedScope oneAtATime "app" cfg move ∧ InterruptsIdle cfg move) cfg ∧
      placesOf oneAtATime cfg.server.cluster "app" = 1 ∧
      (cfg.server.launchedRuns "app").length = 2 :=
  Machine.Reaches.played fixedScope (launchApplicationRun "b" ++ launchApplicationRun "a")
    (Reaches.idle sampleWorld_initial) fixedScope_sound (by decide +kernel) fun _ _ facts => facts

end AnvilAgents
