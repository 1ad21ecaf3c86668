import AnvilAgents.Proofs.Trigger.Budget

/-!
Attempts of one delivery.

The runs of a delivery are named after the trigger, the delivery and the profile, so that attempts
of one delivery create the same runs as long as its targets ask for the same profiles.
-/

namespace AnvilAgents.ExternalTrigger

open Text Conc List Contract Machine

/-- The runs that were not there at first. -/
def createdNames (s₀ s : World) : List String :=
  s.names.filter fun name => name ∉ s₀.names

/-- The trigger has seen the delivery. -/
def World.seen (s : World) (deliveryID : String) : Bool :=
  s.trigger.status.seen deliveryID

/-- What the store says about the delivery. -/
structure Progress (S : Setting) (s : World) : Prop where
  /-- Runs that were not there at first are planned ones of a delivery not seen at first. -/
  planned : ∀ name ∈ s.names, name ∈ S.s₀.names ∨
    S.s₀.seen S.deliveryID = false ∧ name ∈ S.planned
  /-- A delivery seen at first stays seen. -/
  seen : S.s₀.seen S.deliveryID = true → s.seen S.deliveryID = true
  /-- A delivery that came to be seen has all its runs. -/
  complete : s.seen S.deliveryID = true → S.s₀.seen S.deliveryID = true ∨ S.planned ⊆ s.names

/-- What an attempt has learnt is true of the store. -/
structure Informed (S : Setting) (s : World) (K : Reading) : Prop where
  unseen : ∀ status ∈ K.reads, status.seen S.deliveryID = false → S.s₀.seen S.deliveryID = false
  seen : ∀ status ∈ K.reads, status.seen S.deliveryID = true →
    S.s₀.seen S.deliveryID = true ∨ S.planned ⊆ s.names
  names : K.names ⊆ s.names

section Attempts

variable {S : Setting} {s s' : World} {c : Call} {K : Reading} {pool : Requests} {change : Run → Run}

theorem Progress.update {name : String} (keeps : ∀ run, (change run).name = run.name)
    (progress : Progress S s) : Progress S (s.updateRun name change) := by
  refine ⟨?_, progress.seen, ?_⟩
  · rw [updateRun_names keeps]
    exact progress.planned
  · rw [updateRun_names keeps]
    exact progress.complete

/-- A permitted call keeps what the store says. -/
theorem Progress.served (steady : S.steady) (progress : Progress S s) (informed : Informed S s K)
    (permitted : K.permits S c) : Progress S (serve c s).2 := by
  have unseen (admitted : K.Admitted S) : S.s₀.seen S.deliveryID = false := by
    obtain ⟨first, read, -, unseen⟩ := admitted
    exact informed.unseen first read (unseen steady)
  have writes := serve_writes c s
  generalize (serve c s).2 = s' at writes
  cases writes with
  | nothing => exact progress
  | @create run fresh =>
    have grown : World.names { s with runs := s.runs ++ [run] } = s.names ++ [run.name] := map_append
    refine ⟨fun name member => ?_, progress.seen, fun seen => ?_⟩
    · rcases mem_append.mp (grown ▸ member) with old | new
      · exact progress.planned name old
      · obtain ⟨admitted, planned⟩ := permitted.2 steady
        exact .inr ⟨unseen admitted, mem_singleton.mp new ▸ planned⟩
    · rw [grown]
      exact (progress.complete seen).imp_right fun all => Subset.trans all (subset_append_left _ _)
  | annotate => exact progress.update fun _ => rfl
  | @patch original new =>
    refine ⟨progress.planned, fun seen => ?_, fun seen => ?_⟩
    · rcases permitted.2 with ⟨-, kept⟩ | ⟨-, -, admitted, -⟩
      · have stored := progress.seen seen
        simpa [World.seen, AgentExternalTriggerStatus.seen, mergeStatus, kept] using stored
      · cases seen.symm.trans (unseen admitted)
    · rcases permitted.2 with ⟨-, kept⟩ | ⟨-, -, -, all⟩
      · refine progress.complete ?_
        simpa [World.seen, AgentExternalTriggerStatus.seen, mergeStatus, kept] using seen
      · exact .inr (Subset.trans (all steady) informed.names)

theorem serve_names_subset (c : Call) (s : World) : s.names ⊆ (serve c s).2.names := by
  have writes := serve_writes c s
  generalize (serve c s).2 = s' at writes
  cases writes with
  | create fresh => exact map_subset _ (subset_append_left _ _)
  | annotate =>
    rw [updateRun_names]
    · exact fun _ => id
    · exact fun _ => rfl
  | nothing | patch => exact fun _ => id

/-- Runs are never removed, so what an attempt knows stays true. -/
theorem Informed.mono (informed : Informed S s K) (more : s.names ⊆ s'.names) : Informed S s' K :=
  ⟨informed.unseen, fun status read seen => (informed.seen status read seen).imp_right fun all =>
    Subset.trans all more, Subset.trans informed.names more⟩

/-- The reply to a call teaches an attempt nothing false. -/
theorem Informed.served (progress : Progress S s) (informed : Informed S s K) (c : Call) :
    Informed S (serve c s).2 (K.learn c (serve c s).1) := by
  have kept := informed.mono (serve_names_subset c s)
  cases c with
  | getTrigger ns name =>
    simp only [serve]
    split
    · refine ⟨fun status read unseen => ?_, fun status read seen => ?_, informed.names⟩
      · rcases mem_append.mp read with old | new
        · exact informed.unseen status old unseen
        · rw [mem_singleton.mp new] at unseen
          exact Bool.eq_false_iff.mpr fun before => Bool.eq_false_iff.mp unseen (progress.seen before)
      · rcases mem_append.mp read with old | new
        · exact informed.seen status old seen
        · rw [mem_singleton.mp new] at seen
          exact progress.complete seen
    · exact informed
  | createRun run =>
    simp only [serve] at kept ⊢
    split
    next found =>
      refine ⟨informed.unseen, informed.seen, cons_subset.mpr ⟨?_, informed.names⟩⟩
      exact run?_isSome.mp (by simp [found])
    next absent =>
      rw [absent] at kept
      refine ⟨kept.unseen, kept.seen, cons_subset.mpr ⟨?_, kept.names⟩⟩
      exact mem_map_of_mem (mem_append_right _ (.head _))
  | annotateRun | listRuns | patchStatus | getSecret | getCouncil | getRun =>
    exact ⟨kept.unseen, kept.seen, kept.names⟩

/-- Some attempt was answered as accepted. -/
def acceptedAttempt (pool : Requests) : Bool :=
  pool.tasks.any fun task => task.answer.any Answer.accepts

section Reached

variable (steady : S.steady) (present : targetsExist S.s₀ = true) (reached : S.Reached pool)

include steady present reached

/-- What the store says and what every attempt knows. -/
theorem reached_progress : Progress S pool.server ∧
    ∀ task ∈ pool.tasks, Informed S pool.server (S.know task) := by
  refine Service.Reaches.pool_invariant (I := fun pool => Progress S pool.server ∧
    ∀ task ∈ pool.tasks, Informed S pool.server (S.know task)) ?_ ?_ reached
  · rintro s rfl
    exact ⟨⟨fun _ => .inl, id, .inl⟩, fun _ member => (nomatch member)⟩
  · rintro pool pool' move before ⟨progress, informed⟩ _ cases
    cases cases with
    | arrive request =>
      refine ⟨progress, fun task member => ?_⟩
      rcases mem_append.mp member with old | new
      · exact informed task old
      · rw [mem_singleton.mp new]
        exact ⟨nofun, nofun, nil_subset _⟩
    | advance index request seen c rest found =>
      have member := mem_of_getElem? found
      obtain ⟨permitted, -⟩ := reached_settles (fun _ => present) before _ member
      refine ⟨progress.served steady (informed _ member) permitted, fun task changed => ?_⟩
      rcases mem_or_eq_of_mem_set changed with old | rfl
      · exact (informed task old).mono (serve_names_subset c _)
      · rw [Setting.know, know_append]
        exact (informed _ member).served progress c
    | refuse index request seen c rest found =>
      refine ⟨progress, fun task changed => ?_⟩
      rcases mem_or_eq_of_mem_set changed with old | rfl
      · exact informed task old
      · exact (congrArg (Informed S pool.server) know_refused).mpr
          (informed _ (mem_of_getElem? found))
    | act action s acted =>
      obtain ⟨name, phase, run, rfl, -, -, rfl⟩ := act_eq acted
      refine ⟨progress.update fun _ => rfl, fun task member => (informed task member).mono ?_⟩
      rw [updateRun_names]
      · exact fun _ => id
      · exact fun _ => rfl

/-- Once an attempt is accepted, exactly the planned runs of a new delivery have been created. -/
theorem created_of_accepted (accepted : acceptedAttempt pool = true) (name : String) :
    name ∈ createdNames S.s₀ pool.server ↔ S.s₀.seen S.deliveryID = false ∧
      name ∈ S.planned ∧ name ∉ S.s₀.names := by
  obtain ⟨progress, informed⟩ := reached_progress steady present reached
  -- The accepted attempt knew that all planned runs exist, or that the delivery was seen.
  have complete : S.s₀.seen S.deliveryID = true ∨ S.planned ⊆ pool.server.names := by
    obtain ⟨task, member, answered⟩ := any_eq_true.mp accepted
    obtain ⟨answer, given, accepts⟩ := (Option.any_eq_true _ _).mp answered
    have post := reached_settles (fun _ => present) reached task member
    obtain ⟨request, seen, code⟩ := task
    cases code with
    | ret value =>
      cases given
      rcases post.accepts accepts steady with all | ⟨status, read, saw⟩
      · exact .inr (Subset.trans all (informed _ member).names)
      · exact (informed _ member).seen status read saw
    | fail | call => cases given
  rw [createdNames, mem_filter, decide_eq_true_eq]
  constructor
  · rintro ⟨here, new⟩
    obtain ⟨unseen, planned⟩ := (progress.planned name here).resolve_left new
    exact ⟨unseen, planned, new⟩
  · rintro ⟨unseen, planned, new⟩
    refine ⟨(complete.resolve_left fun seen => ?_) planned, new⟩
    cases unseen.symm.trans seen

end Reached

end Attempts

/-- The attempts of one delivery, with the gate open to them. -/
def Retrying (s₀ : World) (deliveryID : String) (pool : Requests)
    (move : PoolMove WebhookRequest Act) : Prop :=
  attemptMove s₀ deliveryID move = true ∧ gateOpen s₀ pool move = true

/--
The attempts of a delivery amount to one attempt.

None is turned down because of a run that an attempt created, and once one is accepted the runs
created are those that an attempt without interruption creates.
-/
structure RetriesComplete (env : WebhookEnv) (s₀ : World) (deliveryID : String) (pool : Requests) :
    Prop where
  unblocked : ∀ task ∈ pool.tasks, ∀ name ∈ createdNames s₀ pool.server,
    task.answer ≠ some (.error 409 "concurrency_forbid" (blockedMessage name))
  created : ∀ request answer s, trimSpace request.deliveryHeader = deliveryID →
    (handleExternalTriggerWebhook env request).run serve s₀ = (.ok answer, s) →
    answer.accepts = true → acceptedAttempt pool = true →
    ∀ name, name ∈ createdNames s₀ pool.server ↔ name ∈ createdNames s₀ s

/--
A delivery whose target runs exist, and neither finish while it is retried nor stand in its way at
the gate, is completed by its attempts as by one attempt.
-/
theorem retries_complete (env : WebhookEnv) (s₀ : World) (deliveryID : String)
    (present : targetsExist s₀ = true) (pool : Requests)
    (reached : (webhooks env).Reaches (· = s₀) (Retrying s₀ deliveryID) pool) :
    RetriesComplete env s₀ deliveryID pool := by
  refine ⟨fun task member name created answered => ?_, ?_⟩
  · -- The run that blocks an attempt was there at first, so no attempt created it.
    let S : Setting := ⟨env, s₀, deliveryID, True, True⟩
    have gated : S.Reached pool := reached.mono fun _ _ good => ⟨fun _ => good.1, fun _ => good.2⟩
    have post := reached_settles (fun _ => present) gated task member
    obtain ⟨request, seen, code⟩ := task
    cases code with
    | ret value =>
      cases answered
      have new := (mem_filter.mp created).2
      exact (decide_eq_true_eq.mp new) (post.blocked name rfl trivial)
    | fail | call => cases answered
  · intro request answer s same ran accepts accepted name
    -- An attempt without interruption is one of the runs that create what was planned.
    let S : Setting := ⟨env, s₀, deliveryID, True, False⟩
    obtain ⟨seen, alone⟩ := Service.Reaches.uninterrupted (webhooks env) (· = s₀) S.Allows rfl
      (fun _ => ⟨fun _ => beq_iff_eq.mpr same, nofun⟩) (fun _ _ => ⟨fun _ => rfl, nofun⟩) ran
    have attempted : S.Reached pool := reached.mono fun _ _ good => ⟨fun _ => good.1, nofun⟩
    rw [created_of_accepted (S := S) trivial present attempted accepted,
      created_of_accepted (S := S) trivial present alone
        (by simp [acceptedAttempt, Task.answer, accepts])]

section RetrySamples

/-- A trigger without a policy of its own that creates a run of one profile. -/
def forbidWorld : World :=
  { sampleWorld with trigger := { sampleTrigger with
      spec := { sampleTrigger.spec with concurrencyPolicy := .unset, maxDeliveriesPerDay := 0 } } }

/-- A trigger that delivers to a run which is still active. -/
def activeTargetWorld : World :=
  { forbidWorld with
    trigger := { forbidWorld.trigger with
      spec := { forbidWorld.trigger.spec with targets := [{ kind := .agentRun, name := "job" }] } }
    runs := [{ name := "job", spec := { profileRef := some { name := "fixer" } }, phase := .running }] }

/-- Attempts one after the other: only the newest one moves. -/
def oneByOne (pool : Requests) : PoolMove WebhookRequest Act → Bool
  | .advance index => index + 1 == pool.tasks.length
  | .refuse index => index + 1 == pool.tasks.length
  | .arrive request => trimSpace request.deliveryHeader == "d1"
  | .act _ => true

/-- The first attempt creates its run and fails to patch the status; the second is turned down. -/
def blockedMoves : List (PoolMove WebhookRequest Act) :=
  .arrive (sampleRequest "d1" 5) :: replicate 5 (.advance 0) ++
    [.refuse 0, .arrive (sampleRequest "d1" 6)] ++ replicate 3 (.advance 1)

/-- The run finishes between the attempts, the first of which annotated it. -/
def finishedMoves : List (PoolMove WebhookRequest Act) :=
  .arrive (sampleRequest "d1" 5) :: replicate 6 (.advance 0) ++
    [.refuse 0, .act (.progress "job" .succeeded), .arrive (sampleRequest "d1" 6)] ++
    replicate 7 (.advance 1)

/-- What the one run of the sample delivery is called. -/
def sampleRunName : String := externalTriggerRunName sampleEnv "ci" "d1" "fixer"

/--
With the default policy the second attempt is turned down because of the run that the first one
created; and a target run that finishes between two attempts gets a successor that an attempt
without interruption does not create.
-/
theorem retry_differs :
    (∃ pool, (webhooks sampleEnv).Reaches (· = forbidWorld) (fun pool move =>
        oneByOne pool move = true) pool ∧
      pool.tasks.map (·.answer) = [some (.error 503 "status_update_failed"
        "delivery accepted but status update failed"),
        some (.error 409 "concurrency_forbid" (blockedMessage sampleRunName))] ∧
      createdNames forbidWorld pool.server = [sampleRunName] ∧
      ¬ RetriesComplete sampleEnv forbidWorld "d1" pool) ∧
    ∃ pool, (webhooks sampleEnv).Reaches (· = activeTargetWorld) (fun pool move =>
        oneByOne pool move = true) pool ∧
      acceptedAttempt pool = true ∧
      createdNames activeTargetWorld pool.server = [sampleRunName] ∧
      ¬ RetriesComplete sampleEnv activeTargetWorld "d1" pool := by
  constructor
  · refine Reaches.played (P := fun pool => pool.tasks.map (·.answer) =
        [some (.error 503 "status_update_failed" "delivery accepted but status update failed"),
          some (.error 409 "concurrency_forbid" (blockedMessage sampleRunName))] ∧
        createdNames forbidWorld pool.server = [sampleRunName])
      oneByOne blockedMoves (.start (s := ⟨forbidWorld, []⟩) ⟨rfl, rfl⟩) (fun _ _ => id) (by decide +kernel)
      fun pool _ facts => ⟨facts.1, facts.2, fun complete => ?_⟩
    have member : some (.error 409 "concurrency_forbid" (blockedMessage sampleRunName)) ∈
        pool.tasks.map (·.answer) := facts.1 ▸ .tail _ (.head _)
    obtain ⟨task, here, answered⟩ := mem_map.mp member
    exact complete.unblocked task here sampleRunName (facts.2 ▸ .head _) answered
  · refine Reaches.played (P := fun pool => acceptedAttempt pool = true ∧
        createdNames activeTargetWorld pool.server = [sampleRunName])
      oneByOne finishedMoves (.start (s := ⟨activeTargetWorld, []⟩) ⟨rfl, rfl⟩) (fun _ _ => id) (by decide +kernel)
      fun pool _ facts => ⟨facts.1, facts.2, fun complete => ?_⟩
    -- An attempt without interruption only annotates the run that is still active.
    let alone := (handleExternalTriggerWebhook sampleEnv (sampleRequest "d1" 5)).run serve
      activeTargetWorld
    obtain ⟨answer, ran, accepts, nothing⟩ : ∃ answer ∈ alone.1.toOption, answer.accepts = true ∧
        createdNames activeTargetWorld alone.2 = [] := by
      decide +kernel
    cases came : alone.1 with
    | error => simp [came, Except.toOption] at ran
    | ok value =>
      obtain rfl : value = answer := by simpa [came, Except.toOption] using ran
      have same := complete.created (sampleRequest "d1" 5) value _ (by decide +kernel)
        (Prod.ext came rfl) accepts facts.1 sampleRunName
      rw [facts.2, nothing] at same
      exact not_mem_nil (same.mp (.head _))

/-- The first attempt creates its run and fails to patch the status; the second finds the run. -/
def adoptedMoves : List (PoolMove WebhookRequest Act) :=
  .arrive (sampleRequest "d1" 5) :: replicate 4 (.advance 0) ++
    [.refuse 0, .arrive (sampleRequest "d1" 6)] ++ replicate 6 (.advance 1)

theorem retries_complete_adopted :
    ∃ pool, (webhooks sampleEnv).Reaches (· = sampleWorld) (Retrying sampleWorld "d1") pool ∧
      pool.tasks.length = 2 ∧ acceptedAttempt pool = true ∧
      createdNames sampleWorld pool.server = [sampleRunName] ∧
      RetriesComplete sampleEnv sampleWorld "d1" pool :=
  Reaches.played (P := fun pool => pool.tasks.length = 2 ∧ acceptedAttempt pool = true ∧
      createdNames sampleWorld pool.server = [sampleRunName])
    (fun pool move => attemptMove sampleWorld "d1" move && gateOpen sampleWorld pool move) adoptedMoves
    (.start (s := ⟨sampleWorld, []⟩) ⟨rfl, rfl⟩) (fun _ _ passes => Bool.and_eq_true_iff.mp passes) (by decide +kernel)
    fun pool reached facts => ⟨facts.1, facts.2.1, facts.2.2,
      retries_complete sampleEnv sampleWorld "d1" (by decide) pool reached⟩

end RetrySamples

end AnvilAgents.ExternalTrigger
