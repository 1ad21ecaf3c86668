import AnvilAgents.Proofs.Trigger.Handler

/-!
The daily budget of an external trigger.

The count of a day is read before a delivery is made, read again after it and patched without a
lock. It is the number of accepted deliveries as long as no request writes a count over one that it
has not read.
-/

namespace AnvilAgents.ExternalTrigger

open Text Conc List Contract

/-- The statuses a request has read so far. -/
def statusesRead (seen : List (Event Call Reply)) : List AgentExternalTriggerStatus :=
  seen.filterMap fun
    | ⟨.getTrigger .., .ok trigger⟩ => some trigger.status
    | _ => none

/-- The request was answered as accepted and not as a duplicate. -/
def acceptedTask (task : RequestTask) : Bool :=
  task.answer.any Answer.counts

def acceptedCount (pool : Requests) : Nat :=
  pool.tasks.countP acceptedTask

/-- A request that changes the tally has read no other tally than the one it patches. -/
def undisturbed (pool : Requests) : PoolMove WebhookRequest Act → Bool
  | .advance index =>
    match pool.tasks[index]? with
    | some ⟨_, seen, .call (.patchStatus original new) _⟩ =>
      new.tally == original.tally ||
        (statusesRead seen).all fun status => status.tally == pool.server.trigger.status.tally
    | _ => true
  | _ => true

/-- Requests are handled within one UTC day. -/
def withinDay (env : WebhookEnv) (day : String) : PoolMove WebhookRequest Act → Bool
  | .arrive request => env.formatDay request.now == day
  | _ => true

/-- The count of the day is the number of accepted deliveries, and is within the budget. -/
structure BudgetKept (day : String) (pool : Requests) : Prop where
  count : pool.server.trigger.status.countOn day = acceptedCount pool
  bound : 0 < pool.server.trigger.spec.maxDeliveriesPerDay →
    acceptedCount pool ≤ pool.server.trigger.spec.maxDeliveriesPerDay

section Knowledge

variable {S : Setting} {K : Reading} {c : Call}

theorem learn_reads (c : Call) (reply : Reply c) :
    (K.learn c reply).reads = K.reads ++ statusesRead [⟨c, reply⟩] ∧
      (K.learn c reply).day = K.day := by
  cases c <;> rcases reply with (_ | _ | _) | value <;>
    first | exact ⟨rfl, rfl⟩ | exact ⟨(append_nil _).symm, rfl⟩

/-- A task knows the statuses it has read and the day it arrived on. -/
theorem know_reads (seen : List (Event Call Reply)) :
    ((webhookContract S).know K seen).reads = K.reads ++ statusesRead seen ∧
      ((webhookContract S).know K seen).day = K.day := by
  induction seen generalizing K with
  | nil => exact ⟨(append_nil _).symm, rfl⟩
  | cons event seen ih =>
    obtain ⟨reads, day⟩ := ih (K := K.learn event.1 event.2)
    refine ⟨?_, day.trans (learn_reads _ _).2⟩
    rw [(learn_reads _ _).1, append_assoc] at reads
    exact reads.trans (congrArg _ (filterMap_append (l := [event])).symm)

/-- Only a status patch touches the trigger. -/
theorem serve_trigger (other : ∀ original new, c ≠ .patchStatus original new) (s : World) :
    (serve c s).2.trigger = s.trigger := by
  have writes := serve_writes c s
  generalize (serve c s).2 = s' at writes
  cases writes with
  | patch => exact absurd rfl (other _ _)
  | nothing | create | annotate => rfl

/-- Only a status patch lets a request count itself. -/
theorem learn_counted (other : ∀ original new, c ≠ .patchStatus original new) (reply : Reply c) :
    (K.learn c reply).counted = K.counted := by
  cases c with
  | patchStatus original new => exact absurd rfl (other original new)
  | getTrigger ns name => cases reply <;> rfl
  | createRun run => rcases reply with (_ | _ | _) | _ <;> rfl
  | _ => rfl

theorem Reading.permits.uncounted (permitted : K.permits S c) : K.counted = false := by
  cases c with
  | patchStatus | createRun => exact permitted.1
  | _ => exact permitted

theorem act_trigger {action : Act} {s s' : World} (acted : act action s = some s') :
    s'.trigger = s.trigger := by
  obtain ⟨_, _, _, -, -, -, rfl⟩ := act_eq acted
  rfl

end Knowledge

section Tally

variable {original new stored : AgentExternalTriggerStatus}

theorem countOn_congr (same : original.tally = stored.tally) (day : String) :
    original.countOn day = stored.countOn day := by
  obtain ⟨date, count⟩ := Prod.mk.inj same
  simp only [AgentExternalTriggerStatus.countOn, date, count]

/-- A patch that leaves the tally alone leaves the stored one. -/
theorem mergeStatus_tally_kept (stored : AgentExternalTriggerStatus) (same : new.tally = original.tally) :
    (mergeStatus original new stored).tally = stored.tally := by
  obtain ⟨date, count⟩ := Prod.mk.inj same
  simp [mergeStatus, AgentExternalTriggerStatus.tally, date, count]

/-- A patch over the tally it was made from stores its own. -/
theorem mergeStatus_tally_fresh (new : AgentExternalTriggerStatus) (fresh : stored.tally = original.tally) :
    (mergeStatus original new stored).tally = new.tally := by
  obtain ⟨date, count⟩ := Prod.mk.inj fresh
  simp [mergeStatus, AgentExternalTriggerStatus.tally, date, count]

end Tally

/-- The count of the day is the number of requests that have counted themselves. -/
structure Ledger (S : Setting) (day : String) (pool : Requests) : Prop where
  days : ∀ task ∈ pool.tasks, S.env.formatDay task.request.now = day
  count : pool.server.trigger.status.countOn day =
    pool.tasks.countP fun task => (S.know task).counted
  bound : S.max = 0 ∨ pool.server.trigger.status.countOn day ≤ S.max

variable {index : Nat}

/-- Replacing an uncounted entry adds at most the new one. -/
theorem countP_set_of_not {α : Type} {p : α → Bool} {entries : List α} {old new : α}
    (found : entries[index]? = some old) (uncounted : p old = false) :
    (entries.set index new).countP p = entries.countP p + if p new then 1 else 0 := by
  obtain ⟨bound, same⟩ := List.getElem?_eq_some_iff.mp found
  rw [countP_set bound, same, uncounted]
  rfl

/-- Requests of one day, none of which patches a tally that it has not read. -/
def Calm (env : WebhookEnv) (day : String) (pool : Requests) (move : PoolMove WebhookRequest Act) :
    Prop :=
  withinDay env day move = true ∧ undisturbed pool move = true

variable {S : Setting} {day : String} {pool : Requests} {s : World} {c : Call}
  {seen : List (Event Call Reply)} {code rest : Program Answer} {request : WebhookRequest}

section

variable (ledger : Ledger S day pool)

include ledger

/-- A task that had not counted itself moves on, and the count moves with it. -/
theorem Ledger.moved {task stepped : RequestTask} (found : pool.tasks[index]? = some task)
    (uncounted : (S.know task).counted = false) (same : stepped.request = task.request)
    (count : s.trigger.status.countOn day = pool.server.trigger.status.countOn day +
      if (S.know stepped).counted then 1 else 0)
    (bound : S.max = 0 ∨ s.trigger.status.countOn day ≤ S.max) :
    Ledger S day ⟨s, pool.tasks.set index stepped⟩ := by
  refine ⟨fun other member => ?_, ?_, bound⟩
  · rcases mem_or_eq_of_mem_set member with old | rfl
    · exact ledger.days other old
    · exact same ▸ ledger.days task (mem_of_getElem? found)
  · rw [countP_set_of_not found uncounted, count, ledger.count]

/-- A call that patches no status changes neither the count nor who is counted. -/
theorem Ledger.other (found : pool.tasks[index]? = some ⟨request, seen, code⟩)
    (uncounted : (S.know ⟨request, seen, code⟩).counted = false)
    (other : ∀ original new, c ≠ .patchStatus original new) (reply : Reply c)
    (trigger : s.trigger = pool.server.trigger) :
    Ledger S day ⟨s, pool.tasks.set index ⟨request, seen ++ [⟨c, reply⟩], rest⟩⟩ := by
  have still : (S.know ⟨request, seen ++ [⟨c, reply⟩], rest⟩).counted = false := by
    rw [Setting.know, know_append]
    exact (learn_counted other reply).trans uncounted
  refine ledger.moved found uncounted rfl ?_ ?_
  · rw [still, trigger]
    rfl
  · exact trigger ▸ ledger.bound

/-- A status patch that nothing disturbed counts the request exactly if it changes the tally. -/
theorem Ledger.patched {original new : AgentExternalTriggerStatus}
    (found : pool.tasks[index]? = some ⟨request, seen, code⟩)
    (permitted : (S.know ⟨request, seen, code⟩).permits S (.patchStatus original new))
    (calm : new.tally = original.tally ∨
      ∀ status ∈ statusesRead seen, status.tally = pool.server.trigger.status.tally) :
    Ledger S day ⟨(serve (.patchStatus original new) pool.server).2, pool.tasks.set index
      ⟨request, seen ++ [⟨.patchStatus original new, .ok ()⟩], rest⟩⟩ := by
  obtain ⟨uncounted, change⟩ := permitted
  have counted : (S.know ⟨request, seen ++ [⟨.patchStatus original new, .ok ()⟩], rest⟩).counted
      = (new.tally != original.tally) := by
    rw [Setting.know, know_append]
    rfl
  by_cases kept : new.tally = original.tally
  · have same := countOn_congr
      (mergeStatus_tally_kept pool.server.trigger.status kept) day
    refine ledger.moved found uncounted rfl ?_ ?_
    · rw [counted, kept, bne_self_eq_false]
      exact same
    · exact same ▸ ledger.bound
  · -- Both the count it adds to and the one within the budget are the stored one.
    obtain ⟨read, tally, ⟨first, earlier, budget, -⟩, -⟩ := change.resolve_left fun same => kept same.1
    obtain ⟨reads, onDay⟩ : (S.know ⟨request, seen, code⟩).reads = statusesRead seen ∧
        (S.know ⟨request, seen, code⟩).day = S.env.formatDay request.now := know_reads seen
    have current := calm.resolve_left kept
    have fresh := current original (reads ▸ read)
    have within := current first (reads ▸ earlier)
    rw [onDay, ledger.days _ (mem_of_getElem? found)] at tally budget
    have added : ((serve (.patchStatus original new) pool.server).2.trigger.status).countOn day =
        pool.server.trigger.status.countOn day + 1 := by
      have stored := mergeStatus_tally_fresh new fresh.symm
      rw [tally] at stored
      obtain ⟨date, count⟩ := Prod.mk.inj stored
      rw [← countOn_congr fresh day]
      exact (if_pos date).trans count
    refine ledger.moved found uncounted rfl ?_ ?_
    · rw [counted, bne_iff_ne.mpr kept]
      exact added
    · rw [added, ← countOn_congr within day]
      omega

/-- One step of requests that do not disturb each other keeps the ledger. -/
theorem Ledger.step {pool' : Requests} {move : PoolMove WebhookRequest Act}
    (calm : Calm S.env day pool move)
    (settles : ∀ task ∈ pool.tasks, (webhookContract S).Settles (S.know task) task.code (Answered S))
    (cases : Service.StepCases (webhooks S.env) pool move pool') : Ledger S day pool' := by
  cases cases with
  | arrive request =>
    refine ⟨fun task member => ?_, ?_, ledger.bound⟩
    · rcases mem_append.mp member with old | new
      · exact ledger.days task old
      · rw [mem_singleton.mp new]
        exact beq_iff_eq.mp calm.1
    · rw [countP_append]
      exact ledger.count
  | advance index request seen c rest found =>
    obtain ⟨permitted, -⟩ := settles _ (mem_of_getElem? found)
    by_cases patch : ∃ original new, c = .patchStatus original new
    · obtain ⟨original, new, rfl⟩ := patch
      refine ledger.patched found permitted ?_
      have quiet := calm.2
      simp only [undisturbed, found, Bool.or_eq_true, beq_iff_eq, all_eq_true] at quiet
      exact quiet
    · have other : ∀ original new, c ≠ .patchStatus original new :=
        fun original new same => patch ⟨original, new, same⟩
      exact ledger.other found permitted.uncounted other _ (serve_trigger other _)
  | refuse index request seen c rest found =>
    obtain ⟨permitted, -⟩ := settles _ (mem_of_getElem? found)
    have still : (S.know ⟨request, seen ++ [⟨c, refusal c⟩], rest (refusal c)⟩).counted = false :=
      (congrArg Reading.counted know_refused).trans permitted.uncounted
    refine ledger.moved found permitted.uncounted rfl ?_ ledger.bound
    exact still ▸ rfl
  | act action s acted =>
    have same := act_trigger acted
    refine ⟨ledger.days, ?_, ?_⟩
    · rw [same]
      exact ledger.count
    · rw [same]
      exact ledger.bound

end

/-- A request has counted itself exactly if it was answered as accepted. -/
theorem acceptedTask_iff {task : RequestTask}
    (settles : (webhookContract S).Settles (S.know task) task.code (Answered S)) :
    acceptedTask task = (S.know task).counted := by
  obtain ⟨request, seen, code⟩ := task
  cases code with
  | ret answer => exact settles.counts
  | fail fault => exact settles.elim
  | call c rest => exact settles.1.uncounted.symm

/--
Requests of one day that start from an empty count and never patch a tally they have not read are
counted one by one, and never beyond a positive budget.
-/
theorem budget_kept (env : WebhookEnv) (day : String) (s₀ : World)
    (opening : s₀.trigger.status.countOn day = 0) (pool : Requests)
    (reached : (webhooks env).Reaches (· = s₀) (Calm env day) pool) : BudgetKept day pool := by
  -- Nothing is known of the requests but that each is one.
  let S : Setting := ⟨env, s₀, "", False, False⟩
  have any {pool : Requests} (reached : (webhooks env).Reaches (· = s₀) (Calm env day) pool) :
      S.Reached pool := reached.mono fun _ _ _ => ⟨nofun, nofun⟩
  have settles {pool : Requests} (reached : (webhooks env).Reaches (· = s₀) (Calm env day) pool) :=
    reached_settles (S := S) nofun (any reached)
  have ledger : Ledger S day pool := by
    refine Service.Reaches.pool_invariant (I := Ledger S day) ?_ ?_ reached
    · rintro s rfl
      exact ⟨fun _ member => (nomatch member), opening, .inr (opening ▸ Nat.zero_le _)⟩
    · intro pool pool' move before ledger calm cases
      exact ledger.step calm (settles before) cases
  have same : acceptedCount pool = pool.server.trigger.status.countOn day := by
    rw [ledger.count, acceptedCount]
    exact countP_congr fun task member => by rw [acceptedTask_iff (settles reached task member)]
  refine ⟨same.symm, fun positive => ?_⟩
  have spec : pool.server.trigger.spec = s₀.trigger.spec :=
    (reached_steady (S := S) nofun (any reached)).spec
  rw [same, spec]
  rw [spec] at positive
  have bound : s₀.trigger.spec.maxDeliveriesPerDay = 0 ∨ pool.server.trigger.status.countOn day ≤
    s₀.trigger.spec.maxDeliveriesPerDay := ledger.bound
  omega

section Samples

/-- A trigger with room for one delivery a day that creates a run of one profile. -/
def sampleTrigger : AgentExternalTrigger where
  ns := "ops"
  name := "ci"
  uid := 1
  generation := 1
  spec := {
    github := some { repositories := ["acme/app"] }
    secretRef := { name := "hook" }
    targets := [{ kind := .agentRunProfile, name := "fixer" }]
    concurrencyPolicy := .allow
    maxDeliveriesPerDay := 1 }
  status := { phase := .ready, receiverID := "r1" }

def sampleWorld : World where
  trigger := sampleTrigger
  secrets := [{ name := "hook", data := [("webhookSecret", "k")] }]

/-- Every signature verifies and every payload is about the allowed repository. -/
def sampleEnv : WebhookEnv where
  enabled := true
  writes := true
  shortHash := id
  verify _ _ _ := true
  unmarshal _ := some { repositoryFullName := "acme/app" }
  formatDay now := toString (now / 86400)

def sampleRequest (deliveryID : String) (now : Nat) : WebhookRequest where
  ns := "ops"
  name := "ci"
  receiverID := "r1"
  body := ""
  deliveryHeader := deliveryID
  eventHeader := "push"
  now := now

/-- A new request carries a delivery id of its own. -/
def freshDelivery (pool : Requests) : PoolMove WebhookRequest Act → Bool
  | .arrive request => pool.tasks.all fun task =>
    trimSpace task.request.deliveryHeader != trimSpace request.deliveryHeader
  | _ => true

/-- Two requests both read the trigger, deliver and read it again before either one patches. -/
def overlapMoves : List (PoolMove WebhookRequest Act) :=
  [.arrive (sampleRequest "d1" 5), .arrive (sampleRequest "d2" 6)] ++
    replicate 4 (.advance 0) ++ replicate 4 (.advance 1) ++ [.advance 0, .advance 1]

/-- Two deliveries of one day are accepted against a budget of one, and counted as one. -/
theorem overlapping_requests_overrun :
    ∃ pool, (webhooks sampleEnv).Reaches (· = sampleWorld) (fun pool move =>
        withinDay sampleEnv "0" move = true ∧ freshDelivery pool move = true) pool ∧
      sampleWorld.trigger.status.countOn "0" = 0 ∧
      pool.server.trigger.spec.maxDeliveriesPerDay = 1 ∧
      acceptedCount pool = 2 ∧ pool.server.trigger.status.countOn "0" = 1 ∧
      ¬ BudgetKept "0" pool := by
  refine Machine.Reaches.played (P := fun pool => pool.server.trigger.spec.maxDeliveriesPerDay = 1 ∧
      acceptedCount pool = 2 ∧ pool.server.trigger.status.countOn "0" = 1)
    (fun pool move => withinDay sampleEnv "0" move && freshDelivery pool move) overlapMoves
    (.start (s := ⟨sampleWorld, []⟩) ⟨rfl, rfl⟩) (fun _ _ passes => Bool.and_eq_true_iff.mp passes) (by decide +kernel)
    fun pool _ facts => ⟨by decide, facts.1, facts.2.1, facts.2.2, fun kept => ?_⟩
  have same := kept.count
  rw [facts.2.1, facts.2.2] at same
  cases same

/-- One request after the other: the second is turned down. -/
def serialMoves : List (PoolMove WebhookRequest Act) :=
  .arrive (sampleRequest "d1" 5) :: replicate 5 (.advance 0) ++
    .arrive (sampleRequest "d2" 6) :: replicate 2 (.advance 1)

theorem budget_kept_serial :
    ∃ pool, (webhooks sampleEnv).Reaches (· = sampleWorld) (Calm sampleEnv "0") pool ∧
      acceptedCount pool = 1 ∧ pool.tasks.length = 2 ∧ BudgetKept "0" pool :=
  Machine.Reaches.played (P := fun pool => acceptedCount pool = 1 ∧ pool.tasks.length = 2)
    (fun pool move => withinDay sampleEnv "0" move && undisturbed pool move) serialMoves
    (.start (s := ⟨sampleWorld, []⟩) ⟨rfl, rfl⟩) (fun _ _ passes => Bool.and_eq_true_iff.mp passes) (by decide +kernel)
    fun pool reached facts => ⟨facts.1, facts.2,
      budget_kept sampleEnv "0" sampleWorld (by decide) pool reached⟩

end Samples

end AnvilAgents.ExternalTrigger
