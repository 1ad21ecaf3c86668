import AnvilAgents.Trigger.Webhook

/-!
What a webhook request may do, given what it has read.

The requests of the budget are of any kind. Of attempts of one delivery more is known, and the
contract says what follows from that.
-/

namespace AnvilAgents.ExternalTrigger

open Text Conc List World Function Contract

abbrev Requests := Pool WebhookRequest Call Reply Answer World

abbrev RequestTask := Task WebhookRequest Call Reply Answer

/-- The profiles of the members of a council that take part in a delivery. -/
def memberProfiles (deliveryMode : String) (members : List CouncilMember) : List String :=
  (members.filter fun member =>
    trimSpace member.profileRef.name != "" && member.selected deliveryMode).map
      fun member => trimSpace member.profileRef.name

/-- The members a target of kind AgentCouncil asks for. -/
def AgentExternalTriggerTargetSpec.deliveryMode (target : AgentExternalTriggerTargetSpec) : String :=
  let mode := trimSpace target.councilDelivery
  if mode = "" then councilDeliveryAllMembers else mode

/-- The profile of which a run is a run. -/
def Run.profileName (run : Run) : String :=
  trimSpace ((run.spec.profileRef.map (·.name)).getD "")

/-- The profiles for which a target wants a run, given what the namespace holds. -/
def targetProfiles (s : World) (target : AgentExternalTriggerTargetSpec) : List String :=
  match target.kind with
  | .agentRunProfile => [trimSpace target.name]
  | .agentCouncil =>
    match s.councils.find? fun council => council.name == trimSpace target.name with
    | some council => memberProfiles target.deliveryMode council.members
    | none => []
  | .agentRun =>
    match s.run? (trimSpace target.name) with
    | some run => if agentRunPhaseTerminal run.phase then [run.profileName] else []
    | none => []
  | .unsupported _ => []

/-- The names of the runs that a delivery to all targets needs. -/
def plannedNames (env : WebhookEnv) (s : World) (deliveryID : String) : List String :=
  (s.trigger.spec.targets.flatMap (targetProfiles s)).map
    (externalTriggerRunName env s.trigger.name deliveryID)

def World.names (s : World) : List String :=
  s.runs.map (·.name)

/-- Whether a name is that of a run the trigger delivers to. -/
def isTargetRun (s : World) (name : String) : Bool :=
  s.trigger.spec.targets.any fun target =>
    target.kind == .agentRun && trimSpace target.name == name

/-- Attempts of one delivery, while no run that it is delivered to finishes. -/
def attemptMove (s₀ : World) (deliveryID : String) : PoolMove WebhookRequest Act → Bool
  | .arrive request => trimSpace request.deliveryHeader == deliveryID
  | .act (.progress name phase) => !(isTargetRun s₀ name && agentRunPhaseTerminal phase)
  | _ => true

/-- At the gate, no run that an attempt has created is active. -/
def gateOpen (s₀ : World) (pool : Requests) : PoolMove WebhookRequest Act → Bool
  | .advance index =>
    match pool.tasks[index]? with
    | some ⟨_, _, .call (.listRuns label) _⟩ => pool.server.runs.all fun run =>
      run.triggerLabel != some label || agentRunPhaseTerminal run.phase || s₀.names.contains run.name
    | _ => true
  | _ => true

section

variable (status : AgentExternalTriggerStatus)

def AgentExternalTriggerStatus.tally : String × Nat :=
  (status.deliveriesTodayDate, status.deliveriesToday)

def AgentExternalTriggerStatus.seen (deliveryID : String) : Bool :=
  externalTriggerSeenDelivery status.seenDeliveryIDs deliveryID

end

/-- The answer of a delivery that was made and counted. -/
def Answer.counts : Answer → Bool
  | .accepted duplicate _ _ => !duplicate
  | .error .. => false

/-- The delivery was accepted, now or by an earlier attempt. -/
def Answer.accepts : Answer → Bool
  | .accepted .. => true
  | .error .. => false

/-- What requests begin with, and what is known of them. -/
structure Setting where
  env : WebhookEnv
  s₀ : World
  deliveryID : String
  /-- They are attempts of one delivery, and no run that it is delivered to finishes. -/
  steady : Prop
  /-- At the gate, no run that one of them has created is active. -/
  gated : Prop

namespace Setting

variable (S : Setting)

def max : Nat := S.s₀.trigger.spec.maxDeliveriesPerDay

def runName (profile : String) : String :=
  externalTriggerRunName S.env S.s₀.trigger.name S.deliveryID profile

def planned : List String := plannedNames S.env S.s₀ S.deliveryID

structure Allows (pool : Requests) (move : PoolMove WebhookRequest Act) : Prop where
  attempt : S.steady → attemptMove S.s₀ S.deliveryID move = true
  gate : S.gated → gateOpen S.s₀ pool move = true

abbrev Reached (pool : Requests) : Prop :=
  (webhooks S.env).Reaches (· = S.s₀) S.Allows pool

end Setting

/-- What a request has read, whether it has counted itself, and the runs it knows to exist. -/
structure Reading where
  day : String
  reads : List AgentExternalTriggerStatus
  counted : Bool
  names : List String

/-- Nothing is read yet. -/
def Reading.start (env : WebhookEnv) (request : WebhookRequest) : Reading :=
  ⟨env.formatDay request.now, [], false, []⟩

/-- A trigger that was read had room for the delivery, and had not seen it. -/
def Reading.Admitted (S : Setting) (K : Reading) : Prop :=
  ∃ first ∈ K.reads, (S.max = 0 ∨ first.countOn K.day < S.max) ∧
    (S.steady → first.seen S.deliveryID = false)

/-- A status patch keeps the tally, or adds one to a tally within the budget once every planned run
exists; only planned runs are created. -/
def Reading.permits (S : Setting) (K : Reading) : Call → Prop
  | .patchStatus original new => K.counted = false ∧
    (new.tally = original.tally ∧ new.seenDeliveryIDs = original.seenDeliveryIDs ∨
      original ∈ K.reads ∧ new.tally = (K.day, original.countOn K.day + 1) ∧ K.Admitted S ∧
        (S.steady → S.planned ⊆ K.names))
  | .createRun run => K.counted = false ∧ (S.steady → K.Admitted S ∧ run.name ∈ S.planned)
  | _ => K.counted = false

def Reading.learn (K : Reading) : (c : Call) → Reply c → Reading
  | .getTrigger .., .ok trigger => { K with reads := K.reads ++ [trigger.status] }
  | .patchStatus original new, .ok () => { K with counted := new.tally != original.tally }
  | .createRun run, .ok () => { K with names := run.name :: K.names }
  | .createRun run, .error .alreadyExists => { K with names := run.name :: K.names }
  | _, _ => K

/-- A request sees the trigger's spec and the councils as they were at first, and an attempt sees
its target runs so. -/
@[reducible]
def webhookContract (S : Setting) : Contract Call Reply where
  Know := Reading
  permits := Reading.permits S
  learn := Reading.learn
  promised
    | .getTrigger .., .ok trigger =>
      trigger.spec = S.s₀.trigger.spec ∧ trigger.name = S.s₀.trigger.name
    | .listRuns _, .ok runs => S.gated →
      ∀ run ∈ runs, agentRunPhaseTerminal run.phase = false → run.name ∈ S.s₀.names
    | .getCouncil name, .ok council =>
      (S.s₀.councils.find? fun council => council.name == name) = some council
    | .getRun name, .ok run => S.steady → isTargetRun S.s₀ name = true →
      ∃ old, S.s₀.run? name = some old ∧ run.spec = old.spec ∧
        agentRunPhaseTerminal run.phase = agentRunPhaseTerminal old.phase
    | _, _ => True

variable {S : Setting} {K : Reading} {trigger : AgentExternalTrigger} {delivery : DeliveryContext}
  {c : Call}

/-! ### Runs for targets -/

/-- The program succeeds only when the runs of these profiles exist. -/
def Delivers {α : Type} (S : Setting) (K : Reading) (p : Program (Except String α))
    (profiles : List String) : Prop :=
  (webhookContract S).Settles K p fun K' outcome =>
    ∃ more, K' = { K with names := more ++ K.names } ∧
      (outcome.isOk → S.steady → ∀ profile ∈ profiles, S.runName profile ∈ more ++ K.names)

theorem delivers_error {α : Type} {message : String} {profiles : List String} :
    Delivers S K (pure (.error message : Except String α)) profiles :=
  ⟨[], rfl, nofun⟩

theorem delivers_nothing {α : Type} (value : α) : Delivers S K (pure (.ok value)) [] :=
  ⟨[], rfl, fun _ _ _ member => (nomatch member)⟩

theorem Delivers.congr {α : Type} {p : Program (Except String α)} {profiles profiles' : List String}
    (delivers : Delivers S K p profiles) (same : S.steady → profiles' = profiles) :
    Delivers S K p profiles' := by
  refine delivers.mono ?_
  rintro _ outcome ⟨more, rfl, names⟩
  exact ⟨more, rfl, fun succeeded steady => same steady ▸ names succeeded steady⟩

/-- Two steps of a delivery, the second of which is taken only if the first succeeded. -/
theorem Delivers.andThen {α β : Type} {p : Program (Except String α)}
    {rest : Except String α → Program (Except String β)} {profiles others : List String}
    (first : Delivers S K p profiles)
    (stop : ∀ message, rest (.error message) = pure (.error message))
    (later : ∀ more value, Delivers S { K with names := more ++ K.names } (rest (.ok value)) others) :
    Delivers S K (p >>= rest) (profiles ++ others) := by
  refine .bind first ?_
  rintro _ (message | value) ⟨more, rfl, names⟩
  · rw [stop]
    exact ⟨more, rfl, nofun⟩
  · refine (later more value).mono ?_
    rintro _ outcome ⟨further, rfl, exist⟩
    rw [← append_assoc] at exist ⊢
    refine ⟨further ++ more, rfl, fun succeeded steady profile member => ?_⟩
    rcases mem_append.mp member with early | late
    · rw [append_assoc]
      exact mem_append_right _ (names rfl steady profile early)
    · exact exist succeeded steady profile late

/-- One target's runs; a single target succeeds with references to them. -/
theorem Delivers.single {α β : Type} {p : Program (Except String α)}
    {rest : Except String α → Program (Except String β)} {profiles : List String}
    (first : Delivers S K p profiles)
    (stop : ∀ message, rest (.error message) = pure (.error message))
    (finish : ∀ value, ∃ outcome, rest (.ok value) = pure outcome) :
    Delivers S K (p >>= rest) profiles := by
  rw [← append_nil profiles]
  refine first.andThen stop fun more value => ?_
  obtain ⟨outcome, same⟩ := finish value
  rw [same]
  exact ⟨[], rfl, fun _ _ _ member => (nomatch member)⟩

theorem memberProfiles_cons (mode : String) (member : CouncilMember) (members : List CouncilMember) :
    memberProfiles mode (member :: members) =
      if trimSpace member.profileRef.name ≠ "" ∧ member.selected mode = true then
        trimSpace member.profileRef.name :: memberProfiles mode members
      else memberProfiles mode members := by
  simp only [memberProfiles, filter_cons]
  by_cases taken : trimSpace member.profileRef.name ≠ "" ∧ member.selected mode = true
  · simp [taken]
  · rw [if_neg taken, if_neg (by simpa using taken)]

section Targets

variable (uncounted : K.counted = false) (admitted : K.Admitted S)
  (name : trigger.name = S.s₀.trigger.name) (same : S.steady → delivery.deliveryID = S.deliveryID)

include uncounted admitted name same

/-- Creating the run of a planned profile leaves a run of that name. -/
theorem delivers_create {profile : String}
    (planned : S.steady → S.runName (trimSpace profile) ∈ S.planned) (note : String)
    (councilRef : Option NamespacedObjectReference) :
    Delivers S K (createExternalTriggerRun S.env trigger delivery (trimSpace profile) note councilRef)
      [trimSpace profile] := by
  unfold createExternalTriggerRun
  dsimp only
  rw [trimSpace_trimSpace]
  split
  · exact delivers_error
  · have runName (steady : S.steady) : (externalTriggerRun S.env trigger delivery (trimSpace profile)
        note councilRef).name = S.runName (trimSpace profile) := by
      rw [Setting.runName, ← name, ← same steady]
      rfl
    refine ⟨⟨uncounted, fun steady => ⟨admitted, runName steady ▸ planned steady⟩⟩, fun reply _ => ?_⟩
    -- The run exists after a create that succeeded, and after one that found it.
    have exists_ (steady : S.steady) : ∀ other ∈ [trimSpace profile], S.runName other ∈
        (externalTriggerRun S.env trigger delivery (trimSpace profile) note councilRef).name ::
          K.names := by
      intro other member
      rw [mem_singleton.mp member, runName steady]
      exact .head _
    rcases reply with (_ | _ | _) | _
    · exact delivers_error
    · refine ⟨uncounted, fun reply _ => ?_⟩
      cases reply with
      | error fault => exact ⟨[_], rfl, nofun⟩
      | ok existing => exact ⟨[_], rfl, fun _ => exists_⟩
    · exact delivers_error
    · exact ⟨[_], rfl, fun _ => exists_⟩

theorem delivers_members (council mode : String) (members : List CouncilMember)
    (refs : List NamespacedObjectReference)
    (planned : ∀ profile ∈ memberProfiles mode members, S.runName profile ∈ S.planned) :
    Delivers S K (deliverCouncilMembers S.env trigger delivery council mode members refs)
      (memberProfiles mode members) := by
  -- Induction on the members; those who take no part ask for no profile either.
  induction members generalizing K refs with
  | nil => exact delivers_nothing refs
  | cons member members ih =>
    rw [memberProfiles_cons] at planned ⊢
    unfold deliverCouncilMembers
    dsimp only
    split
    next blank =>
      rw [if_neg (by simp [blank])] at planned ⊢
      exact ih uncounted admitted refs planned
    next named =>
      split
      · exact delivers_error
      · split
        next chosen =>
          rw [if_pos ⟨named, chosen⟩] at planned ⊢
          refine (delivers_create uncounted admitted name same (fun _ => planned _ (.head _)) _
            _).andThen (fun _ => rfl) fun more ref => ?_
          exact ih (K := { K with names := more ++ K.names }) uncounted admitted _
            fun profile later => planned profile (.tail _ later)
        next passed =>
          rw [if_neg fun both => passed both.2] at planned ⊢
          exact ih uncounted admitted refs planned

variable {target : AgentExternalTriggerTargetSpec}

theorem delivers_council (kind : target.kind = .agentCouncil)
    (planned : ∀ profile ∈ targetProfiles S.s₀ target, S.runName profile ∈ S.planned) :
    Delivers S K (deliverExternalTriggerCouncil S.env trigger target delivery)
      (targetProfiles S.s₀ target) := by
  refine ⟨uncounted, fun reply honest => ?_⟩
  cases reply with
  | error fault => exact delivers_error
  | ok council =>
    have profiles : targetProfiles S.s₀ target =
        memberProfiles target.deliveryMode council.members := by
      simp only [targetProfiles, kind]
      rw [honest]
    rw [profiles] at planned ⊢
    refine (delivers_members uncounted admitted name same council.name target.deliveryMode
      council.members [] planned).single (fun _ => rfl) fun refs => ?_
    by_cases nobody : refs = []
    · by_cases all : target.deliveryMode = councilDeliveryAllMembers
      · exact ⟨_, (if_pos nobody).trans (if_pos all)⟩
      · exact ⟨_, (if_pos nobody).trans (if_neg all)⟩
    · exact ⟨_, if_neg nobody⟩

theorem delivers_agentRun (kind : target.kind = .agentRun)
    (member : target ∈ S.s₀.trigger.spec.targets)
    (planned : ∀ profile ∈ targetProfiles S.s₀ target, S.runName profile ∈ S.planned) :
    Delivers S K (deliverExternalTriggerAgentRunTarget S.env trigger target delivery)
      (targetProfiles S.s₀ target) := by
  refine ⟨uncounted, fun reply honest => ?_⟩
  rcases reply with (_ | _ | _) | existing
  · exact delivers_error
  · exact delivers_error
  · exact delivers_error
  · -- An attempt finds the run as finished as it was at first, and a run of the same profile.
    have profiles (steady : S.steady) : targetProfiles S.s₀ target =
        if agentRunPhaseTerminal existing.phase then [existing.profileName] else [] := by
      obtain ⟨old, found, spec, phase⟩ := honest steady
        (any_eq_true.mpr ⟨target, member, by simp [kind]⟩)
      have profileName : existing.profileName = old.profileName := by
        simp only [Run.profileName, spec]
      simp only [targetProfiles, kind]
      rw [found, phase, profileName]
    refine Delivers.congr ?_ profiles
    show Delivers S K (if _ then _ else _) _
    split
    next finished =>
      refine settles_ite delivers_error ?_
      refine (delivers_create uncounted admitted name same (fun steady => ?_) _ _).single
        (fun _ => rfl) fun ref => ⟨_, rfl⟩
      rw [profiles steady, if_pos finished] at planned
      exact planned _ (.head _)
    next active =>
      refine ⟨uncounted, fun reply _ => ?_⟩
      cases reply with
      | error fault => exact delivers_error
      | ok _ => exact delivers_nothing _

theorem delivers_target (member : target ∈ S.s₀.trigger.spec.targets)
    (planned : ∀ profile ∈ targetProfiles S.s₀ target, S.runName profile ∈ S.planned) :
    Delivers S K (deliverExternalTriggerTarget S.env trigger target delivery)
      (targetProfiles S.s₀ target) := by
  cases kind : target.kind with
  | agentRunProfile =>
    have profiles : targetProfiles S.s₀ target = [trimSpace target.name] := by
      simp only [targetProfiles, kind]
    rw [profiles] at planned ⊢
    simp only [deliverExternalTriggerTarget, kind]
    exact (delivers_create uncounted admitted name same (fun _ => planned _ (.head _)) "" none).single
      (fun _ => rfl) fun ref => ⟨_, rfl⟩
  | agentCouncil =>
    simp only [deliverExternalTriggerTarget, kind]
    exact delivers_council uncounted admitted name same kind planned
  | agentRun =>
    simp only [deliverExternalTriggerTarget, kind]
    exact delivers_agentRun uncounted admitted name same kind member planned
  | unsupported text =>
    simp only [deliverExternalTriggerTarget, kind]
    exact delivers_error

theorem delivers_targets (targets : List AgentExternalTriggerTargetSpec)
    (refs : List NamespacedObjectReference) (members : targets ⊆ S.s₀.trigger.spec.targets) :
    Delivers S K (deliverExternalTrigger S.env trigger delivery targets refs)
      (targets.flatMap (targetProfiles S.s₀)) := by
  -- Induction on the targets that are left; each adds the runs of its own profiles.
  induction targets generalizing K refs with
  | nil => exact delivers_nothing refs
  | cons target targets ih =>
    have member : target ∈ S.s₀.trigger.spec.targets := members (.head _)
    have planned : ∀ profile ∈ targetProfiles S.s₀ target, S.runName profile ∈ S.planned :=
      fun profile wanted => mem_map_of_mem (mem_flatMap.mpr ⟨target, member, wanted⟩)
    refine (delivers_target uncounted admitted name same member planned).andThen (fun _ => rfl) ?_
    intro more created
    exact ih (K := { K with names := more ++ K.names }) uncounted admitted _
      fun other later => members (.tail _ later)

end Targets

/-! ### The whole request -/

theorem toList_blockedMessage (name : String) : (blockedMessage name).toList =
    "active AgentRun ".toList ++ name.toList ++ " blocks Forbid concurrency".toList :=
  (String.toList_append ..).trans (congrArg (· ++ _) (String.toList_append ..))

theorem blockedMessage_injective : Injective blockedMessage := by
  intro first second same
  have chars := congrArg String.toList same
  rw [toList_blockedMessage, toList_blockedMessage] at chars
  exact String.toList_inj.mp (append_cancel_left (append_cancel_right chars))

theorem blockedMessage_ne_fault (name : String) (fault : ApiError) :
    blockedMessage name ≠ fault.text := by
  -- The message is longer than any fault.
  intro same
  have size := congrArg (·.toList.length) same
  have short : fault.text.toList.length < 16 := by cases fault <;> decide
  have long : "active AgentRun ".toList.length = 16 := by decide
  simp only [toList_blockedMessage, length_append, long] at size
  omega

/-- What the answer to a request says about what the request knows. -/
structure Answered (S : Setting) (K : Reading) (answer : Answer) : Prop where
  counts : answer.counts = K.counted
  accepts : answer.accepts = true → S.steady → S.planned ⊆ K.names ∨
    ∃ status ∈ K.reads, status.seen S.deliveryID = true
  blocked : ∀ name, answer = .error 409 "concurrency_forbid" (blockedMessage name) → S.gated →
    name ∈ S.s₀.names

section

variable (uncounted : K.counted = false)

include uncounted

theorem answered_error {status : Nat} {code message : String} (other : code ≠ "concurrency_forbid") :
    Answered S K (.error status code message) := by
  refine ⟨uncounted.symm, nofun, fun name same => ?_⟩
  cases same
  exact absurd rfl other

/-- An attempt that the gate stops names an active run that was there at first. -/
theorem settles_gate :
    (webhookContract S).Settles K (ensureExternalTriggerConcurrency trigger) fun K' outcome =>
      K' = K ∧ ∀ name, outcome = .error (blockedMessage name) → S.gated → name ∈ S.s₀.names := by
  unfold ensureExternalTriggerConcurrency
  split
  · exact ⟨rfl, nofun⟩
  · refine ⟨uncounted, fun reply honest => ?_⟩
    cases reply with
    | error fault =>
      refine ⟨rfl, fun name same => ?_⟩
      exact absurd (Except.error.inj same).symm (blockedMessage_ne_fault name fault)
    | ok runs =>
      show (webhookContract S).Settles _
        (match runs.find? fun run => !agentRunPhaseTerminal run.phase with
          | some run => pure (Except.error (blockedMessage run.name))
          | none => pure (Except.ok ())) _
      cases found : runs.find? fun run => !agentRunPhaseTerminal run.phase with
      | none => exact ⟨rfl, nofun⟩
      | some run =>
        refine ⟨rfl, fun name same gated => ?_⟩
        rw [← blockedMessage_injective (Except.error.inj same)]
        have active := find?_some found
        exact honest gated run (mem_of_find?_eq_some found) (by simpa using active)

/-- Loading the secret is one read that teaches nothing. -/
theorem settles_secrets :
    (webhookContract S).Settles K (loadExternalTriggerSecrets trigger) fun K' _ => K' = K := by
  refine settles_ite rfl ⟨uncounted, fun reply _ => ?_⟩
  cases reply with
  | error fault => exact rfl
  | ok secret => exact settles_ite rfl (settles_ite rfl (settles_ite rfl rfl))

/-- Recording an error never counts. -/
theorem settles_error (message : String) :
    (webhookContract S).Settles K (recordExternalTriggerError trigger message)
      fun K' _ => K'.counted = false := by
  refine ⟨uncounted, fun reply _ => ?_⟩
  cases reply with
  | error fault => exact uncounted
  | ok fresh =>
    refine ⟨⟨uncounted, .inl ⟨rfl, rfl⟩⟩, fun reply _ => ?_⟩
    cases reply with
    | error fault => exact uncounted
    | ok done => exact bne_self_eq_false _

end

section

variable (status : AgentExternalTriggerStatus)

theorem recorded_tally (day : String) (runRefs : List NamespacedObjectReference) :
    (status.recorded day delivery runRefs).tally = (day, status.countOn day + 1) := rfl

/-- Counting a delivery changes the tally. -/
theorem recorded_tally_ne (day : String) (runRefs : List NamespacedObjectReference) :
    (status.recorded day delivery runRefs).tally ≠ status.tally := by
  rw [recorded_tally]
  intro same
  obtain ⟨date, count⟩ := Prod.mk.inj same
  rw [AgentExternalTriggerStatus.countOn, if_pos date.symm] at count
  exact Nat.succ_ne_self _ count

end

section

variable (uncounted : K.counted = false) (onDay : K.day = S.env.formatDay delivery.acceptedAt)
  (admitted : K.Admitted S)

include uncounted onDay admitted

/-- A delivery that was recorded is counted, and one that was not is not. -/
theorem settles_success (complete : S.steady → S.planned ⊆ K.names)
    (runRefs : List NamespacedObjectReference) :
    (webhookContract S).Settles K (recordExternalTriggerSuccess S.env trigger delivery runRefs)
      fun K' outcome => K'.counted = outcome.isOk ∧ K'.names = K.names := by
  refine ⟨uncounted, fun reply _ => ?_⟩
  cases reply with
  | error fault => exact ⟨uncounted, rfl⟩
  | ok fresh =>
    refine ⟨⟨uncounted, .inr ⟨?_, ?_, ?_, complete⟩⟩, fun reply _ => ?_⟩
    · exact mem_append_right _ (.head _)
    · exact onDay ▸ recorded_tally ..
    · obtain ⟨first, member, free⟩ := admitted
      exact ⟨first, mem_append_left _ member, free⟩
    · cases reply with
      | error fault => exact ⟨uncounted, rfl⟩
      | ok done => exact ⟨bne_iff_ne.mpr (recorded_tally_ne _ _ _), rfl⟩

/-- A delivery that was admitted is answered `accepted` exactly if it was counted. -/
theorem settles_process (spec : trigger.spec = S.s₀.trigger.spec)
    (name : trigger.name = S.s₀.trigger.name)
    (same : S.steady → delivery.deliveryID = S.deliveryID) :
    (webhookContract S).Settles K (processDelivery S.env trigger delivery) (Answered S) := by
  refine .bind (settles_gate uncounted) ?_
  rintro K (message | _) ⟨rfl, blocked⟩
  · refine ⟨uncounted.symm, nofun, fun name same => blocked name ?_⟩
    cases same
    rfl
  · refine .bind (delivers_targets uncounted admitted name same trigger.spec.targets []
      (spec ▸ fun _ => id)) ?_
    rintro _ (message | runRefs) ⟨more, rfl, exist⟩
    · refine .bind (settles_error (K := { K with names := more ++ K.names }) uncounted message) ?_
      exact fun _ _ still => answered_error still (by decide)
    · -- Every target succeeded, so every planned run exists.
      have complete (steady : S.steady) : S.planned ⊆ more ++ K.names := by
        intro runName planned
        obtain ⟨profile, wanted, rfl⟩ := mem_map.mp planned
        exact exist rfl steady profile (spec ▸ wanted)
      refine .bind (settles_success (K := { K with names := more ++ K.names }) uncounted onDay
        admitted complete runRefs) ?_
      rintro _ (message | _) ⟨counted, names⟩
      · exact answered_error counted (by decide)
      · exact ⟨counted.symm, fun _ steady => .inl (names ▸ complete steady), nofun⟩

end

/-- What it takes for a request to be delivered. -/
structure Admitted (env : WebhookEnv) (trigger : AgentExternalTrigger) (request : WebhookRequest)
    (delivery : DeliveryContext) : Prop where
  unseen : externalTriggerSeenDelivery trigger.status.seenDeliveryIDs
    (trimSpace request.deliveryHeader) = false
  budget : trigger.spec.maxDeliveriesPerDay = 0 ∨
    trigger.status.countOn (env.formatDay request.now) < trigger.spec.maxDeliveriesPerDay
  payload : ∃ payload, env.unmarshal request.body = some payload ∧
    delivery = deliveryContext request payload

structure Rejected (trigger : AgentExternalTrigger) (request : WebhookRequest) (answer : Answer) :
    Prop where
  counts : answer.counts = false
  ungated : ∀ message, answer ≠ .error 409 "concurrency_forbid" message
  seen : answer.accepts = true → externalTriggerSeenDelivery trigger.status.seenDeliveryIDs
    (trimSpace request.deliveryHeader) = true

/-- A request is delivered after it passed every check, or answered otherwise. -/
def AdmissionSpec (env : WebhookEnv) (trigger : AgentExternalTrigger) (request : WebhookRequest) :
    Except Answer DeliveryContext → Prop
  | .error answer => Rejected trigger request answer
  | .ok delivery => Admitted env trigger request delivery

theorem admissionSpec_error {status : Nat} {code message : String} {request : WebhookRequest}
    (other : code ≠ "concurrency_forbid") :
    AdmissionSpec env trigger request (.error (.error status code message)) := by
  refine ⟨rfl, fun _ same => ?_, nofun⟩
  cases same
  exact other rfl

theorem admitDelivery_spec (env : WebhookEnv) (trigger : AgentExternalTrigger)
    (secret pathToken : String) (request : WebhookRequest) :
    AdmissionSpec env trigger request (admitDelivery env trigger secret pathToken request) := by
  -- Each check either ends the request or leaves a fact that the last one collects.
  unfold admitDelivery
  simp only [bind, Except.bind, pure, Except.pure, throw, throwThe, MonadExceptOf.throw]
  split
  next =>
    iterate 5
      split
      · exact admissionSpec_error (by decide)
    split
    next seen =>
      rw [externalTriggerSeenDelivery, trimSpace_trimSpace] at seen
      exact ⟨rfl, nofun, fun _ => by rw [externalTriggerSeenDelivery, trimSpace_trimSpace, seen]⟩
    next unseen =>
      cases parsed : env.unmarshal request.body with
      | none => exact admissionSpec_error (by decide)
      | some payload =>
        dsimp only
        split
        · split
          · unfold ensureExternalTriggerDailyBudget
            dsimp only
            split
            next message spent => exact admissionSpec_error (by decide)
            next unit within =>
              split at within
              · cases within
              next budget =>
                refine ⟨by simpa using unseen, ?_, payload, parsed, rfl⟩
                omega
          · exact admissionSpec_error (by decide)
        · exact admissionSpec_error (by decide)
  next => exact admissionSpec_error (by decide)

/-- Every request keeps the contract. -/
theorem handler_settles (request : WebhookRequest)
    (same : S.steady → trimSpace request.deliveryHeader = S.deliveryID) :
    (webhookContract S).Settles (Reading.start S.env request)
      (handleExternalTriggerWebhook S.env request) (Answered S) := by
  unfold handleExternalTriggerWebhook
  dsimp only
  iterate 4
    split
    · exact answered_error rfl (by decide)
  refine ⟨rfl, fun reply honest => ?_⟩
  rcases reply with (_ | _ | _) | trigger
  · exact answered_error rfl (by decide)
  · exact answered_error rfl (by decide)
  · exact answered_error rfl (by decide)
  · show (webhookContract S).Settles _ (if _ then _ else _) _
    split
    · exact answered_error rfl (by decide)
    · refine .bind (settles_secrets rfl) ?_
      rintro _ (fault | ⟨secret, pathToken⟩) rfl
      · exact answered_error rfl (by decide)
      · have spec := admitDelivery_spec S.env trigger secret pathToken request
        dsimp only
        cases admitted : admitDelivery S.env trigger secret pathToken request with
        | error answer =>
          rw [admitted] at spec
          refine ⟨spec.counts, fun accepts steady => .inr ⟨_, mem_singleton_self _, ?_⟩,
            fun name forbidden => absurd forbidden (spec.ungated _)⟩
          exact same steady ▸ spec.seen accepts
        | ok delivery =>
          rw [admitted] at spec
          obtain ⟨payload, -, rfl⟩ := spec.payload
          refine settles_process rfl rfl ⟨_, mem_singleton_self _, ?_, fun steady => ?_⟩ honest.1
            honest.2 same
          · rw [Setting.max, ← honest.1]
            exact spec.budget
          · exact same steady ▸ spec.unseen

/-! ### Requests side by side -/

section Worlds

variable {s s' : World} {name : String} {change : Run → Run}

theorem run?_isSome : (s.run? name).isSome ↔ name ∈ s.names := by
  simp [run?, World.names, find?_isSome]

theorem run?_eq_none : s.run? name = none ↔ name ∉ s.names := by
  rw [← run?_isSome, Option.not_isSome_iff_eq_none]

theorem run?_name {run : Run} (found : s.run? name = some run) : run.name = name := by
  simpa using find?_some found

theorem updateRun_names (keeps : ∀ run, (change run).name = run.name) :
    (s.updateRun name change).names = s.names := by
  simp only [World.names, updateRun, map_map]
  refine map_congr_left fun run _ => ?_
  simp only [comp]
  split
  · exact keeps run
  · rfl

/-- A run after a change of the runs of one name. -/
theorem updateRun_run? (keeps : ∀ run, (change run).name = run.name) (other : String) :
    (s.updateRun name change).run? other =
      (s.run? other).map fun run => if run.name = name then change run else run := by
  simp only [run?, updateRun, find?_map]
  congr 1
  refine congrFun (congrArg _ (funext fun run => ?_)) _
  simp only [comp]
  split
  · rw [keeps]
  · rfl

/-- What a call may write. -/
inductive Writes (s : World) : Call → World → Prop
  | nothing {c : Call} : Writes s c s
  | create {run : Run} (fresh : run.name ∉ s.names) :
      Writes s (.createRun run) { s with runs := s.runs ++ [run] }
  | annotate {name : String} {note : DeliveryAnnotation} : Writes s (.annotateRun name note)
      (s.updateRun name fun run => { run with delivery := some note })
  | patch {original new : AgentExternalTriggerStatus} : Writes s (.patchStatus original new)
      { s with trigger := { s.trigger with status := mergeStatus original new s.trigger.status } }

theorem serve_writes (c : Call) (s : World) : Writes s c (serve c s).2 := by
  cases c with
  | createRun run =>
    simp only [serve]
    split
    next => exact .nothing
    next absent => exact .create (run?_eq_none.mp absent)
  | annotateRun name note =>
    simp only [serve]
    split
    · exact .annotate
    · exact .nothing
  | patchStatus original new => exact .patch
  | listRuns label => exact .nothing
  | getTrigger ns name | getSecret name | getCouncil name | getRun name =>
    simp only [serve]
    split <;> exact .nothing

/-- An active run has moved to another phase. -/
theorem act_eq {action : Act} (acted : act action s = some s') :
    ∃ name phase run, action = .progress name phase ∧ s.run? name = some run ∧
      agentRunPhaseTerminal run.phase = false ∧
      s' = s.updateRun name fun run => { run with phase := phase } := by
  obtain ⟨name, phase⟩ := action
  simp only [act] at acted
  split at acted
  next run found =>
    split at acted
    · cases acted
    next active =>
      cases acted
      exact ⟨name, phase, run, rfl, found, by simpa using active, rfl⟩
  next => cases acted

end Worlds

/-- The run is there, with the spec it had and as finished as it was. -/
def SameRun (s₀ s : World) (name : String) : Prop :=
  ∃ old run, s₀.run? name = some old ∧ s.run? name = some run ∧ run.spec = old.spec ∧
    agentRunPhaseTerminal run.phase = agentRunPhaseTerminal old.phase

/-- What the contract promises is as it was at first. -/
structure Steady (S : Setting) (s : World) : Prop where
  spec : s.trigger.spec = S.s₀.trigger.spec
  name : s.trigger.name = S.s₀.trigger.name
  councils : s.councils = S.s₀.councils
  targets : S.steady → ∀ name, isTargetRun S.s₀ name = true → SameRun S.s₀ s name

section Steadiness

variable {s s₀ s' : World} {name : String} {change : Run → Run}

/-- A run stays the same run while its name, spec and being finished stay. -/
theorem SameRun.update {changed : String} (same : SameRun s₀ s name)
    (names : ∀ run, (change run).name = run.name) (specs : ∀ run, (change run).spec = run.spec)
    (phases : ∀ run, s.run? name = some run → name = changed →
      agentRunPhaseTerminal (change run).phase = agentRunPhaseTerminal run.phase) :
    SameRun s₀ (s.updateRun changed change) name := by
  obtain ⟨old, run, first, found, spec, phase⟩ := same
  have named := run?_name found
  refine ⟨old, if run.name = changed then change run else run, first, ?_, ?_, ?_⟩
  · rw [updateRun_run? names, found]
    rfl
  · split
    · exact (specs run).trans spec
    · exact spec
  · split
    next hit => exact (phases run found (named.symm.trans hit)).trans phase
    · exact phase

/-- Calls leave what requests rely on. -/
theorem Steady.served (steady : Steady S s) (c : Call) : Steady S (serve c s).2 := by
  have writes := serve_writes c s
  generalize (serve c s).2 = s' at writes
  cases writes with
  | nothing => exact steady
  | create fresh =>
    refine ⟨steady.spec, steady.name, steady.councils, fun still name targeted => ?_⟩
    obtain ⟨old, stored, first, here, rest⟩ := steady.targets still name targeted
    refine ⟨old, stored, first, ?_, rest⟩
    simp only [run?, find?_append] at here ⊢
    rw [here]
    rfl
  | annotate =>
    refine ⟨steady.spec, steady.name, steady.councils, fun still other targeted => ?_⟩
    exact (steady.targets still other targeted).update (fun _ => rfl) (fun _ => rfl) fun _ _ _ => rfl
  | patch => exact ⟨steady.spec, steady.name, steady.councils, steady.targets⟩

/-- A run that is not delivered to may finish; one that an attempt delivers to may not. -/
theorem Steady.acted (steady : Steady S s) {action : Act}
    (allowed : S.steady → attemptMove S.s₀ S.deliveryID (.act action) = true)
    (acted : act action s = some s') : Steady S s' := by
  obtain ⟨name, phase, run, rfl, found, active, rfl⟩ := act_eq acted
  refine ⟨steady.spec, steady.name, steady.councils, fun still other targeted => ?_⟩
  refine (steady.targets still other targeted).update (fun _ => rfl) (fun _ => rfl) ?_
  rintro stored here rfl
  cases found.symm.trans here
  exact Eq.trans (by simpa [attemptMove, targeted] using allowed still) active.symm

variable {pool : Requests}

/-- Every reply is what the contract promises. -/
theorem Steady.honest (steady : Steady S pool.server) {index : Nat} {request : WebhookRequest}
    {seen : List (Event Call Reply)} {rest : Reply c → Program Answer}
    (gate : S.gated → gateOpen S.s₀ pool (.advance index) = true)
    (found : pool.tasks[index]? = some ⟨request, seen, .call c rest⟩) :
    (webhookContract S).promised c (serve c pool.server).1 := by
  cases c with
  | getTrigger ns name =>
    by_cases here : pool.server.trigger.ns = ns ∧ pool.server.trigger.name = name
    · rw [serve, if_pos here]
      exact ⟨steady.spec, steady.name⟩
    · rw [serve, if_neg here]
      trivial
  | listRuns label =>
    -- The gate shows active runs of the trigger, none of which an attempt created.
    intro gated run shown active
    obtain ⟨stored, labelled⟩ := mem_filter.mp shown
    have kept := gate gated
    simp only [gateOpen, found, all_eq_true] at kept
    simpa [beq_iff_eq.mp labelled, active] using kept run stored
  | getCouncil name =>
    rw [serve]
    cases present : pool.server.councils.find? fun council => council.name == name with
    | none => trivial
    | some council =>
      rw [steady.councils] at present
      exact present
  | getRun name =>
    rw [serve]
    cases present : pool.server.run? name with
    | none => trivial
    | some run =>
      intro still targeted
      obtain ⟨old, stored, first, here, spec, phase⟩ := steady.targets still name targeted
      cases present.symm.trans here
      exact ⟨old, first, spec, phase⟩
  | getSecret | createRun | annotateRun | patchStatus => trivial

end Steadiness

/-- Every run that is delivered to exists at first. -/
def targetsExist (s₀ : World) : Bool :=
  s₀.trigger.spec.targets.all fun target =>
    target.kind != .agentRun || s₀.names.contains (trimSpace target.name)

theorem Steady.refl (present : S.steady → targetsExist S.s₀ = true) : Steady S S.s₀ := by
  refine ⟨rfl, rfl, rfl, fun still name targeted => ?_⟩
  obtain ⟨target, member, kind⟩ := any_eq_true.mp targeted
  simp only [Bool.and_eq_true, beq_iff_eq] at kind
  have named := all_eq_true.mp (present still) target member
  rw [kind.1, kind.2] at named
  obtain ⟨run, found⟩ := Option.isSome_iff_exists.mp (run?_isSome.mpr (by simpa using named))
  exact ⟨run, run, found, found, rfl, rfl⟩

/-- What a request knows from its calls. -/
def Setting.know (S : Setting) (task : RequestTask) : Reading :=
  (webhookContract S).know (Reading.start S.env task.request) task.seen

/-- A refused call teaches nothing. -/
theorem know_refused {request : WebhookRequest} {seen : List (Event Call Reply)}
    {code code' : Program Answer} :
    S.know ⟨request, seen ++ [⟨c, refusal c⟩], code⟩ = S.know ⟨request, seen, code'⟩ := by
  rw [Setting.know, know_append]
  cases c <;> rfl

section Reached

variable {pool : Requests} (present : S.steady → targetsExist S.s₀ = true)
  (reached : S.Reached pool)

include present reached

theorem reached_steady : Steady S pool.server := by
  refine Service.Reaches.server_invariant (G := Steady S) ?_ ?_ ?_ reached
  · rintro s rfl
    exact .refl present
  · intro s c steady
    exact steady.served c
  · intro pool action s' allowed steady acted
    exact steady.acted allowed.attempt acted

/-- Every request keeps the contract, whatever the others do. -/
theorem reached_settles : ∀ task ∈ pool.tasks,
    (webhookContract S).Settles (S.know task) task.code (Answered S) := by
  refine Service.Reaches.settles (C := webhookContract S) (Reading.start S.env) (fun _ => Answered S)
    ?_ ?_ ?_ reached
  · intro pool request allowed
    exact handler_settles request fun steady => beq_iff_eq.mp (allowed.attempt steady)
  · intro pool index request seen c rest before allowed found
    exact (reached_steady present before).honest allowed.gate found
  · intro c
    cases c <;> trivial

end Reached

end AnvilAgents.ExternalTrigger
