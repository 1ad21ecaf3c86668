import AnvilAgents.Proofs.Standing.Soundness
import AnvilAgents.Proofs.Controller.SingleExecution

/-! When the claim on a turn keeps its drives apart. -/

namespace AnvilAgents

open Conc Text World System

variable {w : World} {D : DriveKnow} {c : Call} {r : AgentRunReconciler} {chat : Chat}
  {cfg cfg' : Config Worker Call Reply World} {replica : Replica} {key : Key} {claim : Claim}

/-- The calls a drive makes on the session of its turn. -/
def Call.onSession : Call → Bool
  | .ensureTurnSession _ | .streamTurn _ _ => true
  | _ => false

/-- A replica has claimed the turn of a run, and its last stream on the session has not returned. -/
def Drives (chat : Chat) (cfg : Config Worker Call Reply World) (replica : Replica) (key : Key)
    (claim : Claim) : Prop :=
  ∃ p run, cfg.procs (.drive replica key) = some p ∧
    (driveKnow chat replica key p.seen).claimed = some run ∧ run.notes.standingClaim = some claim ∧
    p.code.CanCall fun c => c.onSession = true

/--
Conditions on a step under which claims exclude.

A claim is written while it is live, the clock does not pass the end of a claim whose owner is still
driving, and no run is created under the name of one whose turn is being driven.
-/
def LeaseKept (chat : Chat) (cfg : Config Worker Call Reply World) : Move Worker Act → Prop
  | .advance worker => ∀ began seen request, Calling cfg worker began seen request →
    match request with
    | .updateNotes new => ∀ claim, new.notes.standingClaim = some claim →
      claim.fresh cfg.server.clock claimTTL = true
    | .createPeer ns generateName _ => ∀ replica claim,
      ¬ Drives chat cfg replica ⟨ns, generateName ++ toString cfg.server.nextUID⟩ claim
    | _ => True
  | .act (.tick elapsed) => ∀ replica key claim, Drives chat cfg replica key claim →
    claim.fresh (cfg.server.clock + elapsed) claimTTL = true
  | .act (.createRun key _ _) => ∀ replica claim, ¬ Drives chat cfg replica key claim
  | _ => True

/-- A claim a drive holds is one it wrote, or has just written. -/
theorem DriveKnow.learn_claimed {run : AgentRun}
    (known : (D.learn c (serve c w).1).claimed = some run) :
    D.claimed = some run ∨
      ∃ new, c = .updateNotes new ∧ (serve (.updateNotes new) w).1 = .ok run := by
  cases c with
  | updateNotes new =>
    generalize answer : (serve (.updateNotes new) w).1 = reply at known
    cases reply with
    | ok written =>
      cases known
      exact .inr ⟨new, rfl, answer⟩
    | _ => exact .inl known
  | updateStatus new =>
    generalize (serve (.updateStatus new) w).1 = reply at known
    cases reply <;> exact .inl known
  | streamTurn turnID prompt =>
    generalize (serve (.streamTurn turnID prompt) w).1 = reply at known
    cases reply <;> exact .inl known
  | _ => exact .inl known

variable {move : Move Worker Act}

/-- A drive that is on after a step was on before it, or the step was its claim. -/
theorem Drives.origin (stepped : StepCases (platform r chat) cfg move cfg')
    (drives : Drives chat cfg' replica key claim) :
    Drives chat cfg replica key claim ∨
      ∃ began seen new run, move = .advance (.drive replica key) ∧
        Calling cfg (.drive replica key) began seen (.updateNotes new) ∧
        cfg'.server = (serve (.updateNotes new) cfg.server).2 ∧
        (serve (.updateNotes new) cfg.server).1 = .ok run ∧ run.notes.standingClaim = some claim := by
  obtain ⟨p, run, found, claimed, noted, calls⟩ := drives
  cases stepped with
  | start mover free =>
    rcases update_cases found with ⟨rfl, started⟩ | ⟨-, earlier⟩
    · cases started
      cases claimed
    · exact .inl ⟨p, run, earlier, claimed, noted, calls⟩
  | advance mover began seen request rest calling =>
    rcases update_cases found with ⟨rfl, advanced⟩ | ⟨-, earlier⟩
    · cases advanced
      rw [driveKnow, Contract.know_append] at claimed
      rcases DriveKnow.learn_claimed claimed with before | ⟨new, rfl, written⟩
      · exact .inl ⟨_, run, calling, before, noted, .later _ calls⟩
      · exact .inr ⟨began, seen, new, run, rfl, ⟨rest, calling⟩, rfl, written, noted⟩
    · exact .inl ⟨p, run, earlier, claimed, noted, calls⟩
  | stop mover =>
    rcases update_cases found with ⟨-, stopped⟩ | ⟨-, earlier⟩
    · cases stopped
    · exact .inl ⟨p, run, earlier, claimed, noted, calls⟩
  | act action s acted => exact .inl ⟨p, run, found, claimed, noted, calls⟩

variable {good : Config Worker Call Reply World → Move Worker Act → Prop}

/-- What a claim that is being used says, and that the turn is the one of the run. -/
theorem Drives.claimed (reached : (platform r chat).Reaches Initial good cfg)
    (drives : Drives chat cfg replica key claim) :
    claim.owner = replica.owner ∧ claim.turnID = trimSpace (DriveKnow.start chat replica key).turnID := by
  obtain ⟨p, run, found, claimed, noted, -⟩ := drives
  obtain ⟨owner, -, turnID⟩ := driveKnow_self chat replica key p.seen
  obtain ⟨now, -, -, written⟩ := ((drive_sound reached found).claimed run claimed).2.claim
  cases noted.symm.trans written
  exact ⟨owner, congrArg trimSpace turnID⟩

/-- What a step may do to the claim on a stored run. -/
theorem claim_origin {after : AgentRun}
    (reached : (platform r chat).Reaches Initial good cfg) (kept : LeaseKept chat cfg move)
    (stepped : StepCases (platform r chat) cfg move cfg')
    (found : cfg'.server.runs.get key = some after) :
    (∃ before, cfg.server.runs.get key = some before ∧
        after.notes.standingClaim = before.notes.standingClaim) ∨
      (∀ replica claim, ¬ Drives chat cfg replica key claim) ∨
      ∃ replica began seen new, move = .advance (.drive replica key) ∧
        Calling cfg (.drive replica key) began seen (.updateNotes new) ∧
        ∃ run, (serve (.updateNotes new) cfg.server).1 = .ok run := by
  cases stepped with
  | start | stop => exact .inl ⟨after, found, rfl⟩
  | act action s acted =>
    cases act_run acted found with
    | same kept => exact .inl ⟨after, kept, rfl⟩
    | changed before => exact .inl ⟨_, before, rfl⟩
    | created absent next others ran made =>
      subst ran
      exact .inr (.inl kept)
  | advance mover began seen request rest calling =>
    have meets := kept began seen request ⟨rest, calling⟩
    cases serve_run found with
    | same kept => exact .inl ⟨after, kept, rfl⟩
    | status own before _ => exact .inl ⟨_, before, rfl⟩
    | @notes read new before own was =>
      refine .inl ⟨before, was, ?_⟩
      -- Only reconciles patch annotations, and none of them patches a claim.
      cases mover with
      | drive replica at_key => exact absurd (drive_permits reached ⟨rest, calling⟩) id
      | controller pid =>
        have permitted := pass_permits reached ⟨rest, calling⟩
        rcases permitted with ⟨peer, rfl⟩ | ⟨requester, rfl⟩
        · simp [mergeNotes]
        · simp [mergeNotes]
    | @updatedNotes new before own was current =>
      cases mover with
      | controller pid => exact absurd (pass_permits reached ⟨rest, calling⟩) id
      | drive replica at_key =>
        have permitted := drive_permits reached ⟨rest, calling⟩
        obtain ⟨-, fresh, now, read, -, claims⟩ := permitted
        have mine := ((drive_sound reached calling).read fresh read).2
        rw [(driveKnow_self chat replica at_key seen).2.1] at mine
        have same : at_key = key := by rw [← own, claims.shape, mine]
        subst same
        exact .inr (.inr ⟨replica, began, seen, new, rfl, ⟨rest, calling⟩,
          replaceRun_ok (own ▸ was) current⟩)
    | updatedStatus own before current => exact .inl ⟨_, before, rfl⟩
    | created named absent next made => exact .inr (.inl (named ▸ meets))

/-- What holds while leases are kept: the claim of a drive is live and stored, and it is alone. -/
structure Leased (chat : Chat) (cfg : Config Worker Call Reply World) : Prop where
  live : ∀ replica key claim, Drives chat cfg replica key claim →
    claim.fresh cfg.server.clock claimTTL = true
  stored : ∀ replica key claim, Drives chat cfg replica key claim →
    ∀ run, cfg.server.runs.get key = some run → run.notes.standingClaim = some claim
  sole : ∀ replica other key claim claim', Drives chat cfg replica key claim →
    Drives chat cfg other key claim' → replica = other

/-- The names of replicas tell them apart. -/
theorem Replica.ext_owner {replica other : Replica} (same : replica.owner = other.owner) :
    replica = other := by
  cases replica
  cases other
  simpa using same

/-- A claim is won only while nobody drives the turn. -/
theorem Leased.undriven {began : World} {seen : List (Event Call Reply)} {new run : AgentRun}
    (reached : (platform r chat).Reaches Initial good cfg) (leased : Leased chat cfg)
    (calling : Calling cfg (.drive replica key) began seen (.updateNotes new))
    (won : (serve (.updateNotes new) cfg.server).1 = .ok run) (other : Replica) (claim : Claim) :
    ¬ Drives chat cfg other key claim := by
  intro drives
  have permitted := drive_permits reached calling
  obtain ⟨rest, found⟩ := calling
  have sound := drive_sound reached found
  obtain ⟨mine, at_key, turnID⟩ := driveKnow_self chat replica key seen
  obtain ⟨fresh, now, won⟩ := sound.won permitted won
  -- The version the claim was decided on carries the live claim of the drive.
  have noted := leased.stored other key claim drives fresh (at_key ▸ won.before)
  obtain ⟨owner, bound⟩ := drives.claimed reached
  have dated : now ≠ 0 := by
    rintro rfl
    exact won.claims.dated (Nat.zero_div _)
  have live := Claim.fresh_earlier (leased.live other key claim drives)
    (sound.clocks now won.taken) dated
  have held : claimForTurn fresh.notes.standingClaim (driveKnow chat replica key seen).turnID now
      claimTTL = some claim := by
    rw [noted]
    exact claimForTurn_of_fresh won.claims.named (bound.trans (congrArg trimSpace turnID.symm)) live
  -- So the claim is the replica's own, but it has none yet.
  have same : other = replica :=
    Replica.ext_owner (owner.symm.trans ((won.claims.unclaimed claim held).trans mine))
  subst same
  obtain ⟨p, run, found', claimed, -⟩ := drives
  cases found.symm.trans found'
  rw [won.unclaimed] at claimed
  cases claimed

/-- Every step that keeps leases leaves them as they should be. -/
theorem Leased.step (reached : (platform r chat).Reaches Initial good cfg)
    (leased : Leased chat cfg) (kept : LeaseKept chat cfg move)
    (stepped : StepCases (platform r chat) cfg move cfg') : Leased chat cfg' where
  live replica key claim drives := by
    rcases drives.origin stepped with before | ⟨began, seen, new, run, rfl, calling, server, won, noted⟩
    · have live := leased.live replica key claim before
      cases stepped with
      | start | stop => exact live
      | advance mover began seen request rest calling =>
        exact (serve_clock request cfg.server).symm ▸ live
      | act action s acted =>
        rcases act_clock acted with same | ⟨elapsed, rfl, later⟩
        · exact same.symm ▸ live
        · exact later.symm ▸ kept replica key claim before
    · obtain ⟨rest, found⟩ := calling
      obtain ⟨fresh, now, won⟩ := (drive_sound reached found).won
        (drive_permits reached ⟨rest, found⟩) won
      rw [server, serve_clock]
      exact kept began seen _ ⟨rest, found⟩ claim (won.notes ▸ noted)
  stored replica key claim drives after found := by
    rcases drives.origin stepped with before | ⟨began, seen, new, run, rfl, calling, server, won, noted⟩
    · rcases claim_origin reached kept stepped found with
        ⟨was, there, same⟩ | none | ⟨other, began, seen, new, -, calling, run, won⟩
      · exact same.trans (leased.stored replica key claim before was there)
      · exact absurd before (none replica claim)
      · exact absurd before (leased.undriven reached calling won replica claim)
    · obtain ⟨rest, found'⟩ := calling
      obtain ⟨fresh, now, won⟩ := (drive_sound reached found').won
        (drive_permits reached ⟨rest, found'⟩) won
      have there := won.after
      rw [(driveKnow_self chat replica key seen).2.1, ← server, found] at there
      cases there
      exact noted
  sole replica other key claim claim' drives drives' := by
    rcases drives.origin stepped with before | ⟨began, seen, new, run, rfl, calling, -, won, -⟩ <;>
      rcases drives'.origin stepped with before' | ⟨_, _, _, _, same, calling', -, won', -⟩
    · exact leased.sole replica other key claim claim' before before'
    · exact absurd before (leased.undriven reached calling' won' replica claim)
    · exact absurd before' (leased.undriven reached calling won other claim')
    · cases same
      rfl

theorem standingTurn_exclusion (reached : (platform r chat).Reaches Initial (LeaseKept chat) cfg)
    {replica other : Replica} {key : Key} {claim claim' : Claim}
    (drives : Drives chat cfg replica key claim) (drives' : Drives chat cfg other key claim') :
    replica = other := by
  refine Leased.sole (reached.invariant (I := Leased chat) ?_ ?_) replica other key claim claim' drives
    drives'
  · intro w initial
    refine ⟨?_, ?_, ?_⟩
    · rintro _ _ _ ⟨_, _, ⟨⟩, _⟩
    · rintro _ _ _ ⟨_, _, ⟨⟩, _⟩
    · rintro _ _ _ _ _ ⟨_, _, ⟨⟩, _⟩
  · intro cfg cfg' move before leased kept stepped
    exact leased.step before kept stepped

section Sample

/-- A chat with one turn, whose drives may take as long as drives ever may. -/
def sampleChat : Chat where
  server :=
    { liveEnabled := true
      driveTimeout := standingDriveTimeout
      bounded := Nat.le_refl _
      standingReplyDefersWork := fun _ _ => false
      standingContinuePrompt := fun _ prompt _ => prompt
      joinStandingNativeReplies := fun first second => first ++ second
      standingTurnOutput := fun _ reply => reply }
  turn key := if key = ⟨"ns", "t"⟩ then some ⟨"turn", "ns", "t", by decide +kernel⟩ else none
  bound key turn found := by
    split at found
    next at_key =>
      cases found
      exact at_key.symm
    next => cases found

def replicaA : Replica := ⟨"a", by decide +kernel, by decide +kernel⟩

def replicaB : Replica := ⟨"b", by decide +kernel, by decide +kernel⟩

/-- An empty cluster with a session that answers. -/
def chatWorld : World :=
  { sampleWorld with
    inputs :=
      { sampleInputs with
        standingSpec := fun _ => some ⟨"acp", none⟩
        turnSession := fun _ => some "acp"
        streamTurn := fun _ _ => some "hello" } }

theorem chatWorld_initial : chatWorld.Initial :=
  ⟨rfl, rfl, rfl, by decide⟩

/-- A worker starts and makes some calls. -/
def begins (worker : Worker) (calls : Nat) : List (Move Worker Act) :=
  .start worker :: List.replicate calls (.advance worker)

def turnCreated : Move Worker Act :=
  .act (.createRun ⟨"ns", "t"⟩ {} { prompt := "hi" })

/-- The drive is about to open the session of the turn it has claimed. -/
def opensSession (cfg : Config Worker Call Reply World) (replica : Replica) : Bool :=
  match cfg.procs (.drive replica ⟨"ns", "t"⟩) with
  | some ⟨_, seen, .call (.ensureTurnSession _) _⟩ =>
    (driveKnow sampleChat replica ⟨"ns", "t"⟩ seen).claimed.any (·.notes.standingClaim.isSome)
  | _ => false

theorem opensSession_sound {cfg : Config Worker Call Reply World} {replica : Replica}
    (opens : opensSession cfg replica = true) : ∃ claim, Drives sampleChat cfg replica ⟨"ns", "t"⟩ claim := by
  unfold opensSession at opens
  split at opens
  next found =>
    obtain ⟨run, claimed, noted⟩ := (Option.any_eq_true _ _).mp opens
    obtain ⟨claim, noted⟩ := Option.isSome_iff_exists.mp noted
    exact ⟨claim, _, run, found, claimed, noted, .now rfl⟩
  next => cases opens

/-- A check of one step by which leases are kept. -/
def leaseKept (cfg : Config Worker Call Reply World) : Move Worker Act → Bool
  | .advance worker =>
    match cfg.procs worker with
    | some ⟨_, _, .call (.updateNotes new) _⟩ =>
      new.notes.standingClaim.all (·.fresh cfg.server.clock claimTTL)
    | some ⟨_, _, .call (.createPeer _ _ _) _⟩ => false
    | _ => true
  | .act _ => false
  | _ => true

theorem leaseKept_sound (cfg : Config Worker Call Reply World) (move : Move Worker Act)
    (passes : leaseKept cfg move = true) : LeaseKept sampleChat cfg move := by
  cases move with
  | start | stop => trivial
  | act action => cases passes
  | advance worker =>
    rintro began seen request ⟨rest, found⟩
    cases request with
    | updateNotes new =>
      intro claim noted
      simpa [leaseKept, found, noted] using passes
    | createPeer ns generateName spec => simp [leaseKept, found] at passes
    | _ => trivial

theorem standingTurn_exclusion_claimed :
    ∃ cfg claim, (platform sampleReconciler sampleChat).Reaches Initial (LeaseKept sampleChat) cfg ∧
      Drives sampleChat cfg replicaA ⟨"ns", "t"⟩ claim ∧
      ∀ other claim', Drives sampleChat cfg other ⟨"ns", "t"⟩ claim' → replicaA = other := by
  obtain ⟨created, stepped, cfg, played, opens⟩ :
      ∃ created ∈ (platform sampleReconciler sampleChat).next (idle chatWorld) turnCreated,
        ∃ cfg ∈ (platform sampleReconciler sampleChat).play leaseKept
          (begins (.drive replicaA ⟨"ns", "t"⟩) 7) created, opensSession cfg replicaA = true := by
    decide +kernel
  obtain ⟨claim, drives⟩ := opensSession_sound opens
  have undriven : LeaseKept sampleChat (idle chatWorld) turnCreated := by
    rintro _ _ ⟨_, _, ⟨⟩, _⟩
  have reached := Machine.Reaches.play
    (.step (Reaches.idle chatWorld_initial) undriven stepped) leaseKept_sound played
  exact ⟨cfg, claim, reached, drives, fun other claim' => standingTurn_exclusion reached drives⟩

/-- One replica claims the turn, its claim runs out within its drive, and another replica claims it. -/
def claimOutlived : List (Move Worker Act) :=
  turnCreated :: begins (.drive replicaA ⟨"ns", "t"⟩) 7 ++ .act (.tick (91 * second)) ::
    begins (.drive replicaB ⟨"ns", "t"⟩) 7

theorem standingTurn_driven_twice :
    ∃ cfg claim claim' p, (platform sampleReconciler sampleChat).Reaches Initial (fun _ _ => True) cfg ∧
      cfg.procs (.drive replicaA ⟨"ns", "t"⟩) = some p ∧
      cfg.server.clock < p.began.clock + sampleChat.server.driveTimeout ∧
      Drives sampleChat cfg replicaA ⟨"ns", "t"⟩ claim ∧
      Drives sampleChat cfg replicaB ⟨"ns", "t"⟩ claim' ∧ replicaA ≠ replicaB := by
  obtain ⟨cfg, reaches, first, second, p, found, within⟩ :
      ∃ cfg ∈ (platform sampleReconciler sampleChat).play (fun _ _ => true) claimOutlived
        (idle chatWorld), opensSession cfg replicaA = true ∧ opensSession cfg replicaB = true ∧
        ∃ p ∈ cfg.procs (.drive replicaA ⟨"ns", "t"⟩),
          cfg.server.clock < p.began.clock + sampleChat.server.driveTimeout := by
    decide +kernel
  obtain ⟨claim, drives⟩ := opensSession_sound first
  obtain ⟨claim', drives'⟩ := opensSession_sound second
  exact ⟨cfg, claim, claim', p, .play (Reaches.idle chatWorld_initial) (fun _ _ _ => trivial) reaches, found,
    within, drives, drives', by decide⟩

end Sample

end AnvilAgents
