import AnvilAgents.Standing.Contract

/-! Every drive of a standing turn keeps its contract. -/

namespace AnvilAgents

open Conc Text Contract DriveKnow

variable {server : Server} {D : DriveKnow} {turn : Turn}

/-- A call that is permitted and teaches nothing this proof needs. -/
theorem drive_ask {α : Type} {c : Call} {rest : Reply c → Pass α} {post : DriveKnow → α → Prop}
    (permitted : D.permits server c)
    (later : ∀ reply, (driveContract server).Conforms (D.learn c reply) (rest reply) post) :
    (driveContract server).Conforms D (ask c >>= rest) post :=
  ⟨permitted, fun reply _ => later reply⟩

/-- Only clock readings were added. -/
structure DriveKnow.Later (D D' : DriveKnow) : Prop where
  owner : D'.owner = D.owner
  key : D'.key = D.key
  turnID : D'.turnID = D.turnID
  clocks : D.clocks ⊆ D'.clocks
  read : D'.read = D.read
  claimed : D'.claimed = D.claimed
  replies : D'.replies = D.replies
  updated : D'.updated = D.updated

theorem DriveKnow.Later.refl (D : DriveKnow) : D.Later D :=
  ⟨rfl, rfl, rfl, fun _ => id, rfl, rfl, rfl, rfl⟩

theorem DriveKnow.later_now (D : DriveKnow) (reply : Reply .now) : D.Later (D.learn .now reply) :=
  ⟨rfl, rfl, rfl, fun _ => List.mem_cons_of_mem _, rfl, rfl, rfl, rfl⟩

/-- Looking at the phase of a run lets no finished run through. -/
theorem phaseDrivable_conforms (owner : String) (run : AgentRun) :
    (driveContract server).Conforms D (phaseDrivable server owner run turn) fun D' drivable =>
      D.Later D' ∧ (drivable = true →
        run.status.phase ≠ .succeeded ∧ run.status.phase ≠ .failed) := by
  unfold phaseDrivable
  cases run.status.phase with
  | succeeded | failed => exact ⟨.refl D, nofun⟩
  | needsHuman => exact drive_ask trivial fun now => ⟨D.later_now now, by simp⟩
  | unset | pending | running => exact ⟨.refl D, by simp⟩

section Claim

variable {owner : String} {now : Nat}

/-- What a drive knows of itself before it has claimed anything. -/
structure DriveKnow.Unclaimed (D : DriveKnow) (owner : String) (turn : Turn) : Prop where
  owner : D.owner = owner
  key : D.key = turn.runKey
  turnID : D.turnID = turn.id
  claimed : D.claimed = none
  replies : D.replies = []
  updated : D.updated = none

/-- A drive that has claimed its turn and streamed nothing yet. -/
structure DriveKnow.Claimed (D : DriveKnow) (turn : Turn) (run : AgentRun) : Prop where
  key : D.key = turn.runKey
  claimed : D.claimed = some run
  replies : D.replies = []
  updated : D.updated = none

theorem DriveKnow.Unclaimed.read (unclaimed : D.Unclaimed owner turn) (key : Key)
    (found : Option AgentRun) : (D.learn (.getRun key) found).Unclaimed owner turn :=
  ⟨unclaimed.owner, unclaimed.key, unclaimed.turnID, unclaimed.claimed, unclaimed.replies,
    unclaimed.updated⟩

theorem DriveKnow.Unclaimed.later {D' : DriveKnow} (unclaimed : D.Unclaimed owner turn)
    (later : D.Later D') : D'.Unclaimed owner turn :=
  ⟨later.owner.trans unclaimed.owner, later.key.trans unclaimed.key, later.turnID.trans unclaimed.turnID,
    later.claimed.trans unclaimed.claimed, later.replies.trans unclaimed.replies,
    later.updated.trans unclaimed.updated⟩

/-- A lost claim promises nothing. -/
theorem claim_lost : (driveContract server).Conforms D (pure none)
    fun D' (won : Option AgentRun) => ∀ run, won = some run → D'.Claimed turn run := by
  simp

/-- A claim is written over a version without a live claim of another replica. -/
theorem claimAttempts_conforms (trimmed : trimSpace owner = owner) (attempts : Nat)
    (unclaimed : D.Unclaimed owner turn) (taken : now ∈ D.clocks) :
    (driveContract server).Conforms D (claimAttempts server owner turn now attempts)
      fun D' won => ∀ run, won = some run → D'.Claimed turn run := by
  -- Induction on the attempts left: a conflict starts over from a later read.
  induction attempts generalizing D with
  | zero => exact claim_lost
  | succ attempts ih =>
    have at_key : (⟨trimSpace turn.ns, turn.runName⟩ : Key) = D.key := by
      rw [unclaimed.key, turn.trimmed, Turn.runKey]
    refine drive_ask at_key fun found => ?_
    have still := unclaimed.read ⟨trimSpace turn.ns, turn.runName⟩ found
    cases found with
    | none => exact claim_lost
    | some fresh =>
      refine conforms_bind.mpr (Conforms.mono ?_ (phaseDrivable_conforms owner fresh))
      rintro D' drivable ⟨later, unfinished⟩
      have still := still.later later
      refine conforms_ite (fun _ => claim_lost) fun allowed => ?_
      refine conforms_ite (fun _ => claim_lost) fun unforeign => ?_
      cases encoded : encodeClaim ⟨turn.id, owner, now / second⟩ with
      | none => exact claim_lost
      | some claim =>
        obtain ⟨rfl, named, dated⟩ := encodeClaim_eq_some encoded
        refine drive_ask ⟨still.claimed, fresh, now, later.read, later.clocks taken,
          still.turnID ▸ named, dated, unfinished (by simpa using allowed), ?_, ?_⟩ fun reply => ?_
        · intro live found
          rw [still.turnID] at found
          rw [still.owner]
          simpa [found] using unforeign
        · rw [still.turnID, still.owner]
          rw [trimmed]
        · cases reply with
          | ok run =>
            rintro _ ⟨⟩
            exact ⟨still.key, rfl, still.replies, still.updated⟩
          | conflict => exact ih still (later.clocks taken)
          | _ => exact claim_lost

theorem claimStandingTurn_conforms (trimmed : trimSpace owner = owner)
    (unclaimed : D.Unclaimed owner turn) :
    (driveContract server).Conforms D (claimStandingTurn server owner turn)
      fun D' won => ∀ run, won = some run → D'.Claimed turn run := by
  unfold claimStandingTurn
  split
  · exact claim_lost
  · exact drive_ask trivial fun now =>
      claimAttempts_conforms trimmed 2 (unclaimed.later (D.later_now now)) (.head _)

end Claim

section Drive

/-- A drive that has claimed its turn and streamed these replies. -/
structure DriveKnow.Streamed (D : DriveKnow) (turn : Turn) (run : AgentRun)
    (replies : List String) : Prop where
  key : D.key = turn.runKey
  claimed : D.claimed = some run
  replies : D.replies = replies
  updated : D.updated = none

/-- A continuation is streamed on the same claim, and the reply is what was streamed. -/
theorem completeStandingDeferredWork_conforms {run : AgentRun} {first : String}
    (streamed : D.Streamed turn run [first]) (spoken : isBlank first = false) (deadline : Nat)
    (harnessKind prompt : String) :
    (driveContract server).Conforms D
      (completeStandingDeferredWork server turn deadline harnessKind prompt first)
      fun D' reply => D'.key = turn.runKey ∧ D'.claimed = some run ∧ D'.updated = none ∧
        D'.answers server reply := by
  have alone {D' : DriveKnow} (later : D.Later D') : D'.key = turn.runKey ∧
      D'.claimed = some run ∧ D'.updated = none ∧ D'.answers server first :=
    ⟨later.key.trans streamed.key, later.claimed.trans streamed.claimed, later.updated.trans streamed.updated,
      first, spoken, .inl ⟨later.replies.trans streamed.replies, rfl⟩⟩
  unfold completeStandingDeferredWork
  split
  · exact alone (.refl D)
  · refine drive_ask trivial fun now => ?_
    have later := D.later_now now
    refine conforms_ite (fun _ => alone later) fun _ => ?_
    refine drive_ask (by simp [DriveKnow.permits, later.claimed, streamed.claimed]) fun reply => ?_
    cases reply with
    | none => exact alone later
    | some continuation =>
      have both : D.replies ++ [continuation] = [first, continuation] := by rw [streamed.replies]; rfl
      have answer {reply : String}
          (joined : reply = first ∨ reply = server.joinStandingNativeReplies first continuation) :=
        (⟨streamed.key, streamed.claimed, streamed.updated, first, spoken,
            .inr ⟨continuation, both, joined⟩⟩ : D.key = turn.runKey ∧ D.claimed = some run ∧
          D.updated = none ∧ { D with replies := D.replies ++ [continuation] }.answers server reply)
      exact conforms_ite (fun _ => answer (.inl rfl)) fun _ => answer (.inr rfl)

/-- The reply is recorded on the version that was stored with the claim. -/
theorem driveClaimedTurn_conforms {run : AgentRun} (claimed : D.Claimed turn run) (deadline : Nat)
    (spec : StandingSessionSpec) :
    (driveContract server).Conforms D (driveClaimedTurn server turn deadline spec run)
      fun _ _ => True := by
  unfold driveClaimedTurn
  have mine : D.claimed.isSome := by simp [claimed.claimed]
  refine drive_ask mine fun harnessKind => ?_
  cases harnessKind with
  | none => trivial
  | some harnessKind =>
    refine conforms_ite (fun _ => trivial) fun _ => ?_
    refine drive_ask mine fun reply => ?_
    cases reply with
    | none => trivial
    | some reply =>
      refine conforms_ite (fun _ => trivial) fun spoken => ?_
      have streamed : (D.learn (.streamTurn turn.id (trimSpace run.spec.prompt))
          (some reply)).Streamed turn run [reply] :=
        ⟨claimed.key, claimed.claimed, by simp [DriveKnow.learn, claimed.replies], claimed.updated⟩
      refine conforms_bind.mpr (Conforms.mono ?_
        (completeStandingDeferredWork_conforms streamed (by simpa using spoken) deadline _ _))
      rintro D' answer ⟨at_key, mine, unsent, answers⟩
      refine drive_ask trivial fun completedAt => ?_
      refine drive_ask ⟨unsent, run, mine, harnessKind, spec.runtime, answer, _, answers, rfl⟩
        fun stored => ?_
      cases stored with
      | ok _ => trivial
      | _ => exact drive_ask at_key.symm fun _ => trivial

theorem drive_conforms (chat : Chat) (replica : Replica) (key : Key) :
    (driveContract chat.server).Conforms (start chat replica key) (chat.drive replica key)
      fun _ _ => True := by
  unfold Chat.drive
  cases bound : chat.turn key with
  | none => trivial
  | some turn =>
    have unclaimed : (start chat replica key).Unclaimed replica.owner turn :=
      ⟨rfl, (chat.bound key turn bound).symm, by simp [start, bound], rfl, rfl, rfl⟩
    refine drive_ask trivial fun startedAt => ?_
    have unclaimed := unclaimed.later (later_now _ startedAt)
    refine drive_ask unclaimed.key.symm fun found => ?_
    cases found with
    | none => trivial
    | some run =>
      refine conforms_bind.mpr (Conforms.mono ?_ (phaseDrivable_conforms _ run))
      rintro D drivable ⟨later, -⟩
      refine conforms_ite (fun _ => trivial) fun _ => ?_
      refine conforms_ite (fun _ => trivial) fun _ => ?_
      refine drive_ask trivial fun now => ?_
      refine conforms_ite (fun _ => trivial) fun _ => ?_
      refine drive_ask trivial fun spec => ?_
      have unclaimed := ((unclaimed.read turn.runKey (some run)).later later).later (D.later_now now)
      cases spec with
      | none => trivial
      | some spec =>
        refine conforms_bind.mpr (Conforms.mono ?_
          (claimStandingTurn_conforms replica.trimmed unclaimed))
        intro D' won claimed
        cases won with
        | none => trivial
        | some run => exact driveClaimedTurn_conforms (claimed run rfl) _ spec

end Drive

end AnvilAgents
