import AnvilAgents.Proofs.Chat.Exclusion

/-! A turn that has ended stays as it ended, and the one thing that can bring it back. -/

namespace AnvilAgents.Chat

open Conc Transaction List Table Database Sql Option

section

variable [UUIDs]

/-- A transaction of the chat store in flight. -/
abbrev ChatSession := Session Op Sql Reply Change

/-- Whether a statement has read that a turn waits. -/
def readWaiting : Event Sql Reply → Bool
  | ⟨.selectTurnStatus _, status⟩ => (status : Option TurnStatus) = some .waiting
  | _ => false

/-- A transaction is about to activate a turn, which it has seen waiting. -/
def activates (s : ChatSession) (id : String) : Bool :=
  match s.op with
  | .activateTurn t => t.id = id && s.seen.any readWaiting
  | _ => false

/-- A transaction leaves a turn ended if it commits. -/
def ends (s : ChatSession) (id : String) : Bool :=
  s.pending.any fun change =>
    match change.turnRow? with
    | some row => row.id = id && !row.status.unfinished
    | none => false

/-- A turn is not ended behind the back of a transaction that has seen it waiting. -/
def Unhurried {Tid : Type} (st : ChatState Tid) : ChatMove Tid → Prop
  | .commit tid => ∀ s, st.sessions tid = some s → ∀ id, ends s id = true →
      ∀ other p, other ≠ tid → st.sessions other = some p → activates p id = false
  | _ => True

/-- What a transaction in flight rests on. -/
structure Pursues (db : Database) (s : ChatSession) (K : TxKnow) : Prop where
  called : K.op = s.op
  seen : K.status = some .waiting → s.seen.any readWaiting = true
  /-- A turn that is about to be activated has not ended. -/
  waits : ∀ id, activates s id = true → ∀ row, db.turns.get id = some row →
    row.status.unfinished = true
  /-- Neither has a turn that has been written. -/
  stands : ∀ row, turnChanges s.pending = [.updateTurn row] → ∀ old,
    db.turns.get row.id = some old → old.status.unfinished = true

variable {stmt : Sql}

section Steps

variable {db : Database} {held held' : Held} {s : ChatSession} {K K' : TxKnow}
  {rest : Prog Sql Reply Bool}

/-- Only reading a status changes which status is known. -/
theorem learn_status {reply : Reply stmt} (known : (K.learn stmt reply).status = some .waiting) :
    K.status = some .waiting ∨ readWaiting ⟨stmt, reply⟩ = true := by
  cases stmt with
  | selectTurnStatus id => exact .inr (decide_eq_true known)
  | _ => exact .inl known

theorem activates_iff {id : String} :
    activates s id = true ↔ ∃ t, s.op = .activateTurn t ∧ t.id = id ∧ s.seen.any readWaiting = true := by
  unfold activates
  split
  next t called => simp [called]
  next other => exact ⟨fun same => (nomatch same), fun ⟨t, called, _⟩ => absurd called (other t)⟩

variable {changes : List Change}

/-- Each statement that the contract permits leaves a transaction with what it rests on. -/
theorem Pursues.step {reply : Reply stmt} (pursues : Pursues db s K)
    (sound : Sound db held s.pending K) (consistent : db.Consistent) (permitted : K.permits stmt)
    (locked : ∀ lock, (lock, .exclusive) ∈ stmt.locks (postgres.applyAll db s.pending) →
      held lock .exclusive)
    (ran : stmt.exec (postgres.applyAll db s.pending) = .ok (reply, changes)) :
    Pursues db ⟨s.op, s.seen ++ [⟨stmt, reply⟩], rest, s.pending ++ changes⟩
      (K.learn stmt reply) where
  called := pursues.called
  seen known := by
    rw [any_append, Bool.or_eq_true]
    rcases learn_status known with before | now
    · exact .inl (pursues.seen before)
    · exact .inr (by simp [now])
  waits id about row found := by
    obtain ⟨t, called, rfl, read⟩ := activates_iff.mp about
    rw [any_append, Bool.or_eq_true] at read
    rcases read with before | now
    · exact pursues.waits t.id (activates_iff.mpr ⟨t, called, rfl, before⟩) row found
    simp only [any_cons, any_nil, Bool.or_false] at now
    cases stmt with
    | selectTurnStatus id =>
      obtain ⟨unwritten, t', called', rfl⟩ := permitted
      obtain rfl : t = t' := Op.activateTurn.inj (called.symm.trans (pursues.called.symm.trans called'))
      -- The status was read from the committed row, since nothing has been written.
      have answered : reply = some row.status := by
        have turns := sound.view_turns unwritten
        simp only [exec, turns, found] at ran
        exact (Prod.mk.inj (Except.ok.inj ran)).1.symm
      have waiting : row.status = .waiting := some.inj (answered.symm.trans (of_decide_eq_true now))
      rw [waiting]
      rfl
    | _ => cases now
  stands row only old found := by
    rcases sound.lastWrite consistent permitted locked ran only with before | write
    · exact pursues.stands row before old found
    cases write with
    | @update stood status payload _ present _ _ _ why =>
      obtain rfl := some.inj (present.symm.trans found)
      rcases why with ⟨running, -⟩ | ⟨t, called, sameID, -, waiting⟩ | occupying
      · exact running
      · refine pursues.waits t.id ?_ stood (sameID ▸ found)
        exact activates_iff.mpr ⟨t, pursues.called.symm.trans called, rfl, pursues.seen waiting⟩
      · exact unfinished_of_occupies occupying

/-- A transaction keeps what it rests on when another one commits and ends nothing it pursues. -/
theorem Pursues.commit_other {p : ChatSession} (pursues : Pursues db s K)
    (sound : Sound db held s.pending K) (other : Sound db held' p.pending K')
    (unhurried : ∀ id, ends p id = true → activates s id = false)
    (apart : ∀ lock, held lock .exclusive → held' lock .exclusive → False) :
    Pursues (postgres.applyAll db p.pending) s K := by
  refine ⟨pursues.called, pursues.seen, fun id about row found => ?_, fun row only old found => ?_⟩
  · rcases other.commit_turns with same | ⟨change, written, grounded, only, turns⟩
    · exact pursues.waits id about row (same ▸ found)
    · rw [turns] at found
      rcases get_put_cases found with ⟨rfl, rfl⟩ | ⟨-, before⟩
      · -- The turn itself was written; had it ended, this transaction would not be after it.
        by_contra ended
        have ended : ends p written.id = true := by
          have member : change ∈ p.pending := by
            have only : change ∈ turnChanges p.pending := only ▸ .head _
            exact mem_of_mem_filter only
          exact any_eq_true.mpr ⟨change, member, by simp [grounded.writes, ended]⟩
        cases about.symm.trans (unhurried written.id ended)
      · exact pursues.waits id about row before
  · -- A written turn is locked, so nobody else has written it.
    refine pursues.stands row only old ?_
    rcases sound.written with none | ⟨mine, _, same, own⟩
    · cases none.symm.trans only
    · obtain rfl := singleton_inj.mp (same.symm.trans only)
      cases own with
      | update lock _ _ present => rwa [other.locked_stays apart lock (by simp [present])] at found

end Steps

section Runs

variable {Tid : Type} [DecidableEq Tid] {st st' : ChatState Tid}

/-- In every state that is reached unhurriedly, each transaction has what it rests on. -/
theorem chat_pursues (reached : chatStore.Reaches Consistent Unhurried st) {tid : Tid}
    {s : ChatSession} (found : st.sessions tid = some s) : Pursues st.committed s (know s) := by
  refine ((reached.session_invariant (C := txContract) TxKnow.start op_conforms
    (G := fun _ => True) (L := fun db _ s K => Pursues db s K)
    (fun _ _ _ _ _ _ _ _ _ => trivial) (fun _ _ _ _ _ _ pursues => pursues)
    (fun _ _ => trivial) ?_ ?_ ?_).2 tid s found).2
  · intro st tid op _ _ _
    refine ⟨rfl, fun known => ?_, fun id about => ?_, fun row only => ?_⟩
    · cases known
    · obtain ⟨t, -, -, read⟩ := activates_iff.mp about
      cases read
    · cases only
  · intro st tid s stmt rest reply changes reached _ found _ _ pursues permitted ready ran
    obtain ⟨consistent, sessions⟩ := chat_sound (fun _ initial => initial) reached
    exact pursues.step (sessions tid s found).2 consistent permitted.1
      (fun lock needs => Store.ready_exclusive ready needs) ran
  · intro st tid s reached unhurried found _ _ _
    obtain ⟨-, sessions⟩ := chat_sound (fun _ initial => initial) reached
    refine ⟨trivial, fun other p distinct present theirs => ?_⟩
    exact theirs.commit_other (sessions other p present).2 (sessions tid s found).2
      (fun id ended => unhurried s found id ended other p distinct present)
      (held_apart reached distinct)

/-- One step leaves a turn that has ended. -/
theorem ended_turn_step {id : String} {row : TurnRow} {move : ChatMove Tid}
    (reached : chatStore.Reaches Consistent Unhurried st)
    (found : st.committed.turns.get id = some row) (ended : row.status.unfinished = false)
    (cases : chatStore.StepCases st move st') : st'.committed.turns.get id = some row := by
  cases cases with
  | start | acquire | exec | rollback => exact found
  | commit mover s present code =>
    obtain ⟨-, sessions⟩ := chat_sound (fun _ initial => initial) reached
    have sound := (sessions mover s present).2
    rcases sound.commit_turns with same | ⟨change, written, grounded, only, turns⟩
    · exact same.symm ▸ found
    · change (postgres.applyAll st.committed s.pending).turns.get id = some row
      rw [turns, get_put_of_ne _ _ ?_]
      · exact found
      · -- A turn that is written was not there, or it was not over.
        rintro rfl
        cases grounded with
        | insert _ absent => cases absent.symm.trans found
        | update =>
          cases ended.symm.trans ((chat_pursues reached present).stands written only row found)

end Runs

end

section Sample

open Sample

def waitingTurn : Turn :=
  { sampleTurn "t1" uuidA "coder" with status := .waiting }

/-- A thread with one turn, which waits. -/
def waitingDb : Database :=
  { sampleDb with turns := empty.put "t1" (PostgresStore.newRow waitingTurn 1) }

def failedTurn : Turn :=
  { waitingTurn with status := .ended "failed" (by decide) }

theorem waitingDb_consistent : waitingDb.Consistent := by
  intro id row found
  rcases get_put_cases found with ⟨rfl, rfl⟩ | ⟨-, before⟩
  · exact ⟨rfl, newRow_consistent _ _⟩
  · cases before

/-- An activation, up to the statement that writes. -/
def activationReads (tid : Bool) : List (ChatMove Bool) :=
  [.start tid (.activateTurn waitingTurn), .acquire tid, .exec tid, .exec tid, .exec tid]

/-- A completion, from its start to its commit. -/
def completion (tid : Bool) : List (ChatMove Bool) :=
  [.start tid (.completeTurn sampleEnv failedTurn
      { sampleMessage uuidB with role := .assistant }),
    .acquire tid, .exec tid, .acquire tid, .exec tid, .exec tid, .acquire tid, .acquire tid,
    .exec tid, .exec tid, .exec tid, .commit tid]

/-- The rest of an activation that finds its turn ended. -/
def activationWrites (tid : Bool) : List (ChatMove Bool) :=
  [.acquire tid, .acquire tid, .acquire tid, .acquire tid, .exec tid, .commit tid]

/-- Of two transactions, one commits only when the other is not in flight. -/
def commitsAlone (st : ChatState Bool) : ChatMove Bool → Bool
  | .commit tid => (st.sessions (!tid)).isNone
  | _ => true

theorem commitsAlone_unhurried (st : ChatState Bool) (move : ChatMove Bool)
    (checked : commitsAlone st move = true) : Unhurried st move := by
  cases move with
  | commit tid =>
    intro s _ id _ other p distinct present
    obtain rfl : other = !tid := Bool.eq_not.mpr distinct
    rw [commitsAlone, present] at checked
    cases checked
  | _ => trivial

end Sample

end AnvilAgents.Chat
