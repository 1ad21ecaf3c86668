import AnvilAgents.Proofs.Chat.Sessions

/-! Turns that need the same profile or the same lock never occupy it together. -/

namespace AnvilAgents.Chat

open Transaction List Table Sql

/-- No two different turns of a namespace occupy one profile or one lock. -/
def Exclusive (db : Database) : Prop :=
  ∀ id id' row row', db.turns.get id = some row → db.turns.get id' = some row' → id ≠ id' →
    row.ns = row'.ns → row.status.occupies = true → row'.status.occupies = true →
    sharedTurnResource row.payload row'.payload = false

/-- Nothing that is committed occupies one of the resources. -/
def Unoccupied (db : Database) (r : Resources) : Prop :=
  ∀ id row, db.turns.get id = some row → row.ns = r.ns →
    row.needs r.profileName r.lockKeys = true → row.status.occupies = false

/-- The locks that keep the resources unoccupied. -/
def Secured (held : Held) (r : Resources) : Prop :=
  ∀ name ∈ r.names, held (.advisory name) .exclusive

/-- What makes it safe that a transaction lets a turn occupy its resources. -/
def Fence (db : Database) (held : Held) (row : TurnRow) : Prop :=
  (∃ old, db.turns.get row.id = some old ∧ old.status.occupies = true) ∨
    (Secured held row.payload.resources ∧ Unoccupied db row.payload.resources)

/-- What holds of a transaction in flight, beside its being sound. -/
structure Fenced [UUIDs] (db : Database) (held : Held) (pending : List Change) (K : TxKnow) : Prop where
  free : ∀ r, K.free = some r → Secured held r ∧ Unoccupied db r
  fence : ∀ change row, turnChanges pending = [change] → change.turnRow? = some row →
    row.status.occupies = true → Fence db held row
  activates : ∀ t, K.op = .activateTurn t →
    ∃ row, db.turns.get t.id = some row ∧ row.payload.Same t
  retries : ∀ env expected retry, K.op = .retryTurn env expected retry →
    ∃ row, db.turns.get expected.id = some row ∧ row.status ≠ .waiting

/--
How the callers use the store.

A turn that is to be activated has been read from the store. What is retried has left waiting.
-/
def Admitted [UUIDs] {Tid : Type} (st : ChatState Tid) : ChatMove Tid → Prop
  | .start _ (.activateTurn t) =>
    ∃ row, st.committed.turns.get t.id = some row ∧ row.payload.Same t
  | .start _ (.retryTurn _ expected _) =>
    ∃ row, st.committed.turns.get expected.id = some row ∧ row.status ≠ .waiting
  | _ => True

variable {status : TurnStatus}

section Shared

theorem sharedTurnResource_comm (a b : Turn) : sharedTurnResource a b = sharedTurnResource b a := by
  have overlap : (a.lockKeys.any (b.lockKeys.contains ·)) = b.lockKeys.any (a.lockKeys.contains ·) := by
    rw [Bool.eq_iff_iff]
    simp only [any_eq_true, contains_iff_mem]
    exact ⟨fun ⟨key, mine, theirs⟩ => ⟨key, theirs, mine⟩,
      fun ⟨key, theirs, mine⟩ => ⟨key, mine, theirs⟩⟩
  simp only [sharedTurnResource, overlap, eq_comm]

theorem needs_eq_shared (row : TurnRow) (t : Turn) :
    row.needs t.resources.profileName t.resources.lockKeys = sharedTurnResource row.payload t := rfl

theorem Turn.Same.shared {a b : Turn} (same : a.Same b) (t : Turn) :
    sharedTurnResource a t = sharedTurnResource b t := by
  simp only [sharedTurnResource, same.profileName, same.lockKeys]

theorem Turn.Same.resources {a b : Turn} (same : a.Same b) : a.resources = b.resources := by
  simp only [Turn.resources, same.ns, same.profileName, same.lockKeys]

theorem unfinished_of_occupies (occupies : status.occupies = true) :
    status.unfinished = true := by
  cases status <;> first | rfl | cases occupies

theorem occupies_of_unfinished (unfinished : status.unfinished = true) (left : status ≠ .waiting) :
    status.occupies = true := by
  cases status with
  | waiting => exact absurd rfl left
  | queued | running => rfl
  | ended outcome final => cases unfinished

end Shared

variable {changes : List Change}

section Steps

variable [UUIDs] {db : Database} {held held' : Held} {pending pending' : List Change} {K K' : TxKnow}

/-- A call begins fenced, with what its caller has read. -/
theorem Fenced.start {op : Op}
    (activates : ∀ t, op = .activateTurn t →
      ∃ row, db.turns.get t.id = some row ∧ row.payload.Same t)
    (retries : ∀ env expected retry, op = .retryTurn env expected retry →
      ∃ row, db.turns.get expected.id = some row ∧ row.status ≠ .waiting) :
    Fenced db held [] (TxKnow.start op) where
  free r known := by cases known
  fence change row only := by cases only
  activates := activates
  retries := retries

theorem Fenced.mono (more : ∀ lock mode, held lock mode → held' lock mode)
    (fenced : Fenced db held pending K) : Fenced db held' pending K where
  free r known := (fenced.free r known).imp_left fun secured name member =>
    more _ _ (secured name member)
  fence change row only writes occupies :=
    (fenced.fence change row only writes occupies).imp_right fun ⟨secured, unoccupied⟩ =>
      ⟨fun name member => more _ _ (secured name member), unoccupied⟩
  activates := fenced.activates
  retries := fenced.retries

omit [UUIDs] in
theorem unoccupied_of_free {turns : Table String TurnRow} {r : Resources}
    (same : turns = db.turns)
    (free : turns.values.any (fun row => row.ns = r.ns && row.needs r.profileName r.lockKeys &&
      row.status.occupies) = false) : Unoccupied db r := by
  intro id row found sameNs needs
  have passes := any_eq_false.mp free row (mem_values (same ▸ found))
  simpa [sameNs, needs] using passes

/-- Each statement that the contract permits keeps a transaction fenced. -/
theorem Fenced.step {s : Sql} {reply : Reply s} (fenced : Fenced db held pending K)
    (sound : Sound db held pending K) (consistent : db.Consistent) (permitted : K.permits s)
    (locked : ∀ lock, (lock, .exclusive) ∈ s.locks (postgres.applyAll db pending) →
      held lock .exclusive) (ran : s.exec (postgres.applyAll db pending) = .ok (reply, changes)) :
    Fenced db held (pending ++ changes) (K.learn s reply) where
  free r known := by
    cases s with
    | selectConflict ns threadID profileName deferred lockKeys =>
      cases deferred with
      | true => exact fenced.free r known
      | false =>
        cases reply with
        | true => exact fenced.free r known
        | false =>
          cases known
          refine ⟨fun name member => sound.advised name (permitted.2 name member), ?_⟩
          refine unoccupied_of_free (sound.view_turns permitted.1) ?_
          -- The question covers more turns than those that need the resources.
          have clear : (postgres.applyAll db pending).conflict ns threadID profileName false lockKeys =
              false := (Prod.mk.inj (Except.ok.inj ran)).1
          rw [Database.conflict, Database.anyTurn, any_eq_false] at clear
          rw [any_eq_false]
          intro row member matched
          refine clear row member ?_
          simp only [Bool.and_eq_true] at matched
          simp [matched]
    | selectBusy ns profileName lockKeys =>
      cases reply with
      | true => exact fenced.free r known
      | false =>
        cases known
        refine ⟨fun name member => sound.advised name (permitted.2 name member), ?_⟩
        exact unoccupied_of_free (sound.view_turns permitted.1) (Prod.mk.inj (Except.ok.inj ran)).1
    | _ => exact fenced.free r known
  fence change row only writes occupies := by
    rcases sound.lastWrite consistent permitted locked ran only with before | write
    · exact fenced.fence change row before writes occupies
    cases write with
    | insert _ _ _ free =>
      cases writes
      exact .inr (fenced.free _ (free occupies))
    | @update old status payload _ found same _ _ why =>
      cases writes
      rcases why with ⟨running, again⟩ | ⟨t, called, sameID, free, -⟩ | occupying
      · -- Only a retry leaves a turn occupying, and what is retried has left waiting.
        obtain ⟨env, expected, retry, called, sameID⟩ := again (unfinished_of_occupies occupies)
        obtain ⟨retried, stands, left⟩ := fenced.retries env expected retry called
        obtain rfl := Option.some.inj (found.symm.trans (sameID ▸ stands))
        exact .inl ⟨old, found, occupies_of_unfinished running left⟩
      · obtain ⟨read, stands, asked⟩ := fenced.activates t called
        obtain rfl := Option.some.inj (found.symm.trans (sameID ▸ stands))
        have resources : payload.resources = t.resources := (same.symm.trans asked).resources
        exact .inr (resources.symm ▸ fenced.free _ free)
      · exact .inl ⟨old, found, occupying⟩
  activates := fenced.activates
  retries := fenced.retries

/-- Resources that are secured stay unoccupied when somebody else commits. -/
theorem Unoccupied.commit_other {r : Resources} (unoccupied : Unoccupied db r)
    (secured : Secured held r) (consistent : db.Consistent)
    (other : Sound db held' pending' K') (fenced : Fenced db held' pending' K')
    (apart : ∀ lock, held lock .exclusive → held' lock .exclusive → False) :
    Unoccupied (postgres.applyAll db pending') r := by
  rcases other.commit_turns with same | ⟨change, row, grounded, only, turns⟩
  · exact fun id row => same ▸ unoccupied id row
  · intro id found present sameNs needs
    rw [turns] at present
    rcases get_put_cases present with ⟨rfl, rfl⟩ | ⟨-, before⟩
    · by_contra occupies
      rw [Bool.not_eq_false] at occupies
      have columns := grounded.consistent
      rcases fenced.fence change row only grounded.writes occupies with ⟨old, before, occupied⟩ | ⟨secured', -⟩
      · -- It occupied them before, under the same resources.
        have same := (grounded.same before).1
        have oldNs : old.ns = r.ns := by
          rw [← (consistent _ old before).2.ns, same.ns, columns.ns, sameNs]
        have oldNeeds : old.needs r.profileName r.lockKeys = true := by
          simpa only [TurnRow.needs, same.profileName, same.lockKeys] using needs
        exact Bool.false_ne_true ((unoccupied _ old before oldNs oldNeeds).symm.trans occupied)
      · -- The two transactions would share an advisory lock.
        obtain ⟨name, theirs, mine⟩ := shared_name columns sameNs needs
        exact apart _ (secured name mine) (secured' name theirs)
    · exact unoccupied id found before sameNs needs

/-- A transaction stays fenced when somebody else commits. -/
theorem Fenced.commit_other (fenced : Fenced db held pending K) (sound : Sound db held pending K)
    (consistent : db.Consistent) (other : Sound db held' pending' K')
    (otherFenced : Fenced db held' pending' K')
    (apart : ∀ lock, held lock .exclusive → held' lock .exclusive → False) :
    Fenced (postgres.applyAll db pending') held pending K where
  free r known := by
    obtain ⟨secured, unoccupied⟩ := fenced.free r known
    exact ⟨secured, unoccupied.commit_other secured consistent other otherFenced apart⟩
  fence change row only writes occupies := by
    rcases fenced.fence change row only writes occupies with
      ⟨old, found, occupied⟩ | ⟨secured, unoccupied⟩
    · -- The row is locked, so it is not the one that was committed.
      refine .inl ⟨old, ?_, occupied⟩
      rcases sound.written with none | ⟨mine, _, same, grounded⟩
      · rw [none] at only
        cases only
      · obtain rfl := singleton_inj.mp (same.symm.trans only)
        cases grounded with
        | insert _ absent =>
          cases writes
          cases absent.symm.trans found
        | update lock =>
          cases writes
          rwa [other.locked_stays apart lock (by simp [found])]
    · exact .inr ⟨secured, unoccupied.commit_other secured consistent other otherFenced apart⟩
  activates t called := by
    obtain ⟨row, found, same⟩ := fenced.activates t called
    obtain ⟨row', found', kept, -⟩ := other.commit_evolves.kept _ row found
    exact ⟨row', found', kept.symm.trans same⟩
  retries env expected retry called := by
    obtain ⟨row, found, left⟩ := fenced.retries env expected retry called
    obtain ⟨row', found', -, status⟩ := other.commit_evolves.kept _ row found
    exact ⟨row', found', fun waiting => left (status waiting)⟩

/-- A fenced transaction leaves the turns exclusive when it commits. -/
theorem Exclusive.commit (exclusive : Exclusive db) (consistent : db.Consistent)
    (sound : Sound db held pending K) (fenced : Fenced db held pending K) :
    Exclusive (postgres.applyAll db pending) := by
  rcases sound.commit_turns with same | ⟨change, row, grounded, only, turns⟩
  · exact fun id id' row row' found found' => exclusive id id' row row' (same ▸ found) (same ▸ found')
  · have columns := grounded.consistent
    -- The written turn shares nothing with any other that occupies its resources.
    have apart : ∀ id other, db.turns.get id = some other → id ≠ row.id → other.ns = row.ns →
        other.status.occupies = true → row.status.occupies = true →
        sharedTurnResource other.payload row.payload = false := by
      intro id other found distinct sameNs occupies written
      rcases fenced.fence change row only grounded.writes written with ⟨old, before, occupied⟩ | ⟨-, unoccupied⟩
      · have same := (grounded.same before).1
        rw [sharedTurnResource_comm, ← same.shared]
        refine exclusive row.id id old other before found distinct.symm ?_ occupied occupies
        rw [← (consistent _ old before).2.ns, same.ns, columns.ns, sameNs]
      · by_contra shares
        rw [Bool.not_eq_false] at shares
        have free := unoccupied id other found (sameNs.trans columns.ns.symm)
          ((needs_eq_shared other row.payload).trans shares)
        exact Bool.false_ne_true (free.symm.trans occupies)
    intro id id' first second found found' distinct sameNs occupies occupies'
    rw [turns] at found found'
    rcases get_put_cases found with ⟨rfl, rfl⟩ | ⟨other, before⟩
    · rcases get_put_cases found' with ⟨rfl, -⟩ | ⟨-, before'⟩
      · exact absurd rfl distinct
      · rw [sharedTurnResource_comm]
        exact apart id' second before' distinct.symm sameNs.symm occupies' occupies
    · rcases get_put_cases found' with ⟨rfl, rfl⟩ | ⟨-, before'⟩
      · exact apart id first before other sameNs occupies occupies'
      · exact exclusive id id' first second before before' distinct sameNs occupies occupies'

end Steps

section Runs

variable [UUIDs] {Tid : Type} [DecidableEq Tid] {st : ChatState Tid}

/-- The rows that a run may start from. -/
def Orderly (db : Database) : Prop :=
  db.Consistent ∧ Exclusive db

end Runs

section Sample

/-- Identities of two threads, and of a request. -/
def uuidA : String := "a"

def uuidB : String := "b"

def uuidC : String := "c"

namespace Sample

/-- Every text without white space is a UUID here, in its usual form. -/
scoped instance : UUIDs where
  parseUUID s := if s ≠ "" ∧ s.toList.any Text.isSpace = false then some s else none
  trimmed parsed := by
    obtain ⟨⟨-, solid⟩, ⟨⟩⟩ := Option.ite_none_right_eq_some.mp parsed
    exact Text.trimSpace_of_solid fun c member => by simpa using any_eq_false.mp solid c member
  empty := rfl

end Sample

open Sample

/-- Surroundings in which one identity is generated. -/
def sampleEnv : Env :=
  ⟨7, fun _ => uuidC, fun _ => rfl⟩

def sampleThread (id : String) : Thread :=
  { id, ns := "team", profileName := "coder", mode := .persona, title := "talk", createdAt := 1,
    updatedAt := 1, createdBy := "user", metadata := .empty }

/-- Two threads without turns. -/
def sampleDb : Database :=
  { threads := (empty.put uuidA (sampleThread uuidA)).put uuidB (sampleThread uuidB)
    messages := [], turns := .empty, standing := .empty }

def sampleTurn (id threadID profileName : String) : Turn :=
  { id, threadID, profileName, ns := "team", lockKeys := [], requestID := uuidC,
    runName := "run-" ++ id, runJSON := "run" }

def sampleMessage (id : String) : MessageOf RawMetadata :=
  { id, threadID := "", role := .user, content := "hi", createdAt := 0, sequence := 0,
    metadata := .absent 0 }

theorem sampleDb_orderly : Orderly sampleDb :=
  ⟨fun _ _ found => (nomatch found), fun _ _ _ _ found => (nomatch found)⟩

/-- A call that queues a turn, from its start to its commit. -/
def queues (tid : Nat) (t : Turn) (m : MessageOf RawMetadata) : List (ChatMove Nat) :=
  [.start tid (.queueTurn sampleEnv t m), .acquire tid, .exec tid, .acquire tid, .exec tid,
    .exec tid, .exec tid, .exec tid, .acquire tid, .acquire tid, .exec tid, .exec tid, .acquire tid,
    .acquire tid, .acquire tid, .acquire tid, .acquire tid, .exec tid, .commit tid]

/-- Only turns are queued. -/
def onlyQueues (_ : ChatState Nat) : ChatMove Nat → Bool
  | .start _ (.queueTurn _ _ _) => true
  | .start _ _ => false
  | _ => true

theorem onlyQueues_admitted (st : ChatState Nat) (move : ChatMove Nat)
    (checked : onlyQueues st move = true) : Admitted st move := by
  cases move with
  | start tid op =>
    cases op with
    | queueTurn env t m => trivial
    | _ => cases checked
  | _ => trivial

end Sample

end AnvilAgents.Chat
