import AnvilAgents.Proofs.Chat.Effects

/-! What any sequence of calls leaves in the tables: a transcript in which everything is there once. -/

namespace AnvilAgents.Chat

open Transaction PostgresStore List Table Fallible

section

variable [UUIDs]

/-- A served call, with the tables before and after it. -/
structure Entry where
  call : Call
  before : Database
  after : Database

/-- Calls served one at a time, from the empty tables on. -/
inductive Ran : List Entry → Database → Prop
  | nil : Ran [] .empty
  | serve {log : List Entry} {db : Database} (ran : Ran log db) (call : Call) :
      Ran (log ++ [⟨call, db, (serve call db).2⟩]) (serve call db).2

/-- The messages that a call has appended as a completion of a turn. -/
def contribution (entry : Entry) (id : String) : List Message :=
  if entry.call.completes = some id then
    entry.after.messages.drop entry.before.messages.length
  else []

/-- The messages that completions of a turn have appended over its whole life. -/
def contributed (log : List Entry) (id : String) : List Message :=
  log.flatMap (contribution · id)

/-- A call has changed a message that was there. -/
def Edits (entry : Entry) (id : String) : Prop :=
  ∃ (i : Nat) (old new : Message), entry.before.messages[i]? = some old ∧
    entry.after.messages[i]? = some new ∧ old.id = id ∧ new ≠ old

/-- Messages stay where they are; what changes is the body of the assistant message of a repair. -/
def RepairsOnly (entry : Entry) : Prop :=
  ∀ (i : Nat) (old : Message), entry.before.messages[i]? = some old →
    ∃ new : Message, entry.after.messages[i]? = some new ∧ (new ≠ old →
      (∃ ns original content format,
        entry.call = .repairAssistantReply ns original content format ∧ original.id = old.id) ∧
      old.role = .assistant ∧ new = { old with content := new.content, metadata := new.metadata })

/-- A call has accepted a turn, with the content of a message. -/
def Accepts (entry : Entry) (id content : String) : Prop :=
  ∃ env t m, entry.call = .queueTurn env t m ∧ m.content = content ∧
    entry.before.turns.get id = none ∧ (entry.after.turns.get id).isSome

/-- The transcript after some calls. -/
structure Transcript (log : List Entry) (db : Database) : Prop where
  numbered : Numbered db
  /-- A thread has one turn for each request. -/
  requests : ∀ id id' row row', db.turns.get id = some row → db.turns.get id' = some row' →
    row.threadID = row'.threadID → row.requestID = row'.requestID → id = id'
  /-- A turn names the one user message that it was accepted with. -/
  accepted : ∀ id row, db.turns.get id = some row → ∃ m ∈ db.messages,
    m.id = row.payload.userMessageID ∧ (∀ other ∈ db.messages, other.id = m.id → other = m) ∧
    m.threadID = row.threadID ∧ m.role = .user ∧ ∃ entry ∈ log, Accepts entry id m.content
  /-- A turn is completed with one message, and only once. -/
  completed : ∀ id, (contributed log id).length ≤ 1 ∧ ∀ row, db.turns.get id = some row →
    (row.status.unfinished = false → (contributed log id).length = 1) ∧
    ∀ m ∈ contributed log id, m.threadID = row.threadID
  columns : ∀ id row, db.turns.get id = some row → row.status = row.payload.status
  /-- Only a repair changes a message, and only the content and the metadata of an assistant's. -/
  edits : ∀ entry ∈ log, RepairsOnly entry
  /-- No message is changed twice. -/
  once : log.Pairwise fun entry later => ∀ id, ¬ (Edits entry id ∧ Edits later id)

variable {m : Message} {db db' : Database}

section Messages

omit [UUIDs] in
theorem Numbered.append (numbered : Numbered db) (placed : Placed db m) :
    Numbered (postgres.applyAll db [.insertMessage m]) := by
  intro threadID
  rw [messagesOf_append]
  split
  next same =>
    subst same
    rw [map_append, numbered, length_append, range'_append_1.symm]
    simp [placed.1, Nat.add_comm]
  next => simpa using numbered threadID

variable {added : List Message}

omit [UUIDs] in
theorem Numbered.appendAll (numbered : Numbered db) (placed : PlacedAll db added)
    (after : db'.messages = db.messages ++ added) : Numbered db' := by
  induction added generalizing db with
  | nil =>
    intro threadID
    simpa only [Database.messagesOf, after, append_nil] using numbered threadID
  | cons m added ih =>
    exact ih (numbered.append placed.1) placed.2 (after.trans (append_cons ..))

omit [UUIDs] in
theorem Distinct.appendAll (distinct : Distinct db) (placed : PlacedAll db added)
    (after : db'.messages = db.messages ++ added) : Distinct db' := by
  induction added generalizing db with
  | nil => rwa [Distinct, after, append_nil]
  | cons m added ih =>
    refine ih ?_ placed.2 (after.trans (append_cons ..))
    show ((db.messages ++ [m]).map (·.id)).Nodup
    rw [map_append, nodup_append]
    refine ⟨distinct, by simp, ?_⟩
    simp only [mem_map, map_cons, map_nil, mem_singleton]
    rintro _ ⟨other, member, rfl⟩ _ rfl
    exact placed.1.2 other member

end Messages

variable {id : String} {call : Call}

section Steps

omit [UUIDs] in
theorem request_mem_keys (row : TurnRow) : IndexKey.request row.threadID row.requestID ∈ row.keys := by
  simp [TurnRow.keys]

/-- A thread has one turn for each request. -/
def OneTurnPerRequest (db : Database) : Prop :=
  ∀ id id' row row', db.turns.get id = some row → db.turns.get id' = some row' →
    row.threadID = row'.threadID → row.requestID = row'.requestID → id = id'

section Served

variable {row : TurnRow} (step : Served db call db')

include step

/-- What was written to the turn of an identity, if anything. -/
theorem Served.get (found : db'.turns.get id = some row) :
    db.turns.get id = some row ∨ (TurnStep db db'.messages call row ∧ id = row.id) := by
  rcases step.turns with ⟨same, -⟩ | ⟨new, written, turns⟩
  · exact .inl (same ▸ found)
  · rw [turns] at found
    rcases get_put_cases found with ⟨rfl, rfl⟩ | ⟨-, before⟩
    · exact .inr ⟨written, rfl⟩
    · exact .inl before

/-- A turn stays when something is written. -/
theorem Served.kept (found : db.turns.get id = some row) : ∃ row', db'.turns.get id = some row' := by
  rcases step.turns with ⟨same, -⟩ | ⟨new, -, turns⟩
  · exact ⟨row, same ▸ found⟩
  · rw [turns]
    by_cases written : id = new.id
    · subst written
      exact ⟨new, get_put_self ..⟩
    · exact ⟨row, (get_put_of_ne _ _ written).trans found⟩

theorem Served.oneTurnPerRequest (unique : OneTurnPerRequest db) : OneTurnPerRequest db' := by
  intro id id' row row' found found' thread request
  rcases step.turns with ⟨same, -⟩ | ⟨new, written, turns⟩
  · exact unique id id' row row' (same ▸ found) (same ▸ found') thread request
  rw [turns] at found found'
  cases written with
  | accept env t m t' message user prepared free =>
    -- The request of the new turn is new.
    have fresh : ∀ {id row}, db.turns.get id = some row →
        row.threadID = (newRow t' env.now).threadID →
        row.requestID ≠ (newRow t' env.now).requestID := by
      intro id row found thread request
      have untaken := anyTurn_eq_false.mp (free _ (request_mem_keys _)) id row found
      simp [← thread, ← request, request_mem_keys] at untaken
    rcases get_put_cases found with ⟨rfl, rfl⟩ | ⟨-, before⟩ <;>
      rcases get_put_cases found' with ⟨rfl, rfl⟩ | ⟨-, before'⟩
    · rfl
    · exact absurd request.symm (fresh before' thread.symm)
    · exact absurd request (fresh before thread)
    · exact unique id id' row row' before before' thread request
  | update call old status payload stands =>
    -- The turn that is written keeps its columns.
    have origin : ∀ {id row}, (db.turns.put old.id (old.replaced status payload)).get id = some row →
        ∃ was, db.turns.get id = some was ∧ was.threadID = row.threadID ∧
          was.requestID = row.requestID := by
      intro id row found
      rcases get_put_cases found with ⟨rfl, rfl⟩ | ⟨-, before⟩
      · exact ⟨old, stands, rfl, rfl⟩
      · exact ⟨row, before, rfl, rfl⟩
    obtain ⟨was, before, wasThread, wasRequest⟩ := origin found
    obtain ⟨was', before', wasThread', wasRequest'⟩ := origin found'
    exact unique id id' was was' before before' (wasThread.trans (thread.trans wasThread'.symm))
      (wasRequest.trans (request.trans wasRequest'.symm))

theorem Served.consistent (consistent : db.Consistent) : db'.Consistent := by
  intro id row found
  rcases step.get found with before | ⟨written, rfl⟩
  · exact consistent id row before
  · cases written with
    | accept => exact ⟨rfl, newRow_consistent _ _⟩
    | update call old status payload stands same repeats =>
      subst repeats
      exact ⟨rfl, (consistent _ old stands).2.update same⟩

end Served

omit [UUIDs] in
/-- Each message keeps its place, its identity and its author. -/
theorem repairedIn_keeps {old m : Message} (repaired : Message) (distinct : Distinct db)
    (present : old ∈ db.messages) (member : m ∈ db.messages) :
    let new := Message.withBody old repaired
    let kept := if m.id = new.id then new else m
    kept.id = m.id ∧ kept.threadID = m.threadID ∧ kept.sequence = m.sequence ∧
      kept.role = m.role := by
  by_cases same : m.id = old.id
  · -- The message is the repaired one.
    obtain rfl := distinct.eq present member same
    simp [Message.withBody]
  · have other : m.id ≠ (Message.withBody old repaired).id := same
    simp [other]

theorem MessageStep.numbered (step : MessageStep db call db'.messages)
    (numbered : Numbered db) (distinct : Distinct db) : Numbered db' := by
  generalize after : db'.messages = messages at step
  cases step with
  | append call added placed => exact numbered.appendAll placed after
  | repair ns original content format repaired old valid present sameID role metadata =>
    intro threadID
    simp only [Database.messagesOf, after, repairedIn, filter_map, map_map,
      length_map]
    -- The same messages are in the thread, under the same numbers.
    have within : db.messages.filter ((fun m => decide (m.threadID = threadID)) ∘ fun m =>
        if m.id = (Message.withBody old repaired).id then Message.withBody old repaired else m) =
        db.messagesOf threadID := by
      refine filter_congr fun m member => ?_
      have keeps := (repairedIn_keeps repaired distinct present member).2.1
      simp only [Function.comp_apply, keeps]
    rw [within, ← numbered threadID]
    refine map_congr_left fun m member => ?_
    exact (repairedIn_keeps repaired distinct present (mem_of_mem_filter member)).2.2.1

theorem MessageStep.distinct (step : MessageStep db call db'.messages)
    (distinct : Distinct db) : Distinct db' := by
  generalize after : db'.messages = messages at step
  cases step with
  | append call added placed => exact distinct.appendAll placed after
  | repair ns original content format repaired old valid present sameID role metadata =>
    rw [Distinct, after, repairedIn, map_map]
    rw [map_congr_left (g := (·.id))]
    · exact distinct
    · exact fun m member => (repairedIn_keeps repaired distinct present member).1

/-- What becomes of a message: it stays, or its body is repaired. -/
theorem MessageStep.message {messages : List Message} {i : Nat}
    (step : MessageStep db call messages) (distinct : Distinct db)
    (found : db.messages[i]? = some m) :
    messages[i]? = some m ∨ ∃ ns original content format repaired,
      call = .repairAssistantReply ns original content format ∧
      repairedAssistant original content format = .ok repaired ∧ m.id = original.id ∧
      m.role = .assistant ∧ m.metadata = original.metadata ∧
      messages[i]? = some (Message.withBody m repaired) := by
  cases step with
  | append call added placed =>
    left
    rw [List.getElem?_append_left (List.getElem?_eq_some_iff.mp found).1]
    exact found
  | repair ns original content format repaired old valid present sameID role metadata =>
    rw [repairedIn, getElem?_map, found, Option.map_some]
    by_cases same : m.id = old.id
    · obtain rfl := distinct.eq present (mem_of_getElem? found) same
      refine .inr ⟨ns, original, content, format, repaired, rfl, valid, sameID, role, metadata, ?_⟩
      rw [if_pos (show m.id = (Message.withBody m repaired).id from rfl)]
    · left
      rw [if_neg (show ¬ m.id = (Message.withBody old repaired).id from same)]

end Steps

section Runs

variable {log : List Entry}

/-- A turn that has ended was completed with one message of its thread, and no other turn was. -/
def Counted (log : List Entry) (db : Database) : Prop :=
  ∀ id, (∀ row, db.turns.get id = some row → row.status.unfinished = false →
      ∃ m, contributed log id = [m] ∧ m.threadID = row.threadID) ∧
    ((∀ row, db.turns.get id = some row → row.status.unfinished = true) → contributed log id = [])

/-- A message that was changed is there, and it says that it was. -/
def Marked (log : List Entry) (db : Database) : Prop :=
  ∀ entry ∈ log, ∀ id, Edits entry id →
    ∃ m ∈ db.messages, m.id = id ∧ m.metadata.isNil "replyFormat" = false

theorem contributed_append (log : List Entry) (entry : Entry) (id : String) :
    contributed (log ++ [entry]) id = contributed log id ++ contribution entry id := by
  simp [contributed]

variable {entry : Entry}

/-- A call that completes nothing contributes nothing. -/
theorem contribution_of_none (none : entry.call.completes = none) (id : String) :
    contribution entry id = [] := by
  simp [contribution, none]

omit [UUIDs] in
/-- A repaired message says so. -/
theorem repaired_marked {original repaired m : Message} {content format : String}
    (valid : repairedAssistant original content format = .ok repaired) :
    (Message.withBody m repaired).metadata.isNil "replyFormat" = false ∧
      original.metadata.isNil "replyFormat" = true := by
  obtain ⟨fits, valid⟩ := of_check_ok valid
  obtain ⟨-, ⟨⟩⟩ := of_check_ok valid
  simp only [not_or] at fits
  refine ⟨?_, by simpa using fits.2.2.2.2.2.2.2⟩
  simp [Message.withBody, Metadata.isNil, Metadata.get_set_self]

/-- A turn names the user message that it was accepted with. -/
def Answered (log : List Entry) (db : Database) : Prop :=
  ∀ id row, db.turns.get id = some row → ∃ m ∈ db.messages, m.id = row.payload.userMessageID ∧
    m.threadID = row.threadID ∧ m.role = .user ∧ ∃ entry ∈ log, Accepts entry id m.content

section Distinct

variable (did : MessageStep db call db'.messages) (distinct : Distinct db)

include did distinct

/-- Changing a message is repairing it. -/
theorem edits_repair (edits : Edits ⟨call, db, db'⟩ id) :
    (∃ m ∈ db.messages, m.id = id ∧ m.metadata.isNil "replyFormat" = true) ∧
      ∃ m ∈ db'.messages, m.id = id ∧ m.metadata.isNil "replyFormat" = false := by
  obtain ⟨i, old, new, before, after, sameID, differs⟩ := edits
  rcases did.message distinct before with
    same | ⟨ns, original, content, format, repaired, -, valid, -, -, metadata, body⟩
  · exact absurd (Option.some.inj (after.symm.trans same)) differs
  · obtain ⟨marked, unmarked⟩ := repaired_marked (m := old) valid
    refine ⟨⟨old, mem_of_getElem? before, sameID, metadata ▸ unmarked⟩, ?_⟩
    exact ⟨_, mem_of_getElem? body, sameID, marked⟩

/-- Whatever happens, a message that was changed stays marked. -/
theorem Marked.step (marked : Marked log db) : Marked (log ++ [⟨call, db, db'⟩]) db' := by
  intro entry member id edits
  rcases mem_append.mp member with earlier | now
  · obtain ⟨m, present, sameID, mark⟩ := marked entry earlier id edits
    obtain ⟨i, found⟩ := mem_iff_getElem?.mp present
    rcases did.message distinct found with
      same | ⟨ns, original, content, format, repaired, -, valid, -, -, metadata, body⟩
    · exact ⟨m, mem_of_getElem? same, sameID, mark⟩
    · exact ⟨_, mem_of_getElem? body, sameID, (repaired_marked valid).1⟩
  · obtain rfl := mem_singleton.mp now
    exact (edits_repair did distinct edits).2

/-- A message is not changed again. -/
theorem Marked.once (marked : Marked log db) (member : entry ∈ log) (id : String) :
    ¬ (Edits entry id ∧ Edits ⟨call, db, db'⟩ id) := by
  rintro ⟨earlier, now⟩
  obtain ⟨m, present, sameID, mark⟩ := marked entry member id earlier
  obtain ⟨⟨m', present', sameID', unmarked⟩, -⟩ := edits_repair did distinct now
  obtain rfl := distinct.eq present present' (sameID'.trans sameID.symm)
  cases mark.symm.trans unmarked

end Distinct

theorem Answered.step (answered : Answered log db) (tidy : Tidy db) (step : Served db call db') :
    Answered (log ++ [⟨call, db, db'⟩]) db' := by
  -- A user's message is not repaired.
  have stays : ∀ m ∈ db.messages, m.role = .user → m ∈ db'.messages := by
    intro m present user
    obtain ⟨i, found⟩ := mem_iff_getElem?.mp present
    rcases step.messages.message tidy.distinct found with
      same | ⟨_, _, _, _, _, -, -, -, assistant, -⟩
    · exact mem_of_getElem? same
    · cases user.symm.trans assistant
  have earlier : ∀ id (old : TurnRow), db.turns.get id = some old →
      ∃ m ∈ db'.messages, m.id = old.payload.userMessageID ∧ m.threadID = old.threadID ∧
        m.role = .user ∧ ∃ entry ∈ log ++ [⟨call, db, db'⟩], Accepts entry id m.content := by
    intro id old found
    obtain ⟨m, present, sameID, thread, user, entry, member, accepts⟩ := answered id old found
    exact ⟨m, stays m present user, sameID, thread, user, entry, mem_append_left _ member,
      accepts⟩
  intro id row found
  rcases step.get found with before | ⟨written, rfl⟩
  · exact earlier id row before
  · cases written with
    | accept env t m t' message user prepared free asks sameID thread role content =>
      refine ⟨user, asks, sameID, thread, role, _, mem_append_right _ (.head _), env, t, m, rfl,
        content, absent_of_free tidy.consistent free, ?_⟩
      exact Option.isSome_iff_exists.mpr ⟨_, found⟩
    | update call old status payload stands same =>
      obtain ⟨m, present, sameID, thread, user, accepted⟩ := earlier old.id old stands
      exact ⟨m, present, sameID.trans same.userMessageID, thread, user, accepted⟩

theorem Counted.step (counted : Counted log db) (consistent : db.Consistent)
    (step : Served db call db') : Counted (log ++ [⟨call, db, db'⟩]) db' := by
  rcases step.turns with ⟨same, why⟩ | ⟨row, written, turns⟩
  · intro id
    have none : contribution ⟨call, db, db'⟩ id = [] := by
      rcases why with none | messages
      · exact contribution_of_none none id
      · simp [contribution, messages]
    rw [contributed_append, none, append_nil, same]
    exact counted id
  -- All calls but completions leave every turn as unfinished as it was.
  have others (none : call.completes = none) (unfinished : row.status.unfinished = true)
      (before : ∀ was, db.turns.get row.id = some was → was.status.unfinished = true) :
      Counted (log ++ [⟨call, db, db'⟩]) db' := by
    intro id
    rw [contributed_append, contribution_of_none none, append_nil, turns]
    by_cases mine : id = row.id
    · subst mine
      refine ⟨fun new found ended => ?_, fun _ => (counted row.id).2 before⟩
      obtain rfl := Option.some.inj ((get_put_self ..).symm.trans found)
      cases ended.symm.trans unfinished
    · rw [get_put_of_ne _ _ mine]
      exact counted id
  cases written with
  | accept env t m t' message user prepared free =>
    refine others rfl ?_ fun was stood => ?_
    · obtain ⟨rfl, -⟩ := prepareTurn_ok prepared
      show (if t.deferred then TurnStatus.waiting else .queued).unfinished = true
      split <;> rfl
    · cases (absent_of_free consistent free).symm.trans stood
  | update call old status payload stands same repeats running left attempt ends =>
    have before : ∀ was, db.turns.get old.id = some was → was.status.unfinished = true := by
      intro was stood
      obtain rfl := Option.some.inj (stands.symm.trans stood)
      exact running
    rcases ends with ⟨unfinished, none⟩ | ⟨ended, completes, m, messages, thread⟩
    · exact others none unfinished before
    intro id
    rw [contributed_append, turns]
    by_cases mine : id = old.id
    · subst mine
      -- Nothing was contributed before, since the turn had not ended.
      have now : contribution ⟨call, db, db'⟩ old.id = [m] := by
        simp [contribution, completes, messages]
      rw [(counted old.id).2 before, now]
      refine ⟨fun new found _ => ⟨m, rfl, ?_⟩, fun all => ?_⟩
      · obtain rfl := Option.some.inj ((get_put_self ..).symm.trans found)
        exact thread
      · cases ended.symm.trans (all _ (get_put_self ..))
    · have none : contribution ⟨call, db, db'⟩ id = [] := by
        simp [contribution, completes, Ne.symm mine]
      rw [none, append_nil, get_put_of_ne _ _ (show id ≠ (old.replaced status payload).id from mine)]
      exact counted id

/-- What holds after every call. -/
structure Sane (log : List Entry) (db : Database) : Prop extends Tidy db where
  requests : OneTurnPerRequest db
  answered : Answered log db
  counted : Counted log db
  marked : Marked log db
  edits : ∀ entry ∈ log, RepairsOnly entry
  once : log.Pairwise fun entry later => ∀ id, ¬ (Edits entry id ∧ Edits later id)

theorem Sane.start : Sane [] .empty where
  consistent _ _ found := nomatch found
  keyed _ _ found := nomatch found
  numbered _ := rfl
  distinct := .nil
  requests _ _ _ _ found := nomatch found
  answered _ _ found := nomatch found
  counted _ := ⟨fun _ found => (nomatch found), fun _ => rfl⟩
  marked _ member := nomatch member
  edits _ member := nomatch member
  once := .nil

theorem Sane.step (sane : Sane log db) (step : Served db call db') :
    Sane (log ++ [⟨call, db, db'⟩]) db' := by
  have messages := step.messages
  refine ⟨⟨step.consistent sane.consistent, step.keyed,
      messages.numbered sane.numbered sane.distinct, messages.distinct sane.distinct⟩,
    step.oneTurnPerRequest sane.requests, sane.answered.step sane.toTidy step,
    sane.counted.step sane.consistent step, sane.marked.step messages sane.distinct,
    fun entry member i old found => ?_, ?_⟩
  · rcases mem_append.mp member with earlier | now
    · exact sane.edits entry earlier i old found
    · obtain rfl := mem_singleton.mp now
      rcases messages.message sane.distinct found with
        same | ⟨ns, original, content, format, repaired, called, -, sameID, role, -, body⟩
      · exact ⟨old, same, fun differs => absurd rfl differs⟩
      · exact ⟨_, body, fun _ => ⟨⟨ns, original, content, format, called, sameID.symm⟩, role, rfl⟩⟩
  · rw [pairwise_append]
    refine ⟨sane.once, pairwise_singleton _ _, fun entry member later now => ?_⟩
    obtain rfl := mem_singleton.mp now
    exact sane.marked.once messages sane.distinct member

theorem sane_of_ran (ran : Ran log db) : Sane log db := by
  induction ran with
  | nil => exact .start
  | serve ran call ih => exact ih.step (served_alone ih.toTidy call)

/-- The log of some calls, and the tables after them. -/
def served (calls : List Call) : List Entry × Database :=
  calls.foldl (fun (log, db) call =>
    (log ++ [⟨call, db, (serve call db).2⟩], (serve call db).2)) ([], .empty)

theorem served_ran (calls : List Call) : Ran (served calls).1 (served calls).2 := by
  induction calls using reverseRecOn with
  | nil => exact .nil
  | append_singleton calls call ih =>
    rw [served, foldl_append]
    exact ih.serve call

end Runs

end

open Sample

/-- A thread with one completed turn. -/
def sampleCalls : List Call :=
  [.createThread sampleEnv { sampleThread uuidA with metadata := .absent 0 },
    .queueTurn sampleEnv (sampleTurn "t1" uuidA "coder") (sampleMessage uuidA),
    .completeTurn sampleEnv
      { sampleTurn "t1" uuidA "coder" with status := .ended "succeeded" (by decide) }
      { sampleMessage uuidB with role := .assistant }]

end AnvilAgents.Chat
