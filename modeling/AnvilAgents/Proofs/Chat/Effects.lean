import AnvilAgents.Chat.Calls
import AnvilAgents.Proofs.Chat.Exclusion

/-! What each call of the Postgres store does to the tables when it is served alone. -/

namespace AnvilAgents.Chat

open Transaction PostgresStore Engine List Table Fallible

section Outcomes

variable {db : Database} {α β : Type} {rest : α → Tx β}

/-- What a transaction returns and writes when it runs alone, unless it fails. -/
abbrev outcome (db : Database) (p : Tx α) : Except ChatError (α × List Change) :=
  postgres.effect p.run db

/-- The outcome of what is left, behind what is written. -/
abbrev afterwards (changes : List Change) :
    Except ChatError (β × List Change) → Except ChatError (β × List Change) :=
  Except.map fun (value, later) => (value, changes ++ later)

variable {changes : List Change}

theorem outcome_ok {p : Tx α} {value : α} (ran : outcome db p = .ok (value, changes)) :
    outcome db (p >>= rest) =
      afterwards changes (outcome (postgres.applyAll db changes) (rest value)) := by
  rw [outcome] at ran ⊢
  rw [effect_bind, ran]
  rfl

theorem outcome_error {p : Tx α} {err : ChatError} (ran : outcome db p = .error err) :
    outcome db (p >>= rest) = .error err := by
  rw [outcome] at ran ⊢
  rw [effect_bind, ran]
  rfl

theorem outcome_sql (stmt : Sql) : outcome db (sql stmt) = stmt.exec db := by
  show postgres.effect (.call stmt fun reply => .ret (.ok reply)) db = _
  simp only [effect, show postgres.exec stmt db = stmt.exec db from rfl]
  cases stmt.exec db with
  | error err => rfl
  | ok done => simp [Except.map]

theorem serve_eq [UUIDs] (call : Call) (db : Database) :
    PostgresStore.serve call db =
      match outcome db call.tx with
      | .ok (value, changes) => (.ok value, postgres.applyAll db changes)
      | .error err => (.error err, db) := by
  rw [PostgresStore.serve, run, runFrom_eq, outcome]
  cases postgres.effect call.tx.run db <;> rfl

end Outcomes

section Ensures

variable {db : Database} {α β : Type} {post : α → Database → Prop}

/-- What a transaction that runs alone returns and leaves, unless it fails. -/
def Ensures (db : Database) (p : Tx α) (post : α → Database → Prop) : Prop :=
  ∀ value changes, outcome db p = .ok (value, changes) → post value (postgres.applyAll db changes)

@[simp]
theorem ensures_pure {value : α} : Ensures db (pure value) post ↔ post value db := by
  constructor
  · exact fun ensures => ensures value [] rfl
  · rintro holds _ _ ⟨⟩
    exact holds

@[simp]
theorem ensures_throw (err : ChatError) : Ensures db (throw err) post :=
  fun _ _ ran => nomatch ran

@[simp]
theorem ensures_bind {p : Tx β} {rest : β → Tx α} :
    Ensures db (p >>= rest) post ↔ Ensures db p fun value db => Ensures db (rest value) post := by
  constructor
  · intro holds between first ran value later ran'
    rw [← applyAll_append]
    exact holds value _ (by rw [outcome_ok ran, ran']; rfl)
  · intro holds value changes ran
    cases first : outcome db p with
    | error err =>
      rw [outcome_error first] at ran
      cases ran
    | ok done =>
      rw [outcome_ok first] at ran
      cases second : outcome (postgres.applyAll db done.2) (rest done.1) with
      | error err =>
        rw [second] at ran
        cases ran
      | ok more =>
        rw [second] at ran
        cases ran
        rw [applyAll_append]
        exact holds _ _ first _ _ second

@[simp]
theorem ensures_sql {s : Sql} {post : Sql.Reply s → Database → Prop} :
    Ensures db (sql s) post ↔ ∀ reply changes, s.exec db = .ok (reply, changes) →
      post reply (postgres.applyAll db changes) := by
  simp only [Ensures, outcome_sql]

@[simp]
theorem ensures_check {value : Except ChatError α} :
    Ensures db (check value) post ↔ ∀ v, value = .ok v → post v db := by
  cases value with
  | ok v =>
    refine ensures_pure.trans ⟨fun holds w same => ?_, fun holds => holds v rfl⟩
    exact Except.ok.inj same ▸ holds
  | error err => exact ⟨fun _ _ same => (nomatch same), fun _ _ _ ran => (nomatch ran)⟩

@[simp]
theorem ensures_require {err : ChatError} {found : Option α} :
    Ensures db (require err found) post ↔ ∀ v, found = some v → post v db := by
  cases found with
  | some v =>
    refine ensures_pure.trans ⟨fun holds w same => ?_, fun holds => holds v rfl⟩
    exact Option.some.inj same ▸ holds
  | none => exact ⟨fun _ _ same => (nomatch same), fun _ => ensures_throw err⟩

theorem ensures_ite {cond : Prop} [Decidable cond] {p q : Tx α} (yes : cond → Ensures db p post)
    (no : ¬ cond → Ensures db q post) : Ensures db (if cond then p else q) post := by
  split
  next holds => exact yes holds
  next fails => exact no fails

/-- A statement that only reads. -/
theorem ensures_read {s : Sql} {post : Sql.Reply s → Database → Prop} (answer : Sql.Reply s)
    (reads : s.exec db = .ok (answer, [])) (after : post answer db) : Ensures db (sql s) post := by
  refine ensures_sql.mpr fun reply changes ran => ?_
  rw [reads] at ran
  cases ran
  exact after

theorem ensures_lockAll {names : List String} {post : Unit → Database → Prop} (after : post () db) :
    Ensures db (lockAll names) post := by
  induction names with
  | nil => exact ensures_pure.mpr after
  | cons name names ih =>
    rw [lockAll, ensures_bind]
    exact ensures_read () rfl ih

theorem ensures_getThread [UUIDs] {ns id : String} {post : Thread → Database → Prop}
    (after : ∀ thread, post thread db) : Ensures db (getThread ns id) post := by
  simp only [getThread, ensures_bind, ensures_check]
  rintro ⟨ns', id'⟩ -
  exact ensures_read _ rfl (ensures_require.mpr fun thread _ => after thread)

end Ensures

/-- The messages of each thread are numbered from one on. -/
def Numbered (db : Database) : Prop :=
  ∀ threadID, (db.messagesOf threadID).map (·.sequence) =
    range' 1 (db.messagesOf threadID).length

/-- The identities of the messages are distinct. -/
def Distinct (db : Database) : Prop :=
  (db.messages.map (·.id)).Nodup

/-- What holds of the tables after every call. -/
structure Tidy (db : Database) : Prop where
  consistent : db.Consistent
  keyed : Keyed db
  numbered : Numbered db
  distinct : Distinct db

variable {db db' : Database}

section Messages

variable {m : Message} {changes : List Change}

/-- The message comes next in its thread, under an identity of its own. -/
def Placed (db : Database) (m : Message) : Prop :=
  m.sequence = (db.messagesOf m.threadID).length + 1 ∧ ∀ other ∈ db.messages, other.id ≠ m.id

/-- Each of the messages comes next when its turn comes. -/
def PlacedAll : Database → List Message → Prop
  | _, [] => True
  | db, m :: messages => Placed db m ∧ PlacedAll (postgres.applyAll db [.insertMessage m]) messages

/-- The largest number is the number of messages. -/
theorem Numbered.maxSequence (numbered : Numbered db) (threadID : String) :
    db.maxSequence threadID = (db.messagesOf threadID).length := by
  rw [Database.maxSequence, numbered threadID]
  have largest : ∀ n start, (range' start n).foldr max 0 = if n = 0 then 0 else start + n - 1 := by
    intro n
    induction n with
    | zero => exact fun _ => rfl
    | succ n ih =>
      intro start
      rw [range'_succ, foldr_cons, ih]
      split <;> simp_all
  rw [largest]
  split <;> omega

theorem messagesOf_append (db : Database) (m : Message) (threadID : String) :
    (postgres.applyAll db [.insertMessage m]).messagesOf threadID =
      db.messagesOf threadID ++ if m.threadID = threadID then [m] else [] := by
  show (db.messages ++ [m]).filter _ = _
  rw [filter_append]
  congr 1
  split <;> simp_all

/-- Messages were appended in their places, and nothing else has changed but titles and times. -/
structure Appends (db : Database) (added : List Message) (db' : Database) : Prop where
  messages : db'.messages = db.messages ++ added
  placed : PlacedAll db added
  turns : db'.turns = db.turns
  keyed : Keyed db'

theorem Appends.cons {added : List Message} (placed : Placed db m)
    (rest : Appends (postgres.applyAll db [.insertMessage m]) added db') :
    Appends db (m :: added) db' :=
  ⟨rest.messages.trans (append_assoc ..), ⟨placed, rest.placed⟩, rest.turns, rest.keyed⟩

theorem exec_touchThread {reply : Unit} {id title : String} {updatedAt : Time} (keyed : Keyed db)
    (ran : (Sql.touchThread id title updatedAt).exec db = .ok (reply, changes)) :
    Appends db [] (postgres.applyAll db changes) := by
  rcases exec_writes ran with rfl | ⟨change, rfl, writes⟩
  · exact ⟨(append_nil _).symm, trivial, rfl, keyed⟩
  · cases writes with
    | touchThread id title updatedAt old found =>
      obtain ⟨same, trimmed⟩ := keyed id old found
      refine ⟨(append_nil _).symm, trivial, rfl, keyed.applyAll fun change member => ?_⟩
      obtain rfl := mem_singleton.mp member
      exact same.symm ▸ trimmed

variable [UUIDs] {reply : Unit} {thread : Thread} {env : Env} {index last : Nat}

/-- A message with the next number of its thread is in place when it can be inserted. -/
theorem exec_insertMessage_placed {incoming : MessageOf RawMetadata}
    (ran : (Sql.insertMessage m).exec db = .ok (reply, changes))
    (trimmed : Text.trimSpace thread.id = thread.id)
    (count : (db.messagesOf thread.id).length = last)
    (normalized : normalizeMessage { incoming with threadID := thread.id, sequence := last + 1 }
      env.now (env.newUUID index) = .ok m) :
    changes = [.insertMessage m] ∧ m.threadID = thread.id ∧ Placed db m := by
  obtain ⟨threadID, -, -, sequence, -⟩ := normalizeMessage_ok normalized
  have own : m.threadID = thread.id := threadID.trans trimmed
  obtain ⟨only, free, -⟩ := exec_insertMessage ran
  refine ⟨only, own, by rw [own, count]; exact sequence, fun other member same => ?_⟩
  have untaken := free (.message m.id) (.head _)
  rw [Database.messageKeyTaken, any_eq_false] at untaken
  exact untaken other member (by simp [messageKeys, same])

/-- A turn's message gets the next number of its thread. -/
theorem ensures_insertTurnMessage {m : MessageOf RawMetadata} (tidy : Tidy db)
    (trimmed : Text.trimSpace thread.id = thread.id) :
    Ensures db (insertTurnMessage env thread m) fun stored db' => Appends db [stored] db' ∧
      normalizeMessage { m with threadID := thread.id, sequence := db.maxSequence thread.id + 1 }
        env.now (env.newUUID 1) = .ok stored := by
  simp only [insertTurnMessage, ensures_bind]
  refine ensures_read _ rfl (ensures_check.mpr fun stored normalized => ?_)
  refine ensures_sql.mpr fun _ _ inserted => ?_
  obtain ⟨rfl, -, placed⟩ := exec_insertMessage_placed inserted trimmed
    (tidy.numbered.maxSequence _).symm normalized
  refine ensures_sql.mpr fun _ _ touched => ensures_pure.mpr ⟨.cons placed ?_, normalized⟩
  exact exec_touchThread tidy.keyed touched

theorem ensures_appendAll {messages : List (MessageOf RawMetadata)} (keyed : Keyed db)
    (trimmed : Text.trimSpace thread.id = thread.id)
    (count : (db.messagesOf thread.id).length = last) :
    Ensures db (appendAll env thread last index messages) fun (stored, _) db' =>
      Appends db stored db' := by
  -- Induction on the batch: each message leaves a thread that is one longer.
  induction messages generalizing db thread last index with
  | nil => exact ensures_pure.mpr ⟨(append_nil _).symm, trivial, rfl, keyed⟩
  | cons incoming messages ih =>
    simp only [appendAll, ensures_bind, ensures_check]
    intro m normalized
    refine ensures_sql.mpr fun _ _ inserted => ?_
    obtain ⟨rfl, own, placed⟩ := exec_insertMessage_placed inserted trimmed count normalized
    intro result changes ran
    refine ensures_pure.mpr (.cons placed (ih ?_ ?_ ?_ result changes ran))
    · exact keyed
    · exact trimmed
    · rw [messagesOf_append, if_pos own, length_append, count]
      rfl

end Messages

section Steps

variable [UUIDs]

/-- The turn that a call is to complete. -/
def Call.completes : Call → Option String
  | .completeTurn _ t _ => some t.id
  | _ => none

/-- A snapshot of a turn is of another attempt than the stored one. -/
def Stale (stored snapshot : Turn) : Prop :=
  stored.runName ≠ snapshot.runName ∨ stored.retryCount ≠ snapshot.retryCount ∨
    (snapshot.runUID ≠ "" ∧ snapshot.runUID ≠ stored.runUID)

/-- A call comes with a snapshot of another attempt than the stored one. -/
def StaleCall (db : Database) : Call → Prop
  | .retryTurn _ expected _ =>
    ∃ row, db.turns.get expected.id = some row ∧ Stale row.payload expected
  | .completeTurn _ t _ => ∃ row, db.turns.get t.id = some row ∧ Stale row.payload t
  -- The run that is to be recorded is not part of the snapshot.
  | .recordRun t _ => ∃ row, db.turns.get t.id = some row ∧
      (row.payload.runName ≠ t.runName ∨ row.payload.retryCount ≠ t.retryCount)
  | _ => False

/-- What a repair makes of the messages. -/
def repairedIn (messages : List Message) (new : Message) : List Message :=
  messages.map fun m => if m.id = new.id then new else m

/-- The body of a message replaced. -/
def Message.withBody (m body : Message) : Message :=
  { m with content := body.content, metadata := body.metadata }

/-- What a call does to the messages: it appends some in their places, or it repairs one. -/
inductive MessageStep (db : Database) : Call → List Message → Prop
  | append (call : Call) (added : List Message) (placed : PlacedAll db added) :
      MessageStep db call (db.messages ++ added)
  | repair (ns : String) (original : Message) (content format : String) (repaired old : Message)
      (valid : repairedAssistant original content format = .ok repaired)
      (present : old ∈ db.messages) (sameID : old.id = original.id) (role : old.role = .assistant)
      (metadata : old.metadata = original.metadata) :
      MessageStep db (.repairAssistantReply ns original content format)
        (repairedIn db.messages (Message.withBody old repaired))

/-- A turn goes on with the same attempt, whose run may have become known. -/
structure SameAttempt (old new : Turn) : Prop where
  runName : new.runName = old.runName
  retryCount : new.retryCount = old.retryCount
  attempts : new.attempts = old.attempts
  runUID : old.runUID ≠ "" → new.runUID = old.runUID

/-- A turn goes on with another attempt, and keeps a record of the one before. -/
structure NextAttempt (old new : Turn) : Prop where
  retryCount : new.retryCount = old.retryCount + 1
  bound : old.retryCount < maxTurnRetries
  attempts : ∃ error completedAt,
    new.attempts = old.attempts ++ [⟨old.runName, old.runUID, error, completedAt⟩]

/-- A turn that a call writes and leaves with these messages: it accepts, advances or ends it. -/
inductive TurnStep (db : Database) (messages : List Message) : Call → TurnRow → Prop
  | accept (env : Env) (t : Turn) (m : MessageOf RawMetadata) (t' : Turn) (message user : Message)
      (prepared : prepareTurn t m env = .ok (t', message))
      (free : ∀ key ∈ (newRow t' env.now).keys, db.turnKeyTaken none key = false)
      (asks : user ∈ messages) (sameID : user.id = t'.userMessageID)
      (thread : user.threadID = t'.threadID) (role : user.role = .user)
      (content : m.content = user.content) :
      TurnStep db messages (.queueTurn env t m) (newRow t' env.now)
  | update (call : Call) (old : TurnRow) (status : TurnStatus) (payload : Turn)
      (found : db.turns.get old.id = some old) (same : old.payload.Same payload)
      (repeats : payload.status = status) (running : old.status.unfinished = true)
      (left : status ≠ .waiting)
      (attempt : SameAttempt old.payload payload ∨ NextAttempt old.payload payload)
      -- Only a completion ends a turn, the one it is given, and with one message.
      (ends : (status.unfinished = true ∧ call.completes = none) ∨
        (status.unfinished = false ∧ call.completes = some old.id ∧
          ∃ m : Message, messages = db.messages ++ [m] ∧ m.threadID = old.threadID)) :
      TurnStep db messages call (old.replaced status payload)

/-- What a call has done to the tables. -/
structure Served (db : Database) (call : Call) (db' : Database) : Prop where
  messages : MessageStep db call db'.messages
  turns : (db'.turns = db.turns ∧ (call.completes = none ∨ db'.messages = db.messages)) ∨
    ∃ row, TurnStep db db'.messages call row ∧ db'.turns = db.turns.put row.id row
  keyed : Keyed db'
  current : StaleCall db call → db' = db

omit [UUIDs] in
/-- A retry that is accepted is the next attempt of the turn. -/
theorem nextAttempt_of_prepared {old expected next : Turn} {retry : TurnRetry} {now : Time}
    (prepared : prepareTurnRetry old expected retry now = .ok next) : NextAttempt old next := by
  obtain ⟨-, prepared⟩ := of_check_ok prepared
  obtain ⟨fits, ⟨⟩⟩ := of_check_ok prepared
  simp only [ge_iff_le, Bool.or_eq_true, decide_eq_true_eq, not_or, not_le] at fits
  exact ⟨rfl, fits.1.1.1.1.1, retry.reason, now, rfl⟩

omit [UUIDs] in
theorem not_stale {stored snapshot : Turn} (same : sameTurnAttempt stored snapshot = true) :
    ¬ Stale stored snapshot := by
  simp only [sameTurnAttempt, Bool.and_eq_true, Bool.or_eq_true, decide_eq_true_eq] at same
  obtain ⟨⟨⟨-, runName⟩, retryCount⟩, runUID⟩ := same
  rintro (other | other | ⟨given, other⟩)
  · exact other runName
  · exact other retryCount
  · exact other (runUID.resolve_left given).symm

omit [UUIDs] in
theorem Distinct.eq {m other : Message} (distinct : Distinct db) (present : m ∈ db.messages)
    (found : other ∈ db.messages) (same : other.id = m.id) : other = m :=
  inj_on_of_nodup_map distinct found present same

omit [UUIDs] in
theorem thread_keyed {ns id : String} {thread : Thread} (keyed : Keyed db)
    (found : db.thread ns id = some thread) :
    thread.id = id ∧ Text.trimSpace thread.id = thread.id := by
  obtain ⟨same, trimmed⟩ := keyed id thread (Option.filter_eq_some_iff.mp found).1
  exact ⟨same, same.symm ▸ trimmed⟩

theorem unchanged (db : Database) (call : Call) : MessageStep db call db.messages :=
  append_nil db.messages ▸ .append call [] trivial

variable {env : Env} {t : Turn} {m : MessageOf RawMetadata} (tidy : Tidy db)

include tidy

omit [UUIDs] in
theorem Tidy.own {id : String} {row : TurnRow} (found : db.turns.get id = some row) :
    db.turns.get row.id = some row := by
  rw [(tidy.consistent id row found).1]
  exact found

/-- Reads, repeated requests, and whatever finds nothing to do. -/
theorem Served.nothing (call : Call) : Served db call db :=
  ⟨unchanged db call, .inl ⟨rfl, .inr rfl⟩, tidy.keyed, fun _ => rfl⟩

/-- A turn was written, and nothing else. -/
theorem Served.update {call : Call} {row : TurnRow} (step : TurnStep db db.messages call row)
    (current : ¬ StaleCall db call) : Served db call (postgres.applyAll db [.updateTurn row]) :=
  ⟨unchanged db call, .inr ⟨row, step, rfl⟩, tidy.keyed, fun stale => absurd stale current⟩

theorem createThread_served {thread : ThreadOf RawMetadata} :
    Ensures db (createThread env thread) fun _ => Served db (.createThread env thread) := by
  simp only [createThread, ensures_bind, ensures_check]
  intro stored normalized
  refine ensures_sql.mpr fun _ _ inserted => ensures_pure.mpr ?_
  obtain ⟨rfl, -⟩ := exec_insertThread inserted
  refine ⟨unchanged db _, .inl ⟨rfl, .inl rfl⟩, tidy.keyed.applyAll ?_, False.elim⟩
  simpa [Change.keyed] using (normalizeThread_valid normalized).2

theorem ensureStandingThread_served {seed : ThreadOf RawMetadata} :
    Ensures db (ensureStandingThread env seed) fun _ =>
      Served db (.ensureStandingThread env seed) := by
  simp only [ensureStandingThread, ensures_bind, ensures_check]
  intro stored normalized
  refine ensures_ite (fun _ => ensures_throw _) fun _ => ?_
  simp only [ensures_bind]
  refine ensures_read () rfl (ensures_read _ rfl ?_)
  split
  next => exact ensures_pure.mpr (.nothing tidy _)
  rw [ensures_bind]
  refine ensures_read _ rfl ?_
  split
  next =>
    refine ensures_bind.mpr (ensures_sql.mpr fun _ _ pointed => ensures_pure.mpr ?_)
    obtain ⟨rfl, -⟩ := exec_insertStanding pointed
    exact ⟨unchanged db _, .inl ⟨rfl, .inl rfl⟩, tidy.keyed, False.elim⟩
  simp only [ensures_bind]
  refine ensures_sql.mpr fun _ _ inserted => ensures_sql.mpr fun _ _ pointed => ensures_pure.mpr ?_
  obtain ⟨rfl, -⟩ := exec_insertThread inserted
  obtain ⟨rfl, -⟩ := exec_insertStanding pointed
  have keyed : Keyed (postgres.applyAll db [.insertThread stored]) := tidy.keyed.applyAll <| by
    simpa [Change.keyed] using (normalizeThread_valid normalized).2
  exact ⟨unchanged db _, .inl ⟨rfl, .inl rfl⟩, keyed, False.elim⟩

theorem appendMessages_served {ns threadID : String} {messages : List (MessageOf RawMetadata)} :
    Ensures db (appendMessages env ns threadID messages) fun _ =>
      Served db (.appendMessages env ns threadID messages) := by
  simp only [appendMessages, ensures_bind, ensures_check]
  rintro ⟨ns', id⟩ -
  refine ensures_ite (fun _ => ensures_throw _) fun _ => ?_
  refine ensures_ite (fun _ => ensures_throw _) fun _ => ?_
  simp only [ensures_bind]
  refine ensures_read _ rfl (ensures_require.mpr fun thread found => ensures_read _ rfl ?_)
  obtain ⟨rfl, trimmed⟩ := thread_keyed tidy.keyed found
  intro result changes ran
  have appended := ensures_appendAll tidy.keyed trimmed (tidy.numbered.maxSequence _).symm result
    changes ran
  refine ensures_sql.mpr fun _ _ touched => ensures_pure.mpr ?_
  have touches := exec_touchThread appended.keyed touched
  refine ⟨?_, .inl ⟨touches.turns.trans appended.turns, .inl rfl⟩, touches.keyed, False.elim⟩
  rw [touches.messages, append_nil, appended.messages]
  exact .append _ _ appended.placed

theorem repairAssistantReply_served {ns : String} {original : Message} {content format : String} :
    Ensures db (repairAssistantReply ns original content format) fun _ =>
      Served db (.repairAssistantReply ns original content format) := by
  simp only [repairAssistantReply, ensures_bind, ensures_check]
  intro repaired valid
  refine ensures_sql.mpr fun rows _ written => ensures_ite (fun _ => ensures_throw _) fun _ =>
    ensures_pure.mpr ?_
  rcases exec_writes written with rfl | ⟨_, rfl, writes⟩
  · exact .nothing tidy _
  cases writes with
  | repairMessage ns original repaired old repairable found =>
    -- The message that is found is the one that was asked for.
    have present := mem_of_find?_eq_some found
    have sameID : old.id = original.id := by simpa using find?_some found
    simp only [Database.repairable, Bool.and_eq_true, any_eq_true, decide_eq_true_eq] at repairable
    obtain ⟨-, m, member, ⟨⟨⟨-, id⟩, role⟩, -⟩, metadata⟩ := repairable
    obtain rfl := tidy.distinct.eq present member (id.trans sameID.symm)
    exact ⟨.repair ns original content format repaired m valid present sameID role metadata,
      .inl ⟨rfl, .inl rfl⟩, tidy.keyed, False.elim⟩

theorem activateTurn_served : Ensures db (activateTurn t) fun _ => Served db (.activateTurn t) := by
  simp only [activateTurn, ensures_bind]
  refine ensures_lockAll (ensures_read _ rfl (ensures_require.mpr fun status known => ?_))
  refine ensures_ite (fun _ => ensures_pure.mpr (.nothing tidy _)) fun waits => ?_
  rw [ensures_bind]
  refine ensures_read _ rfl (ensures_ite (fun _ => ensures_pure.mpr (.nothing tidy _)) fun _ => ?_)
  refine ensures_bind.mpr (ensures_sql.mpr fun _ _ written => ensures_pure.mpr ?_)
  rcases exec_writes written with rfl | ⟨_, rfl, writes⟩
  · exact .nothing tidy _
  cases writes with
  | activateTurn id old found free =>
    have waiting : old.status = .waiting := by
      rw [found] at known
      exact (Option.some.inj known).trans (not_not.mp waits)
    exact .update tidy (.update _ old .queued _ (tidy.own found) ⟨rfl, rfl, rfl, rfl, rfl, rfl, rfl⟩
      rfl (by rw [waiting]; rfl) (by simp) (.inl ⟨rfl, rfl, rfl, fun _ => rfl⟩) (.inl ⟨rfl, rfl⟩)) False.elim

theorem recordRun_served {uid : String} :
    Ensures db (recordRun t uid) fun _ => Served db (.recordRun t uid) := by
  rw [recordRun, ensures_bind]
  refine ensures_sql.mpr fun rows _ written => ensures_ite (fun _ => ensures_throw _) fun _ =>
    ensures_pure.mpr ?_
  rcases exec_writes written with rfl | ⟨_, rfl, writes⟩
  · exact .nothing tidy _
  cases writes with
  | recordRun turn uid old found =>
    obtain ⟨present, -, -, occupies, runName, retryCount, unset⟩ := recordable_iff.mp found
    have running := unfinished_of_occupies occupies
    refine .update tidy (.update _ old old.status _ (tidy.own present)
      ⟨rfl, rfl, rfl, rfl, rfl, rfl, rfl⟩ (tidy.consistent _ old present).2.status running (occupies_ne_waiting occupies)
      -- A run that is known already is recorded again, or not at all.
      (.inl ⟨rfl, rfl, rfl, fun known => (unset.resolve_left known).symm⟩) (.inl ⟨running, rfl⟩)) ?_
    rintro ⟨row, stands, other⟩
    obtain rfl := Option.some.inj (present.symm.trans stands)
    exact other.elim (· runName) (· retryCount)

theorem retryTurn_served {expected : Turn} {retry : TurnRetry} :
    Ensures db (retryTurn env expected retry) fun _ => Served db (.retryTurn env expected retry) := by
  simp only [retryTurn, ensures_bind]
  refine ensures_read _ rfl (ensures_require.mpr fun old known => ?_)
  refine ensures_check.mpr fun next prepared => ensures_sql.mpr fun _ _ written => ensures_pure.mpr ?_
  obtain ⟨row, found, rfl⟩ := Option.map_eq_some_iff.mp known
  have present : db.turns.get expected.id = some row := (Option.filter_eq_some_iff.mp found).1
  obtain ⟨rowID, columns⟩ := tidy.consistent _ row present
  obtain ⟨running, fits, same, queued⟩ := prepareTurnRetry_ok prepared
  rcases exec_writes written with rfl | ⟨_, rfl, writes⟩
  · exact .nothing tidy _
  cases writes with
  | updateTurn id status payload old stands free =>
    -- The next attempt is written over the row that was locked.
    rw [← same.id, columns.id, rowID] at stands
    obtain rfl := Option.some.inj (present.symm.trans stands)
    refine .update tidy (.update _ row _ next (tidy.own present) same rfl (columns.status ▸ running)
      (by simp [queued]) (.inr (nextAttempt_of_prepared prepared))
      (.inl ⟨by rw [queued]; rfl, rfl⟩)) ?_
    rintro ⟨other, stands, stale⟩
    obtain rfl := Option.some.inj (present.symm.trans stands)
    exact not_stale fits stale

theorem completeTurn_served :
    Ensures db (completeTurn env t m) fun _ => Served db (.completeTurn env t m) := by
  refine ensures_ite (fun _ => ensures_throw _) fun ended => ?_
  simp only [ensures_bind]
  refine ensures_read _ rfl (ensures_require.mpr fun thread within => ?_)
  refine ensures_read _ rfl (ensures_require.mpr fun old known => ?_)
  refine ensures_ite (fun _ => ensures_pure.mpr (.nothing tidy _)) fun running =>
    ensures_ite (fun _ => ensures_throw _) fun fits => ?_
  obtain ⟨sameThread, trimmed⟩ := thread_keyed tidy.keyed within
  refine ensures_bind.mpr fun stored changes ran => ensures_sql.mpr fun _ _ written => ?_
  obtain ⟨appended, normalized⟩ := ensures_insertTurnMessage tidy trimmed stored changes ran
  obtain ⟨row, found, rfl⟩ := Option.map_eq_some_iff.mp known
  obtain ⟨present, sameHome⟩ := Option.filter_eq_some_iff.mp found
  obtain ⟨rowID, columns⟩ := tidy.consistent _ row present
  -- The message has left the turns as they were, so the locked row is written.
  have stands : (postgres.applyAll db changes).turns.get row.payload.id = some row := by
    rw [appended.turns, columns.id]
    exact tidy.own present
  simp only [Sql.exec, stands] at written
  obtain ⟨rfl, -⟩ := replaceTurn_writes written
  have ended : t.status.unfinished = false := by simpa [active] using ended
  have own : stored.threadID = row.threadID := by
    have home : row.threadID = t.threadID := by simpa using sameHome
    rw [(normalizeMessage_ok normalized).1, home]
    exact trimmed.trans sameThread
  refine ⟨?_, .inr ⟨_, .update _ row t.status { row.payload with
    status := t.status, error := t.error, delegates := t.delegates } (tidy.own present)
    ⟨rfl, rfl, rfl, rfl, rfl, rfl, rfl⟩ rfl ?_ ?_ (.inl ⟨rfl, rfl, rfl, fun _ => rfl⟩)
    (.inr ⟨ended, congrArg some rowID.symm, stored, appended.messages, own⟩),
    congrArg (put · row.id _) appended.turns⟩, appended.keyed, ?_⟩
  · exact appended.messages ▸ .append _ _ appended.placed
  · exact columns.status ▸ (show active row.payload = true by simpa using running)
  · rintro waiting
    rw [waiting] at ended
    cases ended
  · rintro ⟨other, stands, stale⟩
    obtain rfl := Option.some.inj (present.symm.trans stands)
    exact absurd stale (not_stale (by simpa using fits))

theorem queueTurn_served :
    Ensures db (queueTurn env t m) fun _ => Served db (.queueTurn env t m) := by
  simp only [queueTurn, ensures_bind, ensures_check]
  rintro ⟨t', message⟩ prepared
  refine ensures_lockAll (ensures_read _ rfl (ensures_require.mpr fun thread within =>
    ensures_read _ rfl ?_))
  split
  next existing _ =>
    -- A repeated request writes nothing.
    rw [replayTurn, ensures_bind]
    refine ensures_read _ rfl (ensures_bind.mpr (ensures_require.mpr fun user _ => ?_))
    exact ensures_ite (fun _ => ensures_throw _) fun _ => ensures_pure.mpr (.nothing tidy _)
  rw [acceptTurn, ensures_bind]
  refine ensures_read _ rfl (ensures_ite (fun _ => ensures_throw _) fun _ => ?_)
  have checks {post : Unit → Database → Prop} (after : post () db) :
      Ensures db (checkSequence t') post := by
    unfold checkSequence
    split
    · exact ensures_pure.mpr after
    · refine ensures_bind.mpr (ensures_read _ rfl ?_)
      exact ensures_ite (fun _ => ensures_throw _) fun _ => ensures_pure.mpr after
  obtain ⟨sameThread, trimmed⟩ := thread_keyed tidy.keyed within
  refine ensures_bind.mpr (checks (ensures_bind.mpr fun stored changes ran => ?_))
  refine ensures_bind.mpr (ensures_sql.mpr fun _ _ inserted => ensures_pure.mpr ?_)
  obtain ⟨appended, normalized⟩ := ensures_insertTurnMessage tidy trimmed stored changes ran
  obtain ⟨rfl, free, -⟩ := exec_insertTurn inserted
  simp only [Database.turnKeyTaken, Database.anyTurn, appended.turns] at free
  -- The message was checked twice, and it has kept its identity.
  obtain ⟨rfl, first⟩ := prepareTurn_ok prepared
  obtain ⟨-, role, content, -, given⟩ := normalizeMessage_ok first
  obtain ⟨own, storedRole, storedContent, -, identified⟩ := normalizeMessage_ok normalized
  have sameID : stored.id = message.id :=
    (Except.ok.inj ((normalizeID_again (normalizeID_valid (env.valid 1) given)).symm.trans
      identified)).symm
  have asks : stored ∈ (postgres.applyAll db changes).messages := by
    rw [appended.messages]
    exact mem_append_right _ (.head _)
  refine ⟨appended.messages ▸ .append _ _ appended.placed, .inr ⟨_, .accept env t m _ message stored
    prepared free asks sameID (own.trans (trimmed.trans sameThread)) (storedRole.trans role)
    (storedContent.trans content).symm, ?_⟩, appended.keyed, False.elim⟩
  rw [← appended.turns]
  rfl

/-- What a call that is served alone does. -/
theorem served_alone (call : Call) : Served db call (PostgresStore.serve call db).2 := by
  have served : Ensures db call.tx fun _ => Served db call := by
    cases call with
    | createThread env thread => exact createThread_served tidy
    | ensureStandingThread env seed => exact ensureStandingThread_served tidy
    | appendMessages env ns threadID messages => exact appendMessages_served tidy
    | repairAssistantReply ns original content format => exact repairAssistantReply_served tidy
    | queueTurn env t m => exact queueTurn_served tidy
    | activateTurn t => exact activateTurn_served tidy
    | recordRun t uid => exact recordRun_served tidy
    | retryTurn env expected retry => exact retryTurn_served tidy
    | completeTurn env t m => exact completeTurn_served tidy
    | getThread ns id => exact ensures_getThread fun _ => .nothing tidy _
    | listThreads filter =>
      refine ensures_bind.mpr (ensures_check.mpr fun _ _ => ?_)
      exact ensures_read _ rfl (.nothing tidy _)
    | listMessages ns id | listTurns ns id =>
      exact ensures_bind.mpr (ensures_getThread fun _ => ensures_read _ rfl (.nothing tidy _))
    | pendingTurns limit => exact ensures_read _ rfl (.nothing tidy _)
  rw [serve_eq]
  cases ran : outcome db call.tx with
  | error err => exact .nothing tidy call
  | ok done => exact served _ _ ran

end Steps

end AnvilAgents.Chat
