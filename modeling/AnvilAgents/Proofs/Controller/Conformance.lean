import AnvilAgents.Controller.Contract
import AnvilAgents.Proofs.Controller.Calls

/-! Every reconcile pass keeps the contract, whatever the server answers. -/

namespace AnvilAgents

open Conc Know

variable {K : Know} {r : AgentRunReconciler}

/-- The program keeps the reconcile contract from this knowledge on. -/
abbrev Obeys {α : Type} (K : Know) (p : Pass α) (post : Know → α → Prop) : Prop :=
  reconcileContract.Obeys K p post

/-- A pass that ends here. -/
abbrev Ends (K : Know) (p : Pass Unit) : Prop :=
  Obeys K p fun _ _ => True

/-- A program that only reads what the contract does not track ends with the knowledge it had. -/
abbrev Quiet {α : Type} (K : Know) (p : Pass α) : Prop :=
  Obeys K p fun K' _ => K' = K

variable {c : Call}

theorem Obeys.call {β : Type} {rest : Reply c → Pass β} {post : Know → β → Prop}
    (permitted : K.permits c)
    (later : ∀ reply, promised c reply → Obeys (K.learn c reply) (rest reply) post) :
    Obeys K (ask c >>= rest) post :=
  Contract.Obeys.call permitted later

theorem Quiet.bind {α β : Type} {p : Pass α} {rest : α → Pass β} {post : Know → β → Prop}
    (quiet : Quiet K p) (after : ∀ value, Obeys K (rest value) post) :
    Obeys K (p >>= rest) post := by
  refine Contract.Obeys.bind quiet fun K' value same => ?_
  subst same
  exact after value

/-- Continue after a call the contract neither restricts nor learns from. -/
theorem obeys_quiet_ask {β : Type} {rest : Reply c → Pass β} {post : Know → β → Prop}
    (after : ∀ reply, Obeys K (rest reply) post) (permitted : K.permits c := by trivial)
    (unmoved : ∀ reply, K.learn c reply = K := by exact fun _ => rfl) : Obeys K (ask c >>= rest) post :=
  .call permitted fun reply _ => (unmoved reply).symm ▸ after reply

/-- Calls that touch nothing the contract tracks. -/
def quietCalls : List CallName :=
  payloadCalls ++ pauseCalls

theorem quiet_of_name (quiet : c.name ∈ quietCalls) :
    K.permits c ∧ ∀ reply, K.learn c reply = K := by
  cases c <;> first
    | exact ⟨trivial, fun _ => rfl⟩
    | simp [Call.name, quietCalls, payloadCalls, pauseCalls] at quiet

theorem Only.quietly {α : Type} {names : List CallName} {p : Pass α} (only : Only names p)
    (quiet : names ⊆ quietCalls) : Quiet K p := by
  refine Contract.obeys_of_confined (C := reconcileContract) (J := fun K' : Know => K' = K)
    (fun K' c same listed => ?_) (fun K' c reply same listed => ?_) rfl only
  · exact (quiet_of_name (quiet (by simpa using listed))).1
  · exact ((quiet_of_name (quiet (by simpa using listed))).2 reply).trans same

theorem written_quiet {α : Type} (reply : WriteReply α) (action : String) :
    Quiet K (written reply action) := by
  cases reply <;> simp [written]

theorem agentRunJobSnapshotDigest_quiet (job : Job) : Quiet K (agentRunJobSnapshotDigest r job) := by
  simp only [agentRunJobSnapshotDigest]
  split <;> simp

variable {read new : AgentRun} {lock : Bool}

/-- The status patches a pass may apply to its own run. -/
theorem permits_own (own : new.key = K.key) :
    K.permits (.patchStatus lock read new) ↔
      LivePatch K read new ∧ recordsAttempt read new = false ∨ AttemptPatch K lock read new ∨
        HoldPatch K lock read new ∨ ArchivePatch K lock read new := by
  rw [permits, if_pos own]

/-- A status patch of the pass's own run that records no attempt is its last one of that kind. -/
theorem patchAgentRunStatus_closes (own : new.key = K.key) (plain : recordsAttempt read new = false)
    (permitted : K.permits (.patchStatus lock read new)) :
    Obeys K (patchAgentRunStatus lock read new) fun K' _ => K' = K.close := by
  unfold patchAgentRunStatus
  refine Obeys.call permitted fun reply _ => ?_
  have learnt : K.learn (.patchStatus lock read new) reply = K.close := by
    simp [learn, own, plain]
  rw [learnt]
  cases reply <;> simp

theorem patchAgentRunStatus_ends (permitted : K.permits (.patchStatus lock read new)) :
    Ends K (patchAgentRunStatus lock read new) := by
  unfold patchAgentRunStatus
  refine Obeys.call permitted fun reply _ => ?_
  cases reply <;> simp

/-- The pass is over a finished run, of which it holds this version. -/
structure ClosingKnow (K : Know) (run : AgentRun) : Prop where
  key : run.key = K.key
  stage : K.stage = .closing
  base : K.base = some run

variable {run : AgentRun}

section

variable (closing : ClosingKnow K run)

include closing

/-- Looking at the finished Job of a run teaches nothing but what Jobs exist. -/
theorem ensureTerminalAgentRunJobTTL_obeys :
    Obeys K (ensureTerminalAgentRunJobTTL run) fun K' _ => ClosingKnow K' run := by
  unfold ensureTerminalAgentRunJobTTL
  cases run.status.launch.jobRef with
  | none => exact .pure closing
  | some ref =>
    refine .ite (fun _ => .pure closing) fun _ => ?_
    refine .ite (fun _ => .fail) fun _ => ?_
    refine Obeys.call trivial fun reply _ => ?_
    cases reply with
    | none => exact .pure ⟨closing.key, closing.stage, closing.base⟩
    | some job =>
      have still : ∀ key, ClosingKnow (K.learn (.getJob key) (some job)) run :=
        fun _ => ⟨closing.key, closing.stage, closing.base⟩
      refine .ite (fun _ => .fail) fun _ => ?_
      split
      · refine obeys_quiet_ask fun reply => ?_
        refine (written_quiet reply _).mono fun K' _ same => ?_
        subst same
        exact still _
      · exact .pure (still _)

/-- Writing an archive receipt onto the version it was made from. -/
theorem archivePatch_permitted (receipt : Option AgentRunArchiveStatus)
    (archived : agentRunArchived { run.status with archive := receipt } = true →
      ∃ now record, newAgentRunArchiveRecord run now = .ok record ∧ K.record = some record) :
    K.permits (.patchStatus false run
      { run with status := { run.status with archive := receipt } }) := by
  refine (permits_own ?_).mpr ?_
  · exact closing.key
  · exact .inr (.inr (.inr ⟨closing.stage, closing.base, rfl, ⟨receipt, rfl⟩, archived⟩))

theorem archiveFailed_ends (fault : String) :
    Ends K (archiveFailed run fault) := by
  -- A receipt with no time of archiving is not one of an archived run.
  refine patchAgentRunStatus_ends (archivePatch_permitted closing _ fun archived => ?_)
  simp [agentRunArchived] at archived

theorem archiveTerminalAgentRun_ends (fresh : agentRunArchived run.status = false) :
    Ends K (archiveTerminalAgentRun r run) := by
  unfold archiveTerminalAgentRun
  refine obeys_quiet_ask fun archivedAt => ?_
  cases made : newAgentRunArchiveRecord run archivedAt with
  | error fault => exact archiveFailed_ends closing fault
  | ok record =>
    refine Obeys.call ⟨closing.stage, run, archivedAt, closing.base, made, fresh⟩ fun reply _ => ?_
    cases reply with
    | error fault => exact archiveFailed_ends ⟨closing.key, closing.stage, closing.base⟩ fault
    | ok archivedAt =>
      -- The receipt is written only once the record of this version is stored.
      refine patchAgentRunStatus_ends (archivePatch_permitted
        (K := K.learn (.archiveRun record) (.ok archivedAt))
        ⟨closing.key, closing.stage, closing.base⟩ _ fun _ => ?_)
      exact ⟨_, record, made, rfl⟩

theorem reconcileTerminalAgentRun_ends :
    Ends K (reconcileTerminalAgentRun r run) := by
  unfold reconcileTerminalAgentRun
  refine (ensureTerminalAgentRunJobTTL_obeys closing).bind fun K' _ closing => ?_
  refine .ite (fun archives => ?_) fun _ => ?_
  · exact archiveTerminalAgentRun_ends closing (by simpa using (Bool.and_eq_true_iff.mp archives).2)
  · refine obeys_quiet_ask fun now => ?_
    refine .ite (fun elapsed => ?_) fun _ => by simp
    simp only [terminalRetentionElapsed, Bool.and_eq_true] at elapsed
    refine Obeys.call ⟨closing.stage, run, closing.base, rfl, elapsed.1.1.1.1, elapsed.1.1.1.2⟩
      fun reply _ => ?_
    cases reply <;> simp

end

variable {obj : AgentRun}

/-- A pass that fails a held run and archives it keeps the contract. -/
theorem reconcileAgentRunInterruptDuplicateHold_ends {requester : String}
    (own : obj.key = K.key) (stage : K.stage = .held ∨ K.stage = .live)
    (version : K.base = some obj ∨ K.noted = some obj) (settled : K.pending = false) :
    Ends K (reconcileAgentRunInterruptDuplicateHold r obj requester) := by
  unfold reconcileAgentRunInterruptDuplicateHold
  refine obeys_quiet_ask fun now => ?_
  have plain : recordsAttempt obj { obj with status := holdStatus obj requester now } = false := by
    cases attempt : obj.status.launch.jobCreateAttemptedAt <;>
      simp [recordsAttempt, holdStatus, AgentRunStatus.setReady, attempt]
  refine Contract.Obeys.bind (patchAgentRunStatus_closes own plain ?_) fun K' _ closed => ?_
  · refine (permits_own ?_).mpr ?_
    · exact own
    · exact .inr (.inr (.inl ⟨stage, version, settled, rfl, ⟨requester, now, rfl⟩⟩))
  · -- The run is read again before it is archived; from here on only its receipt is written.
    subst closed
    refine Obeys.call trivial fun reply honest => ?_
    cases reply with
    | none => exact .fail
    | some run =>
      have key : run.key = obj.key := (honest run rfl).1
      refine reconcileTerminalAgentRun_ends ⟨?_, ?_, ?_⟩ <;>
        simp [learn, readOwn, close, own, key]

/-- Knowledge that has only grown by sightings since. -/
structure Know.Grows (K K' : Know) : Prop where
  key : K'.key = K.key
  uid : K'.uid = K.uid
  stage : K'.stage = K.stage
  base : K'.base = K.base
  launch : K'.launch = K.launch
  archive : K'.archive = K.archive
  pending : K'.pending = K.pending
  limit : K'.limit = K.limit
  gated : K.gated = true → K'.gated = true
  sawJobs : K.sawJobs ⊆ K'.sawJobs

theorem Know.Grows.refl (K : Know) : K.Grows K :=
  ⟨rfl, rfl, rfl, rfl, rfl, rfl, rfl, rfl, id, fun _ h => h⟩

variable {K' : Know}

theorem Know.Grows.owns (grows : K.Grows K') {job : Job} : K'.owns job ↔ K.owns job := by
  simp [Know.owns, grows.uid, grows.key]

/-- The pass is over a run that is neither held nor finished, and patches against this version. -/
structure LiveKnow (K : Know) (original : AgentRun) : Prop where
  key : original.key = K.key
  stage : K.stage = .live
  base : K.base = some original
  settled : K.pending = false
  attempt : original.status.launch.jobCreateAttemptedAt = K.launch.jobCreateAttemptedAt

theorem LiveKnow.grow {original : AgentRun} (live : LiveKnow K original) (grows : K.Grows K') :
    LiveKnow K' original where
  key := live.key.trans grows.key.symm
  stage := grows.stage.trans live.stage
  base := grows.base.trans live.base
  settled := grows.pending.trans live.settled
  attempt := by rw [grows.launch, live.attempt]

theorem LaunchKept.grow {launch : LaunchStatus} (kept : LaunchKept K launch) (grows : K.Grows K') :
    LaunchKept K' launch where
  attempt := by rw [grows.launch, kept.attempt]
  planned := by rw [grows.launch]; exact kept.planned
  identity := by
    rcases kept.identity with same | blank | ⟨job, seen, owned, ref, uid⟩
    · exact .inl (by rw [grows.launch]; exact same)
    · exact .inr (.inl blank)
    · exact .inr (.inr ⟨job, grows.sawJobs seen, grows.owns.mpr owned, ref, uid⟩)
  sound := kept.sound

/-- The status a live pass may end with. -/
structure Endable (K : Know) (status : AgentRunStatus) : Prop where
  launch : LaunchKept K status.launch
  archive : status.archive = K.archive ∨ status.archive = none

variable {status : AgentRunStatus}

theorem Endable.grow (endable : Endable K status) (grows : K.Grows K') : Endable K' status :=
  ⟨endable.launch.grow grows, by rw [grows.archive]; exact endable.archive⟩

/-- What a status may end with depends on its launch fields and its archive receipt alone. -/
theorem Endable.congr {status status' : AgentRunStatus} (endable : Endable K status)
    (launch : status'.launch = status.launch) (archive : status'.archive = status.archive) :
    Endable K status' :=
  ⟨launch ▸ endable.launch, archive ▸ endable.archive⟩

/-- The last status patch of a live pass. -/
theorem livePatch_ends {original obj : AgentRun} (live : LiveKnow K original)
    (own : obj.key = K.key) (endable : Endable K status)
    (ended : agentRunPhaseTerminal status.phase = true → K.sawExecutionOver) :
    Ends K (patchAgentRunStatus lock original { obj with status := status }) := by
  refine patchAgentRunStatus_ends ((permits_own ?_).mpr (.inl ⟨?_, ?_⟩))
  · exact own
  · exact ⟨live.stage, live.base, live.settled, endable.launch, endable.archive, ended⟩
  · simp only [recordsAttempt, endable.launch.attempt, live.attempt]
    cases K.launch.jobCreateAttemptedAt <;> rfl

theorem Know.Grows.trans {K₁ K₂ : Know} (first : K.Grows K₁) (later : K₁.Grows K₂) :
    K.Grows K₂ where
  key := later.key.trans first.key
  uid := later.uid.trans first.uid
  stage := later.stage.trans first.stage
  base := later.base.trans first.base
  launch := later.launch.trans first.launch
  archive := later.archive.trans first.archive
  pending := later.pending.trans first.pending
  limit := later.limit.trans first.limit
  gated := fun h => later.gated (first.gated h)
  sawJobs := fun _ h => later.sawJobs (first.sawJobs h)

/-- What a pass knows after it dealt with other runs: no more about its own than before. -/
structure Know.Aside (K K' : Know) : Prop extends K.Grows K' where
  noted : K'.noted = K.noted

theorem Know.Aside.refl (K : Know) : K.Aside K := ⟨.refl K, rfl⟩

theorem Know.Aside.trans {K₁ K₂ : Know} (first : K.Aside K₁) (later : K₁.Aside K₂) : K.Aside K₂ :=
  ⟨first.toGrows.trans later.toGrows, later.noted.trans first.noted⟩

/-- Failing a peer just read is permitted and teaches nothing. -/
theorem interruptedPatch_obeys {peer : AgentRun} (summary : String) (now : Nat)
    (distinct : peer.key ≠ K.key) (version : K.peer = some peer) :
    Obeys K (patchAgentRunStatus false peer
      { peer with status := interruptedStatus peer summary now }) fun K' _ => K' = K := by
  unfold patchAgentRunStatus
  refine Obeys.call ?_ fun reply _ => ?_
  · rw [permits, if_neg distinct]
    exact ⟨version, distinct, rfl, ⟨summary, now, rfl⟩⟩
  · simp only [learn, ne_eq, distinct, not_false_eq_true, if_true]
    cases reply <;> simp

/-- Interrupting a listed peer writes to that peer alone. -/
theorem interruptPeer_obeys {obj peer : AgentRun} (summary : String) (now : Nat)
    (distinct : peer.key ≠ K.key) :
    Obeys K (interruptPeer obj summary now peer) fun K' _ => K.Aside K' := by
  unfold interruptPeer
  refine Obeys.call (.inr ⟨obj.key.name, rfl⟩) fun reply _ => ?_
  cases reply with
  | conflict => exact .pure (.refl K)
  | ok noted =>
    refine Obeys.call trivial fun reply honest => ?_
    cases reply with
    | none => exact .fail
    | some reloaded =>
      -- The peer is failed on the version just read.
      have key : reloaded.key = peer.key := (honest reloaded rfl).1
      have other : reloaded.key ≠ K.key := key ▸ distinct
      simp only [learn, distinct, if_false]
      refine Contract.Obeys.mono (interruptedPatch_obeys summary now other rfl) fun K' _ same => ?_
      subst same
      exact ⟨⟨rfl, rfl, rfl, rfl, rfl, rfl, rfl, rfl, id, fun _ h => h⟩, rfl⟩
  | _ => exact .fail

/-- Peers are listed in the namespace of the run and differ from it in name. -/
theorem interruptPeers_obeys (own : obj.key = K.key) (named summary : String)
    (now : Nat) (peers : List AgentRun) (near : ∀ peer ∈ peers, peer.key.ns = obj.key.ns) :
    Obeys K (interruptPeers obj named summary now peers) fun K' _ => K.Aside K' := by
  induction peers generalizing K with
  | nil => exact .pure (.refl K)
  | cons peer peers ih =>
    have rest {K' : Know} (aside : K.Aside K') :
        Obeys K' (interruptPeers obj named summary now peers) fun K' _ => K.Aside K' :=
      (ih (own.trans aside.key.symm) fun peer listed => near peer (.tail _ listed)).mono
        fun _ _ later => aside.trans later
    refine .ite (fun chosen => ?_) fun _ => ?_
    · have distinct : peer.key ≠ K.key := by
        intro same
        simp [interruptsPeer, same, own] at chosen
      exact (interruptPeer_obeys summary now distinct).bind fun _ _ aside => rest aside
    · exact rest (.refl K)

theorem interruptDuplicatePeerRuns_obeys (own : obj.key = K.key)
    (decision : AgentRunDecisionStatus) (logs : RunnerLogs) :
    Obeys K (interruptDuplicatePeerRuns obj decision logs) fun K' _ => K.Aside K' := by
  unfold interruptDuplicatePeerRuns
  refine Obeys.call trivial fun peers honest => ?_
  refine obeys_quiet_ask fun now => ?_
  exact interruptPeers_obeys own _ _ now peers honest

/-- The run comes back as it was, or as it was stored when its peer was noted. -/
structure Know.Refreshed (K : Know) (original : AgentRun) (K' : Know) (obj : AgentRun) : Prop
    extends K.Grows K' where
  own : obj.key = K.key
  version : obj = original ∨ K'.noted = some obj

theorem ensureRequestedPeerAgentRun_obeys (own : obj.key = K.key)
    (decision : AgentRunDecisionStatus) (logs : RunnerLogs) :
    Obeys K (ensureRequestedPeerAgentRun obj decision logs) fun K' obj' =>
      K.Refreshed obj K' obj' := by
  have unchanged : K.Refreshed obj K obj := ⟨.refl K, own, .inl rfl⟩
  unfold ensureRequestedPeerAgentRun
  refine .ite (fun _ => .pure unchanged) fun _ => ?_
  refine .ite (fun _ => .pure unchanged) fun _ => ?_
  refine obeys_quiet_ask fun reply => ?_
  refine (written_quiet reply _).bind fun peer => ?_
  refine Obeys.call (.inl ⟨peer.key.name, rfl⟩) fun reply honest => ?_
  cases reply with
  | ok noted =>
    have key : noted.key = obj.key := honest noted rfl
    refine .pure ⟨⟨?_, ?_, ?_, ?_, ?_, ?_, ?_, ?_, ?_, ?_⟩, key.trans own, .inr ?_⟩ <;>
      simp [learn, own]
  | _ => exact .fail

/-- Acting on a decision leaves the launch of the run itself alone. -/
theorem reconcileMidRunPeerDecisions_obeys (own : obj.key = K.key)
    (status : AgentRunStatus) (logs : RunnerLogs) :
    Obeys K (reconcileMidRunPeerDecisions obj status logs) fun K' obj' =>
      K.Refreshed obj K' obj' := by
  have unchanged : K.Refreshed obj K obj := ⟨.refl K, own, .inl rfl⟩
  unfold reconcileMidRunPeerDecisions
  cases status.decision with
  | none => exact .pure unchanged
  | some decision =>
    refine .ite (fun _ => ensureRequestedPeerAgentRun_obeys own decision logs) fun _ => ?_
    refine .ite (fun _ => ?_) fun _ => .pure unchanged
    refine (interruptDuplicatePeerRuns_obeys own decision logs).bind fun K' _ aside => ?_
    exact .pure ⟨aside.toGrows, own, .inl rfl⟩

end AnvilAgents
