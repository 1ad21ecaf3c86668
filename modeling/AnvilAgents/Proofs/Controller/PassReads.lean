import AnvilAgents.Proofs.Controller.Calls

/-!
What a pass has read when it creates a peer or a Job.

A pass creates at most one peer for its run, and notes it on the run with its next call. A pass that
launches reads pauses from the API server itself, after it has looked at the credentials of the run. A
pass that checks a Job nobody recorded does not read them, and creates the Job if it is gone.
-/

namespace AnvilAgents

open Conc Text List Contract

-- No proof here looks into a text, and unfolding one is slow.
attribute [local irreducible] agentRunChildName sanitizeLabelValue

/-! ## What a pass knows of peers -/

/-- The version of its run that a pass has read last, and the peer that it has created just now. -/
structure PeerKnow where
  key : Key
  obj : Option AgentRun := none
  asked : Bool := false
  owed : Option String := none

namespace PeerKnow

/-- A pass reads its run, also as the reply to a locked patch. -/
def learn (K : PeerKnow) : (c : Call) → Reply c → PeerKnow
  | .getRun key, reply =>
    { K with
      obj := if key = K.key then (reply : Option AgentRun) else K.obj
      owed := none }
  | .patchStatus true _ new, reply =>
    match (reply : WriteReply AgentRun) with
    | .ok run => { K with obj := if new.key = K.key then some run else K.obj, owed := none }
    | _ => { K with owed := none }
  | .createPeer _ _ _, reply =>
    match (reply : WriteReply AgentRun) with
    | .ok peer => { K with asked := true, owed := some peer.key.name }
    | _ => { K with asked := true, owed := none }
  | _, _ => { K with owed := none }

/-- A peer is created once, for a run on which none is noted, and is noted next. -/
def permits (K : PeerKnow) : Call → Prop
  | .createPeer _ generateName _ => K.owed = none ∧ K.asked = false ∧
      '-' ∈ generateName.toList ∧ ∃ obj, K.obj = some obj ∧ isBlank obj.notes.peerRun = true
  | .patchNotes read new =>
    match K.owed with
    | some name => K.obj = some read ∧ new = { read with notes := { read.notes with peerRun := name } }
    | none => new.notes.peerRun = read.notes.peerRun
  | .updateNotes _ => False
  | _ => K.owed = none

end PeerKnow

/-- A run is stored under its key, and a generated name starts as asked for. -/
def peerPromised : (c : Call) → Reply c → Prop
  | .getRun key, reply => ∀ run, (reply : Option AgentRun) = some run → run.key = key
  | .patchStatus _ _ new, reply => ∀ run, (reply : WriteReply AgentRun) = .ok run → run.key = new.key
  | _, _ => True

abbrev peerContract : Contract Call Reply where
  Know := PeerKnow
  permits := PeerKnow.permits
  learn := PeerKnow.learn
  promised := peerPromised

/-! ## What a pass knows of pauses -/

/-- The Job is that of an effective run. -/
structure JobOf (effective : AgentRun) (job : Job) : Prop where
  ns : job.key.ns = effective.key.ns
  owner : job.owner = some ⟨effective.key.name, effective.uid⟩
  label : job.snapshot.labels.run = sanitizeLabelValue effective.key.name
  spec : job.snapshot.spec = effective.spec

/-- A Job that a pass would take for that of its run, under the name of the given one. -/
structure ListedAs (old job : Job) : Prop where
  key : old.key = job.key
  owner : old.owner = job.owner
  identified : ∃ owner, job.owner = some owner ∧ owner.uid ≠ 0
  present : old.deleting = false
  label : old.snapshot.labels.run = job.snapshot.labels.run

/-- The effective form of a run: what it is launched as. -/
structure EffectiveOf (run effective : AgentRun) : Prop where
  key : effective.key = run.key
  uid : effective.uid = run.uid
  schedule : effective.spec.scheduleRef = run.spec.scheduleRef

/-- What a pass has read that bears on pauses, in the order in which it has read it. -/
abbrev PauseKnow := List (Event Call Reply)

/-- The calls that a pass remembers for its pauses. -/
def pauseReads : List CallName :=
  [.getRun, .listJobs] ++ pauseCalls

/-- The pause checks that are answered by the API server itself. -/
def Call.authoritative : Call → Bool
  | .readSchedule .apiReader _ | .readProfile .apiReader _ | .listControls .apiReader => true
  | _ => false

namespace PauseKnow

def learn (K : PauseKnow) (c : Call) (reply : Reply c) : PauseKnow :=
  if c.name ∈ pauseReads then K ++ [⟨c, reply⟩] else K

variable (K : PauseKnow)

/-- The pass has read this run first. -/
def Began (run : AgentRun) : Prop :=
  ∃ key, K.head? = some ⟨.getRun key, some run⟩

def Listed (job : Job) : Prop :=
  ∃ ns jobs, (⟨.listJobs ns, jobs⟩ : Event Call Reply) ∈ K ∧ job ∈ jobs

/-- The pass has listed the Job that it now creates. -/
def Found (job : Job) : Prop :=
  ∃ old, K.Listed old ∧ ListedAs old job

/-- The schedule of a run, if it has one, was not found suspended. -/
def Running (reader : Reader) (run : AgentRun) : Prop :=
  ∀ key, referencedKey run.key.ns run.spec.scheduleRef = some key →
    ∃ found, (⟨.readSchedule reader key, found⟩ : Event Call Reply) ∈ K ∧
      ∀ schedule, found = some schedule → schedule.suspend = false

/-- The profile that may give a run its application was found to be this one. -/
def HasProfile (reader : Reader) (run : AgentRun) (found : Option AgentRunProfile) : Prop :=
  match applicationProfile run.key.ns run.spec with
  | none => found = none
  | some key => (⟨.readProfile reader key, found⟩ : Event Call Reply) ∈ K

/-- No control that pauses an application was listed, but such as had expired before. -/
def Allowed (reader : Reader) (applicationName : String) : Prop :=
  isBlank applicationName = false → ∃ now controls,
    [(⟨.now, now⟩ : Event Call Reply), ⟨.listControls reader, controls⟩].Sublist K ∧
    ∀ control ∈ controls, trimSpace control.applicationRef = trimSpace applicationName →
      control.launchPolicy = .paused → isBlank control.reason = false →
      agentRunControlExpired control now = true

/-- The reads of one check, each at its own time, have shown nothing that pauses the launch of a run. -/
structure Passed (reader : Reader) (run : AgentRun) : Prop where
  schedule : K.Running reader run
  application : ∃ found name, K.HasProfile reader run found ∧
    specApplicationName run.spec found = .ok name ∧ K.Allowed reader name

/-- The API server was not asked for pauses. -/
def Unasked : Prop :=
  ∀ event ∈ K, event.1.authoritative = false

/-- A Job is created behind the gate, or in the place of one that was listed. -/
def permits : Call → Prop
  | .createJob job => ∃ run effective, K.Began run ∧ EffectiveOf run effective ∧ JobOf effective job ∧
      ((¬K.Found job ∧ K.Passed .apiReader effective) ∨ (K.Found job ∧ K.Unasked))
  | _ => True

variable {K} {K' : PauseKnow}

/-! What was read stays read. -/

theorem Began.mono {run : AgentRun} (began : K.Began run) (grown : K <+: K') : K'.Began run := by
  obtain ⟨key, first⟩ := began
  obtain ⟨more, rfl⟩ := grown
  exact ⟨key, by rw [head?_append, first]; rfl⟩

variable {reader : Reader} {run : AgentRun} (grown : K.Sublist K')

include grown

theorem Running.mono (running : K.Running reader run) : K'.Running reader run := by
  intro key named
  obtain ⟨found, member, unsuspended⟩ := running key named
  exact ⟨found, grown.subset member, unsuspended⟩

theorem HasProfile.mono {found : Option AgentRunProfile} (has : K.HasProfile reader run found) :
    K'.HasProfile reader run found := by
  unfold HasProfile at has ⊢
  split at has
  next => exact has
  next => exact grown.subset has

theorem Passed.mono (passed : K.Passed reader run) : K'.Passed reader run := by
  obtain ⟨running, found, name, has, named, allowed⟩ := passed
  refine ⟨running.mono grown, found, name, has.mono grown, named, fun given => ?_⟩
  obtain ⟨now, controls, read, expired⟩ := allowed given
  exact ⟨now, controls, read.trans grown, expired⟩

end PauseKnow

/-- Jobs are listed by namespace. -/
def pausePromised : (c : Call) → Reply c → Prop
  | .listJobs ns, reply => ∀ job ∈ (reply : List Job), job.key.ns = ns
  | _, _ => True

theorem serve_lists (c : Call) (w : World) : pausePromised c (serve c w).1 := by
  cases c with
  | listJobs ns =>
    intro job member
    simpa using (mem_filter.mp member).2
  | _ => trivial

/-- What a pass keeps to. What it knows of peers it knows where runs are stored under their keys. -/
abbrev passContract (keyed : Prop) : Contract Call Reply where
  Know := PeerKnow × PauseKnow
  permits K c := (keyed → K.1.permits c) ∧ K.2.permits c
  learn K c reply := (K.1.learn c reply, K.2.learn c reply)
  promised c reply := (keyed → peerPromised c reply) ∧ pausePromised c reply

/-- The program keeps the contract and returns what meets the postcondition. -/
abbrev Reads (keyed : Prop) {α : Type} (K : PeerKnow × PauseKnow) (p : Pass α)
    (post : PeerKnow × PauseKnow → α → Prop) : Prop :=
  (passContract keyed).Obeys K p post

variable {keyed : Prop} {c : Call} {names : List CallName}

section Reads

variable {α β : Type} {P : PeerKnow} {K : PauseKnow} {post : PeerKnow × PauseKnow → β → Prop}

theorem Reads.call {rest : Reply c → Pass β} (peers : keyed → P.permits c) (pauses : K.permits c)
    (later : ∀ reply, (keyed → peerPromised c reply) ∧ pausePromised c reply →
      Reads keyed (P.learn c reply, K.learn c reply) (rest reply) post) :
    Reads keyed (P, K) (ask c >>= rest) post :=
  Contract.Obeys.call ⟨peers, pauses⟩ later

/-- The calls that write notes or create something. -/
def writingCalls : List CallName :=
  [.createJob, .createPeer, .patchNotes, .updateNotes]

/-- The calls that tell a pass of its run, too. -/
def readingCalls : List CallName :=
  [.getRun, .patchStatus, .createPeer, .patchNotes, .updateNotes]

/-- The calls that bear on peers or on pauses. -/
def tellingCalls : List CallName :=
  readingCalls ++ pauseReads ++ [.createJob]

theorem permits_of_name (other : c.name ∉ writingCalls) (settled : P.owed = none) :
    P.permits c ∧ K.permits c := by
  cases c <;> first | exact ⟨settled, trivial⟩ | simp [Call.name, writingCalls] at other

theorem owed_of_name (other : c.name ∉ writingCalls) (reply : Reply c) :
    (P.learn c reply).owed = none := by
  cases c with
  | patchStatus lock read new =>
    cases lock with
    | false => rfl
    | true => cases reply <;> rfl
  | createPeer => simp [Call.name, writingCalls] at other
  | _ => rfl

theorem peers_of_name (other : c.name ∉ readingCalls) (settled : P.owed = none) (reply : Reply c) :
    P.learn c reply = P := by
  have same : { P with owed := none } = P := by rw [← settled]
  cases c <;> first | exact same | simp [Call.name, readingCalls] at other

theorem pauses_of_name (other : c.name ∉ tellingCalls) (reply : Reply c) : K.learn c reply = K :=
  if_neg fun listed => other (mem_append_left _ (mem_append_right _ listed))

/-- All peers are noted at the end. -/
abbrev Settles (keyed : Prop) (K : PeerKnow × PauseKnow) (p : Pass α) : Prop :=
  Reads keyed K p fun K' _ => K'.1.owed = none

variable {p : Pass α}

theorem Only.settles (only : Only names p) (apart : ∀ name ∈ names, name ∉ writingCalls)
    (settled : P.owed = none) : Settles keyed (P, K) p := by
  refine obeys_of_confined (C := passContract keyed) (J := fun K' => K'.1.owed = none)
    (fun K c settled listed => ?_) (fun K c reply _ listed => ?_) settled only
  · have permitted := permits_of_name (K := K.2) (apart c.name (by simpa using listed)) settled
    exact ⟨fun _ => permitted.1, permitted.2⟩
  · exact owed_of_name (apart c.name (by simpa using listed)) reply

/-- A part that makes none of the calls that bear on anything leaves the pass with what it knew. -/
theorem Only.then {rest : α → Pass β} (only : Only names p)
    (apart : ∀ name ∈ names, name ∉ tellingCalls) (settled : P.owed = none)
    (later : ∀ value, Reads keyed (P, K) (rest value) post) :
    Reads keyed (P, K) (p >>= rest) post := by
  have quiet : Reads keyed (P, K) p fun K' _ => K' = (P, K) := by
    refine obeys_of_confined (C := passContract keyed) (J := fun K' => K' = (P, K))
      (fun K' c same listed => ?_) (fun K' c reply same listed => ?_) rfl only
    · have other := apart c.name (by simpa using listed)
      subst same
      have permitted := permits_of_name (c := c) (K := K) (fun listed => other ?_) settled
      · exact ⟨fun _ => permitted.1, permitted.2⟩
      · revert listed
        generalize c.name = name
        cases name <;> decide
    · have other := apart c.name (by simpa using listed)
      subst same
      exact Prod.ext (peers_of_name (fun listed => other (mem_append_left _ (mem_append_left _ listed))) settled reply)
        (pauses_of_name other reply)
  refine quiet.bind fun K' value same => ?_
  rw [same]
  exact later value

/-- A call that bears on nothing. -/
theorem Reads.ask {rest : Reply c → Pass β} (other : tellingCalls.contains c.name = false)
    (settled : P.owed = none) (later : ∀ reply, Reads keyed (P, K) (rest reply) post) :
    Reads keyed (P, K) (AnvilAgents.ask c >>= rest) post := by
  have single : Only [c.name] (AnvilAgents.ask c) := only_ask (by simp)
  refine single.then (fun name member => ?_) settled later
  rw [mem_singleton.mp member]
  simpa using other

/-- A call that bears on pauses only. -/
theorem Reads.tell {rest : Reply c → Pass β} (other : readingCalls.contains c.name = false)
    (settled : P.owed = none) (peers : P.permits c) (pauses : K.permits c)
    (later : ∀ reply, pausePromised c reply →
      Reads keyed (P, K.learn c reply) (rest reply) post) :
    Reads keyed (P, K) (AnvilAgents.ask c >>= rest) post := by
  refine Reads.call (fun _ => peers) pauses fun reply honest => ?_
  rw [peers_of_name (by simpa using other) settled]
  exact later reply honest.2

end Reads

/-! ## The parts of a pass -/

variable {composition : AgentRunResolvedCompositionStatus} {unverified : Option Job} {job : Job}
  {volumes : List String} {promptHash : String}

section Parts

variable {P : PeerKnow} {K : PauseKnow} {r : AgentRunReconciler} {obj original effective : AgentRun}
  {status : AgentRunStatus}

/-- The pass holds this version of its run, and has not asked for a peer. -/
structure Holds (keyed : Prop) (P : PeerKnow) (obj : AgentRun) : Prop where
  read : keyed → P.obj = some obj
  own : keyed → obj.key = P.key
  settled : P.owed = none
  unasked : P.asked = false

theorem ensureRequestedPeerAgentRun_notes {decision : AgentRunDecisionStatus} {logs : RunnerLogs}
    (holds : Holds keyed P obj) :
    Settles keyed (P, K) (ensureRequestedPeerAgentRun obj decision logs) := by
  unfold ensureRequestedPeerAgentRun
  refine .ite (fun _ => .pure holds.settled) fun blank => ?_
  refine .ite (fun _ => .pure holds.settled) fun _ => ?_
  refine Reads.call (fun known => ⟨holds.settled, holds.unasked, ?_, obj, holds.read known,
    by simpa using blank⟩) trivial fun reply _ => ?_
  · rw [String.toList_append]
    exact mem_append_right _ (by decide)
  cases reply with
  | ok peer =>
    -- The peer is owed its note, and the next call is the note.
    refine Reads.call (c := .patchNotes _ _) (fun known => ⟨holds.read known, rfl⟩) trivial
      fun reply _ => ?_
    have quiet : Only [] (written reply ("record peer AgentRun on " ++ obj.key.text)) := only_written
    exact quiet.settles (by simp) rfl
  | _ => exact .fail

variable {now : Nat}

theorem interruptPeer_notes {peer : AgentRun} {summary : String} (settled : P.owed = none) :
    Settles keyed (P, K) (interruptPeer obj summary now peer) := by
  unfold interruptPeer
  refine Reads.call (fun _ => ?_) trivial fun reply _ => ?_
  · show match P.owed with
      | some name => _
      | none => _
    rw [settled]
  · cases reply with
    | ok =>
      refine Reads.call (fun _ => rfl) trivial fun found _ => ?_
      cases found with
      | none => exact .fail
      | some peer => exact patchAgentRunStatus_only.settles (by decide) rfl
    | conflict => exact .pure rfl
    | _ => exact .fail

theorem interruptPeers_notes {named summary : String} (peers : List AgentRun)
    (settled : P.owed = none) : Settles keyed (P, K) (interruptPeers obj named summary now peers) := by
  induction peers generalizing P K with
  | nil => exact .pure settled
  | cons peer peers ih =>
    unfold interruptPeers
    split
    next => exact (interruptPeer_notes settled).bind fun K' _ settled => ih settled
    next => exact ih settled

theorem reconcileMidRunPeerDecisions_notes {logs : RunnerLogs} (holds : Holds keyed P obj) :
    Settles keyed (P, K) (reconcileMidRunPeerDecisions obj status logs) := by
  unfold reconcileMidRunPeerDecisions
  split
  next => exact .pure holds.settled
  refine .ite (fun _ => ensureRequestedPeerAgentRun_notes holds) fun _ => ?_
  refine .ite (fun _ => ?_) fun _ => .pure holds.settled
  unfold interruptDuplicatePeerRuns
  refine Obeys.bind ?_ fun K' _ settled => .pure settled
  refine Reads.ask rfl holds.settled fun peers => ?_
  refine Reads.tell rfl holds.settled holds.settled trivial fun now _ => ?_
  exact interruptPeers_notes peers holds.settled

theorem observeAgentRunJob_notes (holds : Holds keyed P original) :
    Settles keyed (P, K) (observeAgentRunJob r original effective status job now) := by
  have settle {K : PeerKnow × PauseKnow} (settled : K.1.owed = none) {obj : AgentRun}
      {status : AgentRunStatus} {pod : Option RunnerPod} :
      Settles keyed K (settleAgentRun r original obj effective status job pod now) :=
    settleAgentRun_only.settles (by decide) settled
  unfold observeAgentRunJob
  refine Reads.ask rfl holds.settled fun pod => ?_
  cases pod with
  | none => exact settle holds.settled
  | some pod =>
    dsimp only
    split
    next => exact settle holds.settled
    next =>
      exact (reconcileMidRunPeerDecisions_notes holds).bind fun K' obj settled => settle settled

theorem recoverAgentRunJob_notes (holds : Holds keyed P obj) :
    Settles keyed (P, K) (recoverAgentRunJob r obj status job now) := by
  unfold recoverAgentRunJob
  split
  next => exact .fail
  exact validateAgentRunLaunchReceipt_only.then (by decide) holds.settled fun _ =>
    observeAgentRunJob_notes holds

/-- The pass would take a listed Job for that of the run. -/
structure Owns (obj : AgentRun) (job : Job) : Prop where
  label : job.snapshot.labels.run = sanitizeLabelValue obj.key.name
  present : job.deleting = false
  owner : agentRunControllerOwnerMatches job.owner obj = true

/-- What looking for the Job of a run tells. -/
def LookedUp (obj : AgentRun) (ref : Option NamespacedObjectReference) (K : PauseKnow) :
    JobLookup → Prop
  | .absent => ∀ job, K.Listed job → ¬Owns obj job
  | .found job => ref = none → K.Listed job ∧ Owns obj job ∧ job.key.ns = obj.key.ns
  | .missing _ => True

/-- The pass has read its run, and no pauses from the API server. -/
structure Early (K : PauseKnow) (obj : AgentRun) : Prop where
  began : K.Began obj
  unasked : K.Unasked

theorem Early.append {event : Event Call Reply} (early : Early K obj)
    (other : event.1.authoritative = false) : Early (K ++ [event]) obj := by
  refine ⟨early.began.mono (prefix_append _ _), fun event' member => ?_⟩
  rcases mem_append.mp member with earlier | last
  · exact early.unasked event' earlier
  · rw [mem_singleton.mp last]
    exact other

theorem existingAgentRunJob_looks {ref : Option NamespacedObjectReference} {expectedUID : UID}
    {allowPlannedMissing : Bool} (settled : P.owed = none) (early : Early K obj)
    (unlisted : ∀ job, ¬K.Listed job) :
    Reads keyed (P, K) (existingAgentRunJob obj ref expectedUID allowPlannedMissing) fun K' found =>
      K'.1 = P ∧ Early K'.2 obj ∧ LookedUp obj ref K'.2 found := by
  unfold existingAgentRunJob
  split
  next =>
    refine Reads.tell rfl settled settled trivial fun jobs here => ?_
    have read : Early (K ++ [⟨.listJobs obj.key.ns, jobs⟩]) obj := early.append rfl
    split
    next none_ =>
      refine .pure ⟨rfl, read, fun job => ?_⟩
      rintro ⟨ns, jobs', member, among⟩ owns
      rcases mem_append.mp member with earlier | last
      · exact unlisted job ⟨ns, jobs', earlier, among⟩
      · cases mem_singleton.mp last
        have other := filter_eq_nil_iff.mp none_ job among
        simp [owns.label, owns.present, owns.owner] at other
    next job one =>
      refine .pure ⟨rfl, read, fun _ => ?_⟩
      have member : job ∈ [job] := .head _
      rw [← one, mem_filter] at member
      obtain ⟨member, mine⟩ := member
      simp only [Bool.and_eq_true, decide_eq_true_eq, Bool.not_eq_true'] at mine
      have listed : PauseKnow.Listed (K ++ [⟨.listJobs obj.key.ns, jobs⟩]) job :=
        ⟨_, jobs, mem_append_right _ (.head _), member⟩
      exact ⟨listed, ⟨mine.1.1, mine.1.2, mine.2⟩, here job member⟩
    next => exact .fail
  next named given =>
    have isNamed : ref ≠ none := by
      rintro rfl
      cases given
    refine .ite (fun _ => .pure ⟨rfl, early, trivial⟩) fun _ => ?_
    refine Reads.ask rfl settled fun found => ?_
    cases found with
    | none =>
      refine .ite (fun _ => ?_) fun _ => .pure ⟨rfl, early, trivial⟩
      exact .pure ⟨rfl, early, fun job listed => (unlisted job listed).elim⟩
    | some job =>
      refine .ite (fun _ => .pure ⟨rfl, early, trivial⟩) fun _ => ?_
      refine .ite (fun _ => .pure ⟨rfl, early, trivial⟩) fun _ => ?_
      exact .pure ⟨rfl, early, fun unnamed => (isNamed unnamed).elim⟩

/-- The Job that a pass creates is that of the effective run. -/
theorem jobOf_agentRunJob {jobName configMapName : String} :
    JobOf effective (agentRunJob r effective jobName configMapName volumes) :=
  ⟨rfl, rfl, rfl, rfl⟩

theorem ensureAgentRunJob_reads (settled : P.owed = none)
    (permitted : ∀ job, JobOf effective job → job.key.name =
      agentRunChildName r.shortHash [effective.key.name, "harness", promptHash] →
      K.permits (.createJob job)) :
    Reads keyed (P, K) (ensureAgentRunJob r effective promptHash volumes) fun K' _ => K'.1 = P := by
  unfold ensureAgentRunJob
  refine Reads.ask rfl settled fun stored => ?_
  cases stored with
  | none =>
    refine Reads.tell rfl settled settled (permitted _ jobOf_agentRunJob rfl) fun reply _ => ?_
    cases reply with
    | ok job => exact .pure rfl
    | _ => exact .fail
  | some job =>
    refine .ite (fun _ => .fail) fun _ => ?_
    have quiet {fault : Option String} : Only [] (require fault) := only_require
    exact quiet.then (by simp) settled fun _ => .pure rfl

theorem createAndObserveJob_reads (holds : Holds keyed P original)
    (permitted : ∀ job, JobOf effective job → K.permits (.createJob job)) :
    Settles keyed (P, K)
      (createAndObserveJob r original effective status promptHash composition volumes now) := by
  refine (ensureAgentRunJob_reads holds.settled fun job mine _ => permitted job mine).bind ?_
  rintro ⟨_, K'⟩ job rfl
  exact observeAgentRunJob_notes holds

/-- A pass on the way to a launch: it has found no Job of its run. -/
structure Jobless (K : PauseKnow) (obj : AgentRun) : Prop where
  began : K.Began obj
  unlisted : ∀ job, K.Listed job → ¬Owns obj job

/-- The pass has read more, but nothing of Jobs. -/
def Grown (K K' : PauseKnow) : Prop :=
  ∃ more, K' = K ++ more ∧ ∀ event ∈ more, event.1.name ≠ .listJobs

theorem Grown.refl : Grown K K :=
  ⟨[], (append_nil K).symm, by simp⟩

theorem Grown.trans {K' K'' : PauseKnow} (first : Grown K K') (second : Grown K' K'') : Grown K K'' := by
  obtain ⟨more, rfl, others⟩ := first
  obtain ⟨more', rfl, others'⟩ := second
  refine ⟨more ++ more', append_assoc _ _ _, fun event member => ?_⟩
  exact (mem_append.mp member).elim (others event) (others' event)

theorem Grown.sublist {K' : PauseKnow} (grown : Grown K K') : K.Sublist K' := by
  obtain ⟨more, rfl, -⟩ := grown
  exact sublist_append_left _ _

theorem Grown.append {K' : PauseKnow} (grown : Grown K K') {event : Event Call Reply}
    (other : event.1.name ≠ .listJobs) : Grown K (K' ++ [event]) :=
  grown.trans ⟨[event], rfl, by simpa using other⟩

theorem Jobless.grow {K' : PauseKnow} (jobless : Jobless K obj) (grown : Grown K K') :
    Jobless K' obj := by
  obtain ⟨more, rfl, others⟩ := grown
  refine ⟨jobless.began.mono (prefix_append _ _), fun job => ?_⟩
  rintro ⟨ns, jobs, member, among⟩
  rcases mem_append.mp member with earlier | later
  · exact jobless.unlisted job ⟨ns, jobs, earlier, among⟩
  · exact (others _ later rfl).elim

/-- A pass behind the gate: its run has no Job, and the API server reports no pause. -/
structure BehindGate (K : PauseKnow) (obj effective : AgentRun) : Prop extends Jobless K obj where
  passed : K.Passed .apiReader effective
  effective : EffectiveOf obj effective

theorem BehindGate.permits (gate : BehindGate K obj effective) {job : Job}
    (mine : JobOf effective job) : K.permits (.createJob job) := by
  refine ⟨obj, effective, gate.began, gate.effective, mine, .inl ⟨?_, gate.passed⟩⟩
  rintro ⟨old, member, same⟩
  -- A listed Job of this name would have been taken for that of the run.
  obtain ⟨owner, given, identified⟩ := same.identified
  rw [mine.owner] at given
  cases given
  refine gate.unlisted old member ⟨?_, same.present, ?_⟩
  · rw [same.label, mine.label, gate.effective.key]
  · rw [same.owner, mine.owner, gate.effective.key, gate.effective.uid]
    have nonzero : obj.uid ≠ 0 := gate.effective.uid ▸ identified
    simp [agentRunControllerOwnerMatches, nonzero]

theorem launchAgentRun_reads (holds : Holds keyed P obj) (gate : BehindGate K obj effective) :
    Settles keyed (P, K) (launchAgentRun r obj effective composition status volumes now) := by
  unfold launchAgentRun
  have planned : Reads keyed (P, K) (resolveLaunchPlan r effective composition volumes) fun K' plan =>
      K' = (P, K) ∧ ∃ composition, plan.effective = effectiveRun effective effective.spec composition := by
    unfold resolveLaunchPlan
    refine ensureAgentRunConfigMap_only.then (by decide) holds.settled fun payload => ?_
    have quiet {job : Job} : Only [] (agentRunJobSnapshotDigest r job) := agentRunJobSnapshotDigest_only
    refine quiet.then (by simp) holds.settled fun digest => ?_
    exact .pure ⟨rfl, _, rfl⟩
  refine planned.bind ?_
  rintro K' ⟨promptHash, payload, composition, effective', desiredJob, jobSpecDigest⟩
    ⟨rfl, used, same⟩
  subst same
  -- The plan changes the recorded composition of the effective run, and nothing that is checked.
  have permitted {K : PauseKnow} (gate : BehindGate K obj effective) (job : Job)
      (mine : JobOf (effectiveRun effective effective.spec used) job) : K.permits (.createJob job) :=
    gate.permits ⟨mine.ns, mine.owner, mine.label, mine.spec⟩
  refine .ite (fun _ => patchAgentRunStatus_only.settles (by decide) holds.settled) fun _ => ?_
  have quiet {fault : Option String} : Only [] (require fault) := only_require
  refine quiet.then (by simp) holds.settled fun _ => ?_
  refine Reads.tell rfl holds.settled holds.settled trivial fun preflightAt _ => ?_
  have gate : BehindGate (K ++ [⟨.now, preflightAt⟩]) obj effective :=
    ⟨gate.toJobless.grow (Grown.refl.append nofun), gate.passed.mono (sublist_append_left _ _),
      gate.effective⟩
  refine .ite (fun _ => .pure holds.settled) fun _ => ?_
  split
  next => exact createAndObserveJob_reads holds (permitted gate)
  refine Reads.call (fun _ => holds.settled) trivial fun reply honest => ?_
  cases reply with
  | ok run =>
    -- The pass goes on with the version that its patch left.
    refine createAndObserveJob_reads ⟨fun known => if_pos (holds.own known), fun known => ?_, rfl,
      holds.unasked⟩ (permitted gate)
    exact (honest.1 known run rfl).trans (holds.own known)
  | conflict => exact .pure rfl
  | _ => exact .fail

/-! The gates before a launch hand over to what comes behind them. -/

/-- What a run resolves to keeps its schedule, whatever the profile says. -/
def KeepsSchedule (obj : AgentRun) : Composition → Prop
  | .resolved spec _ => spec.scheduleRef = obj.spec.scheduleRef
  | _ => True

section

variable (settled : P.owed = none)

include settled

theorem resolveAgentRunComposition_schedule :
    Reads keyed (P, K) (resolveAgentRunComposition r obj) fun K' composition =>
      K' = (P, K) ∧ KeepsSchedule obj composition := by
  unfold resolveAgentRunComposition
  split
  next => exact .pure ⟨rfl, trivial⟩
  refine resolveAgentRunProfileObject_only.then (by decide) settled fun profile => ?_
  cases profile with
  | error => exact .pure ⟨rfl, trivial⟩
  | ok profile =>
    refine Reads.ask rfl settled fun result => ?_
    cases result with
    | error | blocked => exact .pure ⟨rfl, trivial⟩
    | resolved harness composition => exact .pure ⟨rfl, rfl⟩

theorem resolveForLaunch_reads
    {proceed : AgentRun → AgentRunResolvedCompositionStatus → AgentRunStatus → Pass Unit}
    (later : ∀ effective composition status checkedAt, EffectiveOf obj effective →
      Settles keyed (P, K ++ [⟨.now, checkedAt⟩]) (proceed effective composition status)) :
    Settles keyed (P, K) (resolveForLaunch r obj status now unverified proceed) := by
  have patch {K : PauseKnow} {new : AgentRun} :
      Settles keyed (P, K) (patchAgentRunStatus false obj new) :=
    patchAgentRunStatus_only.settles (by decide) settled
  refine (resolveAgentRunComposition_schedule settled).bind ?_
  rintro K' composition ⟨rfl, schedule⟩
  cases composition with
  | error => exact .fail
  | blocked =>
    cases unverified with
    | some job => exact .fail
    | none => exact patch
  | resolved spec composition =>
    refine Reads.tell rfl settled settled trivial fun checkedAt _ => ?_
    split
    next => exact patch
    next => exact later _ _ _ _ ⟨rfl, rfl, schedule⟩

theorem resolveVolumes_reads {proceed : List String → AgentRunStatus → Pass Unit}
    (later : ∀ volumes status, Settles keyed (P, K) (proceed volumes status)) :
    Settles keyed (P, K) (resolveVolumes obj status now unverified proceed) := by
  refine Reads.ask rfl settled fun result => ?_
  cases result with
  | error => exact .fail
  | blocked =>
    cases unverified with
    | some job => exact .fail
    | none => exact patchAgentRunStatus_only.settles (by decide) settled
  | resolved volumes => exact later _ _

variable {proceed : Pass Unit}

theorem unlessQueued_reads (later : Settles keyed (P, K) proceed) :
    Settles keyed (P, K) (unlessQueued r obj effective status proceed) := by
  refine Reads.ask rfl settled fun reply => ?_
  split
  next => exact .fail
  next =>
    refine Reads.tell rfl settled settled trivial fun queuedAt _ => ?_
    exact patchAgentRunStatus_only.settles (by decide) settled
  next => exact later

/-! The reads of a pause check, one after the other. -/

section Pauses

variable {β : Type} {post : PeerKnow × PauseKnow → β → Prop} {reader : Reader}

theorem suspendedSchedule_reads {rest : Option AgentSchedule → Pass β}
    (later : ∀ K' found, Grown K K' → (found = none → K'.Running reader obj) →
      Reads keyed (P, K') (rest found) post) :
    Reads keyed (P, K) (suspendedSchedule reader obj >>= rest) post := by
  unfold suspendedSchedule
  split
  next unnamed =>
    exact later K none .refl fun _ key named => by simp [unnamed] at named
  next key named =>
    refine Reads.tell rfl settled settled trivial fun found _ => ?_
    refine later _ _ (Grown.refl.append nofun) fun none_ key' named' => ?_
    cases named.symm.trans named'
    refine ⟨found, mem_append_right _ (.head _), fun schedule same => ?_⟩
    subst same
    simpa using none_

theorem readApplicationName_reads {rest : String → Pass β}
    (later : ∀ K' found name, Grown K K' → K'.HasProfile reader obj found →
      specApplicationName obj.spec found = .ok name → Reads keyed (P, K') (rest name) post) :
    Reads keyed (P, K) (readApplicationName reader obj >>= rest) post := by
  have resolve {K' : PauseKnow} {found : Option AgentRunProfile} (grown : Grown K K')
      (has : K'.HasProfile reader obj found) :
      Reads keyed (P, K') (resolvedName (specApplicationName obj.spec found) >>= rest) post := by
    cases named : specApplicationName obj.spec found with
    | error => exact .fail
    | ok name => exact later K' found name grown has named
  unfold readApplicationName readApplicationProfile
  split
  next unnamed =>
    have has : K.HasProfile reader obj none := by simp [PauseKnow.HasProfile, unnamed]
    exact resolve .refl has
  next key named =>
    refine Reads.tell rfl settled settled trivial fun found _ => ?_
    have has : PauseKnow.HasProfile (K ++ [⟨.readProfile reader key, found⟩]) reader obj found := by
      simp [PauseKnow.HasProfile, named]
    exact resolve (Grown.refl.append nofun) has

/-- A check that lets a launch through has read nothing that pauses it. -/
theorem agentRunLaunchPausedWithReader_reads {rest : Option (String × String) → Pass β}
    (later : ∀ K' paused, Grown K K' → (paused = none → K'.Passed reader obj) →
      Reads keyed (P, K') (rest paused) post) :
    Reads keyed (P, K) (agentRunLaunchPausedWithReader reader obj >>= rest) post := by
  have check : Reads keyed (P, K) (agentRunLaunchPausedWithReader reader obj) fun K' paused =>
      K'.1 = P ∧ Grown K K'.2 ∧ (paused = none → K'.2.Passed reader obj) := by
    refine suspendedSchedule_reads settled fun K₁ suspended more running => ?_
    cases suspended with
    | some schedule => exact .pure ⟨rfl, more, nofun⟩
    | none =>
      refine readApplicationName_reads settled fun K₂ found name more₂ has named => ?_
      refine Reads.tell rfl settled settled trivial fun now _ => ?_
      have more : Grown K (K₂ ++ [⟨.now, now⟩]) := more.trans (more₂.append nofun)
      have grown : K₁.Sublist (K₂ ++ [⟨.now, now⟩]) :=
        more₂.sublist.trans (sublist_append_left _ _)
      unfold readActivePause
      split
      next blank =>
        refine .pure ⟨rfl, more, fun _ => ⟨(running rfl).mono grown, found, name, ?_, named, ?_⟩⟩
        · exact has.mono (sublist_append_left _ _)
        · intro given
          rw [blank] at given
          cases given
      next given =>
        refine Reads.tell rfl settled settled trivial fun controls _ => ?_
        have last := sublist_append_left (K₂ ++ [⟨.now, now⟩])
          [(⟨.listControls reader, controls⟩ : Event Call Reply)]
        refine .pure ⟨rfl, more.append nofun, fun none_ => ?_⟩
        refine ⟨(running rfl).mono (grown.trans last), found, name, ?_, named, fun _ => ?_⟩
        · exact has.mono ((sublist_append_left _ _).trans last)
        · refine ⟨now, controls, ?_, ?_⟩
          · exact (sublist_append_right K₂ [⟨.now, now⟩]).append (.refl _)
          · exact activeAgentRunPauseForApplication_eq_none_iff.mp (Option.map_eq_none_iff.mp none_)
              (by simpa using given)
  refine check.bind ?_
  rintro ⟨_, K'⟩ paused ⟨rfl, grown, passed⟩
  exact later K' paused grown passed

theorem unlessPaused_reads
    (later : ∀ K', Grown K K' → K'.Passed reader effective → Settles keyed (P, K') proceed) :
    Settles keyed (P, K) (unlessPaused reader obj effective status proceed) := by
  refine agentRunLaunchPausedWithReader_reads settled fun K' paused grown passed => ?_
  cases paused with
  | some why =>
    refine Reads.tell rfl settled settled trivial fun pausedAt _ => ?_
    exact patchAgentRunStatus_only.settles (by decide) settled
  | none => exact later K' grown (passed rfl)

end Pauses

theorem unlessSecretsStale_reads {proceed : AgentRunStatus → Pass Unit}
    (later : ∀ status, Settles keyed (P, K) (proceed status)) :
    Settles keyed (P, K) (unlessSecretsStale obj status now proceed) := by
  refine Reads.ask rfl settled fun secrets => ?_
  split
  next => exact patchAgentRunStatus_only.settles (by decide) settled
  next => exact later _

end

theorem reconcileUnlaunched_reads (holds : Holds keyed P obj) (jobless : Jobless K obj) :
    Settles keyed (P, K) (reconcileUnlaunched r obj status now) := by
  have settled := holds.settled
  refine .ite (fun _ => ?_) fun _ => ?_
  · exact reconcileAgentRunChatStartupDeadline_only.settles (by decide) settled
  refine resolveForLaunch_reads settled fun effective composition status checkedAt shape => ?_
  have jobless : Jobless (K ++ [⟨.now, checkedAt⟩]) obj := jobless.grow (Grown.refl.append nofun)
  refine unlessPaused_reads settled fun K₁ more _ => unlessQueued_reads settled ?_
  have jobless := jobless.grow more
  refine resolveVolumes_reads settled fun volumes status => ?_
  refine unlessSecretsStale_reads settled fun status => ?_
  refine unlessPaused_reads settled fun K₂ more passed => ?_
  refine .ite (fun _ => reconcileSubstrateActorRun_only.settles (by decide) settled) fun _ => ?_
  exact launchAgentRun_reads holds ⟨jobless.grow more, passed, shape⟩

/-- A Job that nobody recorded is created again when it is gone, whatever pauses the run. -/
theorem adoptAgentRunJob_reads (holds : Holds keyed P obj) (early : Early K obj)
    (listed : K.Listed job) (owns : Owns obj job) (near : job.key.ns = obj.key.ns) :
    Settles keyed (P, K) (adoptAgentRunJob r obj status job now) := by
  have settled := holds.settled
  refine resolveForLaunch_reads settled fun effective composition status checkedAt shape => ?_
  have early : Early (K ++ [⟨.now, checkedAt⟩]) obj := early.append rfl
  refine resolveVolumes_reads settled fun volumes status => ?_
  refine .ite (fun _ => .fail) fun expected => ?_
  refine ensureAgentRunConfigMap_only.then (by decide) settled fun payload => ?_
  refine (ensureAgentRunJob_reads settled fun created mine named => ?_).bind ?_
  · -- The Job that is created takes the place of the one that was listed.
    have owner := owns.owner
    simp only [agentRunControllerOwnerMatches, Bool.and_eq_true, decide_eq_true_eq] at owner
    refine ⟨obj, effective, early.began, shape, ⟨mine.ns, mine.owner, mine.label, mine.spec⟩, .inr ⟨⟨job, ?_, ?_, ?_, ⟨_, mine.owner, ?_⟩,
      owns.present, ?_⟩, early.unasked⟩⟩
    · obtain ⟨ns, jobs, member, among⟩ := listed
      exact ⟨ns, jobs, mem_append_left _ member, among⟩
    · have name : job.key.name = created.key.name :=
        (Classical.not_not.mp expected).trans named.symm
      have ns : job.key.ns = created.key.ns := near.trans ((congrArg Key.ns shape.key).symm.trans mine.ns.symm)
      exact Key.mk.injEq .. ▸ ⟨ns, name⟩
    · rw [owner.2, mine.owner]
      exact congrArg some (congrArg₂ OwnerReference.mk (congrArg Key.name shape.key).symm shape.uid.symm)
    · exact fun zero => owner.1 (shape.uid.symm.trans zero)
    · rw [owns.label, mine.label]
      exact congrArg sanitizeLabelValue (congrArg Key.name shape.key).symm
  · rintro ⟨_, K'⟩ validated rfl
    refine .ite (fun _ => .fail) fun _ => ?_
    have quiet : Only [] (agentRunJobSnapshotDigest r validated) := agentRunJobSnapshotDigest_only
    exact quiet.then (by simp) settled fun digest => observeAgentRunJob_notes holds

/-- A launch that is prepared, and of which no Job is recorded, is looked for under its planned name. -/
theorem expectedJobRef_eq_none {launch : LaunchStatus}
    (unprepared : ¬(decide (launch.jobUID = 0) && agentRunLaunchReceiptComplete launch) = true)
    (unrecorded : launch.jobRef.isNone) : expectedJobRef launch = none := by
  have unplanned : plannedLaunch launch = false := by
    unfold plannedLaunch
    by_contra planned
    simp only [Bool.not_eq_false, Bool.and_eq_true] at planned
    exact unprepared (Bool.and_eq_true_iff.mpr ⟨planned.2, planned.1.1⟩)
  rw [expectedJobRef, unplanned]
  exact Option.isNone_iff_eq_none.mp unrecorded

theorem reconcileLive_reads {key : Key} (holds : Holds keyed P obj) :
    Settles keyed (P, [⟨.getRun key, some obj⟩]) (reconcileLive r obj) := by
  refine Reads.tell rfl holds.settled holds.settled trivial fun now _ => ?_
  have early : Early [⟨.getRun key, some obj⟩, ⟨.now, now⟩] obj :=
    ⟨⟨key, rfl⟩, by simp [PauseKnow.Unasked, Call.authoritative]⟩
  refine (existingAgentRunJob_looks holds.settled early ?_).bind ?_
  · rintro job ⟨ns, jobs, member, -⟩
    simp at member
  rintro ⟨_, K'⟩ found ⟨rfl, early, looked⟩
  cases found with
  | missing => exact patchAgentRunStatus_only.settles (by decide) holds.settled
  | absent => exact reconcileUnlaunched_reads holds ⟨early.began, looked⟩
  | found job =>
    refine .ite (fun _ => recoverAgentRunJob_notes holds) fun unprepared => ?_
    refine .ite (fun unrecorded => ?_) fun _ => observeAgentRunJob_notes holds
    obtain ⟨listed, owns, near⟩ := looked (expectedJobRef_eq_none unprepared unrecorded)
    exact adoptAgentRunJob_reads holds early listed owns near

/-- Every pass creates at most one peer, which it notes before anything else, and reads before a Job. -/
theorem reconcile_reads (key : Key) : Settles keyed ({ key := key }, []) (reconcile r key) := by
  unfold reconcile
  refine Reads.call (fun _ => rfl) trivial fun found honest => ?_
  cases found with
  | none => exact .pure rfl
  | some obj =>
    refine .ite (fun _ => .pure rfl) fun _ => ?_
    split
    next => exact reconcileAgentRunInterruptDuplicateHold_only.settles (by decide) rfl
    refine .ite (fun _ => reconcileTerminalAgentRun_only.settles (by decide) rfl) fun _ => ?_
    exact reconcileLive_reads ⟨fun _ => if_pos rfl, fun known => honest.1 known obj rfl, rfl, rfl⟩

end Parts

end AnvilAgents
