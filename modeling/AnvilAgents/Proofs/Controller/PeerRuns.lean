import AnvilAgents.Proofs.Controller.PassReads
import AnvilAgents.Proofs.Controller.SingleExecution
import AnvilAgents.Lib.Machine

/-!
Peer runs that a run asks for.

The API server names a peer, and its name is noted on the run that asked. The note is a call of its own,
so a worker that stops in between leaves a peer that no later pass knows of.
-/

namespace AnvilAgents

open Conc Text List World System Function Option Nat MergePatch

variable {w w' : World} {r : AgentRunReconciler}

/-! ## Notes on stored runs -/

/-- Runs are kept with their identities, and a peer that is noted stays noted. -/
structure NotesKept (w w' : World) : Prop where
  next : w.nextUID ≤ w'.nextUID
  runs : ∀ key run', w'.runs.get key = some run' →
    (run'.uid = w.nextUID ∧ w.nextUID < w'.nextUID) ∨
      ∃ run, w.runs.get key = some run ∧ run.uid = run'.uid ∧
        (isBlank run.notes.peerRun = false → isBlank run'.notes.peerRun = false)

/-- Notes that name a peer, or leave the noted one alone. -/
def Call.notesPeer : Call → Prop
  | .patchNotes read new =>
    new.notes.peerRun = read.notes.peerRun ∨ isBlank new.notes.peerRun = false
  | .updateNotes _ => False
  | _ => True

variable {c : Call}

theorem serve_notesKept (notes : c.notesPeer) : NotesKept w (serve c w).2 := by
  refine ⟨(serve_counters c w).1, fun key run' found => ?_⟩
  cases serve_run found with
  | same kept => exact .inr ⟨run', kept, rfl, id⟩
  | status own stored meets => exact .inr ⟨_, stored, rfl, id⟩
  | @notes read new stored own there =>
    refine .inr ⟨stored, there, rfl, fun noted => ?_⟩
    show isBlank (field _ _ _) = false
    unfold field
    split
    next => exact noted
    next changed => exact notes.resolve_left changed
  | updatedNotes => exact notes.elim
  | updatedStatus own there current => exact .inr ⟨_, there, rfl, id⟩
  | created named absent next made => exact .inl ⟨rfl, by rw [next]; exact lt_succ_self _⟩

theorem act_notesKept {action : Act} (acted : act action w = some w') : NotesKept w w' := by
  refine ⟨(act_frame acted).2.2.1, fun key run' found => ?_⟩
  cases act_run acted found with
  | same kept => exact .inr ⟨run', kept, rfl, id⟩
  | changed there => exact .inr ⟨_, there, rfl, id⟩
  | created absent next others ran made =>
    exact .inl ⟨rfl, by rw [next]; exact lt_succ_self _⟩

variable {read new run : AgentRun}

theorem patchNotes_noted (changed : new.notes.peerRun ≠ read.notes.peerRun)
    (found : (w.patchNotes read new).2.runs.get new.key = some run) :
    run.notes.peerRun = new.notes.peerRun := by
  unfold patchNotes at found
  cases there : w.runs.get new.key with
  | none =>
    rw [there] at found
    cases there.symm.trans found
  | some stored =>
    have merged : (mergeNotes read.notes new.notes stored.notes).peerRun = new.notes.peerRun := by
      show field _ _ _ = _
      rw [field, if_neg changed]
    simp only [there] at found
    split at found
    next same =>
      cases there.symm.trans found
      rw [← same]
      exact merged
    simp only [putRun, Table.get_put_self, some.injEq] at found
    rw [← found]
    exact merged

/-! ## Requests for peers -/

/-- What a pass over a key knows of peers after the calls it has made. -/
def peerKnow (pid : Key) (seen : List (Event Call Reply)) : PeerKnow :=
  peerContract.know { key := pid } seen

/-- The run for which a step creates a peer, by its UID. -/
def requester (cfg : Config Key Call Reply World) : Move Key Act → List UID
  | .advance pid =>
    match cfg.procs pid with
    | some ⟨_, seen, .call (.createPeer ns generateName spec) _⟩ =>
      match (serve (.createPeer ns generateName spec) cfg.server).1 with
      | .ok _ => ((peerKnow pid seen).obj.map (·.uid)).toList
      | _ => []
    | _ => []
  | _ => []

/-- The controller, with the runs for which a peer was created since it was first started. -/
def peerRequests (r : AgentRunReconciler) :
    Machine (Config Key Call Reply World × List UID) (Move Key Act) where
  next state move :=
    ((controllers r).next state.1 move).map fun cfg => (cfg, requester state.1 move ++ state.2)

/-- No worker stops between creating a peer and the call after it. -/
def peersNoted (cfg : Config Key Call Reply World) : Move Key Act → Bool
  | .stop pid => (cfg.procs pid).all fun p => (peerKnow pid p.seen).owed.isNone
  | _ => true

/-- The pass over a key has created a peer for the run with this UID, and has not noted it yet. -/
def Owes (cfg : Config Key Call Reply World) (key : Key) (uid : UID) : Prop :=
  ∃ p, cfg.procs key = some p ∧ (peerKnow key p.seen).owed.isSome ∧
    ∃ obj, (peerKnow key p.seen).obj = some obj ∧ obj.uid = uid

/-- What holds of one pass in flight. -/
structure PassPeers (w : World) (log : List UID) (pid : Key) (K : PeerKnow) : Prop where
  own : ∀ obj, K.obj = some obj → obj.key = pid
  old : ∀ obj, K.obj = some obj → obj.uid < w.nextUID
  only : ∀ obj, K.obj = some obj → ∀ key run, w.runs.get key = some run → run.uid = obj.uid → key = pid
  free : ∀ obj, K.obj = some obj → K.asked = false → isBlank obj.notes.peerRun = true → obj.uid ∉ log
  name : ∀ name, K.owed = some name → isBlank name = false
  blank : K.owed.isSome → ∀ obj, K.obj = some obj → isBlank obj.notes.peerRun = true

/-- What holds of the controller and the requests so far. -/
structure PeersOnce (r : AgentRunReconciler) (cfg : Config Key Call Reply World) (log : List UID) :
    Prop where
  reached : (controllers r).Reaches Initial (fun _ _ => True) cfg
  conforms : ∀ pid p, cfg.procs pid = some p →
    ∃ K, (passContract True).Conforms (peerKnow pid p.seen, K) p.code fun K _ => K.1.owed = none
  passes : ∀ pid p, cfg.procs pid = some p → PassPeers cfg.server log pid (peerKnow pid p.seen)
  apart : ∀ pid pid' p p' obj obj', cfg.procs pid = some p → cfg.procs pid' = some p' →
    (peerKnow pid p.seen).obj = some obj → (peerKnow pid' p'.seen).obj = some obj' →
    obj.uid = obj'.uid → pid = pid'
  old : ∀ uid ∈ log, uid < cfg.server.nextUID
  noted : ∀ uid ∈ log, ∀ key run, cfg.server.runs.get key = some run → run.uid = uid →
    isBlank run.notes.peerRun = false ∨ Owes cfg key uid
  once : log.Nodup

variable {cfg cfg' : Config Key Call Reply World} {log : List UID} {K : PeerKnow} {pid : Key}

theorem peerKnow_append (pid : Key) (seen : List (Event Call Reply)) (event : Event Call Reply) :
    peerKnow pid (seen ++ [event]) = (peerKnow pid seen).learn event.1 event.2 := by
  simp [peerKnow]

theorem peerLearn_key (K : PeerKnow) (c : Call) (reply : Reply c) : (K.learn c reply).key = K.key := by
  cases c with
  | patchStatus lock read new =>
    cases lock with
    | false => rfl
    | true => cases reply <;> rfl
  | createPeer => cases reply <;> rfl
  | _ => rfl

theorem peerKnow_key (pid : Key) (seen : List (Event Call Reply)) : (peerKnow pid seen).key = pid := by
  induction seen using reverseRecOn with
  | nil => rfl
  | append_singleton seen event ih => rw [peerKnow_append, peerLearn_key, ih]

/-- The version of its run that a pass comes to know is the stored one. -/
theorem peerLearn_obj {obj : AgentRun} (known : (K.learn c (serve c w).1).obj = some obj) :
    K.obj = some obj ∨ ((serve c w).2.runs.get K.key = some obj ∧
      (K.learn c (serve c w).1).asked = K.asked ∧ (K.learn c (serve c w).1).owed = none) := by
  cases c with
  | getRun key =>
    simp only [PeerKnow.learn] at known ⊢
    split at known
    next same =>
      subst same
      exact .inr ⟨known, trivial, trivial⟩
    next => exact .inl known
  | patchStatus lock read new =>
    cases lock with
    | false => exact .inl known
    | true =>
      cases patched : (w.patchStatus true read new).1 with
      | ok run =>
        simp only [PeerKnow.learn, serve, patched] at known ⊢
        split at known
        next same =>
          cases known
          rw [← same]
          obtain ⟨-, -, -, stored, -⟩ := (patchStatus_rewrites true read new).reply patched
          exact .inr ⟨stored, trivial, trivial⟩
        next => exact .inl known
      | _ =>
        simp only [PeerKnow.learn, serve, patched] at known
        exact .inl known
  | createPeer ns generateName spec =>
    simp only [PeerKnow.learn] at known
    split at known <;> exact .inl known
  | _ => exact .inl known

theorem peerLearn_asked {reply : Reply c} (unasked : (K.learn c reply).asked = false) :
    K.asked = false := by
  cases c with
  | patchStatus lock read new =>
    cases lock with
    | false => exact unasked
    | true => cases reply <;> exact unasked
  | createPeer => cases reply <;> cases unasked
  | _ => exact unasked

/-- Only the creation of a peer leaves a note owed. -/
theorem peerLearn_owed {reply : Reply c} {name : String}
    (owed : (K.learn c reply).owed = some name) :
    ∃ ns generateName spec peer, (⟨c, reply⟩ : Event Call Reply) =
        ⟨.createPeer ns generateName spec, WriteReply.ok peer⟩ ∧ name = peer.key.name ∧
      (K.learn c reply).obj = K.obj := by
  cases c with
  | patchStatus lock read new =>
    cases lock with
    | false => cases owed
    | true => cases reply <;> cases owed
  | createPeer ns generateName spec =>
    cases reply with
    | ok peer =>
      cases owed
      exact ⟨ns, generateName, spec, peer, rfl, rfl, rfl⟩
    | _ => cases owed
  | _ => cases owed

theorem PassPeers.frame (pass : PassPeers w log pid K) (kept : NotesKept w w') :
    PassPeers w' log pid K where
  own := pass.own
  old obj known := lt_of_lt_of_le (pass.old obj known) kept.next
  only obj known key run found same := by
    rcases kept.runs key run found with ⟨fresh, -⟩ | ⟨before, there, uid, -⟩
    · -- A new run has a UID of its own.
      have older := pass.old obj known
      rw [← same, fresh] at older
      exact absurd older (lt_irrefl _)
    · exact pass.only obj known key before there (uid.trans same)
  free := pass.free
  name := pass.name
  blank := pass.blank

theorem PassPeers.notes (pass : PassPeers w log pid K) (permitted : K.permits c) :
    c.notesPeer := by
  cases c with
  | patchNotes read new =>
    simp only [PeerKnow.permits] at permitted
    split at permitted
    next name owed =>
      rw [permitted.2]
      exact .inr (pass.name name owed)
    next => exact .inl permitted
  | updateNotes new => exact permitted.elim
  | _ => trivial

/-- Peers stay noted, or owed by the pass that created them, whatever happens to the server. -/
theorem PeersOnce.noted_frame (before : PeersOnce r cfg log) (kept : NotesKept cfg.server w') :
    ∀ uid ∈ log, ∀ key run, w'.runs.get key = some run → run.uid = uid →
      isBlank run.notes.peerRun = false ∨ Owes cfg key uid := by
  intro uid member key run found same
  rcases kept.runs key run found with ⟨fresh, -⟩ | ⟨earlier, there, uid', stays⟩
  · have older := before.old uid member
    rw [← same, fresh] at older
    exact absurd older (lt_irrefl _)
  · exact (before.noted uid member key earlier there (uid'.trans same)).imp stays id

theorem PeersOnce.act {action : Act} (before : PeersOnce r cfg log)
    (acted : act action cfg.server = some w')
    (reached : (controllers r).Reaches Initial (fun _ _ => True) ⟨w', cfg.procs⟩) :
    PeersOnce r ⟨w', cfg.procs⟩ log where
  reached := reached
  conforms := before.conforms
  passes pid p found := (before.passes pid p found).frame (act_notesKept acted)
  apart := before.apart
  old uid member := lt_of_lt_of_le (before.old uid member) (act_notesKept acted).next
  noted := before.noted_frame (act_notesKept acted)
  once := before.once

theorem PassPeers.begin : PassPeers w log pid { key := pid } := by
  have unread {obj : AgentRun} (known : (none : Option AgentRun) = some obj) : False := by
    cases known
  exact ⟨fun _ known => (unread known).elim, fun _ known => (unread known).elim,
    fun _ known => (unread known).elim, fun _ known => (unread known).elim,
    fun _ owed => (some_ne_none _ owed.symm).elim, fun _ _ known => (unread known).elim⟩

/-- A pass that owes no note may end, and a new one may begin in its place. -/
theorem PeersOnce.replace {entry : Option (Proc Call Reply World)} (before : PeersOnce r cfg log)
    (fresh : ∀ p, entry = some p → p = ⟨cfg.server, [], reconcile r pid⟩)
    (settled : ∀ uid, ¬Owes cfg pid uid)
    (reached : (controllers r).Reaches Initial (fun _ _ => True)
      ⟨cfg.server, update cfg.procs pid entry⟩) :
    PeersOnce r ⟨cfg.server, update cfg.procs pid entry⟩ log where
  reached := reached
  conforms other p found := by
    rcases update_cases found with ⟨rfl, started⟩ | ⟨-, earlier⟩
    · cases fresh p started
      exact ⟨{}, Contract.obeys_iff.mp (reconcile_reads other)⟩
    · exact before.conforms other p earlier
  passes other p found := by
    rcases update_cases found with ⟨rfl, started⟩ | ⟨-, earlier⟩
    · cases fresh p started
      exact .begin
    · exact before.passes other p earlier
  apart first second p q obj obj' found found' known known' same := by
    rcases update_cases found with ⟨rfl, started⟩ | ⟨-, earlier⟩
    · cases fresh p started
      cases known
    · rcases update_cases found' with ⟨rfl, started⟩ | ⟨-, earlier'⟩
      · cases fresh q started
        cases known'
      · exact before.apart first second p q obj obj' earlier earlier' known known' same
  old := before.old
  noted uid member key run found same := by
    refine (before.noted uid member key run found same).imp id fun owes => ?_
    have other : key ≠ pid := by
      rintro rfl
      exact settled uid owes
    obtain ⟨p, earlier, rest⟩ := owes
    exact ⟨p, (update_of_ne other _ _).trans earlier, rest⟩
  once := before.once

/-- A step adds a request only if it creates a peer. -/
theorem requester_advance {began : World} {seen : List (Event Call Reply)}
    {rest : Reply c → Pass Unit} (found : cfg.procs pid = some ⟨began, seen, .call c rest⟩)
    (permitted : (peerKnow pid seen).permits c) :
    requester cfg (.advance pid) = [] ∨
      ∃ ns generateName spec peer obj, c = .createPeer ns generateName spec ∧
        (serve (.createPeer ns generateName spec) cfg.server).1 = .ok peer ∧
        (peerKnow pid seen).obj = some obj ∧ isBlank obj.notes.peerRun = true ∧
        (peerKnow pid seen).asked = false ∧ requester cfg (.advance pid) = [obj.uid] := by
  simp only [requester, found]
  cases c with
  | createPeer ns generateName spec =>
    obtain ⟨-, unasked, -, obj, known, blank⟩ := permitted
    dsimp only
    split
    next peer made =>
      refine .inr ⟨ns, generateName, spec, peer, obj, rfl, made, known, blank, unasked, ?_⟩
      rw [known]
      rfl
    next => exact .inl rfl
  | _ => exact .inl rfl

/-- The name of a peer is not blank. -/
theorem createPeer_name {ns generateName : String} {spec : AgentRunSpec} {peer : AgentRun}
    (dashed : '-' ∈ generateName.toList)
    (made : (serve (.createPeer ns generateName spec) w).1 = .ok peer) :
    isBlank peer.key.name = false := by
  simp only [serve, createRun] at made
  split at made
  next => cases made
  cases made
  refine isBlank_of_mem (c := '-') ?_ (by decide)
  simp only [putRun, String.toList_append]
  exact mem_append_left _ dashed

/-- The step of a pass over its own knowledge. -/
theorem PassPeers.advance (pass : PassPeers w log pid K) (key : K.key = pid)
    (permitted : K.permits c) (sound : Sound (serve c w).2)
    (unlogged : ∀ obj, (serve c w).2.runs.get pid = some obj →
      (K.learn c (serve c w).1).owed = none → isBlank obj.notes.peerRun = true → obj.uid ∉ log) :
    PassPeers (serve c w).2 log pid (K.learn c (serve c w).1) := by
  have kept := serve_notesKept (w := w) (pass.notes permitted)
  have framed := pass.frame kept
  have created {name : String} (owed : (K.learn c (serve c w).1).owed = some name) :
      isBlank name = false ∧ (K.learn c (serve c w).1).obj = K.obj ∧
        ∀ obj, K.obj = some obj → isBlank obj.notes.peerRun = true := by
    obtain ⟨ns, generateName, spec, peer, made, rfl, same⟩ := peerLearn_owed owed
    obtain ⟨rfl, reply⟩ := Sigma.mk.inj made
    obtain ⟨-, -, dashed, obj, known, blank⟩ := permitted
    refine ⟨createPeer_name dashed (eq_of_heq reply), same, fun other known' => ?_⟩
    rw [known] at known'
    cases known'
    exact blank
  refine ⟨?_, ?_, ?_, ?_, fun name owed => (created owed).1, ?_⟩
  · intro obj known
    rcases peerLearn_obj known with earlier | ⟨stored, -⟩
    · exact framed.own obj earlier
    · exact (sound.runKey _ _ stored).trans key
  · intro obj known
    rcases peerLearn_obj known with earlier | ⟨stored, -⟩
    · exact framed.old obj earlier
    · exact (sound.runUID _ _ stored).2
  · intro obj known other run found same
    rcases peerLearn_obj known with earlier | ⟨stored, -⟩
    · exact framed.only obj earlier other run found same
    · exact (sound.runUnique _ _ _ _ found stored same).trans key
  · intro obj known unasked blank
    rcases peerLearn_obj known with earlier | ⟨stored, -, settled⟩
    · exact framed.free obj earlier (peerLearn_asked unasked) blank
    · exact unlogged obj (key ▸ stored) settled blank
  · intro owed obj known
    obtain ⟨name, owed⟩ := isSome_iff_exists.mp owed
    obtain ⟨-, same, blank⟩ := created owed
    exact blank obj (same.symm.trans known)

section Advance

variable {began : World} {seen : List (Event Call Reply)} {c : Call} {rest : Reply c → Pass Unit}

/-- The configuration after a pass has made its next call. -/
def afterCall (cfg : Config Key Call Reply World) (pid : Key) (began : World)
    (seen : List (Event Call Reply)) (c : Call) (rest : Reply c → Pass Unit) :
    Config Key Call Reply World :=
  ⟨(serve c cfg.server).2, update cfg.procs pid
    (some ⟨began, seen ++ [⟨c, (serve c cfg.server).1⟩], rest (serve c cfg.server).1⟩)⟩

theorem Owes.elsewhere {key : Key} {uid : UID} (owes : Owes cfg key uid) (other : key ≠ pid) :
    Owes (afterCall cfg pid began seen c rest) key uid := by
  obtain ⟨p, found, rest⟩ := owes
  exact ⟨p, (update_of_ne other _ _).trans found, rest⟩

/-- A pass that owes a note pays it with its next call. -/
theorem PassPeers.pays (pass : PassPeers cfg.server log pid (peerKnow pid seen))
    (permitted : (peerKnow pid seen).permits c) (owed : (peerKnow pid seen).owed.isSome)
    {run : AgentRun} (found : (serve c cfg.server).2.runs.get pid = some run) :
    isBlank run.notes.peerRun = false := by
  obtain ⟨name, owed⟩ := isSome_iff_exists.mp owed
  cases c with
  | patchNotes read new =>
    simp only [PeerKnow.permits, owed] at permitted
    obtain ⟨known, rfl⟩ := permitted
    have nonblank := pass.name name owed
    have blank := pass.blank (by rw [owed]; rfl) read known
    have changed : name ≠ read.notes.peerRun := by
      rintro rfl
      rw [blank] at nonblank
      cases nonblank
    rw [← pass.own read known] at found
    rw [patchNotes_noted changed found]
    exact nonblank
  | createPeer ns generateName spec =>
    rw [permitted.1] at owed
    cases owed
  | updateNotes new => exact permitted.elim
  | _ =>
    rw [show (peerKnow pid seen).owed = none from permitted] at owed
    cases owed

/-- The notes after a call: what was noted stays, and what was owed is noted or still owed. -/
theorem PeersOnce.noted_advance (before : PeersOnce r cfg log)
    (found : cfg.procs pid = some ⟨began, seen, .call c rest⟩) :
    ∀ uid ∈ log, ∀ key run, (serve c cfg.server).2.runs.get key = some run → run.uid = uid →
      isBlank run.notes.peerRun = false ∨ Owes (afterCall cfg pid began seen c rest) key uid := by
  have pass := before.passes pid _ found
  obtain ⟨K, ⟨permitted, -⟩, -⟩ := before.conforms pid _ found
  have permitted := permitted trivial
  intro uid member key run there same
  rcases before.noted_frame (serve_notesKept (pass.notes permitted)) uid member key run there same with
    noted | owes
  · exact .inl noted
  · by_cases own : key = pid
    · subst own
      obtain ⟨p, mine, owed, -⟩ := owes
      cases mine.symm.trans found
      exact .inl (pass.pays permitted owed there)
    · exact .inr (owes.elsewhere own)

theorem PeersOnce.advance (before : PeersOnce r cfg log)
    (found : cfg.procs pid = some ⟨began, seen, .call c rest⟩)
    (reached : (controllers r).Reaches Initial (fun _ _ => True)
      (afterCall cfg pid began seen c rest)) :
    PeersOnce r (afterCall cfg pid began seen c rest) (requester cfg (.advance pid) ++ log) := by
  have pass := before.passes pid _ found
  obtain ⟨K, ⟨permitted, -⟩, later⟩ := before.conforms pid _ found
  have permitted := permitted trivial
  have kept := serve_notesKept (w := cfg.server) (pass.notes permitted)
  have sound : Sound (serve c cfg.server).2 := (controllers_sound reached).1
  have known : peerKnow pid (seen ++ [⟨c, (serve c cfg.server).1⟩]) =
      (peerKnow pid seen).learn c (serve c cfg.server).1 := peerKnow_append pid seen _
  -- The version that the pass knows afterwards is the one it knew, or the stored one.
  have mine : PassPeers (serve c cfg.server).2 log pid
      (peerKnow pid (seen ++ [⟨c, (serve c cfg.server).1⟩])) := by
    rw [known]
    refine pass.advance (peerKnow_key pid seen) permitted sound fun obj there settled blank member => ?_
    rcases before.noted_advance found obj.uid member pid obj there rfl with noted | owes
    · rw [blank] at noted
      cases noted
    · obtain ⟨p, mine, owed, -⟩ := owes
      cases (update_self pid _ cfg.procs).symm.trans mine
      rw [known, settled] at owed
      cases owed
  have theirs {other : Key} {p : Proc Call Reply World} (there : cfg.procs other = some p) :
      PassPeers (serve c cfg.server).2 log other (peerKnow other p.seen) :=
    (before.passes other p there).frame kept
  have apart {other : Key} {p : Proc Call Reply World} {obj obj' : AgentRun}
      (there : cfg.procs other = some p)
      (read : (peerKnow pid (seen ++ [⟨c, (serve c cfg.server).1⟩])).obj = some obj)
      (read' : (peerKnow other p.seen).obj = some obj') (same : obj.uid = obj'.uid) : pid = other := by
    rw [known] at read
    rcases peerLearn_obj read with earlier | ⟨stored, -⟩
    · exact before.apart pid other _ p obj obj' found there earlier read' same
    · rw [peerKnow_key] at stored
      exact (theirs there).only obj' read' pid obj stored same
  have conforms : ∀ other p, (afterCall cfg pid began seen c rest).procs other = some p →
      ∃ K, (passContract True).Conforms (peerKnow other p.seen, K) p.code
        fun K _ => K.1.owed = none := by
    intro other p there
    rcases update_cases there with ⟨rfl, advanced⟩ | ⟨-, earlier⟩
    · cases advanced
      rw [known]
      refine ⟨_, later _ ⟨fun _ => ?_, serve_lists c cfg.server⟩⟩
      have honest := (controllers_sound before.reached).1.honest c
      cases c with
      | getRun key => exact fun run read => (honest run read).1
      | patchStatus lock read new => exact fun run patched => (honest run patched).1
      | _ => trivial
    · exact before.conforms other p earlier
  have pairs : ∀ first second p q obj obj',
      (afterCall cfg pid began seen c rest).procs first = some p →
      (afterCall cfg pid began seen c rest).procs second = some q →
      (peerKnow first p.seen).obj = some obj → (peerKnow second q.seen).obj = some obj' →
      obj.uid = obj'.uid → first = second := by
    intro first second p q obj obj' there there' read read' same
    rcases update_cases there with ⟨rfl, advanced⟩ | ⟨-, earlier⟩
    · rcases update_cases there' with ⟨rfl, -⟩ | ⟨-, earlier'⟩
      · rfl
      · cases advanced
        exact apart earlier' read read' same
    · rcases update_cases there' with ⟨rfl, advanced⟩ | ⟨-, earlier'⟩
      · cases advanced
        exact (apart earlier read' read same.symm).symm
      · exact before.apart first second p q obj obj' earlier earlier' read read' same
  rcases requester_advance found permitted with none_ | ⟨ns, generateName, spec, peer, obj, rfl, made, read,
    blank, unasked, one⟩
  · rw [none_]
    refine ⟨reached, conforms, fun other p there => ?_, pairs, ?_, before.noted_advance found, before.once⟩
    · rcases update_cases there with ⟨rfl, advanced⟩ | ⟨-, earlier⟩
      · cases advanced
        exact mine
      · exact theirs earlier
    · exact fun uid member => lt_of_lt_of_le (before.old uid member) kept.next
  · rw [one]
    have fresh : obj.uid ∉ log := pass.free obj read unasked blank
    refine ⟨reached, conforms, fun other p there => ?_, pairs, ?_, ?_, ?_⟩
    · rcases update_cases there with ⟨rfl, advanced⟩ | ⟨distinct, earlier⟩
      · cases advanced
        refine ⟨mine.own, mine.old, mine.only, fun obj _ asked => ?_, mine.name, mine.blank⟩
        -- The pass has asked now.
        rw [known] at asked
        simp only [PeerKnow.learn, made] at asked
        cases asked
      · have pass' := theirs earlier
        refine ⟨pass'.own, pass'.old, pass'.only, fun obj' read' asked blank member => ?_, pass'.name,
          pass'.blank⟩
        rcases mem_cons.mp member with same | older
        · exact distinct (before.apart pid other _ p obj obj' found earlier read read' same.symm).symm
        · exact pass'.free obj' read' asked blank older
    · intro uid member
      rcases mem_cons.mp member with rfl | older
      · exact lt_of_lt_of_le (pass.old obj read) kept.next
      · exact lt_of_lt_of_le (before.old uid older) kept.next
    · intro uid member key run there same
      rcases mem_cons.mp member with rfl | older
      · -- The run that asked is owed the note.
        have own : key = pid := (pass.frame kept).only obj read key run there same
        subst own
        refine .inr ⟨_, update_self key _ cfg.procs, ?_, obj, ?_, rfl⟩
        · rw [known]
          simp only [PeerKnow.learn, made]
          rfl
        · rw [known]
          simp only [PeerKnow.learn, made]
          exact read
      · exact before.noted_advance found uid older key run there same
    · exact nodup_cons.mpr ⟨fresh, before.once⟩

end Advance

/-! ## At most one peer for each run -/

/-- The controllers just started over some world, with no peer created yet. -/
def NothingRequested (state : Config Key Call Reply World × List UID) : Prop :=
  ∃ w : World, w.Initial ∧ state = (idle w, [])

theorem peersOnce_idle {w : World} (initial : w.Initial) : PeersOnce r (idle w) [] where
  reached := .idle initial
  conforms _ _ there := nomatch there
  passes _ _ there := nomatch there
  apart _ _ _ _ _ _ there := nomatch there
  old _ member := nomatch member
  noted _ member := nomatch member
  once := .nil

/-- One step of the controllers creates no second peer for a run. -/
theorem PeersOnce.step {move : Move Key Act} (before : PeersOnce r cfg log)
    (noted : peersNoted cfg move = true) (next : (controllers r).next cfg move = some cfg') :
    PeersOnce r cfg' (requester cfg move ++ log) := by
  have reached := before.reached.step trivial next
  cases next_cases next with
  | start pid idle =>
    refine before.replace (fun p started => (some.inj started).symm) ?_ reached
    rintro uid ⟨p, there, -⟩
    cases idle.symm.trans there
  | advance pid _ _ _ _ found => exact before.advance found reached
  | stop pid =>
    refine before.replace (fun p started => nomatch started) ?_ reached
    rintro uid ⟨p, there, owed, -⟩
    simp only [peersNoted, there, all_some, isNone_iff_eq_none] at noted
    simp [noted] at owed
  | act action _ acted => exact before.act acted reached

/-- If no worker stops between creating a peer and noting it, no run gets two peers. -/
theorem peers_created_once {cfg : Config Key Call Reply World} {log : List UID}
    (reached : (peerRequests r).Reaches NothingRequested
      (fun state move => peersNoted state.1 move = true) (cfg, log)) :
    ∀ uid, log.count uid ≤ 1 := by
  have once : PeersOnce r (cfg, log).1 (cfg, log).2 := by
    refine reached.invariant (I := fun state => PeersOnce r state.1 state.2) ?_ ?_
    · rintro _ ⟨w, initial, rfl⟩
      exact peersOnce_idle initial
    · rintro ⟨cfg, log⟩ after move - before noted next
      obtain ⟨cfg', stepped, rfl⟩ := map_eq_some_iff.mp next
      exact before.step noted stepped
  exact fun uid => nodup_iff_count_le_one.mp once.once uid

section Sample

/-- A runner whose output asks for a peer. -/
def askingInputs : Inputs := { sampleInputs with
  runnerPod := fun _ => some {
    ref := ⟨"ns", "pod"⟩
    uid := 7
    logs := some {
      text := "t"
      reports := [{ type := "decision", action := agentRunDecisionRequestPeer }]
      peerProfileName := "p" } } }

/-- A run is launched, and its runner asks for a peer. -/
def launchAsking : List (Move Key Act) :=
  .act (.createRun ⟨"ns", "x"⟩ {} {}) :: work ⟨"ns", "x"⟩ 14 ++ work ⟨"ns", "x"⟩ 16 ++
    [.act (.setInputs askingInputs)]

theorem peers_created_once_noted :
    ∃ cfg, (peerRequests sampleReconciler).Reaches NothingRequested
      (fun state move => peersNoted state.1 move = true) (cfg, [1]) ∧ [1].count 1 ≤ 1 := by
  obtain ⟨⟨cfg, log⟩, played, asked⟩ : ∃ state ∈ (peerRequests sampleReconciler).play
      (fun state move => peersNoted state.1 move) (launchAsking ++ work ⟨"ns", "x"⟩ 8 ++ work ⟨"ns", "x"⟩ 5)
      (idle sampleWorld, []), state.2 = [1] := by
    decide +kernel
  cases asked
  have reached : (peerRequests sampleReconciler).Reaches NothingRequested
      (fun state move => peersNoted state.1 move = true) (cfg, [1]) :=
    .play (.start ⟨sampleWorld, sampleWorld_initial, rfl⟩) (fun _ _ passes => passes) played
  exact ⟨cfg, reached, peers_created_once reached 1⟩

/-- A worker crashes right after it created the peer, and the next one creates another. -/
theorem peer_created_twice :
    ∃ cfg log, (peerRequests sampleReconciler).Reaches NothingRequested (fun _ _ => True) (cfg, log) ∧
      log.count 1 = 2 := by
  obtain ⟨⟨cfg, log⟩, played, asked⟩ : ∃ state ∈ (peerRequests sampleReconciler).play
      (fun _ _ => true) (launchAsking ++ work ⟨"ns", "x"⟩ 6 ++ work ⟨"ns", "x"⟩ 8)
      (idle sampleWorld, []), state.2.count 1 = 2 := by
    decide +kernel
  exact ⟨cfg, log, .play (.start ⟨sampleWorld, sampleWorld_initial, rfl⟩) (fun _ _ _ => trivial) played,
    asked⟩

end Sample

end AnvilAgents
