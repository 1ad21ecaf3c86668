import AnvilAgents.Proofs.Standing.Conformance
import AnvilAgents.Proofs.Controller.Soundness

/-! What holds of the server, of every reconcile and of every drive, however they interleave. -/

namespace AnvilAgents

open Conc Text World System Contract

variable {w w' : World} {key : Key} {read : AgentRun} {K : Know} {D : DriveKnow} {c : Call}
  {server : Server}

/-- Every stored run has a version that was handed out before. -/
def Versioned (w : World) : Prop :=
  ∀ key run, w.runs.get key = some run → run.resourceVersion < w.nextVersion

theorem Versioned.rewritten (versioned : Versioned w) (written : Rewritten w w') : Versioned w' := by
  intro key run found
  rcases written.run key run found with before | ⟨new, grown⟩
  · exact lt_of_lt_of_le (versioned key run before) written.grows
  · exact new ▸ grown

/-- A run as it was read at some point: as long as its version is the stored one, so is all of it. -/
structure Snapshot (w : World) (key : Key) (read : AgentRun) : Prop where
  issued : read.resourceVersion < w.nextVersion
  current : ∀ stored, w.runs.get key = some stored →
    stored.resourceVersion = read.resourceVersion → stored = read

theorem Snapshot.of_stored (versioned : Versioned w) (found : w.runs.get key = some read) :
    Snapshot w key read :=
  ⟨versioned key read found, fun _ stored _ => Option.some.inj (stored.symm.trans found)⟩

/-- Versions are never handed out twice, so a snapshot stays one. -/
theorem Snapshot.rewritten (snapshot : Snapshot w key read) (written : Rewritten w w') :
    Snapshot w' key read := by
  refine ⟨lt_of_lt_of_le snapshot.issued written.grows, fun stored found same => ?_⟩
  rcases written.run key stored found with before | ⟨new, -⟩
  · exact snapshot.current stored before same
  · have issued := snapshot.issued
    omega

/-- A step that leaves identity and launch fields of every run alone, and Jobs altogether. -/
structure LaunchFrame (w w' : World) : Prop where
  run : ∀ key run', w'.runs.get key = some run' → ∃ run, w.runs.get key = some run ∧
    run.uid = run'.uid ∧ run.key = run'.key ∧ run.status.launch = run'.status.launch
  stays : ∀ key, LaunchStays w w' key
  jobs : w'.jobs = w.jobs
  created : w'.created = w.created
  uids : w.nextUID ≤ w'.nextUID

theorem Sound.frame (sound : Sound w) (frame : LaunchFrame w w') : Sound w' := by
  obtain ⟨runKey, runUID, runUnique⟩ := sound.identified frame.uids fun found => by
    obtain ⟨run, was, uid, key, -⟩ := frame.run _ _ found
    exact .inl ⟨run, was, uid, key⟩
  refine ⟨runKey, runUID, runUnique, fun key run' found => ?_, frame.jobs ▸ sound.job, ?_,
    lt_of_lt_of_le sound.positive frame.uids, fun made member owner owned => ?_, ?_, fun uid => ?_⟩
  · obtain ⟨run, was, -, -, same⟩ := frame.run key run' found
    exact same ▸ sound.launch key run was
  · rw [frame.jobs, frame.created]
    exact sound.logged
  · exact lt_of_lt_of_le (sound.owner made (frame.created ▸ member) owner owned) frame.uids
  · intro key run' found unattempted made member owner owned
    obtain ⟨run, was, uid, -, launch⟩ := frame.run key run' found
    rw [frame.created] at member
    exact uid ▸ sound.unattempted key run was (launch ▸ unattempted) made member owner owned
  · simpa [createdFor, frame.created] using sound.single uid

variable {began : World}

theorem PassSound.frame {pid : Key} (pass : PassSound w pid began K) (frame : LaunchFrame w w') :
    PassSound w' pid began K := by
  refine pass.aside (.refl K) (fun _ => frame.stays K.key) ?_ ?_
  · rw [frame.created]
    exact fun waits => (pass.pending waits).2.2
  · rw [frame.created]
    exact pass.saw

/--
A claim that a drive stored.

It is on a run that is not finished, and carries the drive's name and a time at which it looked at the
clock.
-/
structure ClaimedBy (D : DriveKnow) (run : AgentRun) : Prop where
  key : run.key = D.key
  unfinished : run.status.phase ≠ .succeeded ∧ run.status.phase ≠ .failed
  claim : ∃ now ∈ D.clocks, now / second ≠ 0 ∧
    run.notes.standingClaim = some ⟨trimSpace D.turnID, D.owner, now / second⟩

/-- What holds of a drive in flight. -/
structure DriveSound (w : World) (D : DriveKnow) : Prop where
  clocks : ∀ now ∈ D.clocks, now ≤ w.clock
  read : ∀ run, D.read = some run → Snapshot w D.key run ∧ run.key = D.key
  claimed : ∀ run, D.claimed = some run → Snapshot w D.key run ∧ ClaimedBy D run

/-- What others do leaves a drive's snapshots snapshots. -/
theorem DriveSound.rewritten (sound : DriveSound w D) (written : Rewritten w w')
    (later : w.clock ≤ w'.clock) : DriveSound w' D where
  clocks now taken := le_trans (sound.clocks now taken) later
  read run known := ⟨(sound.read run known).1.rewritten written, (sound.read run known).2⟩
  claimed run known := ⟨(sound.claimed run known).1.rewritten written, (sound.claimed run known).2⟩

section Drive

/-- A reply is recorded beside the launch fields, never over them. -/
theorem Answered.launch {run new : AgentRun} (answered : Answered server D run new) :
    new.status.launch = run.status.launch := by
  obtain ⟨_, _, _, _, -, shape⟩ := answered
  rw [shape]
  rfl

theorem DriveKnow.learn_self (D : DriveKnow) (c : Call) (reply : Reply c) :
    (D.learn c reply).owner = D.owner ∧ (D.learn c reply).key = D.key ∧
      (D.learn c reply).turnID = D.turnID ∧ D.clocks ⊆ (D.learn c reply).clocks := by
  have same : D.owner = D.owner ∧ D.key = D.key ∧ D.turnID = D.turnID ∧ D.clocks ⊆ D.clocks :=
    ⟨rfl, rfl, rfl, fun _ => id⟩
  cases c with
  | now => exact ⟨rfl, rfl, rfl, fun _ => List.mem_cons_of_mem _⟩
  | updateNotes | updateStatus | streamTurn => cases reply <;> exact same
  | _ => exact same

theorem ClaimedBy.learn {run : AgentRun} (mine : ClaimedBy D run) (reply : Reply c) :
    ClaimedBy (D.learn c reply) run := by
  obtain ⟨owner, key, turnID, clocks⟩ := D.learn_self c reply
  obtain ⟨now, taken, claim⟩ := mine.claim
  exact ⟨key ▸ mine.key, mine.unfinished, now, clocks taken, by rwa [owner, turnID]⟩

/-- A claim that was stored: the version it was decided on was the stored one. -/
structure WonClaim (w : World) (D : DriveKnow) (fresh : AgentRun) (now : Nat) (new run : AgentRun) :
    Prop where
  unclaimed : D.claimed = none
  taken : now ∈ D.clocks
  claims : Claims D fresh now new
  before : w.runs.get D.key = some fresh
  after : (serve (.updateNotes new) w).2.runs.get D.key = some run
  notes : run.notes = new.notes
  status : run.status = fresh.status
  key : run.key = D.key

variable (sound : DriveSound w D)

include sound

/-- The version a drive records its reply on, if it is still the stored one. -/
theorem DriveSound.answering {new stored : AgentRun}
    (permitted : D.permits server (.updateStatus new)) (found : w.runs.get new.key = some stored)
    (current : stored.resourceVersion = new.resourceVersion) :
    new.key = D.key ∧ D.claimed = some stored ∧ Answered server D stored new := by
  obtain ⟨-, run, claimed, answered⟩ := permitted
  obtain ⟨snapshot, mine⟩ := sound.claimed run claimed
  obtain ⟨harnessKind, runtime, reply, completedAt, answers, shape⟩ := answered
  have at_key : new.key = D.key := by rw [shape, mine.key]
  have same : stored = run :=
    snapshot.current stored (at_key ▸ found) (by rw [current, shape])
  exact ⟨at_key, same ▸ claimed, harnessKind, runtime, reply, completedAt, answers, same ▸ shape⟩

/-- A call of a drive leaves a run alone, changes its annotations, or records a reply on it. -/
theorem DriveSound.run {after : Option AgentRun} (permitted : D.permits server c)
    (step : RunStep w key c after) :
    after = w.runs.get key ∨ ∃ stored, w.runs.get key = some stored ∧
      ((∃ new, c = .updateNotes new ∧ new.key = key ∧ stored.resourceVersion = new.resourceVersion ∧
          after = some { stored with notes := new.notes, resourceVersion := w.nextVersion }) ∨
        ∃ new, c = .updateStatus new ∧ new.key = key ∧ D.key = key ∧ D.claimed = some stored ∧
          Answered server D stored new ∧
          after = some { stored with status := new.status, resourceVersion := w.nextVersion }) := by
  cases step with
  | same kept => exact .inl kept.symm
  | @updatedNotes new stored own found current =>
    exact .inr ⟨stored, found, .inl ⟨new, rfl, own, current, rfl⟩⟩
  | @updatedStatus new stored own found current =>
    obtain ⟨at_key, claimed, answered⟩ := sound.answering permitted (own ▸ found) current
    exact .inr ⟨stored, found,
      .inr ⟨new, rfl, own, at_key.symm.trans own, claimed, answered, rfl⟩⟩
  | status | notes | created | deleted => exact absurd permitted id

/-- No call of a drive touches launch fields or Jobs. -/
theorem DriveSound.launchFrame (permitted : D.permits server c) : LaunchFrame w (serve c w).2 := by
  have kind : c.isJobOrArchive = false := by
    cases c <;> first | rfl | exact absurd permitted id
  have untouched := serve_untouched (w := w) kind
  have step (key : Key) := sound.run permitted (serve_run (rfl : (serve c w).2.runs.get key = _))
  refine ⟨fun key run' found => ?_, fun key run found => ?_, untouched.jobs, untouched.created,
    untouched.uids⟩
  · rcases step key with same | ⟨stored, was, ⟨new, -, -, -, after⟩ | ⟨new, -, -, -, -, answered, after⟩⟩
    · exact ⟨run', same ▸ found, rfl, rfl, rfl⟩
    · cases found.symm.trans after
      exact ⟨stored, was, rfl, rfl, rfl⟩
    · cases found.symm.trans after
      exact ⟨stored, was, rfl, rfl, answered.launch.symm⟩
  · rcases step key with same | ⟨stored, was, ⟨new, -, -, -, after⟩ | ⟨new, -, -, -, -, answered, after⟩⟩
    · exact ⟨run, same ▸ found, rfl, rfl⟩
    · cases found.symm.trans was
      exact ⟨_, after, rfl, rfl⟩
    · cases found.symm.trans was
      exact ⟨_, after, rfl, answered.launch⟩

theorem DriveSound.won {new run : AgentRun} (permitted : D.permits server (.updateNotes new))
    (stored : (serve (.updateNotes new) w).1 = .ok run) :
    ∃ fresh now, WonClaim w D fresh now new run := by
  obtain ⟨unclaimed, fresh, now, read, taken, claims⟩ := permitted
  obtain ⟨snapshot, mine⟩ := sound.read fresh read
  have at_key : new.key = D.key := by
    rw [claims.shape]
    exact mine
  obtain ⟨before, found, current, after, change⟩ := (replaceRun_rewrites _ _).reply stored
  rw [at_key] at found after
  have same : before = fresh := by
    refine snapshot.current before found ?_
    rw [current, claims.shape]
  subst same
  have changed : run.notes = new.notes ∧ run.status = before.status ∧ run.key = before.key := by
    rcases change with ⟨rfl, unchanged⟩ | rfl
    · exact ⟨by rw [← unchanged], rfl, rfl⟩
    · exact ⟨rfl, rfl, rfl⟩
  exact ⟨before, now, unclaimed, taken, claims, found, after, changed.1, changed.2.1,
    changed.2.2.trans mine⟩

/-- What a drive knows stays true through each of its own calls. -/
theorem DriveSound.learn (global : Sound w) (versioned : Versioned w)
    (permitted : D.permits server c) : DriveSound (serve c w).2 (D.learn c (serve c w).1) := by
  have later := sound.rewritten (serve_rewritten c w) (le_of_eq (serve_clock c w).symm)
  obtain ⟨-, at_key, -, -⟩ := D.learn_self c (serve c w).1
  -- What was known before the call is still true of what is known after it.
  have stays (run : AgentRun) (known : D.claimed = some run) :
      Snapshot (serve c w).2 (D.learn c (serve c w).1).key run ∧
        ClaimedBy (D.learn c (serve c w).1) run :=
    ⟨at_key ▸ (later.claimed run known).1, (later.claimed run known).2.learn _⟩
  cases c with
  | now =>
    refine ⟨fun now taken => ?_, later.read, stays⟩
    rcases List.mem_cons.mp taken with rfl | earlier
    · exact le_refl _
    · exact later.clocks now earlier
  | getRun key =>
    obtain rfl : key = D.key := permitted
    exact ⟨later.clocks, fun run found => ⟨.of_stored versioned found, global.runKey _ run found⟩, stays⟩
  | updateNotes new =>
    generalize answer : (serve (.updateNotes new) w).1 = reply at *
    cases reply with
    | ok run =>
      refine ⟨later.clocks, later.read, ?_⟩
      rintro _ ⟨⟩
      obtain ⟨fresh, now, won⟩ := sound.won permitted answer
      have mine : ClaimedBy D run :=
        ⟨won.key, won.status ▸ won.claims.unfinished, now, won.taken, won.claims.dated,
          by rw [won.notes, won.claims.shape]⟩
      exact ⟨.of_stored (versioned.rewritten (serve_rewritten _ w)) won.after,
        mine.learn (c := .updateNotes new) (WriteReply.ok run)⟩
    | notFound | conflict | alreadyExists | invalid => exact later
  | updateStatus new =>
    generalize (serve (.updateStatus new) w).1 = reply at *
    cases reply <;> exact ⟨later.clocks, later.read, stays⟩
  | streamTurn turnID prompt =>
    generalize (serve (.streamTurn turnID prompt) w).1 = reply at *
    cases reply <;> exact ⟨later.clocks, later.read, stays⟩
  | _ => exact later

end Drive

section Platform

variable {r : AgentRunReconciler} {chat : Chat} {good : Config Worker Call Reply World → Move Worker Act → Prop}
  {cfg : Config Worker Call Reply World}

/-- What a worker knows after the calls it has made. -/
abbrev Worker.know (r : AgentRunReconciler) (chat : Chat) (worker : Worker)
    (seen : List (Event Call Reply)) : (platformContract chat).Know :=
  (platformContract chat).know (platformStart r chat worker) seen

/-- What a reconcile knows after the calls it has made. -/
abbrev passKnow (r : AgentRunReconciler) (key : Key) (seen : List (Event Call Reply)) : Know :=
  reconcileContract.know (Know.start r key) seen

/-- What a drive knows after the calls it has made. -/
abbrev driveKnow (chat : Chat) (replica : Replica) (key : Key) (seen : List (Event Call Reply)) :
    DriveKnow :=
  (driveContract chat.server).know (DriveKnow.start chat replica key) seen

theorem know_controller (key : Key) (seen : List (Event Call Reply)) :
    Worker.know r chat (.controller key) seen = .inl (passKnow r key seen) :=
  know_inl _ seen

theorem know_drive (replica : Replica) (key : Key) (seen : List (Event Call Reply)) :
    Worker.know r chat (.drive replica key) seen = .inr (driveKnow chat replica key seen) :=
  know_inr _ seen

/-- A drive keeps its identity through all of its calls. -/
theorem DriveKnow.know_self (server : Server) (D : DriveKnow) (seen : List (Event Call Reply)) :
    ((driveContract server).know D seen).owner = D.owner ∧
      ((driveContract server).know D seen).key = D.key ∧
      ((driveContract server).know D seen).turnID = D.turnID := by
  induction seen generalizing D with
  | nil => exact ⟨rfl, rfl, rfl⟩
  | cons event seen ih =>
    obtain ⟨owner, at_key, turnID⟩ := ih (D.learn event.1 event.2)
    obtain ⟨owner', at_key', turnID', -⟩ := D.learn_self event.1 event.2
    exact ⟨owner.trans owner', at_key.trans at_key', turnID.trans turnID'⟩

theorem driveKnow_self (chat : Chat) (replica : Replica) (key : Key)
    (seen : List (Event Call Reply)) :
    (driveKnow chat replica key seen).owner = replica.owner ∧
      (driveKnow chat replica key seen).key = key ∧
      (driveKnow chat replica key seen).turnID = (DriveKnow.start chat replica key).turnID :=
  DriveKnow.know_self chat.server (DriveKnow.start chat replica key) seen

/-- What holds of a worker in flight. -/
inductive WorkerSound (w began : World) : Worker → Know ⊕ DriveKnow → Prop
  | controller {key : Key} {K : Know} (pass : PassSound w key began K) :
      WorkerSound w began (.controller key) (.inl K)
  | drive {replica : Replica} {key : Key} {D : DriveKnow} (drive : DriveSound w D) :
      WorkerSound w began (.drive replica key) (.inr D)

theorem WorkerSound.start (w : World) (worker : Worker) :
    WorkerSound w w worker (platformStart r chat worker) := by
  cases worker with
  | controller key => exact .controller (.start w key)
  | drive replica key =>
    exact .drive ⟨by simp [DriveKnow.start], by simp [DriveKnow.start], by simp [DriveKnow.start]⟩

/-- A permitted call leaves the server sound, and what its caller knows true. -/
theorem WorkerSound.learn {worker : Worker} {K : Know ⊕ DriveKnow} (sound : Sound w)
    (versioned : Versioned w) (mine : WorkerSound w began worker K)
    (permitted : (platformContract chat).permits K c) :
    Sound (serve c w).2 ∧
      WorkerSound (serve c w).2 began worker ((platformContract chat).learn K c (serve c w).1) := by
  cases mine with
  | controller pass =>
    exact ⟨pass.serve_sound sound permitted, .controller (pass.learn sound permitted)⟩
  | drive drive =>
    exact ⟨sound.frame (drive.launchFrame permitted),
      .drive (drive.learn sound versioned permitted)⟩

/-- What the other workers know stays true as well. -/
theorem WorkerSound.elsewhere {began began' : World} {worker other : Worker} {K K' : Know ⊕ DriveKnow}
    (sound : Sound w) (mine : WorkerSound w began worker K)
    (permitted : (platformContract chat).permits K c) (distinct : other ≠ worker)
    (theirs : WorkerSound w began' other K') : WorkerSound (serve c w).2 began' other K' := by
  cases theirs with
  | drive drive =>
    exact .drive (drive.rewritten (serve_rewritten c w) (le_of_eq (serve_clock c w).symm))
  | controller pass =>
    cases mine with
    | controller mine =>
      refine .controller (mine.elsewhere sound permitted ?_ pass)
      rintro rfl
      exact distinct rfl
    | drive drive => exact .controller (pass.frame (drive.launchFrame permitted))

theorem WorkerSound.act {worker : Worker} {K : Know ⊕ DriveKnow} {action : Act}
    (mine : WorkerSound w began worker K) (acted : act action w = some w') :
    WorkerSound w' began worker K := by
  cases mine with
  | controller pass => exact .controller (pass.act acted)
  | drive drive =>
    obtain ⟨-, -, -, -, clock⟩ := act_frame acted
    exact .drive (drive.rewritten (act_rewritten acted) clock)

theorem World.Initial.versioned (initial : w.Initial) : Versioned w := by
  intro key run found
  simp [initial.runs, Table.empty] at found

/-- Every worker keeps its part of the contract. -/
theorem platform_conforms (worker : Worker) :
    (platformContract chat).Conforms (platformStart r chat worker) ((platform r chat).program worker)
      fun _ _ => True := by
  cases worker with
  | controller key => exact (reconcile_conforms r key).inl
  | drive replica key => exact (drive_conforms chat replica key).inr

section

variable (reached : (platform r chat).Reaches Initial good cfg)

include reached

/-- Every reachable server is sound, and so is what every worker in flight knows. -/
theorem platform_sound :
    (Sound cfg.server ∧ Versioned cfg.server) ∧ ∀ worker p, cfg.procs worker = some p →
      ((platformContract chat).Conforms (worker.know r chat p.seen) p.code fun _ _ => True) ∧
      WorkerSound cfg.server p.began worker (worker.know r chat p.seen) := by
  refine reached.local_invariant (C := platformContract chat) (G := fun w => Sound w ∧ Versioned w)
    (L := fun w worker began K => WorkerSound w began worker K) (platformStart r chat)
    platform_conforms ?_ ?_ ?_ ?_ ?_ ?_
  · exact fun cfg _ sound c => ⟨sound.1.honest c, trivial⟩
  · exact fun w initial => ⟨initial.sound, initial.versioned⟩
  · exact fun cfg worker _ _ _ => .start cfg.server worker
  · intro cfg worker began seen request _ _ _ sound mine permitted
    obtain ⟨after, learnt⟩ := mine.learn sound.1 sound.2 permitted
    exact ⟨⟨after, sound.2.rewritten (serve_rewritten request cfg.server)⟩, learnt⟩
  · intro cfg worker began seen request other p _ _ _ sound mine permitted distinct _ theirs
    exact mine.elsewhere sound.1 permitted distinct theirs
  · intro cfg action w' _ _ acted sound
    exact ⟨⟨sound.1.act acted, sound.2.rewritten (act_rewritten acted)⟩,
      fun worker p _ mine => mine.act acted⟩

variable {p : Proc Call Reply World}

/-- What a drive in flight knows is true of the server. -/
theorem drive_sound {replica : Replica} {key : Key}
    (found : cfg.procs (.drive replica key) = some p) :
    DriveSound cfg.server (driveKnow chat replica key p.seen) := by
  have mine := ((platform_sound reached).2 _ p found).2
  rw [know_drive] at mine
  cases mine with
  | drive drive => exact drive

variable {seen : List (Event Call Reply)}

/-- A drive makes only calls its contract permits. -/
theorem drive_permits {replica : Replica} {key : Key} {request : Call}
    (calling : Calling cfg (.drive replica key) began seen request) :
    (driveKnow chat replica key seen).permits chat.server request := by
  obtain ⟨rest, found⟩ := calling
  have conforms := ((platform_sound reached).2 _ _ found).1
  rw [know_drive] at conforms
  exact conforms.1

/-- What a reconcile in flight knows is true of the server. -/
theorem pass_sound {key : Key} (found : cfg.procs (.controller key) = some p) :
    PassSound cfg.server key p.began (passKnow r key p.seen) := by
  have mine := ((platform_sound reached).2 _ p found).2
  rw [know_controller] at mine
  cases mine with
  | controller pass => exact pass

/-- A reconcile makes only calls its contract permits. -/
theorem pass_permits {key : Key} {request : Call}
    (calling : Calling cfg (.controller key) began seen request) :
    (passKnow r key seen).permits request := by
  obtain ⟨rest, found⟩ := calling
  have conforms := ((platform_sound reached).2 _ _ found).1
  rw [know_controller] at conforms
  exact conforms.1

end

/--
The invariant rule for what reconciles know, on a platform with drives.

The calls of a reconcile and those of a drive are looked at separately, each with what is already known
of its caller.
-/
theorem platform_passes {G : World → Prop} {L : World → Know → Prop}
    (base : ∀ w, w.Initial → G w) (begun : ∀ w key, L w (Know.start r key))
    (own : ∀ cfg key began seen request, (platform r chat).Reaches Initial good cfg →
      good cfg (.advance (.controller key)) →
      Calling cfg (.controller key) began seen request → G cfg.server →
      PassSound cfg.server key began (passKnow r key seen) → L cfg.server (passKnow r key seen) →
      (passKnow r key seen).permits request →
      G (serve request cfg.server).2 ∧
        L (serve request cfg.server).2 ((passKnow r key seen).learn request (serve request cfg.server).1))
    (driven : ∀ cfg replica key began seen request, (platform r chat).Reaches Initial good cfg →
      good cfg (.advance (.drive replica key)) →
      Calling cfg (.drive replica key) began seen request → G cfg.server →
      DriveSound cfg.server (driveKnow chat replica key seen) →
      (driveKnow chat replica key seen).permits chat.server request → G (serve request cfg.server).2)
    (others : ∀ cfg worker began seen request key p, (platform r chat).Reaches Initial good cfg →
      good cfg (.advance worker) → Calling cfg worker began seen request →
      .controller key ≠ worker → cfg.procs (.controller key) = some p → G cfg.server →
      L cfg.server (passKnow r key p.seen) → L (serve request cfg.server).2 (passKnow r key p.seen))
    (env : ∀ cfg action s, (platform r chat).Reaches Initial good cfg → good cfg (.act action) →
      act action cfg.server = some s → G cfg.server →
      G s ∧ ∀ key seen, L cfg.server (passKnow r key seen) → L s (passKnow r key seen))
    (reached : (platform r chat).Reaches Initial good cfg) :
    G cfg.server ∧ ∀ key p, cfg.procs (.controller key) = some p →
      L cfg.server (passKnow r key p.seen) := by
  have holds := reached.invariant
    (I := fun cfg => G cfg.server ∧ ∀ key p, cfg.procs (.controller key) = some p →
      L cfg.server (passKnow r key p.seen)) ?_ ?_
  · exact holds
  · exact fun w initial => ⟨base w initial, fun key p found => by cases found⟩
  · intro cfg cfg' move before holds meets stepped
    obtain ⟨global, passes⟩ := holds
    cases stepped with
    | start mover free =>
      refine ⟨global, fun key p found => ?_⟩
      rcases update_cases found with ⟨rfl, started⟩ | ⟨-, earlier⟩
      · cases started
        exact begun _ key
      · exact passes key p earlier
    | stop mover =>
      refine ⟨global, fun key p found => ?_⟩
      rcases update_cases found with ⟨-, stopped⟩ | ⟨-, earlier⟩
      · cases stopped
      · exact passes key p earlier
    | act action s acted =>
      obtain ⟨after, stays⟩ := env cfg action s before meets acted global
      exact ⟨after, fun key p found => stays key p.seen (passes key p found)⟩
    | advance mover began seen request rest calling =>
      refine ⟨?_, fun key p found => ?_⟩
      · cases mover with
        | controller key =>
          exact (own cfg key began seen request before meets ⟨rest, calling⟩ global
            (pass_sound before calling) (passes key _ calling) (pass_permits before ⟨rest, calling⟩)).1
        | drive replica key =>
          exact driven cfg replica key began seen request before meets ⟨rest, calling⟩ global
            (drive_sound before calling) (drive_permits before ⟨rest, calling⟩)
      · rcases update_cases found with ⟨rfl, advanced⟩ | ⟨distinct, earlier⟩
        · cases advanced
          rw [passKnow, know_append]
          exact (own cfg key began seen request before meets ⟨rest, calling⟩ global
            (pass_sound before calling) (passes key _ calling) (pass_permits before ⟨rest, calling⟩)).2
        · exact others cfg mover began seen request key p before meets ⟨rest, calling⟩ distinct earlier
            global (passes key p earlier)

end Platform

end AnvilAgents
