import AnvilAgents.Controller.Contract
import AnvilAgents.Standing.Turn

/-! What a drive may write, given what it has read; and the platform of controllers and drives. -/

namespace AnvilAgents

open Conc Text

/-- What a drive has learnt from the replies it got. -/
structure DriveKnow where
  owner : String
  key : Key
  turnID : String
  clocks : List Nat := []
  read : Option AgentRun := none
  claimed : Option AgentRun := none
  replies : List String := []
  updated : Option (AgentRun × Bool) := none

def DriveKnow.learn (D : DriveKnow) : (c : Call) → Reply c → DriveKnow
  | .now, reply => { D with clocks := (reply : Nat) :: D.clocks }
  | .getRun _, reply => { D with read := (reply : Option AgentRun) }
  | .updateNotes _, reply =>
    match (reply : WriteReply AgentRun) with
    | .ok run => { D with claimed := some run }
    | _ => D
  | .streamTurn _ _, reply =>
    match (reply : Option String) with
    | some text => { D with replies := D.replies ++ [text] }
    | none => D
  | .updateStatus new, reply =>
    match (reply : WriteReply AgentRun) with
    | .ok _ => { D with updated := some (new, true) }
    | _ => { D with updated := some (new, false) }
  | _, _ => D

/-- An update that claims the turn: no other replica's claim is live on the version read. -/
structure Claims (D : DriveKnow) (fresh : AgentRun) (now : Nat) (new : AgentRun) : Prop where
  named : isBlank D.turnID = false
  dated : now / second ≠ 0
  unfinished : fresh.status.phase ≠ .succeeded ∧ fresh.status.phase ≠ .failed
  unclaimed : ∀ claim, claimForTurn fresh.notes.standingClaim D.turnID now claimTTL = some claim →
    claim.owner = D.owner
  shape : new = { fresh with
    notes := { fresh.notes with
      standingClaim := some ⟨trimSpace D.turnID, D.owner, now / second⟩ } }

/-- The reply of a drive: what was streamed, joined with its continuation if there was one. -/
def DriveKnow.answers (server : Server) (D : DriveKnow) (reply : String) : Prop :=
  ∃ first, isBlank first = false ∧
    (D.replies = [first] ∧ reply = first ∨
      ∃ continuation, D.replies = [first, continuation] ∧
        (reply = first ∨ reply = server.joinStandingNativeReplies first continuation))

/-- An update that records the reply on the version the claim was stored with. -/
def Answered (server : Server) (D : DriveKnow) (run new : AgentRun) : Prop :=
  ∃ harnessKind runtime reply completedAt, D.answers server reply ∧
    new = { run with
      status := answeredStatus run.status harnessKind runtime
        (server.standingTurnOutput harnessKind (trimSpace reply)) completedAt }

def DriveKnow.permits (server : Server) (D : DriveKnow) : Call → Prop
  | .updateNotes new =>
    D.claimed = none ∧ ∃ fresh now, D.read = some fresh ∧ now ∈ D.clocks ∧ Claims D fresh now new
  | .updateStatus new =>
    D.updated = none ∧ ∃ run, D.claimed = some run ∧ Answered server D run new
  | .getRun key => key = D.key
  | .ensureTurnSession _ | .streamTurn _ _ => D.claimed.isSome
  | .patchStatus _ _ _ | .patchNotes _ _ | .createPeer _ _ _ | .deleteRun _ | .createJob _
  | .deleteJob _ | .setJobTTL _ _ | .createConfigMap _ | .makeImmutable _ | .archiveRun _ => False
  | _ => True

/-- The contract of a drive; it relies on no promise of the server. -/
abbrev driveContract (server : Server) : Contract Call Reply where
  Know := DriveKnow
  permits := DriveKnow.permits server
  learn := DriveKnow.learn
  promised _ _ := True

/-- The chat: the API, and the turn each run was created for. -/
structure Chat where
  server : Server
  turn : Key → Option Turn
  bound : ∀ key found, turn key = some found → found.runKey = key

/-- What a drive knows before its first call. -/
def DriveKnow.start (chat : Chat) (replica : Replica) (key : Key) : DriveKnow where
  owner := replica.owner
  key := key
  turnID := ((chat.turn key).map (·.id)).getD ""

/-- A drive of the turn a run was created for. -/
def Chat.drive (chat : Chat) (replica : Replica) (key : Key) : Pass Unit :=
  match chat.turn key with
  | none => pure ()
  | some turn => reconcileStandingTurn chat.server replica.owner turn

/-- The processes that write runs. -/
inductive Worker where
  | controller (key : Key)
  | drive (replica : Replica) (key : Key)
deriving DecidableEq

/--
Controllers and API replicas on one API server.

A replica drives a turn at most once at a time, and a process that crashed may be started again.
-/
def platform (r : AgentRunReconciler) (chat : Chat) : System Worker Call Reply World Act where
  serve := serve
  program
    | .controller key => reconcile r key
    | .drive replica key => chat.drive replica key
  act := act

abbrev platformContract (chat : Chat) : Contract Call Reply :=
  reconcileContract.sum (driveContract chat.server)

/-- What a process knows before its first call. -/
def platformStart (r : AgentRunReconciler) (chat : Chat) : Worker → (platformContract chat).Know
  | .controller key => .inl (Know.start r key)
  | .drive replica key => .inr (DriveKnow.start chat replica key)

end AnvilAgents
