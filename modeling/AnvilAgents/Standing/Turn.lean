import AnvilAgents.Controller.Launch

/-! The API's drive of a standing turn: claim the run of the turn, stream the reply, record it. -/

namespace AnvilAgents

open Text

/-- The shortest remaining time in which a stream may be started. -/
def standingDriveMinBudget : Nat := 45 * second

def standingDriveTimeout : Nat := 120 * second

/-- A chat turn, as far as its drive reads it. -/
structure Turn where
  id : String
  ns : String
  runName : String
  trimmed : trimSpace ns = ns
deriving DecidableEq

def Turn.runKey (turn : Turn) : Key :=
  ⟨turn.ns, turn.runName⟩

/-- An API replica, by the identity it writes into its claims. -/
structure Replica where
  owner : String
  named : isBlank owner = false
  trimmed : trimSpace owner = owner
deriving DecidableEq

/-- What the API is configured with, and the pure functions of a reply that no decision looks into. -/
structure Server where
  liveEnabled : Bool
  driveTimeout : Nat
  bounded : driveTimeout ≤ standingDriveTimeout
  standingReplyDefersWork : String → String → Bool
  standingContinuePrompt : String → String → String → String
  joinStandingNativeReplies : String → String → String
  standingTurnOutput : String → String → String

variable (server : Server) (owner : String)

/-- Whether a run that waits for a human may be driven: its claim is for this turn, and ours or stale. -/
def standingTakeoverAllowed (run : AgentRun) (turn : Turn) (now : Nat) : Bool :=
  server.liveEnabled && !isBlank turn.id && run.notes.standingClaim.any fun claim =>
    claim.turnID = trimSpace turn.id &&
      if (claimForTurn run.notes.standingClaim (trimSpace turn.id) now claimTTL).isSome then
        claim.owner = owner
      else true

/-- Whether a run in this phase may be driven; a hold is looked at with a clock of its own. -/
def phaseDrivable (run : AgentRun) (turn : Turn) : Pass Bool :=
  match run.status.phase with
  | .succeeded | .failed => return false
  | .needsHuman => do
    let now ← ask .now
    return standingTakeoverAllowed server owner run turn now
  | _ => return true

/-- Try to write a claim made at `now`, as often as given while other writers get in between. -/
def claimAttempts (server : Server) (owner : String) (turn : Turn) (now : Nat) :
    Nat → Pass (Option AgentRun)
  | 0 => return none
  | attempts + 1 => do
    match ← ask (.getRun ⟨trimSpace turn.ns, turn.runName⟩) with
    | none => return none
    | some fresh =>
      if !(← phaseDrivable server owner fresh turn) then return none
      else if (claimForTurn fresh.notes.standingClaim turn.id now claimTTL).any (·.owner ≠ owner) then
        return none
      else
        match encodeClaim ⟨turn.id, owner, now / second⟩ with
        | none => return none
        | some claim =>
          match ← ask (.updateNotes
              { fresh with notes := { fresh.notes with standingClaim := some claim } }) with
          | .ok run => return some run
          | .conflict => claimAttempts server owner turn now attempts
          | .notFound | .alreadyExists | .invalid => return none

/-- Claim the turn for this replica; a win returns the run as it was stored with the claim. -/
def claimStandingTurn (turn : Turn) : Pass (Option AgentRun) := do
  if isBlank turn.ns || isBlank turn.id || isBlank turn.runName then return none
  else
    let now ← ask .now
    claimAttempts server owner turn now 2

/-- Stream once more on the same session when the reply only promises work. -/
def completeStandingDeferredWork (turn : Turn) (deadline : Nat) (harnessKind prompt reply : String)
    : Pass String := do
  if !server.standingReplyDefersWork harnessKind reply then return reply
  else
    let now ← ask .now
    if deadline < now + standingDriveMinBudget then return reply
    else
      match ← ask (.streamTurn turn.id (server.standingContinuePrompt harnessKind prompt reply)) with
      | none => return reply
      | some continuation =>
        if isBlank continuation then return reply
        else return server.joinStandingNativeReplies reply continuation

/-- The status of a run whose turn was answered. -/
def answeredStatus (status : AgentRunStatus) (backend : String)
    (runtime : Option AgentRunExecutionRuntime) (output : String) (completedAt : Nat) :
    AgentRunStatus :=
  { status with
    phase := .succeeded
    backend := backend
    executionRuntime := runtime.or status.executionRuntime
    output := output
    completedAt := some completedAt }

/-- Stream the reply to a claimed turn and record it on the run. -/
def driveClaimedTurn (turn : Turn) (deadline : Nat) (spec : StandingSessionSpec) (run : AgentRun) :
    Pass Unit := do
  match ← ask (.ensureTurnSession turn.id) with
  | none => return ()
  | some harnessKind =>
    let prompt := trimSpace run.spec.prompt
    if prompt = "" then return ()
    else
      match ← ask (.streamTurn turn.id prompt) with
      | none => return ()
      | some reply =>
        if isBlank reply then return ()
        else
          let reply ← completeStandingDeferredWork server turn deadline harnessKind prompt reply
          let completedAt ← ask .now
          match ← ask (.updateStatus { run with
              status := answeredStatus run.status harnessKind spec.runtime
                (server.standingTurnOutput harnessKind (trimSpace reply)) (completedAt / second) }) with
          | .ok _ => return ()
          | .notFound | .conflict | .alreadyExists | .invalid =>
            -- Another writer owns the stored status now; the drive only looks at it.
            let _ ← ask (.getRun turn.runKey)
            return ()

/-- One drive of a standing turn, from the read of its run by the caller on. -/
def reconcileStandingTurn (turn : Turn) : Pass Unit := do
  let startedAt ← ask .now
  let deadline := startedAt + server.driveTimeout
  match ← ask (.getRun turn.runKey) with
  | none => return ()
  | some run =>
    if !(← phaseDrivable server owner run turn) then return ()
    else if !server.liveEnabled || turn.id = "" then return ()
    else
      let now ← ask .now
      if deadline < now + standingDriveMinBudget then return ()
      else
        match ← ask (.standingSpec turn.id) with
        | none => return ()
        | some spec =>
          match ← claimStandingTurn server owner turn with
          | none => return ()
          | some run => driveClaimedTurn server turn deadline spec run

end AnvilAgents
