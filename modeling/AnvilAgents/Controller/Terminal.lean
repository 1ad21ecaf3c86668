import AnvilAgents.Controller.Launch

/-! What a pass does to finished runs, and how one run's decision reaches its duplicates. -/

namespace AnvilAgents

open Text

variable (r : AgentRunReconciler) (run : AgentRun) (obj : AgentRun) (status : AgentRunStatus)

def AgentRunStatus.setReady (generation now : Nat) (ready : Bool) (reason message : String) :
    AgentRunStatus :=
  { status with
    conditions := setStatusCondition status.conditions
      { type := agentRunReady, status := ready, observedGeneration := generation,
        lastTransitionTime := now / second, reason := reason, message := message } }

/-- Store the status computed by a pass. A conflict is retried later and is no error. -/
def patchAgentRunStatus (lock : Bool) (original obj : AgentRun) : Pass Unit := do
  match ← ask (.patchStatus lock original obj) with
  | .ok _ => return ()
  | .conflict => return ()
  | .notFound | .alreadyExists | .invalid => .fail "patch AgentRun status"

/-- Let the finished Job of a run expire as its spec asked. -/
def ensureTerminalAgentRunJobTTL : Pass Unit := do
  match run.status.launch.jobRef with
  | none => return ()
  | some ref =>
    if isBlank ref.name then return ()
    else
      let ns := firstNonEmpty [trimSpace ref.ns, run.key.ns]
      if ns ≠ run.key.ns then
        .fail ("terminal AgentRun job reference " ++ ns ++ "/" ++ ref.name ++
          " is outside AgentRun namespace " ++ run.key.ns)
      else
        match ← ask (.getJob ⟨ns, trimSpace ref.name⟩) with
        | none => return ()
        | some job =>
          if run.status.launch.jobUID ≠ 0 ∧ job.uid ≠ run.status.launch.jobUID then
            .fail ("terminal AgentRun Job " ++ job.key.text ++ " UID does not match recorded UID")
          else
            match job.ttlSecondsAfterFinished, job.snapshot.spec.harness.ttlSecondsAfterFinished with
            | none, some ttl =>
              let reply ← ask (.setJobTTL job.key ttl)
              written reply "patch Job TTL"
            | _, _ => return ()

def agentRunArchiveStorePostgres : String := "anvilhub-postgres"

def newAgentRunArchiveRecord (archivedAt : Nat) : Except String AgentRunArchiveRecord :=
  if isBlank run.key.ns then .error "AgentRun namespace is required"
  else if isBlank run.key.name then .error "AgentRun name is required"
  else if run.uid = 0 then .error "AgentRun UID is required"
  else if run.status.phase = .unset then .error "AgentRun phase is required"
  else .ok {
    key := run.key
    uid := run.uid
    resourceVersion := run.resourceVersion
    phase := run.status.phase
    decision := run.status.decision
    output := trimSpace run.status.output
    completedAt := run.status.completedAt
    archivedAt := archivedAt
    status := run.status }

/-- Record on the run that archiving it failed. -/
def archiveFailed (fault : String) : Pass Unit :=
  patchAgentRunStatus false run { run with
    status := { run.status with
      archive := some {
        store := agentRunArchiveStorePostgres
        error := limit 1000 (trimSpace fault) } } }

/-- Copy a run to the archive and record the receipt on it. -/
def archiveTerminalAgentRun : Pass Unit := do
  let archivedAt ← ask .now
  match newAgentRunArchiveRecord run archivedAt with
  | .error fault => archiveFailed run fault
  | .ok record =>
    match ← ask (.archiveRun record) with
    | .error fault => archiveFailed run fault
    | .ok archivedAt =>
      patchAgentRunStatus false run { run with
        status := { run.status with
          archive := some {
            store := agentRunArchiveStorePostgres
            archivedAt := some (archivedAt / second)
            digest := r.digestRecord record } } }

/-- Whether a run has been finished, archived and kept for long enough. -/
def terminalRetentionElapsed (now : Nat) : Bool :=
  agentRunPhaseTerminal run.status.phase && agentRunArchived run.status &&
    run.spec.situationRef.isNone && decide (0 < r.terminalRetention) &&
    match run.status.completedAt with
    | none => false
    | some completedAt => completedAt * second + r.terminalRetention ≤ now

/-- Archive a finished run once, and delete it when its retention is over. -/
def reconcileTerminalAgentRun : Pass Unit := do
  ensureTerminalAgentRunJobTTL run
  if r.archiveEnabled && !agentRunArchived run.status then archiveTerminalAgentRun r run
  else
    let now ← ask .now
    if terminalRetentionElapsed r run now then
      match ← ask (.deleteRun run.key) with
      | .ok _ => return ()
      | .notFound => return ()
      | .conflict | .alreadyExists | .invalid => .fail "delete AgentRun"
    else return ()

/-- The action of a decision that asks for a peer run. -/
def agentRunDecisionRequestPeer : String := "requestPeer"

/-- The action of a decision that other runs do the same work. -/
def agentRunDecisionInterruptDuplicate : String := "interruptDuplicate"

/-- How the error of an interrupted run begins. -/
def interruptErrorStart : String := "interruptDuplicate:"

/-- The run that asked for this one to be interrupted. -/
def agentRunInterruptDuplicateRequester : String :=
  trimSpace obj.notes.interruptDuplicate

/-- Whether a status was written by an interruption. -/
def agentRunStatusShowsInterruptDuplicate : Bool :=
  hasPrefix (trimSpace status.error) interruptErrorStart ||
    status.conditions.any fun condition =>
      condition.type = agentRunReady && condition.reason = "InterruptDuplicate"

/-- Whether a run is held as a duplicate, and by whom. -/
def agentRunInterruptDuplicateHold : Option String :=
  if agentRunInterruptDuplicateRequester obj ≠ "" then
    some (agentRunInterruptDuplicateRequester obj)
  else if agentRunStatusShowsInterruptDuplicate obj.status then some ""
  else none

/-- The error a held run reports. -/
def holdMessage (requester : String) : String :=
  let message := trimSpace obj.status.error
  if hasPrefix message interruptErrorStart then message
  else if requester ≠ "" then
    "interruptDuplicate: duplicate work requested by AgentRun " ++ obj.key.ns ++ "/" ++ requester
  else "interruptDuplicate: duplicate work"

/-- The status a held run is given: failed as of now, whatever it was before. -/
def holdStatus (requester : String) (now : Nat) : AgentRunStatus :=
  let message := holdMessage obj requester
  let kept := obj.status.decision.filter fun decision =>
    trimSpace decision.action = agentRunDecisionInterruptDuplicate
  let summary := trimSpace (trimStart message interruptErrorStart)
  let status := { obj.status with
    phase := .failed
    completedAt := some (now / second)
    error := message
    decision := some (kept.getD {
      classification := "duplicate work"
      action := agentRunDecisionInterruptDuplicate
      summary := if summary = "" then "duplicate work" else summary }) }
  status.setReady obj.generation now false "InterruptDuplicate" message

/-- Fail a held run and go on to archive it. -/
def reconcileAgentRunInterruptDuplicateHold (requester : String) : Pass Unit := do
  let now ← ask .now
  patchAgentRunStatus false obj { obj with status := holdStatus obj requester now }
  match ← ask (.getRun obj.key) with
  | none => .fail "get AgentRun"
  | some run => reconcileTerminalAgentRun r run

/-- The status an interrupted peer is given. -/
def interruptedStatus (peer : AgentRun) (summary : String) (now : Nat) : AgentRunStatus :=
  let error := "interruptDuplicate: " ++ summary
  let status := { peer.status with
    phase := .failed
    completedAt := some (now / second)
    error := error
    decision := some {
      classification := "duplicate work"
      action := agentRunDecisionInterruptDuplicate
      summary := summary } }
  status.setReady peer.generation now false "InterruptDuplicate" error

/-- Which listed runs a decision interrupts: a named one, or all of the same source. -/
def interruptsPeer (named : String) (peer : AgentRun) : Bool :=
  peer.key.name ≠ obj.key.name &&
    (if named ≠ "" then peer.key.name = named
      else trimSpace peer.spec.sourceRef.name = trimSpace obj.spec.sourceRef.name) &&
    (peer.status.phase = .running || peer.status.phase = .pending)

/-- Mark one listed peer as a duplicate, read it again, and fail it. -/
def interruptPeer (summary : String) (now : Nat) (peer : AgentRun) : Pass Unit := do
  match ← ask (.patchNotes peer
      { peer with notes := { peer.notes with interruptDuplicate := obj.key.name } }) with
  | .conflict => return ()
  | .ok _ =>
    match ← ask (.getRun peer.key) with
    | none => .fail ("reload interrupted AgentRun " ++ peer.key.text)
    | some peer =>
      patchAgentRunStatus false peer { peer with status := interruptedStatus peer summary now }
  | .notFound | .alreadyExists | .invalid =>
    .fail ("record interrupt-duplicate on AgentRun " ++ peer.key.text)

/-- Interrupt every listed peer the decision is about, one after another. -/
def interruptPeers (obj : AgentRun) (named summary : String) (now : Nat) :
    List AgentRun → Pass Unit
  | [] => return ()
  | peer :: peers => do
    if interruptsPeer obj named peer then interruptPeer obj summary now peer
    interruptPeers obj named summary now peers

/-- Carry out the decision that other runs do the same work. -/
def interruptDuplicatePeerRuns (decision : AgentRunDecisionStatus) (logs : RunnerLogs) : Pass Unit
    := do
  let peers ← ask (.listRuns obj.key.ns)
  let summary := trimSpace decision.summary
  let now ← ask .now
  interruptPeers obj logs.duplicateRunName
    (if summary = "" then "duplicate work" else summary) now peers

/-- The first text that is not empty, each trimmed. -/
def firstTrimmed (values : List String) : String :=
  firstNonEmpty (values.map trimSpace)

/-- Create the peer run a decision asks for, once, and note its name on the run. -/
def ensureRequestedPeerAgentRun (decision : AgentRunDecisionStatus) (logs : RunnerLogs) : Pass
    AgentRun := do
  if !isBlank obj.notes.peerRun then return obj
  else
    let profile := firstTrimmed [logs.peerProfileName, (obj.spec.profileRef.map (·.name)).getD ""]
    if profile = "" then return obj
    else
      let prompt := firstTrimmed [logs.peerPrompt, decision.summary, obj.spec.prompt]
      let reply ← ask (.createPeer obj.key.ns (sanitizeLabelValue obj.key.name ++ "-peer-")
        { sourceRef := obj.spec.sourceRef, sourceUID := obj.spec.sourceUID, prompt := prompt,
          profileRef := some { name := profile }, applicationRef := obj.spec.applicationRef })
      let peer ← written reply ("create peer AgentRun for " ++ obj.key.text)
      let reply ← ask (.patchNotes obj
        { obj with notes := { obj.notes with peerRun := peer.key.name } })
      written reply ("record peer AgentRun on " ++ obj.key.text)

/-- Act on the decision of a run that is still executing; the run may come back refreshed. -/
def reconcileMidRunPeerDecisions (logs : RunnerLogs) : Pass AgentRun := do
  match status.decision with
  | none => return obj
  | some decision =>
    if trimSpace decision.action = agentRunDecisionRequestPeer then
      ensureRequestedPeerAgentRun obj decision logs
    else if trimSpace decision.action = agentRunDecisionInterruptDuplicate then
      interruptDuplicatePeerRuns obj decision logs
      return obj
    else return obj

end AnvilAgents
