import AnvilAgents.RunAPI.Logs
import AnvilAgents.Lib.Machine

/-!
The event stream of a run.

The handler and the followers of the run's log are processes. Followers hand lines over by one
bounded channel and their end by another one. The handler waits on both, on timers and on the status
of the run, and takes any of those that are ready.
-/

namespace AnvilAgents.RunAPI.Stream

open Text

abbrev Bytes := List UInt8

/-- A moment, in nanoseconds. -/
abbrev Time := Nat

structure Config where
  maxLogBytes : Nat
  maxLineBytes : Nat
  statusPollInterval : Nat
  /-- The time that a text gives, if it is one. -/
  parseTime : Bytes → Option Time

/-- Why a follower ended. -/
inductive Fault where
  | pending
  | cancelled
  | other (message : String)
deriving DecidableEq

structure LogLine where
  pod : String
  podUID : UID
  timestamp : Option Time
  line : Bytes
  bytes : Nat
deriving DecidableEq

structure LogDone where
  pod : String
  error : Option Fault

/-! ### Reading a log -/

def dropCR (line : Bytes) : Bytes :=
  if line.getLast? = some 13 then line.dropLast else line

/-- The lines of a text as they stand in it, given the start of the first one in reverse. -/
def rawLines (begun : Bytes) : Bytes → List Bytes
  | [] => if begun = [] then [] else [begun.reverse]
  | byte :: rest =>
    if byte = 10 then begun.reverse :: rawLines [] rest else rawLines (byte :: begun) rest

/-- The lines of a text without what ends them. -/
def scanLines (text : Bytes) : List Bytes := (rawLines [] text).map dropCR

/-- The first size at which a line does not fit into the buffer of the scanner. -/
def lineLimit (config : Config) : Nat := max (64 * 1024) config.maxLineBytes

/-- The lines up to the first that is too long; a line is measured with its carriage return. -/
def scan (config : Config) (text : Bytes) : List Bytes × Option Fault :=
  let lines := rawLines [] text
  let fits (line : Bytes) : Bool := line.length < lineLimit config
  ((lines.takeWhile fits).map dropCR,
    if lines.all fits then none else some (.other "bufio.Scanner: token too long"))

def parseKubernetesLogLine (config : Config) (raw : Bytes) : Option Time × Bytes :=
  match raw.span (· ≠ 32) with
  | (first, _ :: rest) =>
    match config.parseTime first with
    | some timestamp => (some timestamp, rest)
    | none => (none, raw)
  | (_, []) => (none, raw)

def logLine (config : Config) (pod : String) (podUID : UID) (raw : Bytes) : LogLine :=
  let (timestamp, line) := parseKubernetesLogLine config raw
  { pod, podUID, timestamp, line, bytes := raw.length + 1 }

/-! ### The followers -/

/-- What is left for a follower to do. -/
inductive FollowerState where
  | opening
  | sending (rest : List LogLine) (error : Option Fault)
  | finishing (error : Option Fault)
  | ended
deriving DecidableEq

/-- A goroutine that follows the log of a pod; its context may be cancelled. -/
structure Follower where
  /-- The pod as the status of the run names it. -/
  pod : String
  cancelled : Bool := false
  state : FollowerState := .opening

/-- What an open log gives until it ends. -/
structure Log where
  podUID : UID
  text : Bytes
  error : Option Fault := none
deriving DecidableEq

/-- The part of a log that the limited reader lets through. -/
def Log.cut (config : Config) (log : Log) : Log :=
  { log with text := log.text.take (config.maxLogBytes + 1) }

/-- What the scanner makes of a log of which it reads a bounded part. -/
def Follower.reads (config : Config) (follower : Follower) (log : Log) : FollowerState :=
  let (lines, tooLong) := scan config (log.cut config).text
  let readError := if log.text.length ≤ config.maxLogBytes then log.error else none
  .sending (lines.map (logLine config follower.pod log.podUID)) (tooLong.or readError)

/-! ### The handler -/

/-- What the handler reads of a run. -/
structure RunView where
  uid : UID
  resourceVersion : Nat
  phase : AgentRunPhase
  runnerPod : Option String
deriving DecidableEq

/-- A run whose stream has nothing to wait for, given whether the standing agent holds it. -/
def agentRunStreamComplete (run : RunView) (held : Bool) : Bool :=
  match run.phase with
  | .succeeded | .failed => true
  | .needsHuman => !held
  | _ => false

/-- What the handler writes. -/
inductive StreamEvent where
  | log (line : LogLine)
  | terminal (code : String) (run : Option RunView)
  | status (run : RunView)
  | error (code : String)
  | reset (code : String)
  | complete (code : String)
  | heartbeat
deriving DecidableEq

/-- Where the handler stands: before its terminal test, in its select, or gone. -/
inductive Place where
  | test
  | select
  | closed
deriving DecidableEq

structure State where
  place : Place := .test
  initialUID : UID
  run : RunView
  logLines : List LogLine := []
  logDone : List LogDone := []
  currentPod : String := ""
  finishedPod : String := ""
  retryLogsAt : Time := 0
  logActive : Bool := false
  /-- The follower whose context the handler can cancel. -/
  logCancel : Option Nat := none
  used : Nat := 0
  followers : List Follower := []
  requestDone : Bool := false
  written : List StreamEvent := []

def logLinesCapacity : Nat := 32
def logDoneCapacity : Nat := 4

/-- Cancel the context of a follower, if there is one to cancel. -/
def cancelFollower (index : Option Nat) (followers : List Follower) : List Follower :=
  match index with
  | none => followers
  | some index => followers.modify index fun follower => { follower with cancelled := true }

variable (config : Config) (t : State)

def State.cancelLogs : State :=
  { t with followers := cancelFollower t.logCancel t.followers }

/-- Follow the log of the run's pod, unless that is done or being done. -/
def State.startLogs (now : Time) : State :=
  let podName := trimSpace (t.run.runnerPod.getD "")
  if podName = "" ∨ podName = t.finishedPod ∨
      (podName = t.currentPod ∧ (t.logActive ∨ now < t.retryLogsAt)) then t
  else
    let t := t.cancelLogs
    { t with
      finishedPod := if podName ≠ t.currentPod then "" else t.finishedPod
      retryLogsAt := if podName ≠ t.currentPod then 0 else t.retryLogsAt
      currentPod := podName
      logActive := true
      logCancel := some t.followers.length
      followers := t.followers ++ [{ pod := t.run.runnerPod.getD "" }] }

def State.close : State := { t.cancelLogs with place := .closed }

/-- Write an event; a write that fails ends the handler. -/
def State.write (event : StreamEvent) (ok : Bool) : State :=
  if ok then { t with written := t.written ++ [event], place := .test } else t.close

/-- Write a last event, whether that succeeds or not. -/
def State.writeLast (event : StreamEvent) (ok : Bool) : State :=
  { t with written := if ok then t.written ++ [event] else t.written }.close

/-- The loop top: the terminal event, or on to the select. -/
def State.test (held ok : Bool) : State :=
  if agentRunStreamComplete t.run held ∧ t.logActive = false ∧ t.logLines = [] then
    t.writeLast (.terminal "" (some t.run)) ok
  else { t with place := .select }

def State.receiveLine (line : LogLine) (ok : Bool) : State :=
  if line.pod ≠ t.currentPod then { t with place := .test }
  else if t.used + line.bytes ≤ config.maxLogBytes then
    { t with used := t.used + line.bytes }.write (.log line) ok
  else
    let t := { t.cancelLogs with logActive := false, finishedPod := t.currentPod, place := .test }
    { t with written := if ok then t.written ++ [.reset "log_limit_reached"] else t.written }

def second : Nat := 1000000000

def State.receiveDone (done : LogDone) (now : Time) (ok : Bool) : State :=
  if done.pod ≠ t.currentPod then { t with place := .test }
  else
    let t := { t with logActive := false, place := .test }
    match done.error with
    | none => { t with finishedPod := t.currentPod }
    | some .pending => { t with retryLogsAt := now + config.statusPollInterval }
    | some .cancelled => t
    | some (.other _) =>
      { t with retryLogsAt := now + 5 * second }.write (.error "logs_unavailable") ok

/-- What a read of the run's status gave; with it comes whether the state of the runner changed. -/
inductive StatusResult where
  | notFound
  | failed
  | run (latest : RunView) (runnerStateChanged : Bool)

def State.receiveStatus (result : StatusResult) (now : Time) (ok : Bool) : State :=
  match result with
  | .notFound => t.writeLast (.terminal "deleted" none) ok
  | .failed => t.write (.error "kubernetes_unavailable") ok
  | .run latest runnerStateChanged =>
    if latest.uid ≠ t.initialUID then t.writeLast (.terminal "replaced" none) ok
    else if latest.resourceVersion ≠ t.run.resourceVersion ∨ runnerStateChanged then
      let t := { t with run := latest }.write (.status latest) ok
      if t.place = .closed then t else t.startLogs now
    else { t with place := .test }.startLogs now

/-! ### The processes together -/

inductive Move where
  | test (held ok : Bool)
  | requestDone
  | tokenExpired (ok : Bool)
  | durationReached (ok : Bool)
  | heartbeat (ok : Bool)
  | receiveLine (ok : Bool)
  | receiveDone (now : Time) (ok : Bool)
  | receiveStatus (result : StatusResult) (now : Time) (ok : Bool)
  /-- The client goes away, which cancels every context. -/
  | cancelRequest
  | openLog (index : Nat) (result : Except Fault Log)
  | sendLine (index : Nat)
  | sendDone (index : Nat)
  /-- A follower sees that its context is cancelled. -/
  | seeCancelled (index : Nat)

/-- One step of a follower; the channels must have room for what it sends. -/
def State.follow (index : Nat) (step : State → Follower → Option (State × FollowerState)) : Option
    State := do
  let follower ← t.followers[index]?
  let (t, state) ← step t follower
  return { t with
    followers := t.followers.modify index fun follower => { follower with state } }

def openLogStep (result : Except Fault Log) (t : State) (follower : Follower) : Option
    (State × FollowerState) :=
  match follower.state, result with
  | .opening, .ok log => some (t, follower.reads config log)
  | .opening, .error fault => some (t, .finishing (some fault))
  | _, _ => none

/-- Send the next line, if the channel has room. -/
def sendLineStep (follower : Follower) : Option (State × FollowerState) :=
  match follower.state with
  | .sending (line :: rest) error =>
    if t.logLines.length < logLinesCapacity then
      some ({ t with logLines := t.logLines ++ [line] }, .sending rest error)
    else none
  | _ => none

/-- Say that this follower has ended, if the channel has room. -/
def sendDoneStep (follower : Follower) : Option (State × FollowerState) :=
  match follower.state with
  | .sending [] error | .finishing error =>
    if t.logDone.length < logDoneCapacity then
      some ({ t with logDone := t.logDone ++ [⟨follower.pod, error⟩] }, .ended)
    else none
  | _ => none

/-- Give up because the context is cancelled. -/
def seeCancelledStep (follower : Follower) : Option (State × FollowerState) :=
  if follower.cancelled ∨ t.requestDone then
    match follower.state with
    | .sending (_ :: _) _ => some (t, .finishing (some .cancelled))
    | .sending [] _ | .finishing _ => some (t, .ended)
    | _ => none
  else none

def machine : Machine State Move where
  next t
    | .test held ok => if t.place = .test then some (t.test held ok) else none
    | .requestDone => if t.place = .select ∧ t.requestDone then some t.close else none
    | .tokenExpired ok =>
      if t.place = .select then some (t.writeLast (.error "token_expired") ok) else none
    | .durationReached ok =>
      if t.place = .select then some (t.writeLast (.complete "stream_duration_reached") ok) else none
    | .heartbeat ok => if t.place = .select then some (t.write .heartbeat ok) else none
    | .receiveLine ok =>
      match t.place, t.logLines with
      | .select, line :: rest => some ({ t with logLines := rest }.receiveLine config line ok)
      | _, _ => none
    | .receiveDone now ok =>
      match t.place, t.logDone with
      | .select, done :: rest => some ({ t with logDone := rest }.receiveDone config done now ok)
      | _, _ => none
    | .receiveStatus result now ok =>
      if t.place = .select then some (t.receiveStatus result now ok) else none
    | .cancelRequest => some { t with requestDone := true }
    | .openLog index result => t.follow index (openLogStep config result)
    | .sendLine index => t.follow index sendLineStep
    | .sendDone index => t.follow index sendDoneStep
    | .seeCancelled index => t.follow index seeCancelledStep

end AnvilAgents.RunAPI.Stream
