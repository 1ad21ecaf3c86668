import AnvilAgents.Lib.Mutex
import AnvilAgents.Lib.Text

/-! The backend that runs each standing turn as a subprocess, and the mutexes it takes. -/

namespace AnvilAgents

open Mutex Mutex.Thread Text

structure SessionSpec where
  ns : String
  threadID : String
  sessionName : String
  harnessKind : String

/-- The observed identity of a session. -/
structure SessionHandle where
  ns : String
  threadID : String
  sessionName : String
  harnessKind : String
  id : String
  warm : Bool := false
  resumes : Nat := 0
  suspended : Bool := false

/-- A session of the backend; its turn mutex is kept apart, under the session's key. -/
structure ProcessSession where
  spec : SessionSpec
  handle : SessionHandle
  turns : Nat := 0
  nativeID : String := ""

def maxPromptBytes : Nat := 256 * 1024

/-- The longest native session id that is kept, in bytes. -/
def maxNativeIDBytes : Nat := 512

/-- What is wrong with a spec, if anything. -/
def validateSpec (spec : SessionSpec) : Option String :=
  if isBlank spec.ns then some "standing session namespace is required"
  else if isBlank spec.threadID then some "standing session thread ID is required"
  else if isBlank spec.sessionName then some "standing session name is required"
  else if trimSpace spec.harnessKind ≠ spec.harnessKind ∨
      spec.harnessKind.toList.any (fun c => [0x20, 0x09, 0x0a, 0x0d].contains c.toNat) then
    some "standing session harness kind must not contain surrounding or inner whitespace"
  else none

variable (resumes : Bool) (ctxErr : Option String) (ns name : String)

def sessionKey : String :=
  trimSpace ns ++ "/" ++ trimSpace name

/-- The identity that the backend assigns. -/
def processID : String :=
  "process-standing-" ++ sessionKey ns name

/-- The harness kinds whose recipe resumes a native session. -/
def supportsNativeResume (harnessKind : String) : Bool :=
  ["codex", "openCode", "openClaw"].contains harnessKind

namespace ProcessBackend

/-- The backend's mutex, and the turn mutex of each session. -/
inductive Lock where
  | mu
  | turnMu (session : String)
deriving DecidableEq

/-- The sessions by key. No method removes or replaces one, so a key names one session for good. -/
abbrev Sessions := String → Option ProcessSession

/-- What a turn calls outside the backend. -/
inductive Outside where
  /-- One subprocess; it streams its chunks to the sink while it runs. -/
  | run (harnessKind prompt : String)
  /-- One subprocess that resumes a native session. -/
  | runWithResume (handle : SessionHandle) (turnID prompt resumeID : String)
  /-- The event that ends the stream. -/
  | onToken (threadID turnID : String) (seq : Nat)

/-- What a subprocess leaves: its output, the number of chunks, and the native id it ran under. -/
structure Ran where
  reply : String
  chunks : Nat
  newID : String := ""

/-- What comes back from outside; the sink may refuse an event. -/
def Outside.Reply : Outside → Type
  | .run _ _ => Except String Ran
  | .runWithResume _ _ _ _ => Except String Ran
  | .onToken _ _ _ => Option String

/-- A method of the backend. -/
abbrev Method := Thread Lock Sessions Outside.Reply

/-- Run one subprocess to its end. -/
def run (harnessKind prompt : String) : Method (Except String Ran) :=
  outside (Outside.run harnessKind prompt)

/-- Run one subprocess on a native session to its end. -/
def runWithResume (handle : SessionHandle) (turnID prompt resumeID : String) :
    Method (Except String Ran) :=
  outside (Outside.runWithResume handle turnID prompt resumeID)

/-- Tell the sink, if there is one, that the stream has ended. -/
def onDone (sink : Bool) (threadID turnID : String) (seq : Nat) : Method (Option String) :=
  if sink then outside (Outside.onToken threadID turnID seq) else return none

/-- Change one session. -/
def change (key : String) (edit : ProcessSession → ProcessSession) (sessions : Sessions) :
    Sessions :=
  Function.update sessions key ((sessions key).map edit)

def lookup (sessions : Sessions) (ns name : String) : Except String (String × ProcessSession) :=
  let key := sessionKey ns name
  match sessions key with
  | none => .error ("standing session not found: " ++ key)
  | some session => .ok (key, session)

/-- Create a session, or return the existing one as warm. -/
def createSession (spec : SessionSpec) : Method (Except String SessionHandle) :=
  match ctxErr with
  | some err => return .error err
  | none =>
    match validateSpec spec with
    | some err => return .error err
    | none => holding .mu do
      let key := sessionKey spec.ns spec.sessionName
      match (← read) key with
      | some existing =>
        let handle := { existing.handle with warm := true, suspended := false }
        let _ ← modify (change key fun session => { session with handle })
        return .ok handle
      | none =>
        let handle : SessionHandle :=
          { ns := spec.ns, threadID := spec.threadID, sessionName := spec.sessionName,
            harnessKind := spec.harnessKind, id := processID spec.ns spec.sessionName }
        let _ ← modify fun sessions => Function.update sessions key (some { spec, handle })
        return .ok handle

/--
Find a session under the backend's mutex and change its handle.

Resuming, describing and suspending a session differ in the change only.
-/
def onHandle (edit : SessionHandle → SessionHandle) : Method (Except String SessionHandle) :=
  match ctxErr with
  | some err => return .error err
  | none => holding .mu do
    match lookup (← read) ns name with
    | .error err => return .error err
    | .ok (key, session) =>
      let _ ← modify (change key fun session => { session with handle := edit session.handle })
      return .ok (edit session.handle)

def resumeSession : Method (Except String SessionHandle) :=
  onHandle ctxErr ns name fun handle =>
    { handle with warm := true, suspended := false, resumes := handle.resumes + 1 }

def describeSession : Method (Except String SessionHandle) :=
  onHandle ctxErr ns name id

def suspendSession : Method (Except String SessionHandle) :=
  onHandle ctxErr ns name fun handle => { handle with suspended := true }

/-- Run the turn's subprocess, and keep or drop the native id of the session. -/
def runTurn (key : String) (handle : SessionHandle) (turnID prompt resumeID : String) : Method
    (Except String Ran) := do
  if resumes && supportsNativeResume handle.harnessKind then
    match ← runWithResume handle (trimSpace turnID) prompt resumeID with
    | .error err =>
      -- The recorded id is stale: the next turn starts cold.
      if !isBlank resumeID then
        let _ ← holding .mu (modify (change key fun session => { session with nativeID := "" }))
        return .error err
      else return .error err
    | .ok ran =>
      let id := trimSpace ran.newID
      if id ≠ "" ∧ id.utf8ByteSize ≤ maxNativeIDBytes then
        let _ ← holding .mu (modify (change key fun session => { session with nativeID := id }))
        return .ok ran
      else return .ok ran
  else run handle.harnessKind prompt

/-- End the stream, and count the turn. -/
def finishTurn (key : String) (handle : SessionHandle) (turnID : String) (sink : Bool) (ran : Ran) :
    Method (Except String String) := do
  if isBlank ran.reply then
    return .error ("standing process backend: harness \"" ++ handle.harnessKind ++
      "\" returned empty output")
  else
    match ← onDone sink handle.threadID (trimSpace turnID) ran.chunks with
    | some err => return .error err
    | none =>
      let _ ← holding .mu
        (modify (change key fun session => { session with turns := session.turns + 1 }))
      return .ok ran.reply

/--
Run one turn of a session.

The turn mutex is taken while the backend's mutex is held, and kept to the end, while the
backend's mutex is given back before the subprocess and taken again after it.
-/
def streamTurn (handle : SessionHandle) (turnID prompt : String) (sink : Bool) : Method
    (Except String String) :=
  match ctxErr with
  | some err => return .error err
  | none =>
    if isBlank turnID then return .error "standing turn ID is required"
    else if prompt.utf8ByteSize > maxPromptBytes then
      return .error ("standing prompt exceeds " ++ toString maxPromptBytes ++ " bytes")
    else do
      acquire .mu
      match lookup (← read) handle.ns handle.sessionName with
      | .error err =>
        release .mu
        return .error err
      | .ok (key, _) => holding (.turnMu key) do
        let resumeID := match (← read) key with
          | some session =>
            if supportsNativeResume handle.harnessKind then session.nativeID else ""
          | none => ""
        release .mu
        match ← runTurn resumes key handle turnID prompt resumeID with
        | .error err => return .error err
        | .ok ran => finishTurn key handle turnID sink ran

/-- Bind a turn to its session; each method looks at the context when it begins. -/
def ensureTurnSession (ctx : Nat → Option String) (spec : SessionSpec) :
    Method (Except String (SessionHandle × Bool)) :=
  -- A method fails with the error of its context, or because there is no such session.
  let notFound (ctxErr : Option String) (err : String) : Bool := ctxErr.isNone &&
    err = "standing session not found: " ++ sessionKey spec.ns spec.sessionName
  let create : Method (Except String (SessionHandle × Bool)) := do
    return (← createSession (ctx 3) spec).map (·, false)
  match validateSpec spec, ctx 0 with
  | some err, _ | none, some err => return .error err
  | none, none => do
    match ← describeSession (ctx 1) spec.ns spec.sessionName with
    | .error err => if notFound (ctx 1) err then create else return .error err
    | .ok _ => match ← resumeSession (ctx 2) spec.ns spec.sessionName with
      | .ok resumed => return .ok (resumed, true)
      | .error err => if notFound (ctx 2) err then create else return .error err

/-- A call of a method, with the error of its context when it begins. -/
inductive Call where
  | createSession (ctxErr : Option String) (spec : SessionSpec)
  | resumeSession (ctxErr : Option String) (ns name : String)
  | describeSession (ctxErr : Option String) (ns name : String)
  | suspendSession (ctxErr : Option String) (ns name : String)
  | streamTurn (ctxErr : Option String) (handle : SessionHandle) (turnID prompt : String)
      (sink : Bool)

/-- What a call returns. -/
inductive Response where
  | handle (result : Except String SessionHandle)
  | reply (result : Except String String)

/-- A call as a thread; the runner either resumes native sessions or does not. -/
def Call.thread : Call → Method Response
  | .createSession ctxErr spec => return .handle (← ProcessBackend.createSession ctxErr spec)
  | .resumeSession ctxErr ns name => return .handle (← ProcessBackend.resumeSession ctxErr ns name)
  | .describeSession ctxErr ns name =>
    return .handle (← ProcessBackend.describeSession ctxErr ns name)
  | .suspendSession ctxErr ns name =>
    return .handle (← ProcessBackend.suspendSession ctxErr ns name)
  | .streamTurn ctxErr handle turnID prompt sink =>
    return .reply (← ProcessBackend.streamTurn resumes ctxErr handle turnID prompt sink)

end ProcessBackend

end AnvilAgents
