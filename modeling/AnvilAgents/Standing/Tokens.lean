import AnvilAgents.Lib.Text

/-! The token events that a standing turn publishes. -/

namespace AnvilAgents.Tokens

open Text

/-- The turn that a token belongs to, by its trimmed ID; the outer sink adds the name of the run. -/
structure TokenIdentity where
  threadID : String
  turnID : String
  runName : String

/-- One streamed unit of a turn. -/
structure TokenEvent extends TokenIdentity where
  seq : Nat
  token : String
  done : Bool

/--
How one call of the backend goes.

A call that fails before its subprocess emits nothing, and there is a reply only if the context
lives when the stream is to end.
-/
structure Streamed where
  chunks : List String
  reply : Option String
  /-- Whether the context still lives when the end has been taken. -/
  lasted : Bool := true

/-- What the sink has published, and the end of the stream that it holds back. -/
structure HoldDoneSink where
  published : List TokenEvent := []
  done : Option TokenEvent := none

def HoldDoneSink.onToken (sink : HoldDoneSink) (event : TokenEvent) : HoldDoneSink :=
  if event.done then { sink with done := some event }
  else { sink with published := sink.published ++ [event] }

def HoldDoneSink.flush (sink : HoldDoneSink) : List TokenEvent :=
  sink.published ++ sink.done.toList

variable (ids : TokenIdentity) (sink : HoldDoneSink) (ran first second : Streamed)
  (chunks : List String) (defers : String → Bool) (inTime : Bool)

/-- The events for the chunks of one stream, which are numbered from zero. -/
def emitted : List TokenEvent :=
  chunks.mapIdx fun seq token => ⟨ids, seq, token, false⟩

def streamTurn : Option String × HoldDoneSink :=
  let sink := (emitted ids ran.chunks).foldl .onToken sink
  match ran.reply with
  | none => (none, sink)
  | some reply =>
    if isBlank reply then (none, sink)
    else (if ran.lasted then some reply else none,
      sink.onToken ⟨ids, ran.chunks.length, "", true⟩)

/-- The events of a turn; a reply that defers work is continued on the same sink if there is time. -/
def turnTokens : List TokenEvent :=
  match streamTurn ids {} first with
  | (none, sink) => sink.published
  | (some reply, sink) =>
    if isBlank reply then sink.published
    else if defers reply && inTime then
      (streamTurn ids sink second).2.flush
    else sink.flush

end AnvilAgents.Tokens
