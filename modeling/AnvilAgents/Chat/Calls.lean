import AnvilAgents.Chat.Postgres

/-! The calls of the store interface, served one at a time by the Postgres store. -/

namespace AnvilAgents.Chat

variable [UUIDs]

inductive Call where
  | createThread (env : Env) (thread : ThreadOf RawMetadata)
  | getThread (ns id : String)
  | listThreads (filter : ThreadFilter)
  | ensureStandingThread (env : Env) (seed : ThreadOf RawMetadata)
  | appendMessages (env : Env) (ns threadID : String) (messages : List (MessageOf RawMetadata))
  | listMessages (ns threadID : String)
  | repairAssistantReply (ns : String) (original : Message) (content format : String)
  | queueTurn (env : Env) (t : Turn) (m : MessageOf RawMetadata)
  | listTurns (ns id : String)
  | pendingTurns (limit : Nat)
  | activateTurn (t : Turn)
  | recordRun (t : Turn) (uid : String)
  | retryTurn (env : Env) (expected : Turn) (retry : TurnRetry)
  | completeTurn (env : Env) (t : Turn) (m : MessageOf RawMetadata)

@[reducible]
def Call.Result : Call → Type
  | .createThread _ _ | .getThread _ _ => Thread
  | .listThreads _ => List Thread
  | .ensureStandingThread _ _ => Thread × Bool
  | .appendMessages _ _ _ _ => List Message × Thread
  | .listMessages _ _ => List Message
  | .repairAssistantReply _ _ _ _ => Message
  | .queueTurn _ _ _ => Turn × Message × Thread
  | .listTurns _ _ | .pendingTurns _ => List Turn
  | .activateTurn _ => Bool
  | .retryTurn _ _ _ => Turn
  | .recordRun _ _ | .completeTurn _ _ _ => Unit

def Call.tx : (call : Call) → Tx call.Result
  | .createThread env thread => PostgresStore.createThread env thread
  | .getThread ns id => PostgresStore.getThread ns id
  | .listThreads filter => PostgresStore.listThreads filter
  | .ensureStandingThread env seed => PostgresStore.ensureStandingThread env seed
  | .appendMessages env ns threadID messages =>
    PostgresStore.appendMessages env ns threadID messages
  | .listMessages ns threadID => PostgresStore.listMessages ns threadID
  | .repairAssistantReply ns original content format =>
    PostgresStore.repairAssistantReply ns original content format
  | .queueTurn env t m => PostgresStore.queueTurn env t m
  | .listTurns ns id => PostgresStore.listTurns ns id
  | .pendingTurns limit => PostgresStore.pendingTurns limit
  | .activateTurn t => PostgresStore.activateTurn t
  | .recordRun t uid => PostgresStore.recordRun t uid
  | .retryTurn env expected retry => PostgresStore.retryTurn env expected retry
  | .completeTurn env t m => PostgresStore.completeTurn env t m

namespace PostgresStore

/-- What a call returns, and the tables after it. -/
def serve (call : Call) (db : Database) : Except ChatError call.Result × Database :=
  postgres.run call.tx.run db

end PostgresStore

def Database.empty : Database :=
  ⟨.empty, [], .empty, .empty⟩

end AnvilAgents.Chat
