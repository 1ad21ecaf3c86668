import AnvilAgents.Api.AgentRun
import AnvilAgents.Controller.Naming

/-! Webhook requests, the trigger they address and the runs it delivers to. -/

namespace AnvilAgents.ExternalTrigger

open MergePatch

/-- Where a trigger stands. -/
inductive AgentExternalTriggerPhase where
  | unset
  | pending
  | ready
  | suspended
  | blocked
deriving DecidableEq

/-- Whether a delivery may create runs while earlier ones are active. -/
inductive ConcurrencyPolicy where
  | unset
  | forbid
  | allow
deriving DecidableEq

/-- What a delivery goes to; `unsupported` is any kind the handler does not know. -/
inductive TargetKind where
  | agentRunProfile
  | agentCouncil
  | agentRun
  | unsupported (kind : String)
deriving DecidableEq

structure AgentExternalTriggerTargetSpec where
  kind : TargetKind
  name : String
  councilDelivery : String := ""

structure AgentExternalTriggerSecretRef where
  name : String
  webhookSecretKey : String := ""
  pathTokenKey : String := ""

structure AgentExternalTriggerGitHubSpec where
  repositories : List String
  events : List String := []

structure AgentExternalTriggerSpec where
  suspend : Bool := false
  github : Option AgentExternalTriggerGitHubSpec
  secretRef : AgentExternalTriggerSecretRef
  targets : List AgentExternalTriggerTargetSpec
  promptTemplate : String := ""
  concurrencyPolicy : ConcurrencyPolicy := .unset
  maxDeliveriesPerDay : Nat := 0

/-- Times are counted in seconds and days are kept as they are printed. -/
structure AgentExternalTriggerStatus where
  phase : AgentExternalTriggerPhase := .unset
  receiverID : String := ""
  lastDeliveryID : String := ""
  lastDeliveryAt : Option Nat := none
  lastEventType : String := ""
  lastError : String := ""
  lastRunRefs : List NamespacedObjectReference := []
  deliveryCount : Nat := 0
  seenDeliveryIDs : List String := []
  deliveriesToday : Nat := 0
  deliveriesTodayDate : String := ""

structure AgentExternalTrigger where
  ns : String
  name : String
  uid : UID
  generation : Nat
  spec : AgentExternalTriggerSpec
  status : AgentExternalTriggerStatus

/-- A merge patch of the status: lists and times are replaced whole. -/
def mergeStatus (read new stored : AgentExternalTriggerStatus) : AgentExternalTriggerStatus where
  phase := field read.phase new.phase stored.phase
  receiverID := field read.receiverID new.receiverID stored.receiverID
  lastDeliveryID := field read.lastDeliveryID new.lastDeliveryID stored.lastDeliveryID
  lastDeliveryAt := field read.lastDeliveryAt new.lastDeliveryAt stored.lastDeliveryAt
  lastEventType := field read.lastEventType new.lastEventType stored.lastEventType
  lastError := field read.lastError new.lastError stored.lastError
  lastRunRefs := field read.lastRunRefs new.lastRunRefs stored.lastRunRefs
  deliveryCount := field read.deliveryCount new.deliveryCount stored.deliveryCount
  seenDeliveryIDs := field read.seenDeliveryIDs new.seenDeliveryIDs stored.seenDeliveryIDs
  deliveriesToday := field read.deliveriesToday new.deliveriesToday stored.deliveriesToday
  deliveriesTodayDate :=
    field read.deliveriesTodayDate new.deliveriesTodayDate stored.deliveriesTodayDate

/-- The part of a GitHub payload that is read. -/
structure GithubWebhookPayload where
  action : String := ""
  repositoryFullName : String := ""
  repositoryName : String := ""
  repositoryOwnerLogin : String := ""
  senderLogin : String := ""
  issueNumber : Int := 0
  issueTitle : String := ""
  pullRequestNumber : Int := 0
  pullRequestTitle : String := ""
  ref : String := ""
  commentBody : String := ""

/-- One webhook request, with the time at which it is handled. -/
structure WebhookRequest where
  ns : String
  name : String
  receiverID : String
  body : String
  signatureHeader : String := ""
  tokenHeader : String := ""
  deliveryHeader : String := ""
  eventHeader : String := ""
  now : Nat

structure DeliveryContext where
  deliveryID : String
  eventType : String
  repository : String
  action : String
  summary : String
  acceptedAt : Nat
  payloadHint : String

/-- The annotation a delivery leaves on a run that is still active. -/
structure DeliveryAnnotation where
  triggerName : String
  deliveryID : String
  eventType : String
  repository : String
  summary : String
  acceptedAt : Nat

structure TriggerSnapshot where
  reason : String
  message : String
  detectedAt : Nat

structure RunSpec where
  sourceRef : AgentRunSourceRef := {}
  sourceUID : UID := 0
  sourceGeneration : Nat := 0
  trigger : Option TriggerSnapshot := none
  prompt : String := ""
  profileRef : Option NamespacedObjectReference := none
  councilRef : Option NamespacedObjectReference := none

/-- An AgentRun as the handler sees it; runs of other origin carry no trigger label. -/
structure Run where
  name : String
  triggerLabel : Option String := none
  deliveryLabel : Option String := none
  createdBy : Option String := none
  delivery : Option DeliveryAnnotation := none
  spec : RunSpec := {}
  phase : AgentRunPhase := .unset

structure CouncilMember where
  role : String := ""
  profileRef : NamespacedObjectReference := {}

structure AgentCouncil where
  name : String
  members : List CouncilMember

structure Secret where
  name : String
  data : List (String × String)

/-- How a webhook request is answered. -/
inductive Answer where
  | accepted (duplicate : Bool) (deliveryID : String) (runRefs : List NamespacedObjectReference)
  | error (status : Nat) (code message : String)
deriving DecidableEq

/-- What the handler takes from its process: configuration, digests, clock formats and JSON. -/
structure WebhookEnv where
  enabled : Bool
  writes : Bool
  shortHash : String → String
  verify : (secret signature body : String) → Bool
  unmarshal : String → Option GithubWebhookPayload
  formatDay : Nat → String

end AnvilAgents.ExternalTrigger
