import AnvilAgents.Lib.Pool
import AnvilAgents.Trigger.Types

/-!
The webhook handler of external triggers.

Each read, create and merge patch is one call to the API server, and everything between two calls
happens at once.
-/

namespace AnvilAgents.ExternalTrigger

open Text Conc

/-- Why the API server turned a call down. -/
inductive ApiError where
  | notFound
  | alreadyExists
  | unavailable

def ApiError.text : ApiError → String
  | .notFound => "not found"
  | .alreadyExists => "already exists"
  | .unavailable => "unavailable"

inductive Call where
  | getTrigger (ns name : String)
  | getSecret (name : String)
  | listRuns (label : String)
  | getCouncil (name : String)
  | getRun (name : String)
  | createRun (run : Run)
  | annotateRun (name : String) (delivery : DeliveryAnnotation)
  | patchStatus (original new : AgentExternalTriggerStatus)

@[reducible]
def Reply : Call → Type
  | .getTrigger .. => Except ApiError AgentExternalTrigger
  | .getSecret _ => Except ApiError Secret
  | .listRuns _ => Except ApiError (List Run)
  | .getCouncil _ => Except ApiError AgentCouncil
  | .getRun _ => Except ApiError Run
  | .createRun _ => Except ApiError Unit
  | .annotateRun .. => Except ApiError Unit
  | .patchStatus .. => Except ApiError Unit

/-- The namespace of one trigger as the API server stores it. -/
structure World where
  trigger : AgentExternalTrigger
  secrets : List Secret := []
  councils : List AgentCouncil := []
  runs : List Run := []

namespace World

def run? (s : World) (name : String) : Option Run :=
  s.runs.find? fun run => run.name == name

/-- Change the runs of one name, which is at most one run. -/
def updateRun (s : World) (name : String) (change : Run → Run) : World :=
  { s with runs := s.runs.map fun run => if run.name = name then change run else run }

end World

/-- What one call replies and leaves behind. -/
def serve : (c : Call) → World → Reply c × World
  | .getTrigger ns name, s =>
    if s.trigger.ns = ns ∧ s.trigger.name = name then (.ok s.trigger, s) else (.error .notFound, s)
  | .getSecret name, s =>
    match s.secrets.find? fun secret => secret.name == name with
    | some secret => (.ok secret, s)
    | none => (.error .notFound, s)
  | .listRuns label, s => (.ok (s.runs.filter fun run => run.triggerLabel == some label), s)
  | .getCouncil name, s =>
    match s.councils.find? fun council => council.name == name with
    | some council => (.ok council, s)
    | none => (.error .notFound, s)
  | .getRun name, s =>
    match s.run? name with
    | some run => (.ok run, s)
    | none => (.error .notFound, s)
  | .createRun run, s =>
    match s.run? run.name with
    | some _ => (.error .alreadyExists, s)
    | none => (.ok (), { s with runs := s.runs ++ [run] })
  | .annotateRun name delivery, s =>
    match s.run? name with
    | some _ => (.ok (), s.updateRun name fun run => { run with delivery := some delivery })
    | none => (.error .notFound, s)
  | .patchStatus original new, s =>
    (.ok (), { s with trigger := { s.trigger with
      status := mergeStatus original new s.trigger.status } })

def refusal : (c : Call) → Reply c
  | .getTrigger .. => .error .unavailable
  | .getSecret _ => .error .unavailable
  | .listRuns _ => .error .unavailable
  | .getCouncil _ => .error .unavailable
  | .getRun _ => .error .unavailable
  | .createRun _ => .error .unavailable
  | .annotateRun .. => .error .unavailable
  | .patchStatus .. => .error .unavailable

abbrev Program := Prog Call Reply

def getTrigger (ns name : String) : Program (Except ApiError AgentExternalTrigger) :=
  Prog.ask (Call.getTrigger ns name)

def getSecret (name : String) : Program (Except ApiError Secret) :=
  Prog.ask (Call.getSecret name)

def listRuns (label : String) : Program (Except ApiError (List Run)) :=
  Prog.ask (Call.listRuns label)

def getCouncil (name : String) : Program (Except ApiError AgentCouncil) :=
  Prog.ask (Call.getCouncil name)

def getRun (name : String) : Program (Except ApiError Run) :=
  Prog.ask (Call.getRun name)

def createRun (run : Run) : Program (Except ApiError Unit) :=
  Prog.ask (Call.createRun run)

def annotateRun (name : String) (delivery : DeliveryAnnotation) : Program (Except ApiError Unit) :=
  Prog.ask (Call.annotateRun name delivery)

def patchStatus (original new : AgentExternalTriggerStatus) : Program (Except ApiError Unit) :=
  Prog.ask (Call.patchStatus original new)

def externalTriggerMaxBodyBytes : Nat := 256 * 1024
def externalTriggerSummaryMaxRunes : Nat := 512
def externalTriggerPromptMaxRunes : Nat := 4096
def externalTriggerSeenDeliveryLimit : Nat := 64
def defaultWebhookSecretKey : String := "webhookSecret"
def councilDeliveryAllMembers : String := "allMembers"

def externalTriggerDefaultPrompt : String :=
  "GitHub webhook delivery \x7b\x7bdeliveryID\x7d\x7d for \x7b\x7brepository\x7d\x7d " ++
    "(event \x7b\x7beventType\x7d\x7d).\n\n\x7b\x7bsummary\x7d\x7d"

/-- The request of a hidden resource is answered like that of a missing one. -/
def notFoundAnswer : Answer := .error 404 "not_found" "resource not found"

variable (env : WebhookEnv) (trigger : AgentExternalTrigger)
  (target : AgentExternalTriggerTargetSpec) (delivery : DeliveryContext)

/-- The webhook secret and, when one is configured, the path token. -/
def loadExternalTriggerSecrets : Program (Except String (String × String)) := do
  let secretName := trimSpace trigger.spec.secretRef.name
  if secretName = "" then
    return .error "secretRef.name is required"
  match ← getSecret secretName with
  | .error fault => return .error fault.text
  | .ok secret =>
    let given := trimSpace trigger.spec.secretRef.webhookSecretKey
    let key := if given = "" then defaultWebhookSecretKey else given
    let webhookSecret := (secret.data.lookup key).getD ""
    if webhookSecret = "" then
      return .error s!"secret \"{secretName}\" key \"{key}\" is missing or empty"
    let pathKey := trimSpace trigger.spec.secretRef.pathTokenKey
    if pathKey = "" then
      return .ok (webhookSecret, "")
    let pathToken := (secret.data.lookup pathKey).getD ""
    if pathToken = "" then
      return .error s!"secret \"{secretName}\" path token key \"{pathKey}\" is missing or empty"
    return .ok (webhookSecret, pathToken)

/-- The parts of a payload worth telling an agent, in a fixed order. -/
def buildGitHubPayloadSummary (payload : GithubWebhookPayload) (repo : String) : String :=
  let text (label value : String) (max : Nat) : List String :=
    if trimSpace value = "" then [] else [label ++ limit max (trimSpace value)]
  let whole (label value : String) : List String :=
    if trimSpace value = "" then [] else [label ++ trimSpace value]
  let parts :=
    (if repo = "" then [] else ["repo=" ++ repo]) ++
    whole "action=" payload.action ++
    (if 0 < payload.pullRequestNumber then
      s!"pr=#{payload.pullRequestNumber}" :: text "title=" payload.pullRequestTitle 120 else []) ++
    (if 0 < payload.issueNumber then
      s!"issue=#{payload.issueNumber}" :: text "title=" payload.issueTitle 120 else []) ++
    whole "ref=" payload.ref ++
    whole "sender=" payload.senderLogin ++
    text "comment=" payload.commentBody 160
  if parts = [] then "github webhook delivery"
  else limit externalTriggerSummaryMaxRunes (" ".intercalate parts)

/-- The repository a payload is about, by its full name or by owner and name. -/
def payloadRepository (payload : GithubWebhookPayload) : String :=
  let full := trimSpace payload.repositoryFullName
  if full ≠ "" then full
  else
    let owner := trimSpace payload.repositoryOwnerLogin
    let name := trimSpace payload.repositoryName
    if owner ≠ "" ∧ name ≠ "" then owner ++ "/" ++ name else ""

/-- Equality up to case and surrounding white space, as allow lists use it. -/
def listed (allowed : List String) (value : String) : Bool :=
  let lower (s : String) := String.ofList ((trimSpace s).toList.map toLower)
  allowed.any fun entry => lower entry == lower value

def githubRepositoryAllowed (github : Option AgentExternalTriggerGitHubSpec) (repo : String) : Bool :=
  match github with
  | none => false
  | some spec => trimSpace repo ≠ "" && listed spec.repositories repo

def githubEventAllowed (github : Option AgentExternalTriggerGitHubSpec) (eventType : String) : Bool :=
  match github with
  | none => false
  | some spec => spec.events.isEmpty || listed spec.events eventType

def externalTriggerSeenDelivery (seen : List String) (deliveryID : String) : Bool :=
  seen.contains (trimSpace deliveryID)

/-- The deliveries a status counts for a day; a count of another day is none. -/
def AgentExternalTriggerStatus.countOn (status : AgentExternalTriggerStatus) (day : String) : Nat :=
  if status.deliveriesTodayDate = day then status.deliveriesToday else 0

def ensureExternalTriggerDailyBudget (now : Nat) : Except String Unit :=
  let max := trigger.spec.maxDeliveriesPerDay
  let day := env.formatDay now
  if 0 < max ∧ max ≤ trigger.status.countOn day then
    .error s!"maxDeliveriesPerDay {max} reached for {day}"
  else .ok ()

/-- What a request with this payload delivers. -/
def deliveryContext (request : WebhookRequest) (payload : GithubWebhookPayload) : DeliveryContext :=
  let repo := payloadRepository payload
  let summary := buildGitHubPayloadSummary payload repo
  { deliveryID := trimSpace request.deliveryHeader
    eventType := trimSpace request.eventHeader
    repository := repo
    action := trimSpace payload.action
    summary := summary
    acceptedAt := request.now
    payloadHint := limit externalTriggerSummaryMaxRunes summary }

/--
Everything the handler decides between reading the secret and asking for other runs.

The answer of a request that goes no further, or the delivery to make.
-/
def admitDelivery (secret pathToken : String) (request : WebhookRequest) : Except Answer
    DeliveryContext := do
  unless env.verify secret request.signatureHeader request.body do
    throw (.error 401 "invalid_signature" "signature verification failed")
  let provided := trimSpace request.tokenHeader
  if pathToken ≠ "" ∧ (provided = "" ∨ provided ≠ pathToken) then
    throw (.error 401 "invalid_path_token" "path token verification failed")
  if trigger.spec.suspend ∨ trigger.status.phase = .suspended then
    throw (.error 409 "suspended" "trigger is suspended")
  if trigger.status.phase = .blocked then
    throw (.error 409 "blocked" "trigger is blocked")
  let deliveryID := trimSpace request.deliveryHeader
  let eventType := trimSpace request.eventHeader
  if deliveryID = "" then
    throw (.error 400 "missing_delivery_id" "X-GitHub-Delivery is required")
  if eventType = "" then
    throw (.error 400 "missing_event_type" "X-GitHub-Event is required")
  if externalTriggerSeenDelivery trigger.status.seenDeliveryIDs deliveryID then
    throw (.accepted true deliveryID trigger.status.lastRunRefs)
  let some payload := env.unmarshal request.body
    | throw (.error 400 "invalid_payload" "payload is not valid JSON")
  unless githubRepositoryAllowed trigger.spec.github (payloadRepository payload) do
    throw (.error 403 "repository_not_allowed" "repository is not allowlisted")
  unless githubEventAllowed trigger.spec.github eventType do
    throw (.error 403 "event_not_allowed" "event type is not allowlisted")
  match ensureExternalTriggerDailyBudget env trigger request.now with
  | .error message => throw (.error 429 "daily_limit" message)
  | .ok () => return deliveryContext request payload

/-- Why an active run stops a delivery. -/
def blockedMessage (name : String) : String :=
  "active AgentRun " ++ name ++ " blocks Forbid concurrency"

/-- Under the policy Forbid, which is the default, an active run of the trigger stops a delivery. -/
def ensureExternalTriggerConcurrency : Program (Except String Unit) := do
  if trigger.spec.concurrencyPolicy = .allow then
    return .ok ()
  match ← listRuns (sanitizeLabelValue trigger.name) with
  | .error fault => return .error fault.text
  | .ok runs =>
    match runs.find? fun run => !agentRunPhaseTerminal run.phase with
    | some run => return .error (blockedMessage run.name)
    | none => return .ok ()

def renderExternalTriggerPrompt (template : String) (delivery : DeliveryContext) : String :=
  let text := if trimSpace template = "" then externalTriggerDefaultPrompt else trimSpace template
  replaceAll [
    ("\x7b\x7beventType\x7d\x7d", delivery.eventType),
    ("\x7b\x7brepository\x7d\x7d", delivery.repository),
    ("\x7b\x7bdeliveryID\x7d\x7d", delivery.deliveryID),
    ("\x7b\x7bsummary\x7d\x7d", delivery.payloadHint)] text

/-- A run name from sanitized parts; one that is too long keeps its last part. -/
def agentRunChildNameLocal (parts : List String) : String :=
  let tokens := (parts.map sanitizeLabelValue).filter (· ≠ "")
  let name := "-".intercalate tokens
  if name.length ≤ 63 then name
  else
    let suffix := tokens.getLastD ""
    if suffix.length < 63 then
      String.ofList (trimDashes (name.toList.take (63 - suffix.length - 1))) ++ "-" ++ suffix
    else limit 63 suffix

def externalTriggerRunName (triggerName deliveryID profileName : String) : String :=
  agentRunChildNameLocal ["agentrun", triggerName, "gh",
    env.shortHash ("|".intercalate [triggerName, deliveryID, profileName])]

def externalTriggerRun (profileName extraNote : String)
    (councilRef : Option NamespacedObjectReference) : Run :=
  let rendered := renderExternalTriggerPrompt trigger.spec.promptTemplate delivery
  let prompt := if extraNote = "" then rendered else trimSpace (rendered ++ "\n\n" ++ extraNote)
  { name := externalTriggerRunName env trigger.name delivery.deliveryID profileName
    triggerLabel := some (sanitizeLabelValue trigger.name)
    deliveryLabel := some (sanitizeLabelValue (env.shortHash delivery.deliveryID))
    createdBy := some "anvil-agents-external-trigger"
    spec := {
      sourceRef := { kind := "AgentExternalTrigger", ns := trigger.ns, name := trigger.name }
      sourceUID := trigger.uid
      sourceGeneration := trigger.generation
      trigger := some {
        reason := "GitHubWebhookDelivery"
        message := limit 2048
          (delivery.eventType ++ " " ++ delivery.deliveryID ++ " " ++ delivery.payloadHint)
        detectedAt := delivery.acceptedAt }
      prompt := limit externalTriggerPromptMaxRunes prompt
      profileRef := some { name := profileName }
      councilRef := councilRef } }

/-- Create a run of the delivery; one that exists under its name is taken for it. -/
def createExternalTriggerRun (profile extraNote : String)
    (councilRef : Option NamespacedObjectReference) : Program
    (Except String NamespacedObjectReference) := do
  let profileName := trimSpace profile
  if profileName = "" then
    return .error "profileName is required"
  let run := externalTriggerRun env trigger delivery profileName extraNote councilRef
  match ← createRun run with
  | .ok () => return .ok { name := run.name, ns := trigger.ns }
  | .error .alreadyExists =>
    match ← getRun run.name with
    | .ok existing => return .ok { name := existing.name, ns := trigger.ns }
    | .error fault => return .error fault.text
  | .error fault => return .error fault.text

/-- Whether a council member takes part in a delivery. -/
def CouncilMember.selected (member : CouncilMember) (deliveryMode : String) : Bool :=
  deliveryMode == councilDeliveryAllMembers || trimSpace member.role == deliveryMode

/-- One run per council member that takes part, until one fails; `refs` are those so far. -/
def deliverCouncilMembers (env : WebhookEnv) (trigger : AgentExternalTrigger)
    (delivery : DeliveryContext) (council deliveryMode : String) :
    List CouncilMember → List NamespacedObjectReference →
      Program (Except String (List NamespacedObjectReference))
  | [], refs => return .ok refs
  | member :: members, refs => do
    let profileName := trimSpace member.profileRef.name
    if profileName = "" then
      deliverCouncilMembers env trigger delivery council deliveryMode members refs
    else if member.profileRef.ns ≠ "" ∧ member.profileRef.ns ≠ trigger.ns then
      return .error s!"council member profileRef namespace must be empty or {trigger.ns}"
    else if member.selected deliveryMode then
      let note := s!"Council {council} member role \"{trimSpace member.role}\"."
      match ← createExternalTriggerRun env trigger delivery profileName note
          (some { name := council }) with
      | .error message => return .error message
      | .ok ref =>
        deliverCouncilMembers env trigger delivery council deliveryMode members (refs ++ [ref])
    else deliverCouncilMembers env trigger delivery council deliveryMode members refs

def deliverExternalTriggerCouncil : Program (Except String (List NamespacedObjectReference)) := do
  match ← getCouncil (trimSpace target.name) with
  | .error fault => return .error fault.text
  | .ok council =>
    let mode := trimSpace target.councilDelivery
    let deliveryMode := if mode = "" then councilDeliveryAllMembers else mode
    match ← deliverCouncilMembers env trigger delivery council.name deliveryMode council.members [] with
    | .error message => return .error message
    | .ok refs =>
      -- Every member that takes part adds a reference, so none means that nobody matched.
      if refs = [] then
        if deliveryMode = councilDeliveryAllMembers then
          return .error s!"council {council.name} has no member profiles"
        else
          return .error s!"council {council.name} has no member with role \"{deliveryMode}\""
      else return .ok refs

def annotationOf : DeliveryAnnotation where
  triggerName := trigger.name
  deliveryID := delivery.deliveryID
  eventType := delivery.eventType
  repository := delivery.repository
  summary := delivery.payloadHint
  acceptedAt := delivery.acceptedAt

def phaseText : AgentRunPhase → String
  | .unset => ""
  | .pending => "Pending"
  | .running => "Running"
  | .needsHuman => "NeedsHuman"
  | .succeeded => "Succeeded"
  | .failed => "Failed"

/-- An active run is annotated; a finished one gets a successor with its profile and council. -/
def deliverExternalTriggerAgentRunTarget : Program (Except String (List NamespacedObjectReference))
    := do
  let missing := Except.error
    s!"AgentRun target \"{target.name}\" is missing or terminal without a profileRef to copy"
  match ← getRun (trimSpace target.name) with
  | .error .notFound => return missing
  | .error fault => return .error fault.text
  | .ok existing =>
    if agentRunPhaseTerminal existing.phase then
      let profileName := trimSpace ((existing.spec.profileRef.map (·.name)).getD "")
      if profileName = "" then
        return missing
      let note :=
        s!"Successor of AgentRun {target.name} (previous phase {phaseText existing.phase})."
      match ← createExternalTriggerRun env trigger delivery profileName note
          existing.spec.councilRef with
      | .error message => return .error message
      | .ok ref => return .ok [ref]
    else
      match ← annotateRun existing.name (annotationOf trigger delivery) with
      | .error fault => return .error fault.text
      | .ok () => return .ok [{ name := existing.name, ns := trigger.ns }]

def deliverExternalTriggerTarget : Program (Except String (List NamespacedObjectReference)) :=
  match target.kind with
  | .agentRunProfile => do
    match ← createExternalTriggerRun env trigger delivery (trimSpace target.name) "" none with
    | .error message => return .error message
    | .ok ref => return .ok [ref]
  | .agentCouncil => deliverExternalTriggerCouncil env trigger target delivery
  | .agentRun => deliverExternalTriggerAgentRunTarget env trigger target delivery
  | .unsupported kind => return .error s!"unsupported target kind \"{kind}\""

/-- The targets in order, until one fails; `refs` are those so far. -/
def deliverExternalTrigger (env : WebhookEnv) (trigger : AgentExternalTrigger)
    (delivery : DeliveryContext) :
    List AgentExternalTriggerTargetSpec → List NamespacedObjectReference →
      Program (Except String (List NamespacedObjectReference))
  | [], refs => return .ok refs
  | target :: targets, refs => do
    match ← deliverExternalTriggerTarget env trigger target delivery with
    | .error message => return .error message
    | .ok created => deliverExternalTrigger env trigger delivery targets (refs ++ created)

/-- The last deliveries seen, at most a fixed number of them. -/
def appendSeenDeliveryID (seen : List String) (deliveryID : String) : List String :=
  if externalTriggerSeenDelivery seen deliveryID then seen
  else
    let longer := seen ++ [deliveryID]
    longer.drop (longer.length - externalTriggerSeenDeliveryLimit)

/-- The status after one more accepted delivery. -/
def AgentExternalTriggerStatus.recorded (status : AgentExternalTriggerStatus) (day : String)
    (delivery : DeliveryContext) (runRefs : List NamespacedObjectReference) :
    AgentExternalTriggerStatus :=
  { status with
    deliveriesTodayDate := day
    deliveriesToday := status.countOn day + 1
    deliveryCount := status.deliveryCount + 1
    lastDeliveryID := delivery.deliveryID
    lastDeliveryAt := some delivery.acceptedAt
    lastEventType := delivery.eventType
    lastError := ""
    lastRunRefs := runRefs
    seenDeliveryIDs := appendSeenDeliveryID status.seenDeliveryIDs delivery.deliveryID
    phase := if status.phase = .unset ∨ status.phase = .pending then .ready else status.phase }

/-- Count the delivery on a fresh read of the trigger, with a patch that nothing guards. -/
def recordExternalTriggerSuccess (runRefs : List NamespacedObjectReference) : Program
    (Except String Unit) := do
  match ← getTrigger trigger.ns trigger.name with
  | .error fault => return .error fault.text
  | .ok fresh =>
    let status := fresh.status.recorded (env.formatDay delivery.acceptedAt) delivery runRefs
    match ← patchStatus fresh.status status with
    | .error fault => return .error fault.text
    | .ok () => return .ok ()

/-- Keep the text of a failed delivery; a failure to do so is ignored. -/
def recordExternalTriggerError (message : String) : Program Unit := do
  match ← getTrigger trigger.ns trigger.name with
  | .error _ => return ()
  | .ok fresh =>
    let _ ← patchStatus fresh.status { fresh.status with lastError := limit 1024 message }
    return ()

/-- What the handler does with a delivery that was admitted. -/
def processDelivery : Program Answer := do
  match ← ensureExternalTriggerConcurrency trigger with
  | .error message => return .error 409 "concurrency_forbid" message
  | .ok () =>
    match ← deliverExternalTrigger env trigger delivery trigger.spec.targets [] with
    | .error message =>
      recordExternalTriggerError trigger message
      return .error 503 "delivery_failed" "delivery failed"
    | .ok runRefs =>
      match ← recordExternalTriggerSuccess env trigger delivery runRefs with
      | .error _ =>
        return .error 503 "status_update_failed" "delivery accepted but status update failed"
      | .ok () => return .accepted false delivery.deliveryID runRefs

def handleExternalTriggerWebhook (request : WebhookRequest) : Program Answer := do
  if !env.enabled then
    return notFoundAnswer
  if !env.writes then
    return .error 503 "composition_write_disabled" "composition write client is not configured"
  let ns := trimSpace request.ns
  let name := trimSpace request.name
  let receiverID := trimSpace request.receiverID
  if ns = "" ∨ name = "" ∨ receiverID = "" then
    return notFoundAnswer
  if externalTriggerMaxBodyBytes < request.body.utf8ByteSize then
    return .error 413 "payload_too_large"
      s!"request body exceeds {externalTriggerMaxBodyBytes} bytes"
  match ← getTrigger ns name with
  | .error .notFound => return notFoundAnswer
  | .error _ => return .error 503 "kubernetes_unavailable" "trigger lookup failed"
  | .ok trigger =>
    if isBlank trigger.status.receiverID ∨ trigger.status.receiverID ≠ receiverID then
      return notFoundAnswer
    match ← loadExternalTriggerSecrets trigger with
    | .error _ => return .error 503 "secret_unavailable" "webhook secret unavailable"
    | .ok (secret, pathToken) =>
      match admitDelivery env trigger secret pathToken request with
      | .error answer => return answer
      | .ok delivery => processDelivery env trigger delivery

/-- What happens to runs besides deliveries: an active run moves to some phase. -/
inductive Act where
  | progress (name : String) (phase : AgentRunPhase)

def act : Act → World → Option World
  | .progress name phase, s =>
    match s.run? name with
    | some run =>
      if agentRunPhaseTerminal run.phase then none
      else some (s.updateRun name fun run => { run with phase := phase })
    | none => none

/-- Webhook requests handled side by side against one API server. -/
def webhooks : Service WebhookRequest Call Reply Answer World Act where
  serve := serve
  refusal := refusal
  handler := handleExternalTriggerWebhook env
  act := act

end AnvilAgents.ExternalTrigger
