import AnvilAgents.Api.CompositionSpecs
import AnvilAgents.Automation.Run
import AnvilAgents.Lib.Fallible
import AnvilAgents.Lib.Machine

/-!
The composition API: creating and updating the objects that agents are composed of.

Objects of GitOps are not to be touched, so the handlers tell by labels and annotations whose an object
is, and take marks of GitOps off what clients send.
-/

namespace AnvilAgents.Composition

open GoJson Text
open Automation (Labels Labels.value)

inductive CompositionKind where
  | agentRunProfile
  | agentHarnessProfile
  | agentSkillSet
  | agentToolSet
  | agentCouncil
  | agentExternalTrigger
  | volumeProfile
  | agentDataVolume
  | agentAuthSession
deriving DecidableEq

namespace CompositionKind

def pathSegment : CompositionKind → String
  | agentRunProfile => "agent-run-profiles"
  | agentHarnessProfile => "agent-harness-profiles"
  | agentSkillSet => "agent-skill-sets"
  | agentToolSet => "agent-tool-sets"
  | agentCouncil => "agent-councils"
  | agentExternalTrigger => "agent-external-triggers"
  | volumeProfile => "volume-profiles"
  | agentDataVolume => "agent-data-volumes"
  | agentAuthSession => "agent-auth-sessions"

def kind : CompositionKind → String
  | agentRunProfile => "AgentRunProfile"
  | agentHarnessProfile => "AgentHarnessProfile"
  | agentSkillSet => "AgentSkillSet"
  | agentToolSet => "AgentToolSet"
  | agentCouncil => "AgentCouncil"
  | agentExternalTrigger => "AgentExternalTrigger"
  | volumeProfile => "VolumeProfile"
  | agentDataVolume => "AgentDataVolume"
  | agentAuthSession => "AgentAuthSession"

/-- Sessions are created by the operators' tool, and their specs are immutable. -/
def appendOnly : CompositionKind → Bool
  | agentAuthSession => true
  | _ => false

/-- The type of the kind's spec. No request decodes the spec of an append-only kind. -/
def spec (platform : Platform) : CompositionKind → GoType Leaf
  | agentRunProfile => agentRunProfileSpec platform
  | agentHarnessProfile => agentHarnessProfileSpec platform
  | agentSkillSet => agentSkillSetSpec
  | agentToolSet => agentToolSetSpec
  | agentCouncil => agentCouncilSpec
  | agentExternalTrigger => agentExternalTriggerSpec
  | volumeProfile => volumeProfileSpec
  | agentDataVolume => agentDataVolumeSpec
  | agentAuthSession => .struct .nil

end CompositionKind

structure ObjectMeta where
  name : String := ""
  ns : String := ""
  resourceVersion : String := ""
  labels : Option Labels := none
  annotations : Option Labels := none
deriving DecidableEq

/-- An entry of a map, replaced or added. -/
def put (entries : Labels) (key value : String) : Labels :=
  (key, value) :: entries.filter fun entry => entry.1 ≠ key

/-- The entries whose keys are not to be deleted. -/
def deleteKeys (entries : Labels) (drop : String → Bool) : Labels :=
  entries.filter fun entry => !drop entry.1

/-! ## Whose an object is -/

def labelManagedBy : String := "control.anvil.hazyforge.io/managed-by"
def managedByConsole : String := "anvil-agents-console"
def genericManagedBy : String := "app.kubernetes.io/managed-by"

inductive ManagementReason where
  | consoleManaged
  | gitOpsProtected
  | notConsoleManaged
deriving DecidableEq

def ManagementReason.text : ManagementReason → String
  | consoleManaged => "console_managed"
  | gitOpsProtected => "gitops_protected"
  | notConsoleManaged => "not_console_managed"

structure CompositionManagement where
  writable : Bool
  reason : ManagementReason
  managedBy : String := ""
deriving DecidableEq

def isGitOpsLabelKey (key : String) : Bool :=
  hasPrefix key "argocd.argoproj.io/" || hasPrefix key "kustomize.toolkit.fluxcd.io/" ||
    hasPrefix key "helm.toolkit.fluxcd.io/" || hasPrefix key "helm.fluxcd.io/"

def isGitOpsAnnotationKey (key : String) : Bool :=
  hasPrefix key "argocd.argoproj.io/" || hasPrefix key "meta.helm.sh/" ||
    hasPrefix key "kustomize.toolkit.fluxcd.io/" || hasPrefix key "helm.toolkit.fluxcd.io/"

def containsText (s part : String) : Bool :=
  s.toList.tails.any part.toList.isPrefixOf

def gitOpsFamilyFromKey (key : String) : String :=
  if containsText key "argocd" then "argocd"
  else if containsText key "flux" then "flux"
  else if containsText key "helm" then "helm"
  else "gitops"

def lower (value : String) : String :=
  String.ofList (value.toList.map toLower)

/-- The values of the generic label that stand for a GitOps tool. -/
def gitOpsManagers : List String :=
  ["argocd", "helm", "flux", "kustomize-controller", "helm-controller", "kustomize"]

/-- The manager that an entry of a map names, if the entry is not blank. -/
def markedBy (entries : Labels) (key manager : String) : Option String :=
  if trimSpace (entries.value key) ≠ "" then some manager else none

/-- The family of a key that only a GitOps tool sets. Entries are looked at in some order. -/
def markedByKey (entries : Labels) (isGitOpsKey : String → Bool) : Option String :=
  (entries.find? fun entry => isGitOpsKey entry.1).map fun entry => gitOpsFamilyFromKey entry.1

def genericManager (labels : Labels) : Option String :=
  let value := lower (trimSpace (labels.value genericManagedBy))
  if value ∈ gitOpsManagers then some value else none

def labelsManager (labels : Labels) : Option String :=
  (markedBy labels "argocd.argoproj.io/instance" "argocd").or <|
  (markedBy labels "kustomize.toolkit.fluxcd.io/name" "flux").or <|
  (markedBy labels "helm.toolkit.fluxcd.io/name" "flux").or <|
  (genericManager labels).or <|
  markedByKey labels isGitOpsLabelKey

def annotationsManager (annotations : Labels) : Option String :=
  (markedBy annotations "argocd.argoproj.io/tracking-id" "argocd").or <|
  (markedBy annotations "meta.helm.sh/release-name" "helm").or <|
  (markedBy annotations "meta.helm.sh/release-namespace" "helm").or <|
  markedByKey annotations isGitOpsAnnotationKey

def detectGitOpsManager (obj : ObjectMeta) : Option String :=
  (obj.labels.bind labelsManager).or (obj.annotations.bind annotationsManager)

def evaluateCompositionManagement (obj : ObjectMeta) : CompositionManagement :=
  match detectGitOpsManager obj with
  | some manager => ⟨false, .gitOpsProtected, manager⟩
  | none =>
    let managedBy := (obj.labels.getD []).value labelManagedBy
    if managedBy = managedByConsole then ⟨true, .consoleManaged, managedByConsole⟩
    else
      ⟨false, .notConsoleManaged, if trimSpace managedBy = "" then "unmanaged" else trimSpace managedBy⟩

/-- Set the console's label and take off the marks of GitOps. -/
def stampLabels (labels : Option Labels) : Labels :=
  let labels := deleteKeys (put (labels.getD []) labelManagedBy managedByConsole) isGitOpsLabelKey
  match labels.lookup genericManagedBy with
  | some managedBy =>
    if equalFold managedBy managedByConsole then labels
    else deleteKeys labels fun key => key = genericManagedBy
  | none => labels

def stampAnnotations (annotations : Option Labels) : Option Labels :=
  annotations.bind fun annotations =>
    let annotations := deleteKeys annotations isGitOpsAnnotationKey
    if annotations.isEmpty then none else some annotations

def stampConsoleManaged (obj : ObjectMeta) : ObjectMeta :=
  { obj with
    labels := some (stampLabels obj.labels)
    annotations := stampAnnotations obj.annotations }

/-! ## Requests -/

structure CompositionDocument where
  metadata : ObjectMeta := {}
  spec : Option Json := none

structure APIError where
  status : Nat
  code : String
  message : String
deriving DecidableEq

structure Server where
  allowed : String → String → Bool
  externalTriggersEnabled : Bool
  writeEnabled : Bool
  writesConfigured : Bool

variable (platform : Platform)

/-- An object of a composition kind. -/
structure Object (kind : CompositionKind) where
  metadata : ObjectMeta
  spec : (kind.spec platform).Val platform.leaves

def newObject (kind : CompositionKind) : Object platform kind :=
  ⟨{}, (kind.spec platform).zero platform.leaves⟩

def permissionCompositionWrite : String := "anvil-agents:composition:write"

def notFound : APIError := ⟨404, "not_found", "resource not found"⟩
def invalidBody (message : String) : APIError := ⟨400, "invalid_body", message⟩

def authorizeCompositionKind (server : Server) (ns : String) (kind : CompositionKind)
    (permission : String) : Except APIError Unit := do
  if !server.allowed permission ns then throw notFound
  if kind.pathSegment = "agent-external-triggers" ∧ !server.externalTriggersEnabled then
    throw notFound

/-- What both kinds of writes ask for first. -/
def authorizeWrite (server : Server) (ns : String) (kind : CompositionKind)
    (appendOnlyMessage : String) : Except APIError Unit := do
  authorizeCompositionKind server ns kind permissionCompositionWrite
  if kind.appendOnly then throw ⟨403, "append_only", appendOnlyMessage⟩
  if !server.writeEnabled then
    throw ⟨404, "composition_write_disabled", "composition write is disabled"⟩
  if !server.writesConfigured then
    throw ⟨503, "composition_write_disabled", "composition write client is not configured"⟩

/-- The body's spec, which must be there. -/
def readCompositionBody (body : CompositionDocument) : Except APIError Json :=
  match body.spec with
  | none | some .null => throw (invalidBody "spec is required")
  | some spec => pure spec

/-- Decode a spec into the object, over what its spec holds. -/
def decodeSpecIntoObject {kind : CompositionKind} (obj : Object platform kind) (spec : Json) :
    Except APIError (Object platform kind) :=
  if (kind.spec platform).accepts platform.leaves spec then
    pure { obj with spec := (kind.spec platform).put platform.leaves spec obj.spec }
  else throw ⟨400, "invalid", "decode spec into " ++ kind.kind⟩

/-- The object that a create request hands to the API server. -/
def handleCompositionCreate (server : Server) (ns : String) (kind : CompositionKind)
    (body : CompositionDocument) : Except APIError (Object platform kind) := do
  authorizeWrite server ns kind
    ("AgentAuthSession objects are append-only operator intents; " ++
      "create them with anvil-agentctl auth, not the composition write API")
  let spec ← readCompositionBody body
  let name := trimSpace body.metadata.name
  if name = "" then throw (invalidBody "metadata.name is required")
  if body.metadata.ns ≠ "" ∧ body.metadata.ns ≠ ns then
    throw (invalidBody "metadata.namespace must match the URL namespace")
  let obj ← decodeSpecIntoObject platform (newObject platform kind) spec
  let labels := body.metadata.labels.filter fun labels => !labels.isEmpty
  let annotations := body.metadata.annotations.filter fun annotations => !annotations.isEmpty
  return { obj with
    metadata := stampConsoleManaged { name, ns, labels, annotations } }

def compositionWriteBlockedMessage (management : CompositionManagement) : String :=
  match management.reason with
  | .gitOpsProtected =>
    "object is owned by GitOps (" ++ management.managedBy ++ "); edit the Git source of truth instead"
  | .notConsoleManaged =>
    "object is not console-managed; only objects labeled " ++
      "control.anvil.hazyforge.io/managed-by=anvil-agents-console can be mutated"
  | .consoleManaged => "object is not writable through the composition API"

/-- The labels and annotations of an object after an update. -/
def updateMeta (current sent : ObjectMeta) : ObjectMeta :=
  let relabelled :=
    match sent.labels with
    | some labels =>
      -- Only this branch is without the check of the generic label.
      { current with
        labels := some (deleteKeys (put labels labelManagedBy managedByConsole) isGitOpsLabelKey) }
    | none => stampConsoleManaged current
  let annotated :=
    match sent.annotations with
    | some annotations =>
      { relabelled with annotations := some (deleteKeys annotations isGitOpsAnnotationKey) }
    | none => relabelled
  { annotated with
    labels := some (put (annotated.labels.getD []) labelManagedBy managedByConsole)
    resourceVersion := sent.resourceVersion }

/-- The object that an update request hands to the API server, given the stored one. -/
def handleCompositionUpdate (server : Server) (ns name : String) (kind : CompositionKind)
    (body : CompositionDocument) (stored : Option (Object platform kind)) :
    Except APIError (Object platform kind) := do
  authorizeWrite server ns kind
    "AgentAuthSession specs are immutable; create a new session with anvil-agentctl auth"
  let spec ← readCompositionBody body
  if body.metadata.name ≠ "" ∧ body.metadata.name ≠ name then
    throw (invalidBody "metadata.name must match the URL name")
  if body.metadata.ns ≠ "" ∧ body.metadata.ns ≠ ns then
    throw (invalidBody "metadata.namespace must match the URL namespace")
  if trimSpace body.metadata.resourceVersion = "" then
    throw (invalidBody "metadata.resourceVersion is required for updates")
  let some current := stored | throw notFound
  let management := evaluateCompositionManagement current.metadata
  if !management.writable then
    throw ⟨403, management.reason.text, compositionWriteBlockedMessage management⟩
  if current.metadata.resourceVersion ≠ body.metadata.resourceVersion then
    throw ⟨409, "conflict", "resourceVersion does not match the current object; reload and retry"⟩
  let current ← decodeSpecIntoObject platform current spec
  return { current with metadata := updateMeta current.metadata body.metadata }

/-! ## Listing -/

section Listing

variable {platform} {kind : CompositionKind} {Body : Type}

/-- An object as a client sees it; the body holds the JSON of its spec and of its status. -/
structure ShownDocument (Body : Type) where
  kind : String
  metadata : ObjectMeta
  body : Body
  management : CompositionManagement
deriving DecidableEq

def newCompositionDocument (marshal : Object platform kind → Except String Body)
    (obj : Object platform kind) : Except String (ShownDocument Body) := do
  return ⟨kind.kind, obj.metadata, ← marshal obj, evaluateCompositionManagement obj.metadata⟩

/-- The items of a list, for the kinds that the type switch has a case for. -/
def objectListItems (list : List (Object platform kind)) : List (Object platform kind) :=
  if kind ∈ [.agentRunProfile, .agentHarnessProfile, .agentSkillSet, .agentToolSet, .agentCouncil,
    .volumeProfile, .agentDataVolume, .agentAuthSession] then list else []

def byName (a b : Object platform kind) : Bool :=
  a.metadata.name ≤ b.metadata.name

def permissionCompositionRead : String := "anvil-agents:composition:read"
def compositionListDefault : Nat := 50
def compositionListMax : Nat := 200

/-- The limit that a query gives, or the default. -/
def listLimit (atoi : String → Option Int) (raw : String) : Except APIError Nat :=
  let invalid : APIError := ⟨400, "invalid_limit", "limit must be between 1 and 200"⟩
  if isBlank raw then pure compositionListDefault
  else match atoi (trimSpace raw) with
    | none => throw invalid
    | some parsed =>
      if parsed < 1 ∨ parsed > compositionListMax then throw invalid else pure parsed.toNat

/-- Each object as a document, or the error for the first that has no JSON. -/
def encodeItems (marshal : Object platform kind → Except String Body)
    (items : List (Object platform kind)) : Except APIError (List (ShownDocument Body)) :=
  (items.mapM (newCompositionDocument marshal)).mapError fun _ =>
    ⟨500, "encode_failed", "failed to encode composition object"⟩

/-- The answer to a list request, given what the API server has, if it answers. -/
def handleCompositionList (server : Server) (readEnabled : Bool) (ns : String)
    (atoi : String → Option Int) (raw : String) (list : Option (List (Object platform kind)))
    (marshal : Object platform kind → Except String Body) :
    Except APIError (List (ShownDocument Body)) := do
  authorizeCompositionKind server ns kind permissionCompositionRead
  if !readEnabled then throw notFound
  let limit ← listLimit atoi raw
  let some list := list
    | throw ⟨503, "kubernetes_unavailable", "composition state is unavailable"⟩
  encodeItems marshal (((objectListItems list).mergeSort byName).take limit)

end Listing

/-! ## The store -/

structure ObjectId where
  kind : CompositionKind
  key : Key
deriving DecidableEq

/-- The stored objects, those that this API wrote last, and the next resource version. -/
structure Store where
  objects : (id : ObjectId) → Option (Object platform id.kind)
  written : List ObjectId
  version : Nat

/--
What happens to the store. The API server admits what a request hands to it, or not.

Others edit objects that this API has not written. An update reads and writes in one step: were there
a write in between, the resource versions would not match and the API server would refuse.
-/
inductive Request where
  | create (server : Server) (ns : String) (kind : CompositionKind) (body : CompositionDocument)
    (admitted : Bool)
  | update (server : Server) (ns name : String) (kind : CompositionKind) (body : CompositionDocument)
    (admitted : Bool)
  | edit (id : ObjectId) (object : Option (Object platform id.kind))

/-- The API server stores an object under a new resource version. -/
def Store.write (s : Store platform) (id : ObjectId) (object : Object platform id.kind) :
    Store platform where
  objects := Function.update s.objects id
    (some { object with
      metadata := { object.metadata with resourceVersion := toString s.version } })
  written := id :: s.written
  version := s.version + 1

def Store.next (s : Store platform) : Request platform → Option (Store platform)
  | .create server ns kind body admitted =>
    match handleCompositionCreate platform server ns kind body with
    | .error _ => some s
    | .ok object =>
      let id : ObjectId := ⟨kind, ⟨ns, object.metadata.name⟩⟩
      if !admitted || (s.objects id).isSome then some s else some (s.write platform id object)
  | .update server ns name kind body admitted =>
    let id : ObjectId := ⟨kind, ⟨ns, name⟩⟩
    match handleCompositionUpdate platform server ns name kind body (s.objects id) with
    | .error _ => some s
    | .ok object => if !admitted then some s else some (s.write platform id object)
  | .edit id object =>
    if id ∈ s.written then none
    else some { s with objects := Function.update s.objects id object, version := s.version + 1 }

def compositionAPI : Machine (Store platform) (Request platform) where
  next := Store.next platform

end AnvilAgents.Composition
