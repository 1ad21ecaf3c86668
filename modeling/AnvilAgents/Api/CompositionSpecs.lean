import AnvilAgents.Lib.GoJson
import Mathlib.Algebra.Group.Int.Defs

/-!
The specs of the kinds that the composition API serves, as the decoder sees them.

Types that Kubernetes defines are left open where no more than their being types is used.
-/

namespace AnvilAgents.Composition

open GoJson

inductive Leaf where
  | string
  | bool
  | int (bits : Nat)
  | quantity

/-- What Kubernetes defines: its quantities and the types of pods that specs refer to. -/
structure Platform where
  Quantity : Type
  zeroQuantity : Quantity
  parseQuantity : String → Option Quantity
  /-- What `null` makes of a quantity, which decodes itself. -/
  nullQuantity : Quantity → Quantity
  affinity : GoType Leaf
  envVar : GoType Leaf
  podSecurityContext : GoType Leaf
  resourceRequirements : GoType Leaf
  securityContext : GoType Leaf
  toleration : GoType Leaf

variable (platform : Platform)

def Leaf.Val : Leaf → Type
  | .string => String
  | .bool => Bool
  | .int _ => Int
  | .quantity => platform.Quantity

def Leaf.zero : (leaf : Leaf) → leaf.Val platform
  | .string => ""
  | .bool => false
  | .int _ => (0 : Int)
  | .quantity => platform.zeroQuantity

/-- A number literal that is an integer of the given width. -/
def readInt (bits : Nat) (literal : String) : Option Int :=
  literal.toInt?.filter fun value => -2 ^ (bits - 1) ≤ value ∧ value < 2 ^ (bits - 1)

/-- What a document does to a leaf. `null` leaves all but quantities alone. -/
def Leaf.effect : (leaf : Leaf) → Json → Effect (leaf.Val platform)
  | .string, .str value => .set value
  | .bool, .bool value => .set value
  | .int bits, .num literal => (readInt bits literal).elim .keep .set
  | .quantity, .null => .change platform.nullQuantity
  | .quantity, .str value => (platform.parseQuantity value).elim .keep .set
  | .quantity, .num literal => (platform.parseQuantity literal).elim .keep .set
  | _, _ => .keep

def Leaf.accepts (leaf : Leaf) (document : Json) : Bool :=
  match document with
  | .null => true
  | document => (leaf.effect platform document).sets

def Platform.leaves : Leaves Leaf where
  Val := Leaf.Val platform
  zero := Leaf.zero platform
  effect := Leaf.effect platform
  accepts := Leaf.accepts platform

def string : GoType Leaf := .leaf .string
def bool : GoType Leaf := .leaf .bool
def int : GoType Leaf := .leaf (.int 64)
def int32 : GoType Leaf := .leaf (.int 32)
def quantity : GoType Leaf := .leaf .quantity

def localObjectReference : GoType Leaf :=
  .struct <| .ofList
    [("name", string)]

def applicationReferenceSpec : GoType Leaf :=
  .struct <| .ofList
    [("name", string)]

def applicationTargetReferenceSpec : GoType Leaf :=
  .struct <| .ofList
    [("name", string)]

def agentRunRepositorySpec : GoType Leaf :=
  .struct <| .ofList
    [("name", string),
     ("url", string),
     ("ref", string),
     ("destinationBranch", string),
     ("allowedBranches", .slice string)]

def agentRunScopeSpec : GoType Leaf :=
  .struct <| .ofList
    [("summary", string),
     ("applicationRef", .pointer applicationReferenceSpec),
     ("applicationTargetRef", .pointer applicationTargetReferenceSpec),
     ("namespaces", .slice string),
     ("resourceKinds", .slice string),
     ("repository", .pointer agentRunRepositorySpec)]

def agentRunDocsSpec : GoType Leaf :=
  .struct <| .ofList
    [("policy", string),
     ("paths", .slice string),
     ("runtimePaths", .slice string),
     ("notes", string)]

def agentRunIssueRef : GoType Leaf :=
  .struct <| .ofList
    [("repository", string),
     ("number", int)]

def agentRunIssueTrackingSpec : GoType Leaf :=
  .struct <| .ofList
    [("provider", string),
     ("repository", string),
     ("issues", .slice agentRunIssueRef),
     ("searchQuery", string),
     ("updatePolicy", string)]

def agentRunCodexBackendSpec : GoType Leaf :=
  .struct <| .ofList
    [("model", string),
     ("reasoningEffort", string),
     ("verbosity", string),
     ("serviceTier", string),
     ("goalMode", bool),
     ("goal", string),
     ("sandbox", string),
     ("additionalArgs", .slice string)]

def agentRunOpenCodeBackendSpec : GoType Leaf :=
  .struct <| .ofList
    [("model", string),
     ("agent", string),
     ("variant", string),
     ("format", string),
     ("auto", .pointer bool),
     ("pure", .pointer bool),
     ("additionalArgs", .slice string)]

def agentRunHermesBackendSpec : GoType Leaf :=
  .struct <| .ofList
    [("model", string),
     ("reasoningEffort", string),
     ("serviceTier", string),
     ("profile", string),
     ("useCodexAppServer", bool),
     ("additionalArgs", .slice string)]

def agentRunOpenClawBackendSpec : GoType Leaf :=
  .struct <| .ofList
    [("agentId", string),
     ("model", string),
     ("thinking", string),
     ("serviceTier", string),
     ("local", .pointer bool),
     ("additionalArgs", .slice string)]

def agentRunGrokBuildBackendSpec : GoType Leaf :=
  .struct <| .ofList
    [("model", string),
     ("reasoningEffort", string),
     ("serviceTier", string),
     ("profile", string),
     ("command", string),
     ("additionalArgs", .slice string)]

def agentRunPiBackendSpec : GoType Leaf :=
  .struct <| .ofList
    [("provider", string),
     ("model", string),
     ("thinking", string),
     ("mode", string),
     ("noSession", bool),
     ("additionalArgs", .slice string)]

def agentRunPrimeBackendSpec : GoType Leaf :=
  .struct <| .ofList
    [("provider", string),
     ("model", string),
     ("thinking", string),
     ("mode", string),
     ("noSession", bool),
     ("additionalArgs", .slice string)]

def agentRunAgyBackendSpec : GoType Leaf :=
  .struct <| .ofList
    [("model", string),
     ("mode", string),
     ("thinking", string),
     ("additionalArgs", .slice string)]

def agentRunCustomBackendSpec : GoType Leaf :=
  .struct <| .ofList
    [("command", .slice string),
     ("args", .slice string)]

def agentRunHarnessBackendSpec : GoType Leaf :=
  .struct <| .ofList
    [("kind", string),
     ("image", string),
     ("modelProvider", string),
     ("providerAuthMode", string),
     ("imagePullPolicy", string),
     ("codex", .pointer agentRunCodexBackendSpec),
     ("openCode", .pointer agentRunOpenCodeBackendSpec),
     ("hermesAgent", .pointer agentRunHermesBackendSpec),
     ("openClaw", .pointer agentRunOpenClawBackendSpec),
     ("grokBuild", .pointer agentRunGrokBuildBackendSpec),
     ("piAgent", .pointer agentRunPiBackendSpec),
     ("primeAgent", .pointer agentRunPrimeBackendSpec),
     ("agy", .pointer agentRunAgyBackendSpec),
     ("custom", .pointer agentRunCustomBackendSpec)]

def namespacedObjectReference : GoType Leaf :=
  .struct <| .ofList
    [("name", string),
     ("namespace", string)]

def secretKeyReference : GoType Leaf :=
  .struct <| .ofList
    [("name", string),
     ("namespace", string),
     ("key", string)]

def agentRunGitHubSkillCredential : GoType Leaf :=
  .struct <| .ofList
    [("apiHost", string),
     ("tokenSecretRef", secretKeyReference)]

def agentRunExternalSecretRefreshRef : GoType Leaf :=
  .struct <| .ofList
    [("name", string),
     ("targetSecretRef", namespacedObjectReference)]

def agentRunDataVolumeRef : GoType Leaf :=
  .struct <| .ofList
    [("name", string),
     ("namespace", string),
     ("mountPath", string),
     ("subPath", string),
     ("readOnly", bool)]

def agentRunSpiffeWorkloadAPISpec : GoType Leaf :=
  .struct <| .ofList
    [("enabled", bool),
     ("spiffeId", string)]

def agentRunSubstrateActorSpec : GoType Leaf :=
  .struct <| .ofList
    [("actorClass", string),
     ("pool", string),
     ("suspendOnIdle", .pointer bool)]

def agentRunHarnessExecutionSpec : GoType Leaf :=
  .struct <| .ofList
    [("serviceAccountName", string),
     ("envSecretRefs", .slice namespacedObjectReference),
     ("skillSourceCredentials", .slice agentRunGitHubSkillCredential),
     ("externalSecretRefreshRefs", .slice agentRunExternalSecretRefreshRef),
     ("extraEnv", .slice platform.envVar),
     ("dataVolumeRefs", .slice agentRunDataVolumeRef),
     ("spiffeWorkloadAPI", agentRunSpiffeWorkloadAPISpec),
     ("resources", platform.resourceRequirements),
     ("nodeSelector", .map string),
     ("affinity", .pointer platform.affinity),
     ("tolerations", .slice platform.toleration),
     ("imagePullSecrets", .slice localObjectReference),
     ("podSecurityContext", .pointer platform.podSecurityContext),
     ("securityContext", .pointer platform.securityContext),
     ("workdir", string),
     ("runtime", string),
     ("substrate", .pointer agentRunSubstrateActorSpec),
     ("timeoutSeconds", int),
     ("ttlSecondsAfterFinished", .pointer int32)]

def agentRunGitHubSkillSourceSpec : GoType Leaf :=
  .struct <| .ofList
    [("repository", string),
     ("ref", string),
     ("path", string),
     ("apiBaseURL", string)]

def agentRunSkillSourceRef : GoType Leaf :=
  .struct <| .ofList
    [("github", .pointer agentRunGitHubSkillSourceSpec)]

def agentRunSkillInjectionSpec : GoType Leaf :=
  .struct <| .ofList
    [("name", string),
     ("description", string),
     ("content", string),
     ("sourceRefs", .slice agentRunSkillSourceRef),
     ("paths", .slice string)]

def agentRunSubagentSpec : GoType Leaf :=
  .struct <| .ofList
    [("name", string),
     ("description", string),
     ("when", string),
     ("toolNames", .slice string),
     ("systemPrompt", string)]

def agentRunToolImageInitializerSpec : GoType Leaf :=
  .struct <| .ofList
    [("image", string),
     ("command", .slice string),
     ("args", .slice string)]

def agentRunToolSpec : GoType Leaf :=
  .struct <| .ofList
    [("name", string),
     ("description", string),
     ("setupScript", string),
     ("imageInitializer", .pointer agentRunToolImageInitializerSpec),
     ("verifyCommand", .slice string)]

def agentRunHarnessSpec : GoType Leaf :=
  .struct <| .ofList
    [("intent", string),
     ("backend", agentRunHarnessBackendSpec),
     ("execution", agentRunHarnessExecutionSpec platform),
     ("skillInjections", .slice agentRunSkillInjectionSpec),
     ("subagents", .slice agentRunSubagentSpec),
     ("tools", .slice agentRunToolSpec),
     ("systemPrompt", string)]

def agentSkillOverrideSpec : GoType Leaf :=
  .struct <| .ofList
    [("name", string),
     ("operation", string),
     ("description", string),
     ("content", string),
     ("sourceRefs", .slice agentRunSkillSourceRef),
     ("paths", .slice string)]

def agentSkillCompositionSpec : GoType Leaf :=
  .struct <| .ofList
    [("mode", string),
     ("refs", .slice namespacedObjectReference),
     ("overrides", .slice agentSkillOverrideSpec),
     ("excludeGlobal", bool)]

def agentToolCompositionSpec : GoType Leaf :=
  .struct <| .ofList
    [("mode", string),
     ("refs", .slice namespacedObjectReference),
     ("excludeGlobal", bool)]

def agentRunTelegramNotificationSpec : GoType Leaf :=
  .struct <| .ofList
    [("botTokenRef", secretKeyReference),
     ("chatIdRef", secretKeyReference),
     ("apiBaseURL", string)]

def agentRunDiscordNotificationSpec : GoType Leaf :=
  .struct <| .ofList
    [("webhookURLRef", secretKeyReference)]

def agentRunNotificationSpec : GoType Leaf :=
  .struct <| .ofList
    [("mobileOps", bool),
     ("telegram", .pointer agentRunTelegramNotificationSpec),
     ("discord", .pointer agentRunDiscordNotificationSpec)]

def agentRunProfileSpec : GoType Leaf :=
  .struct <| .ofList
    [("description", string),
     ("scope", agentRunScopeSpec),
     ("docs", .pointer agentRunDocsSpec),
     ("issueTracking", .pointer agentRunIssueTrackingSpec),
     ("harness", agentRunHarnessSpec platform),
     ("harnessProfileRef", .pointer namespacedObjectReference),
     ("skillSets", .pointer agentSkillCompositionSpec),
     ("toolSets", .pointer agentToolCompositionSpec),
     ("councilRef", .pointer namespacedObjectReference),
     ("notifications", .pointer agentRunNotificationSpec)]

def agentHarnessProfileSpec : GoType Leaf :=
  .struct <| .ofList
    [("description", string),
     ("backend", agentRunHarnessBackendSpec),
     ("execution", agentRunHarnessExecutionSpec platform)]

def agentSkillSetSpec : GoType Leaf :=
  .struct <| .ofList
    [("description", string),
     ("global", bool),
     ("skills", .slice agentRunSkillInjectionSpec),
     ("tools", .slice agentRunToolSpec),
     ("subagents", .slice agentRunSubagentSpec)]

def agentToolSetSpec : GoType Leaf :=
  .struct <| .ofList
    [("description", string),
     ("global", bool),
     ("tools", .slice agentRunToolSpec)]

def agentCouncilMemberSpec : GoType Leaf :=
  .struct <| .ofList
    [("role", string),
     ("profileRef", namespacedObjectReference),
     ("description", string)]

def agentCouncilSpec : GoType Leaf :=
  .struct <| .ofList
    [("description", string),
     ("members", .slice agentCouncilMemberSpec),
     ("councilPrompt", string)]

def agentExternalTriggerGitHubSpec : GoType Leaf :=
  .struct <| .ofList
    [("repositories", .slice string),
     ("events", .slice string)]

def agentExternalTriggerSourceSpec : GoType Leaf :=
  .struct <| .ofList
    [("kind", string),
     ("github", .pointer agentExternalTriggerGitHubSpec)]

def agentExternalTriggerSecretRef : GoType Leaf :=
  .struct <| .ofList
    [("name", string),
     ("webhookSecretKey", string),
     ("pathTokenKey", string)]

def agentExternalTriggerTargetSpec : GoType Leaf :=
  .struct <| .ofList
    [("kind", string),
     ("name", string),
     ("councilDelivery", string)]

def agentExternalTriggerHTTPRouteSpec : GoType Leaf :=
  .struct <| .ofList
    [("hostname", string)]

def agentExternalTriggerSpec : GoType Leaf :=
  .struct <| .ofList
    [("suspend", bool),
     ("source", agentExternalTriggerSourceSpec),
     ("secretRef", agentExternalTriggerSecretRef),
     ("targets", .slice agentExternalTriggerTargetSpec),
     ("httpRoute", .pointer agentExternalTriggerHTTPRouteSpec),
     ("promptTemplate", string),
     ("concurrencyPolicy", string),
     ("maxDeliveriesPerDay", int)]

def volumeProfileCapacityPolicySpec : GoType Leaf :=
  .struct <| .ofList
    [("maxNodeAllocatableEphemeralStoragePercent", .pointer int32)]

def volumeProfileVolumeSizeSpec : GoType Leaf :=
  .struct <| .ofList
    [("request", quantity),
     ("maxNodeAllocatableEphemeralStoragePercent", .pointer int32)]

def agentDataVolumePathEnvVar : GoType Leaf :=
  .struct <| .ofList
    [("name", string),
     ("value", string)]

def externalVolumeSyncS3Spec : GoType Leaf :=
  .struct <| .ofList
    [("bucket", string),
     ("prefix", string),
     ("region", string),
     ("endpoint", string)]

def externalVolumeSyncSpec : GoType Leaf :=
  .struct <| .ofList
    [("disabled", bool),
     ("provider", string),
     ("direction", string),
     ("seedOnCreate", bool),
     ("syncBack", bool),
     ("schedule", string),
     ("credentialsSecretRef", .pointer localObjectReference),
     ("s3", .pointer externalVolumeSyncS3Spec),
     ("notes", string)]

def volumeProfileVolumeSpec : GoType Leaf :=
  .struct <| .ofList
    [("name", string),
     ("purpose", string),
     ("mountPath", string),
     ("subPath", string),
     ("storageClassName", string),
     ("size", volumeProfileVolumeSizeSpec),
     ("accessModes", .slice string),
     ("nodeSelector", .map string),
     ("extraEnv", .slice agentDataVolumePathEnvVar),
     ("externalSync", .pointer externalVolumeSyncSpec),
     ("notes", string)]

def volumeProfileSpec : GoType Leaf :=
  .struct <| .ofList
    [("applicationRef", .pointer applicationReferenceSpec),
     ("description", string),
     ("capacityPolicy", .pointer volumeProfileCapacityPolicySpec),
     ("volumes", .slice volumeProfileVolumeSpec),
     ("notes", string)]

def agentDataVolumeSpec : GoType Leaf :=
  .struct <| .ofList
    [("applicationRef", .pointer applicationReferenceSpec),
     ("agentName", string),
     ("backend", string),
     ("profileRef", .pointer localObjectReference),
     ("profileVolumeName", string),
     ("claimName", string),
     ("mountPath", string),
     ("subPath", string),
     ("storageClassName", string),
     ("size", quantity),
     ("accessModes", .slice string),
     ("nodeSelector", .map string),
     ("extraEnv", .slice agentDataVolumePathEnvVar),
     ("externalSync", .pointer externalVolumeSyncSpec),
     ("notes", string)]

end AnvilAgents.Composition
