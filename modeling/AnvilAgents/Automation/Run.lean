import AnvilAgents.Controller.Gates
import AnvilAgents.Lib.GoTime

/-! What schedules and chains share: times, run templates and the application a run belongs to. -/

namespace AnvilAgents.Automation

open Text

/-- A point in time, in nanoseconds since the year 1; 0 is the time that is not set. -/
abbrev Time := Nat

/-- The time that a computation gives. A duration spans 292 years, so no clock of today leads back to
the time that is not set. -/
def timeOf (t : Int) : Time := max second t.toNat

def hour : Nat := 3600 * second

/-- Resources keep times by the second. -/
def stored (t : Time) : Time := t / second * second

/-- The UTC day of a time. -/
def dayOf (t : Time) : Nat := t / (24 * hour)

/-- How the controller prints times, reads the times in manual tokens, and hashes. -/
structure Env where
  shortHash : String → String
  rfc3339 : Time → String
  rfc3339Nano : Time → String
  /-- The layout `20060102-150405`. -/
  stamp : Time → String
  /-- A token that is a time, in the layout above. -/
  parseStamp : String → Option String
  parseStamp_solid : ∀ token time, parseStamp token = some time → isBlank time = false

structure TriggerSnapshot where
  reason : String := ""
  message : String := ""
  detectedAt : Option Time := none
deriving DecidableEq

structure SourceRef where
  apiVersion : String := ""
  kind : String := ""
  ns : String := ""
  name : String := ""
deriving DecidableEq

def groupVersion : String := "control.anvil.hazyforge.io/v1alpha1"

/-- The spec of an AgentRun; `rest` stands for the fields that are only copied. -/
structure RunSpec where
  /-- The name in `scope.applicationRef`. -/
  application : Option String := none
  purpose : String := ""
  sourceRef : SourceRef := {}
  sourceUID : UID := 0
  sourceGeneration : Nat := 0
  trigger : TriggerSnapshot := {}
  scheduleRef : Option NamespacedObjectReference := none
  profileRef : Option NamespacedObjectReference := none
  prompt : String := ""
  rest : String := ""
deriving DecidableEq

abbrev Labels := List (String × String)

/-- The value of a label, empty when it is missing. -/
def Labels.value (labels : Labels) (key : String) : String :=
  (labels.lookup key).getD ""

def Labels.within (expected actual : Labels) : Bool :=
  expected.all fun (key, value) => actual.value key == value

def agentManagedByLabel : String := "app.kubernetes.io/managed-by"
def agentApplicationLabel : String := "control.anvil.hazyforge.io/application"
def agentDynamicLabel : String := "control.anvil.hazyforge.io/agent-dynamic"
def agentManagerRepositoryLabel : String := "control.anvil.hazyforge.io/agent-manager-repository"

/-- The application scope of a profile, by profile name. -/
abbrev Profiles := List (String × Option String)

/-- The application of a run template; a profile it names must exist and must not disagree. -/
def resolveAgentRunSpecApplicationNameStrict (profiles : Profiles) (ns : String) (spec : RunSpec) :
    Except String String :=
  let direct := trimSpace (spec.application.getD "")
  match spec.profileRef with
  | none => .ok direct
  | some ref =>
    let profileName := trimSpace ref.name
    if profileName = "" then .ok direct
    else
      let profileNamespace := firstNonEmpty [trimSpace ref.ns, ns]
      if profileNamespace ≠ ns then
        .error s!"profileRef must reference an AgentRunProfile in namespace \"{ns}\""
      else
        match profiles.lookup profileName with
        | none => .error s!"get AgentRunProfile {profileNamespace}/{profileName}: not found"
        | some scope =>
          let profileApplication := trimSpace (scope.getD "")
          if direct ≠ "" ∧ profileApplication ≠ "" ∧ direct ≠ profileApplication then
            .error (s!"run scope applicationRef \"{direct}\" conflicts with AgentRunProfile " ++
              s!"applicationRef \"{profileApplication}\"")
          else .ok (firstNonEmpty [direct, profileApplication])

end AnvilAgents.Automation
