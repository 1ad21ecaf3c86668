import AnvilAgents.RunAPI.Composition

/-!
What an update leaves of the stored spec.

The spec of the request is decoded into the object that was read, so what it does not mention stays.
-/

namespace AnvilAgents.Composition

open GoJson Text

variable {platform : Platform} {kind : CompositionKind}

/-- The request may write objects of the kind. -/
def Server.grants (server : Server) (ns : String) (kind : CompositionKind) : Bool :=
  server.allowed permissionCompositionWrite ns &&
    (kind.pathSegment ≠ "agent-external-triggers" || server.externalTriggersEnabled) &&
    server.writeEnabled && server.writesConfigured

theorem authorizeWrite_ok {server : Server} {ns : String} (granted : server.grants ns kind)
    (mutable : kind.appendOnly = false) (message : String) :
    authorizeWrite server ns kind message = .ok () := by
  simp only [Server.grants, Bool.and_eq_true, Bool.or_eq_true, decide_eq_true_eq] at granted
  obtain ⟨⟨⟨allowed, triggers⟩, enabled⟩, configured⟩ := granted
  have served : ¬(kind.pathSegment = "agent-external-triggers" ∧
      server.externalTriggersEnabled = false) := by
    rintro ⟨segment, disabled⟩
    rcases triggers with other | on
    · exact other segment
    · rw [on] at disabled
      cases disabled
  simp [authorizeWrite, authorizeCompositionKind, allowed, served, mutable, enabled, configured,
    pure, Except.pure, bind, Except.bind]

variable {body : CompositionDocument} {spec : Json}

theorem readCompositionBody_ok (sent : body.spec = some spec) (present : spec ≠ .null) :
    readCompositionBody body = .ok spec := by
  unfold readCompositionBody
  rw [sent]
  cases spec with
  | null => exact absurd rfl present
  | _ => rfl

theorem decodeSpecIntoObject_ok (fits : (kind.spec platform).accepts platform.leaves spec)
    (obj : Object platform kind) :
    decodeSpecIntoObject platform obj spec =
      .ok { obj with spec := (kind.spec platform).put platform.leaves spec obj.spec } := by
  unfold decodeSpecIntoObject
  rw [if_pos fits]
  rfl

/-- The request is for the object at its URL, and for the version of it that is stored. -/
structure Addresses (body : CompositionDocument) (ns name : String) (stored : ObjectMeta) : Prop where
  name : body.metadata.name = "" ∨ body.metadata.name = name
  ns : body.metadata.ns = "" ∨ body.metadata.ns = ns
  version : body.metadata.resourceVersion = stored.resourceVersion
  versioned : trimSpace stored.resourceVersion ≠ ""

theorem handleCompositionUpdate_ok {server : Server} {ns name : String}
    {stored : Object platform kind} (granted : server.grants ns kind)
    (mutable : kind.appendOnly = false) (addressed : Addresses body ns name stored.metadata)
    (managed : (evaluateCompositionManagement stored.metadata).writable)
    (sent : body.spec = some spec) (present : spec ≠ .null)
    (fits : (kind.spec platform).accepts platform.leaves spec) :
    handleCompositionUpdate platform server ns name kind body (some stored) =
      .ok ⟨updateMeta stored.metadata body.metadata,
        (kind.spec platform).put platform.leaves spec stored.spec⟩ := by
  have named : ¬(body.metadata.name ≠ "" ∧ body.metadata.name ≠ name) := by
    rintro ⟨given, other⟩
    exact addressed.name.elim given other
  have placed : ¬(body.metadata.ns ≠ "" ∧ body.metadata.ns ≠ ns) := by
    rintro ⟨given, other⟩
    exact addressed.ns.elim given other
  -- None of the handler's checks applies.
  simp only [handleCompositionUpdate, authorizeWrite_ok granted mutable,
    readCompositionBody_ok sent present, decodeSpecIntoObject_ok fits, named, placed,
    addressed.versioned, managed, addressed.version, bind, Except.bind, pure, Except.pure, ne_eq, not_true_eq_false,
    Bool.not_true, Bool.false_eq_true, if_false]

/--
An update passes on the spec that its document gives by itself, just when the document settles all in
which the stored spec differs from an empty one.
-/
theorem update_replaces_iff {server : Server} {ns name : String} {body : CompositionDocument}
    {stored : Object platform kind} {spec : Json}
    (granted : server.grants ns kind) (mutable : kind.appendOnly = false)
    (addressed : Addresses body ns name stored.metadata)
    (managed : (evaluateCompositionManagement stored.metadata).writable)
    (sent : body.spec = some spec) (present : spec ≠ .null)
    (fits : (kind.spec platform).accepts platform.leaves spec) :
    ∃ updated fresh,
      handleCompositionUpdate platform server ns name kind body (some stored) = .ok updated ∧
      decodeSpecIntoObject platform (newObject platform kind) spec = .ok fresh ∧
      ((kind.spec platform).see platform.leaves updated.spec =
          (kind.spec platform).see platform.leaves fresh.spec ↔
        (kind.spec platform).settles platform.leaves spec stored.spec
          ((kind.spec platform).zero platform.leaves)) := by
  refine ⟨_, _, handleCompositionUpdate_ok granted mutable addressed managed sent present fits,
    decodeSpecIntoObject_ok fits _, ?_⟩
  exact GoType.put_see_iff platform.leaves (kind.spec platform) spec stored.spec _

/-! A set of skills whose description is changed. -/

def samplePlatform : Platform where
  Quantity := Nat
  zeroQuantity := 0
  parseQuantity _ := none
  nullQuantity _ := 0
  affinity := .struct .nil
  envVar := .struct .nil
  podSecurityContext := .struct .nil
  resourceRequirements := .struct .nil
  securityContext := .struct .nil
  toleration := .struct .nil

def sampleServer : Server where
  allowed _ _ := true
  externalTriggersEnabled := false
  writeEnabled := true
  writesConfigured := true

def sampleMeta : ObjectMeta where
  name := "console-skills"
  ns := "agents"
  resourceVersion := "7"
  labels := some [(labelManagedBy, managedByConsole)]

/-- A set of skills that every run of the namespace is given. -/
def globalSkills : Object samplePlatform .agentSkillSet where
  metadata := sampleMeta
  spec := ("old", true, none, none, none, ())

/-- A set of skills with a description only. -/
def describedSkills : Object samplePlatform .agentSkillSet where
  metadata := sampleMeta
  spec := ("old", false, none, none, none, ())

def newDescription : Json := .obj [("description", .str "new")]

def describe : CompositionDocument where
  metadata := { name := "console-skills", resourceVersion := "7" }
  spec := some newDescription

theorem sample_addresses : Addresses describe "agents" "console-skills" sampleMeta where
  name := .inr rfl
  ns := .inl rfl
  version := rfl
  versioned := by decide +kernel

theorem update_replaces_iff_described :
    ∃ updated fresh,
      handleCompositionUpdate samplePlatform sampleServer "agents" "console-skills" .agentSkillSet
        describe (some describedSkills) = .ok updated ∧
      decodeSpecIntoObject samplePlatform (newObject samplePlatform .agentSkillSet)
        newDescription = .ok fresh ∧
      ((CompositionKind.agentSkillSet.spec samplePlatform).see samplePlatform.leaves updated.spec =
          (CompositionKind.agentSkillSet.spec samplePlatform).see samplePlatform.leaves fresh.spec ↔
        (CompositionKind.agentSkillSet.spec samplePlatform).settles samplePlatform.leaves
          newDescription describedSkills.spec
          ((CompositionKind.agentSkillSet.spec samplePlatform).zero samplePlatform.leaves)) :=
  update_replaces_iff (by decide +kernel) rfl sample_addresses (by decide +kernel) rfl nofun
    (by decide)

/-- An update that says nothing of what is global leaves the set global. -/
theorem update_keeps_unmentioned_field :
    ∃ updated fresh,
      handleCompositionUpdate samplePlatform sampleServer "agents" "console-skills" .agentSkillSet
        describe (some globalSkills) = .ok updated ∧
      decodeSpecIntoObject samplePlatform (newObject samplePlatform .agentSkillSet)
        newDescription = .ok fresh ∧
      (CompositionKind.agentSkillSet.spec samplePlatform).see samplePlatform.leaves updated.spec ≠
        (CompositionKind.agentSkillSet.spec samplePlatform).see samplePlatform.leaves fresh.spec := by
  refine ⟨_, _, handleCompositionUpdate_ok (by decide) rfl sample_addresses
    (by decide +kernel) rfl nofun (by decide +kernel), decodeSpecIntoObject_ok (by decide +kernel) _,
    ?_⟩
  intro same
  have flags : true = false := congrArg (fun view => view.2.1) same
  cases flags

end AnvilAgents.Composition
