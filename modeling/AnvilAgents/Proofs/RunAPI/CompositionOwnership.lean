import AnvilAgents.Proofs.RunAPI.CompositionReplace

/-!
Whose the objects of the composition API are.

Marks of GitOps are entries under reserved keys, and values of one generic label. The API takes off the
entries from all that it writes, and the values from labels that it does not replace.
-/

namespace AnvilAgents.Composition

open Text List Fallible Option Function
open Automation (Labels Labels.value)

/-! ## Maps -/

/-- No key of the map is reserved. -/
def Clean (reserved : String → Bool) (entries : Labels) : Prop :=
  ∀ entry ∈ entries, reserved entry.1 = false

section Maps

variable {reserved : String → Bool} {entries : Labels} {key value : String}

theorem deleteKeys_clean : Clean reserved (deleteKeys entries reserved) := by
  intro entry member
  simpa [deleteKeys] using (mem_filter.mp member).2

theorem Clean.put (clean : Clean reserved entries) (free : reserved key = false) :
    Clean reserved (put entries key value) := by
  intro entry member
  rcases mem_cons.mp member with rfl | older
  · exact free
  · exact clean entry (mem_of_mem_filter older)

theorem Clean.deleteKeys (clean : Clean reserved entries) (drop : String → Bool) :
    Clean reserved (deleteKeys entries drop) :=
  fun entry member => clean entry (mem_of_mem_filter member)

theorem lookup_filter (keep : String → Bool) (entries : Labels) (key : String) :
    (entries.filter fun entry => keep entry.1).lookup key =
      if keep key then entries.lookup key else none := by
  induction entries with
  | nil => simp
  | cons entry entries ih =>
    obtain ⟨name, text⟩ := entry
    rw [filter_cons]
    by_cases same : key = name
    · subst same
      cases kept : keep key <;> simp [kept, ih]
    · have other : (key == name) = false := by simpa using same
      cases kept : keep name <;> simp [lookup_cons, other, ih]

theorem lookup_deleteKeys (entries : Labels) (reserved : String → Bool) (key : String) :
    (deleteKeys entries reserved).lookup key = if reserved key then none else entries.lookup key := by
  rw [deleteKeys, lookup_filter fun key => !reserved key]
  cases reserved key <;> rfl

@[simp]
theorem put_value : (put entries key value).value key = value := by
  simp [put, Labels.value]

theorem put_value_of_ne {other : String} (distinct : other ≠ key) :
    (put entries key value).value other = entries.value other := by
  have differs : (other == key) = false := by simpa using distinct
  have kept := lookup_filter (fun name => decide (name ≠ key)) entries other
  rw [if_pos (by simpa using distinct)] at kept
  simp only [Labels.value, put, lookup_cons, differs]
  rw [kept]

theorem deleteKeys_value (free : reserved key = false) :
    (deleteKeys entries reserved).value key = entries.value key := by
  simp [Labels.value, lookup_deleteKeys, free]

theorem value_eq_empty (clean : Clean reserved entries) (taken : reserved key) :
    entries.value key = "" := by
  -- A clean map is what is left after deleting the reserved keys.
  have same : deleteKeys entries reserved = entries :=
    filter_eq_self.mpr fun entry member => by rw [clean entry member]; rfl
  have gone := lookup_deleteKeys entries reserved key
  rw [same, if_pos taken] at gone
  rw [Labels.value, gone]
  rfl

end Maps

/-! ## Managers -/

theorem markedBy_eq_none {reserved : String → Bool} {entries : Labels} {key : String}
    (clean : Clean reserved entries) (taken : reserved key) (manager : String) :
    markedBy entries key manager = none := by
  rw [markedBy, value_eq_empty clean taken]
  simp

theorem markedByKey_eq_none_iff {reserved : String → Bool} {entries : Labels} :
    markedByKey entries reserved = none ↔ Clean reserved entries := by
  simp [markedByKey, Clean, find?_eq_none]

/-- Labels name a manager under reserved keys, or by the generic label. -/
theorem labelsManager_eq_none_iff {labels : Labels} :
    labelsManager labels = none ↔
      Clean isGitOpsLabelKey labels ∧ genericManager labels = none := by
  simp only [labelsManager, or_eq_none_iff, markedByKey_eq_none_iff]
  constructor
  · rintro ⟨-, -, -, generic, clean⟩
    exact ⟨clean, generic⟩
  · rintro ⟨clean, generic⟩
    exact ⟨markedBy_eq_none clean (by decide) _,
      markedBy_eq_none clean (by decide) _, markedBy_eq_none clean (by decide) _,
      generic, clean⟩

variable {annotations : Labels}

theorem annotationsManager_eq_none_iff :
    annotationsManager annotations = none ↔ Clean isGitOpsAnnotationKey annotations := by
  simp only [annotationsManager, or_eq_none_iff, markedByKey_eq_none_iff]
  constructor
  · rintro ⟨-, -, -, clean⟩
    exact clean
  · intro clean
    exact ⟨markedBy_eq_none clean (by decide) _,
      markedBy_eq_none clean (by decide) _, markedBy_eq_none clean (by decide) _,
      clean⟩

/-- What makes an object the console's. -/
structure ConsoleManaged (obj : ObjectMeta) : Prop where
  labels : ∀ labels, obj.labels = some labels →
    Clean isGitOpsLabelKey labels ∧ genericManager labels = none
  annotations : ∀ annotations, obj.annotations = some annotations →
    Clean isGitOpsAnnotationKey annotations
  console : (obj.labels.getD []).value labelManagedBy = managedByConsole

theorem writable_iff {obj : ObjectMeta} :
    (evaluateCompositionManagement obj).writable ↔ ConsoleManaged obj := by
  have undetected : detectGitOpsManager obj = none ↔
      (∀ labels, obj.labels = some labels →
        Clean isGitOpsLabelKey labels ∧ genericManager labels = none) ∧
      ∀ annotations, obj.annotations = some annotations →
        Clean isGitOpsAnnotationKey annotations := by
    simp only [detectGitOpsManager, or_eq_none_iff, bind_eq_none_iff,
      labelsManager_eq_none_iff, annotationsManager_eq_none_iff]
  unfold evaluateCompositionManagement
  cases found : detectGitOpsManager obj with
  | some manager =>
    refine iff_of_false nofun fun managed => ?_
    rw [undetected.mpr ⟨managed.labels, managed.annotations⟩] at found
    cases found
  | none =>
    obtain ⟨labels, annotations⟩ := undetected.mp found
    dsimp only
    split
    next console => exact iff_of_true rfl ⟨labels, annotations, console⟩
    next other => exact iff_of_false nofun fun managed => other managed.console

/-! ## What the API writes -/

/-- The console's own name is none of a GitOps tool, whatever its case. -/
theorem lower_notMem_of_console {value : String} (console : equalFold value managedByConsole) :
    lower (trimSpace value) ∉ gitOpsManagers := by
  have plain : managedByConsole.toList.all (fun c => !isSpace c) = true := by decide
  have solid := solid_of_equalFold console fun c member => by simpa using all_eq_true.mp plain c member
  rw [trimSpace_of_solid solid]
  have folded := map_fold_of_equalFold console
  intro listed
  have length : value.toList.length = 20 := by
    have same := congrArg length folded
    rw [length_map, length_map] at same
    exact same.trans (by decide)
  have lowered : (lower value).toList.length = 20 := by
    rw [lower, String.toList_ofList, length_map]
    exact length
  -- One name of a tool is as long as the console's, and starts with another letter.
  have name : lower value = "kustomize-controller" := by
    have only : ∀ manager ∈ gitOpsManagers, manager.toList.length = 20 →
        manager = "kustomize-controller" := by decide
    exact only _ listed lowered
  cases split : value.toList with
  | nil =>
    rw [split] at length
    cases length
  | cons first rest =>
    have starts : fold first = 'a' := by
      rw [split] at folded
      exact (cons.inj folded).1
    have tool : toLower first = 'k' := by
      have chars := congrArg String.toList name
      rw [lower, String.toList_ofList, split] at chars
      exact (cons.inj chars).1
    unfold fold at starts
    split at starts
    next => cases starts
    split at starts
    next dotted =>
      subst starts
      cases dotted
    rw [tool] at starts
    cases starts

theorem labelManagedBy_free : isGitOpsLabelKey labelManagedBy = false := by decide

theorem genericManagedBy_free : isGitOpsLabelKey genericManagedBy = false := by decide

theorem generic_ne_managedBy : genericManagedBy ≠ labelManagedBy := by decide

theorem genericManager_congr {labels others : Labels}
    (same : labels.value genericManagedBy = others.value genericManagedBy) :
    genericManager labels = genericManager others := by
  rw [genericManager, genericManager, same]

variable (labels : Labels) (current sent : ObjectMeta)

/-- The labels of the console: the marks are off, except for what the generic label says. -/
def consoleLabels : Labels :=
  deleteKeys (put labels labelManagedBy managedByConsole) isGitOpsLabelKey

theorem consoleLabels_clean : Clean isGitOpsLabelKey (consoleLabels labels) :=
  deleteKeys_clean

theorem consoleLabels_console : (consoleLabels labels).value labelManagedBy = managedByConsole := by
  rw [consoleLabels, deleteKeys_value labelManagedBy_free, put_value]

theorem consoleLabels_generic : (consoleLabels labels).value genericManagedBy = labels.value
    genericManagedBy := by
  rw [consoleLabels, deleteKeys_value genericManagedBy_free, put_value_of_ne generic_ne_managedBy]

theorem genericManager_of_empty {labels : Labels} (empty : labels.value genericManagedBy = "") :
    genericManager labels = none := by
  rw [genericManager, empty, trimSpace_empty]
  rfl

/-- Stamped labels are the console's, and no generic label names a tool. -/
theorem stampLabels_managed (labels : Option Labels) :
    Clean isGitOpsLabelKey (stampLabels labels) ∧ genericManager (stampLabels labels) = none ∧
      (stampLabels labels).value labelManagedBy = managedByConsole := by
  have clean := consoleLabels_clean (labels.getD [])
  have console := consoleLabels_console (labels.getD [])
  simp only [stampLabels, ← consoleLabels.eq_1]
  cases found : (consoleLabels (labels.getD [])).lookup genericManagedBy with
  | none =>
    have empty : (consoleLabels (labels.getD [])).value genericManagedBy = "" := by
      rw [Labels.value, found]
      rfl
    exact ⟨clean, genericManager_of_empty empty, console⟩
  | some managedBy =>
    dsimp only
    split
    next own =>
      -- The console's own name may stay, and it is no tool's.
      have value : (consoleLabels (labels.getD [])).value genericManagedBy = managedBy := by
        rw [Labels.value, found]
        rfl
      refine ⟨clean, ?_, console⟩
      rw [genericManager, value]
      exact if_neg (lower_notMem_of_console own)
    next =>
      refine ⟨clean.deleteKeys _, genericManager_of_empty ?_, ?_⟩
      · simp [Labels.value, lookup_deleteKeys]
      · rw [deleteKeys_value (by decide)]
        exact console

theorem stampAnnotations_clean {annotations : Option Labels} {left : Labels}
    (stamped : stampAnnotations annotations = some left) : Clean isGitOpsAnnotationKey left := by
  obtain ⟨given, -, kept⟩ := bind_eq_some_iff.mp stamped
  dsimp only at kept
  split at kept
  next => cases kept
  cases kept
  exact deleteKeys_clean

theorem stampConsoleManaged_managed (obj : ObjectMeta) : ConsoleManaged (stampConsoleManaged obj) := by
  obtain ⟨clean, generic, console⟩ := stampLabels_managed obj.labels
  refine ⟨?_, fun annotations stamped => stampAnnotations_clean stamped, console⟩
  rintro labels stamped
  cases stamped
  exact ⟨clean, generic⟩

/-- The labels that an update puts the console's name on. -/
def updatedLabels : Labels :=
  match sent.labels with
  | some labels => consoleLabels labels
  | none => stampLabels current.labels

theorem updateMeta_labels : (updateMeta current sent).labels = some
    (put (updatedLabels current sent) labelManagedBy managedByConsole) := by
  unfold updateMeta updatedLabels
  cases sent.labels <;> cases sent.annotations <;> rfl

theorem updateMeta_annotations_clean {current sent : ObjectMeta} (managed : ConsoleManaged current)
    (updated : (updateMeta current sent).annotations = some annotations) :
    Clean isGitOpsAnnotationKey annotations := by
  unfold updateMeta at updated
  cases given : sent.annotations with
  | some others =>
    rw [given] at updated
    cases updated
    exact deleteKeys_clean
  | none =>
    rw [given] at updated
    cases labels : sent.labels with
    | some _ =>
      -- Annotations that are left alone are those of an object that was the console's.
      rw [labels] at updated
      exact managed.annotations annotations updated
    | none =>
      rw [labels] at updated
      exact stampAnnotations_clean updated

theorem updatedLabels_clean : Clean isGitOpsLabelKey (updatedLabels current sent) := by
  unfold updatedLabels
  split
  next labels _ => exact consoleLabels_clean labels
  next => exact (stampLabels_managed current.labels).1

/-- The request does not put the name of a GitOps tool on the generic label. -/
def ObjectMeta.namesNoTool (sent : ObjectMeta) : Bool :=
  (sent.labels.bind genericManager).isNone

theorem updatedLabels_generic : genericManager (updatedLabels current sent) = none ↔
    sent.namesNoTool := by
  unfold updatedLabels ObjectMeta.namesNoTool
  cases sent.labels with
  | none => exact iff_of_true (stampLabels_managed current.labels).2.1 rfl
  | some labels =>
    rw [genericManager_congr (consoleLabels_generic labels)]
    simp

/-- An update keeps an object the console's just when it names no GitOps tool. -/
theorem updateMeta_managed_iff {current : ObjectMeta} (managed : ConsoleManaged current)
    (sent : ObjectMeta) : ConsoleManaged (updateMeta current sent) ↔ sent.namesNoTool := by
  have same : genericManager (put (updatedLabels current sent) labelManagedBy managedByConsole) =
      genericManager (updatedLabels current sent) :=
    genericManager_congr (put_value_of_ne generic_ne_managedBy)
  rw [← updatedLabels_generic current sent]
  constructor
  · intro after
    rw [← same]
    exact (after.labels _ (updateMeta_labels current sent)).2
  · intro generic
    refine ⟨?_, fun annotations => updateMeta_annotations_clean managed, ?_⟩
    · intro labels updated
      rw [updateMeta_labels] at updated
      cases updated
      exact ⟨(updatedLabels_clean current sent).put labelManagedBy_free, same.trans generic⟩
    · rw [updateMeta_labels]
      exact put_value

/-! ## Runs -/

variable {platform : Platform} {s s' : Store platform} {body : CompositionDocument}
  {kind : CompositionKind}

theorem handleCompositionCreate_managed {server : Server} {ns : String}
    {object : Object platform kind}
    (created : handleCompositionCreate platform server ns kind body = .ok object) :
    ConsoleManaged object.metadata := by
  -- Behind every check the metadata is stamped.
  obtain ⟨_, -, created⟩ := bind_ok created
  obtain ⟨_, -, created⟩ := bind_ok created
  obtain ⟨-, created⟩ := of_check_ok created
  obtain ⟨-, created⟩ := of_check_ok created
  obtain ⟨_, -, created⟩ := bind_ok created
  cases created
  exact stampConsoleManaged_managed _

/-- An update that is carried out was of an object of the console. -/
theorem handleCompositionUpdate_managed {server : Server} {ns name : String}
    {stored : Option (Object platform kind)} {object : Object platform kind}
    (updated : handleCompositionUpdate platform server ns name kind body stored = .ok object) :
    ∃ current, ConsoleManaged current ∧ object.metadata = updateMeta current body.metadata := by
  obtain ⟨_, -, updated⟩ := bind_ok updated
  obtain ⟨_, -, updated⟩ := bind_ok updated
  obtain ⟨-, updated⟩ := of_check_ok updated
  obtain ⟨-, updated⟩ := of_check_ok updated
  obtain ⟨-, updated⟩ := of_check_ok updated
  cases stored with
  | none => cases updated
  | some current =>
    obtain ⟨writable, updated⟩ := of_check_ok updated
    obtain ⟨-, updated⟩ := of_check_ok updated
    obtain ⟨decoded, kept, updated⟩ := bind_ok updated
    cases updated
    refine ⟨current.metadata, writable_iff.mp (by simpa using writable), ?_⟩
    -- Decoding touches the spec only.
    unfold decodeSpecIntoObject at kept
    split at kept
    next =>
      cases kept
      rfl
    next => cases kept

/-- The labels of an update name no GitOps tool. -/
def Request.namesNoTool : Request platform → Bool
  | .update _ _ _ _ body _ => body.metadata.namesNoTool
  | _ => true

/-- What a request does to the store. -/
inductive Stored (s : Store platform) (request : Request platform) : Store platform → Prop
  | refused : Stored s request s
  | write (id : ObjectId) (object : Object platform id.kind)
    (managed : request.namesNoTool → ConsoleManaged object.metadata) :
    Stored s request (s.write platform id object)
  | edit (id : ObjectId) (object : Option (Object platform id.kind)) (foreign : id ∉ s.written) :
    Stored s request
      { s with objects := update s.objects id object, version := s.version + 1 }

variable {request : Request platform}

theorem stored_of_next (stepped : s.next platform request = some s') :
    Stored s request s' := by
  cases request with
  | create server ns kind body admitted =>
    simp only [Store.next] at stepped
    split at stepped
    next =>
      cases stepped
      exact .refused
    rename_i object created
    split at stepped
    next =>
      cases stepped
      exact .refused
    cases stepped
    exact .write ⟨kind, ⟨ns, object.metadata.name⟩⟩ object fun _ =>
      handleCompositionCreate_managed created
  | update server ns name kind body admitted =>
    simp only [Store.next] at stepped
    split at stepped
    next =>
      cases stepped
      exact .refused
    rename_i object updated
    split at stepped
    next =>
      cases stepped
      exact .refused
    cases stepped
    refine .write ⟨kind, ⟨ns, name⟩⟩ object fun namesNone => ?_
    obtain ⟨current, managed, same⟩ := handleCompositionUpdate_managed updated
    rw [same]
    exact (updateMeta_managed_iff managed body.metadata).mpr namesNone
  | edit id object =>
    simp only [Store.next] at stepped
    split at stepped
    next => cases stepped
    rename_i foreign
    cases stepped
    exact .edit id object foreign

/-- What the API wrote is there, and the console's. -/
def WrittenManaged (s : Store platform) : Prop :=
  ∀ id ∈ s.written, ∃ object, s.objects id = some object ∧ ConsoleManaged object.metadata

theorem WrittenManaged.keep (all : WrittenManaged s) (namesNone : request.namesNoTool)
    (stored : Stored s request s') : WrittenManaged s' := by
  intro id member
  cases stored with
  | refused => exact all id member
  | write target object managed =>
    by_cases same : id = target
    · subst same
      obtain ⟨labels, annotations, console⟩ := managed namesNone
      exact ⟨_, update_self id _ _, labels, annotations, console⟩
    · obtain ⟨found, there, rest⟩ := all id ((mem_cons.mp member).resolve_left same)
      exact ⟨found, (update_of_ne same _ _).trans there, rest⟩
  | edit target object foreign =>
    -- Others keep off what the API wrote.
    have other : id ≠ target := fun same => foreign (same ▸ member)
    obtain ⟨found, there, rest⟩ := all id member
    exact ⟨found, (update_of_ne other _ _).trans there, rest⟩

/--
In every run of creates and updates in which no update puts the name of a GitOps tool on the generic
label, what the API wrote stays writable for it.
-/
theorem written_objects_writable
    (reached : (compositionAPI platform).Reaches (fun s => s.written = [])
      (fun _ request => request.namesNoTool = true) s) :
    ∀ id ∈ s.written, ∃ object, s.objects id = some object ∧
      (evaluateCompositionManagement object.metadata).writable := by
  have all : WrittenManaged s := by
    refine reached.invariant (fun s nothing id member => ?_)
      (fun _ before namesNone stepped => before.keep namesNone (stored_of_next stepped))
    rw [nothing] at member
    cases member
  intro id member
  obtain ⟨object, there, managed⟩ := all id member
  exact ⟨object, there, writable_iff.mpr managed⟩

/-! A set of skills is created, and then updated with other labels. -/

def emptyStore : Store samplePlatform where
  objects _ := none
  written := []
  version := 7

def createSkills : Request samplePlatform :=
  .create sampleServer "agents" .agentSkillSet
    ⟨{ name := "console-skills" }, some newDescription⟩ true

def relabelSkills (manager : String) : Request samplePlatform :=
  .update sampleServer "agents" "console-skills" .agentSkillSet
    ⟨{ resourceVersion := "7", labels := some [(genericManagedBy, manager)] }, some newDescription⟩ true

def skillsId : ObjectId := ⟨.agentSkillSet, ⟨"agents", "console-skills"⟩⟩

/-- The set of skills was written by the API, which may write it again or not. -/
def skillsWritable (expected : Bool) (s : Store samplePlatform) : Bool :=
  s.version == 9 && skillsId ∈ s.written && (s.objects skillsId).any fun object =>
    (evaluateCompositionManagement object.metadata).writable == expected

theorem written_objects_writable_relabelled :
    ∃ s, skillsWritable true s ∧ ∀ id ∈ s.written, ∃ object, s.objects id = some object ∧
      (evaluateCompositionManagement object.metadata).writable := by
  have played : ((compositionAPI samplePlatform).play (fun _ request => request.namesNoTool)
      [createSkills, relabelSkills "desktop"] emptyStore).any (skillsWritable true) := by
    decide +kernel
  obtain ⟨s, played, shown⟩ := (any_eq_true _ _).mp played
  exact ⟨s, shown, written_objects_writable
    (Machine.Reaches.play (.start rfl) (fun _ _ passes => passes) played)⟩

/-- An update with the label of Helm locks the API out of an object that it created. -/
theorem helm_label_locks_out :
    ∃ s, (compositionAPI samplePlatform).Reaches (fun s => s.written = []) (fun _ _ => True) s ∧
      skillsId ∈ s.written ∧ ∃ object, s.objects skillsId = some object ∧
        (evaluateCompositionManagement object.metadata).writable = false :=
  Machine.Reaches.played (P := fun s => skillsId ∈ s.written ∧ ∃ object ∈ s.objects skillsId,
      (evaluateCompositionManagement object.metadata).writable = false)
    (fun _ _ => true) [createSkills, relabelSkills "Helm"] (.start (s := emptyStore) rfl)
    (fun _ _ _ => trivial) (by decide +kernel) fun _ _ facts => facts

end AnvilAgents.Composition
