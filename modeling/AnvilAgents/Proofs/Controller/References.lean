import AnvilAgents.Api.AgentRun
import AnvilAgents.Lib.Positions

/-! When the merged layers of an execution refer to each object once. -/

namespace AnvilAgents.Controller

open Text Positions List

structure AgentRunDataVolumeRef where
  name : String
  ns : String := ""
  mountPath : String := ""
  subPath : String := ""
  readOnly : Bool := false

/-- The references of an execution. -/
structure AgentRunHarnessExecutionSpec where
  envSecretRefs : List NamespacedObjectReference := []
  dataVolumeRefs : List AgentRunDataVolumeRef := []

def namespacedRefKey (ns name : String) : String :=
  trimSpace ns ++ "/" ++ trimSpace name

section Merge

variable {α : Type} (ref : α → NamespacedObjectReference)

def refKey (entry : α) : String :=
  namespacedRefKey (ref entry).ns (ref entry).name

/-- A reference without a name is kept as it is. -/
def mergeRef (merged : List α × Table String Nat) (entry : α) : List α × Table String Nat :=
  if isBlank (ref entry).name then (merged.1 ++ [entry], merged.2)
  else upsert (refKey ref) entry merged.1 merged.2

def mergeRefs (base additions : List α) : List α :=
  (additions.foldl (mergeRef ref) (base, positions (refKey ref) base)).1

end Merge

def mergeNamespacedRefs : List NamespacedObjectReference → List NamespacedObjectReference →
    List NamespacedObjectReference :=
  mergeRefs id

/-- What a volume reference refers to. -/
def AgentRunDataVolumeRef.volume (ref : AgentRunDataVolumeRef) : NamespacedObjectReference :=
  ⟨ref.name, ref.ns⟩

def mergeAgentRunDataVolumeRefs : List AgentRunDataVolumeRef → List AgentRunDataVolumeRef →
    List AgentRunDataVolumeRef :=
  mergeRefs AgentRunDataVolumeRef.volume

def agentRunMergeExecution (profile run : AgentRunHarnessExecutionSpec) :
    AgentRunHarnessExecutionSpec where
  envSecretRefs := mergeNamespacedRefs profile.envSecretRefs run.envSecretRefs
  dataVolumeRefs := mergeAgentRunDataVolumeRefs profile.dataVolumeRefs run.dataVolumeRefs

/-- The keys of objects: behind the slash there is a name. -/
def isObject (key : String) : Bool :=
  key.toList.getLast? != some '/'

/-- The object behind a key: without a namespace, one in the run's own. -/
def resolveKey (own key : String) : String :=
  if key.toList.head? = some '/' then own ++ key else key

section Objects

variable {α : Type} (ref : α → NamespacedObjectReference)

/-- The keys of the objects that are referred to, one for each reference. -/
def objects (entries : List α) : List String :=
  (entries.map (refKey ref)).filter isObject

/-- No object is referred to twice. -/
def OneEach (own : String) (entries : List α) : Prop :=
  ((objects ref entries).map (resolveKey own)).Nodup

/-- The first layer repeats no key, and no object has one key with and one without its namespace. -/
def Unambiguous (own : String) (base : List α) (layers : List (List α)) : Prop :=
  (objects ref base).Nodup ∧ ∀ a ∈ objects ref (base ++ layers.flatten),
    ∀ b ∈ objects ref (base ++ layers.flatten), resolveKey own a = resolveKey own b → a = b

end Objects

/-- Keys come in addition, those that are new. -/
structure Adds (before after added : List String) : Prop where
  nodup : after.Nodup ↔ before.Nodup
  mem : ∀ key, key ∈ after ↔ key ∈ before ∨ key ∈ added

theorem Adds.none {before added : List String} (old : added ⊆ before) : Adds before before added :=
  ⟨Iff.rfl, fun _ => (or_iff_left_of_imp (old ·)).symm⟩

theorem Adds.trans {before between after added more : List String} (first : Adds before between added)
    (second : Adds between after more) : Adds before after (added ++ more) where
  nodup := second.nodup.trans first.nodup
  mem key := by rw [second.mem, first.mem, mem_append, or_assoc]

section Additions

variable {α : Type} {ref : α → NamespacedObjectReference} {out : List α} {table : Table String Nat}

theorem objects_append (entries more : List α) :
    objects ref (entries ++ more) = objects ref entries ++ objects ref more := by
  rw [objects, map_append, filter_append]
  rfl

theorem unnamed_notObject {entry : α} (blank : isBlank (ref entry).name = true) :
    isObject (refKey ref entry) = false := by
  have unnamed : trimSpace (ref entry).name = "" := by simpa [isBlank] using blank
  simp [isObject, refKey, namespacedRefKey, unnamed]

/-- A reference at the end, to no object or to one that no other refers to. -/
theorem Adds.push {entry : α}
    (new : isObject (refKey ref entry) = true → refKey ref entry ∉ out.map (refKey ref)) :
    Adds (objects ref out) (objects ref (out ++ [entry])) (objects ref [entry]) := by
  rw [objects_append]
  refine ⟨?_, fun key => mem_append⟩
  cases object : isObject (refKey ref entry) with
  | false => simp [objects, object]
  | true =>
    have absent : refKey ref entry ∉ objects ref out := fun member =>
      new object (mem_of_mem_filter member)
    rw [show objects ref [entry] = [refKey ref entry] by simp [objects, object],
      (perm_append_singleton _ _).nodup_iff, nodup_cons]
    exact and_iff_right absent

/-- An addition keeps the table right, and adds at most its own key. -/
theorem mergeRef_adds (finds : Indexes (isObject ·) table (out.map (refKey ref))) (entry : α) :
    Indexes (isObject ·) (mergeRef ref (out, table) entry).2
        ((mergeRef ref (out, table) entry).1.map (refKey ref)) ∧
      Adds (objects ref out) (objects ref (mergeRef ref (out, table) entry).1) (objects ref [entry]) := by
  unfold mergeRef
  split
  next blank =>
    have unlisted := unnamed_notObject blank
    refine ⟨⟨fun key i found => ?_, fun key member needed => ?_⟩, .push (by simp [unlisted])⟩
    · rw [map_append]
      exact getElem?_concat_of_some (finds.points key i found) _
    · rw [map_append, mem_append] at member
      refine finds.covers key (member.resolve_right fun last => ?_) needed
      rw [mem_singleton.mp last, unlisted] at needed
      cases needed
  next =>
    obtain ⟨indexes, ⟨keys, here⟩ | ⟨keys, new⟩⟩ := finds.upsert entry
    · refine ⟨indexes, ?_⟩
      rw [objects, objects, keys]
      exact .none (filter_subset _ (by simpa using here))
    · refine ⟨indexes, ?_⟩
      have pushed := Adds.push new
      rwa [objects, objects, map_append, map_singleton, ← keys] at pushed

theorem mergeRefs_adds (base additions : List α) :
    Adds (objects ref base) (objects ref (mergeRefs ref base additions)) (objects ref additions) := by
  unfold mergeRefs
  have finds : Indexes (isObject ·) (positions (refKey ref) base) (base.map (refKey ref)) :=
    indexes_positions base
  generalize positions (refKey ref) base = table at finds
  -- By induction on the additions, for whatever list and table they meet.
  induction additions generalizing base table with
  | nil => exact .none (nil_subset _)
  | cons entry additions ih =>
    obtain ⟨finds, adds⟩ := mergeRef_adds finds entry
    have all := adds.trans (ih _ _ finds)
    rwa [← objects_append] at all

variable {refs : AgentRunHarnessExecutionSpec → List α}
  (merges : ∀ profile run, refs (agentRunMergeExecution profile run) =
    mergeRefs ref (refs profile) (refs run))
  (base : AgentRunHarnessExecutionSpec) (layers : List AgentRunHarnessExecutionSpec)

include merges

/-- The same for any number of layers, of which the references are one part. -/
theorem layers_adds :
    Adds (objects ref (refs base)) (objects ref (refs (layers.foldl agentRunMergeExecution base)))
      (objects ref (layers.map refs).flatten) := by
  induction layers generalizing base with
  | nil => exact .none (nil_subset _)
  | cons layer layers ih =>
    have first : Adds _ _ (objects ref (refs layer)) := mergeRefs_adds (refs base) (refs layer)
    rw [← merges] at first
    have all := first.trans (ih _)
    rwa [← objects_append] at all

theorem oneEach_layers_iff (own : String) :
    OneEach ref own (refs (layers.foldl agentRunMergeExecution base)) ↔
      Unambiguous ref own (refs base) (layers.map refs) := by
  have adds := layers_adds merges base layers
  simp only [OneEach, Unambiguous, objects_append, mem_append, ← adds.mem, ← adds.nodup]
  constructor
  · intro distinct
    exact ⟨distinct.of_map, (nodup_map_iff_inj_on distinct.of_map).mp distinct⟩
  · rintro ⟨distinct, injective⟩
    exact (nodup_map_iff_inj_on distinct).mpr injective

end Additions

/-- The merged layers refer to each object once just when they are unambiguous. -/
theorem one_mount_per_object_iff (own : String) (base : AgentRunHarnessExecutionSpec)
    (layers : List AgentRunHarnessExecutionSpec) :
    OneEach id own (layers.foldl agentRunMergeExecution base).envSecretRefs ∧
        OneEach (·.volume) own (layers.foldl agentRunMergeExecution base).dataVolumeRefs ↔
      Unambiguous id own base.envSecretRefs (layers.map (·.envSecretRefs)) ∧
        Unambiguous (·.volume) own base.dataVolumeRefs (layers.map (·.dataVolumeRefs)) :=
  and_congr (oneEach_layers_iff (fun _ _ => rfl) base layers own)
    (oneEach_layers_iff (fun _ _ => rfl) base layers own)

/-- A profile names a volume without its namespace, and the run names it with. -/
theorem mounted_twice :
    ¬OneEach (·.volume) "team"
      (agentRunMergeExecution ⟨[], [⟨"data", "", "/data", "", false⟩]⟩
        ⟨[], [⟨"data", "team", "/data", "", false⟩]⟩).dataVolumeRefs := by
  unfold OneEach
  decide +kernel

end AnvilAgents.Controller
