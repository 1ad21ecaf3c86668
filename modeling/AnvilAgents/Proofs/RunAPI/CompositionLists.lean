import AnvilAgents.Proofs.RunAPI.CompositionReplace
import Mathlib.Data.List.Nodup
import Mathlib.Data.String.Basic

/-! Which of the stored objects a list request is answered with. -/

namespace AnvilAgents.Composition

open List

variable {platform : Platform} {kind : CompositionKind} {Body : Type} {limit : Nat}
  {stored sorted : List (Object platform kind)}

/-- Objects with different names are ordered in one way. -/
theorem mergeSort_eq (perm : sorted.Perm stored)
    (increasing : sorted.Pairwise fun a b => a.metadata.name < b.metadata.name) :
    stored.mergeSort byName = sorted := by
  have same := (mergeSort_perm stored byName).trans perm.symm
  have ordered : (stored.mergeSort byName).Pairwise (byName · ·) :=
    pairwise_mergeSort (fun a b c => by simpa [byName] using le_trans)
      (fun a b => by simpa [byName] using le_total _ _) _
  have distinct : (sorted.map (·.metadata.name)).Nodup := pairwise_map.mpr (increasing.imp ne_of_lt)
  refine same.eq_of_pairwise ?_ ordered (increasing.imp fun less => decide_eq_true less.le)
  intro a b member member' le ge
  refine inj_on_of_nodup_map distinct (same.mem_iff.mp member) member' ?_
  exact le_antisymm (of_decide_eq_true le) (of_decide_eq_true ge)

/-- Only no objects are encoded as no documents. -/
theorem eq_nil_of_encodeItems {marshal : Object platform kind → Except String Body}
    {items : List (Object platform kind)} (encoded : encodeItems marshal items = .ok []) :
    items = [] := by
  cases items with
  | nil => rfl
  | cons obj items =>
    rw [encodeItems, mapM_cons] at encoded
    cases shown : newCompositionDocument marshal obj <;>
      cases rest : items.mapM (newCompositionDocument marshal) <;>
        simp [shown, rest, bind, Except.bind, Except.mapError, pure, Except.pure] at encoded

theorem listLimit_pos {atoi : String → Option Int} {raw : String}
    (asked : listLimit atoi raw = .ok limit) : 0 < limit := by
  unfold listLimit at asked
  split at asked
  · cases asked
    decide
  · split at asked
    · cases asked
    · obtain ⟨bounds, given⟩ := Fallible.of_check_ok asked
      cases given
      omega

variable {server : Server} {ns raw : String} {atoi : String → Option Int}
  {marshal : Object platform kind → Except String Body}

/-- A list request is answered with the first objects by name, unless their kind has no case. -/
theorem composition_list_complete_iff (perm : sorted.Perm stored)
    (increasing : sorted.Pairwise fun a b => a.metadata.name < b.metadata.name)
    (authorized : authorizeCompositionKind server ns kind permissionCompositionRead = .ok ())
    (asked : listLimit atoi raw = .ok limit) :
    handleCompositionList server true ns atoi raw (some stored) marshal =
        encodeItems marshal (sorted.take limit) ↔
      kind ≠ .agentExternalTrigger ∨ stored = [] := by
  have answer : handleCompositionList server true ns atoi raw (some stored) marshal =
      encodeItems marshal (((objectListItems stored).mergeSort byName).take limit) := by
    simp [handleCompositionList, authorized, asked, bind, Except.bind]
  by_cases listed : kind ≠ .agentExternalTrigger ∨ stored = []
  · have all : objectListItems stored = stored := by
      rcases listed with other | rfl
      · cases kind <;> first | rfl | exact absurd rfl other
      · exact ite_self _
    rw [answer, all, mergeSort_eq perm increasing]
    exact iff_of_true rfl listed
  · refine iff_of_false (fun same => listed (.inr ?_)) listed
    have none_ : objectListItems stored = [] :=
      if_neg (by rw [not_not.mp fun other => listed (.inl other)]; decide)
    rw [answer, none_, mergeSort_nil, take_nil] at same
    have cut := eq_nil_of_encodeItems same.symm
    rcases take_eq_nil_iff.mp cut with zero | empty
    · exact absurd zero (listLimit_pos asked).ne'
    · exact (empty ▸ perm).nil_eq.symm

def storedSkills (names : List String) : List (Object samplePlatform .agentSkillSet) :=
  names.map fun name => { globalSkills with metadata := { sampleMeta with name } }

theorem composition_list_skills :
    handleCompositionList sampleServer true "agents" (fun _ => some 1) "1"
        (some (storedSkills ["b", "a"])) (fun _ => .ok ()) =
          encodeItems (fun _ => .ok ()) ((storedSkills ["a", "b"]).take 1) ↔
      CompositionKind.agentSkillSet ≠ .agentExternalTrigger ∨ storedSkills ["b", "a"] = [] :=
  composition_list_complete_iff (.swap _ _ _) (by decide) (by decide) (by decide +kernel)

def storedTrigger : Object samplePlatform .agentExternalTrigger :=
  { newObject samplePlatform .agentExternalTrigger with metadata := sampleMeta }

/-- The only stored trigger is not listed. -/
theorem stored_trigger_unlisted :
    handleCompositionList { sampleServer with externalTriggersEnabled := true } true "agents"
        (fun _ => some 1) "1" (some [storedTrigger]) (fun _ => .ok ()) ≠
      encodeItems (fun _ => .ok ()) ([storedTrigger].take 1) := by
  decide +kernel

end AnvilAgents.Composition
