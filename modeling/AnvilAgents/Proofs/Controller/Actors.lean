import AnvilAgents.Proofs.Controller.ActorRelease

/-! The actors through which runs are prompted: when two runs share none. -/

namespace AnvilAgents.Substrate

open Text List

/-- What joins the parts of a name, and stands at neither end of it. -/
def isJoint (c : Char) : Bool :=
  c = '-' || c = '.'

def isNameChar (c : Char) : Bool :=
  isLabelChar c || isJoint c

def sanitizeActorNameSegment (raw : List Char) : List Char :=
  let out := raw.map fun c => if isNameChar c then c else '-'
  ((out.dropWhile isJoint).reverse.dropWhile isJoint).reverse

def maxActorNameLen : Nat := 253

/-- What stands for the rest of a name that is too long: digits of a digest of the identity. -/
def suffix (sha256 : String → List (Fin 16)) (threadID : String) : List Char :=
  ((sha256 threadID).take 12).map fun digit => Nat.digitChar digit.val

def actorNameForThread (sha256 : String → List (Fin 16)) (threadID : String) : String :=
  let kept := sanitizeActorNameSegment ((trimSpace threadID).toList.map toLower)
  let sanitized := if kept = [] then "unknown".toList else kept
  let name := "chat-".toList ++ sanitized
  if name.length ≤ maxActorNameLen then String.ofList name
  else String.ofList ("chat-".toList ++ sanitized.take (maxActorNameLen - 5 - 12 - 1) ++
    '-' :: suffix sha256 threadID)

section

variable (sha256 : String → List (Fin 16)) (forced : String) (run run' : Run)

/-- A live actor plane with an atespace that is forced, or with none. -/
def livePlane : Plane where
  live := true
  generates _ := true
  atespace := trimSpace forced
  actorNameForThread := actorNameForThread sha256

/-- The actor that is created or resumed for a run. -/
def boundActor : ObjectRef :=
  turnActor (livePlane sha256 forced) run

/-- The actor that gets the prompt, from the handle of the bound one. -/
def promptedActor : ObjectRef where
  atespace := if trimSpace forced = "" then trimSpace (boundActor sha256 forced run).atespace
    else trimSpace forced
  name := (boundActor sha256 forced run).name

/-- Neither run is bound to or prompted through an actor of the other. -/
def Isolated : Prop :=
  ∀ actor ∈ [boundActor sha256 forced run, promptedActor sha256 forced run],
    actor ∉ [boundActor sha256 forced run', promptedActor sha256 forced run']

/-- The runs are in different namespaces, or belong to different threads. -/
def Apart : Prop :=
  run.key.ns ≠ run'.key.ns ∨ substrateThreadID run ≠ substrateThreadID run'

/-- Names of Kubernetes objects and UUIDs, in either case. -/
def validID (id : String) : Bool :=
  (id.toList.all fun c => isNameChar (toLower c)) &&
    id.toList.head?.any (isLabelChar <| toLower ·) && id.toList.getLast?.any (isLabelChar <| toLower ·)

def Valid : Prop :=
  validID run.key.ns = true ∧ validID (substrateThreadID run) = true

/-- What the name of an actor tells of a thread. -/
def shortened (id : String) : List Char :=
  if id.toList.length ≤ 248 then id.toList.map toLower
  else (id.toList.map toLower).take 235 ++ '-' :: suffix sha256 id

end

variable {sha256 : String → List (Fin 16)} {forced id : String} {run run' : Run}

theorem isSpace_of_isNameChar {c : Char} (kept : isNameChar c = true) : isSpace c = false := by
  simp only [isNameChar, isJoint, Bool.or_eq_true, decide_eq_true_eq] at kept
  rcases kept with label | rfl | rfl
  · exact isSpace_of_isLabelChar label
  · decide
  · decide

theorem isJoint_of_isLabelChar {c : Char} (label : isLabelChar c = true) : isJoint c = false := by
  refine Bool.eq_false_iff.mpr fun joint => ?_
  simp only [isJoint, Bool.or_eq_true, decide_eq_true_eq] at joint
  rcases joint with rfl | rfl
  · exact absurd label (by decide)
  · exact absurd label (by decide)

theorem solid_of_validID (valid : validID id = true) :
    ∀ c ∈ id.toList, isSpace (toLower c) = false := by
  simp only [validID, Bool.and_eq_true, all_eq_true] at valid
  exact fun c member => isSpace_of_isNameChar (valid.1.1 c member)

theorem trimSpace_of_validID (valid : validID id = true) : trimSpace id = id := by
  refine trimSpace_of_solid fun c member => ?_
  rw [← isSpace_toLower]
  exact solid_of_validID valid c member

/-- Sanitising changes nothing of a lower-case name that starts and ends with a letter or digit. -/
theorem sanitize_of_validID (valid : validID id = true) :
    sanitizeActorNameSegment (id.toList.map toLower) = id.toList.map toLower ∧ id.toList ≠ [] := by
  simp only [validID, Bool.and_eq_true, all_eq_true, Option.any_eq_true] at valid
  obtain ⟨⟨chars, first, head, starts⟩, last, tail, ends⟩ := valid
  have kept : (id.toList.map toLower).map (fun c => if isNameChar c then c else '-') =
      id.toList.map toLower := by
    rw [List.map_map]
    exact map_congr_left fun c member => if_pos (chars c member)
  -- Neither end has anything to trim.
  have front : (id.toList.map toLower).dropWhile isJoint = id.toList.map toLower := by
    obtain ⟨rest, same⟩ := head?_eq_some_iff.mp head
    simp [same, isJoint_of_isLabelChar starts]
  have back : (id.toList.map toLower).reverse.dropWhile isJoint =
      (id.toList.map toLower).reverse := by
    obtain ⟨rest, same⟩ := getLast?_eq_some_iff.mp tail
    simp [same, isJoint_of_isLabelChar ends]
  refine ⟨?_, fun empty => by simp [empty] at head⟩
  simp only [sanitizeActorNameSegment, kept, front, back, reverse_reverse]

theorem actorNameForThread_eq (valid : validID id = true) :
    actorNameForThread sha256 id = String.ofList ("chat-".toList ++ shortened sha256 id) := by
  obtain ⟨same, nonempty⟩ := sanitize_of_validID valid
  have some_ : ¬id.toList.map toLower = [] := by simpa using nonempty
  have short : ("chat-".toList ++ id.toList.map toLower).length ≤ maxActorNameLen ↔
      id.toList.length ≤ 248 := by
    rw [length_append, length_map]
    change 5 + _ ≤ 253 ↔ _
    omega
  simp only [actorNameForThread, trimSpace_of_validID valid, same, if_neg some_, short, shortened]
  split
  · rfl
  · rw [List.append_assoc]
    rfl

/-- No part of the name is white space, so trimming it again does nothing. -/
theorem trimSpace_actorNameForThread (valid : validID id = true) :
    trimSpace (actorNameForThread sha256 id) = actorNameForThread sha256 id := by
  have lower : ∀ c ∈ id.toList.map toLower, isSpace c = false :=
    forall_mem_map.mpr (solid_of_validID valid)
  rw [actorNameForThread_eq valid]
  refine trimSpace_of_solid fun c member => ?_
  rw [String.toList_ofList] at member
  rcases mem_append.mp member with front | inside
  · have plain : "chat-".toList.all (!isSpace ·) = true := by decide
    simpa using all_eq_true.mp plain c front
  · unfold shortened at inside
    split at inside
    · exact lower c inside
    · rcases mem_append.mp inside with kept | suffix
      · exact lower c (mem_of_mem_take kept)
      · rcases mem_cons.mp suffix with rfl | hex
        · decide
        · obtain ⟨digit, -, rfl⟩ := mem_map.mp hex
          exact (show ∀ digit : Fin 16, isSpace (Nat.digitChar digit.val) = false by decide) digit

theorem boundActor_eq (valid : Valid run) : boundActor sha256 forced run =
    ⟨if trimSpace forced = "" then run.key.ns else trimSpace forced,
      String.ofList ("chat-".toList ++ shortened sha256 (substrateThreadID run))⟩ := by
  simp only [boundActor, turnActor, Plane.ref, livePlane, trimSpace_of_validID valid.1,
    trimSpace_actorNameForThread valid.2]
  rw [actorNameForThread_eq valid.2]

theorem promptedActor_eq : promptedActor sha256 forced run = boundActor sha256 forced run := by
  unfold promptedActor boundActor turnActor Plane.ref livePlane
  by_cases free : trimSpace forced = ""
  · simp [free]
  · simp [free]

/--
When runs that are apart share no actor.

A forced atespace leaves only the names, and a name tells threads apart by what is left of their
identities in lower case and shortened.
-/
theorem actors_isolated_iff (valid : Valid run) (valid' : Valid run') :
    (Apart run run' → Isolated sha256 forced run run') ↔
      ¬Apart run run' ∨ (trimSpace forced = "" ∧ run.key.ns ≠ run'.key.ns) ∨
        shortened sha256 (substrateThreadID run) ≠ shortened sha256 (substrateThreadID run') := by
  have isolated : Isolated sha256 forced run run' ↔
      boundActor sha256 forced run ≠ boundActor sha256 forced run' := by
    simp [Isolated, promptedActor_eq]
  rw [isolated, boundActor_eq valid, boundActor_eq valid', imp_iff_not_or]
  refine or_congr Iff.rfl ?_
  rw [ne_eq, ObjectRef.mk.injEq, not_and_or, String.ofList_inj, append_right_inj]
  refine or_congr ?_ Iff.rfl
  by_cases free : trimSpace forced = ""
  · simp [free]
  · simp [free]

/-- A run of no chat. -/
def runIn (ns : String) : Run where
  key := ⟨ns, "run"⟩

theorem unforced_isolated :
    Apart (runIn "a") (runIn "b") ∧ Isolated (fun _ => []) "" (runIn "a") (runIn "b") := by
  have apart : Apart (runIn "a") (runIn "b") := .inl (by decide)
  refine ⟨apart, (actors_isolated_iff ?_ ?_).mpr (.inr (.inl ?_)) apart⟩
  · exact ⟨by decide +kernel, by decide +kernel⟩
  · exact ⟨by decide +kernel, by decide +kernel⟩
  · exact ⟨by decide +kernel, by decide⟩

/-- In a forced atespace, runs of one name share an actor across namespaces. -/
theorem forced_shares_actor :
    Apart (runIn "a") (runIn "b") ∧ ¬Isolated (fun _ => []) "chat" (runIn "a") (runIn "b") := by
  refine ⟨.inl (by decide), fun isolated => ?_⟩
  exact isolated _ (.head _) (by decide +kernel)

end AnvilAgents.Substrate
