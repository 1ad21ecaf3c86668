import AnvilAgents.Lib.Text
import Mathlib.Data.List.Chain

/-! Names and label values the controller derives from names it does not choose. -/

namespace AnvilAgents

open Text List

/-- The characters a DNS label keeps. -/
def isLabelChar (c : Char) : Bool :=
  ('a' ≤ c && c ≤ 'z') || ('0' ≤ c && c ≤ '9')

/-- A digest that is written as twelve characters of a label. -/
structure Digests (shortHash : String → String) : Prop where
  twelve : ∀ text, (shortHash text).length = 12
  label : ∀ text, ∀ c ∈ (shortHash text).toList, isLabelChar c = true

/-- A digest for examples. -/
def twelveDigits (_ : String) : String :=
  "0123456789ab"

theorem twelveDigits_digests : Digests twelveDigits where
  twelve _ := show "0123456789ab".length = 12 by decide
  label _ := all_eq_true.mp (show "0123456789ab".toList.all isLabelChar = true by decide)

/-- Write the kept characters and one dash for each run of others. -/
def collapseDashes : Bool → List Char → List Char
  | _, [] => []
  | lastDash, c :: rest =>
    if isLabelChar c then c :: collapseDashes false rest
    else if lastDash then collapseDashes true rest
    else '-' :: collapseDashes true rest

/-- Remove dashes from both ends. -/
def trimDashes (cs : List Char) : List Char :=
  trim (· = '-') cs

/-- The characters of the label of a text. -/
def labelChars (cs : List Char) : List Char :=
  trimDashes (collapseDashes false (trim isSpace (cs.map toLower)))

-- Irreducible, as trimming is.
/-- A lower-case DNS label that stands for an arbitrary text. -/
@[irreducible]
def sanitizeDNSLabel (value : String) : String :=
  String.ofList (labelChars value.toList)

/-- A label value of at most 63 characters. -/
def sanitizeLabelValue (value : String) : String :=
  limit 63 (sanitizeDNSLabel value)

/--
The name of an object the controller creates for a run.

A name that is too long keeps its last part, or a hash of the whole when even that is too long.
-/
def agentRunChildName (shortHash : String → String) (parts : List String) : String :=
  let tokens := (parts.map sanitizeDNSLabel).filter (· ≠ "")
  let name := "-".intercalate tokens
  if name.length ≤ 63 then name
  else
    let suffix := tokens.getLastD ""
    if suffix.length < 63 then
      let start := String.ofList (trimDashes (name.toList.take (63 - suffix.length - 1)))
      if start ≠ "" then start ++ "-" ++ suffix else suffix
    else
      let hash := shortHash name
      let start := String.ofList (trimDashes (name.toList.take (63 - hash.length - 1)))
      if start = "" then hash else start ++ "-" ++ hash

/-- The copy of the run API, which trims and cuts in one function. -/
def sanitizeLabelValueLocal (value : String) : String :=
  let value := labelChars value.toList
  String.ofList (if 63 < value.length then value.take 63 else value)

/-- A sequence number as it is written in a name; the first is 1. -/
def sequenceText (sequence : Int) : String :=
  toString (if sequence ≤ 0 then 1 else sequence.toNat)

/-- The name of the responder to a situation. -/
def responderName (shortHash : String → String) (name uid : String) (sequence : Int) : String :=
  agentRunChildName shortHash ["agrun", name, sequenceText sequence, shortHash uid]

variable {c : Char}

theorem isSpace_of_isLabelChar (kept : isLabelChar c = true) : isSpace c = false := by
  have range : (97 ≤ c.toNat ∧ c.toNat ≤ 122) ∨ (48 ≤ c.toNat ∧ c.toNat ≤ 57) := by
    simpa [isLabelChar, Char.le_def, UInt32.le_iff_toNat_le] using kept
  simp only [isSpace, mem_cons, not_mem_nil, or_false, Bool.or_eq_false_iff,
    decide_eq_false_iff_not, Bool.and_eq_false_iff]
  omega

variable {cs : List Char}

theorem mem_collapseDashes {lastDash : Bool} (member : c ∈ collapseDashes lastDash cs) :
    isLabelChar c = true ∨ c = '-' := by
  induction cs generalizing lastDash with
  | nil => cases member
  | cons first rest ih =>
    rw [collapseDashes] at member
    split at member
    next kept =>
      rcases mem_cons.mp member with rfl | later
      · exact .inl kept
      · exact ih later
    next =>
      split at member
      · exact ih member
      · rcases mem_cons.mp member with rfl | later
        · exact .inr rfl
        · exact ih later

theorem sanitizeDNSLabel_toList (value : String) :
    (sanitizeDNSLabel value).toList = labelChars value.toList := by
  rw [sanitizeDNSLabel, String.toList_ofList]

theorem trimDashes_sublist (cs : List Char) : (trimDashes cs).Sublist cs := by
  have inner := (dropWhile_sublist (· = '-') (l := (cs.dropWhile (· = '-')).reverse)).reverse
  rw [reverse_reverse] at inner
  exact inner.trans (dropWhile_sublist _)

/-- A label as Kubernetes has it, of any length. -/
structure Label (cs : List Char) : Prop where
  chars : ∀ c ∈ cs, isLabelChar c = true ∨ c = '-'
  trimmed : Trimmed (· = '-') cs

theorem sanitizeDNSLabel_label (value : String) : Label (sanitizeDNSLabel value).toList := by
  rw [sanitizeDNSLabel, String.toList_ofList]
  exact ⟨fun c member => mem_collapseDashes ((trimDashes_sublist _).subset member), trimmed_trim _ _⟩

theorem sanitizeDNSLabel_solid (value : String) :
    ∀ c ∈ (sanitizeDNSLabel value).toList, isSpace c = false := by
  intro c member
  rcases (sanitizeDNSLabel_label value).chars c member with kept | rfl
  · exact isSpace_of_isLabelChar kept
  · decide

/-- White space around a text does not show in its label. -/
theorem sanitizeLabelValue_trimSpace (value : String) :
    sanitizeLabelValue (trimSpace value) = sanitizeLabelValue value := by
  have trimmed : sanitizeDNSLabel (trimSpace value) = sanitizeDNSLabel value := by
    unfold sanitizeDNSLabel labelChars trimSpace
    rw [String.toList_ofList, trim_map_toLower, trim_map_toLower,
      trim_of_trimmed (trimmed_trim _ _)]
  rw [sanitizeLabelValue, sanitizeLabelValue, trimmed]

theorem toLower_of_isLabelChar (kept : isLabelChar c = true) : toLower c = c := by
  have range : (97 ≤ c.toNat ∧ c.toNat ≤ 122) ∨ (48 ≤ c.toNat ∧ c.toNat ≤ 57) := by
    simpa [isLabelChar, Char.le_def, UInt32.le_iff_toNat_le] using kept
  unfold toLower
  rw [if_neg (by omega), if_neg (by omega), if_neg (by omega)]

theorem dash_of_isLabelChar (kept : isLabelChar c = true) : c ≠ '-' := by
  rintro rfl
  exact absurd kept (by decide)

/-- Of two characters in a row, one is no dash. -/
abbrev Spaced : List Char → Prop :=
  IsChain fun a b => a = '-' → b ≠ '-'

theorem collapseDashes_of_spaced (chars : ∀ c ∈ cs, isLabelChar c = true ∨ c = '-')
    (spaced : Spaced cs) (lastDash : Bool) (after : lastDash = true → '-' ∉ cs.head?) :
    collapseDashes lastDash cs = cs := by
  induction cs generalizing lastDash with
  | nil => rfl
  | cons c rest ih =>
    obtain ⟨first, spaced⟩ := isChain_cons.mp spaced
    have later := ih (fun c member => chars c (.tail _ member)) spaced
    rw [collapseDashes]
    rcases chars c (.head _) with kept | rfl
    · rw [if_pos kept, later false (fun no => nomatch no)]
    · -- A dash is written, since none came before it, and none comes next.
      have written : lastDash = false := by simpa using after
      rw [if_neg (by decide), written, if_neg Bool.false_ne_true, later true]
      exact fun _ next => first _ next rfl rfl

/-- A label without two dashes in a row stays as it is. -/
theorem Label.sanitizeDNSLabel (label : Label cs) (spaced : Spaced cs) :
    sanitizeDNSLabel (String.ofList cs) = String.ofList cs := by
  have solid : ∀ c ∈ cs, toLower c = c ∧ isSpace c = false := by
    intro c member
    rcases label.chars c member with kept | rfl
    · exact ⟨toLower_of_isLabelChar kept, isSpace_of_isLabelChar kept⟩
    · decide
  have lowered : cs.map toLower = cs :=
    (map_congr_left fun c member => (solid c member).1).trans (map_id _)
  have trimmed : trim isSpace cs = cs :=
    trim_of_trimmed fun c ends => (solid c (ends.elim mem_of_mem_head? mem_of_mem_getLast?)).2
  rw [AnvilAgents.sanitizeDNSLabel, String.toList_ofList, labelChars, lowered, trimmed,
    collapseDashes_of_spaced label.chars spaced false (fun no => nomatch no), trimDashes,
    trim_of_trimmed label.trimmed]

/-- A text of label characters is a label. -/
theorem label_of_kept (kept : ∀ c ∈ cs, isLabelChar c = true) :
    Label cs ∧ Spaced cs := by
  have plain : ∀ c ∈ cs, c ≠ '-' := fun c member => dash_of_isLabelChar (kept c member)
  refine ⟨⟨fun c member => .inl (kept c member), fun c ends => ?_⟩, ?_⟩
  · exact decide_eq_false (plain c (ends.elim mem_of_mem_head? mem_of_mem_getLast?))
  · exact (pairwise_of_forall_mem_list fun a first b _ dash => absurd dash (plain a first)).isChain

/-- A text of label characters stays as it is. -/
theorem sanitizeDNSLabel_of_kept {value : String} (kept : ∀ c ∈ value.toList, isLabelChar c = true) :
    AnvilAgents.sanitizeDNSLabel value = value := by
  obtain ⟨label, spaced⟩ := label_of_kept kept
  simpa using label.sanitizeDNSLabel spaced

theorem collapseDashes_spaced (cs : List Char) (lastDash : Bool) :
    Spaced (collapseDashes lastDash cs) ∧ (lastDash = true → '-' ∉ (collapseDashes lastDash cs).head?) := by
  induction cs generalizing lastDash with
  | nil => exact ⟨.nil, fun _ => by simp [collapseDashes]⟩
  | cons c rest ih =>
    rw [collapseDashes]
    split
    next kept =>
      have letter := dash_of_isLabelChar kept
      refine ⟨isChain_cons.mpr ⟨fun _ _ dash => absurd dash letter, (ih false).1⟩, fun _ => ?_⟩
      simpa using letter
    next =>
      split
      next dash => exact ⟨(ih true).1, fun _ => (ih true).2 rfl⟩
      next first =>
        refine ⟨isChain_cons.mpr ⟨fun c next _ same => ?_, (ih true).1⟩, fun dash => absurd dash first⟩
        exact (ih true).2 rfl (same ▸ next)

/-- A label never has two dashes in a row. -/
theorem sanitizeDNSLabel_spaced (value : String) : Spaced (sanitizeDNSLabel value).toList := by
  rw [sanitizeDNSLabel_toList, labelChars, trimDashes]
  generalize trim isSpace (value.toList.map toLower) = lowered
  have kept := (collapseDashes_spaced lowered false).1.suffix (dropWhile_suffix (· = '-'))
  have front := rdropWhile_prefix (fun c => decide (c = '-'))
    ((collapseDashes false lowered).dropWhile (· = '-'))
  exact IsChain.prefix kept front

/-- A text that starts with what is not trimmed keeps its beginning. -/
theorem trim_cons {p : Char → Bool} {c : Char} (kept : p c = false) (rest : List Char) :
    trim p (c :: rest) = c :: (rest.reverse.dropWhile p).reverse := by
  rw [trim, dropWhile_cons_of_neg (by simp [kept]), reverse_cons, dropWhile_append]
  split
  next all => simp [isEmpty_iff.mp all, kept]
  next => simp

/-- The label of a name that starts with a letter or a digit starts with it, too. -/
theorem sanitizeDNSLabel_cons {name : String} (valid : name.toList.head?.any isLabelChar = true) :
    ∃ c rest, (sanitizeDNSLabel name).toList = c :: rest ∧ c ≠ '-' := by
  obtain ⟨c, starts, letter⟩ := (Option.any_eq_true _ _).mp valid
  obtain ⟨rest, spelled⟩ := head?_eq_some_iff.mp starts
  have dash := dash_of_isLabelChar letter
  rw [sanitizeDNSLabel_toList, spelled, labelChars, map_cons, toLower_of_isLabelChar letter,
    trim_cons (isSpace_of_isLabelChar letter), collapseDashes, if_pos letter, trimDashes,
    trim_cons (decide_eq_false dash)]
  exact ⟨c, _, rfl, dash⟩

theorem solid_of_valid {name : String} (valid : name.toList.head?.any isLabelChar = true) :
    sanitizeDNSLabel name ≠ "" := by
  obtain ⟨c, rest, spelled, -⟩ := sanitizeDNSLabel_cons valid
  intro none
  simp [none] at spelled

/-- Labels joined by a dash make a label. -/
theorem Label.join {front back : List Char} (first : Label front) (second : Label back)
    (some_ : front ≠ []) (more : back ≠ []) : Label (front ++ '-' :: back) where
  chars c member := by
    rcases mem_append.mp member with early | late
    · exact first.chars c early
    · rcases mem_cons.mp late with rfl | late
      · exact .inr rfl
      · exact second.chars c late
  trimmed c ends := by
    rcases ends with start | stop
    · obtain ⟨x, front, rfl⟩ := exists_cons_of_ne_nil some_
      exact first.trimmed c (.inl start)
    · obtain ⟨y, back, rfl⟩ := exists_cons_of_ne_nil more
      rw [append_cons, getLast?_append_of_ne_nil _ (cons_ne_nil _ _)] at stop
      exact second.trimmed c (.inr stop)

end AnvilAgents
