import AnvilAgents.Controller.Naming

/-! Which derived names and label values Kubernetes accepts. -/

namespace AnvilAgents

open Text List

/-- A DNS label. Such a text is a valid label value, too. -/
structure IsDNSLabel (name : String) : Prop where
  short : name.length ≤ 63
  starts : name.toList.head?.any isLabelChar = true
  ends : name.toList.getLast?.any isLabelChar = true
  chars : ∀ c ∈ name.toList, isLabelChar c = true ∨ c = '-'

theorem Label.isDNSLabel {name : String} (label : Label name.toList) (some_ : name.toList ≠ [])
    (short : name.length ≤ 63) : IsDNSLabel name := by
  -- A character of a label that is no dash is a letter or a digit.
  have kept {c : Char} (member : c ∈ name.toList) (end_ : (decide (c = '-')) = false) :
      isLabelChar c = true :=
    (label.chars c member).resolve_right (of_decide_eq_false end_)
  refine ⟨short, ?_, ?_, label.chars⟩
  · rw [head?_eq_some_head some_, Option.any_some]
    exact kept (head_mem some_) (label.trimmed _ (.inl (head?_eq_some_head some_)))
  · rw [getLast?_eq_some_getLast some_, Option.any_some]
    exact kept (getLast_mem some_) (label.trimmed _ (.inr (getLast?_eq_some_getLast some_)))

/-- The value is empty or valid, and sanitizing it again changes nothing. -/
def Sanitizes (sanitize : String → String) (value : String) : Prop :=
  (sanitize value = "" ∨ IsDNSLabel (sanitize value)) ∧ sanitize (sanitize value) = sanitize value

theorem sanitizeLabelValueLocal_eq (value : String) :
    sanitizeLabelValueLocal value = sanitizeLabelValue value := by
  simp only [sanitizeLabelValueLocal, sanitizeLabelValue, sanitizeDNSLabel, limit, String.toList_ofList]
  split
  · rfl
  · rw [take_of_length_le (by omega)]

/-- Cutting a label leaves a label just when the last character kept is no dash. -/
theorem take_label_iff {cs : List Char} (label : Label cs) :
    Label (cs.take 63) ↔ cs[62]? ≠ some '-' := by
  have last : (cs.take 63).getLast? = cs[62]?.or cs.getLast? := by simp [getLast?_take]
  constructor
  · intro cut dash
    have ends := cut.trimmed '-' (.inr (by rw [last, dash]; rfl))
    cases ends
  · intro kept
    refine ⟨fun c member => label.chars c (mem_of_mem_take member), ?_⟩
    rintro c (start | stop)
    · rw [head?_take, if_neg (by decide)] at start
      exact label.trimmed c (.inl start)
    · rw [last] at stop
      rcases Option.or_eq_some_iff.mp stop with edge | ⟨-, stop⟩
      · exact decide_eq_false fun dash => kept (dash ▸ edge)
      · exact label.trimmed c (.inr stop)

/-- A label value is valid, and stays as it is, just when the cut does not come after a dash. -/
theorem label_value_valid_iff (value : String) :
    Sanitizes sanitizeLabelValue value ∧ Sanitizes sanitizeLabelValueLocal value ↔
      (sanitizeDNSLabel value).toList[62]? ≠ some '-' := by
  rw [funext sanitizeLabelValueLocal_eq, and_self, ← take_label_iff (sanitizeDNSLabel_label value)]
  have chars : (sanitizeLabelValue value).toList = (sanitizeDNSLabel value).toList.take 63 := by
    rw [sanitizeLabelValue, limit, String.toList_ofList]
  have short : (sanitizeLabelValue value).length ≤ 63 := by
    rw [← String.length_toList, chars]
    exact length_take_le _ _
  rw [← chars]
  constructor
  · rintro ⟨none | valid, -⟩
    · rw [none]
      exact ⟨by simp, by simp [Trimmed]⟩
    · refine ⟨valid.chars, fun c ends => decide_eq_false (dash_of_isLabelChar ?_)⟩
      rcases ends with start | stop
      · simpa [Option.mem_def.mp start] using valid.starts
      · simpa [Option.mem_def.mp stop] using valid.ends
  · intro label
    have again : sanitizeDNSLabel (sanitizeLabelValue value) = sanitizeLabelValue value := by
      have spaced := (sanitizeDNSLabel_spaced value).take 63
      rw [← chars] at spaced
      simpa using label.sanitizeDNSLabel spaced
    refine ⟨?_, ?_⟩
    · by_cases none : sanitizeLabelValue value = ""
      · exact .inl none
      · exact .inr (label.isDNSLabel (by simpa using none) short)
    · rw [sanitizeLabelValue, again, limit, take_of_length_le (String.length_toList ▸ short),
        String.ofList_toList]

/-- A text with a dash at the place of the cut. -/
def dashedValue : String :=
  String.ofList (replicate 62 'a' ++ ['-', 'b'])

theorem label_value_invalid :
    sanitizeLabelValue dashedValue ≠ "" ∧ ¬IsDNSLabel (sanitizeLabelValue dashedValue) ∧
      sanitizeLabelValue (sanitizeLabelValue dashedValue) ≠ sanitizeLabelValue dashedValue := by
  have chars (value : String) :
      (sanitizeLabelValue value).toList = (labelChars value.toList).take 63 := by
    rw [sanitizeLabelValue, limit, String.toList_ofList, sanitizeDNSLabel_toList]
  have once : (sanitizeLabelValue dashedValue).toList = replicate 62 'a' ++ ['-'] := by
    refine (chars _).trans (.trans (congrArg _ (congrArg _ String.toList_ofList)) ?_)
    decide
  have twice : (sanitizeLabelValue (sanitizeLabelValue dashedValue)).toList = replicate 62 'a' := by
    refine (chars _).trans (.trans (congrArg _ (congrArg _ once)) ?_)
    decide
  refine ⟨fun empty => ?_, fun valid => ?_, fun same => ?_⟩
  · rw [empty] at once
    cases once
  · have ends := valid.ends
    rw [once] at ends
    cases ends
  · rw [same, once] at twice
    cases twice

/-- The parts that show in a name. -/
def shownParts (parts : List String) : List String :=
  (parts.map sanitizeDNSLabel).filter (· ≠ "")

/-- A name cut to make room for a last part. -/
def cutBefore (name last : String) : String :=
  let start := String.ofList (trimDashes (name.toList.take (63 - last.length - 1)))
  if start = "" then last else start ++ "-" ++ last

section ChildNames

variable {shortHash : String → String} {name last : String}

theorem agentRunChildName_cut (shortHash : String → String) (parts : List String) :
    agentRunChildName shortHash parts =
      let name := "-".intercalate (shownParts parts)
      let last := (shownParts parts).getLastD ""
      if name.length ≤ 63 then name
      else if last.length < 63 then cutBefore name last else cutBefore name (shortHash name) := by
  simp only [agentRunChildName, shownParts, cutBefore, ite_not]
  rfl

/-- Nothing but the parts that show goes into a name. -/
theorem agentRunChildName_congr {parts parts' : List String}
    (same : shownParts parts = shownParts parts') :
    agentRunChildName shortHash parts = agentRunChildName shortHash parts' := by
  rw [agentRunChildName_cut, agentRunChildName_cut, same]

/-- What is cut before a label ends with it and is a label. -/
theorem cutBefore_valid (chars : ∀ c ∈ name.toList, isLabelChar c = true ∨ c = '-')
    (label : Label last.toList) (some_ : last.toList ≠ []) (short : last.length < 63) :
    IsDNSLabel (cutBefore name last) ∧ last.toList <:+ (cutBefore name last).toList := by
  rw [← String.length_toList] at short
  simp only [cutBefore, ← String.length_toList]
  have size := (trimDashes_sublist (name.toList.take (63 - last.toList.length - 1))).length_le
  have start : Label (trimDashes (name.toList.take (63 - last.toList.length - 1))) :=
    ⟨fun c member => chars c (mem_of_mem_take ((trimDashes_sublist _).subset member)), trimmed_trim _ _⟩
  generalize trimDashes (name.toList.take (63 - last.toList.length - 1)) = front at size start
  have cut : front.length ≤ 62 - last.toList.length := by
    rw [length_take] at size
    omega
  split
  next => exact ⟨label.isDNSLabel some_ (String.length_toList ▸ short.le), suffix_refl _⟩
  next more =>
    have spelled : (String.ofList front ++ "-" ++ last).toList = front ++ '-' :: last.toList := by simp
    rw [spelled]
    refine ⟨Label.isDNSLabel ?_ ?_ ?_, ⟨front ++ ['-'], by simp⟩⟩
    · rw [spelled]
      exact start.join label (by simpa using more) some_
    · rw [spelled]
      simp
    · rw [← String.length_toList, spelled, length_append, length_cons]
      omega

/-- Labels joined by dashes are a label, and end with the last of them. -/
theorem join_label {tokens : List String} (labels : ∀ token ∈ tokens, Label token.toList ∧ token.toList ≠ [])
    (some_ : tokens ≠ []) :
    Label ("-".intercalate tokens).toList ∧ ("-".intercalate tokens).toList ≠ [] ∧
      (tokens.getLastD "").toList <:+ ("-".intercalate tokens).toList := by
  rw [String.toList_intercalate]
  induction tokens with
  | nil => exact absurd rfl some_
  | cons token tokens ih =>
    obtain ⟨label, shown⟩ := labels token (.head _)
    cases tokens with
    | nil => exact ⟨by simpa using label, by simpa using shown, by simp⟩
    | cons next tokens =>
      obtain ⟨later, more, ends⟩ :=
        ih (fun token member => labels token (.tail _ member)) (cons_ne_nil _ _)
      have spelled : "-".toList.intercalate ((token :: next :: tokens).map String.toList) =
          token.toList ++ '-' :: "-".toList.intercalate ((next :: tokens).map String.toList) := by
        simp [intercalate_cons_cons]
      rw [spelled]
      refine ⟨label.join later shown more, by simp, ?_⟩
      rw [append_cons, getLastD_cons]
      exact ends.trans (suffix_append _ _)

theorem shownParts_labels (parts : List String) :
    ∀ token ∈ shownParts parts, Label token.toList ∧ token.toList ≠ [] := by
  intro token member
  obtain ⟨among, shown⟩ := mem_filter.mp member
  obtain ⟨part, -, rfl⟩ := mem_map.mp among
  exact ⟨sanitizeDNSLabel_label part, by simpa using shown⟩

/-- A child's name is empty, when nothing shows of any part, or a DNS label. It ends with its last
part, unless that is too long, and is all of the parts when they fit. -/
theorem child_name_valid (digests : Digests shortHash) (parts : List String) :
    (agentRunChildName shortHash parts = "" ∧ (∀ part ∈ parts, sanitizeDNSLabel part = "") ∨
        IsDNSLabel (agentRunChildName shortHash parts)) ∧
      (∀ last ∈ (shownParts parts).getLast?, last.length < 63 →
        last.toList <:+ (agentRunChildName shortHash parts).toList) ∧
      (("-".intercalate (shownParts parts)).length ≤ 63 →
        agentRunChildName shortHash parts = "-".intercalate (shownParts parts)) := by
  rw [agentRunChildName_cut]
  dsimp only
  rcases eq_nil_or_concat' (shownParts parts) with none | ⟨front, last, shown⟩
  · rw [none]
    refine ⟨.inl ⟨rfl, fun part member => ?_⟩, nofun, fun _ => rfl⟩
    simpa using filter_eq_nil_iff.mp none _ (mem_map_of_mem member)
  · have labels := shownParts_labels parts
    obtain ⟨whole, some_, ends⟩ := join_label labels (by simp [shown])
    have lastly : (shownParts parts).getLastD "" = last := by rw [shown, getLastD_concat]
    obtain ⟨label, more⟩ := labels last (by simp [shown])
    rw [lastly] at ends ⊢
    have only : ∀ other ∈ (shownParts parts).getLast?, other = last := by
      rw [shown, getLast?_concat]
      exact fun other same => (Option.some.inj same).symm
    by_cases fits : ("-".intercalate (shownParts parts)).length ≤ 63
    · rw [if_pos fits]
      refine ⟨.inr (whole.isDNSLabel some_ fits), fun other same _ => ?_, fun _ => rfl⟩
      exact only other same ▸ ends
    · rw [if_neg fits]
      refine ⟨.inr ?_, fun other same short => ?_, fun fit => absurd fit fits⟩
      · split
        next short => exact (cutBefore_valid whole.chars label more short).1
        next =>
          have twelve := digests.twelve ("-".intercalate (shownParts parts))
          refine (cutBefore_valid whole.chars (label_of_kept (digests.label _)).1 ?_ (by omega)).1
          rw [← String.length_toList] at twelve
          exact ne_nil_of_length_pos (by omega)
      · rw [only other same] at short ⊢
        rw [if_pos short]
        exact (cutBefore_valid whole.chars label more short).2

theorem child_name_valid_named :
    IsDNSLabel (agentRunChildName twelveDigits ["api", "harness", twelveDigits "go"]) :=
  (child_name_valid twelveDigits_digests ["api", "harness", twelveDigits "go"]).1.resolve_left
    fun none => absurd none.1 (by decide +kernel)

end ChildNames

end AnvilAgents
