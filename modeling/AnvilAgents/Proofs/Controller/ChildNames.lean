import AnvilAgents.Proofs.Controller.Labels

/-!
When the names that end in a digest of something are different.

Of what stands in front of the digest a name keeps fifty characters at most, and no dash at the end of
these. So two names with one digest are different if their fronts, each with a dash behind it, differ
within the first fifty characters.
-/

namespace AnvilAgents

open Text List Nat

/-- The last of several texts comes behind the others. -/
theorem intercalate_concat {sep last : List Char} {parts : List (List Char)} (some_ : parts ≠ []) :
    sep.intercalate (parts ++ [last]) = sep.intercalate parts ++ (sep ++ last) := by
  induction parts with
  | nil => exact absurd rfl some_
  | cons part parts ih =>
    cases parts with
    | nil => simp
    | cons next parts =>
      have rest := ih (cons_ne_nil _ _)
      rw [cons_append] at rest ⊢
      rw [cons_append, intercalate_cons_cons, rest, intercalate_cons_cons,
        append_assoc _ _ (sep ++ last)]

/-- Two texts differ in one of their first characters; one that has ended differs from one that goes on. -/
def DifferWithin (count : Nat) (text text' : List Char) : Prop :=
  ∃ i < count, text[i]? ≠ text'[i]?

variable {text text' : List Char}

theorem take_eq_iff {count : Nat} : text.take count = text'.take count ↔
    ¬DifferWithin count text text' := by
  simp only [DifferWithin, not_exists, not_and, not_not, List.ext_getElem?_iff, getElem?_take]
  refine forall_congr' fun i => ?_
  by_cases early : i < count
  · simp [early]
  · simp [early]

/-- Behind a common beginning, the places are counted from its end. -/
theorem differWithin_append_iff {count : Nat} (front : List Char) :
    DifferWithin count (front ++ text) (front ++ text') ↔
      ∃ j, front.length + j < count ∧ text[j]? ≠ text'[j]? := by
  constructor
  · rintro ⟨i, early, differ⟩
    by_cases inside : i < front.length
    · rw [getElem?_append_left inside, getElem?_append_left inside] at differ
      exact absurd rfl differ
    · rw [getElem?_append_right (by omega), getElem?_append_right (by omega)] at differ
      exact ⟨i - front.length, by omega, differ⟩
  · rintro ⟨j, early, differ⟩
    refine ⟨front.length + j, early, ?_⟩
    rw [getElem?_append_right (by omega), getElem?_append_right (by omega)]
    simpa using differ

/-- What a name keeps of the fifty characters that it has room for: all but a dash at the end. -/
inductive Keeps : List Char → List Char → Prop
  | dash {kept : List Char} (short : kept.length < 50) : Keeps kept (kept ++ ['-'])
  | whole {kept : List Char} (full : kept.length = 50) (ends : '-' ∉ kept.getLast?) : Keeps kept kept

theorem Keeps.length_le {kept : List Char} (keeps : Keeps kept text) :
    text.length ≤ kept.length + 1 := by
  cases keeps <;> simp

/-- What is kept tells what was there. -/
theorem Keeps.inj_iff {kept kept' : List Char} (keeps : Keeps kept text) (keeps' : Keeps kept' text') :
    kept = kept' ↔ text = text' := by
  cases keeps with
  | dash short =>
    cases keeps' with
    | dash => simp
    | whole full ends =>
      refine iff_of_false (fun same => ?_) fun same => ends ?_
      · rw [same] at short
        omega
      · rw [← same, getLast?_concat]
        rfl
  | whole full ends =>
    cases keeps' with
    | dash short =>
      refine iff_of_false (fun same => ?_) fun same => ends ?_
      · rw [← same] at short
        omega
      · rw [same, getLast?_concat]
        rfl
    | whole => exact Iff.rfl

/-- Fifty characters of a label without two dashes in a row have one dash at the end, or none. -/
theorem keeps_trimDashes (full : text.length = 50) (starts : '-' ∉ text.head?) (spaced : Spaced text) :
    Keeps (trimDashes text) text := by
  have first : text.dropWhile (· = '-') = text := by
    refine dropWhile_of_head fun c head => decide_eq_false ?_
    rintro rfl
    exact starts head
  by_cases ends : '-' ∈ text.getLast?
  · obtain ⟨kept, rfl⟩ := getLast?_eq_some_iff.mp ends
    have last : '-' ∉ kept.getLast? := fun dash => by
      obtain ⟨-, -, apart⟩ := isChain_append.mp spaced
      exact apart _ dash '-' rfl rfl rfl
    have trimmed : trimDashes (kept ++ ['-']) = kept := by
      rw [trimDashes, trim, first, reverse_concat, dropWhile_cons_of_pos (by decide), dropWhile_of_head,
        reverse_reverse]
      rintro c head
      rw [head?_reverse] at head
      refine decide_eq_false ?_
      rintro rfl
      exact last head
    rw [trimmed]
    rw [length_append, length_singleton] at full
    exact .dash (by omega)
  · have trimmed : trimDashes text = text := by
      refine trim_of_trimmed fun c edge => decide_eq_false ?_
      rintro rfl
      exact edge.elim starts ends
    rw [trimmed]
    exact .whole full ends

/-- The parts of a name with a dash behind each of them. -/
def dashed (parts : List String) : List Char :=
  ("-".intercalate (shownParts parts)).toList ++ ['-']

section Apart

variable {shortHash : String → String} {parts : List String}

theorem shownParts_spaced (some_ : shownParts parts ≠ []) :
    Label ("-".intercalate (shownParts parts)).toList ∧
      Spaced ("-".intercalate (shownParts parts)).toList := by
  have labels := shownParts_labels parts
  have spaced : ∀ token ∈ shownParts parts, Spaced token.toList := by
    intro token member
    obtain ⟨part, -, rfl⟩ := mem_map.mp (mem_filter.mp member).1
    exact sanitizeDNSLabel_spaced part
  refine ⟨(join_label labels some_).1, ?_⟩
  generalize shownParts parts = tokens at some_ labels spaced
  induction tokens with
  | nil => exact absurd rfl some_
  | cons token tokens ih =>
    cases tokens with
    | nil => simpa [String.toList_intercalate] using spaced token (.head _)
    | cons next tokens =>
      have later := ih (cons_ne_nil _ _) (fun token member => labels token (.tail _ member))
        fun token member => spaced token (.tail _ member)
      have rest := (join_label (fun token member => labels token (.tail _ member))
        (cons_ne_nil next tokens)).1.trimmed
      have spelled : ("-".intercalate (token :: next :: tokens)).toList =
          token.toList ++ '-' :: ("-".intercalate (next :: tokens)).toList := by
        simp [String.toList_intercalate]
      rw [spelled]
      -- There is no dash next to the one between the parts.
      refine (spaced token (.head _)).append (isChain_cons.mpr ⟨fun c starts _ same => ?_, later⟩) ?_
      · exact absurd same (of_decide_eq_false (rest c (.inl starts)))
      · intro c ends _ _ dash
        exact absurd dash (of_decide_eq_false ((labels token (.head _)).1.trimmed c (.inr ends)))

/-- A name is what it keeps of its parts, and the digest. -/
theorem childName_keeps (digests : Digests shortHash) (some_ : shownParts parts ≠ []) (given : String) :
    ∃ kept, Keeps kept ((dashed parts).take 50) ∧
      (agentRunChildName shortHash (parts ++ [shortHash given])).toList =
        kept ++ '-' :: (shortHash given).toList := by
  have hash := sanitizeDNSLabel_of_kept (digests.label given)
  have twelve := digests.twelve given
  generalize shortHash given = digest at hash twelve
  have tokens : shownParts (parts ++ [digest]) = shownParts parts ++ [digest] := by
    have solid : digest ≠ "" := by
      rintro rfl
      cases twelve
    simp [shownParts, hash, solid]
  have joined : ("-".intercalate (shownParts parts ++ [digest])).toList =
      ("-".intercalate (shownParts parts)).toList ++ '-' :: digest.toList := by
    rw [String.toList_intercalate, map_append, String.toList_intercalate]
    exact intercalate_concat (by simpa using some_)
  obtain ⟨label, spaced⟩ := shownParts_spaced some_
  have shown := (join_label (shownParts_labels parts) some_).2.1
  rw [agentRunChildName_cut, tokens]
  simp only [getLastD_concat, cutBefore, ← String.length_toList, joined, dashed]
  generalize ("-".intercalate (shownParts parts)).toList = front at label spaced shown joined
  rw [← String.length_toList] at twelve
  simp only [length_append, length_cons, twelve]
  by_cases short : front.length ≤ 50
  · rw [if_pos (by omega), joined]
    refine ⟨front, ?_, rfl⟩
    by_cases full : front.length = 50
    · rw [take_left' full]
      refine .whole full fun dash => ?_
      exact absurd (label.trimmed '-' (.inr dash)) (by decide)
    · rw [take_of_length_le (by simp; omega)]
      exact .dash (by omega)
  · rw [if_neg (by omega), if_pos (by omega), take_append_of_le_length (by omega),
      take_append_of_le_length (by omega)]
    have starts : '-' ∉ (front.take 50).head? := by
      rw [head?_take, if_neg (by decide)]
      exact fun dash => absurd (label.trimmed '-' (.inl dash)) (by decide)
    have keeps := keeps_trimDashes (length_take_of_le (by omega)) starts (spaced.take 50)
    refine ⟨_, keeps, ?_⟩
    -- Fifty characters are more than a dash, so something is kept of them.
    have some_ : String.ofList (trimDashes (front.take 50)) ≠ "" := by
      intro none
      have nothing : trimDashes (front.take 50) = [] := by
        rw [← String.toList_inj, String.toList_ofList] at none
        exact none
      have size := keeps.length_le
      rw [nothing, length_take_of_le (by omega)] at size
      exact absurd size (by decide)
    rw [if_neg some_]
    simp

/-- Two names are the same just when their parts do not differ within fifty characters and their
digests are the same. -/
theorem agentRunChildName_inj (digests : Digests shortHash) {parts' : List String}
    (some_ : shownParts parts ≠ []) (some' : shownParts parts' ≠ []) (given given' : String) :
    agentRunChildName shortHash (parts ++ [shortHash given]) =
        agentRunChildName shortHash (parts' ++ [shortHash given']) ↔
      ¬DifferWithin 50 (dashed parts) (dashed parts') ∧ shortHash given = shortHash given' := by
  obtain ⟨kept, keeps, spelled⟩ := childName_keeps digests some_ given
  obtain ⟨kept', keeps', spelled'⟩ := childName_keeps digests some' given'
  rw [← String.toList_inj, spelled, spelled', ← take_eq_iff, ← keeps.inj_iff keeps']
  constructor
  · intro same
    obtain ⟨front, back⟩ := append_inj' same (by simp [String.length_toList, digests.twelve])
    exact ⟨front, String.toList_inj.mp (cons.inj back).2⟩
  · rintro ⟨front, hash⟩
    rw [front, hash]

variable {name : String}

/-- The label of a run, with what its child is for behind it. -/
def withRole (name role : String) : List Char :=
  (sanitizeDNSLabel name ++ "-" ++ role ++ "-").toList

theorem dashed_run (valid : name.toList.head?.any isLabelChar = true) {role : String}
    (plain : sanitizeDNSLabel role = role) (solid : role ≠ "") :
    shownParts [name, role] ≠ [] ∧ dashed [name, role] = withRole name role := by
  have tokens : shownParts [name, role] = [sanitizeDNSLabel name, role] := by
    simp [shownParts, solid_of_valid valid, plain, solid]
  refine ⟨by simp [tokens], ?_⟩
  simp [dashed, tokens, withRole]

/-- The children of two runs have different names just when the prompts of the runs differ, or the
labels of the runs, with what the child is for behind them, do within the first fifty characters. -/
theorem run_children_apart_iff (digests : Digests shortHash) {name' prompt prompt' : String}
    (valid : name.toList.head?.any isLabelChar = true)
    (valid' : name'.toList.head?.any isLabelChar = true)
    (injective : shortHash prompt = shortHash prompt' → prompt = prompt') :
    (name ≠ name' →
      agentRunChildName shortHash [name, "harness", shortHash prompt] ≠
          agentRunChildName shortHash [name', "harness", shortHash prompt'] ∧
        agentRunChildName shortHash [name, "context", shortHash prompt] ≠
          agentRunChildName shortHash [name', "context", shortHash prompt']) ↔
      name = name' ∨ prompt ≠ prompt' ∨
        ∀ role ∈ ["harness", "context"], DifferWithin 50 (withRole name role) (withRole name' role) := by
  have choice {N P Q A B E F : Prop} (job : E ↔ ¬A ∧ Q) (map : F ↔ ¬B ∧ Q) (same : Q ↔ P) :
      (¬N → ¬E ∧ ¬F) ↔ N ∨ ¬P ∨ A ∧ B := by
    by_cases P <;> simp [*, or_iff_not_imp_left]
  have children {role : String} (plain : sanitizeDNSLabel role = role) (solid : role ≠ "") :
      agentRunChildName shortHash [name, role, shortHash prompt] =
          agentRunChildName shortHash [name', role, shortHash prompt'] ↔
        ¬DifferWithin 50 (withRole name role) (withRole name' role) ∧
          shortHash prompt = shortHash prompt' := by
    obtain ⟨some_, shown⟩ := dashed_run valid plain solid
    obtain ⟨some', shown'⟩ := dashed_run valid' plain solid
    rw [← shown, ← shown']
    exact agentRunChildName_inj digests some_ some' prompt prompt'
  simp only [forall_mem_cons, not_mem_nil, false_implies, implies_true, and_true]
  have harness : sanitizeDNSLabel "harness" = "harness" :=
    sanitizeDNSLabel_of_kept (all_eq_true.mp rfl)
  have context : sanitizeDNSLabel "context" = "context" :=
    sanitizeDNSLabel_of_kept (all_eq_true.mp rfl)
  exact choice (children harness (by decide)) (children context (by decide))
    ⟨injective, congrArg shortHash⟩

theorem run_children_apart_named :
    agentRunChildName twelveDigits ["api", "harness", twelveDigits "go"] ≠
        agentRunChildName twelveDigits ["web", "harness", twelveDigits "go"] ∧
      agentRunChildName twelveDigits ["api", "context", twelveDigits "go"] ≠
        agentRunChildName twelveDigits ["web", "context", twelveDigits "go"] := by
  have differ : ∀ role ∈ ["harness", "context"],
      (withRole "api" role)[0]? ≠ (withRole "web" role)[0]? := by decide +kernel
  exact (run_children_apart_iff twelveDigits_digests (by decide) (by decide) fun _ => rfl).mpr
    (.inr (.inr fun role member => ⟨0, by decide, differ role member⟩)) (by decide)

/-- A dot and a dash make the same label. -/
theorem dotted_run_children_collide :
    "a.b" ≠ "a-b" ∧
      agentRunChildName twelveDigits ["a.b", "harness", twelveDigits "go"] =
        agentRunChildName twelveDigits ["a-b", "harness", twelveDigits "go"] ∧
      agentRunChildName twelveDigits ["a.b", "context", twelveDigits "go"] =
        agentRunChildName twelveDigits ["a-b", "context", twelveDigits "go"] := by
  have label : sanitizeDNSLabel "a.b" = sanitizeDNSLabel "a-b" := by
    rw [← String.toList_inj, sanitizeDNSLabel_toList, sanitizeDNSLabel_toList]
    decide
  have same (rest : List String) : shownParts ("a.b" :: rest) = shownParts ("a-b" :: rest) := by
    rw [shownParts, shownParts, map_cons, map_cons, label]
  exact ⟨by decide, agentRunChildName_congr (same _), agentRunChildName_congr (same _)⟩

/-- A number shows in a name as it is written. -/
theorem sanitizeDNSLabel_sequenceText (sequence : Int) :
    sanitizeDNSLabel (sequenceText sequence) = sequenceText sequence ∧ sequenceText sequence ≠ "" := by
  unfold sequenceText
  generalize (if sequence ≤ 0 then 1 else sequence.toNat) = number
  have spelled : (toString number).toList = toDigits 10 number := by
    rw [show toString number = number.repr from rfl, toList_repr]
  have digits : ∀ c ∈ (toString number).toList, isLabelChar c = true := by
    intro c member
    rw [spelled] at member
    have digit := isDigit_of_mem_toDigits (by decide) (by decide) member
    simp only [Char.isDigit, Bool.and_eq_true, decide_eq_true_eq] at digit
    simp only [isLabelChar, Bool.or_eq_true, Bool.and_eq_true, decide_eq_true_eq]
    exact .inr digit
  refine ⟨sanitizeDNSLabel_of_kept digits, fun none => ?_⟩
  rw [none] at spelled
  exact absurd spelled.symm toDigits_ne_nil

theorem dashed_responder (valid : name.toList.head?.any isLabelChar = true) (sequence : Int) :
    shownParts ["agrun", name, sequenceText sequence] ≠ [] ∧
      dashed ["agrun", name, sequenceText sequence] =
        ("agrun-" ++ sanitizeDNSLabel name ++ "-").toList ++ (sequenceText sequence ++ "-").toList := by
  obtain ⟨plain, solid⟩ := sanitizeDNSLabel_sequenceText sequence
  have tokens : shownParts ["agrun", name, sequenceText sequence] =
      ["agrun", sanitizeDNSLabel name, sequenceText sequence] := by
    have agrun : sanitizeDNSLabel "agrun" = "agrun" :=
      sanitizeDNSLabel_of_kept (all_eq_true.mp rfl)
    simp [shownParts, agrun, solid_of_valid valid, plain, solid]
  refine ⟨by simp [tokens], ?_⟩
  simp [dashed, tokens]

/-- The names of two responders are the same just when they leave no room for a difference. -/
theorem responderName_inj (digests : Digests shortHash)
    (valid : name.toList.head?.any isLabelChar = true) (uid : String) (sequence sequence' : Int) :
    responderName shortHash name uid sequence = responderName shortHash name uid sequence' ↔
      ¬∃ digit, (sanitizeDNSLabel name).length + 7 + digit < 50 ∧
        (sequenceText sequence ++ "-").toList[digit]? ≠
          (sequenceText sequence' ++ "-").toList[digit]? := by
  obtain ⟨some_, shown⟩ := dashed_responder valid sequence
  obtain ⟨some', shown'⟩ := dashed_responder valid sequence'
  have front : ("agrun-" ++ sanitizeDNSLabel name ++ "-").toList.length =
      (sanitizeDNSLabel name).length + 7 := by
    have agrun : "agrun-".length = 6 := by decide
    have dash : "-".length = 1 := by decide
    rw [String.length_toList, String.length_append, String.length_append]
    omega
  have names := agentRunChildName_inj digests some_ some' uid uid
  rw [shown, shown', differWithin_append_iff, front] at names
  exact names.trans (and_iff_left rfl)

/-- The responders of two sequences of a situation have different names just when the label of the
situation leaves room for a digit in which the sequences differ, or for the dash behind the shorter. -/
theorem responders_apart_iff (digests : Digests shortHash)
    (valid : name.toList.head?.any isLabelChar = true) (uid : String) (sequence sequence' : Int) :
    (sequence ≠ sequence' →
        responderName shortHash name uid sequence ≠ responderName shortHash name uid sequence') ↔
      sequence = sequence' ∨ ∃ digit, (sanitizeDNSLabel name).length + 7 + digit < 50 ∧
        (sequenceText sequence ++ "-").toList[digit]? ≠
          (sequenceText sequence' ++ "-").toList[digit]? := by
  rw [ne_eq, ne_eq, responderName_inj digests valid, not_not]
  exact or_iff_not_imp_left.symm

theorem responders_apart_short :
    responderName twelveDigits "checkout-latency" "uid" 1 ≠
      responderName twelveDigits "checkout-latency" "uid" 2 :=
  (responders_apart_iff twelveDigits_digests (by decide) "uid" 1 2).mpr
    (.inr ⟨0, by decide +kernel, by decide +kernel⟩) (by decide)

/-- A long name leaves no room for the sequence. -/
theorem responders_collide :
    responderName twelveDigits "checkout-service-payment-latency-slo-burn-rate" "uid" 1 =
      responderName twelveDigits "checkout-service-payment-latency-slo-burn-rate" "uid" 2 := by
  refine (responderName_inj twelveDigits_digests (by decide) "uid" 1 2).mpr ?_
  have long : (sanitizeDNSLabel "checkout-service-payment-latency-slo-burn-rate").length = 46 := by
    rw [← String.length_toList, sanitizeDNSLabel_toList]
    decide
  rintro ⟨digit, room, -⟩
  omega

end Apart

end AnvilAgents
