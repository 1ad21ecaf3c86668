import Mathlib.Data.List.DropRight

/-! Text operations of a language whose strings are trimmed by Unicode white space. -/

namespace Text

open List

/-- The characters that trimming removes, by code point. -/
def isSpace (c : Char) : Bool :=
  c.toNat ∈ [0x20, 0x09, 0x0a, 0x0b, 0x0c, 0x0d, 0x85, 0xa0, 0x1680, 0x2028, 0x2029, 0x202f,
    0x205f, 0x3000] || (0x2000 ≤ c.toNat && c.toNat ≤ 0x200a)

/-- Remove what a check selects from both ends. -/
def trim {α : Type} (p : α → Bool) (l : List α) : List α :=
  ((l.dropWhile p).reverse.dropWhile p).reverse

-- Irreducible: no proof looks through the characters of a text that is not given.
/-- Remove white space from both ends. -/
@[irreducible]
def trimSpace (s : String) : String :=
  String.ofList (trim isSpace s.toList)

/-- Nothing is left after trimming. -/
def isBlank (s : String) : Bool :=
  trimSpace s == ""

@[simp]
theorem trimSpace_empty : trimSpace "" = "" := by simp [trimSpace, trim]

@[simp]
theorem isBlank_empty : isBlank "" = true := by simp [isBlank]

section Trim

variable {α : Type} {p : α → Bool} {l : List α}

/-- Neither end would be trimmed. -/
def Trimmed (p : α → Bool) (l : List α) : Prop :=
  ∀ x, x ∈ l.head? ∨ x ∈ l.getLast? → p x = false

theorem dropWhile_of_head (kept : ∀ x ∈ l.head?, p x = false) : l.dropWhile p = l := by
  cases l with
  | nil => rfl
  | cons x rest => rw [dropWhile_cons_of_neg (by simp [kept x rfl])]

/-- What is trimmed is left alone. -/
theorem trim_of_trimmed (trimmed : Trimmed p l) : trim p l = l := by
  rw [trim, dropWhile_of_head fun x first => trimmed x (.inl first),
    dropWhile_of_head fun x last => trimmed x (.inr (head?_reverse ▸ last)), reverse_reverse]

theorem trimmed_trim (p : α → Bool) (l : List α) : Trimmed p (trim p l) := by
  have stops (l : List α) : ∀ x ∈ (l.dropWhile p).head?, p x = false := by
    intro x first
    have stopped := head?_dropWhile_not p l
    rw [first] at stopped
    simpa using stopped
  rintro x (first | last)
  · -- Trimming the end leaves the beginning as it was, if anything is left.
    refine stops l x ?_
    obtain ⟨back, same⟩ := rdropWhile_prefix p (l.dropWhile p)
    rw [← same, head?_append]
    exact Option.or_eq_some_iff.mpr (.inl first)
  · rw [trim, getLast?_reverse] at last
    exact stops _ x last

end Trim

@[simp]
theorem trimSpace_trimSpace (s : String) : trimSpace (trimSpace s) = trimSpace s := by
  unfold trimSpace
  rw [String.toList_ofList, trim_of_trimmed (trimmed_trim _ _)]

theorem isBlank_trimSpace (s : String) : isBlank (trimSpace s) = isBlank s := by
  rw [isBlank, isBlank, trimSpace_trimSpace]

/-- A text without white space is trimmed. -/
theorem trimSpace_of_solid {s : String} (solid : ∀ c ∈ s.toList, isSpace c = false) :
    trimSpace s = s := by
  unfold trimSpace
  rw [trim_of_trimmed fun c ends => solid c (ends.elim mem_of_mem_head? mem_of_mem_getLast?),
    String.ofList_toList]

/-- A text with a character that is not white space is not blank. -/
theorem isBlank_of_mem {s : String} {c : Char} (member : c ∈ s.toList) (solid : isSpace c = false) :
    isBlank s = false := by
  refine beq_eq_false_iff_ne.mpr fun blank => ?_
  unfold trimSpace at blank
  have trimmed := congrArg String.toList blank
  simp only [trim, String.toList_ofList, String.toList_empty, reverse_eq_nil_iff] at trimmed
  -- Nothing is left from the right, so what was left from the left was all white space.
  have left : s.toList.dropWhile isSpace = [] := by
    rw [← dropWhile_idempotent]
    refine dropWhile_eq_nil_iff.mpr fun d among => ?_
    exact dropWhile_eq_nil_iff.mp trimmed d (mem_reverse.mpr among)
  simp [dropWhile_eq_nil_iff.mp left c member] at solid

/-- The first value that is not blank, untrimmed; empty when there is none. -/
def firstNonEmpty : List String → String
  | [] => ""
  | value :: values => if isBlank value then firstNonEmpty values else value

/-- Whether a text starts with another. -/
def hasPrefix (s start : String) : Bool :=
  start.toList.isPrefixOf s.toList

/-- Remove a leading text when it is there. -/
def trimStart (s start : String) : String :=
  if hasPrefix s start then String.ofList (s.toList.drop start.length) else s

/--
Lower case.

Besides the ASCII capitals, the dotted capital I and the Kelvin sign have an ASCII lower case.
-/
def toLower (c : Char) : Char :=
  if 0x41 ≤ c.toNat ∧ c.toNat ≤ 0x5a then Char.ofNat (c.toNat + 32)
  else if c.toNat = 0x130 then 'i'
  else if c.toNat = 0x212a then 'k'
  else c

theorem isSpace_toLower (c : Char) : isSpace (toLower c) = isSpace c := by
  unfold toLower
  split
  next upper =>
    -- Neither a capital letter nor the small letter it becomes is white space.
    have small : (Char.ofNat (c.toNat + 32)).toNat = c.toNat + 32 := by
      rw [Char.ofNat, dif_pos (Or.inl (by omega))]
      rfl
    rw [Bool.eq_iff_iff]
    simp only [isSpace, small, mem_cons, not_mem_nil, or_false, Bool.or_eq_true,
      Bool.and_eq_true, decide_eq_true_eq]
    omega
  next =>
    split
    next dotted => simp [isSpace, dotted]
    next =>
      split
      next kelvin => simp [isSpace, kelvin]
      next => rfl

theorem trim_map_toLower (cs : List Char) :
    trim isSpace (cs.map toLower) = (trim isSpace cs).map toLower := by
  have same : (isSpace ∘ toLower) = isSpace := funext isSpace_toLower
  simp only [trim, dropWhile_map, same, ← map_reverse]

/-- Simple case folding; the long s folds onto an ASCII letter and the dotted capital I does not. -/
def fold (c : Char) : Char :=
  if c.toNat = 0x17f then 's' else if c.toNat = 0x130 then c else toLower c

theorem isSpace_fold (c : Char) : isSpace (fold c) = isSpace c := by
  unfold fold
  split
  next long => simp [isSpace, long]
  next =>
    split
    next => rfl
    next => exact isSpace_toLower c

/-- Equality up to case, for comparisons with an ASCII text. -/
def equalFold (s t : String) : Bool :=
  s.toList.map fold == t.toList.map fold

theorem map_fold_of_equalFold {s t : String} (equal : equalFold s t) :
    s.toList.map fold = t.toList.map fold :=
  eq_of_beq equal

/-- A text that differs in case only from one without white space has none. -/
theorem solid_of_equalFold {s t : String} (equal : equalFold s t)
    (solid : ∀ c ∈ t.toList, isSpace c = false) : ∀ c ∈ s.toList, isSpace c = false := by
  intro c member
  have folded : fold c ∈ t.toList.map fold := by
    rw [← map_fold_of_equalFold equal]
    exact mem_map_of_mem member
  obtain ⟨d, other, same⟩ := mem_map.mp folded
  rw [← isSpace_fold c, ← same, isSpace_fold d]
  exact solid d other

/-- Keep at most the first `max` characters. -/
def limit (max : Nat) (s : String) : String :=
  String.ofList (s.toList.take max)

/--
Replace every occurrence of one of the given texts, from left to right and without rescanning.

The counter is what remains of the occurrence replaced last.
-/
def replaceChars (pairs : List (List Char × List Char)) : Nat → List Char → List Char
  | _, [] => []
  | skip + 1, _ :: rest => replaceChars pairs skip rest
  | 0, c :: rest =>
    match pairs.find? fun pair => pair.1.isPrefixOf (c :: rest) with
    | some (old, new) => new ++ replaceChars pairs (old.length - 1) rest
    | none => c :: replaceChars pairs 0 rest

def replaceAll (pairs : List (String × String)) (s : String) : String :=
  String.ofList (replaceChars (pairs.map fun (old, new) => (old.toList, new.toList)) 0 s.toList)

example : replaceAll [("ab", "x"), ("b", "yy")] "abbab" = "xyyx" := by decide

end Text
