/-! Which texts are JSON: a scanner with a stack of what is open. -/

namespace JsonText

open List

def isSpace (c : Char) : Bool :=
  c ∈ [' ', '\t', '\n', '\r']

/-- An exponent, or nothing. -/
def isExponent : List Char → Bool
  | [] => true
  | c :: rest =>
    let digits :=
      match rest with
      | '+' :: digits | '-' :: digits => digits
      | digits => digits
    (c == 'e' || c == 'E') && digits != [] && digits.all Char.isDigit

def isNumber (cs : List Char) : Bool :=
  let cs := if cs.head? = some '-' then cs.tail else cs
  let whole := cs.takeWhile Char.isDigit
  (whole == ['0'] || whole != [] && whole.head? != some '0') &&
    match cs.dropWhile Char.isDigit with
    | '.' :: rest => rest.takeWhile Char.isDigit != [] && isExponent (rest.dropWhile Char.isDigit)
    | rest => isExponent rest

def isScalar (cs : List Char) : Bool :=
  cs == "true".toList || cs == "false".toList || cs == "null".toList || isNumber cs

/-- Where a scanner is: what it has read last decides what may come next. -/
inductive Place where
  | value (first : Bool)
  | name (first : Bool)
  | colon
  | more
  | text (name : Bool)
  | escape (name : Bool)
  | hex (name : Bool) (left : Nat)
  | scalar (read : List Char)
deriving DecidableEq

/-- The place, and what is open there from the inside out, objects as `true` and arrays as `false`. -/
structure State where
  place : Place
  opened : List Bool
deriving DecidableEq

/-- After a value: the next one, or the end of what is open. Behind the last end only space follows. -/
def more (opened : List Bool) (c : Char) : Option State :=
  if isSpace c then some ⟨.more, opened⟩
  else
    match opened, c with
    | true :: _, ',' => some ⟨.name false, opened⟩
    | false :: _, ',' => some ⟨.value false, opened⟩
    | true :: outer, '}' | false :: outer, ']' => some ⟨.more, outer⟩
    | _, _ => none

def State.step : State → Char → Option State
  | ⟨.value first, opened⟩, c =>
    if isSpace c then some ⟨.value first, opened⟩
    else if c = '"' then some ⟨.text false, opened⟩
    else if c = '{' then some ⟨.name true, true :: opened⟩
    else if c = '[' then some ⟨.value true, false :: opened⟩
    else if first && c = ']' then some ⟨.more, opened.tail⟩
    else some ⟨.scalar [c], opened⟩
  | ⟨.name first, opened⟩, c =>
    if isSpace c then some ⟨.name first, opened⟩
    else if c = '"' then some ⟨.text true, opened⟩
    else if first && c = '}' then some ⟨.more, opened.tail⟩
    else none
  | ⟨.colon, opened⟩, c =>
    if isSpace c then some ⟨.colon, opened⟩
    else if c = ':' then some ⟨.value false, opened⟩
    else none
  | ⟨.more, opened⟩, c => more opened c
  | ⟨.text name, opened⟩, c =>
    if c = '"' then some ⟨if name then .colon else .more, opened⟩
    else if c = '\\' then some ⟨.escape name, opened⟩
    else if c.toNat < 0x20 then none
    else some ⟨.text name, opened⟩
  | ⟨.escape name, opened⟩, c =>
    if c = 'u' then some ⟨.hex name 3, opened⟩
    else if c ∈ ['"', '\\', '/', 'b', 'f', 'n', 'r', 't'] then some ⟨.text name, opened⟩
    else none
  | ⟨.hex name left, opened⟩, c =>
    if c.isDigit || c.toLower ∈ ['a', 'b', 'c', 'd', 'e', 'f'] then
      some ⟨if left = 0 then .text name else .hex name (left - 1), opened⟩
    else none
  | ⟨.scalar read, opened⟩, c =>
    if c.isAlphanum || c ∈ ['+', '-', '.'] then some ⟨.scalar (read ++ [c]), opened⟩
    else if isScalar read then more opened c
    else none

/-- The text of a value, with space around it; a number or a word ends with the text. -/
def isValue (text : List Char) : Bool :=
  match text.foldlM State.step ⟨.value false, []⟩ with
  | some ⟨.more, []⟩ => true
  | some ⟨.scalar read, []⟩ => isScalar read
  | _ => false

/-- The text of an object, with space behind it. -/
def isObject : List Char → Bool
  | '{' :: text => text.foldlM State.step ⟨.name true, [true]⟩ == some ⟨.more, []⟩
  | _ => false

/-- Behind the end of an object there is only space. -/
theorem space_of_isObject_append {text rest : List Char} (object : isObject text)
    (longer : isObject (text ++ rest)) : ∀ c ∈ rest, isSpace c := by
  have ends : ∀ rest : List Char, rest.foldlM State.step ⟨.more, []⟩ = some ⟨.more, []⟩ →
      ∀ c ∈ rest, isSpace c := by
    intro rest
    induction rest with
    | nil => exact fun _ _ member => nomatch member
    | cons c rest ih =>
      intro ran
      rw [foldlM_cons] at ran
      cases space : isSpace c with
      | false => simp [State.step, more, space] at ran
      | true =>
        have ran : rest.foldlM State.step ⟨.more, []⟩ = some ⟨.more, []⟩ := by
          simpa [State.step, more, space] using ran
        exact forall_mem_cons.mpr ⟨space, ih ran⟩
  unfold isObject at object
  split at object
  next text =>
    have first := eq_of_beq object
    have both := eq_of_beq (show (foldlM State.step _ (text ++ rest) == _) = true from longer)
    rw [foldlM_append, first] at both
    exact ends rest both
  next => cases object

end JsonText
