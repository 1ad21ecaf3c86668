import AnvilAgents.Lib.JsonText
import AnvilAgents.Lib.Text

/-!
How the Desktop reads the status reports of a log.

It finds the end of a report by counting braces, those within strings included.
-/

namespace AnvilAgents.Desktop

open List
open JsonText (isObject)

def statusJSONPrefix : List Char :=
  "ANVIL_AGENT_RUN_STATUS_JSON=".toList

/-- The text behind the first prefix. -/
def afterPrefix : List Char → Option (List Char)
  | [] => none
  | c :: text =>
    if statusJSONPrefix <+: c :: text then some ((c :: text).drop statusJSONPrefix.length)
    else afterPrefix text

/-- The depth behind a character. -/
def deepen (depth : Int) (c : Char) : Int :=
  if c = '{' then depth + 1 else if c = '}' then depth - 1 else depth

/-- The text up to the brace at which the depth is zero again, and the text behind it. -/
def closeBraces : Int → List Char → Option (List Char × List Char)
  | _, [] => none
  | depth, c :: text =>
    if c = '}' ∧ deepen depth c = 0 then some ([c], text)
    else (closeBraces (deepen depth c) text).map fun (object, rest) => (c :: object, rest)

/-- The depth is zero again at the last character, and not before. -/
def Closes : Int → List Char → Bool
  | _, [] => false
  | depth, c :: text => if c = '}' ∧ deepen depth c = 0 then text = [] else Closes (deepen depth c) text

variable {Body : Type} (decode : List Char → Body)

def extractJSONObject (text : List Char) : Option (Body × List Char) :=
  match closeBraces 0 (text.dropWhile (· ≠ '{')) with
  | some (object, rest) => if isObject object then some (decode object, rest) else none
  | none => none

def statusJSONFromLogLine (line : List Char) : Option Body :=
  ((afterPrefix line).bind (extractJSONObject decode)).map (·.1)

theorem afterPrefix_shorter {text rest : List Char} (found : afterPrefix text = some rest) :
    rest.length < text.length := by
  induction text with
  | nil => cases found
  | cons c text ih =>
    unfold afterPrefix at found
    split at found
    · cases found
      have long : 0 < statusJSONPrefix.length := by decide
      simp only [length_drop, length_cons]
      omega
    · exact (ih found).trans (Nat.lt_succ_self _)

/-- Where the braces of a text close. -/
theorem closeBraces_iff {depth : Int} {text object rest : List Char} :
    closeBraces depth text = some (object, rest) ↔ text = object ++ rest ∧ Closes depth object := by
  induction text generalizing depth object with
  | nil => cases object <;> simp [closeBraces, Closes]
  | cons c text ih =>
    rw [closeBraces]
    split
    next ends =>
      constructor
      · rintro ⟨⟩
        rw [Closes, if_pos ends]
        exact ⟨rfl, rfl⟩
      · rintro ⟨same, closes⟩
        cases object with
        | nil => cases closes
        | cons _ object =>
          cases same
          rw [Closes, if_pos ends] at closes
          rw [of_decide_eq_true closes]
          rfl
    next goes =>
      rw [Option.map_eq_some_iff]
      constructor
      · rintro ⟨⟨object, rest⟩, closed, ⟨⟩⟩
        obtain ⟨rfl, closes⟩ := ih.mp closed
        rw [Closes, if_neg goes]
        exact ⟨rfl, closes⟩
      · rintro ⟨same, closes⟩
        cases object with
        | nil => cases closes
        | cons _ object =>
          cases same
          rw [Closes, if_neg goes] at closes
          exact ⟨_, ih.mpr ⟨rfl, closes⟩, rfl⟩

theorem extractJSONObject_shorter {text rest : List Char} {body : Body}
    (found : extractJSONObject decode text = some (body, rest)) : rest.length ≤ text.length := by
  unfold extractJSONObject at found
  split at found
  next object left closed =>
    split at found
    · cases found
      have part := (dropWhile_sublist (· ≠ '{') (l := text)).length_le
      rw [(closeBraces_iff.mp closed).1, length_append] at part
      omega
    · cases found
  next => cases found

def extractStatusBodies (text : List Char) : List Body :=
  match _h : afterPrefix text with
  | none => []
  | some rest =>
    match _h' : extractJSONObject decode rest with
    | none => extractStatusBodies rest
    | some (body, rest) => body :: extractStatusBodies rest
termination_by text.length
decreasing_by
  · exact afterPrefix_shorter _h
  · exact (extractJSONObject_shorter decode _h').trans_lt (afterPrefix_shorter _h)

end AnvilAgents.Desktop
