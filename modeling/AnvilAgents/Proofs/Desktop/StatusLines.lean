import AnvilAgents.Desktop.StatusLines

/-! When the Desktop finds the reports of a log. -/

namespace AnvilAgents.Desktop

open List
open JsonText (isObject)

/-- The object of a report, from its first brace to its last, behind the prefix of its line. -/
structure Reported (object line : List Char) : Prop where
  valid : isObject object
  ends : object.getLast? = some '}'
  placed : ∃ front back, afterPrefix line = some (front ++ (object ++ back)) ∧
    ∀ c ∈ front ++ back, Text.isSpace c

/-- A line of a log, without the prefix or with an object behind the first one. -/
structure LogLine where
  text : List Char
  object : Option (List Char)
  reported : match object with
    | some object => Reported object text
    | none => afterPrefix text = none

variable {text rest object : List Char}

theorem getLast?_of_closes {depth : Int} (closes : Closes depth object) :
    object.getLast? = some '}' := by
  induction object generalizing depth with
  | nil => cases closes
  | cons c object ih =>
    rw [Closes] at closes
    split at closes
    next ends =>
      obtain rfl : object = [] := of_decide_eq_true closes
      exact congrArg some ends.1
    next =>
      rw [getLast?_cons, ih closes]
      rfl

/-- An object cannot be continued to another one that ends with a brace. -/
theorem eq_nil_of_isObject_append (valid : isObject object) (longer : isObject (object ++ rest))
    (ends : (object ++ rest).getLast? = some '}') : rest = [] := by
  by_contra given
  rw [getLast?_append_of_ne_nil _ given] at ends
  have space := JsonText.space_of_isObject_append valid longer '}' (mem_of_getLast? ends)
  cases space

variable {Body : Type} {decode : List Char → Body} {front : List Char}

/-- The object is found just when its braces close at its end. -/
theorem extractJSONObject_eq (valid : isObject object) (ends : object.getLast? = some '}')
    (spaces : ∀ c ∈ front, Text.isSpace c) (rest : List Char) :
    extractJSONObject decode (front ++ (object ++ rest)) =
      if Closes 0 object then some (decode object, rest) else none := by
  have start : (front ++ (object ++ rest)).dropWhile (· ≠ '{') = object ++ rest := by
    rw [dropWhile_append_of_pos]
    · unfold isObject at valid
      split at valid
      next => rfl
      next => cases valid
    · intro c member
      have space := spaces c member
      rw [decide_eq_true_eq]
      rintro rfl
      cases space
  rw [extractJSONObject, start]
  cases closed : closeBraces 0 (object ++ rest) with
  | none =>
    rw [if_neg]
    intro closes
    cases closed.symm.trans (closeBraces_iff.mpr ⟨rfl, closes⟩)
  | some found =>
    obtain ⟨other, left⟩ := found
    obtain ⟨whole, closes⟩ := closeBraces_iff.mp closed
    by_cases valid' : isObject other
    · -- No other object begins where this one does.
      have same : object = other := by
        rcases append_eq_append_iff.mp whole with ⟨more, rfl, -⟩ | ⟨more, rfl, -⟩
        · rw [eq_nil_of_isObject_append valid valid' (getLast?_of_closes closes), append_nil]
        · rw [eq_nil_of_isObject_append valid' valid ends, append_nil]
      subst same
      obtain rfl := append_cancel_left whole
      dsimp only
      rw [if_pos valid, if_pos closes]
    · dsimp only
      rw [if_neg valid', if_neg]
      intro closes
      cases closed.symm.trans (closeBraces_iff.mpr ⟨rfl, closes⟩)
      exact valid' valid

/-- What is behind the end of a line does not complete a prefix. -/
theorem statusJSONPrefix_append_iff (line : List Char) (ends : ∀ c ∈ rest.head?, c = '\n') :
    statusJSONPrefix <+: line ++ rest ↔ statusJSONPrefix <+: line := by
  refine ⟨fun begins => ?_, fun begins => begins.trans (prefix_append _ _)⟩
  rcases Nat.lt_or_ge line.length statusJSONPrefix.length with long | short
  · cases rest with
    | nil => simpa using begins
    | cons c rest =>
      -- The prefix would reach over the end of the line.
      obtain rfl := ends c rfl
      have most : line ++ ['\n'] <+: line ++ '\n' :: rest := ⟨rest, by simp⟩
      have inside := (prefix_of_prefix_length_le most begins (by simpa using Nat.succ_le_of_lt long)).subset
        (mem_append_right line (.head _))
      exact absurd inside (by decide)
  · exact prefix_of_prefix_length_le begins (prefix_append _ _) short

/-- The first prefix of a text is that of its first line, or that of the rest. -/
theorem afterPrefix_append (line : List Char) (ends : ∀ c ∈ rest.head?, c = '\n') :
    afterPrefix (line ++ rest) = ((afterPrefix line).map (· ++ rest)).or (afterPrefix rest) := by
  induction line with
  | nil => rfl
  | cons c line ih =>
    rw [cons_append, afterPrefix, afterPrefix, ← cons_append]
    by_cases begins : statusJSONPrefix <+: c :: line
    · rw [if_pos ((statusJSONPrefix_append_iff _ ends).mpr begins), if_pos begins,
        drop_append_of_le_length begins.length_le]
      rfl
    · rw [if_neg (mt (statusJSONPrefix_append_iff _ ends).mp begins), if_neg begins, ih]

/-- No prefix begins with space. -/
theorem afterPrefix_spaces (spaces : ∀ c ∈ front, Text.isSpace c) (text : List Char) :
    afterPrefix (front ++ text) = afterPrefix text := by
  induction front with
  | nil => rfl
  | cons c front ih =>
    obtain ⟨space, spaces⟩ := forall_mem_cons.mp spaces
    rw [cons_append, afterPrefix, if_neg, ih spaces]
    have letter : statusJSONPrefix = 'A' :: statusJSONPrefix.tail := by decide
    rw [letter, cons_prefix_cons]
    rintro ⟨rfl, -⟩
    cases space

theorem extractStatusBodies_eq (text : List Char) :
    extractStatusBodies decode text =
      match afterPrefix text with
      | none => []
      | some rest =>
        match extractJSONObject decode rest with
        | none => extractStatusBodies decode rest
        | some (body, rest) => body :: extractStatusBodies decode rest := by
  rw [extractStatusBodies]
  split
  next none => rw [none]
  next rest some =>
    rw [some]
    dsimp only
    split
    next none => rw [none]
    next body left found => rw [found]

theorem extractStatusBodies_spaces (spaces : ∀ c ∈ front, Text.isSpace c) (text : List Char) :
    extractStatusBodies decode (front ++ text) = extractStatusBodies decode text := by
  rw [extractStatusBodies_eq, afterPrefix_spaces spaces, ← extractStatusBodies_eq]

/-- A line whose braces close is read, and then the rest of the text. -/
theorem extractStatusBodies_line (line : LogLine) (ends : ∀ c ∈ rest.head?, c = '\n')
    (closes : ∀ object ∈ line.object, Closes 0 object) :
    extractStatusBodies decode (line.text ++ rest) =
      (line.object.map decode).toList ++ extractStatusBodies decode rest := by
  obtain ⟨text, object, reported⟩ := line
  rw [extractStatusBodies_eq, afterPrefix_append text ends]
  dsimp only at closes ⊢
  cases object with
  | none =>
    rw [show afterPrefix text = none from reported, extractStatusBodies_eq rest]
    rfl
  | some object =>
    obtain ⟨valid, last, front, back, placed, spaces⟩ := reported
    obtain ⟨before, behind⟩ := forall_mem_append.mp spaces
    rw [placed, Option.map_some, Option.some_or, append_assoc, append_assoc]
    dsimp only
    rw [extractJSONObject_eq valid last before, if_pos (closes object rfl)]
    dsimp only
    rw [extractStatusBodies_spaces behind]
    rfl

theorem statusJSONFromLogLine_iff {line : List Char} (reported : Reported object line) :
    statusJSONFromLogLine decode line = some (decode object) ↔ Closes 0 object := by
  obtain ⟨valid, last, front, back, placed, spaces⟩ := reported
  rw [statusJSONFromLogLine, placed, Option.bind_some,
    extractJSONObject_eq valid last (forall_mem_append.mp spaces).1]
  split
  next closes => exact iff_of_true rfl closes
  next open_ => exact iff_of_false nofun open_

/-- The text of a log. -/
def logText (lines : List LogLine) : List Char :=
  ['\n'].intercalate (lines.map (·.text))

theorem extractStatusBodies_log (lines : List LogLine)
    (closes : ∀ line ∈ lines, ∀ object ∈ line.object, Closes 0 object) :
    extractStatusBodies decode (logText lines) = (lines.filterMap (·.object)).map decode := by
  induction lines with
  | nil => rw [extractStatusBodies_eq]; rfl
  | cons line lines ih =>
    obtain ⟨here, closes⟩ := forall_mem_cons.mp closes
    have bodies : ((line :: lines).filterMap (·.object)).map decode =
        (line.object.map decode).toList ++ (lines.filterMap (·.object)).map decode := by
      cases found : line.object <;> simp [found]
    rw [bodies, ← ih closes]
    cases lines with
    | nil =>
      have text : logText [line] = line.text ++ [] := by simp [logText]
      rw [text, extractStatusBodies_line line (by simp) here]
      rfl
    | cons next lines =>
      have text : logText (line :: next :: lines) =
          line.text ++ (['\n'] ++ logText (next :: lines)) := by
        simp [logText, intercalate]
      rw [text, extractStatusBodies_line line (by simp) here,
        extractStatusBodies_spaces (all_eq_true.mp (by decide))]

/--
The Desktop reads the reports of a log just when the braces of each close at its end.

For every text of lines without the prefix and lines with a JSON object behind the first one, all the
objects are returned, from their lines and from the text in order, if and only if, counting also the
braces within its strings, each object has as many closing as opening braces at its end and nowhere
before.
-/
theorem status_lines_read_iff (decode : List Char → Body) (lines : List LogLine) :
    ((∀ line ∈ lines, ∀ object ∈ line.object,
        statusJSONFromLogLine decode line.text = some (decode object)) ∧
      extractStatusBodies decode (logText lines) = (lines.filterMap (·.object)).map decode) ↔
    ∀ line ∈ lines, ∀ object ∈ line.object, Closes 0 object := by
  have alone (line : LogLine) (object : List Char) (given : object ∈ line.object) :
      statusJSONFromLogLine decode line.text = some (decode object) ↔ Closes 0 object := by
    obtain ⟨text, _, reported⟩ := line
    cases given
    exact statusJSONFromLogLine_iff reported
  constructor
  · rintro ⟨read, -⟩ line member object given
    exact (alone line object given).mp (read line member object given)
  · intro closes
    refine ⟨fun line member object given => ?_, extractStatusBodies_log lines closes⟩
    exact (alone line object given).mpr (closes line member object given)

/-- A report with a brace in a string. -/
def braceObject : List Char :=
  "\x7b\"a\":\"\x7d\"\x7d".toList

def braceLine : LogLine where
  text := statusJSONPrefix ++ braceObject
  object := some braceObject
  reported := ⟨by decide, by decide, [], [], by decide, nofun⟩

theorem brace_in_string_unread :
    ¬ ∀ object ∈ braceLine.object, statusJSONFromLogLine id braceLine.text = some object := by
  intro read
  exact absurd (read braceObject rfl) (by decide)

end AnvilAgents.Desktop
