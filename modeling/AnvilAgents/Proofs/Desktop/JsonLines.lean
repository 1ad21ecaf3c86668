import AnvilAgents.Desktop.JsonLines

/-! What the writer makes of a stream, however the stream is cut. -/

namespace AnvilAgents.Desktop

open List

variable {bytes : Bytes}

/-- The lines of a stream that have ended, and the bytes behind them. -/
abbrev Lines := List (List UInt8) × List UInt8

def Lines.next : Lines → UInt8 → Lines
  | (ended, last), byte =>
    if byte = newline then (ended ++ [last], []) else (ended, last ++ [byte])

def linesOf (stream : List UInt8) : Lines :=
  stream.foldl Lines.next ([], [])

/-- All lines, with a last one that has not ended. -/
def Lines.all (lines : Lines) : List (List UInt8) :=
  if lines.2 = [] then lines.1 else lines.1 ++ [lines.2]

/-- A line that is emitted. -/
abbrev passes (bytes : Bytes) (line : List UInt8) : Bool :=
  bytes.valid line && line.length ≤ maxDelegateCapture

/-- What a writer has made of lines, however they came. -/
def captured (bytes : Bytes) (lines : Lines) : JsonLineWriter where
  pending := if lines.2.length ≤ maxDelegateCapture then lines.2 else []
  dropping := !decide (lines.2.length ≤ maxDelegateCapture)
  dropped := !(lines.1 ++ [lines.2]).all (·.length ≤ maxDelegateCapture)
  emitted := lines.1.filter (passes bytes)

theorem captured_bounded (lines : Lines) :
    (captured bytes lines).pending.length ≤ maxDelegateCapture := by
  dsimp only [captured]
  split
  next fits => exact fits
  next => exact Nat.zero_le _

variable {ended : List (List UInt8)} {last : List UInt8}

theorem append_captured (segment : List UInt8) :
    (captured bytes (ended, last)).append segment = captured bytes (ended, last ++ segment) := by
  by_cases fits : last.length ≤ maxDelegateCapture
  · by_cases together : last.length + segment.length ≤ maxDelegateCapture
    · simp [captured, JsonLineWriter.append, fits, together]
    · simp [captured, JsonLineWriter.append, fits, together, Nat.lt_of_not_le together]
  · -- A line that is too long stays so.
    have longer : ¬ last.length + segment.length ≤ maxDelegateCapture := by omega
    simp [captured, JsonLineWriter.append, fits, longer]

theorem endLine_captured :
    endLine bytes (captured bytes (ended, last)) = captured bytes (ended ++ [last], []) := by
  by_cases fits : last.length ≤ maxDelegateCapture
  · cases valid : bytes.valid last <;> simp [captured, endLine, passes, fits, valid]
  · simp [captured, endLine, passes, fits]

/-- Bytes within a line make it longer. -/
theorem foldl_segment {segment : List UInt8} (within : ∀ byte ∈ segment, byte ≠ newline) :
    segment.foldl Lines.next (ended, last) = (ended, last ++ segment) := by
  induction segment generalizing last with
  | nil => simp
  | cons byte segment ih =>
    obtain ⟨here, within⟩ := forall_mem_cons.mp within
    rw [foldl_cons, Lines.next, if_neg here, ih within, append_assoc]
    rfl

theorem write_captured (lines : Lines) (p : List UInt8) :
    write bytes (captured bytes lines) p = captured bytes (p.foldl Lines.next lines) := by
  -- Induction on how many bytes are left, with the lines so far arbitrary.
  induction counted : p.length using Nat.strongRecOn generalizing lines p with
  | _ size ih =>
    obtain ⟨ended, last⟩ := lines
    have parts : p.takeWhile (· ≠ newline) ++ p.dropWhile (· ≠ newline) = p :=
      takeWhile_append_dropWhile
    have within : ∀ byte ∈ p.takeWhile (· ≠ newline), byte ≠ newline := by
      intro byte member
      simpa using mem_takeWhile_imp member
    rw [write]
    split_ifs with empty
    · rw [empty, foldl_nil]
    split
    next none =>
      rw [none, append_nil] at parts
      rw [append_captured, foldl_segment (parts ▸ within)]
    next byte rest more =>
      have ends : byte = newline := by
        have stopped := head?_dropWhile_not (· ≠ newline) p
        rw [more] at stopped
        simpa using stopped
      rw [more] at parts
      have shorter : rest.length < size := by
        rw [← counted, ← parts, length_append, length_cons]
        omega
      rw [append_captured, endLine_captured, ih rest.length shorter _ rest rfl]
      generalize p.takeWhile (· ≠ newline) = segment at parts within
      rw [← parts, foldl_append, foldl_segment within, foldl_cons, Lines.next, if_pos ends]

theorem writes_captured (chunks : List (List UInt8)) :
    chunks.foldl (write bytes) {} = captured bytes (linesOf chunks.flatten) := by
  rw [linesOf, foldl_flatten]
  have start : ({} : JsonLineWriter) = captured bytes ([], []) := rfl
  rw [start]
  exact foldl_hom (captured bytes) write_captured

theorem flush_captured : flush bytes (captured bytes (ended, last)) =
    { dropped := !(ended ++ [last]).all (·.length ≤ maxDelegateCapture) ||
        !bytes.valid last && !bytes.blank last
      emitted := (ended ++ [last]).filter (passes bytes) } := by
  by_cases fits : last.length ≤ maxDelegateCapture
  · cases valid : bytes.valid last <;> simp [flush, captured, passes, fits, valid]
  · simp [flush, captured, passes, fits, bytes.blank_nil]

/--
The captured lines do not depend on how a stream is cut.

However a stream comes in pieces, the writer emits the lines that are valid JSON and short enough, in
order. It never holds more than the bound, also while it is in the middle of a piece. It ends having
dropped something exactly if a line was too long, or if the last one had not ended and was neither
blank nor valid.
-/
theorem capture_chunk_invariant (bytes : Bytes) (chunks : List (List UInt8)) :
    let w := chunks.foldl (write bytes) {}
    let lines := linesOf chunks.flatten
    (flush bytes w).emitted = lines.all.filter (passes bytes) ∧
      w.pending.length ≤ maxDelegateCapture ∧
      (∀ segment, (w.append segment).pending.length ≤ maxDelegateCapture) ∧
      ((flush bytes w).dropped = true ↔
        (∃ line ∈ lines.all, line.length > maxDelegateCapture) ∨
          (bytes.valid lines.2 = false ∧ bytes.blank lines.2 = false)) := by
  intro w lines
  have reached : w = captured bytes lines := writes_captured chunks
  rw [reached]
  obtain ⟨ended, last⟩ := lines
  refine ⟨?_, captured_bounded _, fun segment => append_captured segment ▸ captured_bounded _, ?_⟩
  · by_cases empty : last = []
    · simp [flush_captured, Lines.all, empty, passes, bytes.valid_nil]
    · simp [flush_captured, Lines.all, empty]
  · by_cases empty : last = []
    · simp [flush_captured, Lines.all, empty, bytes.blank_nil]
    · simp [flush_captured, Lines.all, empty, or_and_right, exists_or]

/-- The bytes of an ASCII text. -/
def ascii (text : String) : List UInt8 :=
  text.toList.map fun c => UInt8.ofNat c.toNat

/-- Three lines in four pieces, each line cut, the second no JSON and the last without an end. -/
def cutChunks : List (List UInt8) :=
  [ascii "\x7b\"a\"", ascii ":1\x7d\nno JS", ascii "ON\n[2", ascii "] "]

theorem capture_chunks_cut :
    let w := cutChunks.foldl (write utf8) {}
    (flush utf8 w).emitted = [ascii "\x7b\"a\":1\x7d", ascii "[2] "] ∧ (flush utf8 w).dropped = false := by
  obtain ⟨emitted, -, -, dropped⟩ := capture_chunk_invariant utf8 cutChunks
  refine ⟨emitted.trans (by decide), Bool.eq_false_iff.mpr fun set => ?_⟩
  exact absurd (dropped.mp set) (by decide)

end AnvilAgents.Desktop
