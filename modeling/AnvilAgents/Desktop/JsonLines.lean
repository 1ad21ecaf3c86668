import AnvilAgents.Lib.JsonText
import Mathlib.Data.List.TakeWhile

/-! The writer that passes on the lines of JSON from the output of a local harness. -/

namespace AnvilAgents.Desktop

open List

def newline : UInt8 := 10

def maxDelegateCapture : Nat := 256 <<< 10

/-- What the libraries decide: which bytes are a JSON value, and which are only white space. -/
structure Bytes where
  valid : List UInt8 → Bool
  blank : List UInt8 → Bool
  valid_nil : valid [] = false
  blank_nil : blank [] = true

/-- White space of UTF-8, which trimming removes. -/
def isBlank : List UInt8 → Bool
  | [] => true
  | 0xc2 :: b :: rest => (b = 0x85 || b = 0xa0) && isBlank rest
  | 0xe1 :: 0x9a :: 0x80 :: rest => isBlank rest
  | 0xe2 :: 0x80 :: b :: rest =>
    (0x80 ≤ b && b ≤ 0x8a || b = 0xa8 || b = 0xa9 || b = 0xaf) && isBlank rest
  | 0xe2 :: 0x81 :: 0x9f :: rest => isBlank rest
  | 0xe3 :: 0x80 :: 0x80 :: rest => isBlank rest
  | b :: rest => (b = 0x20 || 0x09 ≤ b && b ≤ 0x0d) && isBlank rest

/-- Bytes that a scanner of JSON reads one by one, and Unicode white space. -/
def utf8 : Bytes where
  valid line := JsonText.isValue (line.map fun byte => Char.ofNat byte.toNat)
  blank := isBlank
  valid_nil := rfl
  blank_nil := rfl

/-- A writer, and what it has emitted so far. -/
structure JsonLineWriter where
  pending : List UInt8 := []
  dropping : Bool := false
  dropped : Bool := false
  emitted : List (List UInt8) := []

/-- A piece of a line is kept, unless the line gets too long. -/
def JsonLineWriter.append (w : JsonLineWriter) (segment : List UInt8) : JsonLineWriter :=
  if w.dropping then w
  else if w.pending.length + segment.length > maxDelegateCapture then
    { w with pending := [], dropping := true, dropped := true }
  else { w with pending := w.pending ++ segment }

variable (bytes : Bytes)

/-- What happens at the end of a line. -/
def endLine (w : JsonLineWriter) : JsonLineWriter :=
  { w with
    pending := []
    dropping := false
    emitted := if !w.dropping && bytes.valid w.pending then w.emitted ++ [w.pending] else w.emitted }

/-- The loop of a write, which takes one line after the other. -/
def write (w : JsonLineWriter) (p : List UInt8) : JsonLineWriter :=
  if p = [] then w
  else
    match _h : p.dropWhile (· ≠ newline) with
    | [] => w.append p
    | _ :: rest => write (endLine bytes (w.append (p.takeWhile (· ≠ newline)))) rest
termination_by p.length
decreasing_by
  have shorter := (dropWhile_sublist (· ≠ newline) (l := p)).length_le
  rw [_h, length_cons] at shorter
  omega

def flush (w : JsonLineWriter) : JsonLineWriter :=
  if !w.dropping && bytes.valid w.pending then
    { w with pending := [], dropping := false, emitted := w.emitted ++ [w.pending] }
  else
    { w with pending := [], dropping := false, dropped := w.dropped || !bytes.blank w.pending }

end AnvilAgents.Desktop
