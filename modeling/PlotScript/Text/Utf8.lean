/-
# Reading UTF-8

`decode` reads octets as UTF-8 and says how the reading ended: at the end of a character, in the
middle of one, or at an octet that no well-formed text has there; `signs` and `lossy` read on after
a fault.  A longer file is decoded in blocks of `blockSize` octets, and a block with a bad octet is
lost as a whole; `linesBeforeFault` is what can be read from a file before the fault is met.
-/

import PlotScript.Text.Lines
import PlotScript.Text.Signs

namespace PlotScript
namespace Text
namespace Utf8

/-- How reading ended. -/
inductive Ending where
  /-- At the end of a character. -/
  | complete
  /-- After the first octets of a character. -/
  | truncated
  /-- At the octet with this number, which cannot stand there. -/
  | fault (offset : Nat)
  deriving DecidableEq, Repr

/-- The rest of a character: how many octets are owed, the range of the next one, and the bits
collected so far. -/
structure Partial where
  owed : Nat
  low : UInt8
  high : UInt8
  bits : Nat
  deriving DecidableEq, Repr

/-- What the first octet of a character of several octets promises. -/
def lead (b : UInt8) : Option Partial :=
  if 0xC2 ≤ b && b ≤ 0xDF then some ⟨1, 0x80, 0xBF, b.toNat - 0xC0⟩
  else if b = 0xE0 then some ⟨2, 0xA0, 0xBF, 0⟩
  else if b = 0xED then some ⟨2, 0x80, 0x9F, 0x0D⟩
  else if 0xE1 ≤ b && b ≤ 0xEF then some ⟨2, 0x80, 0xBF, b.toNat - 0xE0⟩
  else if b = 0xF0 then some ⟨3, 0x90, 0xBF, 0⟩
  else if 0xF1 ≤ b && b ≤ 0xF3 then some ⟨3, 0x80, 0xBF, b.toNat - 0xF0⟩
  else if b = 0xF4 then some ⟨3, 0x80, 0x8F, 4⟩
  else none

/-- Reads octets from the one numbered `n` on, with the rest of a character to come first. -/
def read (n : Nat) : Option Partial → List UInt8 → List Char × Ending
  | none, [] => ([], .complete)
  | some _, [] => ([], .truncated)
  | none, b :: r =>
    if b < 0x80 then
      let (cs, e) := read (n + 1) none r
      (Char.ofNat b.toNat :: cs, e)
    else match lead b with
      | none => ([], .fault n)
      | some p => read (n + 1) (some p) r
  | some p, b :: r =>
    if p.low ≤ b && b ≤ p.high then
      let bits := p.bits * 64 + (b.toNat - 0x80)
      if p.owed ≤ 1 then
        let (cs, e) := read (n + 1) none r
        (Char.ofNat bits :: cs, e)
      else read (n + 1) (some ⟨p.owed - 1, 0x80, 0xBF, bits⟩) r
    else ([], .fault n)

/-- The characters of a list of octets up to the first fault, and how the reading ended. -/
def decode (bytes : List UInt8) : List Char × Ending := read 0 none bytes

/-- The text that a list of octets stands for. -/
def decode? (bytes : List UInt8) : Option (List Char) :=
  match decode bytes with
  | (cs, .complete) => some cs
  | _ => none

/-- The first character of a text, and how many octets it takes. -/
def first? (bytes : List UInt8) : Option (Char × Nat) :=
  [1, 2, 3, 4].findSome? fun n =>
    match decode (bytes.take n) with
    | ([c], .complete) => some (c, n)
    | _ => none

/-- The signs of a list of octets.  Each octet of a character that is not well formed stands for
nothing. -/
def signs (bytes : List UInt8) : List (Option Char) :=
  plainSigns (fun l => (first? l).map fun (c, n) => ([c], n)) bytes

/-- The text that a list of octets stands for, with the rest of a character to come first.  Octets
that begin a character and do not end it stand for one `U+FFFD` together, any other faulty octet
for one of its own. -/
def lossyAfter : Option Partial → List UInt8 → List Char
  | none, [] => []
  | some _, [] => ['\uFFFD']
  | none, b :: r =>
    if b < 0x80 then Char.ofNat b.toNat :: lossyAfter none r
    else match lead b with
      | none => '\uFFFD' :: lossyAfter none r
      | some p => lossyAfter (some p) r
  | some p, b :: r =>
    if p.low ≤ b && b ≤ p.high then
      let bits := p.bits * 64 + (b.toNat - 0x80)
      if p.owed ≤ 1 then Char.ofNat bits :: lossyAfter none r
      else lossyAfter (some ⟨p.owed - 1, 0x80, 0xBF, bits⟩) r
    else '\uFFFD' :: lossyAfter none (b :: r)
termination_by p bytes => 2 * bytes.length + if p.isSome then 1 else 0

/-- The text that a list of octets stands for, with `U+FFFD` for what is faulty. -/
def lossy (bytes : List UInt8) : List Char := lossyAfter none bytes

/-- How many octets of a file are decoded at a time. -/
def blockSize : Nat := 8192

/-- The lines of a file that can be read before its first fault, and whether there is a fault.
The lines must be whole in the blocks before the faulty one; a file that stops inside a character
is faulty only there. -/
def linesBeforeFault (bytes : List UInt8) : List String × Bool :=
  match decode bytes with
  | (cs, .complete) => (fileLines cs, false)
  | (cs, .truncated) => (fileLines (wholeLines cs), true)
  | (_, .fault n) =>
    let sound := bytes.take (n / blockSize * blockSize)
    (fileLines (wholeLines (decode sound).1), true)

/-- The octets of a text. -/
def encode (s : String) : List UInt8 := s.toUTF8.toList

/-- How many octets a text takes. -/
def size (s : String) : Nat := s.utf8ByteSize

example : decode [0x61, 0xC3, 0xA9] = (['a', 'é'], .complete) := by decide +kernel
example : decode [0x61, 0xC3] = (['a'], .truncated) := by decide +kernel
example : decode [0x61, 0xED, 0xA0, 0x80] = (['a'], .fault 2) := by decide +kernel
example : signs [0xC3, 0xA9, 0xE2, 0x82, 0x61] = [some 'é', none, none, some 'a'] := by
  decide +kernel

end Utf8
end Text
end PlotScript
