/-
# Encodings of text

| encoding | characters |
| --- | --- |
| UTF-8 | of one to four octets |
| a code page | of one octet each |
| of Eastern Asia | of one octet or of several |
| that shifts | of one octet or of two, by what comes before |
| UTF-7 | octets of seven bits, and between `+` and `-` digits in base 64 |
| UTF-16 | of one or two units of two octets |
| UTF-32 | of four octets each |
| with escapes | of one octet, or written as escapes |

In UTF-7 a digit in base 64 stands for six bits, and sixteen bits are a unit of UTF-16.  What is
left over at the end of the digits must be fewer than six bits, all of them zero.  Any other
character ends the digits too, and stands for itself unless it is `-`.  Nothing is read after a
fault.
-/

import PlotScript.Text.Shifted
import PlotScript.Text.Unescape
import PlotScript.Text.Utf8

namespace PlotScript
namespace Text

/-- The signs of units of UTF-16, in which two halves must stand together.  Units that could not be
read stand for nothing. -/
def ofUnits : List (Option Nat) → List (Option Char)
  | [] => []
  | u :: r =>
    match u.filter fun u => u < 0xD800 || 0xE000 ≤ u with
    | some u => some (Char.ofNat u) :: ofUnits r
    | none =>
      match u.filter (· < 0xDC00), (r.head?.join).filter fun v => 0xDC00 ≤ v && v < 0xE000 with
      | some u, some v =>
        some (Char.ofNat (0x10000 + (u - 0xD800) * 0x400 + (v - 0xDC00))) :: ofUnits (r.drop 1)
      | _, _ => none :: ofUnits r
termination_by l => l.length
decreasing_by all_goals simp only [List.length_cons, List.length_drop]; omega

/-- The units of a list of octets. -/
def unitsOf (bigEndian : Bool) : List UInt8 → List (Option Nat)
  | [] => []
  | [_] => [none]
  | a :: b :: r =>
    let unit := if bigEndian then a.toNat * 0x100 + b.toNat else b.toNat * 0x100 + a.toNat
    some unit :: unitsOf bigEndian r

/-- The character of four octets, and how many they are. -/
def wideFront? (bigEndian : Bool) (l : List UInt8) : Option (List Char × Nat) :=
  let four := l.take 4
  let n := (if bigEndian then four else four.reverse).foldl (fun n b => n * 0x100 + b.toNat) 0
  if four.length = 4 && n.isValidChar then some ([Char.ofNat n], 4) else none

namespace Utf7

/-- The value of a digit in base 64. -/
def digit? (b : UInt8) : Option Nat :=
  let n := b.toNat
  if 0x41 ≤ n && n ≤ 0x5A then some (n - 0x41)
  else if 0x61 ≤ n && n ≤ 0x7A then some (n - 0x47)
  else if 0x30 ≤ n && n ≤ 0x39 then some (n + 4)
  else if n = 0x2B then some 62
  else if n = 0x2F then some 63
  else none

/-- Bits that are not yet a unit: how many, and their value. -/
structure Pending where
  count : Nat
  bits : Nat
  deriving DecidableEq, Repr

/-- What is left over at the end of the digits is nothing but filling. -/
def Pending.isFilling (p : Pending) : Bool := p.count < 6 && p.bits = 0

/-- Six more bits, and the unit that they complete. -/
def Pending.add (p : Pending) (d : Nat) : Option Nat × Pending :=
  let bits := p.bits * 64 + d
  if p.count + 6 < 16 then (none, ⟨p.count + 6, bits⟩)
  else
    let left := p.count + 6 - 16
    (some (bits >>> left), ⟨left, bits % (1 <<< left)⟩)

/-- The units of UTF-16 that octets stand for; `pending` are bits from before, between `+` and
`-`. -/
def units : Option Pending → List UInt8 → List (Option Nat)
  | none, [] => []
  | some p, [] => if p.isFilling then [] else [none]
  | none, b :: r =>
    if b = 0x2B then
      match r with
      | c :: s =>
        if c = 0x2D then some 0x2B :: units none s
        else if (digit? c).isNone then [none]
        else units (some ⟨0, 0⟩) (c :: s)
      | [] => []
    else if b < 0x80 then some b.toNat :: units none r
    else [none]
  | some p, b :: r =>
    match digit? b with
    | some d =>
      let (unit, q) := p.add d
      (unit.map some).toList ++ units (some q) r
    | none =>
      if !p.isFilling || 0x80 ≤ b then [none]
      else if b = 0x2D then units none r
      else some b.toNat :: units none r

end Utf7

/-- An encoding of text. -/
inductive Charset where
  | utf8
  | page (p : CodePage)
  | eastAsian (e : EastAsian)
  | shifted (e : Shifted)
  | utf7
  | utf16 (bigEndian : Bool)
  | utf32 (bigEndian : Bool)
  | escaped (raw : Bool)
  deriving DecidableEq, Repr

namespace Charset

/-- The octets of seven bits. -/
def ascii : Charset := page .ascii

/-- The text of octets with escapes. -/
def unescaped? (raw : Bool) (bytes : List UInt8) : Option (List Char) :=
  unescape (if raw then rawEscape? else escape?) (bytes.map fun b => Char.ofNat b.toNat)

/-- The signs of a list of octets. -/
def signs : Charset → List UInt8 → List (Option Char)
  | utf8, bytes => Utf8.signs bytes
  | page p, bytes => bytes.map p.char?
  | eastAsian e, bytes => e.signs bytes
  | shifted e, bytes => e.signs bytes
  | utf7, bytes => ofUnits (Utf7.units none bytes)
  | utf16 bigEndian, bytes => ofUnits (unitsOf bigEndian bytes)
  | utf32 bigEndian, bytes => plainSigns (wideFront? bigEndian) bytes
  | escaped raw, bytes => ((unescaped? raw bytes).map fun cs => cs.map some).getD [none]

/-- The text that a list of octets stands for. -/
def decode? (charset : Charset) (bytes : List UInt8) : Option (List Char) :=
  charsOf? (charset.signs bytes)

/-- The text that a list of octets stands for, with `U+FFFD` for octets that stand for nothing,
where they can be told from the others. -/
def lossy? : Charset → List UInt8 → Option (List Char)
  | utf8, bytes => some (Utf8.lossy bytes)
  | page p, bytes => some (bytes.map fun b => (p.char? b).getD '\uFFFD')
  | charset, bytes => charset.decode? bytes

example : decode? utf7 [0x61, 0x2B, 0x41, 0x4F, 0x6B, 0x2D] = some ['a', 'é'] := by decide +kernel
example : decode? utf7 [0x2B, 0x2D, 0x62] = some ['+', 'b'] := by decide +kernel
example : decode? utf7 [0x2B, 0x41] = none := by decide +kernel
example : decode? (utf16 false) [0x61, 0x00, 0x3D, 0xD8, 0x00, 0xDE] = some ['a', '😀'] := by
  decide +kernel
example : signs ascii [0x61, 0xE9] = [some 'a', none] := by decide +kernel

end Charset
end Text
end PlotScript
