/-
# Encodings of Japanese

| encoding | of one octet | of two | of three |
| --- | --- | --- | --- |
| `shiftJis?` | narrow letters | JIS X 0208 | |
| `windows932?` | narrow letters, private characters | the same, and more | |
| `shiftJisx0213?` | narrow letters | JIS X 0213 | |
| `eucJp?` | | JIS X 0208, narrow letters | JIS X 0212 |
| `eucJisx0213?` | | JIS X 0213, narrow letters | its second part, JIS X 0212 |

JIS X 0213 is known in two editions: the second one has more characters, and one other one.
-/

import PlotScript.Text.CodedSet.Japanese

namespace PlotScript
namespace Text
namespace EastAsian

open CodedSet

/-- The narrow letter of an octet. -/
def narrow? (b : UInt8) : Option Char :=
  if 0xA1 ≤ b && b ≤ 0xDF then some (Char.ofNat (0xFEC0 + b.toNat)) else none

/-- The characters of seven bits in the Japanese variant. -/
def roman (b : UInt8) : Char :=
  if b = 0x5C then '¥' else if b = 0x7E then '‾' else Char.ofNat b.toNat

/-- An edition of JIS X 0213. -/
inductive Edition where
  | first
  | second
  deriving DecidableEq, Repr

/-- Numbers that only the second edition uses. -/
def secondEditionOnly : List Nat :=
  [0x2E21, 0x2F7E, 0x4F54, 0x4F7E, 0x7427, 0x7E7A, 0x7E7B, 0x7E7C, 0x7E7D, 0x7E7E]

/-- The characters of a number in the first part of JIS X 0213. -/
def jisx0213? (e : Edition) (n : Nat) : Option (List Char) :=
  if e = .first && secondEditionOnly.contains n then none
  else match jisx0213Pairs.lookup n with
    | some cs => some cs
    | none => ((jisx0208.char? n).or (jisx0213.char? n)).map ([·])

/-- The character of a number in the second part of JIS X 0213. -/
def jisx0213Second? (e : Edition) (n : Nat) : Option Char :=
  if e = .first && n = 0x7D3B then some '鬝' else jisx0213Second.char? n

/-- The pairs of octets that stand for rows of 94 cells after each other. -/
def shiftGrid : Grid := ⟨[(0x81, 0x9F), (0xE0, 0xFC)], [(0x40, 0x7E), (0x80, 0xFC)]⟩

/-- The number of a place, if the rows have these octets. -/
def numberAt? (rows : List Nat) (place : Nat) : Option Nat :=
  rows[place / 94]?.map fun row => row * 0x100 + 0x21 + place % 94

/-- The rows of a set. -/
def allRows : List Nat := List.range' 0x21 94

/-- The character of a pair in Shift_JIS. -/
def shiftJis? (a b : UInt8) : Option Char := do
  jisx0208.char? (← numberAt? allRows (← shiftGrid.place? a b))

/-- The octets that stand for characters of their own in Windows. -/
def windowsAlone? (b : UInt8) : Option Char :=
  if b = 0x80 then some '\u0080'
  else if b = 0xA0 then some '\uF8F0'
  else if 0xFD ≤ b then some (Char.ofNat (0xF8F1 + (b.toNat - 0xFD)))
  else narrow? b

/-- The pairs that stand for private characters in Windows. -/
def windowsPrivate : Grid := ⟨[(0xF0, 0xF9)], shiftGrid.cells⟩

/-- The character of a pair in Windows. -/
def windows932? (a b : UInt8) : Option Char :=
  ((windows932.char? (number a b)).or (if a ≤ 0xEA then shiftJis? a b else none)).or
    ((windowsPrivate.place? a b).map fun n => Char.ofNat (0xE000 + n))

/-- The rows of the second part of JIS X 0213. -/
def secondRows : List Nat :=
  [0x21, 0x28, 0x23, 0x24, 0x25, 0x2C, 0x2D, 0x2E, 0x2F] ++ List.range' 0x6E 17

/-- The numbers of the characters whose octets stand for others in the Japanese variant. -/
def displaced : List (Nat × Char) := [(0x2140, '\\'), (0x2232, '~')]

/-- The characters of a pair in Shift_JIS with JIS X 0213. -/
def shiftJisx0213? (e : Edition) (a b : UInt8) : Option (List Char) := do
  let place ← shiftGrid.place? a b
  match numberAt? allRows place with
  | some n => ((displaced.lookup n).map ([·])).or (jisx0213? e n)
  | none => (jisx0213Second? e (← numberAt? secondRows (place - 94 * 94))).map ([·])

/-- The octets that set the narrow letters and the supplement apart. -/
def narrowMark : UInt8 := 0x8E
def supplementMark : UInt8 := 0x8F

/-- The character of a pair in EUC-JP. -/
def eucJp? (a b : UInt8) : Option Char :=
  if a = narrowMark then narrow? b else jisx0208.char? (numberOfHigh a b)

/-- The character of three octets in EUC-JP. -/
def eucJpSupplement? (a b c : UInt8) : Option Char :=
  if a = supplementMark then jisx0212.char? (numberOfHigh b c) else none

/-- The characters of a pair in EUC-JP with JIS X 0213. -/
def eucJisx0213? (e : Edition) (a b : UInt8) : Option (List Char) :=
  if a = narrowMark then (narrow? b).map ([·]) else jisx0213? e (numberOfHigh a b)

/-- The character of three octets in EUC-JP with JIS X 0213. -/
def eucJisx0213Supplement? (e : Edition) (a b c : UInt8) : Option Char :=
  if a = supplementMark then
    let n := numberOfHigh b c
    (jisx0213Second? e n).or (jisx0212.char? n)
  else none

end EastAsian
end Text
end PlotScript
