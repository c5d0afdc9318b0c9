/-
# Encodings of Korean

| encoding | of two octets | of eight |
| --- | --- | --- |
| `eucKr?`, `madeSyllable?` | KS X 1001 | syllables made of their letters |
| `unified?` | KS X 1001 and all other syllables | |
| `johab?` | letters and their syllables, and the rest of KS X 1001 | |
-/

import PlotScript.Text.CodedSet.Korean
import PlotScript.Text.Hangul

namespace PlotScript
namespace Text
namespace EastAsian

open CodedSet

/-- The pair that stands at the front of a syllable made of its letters. -/
def isFillerPair (a b : UInt8) : Bool := a = 0xA4 && b = 0xD4

/-- The character of a pair in EUC-KR. -/
def eucKr? (a b : UInt8) : Option Char :=
  if isFillerPair a b then none else ksx1001.char? (numberOfHigh a b)

/-- The letter of a pair. -/
def letter? (a b : UInt8) : Option Char :=
  if a = 0xA4 then ksx1001.char? (numberOfHigh a b) else none

/-- The syllable that is made of its letters. -/
def madeSyllable? : List UInt8 → Option Char
  | [a, b, l, l', v, v', t, t'] => do
    if isFillerPair a b then
      Hangul.syllable? (← letter? l l') (← letter? v v') (← letter? t t')
    else none
  | _ => none

/-- The syllables that KS X 1001 lacks, and the pairs that stand for them. -/
def moreSyllables : Array Char := others Hangul.first Hangul.last ksx1001
def moreSyllableGrids : List Grid :=
  [⟨[(0x81, 0xA0)], [(0x41, 0x5A), (0x61, 0x7A), (0x81, 0xFE)]⟩,
    ⟨[(0xA1, 0xC6)], [(0x41, 0x5A), (0x61, 0x7A), (0x81, 0xA0)]⟩]

/-- The character of a pair in the unified code. -/
def unified? (a b : UInt8) : Option Char :=
  (ksx1001.char? (numberOfHigh a b)).or
    ((Grid.placeIn? moreSyllableGrids a b).bind fun n => moreSyllables[n]?)

/-- What five bits of a pair stand for: a letter, no letter, or nothing at all. -/
def johabLeading : List Char := "\uFFFD\u3164".toList ++ Hangul.leading
def johabVowels : List Char :=
  "\uFFFD\uFFFD\u3164ㅏㅐㅑㅒㅓ\uFFFD\uFFFDㅔㅕㅖㅗㅘㅙ\uFFFD\uFFFDㅚㅛㅜㅝㅞㅟ\uFFFD\uFFFDㅠㅡㅢㅣ".toList
def johabTrailing : List Char :=
  "\uFFFD\u3164".toList ++ Hangul.trailing.take 16 ++ ['\uFFFD'] ++ Hangul.trailing.drop 16

/-- The letter at a place of a list that has a gap for each place without one. -/
def slot? (l : List Char) (n : Nat) : Option Char := l[n]?.filter (· ≠ '\uFFFD')

/-- What letters stand for together: a syllable, or the only one that is there. -/
def joined? (l v t : Char) : Option Char :=
  match [l, v, t].filter (· ≠ Hangul.filler) with
  | [] => some '\u3000'
  | [c] => some c
  | _ => Hangul.syllable? l v t

/-- The pairs of signs and of Chinese characters. -/
def johabSigns : Grid := ⟨[(0xD9, 0xDE)], [(0x31, 0x7E), (0x91, 0xFE)]⟩
def johabIdeographs : Grid := ⟨[(0xE0, 0xF9)], johabSigns.cells⟩

/-- The number of a place in rows of 94 cells, of which the first one is given. -/
def rowsFrom (row place : Nat) : Nat := (row + place / 94) * 0x100 + 0x21 + place % 94

/-- The row of letters, which are not taken from it. -/
def letterRow : Nat := 0x24

/-- The character of a pair in the combining code. -/
def johab? (a b : UInt8) : Option Char :=
  let n := number a b
  if a < 0xD8 then do
    joined? (← slot? johabLeading (n / 0x400 % 0x20)) (← slot? johabVowels (n / 0x20 % 0x20))
      (← slot? johabTrailing (n % 0x20))
  else do
    let m ← ((johabSigns.place? a b).map (rowsFrom 0x21)).or
      ((johabIdeographs.place? a b).map (rowsFrom 0x4A))
    if m / 0x100 = letterRow && m % 0x100 < 0x54 then none else ksx1001.char? m

end EastAsian
end Text
end PlotScript
