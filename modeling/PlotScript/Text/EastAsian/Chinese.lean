/-
# Encodings of Chinese

| encoding | of two octets | of four |
| --- | --- | --- |
| `gb2312?` | GB 2312, where both have eight bits | |
| `gbk?` | GBK | |
| `gb18030?`, `fourOctets?` | GB 18030, with private characters | all others |
| `big5?` | Big Five | |
| `windows950?` | Big Five as Windows has it | |
| `hongKong?` | Big Five as Hong Kong has it | |
-/

import PlotScript.Text.CodedSet.Chinese
import PlotScript.Text.CodedSet.Taiwanese

namespace PlotScript
namespace Text
namespace EastAsian

open CodedSet

/-- The octets of the second half of a pair that may have seven bits. -/
def anyCells : Ranges := [(0x40, 0x7E), (0x80, 0xFE)]

/-- The character of a pair in GB 2312. -/
def gb2312? (a b : UInt8) : Option Char := gb2312.char? (numberOfHigh a b)

/-- The ideographs that GB 2312 lacks, and the pairs that stand for them. -/
def moreIdeographs : Array Char := others 0x4E00 0x9FA5 gb2312
def moreIdeographGrids : List Grid :=
  [⟨[(0x81, 0xA0)], anyCells⟩, ⟨[(0xAA, 0xFE)], [(0x40, 0x7E), (0x80, 0xA0)]⟩]

/-- The character of a pair in GBK. -/
def gbk? (a b : UInt8) : Option Char :=
  ((gbk.char? (number a b)).or (gb2312? a b)).or
    ((Grid.placeIn? moreIdeographGrids a b).bind fun n => moreIdeographs[n]?)

/-- The pairs that stand for private characters, in the order of these. -/
def privateGrids : List Grid :=
  [⟨[(0xAA, 0xAF)], [(0xA1, 0xFE)]⟩, ⟨[(0xF8, 0xFE)], [(0xA1, 0xFE)]⟩,
    ⟨[(0xA1, 0xA7)], [(0x40, 0x7E), (0x80, 0xA0)]⟩]

/-- The private character of a pair. -/
def private? (a b : UInt8) : Option Char :=
  let n := number a b
  let run := privateRuns.find? fun (first, count, _) => first ≤ n && n < first + count
  (run.map fun (first, _, c) => c + (n - first)).or
      ((Grid.placeIn? privateGrids a b).map (0xE000 + ·)) |>.map Char.ofNat

/-- The character of a pair in GB 18030. -/
def gb18030? (a b : UInt8) : Option Char :=
  ((gb18030.char? (number a b)).or (gbk? a b)).or (private? a b)

/-- How many characters of the basic plane take four octets. -/
def fourOctetsEnd : Nat := 39420

/-- The first octet from which on four of them stand for characters of other planes. -/
def otherPlanes : UInt8 := 0x90

/-- The character of four octets in GB 18030. -/
def fourOctets? (a b c d : UInt8) : Option Char := do
  let eight : Ranges := [(0x81, 0xFE)]
  let digits : Ranges := [(0x30, 0x39)]
  let front ← (⟨eight, digits⟩ : Grid).place? a b
  let back ← (⟨eight, digits⟩ : Grid).place? c d
  let n := front * 1260 + back
  if n < fourOctetsEnd then
    let (first, c) ← fourOctetRuns.findRev? fun x => x.1 ≤ n
    return Char.ofNat (c + (n - first))
  else
    let other := n - (otherPlanes.toNat - 0x81) * 12600
    if otherPlanes ≤ a && other < 0x100000 then some (Char.ofNat (0x10000 + other)) else none

/-- The character of a pair in Big Five. -/
def big5? (a b : UInt8) : Option Char := big5.char? (number a b)

/-- The character of a pair in Big Five as Windows has it. -/
def windows950? (a b : UInt8) : Option Char := (windows950.char? (number a b)).or (big5? a b)

/-- The pairs from one to another that only Hong Kong uses. -/
def hongKongOnly : Nat × Nat := (0xC6A1, 0xC8FE)

/-- The characters of a pair in Big Five as Hong Kong has it. -/
def hongKong? (a b : UInt8) : Option (List Char) :=
  let n := number a b
  match hongKongPairs.lookup n with
  | some cs => some cs
  | none =>
    let standard := if hongKongOnly.1 ≤ n && n ≤ hongKongOnly.2 then none else big5? a b
    ((hongKong.char? n).or standard).map ([·])

end EastAsian
end Text
end PlotScript
