/-
# Coded sets of characters

A coded set gives numbers to characters.  It lists runs of them, each with the number of its first
character; what no run reaches has no character.  Most sets have 94 rows of 94 cells, and a number
is made of two octets from `0x21` to `0x7E`, for the row and for the cell.

| module | sets |
| --- | --- |
| `CodedSet.Chinese` | of mainland China |
| `CodedSet.Taiwanese` | of Taiwan and Hong Kong |
| `CodedSet.Japanese` | of Japan |
| `CodedSet.Korean` | of Korea |

In a `Grid` two octets are counted row by row.  Grids give order to characters that have no numbers
of their own.
-/

import Std.Data.HashSet

namespace PlotScript
namespace Text

/-- Characters with their numbers. -/
structure CodedSet where
  runs : List (Nat × Array Char)
  deriving DecidableEq, Repr

namespace CodedSet

/-- The set with these runs. -/
def ofRuns (l : List (Nat × String)) : CodedSet := ⟨l.map fun (n, s) => (n, s.toList.toArray)⟩

/-- The character with a number. -/
def char? (s : CodedSet) (n : Nat) : Option Char :=
  s.runs.findSome? fun (first, cs) => if first ≤ n then cs[n - first]? else none

/-- All characters, in the order of their numbers. -/
def chars (s : CodedSet) : List Char := s.runs.flatMap fun x => x.2.toList

/-- The number that two octets make. -/
def number (row cell : UInt8) : Nat := row.toNat * 0x100 + cell.toNat

/-- The number that two octets make with their first bits changed. -/
def numberOfHigh (row cell : UInt8) : Nat := number (row ^^^ 0x80) (cell ^^^ 0x80)

/-- The rest of an order: the characters from one on to another that are in none of some sets. -/
def others (first last : Nat) (s : CodedSet) : Array Char :=
  let held := Std.HashSet.ofList (s.chars.map Char.toNat)
  ((List.range' first (last + 1 - first)).map Char.ofNat).toArray.filter fun c =>
    !held.contains c.toNat

example : (ofRuns [(0x21, "ab"), (0x30, "c")]).char? 0x22 = some 'b' := by decide +kernel
example : (ofRuns [(0x21, "ab"), (0x30, "c")]).char? 0x23 = none := by decide +kernel
example : numberOfHigh 0xC4 0xE3 = 0x4463 := by decide

end CodedSet

/-- Ranges of octets, each with its first and its last one. -/
abbrev Ranges : Type := List (Nat × Nat)

namespace Ranges

/-- How many octets there are. -/
def size : Ranges → Nat
  | [] => 0
  | (low, high) :: r => high + 1 - low + size r

/-- The place of an octet. -/
def place? : Ranges → UInt8 → Option Nat
  | [], _ => none
  | (low, high) :: r, b =>
    if low ≤ b.toNat && b.toNat ≤ high then some (b.toNat - low)
    else (place? r b).map (high + 1 - low + ·)

end Ranges

/-- Pairs of octets in rows of cells. -/
structure Grid where
  rows : Ranges
  cells : Ranges
  deriving DecidableEq, Repr

namespace Grid

/-- How many pairs there are. -/
def size (g : Grid) : Nat := g.rows.size * g.cells.size

/-- The place of a pair, row by row. -/
def place? (g : Grid) (a b : UInt8) : Option Nat := do
  return (← g.rows.place? a) * g.cells.size + (← g.cells.place? b)

/-- The place of a pair in grids that follow each other. -/
def placeIn? : List Grid → UInt8 → UInt8 → Option Nat
  | [], _, _ => none
  | g :: r, a, b => (g.place? a b).or ((placeIn? r a b).map (g.size + ·))

example : (⟨[(0x81, 0x82)], [(0x40, 0x42), (0x50, 0x51)]⟩ : Grid).place? 0x82 0x50 = some 8 := by
  decide

end Grid
end Text
end PlotScript
