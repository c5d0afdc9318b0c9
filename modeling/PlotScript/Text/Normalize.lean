/-
# Compatibility composition

Two spellings of an identifier that differ only in how their characters are made up are the same
identifier.  `compose` gives the spelling that stands for all of them:

| step | does |
| --- | --- |
| `parts` | replaces each character by what it stands for under compatibility decomposition |
| `order` | puts the marks after each other character in the order of their classes |
| `join` | joins a character with the marks after it that make a composite with it |

A mark is out of reach if another one before it has the same class or a higher one.
-/

import PlotScript.Text.Hangul
import PlotScript.Text.Parts

namespace PlotScript
namespace Text

namespace Parts

/-- What the characters of the runs stand for, one after the other. -/
def expansionRuns : List (Nat × List (List Char)) :=
  expansions.map fun (first, words) => (first, (words.splitOn " ").map String.toList)

/-- What a character stands for, if it is in one of the runs. -/
def expansion? (c : Char) : Option (List Char) :=
  expansionRuns.findSome? fun (first, words) =>
    if first ≤ c.toNat then words[c.toNat - first]? else none

/-- Bases and composites by their marks. -/
def compositeRows : List (Nat × List (Char × Char)) :=
  composites.map fun (mark, words) => (mark, (words.splitOn " ").filterMap fun w =>
    match w.toList with
    | [base, composite] => some (base, composite)
    | _ => none)

/-- The composite of a base and a mark. -/
def composite? (base mark : Char) : Option Char :=
  (compositeRows.lookup mark.toNat).bind fun l => l.lookup base

/-- The base and the mark of a composite. -/
def baseAndMark? (c : Char) : Option (Char × Char) :=
  compositeRows.findSome? fun (mark, l) =>
    (l.find? fun x => x.2 = c).map fun x => (x.1, Char.ofNat mark)

/-- The combining class of a character. -/
def combiningClass (c : Char) : Nat :=
  match classes.find? fun x => x.1 ≤ c.toNat && c.toNat ≤ x.2.1 with
  | some x => x.2.2
  | none => 0

end Parts

/-- How often a composite may have a composite as its base. -/
def nesting : Nat := 3

/-- What a character is made of, following the bases of composites so many times. -/
def partsOf : Nat → Char → List Char
  | 0, c => [c]
  | n + 1, c =>
    match Parts.expansion? c, Parts.baseAndMark? c with
    | some l, _ => l
    | none, some (base, mark) => partsOf n base ++ [mark]
    | none, none => [c]

/-- What a character is made of. -/
def parts (c : Char) : List Char :=
  if c.toNat < 0x80 then [c] else (Hangul.letters? c).getD (partsOf nesting c)

/-- A character before others that are in order, moved past the marks of lower classes. -/
def insertMark (c : Char) : List Char → List Char
  | [] => [c]
  | d :: r =>
    if 0 < Parts.combiningClass d && Parts.combiningClass d < Parts.combiningClass c then
      d :: insertMark c r
    else c :: d :: r

/-- Characters with the marks in the order of their classes. -/
def order (cs : List Char) : List Char := cs.foldr insertMark []

/-- What two characters make together. -/
def joined? (c d : Char) : Option Char :=
  (Hangul.joined? c d).or (Parts.composite? c d)

/-- Joins a character with those after it; `skipped` are the marks between them that could not be
joined, the last one first. -/
def joinFrom (c : Char) (skipped : List Char) : List Char → List Char
  | [] => c :: skipped.reverse
  | d :: r =>
    let reachable := match skipped with
      | [] => true
      | e :: _ => Parts.combiningClass e < Parts.combiningClass d
    match if reachable then joined? c d else none with
    | some composite => joinFrom composite skipped r
    | none =>
      if Parts.combiningClass d = 0 then c :: skipped.reverse ++ joinFrom d [] r
      else joinFrom c (d :: skipped) r

/-- Joins characters where they make composites. -/
def join : List Char → List Char
  | [] => []
  | c :: r => joinFrom c [] r

/-- The spelling that stands for all spellings of an identifier. -/
def compose (cs : List Char) : List Char :=
  if cs.all fun c => c.toNat < 0x80 then cs else join (order (cs.flatMap parts))

end Text
end PlotScript
