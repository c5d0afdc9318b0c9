/-
# Names in documents

A name begins with a letter or `_` and goes on with these, digits, `-` and `.`.  One colon may set a
prefix apart from it.  Other colons are out of order:

| text | prefix | name |
| --- | --- | --- |
| `a` | none | `a` |
| `p:a` | `p` | `a` |
| `:a`, `a:`, `a:1` | none | all of it, out of order |
| `p:a:b`, `p:a:1` | `p` | `a:b`, `a:1`, out of order |

No document may hold `U+FFFE` and `U+FFFF`.  In a text that is read from octets `U+FFFF` is written
for an octet that stands for nothing, and `U+FFFE` for both of these characters.
-/

import PlotScript.Web.Url

namespace PlotScript
namespace Markup

/-- A blank between the parts of a tag. -/
def isSpace (c : Char) : Bool := c == ' ' || c == '\t' || c == '\r' || c == '\n'

/-- What is written for an octet that stands for nothing. -/
def faulty : Char := '\uFFFF'

/-- What is written for a character that no document may hold and that is not written for itself. -/
def forbidden : Char := '\uFFFE'

/-- The character that faulty octets count as. -/
def replacement : Char := '\uFFFD'

/-- A character that a document may hold. -/
def isAllowed (c : Char) : Bool :=
  (0x20 ≤ c.toNat || isSpace c) && c.toNat != 0xFFFE && c.toNat != 0xFFFF

/-- The first character of a name. -/
def isNameStart (c : Char) : Bool :=
  let n := c.toNat
  Web.isLetter c || c == '_' ||
    [(0xC0, 0xD6), (0xD8, 0xF6), (0xF8, 0x2FF), (0x370, 0x37D), (0x37F, 0x1FFF), (0x200C, 0x200D),
      (0x2070, 0x218F), (0x2C00, 0x2FEF), (0x3001, 0xD7FF), (0xF900, 0xFDCF), (0xFDF0, 0xFFFD),
      (0x10000, 0xEFFFF)].any fun r => r.1 ≤ n && n ≤ r.2

/-- A later character of a name. -/
def isNameChar (c : Char) : Bool :=
  let n := c.toNat
  isNameStart c || isDecimalDigit c || c == '-' || c == '.' || n == 0xB7 ||
    (0x300 ≤ n && n ≤ 0x36F) || n == 0x203F || n == 0x2040

/-- A name without colons. -/
def isPlainName : List Char → Bool
  | [] => false
  | c :: r => isNameStart c && r.all isNameChar

/-- A name with any colons, at the front of a text. -/
def takeWord (cs : List Char) : Option (List Char × List Char) :=
  let word := cs.takeWhile fun c => isNameChar c || c == ':'
  match word with
  | [] => none
  | c :: _ => if isNameStart c || c == ':' then some (word, cs.drop word.length) else none

/-- A name with the prefix before its colon. -/
structure Name where
  space : Option (List Char)
  name : List Char
  /-- Its colons are in order. -/
  ordered : Bool
  deriving DecidableEq, Repr

namespace Name

/-- The name that a word stands for. -/
def ofWord (word : List Char) : Name :=
  match Web.cut ':' word with
  | (_, none) => ⟨none, word, true⟩
  | (space, some r) =>
    let (name, more) := Web.cut ':' r
    if isPlainName space && isPlainName name then ⟨some space, r, more.isNone⟩
    else ⟨none, word, false⟩

/-- The word of a name. -/
def word (n : Name) : List Char :=
  match n.space with
  | some space => space ++ ':' :: n.name
  | none => n.name

example : ofWord "p:a".toList = ⟨some ['p'], ['a'], true⟩ := by decide +kernel
example : ofWord "a:1".toList = ⟨none, "a:1".toList, false⟩ := by decide +kernel
example : ofWord "p:a:1".toList = ⟨some ['p'], "a:1".toList, false⟩ := by decide +kernel
example : takeWord "p:a b".toList = some ("p:a".toList, " b".toList) := by decide +kernel
example : takeWord "1".toList = none := by decide +kernel

end Name
end Markup
end PlotScript
