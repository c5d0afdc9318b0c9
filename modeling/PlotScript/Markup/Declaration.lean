/-
# Declarations of documents

A document may begin with its declaration:

| field | value |
| --- | --- |
| `version` | `1.` and digits; `1.0` is best |
| `encoding`, if it is given | a letter, then letters, digits, `.`, `_` and `-` |
| `standalone`, if it is given | `yes` or `no` |

The fields come in this order, with blanks before each of them.
-/

import PlotScript.Markup.Reading

namespace PlotScript
namespace Markup

/-- What a document declares of itself. -/
structure Declaration where
  /-- The name of its encoding. -/
  encoding : Option (List Char)
  /-- Nothing outside the document matters to it. -/
  standsAlone : Bool
  deriving DecidableEq, Repr

namespace Declaration

/-- A document declares nothing of itself. -/
def none : Declaration := ⟨Option.none, false⟩

/-- A later character of the name of an encoding. -/
def isEncodingChar (c : Char) : Bool :=
  Web.isLetter c || isDecimalDigit c || c == '.' || c == '_' || c == '-'

end Declaration

namespace Reading

variable {α : Type}

/-- Takes a field, if its name comes next, with its value, which must end where `value` does and be
closed. -/
def field (name : String) (value : Reading α) : Reading (Option α) := do
  unless ← accept name do return none
  let _ ← blanks
  unless ← accept "=" do
    report .fatal
    return none
  let _ ← blanks
  return (← quoted fun _ => value).bind fun (a, closed) => if closed then some a else none

/-- Takes a version. -/
def version : Reading (List Char) := do
  let before ← run isDecimalDigit
  let point ← accept "."
  let after ← run isDecimalDigit
  let cs := before ++ (if point then ['.'] else []) ++ after
  return if before.length = 1 && point then cs else []

/-- What is reported about a version. -/
def versionReports (v : Option (List Char)) : List Report :=
  let cs := v.getD []
  if cs = "1.0".toList then []
  else if ['1', '.'].isPrefixOf cs then [.warning]
  else [.fatal]

/-- Takes the name of an encoding. -/
def encodingName : Reading (Option (List Char)) := do
  let cs ← run Declaration.isEncodingChar
  let sound := cs.head?.any Web.isLetter
  reportUnless sound .fatal
  return if sound then some cs else none

/-- Takes the answer whether the document stands alone. -/
def aloneAnswer : Reading Bool := do
  if ← accept "no" then return false
  else if ← accept "yes" then return true
  else
    report .fatal
    return false

/-- Takes the end of a declaration, or what is left of it. -/
def declarationEnd : Reading Unit := do
  let _ ← blanks
  unless ← accept "?>" do
    report .fatal
    let cs ← run (· ≠ '>')
    lookAt cs
    skip 1

/-- Takes blanks, which must come next unless the declaration ends; the result says whether it
ends. -/
def endOrBlanks : Reading Bool := do
  if ← accept "?>" then return true
  let _ ← requireBlanks
  return false

/-- Takes a declaration, after its first word. -/
def declaration : Reading Declaration := do
  let _ ← blanks
  reportAll (versionReports (← field "version" version))
  if ← endOrBlanks then return .none
  let encoding := (← field "encoding" encodingName).join
  if encoding.isSome then
    if ← endOrBlanks then return ⟨encoding, false⟩
  let _ ← blanks
  let alone ← field "standalone" aloneAnswer
  declarationEnd
  return ⟨encoding, alone.getD false⟩

/-- Takes the declaration if there is one. -/
def declaration? : Reading Declaration := do
  match (← rest).drop 5 with
  | c :: _ =>
    if (← isAt "<?xml") && isSpace c then
      skip 5
      declaration
    else return .none
  | [] => return .none

example : of declaration? "<?xml version='1.0' standalone='no' ?><a/>" =
    (.none, "<a/>".toList, none) := by decide +kernel
example : of declaration? "<?xml version='1.0' encoding=\"b\"?>" =
    (⟨some ['b'], false⟩, [], none) := by decide +kernel
example : (of declaration? "<?xml version='1.0'/?>").2 = ([], some .fatal) := by decide +kernel
example : (of declaration? "<?xml version='1.1'?>").2 = ([], some .warning) := by decide +kernel

end Reading
end Markup
end PlotScript
