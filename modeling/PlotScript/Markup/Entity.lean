/-
# References and entities

| reference | stands for |
| --- | --- |
| `&#65;`, `&#x41;` | the character with this number |
| `&lt;`, `&gt;`, `&amp;`, `&quot;`, `&apos;` | `<`, `>`, `&`, `"`, `'` |
| `&a;` | the text that the document type declares for the entity `a` |

In the value of an attribute a text is put in the place of the reference, and what the text refers
to in the place of that.  No entity may lead back to itself, or out of the document.
-/

import PlotScript.Markup.Reading

namespace PlotScript
namespace Markup

/-- What the name of an entity is declared to stand for. -/
inductive Entity where
  | text (cs : List Char)
  /-- Something outside the document. -/
  | outside
  deriving DecidableEq, Repr

/-- Entities with their names. -/
structure Entities where
  declared : List (List Char × Entity)
  /-- All entities are declared in the document itself. -/
  complete : Bool
  deriving DecidableEq, Repr

namespace Entities

/-- Nothing is declared. -/
def empty : Entities := ⟨[], true⟩

/-- Declares a name, unless it is declared before. -/
def declare (t : Entities) (name : List Char) (e : Entity) : Entities :=
  if (t.declared.lookup name).isSome then t else { t with declared := t.declared ++ [(name, e)] }

end Entities

/-- The characters that have names in every document. -/
def namedCharacters : List (String × Char) :=
  [("lt", '<'), ("gt", '>'), ("amp", '&'), ("quot", '"'), ("apos", '\'')]

/-- The character with a name in every document. -/
def namedCharacter? (name : List Char) : Option Char := namedCharacters.lookup (String.ofList name)

/-- The value of digits in a base. -/
def numeral (base : Nat) (digits : List Char) : Nat :=
  digits.foldl (fun n c =>
    n * base + if isDecimalDigit c then c.toNat - 48 else (Web.lowerLetter c).toNat - 87) 0

/-- The character with a number that a document may hold. -/
def numbered? (n : Nat) : Option Char :=
  if n.isValidChar && isAllowed (Char.ofNat n) then some (Char.ofNat n) else none

/-- How deep entities may be inside one another. -/
def maxNesting : Nat := 40

/-- What a reference in the value of an attribute may stand for. -/
inductive Referent where
  | character (c : Char)
  | text (cs : List Char)
  deriving DecidableEq, Repr

namespace Reading

/-- Takes a reference to a character by its number. -/
def numberReference : Reading (Option Char) := do
  let hexadecimal ← accept "&#x"
  unless hexadecimal do skip 2
  let digits ← run (if hexadecimal then Web.isHexDigit else isDecimalDigit)
  let c := if digits.isEmpty then none
    else numbered? (numeral (if hexadecimal then 16 else 10) digits)
  let closed ← accept ";"
  reportUnless (closed && c.isSome) .fatal
  return if closed then c else none

/-- Takes a reference to an entity, and gives its name. -/
def entityReference : Reading (Option (List Char)) := do
  skip 1
  match ← word? with
  | some name =>
    let closed ← accept ";"
    reportUnless closed .fatal
    return if closed then some name else none
  | none =>
    report .fatal
    return none

/-- What the name of an entity stands for. -/
def referent (t : Entities) (name : List Char) : Reading (Option Referent) := do
  match namedCharacter? name, t.declared.lookup name with
  | some c, _ => return some (.character c)
  | _, some (.text cs) => return some (.text cs)
  | _, some .outside =>
    report .fatal
    return none
  | _, none =>
    report (if t.complete then .fatal else .error)
    return none

/-- How the reading of a value goes on after what was read before. -/
abbrev ValueStep : Type := Step (List Char) (Option (List Char))

/-- Takes the next part of a value after the parts before it, which are given in reverse; `mark`
ends the value if there is one, and `expand` reads the text of an entity. -/
def valueStep (t : Entities) (expand : List Char → List Char → Reading (Option (List Char)))
    (mark : Option Char) (before : List Char) : Reading ValueStep := do
  match ← rest with
  | [] =>
    reportUnless mark.isNone .fatal
    return .done (if mark.isNone then some before.reverse else none)
  | '<' :: _ =>
    report .fatal
    return .done none
  | '&' :: '#' :: _ =>
    match ← numberReference with
    | some c => return .next (c :: before)
    | none => return .done none
  | '&' :: _ =>
    match ← entityReference with
    | none => return .next before
    | some name =>
      match ← referent t name with
      | some (.character c) => return .next (c :: before)
      | some (.text cs) => return .next (((← expand name cs).getD []).reverse ++ before)
      | none => return .next before
  | c :: _ =>
    if mark = some c then
      return .done (some before.reverse)
    else if c = faulty then
      report .undecodable
      skip 1
      return .next (replacement :: before)
    else if isAllowed c || c = forbidden then
      reportUnless (isAllowed c) .fatal
      skip 1
      return .next ((if isSpace c then ' ' else c) :: before)
    else
      report .fatal
      return .done none

/-- Takes a value with its references replaced; none if it breaks off. -/
def value (t : Entities) (expand : List Char → List Char → Reading (Option (List Char)))
    (mark : Option Char) : Reading (Option (List Char)) :=
  loop (valueStep t expand mark) some []

/-- The text of an entity in the value of an attribute, inside the entities with these names. -/
def expandInValue (t : Entities) :
    Nat → List (List Char) → List Char → List Char → Reading (Option (List Char))
  | 0, _, _, _ => do
    report .fatal
    stop
    return none
  | n + 1, names, name, cs => do
    if names.contains name then
      report .fatal
      stop
      return none
    within cs (value t (expandInValue t n (name :: names)) none)

/-- Takes the value of an attribute with its quotes; none if it breaks off. -/
def attributeValue (t : Entities) : Reading (Option (List Char)) := do
  match ← rest with
  | q :: _ =>
    if q = '"' || q = '\'' then
      skip 1
      let v ← value t (expandInValue t maxNesting []) (some q)
      if v.isSome then skip 1
      return v
    report .fatal
    return none
  | [] =>
    report .fatal
    return none

example : of numberReference "&#x41;b" = (some 'A', ['b'], none) := by decide +kernel
example : of numberReference "&#;b" = (none, ['b'], some .fatal) := by decide +kernel
example : of (attributeValue .empty) "'a&lt;\n'b" =
    (some "a< ".toList, ['b'], none) := by decide +kernel
example : of (attributeValue .empty) "'a<'" = (none, ['<', '\''], some .fatal) := by
  decide +kernel

end Reading
end Markup
end PlotScript
