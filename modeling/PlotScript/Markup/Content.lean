/-
# The content of a document

| what comes next | is |
| --- | --- |
| `<?` | an instruction |
| `<!--` | a comment |
| `<![CDATA[` | character data, up to `]]>` |
| `</` | the end of the element that was opened last |
| `<` | the tag of an element |
| `&` | a reference |
| anything else | text, without `]]>` |

A tag without a name is text but for its `<`, and a tag without an end ends where that is noticed;
the element is not opened then.  The text of an entity is content too, in which all elements that
are opened are closed; it is read where it is first referred to, and no prefix is bound there.
-/

import PlotScript.Markup.Identifier

namespace PlotScript
namespace Markup

/-- How many elements may be open at once. -/
def maxDepth : Nat := 2048

/-- What is known after some of the content of a document. -/
structure Content where
  /-- The name of the root, once it is met. -/
  root : Option (List Char)
  /-- The elements that are open, innermost first, each with the bindings inside it. -/
  opened : List (Name × Bindings)
  /-- The identifiers that are given. -/
  identifiers : List (List Char)
  /-- The entities whose text was read. -/
  met : List (List Char)
  deriving DecidableEq, Repr

namespace Content

/-- What is known at the start. -/
def start : Content := ⟨none, [], [], []⟩

/-- The bindings of the innermost element. -/
def bindings (s : Content) : Bindings :=
  match s.opened with
  | [] => .start
  | x :: _ => x.2

end Content

namespace Reading

/-- Takes the next attribute of a tag after those before it, up to the end of the tag. -/
def attributeStep (t : DocumentType) (before : List Attribute) :
    Reading (Step (List Attribute) (List Attribute)) := do
  if (← isAt ">") || (← isAt "/>") || (← atEnd) then return .done before
  match ← name? with
  | none =>
    report .fatal
    return .done before
  | some name =>
    let _ ← blanks
    let v ←
      if ← accept "=" then
        let _ ← blanks
        attributeValue t.entities
      else do
        report .fatal
        pure none
    let a := v.map fun v => (⟨name, v⟩ : Attribute)
    reportAll ((a.map Attribute.reports).getD [])
    let l := before ++ a.toList
    if (← isAt ">") || (← isAt "/>") then return .done l
    return if ← requireBlanks then .next l else .done l

/-- Takes the attributes of a tag. -/
def attributes (t : DocumentType) : Reading (List Attribute) := do
  let _ ← blanks
  loop (attributeStep t) id []

/-- The attributes that a tag has without giving them. -/
def implied (t : DocumentType) (element : Name) (given : List Attribute) : List Attribute :=
  (t.ofElement element).filterMap fun d =>
    if given.any fun a => a.name = d.name then none
    else d.value.map fun v => ⟨d.name, v⟩

/-- Takes a tag that opens an element; `depth` elements are open around the content. -/
def openElement (t : DocumentType) (depth : Nat) (s : Content) : Reading Content := do
  if maxDepth ≤ depth + s.opened.length then
    report .fatal
    stop
    return s
  skip 1
  match ← name? with
  | none =>
    report .fatal
    return s
  | some name =>
    let given ← attributes t
    let more := implied t name given
    let scope := Scope.of s.bindings name given more
    reportAll scope.reports
    let (reports, identifiers) := Identifier.reports t name s.identifiers (given ++ more)
    let lost ← failed
    unless lost do reportAll reports
    let s := { s with
      root := s.root.or (some (knownName scope.bindings name))
      identifiers := if lost then s.identifiers else identifiers }
    if ← accept "/>" then return s
    else if ← accept ">" then return { s with opened := (name, scope.bindings) :: s.opened }
    else
      report .fatal
      return s

/-- Takes the end of the innermost element. -/
def closeElement (s : Content) : Reading Content := do
  skip 2
  let word ← word?
  let _ ← blanks
  require ">"
  reportUnless (word = s.opened.head?.map fun x => x.1.word) .fatal
  return { s with opened := s.opened.tail }

/-- Takes a reference; `expand` reads the text of an entity. -/
def reference (t : DocumentType) (expand : List Char → List Char → Content → Reading Content)
    (s : Content) : Reading Content := do
  if ← isAt "&#" then
    let _ ← numberReference
    return s
  match ← entityReference with
  | none => return s
  | some name =>
    match ← referent t.entities name with
    | some (.text cs) =>
      if (← failed) || s.met.contains name then return s
      let s ← expand name cs s
      return { s with met := name :: s.met }
    | _ => return s

/-- Takes the next part of content.  It ends where an element ends that is open around it; of those
that are open `around` ones are. -/
def contentStep (t : DocumentType) (expand : List Char → List Char → Content → Reading Content)
    (depth around : Nat) (s : Content) : Reading (Step Content Content) := do
  if ← atEnd then return .done s
  else if ← accept "<?" then
    instruction
    return .next s
  else if ← accept "<![CDATA[" then
    scanTo "]]>"
    return .next s
  else if ← accept "<!--" then
    comment
    return .next s
  else if ← isAt "</" then
    if s.opened.length ≤ around then return .done s
    return .next (← closeElement s)
  else if ← isAt "<" then return .next (← openElement t depth s)
  else if ← isAt "&" then return .next (← reference t expand s)
  else
    text
    return .next s

/-- Takes content. -/
def content (t : DocumentType) (expand : List Char → List Char → Content → Reading Content)
    (depth around : Nat) (s : Content) : Reading Content :=
  loop (contentStep t expand depth around) id s

/-- Reads the text of an entity, inside the entities with these names. -/
def expandInContent (t : DocumentType) (depth : Nat) :
    Nat → List (List Char) → List Char → List Char → Content → Reading Content
  | 0, _, _, _, s => do
    report .fatal
    stop
    return s
  | n + 1, names, name, cs, s => do
    if names.contains name then
      report .fatal
      stop
      return s
    within cs do
      let depth := depth + s.opened.length + 1
      let expand := expandInContent t depth n (name :: names)
      let inner ← content t expand depth 0 { s with opened := [] }
      reportUnless ((← atEnd) && inner.opened.isEmpty) .fatal
      return { inner with opened := s.opened }

/-- Takes the root, and gives its name. -/
def root (t : DocumentType) : Reading (Option (List Char)) := do
  let s ← openElement t 0 .start
  if s.opened.isEmpty then return s.root
  let s ← content t (expandInContent t 0 maxNesting []) 0 1 s
  if ← atEnd then endTooEarly
  else
    let _ ← closeElement s
  return s.root

example : of (root .empty) "<a b='c'>d<e/></a >f" = (some ['a'], ['f'], none) := by decide +kernel
example : of (root .empty) "<x:a><b></b></x:a>" = (some "x:a".toList, [], some .error) := by
  decide +kernel
example : (of (root .empty) "<a><b></a></b>").2.2 = some .fatal := by decide +kernel
example : (of (root .empty) "<a b='1' b='2'/>").2.2 = some .fatal := by decide +kernel
example : (of (root .empty) "<a xml:id='b'><c xml:id='b'/></a>").2.2 = some .error := by
  decide +kernel

end Reading
end Markup
end PlotScript
