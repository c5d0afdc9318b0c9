/-
# Document types

A document type names the root, may name declarations outside the document, and may hold some of its
own between `[` and `]`:

| declaration | of | matters for |
| --- | --- | --- |
| `ENTITY` | the text of an entity | references |
| `ENTITY %` | the text of declarations | what `%name;` stands for |
| `ATTLIST` | the type and the value of attributes | names of namespaces, identifiers |
| `ELEMENT`, `NOTATION` | the content of elements, a notation | nothing else |

The first declaration of a name counts.  Declarations outside the document are not read.
-/

import PlotScript.Markup.Entity

namespace PlotScript
namespace Markup

/-- What a document type declares of an attribute. -/
structure AttributeDeclaration where
  element : Name
  name : Name
  /-- Its values are identifiers. -/
  isIdentifier : Bool
  /-- Its value in tags that do not give it. -/
  value : Option (List Char)
  deriving DecidableEq, Repr

/-- What a document type declares. -/
structure DocumentType where
  entities : Entities
  parameters : Entities
  attributes : List AttributeDeclaration
  deriving DecidableEq, Repr

namespace DocumentType

/-- Nothing is declared. -/
def empty : DocumentType := ⟨.empty, .empty, []⟩

/-- Entities may be declared where they are not read, unless the document stands alone. -/
def openUnless (t : DocumentType) (alone : Bool) : DocumentType :=
  { t with entities := { t.entities with complete := t.entities.complete && alone } }

/-- What is declared of the attributes of an element. -/
def ofElement (t : DocumentType) (element : Name) : List AttributeDeclaration :=
  t.attributes.filter fun a => a.element = element

/-- The values of an attribute are identifiers. -/
def isIdentifier (t : DocumentType) (element name : Name) : Bool :=
  (t.ofElement element).any fun a => a.name = name && a.isIdentifier

/-- Declares an attribute, unless it is declared before. -/
def declareAttribute (t : DocumentType) (a : AttributeDeclaration) : DocumentType :=
  if (t.ofElement a.element).any fun b => b.name = a.name then t
  else { t with attributes := t.attributes ++ [a] }

end DocumentType

namespace Reading

/-- Where something outside the document is. -/
structure Location where
  publicId : Option (List Char)
  systemId : Option (List Char)
  deriving DecidableEq, Repr

/-- A location is given. -/
def Location.isGiven (l : Location) : Bool := l.publicId.isSome || l.systemId.isSome

/-- A character of a public identifier. -/
def isPublicChar (c : Char) : Bool :=
  Web.isLetter c || isDecimalDigit c || " \r\n-'()+,./:=?;!*#@$_%".toList.contains c

/-- A quote comes next. -/
def isAtQuote : Reading Bool := do return (← isAt "\"") || (← isAt "'")

/-- Takes the address of something outside the document. -/
def systemLiteral : Reading (Option (List Char)) := do
  return (← quoted fun q => runOf (· ≠ q)).map Prod.fst

/-- Takes the public identifier of something outside the document. -/
def publicLiteral : Reading (Option (List Char)) := do
  return (← quoted fun q => run fun c => isPublicChar c && c ≠ q).map Prod.fst

/-- Takes the location of something outside the document, if one comes next.  The address may be
left out after a public identifier if `lone` says so. -/
def location (lone : Bool) : Reading Location := do
  if ← accept "SYSTEM" then
    let _ ← requireBlanks
    return ⟨none, ← systemLiteral⟩
  else if ← accept "PUBLIC" then
    let _ ← requireBlanks
    let publicId ← publicLiteral
    let found ← if lone then blanks else requireBlanks
    if lone && !(found && (← isAtQuote)) then return ⟨publicId, none⟩
    return ⟨publicId, ← systemLiteral⟩
  else return ⟨none, none⟩

/-- Takes the next part of the text of an entity after the parts before it, which are given in
reverse.  References to entities stay as they are. -/
def entityTextStep (before : List Char) : Reading (Step (List Char) (List Char)) := do
  match ← rest with
  | [] => return .done before.reverse
  | '&' :: '#' :: _ =>
    match ← numberReference with
    | some c => return .next (c :: before)
    | none => return .done before.reverse
  | '&' :: _ =>
    match ← entityReference with
    | some name => return .next (('&' :: name ++ [';']).reverse ++ before)
    | none => return .done before.reverse
  | '%' :: _ =>
    report .fatal
    return .done before.reverse
  | c :: _ =>
    lookAt [c]
    reportUnless (isAllowed c || c = faulty) .fatal
    skip 1
    return .next ((if c = faulty then replacement else c) :: before)

/-- Takes the text of an entity between its quotes. -/
def entityText : Reading (List Char) := do
  let written ← quoted fun q => run (· ≠ q)
  match written with
  | some (cs, true) => within cs (loop entityTextStep id [])
  | _ => return []

/-- Takes what an entity is declared to stand for. -/
def entityDefinition (isParameter : Bool) : Reading (Option Entity) := do
  if ← isAtQuote then return some (.text (← entityText))
  let l ← location false
  reportUnless l.isGiven .fatal
  reportUnless (!(l.systemId.any fun s => s.contains '#')) .fatal
  unless isParameter do
    unless ← isAt ">" do
      let _ ← requireBlanks
    if ← accept "NDATA" then
      let _ ← requireBlanks
      let _ ← word?
  return l.systemId.map fun _ => .outside

/-- What a name is declared to stand for, if it is the name of a character in every document: this
character, unless it could not stand in a text, or a reference to its number. -/
def keepsCharacter (name : List Char) (e : Entity) : Bool :=
  match namedCharacter? name, e with
  | none, _ => true
  | some c, .text cs =>
    let after (base : Nat) : List Char := Nat.toDigits base c.toNat ++ [';']
    (cs = [c] && c ≠ '<' && c ≠ '&') || cs = '&' :: '#' :: after 10 ||
      ("&#x".toList.isPrefixOf cs && (cs.drop 3).map Web.lowerLetter = after 16)
  | some _, .outside => false

/-- Takes the declaration of an entity, after its first word. -/
def entityDeclaration (t : DocumentType) : Reading DocumentType := do
  let _ ← requireBlanks
  let isParameter ← accept "%"
  if isParameter then
    let _ ← requireBlanks
  match ← word? with
  | none =>
    report .fatal
    return t
  | some name =>
    reportUnless (!name.contains ':') .error
    let _ ← requireBlanks
    let definition ← entityDefinition isParameter
    let lost ← failed
    let _ ← blanks
    require ">"
    match definition with
    | some e =>
      if lost then return t
      else if isParameter then return { t with parameters := t.parameters.declare name e }
      else
        reportUnless (keepsCharacter name e) .fatal
        return { t with entities := t.entities.declare name e }
    | none => return t

/-- Takes what says how often a part of the content of an element may stand. -/
def occurrence : Reading Unit := do
  match ← rest with
  | c :: _ => if c = '?' || c = '*' || c = '+' then skip 1
  | [] => pure ()

/-- Takes one of the names that may stand between text. -/
def mixedStep (_ : Unit) : Reading (Step Unit Bool) := do
  if ← accept "|" then
    let _ ← blanks
    match ← word? with
    | some _ =>
      let _ ← blanks
      return .next ()
    | none =>
      report .fatal
      return .done false
  else
    let closed ← accept ")*"
    reportUnless closed .fatal
    return .done closed

/-- Groups that are open, innermost first, each with what sets its parts apart, and whether a part
must come next. -/
structure Groups where
  separators : List (Option Char)
  wanting : Bool

/-- Takes the next word or sign of the content of an element. -/
def childrenStep (g : Groups) : Reading (Step Groups Bool) := do
  let _ ← blanks
  if g.wanting then
    if ← accept "(" then return .next ⟨none :: g.separators, true⟩
    match ← word? with
    | some _ =>
      occurrence
      return .next ⟨g.separators, false⟩
    | none =>
      report .fatal
      return .done false
  else
    match g.separators, ← rest with
    | _ :: outer, ')' :: _ =>
      skip 1
      occurrence
      return if outer.isEmpty then .done true else .next ⟨outer, false⟩
    | s :: outer, c :: _ =>
      if (c = ',' || c = '|') && s.all (· = c) then
        skip 1
        return .next ⟨some c :: outer, true⟩
      report .fatal
      return .done false
    | _, _ =>
      report .fatal
      return .done false

/-- Takes the content of an element, after its first bracket; the result says whether it is
whole. -/
def contentModel : Reading Bool := do
  let _ ← blanks
  if ← accept "#PCDATA" then
    let _ ← blanks
    if ← accept ")" then
      let _ ← accept "*"
      return true
    loop mixedStep (fun _ => false) ()
  else loop childrenStep (fun _ => false) ⟨[none], true⟩

/-- Takes what an element is declared to hold; the result says whether it is whole. -/
def elementContent : Reading Bool := do
  if ← accept "EMPTY" then return true
  else if ← accept "ANY" then return true
  else if ← accept "(" then contentModel
  else
    report .fatal
    return false

/-- Takes the declaration of an element, after its first word. -/
def elementDeclaration : Reading Unit := do
  unless ← requireBlanks do return
  match ← word? with
  | none => report .fatal
  | some _ =>
    let _ ← requireBlanks
    if ← elementContent then
      let _ ← blanks
      require ">"

/-- Takes one of the values that an attribute may have. -/
def choiceStep (kind : Char → Bool) (_ : Unit) : Reading (Step Unit Bool) := do
  let _ ← blanks
  let token ← run kind
  if token.isEmpty then
    lookAt ((← rest).take 1)
    report .fatal
    return .done false
  let _ ← blanks
  if ← accept "|" then return .next ()
  let closed ← accept ")"
  reportUnless closed .fatal
  return .done closed

/-- Takes the values that an attribute may have. -/
def choices : Reading Bool := do
  if ← accept "(" then loop (choiceStep fun c => isNameChar c || c = ':') (fun _ => false) ()
  else
    report .fatal
    return false

/-- Types of attributes, and whether their values are identifiers. -/
def attributeTypes : List (String × Bool) :=
  [("CDATA", false), ("IDREFS", false), ("IDREF", false), ("ID", true), ("ENTITY", false),
    ("ENTITIES", false), ("NMTOKENS", false), ("NMTOKEN", false)]

/-- Takes the type of an attribute: whether its values are texts of any kind, and whether they are
identifiers. -/
def attributeType : Reading (Option (Bool × Bool)) := do
  let cs ← rest
  match attributeTypes.find? fun x => x.1.toList.isPrefixOf cs with
  | some (name, isIdentifier) =>
    skip name.length
    return some (name = "CDATA", isIdentifier)
  | none =>
    if ← accept "NOTATION" then
      unless ← requireBlanks do return none
    return if ← choices then some (false, false) else none

/-- Takes what is declared of the value of an attribute; none if it breaks off. -/
def attributeDefault (t : DocumentType) : Reading (Option (Option (List Char))) := do
  if ← accept "#REQUIRED" then return some none
  if ← accept "#IMPLIED" then return some none
  if ← accept "#FIXED" then
    let _ ← requireBlanks
  let v ← attributeValue t.entities
  reportUnless v.isSome .fatal
  return some v

/-- A value without blanks around it, and with one between its words. -/
def withSingleSpaces (cs : List Char) : List Char :=
  List.intercalate [' '] ((Web.splitAt ' ' cs).filter fun w => !w.isEmpty)

/-- Takes the declaration of an attribute of an element. -/
def attributeDeclarationStep (element : Name) (t : DocumentType) :
    Reading (Step DocumentType DocumentType) := do
  if ← isAt ">" then return .done t
  match ← word? with
  | none =>
    report .fatal
    return .done t
  | some name =>
    unless ← requireBlanks do return .done t
    match ← attributeType with
    | none => return .done t
    | some (isText, isIdentifier) =>
      unless ← requireBlanks do return .done t
      match ← attributeDefault t with
      | none => return .done t
      | some v =>
        let found ← if ← isAt ">" then pure true else requireBlanks
        unless found do return .done t
        reportUnless (name ≠ "xml:id".toList || isIdentifier || (← failed)) .error
        let v := if isText then v else v.map withSingleSpaces
        return .next (t.declareAttribute ⟨element, .ofWord name, isIdentifier, v⟩)

/-- Takes the declaration of the attributes of an element, after its first word. -/
def attributesDeclaration (t : DocumentType) : Reading DocumentType := do
  let _ ← requireBlanks
  match ← word? with
  | none =>
    report .fatal
    return t
  | some element =>
    let _ ← blanks
    let t ← loop (attributeDeclarationStep (.ofWord element)) id t
    let _ ← accept ">"
    return t

/-- Takes the declaration of a notation, after its first word. -/
def notationDeclaration : Reading Unit := do
  unless ← requireBlanks do return
  match ← word? with
  | none => report .fatal
  | some name =>
    reportUnless (!name.contains ':') .error
    unless ← requireBlanks do return
    let l ← location true
    let _ ← blanks
    if ← accept ">" then reportUnless l.isGiven .fatal
    else report .fatal

/-- How the reading of declarations goes on; at the end it is said whether all could be read. -/
abbrev DeclarationStep : Type := Step DocumentType (DocumentType × Bool)

/-- Takes a reference to the text of declarations, after its sign; `expand` reads the text of an
entity. -/
def parameterReference (alone : Bool)
    (expand : List Char → List Char → DocumentType → Reading (DocumentType × Bool))
    (t : DocumentType) : Reading DeclarationStep := do
  match ← word? with
  | none =>
    report .fatal
    return .next t
  | some name =>
    unless ← accept ";" do
      report .fatal
      return .next t
    let t := t.openUnless alone
    match t.parameters.declared.lookup name with
    | some (.text cs) => return .next (← expand name cs t).1
    | some .outside =>
      report .warning
      return .next t
    | none =>
      report (if alone then .fatal else .error)
      return .next t

/-- Takes one declaration; `inner` says that they are the text of an entity. -/
def declarationStep (alone inner : Bool)
    (expand : List Char → List Char → DocumentType → Reading (DocumentType × Bool))
    (t : DocumentType) : Reading DeclarationStep := do
  let _ ← blanks
  if ← accept "%" then parameterReference alone expand t
  else if ← accept "<?" then
    instruction
    return .next t
  else if ← accept "<!--" then
    comment
    return .next t
  else if ← accept "<!ENTITY" then return .next (← entityDeclaration t)
  else if ← accept "<!ATTLIST" then return .next (← attributesDeclaration t)
  else if ← accept "<!ELEMENT" then
    elementDeclaration
    return .next t
  else if ← accept "<!NOTATION" then
    notationDeclaration
    return .next t
  else if (← atEnd) || (!inner && (← isAt "]")) then return .done (t, true)
  else
    report .fatal
    return .done (t, false)

/-- Takes declarations inside the entities with these names. -/
def declarations (alone : Bool) :
    Nat → List (List Char) → DocumentType → Reading (DocumentType × Bool)
  | 0, _, t => do
    report .fatal
    stop
    return (t, false)
  | n + 1, names, t => do
    let expand (name cs : List Char) (t : DocumentType) : Reading (DocumentType × Bool) := do
      if names.contains name then
        report .fatal
        stop
        return (t, false)
      within cs (declarations alone n (name :: names) t)
    loop (declarationStep alone (!names.isEmpty) expand) (fun t => (t, false)) t

/-- Takes the document type, after its first word; `alone` says that the document stands alone. -/
def documentType (alone : Bool) : Reading DocumentType := do
  let _ ← requireBlanks
  reportUnless (← word?).isSome .fatal
  let _ ← blanks
  let l ← location false
  let _ ← blanks
  let t := if l.isGiven then DocumentType.empty.openUnless alone else .empty
  if ← accept "[" then
    let (t, _) ← declarations alone maxNesting [] t
    if ← accept "]" then
      let _ ← blanks
    if !(← failed) && !(← isAt ">") then report .fatal else skip 1
    return t
  else
    require ">"
    return t

example : (of (documentType false) " a:b >").2 = ([], none) := by decide +kernel
example : (of (documentType false) " a [<!ENTITY b \"c\">] >").1.entities.declared =
    [(['b'], .text ['c'])] := by decide +kernel
example : keepsCharacter "lt".toList (.text "&#60;".toList) := by decide +kernel
example : keepsCharacter "lt".toList (.text "&#x3C;".toList) := by decide +kernel
example : ¬keepsCharacter "lt".toList (.text ['<']) := by decide +kernel
example : (of (documentType false) " a [ ?]>").2.2 = some .fatal := by decide +kernel
example : (of (documentType false) " a [<!ELEMENT a (b?, (c | d)*)+>]>").2 = ([], none) := by
  decide +kernel
example : (of (documentType false) " a [<!ELEMENT a (b, c | d)>]>").2.2 = some .fatal := by
  decide +kernel
example : (of (documentType false) " a [<!ELEMENT a EMPTY(>]>").2.2 = some .fatal := by
  decide +kernel

end Reading
end Markup
end PlotScript
