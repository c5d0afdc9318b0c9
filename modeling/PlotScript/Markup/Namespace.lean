/-
# Namespaces

Attributes of a tag bind prefixes to namespaces, for the element and all inside it, and other names
use the prefixes.  What is out of order is reported as an error or as a warning, and no more than
that:

| attribute | error | warning |
| --- | --- | --- |
| `xmlns` | not a reference; one of the two reserved namespaces | a relative reference |
| `xmlns:p` | not a reference; nothing; a reserved namespace; `p` is `xmlns` | |
| `xmlns:xml` | another namespace than its own | |
| `xml:space` | | not `default` or `preserve` |
| any | an unbound prefix; the same name and namespace as another | |

To bind a prefix twice, or to give an attribute twice, is fatal, unless its prefix is not bound.
-/

import PlotScript.Markup.Name
import PlotScript.Markup.Report
import PlotScript.Web.Reference

namespace PlotScript
namespace Markup

/-- An attribute of a tag: its value has its references replaced, and spaces for its blanks. -/
structure Attribute where
  name : Name
  value : List Char
  deriving DecidableEq, Repr

/-- An error, unless a condition holds. -/
def errorUnless (b : Bool) : List Report := if b then [] else [.error]

/-- A warning, unless a condition holds. -/
def warningUnless (b : Bool) : List Report := if b then [] else [.warning]

/-- The prefix that is bound from the start. -/
def xmlPrefix : List Char := "xml".toList

/-- The prefix of the attributes that bind prefixes. -/
def bindingPrefix : List Char := "xmlns".toList

/-- The name of a namespace that the rules for documents reserve. -/
def reserved (path : List String) : List Char :=
  (String.intercalate "/" (["http:", "", "www.w3.org"] ++ path)).toList

/-- The namespace of the prefix that is bound from the start. -/
def xmlNamespace : List Char := reserved ["XML", "1998", "namespace"]

/-- The namespace of the attributes that bind prefixes. -/
def bindingNamespace : List Char := reserved ["2000", "xmlns", ""]

/-- Prefixes with their namespaces, the innermost first. The prefix of names without one is
empty. -/
abbrev Bindings := List (List Char × List Char)

namespace Bindings

/-- The bindings of a document as a whole. -/
def start : Bindings := [(xmlPrefix, xmlNamespace)]

end Bindings

namespace Attribute

/-- The prefix that an attribute binds. -/
def bound? (a : Attribute) : Option (List Char) :=
  if a.name.space = some bindingPrefix then some a.name.name
  else if a.name.space = none ∧ a.name.name = bindingPrefix then some []
  else none

/-- An attribute with a name of the prefix that is bound from the start. -/
def isXml (a : Attribute) (name : String) : Bool :=
  a.name.space == some xmlPrefix && a.name.name == name.toList

/-- What is reported about an attribute that binds a prefix, and whether it binds it. -/
def bindingReports (a : Attribute) (space : List Char) : List Report × Bool :=
  let uri := a.value
  let isReserved := uri == xmlNamespace || uri == bindingNamespace
  if space = [] then
    let form :=
      if uri.isEmpty then []
      else errorUnless (Web.Reference.isValid uri) ++
        warningUnless (Web.Reference.isAbsolute uri || !Web.Reference.isRelative uri)
    (form ++ errorUnless !isReserved, !isReserved)
  else if space = xmlPrefix then (errorUnless (uri == xmlNamespace), false)
  else if isReserved || space = bindingPrefix || uri.isEmpty then ([.error], false)
  else (errorUnless (Web.Reference.isValid uri), true)

/-- What is reported about an attribute by itself. -/
def reports (a : Attribute) : List Report :=
  let spaces := ["default".toList, "preserve".toList]
  warningUnless (!a.isXml "space" || spaces.contains a.value) ++
    match a.bound? with
    | some space => (a.bindingReports space).1
    | none => []

/-- The prefix and the namespace that an attribute binds. -/
def binding? (a : Attribute) : Option (List Char × List Char) :=
  a.bound?.bind fun space => if (a.bindingReports space).2 then some (space, a.value) else none

end Attribute

/-- A list has no element twice. -/
def allDistinct {α : Type} [DecidableEq α] : List α → Bool
  | [] => true
  | a :: r => !r.contains a && allDistinct r

/-- The prefix of a name is bound. -/
def isBound (b : Bindings) (name : Name) : Bool :=
  name.space.all fun space => (b.lookup space).isSome

/-- The namespace of an attribute, and its name inside it. -/
def expanded (b : Bindings) (name : Name) : Option (List Char) × List Char :=
  (name.space.bind fun space => b.lookup space, name.name)

/-- What is reported about attributes that have a namespace and a name together, if `before` are
those in front of them. -/
def repeatReports (b : Bindings) : List Name → List Name → List Report
  | _, [] => []
  | before, a :: r =>
    if !isBound b a then repeatReports b before r
    else match before.find? fun x => expanded b x = expanded b a with
      | some x => (if x.space = a.space then .fatal else .error) :: repeatReports b before r
      | none => repeatReports b (before ++ [a]) r

/-- What a tag makes of the bindings around it. -/
structure Scope where
  bindings : Bindings
  reports : List Report
  deriving DecidableEq, Repr

/-- The bindings inside an element and what is reported about its tag as a whole.  The attributes
that the tag does not give are `implied`. -/
def Scope.of (b : Bindings) (name : Name) (given implied : List Attribute) : Scope :=
  let added := given.filterMap Attribute.binding?
  let impliedBindings := (implied.filterMap fun a => a.bound?.map fun space => (space, a.value))
  let unbound := impliedBindings.filter fun x => (added.lookup x.1).isNone
  let inside := unbound.reverse ++ added.reverse ++ b
  let others := (given.filter fun a => a.bound?.isNone).map Attribute.name
  let moreOthers := (implied.filter fun a => a.bound?.isNone).map Attribute.name
  let all := others ++ moreOthers.filter fun n => !others.contains n
  ⟨inside,
    (if allDistinct (added.map Prod.fst) then [] else [.fatal]) ++
      all.flatMap (fun n => errorUnless (isBound inside n)) ++ repeatReports inside [] all ++
      errorUnless (isBound inside name)⟩

/-- The name of an element as it is known outside the document.  A prefix that is not bound belongs
to it.  A namespace ends at the first `}`. -/
def knownName (b : Bindings) (name : Name) : List Char :=
  match b.lookup (name.space.getD []) with
  | some uri =>
    match Web.cut '}' uri with
    | (_, some more) => more ++ '}' :: name.name
    | (_, none) => name.name
  | none => name.word

example : (Scope.of .start ⟨none, ['a'], true⟩ [⟨⟨some ['x'], ['b'], true⟩, []⟩] []).reports =
    [.error] := by decide +kernel
example : repeatReports .start [] [⟨none, ['a'], true⟩, ⟨none, ['a'], true⟩] = [.fatal] := by
  decide +kernel
example : repeatReports .start [] [⟨some ['x'], ['a'], true⟩, ⟨some ['x'], ['a'], true⟩] = [] := by
  decide +kernel
example : knownName [(['x'], "a\x7db".toList)] ⟨some ['x'], ['c'], true⟩ = "b\x7dc".toList := by
  decide +kernel

end Markup
end PlotScript
