/-
# References

A reference is a URI, which begins with a scheme and a colon, or it is relative to one:

| part | characters, besides letters, digits, `-._~` and octets in base 16 after `%` |
| --- | --- |
| user | `!$&'()*+,;=` and `:` |
| name of a host | `!$&'()*+,;=` |
| path | `!$&'()*+,;=`, `:`, `@` and `/` |
| query | those of a path and `?` |
| fragment | those of a query and `[]` |

A host, with the user before it and the port after it, comes after `//` and ends the reference or
comes before a path.  The first segment of a relative path has no colon, as it would be a scheme.
-/

import PlotScript.Web.Url

namespace PlotScript
namespace Web
namespace Reference

/-- A character of the name of a host. -/
def isHostChar (c : Char) : Bool :=
  isLetter c || isDecimalDigit c || "-._~!$&'()*+,;=".toList.contains c

/-- A character of a user. -/
def isUserChar (c : Char) : Bool := isHostChar c || c == ':'

/-- A character of a path. -/
def isPathChar (c : Char) : Bool := isUserChar c || c == '@' || c == '/'

/-- A character of a query. -/
def isQueryChar (c : Char) : Bool := isPathChar c || c == '?'

/-- A character of a fragment. -/
def isFragmentChar (c : Char) : Bool := isQueryChar c || c == '[' || c == ']'

/-- What follows characters of one kind, and octets in base 16, at the front. -/
def dropChars (kind : Char → Bool) : List Char → List Char
  | '%' :: a :: b :: r =>
    if isHexDigit a && isHexDigit b then dropChars kind r else '%' :: a :: b :: r
  | c :: r => if kind c then dropChars kind r else c :: r
  | [] => []

/-- What follows an octet in base 10 at the front. -/
def dropOctet (cs : List Char) : Option (List Char) :=
  let digits := cs.takeWhile isDecimalDigit
  let rest := cs.drop digits.length
  match digits with
  | [] => none
  | [_] => some rest
  | ['0', _] => none
  | [_, _] => some rest
  | a :: b :: _ :: r =>
    -- from 250 on, the last digit does not matter
    if a = '1' || (a = '2' && b ≤ '5') then some (r ++ rest) else none

/-- What follows four octets with dots between them at the front. -/
def dropVersion4 (cs : List Char) : Option (List Char) :=
  let next (cs : List Char) : Option (List Char) :=
    match cs with
    | '.' :: r => dropOctet r
    | _ => none
  (((dropOctet cs).bind next).bind next).bind next

/-- What follows a host at the front. -/
def dropHost (cs : List Char) : Option (List Char) :=
  match cs with
  | '[' :: r =>
    match r.dropWhile (· ≠ ']') with
    | [] => none
    | _ :: rest => some rest
  | _ => some ((dropVersion4 cs).getD (dropChars isHostChar cs))

/-- The greatest port that is read. -/
def maxPort : Nat := (1 <<< 31) - 1

/-- What follows a port at the front, if there is one. -/
def dropPort : List Char → Option (List Char)
  | ':' :: r =>
    match digitsValue? (String.ofList (r.takeWhile isDecimalDigit)) with
    | some n => if n ≤ maxPort then some (r.dropWhile isDecimalDigit) else none
    | none => none
  | cs => some cs

/-- What follows a user, a host and a port at the front. -/
def dropAuthority (cs : List Char) : Option (List Char) :=
  let afterUser :=
    match dropChars isUserChar cs with
    | '@' :: r => r
    | _ => cs
  (dropHost afterUser).bind dropPort

/-- What follows the path of a reference, with the host before it; `kind` are the characters of its
first segment, if it comes without a host. -/
def dropHierarchy (kind : Char → Bool) (cs : List Char) : Option (List Char) :=
  let dropSegments (cs : List Char) : List Char :=
    if cs.head? = some '/' then dropChars isPathChar cs else cs
  match cs with
  | '/' :: '/' :: r => (dropAuthority r).map dropSegments
  | _ => some (dropSegments (dropChars kind cs))

/-- What stands at the end of a reference: a query and a fragment, or nothing. -/
def isEnding (cs : List Char) : Bool :=
  let afterQuery :=
    match cs with
    | '?' :: r => dropChars isQueryChar r
    | _ => cs
  match afterQuery with
  | '#' :: r => (dropChars isFragmentChar r).isEmpty
  | r => r.isEmpty

/-- A URI. -/
def isAbsolute (cs : List Char) : Bool :=
  match takeScheme cs with
  | some (_, rest) => (dropHierarchy isPathChar rest).any isEnding
  | none => false

/-- A relative reference. -/
def isRelative (cs : List Char) : Bool :=
  (dropHierarchy (fun c => isPathChar c && c != ':' && c != '/') cs).any isEnding

/-- A reference of either kind. -/
def isValid (cs : List Char) : Bool := isAbsolute cs || isRelative cs

example : isAbsolute "urn:%41".toList = true := by decide +kernel
example : isValid "urn:%".toList = false := by decide +kernel
example : isRelative "../x".toList = true := by decide +kernel
example : isValid "1:b".toList = false := by decide +kernel
example : isAbsolute "a://u:p@[::1]:80/b?c#[d]".toList = true := by decide +kernel
example : isValid "a://b:port/".toList = false := by decide +kernel
example : isValid "a://b@c@d".toList = false := by decide +kernel

end Reference
end Web
end PlotScript
