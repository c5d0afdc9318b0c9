/-
# Documents

A document is made of these parts, and `rootName` reads one and gives the name of its root:

| part | is |
| --- | --- |
| declaration | perhaps there; it may name the encoding of what follows |
| comments, instructions | any number of them, here and after the next two parts |
| document type | perhaps there |
| root | the element that holds all others |

The encoding of some documents is known from their first octets.  In any encoding but UTF-8 a text
breaks off where octets stand for nothing, and then its root need not be closed.  What follows the
root is not looked at if something out of order was reported before.
-/

import PlotScript.Markup.Content
import PlotScript.Markup.Declaration
import PlotScript.Markup.Encoding

namespace PlotScript
namespace Markup

/-- The first octets of documents by which their encodings are known, and how many of these octets
do not belong to the text. -/
def marks : List (List UInt8 × Encoding × Nat) := [
  ([0xEF, 0xBB, 0xBF], .utf8, 3),
  ([0xFF, 0xFE], .charset (.utf16 false), 2),
  ([0xFE, 0xFF], .charset (.utf16 true), 2),
  ([0x3C, 0x00, 0x3F, 0x00], .charset (.utf16 false), 0),
  ([0x00, 0x3C, 0x00, 0x3F], .charset (.utf16 true), 0),
  ([0x3C, 0x00, 0x00, 0x00], .charset (.utf32 false), 0),
  ([0x00, 0x00, 0x00, 0x3C], .charset (.utf32 true), 0)]

/-- The encoding that is known from the first octets, and the octets of the text. -/
def shown? (octets : List UInt8) : Option (Encoding × List UInt8) :=
  (marks.find? fun x => x.1.isPrefixOf octets).map fun (_, e, n) => (e, octets.drop n)

namespace Reading

/-- Goes on with the text of some octets.  In any encoding but UTF-8 it breaks off where they stand
for nothing. -/
def goOn (e : Encoding) (octets : List UInt8) : Reading Unit := do
  let cs := e.text octets
  let broken := e ≠ .utf8 && cs.contains faulty
  modify fun c => { c with rest := if broken then cs.takeWhile (· ≠ faulty) else cs, broken }
  reportUnless (!broken) .undecodable

/-- Takes what follows the declaration, and gives the name of the root. -/
def body (d : Declaration) : Reading (Option (List Char)) := do
  miscellaneous
  let t ← if ← accept "<!DOCTYPE" then documentType d.standsAlone else pure .empty
  miscellaneous
  unless ← isAt "<" do
    report .fatal
    return none
  let name ← root t
  miscellaneous
  if (← get).log.errors = 0 then reportUnless (← atEnd) .fatal
  return name

/-- Reads a document, and gives the name of its root. -/
def document (octets : List UInt8) : Reading (Option (List Char)) := do
  match shown? octets with
  | some (e, octets) =>
    goOn e octets
    body (← declaration?)
  | none =>
    goOn .utf8 octets
    let text ← rest
    let d ← declaration?
    let taken := text.take (text.length - (← rest).length)
    match d.encoding.map Encoding.ofName? with
    | none => body d
    | some none =>
      report .fatal
      body d
    | some (some .wide) =>
      report .fatal
      stop
      return none
    | some (some e) =>
      goOn e (octets.drop (taken.foldl (fun n c => n + Encoding.sizeInUtf8 c) 0))
      body d

end Reading

/-- The name of the root of a document, as it is known outside. -/
def rootName (octets : List UInt8) : Except Defect (List Char) := do
  let (name, c) := Reading.document octets (.start [])
  c.log.verdict
  match name with
  | some name => .ok name
  | none => .error .malformed

end Markup
end PlotScript
