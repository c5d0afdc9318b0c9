/-
# Reports about a document

What is out of order in a document is reported, and then the document is read on:

| report | the document |
| --- | --- |
| warning | is in order |
| error | is in order, unless this is the last report |
| fatal | is malformed |
| undecodable | is malformed; it cannot be read if this is the last report |

Octets that stand for nothing are reported once.  After as many warnings as `Log.limit` no more of
them are kept, and after as many other reports none but the first one by which the document is
malformed.
-/

namespace PlotScript
namespace Markup

/-- What is reported about a document. -/
inductive Report where
  | warning
  | error
  | fatal
  /-- Octets stand for nothing in the encoding of the document. -/
  | undecodable
  deriving DecidableEq, Repr

/-- A report about a document that cannot be in order. -/
def Report.isFatal : Report → Bool
  | warning | error => false
  | fatal | undecodable => true

/-- What is wrong with a document. -/
inductive Defect where
  /-- Its octets stand for nothing in the encoding that it declares. -/
  | undecodable
  /-- It does not follow the rules for documents. -/
  | malformed
  deriving DecidableEq, Repr

/-- What was reported about a document. -/
structure Log where
  /-- The last report that is kept. -/
  last : Option Report
  /-- A report was made by which the document is not in order. -/
  failed : Bool
  /-- Octets that stand for nothing were met. -/
  undecodable : Bool
  /-- The number of warnings, and of other reports. -/
  warnings : Nat
  errors : Nat
  /-- Nothing more is reported. -/
  closed : Bool
  deriving DecidableEq, Repr

namespace Log

/-- Nothing was reported. -/
def empty : Log := ⟨none, false, false, 0, 0, false⟩

/-- How many warnings and how many other reports are kept. -/
def limit : Nat := 100

/-- What was reported after one more report. -/
def add (l : Log) (r : Report) : Log :=
  if l.closed || (r = .undecodable && l.undecodable) then l
  else if r = .warning then
    if l.warnings < limit then { l with last := some r, warnings := l.warnings + 1 } else l
  else
    let kept := l.errors < limit || (r.isFatal && !l.failed)
    { l with
      last := if kept then some r else l.last
      failed := l.failed || r.isFatal
      undecodable := l.undecodable || r = .undecodable
      errors := if kept then l.errors + 1 else l.errors }

/-- What was reported after some more reports. -/
def addAll (l : Log) (rs : List Report) : Log := rs.foldl add l

/-- What the reports say about a document. -/
def verdict (l : Log) : Except Defect Unit :=
  if !l.failed && l.last ≠ some .error then .ok ()
  else .error (if l.last = some .undecodable then .undecodable else .malformed)

example : (empty.addAll [.error, .warning]).verdict = .ok () := rfl
example : (empty.addAll [.warning, .error]).verdict = .error .malformed := rfl
example : (empty.addAll [.fatal, .undecodable]).verdict = .error .undecodable := rfl
example : (empty.addAll [.undecodable, .fatal]).verdict = .error .malformed := rfl
example : (empty.addAll [.undecodable, .fatal, .undecodable]).verdict = .error .malformed := rfl

end Log
end Markup
end PlotScript
