/-
# Reading a document

A reading starts at a place of a text, takes some of what comes next, and reports what is out of
order in it.  Reading goes on after a report, so that later ones are made too.

| reading | takes |
| --- | --- |
| `accept` | a given text, if it comes next |
| `run` | all characters of a kind |
| `scanTo` | what comes before a mark, and the mark |
| `word?`, `name?` | a name |
| `loop` | as much as its step takes, again and again |
-/

import PlotScript.Markup.Name
import PlotScript.Markup.Report

namespace PlotScript
namespace Markup

/-- A place in a text. -/
structure Cursor where
  /-- What comes next. -/
  rest : List Char
  /-- The text breaks off at its end, because octets stand for nothing there. -/
  broken : Bool
  /-- What was reported before. -/
  log : Log
  deriving DecidableEq, Repr

/-- The start of a text. -/
def Cursor.start (cs : List Char) : Cursor := ⟨cs, false, .empty⟩

/-- What is read from a place on. -/
abbrev Reading (α : Type) : Type := StateM Cursor α

namespace Reading

/-- What a step of a loop comes to. -/
inductive Step (σ β : Type) where
  | next (s : σ)
  | done (b : β)

variable {σ α β : Type}

/-- Reports something. -/
def report (r : Report) : Reading Unit := modify fun c => { c with log := c.log.add r }

/-- Makes some reports. -/
def reportAll (rs : List Report) : Reading Unit := modify fun c => { c with log := c.log.addAll rs }

/-- Reports something unless a condition holds. -/
def reportUnless (b : Bool) (r : Report) : Reading Unit := if b then pure () else report r

/-- Something fatal was reported. -/
def failed : Reading Bool := do return (← get).log.failed

/-- What comes next. -/
def rest : Reading (List Char) := do return (← get).rest

/-- There is nothing left. -/
def atEnd : Reading Bool := do return (← rest).isEmpty

/-- Passes over some characters. -/
def skip (n : Nat) : Reading Unit := modify fun c => { c with rest := c.rest.drop n }

/-- Ends the reading of the whole document. -/
def stop : Reading Unit :=
  modify fun c => { c with rest := [], log := { c.log with closed := true } }

/-- Reports that the text is at its end too early, unless it is known to break off. -/
def endTooEarly : Reading Unit := do reportUnless (← get).broken .fatal

/-- Looks at characters, which must stand for something. -/
def lookAt (cs : List Char) : Reading Unit := reportUnless (!cs.contains faulty) .undecodable

/-- A text comes next. -/
def isAt (front : String) : Reading Bool := do return front.toList.isPrefixOf (← rest)

/-- Takes a text if it comes next. -/
def accept (front : String) : Reading Bool := do
  if ← isAt front then
    skip front.length
    return true
  return false

/-- Takes a text, which must come next. -/
def require (front : String) : Reading Unit := do reportUnless (← accept front) .fatal

/-- Takes the characters of a kind that come next. -/
def run (kind : Char → Bool) : Reading (List Char) := do
  let cs := (← rest).takeWhile kind
  skip cs.length
  return cs

/-- Takes blanks; the result says whether there are any. -/
def blanks : Reading Bool := do return !(← run isSpace).isEmpty

/-- Takes blanks, which must come next. -/
def requireBlanks : Reading Bool := do
  let found ← blanks
  reportUnless found .fatal
  return found

/-- Takes the characters of a kind that come next up to one that no document may hold, and looks at
them. -/
def runOf (kind : Char → Bool) : Reading (List Char) := do
  let cs ← run fun c => kind c && (isAllowed c || c = faulty)
  lookAt cs
  return cs.map fun c => if c = faulty then replacement else c

/-- The text before the first occurrence of a mark, and all of it if there is none. -/
def textBefore (mark : List Char) : List Char → List Char
  | [] => []
  | c :: r => if mark.isPrefixOf (c :: r) then [] else c :: textBefore mark r

/-- Takes what comes before a mark, and the mark.  It must come before the end and before any
character that no document may hold. -/
def scanTo (mark : String) : Reading Unit := do
  let before := textBefore mark.toList (← rest)
  let sound := before.takeWhile fun c => isAllowed c || c = faulty
  lookAt sound
  skip sound.length
  require mark

/-- Takes a name with any colons. -/
def word? : Reading (Option (List Char)) := do
  match takeWord (← rest) with
  | some (word, after) =>
    lookAt (after.take 1)
    skip word.length
    return some word
  | none =>
    lookAt ((← rest).take 1)
    return none

/-- Takes a name; its colons should be in order. -/
def name? : Reading (Option Name) := do
  match ← word? with
  | some word =>
    let name := Name.ofWord word
    reportUnless name.ordered .error
    return some name
  | none => return none

/-- Takes a text between quotes, which something else reads; the result says whether the second
quote is there. -/
def quoted (inside : Char → Reading α) : Reading (Option (α × Bool)) := do
  match ← rest with
  | q :: _ =>
    if q = '"' || q = '\'' then
      skip 1
      let a ← inside q
      let closed ← accept q.toString
      reportUnless closed .fatal
      return some (a, closed)
    report .fatal
    return none
  | [] =>
    report .fatal
    return none

/-- Takes a step for each element of a list, as long as there are some to take. -/
def loopAlong (step : σ → Reading (Step σ β)) (otherwise : σ → β) : List Char → σ → Reading β
  | [], s => return otherwise s
  | _ :: r, s => do
    match ← step s with
    | .next s => loopAlong step otherwise r s
    | .done b => return b

/-- Takes steps until one is the last.  Each of the others takes a character at least, so there is
at most one step more than there are characters. -/
def loop (step : σ → Reading (Step σ β)) (otherwise : σ → β) (s : σ) : Reading β := do
  loopAlong step otherwise (' ' :: (← rest)) s

/-- Reads another text in place of what comes next. -/
def within (text : List Char) (r : Reading α) : Reading α := do
  let outside ← rest
  modify fun c => { c with rest := text }
  let a ← r
  modify fun c => { c with rest := outside }
  return a

/-- What is reported about a text between tags. -/
def textReports : List Char → List Report
  | [] => []
  | c :: r =>
    if c = faulty then .undecodable :: textReports r
    else if !isAllowed c || "]]>".toList.isPrefixOf (c :: r) then .fatal :: textReports r
    else textReports r

/-- Takes the text before a tag or a reference. -/
def text : Reading Unit := do reportAll (textReports (← run fun c => c ≠ '<' && c ≠ '&'))

/-- Takes the end of a comment and what comes before it, after its first mark. -/
def commentStep (_ : Unit) : Reading (Step Unit Unit) := do
  let _ ← runOf (· ≠ '-')
  match ← rest with
  | '-' :: '-' :: '>' :: _ =>
    skip 3
    return .done ()
  | '-' :: '-' :: _ =>
    report .fatal
    skip 2
    return .next ()
  | '-' :: _ =>
    skip 1
    return .next ()
  | _ =>
    report .fatal
    return .done ()

/-- Takes a comment, after its first mark. -/
def comment : Reading Unit := loop commentStep id ()

/-- Names of instructions that may begin with `xml`. -/
def knownInstructions : List String := ["xml-stylesheet", "xml-model"]

/-- What is reported about the name of an instruction. -/
def targetReports (target : List Char) : List Report :=
  let small := target.map Web.lowerLetter
  if small = "xml".toList then [.fatal]
  else
    (if "xml".toList.isPrefixOf small && !knownInstructions.contains (String.ofList target) then
      [.warning] else []) ++ if target.contains ':' then [.error] else []

/-- Takes an instruction, after its first mark. -/
def instruction : Reading Unit := do
  match ← word? with
  | some target =>
    reportAll (targetReports target)
    unless ← accept "?>" do
      let _ ← requireBlanks
      scanTo "?>"
  | none => report .fatal

/-- Takes one of the comments and instructions around the root. -/
def miscellaneousStep (_ : Unit) : Reading (Step Unit Unit) := do
  let _ ← blanks
  if ← accept "<?" then
    instruction
    return .next ()
  else if ← accept "<!--" then
    comment
    return .next ()
  else return .done ()

/-- Takes the comments, the instructions and the blanks around the root. -/
def miscellaneous : Reading Unit := loop miscellaneousStep id ()

/-- What a reading gives for a text, and what it leaves and reports. -/
def of (r : Reading α) (text : String) : α × List Char × Option Report :=
  let (a, c) := r (.start text.toList)
  (a, c.rest, c.log.last)

example : of comment " a - b --><" = ((), ['<'], none) := by decide +kernel
example : of comment " a -- b -->" = ((), [], some .fatal) := by decide +kernel
example : of instruction "a?b?>" = ((), [], some .fatal) := by decide +kernel
example : of instruction "xml-model?>b" = ((), ['b'], none) := by decide +kernel
example : of text "a]]>b&" = ((), ['&'], some .fatal) := by decide +kernel
example : of name? "a:1 " = (some ⟨none, "a:1".toList, false⟩, [' '], some .error) := by
  decide +kernel

end Reading
end Markup
end PlotScript
