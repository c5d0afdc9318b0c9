/-
# Diagnostics

A message about a place of a script is shown with the line it is about:

```text
[ERROR]: On line 3 of square.axi.
  GOTO 1 x
         ^
  Invalid Y coordinate specified.
  Usage: GOTO <X> <Y>
```

The row under the line has a caret for each column of the token, and at least one; before it each
tab of the line stays a tab and any other character becomes a space, so the carets stand below the
token.  A message about no place is shown after its severity alone.

The format is that of the language specification, §12, and the grades of severity are those of §7.
-/

import PlotScript.Text.Lines
import PlotScript.Token

namespace PlotScript

/-- How grave a diagnostic is. -/
inductive Severity where
  | fatal
  | error
  | warning
  | info
  | debug
  deriving DecidableEq, Repr

/-- A severity as it is shown. -/
def Severity.name : Severity → String
  | fatal => "FATAL"
  | error => "ERROR"
  | warning => "WARNING"
  | info => "INFO"
  | debug => "DEBUG"

namespace Place

/-- The characters of the line before the token.  A negative column counts from the line's end. -/
def before (p : Place) : List Char :=
  let cs := p.line.toList
  cs.take (if p.start < 0 then (cs.length + p.start).toNat else p.start.toNat)

/-- The characters that keep the carets below the token. -/
def padding (p : Place) : List Char := p.before.map fun c => if c = '\t' then '\t' else ' '

/-- A caret for each column of the token, and at least one. -/
def carets (p : Place) : List Char := List.replicate (max p.width 1).toNat '^'

/-- The line and the source of a place. -/
def describe (p : Place) : String :=
  "On line " ++ toString p.lineNumber ++
    (match p.source with
      | some s => if s.isEmpty then "" else " of " ++ s
      | none => "")

end Place

/-- The rows of a diagnostic. -/
def diagnosticRows (severity : Severity) (message : String) (p : Place) : List String :=
  ["[" ++ severity.name ++ "]: " ++ p.describe ++ ".", "  " ++ p.line,
    "  " ++ String.ofList (p.padding ++ p.carets)] ++
  (Text.rows message).map ("  " ++ ·)

/-- A diagnostic as it is shown. -/
def diagnostic (severity : Severity) (message : String) : Option Place → String
  | none => "[" ++ severity.name ++ "]: " ++ message
  | some p => String.intercalate "\n" (diagnosticRows severity message p)

example : diagnostic .error "Bad.\nUsage: X" (some ⟨"\tHOME x", 3, 6, 7, some "a"⟩) =
    "[ERROR]: On line 3 of a.\n  \tHOME x\n  \t     ^\n  Bad.\n  Usage: X" := by
  decide +kernel
example : diagnostic .warning "Bad." none = "[WARNING]: Bad." := by decide +kernel

end PlotScript
