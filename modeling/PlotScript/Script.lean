/-
# Running a script file

A script is read as a whole before its first command is carried out, so a script with an unknown
word anywhere does nothing:

| stage | ends the run |
| --- | --- |
| the file | is missing, no regular file, empty, or not UTF-8 |
| the words | one of them is unknown; all that are unknown are reported |
| the commands | one of them has a fault |

However the commands end, what was fetched for them is removed.

| | follows |
| --- | --- |
| `execute` | `execute_file`, the batch runner, language specification, §14 |
| `lexemes`, `load` | reading the whole file and reporting all its unknown tokens |
| `perform` | dispatching in strict mode |
-/

import PlotScript.Executor
import PlotScript.Token.Lexer

namespace PlotScript
namespace Script

/-- A complaint that ends the run once every complaint is reported. -/
def firstComplaint (l : List Complaint) : Except Fault Unit :=
  match l with
  | [] => .ok ()
  | c :: _ => .error (.command c)

/-- The lexemes of lines, with the end of the file, unless a word is unknown. -/
def lexemes (source : String) (lines : List String) : Act Fault Site (List Lexeme) := do
  let (l, warning, lexer) := (Lexer.reading lines (some source)).tokens
  Act.tell (warning.toList.map Event.warn)
  Act.tell (lexer.complaints.map (Event.report .command))
  Act.ofExcept (firstComplaint lexer.complaints)
  return l

/-- The characters of a text file. -/
def text (s : Site) (path : String) : Except Fault (List Char) :=
  match (s.lookup path).bind Entry.bytes? |>.bind Text.Utf8.decode? with
  | some cs => .ok cs
  | none => .error (.fatal (.plain (.fileUnreadable path)))

/-- Reads a script. -/
def load (path : String) : Act Fault Site (List Lexeme) := do
  let s ← Act.get
  Act.ofExcept (s.checkScript path)
  Act.log .debug ("Parsing file '" ++ path ++ "'.")
  let cs ← Act.ofExcept (text s path)
  lexemes path (Text.fileLines cs)

variable {σ : Type} [Device σ]

/-- Carries out the commands of a script and removes what was fetched for them. -/
def perform (l : List Lexeme) : Act Fault (Executor σ) Unit := fun e =>
  let o := e.parse l
  let (es, e) := o.state.close
  ⟨o.result.map fun _ => (), o.events ++ es, e⟩

/-- An act on the site of an executor. -/
def onSite {α : Type} (x : Act Fault Site α) : Act Fault (Executor σ) α :=
  (Bench.onSite x).on Executor.bench fun b e => { e with bench := b }

/-- Reads a script and carries it out. -/
def execute (path : String) : Act Fault (Executor σ) Unit := do
  let l ← onSite (load path)
  perform l

end Script
end PlotScript
