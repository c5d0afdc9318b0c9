/-
# What evaluates a configuration

A configuration is a program in a language of its own, and may be more than literals that are
assigned to names.  What runs such a program is not part of this project: it is an `Evaluator`, of
which nothing is known.  A program of literal assignments is read without it, and so is the standard
configuration.

| a program | comes to |
| --- | --- |
| that runs to its end | what it leaves assigned |
| that is not well formed | the path, the line, and what the line holds |
| to which the operating system refuses something | whether something is missing |
| that ends with any other fault | the fault |

`Evaluator.plain` knows nothing but literals.  It takes any other program for one that is not well
formed, and knows no module.
-/

import PlotScript.Config.Line
import PlotScript.Files

namespace PlotScript

/-- What running a configuration comes to. -/
inductive Evaluation where
  /-- Names have values, one assigned after the other. -/
  | assigned (l : List (String × Constant))
  /-- A line of a file is malformed. -/
  | malformed (path : String) (line : Nat) (text : String)
  /-- The operating system refuses something; `missing` if it is not there. -/
  | refused (missing : Bool)
  | failed (f : Failure)

/-- What runs configurations that are more than literal assignments. -/
structure Evaluator where
  /-- Runs a file, at a path of a tree and with these octets. -/
  runFile (f : Files) (path : String) (bytes : List UInt8) : Evaluation
  /-- Runs a module of a name; none if there is none. -/
  runModule (f : Files) (name : String) : Option (Except Failure (List (String × Constant)))

namespace Config

/-- What a file of literal assignments assigns, one name after the other; none for another file. -/
def literals? (bytes : List UInt8) : Option (List (String × Constant)) :=
  if bytes.contains 0 then none else (Source.ofBytes? bytes).bind fun s => readLines? s.lines

/-- What a complaint shows of a file that cannot be read at all. -/
def nothingShown : String := "None"

/-- What a complaint shows of a line; `reread` is what the path of the file leads to when the
complaint is made. -/
def shownFault (s : Source) (reread : Option (List UInt8)) (number : Nat) (f : LineFault) :
    List Char :=
  match f with
  | .misspelt => Text.Utf8.lossy (s.lines[number - 1]?.getD [])
  | .malformed | .indented | .cutShort => shownLine s reread number

/-- The complaint about a file at a path that is not one of literal assignments. -/
def complain (f : Files) (path : String) (bytes : List UInt8) : Evaluation :=
  if bytes.contains 0 then .failed .sourceWithNull
  else match (Source.ofBytes? bytes).map fun s => (s, firstFault? s.lines) with
    | some (s, some (number, fault)) =>
      let reread := (f.lookup path).bind Entry.bytes?
      .malformed path number (String.ofList (shownFault s reread number fault))
    | _ => .malformed path 0 nothingShown

end Config

/-- What runs nothing. -/
def Evaluator.plain : Evaluator := ⟨Config.complain, fun _ _ => none⟩

end PlotScript
