/-
# What a file must be

| file | must | else |
| --- | --- | --- |
| drawing | be readable, in the encoding that it declares | the command ends |
| drawing | be a well-formed document whose root element is `svg` | the command ends |
| drawing | have a root whose name, without its prefix, is plain | the program fails |
| script | exist, be a regular file, and not be empty | the run ends |
| configuration | be a regular file, if it exists | the run ends |

The conditions on a drawing and on a script are those of the language specification, §14.
-/

import PlotScript.Markup.Document
import PlotScript.Site

namespace PlotScript
namespace Site

/-- A path that a file can be opened by. -/
def checkPath (path : String) : Except Fault Unit :=
  if path.toList.contains '\x00' then .error (.failure .pathWithNull) else .ok ()

/-- What is wrong with a drawing for the command at a lexeme, if there is one. -/
def drawingFault? (s : Site) (path : String) (anchor : Option Lexeme) : Option Fault :=
  let about (cause : Cause) : Fault := .command ⟨cause, anchor, none⟩
  match (s.lookup path).bind Entry.bytes? with
  | none => some (about (.fileUnreadable path))
  | some bytes =>
    match Markup.rootName bytes with
    | .error .undecodable => some (about (.fileUnreadable path))
    | .error .malformed => some (about (.svgMalformed path))
    | .ok name =>
      if !Markup.isPlainName name then some (.failure (.badRootName (String.ofList name)))
      else if name = "svg".toList then none
      else some (about (.svgOtherRoot path))

/-- Checks a drawing for the command at a lexeme, if there is one. -/
def checkDrawing (s : Site) (path : String) (anchor : Option Lexeme) : Except Fault Unit := do
  checkPath path
  match s.drawingFault? path anchor with
  | none => .ok ()
  | some fault => .error fault

/-- What is wrong with a script. -/
def scriptFault? (s : Site) (path : String) : Option Cause :=
  match s.lookup path with
  | none => some (.fileMissing path)
  | some .folder => some (.fileNotRegular path)
  | some (.file bytes) => if bytes.isEmpty then some (.fileEmpty path) else none

/-- Checks a script. -/
def checkScript (s : Site) (path : String) : Except Fault Unit :=
  match s.scriptFault? path with
  | none => .ok ()
  | some cause => .error (.fatal (.plain cause))

/-- Checks a configuration file. -/
def checkConfig (s : Site) : Option String → Except Fault Unit
  | none => .ok ()
  | some path =>
    match s.lookup path with
    | some .folder => .error (.fatal (.plain (.configNotRegular path)))
    | _ => .ok ()

end Site
end PlotScript
