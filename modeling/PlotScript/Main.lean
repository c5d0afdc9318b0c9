/-
# The program at a terminal

Here the program meets the terminal and the files.  A file is read when the arguments, a typed line
or a file that is run names it; what the program does with it is decided elsewhere.
-/

import PlotScript.Program

namespace PlotScript
namespace Terminal

/-- What lies at a path. -/
def entry? (path : String) : IO (Option Entry) := do
  try
    let bytes ← IO.FS.readBinFile path
    return some (.file bytes.toList)
  catch
    | .noFileOrDirectory .. => return none
    | .inappropriateType .. => return some .folder
    | _ => return none

/-- A tree with what lies at these paths besides. -/
def addPaths (f : Files) (paths : List String) : IO Files :=
  paths.foldlM
    (fun f path => do
      match ← entry? path with
      | some e => return ⟨(Files.simplified f.here path, e) :: f.entries, f.here⟩
      | none => return f)
    f

/-- The paths that a file names. -/
def pathsInFile (f : Files) (path : String) : List String :=
  match (f.lookup path).bind Entry.bytes? |>.bind Text.Utf8.decode? with
  | some cs => (Text.fileLines cs).flatMap Program.mentionedPaths
  | none => []

/-- A tree with what lies at these paths, and at the paths that the files there name. -/
def addNamed (f : Files) (paths : List String) : IO Files := do
  let f ← addPaths f paths
  addPaths f (paths.flatMap (pathsInFile f))

/-- The session with the files that a line names. -/
def withNamed (s : Session Preview) (line : String) : IO (Session Preview) := do
  let e := s.executor
  let files ← addNamed e.bench.site.files (Program.mentionedPaths line)
  let bench := { e.bench with site := { e.bench.site with files := files } }
  return { s with executor := { e with bench := bench } }

/-- Writes a text at once. -/
def write (out : IO.FS.Stream) (text : String) : IO Unit := do
  out.putStr text
  out.flush

/-- The next input. -/
def input (stdin : IO.FS.Stream) : IO Input := do
  let line ← stdin.getLine
  if line.isEmpty then return .endOfInput
  return .typed (Text.dropLineEnd line)

/-- Holds a session, and gives the fault that ended it. -/
partial def converse (debug : Bool) (s : Session Preview) : IO (Option Fault) := do
  write (← IO.getStdout) s.prompt.shown
  let i ← input (← IO.getStdin)
  let s ← match i with
    | .typed line => withNamed s line
    | _ => pure s
  let o := Session.respond i s
  let err ← IO.getStderr
  write err (Program.shown debug o.events)
  match o.result, o.state.running with
  | .ok (), true => converse debug o.state
  | result, _ =>
    write err (Program.shown debug o.state.finish.1)
    match result with
    | .ok () => return none
    | .error f => return some f

/-- Writes what an ending has written, and gives its status. -/
def finish (e : Program.Ending) : IO UInt32 := do
  write (← IO.getStdout) e.output
  write (← IO.getStderr) e.errors
  match e.status with
  | .ok n => return UInt32.ofNat n
  | .error f =>
    write (← IO.getStderr) (f.message ++ "\n")
    return 1

/-- The surroundings of a run that names these paths: no web, no ports, and nothing that runs
configurations. -/
def site (paths : List String) : IO Site := do
  let here := (Files.components (toString (← IO.currentDir))).filter (· ≠ "")
  return ⟨← addNamed ⟨[], here⟩ paths, .fresh "", [], [], .plain⟩

end Terminal
end PlotScript

open PlotScript in
/-- The program. -/
def main (arguments : List String) : IO UInt32 := do
  match Program.start arguments (← Terminal.site (Program.namedPaths arguments)) with
  | .ended e => Terminal.finish e
  | .waiting w => do
    Terminal.write (← IO.getStderr) w.errors
    match ← Terminal.converse w.debug w.session with
    | none => return 0
    | some f => Terminal.finish (.after (.error f) "" "" w.session.executor.bench.site)
