/-
# The program

The program reads its arguments, loads the configuration, and then runs a script, or a session that
may run a script first:

| ends | status | standard error |
| --- | --- | --- |
| well, or after the help or the version | 0 | the records of the log and the messages |
| with a fault | 1 | the same, and the fault |
| with arguments that have no meaning | 2 | the usage and what is wrong |

Records for debugging are left out unless they are asked for, on the command line or, once the
configuration is in force, by it.  Prompts go to standard output.

| | follows |
| --- | --- |
| `run`, `start` | the command line interface, language specification, §15 |
| `configuration` | the configuration in force, §11 |
| `shown`, `row?` | what the log shows of the records, §12 |
| `Ending.status` | the exit code: 0 on success, 1 on any Fatal or strict Error |
-/

import PlotScript.CommandLine
import PlotScript.Config
import PlotScript.Plotter.Preview
import PlotScript.Script
import PlotScript.Session

namespace PlotScript
namespace Program

/-- How the program is used. -/
def usage : String := "usage: 
    Run a script file:                axilang script.axi [OPTIONS]

    Start an interactive session:     axilang -i [OPTIONS]

    For a quick list of options, use: axilang --help

    To display current version, use:  axilang --version
        
"

/-- What the help says. -/
def help : String := usage ++ "
AxiLang Command Line Interface.

positional arguments:
  script                The AxiLang script file to run

options:
  -h, --help            show this help message and exit
  -f FILE, --file FILE  The AxiLang script file to run (same as the positional
                        argument)
  -i, --interactive     Start an interactive session. A script file, if given,
                        is run first.
  -d, --debug           Show debug messages
  -p, --preview         Preview mode; simulate the AxiDraw without hardware.
  -c CONFIG, --config CONFIG
                        Filename for the custom configuration file.
  -v, --version         Output the version of axilang
"

/-- What is said about the version. -/
def versionText : String := "AxiLang Command Line Interface " ++ version ++ "\n"

/-- What is said if there is nothing to run. -/
def nothingToRun : String := "usage: axilang [file] [OPTIONS]
    A script file or --interactive is required.
    For help, use: axilang --help
"

/-- What is said about arguments that have no meaning. -/
def usageFault (f : UsageFault) : String := usage ++ "axilang: error: " ++ f.message ++ "\n"

/-- The text of an event on standard error. -/
def row? : Event → Option String
  | .log _ text => some (text ++ "\n")
  | .out text => some (text ++ "\n")
  | .call _ | .machine _ | .get _ _ _ => none

/-- What events leave on standard error. -/
def shown (debug : Bool) (es : List Event) : String :=
  String.join ((Event.kept debug es).filterMap row?)

/-- The lines of what is typed. -/
def typedLines (s : String) : List String :=
  let pieces := Web.splitAt '\n' s.toList
  (if pieces.getLast? = some [] then pieces.dropLast else pieces).map String.ofList

/-- What ran. -/
inductive Runner where
  | script (e : Executor Preview)
  | session (s : Session Preview)

/-- How the program ends. -/
structure Ending where
  /-- The status, unless it ends with a fault that nothing foresees. -/
  status : Except Fault Nat
  output : String
  errors : String
  site : Site
  /-- What ran and the configuration in force, if it ended well. -/
  runner : Option (Runner × Config Constant)

namespace Ending

/-- An ending at which nothing ran. -/
def early (status : Nat) (output errors : String) (site : Site) : Ending :=
  ⟨.ok status, output, errors, site, none⟩

/-- The ending after a run; a fault that is fatal is reported, and any other was before. -/
def after (result : Except Fault (Runner × Config Constant)) (output errors : String)
    (site : Site) : Ending :=
  match result with
  | .ok x => ⟨.ok 0, output, errors, site, some x⟩
  | .error (.complaint .fatal c) =>
    ⟨.ok 1, output, errors ++ shown false [.report .fatal c], site, none⟩
  | .error (.complaint _ _) => ⟨.ok 1, output, errors, site, none⟩
  | .error f => ⟨.error f, output, errors, site, none⟩

end Ending

/-- A session that waits for what is typed, and what was written before. -/
structure Waiting where
  session : Session Preview
  config : Config Constant
  errors : String

namespace Waiting

/-- Records for debugging are kept. -/
def debug (w : Waiting) : Bool := w.session.executor.params.debug

/-- The ending after a session. -/
def ending (w : Waiting) (t : Session.Transcript Preview) : Ending :=
  let last := (t.exchanges.getLast?.map Session.Exchange.after).getD w.session
  .after
    (match t.fault with
      | some f => .error f
      | none => .ok (.session last, w.config))
    (String.join (t.exchanges.map fun x => x.prompt.shown))
    (w.errors ++ String.join (t.exchanges.map fun x => shown w.debug x.events))
    last.executor.bench.site

end Waiting

/-- What the program does before anything is typed. -/
inductive Start where
  | ended (e : Ending)
  | waiting (w : Waiting)

/-- The path that an option is given, if it is used. -/
def path? : Option Given → Except Fault (Option String)
  | none => .ok none
  | some (.text s) => .ok (some s)
  | some .nothing => .error (.failure .pathNotGiven)

/-- The configuration in force. -/
def configuration (a : Arguments) (site : Site) : Except Fault (Config Constant) := do
  let path ← path? a.config
  site.checkConfig path
  let merged ← Config.loadAll site [path, some Config.standardName]
  let given (name : String) : Option Constant :=
    if name = "debug" && a.debug then some (.truth true) else none
  match Config.assign given [merged] merged Params.names with
  | (.ok (), c) => .ok c
  | (.error f, _) => .error (.failure f)

/-- Runs a script. -/
def runScript (debug : Bool) (c : Config Constant) (path : String) (site : Site) : Ending :=
  let params := Params.ofConfig c
  let loaded := Script.load path site
  let before := shown debug loaded.events
  match loaded.result with
  | .error f => .after (.error f) "" before loaded.state
  | .ok l =>
    let o := Script.perform l (.start true params Preview.start loaded.state)
    .after (o.result.map fun _ => (.script o.state, c)) "" (before ++ shown params.debug o.events)
      o.state.bench.site

/-- Opens a session, and runs a script in it if there is one. -/
def openSession (c : Config Constant) (path : Option String) (site : Site) : Start :=
  let params := Params.ofConfig c
  let first : Session Preview := .start params Preview.start site
  let o := match path with
    | some path => Session.source path first
    | none => Act.pure () first
  let errors := shown params.debug o.events
  match o.result with
  | .error f => .ended (.after (.error f) "" errors o.state.executor.bench.site)
  | .ok () => .waiting ⟨o.state, c, errors⟩

/-- The path of the script if there is one, checked. -/
def checkedScript (site : Site) (given : Option Given) : Except Fault (Option String) := do
  let path ← path? given
  match path with
  | some path => site.checkScript path
  | none => .ok ()
  return path

/-- Does what the arguments ask for. -/
def run (a : Arguments) (site : Site) : Start :=
  let checked : Except Fault (Config Constant × Option String) := do
    let c ← configuration a site
    let path ← checkedScript site a.scriptPath
    if a.preview then return (c, path) else .error (.fatal (.plain .plotterMissing))
  match checked, a.interactive with
  | .error f, _ => .ended (.after (.error f) "" "" site)
  | .ok (c, some path), false => .ended (runScript a.debug c path site)
  | .ok (c, path), _ => openSession c path site

/-- What the program does with its arguments. -/
def start (arguments : List String) (site : Site) : Start :=
  match Arguments.parse arguments with
  | .error .help => .ended (.early 0 help "" site)
  | .error (.wrong f) => .ended (.early 2 "" (usageFault f) site)
  | .ok a =>
    if a.version then .ended (.early 0 versionText "" site)
    else if a.scriptPath.isNone && !a.interactive then .ended (.early 1 nothingToRun "" site)
    else run a site

/-- What the program does with its arguments and with all that is typed. -/
def execute (arguments : List String) (typed : String) (site : Site) : Ending :=
  match start arguments site with
  | .ended e => e
  | .waiting w => w.ending (w.session.run ((typedLines typed).map Input.typed))

/-- The paths that the arguments name. -/
def namedPaths (arguments : List String) : List String :=
  match Arguments.parse arguments with
  | .ok a => (a.config.toList ++ a.scriptPath.toList).filterMap Given.text?
  | .error _ => []

/-- The paths that a line names: its texts, and the script it sources. -/
def mentionedPaths (line : String) : List String :=
  let (l, _, _) := (Lexer.reading [line] none).tokens
  (l.filter fun x => x.kind = .string).map Lexeme.text ++
    (sourceArgument? (Text.sanitize line)).toList

end Program
end PlotScript
