/-
# The interactive session

A session asks for one line after another and carries each out.  Its executor goes on after a
fault, and lives as long as the session, so a block may be typed over several lines.  A line whose
letters, in either case, are one of these words is a command of the session itself:

| line | does |
| --- | --- |
| `help` | explains the session and the language |
| `history` | lists the lines typed since the history was cleared |
| `clear` | clears the history |
| `ports` | lists the plotters that are plugged in |
| `exit` | ends the session |
| `source` and a path | carries out the lines of a script |

All but the last are kept out of the history.  An interrupt drops the line that is being typed or
carried out; the session ends at `exit`, at the end of the input, or at a fault that is fatal.

| | follows |
| --- | --- |
| `run`, `respond` | `run()` of the Interactive Session, language specification, §4.3 |
| `handle`, `obey` | one line of input, and the meta-commands of §4.3 and §14 |
| `source`, `runFile`, `runLines` | `source <path>` |
| `dropLine` | an interrupt during the execution of a command, §14 |
| `finish` | the end of a session, at which the Dispatcher is closed |
-/

import PlotScript.Executor
import PlotScript.Token.Lexer

namespace PlotScript

/-- The version of the language. -/
def version : String := "1.2.0"

/-- What is explained about the session and the language. -/
def helpText : String := "AxiLang interpreter " ++ version ++ "

Session commands:
    help             Show this message
    history          List the lines entered so far
    clear            Clear the history
    source <PATH>    Run each line of a script file in this session
    ports            List connected AxiDraw units
    exit             Leave the interpreter (or press Ctrl-D)

AxiLang commands:
    MODE <I|P>
    OPTS <OPTION> <VALUE> ... END_OPTS
    UOPTS <OPTION> <VALUE> ... END_UOPTS     (interactive mode)
    CONNECT, DISCONNECT, PENUP, PENDOWN, PENTOGGLE, HOME,
    GOTO <X> <Y>, GOTO_REL <X> <Y>, DRAW <X> <Y> <X> <Y> ...,
    WAIT <MS>, GETPOS, GETPEN                (interactive mode)
    SETPLOT \"<PATH|URL>\", PLOT               (plot mode)

Options: ACCEL, PENU_POS, PEND_POS, PENU_DELAY, PEND_DELAY, PENU_SPEED,
    PEND_SPEED, PENU_RATE, PEND_RATE, MODEL, PORT \"<NAME>\", UNITS (interactive mode)
"

/-- What comes from the keyboard at a prompt. -/
inductive Input where
  | typed (text : String)
  | interrupt
  | endOfInput
  deriving DecidableEq, Repr

/-- The commands of the session itself that take no argument. -/
inductive SessionCommand where
  | help
  | history
  | clear
  | exit
  | ports
  deriving DecidableEq, Repr

/-- The session command that a line is, whatever the case of its letters. -/
def SessionCommand.ofLine? (line : String) : Option SessionCommand :=
  [("help", help), ("history", history), ("clear", clear), ("exit", exit), ("ports", ports)].lookup
    line.toLower

/-- A line that sources a script: the path it gives. -/
def sourceArgument? (line : String) : Option String :=
  let cs := line.toList
  if String.ofList ((cs.takeWhile (· != ' ')).map Char.toLower) = "source" then
    some (Text.trim (String.ofList ((cs.dropWhile (· != ' ')).drop 1)))
  else none

namespace SerialPort

/-- A port behind which there is a plotter. -/
def isPlotter (p : SerialPort) : Bool :=
  "EiBotBoard".toList.isPrefixOf p.description.toList ||
    "USB VID:PID=04D8:FD92".toList.isPrefixOf p.hardware.toList

/-- The listing of the plotters among ports. -/
def listing (l : List SerialPort) : List String :=
  match l.filter isPlotter with
  | [] => ["No AxiDraw units found."]
  | found => found.map fun p => p.device ++ "  " ++ p.description

end SerialPort

/-- A line of the history with its number, which takes at least four columns. -/
def historyRow (number : Nat) (line : String) : String :=
  let digits := toString number
  String.ofList (List.replicate (4 - digits.length) ' ') ++ digits ++ "  " ++ line

/-- The listing of a history. -/
def historyRows (l : List String) : List String :=
  (l.zipIdx 1).map fun (line, number) => historyRow number line

/-- A session. -/
structure Session (σ : Type) where
  executor : Executor σ
  lexer : Lexer
  /-- The lines typed since the history was cleared. -/
  history : List String
  running : Bool

namespace Session

variable {σ : Type}

/-- A session before the first prompt. -/
def start (params : Params) (device : σ) (site : Site) : Session σ :=
  ⟨.start false params device site, .handed none, [], true⟩

/-- The prompt: another one while a block is open. -/
def prompt (s : Session σ) : Constant :=
  let p := s.executor.params
  if s.executor.pending then p.continuationPrompt else p.prompt

/-- Messages to the user. -/
def say {τ : Type} (l : List String) : Act Fault τ Unit := Act.tell (l.map Event.out)

/-- A complaint that ends nothing. -/
def complain {τ : Type} (cause : Cause) : Act Fault τ Unit :=
  Act.tell [.report .command (.plain cause)]

/-- Does what a session command says. -/
def obey : SessionCommand → Act Fault (Session σ) Unit
  | .help => say [helpText]
  | .history => do
    let s ← Act.get
    say (historyRows s.history)
  | .clear => Act.modify fun s => { s with history := [] }
  | .exit => Act.modify fun s => { s with running := false }
  | .ports => do
    let s ← Act.get
    say (SerialPort.listing s.executor.bench.site.ports)

/-- Drops the line that was interrupted. -/
def dropLine : Act Fault (Session σ) Unit := do
  Act.modify fun s => { s with executor := s.executor.discard }
  Act.tell [.warn (.plain .interrupted)]

variable [Device σ]

/-- Runs the words of a line, unless none of them is known: then they are only reported. -/
def feed (words : List Lexeme) (unknown : List Complaint) : Act Fault (Executor σ) Unit :=
  if words.all fun x => x.kind = .unknown then Act.tell (unknown.map (Event.report .command))
  else do
    let _ ← (fun e => e.parse words)
    return ()

/-- Carries out one line with a lexer. -/
def runLine (line : String) (number : Nat) : Act Fault (Lexer × Executor σ) Unit :=
  fun (lexer, e) =>
    match lexer.lexLine line (some number) with
    | (.error f, lexer) => ⟨.error (.failure f), [], (lexer, e)⟩
    | (.ok l, after) =>
      let unknown := after.complaintsSince lexer
      let notes := unknown.map fun c => Event.log .debug (c.describe .command)
      let o := feed (l.filter fun x => x.kind ≠ .endOfFile) unknown e
      ⟨o.result, notes ++ o.events, (after, o.state)⟩

/-- Carries out one line of a sourced script. -/
def runSourced (x : String × Nat) : Act Fault (Lexer × Executor σ) Unit :=
  let line := Text.sanitize x.1
  if line.isEmpty then Act.pure () else runLine line x.2

/-- Carries out the lines of a script with a lexer of their own. -/
def runLines (path : String) (bytes : List UInt8) : Act Fault (Session σ) Unit := do
  let (lines, faulty) := Text.Utf8.linesBeforeFault bytes
  (Act.forEach (lines.zipIdx 1) runSourced).on (fun s => (.handed (some path), s.executor))
    fun x s => { s with executor := x.2 }
  if faulty then complain (.fileUnreadable path)

/-- Carries out a script.  What the operating system refuses is taken for a script that cannot be
read, also if it is the plotter that was refused it. -/
def runFile (path : String) (bytes : List UInt8) : Act Fault (Session σ) Unit := do
  Act.log .debug ("Sourcing file '" ++ path ++ "'.")
  (runLines path bytes).rescue fun
    | .failure (.system _) => some (complain (.fileUnreadable path))
    | _ => none

/-- Carries out the lines of the script at a path. -/
def source (path : String) : Act Fault (Session σ) Unit := do
  let s ← Act.get
  if path.isEmpty then complain .sourceNotGiven
  else match s.executor.bench.site.lookup path with
    | none => complain (.fileMissing path)
    | some .folder => complain (.fileNotRegular path)
    | some (.file bytes) => runFile path bytes

/-- Carries out a typed line. -/
def handle (text : String) : Act Fault (Session σ) Unit := do
  let line := Text.sanitize text
  if line.isEmpty then return ()
  match SessionCommand.ofLine? line with
  | some c => obey c
  | none => do
    Act.modify fun s => { s with history := s.history ++ [line] }
    match sourceArgument? line with
    | some path => source path
    | none => do
      let s ← Act.get
      (runLine line s.history.length).on (fun s => (s.lexer, s.executor))
        fun x s => { s with lexer := x.1, executor := x.2 }

/-- Answers one input. -/
def respond : Input → Act Fault (Session σ) Unit
  | .typed text => fun s =>
    let o := handle text s
    match o.result with
    | .error (.interrupt _) =>
      let p := dropLine o.state
      ⟨p.result, o.events ++ p.events, p.state⟩
    | _ => o
  | .interrupt => say [""]
  | .endOfInput => do
    say [""]
    Act.modify fun s => { s with running := false }

/-- Ends the session: what was fetched is removed. -/
def finish (s : Session σ) : List Event × Session σ :=
  let (es, e) := s.executor.close
  (es ++ [.out "Exiting interpreter."], { s with executor := e, running := false })

/-- One prompt, what happened after it, and the session then. -/
structure Exchange (σ : Type) where
  prompt : Constant
  events : List Event
  after : Session σ

/-- A session from its first prompt to its end, and the fault that ended it. -/
structure Transcript (σ : Type) where
  exchanges : List (Exchange σ)
  fault : Option Fault

/-- The exchange that ends a session. -/
def lastExchange (prompt : Constant) (o : Outcome Fault (Session σ) Unit) : Transcript σ :=
  let (es, s) := o.state.finish
  ⟨[⟨prompt, o.events ++ es, s⟩],
    match o.result with
    | .ok () => none
    | .error f => some f⟩

/-- The whole session; after the inputs given, the input ends. -/
def run (s : Session σ) : List Input → Transcript σ
  | [] => lastExchange s.prompt (respond .endOfInput s)
  | i :: r =>
    let o := respond i s
    match o.result with
    | .error _ => lastExchange s.prompt o
    | .ok () =>
      if o.state.running then
        let t := run o.state r
        ⟨⟨s.prompt, o.events, o.state⟩ :: t.exchanges, t.fault⟩
      else lastExchange s.prompt o

end Session
end PlotScript
