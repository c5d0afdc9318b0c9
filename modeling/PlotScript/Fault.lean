/-
# What can go wrong

A `Cause` says what is wrong, and `Cause.message` words it.  A `Complaint` is a cause together
with the lexeme it is about.  A `Fault` ends a command or a run:

| fault | ends |
| --- | --- |
| complaint of grade *command* | the command |
| complaint of grade *device* | the command; it comes from the plotter |
| complaint of grade *fatal* | the run |
| interrupt | the line that was typed |
| failure | the run; nothing in the language foresees it |

| | follows |
| --- | --- |
| `Grade` | the taxonomy of errors, language specification, §7 |
| `Complaint` | an `AxiLangError`: a message, perhaps a token, perhaps a number in the stream, §13 |
| `Refusal` | a `DriverError`, or whatever else a plotter ends a call with |
| `Failure` | what no part of the specification foresees |
-/

import PlotScript.Constant
import PlotScript.Diagnostic
import PlotScript.Text.Escape

namespace PlotScript

/-- The number that a command lacks. -/
inductive Argument where
  | x
  | y
  | time
  deriving DecidableEq, Repr

/-- An argument as messages describe it. -/
def Argument.description : Argument → String
  | x => "X coordinate"
  | y => "Y coordinate"
  | time => "wait time"

/-- What is wrong. -/
inductive Cause where
  /-- Wording that comes from elsewhere. -/
  | said (text : String)
  /-- The same, with the lexeme that it is about according to those who say so. -/
  | pointed (text : String) (x : Lexeme)
  -- words
  | unknownToken (word : String)
  | commentNotClosed
  -- commands
  | unexpectedToken (text : String)
  | modeNotSet
  | modeNotGiven
  | modeInvalid
  | modeAlreadySet (m : Mode)
  | onlyInteractive (command : String)
  | onlyPlot (command : String)
  | blockNotClosed (b : Block)
  | blockEmpty (b : Block)
  | settingInvalid (b : Block) (interactive : Bool)
  | settingOnlyInteractive (s : Setting)
  | settingRepeated (s : Setting)
  | valueInvalid (s : Setting)
  | valueOutOfRange (s : Setting) (low high : Nat)
  | argumentInvalid (a : Argument) (command : String)
  | drawWithoutY
  | drawInvalidY
  | drawTooShort
  | plotSourceNotGiven
  -- execution
  | modeRefused
  | fileUnreadable (path : String)
  | svgMalformed (path : String)
  | svgOtherRoot (path : String)
  | plotNotLoaded
  /-- With what the operating system says about it. -/
  | removalFailed (path error : String)
  | interrupted
  -- scripts
  | fileMissing (path : String)
  | fileNotRegular (path : String)
  | fileEmpty (path : String)
  | sourceNotGiven
  -- downloads
  | downloadFailed (url : String)
  | downloadRefused (url : String) (status : Int)
  | redirectWithoutTarget (url : String)
  | redirectTooOften
  | temporaryNotCreated
  | temporaryNotWritten (path : String)
  -- the plotter
  | plotterMissing
  | plotterBroken
  | plotterNotFound
  | plotterNotConnected
  | plotterWithoutDrawing
  -- configurations
  | configMissing (path : String)
  | configUnknown (name : String)
  | configNotRegular (path : String)
  | configMalformed (path : String) (line : Nat) (text : String)
  deriving DecidableEq, Repr

namespace Cause

/-- How a mode is set. -/
def modeUsage : String := "Usage: MODE <I|P>"

/-- How a path is drawn. -/
def drawUsage : String := "Usage: DRAW <X> <Y> <X> <Y> ..."

/-- How a command with this argument is written. -/
def argumentUsage (command : String) : Argument → String
  | .time => "Usage: WAIT <MS>"
  | _ => "Usage: " ++ command ++ " <X> <Y>"

/-- The wording of a cause. -/
def message : Cause → String
  | said text | pointed text _ => text
  | unknownToken word => "Unknown token '" ++ word ++ "'."
  | commentNotClosed => "Block comment is never closed with '=%'."
  | unexpectedToken text => "Unexpected token '" ++ text ++ "'."
  | modeNotSet => "No mode specified. Please set a mode first.\n" ++ modeUsage
  | modeNotGiven => "No mode specified.\n" ++ modeUsage
  | modeInvalid => "Invalid mode specified.\n" ++ modeUsage
  | modeAlreadySet m => "Mode is already set to " ++ m.name ++ "."
  | onlyInteractive command => command ++ " can only be used in interactive mode."
  | onlyPlot command => command ++ " can only be used in plot mode."
  | blockNotClosed b => b.opening ++ " block is never closed with " ++ b.closing ++ "."
  | blockEmpty b => b.opening ++ " block does not set any options."
  | settingInvalid b interactive =>
    "Invalid option specified.\nUsage: " ++ b.opening ++ " <OPTION> <VALUE> ... " ++ b.closing ++
      "\nOptions: " ++ Setting.keywordList interactive
  | settingOnlyInteractive s => s.keyword ++ " can only be set in interactive mode."
  | settingRepeated s => s.keyword ++ " is set more than once; using the last value."
  | valueInvalid s => "Invalid " ++ s.description ++ " specified.\nUsage: " ++ s.usage
  | valueOutOfRange s low high =>
    "Invalid " ++ s.description ++ " specified.\nValue must be from " ++ toString low ++ " to " ++
      toString high ++ "."
  | argumentInvalid a command =>
    "Invalid " ++ a.description ++ " specified.\n" ++ argumentUsage command a
  | drawWithoutY => "Missing Y coordinate.\n" ++ drawUsage
  | drawInvalidY => "Invalid Y coordinate specified.\n" ++ drawUsage
  | drawTooShort => "DRAW requires at least two points.\n" ++ drawUsage
  | plotSourceNotGiven =>
    "No file path/internet URL specified.\nUsage: SETPLOT \"<PATH|URL>\""
  | modeRefused => "The plotter did not enter interactive mode."
  | fileUnreadable path => "Could not open file '" ++ path ++ "'."
  | svgMalformed path => "File '" ++ path ++ "' is not a valid SVG document.\n<xml error>"
  | svgOtherRoot path => "File '" ++ path ++ "' is not an SVG document."
  | plotNotLoaded => "No plot file loaded.\nUse SETPLOT \"<PATH|URL>\" before PLOT."
  | removalFailed path error => "Could not remove temporary file '" ++ path ++ "': " ++ error
  | interrupted => "Command interrupted."
  | fileMissing path => "File '" ++ path ++ "' does not exist."
  | fileNotRegular path => "'" ++ path ++ "' is not a file."
  | fileEmpty path => "File '" ++ path ++ "' is empty."
  | sourceNotGiven => "No file specified.\nUsage: source <PATH>"
  | downloadFailed url => "Could not download file from \"" ++ Text.escape url ++ "\"."
  | downloadRefused url status =>
    "Could not download file from \"" ++ Text.escape url ++ "\" (HTTP " ++ toString status ++ ")."
  | redirectWithoutTarget url => "Redirect from \"" ++ Text.escape url ++ "\" has no location."
  | redirectTooOften => "Too many redirects."
  | temporaryNotCreated => "Could not create temporary file for plot."
  | temporaryNotWritten path => "Could not write temporary file '" ++ path ++ "'."
  | plotterMissing =>
    "The library 'pyaxidraw' is not installed.\nPlease install it with 'pip install " ++
      "https://cdn.evilmadscientist.com/dl/ad/public/AxiDraw_API.zip'"
  | plotterBroken => "Could not initialize AxiDraw API."
  | plotterNotFound => "Could not connect to AxiDraw."
  | plotterNotConnected => "Not connected to AxiDraw"
  | plotterWithoutDrawing => "No SVG input provided."
  | configMissing path => "Could not find config file " ++ path ++ "."
  | configUnknown name => "Could not find any file or module named " ++ name ++ "."
  | configNotRegular path => "Config file " ++ path ++ " is not a file."
  | configMalformed path line text =>
    "Config file " ++ path ++ " has a syntax error on line " ++ toString line ++ ":\n    " ++ text

/-- The lexeme that comes with wording from elsewhere. -/
def lexeme? : Cause → Option Lexeme
  | pointed _ x => some x
  | _ => none

end Cause

/-- How much a complaint ends. -/
inductive Grade where
  /-- No more than itself. -/
  | general
  /-- The command. -/
  | command
  /-- The action of the plotter. -/
  | device
  /-- The run. -/
  | fatal
  deriving DecidableEq, Repr

/-- The severity with which a complaint is shown. -/
def Grade.severity : Grade → Severity
  | fatal => .fatal
  | _ => .error

/-- A cause with the lexeme it is about, and the number of that lexeme in its stream. -/
structure Complaint where
  cause : Cause
  lexeme : Option Lexeme
  index : Option Int
  deriving DecidableEq, Repr

namespace Complaint

/-- A complaint about no lexeme. -/
def plain (cause : Cause) : Complaint := ⟨cause, none, none⟩

/-- A complaint about a lexeme. -/
def about (cause : Cause) (x : Lexeme) : Complaint := ⟨cause, some x, none⟩

/-- The wording of a complaint. -/
def message (c : Complaint) : String := c.cause.message

/-- Where a complaint points to: to its lexeme, or else to the one that came with its wording. -/
def place? (c : Complaint) : Option Place := (c.lexeme.or c.cause.lexeme?).map Lexeme.place

/-- A complaint as it is shown. -/
def describe (c : Complaint) (g : Grade) : String := diagnostic g.severity c.message c.place?

end Complaint

/-- Faults that nothing in the language foresees. -/
inductive Failure where
  /-- The plotter failed while it ran. -/
  | runtime (text : String)
  /-- The plotter was given a value it cannot take. -/
  | value (text : String)
  /-- The operating system refused something, or octets are no text. -/
  | system (text : String)
  /-- A configuration ended with a fault of a kind of its own. -/
  | raised (kind text : String)
  /-- A token was added to a stream that has ended. -/
  | streamEnded
  /-- A line was handed to a lexer that reads its own lines. -/
  | lexerReads
  /-- A whole number has more digits than are read. -/
  | tooManyDigits (count : Nat)
  /-- A number token has no digits. -/
  | notNumber (text : String)
  /-- A position outside a list. -/
  | outOfRange
  /-- A whole number is too large for a coordinate. -/
  | overflow
  /-- No configuration has a value of this name. -/
  | notConfigured (name : String)
  /-- The address of a host opens or closes a bracket alone. -/
  | hostBrackets
  /-- The address in brackets is of another kind. -/
  | hostNotInBrackets
  /-- The address in brackets is of no known version. -/
  | hostVersion
  /-- The text in brackets is not an address. -/
  | hostNotAddress (host : String)
  /-- The address of a host stands for reserved characters. -/
  | hostReserved (host : String)
  /-- A path has a null character. -/
  | pathWithNull
  /-- No path is given where one must be. -/
  | pathNotGiven
  /-- A folder is named as a configuration, and has no file that stands for it. -/
  | folderWithoutMain (path : String)
  /-- A configuration file has a null character. -/
  | sourceWithNull
  /-- The root of a drawing has a name with colons. -/
  | badRootName (name : String)
  /-- The name of a temporary file cannot begin with this value. -/
  | badTempPrefix (v : Constant)
  /-- Redirects cannot be counted up to this value. -/
  | badRedirectLimit (v : Constant)
  deriving DecidableEq

/-- What is said about a text that cannot be put after a value. -/
def Failure.prefixMessage (v : Constant) : String :=
  match v.kind with
  | "bytes" => "Can't mix bytes and non-bytes in path components."
  | "list" | "tuple" => "can only concatenate " ++ v.kind ++ " (not \"str\") to " ++ v.kind
  | kind => "unsupported operand type(s) for +: '" ++ kind ++ "' and 'str'"

/-- The wording of a failure. -/
def Failure.message : Failure → String
  | runtime text => text
  | value text => text
  | system text => text
  | raised _ text => text
  | streamEnded => "Cannot append tokens after the end of file."
  | lexerReads => "lex_line() is only available on a single-line lexer"
  | tooManyDigits count =>
    "Exceeds the limit (4300 digits) for integer string conversion: value has " ++
      toString count ++ " digits; use sys.set_int_max_str_digits() to increase the limit"
  | notNumber text => "could not convert string to float: " ++ Text.quote text
  | outOfRange => "list index out of range"
  | overflow => "int too large to convert to float"
  | notConfigured name => "No configured value for " ++ name ++ "."
  | hostBrackets => "Invalid IPv6 URL"
  | hostNotInBrackets => "An IPv4 address cannot be in brackets"
  | hostVersion => "IPvFuture address is invalid"
  | hostNotAddress host => Text.quote host ++ " does not appear to be an IPv4 or IPv6 address"
  | hostReserved host =>
    "netloc '" ++ host ++ "' contains invalid characters under NFKC normalization"
  | pathWithNull => "embedded null byte"
  | pathNotGiven => "stat: path should be string, bytes, os.PathLike or integer, not list"
  | folderWithoutMain path => "can't find '__main__' module in " ++ Text.quote path
  | sourceWithNull => "source code string cannot contain null bytes"
  | badRootName name => "Invalid tag name " ++ Text.quote name
  | badTempPrefix v => prefixMessage v
  | badRedirectLimit v => "'>' not supported between instances of 'int' and '" ++ v.kind ++ "'"

/-- What ends a command or a run. -/
inductive Fault where
  | complaint (grade : Grade) (c : Complaint)
  | interrupt (text : String)
  | failure (f : Failure)
  deriving DecidableEq

namespace Fault

/-- A fault of a command. -/
abbrev command (c : Complaint) : Fault := complaint .command c

/-- A fault that ends the run. -/
abbrev fatal (c : Complaint) : Fault := complaint .fatal c

/-- The wording of a fault. -/
def message : Fault → String
  | complaint _ c => c.message
  | interrupt text => text
  | failure f => f.message

end Fault

/-- Why a plotter does not do what it is asked.  A plotter is told nothing of the lexemes of a
script; still, a complaint of its own may come with one, and with the number of one, and an executor
takes its word for it. -/
inductive Refusal where
  | complaint (grade : Grade) (cause : Cause) (index : Option Int)
  | interrupt (text : String)
  | failure (f : Failure)
  deriving DecidableEq

/-- A refusal as a fault. -/
def Refusal.toFault : Refusal → Fault
  | complaint grade cause index => .complaint grade ⟨cause, none, index⟩
  | interrupt text => .interrupt text
  | failure f => .failure f

end PlotScript
