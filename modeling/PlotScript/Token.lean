/-
# Tokens

A token is a word of a script with its kind; a lexeme is a token with its place.  `classify` gives
the token of a word by the first row that fits:

| word | kind | text of the token |
| --- | --- | --- |
| a keyword | of the keyword | the word |
| decimal digits only | number | the word |
| begins with `"` | string | the word without its quotes |
| any other | unknown | the word |

| | follows |
| --- | --- |
| `Kind`, `Token` | the Token Model of the language specification, §3, with its keyword table |
| `Place`, `Lexeme` | a positioned token: its line, line number and columns |
| `classify` | step 5 of `nextToken`, §4.1 |
-/

import PlotScript.Setting

namespace PlotScript

/-- The kinds of token. -/
inductive Kind where
  | mode
  | modeName (m : Mode)
  | blockStart (b : Block)
  | blockEnd (b : Block)
  | setting (s : Setting)
  | connect
  | disconnect
  | penUp
  | penDown
  | penToggle
  | home
  | goTo
  | goToRelative
  | draw
  | wait
  | getPosition
  | getPen
  | setPlot
  | plot
  | number
  | string
  | unknown
  | endOfFile
  deriving DecidableEq, Repr

/-- The keywords with their kinds. -/
def keywords : List (String × Kind) :=
  [("MODE", .mode), ("P", .modeName .plot), ("I", .modeName .interactive),
    (Block.options.opening, .blockStart .options), (Block.options.closing, .blockEnd .options),
    (Block.update.opening, .blockStart .update), (Block.update.closing, .blockEnd .update)] ++
  Setting.all.map (fun s => (s.keyword, .setting s)) ++
  [("CONNECT", .connect), ("DISCONNECT", .disconnect), ("PENUP", .penUp), ("PENDOWN", .penDown),
    ("PENTOGGLE", .penToggle), ("HOME", .home), ("GOTO", .goTo), ("GOTO_REL", .goToRelative),
    ("DRAW", .draw), ("WAIT", .wait), ("GETPOS", .getPosition), ("GETPEN", .getPen),
    ("SETPLOT", .setPlot), ("PLOT", .plot)]

/-- A word of a script. -/
structure Token where
  kind : Kind
  text : String
  deriving DecidableEq, Repr

/-- A decimal digit. -/
def isDecimalDigit (c : Char) : Bool := '0' ≤ c && c ≤ '9'

/-- The text between the quotes; the closing quote may be missing. -/
def unquote : List Char → List Char
  | [] => []
  | _ :: inner => if inner.getLast? = some '"' then inner.dropLast else inner

/-- The token of a word. -/
def classify (word : String) : Token :=
  match keywords.lookup word with
  | some kind => ⟨kind, word⟩
  | none =>
    let cs := word.toList
    if cs.all isDecimalDigit then ⟨.number, word⟩
    else if cs.head? = some '"' then ⟨.string, String.ofList (unquote cs)⟩
    else ⟨.unknown, word⟩

/-- Where a token stands: its line, and the columns from `start` up to `stop` of it. -/
structure Place where
  line : String
  lineNumber : Int
  start : Int
  stop : Int
  source : Option String
  deriving DecidableEq, Repr

namespace Place

/-- The number of columns a token takes. -/
def width (p : Place) : Int := p.stop - p.start

/-- Two places on one line of one source. -/
def sameLine (p q : Place) : Bool :=
  p.source == q.source && p.lineNumber == q.lineNumber && p.line == q.line

end Place

/-- A token with its place. -/
structure Lexeme where
  token : Token
  place : Place
  deriving DecidableEq, Repr

namespace Lexeme

/-- The kind of the token. -/
abbrev kind (x : Lexeme) : Kind := x.token.kind

/-- The text of the token. -/
abbrev text (x : Lexeme) : String := x.token.text

end Lexeme

example : classify "GOTO" = ⟨.goTo, "GOTO"⟩ := by decide +kernel
example : classify "0012" = ⟨.number, "0012"⟩ := by decide +kernel
example : classify "\"a" = ⟨.string, "a"⟩ := by decide +kernel
example : classify "\"" = ⟨.string, ""⟩ := by decide +kernel
example : classify "goto" = ⟨.unknown, "goto"⟩ := by decide +kernel

end PlotScript
