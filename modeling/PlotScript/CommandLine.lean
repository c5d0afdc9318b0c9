/-
# The command line

The arguments of the program are options and the path of a script, in any order:

| option | takes |
| --- | --- |
| `-f`, `--file` | the path of a script |
| `-c`, `--config` | the name of a configuration |
| `-i`, `-d`, `-p`, `-v`, `-h` and their long forms | nothing |

A long option may be cut short as long as no other begins the same way, and may have its value
after `=`.  Short options may be written together, also after a `=` that follows the first one, and
one that takes a value has what is left as its value; a `--` that is left there counts for nothing.
After `--` nothing is an option, and neither is an argument that is empty, is `-`, is a negative
number, or has a space in it and begins with no option.

The options are those of the language specification, §15.
-/

import PlotScript.Text.Digit
import PlotScript.Text.Escape
import PlotScript.Web.Url

namespace PlotScript

/-- The options of the command line, in the order in which the help lists them. -/
inductive Flag where
  | help
  | file
  | interactive
  | debug
  | preview
  | config
  | version
  deriving DecidableEq, Repr

namespace Flag

/-- All options. -/
def all : List Flag := [help, file, interactive, debug, preview, config, version]

/-- The letter of an option. -/
def letter : Flag → Char
  | help => 'h'
  | file => 'f'
  | interactive => 'i'
  | debug => 'd'
  | preview => 'p'
  | config => 'c'
  | version => 'v'

/-- The word of an option. -/
def word : Flag → String
  | help => "help"
  | file => "file"
  | interactive => "interactive"
  | debug => "debug"
  | preview => "preview"
  | config => "config"
  | version => "version"

/-- An option that takes a value. -/
def takesValue : Flag → Bool
  | file | config => true
  | help | interactive | debug | preview | version => false

/-- The long form of an option. -/
def long (f : Flag) : String := "--" ++ f.word

/-- Both forms of an option, as messages name it. -/
def names (f : Flag) : String := "-" ++ f.letter.toString ++ "/" ++ f.long

/-- The option of a letter. -/
def ofLetter? (c : Char) : Option Flag := all.find? fun f => f.letter = c

/-- The option of a word. -/
def ofWord? (word : List Char) : Option Flag := all.find? fun f => f.word.toList = word

end Flag

/-- What is wrong with the arguments. -/
inductive UsageFault where
  | unrecognized (l : List String)
  | needsValue (f : Flag)
  | takesNoValue (f : Flag) (value : String)
  | ambiguous (text : String) (matching : List Flag)
  deriving DecidableEq, Repr

/-- The wording of what is wrong with the arguments. -/
def UsageFault.message : UsageFault → String
  | unrecognized l => "unrecognized arguments: " ++ String.intercalate " " l
  | needsValue f => "argument " ++ f.names ++ ": expected one argument"
  | takesNoValue f value =>
    "argument " ++ f.names ++ ": ignored explicit argument " ++ Text.quote value
  | ambiguous text matching =>
    "ambiguous option: " ++ text ++ " could match " ++
      String.intercalate ", " (matching.map Flag.long)

/-- What an option that takes a value is given. -/
inductive Given where
  | text (s : String)
  /-- Nothing: `--` is joined to the option. -/
  | nothing
  deriving DecidableEq, Repr

namespace Given

/-- What an option is given by the text that is joined to it. -/
def ofJoined (cs : List Char) : Given :=
  if cs = ['-', '-'] then nothing else text (String.ofList cs)

/-- The text that is given. -/
def text? : Given → Option String
  | text s => some s
  | nothing => none

end Given

/-- What the arguments say. -/
structure Arguments where
  /-- The path that is given without an option. -/
  script : Option String
  file : Option Given
  config : Option Given
  interactive : Bool
  debug : Bool
  preview : Bool
  version : Bool
  deriving DecidableEq, Repr

namespace Arguments

/-- What no arguments say. -/
def empty : Arguments := ⟨none, none, none, false, false, false, false⟩

/-- The script to be run: the option comes before the path without an option. -/
def scriptPath (a : Arguments) : Option Given := a.file.or (a.script.map .text)

/-- What one argument is. -/
inductive Item where
  /-- A path or the value of an option. -/
  | plain (text : String)
  /-- What ends the options. -/
  | dashes
  /-- A long option, with what stands after `=`. -/
  | long (f : Flag) (value : Option (List Char))
  /-- A short option, with what is joined to its letter. -/
  | short (f : Flag) (joined : Option (List Char))
  /-- An option that there is not. -/
  | unknown (text : String)
  deriving DecidableEq, Repr

/-- A negative number, with or without a point; a line feed may follow it. -/
def isNegativeNumber (cs : List Char) : Bool :=
  match cs with
  | '-' :: r =>
    let r := if r.getLast? = some '\n' then r.dropLast else r
    match r.dropWhile Text.isDigit with
    | [] => !r.isEmpty
    | '.' :: places => !places.isEmpty && places.all Text.isDigit
    | _ => false
  | _ => false

/-- What an argument is that begins with a dash and is no option. -/
def otherwise (text : String) : Item :=
  if isNegativeNumber text.toList || text.toList.contains ' ' then .plain text else .unknown text

/-- What an argument with two dashes is. -/
def longItem (text : String) (cs : List Char) : Except UsageFault Item :=
  let (word, value) := Web.cut '=' cs
  match Flag.ofWord? word with
  | some f => .ok (.long f value)
  | none =>
    match Flag.all.filter fun f : Flag => word.isPrefixOf f.word.toList with
    | [] => .ok (otherwise text)
    | [f] => .ok (.long f value)
    | l => .error (.ambiguous text l)

/-- What is joined to a letter, if anything follows it.  A `=` between them does not count. -/
def joined? : List Char → Option (List Char)
  | [] => none
  | '=' :: r => some r
  | r => some r

/-- What an argument is. -/
def item (text : String) : Except UsageFault Item :=
  match text.toList with
  | ['-', '-'] => .ok .dashes
  | '-' :: '-' :: r => longItem text r
  | '-' :: c :: r =>
    match Flag.ofLetter? c with
    | some f => .ok (.short f (joined? r))
    | none => .ok (otherwise text)
  | _ => .ok (.plain text)

/-- What the arguments are; after `--` all are plain. -/
def items : List String → Except UsageFault (List Item)
  | [] => .ok []
  | text :: r => do
    match ← item text with
    | .dashes => return .dashes :: r.map Item.plain
    | i => return i :: (← items r)

/-- An argument that is an option or was meant to be one. -/
def Item.isOption : Item → Bool
  | plain _ | dashes => false
  | long _ _ | short _ _ | unknown _ => true

/-- What is known after some of the arguments. -/
structure Known where
  arguments : Arguments
  /-- The path without an option was given. -/
  scriptGiven : Bool
  /-- The arguments that have no meaning. -/
  unrecognized : List String

/-- Why the arguments are not read to their end. -/
inductive Stop where
  | help
  | wrong (f : UsageFault)
  deriving DecidableEq, Repr

/-- What is known after an option without a value. -/
def Known.flag (k : Known) (f : Flag) : Except Stop Known :=
  let a := k.arguments
  match f with
  | .help => .error .help
  | .interactive => .ok { k with arguments := { a with interactive := true } }
  | .debug => .ok { k with arguments := { a with debug := true } }
  | .preview => .ok { k with arguments := { a with preview := true } }
  | .version => .ok { k with arguments := { a with version := true } }
  | .file | .config => .ok k

/-- What is known after options without a value. -/
def Known.flags (k : Known) : List Flag → Except Stop Known
  | [] => .ok k
  | f :: r => do (← k.flag f).flags r

/-- What is known after an option with a value. -/
def Known.value (k : Known) (f : Flag) (value : Given) : Known :=
  let a := k.arguments
  match f with
  | .file => { k with arguments := { a with file := some value } }
  | .config => { k with arguments := { a with config := some value } }
  | .help | .interactive | .debug | .preview | .version => k

/-- What is known after a plain argument: the first one is the path of the script. -/
def Known.plain (k : Known) (text : String) : Known :=
  if k.scriptGiven then { k with unrecognized := k.unrecognized ++ [text] }
  else { k with arguments := { k.arguments with script := some text }, scriptGiven := true }

/-- What is known after an argument that has no meaning. -/
def Known.unrecognize (k : Known) (text : String) : Known :=
  { k with unrecognized := k.unrecognized ++ [text] }

/-- An option that takes the next argument as its value, after the options in `before`; the result
says that it was taken. -/
def takeNext (k : Known) (before : List Flag) (f : Flag) : List Item → Except Stop (Known × Bool)
  | .plain text :: _ => do return ((← k.flags before).value f (.text text), true)
  | _ => .error (.wrong (.needsValue f))

/-- A short option after those in `before`, with nothing joined to its letter; the result says
whether the next argument was taken as its value. -/
def readLetter (k : Known) (before : List Flag) (f : Flag) (next : List Item) :
    Except Stop (Known × Bool) :=
  if f.takesValue then takeNext k before f next
  else do return (← k.flags (before ++ [f]), false)

/-- Short options that are written together, after those in `before`.  No option has an effect
before all their letters are read. -/
def readLetters (k : Known) (before : List Flag) (f : Flag) (next : List Item) :
    List Char → Except Stop (Known × Bool)
  | [] => .error (.wrong (.takesNoValue f ""))
  | c :: r =>
    match Flag.ofLetter? c with
    | none => .error (.wrong (.takesNoValue f (String.ofList (c :: r))))
    | some g =>
      let before := before ++ [f]
      if r.isEmpty then readLetter k before g next
      else if g.takesValue then do return ((← k.flags before).value g (.ofJoined r), false)
      else readLetters k before g next r

/-- A short option with what is joined to it. -/
def readShort (k : Known) (f : Flag) (next : List Item) :
    Option (List Char) → Except Stop (Known × Bool)
  | none => readLetter k [] f next
  | some joined =>
    if f.takesValue then .ok (k.value f (.ofJoined joined), false)
    else readLetters k [] f next joined

/-- Reads an option; the result says whether the next argument was taken as its value. -/
def readOption (k : Known) (next : List Item) : Item → Except Stop (Known × Bool)
  | .plain text => .ok (k.plain text, false)
  | .dashes => .ok (k, false)
  | .unknown text => .ok (k.unrecognize text, false)
  | .short f joined => readShort k f next joined
  | .long f (some value) =>
    if f.takesValue then .ok (k.value f (.ofJoined value), false)
    else .error (.wrong (.takesNoValue f (String.ofList value)))
  | .long f none =>
    if f.takesValue then takeNext k [] f next
    else do return (← k.flag f, false)

/-- An argument as it was written; only arguments after the last option are asked for. -/
def Item.text : Item → String
  | plain text => text
  | dashes => "--"
  | long f _ => f.long
  | short f _ => "-" ++ f.letter.toString
  | unknown text => text

/-- Reads the arguments after the last option.  One `--` beside the path of the script is passed
over, if the path was not given before. -/
def Known.readLast (k : Known) (l : List Item) : Known :=
  if k.scriptGiven then { k with unrecognized := k.unrecognized ++ l.map Item.text }
  else
    let l := match l with
      | .dashes :: r => r
      | l => l
    match l with
    | [] => k
    | path :: r =>
      let r := match r with
        | .dashes :: r => r
        | r => r
      { k.plain path.text with unrecognized := k.unrecognized ++ r.map Item.text }

/-- Reads arguments. -/
def readItems (k : Known) (l : List Item) : Except Stop Known :=
  match l with
  | [] => .ok k
  | i :: r =>
    if l.any Item.isOption then
      match readOption k r i with
      | .error s => .error s
      | .ok (k, taken) => readItems k (if taken then r.drop 1 else r)
    else .ok (k.readLast l)
termination_by l.length
decreasing_by
  simp only [List.length_cons]
  split
  · simp only [List.length_drop]; omega
  · omega

/-- Reads the arguments of the program. -/
def parse (l : List String) : Except Stop Arguments := do
  let items ← (items l).mapError Stop.wrong
  let k ← readItems ⟨empty, false, []⟩ items
  if k.unrecognized.isEmpty then return k.arguments
  else .error (.wrong (.unrecognized k.unrecognized))

end Arguments
end PlotScript
