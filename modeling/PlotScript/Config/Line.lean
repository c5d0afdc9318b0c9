/-
# Assignments

A configuration file is read line by line.  A line holds statements with semicolons between them,
and one more may stand at its end:

| statement | assigns |
| --- | --- |
| a literal | nothing |
| names, each with `=` after it, and a literal | the literal to each of the names |
| a name, `:`, its kind, `=`, a literal | the literal to the name |

A line goes on where the next one begins as long as a bracket or a long text is open, or where a
backslash ends it.  It must not begin with blanks, unless nothing stands on it.  The words of the
language are no names, and names are the same if their compositions are.  From `#` to the end of its
line a comment stands; it is taken out before the octets are decoded (`uncommented`), so it need not
be well formed.

Where a file is not read, a fault is looked for from its first line on (`firstFault?`).  Lines that
can be read together are passed over together.
-/

import PlotScript.Config.Basic
import PlotScript.Config.Literal
import PlotScript.Config.Source
import PlotScript.Text.Normalize

namespace PlotScript
namespace Config

/-- Where an octet of a file stands. -/
inductive Spot where
  | outside
  /-- After a backslash outside of texts, where no comment begins. -/
  | slash
  | comment
  /-- After a first quote, or after two of them. -/
  | opening (quote : UInt8) (twice : Bool)
  /-- In a text between three quotes or one, after so many closing quotes. -/
  | inside (quote : UInt8) (long : Bool) (closing : Nat)
  /-- After a backslash in a text. -/
  | escaped (quote : UInt8) (long : Bool)
  deriving DecidableEq, Repr

namespace Spot

/-- Where an octet leads that stands outside of texts. -/
def fromOutside (b : UInt8) : Spot :=
  if b = 0x23 then comment
  else if b = 0x5C then slash
  else if b = 0x22 || b = 0x27 then opening b false
  else outside

/-- Where an octet leads that stands in a text. -/
def fromInside (quote : UInt8) (long : Bool) (closing : Nat) (b : UInt8) : Spot :=
  if b = 0x5C then escaped quote long
  else if b ≠ quote then inside quote long 0
  else if long && closing < 2 then inside quote long (closing + 1)
  else outside

/-- Where an octet leads. -/
def next (s : Spot) (b : UInt8) : Spot :=
  match s with
  | outside => fromOutside b
  | slash => if b = 0x23 then outside else fromOutside b
  | comment => if b = lineFeed then outside else comment
  | opening quote false => if b = quote then opening quote true else fromInside quote false 0 b
  | opening quote true => if b = quote then inside quote true 0 else fromOutside b
  | inside quote long closing => fromInside quote long closing b
  | escaped quote long => inside quote long 0

end Spot

/-- Octets without the comments in them. -/
def uncommented (s : Spot) : List UInt8 → List UInt8
  | [] => []
  | b :: r =>
    if s.next b = .comment then uncommented .comment r else b :: uncommented (s.next b) r

/-- Words that are no names. -/
def reserved : List String :=
  ["False", "None", "True", "__debug__", "and", "as", "assert", "async", "await", "break", "class",
    "continue", "def", "del", "elif", "else", "except", "finally", "for", "from", "global", "if",
    "import", "in", "is", "lambda", "nonlocal", "not", "or", "pass", "raise", "return", "try",
    "while", "with", "yield"]

/-- The name of a word that a value can be assigned to. -/
def nameOf? (word : List Char) : Option String :=
  if reserved.contains (String.ofList word) then none
  else some (String.ofList (Text.compose word))

/-- Kinds that a name may be said to be of. -/
def kindNames : List String :=
  ["None", "bool", "bytes", "complex", "dict", "float", "frozenset", "int", "list", "object", "set",
    "str", "tuple"]

/-- A piece that names a kind; a text may name any. -/
def isKind : Piece → Bool
  | .name word => kindNames.contains (String.ofList word)
  | .text cs => cs.isSome
  | _ => false

/-- The names before equals signs, and the value after the last of them. -/
def readTargets? : List Piece → Option (List String × Constant)
  | .name word :: .sign '=' :: r => do
    let name ← nameOf? word
    let (names, v) ← readTargets? r
    return (name :: names, v)
  | l => (Literal.read? l).map fun v => ([], v)

/-- What a statement assigns. -/
def readStatement? : List Piece → Option (List (String × Constant))
  | .name word :: .sign ':' :: kind :: .sign '=' :: r => do
    let name ← nameOf? word
    let v ← Literal.read? r
    if isKind kind then return [(name, v)] else none
  | l => (readTargets? l).map fun (names, v) => names.map (·, v)

/-- What the statements of a line assign. -/
def readRow? (l : List Piece) : Option (List (String × Constant)) :=
  let statements := Web.splitAt (.sign ';') l
  let statements := if statements.getLast? = some [] then statements.dropLast else statements
  (statements.mapM readStatement?).map List.flatten

/-- What lines assign, one name after the other; none if this is not all they do. -/
def readLines? (lines : List (List UInt8)) : Option (List (String × Constant)) := do
  let octets := lines.flatMap (· ++ [lineFeed])
  let cs ← Text.Utf8.decode? (uncommented .outside octets)
  let pieces ← Piece.ofFile cs
  let rows ← (Web.splitAt .lineEnd pieces).mapM readRow?
  return rows.flatten

/-- What is wrong with a line. -/
inductive LineFault where
  /-- Its pieces make no statement. -/
  | malformed
  /-- It begins with blanks. -/
  | indented
  /-- It has a backslash outside of a text. -/
  | cutShort
  /-- A piece is no piece. -/
  | misspelt
  deriving DecidableEq, Repr

/-- What is wrong with a line that cannot be read. -/
def faultOf (line : List UInt8) : LineFault :=
  match Text.Utf8.decode? (uncommented .outside line) with
  | none => .malformed
  | some cs =>
    if Piece.isIndented cs then .indented
    else match Piece.ofText 0 cs with
      | none => .misspelt
      | some l => if l.getLast? = some (.sign '\\') then .cutShort else .malformed

/-- How many lines from the first one on can be read together, if any; as few as possible. -/
def readable? (lines : List (List UInt8)) : Option Nat :=
  (List.range' 1 lines.length).find? fun n => (readLines? (lines.take n)).isSome

/-- What is wrong with the lines from a number on, with its number, where so many are passed over
and `met` was met before.  A piece that is none comes before a line that is no statement, but
nothing is looked for after a backslash or after a line that begins with blanks and is the first
that is wrong. -/
def faultFrom (number passed : Nat) (met : Option (Nat × LineFault)) :
    List (List UInt8) → Option (Nat × LineFault)
  | [] => met
  | line :: r =>
    match passed, readable? (line :: r) with
    | n + 1, _ => faultFrom (number + 1) n met r
    | 0, some n => faultFrom (number + 1) (n - 1) met r
    | 0, none =>
      match faultOf line, met with
      | .misspelt, _ => some (number, .misspelt)
      | .malformed, none => faultFrom (number + 1) 0 (some (number, .malformed)) r
      | f, none => some (number, f)
      | .cutShort, some x => some x
      | _, some x => faultFrom (number + 1) 0 (some x) r

/-- What is wrong with lines, with the number of the line. -/
def firstFault? (lines : List (List UInt8)) : Option (Nat × LineFault) := faultFrom 1 0 none lines

/-- What the lines of a text assign. -/
def readText? (s : String) : Option (List (String × Constant)) :=
  readLines? ((Web.splitAt '\n' s.toList).map fun cs => Text.Utf8.encode (String.ofList cs))

example : readText? "prompt = 'a # b'  # c" = some [("prompt", .text "a # b")] := by
  decide +kernel
example : readText? "a = b = -3; c: int = 4;\n\nd = 'x' \\\n 'y'" =
    some [("a", .int (-3)), ("b", .int (-3)), ("c", .int 4), ("d", .text "xy")] := by
  decide +kernel
example : readText? "'''a\n# b'''\nc = (1.5,  # d\n  None,)" =
    some [("c", .tuple [.num (.float 1.5), .none])] := by decide +kernel
example : readText? "prompt =" = none ∧ readText? " prompt = 1" = none := by decide +kernel
example : readText? "prompt = 1 \\# a\n" = none := by decide +kernel
example : readText? " \x0c # a" = some [] ∧ readText? "if = 1" = none := by decide +kernel
example : firstFault? (["'''a", "'''", "x = [", "]", "y ="].map Text.Utf8.encode) =
    some (5, .malformed) := by decide +kernel

end Config
end PlotScript
