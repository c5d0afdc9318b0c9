/-
# Pieces of a configuration

A configuration file is made of these pieces, with blanks between them:

| piece | written |
| --- | --- |
| name | an identifier |
| whole number | digits in base ten, or in base 16, 8 or 2 after `0x`, `0o` or `0b` |
| binary64 number | digits in base ten with a point, an exponent, or both |
| text | between apostrophes or double quotes, one or three of them |
| octets | the same, after `b` |
| line end | a line feed outside of brackets |
| margin | what sets a line in: blanks before its first piece, or a backslash |
| sign | any other character |

An underscore may stand before a digit, except before the first one in base ten.  A whole number of
base ten does not begin with a zero unless it is zero.  In a text a backslash and what follows it
may stand for one character, unless an `r` stands before the quote; a line feed stands in it only
between three quotes or after a backslash.  Outside of a text a backslash takes the line feed after
it away.  Comments are gone when a file is taken to pieces.
-/

import PlotScript.Config.Encoding
import PlotScript.Decimal.Shortest
import PlotScript.Text.Identifier
import PlotScript.Text.Unescape
import PlotScript.Web.Host

namespace PlotScript
namespace Config

/-- A piece of a configuration. -/
inductive Piece where
  | name (cs : List Char)
  /-- A whole number; none if it has too many digits. -/
  | number (n : Option Nat)
  /-- A binary64 number. -/
  | float (x : Float)
  /-- A text; none if an escape in it is cut short. -/
  | text (cs : Option (List Char))
  /-- Octets; none if another character is among them, or an escape is cut short. -/
  | octets (l : Option (List UInt8))
  | sign (c : Char)
  | lineEnd
  | margin
  deriving DecidableEq, Repr

namespace Piece

/-- The value of digits. -/
def valueOf (base : Nat) (digits : List Char) : Nat :=
  Text.valueOf base (digits.filterMap Text.hexValue?)

/-- A digit of base ten. -/
def isDecimalDigit (c : Char) : Bool := '0' ≤ c && c ≤ '9'

/-- Digits, each with an underscore before it or none, and what follows them; none if there is no
digit, or none after an underscore. -/
def takeDigits (isDigit : Char → Bool) : List Char → Option (List Char × List Char)
  | [] => none
  | c :: r =>
    if isDigit c then
      if r.head?.any fun d => isDigit d || d == '_' then
        (takeDigits isDigit r).map fun (digits, rest) => (c :: digits, rest)
      else some ([c], r)
    else if c = '_' && r.head?.any isDigit then takeDigits isDigit r
    else none

/-- Words that may follow a number without a blank. -/
def joiningWords : List String :=
  ["and", "else", "for", "if", "in", "is", "or", "not"]

/-- What follows the digits of a number is not part of the same word. -/
def endsNumber (rest : List Char) : Bool :=
  match rest with
  | [] => true
  | c :: _ =>
    !(c.isAlphanum || c == '_' || 0x80 ≤ c.toNat) ||
      joiningWords.any fun w => w.toList.isPrefixOf rest

/-- The most digits of a whole number in base ten. -/
def digitLimit : Nat := 4300

/-- The number in a base at the front of a text. -/
def takeInBase (base : Nat) (isDigit : Char → Bool) (cs : List Char) :
    Option (Piece × List Char) := do
  let (digits, rest) ← takeDigits isDigit cs
  if endsNumber rest then some (.number (some (valueOf base digits)), rest) else none

/-- The digits in base ten at the front of a text that may have none. -/
def takeAnyDigits (cs : List Char) : Option (List Char × List Char) :=
  if cs.head?.any isDecimalDigit then takeDigits isDecimalDigit cs else some ([], cs)

/-- The exponent at the front of a text, if it has one: `e`, a sign or none, and digits. -/
def takeExponent (cs : List Char) : Option (Option Int × List Char) :=
  let signed (sign : Int) (r : List Char) : Option (Option Int × List Char) :=
    (takeDigits isDecimalDigit r).map fun (digits, rest) =>
      (some (sign * valueOf 10 digits), rest)
  match cs with
  | 'e' :: c :: r | 'E' :: c :: r =>
    if c = '+' || c = '-' then
      if r.head?.any isDecimalDigit then signed (if c = '-' then -1 else 1) r else none
    else if isDecimalDigit c then signed 1 (c :: r)
    else some (none, cs)
  | _ => some (none, cs)

/-- A number above this power of ten is infinite, and one below its inverse is zero. -/
def decimalLimit : Int := 400

/-- The binary64 number nearest to the value of digits times a power of ten. -/
def floatOf (digits : List Char) (exponent : Int) : Float :=
  let n := valueOf 10 digits
  if n = 0 || exponent + digits.length < -decimalLimit then 0
  else
    let (a, b) := Decimal.decadic n (min exponent decimalLimit)
    Decimal.nearestDouble a b

/-- The number in base ten at the front of a text that begins with a digit, or with a point and a
digit. -/
def takeDecimal (cs : List Char) : Option (Piece × List Char) := do
  let (whole, r) ← takeAnyDigits cs
  let hasPoint := r.head? = some '.'
  let (places, r) ← if hasPoint then takeAnyDigits (r.drop 1) else some ([], r)
  let (exponent, rest) ← takeExponent r
  let isZero := whole.all (· == '0')
  if !endsNumber rest then none
  else if hasPoint || exponent.isSome then
    some (.float (floatOf (whole ++ places) (exponent.getD 0 - places.length)), rest)
  else if isZero then some (.number (some 0), rest)
  else if whole.head? = some '0' then none
  else if digitLimit < whole.length then some (.number none, rest)
  else some (.number (some (valueOf 10 whole)), rest)

/-- The number at the front of a text. -/
def takeNumber (cs : List Char) : Option (Piece × List Char) :=
  match cs with
  | '0' :: 'x' :: r | '0' :: 'X' :: r => takeInBase 16 Web.isHexDigit r
  | '0' :: 'o' :: r | '0' :: 'O' :: r => takeInBase 8 (fun c => '0' ≤ c && c ≤ '7') r
  | '0' :: 'b' :: r | '0' :: 'B' :: r => takeInBase 2 (fun c => c == '0' || c == '1') r
  | _ => takeDecimal cs

/-- The characters up to a closing mark, and what follows it.  A backslash and the character after
it do not close the text, and a mark of one quote lets no line feed in. -/
def takeQuoted (mark : List Char) : List Char → Option (List Char × List Char)
  | [] => none
  | c :: r =>
    if mark.isPrefixOf (c :: r) then some ([], (c :: r).drop mark.length)
    else match c, r with
      | '\\', d :: r => (takeQuoted mark r).map fun (inner, rest) => ('\\' :: d :: inner, rest)
      | c, r =>
        if c = '\n' && mark.length = 1 then none
        else (takeQuoted mark r).map fun (inner, rest) => (c :: inner, rest)

/-- What the letters before a quote say of the text. -/
structure Style where
  /-- A backslash stands for itself. -/
  raw : Bool
  /-- The text stands for octets. -/
  octets : Bool

/-- The style that letters stand for. -/
def style? (letters : List Char) : Option Style :=
  match letters.map Char.toLower with
  | [] | ['u'] => some ⟨false, false⟩
  | ['r'] => some ⟨true, false⟩
  | ['b'] => some ⟨false, true⟩
  | ['b', 'r'] | ['r', 'b'] => some ⟨true, true⟩
  | _ => none

/-- The octets that characters between quotes stand for. -/
def octetsOf? (s : Style) (inner : List Char) : Option (List UInt8) :=
  if inner.all fun c => c.toNat < 0x80 then
    (if s.raw then some inner else Text.unescape Text.octetEscape? inner).map fun cs =>
      cs.map fun c => UInt8.ofNat c.toNat
  else none

/-- The piece that stands between quotes. -/
def ofQuoted (s : Style) (inner : List Char) : Piece :=
  if s.octets then .octets (octetsOf? s inner)
  else .text (if s.raw then some inner else Text.unescape Text.escape? inner)

/-- A character that opens a text. -/
def isQuote (c : Char) : Bool := c == '\'' || c == '"'

/-- The text at the front of characters that begin with a quote. -/
def takeText (s : Style) (cs : List Char) : Option (Piece × List Char) :=
  let three := cs.head?.toList.flatMap (List.replicate 3)
  let mark := if three.isPrefixOf cs then three else cs.take 1
  (takeQuoted mark (cs.drop mark.length)).map fun (inner, rest) => (ofQuoted s inner, rest)

/-- A character that belongs to a name if the name is an identifier at all. -/
def isWordChar (c : Char) : Bool := c.isAlphanum || c == '_' || 0x80 ≤ c.toNat

/-- The name at the front of a text, or the text whose letters are there. -/
def takeName (cs : List Char) : Option (Piece × List Char) :=
  let word := cs.takeWhile isWordChar
  let rest := cs.dropWhile isWordChar
  match if rest.head?.any isQuote then style? word else none with
  | some s => takeText s rest
  | none =>
    if word.head?.any Text.isInitial && word.all Text.isLater then some (.name word, rest) else none

/-- A character that cannot be shown. -/
def isControl (c : Char) : Bool := c.toNat < 0x20 || c.toNat == 0x7F

/-- The piece at the front of a text. -/
def take (cs : List Char) : Option (Piece × List Char) :=
  match cs with
  | [] => none
  | c :: r =>
    if isQuote c then takeText ⟨false, false⟩ cs
    else if isDecimalDigit c || (c = '.' && r.head?.any isDecimalDigit) then takeNumber cs
    else if isWordChar c then takeName cs
    else if isControl c then none
    else some (.sign c, r)

/-- A line begins with blanks.  A form feed takes back those before it. -/
def isIndented (cs : List Char) : Bool :=
  ((cs.takeWhile isGap).getLast?).any (· != '\x0c')

/-- The margin of the line at the front of a text, if something stands on the line. -/
def marginOf (cs : List Char) : List Piece :=
  match (cs.dropWhile isGap).head? with
  | none | some '\n' => []
  | some c => if isIndented cs || c = '\\' then [.margin] else []

/-- The most brackets that may be open. -/
def bracketLimit : Nat := 200

/-- How many brackets are open after a piece, where so many are before. -/
def depthAfter (depth : Nat) (p : Piece) : Nat :=
  match p with
  | .sign '(' | .sign '[' | .sign '\x7b' => depth + 1
  | .sign ')' | .sign ']' | .sign '\x7d' => depth - 1
  | _ => depth

/-- The pieces of a text that stands in so many brackets, up to a backslash that does not end its
line; none if one of them is misspelt. -/
def ofText (depth : Nat) (cs : List Char) : Option (List Piece) :=
  match cs with
  | [] => some []
  | c :: r =>
    if isGap c then ofText depth r
    else if c = '\n' then
      if depth = 0 then (ofText 0 r).map fun l => .lineEnd :: (marginOf r ++ l)
      else ofText depth r
    else if c = '\\' then
      match r with
      | '\n' :: d :: s => ofText depth (d :: s)
      | _ => some [.sign '\\']
    else
      match take (c :: r) with
      | none => none
      | some (piece, rest) =>
        if _h : rest.length ≤ r.length then
          if bracketLimit < depthAfter depth piece then none
          else (ofText (depthAfter depth piece) rest).map (piece :: ·)
        else none
termination_by cs.length
decreasing_by all_goals (simp only [List.length_cons]; omega)

/-- The pieces of a file. -/
def ofFile (cs : List Char) : Option (List Piece) := (ofText 0 cs).map (marginOf cs ++ ·)

example : ofFile "a = -0x1F\n [b,\n]".toList = some [.name ['a'], .sign '=', .sign '-',
    .number (some 31), .lineEnd, .margin, .sign '[', .name ['b'], .sign ',', .sign ']'] := by
  decide +kernel
example : ofFile "'x\\x41\\101\\q'".toList = some [.text (some "xAA\\q".toList)] := by
  decide +kernel
example : ofFile "Rb'\\x' '''a\n'''".toList =
    some [.octets (some [0x5C, 0x78]), .text (some ['a', '\n'])] := by decide +kernel
example : ofFile "'\\x4'".toList = some [.text none] := by decide +kernel
example : ofFile "1.5 .5e1 01.".toList = some [.float 1.5, .float 5, .float 1] := by decide +kernel
example : ofFile "a = 'b".toList = none ∧ ofFile "'b\n'".toList = none := by decide +kernel
example : ofFile "08".toList = none ∧ ofFile "1__0".toList = none := by decide +kernel

end Piece
end Config
end PlotScript
