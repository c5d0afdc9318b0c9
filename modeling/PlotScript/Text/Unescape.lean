/-
# Reading escapes

A backslash and what follows it may stand for one character:

| escape | stands for |
| --- | --- |
| `\\`, `\'`, `\"` | the second character |
| `\a`, `\b`, `\t`, `\n`, `\v`, `\f`, `\r` | a control character |
| one to three octal digits | the character of that number |
| `\x`, `\u`, `\U` with two, four, eight digits | the character of that number in base 16 |
| a line feed | nothing |

Any other backslash stands for itself.  In a raw text only `\u` and `\U` are escapes, and in octets
all but these are.
-/

namespace PlotScript
namespace Text

/-- The value of a digit in base 16. -/
def hexValue? (c : Char) : Option Nat :=
  if '0' ≤ c && c ≤ '9' then some (c.toNat - 48)
  else if 'a' ≤ c && c ≤ 'f' then some (c.toNat - 87)
  else if 'A' ≤ c && c ≤ 'F' then some (c.toNat - 55)
  else none

/-- The value of digits in a base. -/
def valueOf (base : Nat) (digits : List Nat) : Nat := digits.foldl (fun n d => base * n + d) 0

/-- The character of a number; one that there is not is shown as `U+FFFD`. -/
def characterOf (n : Nat) : Char := if n.isValidChar then Char.ofNat n else '\uFFFD'

/-- The highest number of a character. -/
def highest : Nat := 0x10FFFF

/-- The character of exactly so many digits in base 16 at the front of a text. -/
def coded? (count : Nat) (cs : List Char) : Option Char := do
  let digits ← (cs.take count).mapM hexValue?
  let n := valueOf 16 digits
  if digits.length = count && n ≤ highest then some (characterOf n) else none

/-- What a backslash before a text stands for, and how many characters of the text belong to it;
none if something is missing. -/
def escape? (cs : List Char) : Option (List Char × Nat) :=
  match cs with
  | [] => none
  | c :: r =>
    match c with
    | '\n' => some ([], 1)
    | '\\' | '\'' | '"' => some ([c], 1)
    | 'a' => some (['\x07'], 1)
    | 'b' => some (['\x08'], 1)
    | 't' => some (['\t'], 1)
    | 'n' => some (['\n'], 1)
    | 'v' => some (['\x0b'], 1)
    | 'f' => some (['\x0c'], 1)
    | 'r' => some (['\r'], 1)
    | 'x' => (coded? 2 r).map fun d => ([d], 3)
    | 'u' => (coded? 4 r).map fun d => ([d], 5)
    | 'U' => (coded? 8 r).map fun d => ([d], 9)
    | 'N' => none
    | c =>
      let octal := (cs.take 3).takeWhile fun c => '0' ≤ c && c ≤ '7'
      if octal.isEmpty then some (['\\', c], 1)
      else some ([characterOf (valueOf 8 (octal.filterMap hexValue?))], octal.length)

/-- What a backslash before a raw text stands for. -/
def rawEscape? (cs : List Char) : Option (List Char × Nat) :=
  match cs with
  | [] => some (['\\'], 0)
  | 'u' :: r => (coded? 4 r).map fun d => ([d], 5)
  | 'U' :: r => (coded? 8 r).map fun d => ([d], 9)
  | c :: _ => some (['\\', c], 1)

/-- What a backslash before octets stands for.  Octets have no escapes of four or eight digits. -/
def octetEscape? (cs : List Char) : Option (List Char × Nat) :=
  match cs with
  | 'u' :: _ => some (['\\', 'u'], 1)
  | 'U' :: _ => some (['\\', 'U'], 1)
  | 'N' :: _ => some (['\\', 'N'], 1)
  | cs => escape? cs

/-- What a text with escapes stands for. -/
def unescape (escape? : List Char → Option (List Char × Nat)) (cs : List Char) :
    Option (List Char) :=
  match cs with
  | [] => some []
  | c :: r =>
    if c = '\\' then do
      let (front, count) ← escape? r
      return front ++ (← unescape escape? (r.drop count))
    else (unescape escape? r).map (c :: ·)
termination_by cs.length
decreasing_by all_goals (simp only [List.length_cons, List.length_drop]; omega)

example : unescape escape? "x\\x41\\101\\q".toList = some "xAA\\q".toList := by decide +kernel
example : unescape escape? "\\x4".toList = none := by decide +kernel
example : unescape rawEscape? "\\x41\\u0041".toList = some "\\x41A".toList := by decide +kernel

end Text
end PlotScript
