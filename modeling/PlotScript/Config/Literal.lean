/-
# Literals

A literal is read piece by piece, with a frame for each bracket that is open and one around them
all:

| piece | does |
| --- | --- |
| value | is kept, with the signs before it |
| `+`, `-` | waits for a number |
| `,` | ends a value |
| `:` | makes the value before it a key |
| opening bracket | opens a frame |
| closing bracket | makes a value of the frame, for the one around it |

Texts one after the other are one text, and so are octets.  A comma makes a tuple, in parentheses or
without any; a single value in parentheses is itself.  Keys are texts, whole numbers, truth values
and none.
-/

import PlotScript.Config.Piece
import PlotScript.Constant

namespace PlotScript
namespace Config
namespace Literal

/-- What a frame stands between. -/
inductive Bracket where
  /-- The ends of the literal. -/
  | ends
  | round
  | square
  | curly
  deriving DecidableEq

/-- What was read since a bracket was opened. -/
structure Frame where
  bracket : Bracket
  /-- The values that a comma ended, each with its key, the last one first. -/
  entries : List (Option Constant × Constant)
  /-- The key of the value that comes next. -/
  key : Option Constant
  /-- The signs that wait for a number, the last one first. -/
  signs : List Char
  /-- The value that no comma has ended yet. -/
  value : Option Constant

namespace Frame

/-- A frame in which nothing was read. -/
def opened (b : Bracket) : Frame := ⟨b, [], none, [], none⟩

/-- A value after a sign. -/
def signed? (sign : Char) : Constant → Option Constant
  | .num (.int i) => some (.int (if sign = '-' then -i else i))
  | .num (.float x) => some (.num (.float (if sign = '-' then -x else x)))
  | _ => none

/-- Keeps a value, with the signs before it. -/
def give? (f : Frame) (v : Constant) : Option Frame :=
  if f.value.isSome then none
  else (f.signs.foldlM (fun v sign => signed? sign v) v).map fun v =>
    { f with signs := [], value := some v }

/-- Keeps a sign. -/
def sign? (f : Frame) (c : Char) : Option Frame :=
  if f.value.isSome then none else some { f with signs := c :: f.signs }

/-- Ends a value. -/
def next? (f : Frame) : Option Frame :=
  f.value.map fun v => { f with entries := (f.key, v) :: f.entries, key := none, value := none }

/-- Makes the value a key. -/
def colon? (f : Frame) : Option Frame :=
  if f.bracket = .curly && f.key.isNone && f.value.any Constant.isKey then
    some { f with key := f.value, value := none }
  else none

/-- All values, each with its key; none if something still waits for its value. -/
def contents? (f : Frame) : Option (List (Option Constant × Constant)) :=
  if !f.signs.isEmpty then none
  else match f.value, f.key with
    | some v, key => some ((key, v) :: f.entries).reverse
    | none, none => some f.entries.reverse
    | none, some _ => none

/-- A value that stands in a dictionary with its key. -/
def pair? (x : Option Constant × Constant) : Option (Constant × Constant) := x.1.map (·, x.2)

/-- The value of a frame that is complete. -/
def close? (f : Frame) : Option Constant := do
  let l ← f.contents?
  match f.bracket, f.entries, f.value with
  | .square, _, _ => some (.list (l.map Prod.snd))
  | .curly, _, _ => (l.mapM pair?).map Constant.dictionary
  | .ends, [], v => v
  | .round, [], some v => some v
  | .ends, _, _ | .round, _, _ => some (.tuple (l.map Prod.snd))

end Frame

/-- The value of a word. -/
def ofWord? (word : List Char) : Option Constant :=
  match String.ofList word with
  | "True" => some (.truth true)
  | "False" => some (.truth false)
  | "None" => some .none
  | _ => none

/-- The value that a piece stands for. -/
def ofPiece? : Piece → Option Constant
  | .name word => ofWord? word
  | .number n => n.map fun n => .int n
  | .float x => some (.num (.float x))
  | .text cs => cs.map fun cs => .text (String.ofList cs)
  | .octets l => l.map Constant.octets
  | .sign _ | .lineEnd | .margin => none

/-- Opens a bracket where a value may stand. -/
def open? (b : Bracket) (f : Frame) (around : List Frame) : Option (List Frame) :=
  if f.value.isSome then none else some (.opened b :: f :: around)

/-- Closes a bracket of the same kind, and gives its value to the frame around it. -/
def close? (b : Bracket) (f : Frame) : List Frame → Option (List Frame)
  | [] => none
  | g :: around => do
    if f.bracket = b then return (← g.give? (← f.close?)) :: around else none

/-- Reads a piece; the frames that are open are listed from the inmost on. -/
def step? (frames : List Frame) (p : Piece) : Option (List Frame) :=
  match frames with
  | [] => none
  | f :: around =>
    match p with
    | .sign '+' => (f.sign? '+').map (· :: around)
    | .sign '-' => (f.sign? '-').map (· :: around)
    | .sign ',' => f.next?.map (· :: around)
    | .sign ':' => f.colon?.map (· :: around)
    | .sign '(' => open? .round f around
    | .sign '[' => open? .square f around
    | .sign '\x7b' => open? .curly f around
    | .sign ')' => close? .round f around
    | .sign ']' => close? .square f around
    | .sign '\x7d' => close? .curly f around
    | p => do return (← f.give? (← ofPiece? p)) :: around

/-- Pieces with texts one after the other as one text, and octets likewise. -/
def joined : List Piece → List Piece
  | [] => []
  | p :: r =>
    match p, joined r with
    | .text a, .text b :: s => .text (do return (← a) ++ (← b)) :: s
    | .octets a, .octets b :: s => .octets (do return (← a) ++ (← b)) :: s
    | p, s => p :: s

/-- The value that pieces write. -/
def read? (l : List Piece) : Option Constant :=
  match (joined l).foldlM step? [.opened .ends] with
  | some [f] => f.close?
  | _ => none

/-- How the value of a text is shown. -/
def shown? (cs : String) : Option String :=
  ((Piece.ofFile cs.toList).bind read?).map Constant.listed

example : shown? "-0x10" = some "-16" ∧ shown? "- +1.50" = some "-1.5" := by decide +kernel
example : shown? "'it' \"'s\"" = some "\"it's\"" := by decide +kernel
example : shown? "(1)" = some "1" ∧ shown? "(1,)" = some "(1,)" ∧ shown? "()" = some "()" := by
  decide +kernel
example : shown? "1, [None, ('a',),], b''" = some "(1, [None, ('a',)], b'')" := by decide +kernel
example : shown? "\x7b'a': 1, 'b': (), 'a': 2\x7d" = some "\x7b'a': 2, 'b': ()\x7d" := by
  decide +kernel
example : shown? "1 2" = none ∧ shown? "[1" = none ∧ shown? "(,)" = none ∧ shown? "-'a'" = none := by
  decide +kernel

end Literal
end Config
end PlotScript
