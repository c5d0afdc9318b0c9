/-
# Constants

A name may be configured with a value of any kind, whatever the value is used for:

| kind | counts as true | shown |
| --- | --- | --- |
| none | never | `None` |
| truth value | if it is true | `True`, `False` |
| number | if it is not zero | its digits |
| text | if it is not empty | the text |
| octets | if there are any | between quotes, after `b` |
| list, tuple, dictionary | if something is in it | what is in it, between brackets |
| any other | if it says so | as it says |

Nothing looks into a value of the last three kinds: it is only shown, and asked whether it counts
as true, so this and the name of its kind are all that is kept of it (`Constant.made`).
-/

import PlotScript.Number

namespace PlotScript

/-- A value that can be configured. -/
inductive Constant where
  | none
  | truth (b : Bool)
  | num (n : Number)
  | text (s : String)
  /-- A value of another kind: the name of its kind, how it is shown, and whether it counts as
  true. -/
  | made (kind shown : String) (counts : Bool)
  deriving DecidableEq

namespace Constant

/-- A whole number. -/
def int (i : Int) : Constant := num (.int i)

/-- A value that counts as true. -/
def holds : Constant → Bool
  | none => false
  | truth b => b
  | num (.int i) => i ≠ 0
  | num (.float x) => x != 0
  | text s => !s.isEmpty
  | made _ _ counts => counts

/-- A value as it is shown. -/
def shown : Constant → String
  | none => "None"
  | truth b => if b then "True" else "False"
  | num n => n.text
  | text s => s
  | made _ shown _ => shown

/-- A value inside a listing: a text stands between quotes. -/
def listed : Constant → String
  | text s => Text.quote s
  | v => v.shown

/-- The highest whole number that a binary64 number is counted up to. -/
def highestCount : Nat := UInt64.size - 1

/-- The greatest whole number up to a value; a truth value counts as 0 or 1.  No number of redirects
exceeds one that is not a number, or an infinite one. -/
def floor? : Constant → Option Int
  | truth b => some (if b then 1 else 0)
  | num (.int i) => some i
  | num (.float x) =>
    some (if x < 0 then -1 else if x.isNaN then highestCount else x.floor.toUInt64.toNat)
  | _ => Option.none

/-- The kind of a value as messages describe it. -/
def kind : Constant → String
  | none => "NoneType"
  | truth _ => "bool"
  | num (.int _) => "int"
  | num (.float _) => "float"
  | text _ => "str"
  | made kind _ _ => kind

/-- Octets. -/
def octets (l : List UInt8) : Constant := made "bytes" (Text.quoteOctets l) (!l.isEmpty)

/-- Values as they are listed, with commas between them. -/
def listing (l : List Constant) : String := String.intercalate ", " (l.map listed)

/-- A list of values. -/
def list (l : List Constant) : Constant := made "list" ("[" ++ listing l ++ "]") (!l.isEmpty)

/-- A tuple of values.  If there is one alone, a comma follows it. -/
def tuple (l : List Constant) : Constant :=
  made "tuple" ("(" ++ listing l ++ (if l.length = 1 then ",)" else ")")) (!l.isEmpty)

/-- The whole number that a key of a dictionary stands for. -/
def keyNumber? : Constant → Option Int
  | truth b => some (if b then 1 else 0)
  | num (.int i) => some i
  | _ => Option.none

/-- A value that can be the key of a dictionary. -/
def isKey : Constant → Bool
  | none | truth _ | num (.int _) | text _ => true
  | num (.float _) | made _ _ _ => false

/-- Two values are the same key.  A truth value is the same as 0 or 1. -/
def isSameKey (v w : Constant) : Bool :=
  v = w || (v.keyNumber?.isSome && v.keyNumber? = w.keyNumber?)

/-- Entries of a dictionary with one more; a key that is there already keeps its place. -/
def withEntry (l : List (Constant × Constant)) (key v : Constant) : List (Constant × Constant) :=
  match l with
  | [] => [(key, v)]
  | (k, w) :: r => if k.isSameKey key then (k, v) :: r else (k, w) :: withEntry r key v

/-- A dictionary with these entries, one after the other. -/
def dictionary (l : List (Constant × Constant)) : Constant :=
  let entries := l.foldl (fun acc x => withEntry acc x.1 x.2) []
  let shown := String.intercalate ", " (entries.map fun x => x.1.listed ++ ": " ++ x.2.listed)
  made "dict" ("\x7b" ++ shown ++ "\x7d") (!l.isEmpty)

example : (tuple [.int 1]).shown = "(1,)" := by decide +kernel
example : (dictionary [(.text "a", .int 1), (.int 1, .none), (.truth true, list [])]).shown =
    "\x7b'a': 1, 1: []\x7d" := by decide +kernel

end Constant
end PlotScript
