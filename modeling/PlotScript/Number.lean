/-
# Numbers and option values

A coordinate or an option is a whole number or a binary64 number.  A number is shown by the fewest
digits that read back:

| number | shown as |
| --- | --- |
| whole | its digits |
| binary64, leading digit at `10 ^ -4` … `10 ^ 15` | `12.0`, `0.0001` |
| other finite | `1e+16`, `1.5e-07`: a sign and at least two digits of exponent |
| zero, infinite, not a number | `0.0`, `-0.0`, `inf`, `-inf`, `nan` |
-/

import PlotScript.Decimal.Shortest
import PlotScript.Text.Escape

namespace PlotScript

/-- A number: whole, or a binary64 number. -/
inductive Number where
  | int (i : Int)
  | float (x : Float)
  deriving DecidableEq

/-- The value of an option: a number, a text, or none. -/
inductive Value where
  | none
  | num (n : Number)
  | text (s : String)
  deriving DecidableEq

namespace Number

/-- The exponent as it is shown: a sign and at least two digits. -/
def exponentText (e : Int) : String :=
  let digits := toString e.natAbs
  (if e < 0 then "-" else "+") ++ (if digits.length < 2 then "0" ++ digits else digits)

/-- How a positive decimal is laid out. -/
def layout (s : Decimal.Scientific) : String :=
  let digits := (toString s.digits).toList
  let zeros (n : Nat) : List Char := List.replicate n '0'
  if -3 ≤ s.point ∧ s.point ≤ 16 then
    if s.point ≤ 0 then String.ofList ("0.".toList ++ zeros (-s.point).toNat ++ digits)
    else
      let whole := s.point.toNat
      if digits.length ≤ whole then
        String.ofList (digits ++ zeros (whole - digits.length) ++ ".0".toList)
      else String.ofList (digits.take whole ++ '.' :: digits.drop whole)
  else
    let mantissa := match digits with
      | [d] => [d]
      | d :: ds => d :: '.' :: ds
      | [] => []
    String.ofList mantissa ++ "e" ++ exponentText (s.point - 1)

/-- A binary64 number as it is shown. -/
def floatText (x : Float) : String :=
  let bits := x.toBits.toNat
  let sign := if 1 <<< 63 ≤ bits then "-" else ""
  let bits := bits % (1 <<< 63)
  if 2047 <<< 52 < bits then "nan"
  else if bits = 2047 <<< 52 then sign ++ "inf"
  else if bits = 0 then sign ++ "0.0"
  else sign ++ layout (Decimal.Binary.ofBits bits).shortest

/-- A number as it is shown. -/
def text : Number → String
  | int i => toString i
  | float x => floatText x

/-- The binary64 number nearest to a natural number. -/
def floatOfNat (n : Nat) : Float := Decimal.nearestDouble n 1

/-- The binary64 number nearest to a number; none for a whole number that is too large. -/
def toFloat? : Number → Option Float
  | float x => some x
  | int i =>
    let x := floatOfNat i.natAbs
    if x.isInf then Option.none else some (if i < 0 then -x else x)

end Number

namespace Value

/-- A value inside a listing: a text stands between quotes. -/
def listed : Value → String
  | none => "None"
  | num n => n.text
  | text s => Text.quote s

/-- A value on its own. -/
def shown : Value → String
  | none => "None"
  | num n => n.text
  | text s => s

end Value

/-- The value of decimal digits; none if there is no digit or another character. -/
def digitsValue? (s : String) : Option Nat :=
  let cs := s.toList
  if cs.isEmpty then none
  else cs.foldl
    (fun acc c => acc.bind fun n =>
      if '0' ≤ c ∧ c ≤ '9' then some (10 * n + (c.toNat - '0'.toNat)) else none)
    (some 0)

/-- Reads a decimal with optional sign, point and exponent, or `inf` or `nan`. -/
def readFloat? (s : String) : Option Float :=
  let cs := s.toList
  let (negative, cs) := match cs with
    | '-' :: r => (true, r)
    | '+' :: r => (false, r)
    | r => (false, r)
  let body := String.ofList cs
  let unsigned : Option Float :=
    if body = "inf" then some (Float.ofBits 0x7FF0000000000000)
    else if body = "nan" then some (Float.ofBits 0x7FF8000000000000)
    else
      let mantissa := cs.takeWhile fun c => c != 'e' && c != 'E'
      let exponent := (cs.dropWhile fun c => c != 'e' && c != 'E').drop 1
      let whole := mantissa.takeWhile (· != '.')
      let places := (mantissa.dropWhile (· != '.')).drop 1
      let exponent? : Option Int := match exponent with
        | [] => some 0
        | '-' :: r => (digitsValue? (String.ofList r)).map fun n => -(n : Int)
        | '+' :: r => (digitsValue? (String.ofList r)).map Int.ofNat
        | r => (digitsValue? (String.ofList r)).map Int.ofNat
      match digitsValue? (String.ofList (whole ++ places)), exponent? with
      | some m, some e =>
        let (n, d) := Decimal.decadic m (e - places.length)
        some (Decimal.nearestDouble n d)
      | _, _ => none
  unsigned.map fun x => if negative then -x else x

example : Number.text (.float 0.1) = "0.1" := by decide +kernel
example : Number.text (.float 1e16) = "1e+16" := by decide +kernel
example : Number.text (.float 1.5e-7) = "1.5e-07" := by decide +kernel
example : Number.text (.float 123456789.125) = "123456789.125" := by decide +kernel
example : Number.text (.float (-0.0)) = "-0.0" := by decide +kernel
example : Number.text (.float 9007199254740993) = "9007199254740992.0" := by decide +kernel

end PlotScript
