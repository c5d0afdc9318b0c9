/-
# The double nearest to a quotient

A binary64 number has 53 significant bits and an exponent of at least -1074.  `nearestDouble`
rounds the quotient of two natural numbers to such a number, a half to the even neighbour, and
gives infinity from `2 ^ 1024 - 2 ^ 970` on.  All arithmetic is on natural numbers, so no
intermediate result is rounded.
-/

namespace PlotScript
namespace Decimal

/-- A quotient rounded to a natural number, a half to the even neighbour. -/
def roundDiv (num den : Nat) : Nat :=
  let q := num / den
  let r := num % den
  if 2 * r < den then q
  else if den < 2 * r then q + 1
  else q + q % 2

/-- The bits of a double with exponent field `field` and significand `m < 2 ^ 54`.  A significand
that was rounded up to the next power of two carries into the exponent. -/
def packBits (field m : Nat) : Nat :=
  let bits := if m < 1 <<< 52 then m else ((field - 1) <<< 52) + m
  min bits (2047 <<< 52)

/-- The bits of the double nearest to `num / den`. -/
def nearestBits (num den : Nat) : Nat :=
  if num = 0 then 0 else
    -- `num / den` lies between `2 ^ (e + 52)` and `2 ^ (e + 54)`
    let e : Int := max (-1074) ((num.log2 : Int) - den.log2 - 53)
    let scaled (e : Int) : Nat × Nat :=
      if 0 ≤ e then (num, den <<< e.toNat) else (num <<< (-e).toNat, den)
    let (n, d) := scaled e
    let e := if n / d < 1 <<< 53 then e else e + 1
    let (n, d) := scaled e
    packBits (e + 1075).toNat (roundDiv n d)

/-- The double nearest to `num / den`. -/
def nearestDouble (num den : Nat) : Float := Float.ofBits (nearestBits num den).toUInt64

example : nearestDouble 1 3 = 1.0 / 3.0 := by decide +kernel
example : nearestBits (2 ^ 53 + 1) 1 = nearestBits (2 ^ 53) 1 := by decide +kernel
example : nearestBits (2 ^ 1024) 1 = 2047 * 2 ^ 52 := by decide +kernel
example : nearestBits 5 (10 ^ 324) = 1 := by decide +kernel

end Decimal
end PlotScript
