/-
# The shortest decimal that reads back

A double stands for every real that rounds to it.  `shortest` gives the decimal with the fewest
digits among those reals, and of two such decimals the one nearer to the double.  It looks at one
decimal grid after the other, from one significant digit on, and takes the first grid on which one
of the double's two neighbours rounds back to it.
-/

import PlotScript.Decimal.Rounding

namespace PlotScript
namespace Decimal

/-- A positive decimal `0.d₁d₂… · 10 ^ point`, with `digits` the number `d₁d₂…`. -/
structure Scientific where
  digits : Nat
  point : Int
  deriving DecidableEq, Repr

/-- A finite positive double `significand · 2 ^ exponent`. -/
structure Binary where
  significand : Nat
  exponent : Int
  deriving DecidableEq, Repr

/-- The parts of a double with its sign bit cleared. -/
def Binary.ofBits (bits : Nat) : Binary :=
  let field : Nat := (bits >>> 52) % 2048
  let m : Nat := bits % (1 <<< 52)
  if field = 0 then ⟨m, -1074⟩ else ⟨m + (1 <<< 52), (field : Int) - 1075⟩

/-- `n · 2 ^ e` as a quotient. -/
def dyadic (n : Nat) (e : Int) : Nat × Nat :=
  if 0 ≤ e then (n <<< e.toNat, 1) else (n, 1 <<< (-e).toNat)

/-- `n · 10 ^ e` as a quotient. -/
def decadic (n : Nat) (e : Int) : Nat × Nat :=
  if 0 ≤ e then (n * Nat.pow 10 e.toNat, 1) else (n, Nat.pow 10 (-e).toNat)

/-- The ends of the interval of reals that round to a double, and whether they belong to it. -/
def Binary.interval (x : Binary) : (Nat × Nat) × (Nat × Nat) × Bool :=
  let m := x.significand
  let low :=
    if m = 1 <<< 52 ∧ -1074 < x.exponent then dyadic (4 * m - 1) (x.exponent - 2)
    else dyadic (2 * m - 1) (x.exponent - 1)
  (low, dyadic (2 * m + 1) (x.exponent - 1), m % 2 == 0)

/-- A decimal rounds to a double. -/
def Binary.readsBack (x : Binary) (d : Nat × Nat) : Bool :=
  let (low, high, closed) := x.interval
  if closed then low.1 * d.2 ≤ d.1 * low.2 && d.1 * high.2 ≤ high.1 * d.2
  else low.1 * d.2 < d.1 * low.2 && d.1 * high.2 < high.1 * d.2

/-- The least `k` from `start` on with `n / d < 10 ^ k`, looked for at most `fuel` times. -/
def pointFrom (n d : Nat) (start : Int) : Nat → Int
  | 0 => start
  | fuel + 1 =>
    let (p, q) := decadic 1 start
    if n * q < p * d then start else pointFrom n d (start + 1) fuel

/-- The number of digits before the point: the least `k` with `n / d < 10 ^ k`. -/
def pointOf (n d : Nat) : Int :=
  -- `log2 10` lies between 3 and 4
  let bits : Int := (n.log2 : Int) - d.log2
  let start := if 0 ≤ bits then bits / 4 - 1 else bits / 3 - 1
  pointFrom n d start (bits.natAbs + 4)

/-- A decimal without zeros at the end of its digits. -/
def dropZeros (digits : Nat) : Nat → Nat
  | 0 => digits
  | fuel + 1 => if digits % 10 = 0 then dropZeros (digits / 10) fuel else digits

/-- The hit on the grid of `width` digits, if there is one. -/
def Binary.onGrid (x : Binary) (point : Int) (width : Nat) : Option Scientific :=
  let (n, d) := dyadic x.significand x.exponent
  let step := point - width
  let (p, q) := decadic 1 step
  let below := n * q / (d * p)
  let lowHit := x.readsBack (decadic below step)
  let highHit := x.readsBack (decadic (below + 1) step)
  let nearest := roundDiv (n * q) (d * p)
  let digits? :=
    if lowHit && highHit then some nearest
    else if lowHit then some below
    else if highHit then some (below + 1)
    else none
  digits?.map fun m =>
    -- a neighbour above may have one digit more
    ⟨dropZeros m (width + 1), if Nat.pow 10 width ≤ m then point + 1 else point⟩

/-- The shortest decimal that rounds to a positive finite double; seventeen digits suffice. -/
def Binary.shortest (x : Binary) : Scientific :=
  let (n, d) := dyadic x.significand x.exponent
  let point := pointOf n d
  match (List.range 17).findSome? fun i => x.onGrid point (i + 1) with
  | some s => s
  | none => ⟨n / d, point⟩

example : (Binary.ofBits (0.1 : Float).toBits.toNat).shortest = ⟨1, 0⟩ := by decide +kernel
example : (Binary.ofBits 1).shortest = ⟨5, -323⟩ := by decide +kernel
example : (Binary.ofBits (1e23 : Float).toBits.toNat).shortest = ⟨1, 24⟩ := by decide +kernel

end Decimal
end PlotScript
