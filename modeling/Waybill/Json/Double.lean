/-!
Binary floating-point numbers of double precision, as JSON readers compute them.

A finite non-negative double is `mantissa * 2 ^ exponent` with a mantissa of at most 53 bits.
Every operation here takes the exact rational result and rounds it once to the nearest double,
ties going to the even mantissa; a result at or beyond the largest double plus half a unit is
too large, and the operation gives `none`.

A number literal is read the fast way JSON readers use: its leading digits, as many as fit in
64 bits, make a whole number that is rounded to a double; that double is then multiplied or
divided by the double nearest a power of ten, with one more rounding.  Exponents beyond the
table of powers are handled by dividing by `1e308` first.

The shortest decimal of a double is the decimal with the fewest significant digits that
rounds back to it.  Among those the nearest to the double is taken, and the even one on a tie.
The interval of decimals that round back is closed when the mantissa is even and open when it
is odd, and is narrower below a power of two, where the doubles are closer together.
-/
namespace Waybill

/-- A finite non-negative double `mantissa * 2 ^ exponent`: normal with
`2 ^ 52 ≤ mantissa < 2 ^ 53` and `-1074 ≤ exponent ≤ 971`, or subnormal, zero included, with
`mantissa < 2 ^ 52` and `exponent = -1074`. -/
structure Double where
  mantissa : Nat
  exponent : Int
  deriving DecidableEq, Repr

namespace Double

/-- The exponent of the subnormal doubles. -/
def minExponent : Int := -1074

/-- The exponent of the largest doubles. -/
def maxExponent : Int := 971

/-- The double zero. -/
def zero : Double := ⟨0, minExponent⟩

/-- Whether the double is zero. -/
def isZero (x : Double) : Bool := x.mantissa == 0

/-- Whether `num / den` is below `2 ^ k`. -/
def ratioBelow (num den : Nat) (k : Int) : Bool :=
  if 0 ≤ k then decide (num < den * Nat.pow 2 k.toNat) else decide (num * Nat.pow 2 (-k).toNat < den)

/-- The nearest double to `num / den`, ties to even, or `none` when it is too large or the
denominator is zero.  The exponent is the one that gives a 53-bit mantissa, or the subnormal
exponent when that is lower; rounding up to `2 ^ 53` carries into the next exponent. -/
def ofRatio (num den : Nat) : Option Double :=
  if den = 0 then none
  else if num = 0 then some zero
  else
    let k0 : Int := (num.log2 : Int) - den.log2
    let k : Int := if ratioBelow num den k0 then k0 - 1 else k0
    let e : Int := max (k - 52) minExponent
    let n := if 0 ≤ e then num else num * Nat.pow 2 (-e).toNat
    let d := if 0 ≤ e then den * Nat.pow 2 e.toNat else den
    let q := n / d
    let r := n % d
    let rounded := if 2 * r > d ∨ (2 * r = d ∧ q % 2 = 1) then q + 1 else q
    let (m, e') := if rounded = Nat.pow 2 53 then (Nat.pow 2 52, e + 1) else (rounded, e)
    if e' > maxExponent then none else some ⟨m, e'⟩

/-- The nearest double to a whole number. -/
def ofNat (n : Nat) : Option Double := ofRatio n 1

/-- The product of two doubles, rounded. -/
def mul (x y : Double) : Option Double :=
  let s := x.exponent + y.exponent
  ofRatio (x.mantissa * y.mantissa * Nat.pow 2 s.toNat) (Nat.pow 2 (-s).toNat)

/-- The quotient of two doubles, rounded; `none` when dividing by zero. -/
def div (x y : Double) : Option Double :=
  let s := x.exponent - y.exponent
  ofRatio (x.mantissa * Nat.pow 2 s.toNat) (y.mantissa * Nat.pow 2 (-s).toNat)

/-- The double nearest `10 ^ i`; every power up to `10 ^ 308` is finite. -/
def powTen (i : Nat) : Double := (ofRatio (Nat.pow 10 i) 1).getD zero

/-- The whole number the leading digits make after `acc`, taking digits while it stays below
`2 ^ 64`, and how many digits were taken. -/
def absorb : Nat → Nat → List Nat → Nat × Nat
  | acc, used, [] => (acc, used)
  | acc, used, d :: rest =>
    if acc * 10 + d < Nat.pow 2 64 then absorb (acc * 10 + d) (used + 1) rest else (acc, used)

/-- The double `significand * 10 ^ exponent` computed the fast way, or `none` when a step
gives a value too large.  A zero significand gives zero whatever the exponent. -/
def ofParts (significand : Nat) (exponent : Int) : Option Double :=
  (ofNat significand).bind fun f => scale 4 f exponent
where
  /-- Scales by a power of ten, a table power at a time; `fuel` bounds the steps, and two
  divisions by `1e308` take any 64-bit value to zero. -/
  scale : Nat → Double → Int → Option Double
    | 0, f, _ => some f
    | fuel + 1, f, e =>
      if e.natAbs ≤ 308 then
        if 0 ≤ e then f.mul (powTen e.natAbs) else f.div (powTen e.natAbs)
      else if f.isZero then some f
      else if 0 ≤ e then none
      else (f.div (powTen 308)).bind fun g => scale fuel g (e + 308)

/-- Moves trailing zeros of `digits` into the exponent; `fuel` bounds the zeros moved. -/
def dropTrailingZeros : Nat → Nat → Int → Nat × Int
  | 0, c, k => (c, k)
  | fuel + 1, c, k =>
    if c ≠ 0 ∧ c % 10 = 0 then dropTrailingZeros fuel (c / 10) (k + 1) else (c, k)

/-- The bounds of the decimals that round back to a non-zero double, all scaled by
`2 ^ shift`: the value, the lower and the upper bound, and the shift. -/
def roundTripBounds (x : Double) : Nat × Nat × Nat × Nat :=
  let m := x.mantissa
  let e := x.exponent
  let t : Nat := (2 - e).toNat
  let value := m * Nat.pow 2 (e + t).toNat
  let upper := (2 * m + 1) * Nat.pow 2 (e - 1 + t).toNat
  let lower :=
    if m = Nat.pow 2 52 ∧ e > minExponent then (4 * m - 1) * Nat.pow 2 (e - 2 + t).toNat
    else (2 * m - 1) * Nat.pow 2 (e - 1 + t).toNat
  (value, lower, upper, t)

/-- The decimal with last place `10 ^ k` nearest `value` among those between the bounds,
ties to even, if there is one; all three are scaled by `2 ^ shift`. -/
def nearestAt (value lower upper shift : Nat) (inclusive : Bool) (k : Int) : Option Nat :=
  let a := if 0 ≤ k then Nat.pow 10 k.toNat * Nat.pow 2 shift else Nat.pow 2 shift
  let b := if 0 ≤ k then 1 else Nat.pow 10 (-k).toNat
  let lo := lower * b
  let hi := upper * b
  let v := value * b
  let least := if inclusive then (lo + a - 1) / a else lo / a + 1
  let most := if inclusive then hi / a else (hi - 1) / a
  if least ≤ most then
    let q := v / a
    let r := v % a
    let near := if 2 * r < a ∨ (2 * r = a ∧ q % 2 = 0) then q else q + 1
    some (max least (min most near))
  else none

/-- Tries last places `10 ^ k`, `10 ^ (k - 1)`, … for the first that holds a decimal between
the bounds. -/
def searchPlaces (value lower upper shift : Nat) (inclusive : Bool) : Nat → Int → Nat × Int
  | 0, k => (value, k)
  | fuel + 1, k =>
    match nearestAt value lower upper shift inclusive k with
    | some c => dropTrailingZeros (c.log2 + 1) c k
    | none => searchPlaces value lower upper shift inclusive fuel (k - 1)

/-- The shortest decimal `digits * 10 ^ exponent` that rounds back to the double: zero for
zero.  The search starts at a place above the upper bound, found from its bit length. -/
def shortest (x : Double) : Nat × Int :=
  if x.isZero then (0, 0)
  else
    let (value, lower, upper, t) := roundTripBounds x
    let bits : Int := (upper.log2 : Int) + 1 - t
    let top : Int := bits * 30103 / 100000 + 2
    searchPlaces value lower upper t (x.mantissa % 2 == 0) 80 top

end Double

end Waybill
