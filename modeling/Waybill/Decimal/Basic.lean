/-!
Fixed-point decimals.  A decimal is a signed coefficient of at most 96 bits over a power of
ten with at most 28 fractional digits.  The scale belongs to the value's identity, so `30.00`
and `30` print differently, while the order compares numeric values only.  The sign lives in
the coefficient, so there is no negative zero.
-/
namespace Waybill

/-- The largest coefficient magnitude, `2 ^ 96 - 1`. -/
def Decimal.maxCoeff : Nat := 79228162514264337593543950335

/-- The most fractional digits a decimal carries. -/
def Decimal.maxScale : Nat := 28

/-- The decimal `coeff / 10 ^ scale`. -/
structure Decimal where
  coeff : Int
  scale : Nat
  coeff_le : coeff.natAbs ≤ Decimal.maxCoeff
  scale_le : scale ≤ Decimal.maxScale
deriving DecidableEq

namespace Decimal

theorem maxCoeff_eq : maxCoeff = Nat.pow 2 96 - 1 := by decide

/-- The coefficient with the given sign and magnitude. -/
def signed (negative : Bool) (magnitude : Nat) : Int :=
  if negative then -(magnitude : Int) else magnitude

@[simp] theorem natAbs_signed (negative : Bool) (magnitude : Nat) :
    (signed negative magnitude).natAbs = magnitude := by
  cases negative <;> simp [signed]

/-- A decimal from a sign, a magnitude and a scale that are known to fit. -/
def ofMagnitude (negative : Bool) (magnitude scale : Nat)
    (hm : magnitude ≤ maxCoeff) (hs : scale ≤ maxScale) : Decimal :=
  ⟨signed negative magnitude, scale, by simpa using hm, hs⟩

/-- The decimal with this coefficient and scale, when both fit. -/
def ofParts? (coeff : Int) (scale : Nat) : Option Decimal :=
  if hc : coeff.natAbs ≤ maxCoeff then
    if hs : scale ≤ maxScale then some ⟨coeff, scale, hc, hs⟩ else none
  else none

/-- The whole number `n`, when it fits. -/
def ofInt? (n : Int) : Option Decimal := ofParts? n 0

instance : OfNat Decimal 0 := ⟨⟨0, 0, by decide, by decide⟩⟩

/-- One hundred, at scale zero. -/
def hundred : Decimal := ⟨100, 0, by decide, by decide⟩

/-- The magnitude of the coefficient. -/
def magnitude (d : Decimal) : Nat := d.coeff.natAbs

/-- Whether the value is below zero. -/
def isNegative (d : Decimal) : Bool := decide (d.coeff < 0)

/-- The value with its sign flipped and its scale kept. -/
def neg (d : Decimal) : Decimal :=
  ⟨-d.coeff, d.scale, by simpa using d.coeff_le, d.scale_le⟩

/-- Both coefficients brought to the larger of the two scales. -/
def aligned (a b : Decimal) : Int × Int :=
  let s := max a.scale b.scale
  (a.coeff * Int.pow 10 (s - a.scale), b.coeff * Int.pow 10 (s - b.scale))

/-- Numeric comparison, blind to the scale. -/
def compare (a b : Decimal) : Ordering :=
  Ord.compare (a.aligned b).1 (a.aligned b).2

instance : LT Decimal := ⟨fun a b => (a.aligned b).1 < (a.aligned b).2⟩
instance : LE Decimal := ⟨fun a b => (a.aligned b).1 ≤ (a.aligned b).2⟩

instance (a b : Decimal) : Decidable (a < b) :=
  inferInstanceAs (Decidable ((a.aligned b).1 < (a.aligned b).2))

instance (a b : Decimal) : Decidable (a ≤ b) :=
  inferInstanceAs (Decidable ((a.aligned b).1 ≤ (a.aligned b).2))

/-- Whether two decimals have the same value, whatever their scales. -/
def sameValue (a b : Decimal) : Bool := (a.aligned b).1 == (a.aligned b).2

/-- The digits of the magnitude, padded with leading zeros so that at least one digit stands
before the point. -/
def paddedDigits (d : Decimal) : List Char :=
  let digits := Nat.toDigits 10 d.magnitude
  List.replicate (d.scale + 1 - digits.length) '0' ++ digits

/-- Plain notation: the digits with exactly `scale` of them after a point, and a minus sign
before a negative value. -/
def render (d : Decimal) : String :=
  let digits := d.paddedDigits
  let whole := digits.take (digits.length - d.scale)
  let fraction := digits.drop (digits.length - d.scale)
  let body := if d.scale = 0 then whole else whole ++ '.' :: fraction
  String.ofList (if d.coeff < 0 then '-' :: body else body)

end Decimal

end Waybill
