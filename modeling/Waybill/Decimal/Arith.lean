import Waybill.Decimal.Basic
/-!
Arithmetic on fixed-point decimals.  Every operation first forms its exact result, a
non-negative rational `num / den` with a sign, and then keeps the finest scale, up to a cap,
at which that value rounded half to even still has a 96-bit coefficient.  Products keep the
sum of the scales when they can; a quotient by a whole number keeps the dividend's scale
when it is exact, the finest scale when that holds it exactly, and no trailing zeros when it
had to be rounded; a zero term leaves a sum unchanged; money
is rounded to cents with halves going away from zero.  An operation whose result fits at no
scale answers `none`.
-/
namespace Waybill

/-- `n / d` rounded to the nearest whole number, a tie going to the even neighbour. -/
def divHalfEven (n d : Nat) : Nat :=
  if d < 2 * (n % d) ∨ (2 * (n % d) = d ∧ n / d % 2 = 1) then n / d + 1 else n / d

/-- `n / d` rounded to the nearest whole number, a tie going up. -/
def divHalfUp (n d : Nat) : Nat :=
  if d ≤ 2 * (n % d) then n / d + 1 else n / d

theorem divHalfUp_le (n d : Nat) : divHalfUp n d ≤ n / d + 1 := by
  unfold divHalfUp; split <;> omega

/-- Trailing zeros removed from a coefficient, lowering its scale by as many. -/
def dropZeros : Nat → Nat → Nat × Nat
  | c, 0 => (c, 0)
  | c, t + 1 => if c % 10 = 0 then dropZeros (c / 10) t else (c, t + 1)

theorem dropZeros_fst_le (c t : Nat) : (dropZeros c t).1 ≤ c := by
  induction t generalizing c with
  | zero => simp [dropZeros]
  | succ t ih =>
    unfold dropZeros
    split
    · exact Nat.le_trans (ih (c / 10)) (Nat.div_le_self c 10)
    · exact Nat.le_refl c

theorem dropZeros_snd_le (c t : Nat) : (dropZeros c t).2 ≤ t := by
  induction t generalizing c with
  | zero => simp [dropZeros]
  | succ t ih =>
    unfold dropZeros
    split
    · exact Nat.le_succ_of_le (ih (c / 10))
    · exact Nat.le_refl _

namespace Decimal

/-- The coefficient of `num / den` at scale `t`, rounded half to even. -/
def coeffAt (num den t : Nat) : Nat := divHalfEven (num * Nat.pow 10 t) den

/-- The signed value `num / den` rounded half to even at scale `t`, when it fits there. -/
def roundedAt? (negative : Bool) (num den t : Nat) : Option Decimal :=
  ofParts? (signed negative (coeffAt num den t)) t

/-- The signed value `num / den` at the finest scale no greater than `t` at which its
half-even rounding fits. -/
def finest (negative : Bool) (num den : Nat) : Nat → Option Decimal
  | 0 => roundedAt? negative num den 0
  | t + 1 =>
    match roundedAt? negative num den (t + 1) with
    | some d => some d
    | none => finest negative num den t

/-- The same value without trailing fractional zeros. -/
def trimmed (d : Decimal) : Decimal :=
  ofMagnitude d.isNegative (dropZeros d.magnitude d.scale).1 (dropZeros d.magnitude d.scale).2
    (Nat.le_trans (dropZeros_fst_le _ _) d.coeff_le)
    (Nat.le_trans (dropZeros_snd_le _ _) d.scale_le)

/-- The product.  A zero factor gives `0`; two factors of at most 32 bits whose scales add
up to more than 47 give `0` as well; otherwise the exact product is kept at the finest scale
up to the sum of the scales, and at most 28, that fits. -/
def mul? (a b : Decimal) : Option Decimal :=
  if a.coeff = 0 ∨ b.coeff = 0 then some 0
  else
    let s := a.scale + b.scale
    if a.magnitude < Nat.pow 2 32 ∧ b.magnitude < Nat.pow 2 32 ∧ 47 < s then some 0
    else finest (a.isNegative != b.isNegative) (a.magnitude * b.magnitude) (Nat.pow 10 s) (min s 28)

/-- The quotient by a positive whole number.  An exact quotient keeps the dividend's scale;
any other is kept at the finest scale up to 28 that fits, and loses its trailing zeros when
that scale could not hold it exactly.  Dividing by zero gives `none`. -/
def divNat? (a : Decimal) (d : Nat) : Option Decimal :=
  if d = 0 then none
  else if a.coeff = 0 then some 0
  else if a.magnitude % d = 0 then ofParts? (signed a.isNegative (a.magnitude / d)) a.scale
  else
    (finest a.isNegative a.magnitude (d * Nat.pow 10 a.scale) 28).map fun q =>
      if q.magnitude * (d * Nat.pow 10 a.scale) = a.magnitude * Nat.pow 10 q.scale then q else q.trimmed

/-- The sum.  A zero term gives the other term as it is, scale included; otherwise the sum
is exact at the larger scale when it fits, else rounded to the finest scale that fits. -/
def add? (a b : Decimal) : Option Decimal :=
  if a.coeff = 0 then some b
  else if b.coeff = 0 then some a
  else
    let s := max a.scale b.scale
    let n := a.coeff * Int.pow 10 (s - a.scale) + b.coeff * Int.pow 10 (s - b.scale)
    finest (decide (n < 0)) n.natAbs (Nat.pow 10 s) s

/-- The difference `a - b`. -/
def sub? (a b : Decimal) : Option Decimal := a.add? b.neg

theorem divHalfUp_pow_le (m k : Nat) (hm : m ≤ maxCoeff) (hk : 0 < k) :
    divHalfUp m (Nat.pow 10 k) ≤ maxCoeff := by
  have h10 : 10 ≤ Nat.pow 10 k := by
    calc 10 = Nat.pow 10 1 := rfl
      _ ≤ Nat.pow 10 k := Nat.pow_le_pow_right (by decide) hk
  have hdiv : m / Nat.pow 10 k ≤ m / 10 := Nat.div_le_div_left h10 (by decide)
  have := divHalfUp_le m (Nat.pow 10 k)
  unfold maxCoeff at hm ⊢
  omega

/-- The value at `places` fractional digits, a half going away from zero.  A value with no
more digits than that is returned as it is. -/
def roundAway (d : Decimal) (places : Nat) : Decimal :=
  if h : d.scale ≤ places then d
  else
    ofMagnitude d.isNegative (divHalfUp d.magnitude (Nat.pow 10 (d.scale - places))) places
      (divHalfUp_pow_le _ _ d.coeff_le (by omega))
      (by have := d.scale_le; omega)

end Decimal

end Waybill
