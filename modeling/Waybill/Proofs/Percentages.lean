import Waybill.Proofs.Rounding
import Waybill.Proofs.Gate
import Waybill.Proofs.Allowance
/-!
Percentages of amounts, and the money rules built on them: commissions, discounted prices and the
charges of cancellations.  `Money.percentOf a p` multiplies, divides by a hundred and rounds to
cents, and each of the first two steps rounds half to even whenever its exact result needs more
than 28 digits or 96 bits.  Main statements: the result is the exact share `a * p / 100` rounded
to cents, halves away from zero, whenever the product is exact at the sum of the scales with two
digits to spare (`percentOf_exact`, and for every money rule `exact_shares_when_products_fit`),
but not in general: two roundings in a row can cross the midpoint of a cent
(`commission_double_rounding`).  A share from zero to a hundred percent of an amount that is not
negative lies between zero and the amount rounded to cents (`percentOf_le_round`), and it is given
whenever a hundred times the amount fits the coefficient range (`percentOf_ok_of_hundredfold`);
the charge on the largest commission is not (`penalty_may_overflow`).
-/
namespace Waybill

namespace Money

open Decimal

/-- The three steps of a percentage: the product, its hundredth, and the rounding to cents. -/
theorem percentOf?_eq_some {a p x : Decimal} :
    percentOf? a p = some x ↔
      ∃ m q, a.mul? p = some m ∧ m.divNat? 100 = some q ∧ x = round q := by
  simp only [percentOf?, Option.bind_eq_bind, Option.bind_eq_some_iff, Option.pure_def,
    Option.some.injEq]
  constructor
  · rintro ⟨m, hm, q, hq, rfl⟩
    exact ⟨m, q, hm, hq, rfl⟩
  · rintro ⟨m, q, hm, hq, rfl⟩
    exact ⟨m, hm, q, hq, rfl⟩

theorem percentOf_ok_iff {a p x : Decimal} : percentOf a p = .ok x ↔ percentOf? a p = some x := by
  unfold percentOf
  split <;> simp_all

theorem percentOf_ok {a p x : Decimal} :
    percentOf a p = .ok x ↔
      ∃ m q, a.mul? p = some m ∧ m.divNat? 100 = some q ∧ x = round q := by
  rw [percentOf_ok_iff, percentOf?_eq_some]

/-- Rounding to cents gives the cents nearest the value, halves away from zero. -/
theorem round_value (d : Decimal) : (round d).value = roundHalfAway 2 d.value :=
  (roundAway_value d 2).1

theorem round_scale_le (d : Decimal) : (round d).scale ≤ 2 :=
  (roundAway_value d 2).2

/-- A percentage is the exact share rounded to cents when the product of the coefficients fits
and the scales leave two digits for the division by a hundred. -/
theorem percentOf_exact {a p : Decimal} (hs : a.scale + p.scale ≤ 26)
    (hc : (a.coeff * p.coeff).natAbs ≤ maxCoeff) :
    ∃ x, percentOf a p = .ok x ∧ x.value = roundHalfAway 2 (a.value * p.value / 100) := by
  obtain ⟨m, hm, hmvalue, hmscale⟩ := mul?_exact (by unfold maxScale; omega) hc
  obtain ⟨q, hq, hqvalue⟩ := divNat?_hundred_exact (m := m) (by unfold maxScale; omega)
  exact ⟨round q, percentOf_ok.mpr ⟨m, q, hm, hq, rfl⟩, by rw [round_value, hqvalue, hmvalue]⟩

/-- A share of at most a hundred percent of an amount that is not negative lies between zero and
the amount rounded to cents. -/
theorem percentOf_le_round {a r x : Decimal} (ha : 0 ≤ a) (hr : 0 ≤ r) (hr100 : r ≤ hundred)
    (h : percentOf a r = .ok x) : 0 ≤ x ∧ x.value ≤ roundHalfAway 2 a.value := by
  obtain ⟨m, q, hm, q_div, rfl⟩ := percentOf_ok.mp h
  rw [nonneg_iff] at ha hr
  rw [le_iff_value, value_hundred] at hr100
  -- the amount is `K` units of its last digit but two, and it has at least two digits
  set k := a.scale - 2 with hk
  set K := a.coeff.toNat * 10 ^ (2 - a.scale) with hK
  have hcoeff : ((a.coeff.toNat : ℕ) : ℚ) = a.coeff := by exact_mod_cast Int.toNat_of_nonneg ha
  have hamount : a.value = (K : ℚ) / 10 ^ (k + 2) := by
    rw [value_eq_aligned a (show a.scale ≤ k + 2 by omega), hK, Nat.cast_mul, Nat.cast_pow, hcoeff,
      show k + 2 - a.scale = 2 - a.scale by omega]
    push_cast
    rfl
  have hhundred : a.value * 100 = (K : ℚ) / 10 ^ k := by
    rw [hamount, pow_add]
    field_simp
    norm_num
  have hprod : a.value * r.value ≤ a.value * 100 :=
    mul_le_mul_of_nonneg_left hr100 (value_nonneg ha)
  have hfits : k = 0 ∨ K ≤ maxCoeff ∧ k ≤ a.scale + r.scale ∧ k ≤ maxScale := by
    by_cases hs : a.scale ≤ 2
    · exact Or.inl (by omega)
    · have hK' : K = a.coeff.toNat := by rw [hK, show 2 - a.scale = 0 by omega, pow_zero, mul_one]
      have := a.coeff_le
      have := a.scale_le
      exact Or.inr ⟨by omega, by omega, by omega⟩
  obtain ⟨hm0, hm100, hmscale⟩ := mul?_le ha hr hm (hprod.trans hhundred.le) hfits
  have hshare : m.value / 100 ≤ (K : ℚ) / 10 ^ (k + 2) := by
    rw [← hamount]
    rw [← hhundred] at hm100
    linarith
  obtain ⟨hq0, hqa⟩ := divNat?_hundred_le (value_nonneg_iff.mp hm0) q_div hshare
    (fun hne => by have := hmscale hne; omega) (by have := a.scale_le; unfold maxScale at *; omega)
  rw [← hamount] at hqa
  rw [nonneg_iff, ← value_nonneg_iff, round_value]
  exact ⟨roundHalfAway_nonneg hq0, roundHalfAway_mono hq0 hqa⟩

/-- A share of at most a hundred percent of an amount that is not negative and has at most two
decimals lies between zero and the amount. -/
theorem percentOf_le {b r x : Decimal} (hb : 0 ≤ b) (hb2 : b.scale ≤ 2) (hr : 0 ≤ r)
    (hr100 : r ≤ hundred) (h : percentOf b r = .ok x) : 0 ≤ x ∧ x ≤ b := by
  obtain ⟨hx0, hxb⟩ := percentOf_le_round hb hr hr100 h
  rw [value_eq_aligned b hb2, roundHalfAway_of_units, ← value_eq_aligned b hb2] at hxb
  exact ⟨hx0, le_iff_value.mpr hxb⟩

/-- A percentage whose exact product fits the coefficient range is always given. -/
theorem percentOf_ok_of_le {a p : Decimal} (h : |a.value * p.value| ≤ maxCoeff) :
    ∃ x, percentOf a p = .ok x := by
  obtain ⟨m, hm⟩ := Option.isSome_iff_exists.mp (mul?_isSome h)
  obtain ⟨q, hq⟩ := Option.isSome_iff_exists.mp (divNat?_isSome m (by norm_num : 0 < 100))
  exact ⟨round q, percentOf_ok.mpr ⟨m, q, hm, hq, rfl⟩⟩

/-- A hundred times a share of values that are not negative stays within the coefficient range:
the product fits, and dividing by a hundred and rounding to cents cannot pass the largest
coefficient in cents. -/
theorem percentOf_le_maxCoeff {a r x : Decimal} (ha : 0 ≤ a) (hr : 0 ≤ r)
    (h : percentOf a r = .ok x) : x.value * 100 ≤ maxCoeff := by
  obtain ⟨m, q, hm, hq, rfl⟩ := percentOf_ok.mp h
  rw [nonneg_iff] at ha hr
  have hm0 := mul?_nonneg ha hr hm
  have hshare : m.value / 100 ≤ (maxCoeff : ℚ) / 10 ^ 2 := by
    have := value_le_maxCoeff m
    norm_num
    linarith
  obtain ⟨hq0, hqmax⟩ := divNat?_hundred_le (value_nonneg_iff.mp hm0) hq hshare (fun _ => by omega)
    (by decide)
  have hround : (round q).value ≤ (maxCoeff : ℚ) / 10 ^ 2 := by
    have hunits : roundHalfAway 2 (((maxCoeff : ℤ) : ℚ) / 10 ^ 2) = ((maxCoeff : ℤ) : ℚ) / 10 ^ 2 :=
      roundHalfAway_of_units _
    rw [Int.cast_natCast] at hunits
    rw [round_value, ← hunits]
    exact roundHalfAway_mono hq0 hqmax
  norm_num at hround
  linarith

/-- A share of at most a hundred percent of an amount whose hundredfold fits the coefficient range
is always given. -/
theorem percentOf_ok_of_hundredfold {a r : Decimal} (ha : 0 ≤ a) (ha100 : a.value * 100 ≤ maxCoeff)
    (hr : 0 ≤ r) (hr100 : r ≤ hundred) : ∃ x, percentOf a r = .ok x := by
  have ha' := value_nonneg (nonneg_iff.mp ha)
  have hr' := value_nonneg (nonneg_iff.mp hr)
  rw [le_iff_value, value_hundred] at hr100
  apply percentOf_ok_of_le
  rw [abs_of_nonneg (mul_nonneg ha' hr')]
  calc a.value * r.value ≤ a.value * 100 := mul_le_mul_of_nonneg_left hr100 ha'
    _ ≤ maxCoeff := ha100

/-- A price that is not negative and a rate from 0 to 100 pass the checks of a commission, which
is then the percentage. -/
theorem commission_of_valid {b r : Decimal} (hb : 0 ≤ b) (hr : 0 ≤ r) (hr100 : r ≤ hundred) :
    commission b r = percentOf b r := by
  have hprice : ¬ b < 0 := Decimal.not_lt.mpr hb
  have hrate : ¬ (r < 0 ∨ hundred < r) := by
    rw [not_or, Decimal.not_lt, Decimal.not_lt]
    exact ⟨hr, hr100⟩
  simp [commission, FieldCheck.nonNegative, FieldCheck.percentage, FieldCheck.passes, hprice,
    hrate]

/-- Two roundings in a row can cross the midpoint of a cent, and a commission a courier's contract
can fix shows it.  At 4.9999999999999999999999999999 percent, the commission on 0.10 is exactly
0.0049999999999999999999999999999, which rounds to no cents; but the product
0.499999999999999999999999999990 needs 30 digits, is rounded to 0.5 at 28, and the commission
becomes half a cent, which rounds up to a cent. -/
theorem commission_double_rounding :
    ¬ ∀ b r x : Decimal, commission b r = .ok x →
      x.value = roundHalfAway 2 (b.value * r.value / 100) := by
  intro h
  have hrate : (⟨49999999999999999999999999999, 28, by decide, by decide⟩ : Decimal) ≤ hundred :=
    by decide
  have hshare := h ⟨10, 2, by decide, by decide⟩ ⟨49999999999999999999999999999, 28, by decide,
    by decide⟩ ⟨1, 2, by decide, by decide⟩
    ((commission_of_valid (by decide) (by decide) hrate).trans
      (percentOf_ok_iff.mpr (by decide +kernel)))
  simp only [value, roundHalfAway, round_eq] at hshare
  norm_num at hshare

/-- A commission on a price in cents lies between zero and the price: the checks it passed keep
the price from being negative and the rate within 0 to 100. -/
theorem commission_le {b r x : Decimal} (hb2 : b.scale ≤ 2) (h : commission b r = .ok x) :
    0 ≤ x ∧ x ≤ b := by
  obtain ⟨hb, hr, hr100, hx⟩ := Service.commission_ok h
  exact percentOf_le hb hb2 hr hr100 hx

theorem commission_ok_of_hundredfold {b r : Decimal} (hb : 0 ≤ b) (hb100 : b.value * 100 ≤ maxCoeff)
    (hr : 0 ≤ r) (hr100 : r ≤ hundred) : ∃ x, commission b r = .ok x := by
  rw [commission_of_valid hb hr hr100]
  exact percentOf_ok_of_hundredfold hb hb100 hr hr100

/-- A discount from zero to a hundred percent keeps a share `kept` of the price from zero to a
hundred, exactly `100 - d` when the discount has at most 26 decimals; the discounted price is that
share of the price. -/
theorem discounted_eq {d : Decimal} (h0 : 0 ≤ d) (h100 : d ≤ hundred) (b : Decimal) :
    ∃ kept, 0 ≤ kept ∧ kept ≤ hundred ∧
      (d.scale ≤ 26 → kept.value = 100 - d.value ∧ kept.scale ≤ d.scale) ∧
      discounted b d = percentOf b kept := by
  obtain ⟨kept, hsub, hkept0, hkept100, hexact⟩ := sub?_hundred h0 h100
  refine ⟨kept, nonneg_iff.mpr hkept0, le_iff_value.mpr (by rwa [value_hundred]), hexact, ?_⟩
  simp [discounted, hsub]

/-- A discounted price is in cents, and lies between zero and the price rounded to cents. -/
theorem discounted_le {b d x : Decimal} (hb : 0 ≤ b) (h0 : 0 ≤ d) (h100 : d ≤ hundred)
    (h : discounted b d = .ok x) : x.scale ≤ 2 ∧ 0 ≤ x ∧ x ≤ round b := by
  obtain ⟨kept, hk0, hk100, -, heq⟩ := discounted_eq h0 h100 b
  rw [heq] at h
  obtain ⟨m, q, -, -, rfl⟩ := percentOf_ok.mp h
  obtain ⟨hx0, hxb⟩ := percentOf_le_round hb hk0 hk100 h
  exact ⟨round_scale_le q, hx0, le_iff_value.mpr (by rwa [round_value b])⟩

/-- A hundred times a discounted price fits the coefficient range. -/
theorem discounted_le_maxCoeff {b d x : Decimal} (hb : 0 ≤ b) (h0 : 0 ≤ d) (h100 : d ≤ hundred)
    (h : discounted b d = .ok x) : x.value * 100 ≤ maxCoeff := by
  obtain ⟨kept, hk0, -, -, heq⟩ := discounted_eq h0 h100 b
  exact percentOf_le_maxCoeff hb hk0 (heq ▸ h)

/-- A discounted price is the exact share of the price rounded to cents, when the price and the
discount have at most 26 decimals together and the price in units of the discount's last digit,
times a hundred, fits the coefficient range. -/
theorem discounted_exact {b d : Decimal} (h0 : 0 ≤ d) (h100 : d ≤ hundred)
    (hs : b.scale + d.scale ≤ 26) (hc : b.coeff.natAbs * 10 ^ (d.scale + 2) ≤ maxCoeff) :
    ∃ x, discounted b d = .ok x ∧ x.value = roundHalfAway 2 (b.value * (100 - d.value) / 100) := by
  obtain ⟨kept, hk0, hk100, hexact, heq⟩ := discounted_eq h0 h100 b
  obtain ⟨hkvalue, hkscale⟩ := hexact (by omega)
  -- the kept share has at most the discount's decimals and is at most a hundred
  have hkcoeff : kept.coeff.natAbs ≤ 10 ^ (d.scale + 2) := by
    have hq := coeff_le_of_value_le (le_iff_value.mp hk100)
    rw [value_hundred] at hq
    have hle : kept.coeff ≤ 100 * 10 ^ kept.scale := by exact_mod_cast hq
    have hpow : (10 : ℤ) ^ kept.scale ≤ 10 ^ d.scale := pow_le_pow_right₀ (by norm_num) hkscale
    have hnn := nonneg_iff.mp hk0
    rw [pow_add]
    zify
    rw [abs_of_nonneg hnn]
    linarith
  have hfits : (b.coeff * kept.coeff).natAbs ≤ maxCoeff := by
    rw [Int.natAbs_mul]
    exact (Nat.mul_le_mul_left _ hkcoeff).trans hc
  obtain ⟨x, hx, hv⟩ := percentOf_exact (by omega) hfits
  exact ⟨x, heq ▸ hx, by rw [hv, hkvalue]⟩

/-- A business's own cancellation past its allowance charges the exact share of the commission
rounded to cents, when the product fits as `percentOf_exact` asks. -/
theorem penalty_exact {c : Decimal} {l : LoyaltyLevel} {n : Int} (hn : max l.freeCancellations 0 ≤ n)
    (hs : c.scale + l.penalty.scale ≤ 26) (hc : (c.coeff * l.penalty.coeff).natAbs ≤ maxCoeff) :
    ∃ x, penalty c .business (some l) n = .ok ⟨x, x, false⟩ ∧
      x.value = roundHalfAway 2 (c.value * l.penalty.value / 100) := by
  obtain ⟨x, hx, hv⟩ := percentOf_exact hs hc
  exact ⟨x, penalty_business_ok.mpr (Or.inr ⟨hn, x, hx, rfl⟩), hv⟩

/-- The money of a cancellation, for a commission in cents that is not negative and a penalty rate
from 0 to 100: a customer's costs nothing and pays the courier the whole commission; a business's
charges between zero and the commission, and pays the courier what it charges. -/
theorem penalty_le {c : Decimal} {i : Initiator} {level : Option LoyaltyLevel} {n : Int}
    {p : Penalty} (hc : 0 ≤ c) (hc2 : c.scale ≤ 2) (hrate : 0 ≤ penaltyRate level)
    (hrate100 : penaltyRate level ≤ hundred) (h : penalty c i level n = .ok p) :
    (i = .customer → p = ⟨0, c, false⟩) ∧
      (i = .business → 0 ≤ p.charged ∧ p.charged = p.courierPayment ∧ p.charged ≤ c) := by
  cases i with
  | customer =>
    rw [penalty_customer] at h
    exact ⟨fun _ => (Except.ok.inj h).symm, fun hi => nomatch hi⟩
  | business =>
    refine ⟨(fun hi => nomatch hi), fun _ => ?_⟩
    rcases penalty_business_ok.mp h with ⟨-, rfl⟩ | ⟨-, v, hv, rfl⟩
    · exact ⟨by decide, rfl, hc⟩
    · obtain ⟨hv0, hvc⟩ := percentOf_le hc hc2 hrate hrate100 hv
      exact ⟨hv0, rfl, hvc⟩

/-- The money of a cancellation is always given on a commission whose hundredfold fits, under a
penalty rate from 0 to 100. -/
theorem penalty_ok_of_hundredfold {c : Decimal} {level : Option LoyaltyLevel} (hc : 0 ≤ c)
    (hc100 : c.value * 100 ≤ maxCoeff) (hrate : 0 ≤ penaltyRate level)
    (hrate100 : penaltyRate level ≤ hundred) (i : Initiator) (n : Int) :
    ∃ p, penalty c i level n = .ok p := by
  cases i with
  | customer => exact ⟨_, penalty_customer c level n⟩
  | business =>
    by_cases hused : allowance level ≤ n
    · obtain ⟨v, hv⟩ := percentOf_ok_of_hundredfold hc hc100 hrate hrate100
      exact ⟨_, penalty_business_ok.mpr (Or.inr ⟨hused, v, hv, rfl⟩)⟩
    · exact ⟨_, penalty_business_ok.mpr (Or.inl ⟨by omega, rfl⟩)⟩

/-- A penalty is not always given: the whole of the largest commission, a whole number, overflows
when it is multiplied by a hundred percent. -/
theorem penalty_may_overflow :
    ¬ ∀ (c : Decimal) (l : LoyaltyLevel) (n : Int), 0 ≤ c → c.scale ≤ 2 → 0 ≤ l.penalty →
      l.penalty ≤ hundred → ∃ p, penalty c .business (some l) n = .ok p := by
  intro h
  obtain ⟨p, hp⟩ := h ⟨maxCoeff, 0, by decide, by decide⟩ ⟨1, "Oro", 0, hundred, 0⟩ 0 (by decide)
    (by decide) (by decide) (by decide)
  rcases penalty_business_ok.mp hp with ⟨hfree, -⟩ | ⟨-, v, hv, -⟩
  · exact absurd hfree (by decide)
  · have hnone : percentOf? ⟨maxCoeff, 0, by decide, by decide⟩ hundred = none := by decide +kernel
    rw [percentOf_ok_iff] at hv
    exact absurd (hnone ▸ hv) (by simp)

/-- Money follows its exact definition whenever no intermediate result is rounded.  For an
amount `a` and a percentage `p`: the share `percentOf a p` is the exact `a * p / 100` rounded to
cents, halves away from zero, when the product of the coefficients fits and the scales add up to
at most 26, so that neither the product nor its hundredth is rounded.  Hence so are the commission
on a price `a` at a rate `p` from 0 to 100, and the charge of a business's cancellation past its
allowance on a commission `a` at a level whose penalty is `p`; and the price `a` discounted by `p`
percent, from 0 to 100, is `a * (100 - p) / 100` rounded when `a` times a hundred at the scale of
`p` fits.  `commission_double_rounding` shows that the conditions cannot be dropped. -/
theorem exact_shares_when_products_fit (a p : Decimal) :
    (a.scale + p.scale ≤ 26 → (a.coeff * p.coeff).natAbs ≤ maxCoeff →
      ∃ x, percentOf a p = .ok x ∧ x.value = roundHalfAway 2 (a.value * p.value / 100)) ∧
    (0 ≤ a → 0 ≤ p → p ≤ hundred → a.scale + p.scale ≤ 26 →
      (a.coeff * p.coeff).natAbs ≤ maxCoeff →
      ∃ x, commission a p = .ok x ∧ x.value = roundHalfAway 2 (a.value * p.value / 100)) ∧
    (0 ≤ p → p ≤ hundred → a.scale + p.scale ≤ 26 →
      a.coeff.natAbs * 10 ^ (p.scale + 2) ≤ maxCoeff →
      ∃ x, discounted a p = .ok x ∧ x.value = roundHalfAway 2 (a.value * (100 - p.value) / 100)) ∧
    (∀ (l : LoyaltyLevel) (n : Int), l.penalty = p → max l.freeCancellations 0 ≤ n →
      a.scale + p.scale ≤ 26 → (a.coeff * p.coeff).natAbs ≤ maxCoeff →
      ∃ x, penalty a .business (some l) n = .ok ⟨x, x, false⟩ ∧
        x.value = roundHalfAway 2 (a.value * p.value / 100)) := by
  refine ⟨fun hs hc => percentOf_exact hs hc, fun ha hp hp100 hs hc => ?_,
    fun h0 h100 hs hc => discounted_exact h0 h100 hs hc, fun l _ hl hn hs hc => ?_⟩
  · rw [commission_of_valid ha hp hp100]
    exact percentOf_exact hs hc
  · subst hl
    exact penalty_exact hn hs hc

/-- The commission of 33.33 at 12.5 percent is 4.17, the exact 4.16625 rounded half away. -/
theorem commission_of_third_at_eighth :
    ∃ x, commission ⟨3333, 2, by decide, by decide⟩ ⟨125, 1, by decide, by decide⟩ = .ok x ∧
      x.value = 417 / 100 := by
  obtain ⟨x, hx, hv⟩ := (exact_shares_when_products_fit ⟨3333, 2, by decide, by decide⟩
    ⟨125, 1, by decide, by decide⟩).2.1 (by decide) (by decide) (by decide) (by decide)
    (by decide)
  refine ⟨x, hx, ?_⟩
  rw [hv]
  norm_num [value, roundHalfAway, round_eq]

end Money

end Waybill
