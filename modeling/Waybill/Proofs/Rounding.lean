import Waybill.Money
import Mathlib
/-!
Decimal arithmetic against exact rationals.  A decimal stands for the rational `coeff / 10 ^ scale`
(`Decimal.value`).  Every operation forms its exact result and rounds it half to even at the
finest scale that fits; money is then rounded to cents with halves going away from zero
(`roundHalfAway`).  Main statements: a product or a quotient by a hundred is exact when its exact
value fits (`mul?_exact`, `divNat?_hundred_exact`); every rounding of a non-negative value stays
below any bound that is a decimal at the scale it rounds to (`mul?_le`, `divNat?_hundred_le`);
and rounding to cents is `roundHalfAway` of the value (`roundAway_value`).
-/
namespace Waybill

/-- `q` rounded to `places` fractional digits, a half going away from zero. -/
def roundHalfAway (places : ℕ) (q : ℚ) : ℚ :=
  if q < 0 then -(round (-q * 10 ^ places) / 10 ^ places) else round (q * 10 ^ places) / 10 ^ places

/-- A value with no more digits than the places it is rounded to is kept. -/
theorem roundHalfAway_of_units {places : ℕ} (n : ℤ) :
    roundHalfAway places (n / 10 ^ places) = n / 10 ^ places := by
  have hpos : (0 : ℚ) < 10 ^ places := by positivity
  unfold roundHalfAway
  split
  · rw [show -((n : ℚ) / 10 ^ places) * 10 ^ places = ((-n : ℤ) : ℚ) by push_cast; field_simp,
      round_intCast]
    push_cast
    ring
  · rw [div_mul_cancel₀ _ hpos.ne', round_intCast]

theorem roundHalfAway_nonneg {places : ℕ} {x : ℚ} (hx : 0 ≤ x) : 0 ≤ roundHalfAway places x := by
  unfold roundHalfAway
  rw [if_neg (not_lt.mpr hx)]
  have : (0 : ℤ) ≤ round (x * 10 ^ places) := by
    rw [round_eq]
    exact Int.floor_nonneg.mpr (by positivity)
  positivity

/-- Rounding to cents keeps the order of values that are not negative. -/
theorem roundHalfAway_mono {places : ℕ} {x y : ℚ} (hx : 0 ≤ x) (hxy : x ≤ y) :
    roundHalfAway places x ≤ roundHalfAway places y := by
  unfold roundHalfAway
  rw [if_neg (not_lt.mpr hx), if_neg (not_lt.mpr (hx.trans hxy))]
  have hround : round (x * 10 ^ places) ≤ round (y * 10 ^ places) := by
    rw [round_eq, round_eq]
    apply Int.floor_le_floor
    have := mul_le_mul_of_nonneg_right hxy (show (0 : ℚ) ≤ 10 ^ places by positivity)
    linarith
  have : ((round (x * 10 ^ places) : ℤ) : ℚ) ≤ round (y * 10 ^ places) := by exact_mod_cast hround
  exact div_le_div_of_nonneg_right this (by positivity)

/-- A rounded quotient never passes a whole number the exact quotient does not pass. -/
theorem divHalfEven_le {n d K : ℕ} (hd : 0 < d) (h : n ≤ K * d) : divHalfEven n d ≤ K := by
  have hq : n / d ≤ K := Nat.div_le_of_le_mul (by rw [Nat.mul_comm]; exact h)
  unfold divHalfEven
  split
  · -- rounding up needs a remainder, so the exact quotient falls short of `K`
    have hrem : 0 < n % d := by omega
    have hsplit := Nat.div_add_mod n d
    have hne : n / d ≠ K := by
      intro heq
      rw [heq, Nat.mul_comm] at hsplit
      omega
    omega
  · exact hq

/-- An exact quotient is not rounded. -/
theorem divHalfEven_of_mod_eq_zero {n d : ℕ} (hd : 0 < d) (h : n % d = 0) :
    divHalfEven n d = n / d := by
  unfold divHalfEven
  rw [h, if_neg (by omega)]

/-- Rounding half up is Mathlib's `round` of the exact quotient. -/
theorem divHalfUp_eq_round (n d : ℕ) (hd : 0 < d) :
    round ((n : ℚ) / d) = divHalfUp n d := by
  have hdq : (0 : ℚ) < d := by exact_mod_cast hd
  have hsplit : (n : ℚ) = d * (n / d : ℕ) + (n % d : ℕ) := by
    exact_mod_cast (Nat.div_add_mod n d).symm
  have hrem : n % d < d := Nat.mod_lt n hd
  rw [round_eq_iff, Set.mem_Ico, le_div_iff₀ hdq, div_lt_iff₀ hdq, hsplit]
  unfold divHalfUp
  generalize n / d = q at *
  generalize n % d = r at *
  split
  · rename_i hup
    have hup' : (d : ℚ) ≤ 2 * r := by exact_mod_cast hup
    have hrem' : (r : ℚ) < d := by exact_mod_cast hrem
    simp only [Nat.cast_add, Nat.cast_one, Int.cast_add, Int.cast_natCast, Int.cast_one]
    constructor <;> nlinarith
  · rename_i hdown
    have hdown' : 2 * (r : ℚ) < d := by exact_mod_cast (Nat.lt_of_not_le hdown)
    have hrem0 : (0 : ℚ) ≤ r := by positivity
    simp only [Int.cast_natCast]
    constructor <;> nlinarith

namespace Decimal

/-- The rational number a decimal stands for. -/
def value (d : Decimal) : ℚ := d.coeff / 10 ^ d.scale

theorem int_pow_ten (k : ℕ) : Int.pow 10 k = 10 ^ k := rfl

@[simp] theorem value_zero : (0 : Decimal).value = 0 := by
  simp [value, show (0 : Decimal).coeff = 0 from rfl]

@[simp] theorem value_hundred : hundred.value = 100 := by
  simp [value, hundred]

/-- A value written over a finer power of ten. -/
theorem value_eq_aligned (d : Decimal) {s : ℕ} (hs : d.scale ≤ s) :
    d.value = ((d.coeff * 10 ^ (s - d.scale) : ℤ) : ℚ) / 10 ^ s := by
  have hsplit : (10 : ℚ) ^ s = 10 ^ d.scale * 10 ^ (s - d.scale) := by
    rw [← pow_add, Nat.add_sub_cancel' hs]
  rw [value, hsplit]
  push_cast
  rw [mul_div_mul_right _ _ (by positivity)]

/-- The order of decimals is the order of their values. -/
theorem le_iff_value {a b : Decimal} : a ≤ b ↔ a.value ≤ b.value := by
  change a.coeff * Int.pow 10 (max a.scale b.scale - a.scale) ≤
    b.coeff * Int.pow 10 (max a.scale b.scale - b.scale) ↔ _
  rw [value_eq_aligned a (le_max_left a.scale b.scale),
    value_eq_aligned b (le_max_right a.scale b.scale),
    div_le_div_iff_of_pos_right (by positivity), Int.cast_le, int_pow_ten, int_pow_ten]

theorem lt_iff_value {a b : Decimal} : a < b ↔ a.value < b.value := by
  change a.coeff * Int.pow 10 (max a.scale b.scale - a.scale) <
    b.coeff * Int.pow 10 (max a.scale b.scale - b.scale) ↔ _
  rw [value_eq_aligned a (le_max_left a.scale b.scale),
    value_eq_aligned b (le_max_right a.scale b.scale),
    div_lt_div_iff_of_pos_right (by positivity), Int.cast_lt, int_pow_ten, int_pow_ten]

theorem value_nonneg_iff {d : Decimal} : 0 ≤ d.value ↔ 0 ≤ d.coeff := by
  rw [value, le_div_iff₀ (by positivity), zero_mul, Int.cast_nonneg_iff]

theorem nonneg_iff {d : Decimal} : 0 ≤ d ↔ 0 ≤ d.coeff := by
  rw [le_iff_value, value_zero, value_nonneg_iff]

/-- A value at most `K` has a coefficient at most `K` units of its last digit. -/
theorem coeff_le_of_value_le {d : Decimal} {K : ℚ} (h : d.value ≤ K) :
    (d.coeff : ℚ) ≤ K * 10 ^ d.scale := by
  rwa [value, div_le_iff₀ (by positivity)] at h

/-- No decimal exceeds the largest coefficient. -/
theorem value_le_maxCoeff (d : Decimal) : d.value ≤ maxCoeff := by
  have hc : d.coeff ≤ (maxCoeff : ℤ) := Int.le_natAbs.trans (by exact_mod_cast d.coeff_le)
  rcases le_or_gt d.coeff 0 with hneg | hpos
  · have : d.value ≤ 0 := div_nonpos_of_nonpos_of_nonneg (by exact_mod_cast hneg) (by positivity)
    linarith [show (0 : ℚ) ≤ maxCoeff by positivity]
  · calc d.value ≤ d.coeff := div_le_self (by exact_mod_cast hpos.le) (one_le_pow₀ (by norm_num))
      _ ≤ maxCoeff := by exact_mod_cast hc

variable {neg : Bool} {num den t T : ℕ} {q : Decimal}

/-- A coefficient and a scale make a decimal exactly when both fit. -/
theorem ofParts?_eq_some {c : ℤ} {s : ℕ} :
    ofParts? c s = some q ↔ c.natAbs ≤ maxCoeff ∧ s ≤ maxScale ∧ q.coeff = c ∧ q.scale = s := by
  unfold ofParts?
  by_cases hc : c.natAbs ≤ maxCoeff
  · by_cases hs : s ≤ maxScale
    · simp only [hc, hs, dite_true, Option.some.injEq, true_and]
      obtain ⟨c', s', _, _⟩ := q
      constructor
      · rintro ⟨⟩
        exact ⟨rfl, rfl⟩
      · rintro ⟨rfl, rfl⟩
        rfl
    · simp [hc, hs]
  · simp [hc]

/-- What a rounding at one scale gives, when it fits. -/
theorem roundedAt?_eq_some :
    roundedAt? neg num den t = some q ↔
      coeffAt num den t ≤ maxCoeff ∧ t ≤ maxScale ∧
        q.coeff = signed neg (coeffAt num den t) ∧ q.scale = t := by
  rw [roundedAt?, ofParts?_eq_some, natAbs_signed]

/-- A coefficient and a scale make some decimal exactly when both fit. -/
theorem ofParts?_isSome_iff {c : ℤ} {s : ℕ} :
    (ofParts? c s).isSome ↔ c.natAbs ≤ maxCoeff ∧ s ≤ maxScale := by
  unfold ofParts?
  by_cases hc : c.natAbs ≤ maxCoeff <;> by_cases hs : s ≤ maxScale <;> simp [hc, hs]

/-- A rounding at one scale exists exactly when its coefficient and the scale fit. -/
theorem roundedAt?_isSome_iff :
    (roundedAt? neg num den t).isSome ↔ coeffAt num den t ≤ maxCoeff ∧ t ≤ maxScale := by
  rw [roundedAt?, ofParts?_isSome_iff, natAbs_signed]

theorem finest_of_roundedAt (h : roundedAt? neg num den T = some q) :
    finest neg num den T = some q := by
  cases T <;> simp [finest, h]

/-- The finest scale is one of the scales tried, and its rounding fits there. -/
theorem finest_rounded (h : finest neg num den T = some q) :
    q.scale ≤ T ∧ roundedAt? neg num den q.scale = some q := by
  induction T with
  | zero =>
      have hq := (roundedAt?_eq_some.mp h).2.2.2
      exact ⟨by omega, hq ▸ h⟩
  | succ T ih =>
      simp only [finest] at h
      split at h
      · rename_i d hd
        cases h
        have hq := (roundedAt?_eq_some.mp hd).2.2.2
        exact ⟨by omega, hq ▸ hd⟩
      · obtain ⟨hle, hq⟩ := ih h
        exact ⟨by omega, hq⟩

/-- Any scale at which the rounding fits bounds the finest scale from below. -/
theorem le_scale_of_finest (h : finest neg num den T = some q) {t₀ : ℕ} (ht : t₀ ≤ T)
    (hfits : (roundedAt? neg num den t₀).isSome) : t₀ ≤ q.scale := by
  induction T with
  | zero =>
      have hq := (roundedAt?_eq_some.mp h).2.2.2
      omega
  | succ T ih =>
      simp only [finest] at h
      split at h
      · rename_i d hd
        cases h
        have hq := (roundedAt?_eq_some.mp hd).2.2.2
        omega
      · rename_i hnone
        -- the top scale did not fit, so the scale that fits lies below it
        have hbelow : t₀ ≠ T + 1 := by
          rintro rfl
          simp [hnone] at hfits
        exact ih h (by omega)

/-- The finest rounding exists as soon as some scale up to the top fits. -/
theorem finest_isSome {t₀ : ℕ} (ht : t₀ ≤ T) (hfits : (roundedAt? neg num den t₀).isSome) :
    (finest neg num den T).isSome := by
  induction T with
  | zero =>
      have : t₀ = 0 := by omega
      subst this
      simpa [finest] using hfits
  | succ T ih =>
      simp only [finest]
      split
      · rfl
      · rename_i hnone
        have hbelow : t₀ ≠ T + 1 := by
          rintro rfl
          simp [hnone] at hfits
        exact ih (by omega)

@[simp] theorem cast_signed (negative : Bool) (m : ℕ) :
    ((signed negative m : ℤ) : ℚ) = if negative then -(m : ℚ) else m := by
  cases negative <;> simp [signed]

/-- The sign and the magnitude put back together. -/
theorem signed_isNegative (d : Decimal) : signed d.isNegative d.magnitude = d.coeff := by
  unfold signed isNegative magnitude
  by_cases hneg : d.coeff < 0
  · simp [hneg, abs_of_neg hneg]
  · simp [hneg, abs_of_nonneg (Int.not_lt.mp hneg)]

/-- A rounding whose exact value is a decimal at that scale is that value. -/
theorem roundedAt?_value_exact (h : roundedAt? neg num den t = some q) (hden : 0 < den)
    (hdvd : den ∣ num * 10 ^ t) : q.value = ((signed neg num : ℤ) : ℚ) / den := by
  obtain ⟨-, -, hcoeff, hscale⟩ := roundedAt?_eq_some.mp h
  have hexact : coeffAt num den t = num * 10 ^ t / den := by
    rw [coeffAt, Nat.pow_eq, divHalfEven_of_mod_eq_zero hden (Nat.mod_eq_zero_of_dvd hdvd)]
  have hcast : ((num * 10 ^ t / den : ℕ) : ℚ) = num * 10 ^ t / den := by
    rw [Nat.cast_div hdvd (by exact_mod_cast hden.ne')]
    push_cast
    ring
  rw [value, hcoeff, hscale, hexact]
  cases neg <;> simp only [cast_signed, hcast, Bool.false_eq_true, ↓reduceIte] <;> field_simp

/-- The finest rounding is exact as soon as the exact value is a decimal at some scale, up to the
top, where it fits: the finest scale is at least that one. -/
theorem finest_value_exact (h : finest neg num den T = some q) (hden : 0 < den) {t₀ : ℕ}
    (ht : t₀ ≤ T) (hfits : (roundedAt? neg num den t₀).isSome) (hdvd : den ∣ num * 10 ^ t₀) :
    q.value = ((signed neg num : ℤ) : ℚ) / den := by
  obtain ⟨-, hrounded⟩ := finest_rounded h
  obtain ⟨e, he⟩ := Nat.exists_eq_add_of_le (le_scale_of_finest h ht hfits)
  refine roundedAt?_value_exact hrounded hden ?_
  rw [he, pow_add, ← Nat.mul_assoc]
  exact Dvd.dvd.mul_right hdvd _

/-- The coefficient at scale `t` of a value below `K / 10 ^ k`, with `k ≤ t`, is at most `K`
units of `10 ^ (t - k)`. -/
theorem coeffAt_le (hden : 0 < den) {K k : ℕ} (hk : k ≤ t) (hle : (num : ℚ) / den ≤ K / 10 ^ k) :
    coeffAt num den t ≤ K * 10 ^ (t - k) := by
  have hdenq : (0 : ℚ) < den := by exact_mod_cast hden
  have hpow : (10 : ℚ) ^ t = 10 ^ k * 10 ^ (t - k) := by rw [← pow_add, Nat.add_sub_cancel' hk]
  have hcross : (num : ℚ) * 10 ^ k ≤ K * den := by
    rwa [div_le_div_iff₀ hdenq (by positivity)] at hle
  have hunits : (num : ℚ) * 10 ^ t ≤ K * 10 ^ (t - k) * den := by
    rw [hpow]
    nlinarith [pow_pos (show (0 : ℚ) < 10 by norm_num) (t - k)]
  rw [coeffAt, Nat.pow_eq]
  exact divHalfEven_le hden (by exact_mod_cast hunits)

/-- The coefficient at scale `k` of a value below `K / 10 ^ k` is at most `K`. -/
theorem coeffAt_le_same (hden : 0 < den) {K k : ℕ} (hle : (num : ℚ) / den ≤ K / 10 ^ k) :
    coeffAt num den k ≤ K := by
  simpa using coeffAt_le hden (le_refl k) hle

/-- A rounding of a value that is not negative stays below every decimal at a scale no finer
than the one it rounds to that lies above the value. -/
theorem roundedAt?_value_le (h : roundedAt? false num den t = some q) (hden : 0 < den)
    {K k : ℕ} (hk : k ≤ t) (hle : (num : ℚ) / den ≤ K / 10 ^ k) : q.value ≤ K / 10 ^ k := by
  obtain ⟨-, -, hcoeff, hscale⟩ := roundedAt?_eq_some.mp h
  have hround : ((coeffAt num den t : ℕ) : ℚ) ≤ K * 10 ^ (t - k) := by
    exact_mod_cast coeffAt_le hden hk hle
  have hpow : (10 : ℚ) ^ t = 10 ^ k * 10 ^ (t - k) := by rw [← pow_add, Nat.add_sub_cancel' hk]
  rw [value, hcoeff, hscale, cast_signed, if_neg Bool.false_ne_true,
    div_le_div_iff₀ (by positivity) (by positivity), hpow]
  nlinarith [pow_pos (show (0 : ℚ) < 10 by norm_num) k]

theorem roundedAt?_value_nonneg (h : roundedAt? false num den t = some q) : 0 ≤ q.value := by
  obtain ⟨-, -, hcoeff, -⟩ := roundedAt?_eq_some.mp h
  rw [value, hcoeff, cast_signed, if_neg Bool.false_ne_true]
  positivity

theorem isNegative_eq_false {d : Decimal} (h : 0 ≤ d.coeff) : d.isNegative = false := by
  simp [isNegative, h]

theorem magnitude_le (d : Decimal) : d.magnitude ≤ maxCoeff := d.coeff_le

/-- The signs and the magnitudes of two factors give the product of their coefficients. -/
theorem signed_mul (a b : Decimal) :
    signed (a.isNegative != b.isNegative) (a.magnitude * b.magnitude) = a.coeff * b.coeff := by
  rw [← signed_isNegative a, ← signed_isNegative b]
  cases a.isNegative <;> cases b.isNegative <;> simp [signed]

@[simp] theorem zero_coeff : (0 : Decimal).coeff = 0 := rfl

@[simp] theorem zero_scale : (0 : Decimal).scale = 0 := rfl

/-- A successful product is zero, or the finest fitting rounding of the exact product. -/
theorem mul?_cases {a b m : Decimal} (h : a.mul? b = some m) :
    m = 0 ∨ finest (a.isNegative != b.isNegative) (a.magnitude * b.magnitude)
      (10 ^ (a.scale + b.scale)) (min (a.scale + b.scale) maxScale) = some m := by
  simp only [mul?, Nat.pow_eq] at h
  split at h
  · exact Or.inl (Option.some.inj h).symm
  · split at h
    · exact Or.inl (Option.some.inj h).symm
    · exact Or.inr h

/-- A product of two values that are not negative is not negative. -/
theorem mul?_nonneg {a b m : Decimal} (ha : 0 ≤ a.coeff) (hb : 0 ≤ b.coeff)
    (h : a.mul? b = some m) : 0 ≤ m.value := by
  rcases mul?_cases h with rfl | hfin
  · simp
  · rw [isNegative_eq_false ha, isNegative_eq_false hb, bne_self_eq_false] at hfin
    exact roundedAt?_value_nonneg (finest_rounded hfin).2

/-- The exact product divided by its denominator is the product of the values. -/
theorem signed_mul_div (a b : Decimal) :
    ((signed (a.isNegative != b.isNegative) (a.magnitude * b.magnitude) : ℤ) : ℚ) /
      ((10 ^ (a.scale + b.scale) : ℕ) : ℚ) = a.value * b.value := by
  rw [signed_mul, value, value]
  push_cast
  rw [pow_add, mul_div_mul_comm]

/-- A product is exact when its coefficient fits at the sum of the scales. -/
theorem mul?_exact {a b : Decimal} (hs : a.scale + b.scale ≤ maxScale)
    (hc : (a.coeff * b.coeff).natAbs ≤ maxCoeff) :
    ∃ m, a.mul? b = some m ∧ m.value = a.value * b.value ∧ m.scale ≤ a.scale + b.scale := by
  by_cases hzero : a.coeff = 0 ∨ b.coeff = 0
  · refine ⟨0, by simp [mul?, hzero], ?_, by simp [zero_scale]⟩
    rcases hzero with h | h <;> simp [value, h]
  · have hsmall : ¬ (a.magnitude < Nat.pow 2 32 ∧ b.magnitude < Nat.pow 2 32 ∧
        47 < a.scale + b.scale) := by
      unfold maxScale at hs
      omega
    set s := a.scale + b.scale with hsdef
    set num := a.magnitude * b.magnitude with hnum
    have hden : 0 < 10 ^ s := by positivity
    -- at the sum of the scales the rounding is the exact product, which fits
    have hexact : coeffAt num (10 ^ s) s = num := by
      rw [coeffAt, Nat.pow_eq, divHalfEven_of_mod_eq_zero hden (by simp), Nat.mul_div_cancel _ hden]
    have hfits : num ≤ maxCoeff := by
      rw [hnum, magnitude, magnitude, ← Int.natAbs_mul]
      exact hc
    have hat : (roundedAt? (a.isNegative != b.isNegative) num (10 ^ s) s).isSome :=
      roundedAt?_isSome_iff.mpr ⟨by rw [hexact]; exact hfits, hs⟩
    obtain ⟨m, hm⟩ := Option.isSome_iff_exists.mp hat
    have hmul : a.mul? b = some m := by
      have hs28 : s ≤ 28 := hs
      simp only [mul?, hzero, ↓reduceIte, Nat.pow_eq]
      rw [← hsdef, if_neg hsmall, ← hnum, min_eq_left hs28]
      exact finest_of_roundedAt hm
    refine ⟨m, hmul, ?_, (roundedAt?_eq_some.mp hm).2.2.2.le⟩
    rw [roundedAt?_value_exact hm hden (by simp)]
    exact_mod_cast signed_mul_div a b

theorem value_nonneg {d : Decimal} (h : 0 ≤ d.coeff) : 0 ≤ d.value := by
  unfold value
  positivity

@[simp] theorem abs_cast_signed (negative : Bool) (m : ℕ) :
    |((signed negative m : ℤ) : ℚ)| = m := by
  cases negative <;> simp [signed]

/-- The magnitude of the exact product over its denominator is the size of the product of the
values. -/
theorem magnitude_mul_div (a b : Decimal) :
    ((a.magnitude * b.magnitude : ℕ) : ℚ) / ((10 ^ (a.scale + b.scale) : ℕ) : ℚ) =
      |a.value * b.value| := by
  rw [← signed_mul_div a b, abs_div, abs_cast_signed, abs_of_pos (by positivity)]

/-- A product of two values that are not negative is not negative, and stays below every bound
of the exact product that the rounding cannot pass: a whole number, or a decimal that fits at
no more digits than the factors carry together.  A product that is not zero keeps at least the
digits of such a bound. -/
theorem mul?_le {a b m : Decimal} (ha : 0 ≤ a.coeff) (hb : 0 ≤ b.coeff) (h : a.mul? b = some m)
    {K k : ℕ} (hle : a.value * b.value ≤ K / 10 ^ k)
    (hk : k = 0 ∨ K ≤ maxCoeff ∧ k ≤ a.scale + b.scale ∧ k ≤ maxScale) :
    0 ≤ m.value ∧ m.value ≤ K / 10 ^ k ∧ (m.coeff ≠ 0 → k ≤ m.scale) := by
  rcases mul?_cases h with rfl | hfin
  · exact ⟨by simp, by simp; positivity, fun h0 => absurd rfl h0⟩
  · rw [isNegative_eq_false ha, isNegative_eq_false hb, bne_self_eq_false] at hfin
    obtain ⟨-, hm⟩ := finest_rounded hfin
    have hden : 0 < 10 ^ (a.scale + b.scale) := by positivity
    have hexact : ((a.magnitude * b.magnitude : ℕ) : ℚ) / ((10 ^ (a.scale + b.scale) : ℕ) : ℚ) =
        a.value * b.value := by
      rw [magnitude_mul_div, abs_of_nonneg (mul_nonneg (value_nonneg ha) (value_nonneg hb))]
    rw [← hexact] at hle
    -- the product keeps at least `k` digits, since it fits there
    have hkscale : k ≤ m.scale := by
      rcases hk with rfl | ⟨hK, hks, hk28⟩
      · exact Nat.zero_le _
      · refine le_scale_of_finest hfin (le_min hks hk28) (roundedAt?_isSome_iff.mpr ⟨?_, hk28⟩)
        exact (coeffAt_le_same hden hle).trans hK
    exact ⟨roundedAt?_value_nonneg hm, roundedAt?_value_le hm hden hkscale hle, fun _ => hkscale⟩

/-- A product whose exact value fits in the coefficient range is always given. -/
theorem mul?_isSome {a b : Decimal} (h : |a.value * b.value| ≤ maxCoeff) : (a.mul? b).isSome := by
  simp only [mul?]
  split
  · rfl
  · split
    · rfl
    · have hden : 0 < Nat.pow 10 (a.scale + b.scale) := by simp
      have hle : ((a.magnitude * b.magnitude : ℕ) : ℚ) / ((Nat.pow 10 (a.scale + b.scale) : ℕ) : ℚ) ≤
          (maxCoeff : ℚ) / 10 ^ 0 := by
        rw [Nat.pow_eq, magnitude_mul_div, pow_zero, div_one]
        exact h
      -- the rounding to a whole number fits
      refine finest_isSome (Nat.zero_le _) (roundedAt?_isSome_iff.mpr ⟨?_, Nat.zero_le _⟩)
      exact coeffAt_le_same hden hle

/-- Dropping trailing zeros keeps the value. -/
theorem dropZeros_value (c t : ℕ) :
    ((dropZeros c t).1 : ℚ) / 10 ^ (dropZeros c t).2 = c / 10 ^ t := by
  induction t generalizing c with
  | zero => simp [dropZeros]
  | succ t ih =>
      unfold dropZeros
      split
      · rename_i hzero
        have hc : (c : ℚ) = (c / 10 : ℕ) * 10 := by
          exact_mod_cast (Nat.div_mul_cancel (Nat.dvd_of_mod_eq_zero hzero)).symm
        rw [ih (c / 10), hc, pow_succ, mul_div_mul_right _ _ (by norm_num)]
      · rfl

theorem trimmed_value (d : Decimal) : d.trimmed.value = d.value := by
  have hvalue := dropZeros_value d.magnitude d.scale
  conv_rhs => rw [value, ← signed_isNegative d]
  simp only [trimmed, ofMagnitude, value, cast_signed]
  split
  · rw [neg_div, neg_div, hvalue]
  · exact hvalue

/-- A successful quotient by a whole number is the exact quotient, or the finest fitting rounding
of it. -/
theorem divNat?_cases {a q : Decimal} {d : ℕ} (h : a.divNat? d = some q) :
    q.value = a.value / d ∨
      a.coeff ≠ 0 ∧ ∃ r, finest a.isNegative a.magnitude (d * 10 ^ a.scale) maxScale = some r ∧
        q.value = r.value := by
  simp only [divNat?, Nat.pow_eq] at h
  split at h
  · cases h
  · rename_i hd
    split at h
    · rename_i hzero
      cases h
      left
      simp [value, hzero]
    · split at h
      · rename_i hdvd
        -- an exact quotient keeps the dividend's scale
        obtain ⟨-, -, hcoeff, hscale⟩ := ofParts?_eq_some.mp h
        left
        have hcast : ((a.magnitude / d : ℕ) : ℚ) = a.magnitude / d :=
          Nat.cast_div (Nat.dvd_of_mod_eq_zero hdvd) (by exact_mod_cast hd)
        rw [value, hcoeff, hscale, cast_signed, value, ← signed_isNegative a, cast_signed, hcast]
        split <;> ring
      · rename_i hzero _
        obtain ⟨r, hr, rfl⟩ := Option.map_eq_some_iff.mp h
        right
        refine ⟨hzero, r, hr, ?_⟩
        split
        · rfl
        · exact trimmed_value r

/-- The quotient of a signed magnitude by a power of ten and a whole number. -/
theorem signed_div (a : Decimal) (d : ℕ) :
    ((signed a.isNegative a.magnitude : ℤ) : ℚ) / ((d * 10 ^ a.scale : ℕ) : ℚ) = a.value / d := by
  rw [signed_isNegative, value]
  push_cast
  ring

/-- A quotient by a positive whole number is always given: at worst it is rounded to a whole
number, which is no larger than the dividend. -/
theorem divNat?_isSome (a : Decimal) {d : ℕ} (hd : 0 < d) : (a.divNat? d).isSome := by
  simp only [divNat?, Nat.pow_eq, Nat.pos_iff_ne_zero.mp hd, ↓reduceIte]
  split
  · rfl
  · split
    · rw [ofParts?_isSome_iff, natAbs_signed]
      exact ⟨(Nat.div_le_self _ _).trans a.magnitude_le, a.scale_le⟩
    · rw [Option.isSome_map]
      have hden : 0 < d * 10 ^ a.scale := by positivity
      have hle : (a.magnitude : ℚ) / ((d * 10 ^ a.scale : ℕ) : ℚ) ≤ (a.magnitude : ℚ) / 10 ^ 0 := by
        rw [pow_zero, div_one]
        apply div_le_self (by positivity)
        exact_mod_cast hden
      refine finest_isSome (Nat.zero_le _) (roundedAt?_isSome_iff.mpr ⟨?_, Nat.zero_le _⟩)
      exact (coeffAt_le_same hden hle).trans a.magnitude_le

/-- A quotient by a hundred is exact when the dividend has room for two more digits. -/
theorem divNat?_hundred_exact {m : Decimal} (hs : m.scale + 2 ≤ maxScale) :
    ∃ q, m.divNat? 100 = some q ∧ q.value = m.value / 100 := by
  obtain ⟨q, hq⟩ := Option.isSome_iff_exists.mp (divNat?_isSome m (by norm_num : 0 < 100))
  refine ⟨q, hq, ?_⟩
  rcases divNat?_cases hq with hexact | ⟨-, r, hr, hvalue⟩
  · exact_mod_cast hexact
  · have hden : 0 < 100 * 10 ^ m.scale := by positivity
    -- two more digits hold the exact quotient, whose coefficient is the dividend's
    have hunits : (m.magnitude : ℚ) / ((100 * 10 ^ m.scale : ℕ) : ℚ) = m.magnitude / 10 ^ (m.scale + 2) := by
      push_cast
      rw [pow_add]
      ring
    have hfits : (roundedAt? m.isNegative m.magnitude (100 * 10 ^ m.scale) (m.scale + 2)).isSome := by
      refine roundedAt?_isSome_iff.mpr ⟨?_, hs⟩
      exact (coeffAt_le_same hden hunits.le).trans m.magnitude_le
    have hdvd : 100 * 10 ^ m.scale ∣ m.magnitude * 10 ^ (m.scale + 2) := ⟨m.magnitude, by ring⟩
    rw [hvalue, finest_value_exact hr hden hs hfits hdvd, signed_div]
    norm_num

/-- A quotient by a hundred of a value that is not negative is not negative, and stays below
every bound of the exact quotient that is a decimal with no more digits than the dividend carries
and two more. -/
theorem divNat?_hundred_le {m q : Decimal} (hm : 0 ≤ m.coeff) (h : m.divNat? 100 = some q)
    {K k : ℕ} (hle : m.value / 100 ≤ K / 10 ^ k) (hk : m.coeff ≠ 0 → k ≤ m.scale + 2)
    (hk28 : k ≤ maxScale) : 0 ≤ q.value ∧ q.value ≤ K / 10 ^ k := by
  rcases divNat?_cases h with hexact | ⟨hzero, r, hr, hvalue⟩
  · rw [hexact]
    exact ⟨by have := value_nonneg hm; norm_num at this ⊢; positivity, by exact_mod_cast hle⟩
  · rw [isNegative_eq_false hm] at hr
    have hden : 0 < 100 * 10 ^ m.scale := by positivity
    have hexactq : (m.magnitude : ℚ) / ((100 * 10 ^ m.scale : ℕ) : ℚ) = m.value / 100 := by
      have := signed_div m 100
      rwa [isNegative_eq_false hm, cast_signed, if_neg Bool.false_ne_true] at this
    -- the quotient keeps at least `min (scale + 2) 28` digits, where it fits
    have hfits : (roundedAt? false m.magnitude (100 * 10 ^ m.scale) (min (m.scale + 2) maxScale)).isSome := by
      refine roundedAt?_isSome_iff.mpr ⟨?_, min_le_right _ _⟩
      have hle' : (m.magnitude : ℚ) / ((100 * 10 ^ m.scale : ℕ) : ℚ) ≤
          m.magnitude / 10 ^ (min (m.scale + 2) maxScale) := by
        rw [show ((100 * 10 ^ m.scale : ℕ) : ℚ) = 10 ^ (m.scale + 2) by push_cast; ring]
        apply div_le_div_of_nonneg_left (by positivity) (by positivity)
        exact pow_le_pow_right₀ (by norm_num) (min_le_left _ _)
      exact (coeffAt_le_same hden hle').trans m.magnitude_le
    obtain ⟨-, hrounded⟩ := finest_rounded hr
    have hfine := le_scale_of_finest hr (min_le_right _ _) hfits
    rw [hvalue]
    rw [← hexactq] at hle
    exact ⟨roundedAt?_value_nonneg hrounded,
      roundedAt?_value_le hrounded hden ((le_min (hk hzero) hk28).trans hfine) hle⟩

/-- A hundred less a discount that is not zero and at most a hundred: the exact difference over
the discount's power of ten, at the finest scale up to the discount's that fits. -/
theorem hundred_sub?_eq {d : Decimal} (hzero : d.coeff ≠ 0)
    (hnonneg : 0 ≤ 100 * 10 ^ d.scale - d.coeff) :
    hundred.sub? d = finest false (100 * 10 ^ d.scale - d.coeff).natAbs (10 ^ d.scale) d.scale := by
  simp only [sub?, add?, neg, hundred, hzero, neg_eq_zero, ↓reduceIte, Nat.pow_eq,
    show (100 : ℤ) ≠ 0 by decide, Nat.zero_max, Nat.sub_zero, Nat.sub_self, int_pow_ten,
    pow_zero, mul_one]
  rw [show 100 * 10 ^ d.scale + -d.coeff = 100 * 10 ^ d.scale - d.coeff by ring,
    decide_eq_false (not_lt.mpr hnonneg)]

/-- The share kept after a discount from zero to a hundred percent: a value from zero to a hundred
that is exact when the discount has at most 26 decimals. -/
theorem sub?_hundred {d : Decimal} (h0 : 0 ≤ d) (h100 : d ≤ hundred) :
    ∃ kept, hundred.sub? d = some kept ∧ 0 ≤ kept.coeff ∧ kept.value ≤ 100 ∧
      (d.scale ≤ 26 → kept.value = 100 - d.value ∧ kept.scale ≤ d.scale) := by
  rw [le_iff_value, value_zero] at h0
  rw [le_iff_value, value_hundred] at h100
  by_cases hzero : d.coeff = 0
  · -- taking nothing off keeps the hundred as it is
    refine ⟨hundred, by simp [sub?, add?, neg, hundred, hzero], by simp [hundred], by simp, ?_⟩
    intro _
    simp [value, hzero, hundred]
  · -- the exact difference `n / 10 ^ scale`, rounded at the finest scale that fits
    set n : ℤ := 100 * 10 ^ d.scale - d.coeff with hn
    have hvalue : (n : ℚ) / 10 ^ d.scale = 100 - d.value := by
      rw [hn, value]
      push_cast
      field_simp
    have hnonneg : 0 ≤ n := by
      have hq : (0 : ℚ) ≤ n / 10 ^ d.scale := by rw [hvalue]; linarith
      have : (0 : ℚ) ≤ n := by
        have := mul_nonneg hq (le_of_lt (show (0 : ℚ) < 10 ^ d.scale by positivity))
        rwa [div_mul_cancel₀ _ (by positivity)] at this
      exact_mod_cast this
    have hsub : hundred.sub? d = finest false n.natAbs (10 ^ d.scale) d.scale :=
      hundred_sub?_eq hzero hnonneg
    have hnq : ((n.natAbs : ℕ) : ℚ) = n := by rw [Nat.cast_natAbs, abs_of_nonneg (by exact_mod_cast hnonneg)]
    have hden : 0 < 10 ^ d.scale := by positivity
    have hle : ((n.natAbs : ℕ) : ℚ) / ((10 ^ d.scale : ℕ) : ℚ) ≤ (100 : ℕ) / 10 ^ 0 := by
      push_cast
      rw [hnq, hvalue]
      linarith
    have hat : (finest false n.natAbs (10 ^ d.scale) d.scale).isSome :=
      finest_isSome (Nat.zero_le d.scale)
        (roundedAt?_isSome_iff.mpr ⟨(coeffAt_le_same hden hle).trans (by decide), Nat.zero_le _⟩)
    obtain ⟨kept, hkept⟩ := Option.isSome_iff_exists.mp hat
    obtain ⟨hscale, hrounded⟩ := finest_rounded hkept
    refine ⟨kept, hsub.trans hkept, ?_, ?_, ?_⟩
    · rw [(roundedAt?_eq_some.mp hrounded).2.2.1]
      simp [signed]
    · simpa using roundedAt?_value_le hrounded hden (Nat.zero_le _) hle
    · intro hs26
      -- at its own scale the difference fits, so it is kept exactly
      have hfits : coeffAt n.natAbs (10 ^ d.scale) d.scale ≤ maxCoeff := by
        have hle' : ((n.natAbs : ℕ) : ℚ) / ((10 ^ d.scale : ℕ) : ℚ) ≤
            ((100 * 10 ^ d.scale : ℕ) : ℚ) / 10 ^ d.scale := by
          push_cast
          rw [hnq, hvalue, mul_div_assoc, div_self (by positivity)]
          linarith
        refine (coeffAt_le_same hden hle').trans ?_
        calc 100 * 10 ^ d.scale ≤ 100 * 10 ^ 26 := Nat.mul_le_mul_left _ (Nat.pow_le_pow_right (by norm_num) hs26)
          _ ≤ maxCoeff := by decide
      have hat : (roundedAt? false n.natAbs (10 ^ d.scale) d.scale).isSome :=
        roundedAt?_isSome_iff.mpr ⟨hfits, hs26.trans (by decide)⟩
      have hexact := finest_value_exact hkept hden (le_refl _) hat (dvd_mul_left _ _)
      refine ⟨?_, hscale⟩
      rw [hexact, cast_signed, if_neg Bool.false_ne_true, ← hvalue, hnq]
      push_cast
      rfl

/-- Rounding a decimal to `places` digits, halves away from zero, gives `roundHalfAway` of its
value, at no more than `places` digits. -/
theorem roundAway_value (d : Decimal) (places : ℕ) :
    (d.roundAway places).value = roundHalfAway places d.value ∧
      (d.roundAway places).scale ≤ places := by
  unfold roundAway
  split
  · rename_i hs
    refine ⟨?_, hs⟩
    rw [value_eq_aligned d hs, roundHalfAway_of_units]
  · rename_i hs
    have hpos : 0 < Nat.pow 10 (d.scale - places) := by simp
    -- the magnitude in units of the last digit kept
    have hunits : ((d.magnitude : ℕ) : ℚ) / ((Nat.pow 10 (d.scale - places) : ℕ) : ℚ) =
        |d.value| * 10 ^ places := by
      have hsplit : (10 : ℚ) ^ d.scale = 10 ^ (d.scale - places) * 10 ^ places := by
        rw [← pow_add, Nat.sub_add_cancel (by omega)]
      rw [value, abs_div, abs_of_pos (by positivity : (0 : ℚ) < 10 ^ d.scale), magnitude,
        Nat.cast_natAbs, Nat.pow_eq, hsplit]
      push_cast
      field_simp
    have hround : ((divHalfUp d.magnitude (Nat.pow 10 (d.scale - places)) : ℕ) : ℚ) =
        ((round (|d.value| * 10 ^ places) : ℤ) : ℚ) := by
      rw [← hunits, divHalfUp_eq_round d.magnitude _ hpos, Int.cast_natCast]
    refine ⟨?_, le_refl _⟩
    have hkept : (ofMagnitude d.isNegative (divHalfUp d.magnitude (Nat.pow 10 (d.scale - places)))
        places (divHalfUp_pow_le _ _ d.coeff_le (by omega)) (by have := d.scale_le; omega)).value =
        ((signed d.isNegative (divHalfUp d.magnitude (Nat.pow 10 (d.scale - places))) : ℤ) : ℚ) /
          10 ^ places := rfl
    rw [hkept, cast_signed, hround]
    unfold roundHalfAway isNegative
    by_cases hneg : d.coeff < 0
    · have hv : d.value < 0 :=
        div_neg_of_neg_of_pos (by exact_mod_cast hneg) (by positivity)
      simp only [hneg, decide_true, ↓reduceIte, if_pos hv, abs_of_neg hv]
      ring
    · have hv : 0 ≤ d.value := value_nonneg (not_lt.mp hneg)
      simp only [hneg, decide_false, Bool.false_eq_true, ↓reduceIte, if_neg (not_lt.mpr hv),
        abs_of_nonneg hv]

end Decimal

end Waybill
