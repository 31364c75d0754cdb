import Waybill.Proofs.Percentages
import Waybill.Proofs.Permanence
/-!
The money stored with guides.  A guide is registered at the price asked for, which must not be
negative, less the loyalty discount of its business; it keeps that price for good, and every
hand-over sets its commission to a percentage of the price at the rate of a contract.  Main
statements: when every loyalty discount lies from 0 to 100, every stored guide has a price in
cents that is not negative and whose hundredfold fits the coefficient range, and a commission
from zero to that price (`Store.run_wellPriced`).  Hence amounts stay within their bounds
(`money_within_bounds`), and once a guide is stored no commission and no cancellation charge on
it overflows (`stored_guides_never_overflow`); a registration can (`registration_may_overflow`).
-/
namespace Waybill

open Service Decimal

/-- Every loyalty level's `part`, its discount or its penalty, is a percentage from 0 to 100. -/
def Directory.LevelPercentages (d : Directory) (part : LoyaltyLevel → Decimal) : Prop :=
  ∀ l ∈ d.levels, 0 ≤ part l ∧ part l ≤ hundred

namespace Directory

variable {d : Directory} {part : LoyaltyLevel → Decimal}

theorem LevelPercentages.level? (hd : d.LevelPercentages part) {id : Int} {l : LoyaltyLevel}
    (h : d.level? id = some l) : 0 ≤ part l ∧ part l ≤ hundred :=
  hd l (List.mem_of_find?_eq_some h)

/-- A business's discount is its level's, or nothing. -/
theorem LevelPercentages.discountOf (hd : d.LevelPercentages LoyaltyLevel.discount)
    (now : Instant) (b : Business) :
    0 ≤ discountOf ⟨d, now⟩ b ∧ discountOf ⟨d, now⟩ b ≤ hundred := by
  unfold Service.discountOf
  split
  · rename_i id _
    cases hl : d.level? id with
    | none => exact ⟨by decide, by decide⟩
    | some l => exact hd.level? hl
  · exact ⟨by decide, by decide⟩

/-- The penalty rate of a business is its level's, or nothing. -/
theorem LevelPercentages.penaltyRate (hd : d.LevelPercentages LoyaltyLevel.penalty)
    (business : Int) :
    0 ≤ Money.penaltyRate (d.levelOf? business) ∧
      Money.penaltyRate (d.levelOf? business) ≤ hundred := by
  unfold levelOf?
  split
  · split
    · rename_i id _
      cases hl : d.level? id with
      | none => exact ⟨by decide, by decide⟩
      | some l => exact hd.level? hl
    · exact ⟨by decide, by decide⟩
  · exact ⟨by decide, by decide⟩

end Directory

theorem FieldCheck.passes_nonNegative {v : Decimal} :
    FieldCheck.passes (FieldCheck.nonNegative v) = true ↔ 0 ≤ v := by
  rw [← Decimal.not_lt]
  by_cases h : v < 0 <;> simp [FieldCheck.passes, FieldCheck.nonNegative, h]

/-- A price that is not negative passes the first check of a commission, whatever the rate. -/
theorem Money.commission_price_checked {b : Decimal} (hb : 0 ≤ b) (r : Decimal) :
    Money.commission b r ≠ .error (Fault.rule "base_price" "must not be negative") := by
  have hpasses := FieldCheck.passes_nonNegative.mpr hb
  unfold Money.commission Money.percentOf
  simp only [hpasses, Bool.not_true, Bool.false_eq_true, ↓reduceIte]
  -- what follows fails, if at all, on the rate or on the product
  split
  · simp [Fault.rule]
  · cases percentOf? b r <;> simp [Money.productOverflow, Fault.rule]

/-- The money a stored guide carries: a price in cents that is not negative and whose hundredfold
fits the coefficient range, and a commission, once set, from zero to the price. -/
structure Guide.WellPriced (g : Guide) : Prop where
  price_nonneg : 0 ≤ g.basePrice
  price_cents : g.basePrice.scale ≤ 2
  price_fits : g.basePrice.value * 100 ≤ maxCoeff
  commission_le : ∀ x, g.commission = some x → 0 ≤ x ∧ x ≤ g.basePrice

/-- A rewrite keeps the commission, clears it, or hands the guide over at a commission of its
price. -/
theorem Rewrites.commission_cases {now : Instant} {op : Operation} {g g' : Guide}
    (hr : Rewrites now op g g') :
    g'.commission = g.commission ∨ g'.commission = none ∨
      ∃ x rate, g'.commission = some x ∧ Money.commission g.basePrice rate = .ok x := by
  cases hr with
  | assign c k x _ hx | reassign c k x _ _ hx | resolveReturnHanded c k x _ hx
  | resolveStayHanded c k x _ hx =>
      obtain ⟨rate, hrate⟩ := hx
      exact Or.inr (Or.inr ⟨x, rate, by simp [handOver], hrate⟩)
  | reject => exact Or.inr (Or.inl (by simp))
  | resolveStay => exact Or.inl rfl
  | cancel => exact Or.inl (by simp)
  | _ => exact Or.inl (by simp)

theorem Rewrites.wellPriced {now : Instant} {op : Operation} {g g' : Guide}
    (hr : Rewrites now op g g') (hg : g.WellPriced) : g'.WellPriced := by
  have hprice : g'.basePrice = g.basePrice := hr.retains.basePrice
  refine ⟨hprice ▸ hg.price_nonneg, hprice ▸ hg.price_cents, hprice ▸ hg.price_fits, ?_⟩
  intro x hx
  rw [hprice]
  rcases hr.commission_cases with hkept | hnone | ⟨y, rate, hy, hrate⟩
  · exact hg.commission_le x (hkept ▸ hx)
  · rw [hnone] at hx
    cases hx
  · rw [hy, Option.some.injEq] at hx
    subst hx
    exact Money.commission_le hg.price_cents hrate

/-- A guide registered at a discounted price from a price that is not negative. -/
theorem GuideDraft.wellPriced {draft : GuideDraft} {price discount : Decimal} (hp : 0 ≤ price)
    (hd : 0 ≤ discount ∧ discount ≤ hundred)
    (h : Money.discounted price discount = .ok draft.basePrice) (id : Int) (moment : Instant) :
    (draft.toGuide id moment).WellPriced := by
  obtain ⟨hcents, hnonneg, -⟩ := Money.discounted_le hp hd.1 hd.2 h
  exact ⟨hnonneg, hcents, Money.discounted_le_maxCoeff hp hd.1 hd.2 h, fun _ hx => nomatch hx⟩

namespace Store

/-- Every stored guide carries its money within bounds. -/
def WellPriced (s : Store) : Prop := ∀ g ∈ s.guides, g.WellPriced

variable {d : Directory}

theorem wellPriced_empty : ({} : Store).WellPriced := fun _ hg => nomatch hg

/-- The step lemma: a call registers a guide at a discounted price, or rewrites one, keeping its
price and setting any commission from that price. -/
theorem WellPriced.after (hd : d.LevelPercentages LoyaltyLevel.discount) {s : Store}
    (hs : s.WellPriced) (now : Instant) (op : Operation) : (s.after d now op).WellPriced := by
  rcases after_cases d s now op with hsame | hok
  · rw [hsame]
    exact hs
  rcases perform_ok_shape hok with ⟨-, hsame⟩ | ⟨-, ⟨⟨req, user, rfl⟩, -⟩ | ⟨g, g', hr⟩⟩
  · rw [hsame]
    exact hs
  · -- the registered guide is the only new one
    simp only [Operation.perform] at hok
    obtain ⟨_, hrun⟩ := Tx.discard_ok.mp hok
    obtain ⟨draft, ⟨hprice, b, -, hdiscount⟩, -, note, hafter⟩ := create_ok hrun
    intro h hh
    rw [hafter, withEntry_guides, List.mem_append, List.mem_singleton] at hh
    rcases hh with hold | rfl
    · exact hs h hold
    · exact GuideDraft.wellPriced (FieldCheck.passes_nonNegative.mp hprice)
        (hd.discountOf now b) hdiscount _ _
  · intro h hh
    rcases hr.mem_guides hh with rfl | ⟨hold, -⟩
    · exact hr.rewrites.wellPriced (hs g (guide?_some hr.stored).1)
    · exact hs h hold

/-- The run lemma: along any run, every stored guide keeps its money within bounds. -/
theorem run_wellPriced (hd : d.LevelPercentages LoyaltyLevel.discount) :
    ∀ (steps : List (Instant × Operation)) {s : Store}, s.WellPriced → (s.run d steps).WellPriced
  | [], _, hs => hs
  | (now, op) :: rest, _, hs => run_wellPriced hd rest (hs.after hd now op)

end Store

/-- Money stays within its bounds.  A commission on a price in cents lies between zero and the
price; a cancellation of a commission in cents under a penalty from 0 to 100 costs a customer
nothing and pays the courier the whole commission, and charges a business between zero and the
commission, paid on to the courier; a discounted price is in cents, from zero to the price rounded
to cents.  Each holds whenever the amount is given: `penalty_may_overflow` shows that a penalty is
not always given.  And when every loyalty discount lies from 0 to 100, every guide a run stores has
a price in cents that is not negative, so a commission on it never fails its price check. -/
theorem money_within_bounds :
    (∀ b r x : Decimal, b.scale ≤ 2 → Money.commission b r = .ok x → 0 ≤ x ∧ x ≤ b) ∧
    (∀ (c : Decimal) (i : Initiator) (l : LoyaltyLevel) (n : Int) (p : Money.Penalty), 0 ≤ c →
      c.scale ≤ 2 → 0 ≤ l.penalty → l.penalty ≤ hundred → Money.penalty c i (some l) n = .ok p →
      (i = .customer → p = ⟨0, c, false⟩) ∧
        (i = .business → 0 ≤ p.charged ∧ p.charged = p.courierPayment ∧ p.charged ≤ c)) ∧
    (∀ b discount x : Decimal, 0 ≤ b → 0 ≤ discount → discount ≤ hundred →
      Money.discounted b discount = .ok x → x.scale ≤ 2 ∧ 0 ≤ x ∧ x ≤ Money.round b) ∧
    (∀ d : Directory, d.LevelPercentages LoyaltyLevel.discount →
      ∀ (steps : List (Instant × Operation)), ∀ g ∈ (Store.run d {} steps).guides,
        0 ≤ g.basePrice ∧ g.basePrice.scale ≤ 2 ∧
          ∀ rate, Money.commission g.basePrice rate ≠
            .error (Fault.rule "base_price" "must not be negative")) := by
  refine ⟨fun _ _ _ hb2 h => Money.commission_le hb2 h,
    fun _ _ l _ _ hc hc2 hl hl100 h =>
      Money.penalty_le hc hc2 (show 0 ≤ Money.penaltyRate (some l) from hl) hl100 h,
    fun _ _ _ hb h0 h100 h => Money.discounted_le hb h0 h100 h, ?_⟩
  intro d hd steps g hg
  have hwell := Store.run_wellPriced hd steps Store.wellPriced_empty g hg
  exact ⟨hwell.price_nonneg, hwell.price_cents, Money.commission_price_checked hwell.price_nonneg⟩

/-- The commission of 10.05 at half is 5.03, between zero and the price. -/
theorem commission_of_ten_at_half :
    Money.commission ⟨1005, 2, by decide, by decide⟩ ⟨50, 0, by decide, by decide⟩ =
        .ok ⟨503, 2, by decide, by decide⟩ ∧
      0 ≤ (⟨503, 2, by decide, by decide⟩ : Decimal) ∧
        (⟨503, 2, by decide, by decide⟩ : Decimal) ≤ ⟨1005, 2, by decide, by decide⟩ :=
  have hcommission : Money.commission ⟨1005, 2, by decide, by decide⟩ ⟨50, 0, by decide, by decide⟩ =
      .ok ⟨503, 2, by decide, by decide⟩ := rfl
  ⟨hcommission, money_within_bounds.1 _ _ _ (by decide) hcommission⟩

/-- Once guides are stored, nothing computed on them overflows.  When every loyalty discount and
penalty lies from 0 to 100, every guide a run stores takes a commission at any rate from 0 to 100,
so no hand-over of it is refused for overflow, and every cancellation of it, by anyone, at any
count, has its money given. -/
theorem stored_guides_never_overflow (d : Directory)
    (hdiscount : d.LevelPercentages LoyaltyLevel.discount)
    (hpenalty : d.LevelPercentages LoyaltyLevel.penalty) (steps : List (Instant × Operation)) :
    ∀ g ∈ (Store.run d {} steps).guides,
      (∀ rate, 0 ≤ rate → rate ≤ hundred → ∃ x, Money.commission g.basePrice rate = .ok x) ∧
      (∀ day operation k c, ¬ Refusal d day operation k c g.basePrice Money.productOverflow) ∧
      (∀ i n, ∃ p, Money.penalty (g.commission.getD 0) i (d.levelOf? g.business) n = .ok p) := by
  intro g hg
  have hwell := Store.run_wellPriced hdiscount steps Store.wellPriced_empty g hg
  have hcommission : ∀ rate, 0 ≤ rate → rate ≤ hundred →
      ∃ x, Money.commission g.basePrice rate = .ok x := fun rate hr hr100 =>
    Money.commission_ok_of_hundredfold hwell.price_nonneg hwell.price_fits hr hr100
  refine ⟨hcommission, ?_, ?_⟩
  · -- the only refusal with that fault is an overflow of the commission
    intro day operation k c hrefusal
    generalize hf : Money.productOverflow = f at hrefusal
    cases hrefusal <;> simp only [Money.productOverflow, Fault.missing, Fault.refused, Fault.rule,
      reduceCtorEq] at hf
    rename_i x _ _ _ _ hlow hhigh hover
    obtain ⟨y, hy⟩ := hcommission x.rate hlow hhigh
    rw [Money.commission_of_valid hwell.price_nonneg hlow hhigh, Money.percentOf_ok_iff, hover] at hy
    cases hy
  · -- the charge is a share of a commission no larger than the price
    intro i n
    obtain ⟨hrate, hrate100⟩ := hpenalty.penaltyRate g.business
    cases hc : g.commission with
    | none => exact Money.penalty_ok_of_hundredfold (by decide) (by simp) hrate hrate100 i n
    | some x =>
      obtain ⟨hx0, hxb⟩ := hwell.commission_le x hc
      have hx100 : x.value * 100 ≤ maxCoeff := by
        have := le_iff_value.mp hxb
        linarith [hwell.price_fits]
      exact Money.penalty_ok_of_hundredfold hx0 hx100 hrate hrate100 i n

/-- One guide registered at a price of a hundred for a business of the level with two free
cancellations and a full penalty. -/
def hundredGuideRun : List (Instant × Operation) :=
  [(⟨1700000000, 0⟩, .create ⟨11, 1, hundred,
      ⟨"Ana", "3001234567", "Calle 1", "Cali", "Valle"⟩, none⟩ 4)]

set_option maxRecDepth 20000 in
/-- The guide registered at a hundred takes its whole price as a commission. -/
theorem registered_guide_full_commission :
    ∃ x, Money.commission ((Store.run twoFreeDirectory {} hundredGuideRun).guides.head
      (by decide)).basePrice hundred = .ok x :=
  (stored_guides_never_overflow twoFreeDirectory
      (fun l hl => by simp [twoFreeDirectory] at hl; subst hl; decide)
      (fun l hl => by simp [twoFreeDirectory] at hl; subst hl; decide) hundredGuideRun _
      (List.head_mem _)).1 hundred (by decide) (by decide)

/-- A business without a loyalty level, and a user who registers its guides. -/
def plainBusinessDirectory : Directory :=
  { users := [⟨4, "Tienda", "tienda@correo.co", .business, true⟩],
    businesses := [⟨12, "Negocio", "negocio12@correo.co", none, true⟩] }

/-- A request at the largest price a decimal holds. -/
def largestPriceRequest : GuideRequest :=
  ⟨12, 1, ⟨79228162514264337593543950335, 0, Nat.le_refl Decimal.maxCoeff,
      Nat.zero_le Decimal.maxScale⟩,
    ⟨"Ana", "3001234567", "Calle 1", "Cali", "Valle"⟩, none⟩

set_option maxRecDepth 20000 in
/-- A registration can overflow on a price it admits: the largest price, not negative, times the
hundred percent kept without a discount passes the coefficient range. -/
theorem registration_may_overflow :
    plainBusinessDirectory.LevelPercentages LoyaltyLevel.discount ∧
      0 ≤ largestPriceRequest.basePrice ∧
      (create ⟨plainBusinessDirectory, ⟨1700000000, 0⟩⟩ largestPriceRequest 4).run {} =
        .error Money.productOverflow :=
  ⟨fun _ hl => by simp [plainBusinessDirectory] at hl, by decide, rfl⟩

end Waybill
