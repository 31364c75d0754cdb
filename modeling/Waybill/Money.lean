import Waybill.Decimal.Arith
import Waybill.FieldCheck
import Waybill.Party
/-!
Money rules.  Amounts are rounded to cents with halves going away from zero.  A courier's
commission is a percentage of the guide's base price; a loyalty discount lowers the base
price by a percentage; a cancellation asked for by the business costs a percentage of the
commission, unless the business still has free cancellations left this month.
-/
namespace Waybill

namespace Money

/-- An amount rounded to cents, a half going away from zero. -/
def round (amount : Decimal) : Decimal := amount.roundAway 2

/-- `rate` percent of `amount`, rounded to cents; `none` when the product exceeds the range
of decimals. -/
def percentOf? (amount rate : Decimal) : Option Decimal := do
  let product ← amount.mul? rate
  let share ← product.divNat? 100
  pure (round share)

/-- The failure of a product beyond the range of decimals. -/
def productOverflow : Fault := .overflow "Multiplication"

/-- The failure of a difference beyond the range of decimals. -/
def differenceOverflow : Fault := .overflow "Subtraction"

/-- `rate` percent of `amount`, rounded to cents. -/
def percentOf (amount rate : Decimal) : Except Fault Decimal :=
  match percentOf? amount rate with
  | some d => .ok d
  | none => .error productOverflow

/-- A courier's commission: `rate` percent of the base price.  The price must not be negative
and the rate must lie between 0 and 100, checked in that order. -/
def commission (basePrice rate : Decimal) : Except Fault Decimal :=
  if !FieldCheck.passes (FieldCheck.nonNegative basePrice) then
    .error (Fault.rule "base_price" "must not be negative")
  else if !FieldCheck.passes (FieldCheck.percentage rate) then
    .error (Fault.rule "commission_percentage" "must be between 0 and 100")
  else percentOf basePrice rate

/-- The base price after a discount of `discount` percent. -/
def discounted (basePrice discount : Decimal) : Except Fault Decimal :=
  match Decimal.hundred.sub? discount with
  | some kept => percentOf basePrice kept
  | none => .error differenceOverflow

/-- What a cancellation costs the business and what the courier is still paid. -/
structure Penalty where
  charged : Decimal
  courierPayment : Decimal
  freeUsed : Bool

/-- The money side of a cancellation.  A customer's cancellation costs nothing and pays the
courier the whole commission.  A business's cancellation is free while the business has
made fewer than its free allowance this month (the allowance is never negative, and zero
without a loyalty level); otherwise the business pays the level's penalty percentage of the
commission, which also goes to the courier. -/
def penalty (commission : Decimal) (initiator : Initiator) (level : Option LoyaltyLevel)
    (cancellationsThisMonth : Int) : Except Fault Penalty :=
  match initiator with
  | .customer => .ok ⟨0, commission, false⟩
  | .business =>
    let (allowance, rate) : Int × Decimal := match level with
      | some l => (max l.freeCancellations 0, l.penalty)
      | none => (0, 0)
    if allowance ≤ cancellationsThisMonth then
      match percentOf commission rate with
      | .ok p => .ok ⟨p, p, false⟩
      | .error e => .error e
    else .ok ⟨0, 0, true⟩

end Money

end Waybill
