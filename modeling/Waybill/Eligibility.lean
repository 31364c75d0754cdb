import Waybill.Party
import Waybill.Fault
/-!
Who may carry a guide.  A courier must exist, have the courier role and be active, checked in
that order; a courier's contract must belong to that courier and be in force on the day.
-/
namespace Waybill

namespace Eligibility

/-- The user found for a courier id, if that user may carry guides. -/
def courier (courierId : Int) (found : Option User) : Except Fault User :=
  match found with
  | none => .error (Fault.missing "Courier" courierId)
  | some user =>
    if !user.isCourier then
      .error (.courierIneligible ("user " ++ toString courierId ++ " does not have the courier role"))
    else if !user.active then
      .error (.courierIneligible ("courier " ++ toString courierId ++ " is not active"))
    else .ok user

/-- The contract found for a courier, if it is the courier's and in force on `today`. -/
def contract (courierId : Int) (found : Option Contract) (today : Date) : Except Fault Contract :=
  match found with
  | some c => if c.courier == courierId && c.inForceOn today then .ok c else .error (.noActiveContract courierId)
  | none => .error (.noActiveContract courierId)

end Eligibility

end Waybill
