import Waybill.Decimal.Basic
import Waybill.Fault
import Waybill.Text.Phone
/-!
Checks on single fields.  Each check either passes or reports a `FieldIssue` with its code
and parameters.  Required texts are trimmed and must keep one to a thousand characters;
optional texts that are blank count as absent.
-/
namespace Waybill

namespace FieldCheck

/-- A text with something besides blanks. -/
def notBlank (value : String) : Except FieldIssue Unit :=
  if isBlankText value then .error { code := "not_empty", params := [("value", .str value)] }
  else .ok ()

/-- A text whose number of characters lies between `least` and `most`. -/
def length (value : String) (least most : Nat) : Except FieldIssue Unit :=
  let n := value.length
  if n < least ∨ most < n then
    .error { code := "length",
             params := [("min", .int least), ("max", .int most), ("actual", .int n)] }
  else .ok ()

/-- A decimal that is not below zero. -/
def nonNegative (value : Decimal) : Except FieldIssue Unit :=
  if value < 0 then .error { code := "non_negative", params := [("value", .str value.render)] }
  else .ok ()

/-- A decimal from zero to one hundred. -/
def percentage (value : Decimal) : Except FieldIssue Unit :=
  if value < 0 ∨ Decimal.hundred < value then
    .error { code := "percentage",
             params := [("value", .str value.render), ("range", .str "0 to 100")] }
  else .ok ()

/-- A text that reads as a phone number once trimmed. -/
def phone (value : String) : Except FieldIssue Unit :=
  if isPhone value then .ok () else .error { code := "phone", params := [("value", .str value)] }

/-- Whether a check passed. -/
def passes {α : Type} (result : Except FieldIssue α) : Bool :=
  match result with
  | .ok _ => true
  | .error _ => false

/-- The most characters a required text may keep. -/
def textLimit : Nat := 1000

/-- A required text, trimmed: it must not be blank and must keep at most a thousand
characters. -/
def requireText (field value : String) : Except Fault String :=
  if !passes (notBlank value) then .error (Fault.rule field "must not be empty")
  else if !passes (length (trim value) 1 textLimit) then
    .error (Fault.rule field "must be at most 1000 characters")
  else .ok (trim value)

/-- An optional text, trimmed; a blank one counts as absent. -/
def optionalText (value : Option String) : Option String :=
  match value with
  | some v => if (trim v).isEmpty then none else some (trim v)
  | none => none

end FieldCheck

end Waybill
