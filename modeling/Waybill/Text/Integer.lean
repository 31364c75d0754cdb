import Waybill.Text.Phone
/-!
Reading whole numbers written in decimal: an optional sign and one or more ASCII digits, with
nothing before or after them.  A number outside the signed 64-bit range is refused.
-/
namespace Waybill

/-- The least signed 64-bit integer. -/
def int64Min : Int := -Int.pow 2 63

/-- The greatest signed 64-bit integer. -/
def int64Max : Int := Int.pow 2 63 - 1

/-- The value of a nonempty run of ASCII digits. -/
def asciiDigitsValue? (cs : List Char) : Option Nat :=
  if !cs.isEmpty && cs.all isAsciiDigit then
    some (cs.foldl (fun acc c => acc * 10 + (c.toNat - '0'.toNat)) 0)
  else none

/-- Reads a signed 64-bit integer written as an optional `+` or `-` and ASCII digits. -/
def readInt64? (s : String) : Option Int :=
  let (negative, digits) : Bool × List Char := match s.toList with
    | '-' :: rest => (true, rest)
    | '+' :: rest => (false, rest)
    | cs => (false, cs)
  match asciiDigitsValue? digits with
  | none => none
  | some n =>
    let value : Int := if negative then -(n : Int) else n
    if int64Min ≤ value ∧ value ≤ int64Max then some value else none

end Waybill
