import Waybill.Decimal.Arith
/-!
Reading decimals from plain notation: an optional sign, digits with at most one point, and
underscores between them that are skipped.  Digits beyond what a decimal holds are rounded
half to even; a whole part beyond 96 bits is refused.  Scientific notation is read as a base
and a power of ten.
-/
namespace Waybill

namespace Decimal

/-- The digits of a numeral split at its point, underscores skipped, and whether a point was
seen; `none` at any other character or a second point. -/
def splitDigits : List Char → Bool → List Char → List Char → Option (List Char × List Char)
  | [], _, whole, fraction => some (whole.reverse, fraction.reverse)
  | c :: rest, seenPoint, whole, fraction =>
    if c = '_' then splitDigits rest seenPoint whole fraction
    else if c = '.' then
      if seenPoint then none else splitDigits rest true whole fraction
    else if c.isDigit then
      if seenPoint then splitDigits rest seenPoint whole (c :: fraction)
      else splitDigits rest seenPoint (c :: whole) fraction
    else none

/-- The value of a list of decimal digits. -/
def digitValue (cs : List Char) : Nat :=
  cs.foldl (fun acc c => acc * 10 + (c.toNat - '0'.toNat)) 0

/-- Reads plain decimal notation.  The text may start with `+` or `-`, must hold at least one
digit, and may not start with an underscore. -/
def read? (s : String) : Option Decimal :=
  let (negative, body) : Bool × List Char := match s.toList with
    | '-' :: rest => (true, rest)
    | '+' :: rest => (false, rest)
    | cs => (false, cs)
  match body with
  | '_' :: _ => none
  | _ =>
    match splitDigits body false [] [] with
    | none => none
    | some (whole, fraction) =>
      if whole.isEmpty ∧ fraction.isEmpty then none
      else if maxCoeff < digitValue whole then none
      else
        let places := fraction.length
        finest negative (digitValue (whole ++ fraction)) (Nat.pow 10 places) (min places maxScale)

/-- The value of an unsigned 32-bit numeral: an optional `+` and at least one digit. -/
def word32? (cs : List Char) : Option Nat :=
  let body := match cs with
    | '+' :: rest => rest
    | _ => cs
  if body.isEmpty ∨ !body.all Char.isDigit then none
  else
    let n := digitValue body
    if n < Nat.pow 2 32 then some n else none

/-- Reads scientific notation: a base in plain notation, `e` or `E`, and a whole exponent.  A
negative exponent raises the base's scale, which may not pass 28.  A positive one lowers the
scale as far as it goes; past that the base is multiplied by the remaining power of ten, at
most the 28th, and the product loses its trailing zeros. -/
def readScientific? (s : String) : Option Decimal := do
  let cs := s.toList
  let i ← cs.findIdx? (fun c => c = 'e' ∨ c = 'E')
  let base ← read? (String.ofList (cs.take i))
  match cs.drop (i + 1) with
  | '-' :: rest =>
    let e ← word32? rest
    ofParts? base.coeff (base.scale + e)
  | rest =>
    let e ← word32? rest
    if e ≤ base.scale then ofParts? base.coeff (base.scale - e)
    else if maxScale < e then none
    else
      let power ← ofInt? (Int.pow 10 e)
      (base.mul? power).map trimmed

/-- The plain text of `±digits * 10 ^ exponent`: all its digits, with a point only when the
exponent is negative. -/
def plainText (negative : Bool) (digits : Nat) (exponent : Int) : String :=
  let ds := Nat.toDigits 10 digits
  let body : List Char :=
    if 0 ≤ exponent then ds ++ List.replicate exponent.toNat '0'
    else
      let places := (-exponent).toNat
      if places < ds.length then ds.take (ds.length - places) ++ '.' :: ds.drop (ds.length - places)
      else '0' :: '.' :: List.replicate (places - ds.length) '0' ++ ds
  String.ofList ((if negative then ['-'] else []) ++ body)

end Decimal

end Waybill
