import Waybill.Json.Double
/-!
JSON values as the service reads and writes them.  Objects keep their fields in the order
they were given.  A number is a whole number or a binary floating-point value; the latter is
held as the shortest decimal `mantissa * 10 ^ exponent` that reads back to it.
-/
namespace Waybill

/-- A JSON value. -/
inductive Json where
  | null
  | bool (b : Bool)
  | int (n : Int)
  | float (mantissa : Int) (exponent : Int)
  | str (s : String)
  | arr (items : List Json)
  | obj (fields : List (String × Json))

namespace Json

instance : Inhabited Json := ⟨.null⟩

/-- The value of the first field named `key`, for an object that has one. -/
def field? (j : Json) (key : String) : Option Json :=
  match j with
  | .obj fields => (fields.find? (fun f => f.1 == key)).map Prod.snd
  | _ => none

/-- An optional value, absent as `null`. -/
def opt {α : Type} (f : α → Json) : Option α → Json
  | some a => f a
  | none => .null

/-- A decimal with trailing zeros moved into the exponent; `fuel` bounds the zeros removed. -/
def normalizeFloat : Nat → Int → Int → Int × Int
  | 0, m, e => (m, e)
  | fuel + 1, m, e => if m ≠ 0 ∧ m % 10 = 0 then normalizeFloat fuel (m / 10) (e + 1) else (m, e)

/-- A number literal `mantissa / 10 ^ places` as a JSON reader takes it: a literal without a
fraction that fits in 64 bits, signed or unsigned, is a whole number; any other is the double
the fast reading gives, held by its shortest digits.  A literal too large for a double keeps
its own digits. -/
def ofLiteral (mantissa : Int) (places : Nat) : Json :=
  if places = 0 ∧ -Int.pow 2 63 ≤ mantissa ∧ mantissa < Int.pow 2 64 then .int mantissa
  else
    let digits := (Nat.toDigits 10 mantissa.natAbs).map fun c => c.toNat - 48
    let (significand, used) := Double.absorb 0 0 digits
    match Double.ofParts significand (((digits.length - used : Nat) : Int) - places) with
    | some v =>
      let (c, k) := v.shortest
      .float (if mantissa < 0 then -(c : Int) else c) k
    | none =>
      let (m, e) := normalizeFloat (mantissa.natAbs.log2 + 1) mantissa (-(places : Int))
      .float m e

end Json

end Waybill
