import Waybill.Json.Value
/-!
Compact JSON text: no blank between tokens, fields in their given order, strings with `"`,
`\` and control characters escaped (the short escapes where JSON has them, `\u00XX` with
lowercase hexadecimal digits otherwise) and every other character written as it is.
Floating-point numbers are written by their shortest digits: positionally with a `.0` for
whole values up to sixteen digits, positionally for small exponents, and otherwise in
scientific notation such as `1e20` or `1.5e-7`.
-/
namespace Waybill

namespace Json

/-- A lowercase hexadecimal digit. -/
def hexDigit (n : Nat) : Char :=
  if n < 10 then Char.ofNat ('0'.toNat + n) else Char.ofNat ('a'.toNat + n - 10)

/-- The escaped form of one character inside a string. -/
def escapeChar (c : Char) : List Char :=
  if c = '"' then ['\\', '"']
  else if c = '\\' then ['\\', '\\']
  else if c = '\n' then ['\\', 'n']
  else if c = '\r' then ['\\', 'r']
  else if c = '\t' then ['\\', 't']
  else if c.toNat = 8 then ['\\', 'b']
  else if c.toNat = 12 then ['\\', 'f']
  else if c.toNat < 0x20 then ['\\', 'u', '0', '0', hexDigit (c.toNat / 16), hexDigit (c.toNat % 16)]
  else [c]

/-- A string in quotes with its special characters escaped. -/
def quote (s : String) : String :=
  String.ofList ('"' :: (s.toList.flatMap escapeChar ++ ['"']))

/-- The shortest text of the floating-point value `mantissa * 10 ^ exponent`. -/
def floatText (mantissa exponent : Int) : String :=
  let sign := if mantissa < 0 then "-" else ""
  if mantissa = 0 then sign ++ "0.0"
  else
    let digits := Nat.toDigits 10 mantissa.natAbs
    let n : Int := digits.length
    let point := n + exponent
    let body : List Char :=
      if 0 ≤ exponent ∧ point ≤ 16 then
        digits ++ List.replicate exponent.toNat '0' ++ ['.', '0']
      else if 0 < point ∧ point ≤ 16 then
        digits.take point.toNat ++ '.' :: digits.drop point.toNat
      else if -5 < point ∧ point ≤ 0 then
        ['0', '.'] ++ List.replicate (-point).toNat '0' ++ digits
      else
        let expText := (toString (point - 1)).toList
        match digits with
        | [d] => d :: 'e' :: expText
        | d :: rest => d :: '.' :: rest ++ 'e' :: expText
        | [] => []
    sign ++ String.ofList body

mutual

/-- The compact text of a value. -/
def render : Json → String
  | .null => "null"
  | .bool true => "true"
  | .bool false => "false"
  | .int n => toString n
  | .float m e => floatText m e
  | .str s => quote s
  | .arr items => "[" ++ renderItems items ++ "]"
  | .obj fields => "\x7b" ++ renderFields fields ++ "\x7d"

/-- The items of an array, separated by commas. -/
def renderItems : List Json → String
  | [] => ""
  | [j] => render j
  | j :: rest => render j ++ "," ++ renderItems rest

/-- The fields of an object, separated by commas. -/
def renderFields : List (String × Json) → String
  | [] => ""
  | [(k, v)] => quote k ++ ":" ++ render v
  | (k, v) :: rest => quote k ++ ":" ++ render v ++ "," ++ renderFields rest

end

mutual

/-- The value with the members of every object sorted by name. -/
def sortMembers : Json → Json
  | .arr items => .arr (sortItems items)
  | .obj fields => .obj ((sortFields fields).mergeSort fun a b => decide (a.1 ≤ b.1))
  | j => j

/-- The items of an array, each with its members sorted. -/
def sortItems : List Json → List Json
  | [] => []
  | j :: rest => sortMembers j :: sortItems rest

/-- The fields of an object, each value with its members sorted. -/
def sortFields : List (String × Json) → List (String × Json)
  | [] => []
  | (k, v) :: rest => (k, sortMembers v) :: sortFields rest

end

end Json

end Waybill
