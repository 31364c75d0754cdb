/-!
Escapes in text.  Percent escapes `%XX` stand for one byte each, and a `%` not followed by two
hexadecimal digits stands for itself.  A text quoted in a message shows its tab, carriage
return, line feed, backslash, double quote and NUL as backslash escapes.  Characters that
extend the grapheme before them, such as combining marks and variation selectors, and
characters that do not print, such as controls, format characters, separators other than the
space, private-use and noncharacter code points, are shown as `\u` followed by their
hexadecimal code in braces; everything else is shown as it is.
-/
namespace Waybill

/-- The value of a hexadecimal digit character. -/
def hexDigitValue (c : Char) : Option Nat :=
  if '0' ≤ c ∧ c ≤ '9' then some (c.toNat - 48)
  else if 'A' ≤ c ∧ c ≤ 'F' then some (c.toNat - 55)
  else if 'a' ≤ c ∧ c ≤ 'f' then some (c.toNat - 87)
  else none

/-- The bytes with their `%XX` escapes decoded; an escape that is not one is kept as it is. -/
def percentDecode : List UInt8 → List UInt8
  | [] => []
  | b :: rest@(h :: l :: more) =>
    if b.toNat = 37 then
      match hexDigitValue (Char.ofNat h.toNat), hexDigitValue (Char.ofNat l.toNat) with
      | some x, some y => (x * 16 + y).toUInt8 :: percentDecode more
      | _, _ => b :: percentDecode rest
    else b :: percentDecode rest
  | b :: rest => b :: percentDecode rest

/-- Whether a code lies in one of the inclusive ranges. -/
def inRanges (n : Nat) : List (Nat × Nat) → Bool
  | [] => false
  | (lo, hi) :: rest => (lo ≤ n && n ≤ hi) || inRanges n rest

/-- Code ranges of characters that extend the grapheme before them: combining marks of the
common scripts, the zero-width non-joiner, variation selectors, halfwidth sound marks and tags. -/
def graphemeExtendRanges : List (Nat × Nat) :=
  [(0x0300, 0x036F), (0x0483, 0x0489), (0x0591, 0x05BD), (0x05BF, 0x05BF), (0x05C1, 0x05C2),
   (0x05C4, 0x05C5), (0x05C7, 0x05C7), (0x0610, 0x061A), (0x064B, 0x065F), (0x0670, 0x0670),
   (0x06D6, 0x06DC), (0x06DF, 0x06E4), (0x06E7, 0x06E8), (0x06EA, 0x06ED), (0x0711, 0x0711),
   (0x0730, 0x074A), (0x07A6, 0x07B0), (0x0900, 0x0902), (0x093A, 0x093A), (0x093C, 0x093C),
   (0x0941, 0x0948), (0x094D, 0x094D), (0x0951, 0x0957), (0x0962, 0x0963), (0x0E31, 0x0E31),
   (0x0E34, 0x0E3A), (0x0E47, 0x0E4E), (0x1AB0, 0x1ACE), (0x1DC0, 0x1DFF), (0x200C, 0x200C),
   (0x20D0, 0x20F0), (0x2CEF, 0x2CF1), (0x2D7F, 0x2D7F), (0x2DE0, 0x2DFF), (0x302A, 0x302F),
   (0x3099, 0x309A), (0xA66F, 0xA672), (0xA674, 0xA67D), (0xA69E, 0xA69F), (0xFE00, 0xFE0F),
   (0xFE20, 0xFE2F), (0xFF9E, 0xFF9F), (0xE0020, 0xE007F), (0xE0100, 0xE01EF)]

/-- Code ranges of characters that do not print: controls, format characters, separators
other than the space, private use, noncharacters and unassigned planes. -/
def unprintableRanges : List (Nat × Nat) :=
  [(0x0000, 0x001F), (0x007F, 0x00A0), (0x00AD, 0x00AD), (0x0600, 0x0605), (0x061C, 0x061C),
   (0x06DD, 0x06DD), (0x070F, 0x070F), (0x0890, 0x0891), (0x08E2, 0x08E2), (0x1680, 0x1680),
   (0x180E, 0x180E), (0x2000, 0x200F), (0x2028, 0x202F), (0x205F, 0x206F), (0x3000, 0x3000),
   (0xD800, 0xF8FF), (0xFDD0, 0xFDEF), (0xFEFF, 0xFEFF), (0xFFF0, 0xFFFB), (0xFFFE, 0xFFFF),
   (0x1BCA0, 0x1BCA3), (0x1D173, 0x1D17A), (0x323B0, 0xDFFFF), (0xE0000, 0xE00FF),
   (0xE01F0, 0x10FFFF)]

/-- Whether a character is shown as a `\u` escape in a quoted text. -/
def escapedAsCode (c : Char) : Bool :=
  inRanges c.toNat graphemeExtendRanges || inRanges c.toNat unprintableRanges

/-- A character of a text quoted in a message. -/
def debugChar (c : Char) : String :=
  if c = '\t' then "\\t"
  else if c = '\r' then "\\r"
  else if c = '\n' then "\\n"
  else if c = '\\' then "\\\\"
  else if c = '"' then "\\\""
  else if c.toNat = 0 then "\\0"
  else if escapedAsCode c then
    "\\u" ++ "\x7b" ++ String.ofList (Nat.toDigits 16 c.toNat) ++ "\x7d"
  else c.toString

/-- The characters of a text quoted in a message, without the quotes. -/
def debugText (s : String) : String := String.join (s.toList.map debugChar)

/-- A text in double quotes as a message quotes it. -/
def debugQuoted (s : String) : String := "\"" ++ debugText s ++ "\""

end Waybill
