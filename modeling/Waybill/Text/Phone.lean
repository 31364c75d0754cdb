import Waybill.Text.Blank
/-!
Phone numbers.  After trimming blanks, a phone number is an optional plus sign, then an ASCII
digit, then six to eighteen characters each an ASCII digit, a space or a hyphen, then an
ASCII digit.
-/
namespace Waybill

/-- An ASCII decimal digit. -/
def isAsciiDigit (c : Char) : Bool := '0' ≤ c && c ≤ '9'

/-- A character allowed inside a phone number: an ASCII digit, a space or a hyphen. -/
def isPhoneInner (c : Char) : Bool := isAsciiDigit c || c == ' ' || c == '-'

/-- The body of a phone number once its plus sign is gone: eight to twenty characters,
digits at both ends and digits, spaces or hyphens between them. -/
def isPhoneBody (cs : List Char) : Bool :=
  match cs with
  | [] => false
  | first :: rest =>
    match rest.getLast? with
    | none => false
    | some last =>
      isAsciiDigit first && isAsciiDigit last && 8 ≤ cs.length && cs.length ≤ 20 &&
        (rest.dropLast).all isPhoneInner

/-- A trimmed text that reads as a phone number. -/
def isPhoneText (cs : List Char) : Bool :=
  match cs with
  | '+' :: rest => isPhoneBody rest
  | _ => isPhoneBody cs

/-- Whether a text, once trimmed, is a phone number. -/
def isPhone (s : String) : Bool := isPhoneText (trimBlanks s.toList)

end Waybill
