import Waybill.Fault
import Waybill.Text.Integer
/-!
The caller of a request.  Every call that changes a guide names its caller in the
`X-User-Id` header: a positive whole number, written in visible ASCII and possibly surrounded
by blanks.  A missing header and an unreadable one are refused with different messages.
-/
namespace Waybill

namespace Caller

/-- The name of the header that carries the caller. -/
def header : String := "x-user-id"

/-- Text a header value may carry: visible ASCII characters, spaces and tabs. -/
def isHeaderText (value : String) : Bool :=
  value.toList.all fun c => c == '\t' || (' ' ≤ c && c.toNat < 127)

/-- The caller named by the header's value, when present. -/
def ofHeader (value : Option String) : Except Fault Int :=
  match value with
  | none => .error (.unauthorized "missing X-User-Id header")
  | some v =>
    let id := if isHeaderText v then readInt64? (trim v) else none
    match id with
    | some n => if 0 < n then .ok n else .error (.unauthorized "invalid X-User-Id header")
    | none => .error (.unauthorized "invalid X-User-Id header")

end Caller

end Waybill
