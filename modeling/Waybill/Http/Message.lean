import Waybill.Json.Render
/-!
HTTP requests and responses as the service sees them.  A request has a method, a path that
may carry a query, headers with case-insensitive names, and perhaps a body of bytes.  A
response has a status, headers, and a payload that is empty, JSON or plain text.
-/
namespace Waybill

namespace Http

/-- A request to the service. -/
structure Request where
  method : String
  path : String
  headers : List (String × String) := []
  body : Option (List UInt8) := none

/-- What a response carries. -/
inductive Payload where
  | empty
  | json (value : Json)
  | text (s : String)

/-- A response of the service. -/
structure Response where
  status : Nat
  payload : Payload
  headers : List (String × String) := []

/-- An ASCII letter in lower case. -/
def lowerAscii (c : Char) : Char :=
  if 'A' ≤ c ∧ c ≤ 'Z' then Char.ofNat (c.toNat + 32) else c

/-- A text with its ASCII letters in lower case. -/
def lowerText (s : String) : String := String.ofList (s.toList.map lowerAscii)

/-- The first value of a header, its name matched without regard to case. -/
def Request.header? (r : Request) (name : String) : Option String :=
  (r.headers.find? (fun h => lowerText h.1 == lowerText name)).map Prod.snd

/-- The path without its query or fragment. -/
def Request.route (r : Request) : String :=
  String.ofList (r.path.toList.takeWhile fun c => c ≠ '?' ∧ c ≠ '#')

/-- A response with a JSON payload. -/
def Response.ofJson (status : Nat) (value : Json) : Response := ⟨status, .json value, []⟩

/-- A response with a plain-text payload. -/
def Response.ofText (status : Nat) (s : String) : Response := ⟨status, .text s, []⟩

/-- A response with nothing in it. -/
def Response.bare (status : Nat) : Response := ⟨status, .empty, []⟩

end Http

end Waybill
