import Waybill.Web.Host
/-!
Socket addresses: an IP address and a port, the address a server listens on.

A socket address is written as an IPv4 address, a colon and a port, or as an IPv6 address in
brackets, optionally followed by `%` and a decimal scope, then a colon and a port.  The
addresses are read by the strict reader of `Host`, and the port and the scope are decimal
numbers of any length below 2^16 and 2^32.  Nothing may follow the port.

An address is shown in its canonical form: an IPv4 address as four decimal numbers; an IPv6
address in lower-case hexadecimal groups without leading zeros, with the first longest run of
two or more zero groups written as `::`, and an IPv4-mapped address as `::ffff:` followed by
the IPv4 address.  A scope of zero is not shown.
-/
namespace Waybill

/-- An IP address: four octets, or eight 16-bit groups. -/
inductive IpAddress where
  | v4 (octets : List Nat)
  | v6 (groups : List Nat)
  deriving DecidableEq, Repr

/-- An address a server listens on.  The scope only has a meaning for IPv6 addresses. -/
structure SocketAddress where
  ip : IpAddress
  scope : Nat := 0
  port : Nat
  deriving DecidableEq, Repr

namespace IpAddress

/-- Whether the address stands for every address of the machine. -/
def isUnspecified : IpAddress → Bool
  | v4 octets => octets.all (· == 0)
  | v6 groups => groups.all (· == 0)

/-- Whether the address reaches the machine itself: `127.0.0.0/8` or `::1`. -/
def isLoopback : IpAddress → Bool
  | v4 octets => octets.head? == some 127
  | v6 groups => groups == [0, 0, 0, 0, 0, 0, 0, 1]

/-- The IPv4 address in dotted decimal. -/
def dotted (octets : List Nat) : String := ".".intercalate (octets.map toString)

/-- A 16-bit group in lower-case hexadecimal without leading zeros. -/
def hexGroup (g : Nat) : String := String.ofList (Nat.toDigits 16 g)

/-- The first longest run of zero groups: where it starts and how long it is. -/
def longestZeroRun (groups : List Nat) : Nat × Nat :=
  let step := fun (acc : (Nat × Nat) × (Nat × Nat)) (entry : Nat × Nat) =>
    let ((bestStart, bestLength), (start, length)) := acc
    let (g, i) := entry
    if g == 0 then
      let current := if length == 0 then (i, 1) else (start, length + 1)
      (if current.2 > bestLength then current else (bestStart, bestLength), current)
    else ((bestStart, bestLength), (0, 0))
  (groups.zipIdx.foldl step ((0, 0), (0, 0))).1

/-- The groups between colons. -/
def colonGroups (groups : List Nat) : String := ":".intercalate (groups.map hexGroup)

/-- The IPv6 address in canonical form. -/
def canonicalV6 (groups : List Nat) : String :=
  match groups with
  | [0, 0, 0, 0, 0, 0xffff, high, low] =>
    "::ffff:" ++ dotted [high / 256, high % 256, low / 256, low % 256]
  | _ =>
    let (start, length) := longestZeroRun groups
    if length > 1 then
      colonGroups (groups.take start) ++ "::" ++ colonGroups (groups.drop (start + length))
    else colonGroups groups

/-- The address in canonical form. -/
def render : IpAddress → String
  | v4 octets => dotted octets
  | v6 groups => canonicalV6 groups

end IpAddress

namespace SocketAddress

/-- Reads a port after its colon, with nothing after it. -/
def readPort : List Char → Option Nat
  | ':' :: cs =>
    match Host.strictNumber 10 (cs.length + 1) 65536 true cs with
    | some (port, []) => some port
    | _ => none
  | _ => none

/-- Reads a socket address. -/
def parse? (s : String) : Option SocketAddress :=
  let cs := s.toList
  match Host.strictIpv4 cs with
  | some (octets, rest) => (readPort rest).map fun port => { ip := .v4 octets, port := port }
  | none =>
    match cs with
    | '[' :: more => do
      let (groups, rest) ← Host.strictIpv6 more
      let (scope, rest) := match rest with
        | '%' :: digits =>
          (Host.strictNumber 10 (digits.length + 1) (Nat.pow 2 32) true digits).getD (0, rest)
        | _ => (0, rest)
      match rest with
      | ']' :: portText =>
        let port ← readPort portText
        pure { ip := .v6 groups, scope := scope, port := port }
      | _ => none
    | _ => none

/-- The address as a server shows it. -/
def render (a : SocketAddress) : String :=
  match a.ip with
  | .v4 _ => a.ip.render ++ ":" ++ toString a.port
  | .v6 _ =>
    "[" ++ a.ip.render ++ (if a.scope == 0 then "" else "%" ++ toString a.scope) ++ "]:" ++
      toString a.port

end SocketAddress

end Waybill
