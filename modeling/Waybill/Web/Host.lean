import Waybill.Text.Escape
/-!
Host addresses.  Two readers of numeric addresses are kept apart because they accept
different texts.

The lenient reader of URL hosts takes IPv4 addresses of one to four numbers, each decimal,
octal after a leading `0` or hexadecimal after `0x`, the last filling the bytes the others
leave; and IPv6 addresses of eight 16-bit groups with at most one `::` standing for zero
groups, the last two groups possibly written as an IPv4 address in plain decimal.

The strict reader of socket addresses takes IPv4 addresses of exactly four decimal numbers
below 256 without leading zeros, and IPv6 addresses of hexadecimal groups of at most four
digits, with at most one `::` and an optional IPv4 address in place of the last two groups.
-/
namespace Waybill

namespace Host

/-- The value of a digit in a radix. -/
def digitIn (radix : Nat) (c : Char) : Option Nat :=
  match hexDigitValue c with
  | some d => if d < radix then some d else none
  | none => none

/-- The value of digits in a radix. -/
def digitsValue (radix : Nat) (cs : List Char) : Nat :=
  cs.foldl (fun acc c => acc * radix + (digitIn radix c).getD 0) 0

/-- A number of a lenient IPv4 address: `none` when it is not one, `some none` when it is
one too large for 32 bits. -/
def ipv4Number? (cs : List Char) : Option (Option Nat) :=
  if cs.isEmpty then none
  else
    let (radix, digits) : Nat × List Char := match cs with
      | '0' :: 'x' :: rest | '0' :: 'X' :: rest => (16, rest)
      | '0' :: rest@(_ :: _) => (8, rest)
      | _ => (10, cs)
    if digits.isEmpty then some (some 0)
    else if !digits.all fun c => (digitIn radix c).isSome then none
    else
      let n := digitsValue radix digits
      if n < Nat.pow 2 32 then some (some n) else some none

/-- Whether a host ends in a number, which makes it an IPv4 address: its last label, or the
one before a final empty label, is decimal digits or an IPv4 number. -/
def endsInNumber (host : String) : Bool :=
  let labels := (host.splitOn ".").reverse
  let last? : Option String := match labels with
    | "" :: before :: _ => some before
    | "" :: [] => none
    | last :: _ => some last
    | [] => none
  match last? with
  | none => false
  | some last =>
    (!last.isEmpty && last.toList.all Char.isDigit) || (ipv4Number? last.toList).isSome

/-- Whether a host is a lenient IPv4 address. -/
def isLenientIpv4 (host : String) : Bool :=
  let labels := host.splitOn "."
  let parts := if labels.getLast? == some "" then labels.dropLast else labels
  if parts.length > 4 || parts.isEmpty then false
  else
    let numbers := parts.map fun p => ipv4Number? p.toList
    if numbers.any fun n => match n with
        | some (some _) => false
        | _ => true then false
    else
      let values := numbers.map fun n => (n.getD none).getD 0
      let last := values.getLast?.getD 0
      last < Nat.pow 256 (5 - values.length) && (values.dropLast.all fun v => v < 256)

/-- The hexadecimal digits at the front, at most four, with their value and count. -/
def hexGroup (cs : List Char) : Nat × List Char :=
  let ds := (cs.takeWhile fun c => (digitIn 16 c).isSome).take 4
  (ds.length, cs.drop ds.length)

/-- Whether the text is the decimal tail of a lenient IPv6 address: four numbers below 256
separated by dots, none with a leading zero; `seen` numbers were read, and `fuel` bounds the
numbers still to read. -/
def ipv4TailOk : Nat → Nat → List Char → Bool
  | _, seen, [] => seen == 4
  | 0, _, _ :: _ => false
  | fuel + 1, seen, cs@(_ :: _) =>
    let rest := if seen > 0 then
        match cs with
        | '.' :: more => if seen < 4 then some more else none
        | _ => none
      else some cs
    match rest with
    | none => false
    | some cs' =>
      let ds := cs'.takeWhile Char.isDigit
      if ds.isEmpty then false
      else if ds.length > 1 && ds.head? == some '0' then false
      else if digitsValue 10 ds > 255 then false
      else ipv4TailOk fuel (seen + 1) (cs'.drop ds.length)

/-- Where a lenient IPv6 reader stands: the groups read, the group where `::` stands if it
was read. -/
structure Ipv6Progress where
  pieces : Nat
  compress : Option Nat

/-- Reads the groups of a lenient IPv6 address after its start; `fuel` bounds the steps.
Gives the progress and, when an IPv4 tail begins, the text from its start. -/
def ipv6Groups : Nat → Ipv6Progress → List Char → Option (Ipv6Progress × Option (List Char))
  | _, p, [] => some (p, none)
  | 0, _, _ :: _ => none
  | fuel + 1, p, cs@(c :: rest) =>
    if p.pieces == 8 then none
    else if c == ':' then
      if p.compress.isSome then none
      else ipv6Groups fuel { pieces := p.pieces + 1, compress := some (p.pieces + 1) } rest
    else
      let (count, after) := hexGroup cs
      match after with
      | [] => ipv6Groups fuel { p with pieces := p.pieces + 1 } []
      | '.' :: _ =>
        if count == 0 || p.pieces > 6 then none else some (p, some cs)
      | ':' :: more =>
        if more.isEmpty then none
        else ipv6Groups fuel { p with pieces := p.pieces + 1 } more
      | _ => none

/-- Whether a text between brackets is a lenient IPv6 address. -/
def isLenientIpv6 (s : String) : Bool :=
  let cs := s.toList
  if cs.length < 2 then false
  else
    let start : Option (Ipv6Progress × List Char) := match cs with
      | ':' :: ':' :: rest => some ({ pieces := 1, compress := some 1 }, rest)
      | ':' :: _ => none
      | _ => some ({ pieces := 0, compress := none }, cs)
    match start with
    | none => false
    | some (p, rest) =>
      match ipv6Groups (rest.length + 1) p rest with
      | none => false
      | some (p, tail) =>
        let (tailOk, pieces) : Bool × Nat := match tail with
          | some t => (ipv4TailOk 5 0 t, p.pieces + 2)
          | none => (true, p.pieces)
        tailOk && (p.compress.isSome || pieces == 8)

/-- Reads a number of the strict reader: all the digits in front, of which there must be
one to `most`, with a value below `bound`; a number of two or more digits may start with
zero only when `zeroPrefix` allows it.  Gives the value and the text left. -/
def strictNumber (radix most bound : Nat) (zeroPrefix : Bool) (cs : List Char) :
    Option (Nat × List Char) :=
  let ds := cs.takeWhile fun c => (digitIn radix c).isSome
  if ds.isEmpty || ds.length > most || digitsValue radix ds ≥ bound then none
  else if !zeroPrefix && ds.length > 1 && ds.head? == some '0' then none
  else some (digitsValue radix ds, cs.drop ds.length)

/-- Reads an octet of a strict IPv4 address after its dot, or at the start when `first`. -/
def strictOctet (first : Bool) (cs : List Char) : Option (Nat × List Char) :=
  if first then strictNumber 10 3 256 false cs
  else match cs with
    | '.' :: more => strictNumber 10 3 256 false more
    | _ => none

/-- Reads a strict IPv4 address in front of the text: four decimal numbers below 256 with
dots between them.  Gives the four octets and the text left. -/
def strictIpv4 (cs : List Char) : Option (List Nat × List Char) := do
  let (a, r1) ← strictOctet true cs
  let (b, r2) ← strictOctet false r1
  let (c, r3) ← strictOctet false r2
  let (d, r4) ← strictOctet false r3
  pure ([a, b, c, d], r4)

/-- Reads after a separator when the group is not the first. -/
def afterSeparator (first : Bool) (cs : List Char) : Option (List Char) :=
  if first then some cs
  else match cs with
    | ':' :: more => some more
    | _ => none

/-- The two 16-bit groups an IPv4 address fills in an IPv6 address. -/
def groupsOfOctets : List Nat → List Nat
  | [a, b, c, d] => [a * 256 + b, c * 256 + d]
  | _ => []

/-- Reads up to `limit` groups of a strict IPv6 address, the first when `first`: the groups
read, whether an IPv4 address ended them, and the text left. -/
def strictGroups : Nat → Bool → List Char → List Nat × Bool × List Char
  | 0, _, cs => ([], false, cs)
  | left + 1, first, cs =>
    let v4 : Option (List Nat × List Char) :=
      if left ≥ 1 then (afterSeparator first cs).bind strictIpv4 else none
    match v4 with
    | some (octets, rest) => (groupsOfOctets octets, true, rest)
    | none =>
      match (afterSeparator first cs).bind (strictNumber 16 4 65536 true) with
      | some (group, rest) =>
        let (more, v4End, left) := strictGroups left false rest
        (group :: more, v4End, left)
      | none => ([], false, cs)

/-- Reads a strict IPv6 address in front of the text: its eight groups and the text left.
The groups before `::` come first and those after it last, with zero groups between. -/
def strictIpv6 (cs : List Char) : Option (List Nat × List Char) :=
  let (head, headV4, rest) := strictGroups 8 true cs
  if head.length == 8 then some (head, rest)
  else if headV4 then none
  else
    match rest with
    | ':' :: ':' :: more =>
      let (tail, _, left) := strictGroups (8 - (head.length + 1)) true more
      some (head ++ List.replicate (8 - head.length - tail.length) 0 ++ tail, left)
    | _ => none

/-- Whether a text is an IP address to the strict reader: an IPv4 address if it starts as
one, an IPv6 address otherwise, with nothing after it. -/
def isStrictIp (s : String) : Bool :=
  match strictIpv4 s.toList with
  | some (_, rest) => rest.isEmpty
  | none =>
    match strictIpv6 s.toList with
    | some (_, rest) => rest.isEmpty
    | none => false

end Host

end Waybill
