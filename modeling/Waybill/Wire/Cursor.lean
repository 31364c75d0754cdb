import Waybill.Json.Render
import Waybill.Text.Escape
/-!
Reading request bodies byte by byte, the way a streaming JSON reader does.  A cursor holds
the bytes of a body, those not read yet and how many were read; every step either moves it
on or reports a problem.  A body that is not JSON has a malformed problem; a body whose JSON
does not fit the form asked of it has a mismatched one.  A problem is reported at a byte
index, shown as a line and a column that count bytes, under the path of members that leads
to it.

Two indices are used for reports: the index of the next byte, or one past it when the
reader only looked at that byte.
-/
namespace Waybill

namespace Wire

/-- Whether a problem is in the text itself or in how its values fit. -/
inductive ProblemKind where
  /-- The text is not JSON, or ends too early. -/
  | malformed
  /-- The text is JSON, but a value does not fit the form. -/
  | mismatched
  deriving DecidableEq

/-- One step of a path into a body: a member of an object or an item of an array. -/
inductive Segment where
  | member (key : String)
  | item (index : Nat)

/-- A problem with a body, at a byte index and under a path. -/
structure Problem where
  kind : ProblemKind
  text : String
  index : Nat
  path : List Segment := []

/-- A body being read: its bytes, those not read yet, and how many were read. -/
structure Cursor where
  source : List UInt8
  rest : List UInt8
  index : Nat

/-- A step of reading that may find a problem. -/
abbrev Reader := StateT Cursor (Except Problem)

/-- A cursor at the start of a body. -/
def Cursor.start (bytes : List UInt8) : Cursor := ⟨bytes, bytes, 0⟩

/-- Whether a byte is the ASCII character `c`. -/
def isByte (b : UInt8) (c : Char) : Bool := b.toNat == c.toNat

/-- Whether a byte is an ASCII digit. -/
def isDigitByte (b : UInt8) : Bool := 48 ≤ b.toNat && b.toNat ≤ 57

/-- The line and column of a byte index: lines count line feeds from 1, columns count the
bytes after the last line feed. -/
def position (source : List UInt8) (index : Nat) : Nat × Nat :=
  (source.take index).foldl
    (fun (acc : Nat × Nat) b => if isByte b '\n' then (acc.1 + 1, 0) else (acc.1, acc.2 + 1)) (1, 0)

/-- A path as text: members by name, joined by dots, and items by index in brackets. -/
def pathText : List Segment → String
  | [] => ""
  | [.member key] => key
  | [.item i] => "[" ++ toString i ++ "]"
  | .member key :: rest@(.item _ :: _) => key ++ pathText rest
  | .member key :: rest => key ++ "." ++ pathText rest
  | .item i :: rest@(.item _ :: _) => "[" ++ toString i ++ "]" ++ pathText rest
  | .item i :: rest => "[" ++ toString i ++ "]." ++ pathText rest

/-- The text of a problem: its path when it has one, what went wrong and where. -/
def Problem.render (source : List UInt8) (p : Problem) : String :=
  let (line, column) := position source p.index
  (if p.path.isEmpty then "" else pathText p.path ++ ": ") ++ p.text ++ " at line " ++
    toString line ++ " column " ++ toString column

/-- The problem with a path segment put in front of its path. -/
def Problem.under (segment : Segment) (p : Problem) : Problem :=
  { p with path := segment :: p.path }

namespace Reader

/-- The next byte, left unread. -/
def peek : Reader (Option UInt8) := do
  pure (← get).rest.head?

/-- Moves past the next byte, if there is one. -/
def advance : Reader Unit :=
  modify fun c => match c.rest with
    | [] => c
    | _ :: r => { c with rest := r, index := c.index + 1 }

/-- Reads the next byte. -/
def next : Reader (Option UInt8) := do
  let b ← peek
  advance
  pure b

/-- A problem at the next byte's index. -/
def failHere {α : Type} (kind : ProblemKind) (text : String) : Reader α := do
  throw { kind, text, index := (← get).index }

/-- A problem one past the next byte, for problems found by looking at it. -/
def failAhead {α : Type} (kind : ProblemKind) (text : String) : Reader α := do
  let c ← get
  throw { kind, text, index := if c.rest.isEmpty then c.index else c.index + 1 }

/-- Runs a step, putting a segment in front of the path of any problem it reports. -/
def under {α : Type} (segment : Segment) (r : Reader α) : Reader α :=
  tryCatch r fun p => throw (p.under segment)

/-- The number of leading blanks (space, tab, line feed, carriage return). -/
def blankCount : List UInt8 → Nat
  | [] => 0
  | b :: rest =>
    if isByte b ' ' || isByte b '\n' || isByte b '\t' || isByte b '\r' then blankCount rest + 1
    else 0

/-- Skips blanks and returns the next byte, left unread. -/
def skipBlanks : Reader (Option UInt8) := do
  let c ← get
  let n := blankCount c.rest
  set { c with rest := c.rest.drop n, index := c.index + n }
  peek

/-- Reads the rest of a literal such as the `ull` of `null`. -/
def expectIdent : List Char → Reader Unit
  | [] => pure ()
  | c :: cs => do
    match ← next with
    | none => failHere .malformed "EOF while parsing a value"
    | some b =>
      if isByte b c then expectIdent cs else failHere .malformed "expected ident"

/-- The leading ASCII digits. -/
def digitCount : List UInt8 → Nat
  | [] => 0
  | b :: rest => if isDigitByte b then digitCount rest + 1 else 0

/-- Reads a run of ASCII digits and returns their value and their number. -/
def digits : Reader (Nat × Nat) := do
  let c ← get
  let n := digitCount c.rest
  let value := (c.rest.take n).foldl (fun acc b => acc * 10 + (b.toNat - 48)) 0
  set { c with rest := c.rest.drop n, index := c.index + n }
  pure (value, n)

end Reader

/-- A number as read from a body: a whole number that fits in 64 bits, unsigned or negative,
or a double with its sign. -/
inductive Number where
  | unsigned (n : Nat)
  | negative (n : Nat)
  | float (negative : Bool) (value : Double)

namespace Number

/-- The shortest decimal digits of a signed double and their exponent. -/
def floatParts (negative : Bool) (value : Double) : Int × Int :=
  let (c, k) := value.shortest
  (if negative then -(c : Int) else c, k)

/-- How a number is named when it does not fit. -/
def describe : Number → String
  | unsigned n => "integer `" ++ toString n ++ "`"
  | negative n => "integer `-" ++ toString n ++ "`"
  | float neg v =>
    let (m, x) := floatParts neg v
    "floating point `" ++ (if neg ∧ v.isZero then "-0.0" else Json.floatText m x) ++ "`"

end Number

/-- The digit values of ASCII digit bytes. -/
def digitValues (bytes : List UInt8) : List Nat := bytes.map fun b => b.toNat - 48

/-- The place among the exponent digits, read from the left after `acc`, where the exponent
first passes `2 ^ 31 - 1`. -/
def exponentPassPoint : Nat → List Nat → Nat → Option Nat
  | _, [], _ => none
  | acc, d :: rest, i =>
    if acc * 10 + d > Nat.pow 2 31 - 1 then some i else exponentPassPoint (acc * 10 + d) rest (i + 1)

/-- An exponent held within the 32-bit signed range, as a saturating sum leaves it. -/
def saturate (e : Int) : Int := max (-Int.pow 2 31) (min (Int.pow 2 31 - 1) e)

namespace Reader

/-- The double `significand * 10 ^ exponent`, or a problem when it is too large. -/
def fromParts (negative : Bool) (significand : Nat) (exponent : Int) : Reader Number :=
  match Double.ofParts significand exponent with
  | some v => pure (.float negative v)
  | none => failHere .malformed "number out of range"

/-- Reads an exponent after its `e`, and returns the number it ends.  An exponent beyond the
32-bit range is too large for a non-zero value when positive, and gives zero otherwise. -/
def exponentPart (negative : Bool) (significand : Nat) (start : Int) : Reader Number := do
  advance
  let positive ← match ← peek with
    | some b =>
      if isByte b '+' then do advance; pure true
      else if isByte b '-' then do advance; pure false
      else pure true
    | none => pure true
  match ← next with
  | none => failHere .malformed "EOF while parsing a value"
  | some b =>
    if isDigitByte b then do
      let c ← get
      let n := digitCount c.rest
      let ds := digitValues (c.rest.take n)
      match exponentPassPoint (b.toNat - 48) ds 0 with
      | some i =>
        if significand ≠ 0 ∧ positive then do
          set { c with rest := c.rest.drop (i + 1), index := c.index + (i + 1) }
          failHere .malformed "number out of range"
        else do
          set { c with rest := c.rest.drop n, index := c.index + n }
          pure (.float negative Double.zero)
      | none => do
        set { c with rest := c.rest.drop n, index := c.index + n }
        let e : Int := (ds.foldl (fun acc d => acc * 10 + d) (b.toNat - 48) : Nat)
        fromParts negative significand (saturate (if positive then start + e else start - e))
    else failHere .malformed "invalid number"

/-- Reads a fraction after its point, then an exponent if one follows.  Digits past those
that fit in 64 bits are read and left out. -/
def fractionPart (negative : Bool) (significand : Nat) (before : Int) : Reader Number := do
  advance
  let c ← get
  let n := digitCount c.rest
  if n = 0 then
    match ← peek with
    | some _ => failAhead .malformed "invalid number"
    | none => failAhead .malformed "EOF while parsing a value"
  else
    let (sig, used) := Double.absorb significand 0 (digitValues (c.rest.take n))
    set { c with rest := c.rest.drop n, index := c.index + n }
    let exponent := before - used
    match ← peek with
    | some b =>
      if isByte b 'e' || isByte b 'E' then exponentPart negative sig exponent
      else fromParts negative sig exponent
    | none => fromParts negative sig exponent

/-- What follows the whole part of a number: a fraction, an exponent or nothing.  `shift`
counts the whole digits left out because they did not fit in 64 bits; a number with such
digits is a double. -/
def numberTail (negative : Bool) (whole : Nat) (shift : Nat) : Reader Number := do
  match ← peek with
  | some b =>
    if isByte b '.' then fractionPart negative whole shift
    else if isByte b 'e' || isByte b 'E' then exponentPart negative whole shift
    else wholeNumber
  | none => wholeNumber
where
  /-- A number without fraction or exponent: unsigned below `2 ^ 64`, negative down to
  `-2 ^ 63`, and a double otherwise (minus zero included). -/
  wholeNumber : Reader Number :=
    if shift ≠ 0 then fromParts negative whole shift
    else if negative then
      if 1 ≤ whole ∧ whole ≤ Nat.pow 2 63 then pure (.negative whole)
      else pure (.float true ((Double.ofNat whole).getD Double.zero))
    else pure (.unsigned whole)

/-- Reads a number whose sign, if any, was read. -/
def number (negative : Bool) : Reader Number := do
  match ← next with
  | none => failHere .malformed "EOF while parsing a value"
  | some b =>
    if isByte b '0' then
      match ← peek with
      | some d => if isDigitByte d then failAhead .malformed "invalid number" else numberTail negative 0 0
      | none => numberTail negative 0 0
    else if isDigitByte b then do
      let c ← get
      let n := digitCount c.rest
      let (whole, used) := Double.absorb (b.toNat - 48) 0 (digitValues (c.rest.take n))
      set { c with rest := c.rest.drop n, index := c.index + n }
      numberTail negative whole (n - used)
    else failHere .malformed "invalid number"

/-- Skips an exponent after its `e`. -/
def skipExponent : Reader Unit := do
  advance
  match ← peek with
  | some b => if isByte b '+' || isByte b '-' then advance else pure ()
  | none => pure ()
  match ← peek with
  | some b =>
    if isDigitByte b then do advance; let _ ← digits; pure ()
    else do advance; failHere .malformed "invalid number"
  | none => failHere .malformed "invalid number"

/-- Skips a number whose sign, if any, was skipped. -/
def skipNumber : Reader Unit := do
  let first ← peek
  match first with
  | some b =>
    if isByte b '0' then do
      advance
      match ← peek with
      | some d => if isDigitByte d then failAhead .malformed "invalid number" else pure ()
      | none => pure ()
    else if isDigitByte b then do advance; let _ ← digits; pure ()
    else do advance; failHere .malformed "invalid number"
  | none => failHere .malformed "invalid number"
  match ← peek with
  | some b =>
    if isByte b '.' then do
      advance
      let (_, count) ← digits
      if count = 0 then failAhead .malformed "invalid number"
      else match ← peek with
        | some e => if isByte e 'e' || isByte e 'E' then skipExponent else pure ()
        | none => pure ()
    else if isByte b 'e' || isByte b 'E' then skipExponent
    else pure ()
  | none => pure ()

/-- The value of a hexadecimal digit. -/
def hexValue (b : UInt8) : Option Nat :=
  let n := b.toNat
  if 48 ≤ n ∧ n ≤ 57 then some (n - 48)
  else if 65 ≤ n ∧ n ≤ 70 then some (n - 55)
  else if 97 ≤ n ∧ n ≤ 102 then some (n - 87)
  else none

/-- Reads the four hexadecimal digits of a `\u` escape. -/
def hexEscape : Reader Nat := do
  let c ← get
  match c.rest with
  | a :: b :: d :: e :: rest =>
    set { c with rest := rest, index := c.index + 4 }
    match hexValue a, hexValue b, hexValue d, hexValue e with
    | some w, some x, some y, some z => pure (((w * 16 + x) * 16 + y) * 16 + z)
    | _, _, _, _ => failHere .malformed "invalid escape"
  | _ =>
    set { c with rest := [], index := c.source.length }
    failHere .malformed "EOF while parsing a string"

/-- The UTF-8 bytes of a code point. -/
def utf8Bytes (n : Nat) : List UInt8 :=
  (Char.ofNat n).toString.toUTF8.toList

/-- Reads the rest of a `\u` escape, pairing surrogates, and returns its bytes. -/
def unicodeEscape : Reader (List UInt8) := do
  let n ← hexEscape
  if 0xDC00 ≤ n ∧ n ≤ 0xDFFF then failHere .malformed "lone leading surrogate in hex escape"
  else if n < 0xD800 ∨ 0xDBFF < n then pure (utf8Bytes n)
  else
    match ← peek with
    | none => failHere .malformed "EOF while parsing a string"
    | some b =>
      if !isByte b '\\' then do advance; failHere .malformed "unexpected end of hex escape"
      else do
        advance
        match ← peek with
        | none => failHere .malformed "EOF while parsing a string"
        | some u =>
          if !isByte u 'u' then do advance; failHere .malformed "unexpected end of hex escape"
          else do
            advance
            let m ← hexEscape
            if m < 0xDC00 ∨ 0xDFFF < m then
              failHere .malformed "lone leading surrogate in hex escape"
            else pure (utf8Bytes ((n - 0xD800) * 1024 + (m - 0xDC00) + 0x10000))

/-- Reads an escape after its backslash and returns its bytes; when only skipping, a `\u`
escape is not checked beyond its four digits. -/
def escape (keep : Bool) : Reader (List UInt8) := do
  match ← next with
  | none => failHere .malformed "EOF while parsing a string"
  | some b =>
    if isByte b '"' then pure [34]
    else if isByte b '\\' then pure [92]
    else if isByte b '/' then pure [47]
    else if isByte b 'b' then pure [8]
    else if isByte b 'f' then pure [12]
    else if isByte b 'n' then pure [10]
    else if isByte b 'r' then pure [13]
    else if isByte b 't' then pure [9]
    else if isByte b 'u' then
      if keep then unicodeEscape else do let _ ← hexEscape; pure []
    else failHere .malformed "invalid escape"

/-- Reads the bytes of a string up to its closing quote; `fuel` bounds the steps. -/
def stringBytes (keep : Bool) : Nat → List UInt8 → Reader (List UInt8)
  | 0, acc => pure acc.reverse
  | fuel + 1, acc => do
    match ← peek with
    | none => failHere .malformed "EOF while parsing a string"
    | some b =>
      if isByte b '"' then do advance; pure acc.reverse
      else if isByte b '\\' then do
        advance
        let bytes ← escape keep
        stringBytes keep fuel (bytes.reverse ++ acc)
      else if b.toNat < 0x20 then do
        if keep then advance else pure ()
        failHere .malformed "control character (\\u0000-\\u001F) found while parsing a string"
      else do
        advance
        stringBytes keep fuel (b :: acc)

/-- Reads a string after its opening quote. -/
def string : Reader String := do
  let bytes ← stringBytes true ((← get).rest.length + 1) []
  match String.fromUTF8? (ByteArray.mk bytes.toArray) with
  | some s => pure s
  | none => failHere .malformed "invalid unicode code point"

/-- Skips a string after its opening quote. -/
def skipString : Reader Unit := do
  let _ ← stringBytes false ((← get).rest.length + 1) []
  pure ()

end Reader

/-- What comes after a value or an opening bracket while skipping: a value, or the end of
the innermost array or object (or a comma, when `afterItem`). -/
inductive SkipStep where
  | value
  | close (afterItem : Bool)

/-- Skips a member's name and its colon inside an object. -/
def Reader.skipMemberName : Reader Unit := do
  match ← Reader.skipBlanks with
  | none => Reader.failAhead .malformed "EOF while parsing an object"
  | some b =>
    if isByte b '"' then do Reader.advance; Reader.skipString
    else Reader.failAhead .malformed "key must be a string"
  match ← Reader.skipBlanks with
  | none => Reader.failAhead .malformed "EOF while parsing an object"
  | some b =>
    if isByte b ':' then Reader.advance else Reader.failAhead .malformed "expected `:`"

/-- Skips values, keeping the stack of open arrays (`false`) and objects (`true`); `fuel`
bounds the steps. -/
def Reader.skipLoop : Nat → SkipStep → List Bool → Reader Unit
  | 0, _, _ => pure ()
  | fuel + 1, .value, stack => do
    let afterScalar : Reader Unit :=
      if stack.isEmpty then pure () else Reader.skipLoop fuel (.close true) stack
    match ← Reader.skipBlanks with
    | none => Reader.failAhead .malformed "EOF while parsing a value"
    | some b =>
      if isByte b 'n' then do
        Reader.advance; Reader.expectIdent ['u', 'l', 'l']; afterScalar
      else if isByte b 't' then do
        Reader.advance; Reader.expectIdent ['r', 'u', 'e']; afterScalar
      else if isByte b 'f' then do
        Reader.advance; Reader.expectIdent ['a', 'l', 's', 'e']; afterScalar
      else if isByte b '-' then do Reader.advance; Reader.skipNumber; afterScalar
      else if isDigitByte b then do Reader.skipNumber; afterScalar
      else if isByte b '"' then do Reader.advance; Reader.skipString; afterScalar
      else if isByte b '[' then do Reader.advance; Reader.skipLoop fuel (.close false) (false :: stack)
      else if isByte b '{' then do Reader.advance; Reader.skipLoop fuel (.close false) (true :: stack)
      else Reader.failAhead .malformed "expected value"
  | fuel + 1, .close afterItem, stack =>
    match stack with
    | [] => pure ()
    | isObject :: outer => do
      match ← Reader.skipBlanks with
      | none =>
        Reader.failAhead .malformed
          (if isObject then "EOF while parsing an object" else "EOF while parsing a list")
      | some b =>
        if afterItem && isByte b ',' then do
          Reader.advance
          if isObject then Reader.skipMemberName else pure ()
          Reader.skipLoop fuel .value stack
        else if (isObject && isByte b '}') || (!isObject && isByte b ']') then do
          Reader.advance
          if outer.isEmpty then pure () else Reader.skipLoop fuel (.close true) outer
        else if afterItem then
          Reader.failAhead .malformed
            (if isObject then "expected `,` or `\x7d`" else "expected `,` or `]`")
        else do
          if isObject then Reader.skipMemberName else pure ()
          Reader.skipLoop fuel .value stack

/-- Skips one value of any shape. -/
def Reader.skipValue : Reader Unit := do
  Reader.skipLoop (2 * (← get).rest.length + 2) .value []

/-- A text in double quotes as messages show it, special characters escaped. -/
def quoted (s : String) : String := debugQuoted s

namespace Reader

/-- The problem of a value that has the wrong type: the value is read when it is a single
token, and the problem is placed after it.  `expected` says what was wanted. -/
def wrongType {α : Type} (expected : String) : Reader α := do
  let found ← describeNext
  failHere .mismatched ("invalid type: " ++ found ++ ", expected " ++ expected)
where
  /-- Reads the next value when it is a single token and says what it is. -/
  describeNext : Reader String := do
    match ← peek with
    | none => failAhead .malformed "expected value"
    | some b =>
      if isByte b 'n' then do advance; expectIdent ['u', 'l', 'l']; pure "null"
      else if isByte b 't' then do advance; expectIdent ['r', 'u', 'e']; pure "boolean `true`"
      else if isByte b 'f' then do
        advance; expectIdent ['a', 'l', 's', 'e']; pure "boolean `false`"
      else if isByte b '-' then do advance; pure (← number true).describe
      else if isDigitByte b then do pure (← number false).describe
      else if isByte b '"' then do advance; pure ("string " ++ quoted (← string))
      else if isByte b '[' then pure "sequence"
      else if isByte b '{' then pure "map"
      else failAhead .malformed "expected value"

end Reader

end Wire

end Waybill
