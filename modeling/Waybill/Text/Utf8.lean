/-!
Checking bytes as UTF-8.  The bytes are read one sequence at a time: a lead byte says how
long its sequence is, and each byte after it must be a continuation byte in the range the
lead byte allows, so that no sequence is overlong, encodes a surrogate or goes past U+10FFFF.
The first bad sequence is reported by where it starts and how many of its bytes were good
before the bad one, or as cut short when the bytes end inside it.
-/
namespace Waybill

/-- Why bytes are not UTF-8: a bad sequence at an index, of a length, or one cut short. -/
inductive Utf8Problem where
  | invalid (index : Nat) (length : Nat)
  | incomplete (index : Nat)
  deriving DecidableEq, Repr

/-- The problem as error reports word it. -/
def Utf8Problem.text : Utf8Problem → String
  | .invalid i n => "invalid utf-8 sequence of " ++ toString n ++ " bytes from index " ++ toString i
  | .incomplete i => "incomplete utf-8 byte sequence from index " ++ toString i

/-- The length of the sequence a lead byte starts: one for ASCII, zero for a byte that
starts none. -/
def utf8Width (b : Nat) : Nat :=
  if b < 0x80 then 1
  else if 0xC2 ≤ b ∧ b ≤ 0xDF then 2
  else if 0xE0 ≤ b ∧ b ≤ 0xEF then 3
  else if 0xF0 ≤ b ∧ b ≤ 0xF4 then 4
  else 0

/-- Whether a byte continues a sequence. -/
def isContinuation (b : Nat) : Bool := 0x80 ≤ b && b ≤ 0xBF

/-- The range the second byte of a sequence must lie in, after its lead byte. -/
def secondInRange (lead b : Nat) : Bool :=
  if lead = 0xE0 then 0xA0 ≤ b && b ≤ 0xBF
  else if lead = 0xED then 0x80 ≤ b && b ≤ 0x9F
  else if lead = 0xF0 then 0x90 ≤ b && b ≤ 0xBF
  else if lead = 0xF4 then 0x80 ≤ b && b ≤ 0x8F
  else isContinuation b

/-- The first problem of the bytes read from `index` on, if any. -/
def utf8Problem? : Nat → List UInt8 → Option Utf8Problem
  | _, [] => none
  | i, b :: rest =>
    let lead := b.toNat
    match utf8Width lead with
    | 1 => utf8Problem? (i + 1) rest
    | 2 =>
      match rest with
      | [] => some (.incomplete i)
      | c :: more => if isContinuation c.toNat then utf8Problem? (i + 2) more else some (.invalid i 1)
    | 3 =>
      match rest with
      | [] => some (.incomplete i)
      | c :: more =>
        if !secondInRange lead c.toNat then some (.invalid i 1)
        else match more with
          | [] => some (.incomplete i)
          | d :: tail => if isContinuation d.toNat then utf8Problem? (i + 3) tail else some (.invalid i 2)
    | 4 =>
      match rest with
      | [] => some (.incomplete i)
      | c :: more =>
        if !secondInRange lead c.toNat then some (.invalid i 1)
        else match more with
          | [] => some (.incomplete i)
          | d :: more2 =>
            if !isContinuation d.toNat then some (.invalid i 2)
            else match more2 with
              | [] => some (.incomplete i)
              | e :: tail =>
                if isContinuation e.toNat then utf8Problem? (i + 4) tail else some (.invalid i 3)
    | _ => some (.invalid i 1)

/-- The replacement character as text. -/
def replacementText : String := String.singleton (Char.ofNat 0xFFFD)

/-- Text from bytes, each bad sequence replaced by one replacement character and bytes cut
short at the end by one more; `fuel` bounds the bad sequences replaced. -/
def decodeLossy : Nat → List UInt8 → String
  | 0, _ => ""
  | fuel + 1, bytes =>
    let valid := fun (bs : List UInt8) => (String.fromUTF8? (ByteArray.mk bs.toArray)).getD ""
    match utf8Problem? 0 bytes with
    | none => valid bytes
    | some (.invalid i n) =>
      valid (bytes.take i) ++ replacementText ++ decodeLossy fuel (bytes.drop (i + n))
    | some (.incomplete i) => valid (bytes.take i) ++ replacementText

end Waybill
