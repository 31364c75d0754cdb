import Waybill.Proofs.Text
import Waybill.Http.Caller
import Mathlib
/-!
Who is calling, read from the `X-User-Id` header.  The header's bytes must all be tabs or
ASCII from the space to the tilde; its text, trimmed, must read as a signed 64-bit integer
(an optional sign and at least one ASCII digit, leading zeros allowed, the value in range);
and the number must be positive.  A missing header and an unreadable one are refused with
different messages.

The value of a run of digits is stated with `Nat.ofDigits`, and the bytes through the UTF-8
encoding of the text: a character outside ASCII starts with a byte of at least `0xC0`, so no
such character passes.
-/
namespace Waybill

/-- The value of a run of decimal digits, the most significant first. -/
def decimalValue (digits : List Char) : Nat :=
  Nat.ofDigits 10 (digits.reverse.map fun c => c.toNat - '0'.toNat)

/-- Reading digits from the left multiplies what was read by ten and adds the next digit. -/
theorem foldl_digits (digits : List Char) (acc : Nat) :
    digits.foldl (fun acc c => acc * 10 + (c.toNat - '0'.toNat)) acc =
      acc * 10 ^ digits.length + decimalValue digits := by
  induction digits generalizing acc with
  | nil => simp [decimalValue]
  | cons c rest ih =>
      rw [List.foldl_cons, ih]
      simp only [decimalValue, List.reverse_cons, List.map_append, List.map_cons, List.map_nil,
        Nat.ofDigits_append, Nat.ofDigits_singleton, List.length_map, List.length_reverse,
        List.length_cons]
      ring

theorem asciiDigitsValue?_eq_some {digits : List Char} {m : Nat} :
    asciiDigitsValue? digits = some m ↔
      digits ≠ [] ∧ (∀ c ∈ digits, c.isDigit) ∧ m = decimalValue digits := by
  have hcond : (!digits.isEmpty && digits.all isAsciiDigit) = true ↔
      digits ≠ [] ∧ ∀ c ∈ digits, c.isDigit := by
    simp [List.all_eq_true, isAsciiDigit_eq_isDigit]
  unfold asciiDigitsValue?
  split
  · rename_i hok
    rw [Option.some.injEq, foldl_digits, zero_mul, zero_add, eq_comm]
    exact ⟨fun h => ⟨(hcond.mp hok).1, (hcond.mp hok).2, h⟩, fun h => h.2.2⟩
  · rename_i hnot
    simp only [reduceCtorEq, false_iff]
    rintro ⟨hne, hall, -⟩
    exact hnot (hcond.mpr ⟨hne, hall⟩)

/-- `cs` is `digits` after a minus sign (then `negative`), after a plus sign, or with no sign
before it. -/
def SignSplit (cs : List Char) (negative : Bool) (digits : List Char) : Prop :=
  (negative = true ∧ cs = '-' :: digits) ∨ (negative = false ∧ cs = '+' :: digits) ∨
    (negative = false ∧ cs = digits ∧ ∀ r, cs ≠ '-' :: r ∧ cs ≠ '+' :: r)

/-- A text splits in one way only into an optional sign and a nonempty run of digits. -/
theorem SignSplit.unique {cs digits d : List Char} {negative : Bool}
    (h : SignSplit cs negative digits) (hne : d ≠ []) (hall : ∀ c ∈ d, c.isDigit) :
    ((cs = d ∨ cs = '+' :: d) → negative = false ∧ d = digits) ∧
      (cs = '-' :: d → negative = true ∧ d = digits) := by
  obtain ⟨c, r, rfl⟩ := List.exists_cons_of_ne_nil hne
  obtain ⟨hcplus, hcminus⟩ := isDigit_ne_sign (hall c List.mem_cons_self)
  rcases h with ⟨rfl, rfl⟩ | ⟨rfl, rfl⟩ | ⟨rfl, rfl, hsign⟩ <;> grind

/-- Reading a signed 64-bit integer: the text is an optional sign and a nonempty run of ASCII
digits, and the value, negated after a minus sign, lies in the signed 64-bit range. -/
theorem readInt64?_eq_some {s : String} {n : Int} :
    readInt64? s = some n ↔
      ∃ digits : List Char, digits ≠ [] ∧ (∀ c ∈ digits, c.isDigit) ∧
        (((s.toList = digits ∨ s.toList = '+' :: digits) ∧ n = decimalValue digits) ∨
          (s.toList = '-' :: digits ∧ n = -(decimalValue digits : Int))) ∧
        int64Min ≤ n ∧ n ≤ int64Max := by
  unfold readInt64?
  split
  rename_i negative digits hsplit
  -- the sign is taken off first, and what is left is read as digits
  have hshape : SignSplit s.toList negative digits := by
    split at hsplit
    · rename_i rest hs
      obtain ⟨rfl, rfl⟩ := Prod.mk.inj hsplit
      exact .inl ⟨rfl, hs⟩
    · rename_i rest hs
      obtain ⟨rfl, rfl⟩ := Prod.mk.inj hsplit
      exact .inr (.inl ⟨rfl, hs⟩)
    · rename_i hminus hplus
      obtain ⟨rfl, rfl⟩ := Prod.mk.inj hsplit
      exact .inr (.inr ⟨rfl, rfl, fun r => ⟨hminus r, hplus r⟩⟩)
  have hunique := fun d => hshape.unique (d := d)
  cases hv : asciiDigitsValue? digits with
  | none =>
      simp only [reduceCtorEq, false_iff, not_exists, not_and]
      intro d hne hall hread _
      -- such digits would be the ones split off, and they read
      have hd : d = digits := by
        rcases hread with ⟨hs, -⟩ | ⟨hs, -⟩
        · exact ((hunique d hne hall).1 hs).2
        · exact ((hunique d hne hall).2 hs).2
      subst hd
      rw [asciiDigitsValue?_eq_some.mpr ⟨hne, hall, rfl⟩] at hv
      cases hv
  | some m =>
      obtain ⟨hne, hall, rfl⟩ := asciiDigitsValue?_eq_some.mp hv
      simp only [Option.ite_none_right_eq_some, Option.some.injEq]
      constructor
      · rintro ⟨hrange, rfl⟩
        refine ⟨digits, hne, hall, ?_, hrange⟩
        rcases hshape with ⟨rfl, hs⟩ | ⟨rfl, hs⟩ | ⟨rfl, hs, -⟩
        · exact .inr ⟨hs, rfl⟩
        · exact .inl ⟨.inr hs, rfl⟩
        · exact .inl ⟨.inl hs, rfl⟩
      · rintro ⟨d, hne', hall', hread, hrange⟩
        rcases hread with ⟨hs, rfl⟩ | ⟨hs, rfl⟩
        · obtain ⟨rfl, rfl⟩ := (hunique d hne' hall').1 hs
          exact ⟨hrange, rfl⟩
        · obtain ⟨rfl, rfl⟩ := (hunique d hne' hall').2 hs
          exact ⟨hrange, rfl⟩

/-! ### The bytes of the header -/

/-- A byte a header value may hold and still be read as text: a tab, or ASCII from the space
to the tilde. -/
def IsHeaderByte (b : UInt8) : Prop := b.toNat = 9 ∨ (32 ≤ b.toNat ∧ b.toNat < 127)

theorem toUTF8_data_toList (v : String) :
    v.toUTF8.data.toList = v.toList.flatMap String.utf8EncodeChar := by
  rw [String.toUTF8_eq_toByteArray, ← String.utf8Encode_toList, List.utf8Encode,
    List.data_toByteArray]

/-- An ASCII character is written as the one byte of its code. -/
theorem utf8EncodeChar_ascii {c : Char} (h : c.toNat ≤ 127) :
    String.utf8EncodeChar c = [c.val.toUInt8] ∧ c.val.toUInt8.toNat = c.toNat := by
  refine ⟨String.utf8EncodeChar_eq_singleton (Char.utf8Size_eq_one_iff.mpr ?_), ?_⟩
  · rw [UInt32.le_iff_toNat_le]
    exact h
  · rw [UInt32.toNat_toUInt8, Char.toNat_val]
    omega

/-- Any other character is written with a first byte of at least `0xC0`. -/
theorem utf8EncodeChar_lead {c : Char} (h : 127 < c.toNat) :
    ∃ b rest, String.utf8EncodeChar c = b :: rest ∧ 0xC0 ≤ b.toNat := by
  have hlead (x : UInt8) (m : UInt8) (hm : 0xC0 ≤ m.toNat) : 0xC0 ≤ (x ||| m).toNat := by
    rw [UInt8.toNat_or]
    exact le_trans hm Nat.right_le_or
  rcases Char.utf8Size_eq c with h1 | h2 | h3 | h4
  · have := Char.utf8Size_eq_one_iff.mp h1
    rw [UInt32.le_iff_toNat_le, Char.toNat_val] at this
    exact absurd this (by simpa using h)
  · exact ⟨_, _, String.utf8EncodeChar_eq_cons_cons h2, hlead _ _ (by decide)⟩
  · exact ⟨_, _, String.utf8EncodeChar_eq_cons_cons_cons h3, hlead _ _ (by decide)⟩
  · exact ⟨_, _, String.utf8EncodeChar_eq_cons_cons_cons_cons h4, hlead _ _ (by decide)⟩

/-- A character passes the header check exactly when every byte it is written with is a header
byte. -/
theorem headerChar_iff_bytes (c : Char) :
    (c == '\t' || (' ' ≤ c && c.toNat < 127)) = true ↔
      ∀ b ∈ String.utf8EncodeChar c, IsHeaderByte b := by
  have htab : c = '\t' ↔ c.toNat = 9 := by rw [← Char.toNat_inj]; rfl
  have hspace : ' ' ≤ c ↔ 32 ≤ c.toNat := by rw [Char.le_def, UInt32.le_iff_toNat_le]; rfl
  simp only [Bool.or_eq_true, beq_iff_eq, Bool.and_eq_true, decide_eq_true_eq, htab, hspace]
  by_cases hascii : c.toNat ≤ 127
  · obtain ⟨hbytes, hcode⟩ := utf8EncodeChar_ascii hascii
    rw [hbytes]
    simp only [List.mem_singleton, forall_eq, IsHeaderByte, hcode]
  · obtain ⟨b, rest, hbytes, hb⟩ := utf8EncodeChar_lead (c := c) (by omega)
    rw [hbytes]
    constructor
    · omega
    · intro hall
      have := hall b List.mem_cons_self
      unfold IsHeaderByte at this
      omega

/-- The header's text passes exactly when all of its bytes are header bytes. -/
theorem isHeaderText_iff_bytes {v : String} :
    Caller.isHeaderText v = true ↔ ∀ b ∈ v.toUTF8.data, IsHeaderByte b := by
  simp only [Caller.isHeaderText, List.all_eq_true, headerChar_iff_bytes, ← Array.mem_toList_iff,
    toUTF8_data_toList, List.mem_flatMap]
  constructor
  · rintro hall b ⟨c, hc, hb⟩
    exact hall c hc b hb
  · intro hall c hc b hb
    exact hall b ⟨c, hc, hb⟩

/-! ### The caller -/

theorem int64Min_eq : int64Min = -2 ^ 63 := by
  decide

theorem int64Max_eq : int64Max = 2 ^ 63 - 1 := by
  decide

namespace Caller

/-- A header that is there is read as a positive number when its text passes and its trim reads
as a positive signed 64-bit integer. -/
theorem ofHeader_some_ok {v : String} {n : Int} :
    ofHeader (some v) = .ok n ↔
      isHeaderText v = true ∧ readInt64? (trim v) = some n ∧ 0 < n := by
  unfold ofHeader
  by_cases htext : isHeaderText v = true
  · simp only [htext, ↓reduceIte, true_and]
    cases hread : readInt64? (trim v) with
    | none => simp
    | some m =>
        by_cases hpos : 0 < m
        · simp only [hpos, ↓reduceIte, Except.ok.injEq, Option.some.injEq]
          constructor
          · rintro rfl
            exact ⟨rfl, hpos⟩
          · rintro ⟨rfl, -⟩
            rfl
        · simp only [hpos, ↓reduceIte, reduceCtorEq, Option.some.injEq, false_iff, not_and]
          rintro rfl
          exact hpos
  · simp [htext]

/-- A header that is there is either read or refused as invalid. -/
theorem ofHeader_some_read_or_invalid (v : String) :
    (∃ n, ofHeader (some v) = .ok n) ∨
      ofHeader (some v) = .error (.unauthorized "invalid X-User-Id header") := by
  unfold ofHeader
  dsimp only
  split
  · rename_i n _
    by_cases hpos : 0 < n
    · exact .inl ⟨n, by simp [hpos]⟩
    · exact .inr (by simp [hpos])
  · exact .inr rfl

end Caller

/-- A positive signed 64-bit integer is read from a text exactly when the text is an optional plus
sign and a nonempty run of ASCII digits whose value lies between one and `2 ^ 63 - 1`. -/
theorem readInt64?_positive {s : String} {n : Int} :
    readInt64? s = some n ∧ 0 < n ↔
      ∃ digits : List Char, (s.toList = digits ∨ s.toList = '+' :: digits) ∧ digits ≠ [] ∧
        (∀ c ∈ digits, c.isDigit) ∧ n = decimalValue digits ∧
        1 ≤ decimalValue digits ∧ decimalValue digits ≤ 2 ^ 63 - 1 := by
  rw [readInt64?_eq_some]
  constructor
  · rintro ⟨⟨digits, hne, hall, hread, hlow, hhigh⟩, hpos⟩
    rcases hread with ⟨hs, rfl⟩ | ⟨-, rfl⟩
    · refine ⟨digits, hs, hne, hall, rfl, by omega, ?_⟩
      rw [int64Max_eq] at hhigh
      omega
    · omega
  · rintro ⟨digits, hs, hne, hall, rfl, hlow, hhigh⟩
    refine ⟨⟨digits, hne, hall, .inl ⟨hs, rfl⟩, ?_, ?_⟩, by omega⟩
    · rw [int64Min_eq]
      omega
    · rw [int64Max_eq]
      omega

/-- The caller named by the `X-User-Id` header, whose value `value` holds when the header is
there.  It is read exactly when the header is there, all of its bytes are tabs or ASCII from the
space to the tilde, and its text trimmed is an optional plus sign and a nonempty run of ASCII
digits, leading zeros allowed, whose value lies between one and `2 ^ 63 - 1`; the caller is
that value.  A missing header is refused as missing, and every other refusal is as invalid. -/
theorem caller_read_from_header :
    (∀ (value : Option String) (n : Int), Caller.ofHeader value = .ok n ↔
      ∃ v, value = some v ∧ (∀ b ∈ v.toUTF8.data, IsHeaderByte b) ∧
        ∃ digits : List Char, ((trim v).toList = digits ∨ (trim v).toList = '+' :: digits) ∧
          digits ≠ [] ∧ (∀ c ∈ digits, c.isDigit) ∧ n = decimalValue digits ∧
          1 ≤ decimalValue digits ∧ decimalValue digits ≤ 2 ^ 63 - 1) ∧
    (∀ value : Option String,
      Caller.ofHeader value = .error (.unauthorized "missing X-User-Id header") ↔
        value = none) ∧
    ∀ v : String, (∃ n, Caller.ofHeader (some v) = .ok n) ∨
      Caller.ofHeader (some v) = .error (.unauthorized "invalid X-User-Id header") := by
  refine ⟨fun value n => ?_, fun value => ?_, Caller.ofHeader_some_read_or_invalid⟩
  · cases value with
    | none => simp [Caller.ofHeader]
    | some v =>
        rw [Caller.ofHeader_some_ok, isHeaderText_iff_bytes, readInt64?_positive]
        simp only [Option.some.injEq, exists_eq_left']
  · cases value with
    | none => simp [Caller.ofHeader]
    | some v =>
        simp only [reduceCtorEq, iff_false]
        rcases Caller.ofHeader_some_read_or_invalid v with ⟨n, h⟩ | h <;> simp [h]

example : (Caller.ofHeader (some " +0042\t")).toOption = some 42 := by decide
example : (Caller.ofHeader (some "9223372036854775807")).toOption = some 9223372036854775807 := by
  decide
example : (Caller.ofHeader (some "9223372036854775808")).toOption = none := by decide
example : (Caller.ofHeader (some "-0")).toOption = none := by decide
example : (Caller.ofHeader (some "+")).toOption = none := by decide

end Waybill
