import Waybill.Proofs.Text
import Waybill.Proofs.Outcomes
/-!
Phone numbers against the pattern they are documented by, `^\+?[0-9][0-9 \-]{6,18}[0-9]$`.

`Pattern` is the little regular-expression language that pattern is written in, with
whole-text matching (`Pattern.Matches`): a class of characters given by ranges, an optional
part, a sequence, and a bounded repetition.  The phone check, written by hand over the
characters of the trimmed text, accepts exactly the texts the pattern matches
(`isPhoneText_iff_matches`), and these are the texts whose part after an optional plus sign has
eight to twenty digits, spaces or hyphens with digits at both ends (`matches_phone_iff_shape`).
Registration refuses a phone number with its own fault exactly when the number passes the
required-text check and fails the pattern (`create_phone_fault_iff`).
-/
namespace Waybill

/-- Regular expressions as the field checks write them, matched against a whole text: a class
of characters given by ranges, an optional part, a sequence of two parts, and a part repeated
between `least` and `most` times. -/
inductive Pattern where
  | chars (ranges : List (Char × Char))
  | opt (p : Pattern)
  | seq (p q : Pattern)
  | rep (p : Pattern) (least most : Nat)

namespace Pattern

/-- A character lies in one of the ranges of a class. -/
def InClass (ranges : List (Char × Char)) (c : Char) : Prop :=
  ∃ r ∈ ranges, r.1 ≤ c ∧ c ≤ r.2

/-- The texts a pattern matches, each as a whole. -/
inductive Matches : Pattern → List Char → Prop where
  | chars {ranges : List (Char × Char)} {c : Char} :
      InClass ranges c → Matches (.chars ranges) [c]
  | skip {p : Pattern} : Matches (.opt p) []
  | take {p : Pattern} {w : List Char} : Matches p w → Matches (.opt p) w
  | seq {p q : Pattern} {u w : List Char} :
      Matches p u → Matches q w → Matches (.seq p q) (u ++ w)
  | rep {p : Pattern} {least most : Nat} {ws : List (List Char)} :
      least ≤ ws.length → ws.length ≤ most → (∀ w ∈ ws, Matches p w) →
        Matches (.rep p least most) ws.flatten

theorem matches_chars_iff {ranges : List (Char × Char)} {w : List Char} :
    Matches (.chars ranges) w ↔ ∃ c, w = [c] ∧ InClass ranges c := by
  constructor
  · intro h
    cases h with
    | chars hc => exact ⟨_, rfl, hc⟩
  · rintro ⟨c, rfl, hc⟩
    exact .chars hc

theorem matches_opt_iff {p : Pattern} {w : List Char} :
    Matches (.opt p) w ↔ w = [] ∨ Matches p w := by
  constructor
  · intro h
    cases h with
    | skip => exact .inl rfl
    | take hp => exact .inr hp
  · rintro (rfl | hp)
    · exact .skip
    · exact .take hp

theorem matches_seq_iff {p q : Pattern} {w : List Char} :
    Matches (.seq p q) w ↔ ∃ u v, w = u ++ v ∧ Matches p u ∧ Matches q v := by
  constructor
  · intro h
    cases h with
    | seq hp hq => exact ⟨_, _, rfl, hp, hq⟩
  · rintro ⟨u, v, rfl, hp, hq⟩
    exact .seq hp hq

/-- Pieces that are single characters of a class join into a text of as many characters, all in
the class. -/
theorem flatten_of_chars {ranges : List (Char × Char)} :
    ∀ {ws : List (List Char)}, (∀ w ∈ ws, Matches (.chars ranges) w) →
      ws.flatten.length = ws.length ∧ ∀ c ∈ ws.flatten, InClass ranges c
  | [], _ => by simp
  | w :: ws, h => by
      obtain ⟨c, rfl, hc⟩ := matches_chars_iff.mp (h w List.mem_cons_self)
      obtain ⟨hlength, hin⟩ := flatten_of_chars fun v hv => h v (List.mem_cons_of_mem _ hv)
      refine ⟨by simp [hlength], ?_⟩
      intro d hd
      have hd : d ∈ c :: ws.flatten := by
        simpa only [List.flatten_cons, List.singleton_append] using hd
      rcases List.mem_cons.mp hd with rfl | hd
      · exact hc
      · exact hin d hd

/-- A class repeated between `least` and `most` times matches the texts of that many
characters of the class. -/
theorem matches_rep_chars_iff {ranges : List (Char × Char)} {least most : Nat} {w : List Char} :
    Matches (.rep (.chars ranges) least most) w ↔
      least ≤ w.length ∧ w.length ≤ most ∧ ∀ c ∈ w, InClass ranges c := by
  constructor
  · intro h
    cases h with
    | rep hleast hmost hall =>
        obtain ⟨hlength, hin⟩ := flatten_of_chars hall
        exact ⟨hlength ▸ hleast, hlength ▸ hmost, hin⟩
  · rintro ⟨hleast, hmost, hin⟩
    -- one piece per character
    have hw : (w.map fun c => [c]).flatten = w := List.flatMap_singleton' w
    rw [← hw]
    refine .rep (by simpa using hleast) (by simpa using hmost) ?_
    intro v hv
    obtain ⟨c, hc, rfl⟩ := List.mem_map.mp hv
    exact .chars (hin c hc)

end Pattern

open Pattern

/-- `[0-9]`: one ASCII digit. -/
def digitClass : List (Char × Char) := [('0', '9')]

/-- `[0-9 \-]`: an ASCII digit, a space or a hyphen. -/
def phoneInnerClass : List (Char × Char) := [('0', '9'), (' ', ' '), ('-', '-')]

/-- `[0-9][0-9 \-]{6,18}[0-9]`: what follows the optional plus sign. -/
def phoneBodyPattern : Pattern :=
  .seq (.chars digitClass) (.seq (.rep (.chars phoneInnerClass) 6 18) (.chars digitClass))

/-- `^\+?[0-9][0-9 \-]{6,18}[0-9]$`, the pattern of a trimmed phone number. -/
def phonePattern : Pattern := .seq (.opt (.chars [('+', '+')])) phoneBodyPattern

/-- A phone number read by its characters: after an optional plus sign, eight to twenty
characters, each an ASCII digit, a space or a hyphen, with digits at both ends. -/
def PhoneShape (t : List Char) : Prop :=
  ∃ body, (t = body ∨ t = '+' :: body) ∧ 8 ≤ body.length ∧ body.length ≤ 20 ∧
    (∀ c ∈ body, c.isDigit ∨ c = ' ' ∨ c = '-') ∧ (∀ c ∈ body.head?, c.isDigit) ∧
      ∀ c ∈ body.getLast?, c.isDigit

/-- The body of a phone number cut at its ends: a digit, six to eighteen digits, spaces or
hyphens, and a digit. -/
def PhoneBodyParts (b : List Char) : Prop :=
  ∃ first inner last, b = first :: (inner ++ [last]) ∧ first.isDigit ∧ last.isDigit ∧
    6 ≤ inner.length ∧ inner.length ≤ 18 ∧ ∀ c ∈ inner, isPhoneInner c

theorem inClass_digit {c : Char} : InClass digitClass c ↔ c.isDigit := by
  simp [InClass, digitClass, ← isAsciiDigit_eq_isDigit, isAsciiDigit]

theorem inClass_plus {c : Char} : InClass [('+', '+')] c ↔ c = '+' := by
  simp only [InClass, List.mem_singleton, exists_eq_left]
  constructor
  · rintro ⟨hlow, hhigh⟩
    exact Char.le_antisymm hhigh hlow
  · rintro rfl
    exact ⟨Char.le_refl _, Char.le_refl _⟩

theorem inClass_phoneInner {c : Char} : InClass phoneInnerClass c ↔ isPhoneInner c := by
  have hpoint (d : Char) : (d ≤ c ∧ c ≤ d) ↔ c = d :=
    ⟨fun h => Char.le_antisymm h.2 h.1, fun h => h ▸ ⟨Char.le_refl _, Char.le_refl _⟩⟩
  simp only [InClass, phoneInnerClass, List.mem_cons, List.not_mem_nil, or_false,
    exists_eq_or_imp, exists_eq_left, hpoint, isPhoneInner, isAsciiDigit, Bool.or_eq_true,
    Bool.and_eq_true, decide_eq_true_eq, beq_iff_eq, or_assoc]

theorem matches_phoneBody_iff {b : List Char} :
    phoneBodyPattern.Matches b ↔ PhoneBodyParts b := by
  simp only [phoneBodyPattern, matches_seq_iff, matches_chars_iff, matches_rep_chars_iff,
    inClass_digit, inClass_phoneInner]
  constructor
  · rintro ⟨_, _, rfl, ⟨first, rfl, hfirst⟩, inner, _, rfl, ⟨hleast, hmost, hinner⟩,
      ⟨last, rfl, hlast⟩⟩
    exact ⟨first, inner, last, rfl, hfirst, hlast, hleast, hmost, hinner⟩
  · rintro ⟨first, inner, last, rfl, hfirst, hlast, hleast, hmost, hinner⟩
    exact ⟨[first], inner ++ [last], rfl, ⟨first, rfl, hfirst⟩, inner, [last], rfl,
      ⟨hleast, hmost, hinner⟩, ⟨last, rfl, hlast⟩⟩

/-- The hand-written check of a phone body cuts off the first and the last character and
checks the ones between. -/
theorem isPhoneBody_iff {b : List Char} : isPhoneBody b = true ↔ PhoneBodyParts b := by
  constructor
  · intro h
    match b, h with
    | first :: rest, h =>
        unfold isPhoneBody at h
        cases hlast : rest.getLast? with
        | none => simp [hlast] at h
        | some last =>
            obtain ⟨inner, rfl⟩ := List.getLast?_eq_some_iff.mp hlast
            simp only [hlast, List.dropLast_concat, List.all_eq_true, Bool.and_eq_true,
              decide_eq_true_eq, List.length_cons, List.length_append, List.length_nil,
              isAsciiDigit_eq_isDigit] at h
            obtain ⟨⟨⟨⟨hfirst, hlastDigit⟩, hleast⟩, hmost⟩, hinner⟩ := h
            exact ⟨first, inner, last, rfl, hfirst, hlastDigit, by omega, by omega, hinner⟩
  · rintro ⟨first, inner, last, rfl, hfirst, hlast, hleast, hmost, hinner⟩
    simp only [isPhoneBody, List.getLast?_concat, List.dropLast_concat, List.all_eq_true,
      Bool.and_eq_true, decide_eq_true_eq, List.length_cons, List.length_append, List.length_nil,
      isAsciiDigit_eq_isDigit]
    exact ⟨⟨⟨⟨hfirst, hlast⟩, by omega⟩, by omega⟩, hinner⟩

/-- A phone body starts with a digit, so never with a plus sign. -/
theorem PhoneBodyParts.head_ne_plus {b : List Char} (h : PhoneBodyParts b) :
    ∀ rest, b ≠ '+' :: rest := by
  obtain ⟨first, inner, last, rfl, hfirst, -⟩ := h
  intro rest heq
  exact (isDigit_ne_sign hfirst).1 (List.cons.inj heq).1

/-- A phone text is a body, or a plus sign and a body. -/
theorem matches_phone_iff_parts {t : List Char} :
    phonePattern.Matches t ↔ PhoneBodyParts t ∨ ∃ b, t = '+' :: b ∧ PhoneBodyParts b := by
  simp only [phonePattern, matches_seq_iff, matches_opt_iff, matches_chars_iff, inClass_plus,
    matches_phoneBody_iff]
  constructor
  · rintro ⟨_, b, rfl, rfl | ⟨_, rfl, rfl⟩, hb⟩
    · exact .inl hb
    · exact .inr ⟨b, rfl, hb⟩
  · rintro (hb | ⟨b, rfl, hb⟩)
    · exact ⟨[], t, rfl, .inl rfl, hb⟩
    · exact ⟨['+'], b, rfl, .inr ⟨'+', rfl, rfl⟩, hb⟩

/-- The check written by hand over a trimmed text accepts exactly what the pattern matches. -/
theorem isPhoneText_iff_matches {t : List Char} :
    isPhoneText t = true ↔ phonePattern.Matches t := by
  rw [matches_phone_iff_parts]
  unfold isPhoneText
  split
  · rename_i rest
    rw [isPhoneBody_iff]
    constructor
    · intro hb
      exact .inr ⟨rest, rfl, hb⟩
    · rintro (hb | ⟨b, hrest, hb⟩)
      · exact absurd rfl (hb.head_ne_plus rest)
      · exact (List.cons.inj hrest).2 ▸ hb
  · rename_i hnot
    rw [isPhoneBody_iff]
    constructor
    · exact .inl
    · rintro (hb | ⟨b, rfl, -⟩)
      · exact hb
      · exact absurd rfl (hnot b)

theorem getLast?_cons_concat {first last : Char} {inner : List Char} :
    (first :: (inner ++ [last])).getLast? = some last := by
  rw [← List.cons_append, List.getLast?_concat]

/-- The body conditions read character by character: length, alphabet and both ends. -/
theorem phoneBodyParts_iff {b : List Char} :
    PhoneBodyParts b ↔ 8 ≤ b.length ∧ b.length ≤ 20 ∧
      (∀ c ∈ b, c.isDigit ∨ c = ' ' ∨ c = '-') ∧ (∀ c ∈ b.head?, c.isDigit) ∧
        ∀ c ∈ b.getLast?, c.isDigit := by
  have hinner (c : Char) : isPhoneInner c ↔ c.isDigit ∨ c = ' ' ∨ c = '-' := by
    simp [isPhoneInner, isAsciiDigit_eq_isDigit, or_assoc]
  constructor
  · rintro ⟨first, inner, last, rfl, hfirst, hlast, hleast, hmost, hin⟩
    refine ⟨by simp; omega, by simp; omega, ?_, by simpa using hfirst, ?_⟩
    · intro c hc
      simp only [List.mem_cons, List.mem_append, List.not_mem_nil, or_false] at hc
      rcases hc with rfl | hc | rfl
      · exact .inl hfirst
      · exact (hinner c).mp (hin c hc)
      · exact .inl hlast
    · intro c hc
      rw [getLast?_cons_concat, Option.mem_def, Option.some.injEq] at hc
      exact hc ▸ hlast
  · rintro ⟨hleast, hmost, hall, hhead, hend⟩
    -- eight characters or more: a first one, and a last one after it
    obtain ⟨first, rest, rfl⟩ : ∃ first rest, b = first :: rest := by
      cases b with
      | nil => simp at hleast
      | cons first rest => exact ⟨first, rest, rfl⟩
    obtain ⟨inner, last, rfl⟩ : ∃ inner last, rest = inner ++ [last] := by
      cases hr : rest.getLast? with
      | none => simp_all
      | some last =>
          obtain ⟨inner, rfl⟩ := List.getLast?_eq_some_iff.mp hr
          exact ⟨inner, last, rfl⟩
    simp only [List.length_cons, List.length_append, List.length_nil] at hleast hmost
    refine ⟨first, inner, last, rfl, by simpa using hhead,
      hend last (getLast?_cons_concat ▸ rfl), by omega, by omega, ?_⟩
    intro c hc
    exact (hinner c).mpr (hall c (by simp [hc]))

theorem matches_phone_iff_shape {t : List Char} : phonePattern.Matches t ↔ PhoneShape t := by
  rw [matches_phone_iff_parts]
  constructor
  · rintro (hb | ⟨b, rfl, hb⟩)
    · exact ⟨t, .inl rfl, phoneBodyParts_iff.mp hb⟩
    · exact ⟨b, .inr rfl, phoneBodyParts_iff.mp hb⟩
  · rintro ⟨b, rfl | rfl, hb⟩
    · exact .inl (phoneBodyParts_iff.mpr hb)
    · exact .inr ⟨b, rfl, phoneBodyParts_iff.mpr hb⟩

/-- The phone check of a field passes exactly when the trimmed text matches the pattern. -/
theorem phone_ok_iff {v : String} :
    FieldCheck.phone v = .ok () ↔ phonePattern.Matches (trim v).toList := by
  rw [trim_toList, ← isPhoneText_iff_matches]
  unfold FieldCheck.phone isPhone
  split <;> simp_all

/-- A text already trimmed is checked as it stands. -/
theorem isPhone_trim {v : String} :
    isPhone (trim v) = true ↔ phonePattern.Matches (trim v).toList := by
  rw [isPhone, trim_toList, trimBlanks_trimBlanks, isPhoneText_iff_matches]

/-! ### Registration -/

theorem Fault.rule_inj {a b m n : String} :
    Fault.rule a m = Fault.rule b n ↔ a = b ∧ m = n := by
  simp only [Fault.rule, Fault.invalid.injEq, List.cons.injEq, Prod.mk.injEq, FieldIssue.mk.injEq,
    Json.str.injEq, and_true, true_and]
  constructor
  · rintro ⟨rfl, -, rfl⟩
    exact ⟨rfl, rfl⟩
  · rintro ⟨rfl, rfl⟩
    exact ⟨rfl, rfl, rfl⟩

namespace FieldCheck

/-- A required text that is refused is refused under its own field, as empty or as too long. -/
theorem requireText_error {field value : String} {f : Fault}
    (h : requireText field value = .error f) :
    f = Fault.rule field "must not be empty" ∨
      f = Fault.rule field "must be at most 1000 characters" := by
  unfold requireText at h
  split at h
  · exact .inl (Except.error.inj h).symm
  · split at h
    · exact .inr (Except.error.inj h).symm
    · cases h

/-- A required text that passes is given back trimmed. -/
theorem requireText_ok {field value t : String} (h : requireText field value = .ok t) :
    t = trim value := by
  unfold requireText at h
  split at h
  · cases h
  · split at h
    · cases h
    · exact (Except.ok.inj h).symm

/-- No required text other than the phone number is refused with the phone number's fault. -/
theorem requireText_ne_phone {field value : String} (h : field ≠ "recipient_phone") :
    requireText field value ≠ .error (Fault.rule "recipient_phone" "invalid phone number") := by
  intro hf
  rcases requireText_error hf with he | he <;> exact h (Fault.rule_inj.mp he).1.symm

end FieldCheck

/-- A discount fails only when a product or a difference leaves the range of decimals. -/
theorem Money.discounted_error {b d : Decimal} {f : Fault} (h : Money.discounted b d = .error f) :
    ∃ operation, f = .overflow operation := by
  unfold Money.discounted Money.percentOf at h
  split at h
  · split at h
    · cases h
    · exact ⟨_, (Except.error.inj h).symm⟩
  · exact ⟨_, (Except.error.inj h).symm⟩

namespace Service

theorem check_bind_ok {α β : Type} {r : Except Fault α} {a : α} {f : α → Tx β} {s : Store}
    (h : r = .ok a) : (check r >>= f).run s = (f a).run s := by
  subst h
  rfl

theorem check_bind_error {α β : Type} {r : Except Fault α} {e : Fault} {f : α → Tx β}
    {s : Store} (h : r = .error e) : (check r >>= f).run s = .error e := by
  subst h
  rfl

/-- A check followed by more steps fails with `e` only if the check does or the steps do. -/
theorem check_bind_ne {α β : Type} {r : Except Fault α} {f : α → Tx β} {s : Store}
    {e : Fault} (hr : r ≠ .error e) (hf : ∀ a, r = .ok a → (f a).run s ≠ .error e) :
    (check r >>= f).run s ≠ .error e := by
  cases r with
  | error e' =>
      rw [check_bind_error rfl]
      intro h
      exact hr (congrArg Except.error (Except.error.inj h))
  | ok a =>
      rw [check_bind_ok rfl]
      exact hf a rfl

theorem throw_bind_run {α β : Type} {f : Fault} {g : α → Tx β} {s : Store} :
    ((throw f : Tx α) >>= g).run s = .error f := rfl

theorem get_bind_run {β : Type} {g : Store → Tx β} {s : Store} :
    ((get : Tx Store) >>= g).run s = (g s).run s := rfl

section Registration

variable {env : Env} {req : GuideRequest} {userId : Int} {s : Store}

/-- The price is checked first. -/
theorem create_price_refused
    (hprice : FieldCheck.passes (FieldCheck.nonNegative req.basePrice) = false) :
    (create env req userId).run s = .error (Fault.rule "base_price" "must not be negative") := by
  unfold create
  simp only [hprice, Bool.not_false, ↓reduceIte]
  exact throw_bind_run

/-- Then the recipient's name. -/
theorem create_name_refused {f : Fault}
    (hprice : FieldCheck.passes (FieldCheck.nonNegative req.basePrice) = true)
    (hname : FieldCheck.requireText "recipient_name" req.recipient.name = .error f) :
    (create env req userId).run s = .error f := by
  unfold create
  simp only [hprice, Bool.not_true, Bool.false_eq_true, ↓reduceIte]
  exact check_bind_error hname

/-- Then the phone number as a required text. -/
theorem create_phone_text_refused {f : Fault} {name : String}
    (hprice : FieldCheck.passes (FieldCheck.nonNegative req.basePrice) = true)
    (hname : FieldCheck.requireText "recipient_name" req.recipient.name = .ok name)
    (hphone : FieldCheck.requireText "recipient_phone" req.recipient.phone = .error f) :
    (create env req userId).run s = .error f := by
  unfold create
  simp only [hprice, Bool.not_true, Bool.false_eq_true, ↓reduceIte, check_bind_ok hname]
  exact check_bind_error hphone

/-- Then the phone number against its pattern. -/
theorem create_phone_refused {name phone : String}
    (hprice : FieldCheck.passes (FieldCheck.nonNegative req.basePrice) = true)
    (hname : FieldCheck.requireText "recipient_name" req.recipient.name = .ok name)
    (hphone : FieldCheck.requireText "recipient_phone" req.recipient.phone = .ok phone)
    (hbad : isPhone phone = false) :
    (create env req userId).run s =
      .error (Fault.rule "recipient_phone" "invalid phone number") := by
  unfold create
  simp only [hprice, Bool.not_true, Bool.false_eq_true, ↓reduceIte, check_bind_ok hname,
    check_bind_ok hphone, hbad, Bool.not_false]
  exact throw_bind_run

/-- Past a good phone number, registration fails, if at all, at a later check, and no later
check reports the phone number: the texts report their own fields, and the user, the business,
the discount and the guide number fail with faults of other kinds. -/
theorem create_ne_phone_fault {name phone : String}
    (hprice : FieldCheck.passes (FieldCheck.nonNegative req.basePrice) = true)
    (hname : FieldCheck.requireText "recipient_name" req.recipient.name = .ok name)
    (hphone : FieldCheck.requireText "recipient_phone" req.recipient.phone = .ok phone)
    (hgood : isPhone phone = true) :
    (create env req userId).run s ≠
      .error (Fault.rule "recipient_phone" "invalid phone number") := by
  unfold create
  simp only [hprice, Bool.not_true, Bool.false_eq_true, ↓reduceIte, check_bind_ok hname,
    check_bind_ok hphone, hgood]
  refine check_bind_ne (FieldCheck.requireText_ne_phone (by decide)) fun address _ => ?_
  refine check_bind_ne (FieldCheck.requireText_ne_phone (by decide)) fun city _ => ?_
  refine check_bind_ne (FieldCheck.requireText_ne_phone (by decide)) fun region _ => ?_
  refine check_bind_ne ?_ fun user _ => ?_
  · unfold requireUser
    split <;> simp [Fault.missing, Fault.rule]
  split
  · simp only [pure_bind]
    split
    · rw [throw_bind_run]
      simp [Fault.refused, Fault.rule]
    · refine check_bind_ne ?_ fun basePrice _ => ?_
      · intro h
        obtain ⟨_, hover⟩ := Money.discounted_error h
        simp [Fault.rule] at hover
      rw [get_bind_run]
      split
      · simp [StateT.run_bind, Tx.insertGuide_run, Tx.appendHistory_run, Tx.except_ok_bind]
      · rw [throw_bind_run]
        simp [Fault.rule]
  · rw [throw_bind_run]
    simp [Fault.missing, Fault.rule]

/-- Registration refuses a phone number with the phone fault exactly when the price and the
name pass, the phone number passes as a required text, and its trimmed text fails the
pattern. -/
theorem create_phone_fault_iff :
    (create env req userId).run s = .error (Fault.rule "recipient_phone" "invalid phone number") ↔
      FieldCheck.passes (FieldCheck.nonNegative req.basePrice) = true ∧
      (∃ name, FieldCheck.requireText "recipient_name" req.recipient.name = .ok name) ∧
      (∃ phone, FieldCheck.requireText "recipient_phone" req.recipient.phone = .ok phone) ∧
      ¬ phonePattern.Matches (trim req.recipient.phone).toList := by
  constructor
  · intro h
    -- each earlier check, had it failed, would have answered with another fault
    have hprice : FieldCheck.passes (FieldCheck.nonNegative req.basePrice) = true := by
      cases hp : FieldCheck.passes (FieldCheck.nonNegative req.basePrice)
      · rw [create_price_refused hp, Except.error.injEq, Fault.rule_inj] at h
        exact absurd h.1 (by decide)
      · rfl
    obtain ⟨name, hname⟩ : ∃ name,
        FieldCheck.requireText "recipient_name" req.recipient.name = .ok name := by
      cases hn : FieldCheck.requireText "recipient_name" req.recipient.name with
      | ok name => exact ⟨name, rfl⟩
      | error f =>
          rw [create_name_refused hprice hn, Except.error.injEq] at h
          exact absurd (h ▸ hn) (FieldCheck.requireText_ne_phone (by decide))
    obtain ⟨phone, hphone⟩ : ∃ phone,
        FieldCheck.requireText "recipient_phone" req.recipient.phone = .ok phone := by
      cases hp : FieldCheck.requireText "recipient_phone" req.recipient.phone with
      | ok phone => exact ⟨phone, rfl⟩
      | error f =>
          rw [create_phone_text_refused hprice hname hp, Except.error.injEq] at h
          rcases FieldCheck.requireText_error hp with he | he <;>
            exact absurd (Fault.rule_inj.mp (h ▸ he)).2 (by decide)
    refine ⟨hprice, ⟨name, hname⟩, ⟨phone, hphone⟩, fun hmatch => ?_⟩
    have hgood : isPhone phone = true := by
      rw [FieldCheck.requireText_ok hphone]
      exact isPhone_trim.mpr hmatch
    exact create_ne_phone_fault hprice hname hphone hgood h
  · rintro ⟨hprice, ⟨name, hname⟩, ⟨phone, hphone⟩, hbad⟩
    have hfails : isPhone phone = false := by
      rw [FieldCheck.requireText_ok hphone, Bool.eq_false_iff]
      exact fun hgood => hbad (isPhone_trim.mp hgood)
    exact create_phone_refused hprice hname hphone hfails

end Registration

end Service

/-- The phone check accepts exactly the language of its pattern.  Trimming cuts the blanks at
both ends and nothing else; the check of a field passes exactly when the trimmed text matches
`^\+?[0-9][0-9 \-]{6,18}[0-9]$`; the texts the pattern matches are those whose part after an
optional plus sign has eight to twenty ASCII digits, spaces or hyphens with digits at both
ends; and registration refuses a recipient's phone number with the phone fault exactly when the
checks before it pass, the number passes as a required text, and its trim fails the pattern. -/
theorem phone_check_accepts_exactly_pattern :
    (∀ (v : String) (t : List Char), (trim v).toList = t ↔ Trimmed v.toList t) ∧
    (∀ v : String, FieldCheck.phone v = .ok () ↔ phonePattern.Matches (trim v).toList) ∧
    (∀ t : List Char, phonePattern.Matches t ↔ PhoneShape t) ∧
    ∀ (env : Env) (req : GuideRequest) (userId : Int) (s : Store),
      (Service.create env req userId).run s =
          .error (Fault.rule "recipient_phone" "invalid phone number") ↔
        FieldCheck.passes (FieldCheck.nonNegative req.basePrice) = true ∧
        (∃ name, FieldCheck.requireText "recipient_name" req.recipient.name = .ok name) ∧
        (∃ phone, FieldCheck.requireText "recipient_phone" req.recipient.phone = .ok phone) ∧
        ¬ phonePattern.Matches (trim req.recipient.phone).toList := by
  refine ⟨fun v t => ?_, fun v => phone_ok_iff, fun t => matches_phone_iff_shape,
    fun env req userId s => Service.create_phone_fault_iff⟩
  rw [trim_toList]
  exact trimBlanks_eq_iff

-- the edges of the repetition, a tab inside and a digit beyond ASCII
example : isPhone "1234567" = false := by decide
example : isPhone " +12345678 " = true := by decide
example : isPhone "+12345678901234567890" = true := by decide
example : isPhone "123456789012345678901" = false := by decide
example : isPhone "300\t123 4567" = false := by decide
example : isPhone "٣001234567" = false := by decide

end Waybill
