import Waybill.Text.Phone
/-!
Texts, said without the code that reads them.  A trimmed text is what stands between two runs
of blanks at the ends of the text, and it neither starts nor ends with a blank.  `trimBlanks`
gives exactly that text (`trimBlanks_eq_iff`), so it cuts the White_Space characters at both
ends and nothing else, and trimming a second time changes nothing.  The ASCII digits the
checks test for are core's `Char.isDigit`.
-/
namespace Waybill

/-- `t` is `cs` with the blanks at both ends cut: `cs` is `t` between two runs of blanks, and
`t` neither starts nor ends with a blank. -/
structure Trimmed (cs t : List Char) : Prop where
  around : ∃ lead trail, cs = lead ++ t ++ trail ∧ (∀ c ∈ lead, isBlank c = true) ∧
    ∀ c ∈ trail, isBlank c = true
  head : ∀ c ∈ t.head?, isBlank c = false
  last : ∀ c ∈ t.getLast?, isBlank c = false

/-- Where dropping stops, the character is kept because it fails the test. -/
theorem head?_dropWhile_false (p : Char → Bool) (cs : List Char) {c : Char}
    (h : c ∈ (cs.dropWhile p).head?) : p c = false := by
  have hnot := List.head?_dropWhile_not p cs
  rw [Option.mem_def.mp h] at hnot
  exact hnot

theorem trimBlanks_trimmed (cs : List Char) : Trimmed cs (trimBlanks cs) := by
  -- `cs` is its leading blanks and then the rest; the rest reversed is its trailing blanks
  -- and then the trim reversed
  have hcs : cs = cs.takeWhile isBlank ++ cs.dropWhile isBlank :=
    List.takeWhile_append_dropWhile.symm
  have hrev : (cs.dropWhile isBlank).reverse =
      (cs.dropWhile isBlank).reverse.takeWhile isBlank ++
        (cs.dropWhile isBlank).reverse.dropWhile isBlank :=
    List.takeWhile_append_dropWhile.symm
  have hkept : cs.dropWhile isBlank = trimBlanks cs ++
      ((cs.dropWhile isBlank).reverse.takeWhile isBlank).reverse := by
    rw [trimBlanks, ← List.reverse_append, ← hrev, List.reverse_reverse]
  refine ⟨⟨cs.takeWhile isBlank, ((cs.dropWhile isBlank).reverse.takeWhile isBlank).reverse,
    ?_, ?_, ?_⟩, ?_, ?_⟩
  · rw [List.append_assoc, ← hkept]
    exact hcs
  · exact List.all_eq_true.mp List.all_takeWhile
  · intro c hc
    exact List.all_eq_true.mp List.all_takeWhile c (List.mem_reverse.mp hc)
  · -- the first kept character is the first of `cs` that is not blank
    intro c hc
    apply head?_dropWhile_false isBlank cs
    rw [hkept, List.head?_append, Option.mem_def.mp hc]
    rfl
  · intro c hc
    apply head?_dropWhile_false isBlank (cs.dropWhile isBlank).reverse
    simpa [trimBlanks] using hc

/-- A text whose ends are not blank is its own trim. -/
theorem Trimmed.self {t : List Char} (head : ∀ c ∈ t.head?, isBlank c = false)
    (last : ∀ c ∈ t.getLast?, isBlank c = false) : Trimmed t t :=
  ⟨⟨[], [], by simp, by simp, by simp⟩, head, last⟩

/-- Dropping a run of characters that pass the test stops at the first one that fails it. -/
theorem dropWhile_append_stop {p : Char → Bool} {body rest : List Char}
    (inside : ∀ c ∈ body, p c = true) (stop : ∀ c ∈ rest.head?, p c = false) :
    (body ++ rest).dropWhile p = rest := by
  rw [List.dropWhile_append_of_pos inside]
  cases rest with
  | nil => rfl
  | cons c more => exact List.dropWhile_cons_of_neg (by simpa using stop c rfl)

/-- What the trim of `cs` must be: the blanks at both ends are dropped, and dropping stops at the
text's first and last characters, which are not blank. -/
theorem Trimmed.eq_trimBlanks {cs t : List Char} (h : Trimmed cs t) : trimBlanks cs = t := by
  obtain ⟨⟨lead, trail, rfl, hlead, htrail⟩, hhead, hlast⟩ := h
  have htrail' : ∀ c ∈ trail.reverse, isBlank c = true := fun c hc =>
    htrail c (List.mem_reverse.mp hc)
  cases t with
  | nil =>
      -- nothing but blanks
      have hblank : ∀ c ∈ lead ++ trail, isBlank c = true := by
        intro c hc
        rcases List.mem_append.mp hc with hc | hc
        · exact hlead c hc
        · exact htrail c hc
      rw [trimBlanks, List.append_nil, ← List.append_nil (lead ++ trail),
        dropWhile_append_stop hblank (by simp)]
      rfl
  | cons a rest =>
      have hfront : (lead ++ (a :: rest) ++ trail).dropWhile isBlank = a :: rest ++ trail := by
        rw [List.append_assoc]
        exact dropWhile_append_stop hlead fun c hc => hhead c (by simpa using hc)
      -- reversed, the trailing blanks come first and the last character stops the drop
      have hback : (trail.reverse ++ (a :: rest).reverse).dropWhile isBlank =
          (a :: rest).reverse :=
        dropWhile_append_stop htrail' fun c hc => hlast c (by rwa [List.head?_reverse] at hc)
      rw [trimBlanks, hfront, List.reverse_append, hback, List.reverse_reverse]

theorem trimBlanks_eq_iff {cs t : List Char} : trimBlanks cs = t ↔ Trimmed cs t := by
  constructor
  · rintro rfl
    exact trimBlanks_trimmed cs
  · exact Trimmed.eq_trimBlanks

/-- Trimming a trimmed text changes nothing. -/
@[simp] theorem trimBlanks_trimBlanks (cs : List Char) :
    trimBlanks (trimBlanks cs) = trimBlanks cs :=
  (Trimmed.self (trimBlanks_trimmed cs).head (trimBlanks_trimmed cs).last).eq_trimBlanks

@[simp] theorem trim_toList (s : String) : (trim s).toList = trimBlanks s.toList := by
  simp [trim]

theorem isAsciiDigit_eq_isDigit (c : Char) : isAsciiDigit c = c.isDigit := by
  simp only [isAsciiDigit, Char.isDigit, Char.le_def]

/-- A digit is none of the signs. -/
theorem isDigit_ne_sign {c : Char} (h : c.isDigit) : c ≠ '+' ∧ c ≠ '-' := by
  constructor <;> (rintro rfl; exact absurd h (by decide))

end Waybill
