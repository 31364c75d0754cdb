import Waybill.Calendar.Instant
/-!
The day count and the calendar agree.  `Date.dayNumber` counts days in 400-year eras of 146097
days, each era split into four centuries, each century into four-year cycles and each cycle into
years counted from March, so that a leap day closes its year; `Date.ofDayNumber` reads the count
back the same way.  Main statements: every day number names a proper date whose count it is
(`ofDayNumber_spec`), every proper date is the date of its count (`ofDayNumber_dayNumber`), and
so the month window of a moment holds exactly the moments of its UTC calendar month
(`Instant.mem_monthBounds_iff`), when that month and the next begin within the supported years.

`omega` cannot relate divisions of divisions by itself; each proof first names the quotient it
needs (the century, the cycle, the year of the era) as a fact of its own.
-/
namespace Waybill

namespace Date

/-- A month of the year and a day of that month, in any year. -/
def Proper (d : Date) : Prop :=
  1 ≤ d.month ∧ d.month ≤ 12 ∧ 1 ≤ d.day ∧ d.day ≤ daysInMonth d.year d.month

/-- The first day of the month of `d`. -/
def monthStart (d : Date) : Date := ⟨d.year, d.month, 1⟩

/-- The first day of the month after the month of `d`. -/
def nextMonthStart (d : Date) : Date :=
  if d.month = 12 then ⟨d.year + 1, 1, 1⟩ else ⟨d.year, d.month + 1, 1⟩

section Era

variable {era C Q R doy : Int}

/-- The year of an era that a day of the era falls in, as the day count computes it, for a day
written as `C` centuries of 36524 days, `Q` four-year cycles of 1461 days, `R` years of 365 days
and the day `doy` of its year; day 365 is a leap day, which only the last year of a cycle has,
and the last cycle of a century only in the last century of the era. -/
theorem yearOfEra_of_split (hC : 0 ≤ C ∧ C ≤ 3) (hQ : 0 ≤ Q ∧ Q ≤ 24) (hR : 0 ≤ R ∧ R ≤ 3)
    (hd : 0 ≤ doy ∧ doy ≤ 365) (hleap : doy = 365 → R = 3 ∧ (Q ≠ 24 ∨ C = 3)) :
    let doe := 36524 * C + 1461 * Q + 365 * R + doy
    (doe - doe / 1460 + doe / 36524 - doe / 146096) / 365 = 100 * C + 4 * Q + R := by
  intro doe
  -- the three corrections: a leap day every cycle, none every century, one every era
  have hcycles : doe / 1460 = 25 * C + Q + if 1460 ≤ 24 * C + Q + 365 * R + doy then 1 else 0 := by
    split <;> omega
  have hcenturies : doe / 36524 = C + if doe = 146096 then 1 else 0 := by
    split <;> omega
  have hera : doe / 146096 = if doe = 146096 then 1 else 0 := by
    split <;> omega
  rw [hcycles, hcenturies, hera]
  split <;> split <;> omega

/-- The leap years and the centuries that come before a year of an era. -/
theorem yearOfEra_div (hQ : 0 ≤ Q ∧ Q ≤ 24) (hR : 0 ≤ R ∧ R ≤ 3) :
    (100 * C + 4 * Q + R) / 4 = 25 * C + Q ∧ (100 * C + 4 * Q + R) / 100 = C := by
  omega

/-- Every day of an era splits into centuries, cycles, years and a day of the year. -/
theorem split_of_dayOfEra {doe : Int} (h0 : 0 ≤ doe) (h1 : doe < 146097) :
    ∃ C Q R doy, (0 ≤ C ∧ C ≤ 3) ∧ (0 ≤ Q ∧ Q ≤ 24) ∧ (0 ≤ R ∧ R ≤ 3) ∧ (0 ≤ doy ∧ doy ≤ 365) ∧
      (doy = 365 → R = 3 ∧ (Q ≠ 24 ∨ C = 3)) ∧ doe = 36524 * C + 1461 * Q + 365 * R + doy := by
  -- the last century of an era keeps the day beyond it
  obtain ⟨C, hC, hlow, hhigh, hlast⟩ : ∃ C, (0 ≤ C ∧ C ≤ 3) ∧ 36524 * C ≤ doe ∧
      doe - 36524 * C ≤ 36524 ∧ (doe - 36524 * C = 36524 → C = 3) :=
    ⟨min (doe / 36524) 3, by omega⟩
  have hQ : 0 ≤ (doe - 36524 * C) / 1461 ∧ (doe - 36524 * C) / 1461 ≤ 24 := by omega
  -- and so does the last year of a cycle
  obtain ⟨R, hR, hRlow, hRhigh, hRlast⟩ : ∃ R, (0 ≤ R ∧ R ≤ 3) ∧
      365 * R ≤ (doe - 36524 * C) % 1461 ∧ (doe - 36524 * C) % 1461 - 365 * R ≤ 365 ∧
      ((doe - 36524 * C) % 1461 - 365 * R = 365 → R = 3) :=
    ⟨min ((doe - 36524 * C) % 1461 / 365) 3, by omega⟩
  refine ⟨C, (doe - 36524 * C) / 1461, R, (doe - 36524 * C) % 1461 - 365 * R, hC, hQ, hR,
    by omega, fun h365 => ⟨hRlast h365, ?_⟩, by omega⟩
  omega

/-- The calendar year whose February ends a year of an era is a leap year exactly when the day
count gives that year a 366th day. -/
theorem isLeapYear_split (hC : 0 ≤ C ∧ C ≤ 3) (hQ : 0 ≤ Q ∧ Q ≤ 24) (hR : 0 ≤ R ∧ R ≤ 3) :
    isLeapYear (era * 400 + (100 * C + 4 * Q + R) + 1) = true ↔ R = 3 ∧ (Q ≠ 24 ∨ C = 3) := by
  simp only [isLeapYear, Bool.or_eq_true, Bool.and_eq_true, beq_iff_eq, bne_iff_ne, ne_eq]
  omega

end Era

/-- The month and the day of the `doy`-th day of a year counted from March, as the day count
reads them; a 366th day falls on the 29th of February of a leap year. -/
theorem monthOfDay {doy year mp month : Int} (hd : 0 ≤ doy ∧ doy ≤ 365)
    (hleap : doy = 365 → isLeapYear year = true) (hmp : (5 * doy + 2) / 153 = mp)
    (hmonth : (if mp < 10 then mp + 3 else mp - 9) = month) :
    1 ≤ month ∧ month ≤ 12 ∧ 1 ≤ doy - (153 * mp + 2) / 5 + 1 ∧
      doy - (153 * mp + 2) / 5 + 1 ≤ daysInMonth year month.toNat ∧
      (if month > 2 then month - 3 else month + 9) = mp := by
  subst hmonth
  by_cases hfeb : mp = 11
  · -- February has a 29th exactly in a leap year
    subst hfeb
    by_cases hl : isLeapYear year = true
    · simp [daysInMonth, hl]
      omega
    · have : doy ≠ 365 := fun h365 => hl (hleap h365)
      simp [daysInMonth, hl]
      omega
  · -- March to January have fixed lengths
    have hmp' : mp = 0 ∨ mp = 1 ∨ mp = 2 ∨ mp = 3 ∨ mp = 4 ∨ mp = 5 ∨ mp = 6 ∨ mp = 7 ∨
        mp = 8 ∨ mp = 9 ∨ mp = 10 := by omega
    rcases hmp' with rfl | rfl | rfl | rfl | rfl | rfl | rfl | rfl | rfl | rfl | rfl <;>
      simp [daysInMonth] <;> omega

/-- The place in the year, counted from March, of a day of a month; only the 29th of February of
a leap year is the 366th. -/
theorem dayOfMonth {year : Int} {month day : Nat} {shifted doy : Int}
    (hm : 1 ≤ month ∧ month ≤ 12) (hd : 1 ≤ day ∧ day ≤ daysInMonth year month)
    (hs : (if month > 2 then (month : Int) - 3 else (month : Int) + 9) = shifted)
    (hdoy : (153 * shifted + 2) / 5 + day - 1 = doy) :
    (0 ≤ doy ∧ doy ≤ 365) ∧ (doy = 365 → month = 2 ∧ isLeapYear year = true) ∧
      (5 * doy + 2) / 153 = shifted ∧ doy - (153 * shifted + 2) / 5 + 1 = day := by
  subst hs hdoy
  by_cases hfeb : month = 2
  · subst hfeb
    by_cases hl : isLeapYear year = true
    · simp [daysInMonth, hl] at hd
      simp [hl]
      omega
    · simp [daysInMonth, hl] at hd
      simp [hl]
      omega
  · have hm' : month = 1 ∨ month = 3 ∨ month = 4 ∨ month = 5 ∨ month = 6 ∨ month = 7 ∨
        month = 8 ∨ month = 9 ∨ month = 10 ∨ month = 11 ∨ month = 12 := by omega
    rcases hm' with rfl | rfl | rfl | rfl | rfl | rfl | rfl | rfl | rfl | rfl | rfl <;>
      simp [daysInMonth] at hd <;> simp <;> omega

/-- The date of a day number, read off the day's place in its era. -/
theorem ofDayNumber_of_split {n era C Q R doy : Int} (hC : 0 ≤ C ∧ C ≤ 3)
    (hQ : 0 ≤ Q ∧ Q ≤ 24) (hR : 0 ≤ R ∧ R ≤ 3) (hd : 0 ≤ doy ∧ doy ≤ 365)
    (hleap : doy = 365 → R = 3 ∧ (Q ≠ 24 ∨ C = 3))
    (hn : n + 719468 = era * 146097 + (36524 * C + 1461 * Q + 365 * R + doy))
    {mp month : Int} (hmp : (5 * doy + 2) / 153 = mp)
    (hmonth : (if mp < 10 then mp + 3 else mp - 9) = month) :
    ofDayNumber n = ⟨era * 400 + (100 * C + 4 * Q + R) + (if month ≤ 2 then 1 else 0),
      month.toNat, (doy - (153 * mp + 2) / 5 + 1).toNat⟩ := by
  have hdoy : 36524 * C + 1461 * Q + 365 * R + doy -
      (365 * (100 * C + 4 * Q + R) + (100 * C + 4 * Q + R) / 4 - (100 * C + 4 * Q + R) / 100) =
        doy := by
    obtain ⟨h4, h100⟩ := yearOfEra_div hQ hR
    rw [h4, h100]
    omega
  have hera : (n + 719468) / 146097 = era := by omega
  have hdoe : n + 719468 - era * 146097 = 36524 * C + 1461 * Q + 365 * R + doy := by omega
  have hyoe := yearOfEra_of_split hC hQ hR hd hleap
  simp only [ofDayNumber, hera, hdoe, hyoe, hdoy, hmp, hmonth]
  congr 1
  omega

/-- The day count of a date, from the place in its era of its year counted from March. -/
theorem dayNumber_of_split {d : Date} {era C Q R : Int} (hC : 0 ≤ C ∧ C ≤ 3)
    (hQ : 0 ≤ Q ∧ Q ≤ 24) (hR : 0 ≤ R ∧ R ≤ 3)
    (hy : (if d.month ≤ 2 then d.year - 1 else d.year) = era * 400 + (100 * C + 4 * Q + R)) :
    d.dayNumber + 719468 = era * 146097 + (36524 * C + 1461 * Q + 365 * R +
      ((153 * (if d.month > 2 then (d.month : Int) - 3 else (d.month : Int) + 9) + 2) / 5 +
        d.day - 1)) := by
  obtain ⟨h4, h100⟩ := yearOfEra_div hQ hR
  have hera : (era * 400 + (100 * C + 4 * Q + R)) / 400 = era := by omega
  simp only [dayNumber, hy, hera]
  have hyoe : era * 400 + (100 * C + 4 * Q + R) - era * 400 = 100 * C + 4 * Q + R := by omega
  rw [hyoe, h4, h100]
  omega

/-- Every day number names a proper date, and that date counts back to the same number. -/
theorem ofDayNumber_spec (n : Int) : (ofDayNumber n).Proper ∧ (ofDayNumber n).dayNumber = n := by
  have hlow : 0 ≤ (n + 719468) % 146097 := by omega
  obtain ⟨C, Q, R, doy, hC, hQ, hR, hd, hleap, hdoe⟩ := split_of_dayOfEra hlow (by omega)
  have hn : n + 719468 = (n + 719468) / 146097 * 146097 +
      (36524 * C + 1461 * Q + 365 * R + doy) := by omega
  generalize (n + 719468) / 146097 = era at hn
  generalize hmp : (5 * doy + 2) / 153 = mp
  generalize hmonth : (if mp < 10 then mp + 3 else mp - 9) = month
  rw [ofDayNumber_of_split hC hQ hR hd hleap hn hmp hmonth]
  -- January and February belong to the calendar year after the one their March began
  generalize hyear : era * 400 + (100 * C + 4 * Q + R) + (if month ≤ 2 then 1 else 0) = year
  have hfeb : doy = 365 → isLeapYear year = true := by
    intro h365
    have hm2 : month = 2 := by
      subst h365
      rw [← hmonth, ← hmp]
      decide
    rw [← hyear, if_pos (by omega)]
    exact (isLeapYear_split hC hQ hR).mpr (hleap h365)
  obtain ⟨h1, h12, hd1, hdim, hshift⟩ := monthOfDay hd hfeb hmp hmonth
  refine ⟨?_, ?_⟩
  · simp only [Proper]
    omega
  have hy : (if month.toNat ≤ 2 then year - 1 else year) = era * 400 + (100 * C + 4 * Q + R) := by
    rw [← hyear]
    split <;> split <;> omega
  have hcount := dayNumber_of_split
    (d := ⟨year, month.toNat, (doy - (153 * mp + 2) / 5 + 1).toNat⟩) hC hQ hR hy
  simp only at hcount
  have hshift' : (if month.toNat > 2 then ((month.toNat : Nat) : Int) - 3
      else ((month.toNat : Nat) : Int) + 9) = mp := by
    rw [← hshift]
    split <;> split <;> omega
  rw [hshift'] at hcount
  omega

/-- A proper date is the date of its own day number. -/
theorem ofDayNumber_dayNumber {d : Date} (hd : d.Proper) : ofDayNumber d.dayNumber = d := by
  obtain ⟨year, month, day⟩ := d
  obtain ⟨hm1, hm12, hd1, hdim⟩ : 1 ≤ month ∧ month ≤ 12 ∧ 1 ≤ day ∧
      day ≤ daysInMonth year month := hd
  -- the year counted from March, and its place in its era
  generalize hy : (if month ≤ 2 then year - 1 else year) = y
  obtain ⟨era, C, Q, R, hC, hQ, hR, hyera⟩ : ∃ era C Q R : Int, (0 ≤ C ∧ C ≤ 3) ∧
      (0 ≤ Q ∧ Q ≤ 24) ∧ (0 ≤ R ∧ R ≤ 3) ∧ y = era * 400 + (100 * C + 4 * Q + R) :=
    ⟨y / 400, y % 400 / 100, y % 100 / 4, y % 4, by omega⟩
  generalize hs : (if month > 2 then (month : Int) - 3 else (month : Int) + 9) = shifted
  generalize hdoy : (153 * shifted + 2) / 5 + (day : Int) - 1 = doy
  obtain ⟨hdrange, h365, hmp, hday⟩ := dayOfMonth ⟨hm1, hm12⟩ ⟨hd1, hdim⟩ hs hdoy
  have hleap : doy = 365 → R = 3 ∧ (Q ≠ 24 ∨ C = 3) := by
    intro h
    obtain ⟨rfl, hl⟩ := h365 h
    apply (isLeapYear_split hC hQ hR).mp
    rw [show era * 400 + (100 * C + 4 * Q + R) + 1 = year by simp at hy; omega]
    exact hl
  have hn := dayNumber_of_split (d := ⟨year, month, day⟩) hC hQ hR (hy.trans hyera)
  simp only [hs, hdoy] at hn
  generalize hmonth : (if shifted < 10 then shifted + 3 else shifted - 9) = month'
  rw [ofDayNumber_of_split hC hQ hR hdrange hleap hn hmp hmonth, hday]
  have hmonth' : month' = month := by
    subst hs hmonth
    split <;> split <;> omega
  subst hmonth'
  simp only [Date.mk.injEq, Int.toNat_natCast, and_true]
  split <;> split at hy <;> omega

/-- Days of one month are counted one after the other from its first. -/
theorem dayNumber_day (year : Int) (month day : Nat) :
    (⟨year, month, day⟩ : Date).dayNumber = (⟨year, month, 1⟩ : Date).dayNumber + day - 1 := by
  simp only [dayNumber]
  omega

/-- The next month starts as many days after a month's first day as that month has. -/
theorem dayNumber_nextMonthStart {year : Int} {month : Nat} (hm : 1 ≤ month ∧ month ≤ 12) :
    (nextMonthStart ⟨year, month, 1⟩).dayNumber =
      (⟨year, month, 1⟩ : Date).dayNumber + daysInMonth year month := by
  by_cases hfeb : month = 2
  · -- February closes the year counted from March, so March begins the next year of the era
    subst hfeb
    simp [nextMonthStart, dayNumber, daysInMonth, isLeapYear]
    split <;> omega
  · have hm' : month = 1 ∨ month = 3 ∨ month = 4 ∨ month = 5 ∨ month = 6 ∨ month = 7 ∨
        month = 8 ∨ month = 9 ∨ month = 10 ∨ month = 11 ∨ month = 12 := by omega
    rcases hm' with rfl | rfl | rfl | rfl | rfl | rfl | rfl | rfl | rfl | rfl | rfl <;>
      simp [nextMonthStart, dayNumber, daysInMonth] <;> omega

/-- The day numbers of a month run from its first day up to, not including, the first day of
the next month. -/
theorem ofDayNumber_month_iff {year : Int} {month : Nat} (hm : 1 ≤ month ∧ month ≤ 12) (n : Int) :
    ((ofDayNumber n).year = year ∧ (ofDayNumber n).month = month) ↔
      (⟨year, month, 1⟩ : Date).dayNumber ≤ n ∧ n < (nextMonthStart ⟨year, month, 1⟩).dayNumber := by
  rw [dayNumber_nextMonthStart hm]
  constructor
  · rintro ⟨hy, hmonth⟩
    obtain ⟨⟨-, -, hd1, hdim⟩, hn⟩ := ofDayNumber_spec n
    generalize ofDayNumber n = d at *
    obtain ⟨y, m, day⟩ := d
    dsimp only at hy hmonth hd1 hdim
    subst hy hmonth
    have hcount := dayNumber_day y m day
    omega
  · rintro ⟨hlo, hhi⟩
    -- the day of the month that `n` counts to is proper, so it is the date of `n`
    have hproper :
        (⟨year, month, (n - (⟨year, month, 1⟩ : Date).dayNumber).toNat + 1⟩ : Date).Proper :=
      ⟨hm.1, hm.2, by dsimp only; omega, by dsimp only; omega⟩
    have hcount := dayNumber_day year month ((n - (⟨year, month, 1⟩ : Date).dayNumber).toNat + 1)
    rw [show n = (⟨year, month, (n - (⟨year, month, 1⟩ : Date).dayNumber).toNat + 1⟩ :
      Date).dayNumber by omega, ofDayNumber_dayNumber hproper]
    exact ⟨rfl, rfl⟩

end Date

namespace Instant

theorem atMidnight_le_iff (d : Date) (x : Instant) :
    atMidnight d ≤ x ↔ d.dayNumber ≤ x.secs / 86400 := by
  show ¬ (x.secs < d.dayNumber * 86400 ∨ (x.secs = d.dayNumber * 86400 ∧ x.nanos < 0)) ↔ _
  omega

theorem lt_atMidnight_iff (d : Date) (x : Instant) :
    x < atMidnight d ↔ x.secs / 86400 < d.dayNumber := by
  show (x.secs < d.dayNumber * 86400 ∨ (x.secs = d.dayNumber * 86400 ∧ x.nanos < 0)) ↔ _
  omega

/-- When a month and the next begin within the supported years, the month's bounds are the
midnights that begin them. -/
theorem monthBounds_eq {t : Instant} (hstart : t.date.monthStart.isValid = true)
    (hnext : t.date.nextMonthStart.isValid = true) :
    monthBounds t = (atMidnight t.date.monthStart, atMidnight t.date.nextMonthStart) := by
  unfold monthBounds monthStart?
  unfold Date.monthStart at hstart ⊢
  unfold Date.nextMonthStart at hnext ⊢
  split <;> simp_all

/-- The month window of a moment holds exactly the moments of the same UTC calendar month, when
that month and the next begin within the supported years. -/
theorem mem_monthBounds_iff {t : Instant} (hstart : t.date.monthStart.isValid = true)
    (hnext : t.date.nextMonthStart.isValid = true) (x : Instant) :
    ((monthBounds t).1 ≤ x ∧ x < (monthBounds t).2) ↔
      x.date.year = t.date.year ∧ x.date.month = t.date.month := by
  obtain ⟨⟨hm1, hm12, -, -⟩, -⟩ := Date.ofDayNumber_spec (t.secs / 86400)
  rw [monthBounds_eq hstart hnext, atMidnight_le_iff, lt_atMidnight_iff]
  exact (Date.ofDayNumber_month_iff ⟨hm1, hm12⟩ (x.secs / 86400)).symm

/-- Two moments of one calendar month share its window. -/
theorem monthBounds_of_sameMonth {t x : Instant} (hstart : t.date.monthStart.isValid = true)
    (hnext : t.date.nextMonthStart.isValid = true)
    (hx : x.date.year = t.date.year ∧ x.date.month = t.date.month) :
    monthBounds x = monthBounds t := by
  have hs : x.date.monthStart = t.date.monthStart := by simp [Date.monthStart, hx.1, hx.2]
  have hn : x.date.nextMonthStart = t.date.nextMonthStart := by
    simp [Date.nextMonthStart, hx.1, hx.2]
  rw [monthBounds_eq (by rw [hs]; exact hstart) (by rw [hn]; exact hnext),
    monthBounds_eq hstart hnext, hs, hn]

end Instant

end Waybill
