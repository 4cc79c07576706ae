import Mathlib
import ProtoSchema.Time.Date

/-!
# The Gregorian calendar

Which dates there are, and how many days lie before a date, counted year by year and month by month.
The date of a day is a date of the calendar with as many days before it.
-/

namespace ProtoSchema.Date

/-! ## 1. Years and months -/

/-- Every fourth year is a leap year, except every hundredth, except every four hundredth. -/
def IsLeap (year : Nat) : Prop := year % 4 = 0 ∧ (year % 100 ≠ 0 ∨ year % 400 = 0)

instance (year : Nat) : Decidable (IsLeap year) := inferInstanceAs (Decidable (_ ∧ _))

def daysInYear (year : Nat) : Nat := if IsLeap year then 366 else 365

def daysInMonth (year month : Nat) : Nat :=
  if month = 2 then (if IsLeap year then 29 else 28)
  else if month ∈ [4, 6, 9, 11] then 30
  else 31

/-- The date is one of the calendar. -/
structure Real (d : Date) : Prop where
  month : 1 ≤ d.month ∧ d.month ≤ 12
  day : 1 ≤ d.day ∧ d.day ≤ daysInMonth d.year d.month

/-- The days from 1 January of a year to the first day of a month. -/
def daysBeforeMonth (year month : Nat) : Nat := ∑ m ∈ Finset.Ico 1 month, daysInMonth year m

/-- The days from 1 January of the year 0 to 1 January of a year. -/
def daysBefore (year : Nat) : Nat := ∑ y ∈ Finset.range year, daysInYear y

/-- The days from 1 January of the year 0 to a date. -/
def dayNumber (d : Date) : Nat := daysBefore d.year + daysBeforeMonth d.year d.month + (d.day - 1)

theorem daysInYear_of_leap {year : Nat} (h : IsLeap year) : daysInYear year = 366 := if_pos h

theorem daysInYear_of_not_leap {year : Nat} (h : ¬ IsLeap year) : daysInYear year = 365 := if_neg h

theorem daysBefore_succ (year : Nat) : daysBefore (year + 1) = daysBefore year + daysInYear year :=
  Finset.sum_range_succ daysInYear year

/-- The leap years before a year are every fourth, without every hundredth, with every four
hundredth, the year 0 among them. -/
theorem daysBefore_eq (year : Nat) :
    daysBefore year + (year + 99) / 100 = 365 * year + (year + 3) / 4 + (year + 399) / 400 := by
  induction year with
  | zero => simp [daysBefore]
  | succ year ih =>
    rw [daysBefore_succ]
    by_cases hleap : IsLeap year
    · rw [daysInYear_of_leap hleap]
      unfold IsLeap at hleap
      omega
    · rw [daysInYear_of_not_leap hleap]
      unfold IsLeap at hleap
      omega

theorem daysBeforeMonth_succ {year month : Nat} (h : 1 ≤ month) :
    daysBeforeMonth year (month + 1) = daysBeforeMonth year month + daysInMonth year month :=
  Finset.sum_Ico_succ_top h _

/-- The months from March on have 153 days in every five. -/
theorem daysInMonth_from_march (year : Nat) : ∀ m < 10,
    (153 * m + 2) / 5 + daysInMonth year (m + 3) = (153 * (m + 1) + 2) / 5 := by
  intro m hm
  interval_cases m <;> rfl

theorem daysBeforeMonth_from_march (year : Nat) {m : Nat} (h : m ≤ 10) :
    daysBeforeMonth year (m + 3) = daysBeforeMonth year 3 + (153 * m + 2) / 5 := by
  induction m with
  | zero => rfl
  | succ m ih =>
    have hmonth := daysInMonth_from_march year m (by omega)
    show daysBeforeMonth year (m + 3 + 1) = _
    rw [daysBeforeMonth_succ (by omega), ih (by omega)]
    omega

theorem daysInMonth_le (year month : Nat) : daysInMonth year month ≤ 31 := by
  unfold daysInMonth
  split
  · split <;> omega
  · split <;> omega

theorem daysBeforeMonth_february (year : Nat) : daysBeforeMonth year 2 = 31 := by
  rw [daysBeforeMonth_succ (by omega)]
  rfl

theorem daysBeforeMonth_march (year : Nat) : daysBeforeMonth year 3 + 306 = daysInYear year := by
  rw [daysBeforeMonth_succ (by omega), daysBeforeMonth_february]
  show 31 + (if IsLeap year then 29 else 28) + 306 = daysInYear year
  by_cases hleap : IsLeap year
  · rw [daysInYear_of_leap hleap, if_pos hleap]
  · rw [daysInYear_of_not_leap hleap, if_neg hleap]

/-- The months make up the year. -/
theorem daysBeforeMonth_end (year : Nat) : daysBeforeMonth year 13 = daysInYear year := by
  rw [← daysBeforeMonth_march year]
  exact daysBeforeMonth_from_march year (by omega : 10 ≤ 10)

/-- A date lies within its year. -/
theorem Real.dayNumber_bounds {d : Date} (h : d.Real) :
    daysBefore d.year ≤ dayNumber d ∧ dayNumber d < daysBefore (d.year + 1) := by
  have hmonth := h.month
  have hday := h.day
  have hsum : daysBeforeMonth d.year (d.month + 1) ≤ daysBeforeMonth d.year 13 :=
    Finset.sum_le_sum_of_subset (Finset.Ico_subset_Ico_right (by omega))
  rw [daysBeforeMonth_succ hmonth.1, daysBeforeMonth_end] at hsum
  rw [daysBefore_succ]
  unfold dayNumber
  omega

theorem daysBefore_mono : Monotone daysBefore := by
  apply monotone_nat_of_le_succ
  intro year
  rw [daysBefore_succ]
  omega

/-! ## 2. Years that start in March -/

/-- A day of an era lies in a century, in four years of that, and in a year of these.  The fourth
year may be longer by a day, though not at the end of a century, except the last. -/
theorem exists_year_of_day {day : Nat} (h : day < daysPerEra) : ∃ q r s t,
    q < 4 ∧ r < 25 ∧ s < 4 ∧ t ≤ 365 ∧ (t = 365 → s = 3 ∧ (r = 24 → q = 3)) ∧
      day = 36524 * q + 1461 * r + 365 * s + t := by
  have hday : day < 146097 := h
  let q := min (day / 36524) 3
  let inCentury := day - 36524 * q
  let r := inCentury / 1461
  let inFour := inCentury - 1461 * r
  let s := min (inFour / 365) 3
  have hq : q < 4 ∧ 36524 * q ≤ day ∧ inCentury ≤ 36524 ∧ (inCentury = 36524 → q = 3) := by omega
  have hr : r < 25 ∧ inFour ≤ 1460 := by omega
  have hs : s < 4 ∧ 365 * s ≤ inFour ∧ inFour - 365 * s ≤ 365 := by omega
  refine ⟨q, r, s, inFour - 365 * s, hq.1, hr.1, hs.1, hs.2.2, ?_, by omega⟩
  intro hlong
  refine ⟨by omega, fun hlast => ?_⟩
  -- The last day of a long century.
  apply hq.2.2.2
  omega

/-- A day lies within its year, which is as long as the calendar year that it ends in. -/
theorem yearOfEra_spec {day : Nat} (h : day < daysPerEra) :
    yearOfEra day < 400 ∧ daysBeforeYear (yearOfEra day) ≤ day ∧
      day < daysBeforeYear (yearOfEra day) + daysInYear (yearOfEra day + 1) := by
  obtain ⟨q, r, s, t, hq, hr, hs, ht, hlong, rfl⟩ := exists_year_of_day h
  have hyear : yearOfEra (36524 * q + 1461 * r + 365 * s + t) = 100 * q + 4 * r + s := by
    unfold yearOfEra
    have hfours : (36524 * q + 1461 * r + 365 * s + t) / 1460 =
        25 * q + r + (24 * q + r + 365 * s + t) / 1460 := by omega
    have hcenturies : (36524 * q + 1461 * r + 365 * s + t) / 36524 =
        q + (1461 * r + 365 * s + t) / 36524 := by omega
    -- Only the last day of an era is past a fourth whole century.
    have hera : (36524 * q + 1461 * r + 365 * s + t) / 146096 =
        (1461 * r + 365 * s + t) / 36524 := by omega
    have hleap : (24 * q + r + 365 * s + t) / 1460 ≤ t ∧
        t < 365 + (24 * q + r + 365 * s + t) / 1460 := by omega
    rw [hfours, hcenturies, hera]
    generalize (24 * q + r + 365 * s + t) / 1460 = late at hleap
    generalize (1461 * r + 365 * s + t) / 36524 = last
    have hdays : 36524 * q + 1461 * r + 365 * s + t - (25 * q + r + late) + (q + last) - last =
        365 * (100 * q + 4 * r + s) + (t - late) := by omega
    rw [hdays, Nat.mul_add_div (by decide), Nat.div_eq_of_lt (by omega), Nat.add_zero]
  have hbefore : daysBeforeYear (100 * q + 4 * r + s) = 36524 * q + 1461 * r + 365 * s := by
    unfold daysBeforeYear
    omega
  have hlength : t < daysInYear (100 * q + 4 * r + s + 1) := by
    by_cases hleap : IsLeap (100 * q + 4 * r + s + 1)
    · rw [daysInYear_of_leap hleap]
      omega
    · rw [daysInYear_of_not_leap hleap]
      unfold IsLeap at hleap
      omega
  rw [hyear, hbefore]
  omega

/-- The years of an era are those of the calendar, with the first of March for the first of
January. -/
theorem daysBefore_era (era : Nat) {year : Nat} (h : year < 400) :
    daysBefore (era * 400 + year + 1) = 366 + daysPerEra * era + daysBeforeYear year := by
  have hdays := daysBefore_eq (era * 400 + year + 1)
  unfold daysBeforeYear daysPerEra
  omega

theorem isLeap_era (era year : Nat) : IsLeap (era * 400 + year + 1) ↔ IsLeap (year + 1) := by
  unfold IsLeap
  omega

theorem daysInYear_era (era year : Nat) :
    daysInYear (era * 400 + year + 1) = daysInYear (year + 1) := by
  by_cases hleap : IsLeap (year + 1)
  · rw [daysInYear_of_leap hleap, daysInYear_of_leap ((isLeap_era era year).2 hleap)]
  · rw [daysInYear_of_not_leap hleap,
      daysInYear_of_not_leap fun h => hleap ((isLeap_era era year).1 h)]

theorem monthOfYear_spec {day : Nat} (h : day < 366) :
    (5 * day + 2) / 153 < 12 ∧ (153 * ((5 * day + 2) / 153) + 2) / 5 ≤ day ∧
      day < (153 * ((5 * day + 2) / 153 + 1) + 2) / 5 := by
  omega

/-! ## 3. The date of a day -/

/-- The date of a day of a year that starts in March. -/
def ofDayOfYear (year day : Nat) : Date :=
  let m := (5 * day + 2) / 153
  let month := if m < 10 then m + 3 else m - 9
  ⟨if month ≤ 2 then year + 1 else year, month, day - (153 * m + 2) / 5 + 1⟩

theorem ofDays_eq (n : Nat) : ofDays n =
    ofDayOfYear (n / daysPerEra * 400 + yearOfEra (n % daysPerEra))
      (n % daysPerEra - daysBeforeYear (yearOfEra (n % daysPerEra))) := rfl

/-- From March on, the year is over on the last day of February of the next one. -/
theorem ofDayOfYear_spec {year day : Nat} (h : day < daysInYear (year + 1)) :
    (ofDayOfYear year day).Real ∧
      dayNumber (ofDayOfYear year day) + 306 = daysBefore (year + 1) + day := by
  have hmost : daysInYear (year + 1) ≤ 366 := by
    unfold daysInYear
    split <;> omega
  obtain ⟨hm, hfirst, hlast⟩ := monthOfYear_spec (by omega : day < 366)
  have hfeb := daysBeforeMonth_march (year + 1)
  rw [daysBeforeMonth_succ (by omega), daysBeforeMonth_february] at hfeb
  unfold ofDayOfYear
  generalize (5 * day + 2) / 153 = m at hm hfirst hlast
  by_cases hten : m < 10
  · -- A month of the year that started in March.
    have hlength := daysInMonth_from_march year m hten
    have hstart := daysBeforeMonth_from_march year (by omega : m ≤ 10)
    have hmarch := daysBeforeMonth_march year
    have hyear := daysBefore_succ year
    simp only [if_pos hten, if_neg (by omega : ¬ m + 3 ≤ 2)]
    refine ⟨⟨⟨Nat.le_add_left _ _, ?_⟩, Nat.le_add_left _ _, ?_⟩, ?_⟩
    · show m + 3 ≤ 12
      omega
    · show day - (153 * m + 2) / 5 + 1 ≤ daysInMonth year (m + 3)
      omega
    · show daysBefore year + daysBeforeMonth year (m + 3) +
        (day - (153 * m + 2) / 5 + 1 - 1) + 306 = daysBefore (year + 1) + day
      omega
  · -- January or February of the next year.
    have hmonth : m - 9 = 1 ∧ m = 10 ∨ m - 9 = 2 ∧ m = 11 := by omega
    simp only [if_neg hten, if_pos (by omega : m - 9 ≤ 2)]
    refine ⟨⟨⟨?_, ?_⟩, Nat.le_add_left _ _, ?_⟩, ?_⟩
    · show 1 ≤ m - 9
      omega
    · show m - 9 ≤ 12
      omega
    · show day - (153 * m + 2) / 5 + 1 ≤ daysInMonth (year + 1) (m - 9)
      rcases hmonth with ⟨h, hm⟩ | ⟨h, hm⟩
      · have hjanuary : daysInMonth (year + 1) 1 = 31 := rfl
        rw [h]
        omega
      · rw [h]
        omega
    · show daysBefore (year + 1) + daysBeforeMonth (year + 1) (m - 9) +
        (day - (153 * m + 2) / 5 + 1 - 1) + 306 = daysBefore (year + 1) + day
      rcases hmonth with ⟨h, hm⟩ | ⟨h, hm⟩
      · have hjanuary : daysBeforeMonth (year + 1) 1 = 0 := rfl
        rw [h]
        omega
      · rw [h, daysBeforeMonth_february]
        omega

/-- The date of a day is a date of the calendar, and as many days lie before it, the 60 days of
January and February of the year 0 among them. -/
theorem ofDays_spec (n : Nat) : (ofDays n).Real ∧ dayNumber (ofDays n) = n + 60 := by
  have hera : n % daysPerEra < daysPerEra := Nat.mod_lt _ (by decide)
  obtain ⟨hyear, hstart, hend⟩ := yearOfEra_spec hera
  have hsplit : daysPerEra * (n / daysPerEra) + n % daysPerEra = n := Nat.div_add_mod _ _
  have hbefore := daysBefore_era (n / daysPerEra) hyear
  have hday : n % daysPerEra - daysBeforeYear (yearOfEra (n % daysPerEra)) <
      daysInYear (n / daysPerEra * 400 + yearOfEra (n % daysPerEra) + 1) := by
    rw [daysInYear_era]
    omega
  obtain ⟨hreal, hnumber⟩ := ofDayOfYear_spec hday
  rw [ofDays_eq]
  exact ⟨hreal, by omega⟩

end ProtoSchema.Date
