import Mathlib
import LineShell.Calendar

/-!
# Places in years that start in March

A day stands at a place of an era, and the number of the place is the count of days from
which its date is found again.  The next place has the next number and the next date of
the Gregorian calendar, so that every number has its place.
-/

namespace LineShell
namespace Date

def IsLeap (year : Nat) : Prop :=
  year % 4 = 0 ∧ (year % 100 ≠ 0 ∨ year % 400 = 0)

instance (year : Nat) : Decidable (IsLeap year) := by
  unfold IsLeap
  infer_instance

def monthLength (year month : Nat) : Nat :=
  if month = 2 then if IsLeap year then 29 else 28
  else if month = 4 ∨ month = 6 ∨ month = 9 ∨ month = 11 then 30 else 31

/-- A day that there is in the Gregorian calendar. -/
structure IsValid (d : Date) : Prop where
  month_pos : 1 ≤ d.month
  month_le : d.month ≤ 12
  day_pos : 1 ≤ d.day
  day_le : d.day ≤ monthLength d.year d.month

/-- The day after. -/
def next (d : Date) : Date :=
  if d.day < monthLength d.year d.month then { d with day := d.day + 1 }
  else if d.month < 12 then ⟨d.year, d.month + 1, 1⟩
  else ⟨d.year + 1, 1, 1⟩

/-- A place in an era of four centuries: its year, which starts in March, its month and
its day, all counted from zero. -/
structure Place where
  era : Nat
  year : Nat
  month : Nat
  day : Nat

namespace Place

def dayOfYear (p : Place) : Nat :=
  daysOfMonths p.month + p.day

/-- The days from the first of March of the year zero. -/
def number (p : Place) : Nat :=
  p.era * daysPerEra + (daysOfYears p.year + p.dayOfYear)

def date (p : Place) : Date :=
  let month := if p.month < 10 then p.month + 3 else p.month - 9
  { year := p.year + p.era * 400 + (if month ≤ 2 then 1 else 0)
    month := month
    day := p.day + 1 }

/-- The days of a month, February being the last one. -/
def lengthOf (year month : Nat) : Nat :=
  if month = 11 then if IsLeap (year + 1) then 29 else 28
  else daysOfMonths (month + 1) - daysOfMonths month

structure IsProper (p : Place) : Prop where
  year : p.year < 400
  month : p.month < 12
  day : p.day < lengthOf p.year p.month

theorem isLeap_add_eras (year era : Nat) : IsLeap (year + era * 400) ↔ IsLeap year := by
  unfold IsLeap
  omega

theorem monthLength_date {p : Place} (h : p.month < 12) :
    monthLength p.date.year p.date.month = lengthOf p.year p.month := by
  obtain ⟨era, year, month, day⟩ := p
  simp only at h
  interval_cases month
  case «11» =>
    have hleap : IsLeap (year + era * 400 + 1) ↔ IsLeap (year + 1) := by
      rw [Nat.add_right_comm, isLeap_add_eras]
    simp [date, monthLength, lengthOf, hleap]
  all_goals simp [date, monthLength, lengthOf, daysOfMonths]

theorem lengthOf_pos (year : Nat) (month : Nat) : 0 < lengthOf year month := by
  unfold lengthOf daysOfMonths
  split_ifs <;> omega

theorem daysOfMonths_add_lengthOf (year : Nat) {month : Nat} (h : month < 11) :
    daysOfMonths month + lengthOf year month = daysOfMonths (month + 1) := by
  unfold lengthOf daysOfMonths
  rw [if_neg h.ne]
  omega

theorem daysOfMonths_add_february (year : Nat) :
    daysOfMonths 11 + lengthOf year 11 = 365 + if IsLeap (year + 1) then 1 else 0 := by
  unfold lengthOf daysOfMonths
  split_ifs <;> omega

theorem daysOfYears_succ {year : Nat} (h : year < 399) :
    daysOfYears (year + 1) = daysOfYears year + 365 + if IsLeap (year + 1) then 1 else 0 := by
  by_cases hleap : IsLeap (year + 1)
  · rw [if_pos hleap]
    unfold IsLeap at hleap
    unfold daysOfYears
    omega
  · rw [if_neg hleap]
    unfold IsLeap at hleap
    unfold daysOfYears
    omega

/-- A proper place stands in its month and in its year. -/
theorem IsProper.bounds {p : Place} (h : p.IsProper) :
    monthOfDay p.dayOfYear = p.month ∧
      (p.dayOfYear < 365 ∨ p.dayOfYear = 365 ∧ IsLeap (p.year + 1)) := by
  have hday := h.day
  rcases Nat.lt_or_ge p.month 11 with hmonth | hmonth
  · have hlength := daysOfMonths_add_lengthOf p.year hmonth
    unfold dayOfYear monthOfDay
    unfold daysOfMonths at *
    omega
  · have hlast : p.month = 11 := by
      have := h.month
      omega
    have hlength := daysOfMonths_add_february p.year
    rw [hlast] at hday
    unfold dayOfYear monthOfDay
    rw [hlast]
    unfold daysOfMonths at *
    split_ifs at hlength with hleap
    · simp only [hleap, and_true]
      omega
    · omega

end Place

/-- The year of an era is found from the century, the four years in it and the year of
these. -/
theorem yearOfEra_parts {century four year day : Nat} (hcentury : century < 4) (hfour : four < 25)
    (hyear : year < 4) (hday : day < 365 ∨ day = 365 ∧ year = 3 ∧ (four < 24 ∨ century = 3)) :
    yearOfEra (36524 * century + 1461 * four + 365 * year + day) =
      100 * century + 4 * four + year := by
  have hcenturies : (36524 * century + 1461 * four + 365 * year + day) / 36524 =
      century + (36524 * century + 1461 * four + 365 * year + day) / 146096 := by
    have hrest : 1461 * four + 365 * year + day < 36524 ∨
        1461 * four + 365 * year + day = 36524 ∧ century = 3 := by omega
    rw [Nat.add_assoc, Nat.add_assoc, ← Nat.add_assoc (1461 * four)]
    generalize 1461 * four + 365 * year + day = rest at hrest
    interval_cases century <;> omega
  -- A leap day is lost to the quotient by 1460 at most once, and late in the last year.
  obtain ⟨lost, hlost⟩ : ∃ lost, lost = (24 * century + four + 365 * year + day) / 1460 :=
    ⟨_, rfl⟩
  have hfours : (36524 * century + 1461 * four + 365 * year + day) / 1460 =
      25 * century + four + lost := by
    omega
  have hday' : lost ≤ day ∧ day - lost < 365 := by
    interval_cases year <;> omega
  rw [yearOfEra, hfours, hcenturies]
  omega

theorem yearOfEra_daysOfYears {year day : Nat} (hyear : year < 400)
    (hday : day < 365 ∨ day = 365 ∧ IsLeap (year + 1)) :
    yearOfEra (daysOfYears year + day) = year := by
  have hparts : daysOfYears year + day =
      36524 * (year / 100) + 1461 * (year % 100 / 4) + 365 * (year % 4) + day := by
    unfold daysOfYears
    omega
  have hlast : day < 365 ∨ day = 365 ∧ year % 4 = 3 ∧ (year % 100 / 4 < 24 ∨ year / 100 = 3) := by
    unfold IsLeap at hday
    omega
  rw [hparts, yearOfEra_parts (by omega) (by omega) (by omega) hlast]
  omega

namespace Place

theorem IsProper.dayOfEra_lt {p : Place} (h : p.IsProper) :
    daysOfYears p.year + p.dayOfYear < daysPerEra := by
  have hyear := h.year
  have hday := h.bounds.2
  unfold daysOfYears daysPerEra
  omega

variable {p : Place} {days : Nat}

theorem IsProper.era_eq (h : p.IsProper) : p.number / daysPerEra = p.era := by
  have hday := h.dayOfEra_lt
  unfold number
  rw [Nat.mul_comm, Nat.mul_add_div (by decide), Nat.div_eq_of_lt hday, Nat.add_zero]

theorem number_sub_era (p : Place) :
    p.number - p.era * daysPerEra = daysOfYears p.year + p.dayOfYear := by
  rw [number, Nat.add_sub_cancel_left]

theorem IsProper.year_eq (h : p.IsProper) :
    yearOfEra (daysOfYears p.year + p.dayOfYear) = p.year :=
  yearOfEra_daysOfYears h.year h.bounds.2

theorem IsProper.ofEpochDays_eq (h : p.IsProper) (hdays : days + epochShift = p.number) :
    ofEpochDays days = p.date := by
  unfold ofEpochDays
  simp only [hdays, h.era_eq, number_sub_era, h.year_eq, Nat.add_sub_cancel_left,
    h.bounds.1]
  simp [date, dayOfYear]

/-- The place of the next day. -/
def succ (p : Place) : Place :=
  if p.day + 1 < lengthOf p.year p.month then { p with day := p.day + 1 }
  else if p.month < 11 then { p with month := p.month + 1, day := 0 }
  else if p.year < 399 then { p with year := p.year + 1, month := 0, day := 0 }
  else ⟨p.era + 1, 0, 0, 0⟩

theorem IsProper.succ (h : p.IsProper) : p.succ.IsProper := by
  obtain ⟨hyear, hmonth, -⟩ := h
  unfold Place.succ
  split_ifs with hday hnext hlast
  · exact ⟨hyear, hmonth, hday⟩
  · exact ⟨hyear, Nat.succ_lt_succ hnext, lengthOf_pos _ _⟩
  · exact ⟨Nat.succ_lt_succ hlast, Nat.zero_lt_succ 11, lengthOf_pos _ _⟩
  · exact ⟨Nat.zero_lt_succ 399, Nat.zero_lt_succ 11, lengthOf_pos _ _⟩

theorem IsProper.number_succ (h : p.IsProper) : p.succ.number = p.number + 1 := by
  obtain ⟨hyear, hmonth, hday⟩ := h
  unfold Place.succ
  split_ifs with hin hnext hlast
  · simp only [number, dayOfYear]
    omega
  · have hlength := daysOfMonths_add_lengthOf p.year hnext
    simp only [number, dayOfYear]
    omega
  · obtain hfebruary : p.month = 11 := by omega
    have hlength := daysOfMonths_add_february p.year
    have hyears := daysOfYears_succ hlast
    have hstart : daysOfMonths 0 = 0 := rfl
    rw [hfebruary] at hday hin
    simp only [number, dayOfYear, hfebruary, hyears, hstart]
    omega
  · obtain hfebruary : p.month = 11 := by omega
    obtain hcentury : p.year = 399 := by omega
    have hlength : lengthOf 399 11 = 29 := by decide
    have hdays : daysOfYears 399 + daysOfMonths 11 + 29 = daysPerEra := by decide
    have hstart : daysOfYears 0 + daysOfMonths 0 = 0 := by decide
    rw [hfebruary, hcentury, hlength] at hday hin
    simp only [number, dayOfYear, hfebruary, hcentury, Nat.add_mul, Nat.one_mul]
    omega

theorem IsProper.date_succ (h : p.IsProper) : p.succ.date = p.date.next := by
  have hlength := monthLength_date h.month
  obtain ⟨hyear, hmonth, hday⟩ := h
  unfold Place.succ next
  rw [hlength]
  obtain ⟨era, year, month, day⟩ := p
  simp only at hyear hmonth hday
  by_cases hin : day + 1 < lengthOf year month
  · simp [date, hin]
  · rcases Nat.lt_or_ge month 11 with hnext | hlast
    · -- The years of the calendar change within these years, after the tenth month.
      simp only [date, hin, hnext, if_false, if_true]
      rcases Nat.lt_trichotomy month 9 with hbefore | rfl | hafter
      · simp [show month < 10 by omega, show month + 1 < 10 by omega, show month + 3 < 12 by omega]
      · simp
      · obtain rfl : month = 10 := by omega
        simp
    · obtain rfl : month = 11 := by omega
      rcases Nat.lt_or_ge year 399 with hyears | hyears
      · have hnew : year + 1 + era * 400 = year + era * 400 + 1 := by omega
        simp [date, hin, hyears, hnew]
      · obtain rfl : year = 399 := by omega
        have hnew : (era + 1) * 400 = 399 + era * 400 + 1 := by omega
        simp [date, hin, hnew]

/-- Every number has its place. -/
theorem exists_isProper (n : Nat) : ∃ p : Place, p.IsProper ∧ p.number = n := by
  induction n with
  | zero => exact ⟨⟨0, 0, 0, 0⟩, ⟨by simp, by simp, lengthOf_pos 0 0⟩, by decide⟩
  | succ n ih =>
      obtain ⟨p, hp, hnumber⟩ := ih
      exact ⟨p.succ, hp.succ, by rw [hp.number_succ, hnumber]⟩

theorem IsProper.isValid_date (h : p.IsProper) : p.date.IsValid := by
  have hlength := monthLength_date h.month
  have hmonth := h.month
  refine ⟨?_, ?_, Nat.succ_pos _, ?_⟩
  · simp only [date]
    split_ifs <;> omega
  · simp only [date]
    split_ifs <;> omega
  · rw [hlength]
    exact h.day

end Place

end Date
end LineShell
