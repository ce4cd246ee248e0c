import Mathlib
import LineShell.Proofs.Calendar.Place

/-!
# The dates follow the Gregorian calendar

Dates are counted day by day from the first of January 1970, each the successor of the
one before it.  In words of 64 bits the count comes out the same: no sum or product is
too large for a word, and nothing is taken from less.
-/

namespace LineShell
namespace Date

theorem isValid_ofEpochDays (days : Nat) : (ofEpochDays days).IsValid := by
  obtain ⟨p, hp, hnumber⟩ := Place.exists_isProper (days + epochShift)
  rw [hp.ofEpochDays_eq hnumber.symm]
  exact hp.isValid_date

theorem ofEpochDays_succ (days : Nat) : ofEpochDays (days + 1) = (ofEpochDays days).next := by
  obtain ⟨p, hp, hnumber⟩ := Place.exists_isProper (days + epochShift)
  have hsucc : days + 1 + epochShift = p.succ.number := by
    rw [hp.number_succ, hnumber, Nat.add_right_comm]
  rw [hp.ofEpochDays_eq hnumber.symm, hp.succ.ofEpochDays_eq hsucc, hp.date_succ]

theorem ofEpochDays_zero : ofEpochDays 0 = ⟨1970, 1, 1⟩ := by decide

theorem ofEpochDays_eq_iterate (days : Nat) : ofEpochDays days = next^[days] ⟨1970, 1, 1⟩ := by
  induction days with
  | zero => exact ofEpochDays_zero
  | succ days ih => rw [ofEpochDays_succ, ih, Function.iterate_succ_apply']

/-- Dates are ordered by year, in a year by month, and in a month by day. -/
def key (d : Date) : ℕ ×ₗ ℕ ×ₗ ℕ :=
  toLex (d.year, toLex (d.month, d.day))

theorem key_lt_key_next (d : Date) : d.key < d.next.key := by
  unfold next
  split_ifs <;> simp [key, Prod.Lex.toLex_lt_toLex]

theorem strictMono_key_ofEpochDays : StrictMono fun days ↦ (ofEpochDays days).key := by
  apply strictMono_nat_of_lt_succ
  intro days
  rw [ofEpochDays_succ]
  exact key_lt_key_next _

/-! ## The same count in words -/

def add? (a b : Nat) : Option Nat :=
  if a + b < Text.indexLimit then some (a + b) else none

def mul? (a b : Nat) : Option Nat :=
  if a * b < Text.indexLimit then some (a * b) else none

def sub? (a b : Nat) : Option Nat :=
  if b ≤ a then some (a - b) else none

def yearOfEra? (day : Nat) : Option Nat := do
  let rest ← sub? (← add? (← sub? day (day / 1460)) (day / 36524)) (day / 146096)
  some (rest / 365)

def daysOfYears? (years : Nat) : Option Nat := do
  sub? (← add? (← mul? 365 years) (years / 4)) (years / 100)

def monthOfDay? (day : Nat) : Option Nat := do
  some ((← add? (← mul? 5 day) 2) / 153)

def daysOfMonths? (months : Nat) : Option Nat := do
  some ((← add? (← mul? 153 months) 2) / 5)

def place? (days : Nat) : Option Place := do
  let shifted ← add? days epochShift
  let dayOfEra ← sub? shifted (← mul? (shifted / daysPerEra) daysPerEra)
  let year ← yearOfEra? dayOfEra
  let dayOfYear ← sub? dayOfEra (← daysOfYears? year)
  let month ← monthOfDay? dayOfYear
  let day ← sub? dayOfYear (← daysOfMonths? month)
  some ⟨shifted / daysPerEra, year, month, day⟩

def Place.month? (p : Place) : Option Nat :=
  if p.month < 10 then add? p.month 3 else sub? p.month 9

def Place.date? (p : Place) : Option Date := do
  let start ← add? p.year (← mul? p.era 400)
  let month ← p.month?
  let year ← add? start (if month ≤ 2 then 1 else 0)
  some ⟨year, month, ← add? p.day 1⟩

/-- The date, found in words: none if a sum or product is too large for a word, or if more
is to be taken away than there is. -/
def ofEpochDays? (days : Nat) : Option Date := do
  (← place? days).date?

theorem add?_eq {a b : Nat} (h : a + b < Text.indexLimit) : add? a b = some (a + b) :=
  if_pos h

theorem mul?_eq {a b : Nat} (h : a * b < Text.indexLimit) : mul? a b = some (a * b) :=
  if_pos h

theorem sub?_eq {a b : Nat} (h : b ≤ a) : sub? a b = some (a - b) :=
  if_pos h

theorem bind_of_eq_some {α β : Type} {x : Option α} {a : α} (h : x = some a)
    (f : α → Option β) : x >>= f = f a := by
  rw [h]
  rfl

theorem lt_indexLimit {n : Nat} (h : n < 2 * daysPerEra) : n < Text.indexLimit := by
  unfold daysPerEra at h
  unfold Text.indexLimit
  omega

theorem yearOfEra?_eq {day : Nat} (h : day < daysPerEra) :
    yearOfEra? day = some (yearOfEra day) := by
  unfold daysPerEra at h
  have hfirst : day / 1460 ≤ day := Nat.div_le_self _ _
  have hsum : day - day / 1460 + day / 36524 < Text.indexLimit :=
    lt_indexLimit (by unfold daysPerEra; omega)
  have hlast : day / 146096 ≤ day - day / 1460 + day / 36524 := by omega
  simp [yearOfEra?, yearOfEra, sub?_eq hfirst, add?_eq hsum, sub?_eq hlast]

theorem daysOfYears?_eq {years : Nat} (h : years < 400) :
    daysOfYears? years = some (daysOfYears years) := by
  have hsum : 365 * years + years / 4 < Text.indexLimit :=
    lt_indexLimit (by unfold daysPerEra; omega)
  have hlast : years / 100 ≤ 365 * years + years / 4 := by omega
  have hproduct : 365 * years < Text.indexLimit := by omega
  simp [daysOfYears?, daysOfYears, mul?_eq hproduct, add?_eq hsum, sub?_eq hlast]

theorem monthOfDay?_eq {day : Nat} (h : day < 366) :
    monthOfDay? day = some (monthOfDay day) := by
  have hsum : 5 * day + 2 < Text.indexLimit := lt_indexLimit (by unfold daysPerEra; omega)
  have hproduct : 5 * day < Text.indexLimit := by omega
  simp [monthOfDay?, monthOfDay, mul?_eq hproduct, add?_eq hsum]

theorem daysOfMonths?_eq {months : Nat} (h : months < 12) :
    daysOfMonths? months = some (daysOfMonths months) := by
  have hsum : 153 * months + 2 < Text.indexLimit := lt_indexLimit (by unfold daysPerEra; omega)
  have hproduct : 153 * months < Text.indexLimit := by omega
  simp [daysOfMonths?, daysOfMonths, mul?_eq hproduct, add?_eq hsum]

theorem Place.IsProper.place?_eq {p : Place} (h : p.IsProper) {days : Nat}
    (hlimit : days + epochShift < Text.indexLimit) (hdays : days + epochShift = p.number) :
    place? days = some p := by
  have hdayOfYear : p.dayOfYear < 366 := by
    have := h.bounds.2
    omega
  have hera : p.era * daysPerEra ≤ p.number := Nat.le_add_right _ _
  have hproduct : p.era * daysPerEra < Text.indexLimit := by omega
  have hyear : daysOfYears p.year ≤ daysOfYears p.year + p.dayOfYear := Nat.le_add_right _ _
  have hmonth : daysOfMonths p.month ≤ p.dayOfYear := Nat.le_add_right _ _
  rw [place?, bind_of_eq_some (add?_eq hlimit), hdays, h.era_eq,
    bind_of_eq_some (mul?_eq hproduct), bind_of_eq_some (sub?_eq hera), number_sub_era,
    bind_of_eq_some (yearOfEra?_eq h.dayOfEra_lt), h.year_eq,
    bind_of_eq_some (daysOfYears?_eq h.year), bind_of_eq_some (sub?_eq hyear),
    Nat.add_sub_cancel_left, bind_of_eq_some (monthOfDay?_eq hdayOfYear), h.bounds.1,
    bind_of_eq_some (daysOfMonths?_eq h.month), bind_of_eq_some (sub?_eq hmonth),
    dayOfYear, Nat.add_sub_cancel_left]

theorem Place.IsProper.date?_eq {p : Place} (h : p.IsProper)
    (hlimit : p.number < Text.indexLimit) : p.date? = some p.date := by
  have hyear := h.year
  have hstart : p.year + p.era * 400 + 1 < Text.indexLimit := by
    unfold number daysPerEra at hlimit
    unfold Text.indexLimit at *
    omega
  have hday : p.day + 1 < Text.indexLimit := by
    have hle : p.day ≤ p.dayOfYear := Nat.le_add_left _ _
    have hbound := h.bounds.2
    exact lt_indexLimit (by unfold daysPerEra; omega)
  have hmonth : p.month? = some p.date.month := by
    have hlt := h.month
    unfold month? date
    split_ifs with hmarch
    · exact add?_eq (lt_indexLimit (by unfold daysPerEra; omega))
    · exact sub?_eq (by omega)
  have hcivil : p.year + p.era * 400 + (if p.date.month ≤ 2 then 1 else 0) < Text.indexLimit := by
    split_ifs <;> omega
  have hproduct : p.era * 400 < Text.indexLimit := by omega
  have hsum : p.year + p.era * 400 < Text.indexLimit := by omega
  rw [date?, bind_of_eq_some (mul?_eq hproduct), bind_of_eq_some (add?_eq hsum),
    bind_of_eq_some hmonth, bind_of_eq_some (add?_eq hcivil), bind_of_eq_some (add?_eq hday)]
  rfl

/-- In words the same date is found, as long as the shifted count is a word. -/
theorem ofEpochDays?_eq {days : Nat} (h : days + epochShift < Text.indexLimit) :
    ofEpochDays? days = some (ofEpochDays days) := by
  obtain ⟨p, hp, hnumber⟩ := Place.exists_isProper (days + epochShift)
  rw [ofEpochDays?, bind_of_eq_some (hp.place?_eq h hnumber.symm),
    hp.date?_eq (hnumber ▸ h), hp.ofEpochDays_eq hnumber.symm]

theorem timeStamp_parts (days : Nat) {hour minute second : Nat} (hhour : hour < 24)
    (hminute : minute < 60) (hsecond : second < 60) :
    timeStamp ((86400 * days + 3600 * hour + 60 * minute + second : ℕ) : Int) =
      (ofEpochDays days).render ++ " " ++ padded 2 hour ++ ":" ++ padded 2 minute := by
  have hdays : (86400 * days + 3600 * hour + 60 * minute + second) / 86400 = days := by omega
  have hhours : (86400 * days + 3600 * hour + 60 * minute + second) % 86400 / 3600 = hour := by
    omega
  have hminutes :
      (86400 * days + 3600 * hour + 60 * minute + second) % 86400 % 3600 / 60 = minute := by
    omega
  unfold timeStamp secondsPerDay
  rw [Int.toNat_natCast]
  simp only [hdays, hhours, hminutes]

/-- Words of 64 bits are enough to find the date.  It is always one of the Gregorian calendar,
the first one is that of the epoch, and each day has the successor of the date before, so
that dates are counted one by one and grow strictly.  A time since the epoch is shown by
its date, its hour and its minute. -/
theorem ofEpochDays_gregorian :
    (∀ days, days + epochShift < Text.indexLimit →
      ofEpochDays? days = some (ofEpochDays days)) ∧
    (∀ days, (ofEpochDays days).IsValid) ∧
    ofEpochDays 0 = ⟨1970, 1, 1⟩ ∧
    (∀ days, ofEpochDays (days + 1) = (ofEpochDays days).next) ∧
    (∀ days, ofEpochDays days = next^[days] ⟨1970, 1, 1⟩) ∧
    (StrictMono fun days ↦ (ofEpochDays days).key) ∧
    Function.Injective ofEpochDays ∧
    ∀ days hour minute second : ℕ, hour < 24 → minute < 60 → second < 60 →
      timeStamp ((86400 * days + 3600 * hour + 60 * minute + second : ℕ) : Int) =
        (ofEpochDays days).render ++ " " ++ padded 2 hour ++ ":" ++ padded 2 minute := by
  refine ⟨fun days ↦ ofEpochDays?_eq, isValid_ofEpochDays, ofEpochDays_zero, ofEpochDays_succ,
    ofEpochDays_eq_iterate, strictMono_key_ofEpochDays, ?_, ?_⟩
  · intro first second h
    exact strictMono_key_ofEpochDays.injective (congrArg key h)
  · intro days hour minute second hhour hminute hsecond
    exact timeStamp_parts days hhour hminute hsecond

/-- The last day of February in a century year that is no leap year. -/
theorem ofEpochDays_gregorian_2100 :
    47540 + epochShift < Text.indexLimit ∧ ofEpochDays? 47540 = some ⟨2100, 2, 28⟩ ∧
      ofEpochDays? 47541 = some ⟨2100, 3, 1⟩ ∧
      ((23 < 24 ∧ 59 < 60 ∧ 58 < 60) ∧ timeStamp 4107542398 = "2100-02-28 23:59") := by
  have hwords : 47540 + epochShift < Text.indexLimit := by decide
  have hwords' : 47541 + epochShift < Text.indexLimit := by decide
  have hdate : ofEpochDays 47540 = ⟨2100, 2, 28⟩ := by decide
  obtain ⟨hfound, -, -, hsucc, -, -, -, hstamp⟩ := ofEpochDays_gregorian
  have hshown := hstamp 47540 23 59 58 (by decide) (by decide) (by decide)
  refine ⟨hwords, ?_, ?_, ⟨by decide, by decide, by decide⟩, ?_⟩
  · rw [hfound 47540 hwords, hdate]
  · rw [hfound 47541 hwords', hsucc 47540, hdate]
    decide
  · rw [hdate] at hshown
    exact hshown

end Date
end LineShell
