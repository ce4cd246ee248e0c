import LineShell.Text.Basic

/-!
# Calendar dates

Days are counted from the first of January 1970 and shown in the Gregorian
calendar.  The count is first moved to the first of March of the year zero, so
that a leap day is the last day of its year and the years repeat after four
centuries.
-/

namespace LineShell

structure Date where
  year : Nat
  month : Nat
  day : Nat
deriving DecidableEq, Repr, Inhabited

namespace Date

/-- The days from the first of March of the year zero to the start of 1970. -/
def epochShift : Nat := 719468

/-- The days of four centuries. -/
def daysPerEra : Nat := 146097

/-- The years from the start of four centuries to a day of them. -/
def yearOfEra (day : Nat) : Nat :=
  (day - day / 1460 + day / 36524 - day / 146096) / 365

def daysOfYears (years : Nat) : Nat :=
  365 * years + years / 4 - years / 100

/-- The month in which a day of a year that starts in March falls, from zero. -/
def monthOfDay (day : Nat) : Nat :=
  (5 * day + 2) / 153

/-- The days before a month of a year that starts in March. -/
def daysOfMonths (months : Nat) : Nat :=
  (153 * months + 2) / 5

def ofEpochDays (days : Nat) : Date :=
  let shifted := days + epochShift
  let era := shifted / daysPerEra
  let dayOfEra := shifted - era * daysPerEra
  let year := yearOfEra dayOfEra
  let dayOfYear := dayOfEra - daysOfYears year
  let march := monthOfDay dayOfYear
  let month := if march < 10 then march + 3 else march - 9
  { year := year + era * 400 + (if month ≤ 2 then 1 else 0)
    month := month
    day := dayOfYear - daysOfMonths march + 1 }

def padded (width n : Nat) : String :=
  Text.padStart width '0' (toString n)

def render (d : Date) : String :=
  padded 4 d.year ++ "-" ++ padded 2 d.month ++ "-" ++ padded 2 d.day

end Date

def secondsPerDay : Nat := 86400

/-- Date, hour and minute of a time in seconds since the start of 1970; an
earlier time is shown as that start. -/
def timeStamp (seconds : Int) : String :=
  let s := seconds.toNat
  let rest := s % secondsPerDay
  (Date.ofEpochDays (s / secondsPerDay)).render ++ " " ++ Date.padded 2 (rest / 3600) ++ ":" ++
    Date.padded 2 (rest % 3600 / 60)

end LineShell
