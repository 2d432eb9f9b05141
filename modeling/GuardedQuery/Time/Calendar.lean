/-!
# Calendar dates and times

Dates of the Gregorian calendar, extended to all years, counted in days from 1970-01-01, and times
counted in microseconds from the start of that day. The year 0 is the one before the year 1.
-/

namespace GuardedQuery

/-- A date of the Gregorian calendar. -/
structure Date where
  year : Int
  month : Nat
  day : Nat
  deriving DecidableEq, Repr

namespace Date

/-- Days in 400 years. -/
def daysPerEra : Int := 146097

/-- Days from 0000-03-01 to 1970-01-01. -/
def epochShift : Int := 719468

/-- The date some days after 1970-01-01. Years are counted from March, so that the day that a leap
year adds is the last one. -/
def ofDays (days : Int) : Date :=
  let shifted := days + epochShift
  let era := shifted.fdiv daysPerEra
  let dayOfEra := (shifted - era * daysPerEra).toNat
  let yearOfEra := (dayOfEra - dayOfEra / 1460 + dayOfEra / 36524 - dayOfEra / 146096) / 365
  let dayOfYear := dayOfEra - (365 * yearOfEra + yearOfEra / 4 - yearOfEra / 100)
  let monthFromMarch := (5 * dayOfYear + 2) / 153
  let month := if monthFromMarch < 10 then monthFromMarch + 3 else monthFromMarch - 9
  { year := era * 400 + yearOfEra + if month ≤ 2 then 1 else 0
    month
    day := dayOfYear - (153 * monthFromMarch + 2) / 5 + 1 }

end Date

namespace Time

/-- A number with zeros in front up to a width. -/
def padded (width n : Nat) : String :=
  let digits := Nat.toDigits 10 n
  String.ofList (List.replicate (width - digits.length) '0' ++ digits)

/-- Years have four digits; one that needs more, or is negative, has a sign. -/
def yearText (year : Int) : String :=
  if 0 ≤ year ∧ year ≤ 9999 then padded 4 year.toNat
  else (if year < 0 then "-" else "+") ++ padded 4 year.natAbs

/-- A fraction of a second in three or six digits, or none. -/
def fractionText (micros : Nat) : String :=
  if micros = 0 then ""
  else if micros % 1000 = 0 then "." ++ padded 3 (micros / 1000)
  else "." ++ padded 6 micros

/-- Microseconds in a day. -/
def microsPerDay : Int := 86400000000

/-- The time of day, given in microseconds. -/
def ofDayText (micros : Nat) : String :=
  let seconds := micros / 1000000
  padded 2 (seconds / 3600) ++ ":" ++ padded 2 (seconds / 60 % 60) ++ ":" ++
    padded 2 (seconds % 60) ++ fractionText (micros % 1000000)

end Time

/-- The date as text: `2022-01-08`. -/
def Date.text (d : Date) : String :=
  Time.yearText d.year ++ "-" ++ Time.padded 2 d.month ++ "-" ++ Time.padded 2 d.day

/-- The date and time some microseconds after the start of 1970-01-01: `2023-11-14T22:13:20.5`. -/
def Time.text (micros : Int) : String :=
  let days := micros.fdiv microsPerDay
  (Date.ofDays days).text ++ "T" ++ ofDayText (micros - days * microsPerDay).toNat

end GuardedQuery
