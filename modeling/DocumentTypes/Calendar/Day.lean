/-! # Calendar days

Days of the proleptic Gregorian calendar, numbered from 1970-01-01. Inside the
two conversions a year begins in March, so that the leap day is its last day and
the lengths of the months follow one linear rule. -/

namespace DocumentTypes.Calendar

/-- A year, a month from 1 to 12 and a day of that month. -/
structure Day where
  year : Int
  month : Nat
  day : Nat
  deriving DecidableEq, Repr

def isLeapYear (year : Int) : Bool :=
  year % 4 == 0 && (year % 100 != 0 || year % 400 == 0)

def daysInMonth (year : Int) (month : Nat) : Nat :=
  if month = 2 then if isLeapYear year then 29 else 28
  else if month = 4 || month = 6 || month = 9 || month = 11 then 30
  else 31

namespace Day

def firstYear : Int := -262143
def lastYear : Int := 262142

def isValid (date : Day) : Bool :=
  firstYear ≤ date.year && date.year ≤ lastYear &&
    1 ≤ date.month && date.month ≤ 12 &&
    1 ≤ date.day && date.day ≤ daysInMonth date.year date.month

/-- The number of the first of March, year zero, is `-719468`. -/
def toNumber (date : Day) : Int :=
  let year := if date.month ≤ 2 then date.year - 1 else date.year
  let month : Int := (date.month + 9) % 12
  365 * year + year / 4 - year / 100 + year / 400 +
    (153 * month + 2) / 5 + date.day - 1 - 719468

def ofNumber (number : Int) : Day :=
  let fromMarch := number + 719468
  let era := fromMarch / 146097
  let dayOfEra := fromMarch % 146097
  let yearOfEra :=
    (dayOfEra - dayOfEra / 1460 + dayOfEra / 36524 - dayOfEra / 146096) / 365
  let dayOfYear := dayOfEra - (365 * yearOfEra + yearOfEra / 4 - yearOfEra / 100)
  let month := (5 * dayOfYear + 2) / 153
  let year := yearOfEra + era * 400
  { year := if month < 10 then year else year + 1
    month := (if month < 10 then month + 3 else month - 9).toNat
    day := (dayOfYear - (153 * month + 2) / 5 + 1).toNat }

example : toNumber ⟨1970, 1, 1⟩ = 0 := by decide
example : toNumber ⟨2000, 2, 29⟩ = 11016 := by decide
example : ofNumber 11016 = ⟨2000, 2, 29⟩ := by decide
example : ofNumber (toNumber ⟨-262143, 1, 1⟩) = ⟨-262143, 1, 1⟩ := by decide
example : ofNumber (toNumber ⟨262142, 12, 31⟩) = ⟨262142, 12, 31⟩ := by decide
example : isValid ⟨1900, 2, 29⟩ = false := by decide

end Day
end DocumentTypes.Calendar
