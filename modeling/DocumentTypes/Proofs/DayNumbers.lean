import DocumentTypes.Calendar.Day
import Mathlib.Tactic.IntervalCases

/-! # Days and their numbers

Days and day numbers determine each other. An era is four hundred years, after which the
calendar repeats; the day of an era fixes the year of the era, because every year ends where
the next one begins. -/

namespace DocumentTypes.Calendar

theorem isLeapYear_iff {year : Int} :
    isLeapYear year = true ↔ year % 4 = 0 ∧ (year % 100 ≠ 0 ∨ year % 400 = 0) := by
  simp [isLeapYear]

namespace Day

/-! ## Years of an era -/

def daysBefore (year : Int) : Int := 365 * year + year / 4 - year / 100

def yearOfEra (day : Int) : Int := (day - day / 1460 + day / 36524 - day / 146096) / 365

theorem yearOfEra_bounds {day : Int} (nonneg : 0 ≤ day) (inEra : day < 146097) :
    0 ≤ yearOfEra day ∧ yearOfEra day < 400 := by
  unfold yearOfEra
  omega

theorem daysBefore_yearOfEra_le {day : Int} (nonneg : 0 ≤ day) (inEra : day < 146097) :
    daysBefore (yearOfEra day) ≤ day := by
  have leapYears : yearOfEra day / 4 ≤ day / 1460 := by unfold yearOfEra; omega
  have centuries : day / 36524 - day / 146096 ≤ yearOfEra day / 100 := by
    unfold yearOfEra
    omega
  unfold daysBefore
  unfold yearOfEra at *
  omega

theorem lt_daysBefore_yearOfEra {day : Int} (nonneg : 0 ≤ day) (inEra : day < 146097) :
    day < daysBefore (yearOfEra day + 1) ∨ yearOfEra day = 399 := by
  have leapYears : day / 1460 ≤ (yearOfEra day + 1) / 4 := by unfold yearOfEra; omega
  -- The next year is in the same century, or it opens the next one.
  have century : (yearOfEra day + 1) / 100 = day / 36524 ∨
      yearOfEra day + 1 = 100 * (day / 36524 + 1) ∨ yearOfEra day = 399 := by
    unfold yearOfEra
    omega
  unfold daysBefore
  unfold yearOfEra at *
  omega

theorem daysBefore_mono {first second : Int} (le : first ≤ second) :
    daysBefore first ≤ daysBefore second := by
  unfold daysBefore
  omega

theorem yearOfEra_eq {year day : Int} (nonneg : 0 ≤ year) (small : year < 400)
    (inEra : day < 146097)
    (begun : daysBefore year ≤ day) (going : day < daysBefore (year + 1) ∨ year = 399) :
    yearOfEra day = year := by
  have dayNonneg : 0 ≤ day := by
    unfold daysBefore at begun
    omega
  have low := daysBefore_yearOfEra_le dayNonneg inEra
  have high := lt_daysBefore_yearOfEra dayNonneg inEra
  have bounds := yearOfEra_bounds dayNonneg inEra
  rcases Int.lt_trichotomy (yearOfEra day) year with less | equal | greater
  · have later := daysBefore_mono (show yearOfEra day + 1 ≤ year by omega)
    omega
  · exact equal
  · have later := daysBefore_mono (show year + 1 ≤ yearOfEra day by omega)
    omega

/-! ## Days of a year -/

def ofMarch (year dayOfYear : Int) : Day :=
  let month := (5 * dayOfYear + 2) / 153
  { year := if month < 10 then year else year + 1
    month := (if month < 10 then month + 3 else month - 9).toNat
    day := (dayOfYear - (153 * month + 2) / 5 + 1).toNat }

theorem ofNumber_eq (number : Int) : ofNumber number =
    let day := (number + 719468) % 146097
    ofMarch (yearOfEra day + (number + 719468) / 146097 * 400)
      (day - daysBefore (yearOfEra day)) := rfl

theorem monthFromMarch_bounds {dayOfYear : Int} (nonneg : 0 ≤ dayOfYear)
    (inYear : dayOfYear ≤ 365) : 0 ≤ (5 * dayOfYear + 2) / 153 ∧
      (5 * dayOfYear + 2) / 153 < 12 ∧
      (153 * ((5 * dayOfYear + 2) / 153) + 2) / 5 ≤ dayOfYear ∧
      dayOfYear < (153 * ((5 * dayOfYear + 2) / 153 + 1) + 2) / 5 := by
  omega

theorem toNumber_ofMarch {year dayOfYear : Int} (nonneg : 0 ≤ dayOfYear)
    (inYear : dayOfYear ≤ 365) : (ofMarch year dayOfYear).toNumber =
      daysBefore year + year / 400 + dayOfYear - 719468 := by
  have bounds := monthFromMarch_bounds nonneg inYear
  unfold ofMarch toNumber daysBefore
  dsimp only
  generalize (5 * dayOfYear + 2) / 153 = month at bounds ⊢
  by_cases early : month < 10
  · have index : (((month + 3).toNat : Int) + 9) % 12 = month := by omega
    have fromMarch : ¬(month + 3).toNat ≤ 2 := by omega
    simp only [if_pos early, if_neg fromMarch, index]
    omega
  · have index : (((month - 9).toNat : Int) + 9) % 12 = month := by omega
    have beforeMarch : (month - 9).toNat ≤ 2 := by omega
    simp only [if_neg early, if_pos beforeMarch, index, Int.add_sub_cancel]
    omega

def InYear (year dayOfYear : Int) : Prop :=
  0 ≤ dayOfYear ∧ (dayOfYear < 365 ∨ dayOfYear = 365 ∧ isLeapYear (year + 1) = true)

theorem isValid_ofMarch {year dayOfYear : Int} (inYear : InYear year dayOfYear)
    (first : firstYear ≤ (ofMarch year dayOfYear).year)
    (last : (ofMarch year dayOfYear).year ≤ lastYear) :
    (ofMarch year dayOfYear).isValid = true := by
  rcases inYear with ⟨nonneg, within⟩
  have bounds := monthFromMarch_bounds nonneg (by omega)
  have february : dayOfYear - 337 + 1 ≤ if isLeapYear (year + 1) = true then 29 else 28 := by
    rcases within with less | ⟨last, leap⟩
    · split <;> omega
    · rw [if_pos leap]
      omega
  rcases Int.eq_ofNat_of_zero_le bounds.1 with ⟨month, equal⟩
  have small : month < 12 := by omega
  simp only [isValid, first, last, Bool.and_eq_true, decide_eq_true_eq]
  unfold ofMarch daysInMonth
  dsimp only
  rw [equal] at bounds ⊢
  interval_cases month
  case «11» => simpa using ⟨by omega, february⟩
  all_goals
    simp
    omega

theorem inYear_of_yearOfEra {day : Int} (nonneg : 0 ≤ day) (inEra : day < 146097) (era : Int) :
    InYear (yearOfEra day + era * 400) (day - daysBefore (yearOfEra day)) := by
  have low := daysBefore_yearOfEra_le nonneg inEra
  have high := lt_daysBefore_yearOfEra nonneg inEra
  have bounds := yearOfEra_bounds nonneg inEra
  refine ⟨by omega, ?_⟩
  generalize yearOfEra day = year at *
  have fours : (year + era * 400 + 1) % 4 = (year + 1) % 4 := by omega
  have centuries : (year + era * 400 + 1) % 100 = (year + 1) % 100 := by omega
  have eras : (year + era * 400 + 1) % 400 = (year + 1) % 400 := by omega
  -- A year is a day longer just where its leap day makes the next one begin later.
  have leapDay : (year + 1) % 4 ≠ 0 ∧ (year + 1) / 4 = year / 4 ∨
      (year + 1) % 4 = 0 ∧ (year + 1) / 4 = year / 4 + 1 := by omega
  have noLeapDay : (year + 1) % 100 ≠ 0 ∧ (year + 1) / 100 = year / 100 ∨
      (year + 1) % 100 = 0 ∧ (year + 1) / 100 = year / 100 + 1 := by omega
  rw [isLeapYear_iff, fours, centuries, eras]
  unfold daysBefore at *
  rcases leapDay with leapDay | leapDay <;> rcases noLeapDay with noLeapDay | noLeapDay <;> omega

/-! ## Both ways -/

theorem toNumber_ofNumber (number : Int) : (ofNumber number).toNumber = number := by
  have nonneg := Int.emod_nonneg (number + 719468) (show (146097 : Int) ≠ 0 by decide)
  have inEra := Int.emod_lt_of_pos (number + 719468) (show (0 : Int) < 146097 by decide)
  have inYear := inYear_of_yearOfEra nonneg inEra ((number + 719468) / 146097)
  have bounds := yearOfEra_bounds nonneg inEra
  rw [ofNumber_eq]
  dsimp only
  rw [toNumber_ofMarch inYear.1 (by rcases inYear.2 with less | ⟨last, -⟩ <;> omega)]
  unfold daysBefore
  omega

/-- The months before a month in a year that begins in March. -/
def monthFromMarch (month : Nat) : Int := ((month + 9) % 12 : Nat)

theorem length_of_isValid {year : Int} {month day : Nat}
    (valid : isValid ⟨year, month, day⟩ = true) : (153 * monthFromMarch month + 2) / 5 + day ≤
      (153 * (monthFromMarch month + 1) + 2) / 5 := by
  simp only [isValid, Bool.and_eq_true, decide_eq_true_eq] at valid
  rcases valid with ⟨⟨⟨⟨-, firstMonth⟩, lastMonth⟩, -⟩, lastDay⟩
  have february : (if isLeapYear year = true then 29 else 28) ≤ 29 := by split <;> omega
  unfold daysInMonth at lastDay
  unfold monthFromMarch
  interval_cases month <;> simp at lastDay ⊢ <;> omega

theorem exists_ofMarch {date : Day} (valid : date.isValid = true) :
    ∃ year dayOfYear, InYear year dayOfYear ∧ ofMarch year dayOfYear = date := by
  rcases date with ⟨year, month, day⟩
  have length := length_of_isValid valid
  simp only [isValid, Bool.and_eq_true, decide_eq_true_eq] at valid
  rcases valid with ⟨⟨⟨⟨⟨-, -⟩, firstMonth⟩, lastMonth⟩, firstDay⟩, lastDay⟩
  have index : month ≤ 2 ∧ monthFromMarch month = month + 9 ∨
      3 ≤ month ∧ monthFromMarch month = month - 3 := by
    unfold monthFromMarch
    omega
  have month_eq : (5 * ((153 * monthFromMarch month + 2) / 5 + day - 1) + 2) / 153 =
      monthFromMarch month := by omega
  have date_eq : ofMarch (if month ≤ 2 then year - 1 else year)
      ((153 * monthFromMarch month + 2) / 5 + day - 1) = ⟨year, month, day⟩ := by
    unfold ofMarch
    dsimp only
    rw [month_eq]
    rcases index with ⟨early, index⟩ | ⟨late, index⟩
    · have beyond : ¬monthFromMarch month < 10 := by omega
      rw [if_pos early, if_neg beyond, if_neg beyond]
      congr <;> omega
    · have within : monthFromMarch month < 10 := by omega
      rw [if_neg (Nat.not_le.mpr late), if_pos within, if_pos within]
      congr
      all_goals omega
  refine ⟨_, _, ⟨by omega, ?_⟩, date_eq⟩
  by_cases february : month = 2
  · subst february
    have last : monthFromMarch 2 = 11 := rfl
    unfold daysInMonth at lastDay
    rw [if_pos rfl] at lastDay
    rw [if_pos (Nat.le_refl 2), Int.sub_add_cancel, last]
    split at lastDay
    next leap =>
      simp only [leap, and_true]
      omega
    next => exact .inl (by omega)
  · exact .inl (by omega)

theorem ofNumber_toNumber {date : Day} (valid : date.isValid = true) :
    ofNumber date.toNumber = date := by
  rcases exists_ofMarch valid with ⟨year, dayOfYear, ⟨nonneg, within⟩, rfl⟩
  rw [isLeapYear_iff] at within
  rw [toNumber_ofMarch nonneg (by omega), ofNumber_eq]
  have number : daysBefore year + year / 400 + dayOfYear - 719468 + 719468 =
      daysBefore (year % 400) + dayOfYear + 146097 * (year / 400) := by
    have fours : year / 4 = year % 400 / 4 + 100 * (year / 400) := by omega
    have centuries : year / 100 = year % 400 / 100 + 4 * (year / 400) := by omega
    unfold daysBefore
    omega
  have inEra : 0 ≤ daysBefore (year % 400) + dayOfYear ∧
      daysBefore (year % 400) + dayOfYear < 146097 := by
    unfold daysBefore
    omega
  have yearInEra : yearOfEra (daysBefore (year % 400) + dayOfYear) = year % 400 := by
    refine yearOfEra_eq (by omega) (by omega) inEra.2 (by omega) ?_
    unfold daysBefore
    omega
  dsimp only
  rw [number, Int.add_mul_emod_self_left, Int.add_mul_ediv_left _ _ (by decide),
    Int.ediv_eq_zero_of_lt inEra.1 inEra.2, Int.emod_eq_of_lt inEra.1 inEra.2, yearInEra]
  congr 1 <;> omega

theorem year_ofMarch (year dayOfYear : Int) : (ofMarch year dayOfYear).year =
    if dayOfYear < 306 then year else year + 1 := by
  have month : (5 * dayOfYear + 2) / 153 < 10 ↔ dayOfYear < 306 := by omega
  simp only [ofMarch, month]

theorem isValid_ofNumber {number : Int} (first : toNumber ⟨firstYear, 1, 1⟩ ≤ number)
    (last : number ≤ toNumber ⟨lastYear, 12, 31⟩) : (ofNumber number).isValid = true := by
  have nonneg := Int.emod_nonneg (number + 719468) (show (146097 : Int) ≠ 0 by decide)
  have inEra := Int.emod_lt_of_pos (number + 719468) (show (0 : Int) < 146097 by decide)
  have inYear := inYear_of_yearOfEra nonneg inEra ((number + 719468) / 146097)
  have back := toNumber_ofNumber number
  rw [ofNumber_eq] at back ⊢
  dsimp only at back ⊢
  generalize yearOfEra ((number + 719468) % 146097) + (number + 719468) / 146097 * 400 = year
    at inYear back ⊢
  generalize (number + 719468) % 146097 - daysBefore (yearOfEra ((number + 719468) % 146097)) =
    dayOfYear at inYear back ⊢
  have within : dayOfYear ≤ 365 := by rcases inYear.2 with less | ⟨equal, -⟩ <;> omega
  rw [toNumber_ofMarch inYear.1 within] at back
  rw [show toNumber ⟨firstYear, 1, 1⟩ = -96465292 by decide] at first
  rw [show toNumber ⟨lastYear, 12, 31⟩ = 95026236 by decide] at last
  have start := inYear.1
  unfold daysBefore at back
  refine isValid_ofMarch inYear ?_ ?_ <;> rw [year_ofMarch]
  · have boundary : year ≤ -262145 ∨ year = -262144 ∨ -262143 ≤ year := by omega
    unfold firstYear
    rcases boundary with less | rfl | within <;> split <;> omega
  · have boundary : year ≤ 262141 ∨ year = 262142 ∨ 262143 ≤ year := by omega
    unfold lastYear
    rcases boundary with within | rfl | greater <;> split <;> omega

end Day
end DocumentTypes.Calendar
