import Mathlib.Algebra.Order.Group.Int
import Mathlib.Algebra.Order.SuccPred
import Mathlib.Data.Int.ConditionallyCompleteOrder
import Mathlib.Data.Int.SuccPred
import Mathlib.Order.SuccPred.Archimedean

/-!
# The calendar

Int values as ECMAScript counts them, in milliseconds from 1970, with the day, month and year
each belongs to in UTC. Months are numbered through from the year zero, so that the month after
one is the next number; the day a month starts on is defined, and the month of a day is the one
whose days it is among.
-/

namespace Heightt.Calendar

def msPerDay : Int := 86400000

def leap (year : Int) : Bool := year % 4 = 0 ∧ (year % 100 ≠ 0 ∨ year % 400 = 0)

/-- The days before a year. -/
def dayFromYear (year : Int) : Int := 365 * (year - 1970) + (year - 1969) / 4 - (year - 1901) / 100 + (year - 1601) / 400

def monthLengths (leap : Bool) : List Int := [31, if leap then 29 else 28, 31, 30, 31, 30, 31, 31, 30, 31, 30, 31]

/-- The days before a month within its year. -/
def daysBefore (leap : Bool) (m : Nat) : Int := ((monthLengths leap).take m).sum

/-- The number of the first day of a month. -/
def monthStart (month : Int) : Int := dayFromYear (month / 12) + daysBefore (leap (month / 12)) (month % 12).toNat

def daysIn (month : Int) : Int := monthStart (month + 1) - monthStart month

/-- The mean length of a year gives the year or one beside it. -/
def yearNear (year day : Int) : Int :=
  if dayFromYear (year + 1) ≤ day then year + 1 else if dayFromYear year ≤ day then year else year - 1

def yearFromDay (day : Int) : Int := yearNear (1970 + 400 * day / 146097) day

/-- The months that start after the first day of the year and no later than the given one. -/
def monthWithinYear (leap : Bool) (day : Int) : Nat := (List.range' 1 11).countP fun m => daysBefore leap m ≤ day

def monthFromDay (day : Int) : Int :=
  12 * yearFromDay day + monthWithinYear (leap (yearFromDay day)) (day - dayFromYear (yearFromDay day))

def month (t : Int) : Int := monthFromDay (t / msPerDay)

/-! ## Years -/

theorem yearFromDay_bounds (day : Int) : dayFromYear (yearFromDay day) ≤ day ∧ day < dayFromYear (yearFromDay day + 1) := by
  unfold yearFromDay yearNear
  split_ifs with next same
  · refine ⟨next, ?_⟩
    unfold dayFromYear
    omega
  · exact ⟨same, Int.not_le.1 next⟩
  · rw [Int.sub_add_cancel]
    refine ⟨?_, Int.not_le.1 same⟩
    unfold dayFromYear
    omega

theorem dayFromYear_succ (year : Int) : dayFromYear (year + 1) = dayFromYear year + daysBefore (leap year) 12 := by
  unfold dayFromYear
  cases h : leap year <;> simp only [leap, decide_eq_true_eq, decide_eq_false_iff_not] at h
  · show _ = _ + 365
    omega
  · show _ = _ + 366
    omega

/-! ## Months -/

theorem daysBefore_succ : ∀ (leap : Bool), ∀ m < 12, daysBefore leap m + 28 ≤ daysBefore leap (m + 1) ∧
    daysBefore leap (m + 1) ≤ daysBefore leap m + 31 := by
  decide

theorem monthWithinYear_bounds : ∀ (leap : Bool), ∀ day : Nat, day < (daysBefore leap 12).toNat →
    monthWithinYear leap day < 12 ∧ daysBefore leap (monthWithinYear leap day) ≤ day ∧
      day < daysBefore leap (monthWithinYear leap day + 1) := by
  decide +kernel

/-- The month after December starts with the next year. -/
theorem monthStart_add {year : Int} {m : Nat} (h : m ≤ 12) :
    monthStart (12 * year + m) = dayFromYear year + daysBefore (leap year) m := by
  obtain rfl | within := Nat.eq_or_lt_of_le h
  · have next : (12 * year + (12 : ℕ)) / 12 = year + 1 := by omega
    have first : ((12 * year + (12 : ℕ)) % 12).toNat = 0 := by omega
    rw [monthStart, next, first, dayFromYear_succ]
    exact Int.add_zero _
  · have same : (12 * year + (m : Int)) / 12 = year := by omega
    have index : ((12 * year + (m : Int)) % 12).toNat = m := by omega
    rw [monthStart, same, index]

theorem monthStart_succ {year : Int} {m : Nat} (h : m < 12) :
    monthStart (12 * year + m + 1) = dayFromYear year + daysBefore (leap year) (m + 1) := by
  rw [← monthStart_add h, Int.add_assoc]
  rfl

theorem exists_month (month : Int) : ∃ (year : Int) (m : Nat), m < 12 ∧ month = 12 * year + m :=
  ⟨month / 12, (month % 12).toNat, by omega, by omega⟩

theorem daysIn_bounds (month : Int) : 28 ≤ daysIn month ∧ daysIn month ≤ 31 := by
  obtain ⟨year, m, within, rfl⟩ := exists_month month
  have bounds := daysBefore_succ (leap year) m within
  rw [daysIn, monthStart_succ within, monthStart_add (Nat.le_of_lt within)]
  omega

theorem monthStart_strictMono : StrictMono monthStart := by
  refine strictMono_int_of_lt_succ fun month => ?_
  have bounds := (daysIn_bounds month).1
  unfold daysIn at bounds
  omega

theorem monthFromDay_bounds (day : Int) : monthStart (monthFromDay day) ≤ day ∧ day < monthStart (monthFromDay day + 1) := by
  obtain ⟨below, above⟩ := yearFromDay_bounds day
  rw [dayFromYear_succ] at above
  unfold monthFromDay
  generalize yearFromDay day = year at below above
  obtain ⟨d, rfl⟩ : ∃ d : Nat, day = dayFromYear year + d := ⟨(day - dayFromYear year).toNat, by omega⟩
  rw [add_sub_cancel_left]
  obtain ⟨within, started, ends⟩ := monthWithinYear_bounds (leap year) d (by omega)
  rw [monthStart_succ within, monthStart_add (Nat.le_of_lt within)]
  omega

theorem monthFromDay_eq_iff {day month : Int} :
    monthFromDay day = month ↔ monthStart month ≤ day ∧ day < monthStart (month + 1) := by
  obtain ⟨below, above⟩ := monthFromDay_bounds day
  constructor
  · rintro rfl
    exact ⟨below, above⟩
  · rintro ⟨started, ends⟩
    have upper := monthStart_strictMono.lt_iff_lt.1 (lt_of_le_of_lt started above)
    have lower := monthStart_strictMono.lt_iff_lt.1 (lt_of_le_of_lt below ends)
    omega

theorem month_eq_iff {t : Int} {m : Int} :
    month t = m ↔ monthStart m * msPerDay ≤ t ∧ t < monthStart (m + 1) * msPerDay := by
  rw [month, monthFromDay_eq_iff, Int.le_ediv_iff_mul_le (by decide), Int.ediv_lt_iff_lt_mul (by decide)]

/-- A later instant is in the same month or a later one. -/
theorem month_mono {s t : Int} (h : s ≤ t) : month s ≤ month t := by
  have started := (month_eq_iff.1 (rfl : month s = month s)).1
  have ends := (month_eq_iff.1 (rfl : month t = month t)).2
  have days : monthStart (month s) * msPerDay < monthStart (month t + 1) * msPerDay := by omega
  have months := monthStart_strictMono.lt_iff_lt.1 (lt_of_mul_lt_mul_right days (by decide))
  omega

/-! ## The parts of a date -/

def getFullYear (t : Int) : Int := month t / 12

def getMonth (t : Int) : Int := month t % 12

/-- The day of the month, from one. -/
def getDate (t : Int) : Int := t / msPerDay - monthStart (month t) + 1

/-- Months and days that overflow are carried on. -/
def makeDay (year month date : Int) : Int := monthStart (12 * year + month) + date - 1

def setMonth (t : Int) (month : Int) : Int := makeDay (getFullYear t) month (getDate t) * msPerDay + t % msPerDay

/-- Years below a hundred are taken for years of the twentieth century. -/
def fullYear (year : Int) : Int := if 0 ≤ year ∧ year ≤ 99 then 1900 + year else year

/-- `new Date(year, month, date)` -/
def newDate (year month date : Int) : Int := makeDay (fullYear year) month date * msPerDay

theorem getDate_bounds (t : Int) : 1 ≤ getDate t ∧ getDate t ≤ daysIn (month t) := by
  have bounds := monthFromDay_bounds (t / msPerDay)
  unfold getDate daysIn month
  omega

theorem getFullYear_getMonth (t : Int) : 12 * getFullYear t + getMonth t = month t := Int.mul_ediv_add_emod _ _

/-- A day that the earlier month does not have is in the month after it. -/
theorem month_setMonth (t : Int) (i : Int) : month (setMonth t (getMonth t - i)) =
    if getDate t ≤ daysIn (month t - i) then month t - i else month t - i + 1 := by
  obtain ⟨first, last⟩ := getDate_bounds t
  have most := (daysIn_bounds (month t)).2
  have least := (daysIn_bounds (month t - i + 1)).1
  have atLeast := (daysIn_bounds (month t - i)).1
  have day : setMonth t (getMonth t - i) / msPerDay = monthStart (month t - i) + getDate t - 1 := by
    have index : 12 * getFullYear t + (getMonth t - i) = month t - i := by
      have := getFullYear_getMonth t
      omega
    rw [setMonth, makeDay, index]
    unfold msPerDay
    omega
  rw [month, day, monthFromDay_eq_iff]
  split
  · rename_i fits
    unfold daysIn at fits
    omega
  · rename_i overflows
    have next : monthStart (month t - i + 1) = monthStart (month t - i) + daysIn (month t - i) := by
      unfold daysIn
      omega
    unfold daysIn at least
    omega

end Heightt.Calendar
