import Heightt.Numbers.Calendar
import Mathlib.Data.List.Nodup

/-!
# The months of the trends

The periods over which `getGrowthAnalytics`, `getEnrollmentTrend` and `getOrganizationGrowth` of
`analytics.service.ts` count. A period ends at the midnight that begins its last day.
-/

namespace Heightt.AnalyticsService

open Calendar

structure Period where
  startDate : Int
  monthEnd : Int
  deriving DecidableEq

def Period.contains (p : Period) (t : Int) : Bool := p.startDate ≤ t ∧ t ≤ p.monthEnd

/-- `date.setMonth(date.getMonth() - i)`, and the first day of its month and day zero of the next. -/
def period (now i : Int) : Period :=
  let date := setMonth now (getMonth now - i)
  { startDate := newDate (getFullYear date) (getMonth date) 1
    monthEnd := newDate (getFullYear date) (getMonth date + 1) 0 }

def periods (now : Int) : List Period := (List.range 7).map fun (index : Nat) => period now (6 - index)

/-- Of the profiles under the filter, as the times they were created at. -/
def getEnrollmentTrend (studentProfiles : List Int) (now : Int) : List Nat :=
  (periods now).map fun p => studentProfiles.countP p.contains

def getOrganizationGrowth (organizations : List Int) (now : Int) : List Nat :=
  (periods now).map fun p => organizations.countP p.contains

/-- A completed payment under the filter. -/
structure PaidPayment where
  paidAt : Int
  amount : Int

structure GrowthAnalytics where
  studentGrowth : List Nat
  organizationGrowth : List Nat
  revenueGrowth : List Int

/-- Students and organizations are counted up to the end of a period, payments within it. -/
def getGrowthAnalytics (studentProfiles organizations : List Int) (payments : List PaidPayment) (now : Int) :
    GrowthAnalytics where
  studentGrowth := (periods now).map fun p => studentProfiles.countP (· ≤ p.monthEnd)
  organizationGrowth := (periods now).map fun p => organizations.countP (· ≤ p.monthEnd)
  revenueGrowth := (periods now).map fun p => ((payments.filter fun q => p.contains q.paidAt).map PaidPayment.amount).sum

/-! ## The months meant -/

/-- The seven months up to the current one. -/
def InWindow (now t : Int) : Prop := month now - 6 ≤ month t ∧ month t ≤ month now

/-- The periods are the seven months, one after the other, and every instant of these is in one. -/
structure MonthBuckets (now : Int) : Prop where
  months : (periods now).map Period.startDate = (List.range 7).map fun (k : Nat) => monthStart (month now - 6 + k) * msPerDay
  disjoint : (periods now).Pairwise fun p q => ∀ t, ¬(p.contains t = true ∧ q.contains t = true)
  once : ∀ t, InWindow now t → (periods now).countP (·.contains t) = 1

/-- A month without the last day, but for the midnight it begins with. -/
def cutMonth (m : Int) : Period := ⟨monthStart m * msPerDay, (monthStart (m + 1) - 1) * msPerDay⟩

/-! ## What the periods are -/

theorem period_eq_cutMonth (now i : Int) : ∃ m, period now i = cutMonth m := by
  generalize date : setMonth now (getMonth now - i) = t
  refine ⟨12 * fullYear (getFullYear t) + getMonth t, ?_⟩
  rw [period, date, newDate, newDate, makeDay, makeDay, cutMonth, Int.add_assoc (12 * _)]
  congr 2
  · omega
  · omega

/-- From the second century on, a period is the month meant, or the one after it when the current day
does not exist in that month. -/
theorem period_eq (now i : Int) (era : 1200 ≤ month now - i) :
    period now i = cutMonth (if getDate now ≤ daysIn (month now - i) then month now - i else month now - i + 1) := by
  rw [← month_setMonth]
  have late : 1200 ≤ month (setMonth now (getMonth now - i)) := by
    rw [month_setMonth]
    split <;> omega
  generalize date : setMonth now (getMonth now - i) = t at late
  have year : fullYear (getFullYear t) = getFullYear t := by
    rw [fullYear, if_neg]
    unfold getFullYear
    omega
  rw [period, date, newDate, newDate, makeDay, makeDay, year, ← Int.add_assoc, getFullYear_getMonth, cutMonth]
  congr 2 <;> omega

theorem contains_cutMonth {m t : Int} : (cutMonth m).contains t = true ↔ month t = m ∧ t ≤ (monthStart (m + 1) - 1) * msPerDay := by
  rw [month_eq_iff, Period.contains, decide_eq_true_eq]
  show monthStart m * msPerDay ≤ t ∧ t ≤ (monthStart (m + 1) - 1) * msPerDay ↔ _
  constructor
  · rintro ⟨started, ends⟩
    refine ⟨⟨started, ?_⟩, ends⟩
    unfold msPerDay at *
    omega
  · rintro ⟨⟨started, -⟩, ends⟩
    exact ⟨started, ends⟩

/-- The last instant of a month. -/
def lastInstant (m : Int) : Int := monthStart (m + 1) * msPerDay - 1

theorem month_lastInstant (m : Int) : month (lastInstant m) = m := by
  rw [month_eq_iff, lastInstant]
  have longer := (daysIn_bounds m).1
  unfold daysIn at longer
  unfold msPerDay
  omega

/-- The last day of the current month is in no period. -/
theorem uncounted (now : Int) : ∀ p ∈ periods now, p.contains (lastInstant (month now)) = false := by
  intro p hp
  obtain ⟨index, -, rfl⟩ := List.mem_map.1 hp
  obtain ⟨m, same⟩ := period_eq_cutMonth now (6 - index)
  rw [same, Bool.eq_false_iff]
  intro inside
  obtain ⟨same_, ends⟩ := contains_cutMonth.1 inside
  rw [month_lastInstant] at same_
  subst same_
  unfold lastInstant msPerDay at ends
  omega

/-- **No current time has all its months counted.** The rows created on the last day of a month, after
midnight, are in no period. -/
theorem not_monthBuckets (now : Int) : ¬MonthBuckets now := by
  intro buckets
  have inWindow : InWindow now (lastInstant (month now)) := by
    unfold InWindow
    rw [month_lastInstant]
    omega
  have counted := buckets.once _ inWindow
  rw [List.countP_eq_zero.2 fun p hp => by simp [uncounted now p hp]] at counted
  cases counted

theorem not_monthBuckets_today : ¬∀ now, MonthBuckets now := by
  intro buckets
  have counted := (buckets 1750000000000).once (lastInstant (month 1750000000000)) (by
    unfold InWindow
    rw [month_lastInstant]
    omega)
  rw [List.countP_eq_zero.2 fun p hp => by simp [uncounted 1750000000000 p hp]] at counted
  cases counted

/-! ## When the months are the right ones -/

/-- The current day exists in each of the seven months. -/
def DayExists (now : Int) : Prop := ∀ k : Nat, k < 7 → getDate now ≤ daysIn (month now - 6 + k)

theorem periods_getElem {now : Int} (era : 1206 ≤ month now) (exists_ : DayExists now) :
    periods now = (List.range 7).map fun (k : Nat) => cutMonth (month now - 6 + k) := by
  refine List.map_congr_left fun k hk => ?_
  have within := List.mem_range.1 hk
  have index : month now - (6 - k) = month now - 6 + k := by omega
  rw [period_eq now _ (by omega), index, if_pos (exists_ k within)]

/-- The periods begin with the seven months just if the current day exists in each of these. -/
theorem months_iff {now : Int} (era : 1206 ≤ month now) :
    (periods now).map Period.startDate = ((List.range 7).map fun (k : Nat) => monthStart (month now - 6 + k) * msPerDay) ↔
      DayExists now := by
  constructor
  · intro same k hk
    rw [periods, List.map_map] at same
    have starts := List.map_inj_left.1 same k (List.mem_range.2 hk)
    have index : month now - (6 - k) = month now - 6 + k := by omega
    rw [Function.comp, period_eq now _ (by omega), index] at starts
    by_contra missing
    rw [if_neg missing] at starts
    have later := monthStart_strictMono (show month now - 6 + k < month now - 6 + k + 1 by omega)
    have starts : monthStart (month now - 6 + k + 1) * msPerDay = monthStart (month now - 6 + k) * msPerDay := starts
    unfold msPerDay at starts
    omega
  · intro exists_
    rw [periods_getElem era exists_, List.map_map]
    rfl

theorem disjoint_periods {now : Int} (era : 1206 ≤ month now) (exists_ : DayExists now) :
    (periods now).Pairwise fun p q => ∀ t, ¬(p.contains t = true ∧ q.contains t = true) := by
  rw [periods_getElem era exists_, List.pairwise_map]
  refine List.nodup_range.imp fun {j k} different t inside => different ?_
  have first := (contains_cutMonth.1 inside.1).1
  have second := (contains_cutMonth.1 inside.2).1
  omega

/-- Then an instant of the window is counted once, unless it is on the last day of its month. -/
theorem countP_periods {now t : Int} (era : 1206 ≤ month now) (exists_ : DayExists now) (window : InWindow now t) :
    (periods now).countP (·.contains t) = if t ≤ (monthStart (month t + 1) - 1) * msPerDay then 1 else 0 := by
  rw [periods_getElem era exists_, List.countP_map]
  obtain ⟨first, last⟩ := window
  obtain ⟨k, hk, same⟩ : ∃ k : Nat, k < 7 ∧ month t = month now - 6 + k :=
    ⟨(month t - (month now - 6)).toNat, by omega, by omega⟩
  have only (j : Nat) : ((·.contains t) ∘ fun (k : Nat) => cutMonth (month now - 6 + k)) j =
      (j == k && decide (t ≤ (monthStart (month t + 1) - 1) * msPerDay)) := by
    rw [Bool.eq_iff_iff, Function.comp, contains_cutMonth, Bool.and_eq_true, beq_iff_eq, decide_eq_true_eq]
    constructor
    · rintro ⟨month_, ends⟩
      rw [← month_] at ends
      exact ⟨by omega, ends⟩
    · rintro ⟨rfl, ends⟩
      rw [same] at ends ⊢
      exact ⟨rfl, ends⟩
  rw [List.countP_congr fun j _ => by rw [only j]]
  split
  · rename_i early
    simp only [early, decide_true, Bool.and_true]
    exact List.count_eq_one_of_mem List.nodup_range (List.mem_range.2 hk)
  · rename_i late
    simp [late]

end Heightt.AnalyticsService
