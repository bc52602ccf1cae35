import Mathlib.Order.Bounds.Basic
import Mathlib.Data.Int.Order.Basic

/-!
# Bisection

The search for the last integer of an interval at which a property holds that, once
it fails, does not hold again. The middle is rounded up, so that the lower end, which
is never tried, is the answer when the property holds nowhere above it.
-/

namespace Heightt.Bisection

/-- The last integer from `low` to `high` at which `p` holds; `low` if there is none. -/
def search (p : Int → Bool) (low high : Int) : Int :=
  if low < high then
    let middle := (low + high + 1) / 2
    if p middle then search p middle high else search p low (middle - 1)
  else low
termination_by (high - low).toNat
decreasing_by all_goals omega

/-- The property does not come back: where it holds, it holds at all positive integers before. -/
def Downward (p : Int → Bool) : Prop := ∀ ⦃m n⦄, 0 < m → m ≤ n → p n = true → p m = true

/-- `m` is the greatest element of `s`, or zero where `s` is empty. -/
def GreatestOrZero (s : Set Int) (m : Int) : Prop := IsGreatest s m ∨ s = ∅ ∧ m = 0

theorem GreatestOrZero.unique {s : Set Int} {m n : Int} (hm : GreatestOrZero s m) (hn : GreatestOrZero s n) :
    m = n := by
  obtain hm | ⟨empty, rfl⟩ := hm
  · obtain hn | ⟨rfl, -⟩ := hn
    · exact hm.unique hn
    · exact hm.1.elim
  · obtain hn | ⟨-, rfl⟩ := hn
    · rw [empty] at hn
      exact hn.1.elim
    · rfl

/-- What the search has found when it ends. -/
structure Found (p : Int → Bool) (low high m : Int) : Prop where
  lower : low ≤ m
  upper : m ≤ high
  holds : low < m → p m = true
  last : ∀ n, m < n → n ≤ high → p n = false

theorem search_found {p : Int → Bool} (down : Downward p) (low high : Int) (nonneg : 0 ≤ low) (le : low ≤ high) :
    Found p low high (search p low high) := by
  fun_induction search p low high with
  | case1 low high lt middle holds ih =>
    have between : low < middle ∧ middle ≤ high := by omega
    have rest := ih (by omega) between.2
    refine ⟨by have := rest.lower; omega, rest.upper, fun _ => ?_, rest.last⟩
    obtain same | above := rest.lower.eq_or_lt
    · rw [← same]
      exact holds
    · exact rest.holds above
  | case2 low high lt middle fails ih =>
    have between : low < middle ∧ middle ≤ high := by omega
    have rest := ih nonneg (by omega)
    refine ⟨rest.lower, by have := rest.upper; omega, rest.holds, fun n above within => ?_⟩
    by_cases before : n ≤ middle - 1
    · exact rest.last n above before
    -- From the middle on the property fails, since it failed there.
    · cases again : p n with
      | false => rfl
      | true => exact absurd (down (by omega) (by omega : middle ≤ n) again) fails
  | case3 low high ge =>
    exact ⟨le_refl _, le, fun lt => absurd lt (lt_irrefl _), fun n above within => by omega⟩

/-- From zero, the search finds the greatest positive integer at which the property holds,
if and only if it does not hold right above the interval. -/
theorem search_greatest_iff {p : Int → Bool} (down : Downward p) {high : Int} (nonneg : 0 ≤ high) :
    GreatestOrZero {m | 0 < m ∧ p m = true} (search p 0 high) ↔ p (high + 1) = false := by
  have found := search_found down 0 high le_rfl nonneg
  constructor
  · intro greatest
    cases beyond : p (high + 1) with
    | false => rfl
    | true =>
      have mem : high + 1 ∈ {m | 0 < m ∧ p m = true} := ⟨by omega, beyond⟩
      have upper := found.upper
      obtain greatest | ⟨empty, -⟩ := greatest
      · have := greatest.2 mem
        omega
      · rw [empty] at mem
        exact mem.elim
  · intro beyond
    have none (n : Int) (above : search p 0 high < n) : p n = false := by
      by_cases within : n ≤ high
      · exact found.last n above within
      · cases holds : p n with
        | false => rfl
        | true =>
          rw [down (by omega) (by omega : high + 1 ≤ n) holds] at beyond
          cases beyond
    obtain same | positive := found.lower.eq_or_lt
    · refine .inr ⟨Set.eq_empty_of_forall_notMem fun m mem => ?_, same.symm⟩
      have := none m (by rw [← same]; exact mem.1)
      rw [mem.2] at this
      cases this
    · refine .inl ⟨⟨positive, found.holds positive⟩, fun n mem => not_lt.1 fun above => ?_⟩
      exact Bool.noConfusion ((none n above).symm.trans mem.2)

end Heightt.Bisection
