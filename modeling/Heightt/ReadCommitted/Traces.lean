import Heightt.ReadCommitted.Statement
import Mathlib.Algebra.Order.Ring.Nat

/-!
# What statements leave behind

Statements that violate no constraint, one after the other: a property that each of them keeps is
kept by all, what one of them makes and none undoes is there in the end, and what is there in the end
was there before or is made by one of them. A count that each statement raises by its own share is
raised by the sum of the shares.
-/

namespace Heightt.ReadCommitted.Database

variable {D W Row Col E : Type} [Database D W Row Col E] {P : D → Prop} {F : List W} {d : D}

theorem lasts_applyAll (lasts : ∀ w ∈ F, ∀ d : D, check w d = none → P d → P (apply w d))
    (valid : violation F d = none) (h : P d) : P (applyAll F d) := by
  induction F generalizing d with
  | nil => exact h
  | cons w F ih =>
    obtain ⟨ok, valid⟩ := violation_cons.1 valid
    exact ih (fun w mem => lasts w (List.mem_cons_of_mem _ mem)) valid (lasts w List.mem_cons_self d ok h)

theorem made_applyAll {w : W} (mem : w ∈ F) (made : ∀ d : D, check w d = none → P (apply w d))
    (lasts : ∀ w ∈ F, ∀ d : D, check w d = none → P d → P (apply w d)) (valid : violation F d = none) :
    P (applyAll F d) := by
  induction F generalizing d with
  | nil => cases mem
  | cons v F ih =>
    obtain ⟨ok, valid⟩ := violation_cons.1 valid
    have later := fun w mem => lasts w (List.mem_cons_of_mem v mem)
    rw [applyAll_cons]
    obtain rfl | mem := List.mem_cons.1 mem
    · exact lasts_applyAll later valid (made d ok)
    · exact ih mem later valid

/-- Where the property comes from. -/
theorem of_applyAll {N : W → Prop}
    (arises : ∀ w ∈ F, ∀ d : D, check w d = none → P (apply w d) → P d ∨ N w)
    (valid : violation F d = none) (h : P (applyAll F d)) : P d ∨ ∃ w ∈ F, N w := by
  induction F generalizing d with
  | nil => exact .inl h
  | cons w F ih =>
    obtain ⟨ok, valid⟩ := violation_cons.1 valid
    obtain h | ⟨v, mem, made⟩ := ih (fun w mem => arises w (List.mem_cons_of_mem _ mem)) valid h
    · obtain h | made := arises w List.mem_cons_self d ok h
      · exact .inl h
      · exact .inr ⟨w, List.mem_cons_self, made⟩
    · exact .inr ⟨v, List.mem_cons_of_mem _ mem, made⟩

theorem count_applyAll {n : D → ℕ} {f : W → ℕ}
    (raises : ∀ (w : W) (d : D), check w d = none → n (apply w d) = n d + f w)
    (valid : violation F d = none) : n (applyAll F d) = n d + (F.map f).sum := by
  induction F generalizing d with
  | nil => rfl
  | cons w F ih =>
    obtain ⟨ok, valid⟩ := violation_cons.1 valid
    rw [applyAll_cons, ih valid, raises w d ok, List.map_cons, List.sum_cons]
    omega

end Heightt.ReadCommitted.Database
