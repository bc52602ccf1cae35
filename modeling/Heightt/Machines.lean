/-!
# Guarded runs of a state machine

A machine is a partial step function. A run may be restricted by a guard, which looks at an
action and the state before it. What the start has and every allowed step keeps holds wherever
a run gets.
-/

namespace Heightt.Machines

variable {S A : Type} {step : A → S → Option S} {P : S → A → Prop} {s₀ s : S}

/-- The states that steps reach from `s₀` if the guard `P` allows each of them. -/
inductive Reached (step : A → S → Option S) (P : S → A → Prop) (s₀ : S) : S → Prop where
  | start : Reached step P s₀ s₀
  | after {s s' : S} {a : A} : Reached step P s₀ s → P s a → step a s = some s' → Reached step P s₀ s'

namespace Reached

/-- **The run rule.** -/
theorem invariant {J : S → Prop} (run : Reached step P s₀ s) (init : J s₀)
    (keeps : ∀ {s s' : S} {a : A}, J s → P s a → step a s = some s' → J s') : J s := by
  induction run with
  | start => exact init
  | after _ allowed stepped ih => exact keeps ih allowed stepped

theorem trans {s' : S} (run : Reached step P s₀ s) (run' : Reached step P s s') : Reached step P s₀ s' := by
  induction run' with
  | start => exact run
  | after _ allowed stepped ih => exact ih.after allowed stepped

end Reached

/-- Take the actions one after the other, as long as the guard allows them. -/
def play (step : A → S → Option S) (P : S → A → Prop) [∀ s a, Decidable (P s a)] : List A → S → Option S
  | [], s => some s
  | a :: as, s => if P s a then (step a s).bind (play step P as) else none

theorem Reached.of_play [∀ s a, Decidable (P s a)] {as : List A} (h : play step P as s₀ = some s) :
    Reached step P s₀ s := by
  induction as generalizing s₀ with
  | nil =>
    cases h
    exact .start
  | cons a as ih =>
    rw [play] at h
    split at h
    · rename_i allowed
      obtain ⟨s₁, stepped, rest⟩ := Option.bind_eq_some_iff.1 h
      exact (Reached.start.after allowed stepped).trans (ih rest)
    · cases h

/-- A state with property `p` that a run of given actions reaches. -/
theorem Reached.of_play_any (step : A → S → Option S) (P : S → A → Prop) [∀ s a, Decidable (P s a)]
    (s₀ : S) (as : List A) (p : S → Prop) [DecidablePred p]
    (h : (play step P as s₀).any (fun s => decide (p s)) = true) : ∃ s, Reached step P s₀ s ∧ p s := by
  obtain ⟨s, played, hp⟩ := (Option.any_eq_true _ _).1 h
  exact ⟨s, .of_play played, of_decide_eq_true hp⟩

end Heightt.Machines
