import Heightt.ReadCommitted.InTurn

/-!
# Requests served in turn

Each request runs alone, ends in any way it can, and leaves its states to the next one. What holds of
the answers so far and the states is kept by every request, whether it returns or fails.
-/

namespace Heightt.ReadCommitted

variable {Q D X W C M Row Col E α : Type} {R : C → Type} [Database D W Row Col E] [External X C R M]

/-- The requests and answers of programs that were served in turn from the states `d` and `x`, and the states left. -/
inductive ServedInTurn (program : Q → Prog D W C R E α) (d : D) (x : X) : List (Q × Except E α) → D → X → Prop
  | start : ServedInTurn program d x [] d x
  | next {log : List (Q × Except E α)} {d' : D} {x' : X} (q : Q) (o : Outcome D X W E α)
      (before : ServedInTurn program d x log d' x') (ends : (program q).Ends [] d' x' o) :
      ServedInTurn program d x (log ++ [(q, o.result)]) o.db o.ext

/-- **The rule of served requests.** -/
theorem ServedInTurn.induct {program : Q → Prog D W C R E α} {d d' : D} {x x' : X} {log : List (Q × Except E α)}
    {I : List (Q × Except E α) → D → X → Prop} (served : ServedInTurn program d x log d' x') (start : I [] d x)
    (step : ∀ log d' x' q, I log d' x' → Turns (program q) d' x' (fun a => I (log ++ [(q, .ok a)]))
      fun d'' x'' => ∀ e, I (log ++ [(q, .error e)]) d'' x'') : I log d' x' := by
  induction served with
  | start => exact start
  | next q o before ends ih =>
    obtain ⟨result, frames, db, ext⟩ := o
    have post := (step _ _ _ q ih _ ends).2
    cases result with
    | ok a => exact post
    | error e => exact post e

end Heightt.ReadCommitted
