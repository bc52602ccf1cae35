import Heightt.ReadCommitted.InTurn

/-!
# Loops with results

A loop over a list that collects what its body returns for the elements.
-/

namespace Heightt.ReadCommitted

variable {D X W C M Row Col E α β : Type} {R : C → Type} [Database D W Row Col E] [External X C R M]

/-- What `f` returns for the elements, in order, where it returns something. -/
def Prog.collect : List α → (α → Prog D W C R E (Option β)) → Prog D W C R E (List β)
  | [], _ => ret []
  | a :: as, f => (f a).bind fun b => (collect as f).bind fun bs => ret (b.toList ++ bs)

/-- **The loop rule**: `I` speaks of the elements that are left and of what has been collected. -/
theorem Turns.collect {as : List α} {f : α → Prog D W C R E (Option β)} {I : List α → List β → D → X → Prop}
    {T : D → X → Prop} {d : D} {x : X} (acc : List β) (start : I as acc d x)
    (step : ∀ a as acc d x, I (a :: as) acc d x → Turns (f a) d x (fun b => I as (acc ++ b.toList)) T) :
    Turns (Prog.collect as f) d x (fun bs => I [] (acc ++ bs)) T := by
  induction as generalizing acc d x with
  | nil =>
    rw [Prog.collect]
    refine .ret ?_
    rw [List.append_nil]
    exact start
  | cons a as ih =>
    rw [Prog.collect]
    refine (step a as acc d x start).bind fun b d' x' h => (ih _ h).bind fun bs d'' x'' h => .ret ?_
    rw [← List.append_assoc]
    exact h

end Heightt.ReadCommitted
