import Heightt.ReadCommitted.InTurn

/-!
# What a transaction sees

`Within` tells which statements a program adds to the transaction it runs in.
`Inside` tells what the transaction sees instead: the state with its own
statements applied, which nobody else changes in turn. So a transaction that
loops keeps an invariant of the state that it sees.
-/

namespace Heightt.ReadCommitted

open Database

variable {D X W C M Row Col E α β : Type} {R : C → Type} [Database D W Row Col E] [External X C R M]

/-- `p`, run in a transaction that sees `s`, sees a state that satisfies `G` when it returns. -/
def Inside (X : Type) {M : Type} [External X C R M] (p : Prog D W C R E α) (s : D) (G : α → D → Prop) :
    Prop :=
  ∀ (d : D) (x : X) (F : List W), applyAll F d = s → Within p d x F fun a F' => G a (applyAll F' d)

namespace Inside

variable {s : D} {G : α → D → Prop}

theorem mono {p : Prog D W C R E α} {G' : α → D → Prop} (hp : Inside X p s G)
    (h : ∀ a s', G a s' → G' a s') : Inside X p s G' :=
  fun d x F hF => (hp d x F hF).mono fun a F' => h a (applyAll F' d)

theorem ret {a : α} (h : G a s) : Inside X (.ret a : Prog D W C R E α) s G := by
  rintro d x F rfl
  exact .ret h

theorem throw (e : E) : Inside X (.throw e : Prog D W C R E α) s G := fun _ _ _ _ => .throw e

theorem bind {p : Prog D W C R E α} {f : α → Prog D W C R E β} {G' : β → D → Prop}
    (hp : Inside X p s G) (hf : ∀ a s', G a s' → Inside X (f a) s' G') : Inside X (p.bind f) s G' :=
  fun d x F hF => (hp d x F hF).bind fun a F' ha => hf a _ ha d x F' rfl

theorem exec {w : W} {G : Unit → D → Prop} (h : check w s = none → G () (apply w s)) :
    Inside X (Prog.exec w : Prog D W C R E Unit) s G := by
  rintro d x F rfl
  refine .exec fun valid => ?_
  rw [applyAll_append]
  exact h valid

theorem exec_bind {w : W} {f : Unit → Prog D W C R E β} {G : β → D → Prop}
    (hf : check w s = none → Inside X (f ()) (apply w s) G) : Inside X ((Prog.exec w).bind f) s G :=
  (exec (G := fun _ s' => Inside X (f ()) s' G) hf).bind fun _ _ h => h

theorem query_bind {g : D → α} {f : α → Prog D W C R E β} {G : β → D → Prop}
    (hf : Inside X (f (g s)) s G) : Inside X ((Prog.query g).bind f) s G := by
  rintro d x F rfl
  exact .query_bind (hf d x F rfl)

theorem ensure_bind {p : Prop} [Decidable p] {e : E} {f : Unit → Prog D W C R E β} {G : β → D → Prop}
    (hf : p → Inside X (f ()) s G) : Inside X ((Prog.ensure p e).bind f) s G :=
  fun d x F hF => .ensure_bind fun hp => hf hp d x F hF

theorem orThrow_bind {o : Option α} {e : E} {f : α → Prog D W C R E β} {G : β → D → Prop}
    (hf : ∀ a, o = some a → Inside X (f a) s G) : Inside X ((Prog.orThrow o e).bind f) s G :=
  fun d x F hF => .orThrow_bind fun a ha => hf a ha d x F hF

theorem whenSome {o : Option α} {f : α → Prog D W C R E Unit} {G : Unit → D → Prop}
    (hf : ∀ a, o = some a → Inside X (f a) s G) (hG : o = none → G () s) :
    Inside X (Prog.whenSome o f) s G := by
  cases o with
  | some a => exact hf a rfl
  | none => exact ret (hG rfl)

theorem when {c : Prop} [Decidable c] {p : Prog D W C R E Unit} {G : Unit → D → Prop}
    (hp : c → Inside X p s G) (hG : ¬c → G () s) : Inside X (Prog.when c p) s G := by
  unfold Prog.when
  split
  · exact hp ‹_›
  · exact ret (hG ‹_›)

/-- **The loop rule**: `I` speaks of the elements that are left. -/
theorem forEach {as : List α} {f : α → Prog D W C R E Unit} {I : List α → D → Prop} (start : I as s)
    (step : ∀ a as s, I (a :: as) s → Inside X (f a) s fun _ s' => I as s') :
    Inside X (Prog.forEach as f) s fun _ s' => I [] s' := by
  induction as generalizing s with
  | nil => exact ret start
  | cons a as ih => exact (step a as s start).bind fun _ s' hs => ih hs

/-- A transaction in turn commits the state that it sees when its body returns. -/
theorem turns {body : Prog D W C R E α} {d : D} {x : X} {S : α → D → X → Prop} {T : D → X → Prop}
    (hbody : Inside X body d G) (h : ∀ a s', G a s' → S a s' x) (he : T d x) :
    Turns (Prog.transaction body) d x S T :=
  .transaction (hbody d x [] rfl) (fun a F ha _ => h a (applyAll F d) ha) he

end Inside

end Heightt.ReadCommitted
