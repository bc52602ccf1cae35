import Heightt.ReadCommitted.Invariant

/-!
# Programs that commit only certain statements

`Makes (Committing T)` says of a program that the statements of every transaction it
commits satisfy `T`, whatever the others do. What every such commit keeps, where the
run allows it, holds in every state the run reaches (`Reaches.induct_of_committing`).
-/

namespace Heightt.ReadCommitted

open Database

variable {D W C : Type} {R : C → Type} {E α β Row Col : Type} [Database D W Row Col E]

/-- The statements of a committed transaction satisfy `T`. -/
def Committing (T : List W → Prop) : Event W C R → Prop
  | .committed _ F => T F
  | _ => True

/-- Every one of the statements satisfies `T`. -/
def Each (T : W → Prop) (F : List W) : Prop := ∀ w ∈ F, T w

theorem each_nil (T : W → Prop) : Each T [] := fun _ mem => (List.not_mem_nil mem).elim

theorem each_singleton {T : W → Prop} {w : W} (hw : T w) : Each T [w] :=
  fun _ mem => List.mem_singleton.1 mem ▸ hw

/-! ## Programs that add only certain statements -/

namespace Adds

variable {P : Event W C R → Prop} {T : W → Prop}

theorem each_ret (a : α) : Adds P (.ret a : Prog D W C R E α) fun _ F => Each T F := .ret (each_nil T)

theorem each_bind {p : Prog D W C R E α} {f : α → Prog D W C R E β} (hp : Adds P p fun _ F => Each T F)
    (hf : ∀ a, Adds P (f a) fun _ F => Each T F) : Adds P (p.bind f) fun _ F => Each T F :=
  hp.bind fun a _ hF => (hf a).mono fun _ _ hF' w mem =>
    (List.mem_append.1 mem).elim (hF w) (hF' w)

theorem each_exec {w : W} (hw : T w) : Adds P (Prog.exec w : Prog D W C R E Unit) fun _ F => Each T F :=
  .exec (each_singleton hw)

theorem each_query (f : D → α) : Adds P (Prog.query f : Prog D W C R E α) fun _ F => Each T F :=
  .query fun _ => each_nil T

theorem each_ensure (p : Prop) [Decidable p] (e : E) :
    Adds P (Prog.ensure p e : Prog D W C R E Unit) fun _ F => Each T F := by
  unfold Prog.ensure
  split
  · exact each_ret ()
  · exact throw e

theorem each_orThrow (o : Option α) (e : E) :
    Adds P (Prog.orThrow o e : Prog D W C R E α) fun _ F => Each T F := by
  cases o with
  | some a => exact each_ret a
  | none => exact throw e

theorem each_when {c : Prop} [Decidable c] {p : Prog D W C R E Unit} (hp : Adds P p fun _ F => Each T F) :
    Adds P (Prog.when c p) fun _ F => Each T F := by
  unfold Prog.when
  split
  · exact hp
  · exact each_ret ()

theorem each_whenSome {o : Option α} {f : α → Prog D W C R E Unit}
    (hf : ∀ a, o = some a → Adds P (f a) fun _ F => Each T F) :
    Adds P (Prog.whenSome o f) fun _ F => Each T F := by
  cases o with
  | some a => exact hf a rfl
  | none => exact each_ret ()

theorem each_forEach {l : List α} {f : α → Prog D W C R E Unit} (hf : ∀ a, Adds P (f a) fun _ F => Each T F) :
    Adds P (Prog.forEach l f) fun _ F => Each T F := by
  induction l with
  | nil => exact each_ret ()
  | cons a l ih => exact each_bind (hf a) fun _ => ih

end Adds

/-- Run inside an open transaction, `p` adds only statements that satisfy `T`. -/
def Fills (T : W → Prop) (p : Prog D W C R E α) : Prop := Adds (Committing (Each T)) p fun _ F => Each T F

namespace Fills

variable {T : W → Prop}

theorem ret (a : α) : Fills T (.ret a : Prog D W C R E α) := .each_ret a

theorem throw (e : E) : Fills T (.throw e : Prog D W C R E α) := Adds.throw e

theorem bind {p : Prog D W C R E α} {f : α → Prog D W C R E β} (hp : Fills T p)
    (hf : ∀ a, Fills T (f a)) : Fills T (p.bind f) :=
  .each_bind hp hf

theorem exec {w : W} (hw : T w) : Fills T (Prog.exec w : Prog D W C R E Unit) := .each_exec hw

theorem query (f : D → α) : Fills T (Prog.query f : Prog D W C R E α) := .each_query f

theorem ensure (p : Prop) [Decidable p] (e : E) : Fills T (Prog.ensure p e : Prog D W C R E Unit) :=
  .each_ensure p e

theorem orThrow (o : Option α) (e : E) : Fills T (Prog.orThrow o e : Prog D W C R E α) :=
  .each_orThrow o e

theorem whenSome {o : Option α} {f : α → Prog D W C R E Unit} (hf : ∀ a, Fills T (f a)) :
    Fills T (Prog.whenSome o f) :=
  .each_whenSome fun a _ => hf a

theorem forEach {l : List α} {f : α → Prog D W C R E Unit} (hf : ∀ a, Fills T (f a)) :
    Fills T (Prog.forEach l f) :=
  .each_forEach hf

end Fills

section Makes

variable {T : List W → Prop} {S : α → Prop}

theorem committing_statement {w : W} (hw : T [w]) :
    Makes (Committing T) (Prog.statement w : Prog D W C R E Unit) fun _ => True :=
  .statement fun _ => hw

theorem committing_outside {f : D → α} (hf : ∀ d, S (f d)) (hT : T []) :
    Makes (Committing T) (Prog.outside f : Prog D W C R E α) S := .outside hf fun _ => hT

theorem committing_request (c : C) : Makes (Committing T) (Prog.request c : Prog D W C R E (R c)) fun _ => True :=
  .request (fun _ => trivial) trivial

theorem committing_transaction {T : W → Prop} {body : Prog D W C R E α} (hbody : Fills T body) :
    Makes (Committing (Each T)) (Prog.transaction body) fun _ => True :=
  .transaction hbody fun _ _ _ hF => ⟨hF, trivial⟩

end Makes

variable {X M : Type} [External X C R M] [DecidableEq Row]

/-- **The commit rule**: what commits that satisfy `T` keep, where the run allows them,
holds in every configuration that it reaches. -/
theorem Reaches.induct_of_committing {P : Config D X W C R E → Effect W C → Prop} {db : D} {ext : X}
    {progs : List (Prog D W C R E Unit)} {c : Config D X W C R E}
    (run : Reaches P (Config.start db ext progs) c) {T : Nat → List W → Prop}
    (within : ∀ i p, progs[i]? = some p → Makes (Committing (T i)) p fun _ => True)
    (J : D → List (Commit D W) → Prop) (init : J db [])
    (step : ∀ {c : Config D X W C R E} {i : Nat} {nested : Bool} {F : List W}, T i F →
      violation F c.db = none → P c (.commit i nested F) → J c.db c.log →
      J (applyAll F c.db) (c.log ++ [⟨i, F, c.db⟩])) : J c.db c.log := by
  refine run.invariant_of_makes within (fun c => J c.db c.log) init ?_
  intro c c' eff moves allowed hJ
  cases moves with
  | internal _ db ext past log =>
    rw [db, log]
    exact hJ
  | called i call answered admitted db ext past log =>
    rw [db, log]
    exact hJ
  | unsent i call admitted db ext past log =>
    rw [db, log]
    exact hJ
  | commit i nested F admitted valid db ext past log =>
    rw [db, log]
    exact step admitted valid allowed hJ

end Heightt.ReadCommitted
