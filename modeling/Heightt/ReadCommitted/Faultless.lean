import Heightt.ReadCommitted.Guarantee

/-!
# Programs that succeed

A program succeeds when none of its own operations fails, whatever the others do.
`Succeeds V p` says that no branch of `p` without a fault ends in an error: in the
states that the setting `V` describes, every statement passes the constraints when
it is executed and when it commits, and the replies of other systems are what the
program asks for. A thread that succeeds is never refused anything, and can always
go on until it has returned or waits (`Runs.returns_or_waits`).
-/

namespace Heightt.ReadCommitted

open Database

variable {D X W C M Row Col E α β : Type} {R : C → Type} [Database D W Row Col E]

/-- What a program can count on. -/
structure Setting (D W C : Type) (R : C → Type) where
  /-- What the others do to the state. -/
  rely : D → D → Prop
  inv : D → Prop
  /-- The program is at these statements of an open transaction only in such a state. -/
  allows : D → List W → Prop
  answers : (c : C) → R c → Prop

/-- Seen from state `s`, with the open transactions `fs`, the program ends in no
error, and returns with `Q`. -/
def Succeeds (V : Setting D W C R) : Prog D W C R E α → D → List (List W) →
    (α → D → List (List W) → Prop) → Prop
  | .ret a, s, fs, Q => Q a s fs
  | .throw _, _, _, _ => False
  | .read k _, s, fs, Q =>
    ∀ d, V.rely s d → V.inv d → Succeeds V (k (visible fs d)) d fs Q
  | .write w k _, s, fs, Q => match fs with
    | [] => False
    | F :: fs =>
      (∀ d, V.rely s d → V.inv d → V.allows d (F ++ [w]) → check w (applyAll F d) = none) ∧
        Succeeds V k s ((F ++ [w]) :: fs) Q
  | .begin k _, s, fs, Q => Succeeds V k s ([] :: fs) Q
  | .commit k _, s, fs, Q => match fs with
    | [] => False
    | F :: fs => ∀ d, V.rely s d → V.inv d → V.allows d F →
        violation F d = none ∧ (V.inv (applyAll F d) → Succeeds V k (applyAll F d) fs Q)
  | .rollback k, s, fs, Q => match fs with
    | [] => False
    | _ :: fs => Succeeds V k s fs Q
  | .call c k _, s, fs, Q =>
    ∀ d r, V.rely s d → V.inv d → V.answers c r → Succeeds V (k r) d fs Q

namespace Succeeds

variable {V : Setting D W C R} {s : D} {fs : List (List W)}

theorem mono {p : Prog D W C R E α} {Q Q' : α → D → List (List W) → Prop} (hp : Succeeds V p s fs Q)
    (hQ : ∀ a s fs, Q a s fs → Q' a s fs) : Succeeds V p s fs Q' := by
  induction p generalizing s fs with
  | ret a => exact hQ a s fs hp
  | throw e => exact hp
  | read k err ihk ihe => exact fun d hd hi => ihk _ (hp d hd hi)
  | write w k err ihk ihe =>
    cases fs with
    | nil => exact hp
    | cons F fs => exact ⟨hp.1, ihk hp.2⟩
  | «begin» k err ihk ihe => exact ihk hp
  | commit k err ihk ihe =>
    cases fs with
    | nil => exact hp
    | cons F fs =>
      intro d hd hi ha
      exact ⟨(hp d hd hi ha).1, fun hi' => ihk ((hp d hd hi ha).2 hi')⟩
  | rollback k ihk =>
    cases fs with
    | nil => exact hp
    | cons F fs => exact ihk hp
  | call c k err ihk ihe => exact fun d r hd hi hr => ihk r (hp d r hd hi hr)

theorem bind {p : Prog D W C R E α} {f : α → Prog D W C R E β} {Q : β → D → List (List W) → Prop}
    (hp : Succeeds V p s fs fun a s fs => Succeeds V (f a) s fs Q) : Succeeds V (p.bind f) s fs Q := by
  induction p generalizing s fs with
  | ret a => exact hp
  | throw e => exact hp
  | read k err ihk ihe => exact fun d hd hi => ihk _ (hp d hd hi)
  | write w k err ihk ihe =>
    cases fs with
    | nil => exact hp
    | cons F fs => exact ⟨hp.1, ihk hp.2⟩
  | «begin» k err ihk ihe => exact ihk hp
  | commit k err ihk ihe =>
    cases fs with
    | nil => exact hp
    | cons F fs =>
      intro d hd hi ha
      exact ⟨(hp d hd hi ha).1, fun hi' => ihk ((hp d hd hi ha).2 hi')⟩
  | rollback k ihk =>
    cases fs with
    | nil => exact hp
    | cons F fs => exact ihk hp
  | call c k err ihk ihe => exact fun d r hd hi hr => ihk r (hp d r hd hi hr)

/-- A handler is not needed. -/
theorem onThrow {p : Prog D W C R E α} {h : E → Prog D W C R E α} {Q : α → D → List (List W) → Prop}
    (hp : Succeeds V p s fs Q) : Succeeds V (p.onThrow h) s fs Q := by
  induction p generalizing s fs with
  | ret a => exact hp
  | throw e => exact hp.elim
  | read k err ihk ihe => exact fun d hd hi => ihk _ (hp d hd hi)
  | write w k err ihk ihe =>
    cases fs with
    | nil => exact hp
    | cons F fs => exact ⟨hp.1, ihk hp.2⟩
  | «begin» k err ihk ihe => exact ihk hp
  | commit k err ihk ihe =>
    cases fs with
    | nil => exact hp
    | cons F fs =>
      intro d hd hi ha
      exact ⟨(hp d hd hi ha).1, fun hi' => ihk ((hp d hd hi ha).2 hi')⟩
  | rollback k ihk =>
    cases fs with
    | nil => exact hp
    | cons F fs => exact ihk hp
  | call c k err ihk ihe => exact fun d r hd hi hr => ihk r (hp d r hd hi hr)

section Rules

variable {Q : β → D → List (List W) → Prop}

theorem query_bind {g : D → α} {f : α → Prog D W C R E β}
    (hf : ∀ d, V.rely s d → V.inv d → Succeeds V (f (g d)) d [] Q) :
    Succeeds V ((Prog.query g).bind f) s [] Q := hf

theorem request_bind {c : C} {f : R c → Prog D W C R E β}
    (hf : ∀ d r, V.rely s d → V.inv d → V.answers c r → Succeeds V (f r) d [] Q) :
    Succeeds V ((Prog.request c).bind f) s [] Q := hf

theorem ensure_bind {p : Prop} [Decidable p] {e : E} {f : Unit → Prog D W C R E β} (hp : p)
    (hf : Succeeds V (f ()) s fs Q) : Succeeds V ((Prog.ensure p e).bind f) s fs Q := by
  rw [Prog.ensure, if_pos hp]
  exact hf

theorem orThrow_bind {o : Option α} {e : E} {f : α → Prog D W C R E β} {a : α} (ho : o = some a)
    (hf : Succeeds V (f a) s fs Q) : Succeeds V ((Prog.orThrow o e).bind f) s fs Q := by
  rw [ho]
  exact hf

theorem outside_bind {g : D → α} {f : α → Prog D W C R E β}
    (hf : ∀ d d', V.rely s d → V.inv d → V.rely d d' → V.inv d' → Succeeds V (f (g d)) d' [] Q) :
    Succeeds V ((Prog.outside g).bind f) s [] Q :=
  fun d hd hi d' hd' hi' _ => ⟨rfl, fun _ => hf d d' hd hi hd' hi'⟩

/-- A statement passes the constraints, both when it is executed and when it commits. -/
theorem statement_bind {w : W} {f : Unit → Prog D W C R E β}
    (ok : ∀ d, V.rely s d → V.inv d → V.allows d [w] → check w d = none)
    (hf : ∀ d, V.rely s d → V.inv d → V.inv (apply w d) → Succeeds V (f ()) (apply w d) [] Q) :
    Succeeds V ((Prog.statement w).bind f) s [] Q := by
  refine ⟨fun d hd hi ha => ok d hd hi ha, fun d hd hi ha => ⟨?_, fun hi' => hf d hd hi hi'⟩⟩
  exact violation_cons.2 ⟨ok d hd hi ha, rfl⟩

end Rules

end Succeeds

variable [External X C R M] [DecidableEq Row]

/-- The next operation of the thread is one that the setting describes. -/
def Thread.Allowed (V : Setting D W C R) (db : D) (ext : X) (t : Thread D W C R E) : Prop :=
  match t.prog, t.frames with
  | .write w _ _, f :: _ => V.allows db (f.writes ++ [w])
  | .commit _ _, f :: _ => V.allows db f.writes
  | .call c _ _, _ => V.answers c (External.handle c ext).2
  | _, _ => True

omit [DecidableEq Row] in
instance (V : Setting D W C R) [∀ d F, Decidable (V.allows d F)] [∀ c r, Decidable (V.answers c r)]
    (db : D) (ext : X) (t : Thread D W C R E) : Decidable (t.Allowed V db ext) := by
  unfold Thread.Allowed
  split <;> infer_instance

/-- The thread will not be refused anything. -/
structure Thread.Safe (V : Setting D W C R) (db : D) (t : Thread D W C R E) : Prop where
  isOpen : ∀ f ∈ t.frames, f.isOpen = true
  succeeds : ∃ s, V.rely s db ∧ Succeeds V t.prog s t.opened fun _ _ fs => fs = []

omit [DecidableEq Row] in
theorem Thread.Safe.not_threw {V : Setting D W C R} {db : D} {t : Thread D W C R E} (h : t.Safe V db) :
    t.threw = false := by
  obtain ⟨s, -, hp⟩ := h.succeeds
  obtain ⟨prog, frames, past⟩ := t
  cases prog with
  | throw e => exact hp.elim
  | _ => rfl

/-- The next statement waits for a row that another transaction has locked. -/
def Thread.Waits (locked : List Row) (t : Thread D W C R E) : Prop :=
  match t.prog, t.frames with
  | .write w _ _, _ :: fs => ∃ r ∈ rows D w, r ∈ locked ++ fs.flatMap (Frame.held D)
  | _, _ => False

/-- The committed state after a step with the effect. -/
def Effect.after (eff : Effect W C) (db : D) : D :=
  match eff with
  | .commit _ _ F => applyAll F db
  | _ => db

omit [DecidableEq Row] in
theorem Config.db_update {c : Config D X W C R E} (i : Nat) (t : Thread D W C R E) (eff : Effect W C) :
    (c.update i t eff).db = eff.after c.db := by
  cases eff <;> rfl

/-- Unless it has returned or waits, a safe thread can take its next step. -/
theorem Thread.Safe.progress {V : Setting D W C R} {db : D} {ext : X} {t : Thread D W C R E} (i : Nat)
    {locked : List Row} (h : t.Safe V db) :
    t.returned = true ∨ t.Waits locked ∨ (t.step i db ext locked .ok).isSome = true := by
  obtain ⟨prog, frames, past⟩ := t
  obtain ⟨isOpen, s, hs, hp⟩ := h
  cases prog with
  | ret a => exact .inl rfl
  | throw e => exact hp.elim
  | read k err =>
    refine .inr (.inr ?_)
    cases frames with
    | nil => rfl
    | cons f fs => simp [step, isOpen f List.mem_cons_self]
  | write w k err =>
    cases frames with
    | nil => exact hp.elim
    | cons f fs =>
      by_cases free : ∀ r ∈ rows D w, r ∉ locked ++ fs.flatMap (Frame.held D)
      · refine .inr (.inr ?_)
        simp only [step, isOpen f List.mem_cons_self, true_and, if_pos free]
        split <;> rfl
      · refine .inr (.inl ?_)
        push Not at free
        exact free
  | «begin» k err => exact .inr (.inr rfl)
  | commit k err =>
    cases frames with
    | nil => exact hp.elim
    | cons f fs =>
      refine .inr (.inr ?_)
      simp only [step, isOpen f List.mem_cons_self, if_true]
      split <;> rfl
  | rollback k =>
    cases frames with
    | nil => exact hp.elim
    | cons f fs => exact .inr (.inr rfl)
  | call c k err => exact .inr (.inr rfl)

/-- A step keeps a thread safe. -/
theorem Thread.Safe.step {V : Setting D W C R} {db : D} {ext : X} {t t' : Thread D W C R E} {i : Nat}
    {locked : List Row} {eff : Effect W C} (h : t.Safe V db) (refl : ∀ d, V.rely d d) (hi : V.inv db)
    (allowed : t.Allowed V db ext) (hstep : t.step i db ext locked .ok = some (t', eff))
    (hi' : V.inv (eff.after db)) : t'.Safe V (eff.after db) := by
  obtain ⟨prog, frames, past⟩ := t
  obtain ⟨isOpen, s, hs, hp⟩ := h
  cases prog with
  | ret a => simp [Thread.step] at hstep
  | throw e => exact hp.elim
  | read k err =>
    cases frames with
    | nil =>
      simp only [Thread.step, Option.some.injEq, Prod.mk.injEq] at hstep
      obtain ⟨rfl, rfl⟩ := hstep
      exact ⟨isOpen, db, refl db, hp db hs hi⟩
    | cons f fs =>
      simp only [Thread.step, Option.ite_none_right_eq_some, Option.some.injEq, Prod.mk.injEq] at hstep
      obtain ⟨-, rfl, rfl⟩ := hstep
      exact ⟨isOpen, db, refl db, hp db hs hi⟩
  | write w k err =>
    cases frames with
    | nil => exact hp.elim
    | cons f fs =>
      have ok : check w (applyAll f.writes db) = none := hp.1 db hs hi allowed
      simp only [Thread.step, ok, Option.ite_none_right_eq_some, Option.some.injEq, Prod.mk.injEq] at hstep
      obtain ⟨-, rfl, rfl⟩ := hstep
      refine ⟨fun g hg => ?_, s, hs, hp.2⟩
      rcases List.mem_cons.1 hg with rfl | hg
      · exact isOpen f List.mem_cons_self
      · exact isOpen g (List.mem_cons_of_mem _ hg)
  | «begin» k err =>
    simp only [Thread.step, Option.some.injEq, Prod.mk.injEq] at hstep
    obtain ⟨rfl, rfl⟩ := hstep
    refine ⟨fun g hg => ?_, s, hs, hp⟩
    rcases List.mem_cons.1 hg with rfl | hg
    · rfl
    · exact isOpen g hg
  | commit k err =>
    cases frames with
    | nil => exact hp.elim
    | cons f fs =>
      obtain ⟨valid, hk⟩ := hp db hs hi allowed
      simp only [Thread.step, valid, Option.ite_none_right_eq_some, Option.some.injEq,
        Prod.mk.injEq] at hstep
      obtain ⟨-, rfl, rfl⟩ := hstep
      exact ⟨fun g hg => isOpen g (List.mem_cons_of_mem _ hg), _, refl _, hk hi'⟩
  | rollback k =>
    cases frames with
    | nil => exact hp.elim
    | cons f fs =>
      simp only [Thread.step, Option.some.injEq, Prod.mk.injEq] at hstep
      obtain ⟨rfl, rfl⟩ := hstep
      exact ⟨fun g hg => isOpen g (List.mem_cons_of_mem _ hg), s, hs, hp⟩
  | call c k err =>
    simp only [Thread.step, Option.some.injEq, Prod.mk.injEq] at hstep
    obtain ⟨rfl, rfl⟩ := hstep
    exact ⟨isOpen, db, refl db, hp db _ hs hi allowed⟩

/-! ## Runs that spare one thread -/

/-- The configurations a run reaches when `P` allows each of its actions. -/
inductive Runs (P : Config D X W C R E → Action M E → Prop) (c₀ : Config D X W C R E) :
    Config D X W C R E → Prop where
  | refl : Runs P c₀ c₀
  | step {c c' : Config D X W C R E} {eff : Effect W C} (a : Action M E) :
    Runs P c₀ c → P c a → c.act a = some (eff, c') → Runs P c₀ c'

theorem Runs.trans {P : Config D X W C R E → Action M E → Prop} {c₀ c c' : Config D X W C R E}
    (h : Runs P c₀ c) (h' : Runs P c c') : Runs P c₀ c' := by
  induction h' with
  | refl => exact h
  | step a _ hP hact ih => exact ih.step a hP hact

theorem Runs.length_threads {P : Config D X W C R E → Action M E → Prop} {c₀ c : Config D X W C R E}
    (h : Runs P c₀ c) : c.threads.length = c₀.threads.length := by
  induction h with
  | refl => rfl
  | step a _ _ hact ih =>
    rw [← ih]
    cases a with
    | thread j choice =>
      simp only [Config.act, Option.bind_eq_bind, Option.bind_eq_some_iff, Option.pure_def,
        Option.some.injEq, Prod.mk.injEq] at hact
      obtain ⟨t, -, ⟨t', eff⟩, -, -, rfl⟩ := hact
      rw [Config.threads_update, List.length_set]
    | move m =>
      simp only [Config.act, Option.bind_eq_bind, Option.bind_eq_some_iff, Option.pure_def,
        Option.some.injEq, Prod.mk.injEq] at hact
      obtain ⟨ext, -, -, rfl⟩ := hact
      rfl

/-- The configuration a list of actions leads to, if `P` allows each of them. -/
def Config.replayBy (P : Config D X W C R E → Action M E → Prop) [∀ c a, Decidable (P c a)]
    (c : Config D X W C R E) : List (Action M E) → Option (Config D X W C R E)
  | [] => some c
  | a :: as =>
    if P c a then (c.act a).bind fun c' => c'.2.replayBy P as else none

/-- A list of actions that `P` allows reaches a configuration with what it is checked for. -/
theorem Runs.of_replay_any (P : Config D X W C R E → Action M E → Prop) [∀ c a, Decidable (P c a)]
    (c₀ : Config D X W C R E) (as : List (Action M E)) (p : Config D X W C R E → Prop) [DecidablePred p]
    (h : (c₀.replayBy P as).any (fun c => decide (p c)) = true) : ∃ c, Runs P c₀ c ∧ p c := by
  obtain ⟨c, hc, hp⟩ := (Option.any_eq_true _ _).1 h
  refine ⟨c, ?_, of_decide_eq_true hp⟩
  clear h hp
  induction as generalizing c₀ with
  | nil =>
    cases hc
    exact .refl
  | cons a as ih =>
    simp only [Config.replayBy, Option.ite_none_right_eq_some, Option.bind_eq_some_iff] at hc
    obtain ⟨hP, ⟨eff, c'⟩, hact, hc⟩ := hc
    exact (Runs.refl.step a hP hact).trans (ih c' hc)

/-- The operation does not fail. -/
def Choice.succeeds : Choice E → Bool
  | .ok => true
  | _ => false

def Action.succeeds : Action M E → Bool
  | .thread _ choice => choice.succeeds
  | .move _ => true

/-- The error that the program has ended in. -/
def Thread.thrown (t : Thread D W C R E) : Option E :=
  match t.prog with
  | .throw e => some e
  | _ => none

/-- No operation of thread `i` fails, and each is one that the setting describes. -/
def Config.Spares (V : Setting D W C R) (i : Nat) (c : Config D X W C R E) : Action M E → Prop
  | .thread j choice => j = i →
    choice.succeeds = true ∧ ∀ t ∈ c.threads[i]?, t.Allowed V c.db c.ext
  | .move _ => True

instance (V : Setting D W C R) [∀ d F, Decidable (V.allows d F)] [∀ c r, Decidable (V.answers c r)]
    (i : Nat) (c : Config D X W C R E) (a : Action M E) : Decidable (Config.Spares V i c a) := by
  cases a <;> unfold Config.Spares <;> infer_instance

section Safe

variable {rely : D → D → Prop} {Φ : Nat → D → List (Event W C R) → Event W C R → Prop}
  {Q : Nat → List (Event W C R) → Prop} {Qe : Nat → E → List (Event W C R) → Prop}
  {P : Config D X W C R E → Action M E → Prop} {c₀ c c' : Config D X W C R E}

/-- A commit is that of the thread that takes the step. -/
theorem Config.commit_of_act {j k : Nat} {choice : Choice E} {nested : Bool} {F : List W}
    (good : c.Good rely Φ Q Qe)
    (h : c.act (.thread j choice : Action M E) = some (.commit k nested F, c')) : k = j := by
  simp only [act, Option.bind_eq_bind, Option.bind_eq_some_iff, Option.pure_def, Option.some.injEq,
    Prod.mk.injEq] at h
  obtain ⟨t, ht, ⟨t', eff⟩, hstep, heff, -⟩ := h
  obtain ⟨s, hs, good_t⟩ := good j t ht
  obtain ⟨s', -, hsteps⟩ := Thread.step_spec hstep hs good_t
  rw [show eff = .commit k nested F from heff] at hsteps
  generalize t'.past = past' at hsteps
  cases hsteps with
  | internal _ silent => cases silent
  | commit => rfl

/-- **The run rule for a thread that succeeds.** In a run that spares thread `i`,
what the moves keep holds, and the thread stays safe, if it is safe at the start
and the others' commits are ones that it relies on. -/
theorem Runs.safe {V : Setting D W C R} {i : Nat} (run : Runs (Config.Spares (M := M) V i) c₀ c)
    (refl : ∀ d, rely d d) (trans : ∀ {a b c}, rely a b → rely b c → rely a c)
    (good : c₀.Good rely Φ Q Qe) (J : Config D X W C R E → Prop) (init : J c₀)
    (hJ : ∀ c, J c → V.inv c.db) (refl' : ∀ d, V.rely d d)
    (trans' : ∀ {a b c}, V.rely a b → V.rely b c → V.rely a c)
    (safe : ∀ t, c₀.threads[i]? = some t → t.Safe V c₀.db)
    (step : ∀ {c c' : Config D X W C R E} {eff : Effect W C}, Moves Φ c c' eff → J c →
      rely c.db c'.db ∧ J c' ∧ ((∀ nested F, eff ≠ .commit i nested F) → V.rely c.db c'.db)) :
    c.Good rely Φ Q Qe ∧ J c ∧ ∀ t, c.threads[i]? = some t → t.Safe V c.db := by
  induction run with
  | refl => exact ⟨good, init, safe⟩
  | @step c c' eff a _ spares hact ih =>
    obtain ⟨good, hj, safe⟩ := ih
    obtain ⟨hmoves, hgood⟩ := Config.act_spec hact refl trans good
    obtain ⟨keeps, hj', others⟩ := step hmoves hj
    refine ⟨hgood keeps, hj', fun t ht => ?_⟩
    have other (same : c'.threads[i]? = c.threads[i]?) (hne : ∀ nested F, eff ≠ .commit i nested F) :
        t.Safe V c'.db := by
      obtain ⟨isOpen, s, hs, hp⟩ := safe t (same ▸ ht)
      exact ⟨isOpen, s, trans' hs (others hne), hp⟩
    cases a with
    | move m =>
      have hm := hact
      simp only [Config.act, Option.bind_eq_bind, Option.bind_eq_some_iff, Option.pure_def,
        Option.some.injEq, Prod.mk.injEq] at hm
      obtain ⟨ext, -, rfl, rfl⟩ := hm
      refine other rfl fun _ _ h => ?_
      cases h
    | thread j choice =>
      have hthread := hact
      simp only [Config.act, Option.bind_eq_bind, Option.bind_eq_some_iff, Option.pure_def,
        Option.some.injEq, Prod.mk.injEq] at hthread
      obtain ⟨u, hu, ⟨u', eff'⟩, hstep, rfl, rfl⟩ := hthread
      by_cases hj : j = i
      · subst hj
        obtain ⟨hchoice, allowed⟩ := spares rfl
        have hinv := hJ _ hj'
        rw [Config.threads_update, List.getElem?_set_self (List.getElem?_eq_some_iff.1 hu).1,
          Option.some.injEq] at ht
        subst ht
        rw [Config.db_update] at hinv ⊢
        cases choice with
        | ok => exact (safe u hu).step refl' (hJ c hj) (allowed u hu) hstep hinv
        | _ => cases hchoice
      · refine other ?_ fun nested F heff => hj (Config.commit_of_act good (heff ▸ hact)).symm
        rw [Config.threads_update, List.getElem?_set_ne hj]

end Safe

/-- A program and what it can go on with. -/
inductive Prog.Next : Prog D W C R E α → Prog D W C R E α → Prop where
  | read (k : D → Prog D W C R E α) (err : E → Prog D W C R E α) (d : D) : Next (k d) (.read k err)
  | write (w : W) (k : Prog D W C R E α) (err : E → Prog D W C R E α) : Next k (.write w k err)
  | refused (w : W) (k : Prog D W C R E α) (err : E → Prog D W C R E α) (e : E) :
    Next (err e) (.write w k err)
  | begin (k : Prog D W C R E α) (err : E → Prog D W C R E α) : Next k (.begin k err)
  | commit (k : Prog D W C R E α) (err : E → Prog D W C R E α) : Next k (.commit k err)
  | violated (k : Prog D W C R E α) (err : E → Prog D W C R E α) (e : E) : Next (err e) (.commit k err)
  | rollback (k : Prog D W C R E α) : Next k (.rollback k)
  | call (c : C) (k : R c → Prog D W C R E α) (err : E → Prog D W C R E α) (r : R c) :
    Next (k r) (.call c k err)

/-- A program cannot go on for ever. -/
theorem Prog.acc_next (p : Prog D W C R E α) : Acc Next p := by
  induction p with
  | ret a => exact ⟨_, fun _ h => nomatch h⟩
  | throw e => exact ⟨_, fun _ h => nomatch h⟩
  | read k err ihk ihe =>
    refine ⟨_, fun _ h => ?_⟩
    cases h with
    | read _ _ d => exact ihk d
  | write w k err ihk ihe =>
    refine ⟨_, fun _ h => ?_⟩
    cases h with
    | write => exact ihk
    | refused _ _ _ e => exact ihe e
  | «begin» k err ihk ihe =>
    refine ⟨_, fun _ h => ?_⟩
    cases h with
    | begin => exact ihk
  | commit k err ihk ihe =>
    refine ⟨_, fun _ h => ?_⟩
    cases h with
    | commit => exact ihk
    | violated _ _ e => exact ihe e
  | rollback k ihk =>
    refine ⟨_, fun _ h => ?_⟩
    cases h with
    | rollback => exact ihk
  | call c k err ihk ihe =>
    refine ⟨_, fun _ h => ?_⟩
    cases h with
    | call _ _ _ r => exact ihk r

theorem Thread.next_of_step {db : D} {ext : X} {t t' : Thread D W C R E} {i : Nat} {locked : List Row}
    {eff : Effect W C} (h : t.step i db ext locked .ok = some (t', eff)) : t'.prog.Next t.prog := by
  obtain ⟨prog, frames, past⟩ := t
  cases prog with
  | ret a => simp [step] at h
  | throw e => simp [step] at h
  | read k err =>
    cases frames with
    | nil =>
      simp only [step, Option.some.injEq, Prod.mk.injEq] at h
      obtain ⟨rfl, -⟩ := h
      exact .read k err db
    | cons f fs =>
      simp only [step, Option.ite_none_right_eq_some, Option.some.injEq, Prod.mk.injEq] at h
      obtain ⟨-, rfl, -⟩ := h
      exact .read k err _
  | write w k err =>
    cases frames with
    | nil => simp [step] at h
    | cons f fs =>
      simp only [step, Option.ite_none_right_eq_some] at h
      obtain ⟨-, h⟩ := h
      split at h
      · simp only [Option.some.injEq, Prod.mk.injEq] at h
        obtain ⟨rfl, -⟩ := h
        exact .write w k err
      · simp only [Option.some.injEq, Prod.mk.injEq] at h
        obtain ⟨rfl, -⟩ := h
        exact .refused w k err _
  | «begin» k err =>
    simp only [step, Option.some.injEq, Prod.mk.injEq] at h
    obtain ⟨rfl, -⟩ := h
    exact .begin k err
  | commit k err =>
    cases frames with
    | nil => simp [step] at h
    | cons f fs =>
      simp only [step, Option.ite_none_right_eq_some] at h
      obtain ⟨-, h⟩ := h
      split at h
      · simp only [Option.some.injEq, Prod.mk.injEq] at h
        obtain ⟨rfl, -⟩ := h
        exact .commit k err
      · simp only [Option.some.injEq, Prod.mk.injEq] at h
        obtain ⟨rfl, -⟩ := h
        exact .violated k err _
  | rollback k =>
    cases frames with
    | nil => simp [step] at h
    | cons f fs =>
      simp only [step, Option.some.injEq, Prod.mk.injEq] at h
      obtain ⟨rfl, -⟩ := h
      exact .rollback k
  | call c k err =>
    simp only [step, Option.some.injEq, Prod.mk.injEq] at h
    obtain ⟨rfl, -⟩ := h
    exact .call c k err _

/-- The thread waits: for a lock, or for what the setting asks for. -/
def Config.Held (V : Setting D W C R) (i : Nat) (c : Config D X W C R E) : Prop :=
  ∃ t, c.threads[i]? = some t ∧ (t.Waits (c.locked i) ∨ ¬t.Allowed V c.db c.ext)

/-- A thread that stays safe goes on by its own steps until it has returned or has to wait. -/
theorem Runs.returns_or_waits {V : Setting D W C R} {i : Nat} {c₀ c : Config D X W C R E}
    (safe : ∀ c, Runs (Config.Spares (M := M) V i) c₀ c →
      ∀ t, c.threads[i]? = some t → t.Safe V c.db)
    (run : Runs (Config.Spares (M := M) V i) c₀ c) {t : Thread D W C R E} (ht : c.threads[i]? = some t) :
    ∃ c', Runs (fun c a => Config.Spares (M := M) V i c a ∧ a = .thread i .ok) c c' ∧
      (c'.Returned i ∨ c'.Held V i) := by
  have acc := t.prog.acc_next
  generalize hp : t.prog = p at acc
  induction acc generalizing c t with
  | intro p _ ih =>
    by_cases allowed : t.Allowed V c.db c.ext
    · have progress : t.returned = true ∨ t.Waits (c.locked i) ∨
          (t.step i c.db c.ext (c.locked i) .ok).isSome = true :=
        (safe c run t ht).progress i
      rcases progress with h | h | h
      · exact ⟨c, .refl, .inl ⟨t, ht, h⟩⟩
      · exact ⟨c, .refl, .inr ⟨t, ht, .inl h⟩⟩
      · obtain ⟨⟨t', eff⟩, hstep⟩ := Option.isSome_iff_exists.1 h
        have hact : c.act (.thread i .ok : Action M E) = some (eff, c.update i t' eff) := by
          simp [Config.act, ht, hstep]
        have spares : Config.Spares V i c (.thread i .ok : Action M E) :=
          fun _ => ⟨rfl, fun u hu => Option.some.inj (ht.symm.trans hu) ▸ allowed⟩
        have ht' : (c.update i t' eff).threads[i]? = some t' := by
          rw [Config.threads_update, List.getElem?_set_self (List.getElem?_eq_some_iff.1 ht).1]
        obtain ⟨c', run', hc'⟩ := ih t'.prog (hp ▸ Thread.next_of_step hstep) (run.step _ spares hact)
          ht' rfl
        exact ⟨c', (Runs.refl.step _ ⟨spares, rfl⟩ hact).trans run', hc'⟩
    · exact ⟨c, .refl, .inr ⟨t, ht, .inr allowed⟩⟩

end Heightt.ReadCommitted
