import Heightt.ReadCommitted.Run
import Mathlib.Logic.Function.Basic

/-!
# Invariants of interleaved runs

`Good` says that every thread still satisfies the weakest precondition of its
program. A step keeps it and is one of the four `Moves`; from that a run
invariant needs one fact for each kind of move (`Reaches.invariant`).
-/

namespace Heightt.ReadCommitted

open Database

variable {D X W C M Row Col E : Type} {R : C → Type} [Database D W Row Col E] [External X C R M]
  [DecidableEq Row]

/-- The statements of the open transactions of a thread. -/
def Thread.opened (t : Thread D W C R E) : List (List W) := t.frames.map Frame.writes

/-- What one step of thread `i` does, given that `Φ` admits its events: its past
and the state it last saw go from `past`, `s` to the next two indices. -/
inductive Thread.Steps (Φ : D → List (Event W C R) → Event W C R → Prop) (i : Nat) (db : D) (ext : X)
    (s : D) (past : List (Event W C R)) : D → List (Event W C R) → Effect W C → Prop where
  | internal {eff : Effect W C} (s' : D) (silent : eff.silent = true) (saw : s' = s ∨ s' = db) :
    Steps Φ i db ext s past s' past eff
  | commit (nested : Bool) (F : List W) (admitted : Φ db past (.committed nested F))
    (valid : violation F db = none) :
    Steps Φ i db ext s past (applyAll F db) (past ++ [.committed nested F]) (.commit i nested F)
  | answered (c : C) (admitted : Φ db past (.answered c (External.handle c ext).2)) :
    Steps Φ i db ext s past db (past ++ [.answered c (External.handle c ext).2]) (.called i c true)
  | lost (c : C) (admitted : Φ db past (.failed c)) :
    Steps Φ i db ext s past s (past ++ [.failed c]) (.called i c false)
  | unsent (c : C) (admitted : Φ db past (.failed c)) :
    Steps Φ i db ext s past s (past ++ [.failed c]) (.unsent i c)

theorem open_expireFrame (fs : List (Frame W)) (n : Nat) :
    (expireFrame fs n).map Frame.writes = fs.map Frame.writes := by
  rw [expireFrame]
  induction fs generalizing n with
  | nil => simp
  | cons f fs ih => cases n <;> simp [Frame.close, ih]

theorem open_abort (fs : List (Frame W)) : (abort fs).map Frame.writes = fs.map Frame.writes := by
  cases fs <;> rfl

/-- A step keeps the weakest precondition of its thread. -/
theorem Thread.step_spec {rely : D → D → Prop} {Φ : D → List (Event W C R) → Event W C R → Prop}
    {Q : Unit → View D W C R → Prop} {Qe : E → View D W C R → Prop} {i : Nat} {db s : D} {ext : X}
    {locked : List Row} {t t' : Thread D W C R E} {choice : Choice E} {eff : Effect W C}
    (h : t.step i db ext locked choice = some (t', eff)) (hs : rely s db)
    (good : wp rely Φ t.prog ⟨s, t.opened, t.past⟩ Q Qe) :
    ∃ s', wp rely Φ t'.prog ⟨s', t'.opened, t'.past⟩ Q Qe ∧
      Steps Φ i db ext s t.past s' t'.past eff := by
  obtain ⟨prog, frames, past⟩ := t
  cases choice with
  | expire n =>
    simp only [step, Option.some.injEq, Prod.mk.injEq] at h
    obtain ⟨rfl, rfl⟩ := h
    exact ⟨s, by simpa only [Thread.opened, open_expireFrame] using good, .internal _ rfl (.inl rfl)⟩
  | lost e =>
    cases prog <;> simp only [step, reduceCtorEq, Option.some.injEq, Prod.mk.injEq] at h
    case call c k err =>
      obtain ⟨rfl, rfl⟩ := h
      exact ⟨s, good.2.2 e, .lost c (good.2.1 db hs)⟩
  | fail e =>
    cases prog with
    | ret a => simp [step] at h
    | throw e => simp [step] at h
    | rollback k => simp [step] at h
    | read k err =>
      simp only [step, Option.some.injEq, Prod.mk.injEq] at h
      obtain ⟨rfl, rfl⟩ := h
      refine ⟨s, ?_, .internal _ rfl (.inl rfl)⟩
      simpa only [Thread.opened, open_abort] using good.2 e
    | write w k err =>
      cases frames with
      | nil => exact good.elim
      | cons f fs =>
        simp only [step, Option.some.injEq, Prod.mk.injEq] at h
        obtain ⟨rfl, rfl⟩ := h
        exact ⟨s, good.2 e, .internal _ rfl (.inl rfl)⟩
    | «begin» k err =>
      simp only [step, Option.some.injEq, Prod.mk.injEq] at h
      obtain ⟨rfl, rfl⟩ := h
      exact ⟨s, good.2 e, .internal _ rfl (.inl rfl)⟩
    | commit k err =>
      cases frames with
      | nil => exact good.elim
      | cons f fs =>
        simp only [step, Option.some.injEq, Prod.mk.injEq] at h
        obtain ⟨rfl, rfl⟩ := h
        exact ⟨s, good.2 e, .internal _ rfl (.inl rfl)⟩
    | call c k err =>
      simp only [step, Option.some.injEq, Prod.mk.injEq] at h
      obtain ⟨rfl, rfl⟩ := h
      exact ⟨s, good.2.2 e, .unsent c (good.2.1 db hs)⟩
  | ok =>
    cases prog with
    | ret a => simp [step] at h
    | throw e => simp [step] at h
    | read k err =>
      cases frames with
      | nil =>
        simp only [step, Option.some.injEq, Prod.mk.injEq] at h
        obtain ⟨rfl, rfl⟩ := h
        exact ⟨db, good.1 db hs, .internal _ rfl (.inr rfl)⟩
      | cons f fs =>
        simp only [step, Option.ite_none_right_eq_some, Option.some.injEq, Prod.mk.injEq] at h
        obtain ⟨-, rfl, rfl⟩ := h
        exact ⟨db, good.1 db hs, .internal _ rfl (.inr rfl)⟩
    | write w k err =>
      cases frames with
      | nil => exact good.elim
      | cons f fs =>
        simp only [step, Option.ite_none_right_eq_some] at h
        obtain ⟨-, h⟩ := h
        split at h
        · simp only [Option.some.injEq, Prod.mk.injEq] at h
          obtain ⟨rfl, rfl⟩ := h
          exact ⟨s, good.1, .internal _ rfl (.inl rfl)⟩
        · simp only [Option.some.injEq, Prod.mk.injEq] at h
          obtain ⟨rfl, rfl⟩ := h
          exact ⟨s, good.2 _, .internal _ rfl (.inl rfl)⟩
    | «begin» k err =>
      simp only [step, Option.some.injEq, Prod.mk.injEq] at h
      obtain ⟨rfl, rfl⟩ := h
      exact ⟨s, good.1, .internal _ rfl (.inl rfl)⟩
    | commit k err =>
      cases frames with
      | nil => exact good.elim
      | cons f fs =>
        simp only [step, Option.ite_none_right_eq_some] at h
        obtain ⟨-, h⟩ := h
        have nested : (!(fs.map Frame.writes).isEmpty) = !fs.isEmpty := by simp
        simp only [wp, Thread.opened, List.map_cons, nested] at good
        split at h
        · rename_i valid
          simp only [Option.some.injEq, Prod.mk.injEq] at h
          obtain ⟨rfl, rfl⟩ := h
          obtain ⟨admitted, hk⟩ := good.1 db hs valid
          exact ⟨_, hk, .commit _ _ admitted valid⟩
        · simp only [Option.some.injEq, Prod.mk.injEq] at h
          obtain ⟨rfl, rfl⟩ := h
          exact ⟨s, good.2 _, .internal _ rfl (.inl rfl)⟩
    | rollback k =>
      cases frames with
      | nil => exact good.elim
      | cons f fs =>
        simp only [step, Option.some.injEq, Prod.mk.injEq] at h
        obtain ⟨rfl, rfl⟩ := h
        exact ⟨s, good, .internal _ rfl (.inl rfl)⟩
    | call c k err =>
      simp only [step, Option.some.injEq, Prod.mk.injEq] at h
      obtain ⟨rfl, rfl⟩ := h
      obtain ⟨hev, hk⟩ := good.1 db (External.handle c ext).2 hs
      exact ⟨db, hk, .answered c hev⟩

/-- What the caller of `c` sees, when the other system is in state `ext`. -/
def reply (c : C) (ext : X) : Bool → Event W C R
  | true => .answered c (External.handle c ext).2
  | false => .failed c

/-- What a step can do to a configuration, given that `Φ i` admits the events of thread `i`. -/
inductive Moves (Φ : Nat → D → List (Event W C R) → Event W C R → Prop)
    (c c' : Config D X W C R E) :
    Effect W C → Prop where
  | internal {eff : Effect W C} (silent : eff.silent = true) (db : c'.db = c.db)
    (ext : c'.ext = c.ext ∨ ∃ m : M, External.move m c.ext = some c'.ext)
    (past : c'.past = c.past) (log : c'.log = c.log) : Moves Φ c c' eff
  | commit (i : Nat) (nested : Bool) (F : List W)
    (admitted : Φ i c.db (c.past i) (.committed nested F))
    (valid : violation F c.db = none) (db : c'.db = applyAll F c.db) (ext : c'.ext = c.ext)
    (past : c'.past = Function.update c.past i (c.past i ++ [.committed nested F]))
    (log : c'.log = c.log ++ [⟨i, F, c.db⟩]) : Moves Φ c c' (.commit i nested F)
  | called (i : Nat) (call : C) (answered : Bool)
    (admitted : Φ i c.db (c.past i) (reply call c.ext answered)) (db : c'.db = c.db)
    (ext : c'.ext = (External.handle call c.ext).1)
    (past : c'.past = Function.update c.past i (c.past i ++ [reply call c.ext answered]))
    (log : c'.log = c.log) : Moves Φ c c' (.called i call answered)
  | unsent (i : Nat) (call : C) (admitted : Φ i c.db (c.past i) (.failed call))
    (db : c'.db = c.db) (ext : c'.ext = c.ext)
    (past : c'.past = Function.update c.past i (c.past i ++ [.failed call]))
    (log : c'.log = c.log) : Moves Φ c c' (.unsent i call)

/-- Every thread satisfies the weakest precondition of the rest of its program,
from a state that the others have changed only as `rely` allows. -/
def Config.Good (rely : D → D → Prop) (Φ : Nat → D → List (Event W C R) → Event W C R → Prop)
    (Q : Nat → List (Event W C R) → Prop) (Qe : Nat → E → List (Event W C R) → Prop)
    (c : Config D X W C R E) : Prop :=
  ∀ i t, c.threads[i]? = some t → ∃ s, rely s c.db ∧
    wp rely (Φ i) t.prog ⟨s, t.opened, t.past⟩ (fun _ v => Q i v.past) fun e v => Qe i e v.past

section Config

variable {rely : D → D → Prop} {Φ : Nat → D → List (Event W C R) → Event W C R → Prop}
  {Q : Nat → List (Event W C R) → Prop} {Qe : Nat → E → List (Event W C R) → Prop}
  {c c' : Config D X W C R E} {eff : Effect W C}

omit [DecidableEq Row] in
theorem Config.threads_update (i : Nat) (t : Thread D W C R E) :
    (c.update i t eff).threads = c.threads.set i t := by
  cases eff <;> rfl

omit [DecidableEq Row] in
theorem Config.update_of_silent (i : Nat) (t : Thread D W C R E) (silent : eff.silent = true) :
    c.update i t eff = { c with threads := c.threads.set i t } := by
  cases eff with
  | internal => rfl
  | fault _ => rfl
  | _ => cases silent

omit [DecidableEq Row] in
theorem Config.past_update {i : Nat} {t t' : Thread D W C R E} (ht : c.threads[i]? = some t) :
    (c.update i t' eff).past = Function.update c.past i t'.past := by
  funext j
  simp only [past, threads_update, List.getElem?_set, Function.update_apply]
  obtain ⟨hi, -⟩ := List.getElem?_eq_some_iff.1 ht
  by_cases hj : j = i
  · subst hj
    simp [hi]
  · simp [hj, Ne.symm hj]

/-- A step is one of the four moves, and keeps `Good` if it is one that `rely` allows. -/
theorem Config.act_spec {a : Action M E} (h : c.act a = some (eff, c'))
    (refl : ∀ d, rely d d) (trans : ∀ {a b c}, rely a b → rely b c → rely a c)
    (good : c.Good rely Φ Q Qe) :
    Moves Φ c c' eff ∧ (rely c.db c'.db → c'.Good rely Φ Q Qe) := by
  cases a with
  | move m =>
    simp only [act, Option.bind_eq_bind, Option.bind_eq_some_iff, Option.pure_def, Option.some.injEq,
      Prod.mk.injEq] at h
    obtain ⟨ext, hm, rfl, rfl⟩ := h
    exact ⟨.internal rfl rfl (.inr ⟨m, hm⟩) rfl rfl, fun _ => good⟩
  | thread i choice =>
    simp only [act, Option.bind_eq_bind, Option.bind_eq_some_iff, Option.pure_def, Option.some.injEq,
      Prod.mk.injEq] at h
    obtain ⟨t, ht, ⟨t', eff'⟩, hstep, rfl, rfl⟩ := h
    obtain ⟨s₀, hs₀, good_t⟩ := good i t ht
    obtain ⟨s₁, hwp, hsteps⟩ := Thread.step_spec hstep hs₀ good_t
    have hpast : c.past i = t.past := by simp [past, ht]
    have hpast' : (c.update i t' eff').past = Function.update c.past i t'.past := past_update ht
    have saw : rely s₁ (c.update i t' eff').db := by
      generalize t'.past = past' at hsteps
      cases hsteps with
      | internal _ silent saw =>
        rw [update_of_silent i t' silent]
        rcases saw with rfl | rfl
        · exact hs₀
        · exact refl _
      | commit nested F => exact refl _
      | answered call => exact refl _
      | lost call => exact hs₀
      | unsent call => exact hs₀
    refine ⟨?_, fun keeps j s hs => ?_⟩
    · generalize hp : t'.past = past' at hsteps hpast'
      cases hsteps with
      | internal _ silent saw =>
        have quiet := update_of_silent (c := c) i t' silent
        refine .internal silent (by rw [quiet]) (.inl (by rw [quiet])) ?_ (by rw [quiet])
        rw [hpast', ← hpast, Function.update_eq_self]
      | commit nested F admitted valid =>
        rw [← hpast] at admitted hpast'
        exact .commit i nested F admitted valid rfl rfl hpast' rfl
      | answered call admitted =>
        rw [← hpast] at admitted hpast'
        exact .called i call true admitted rfl rfl hpast' rfl
      | lost call admitted =>
        rw [← hpast] at admitted hpast'
        exact .called i call false admitted rfl rfl hpast' rfl
      | unsent call admitted =>
        rw [← hpast] at admitted hpast'
        exact .unsent i call admitted rfl rfl hpast' rfl
    · rw [threads_update, List.getElem?_set] at hs
      split at hs
      · split at hs
        · cases hs
          rename_i hij _
          exact hij ▸ ⟨s₁, saw, hwp⟩
        · cases hs
      · obtain ⟨s₂, hs₂, hwp₂⟩ := good j s hs
        exact ⟨s₂, trans hs₂ keeps, hwp₂⟩

omit [DecidableEq Row] [External X C R M] in
/-- Threads start good when their programs satisfy their weakest preconditions. -/
theorem Config.good_start {db : D} {ext : X} {progs : List (Prog D W C R E Unit)}
    (refl : ∀ d, rely d d)
    (hp : ∀ i p, progs[i]? = some p →
      wp rely (Φ i) p ⟨db, [], []⟩ (fun _ v => Q i v.past) fun e v => Qe i e v.past) :
    (Config.start db ext progs).Good rely Φ Q Qe := by
  intro i t ht
  simp only [start, List.getElem?_map, Option.map_eq_some_iff] at ht
  obtain ⟨p, hpi, rfl⟩ := ht
  exact ⟨db, refl db, hp i p hpi⟩

/-- **The invariant rule**: what every move keeps holds in every configuration a
run reaches. Every move has to be one that the threads rely on. -/
theorem Reaches.invariant {P : Config D X W C R E → Effect W C → Prop} {c₀ : Config D X W C R E}
    (run : Reaches P c₀ c) (J : Config D X W C R E → Prop)
    (refl : ∀ d, rely d d) (trans : ∀ {a b c}, rely a b → rely b c → rely a c)
    (good : c₀.Good rely Φ Q Qe) (init : J c₀)
    (step : ∀ {c c' : Config D X W C R E} {eff : Effect W C}, c.Good rely Φ Q Qe →
      Moves Φ c c' eff → P c eff → J c → rely c.db c'.db ∧ J c') :
    c.Good rely Φ Q Qe ∧ J c := by
  induction run with
  | refl => exact ⟨good, init⟩
  | step a _ hact hP ih =>
    obtain ⟨hmoves, hgood⟩ := Config.act_spec hact refl trans ih.1
    obtain ⟨keeps, hJ⟩ := step ih.1 hmoves hP ih.2
    exact ⟨hgood keeps, hJ⟩

/-- The invariant rule for threads that rely on nothing: what every move with an
event that satisfies `P` keeps. -/
theorem Reaches.invariant_of_makes {cond : Config D X W C R E → Effect W C → Prop}
    {db : D} {ext : X} {progs : List (Prog D W C R E Unit)}
    (run : Reaches cond (Config.start db ext progs) c) {P : Nat → Event W C R → Prop}
    (makes : ∀ i p, progs[i]? = some p → Makes (P i) p fun _ => True)
    (J : Config D X W C R E → Prop) (init : J (Config.start db ext progs))
    (step : ∀ {c c' : Config D X W C R E} {eff : Effect W C},
      Moves (fun i _ _ ev => P i ev) c c' eff → cond c eff → J c → J c') : J c := by
  have good : (Config.start db ext progs).Good Anything (fun i _ _ ev => P i ev)
      (fun _ _ => True) fun _ _ _ => True :=
    Config.good_start (fun _ => trivial) fun i p hi => (makes i p hi).wp' (guarded_anything _)
      (fun _ _ _ hP => hP) (fun _ _ _ _ _ => trivial) fun _ _ _ _ => trivial
  exact (run.invariant J (fun _ => trivial) (fun _ _ => trivial) good init
    fun _ hmoves hcond hJ => ⟨trivial, step hmoves hcond hJ⟩).2

/-- The threads take turns: each pair is a thread and how many operations it completes. -/
def takeTurns (M E : Type) (ts : List (Nat × Nat)) : List (Action M E) :=
  ts.flatMap fun t => List.replicate t.2 (.thread t.1 .ok)

/-- A list of steps that all meet the condition is a run. -/
theorem Reaches.of_replay {P : Config D X W C R E → Effect W C → Prop}
    [∀ c eff, Decidable (P c eff)] {c₀ : Config D X W C R E} {as : List (Action M E)}
    (h : c₀.replay P as = some c) : Reaches P c₀ c := by
  suffices ∀ d, Reaches P c₀ d → d.replay P as = some c → Reaches P c₀ c from this c₀ .refl h
  clear h
  induction as with
  | nil =>
    intro d hd h
    cases h
    exact hd
  | cons a as ih =>
    intro d hd h
    simp only [Config.replay, Option.bind_eq_bind, Option.bind_eq_some_iff] at h
    obtain ⟨⟨eff, d'⟩, hact, h⟩ := h
    simp only [Option.ite_none_right_eq_some] at h
    exact ih d' (hd.step a hact h.1) h.2

/-- A list of steps that all meet the condition reaches a configuration with what it is checked for. -/
theorem Reaches.of_replay_any (P : Config D X W C R E → Effect W C → Prop)
    [∀ c eff, Decidable (P c eff)] (c₀ : Config D X W C R E) (as : List (Action M E))
    (p : Config D X W C R E → Prop) [DecidablePred p]
    (h : (c₀.replay P as).any (fun c => decide (p c)) = true) : ∃ c, Reaches P c₀ c ∧ p c := by
  obtain ⟨c, hc, hp⟩ := (Option.any_eq_true _ _).1 h
  exact ⟨c, .of_replay hc, of_decide_eq_true hp⟩

end Config

end Heightt.ReadCommitted
