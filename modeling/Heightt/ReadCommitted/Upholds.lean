import Heightt.ReadCommitted.Guarantee

/-!
# Transactions that rest on what was read

`Upholds rely Ψ s p S`: run from state `s` among others that change the state only as
`rely` allows, `p` commits only what `Ψ` admits in the state it commits in. A reading
stays usable as far as `rely` keeps it: `Prepares` carries it through the body of a
transaction up to the state that is last seen, and the commit comes after that state.
-/

namespace Heightt.ReadCommitted

open Database

variable {D W C : Type} {R : C → Type} {E α β Row Col : Type} [Database D W Row Col E]

/-- The statements of a committed transaction are admitted in the state they find. -/
def Admits (Ψ : D → List W → Prop) (d : D) : Event W C R → Prop
  | .committed _ F => Ψ d F
  | _ => True

/-- Run in a transaction that has executed `F`, `p` calls nobody, and leaves statements
that satisfy `G` with the state it has last seen. -/
def Prepares (rely : D → D → Prop) (s : D) (F : List W) (p : Prog D W C R E α)
    (G : D → α → List W → Prop) : Prop :=
  ∀ past, wp rely (fun _ _ _ => False) p ⟨s, [F], past⟩
    (fun a v => rely s v.seen ∧ ∃ F', v.frames = [F'] ∧ G v.seen a F')
    fun _ v => rely s v.seen ∧ ∃ F', v.frames = [F']

/-- From state `s`, `p` commits only what `Ψ` admits, and returns a value that satisfies
`S` with the state it has last seen. -/
def Upholds (rely : D → D → Prop) (Ψ : D → List W → Prop) (s : D) (p : Prog D W C R E α)
    (S : D → α → Prop) : Prop :=
  ∀ past, wp rely (fun d _ ev => Admits Ψ d ev) p ⟨s, [], past⟩
    (fun a v => v.frames = [] ∧ rely s v.seen ∧ S v.seen a)
    fun _ v => v.frames = [] ∧ rely s v.seen

variable {rely : D → D → Prop} (guarded : Guarded (C := C) (R := R) rely fun _ => False)

include guarded

namespace Prepares

variable {s : D} {F : List W} {G : D → β → List W → Prop}

theorem ret {b : β} (h : G s b F) : Prepares rely s F (.ret b : Prog D W C R E β) G :=
  fun _ => ⟨guarded.refl s, F, rfl, h⟩

theorem throw (e : E) : Prepares rely s F (.throw e : Prog D W C R E β) G :=
  fun _ => ⟨guarded.refl s, F, rfl⟩

theorem bind {p : Prog D W C R E α} {H : D → α → List W → Prop} {f : α → Prog D W C R E β}
    (hp : Prepares rely s F p H) (hf : ∀ d a F', rely s d → H d a F' → Prepares rely d F' (f a) G) :
    Prepares rely s F (p.bind f) G := by
  intro past
  rw [wp_bind]
  refine wp_mono (hp past) ?_ fun _ _ h => h
  rintro a ⟨d, fs, past'⟩ ⟨hd, F', hF', ha⟩
  obtain rfl : fs = [F'] := hF'
  refine wp_mono (hf d a F' hd ha past') ?_ ?_
  · rintro b v ⟨hv, F'', hF'', hb⟩
    exact ⟨guarded.trans hd hv, F'', hF'', hb⟩
  · rintro e v ⟨hv, F'', hF''⟩
    exact ⟨guarded.trans hd hv, F'', hF''⟩

theorem query_bind {g : D → α} {f : α → Prog D W C R E β}
    (hf : ∀ d, rely s d → Prepares rely d F (f (g (applyAll F d))) G) :
    Prepares rely s F ((Prog.query g).bind f) G := by
  intro past
  rw [wp_bind, wp_query]
  refine ⟨fun d hd => wp_mono (hf d hd past) ?_ ?_, fun _ => ⟨guarded.refl s, F, rfl⟩⟩
  · rintro b v ⟨hv, F', hF', hb⟩
    exact ⟨guarded.trans hd hv, F', hF', hb⟩
  · rintro e v ⟨hv, F', hF'⟩
    exact ⟨guarded.trans hd hv, F', hF'⟩

theorem exec_bind {w : W} {f : Unit → Prog D W C R E β} (hf : Prepares rely s (F ++ [w]) (f ()) G) :
    Prepares rely s F ((Prog.exec w).bind f) G := by
  intro past
  rw [wp_bind, wp_exec]
  exact ⟨hf past, fun _ => ⟨guarded.refl s, F, rfl⟩⟩

/-- A row that has to be there. -/
theorem find_bind {g : D → Option α} {e : E} {f : α → Prog D W C R E β}
    (hf : ∀ d a, rely s d → g (applyAll F d) = some a → Prepares rely d F (f a) G) :
    Prepares rely s F ((Prog.query g).bind fun o => (Prog.orThrow o e).bind f) G := by
  refine query_bind guarded fun d hd => ?_
  cases h : g (applyAll F d) with
  | some a => exact hf d a hd h
  | none => exact throw guarded e

/-- A row that has to be there, and nothing else. -/
theorem find {g : D → Option β} {e : E} (h : ∀ d b, rely s d → g (applyAll F d) = some b → G d b F) :
    Prepares rely s F ((Prog.query g : Prog D W C R E (Option β)).bind fun o => Prog.orThrow o e) G := by
  refine query_bind guarded fun d hd => ?_
  cases found : g (applyAll F d) with
  | some b => exact ret guarded (h d b hd found)
  | none => exact throw guarded e

/-- A part whose readings do not matter. -/
theorem adds_bind {p : Prog D W C R E α} {H : α → List W → Prop} {f : α → Prog D W C R E β}
    (hp : Adds (fun _ => False) p H)
    (hf : ∀ d a F', rely s d → H a F' → Prepares rely d (F ++ F') (f a) G) :
    Prepares rely s F (p.bind f) G := by
  intro past
  rw [wp_bind]
  refine wp_mono (hp rely guarded s F [] past) ?_ fun _ _ h => h
  rintro a ⟨d, fs, past'⟩ ⟨hd, F', hF', ha⟩
  obtain rfl : fs = [F ++ F'] := hF'
  refine wp_mono (hf d a F' hd ha past') ?_ ?_
  · rintro b v ⟨hv, F'', hF'', hb⟩
    exact ⟨guarded.trans hd hv, F'', hF'', hb⟩
  · rintro e v ⟨hv, F'', hF''⟩
    exact ⟨guarded.trans hd hv, F'', hF''⟩

theorem of_adds {p : Prog D W C R E β} {H : β → List W → Prop} (hp : Adds (fun _ => False) p H)
    (hG : ∀ d b F', rely s d → H b F' → G d b (F ++ F')) : Prepares rely s F p G := by
  have body : Prepares rely s F (p.bind .ret) G :=
    adds_bind guarded hp fun d b F' hd hb => ret guarded (hG d b F' hd hb)
  rwa [Prog.bind_ret] at body

theorem ensure_bind {p : Prop} [Decidable p] {e : E} {f : Unit → Prog D W C R E β}
    (hf : p → Prepares rely s F (f ()) G) : Prepares rely s F ((Prog.ensure p e).bind f) G := by
  unfold Prog.ensure
  split
  · exact hf ‹_›
  · exact throw guarded e

theorem orThrow_bind {o : Option α} {e : E} {f : α → Prog D W C R E β}
    (hf : ∀ a, o = some a → Prepares rely s F (f a) G) :
    Prepares rely s F ((Prog.orThrow o e).bind f) G := by
  cases o with
  | some a => exact hf a rfl
  | none => exact throw guarded e

end Prepares

namespace Upholds

variable {Ψ : D → List W → Prop} {s : D} {S : D → α → Prop} {S' : D → β → Prop}

theorem ret {a : α} (h : S s a) : Upholds rely Ψ s (.ret a : Prog D W C R E α) S :=
  fun _ => ⟨rfl, guarded.refl s, h⟩

theorem throw (e : E) : Upholds rely Ψ s (.throw e : Prog D W C R E α) S :=
  fun _ => ⟨rfl, guarded.refl s⟩

theorem bind {p : Prog D W C R E α} {f : α → Prog D W C R E β} (hp : Upholds rely Ψ s p S)
    (hf : ∀ d a, rely s d → S d a → Upholds rely Ψ d (f a) S') : Upholds rely Ψ s (p.bind f) S' := by
  intro past
  rw [wp_bind]
  refine wp_mono (hp past) ?_ fun _ _ h => h
  rintro a ⟨d, fs, past'⟩ ⟨hfs, hd, ha⟩
  obtain rfl : fs = [] := hfs
  refine wp_mono (hf d a hd ha past') ?_ ?_
  · rintro b v ⟨hv, later, hb⟩
    exact ⟨hv, guarded.trans hd later, hb⟩
  · rintro e v ⟨hv, later⟩
    exact ⟨hv, guarded.trans hd later⟩

theorem onThrow {p : Prog D W C R E α} {f : E → Prog D W C R E α} (hp : Upholds rely Ψ s p S)
    (hf : ∀ d e, rely s d → Upholds rely Ψ d (f e) S) : Upholds rely Ψ s (p.onThrow f) S := by
  intro past
  rw [wp_onThrow]
  refine wp_mono (hp past) (fun _ _ h => h) ?_
  rintro e ⟨d, fs, past'⟩ ⟨hfs, hd⟩
  obtain rfl : fs = [] := hfs
  refine wp_mono (hf d e hd past') ?_ ?_
  · rintro a v ⟨hv, later, ha⟩
    exact ⟨hv, guarded.trans hd later, ha⟩
  · rintro e' v ⟨hv, later⟩
    exact ⟨hv, guarded.trans hd later⟩

/-- What is admitted may be said more widely. -/
theorem mono {Ψ' : D → List W → Prop} {S' : D → α → Prop} {p : Prog D W C R E α}
    (hp : Upholds rely Ψ s p S) (hΨ : ∀ d F, Ψ d F → Ψ' d F) (hS : ∀ d a, S d a → S' d a) :
    Upholds rely Ψ' s p S' := by
  intro past
  refine wp_mono (wp_carry (I := fun _ => True) (Ψ := fun d _ ev => Admits Ψ' d ev) (hp past)
    (fun d _ ev _ hev => ⟨?_, trivial⟩) trivial fun s => ⟨s, guarded.refl s⟩) ?_ fun _ _ h => h.1
  · cases ev with
    | committed nested F => exact hΨ d F hev
    | answered c r => trivial
    | failed c => trivial
  · rintro a v ⟨⟨hv, later, ha⟩, -⟩
    exact ⟨hv, later, hS v.seen a ha⟩

omit guarded in
/-- A part whose commits are admitted in every state. -/
theorem of_makes {P : Event W C R → Prop} {p : Prog D W C R E α} {T : α → Prop} (hp : Makes P p T)
    (guarded : Guarded rely P) (admitted : ∀ nested F d, P (.committed nested F) → Ψ d F) :
    Upholds rely Ψ s p fun _ => T := by
  intro past
  refine hp.wp' guarded (fun d _ ev hev => ?_) (fun a v' later hv ha => ⟨hv, later, ha⟩)
    fun e v' later hv => ⟨hv, later⟩
  cases ev with
  | committed nested F => exact admitted nested F d hev
  | answered c r => trivial
  | failed c => trivial

/-- A transaction commits what its body prepares. -/
theorem transaction {body : Prog D W C R E α} {G : D → α → List W → Prop}
    (hbody : Prepares rely s [] body G)
    (hG : ∀ d d' a F, rely s d → rely d d' → G d a F → violation F d' = none →
      Ψ d' F ∧ rely d' (applyAll F d') ∧ S (applyAll F d') a) :
    Upholds rely Ψ s (Prog.transaction body) S := by
  intro past
  have hbody := wp_carry (I := fun _ => True) (Ψ := fun d _ ev => Admits Ψ d ev) (hbody past)
    (fun _ _ _ _ h => h.elim) trivial fun s => ⟨s, guarded.refl s⟩
  refine wp_transaction (wp_mono hbody ?_ ?_) fun _ => ⟨rfl, guarded.refl s⟩
  · rintro a ⟨d, fs, past'⟩ ⟨⟨hd, F, hF, ha⟩, -⟩
    refine ⟨F, hF, fun d' hd' valid => ?_, fun _ => ⟨rfl, hd⟩⟩
    obtain ⟨admitted, after, returned⟩ := hG d d' a F hd hd' ha valid
    exact ⟨admitted, rfl, guarded.trans (guarded.trans hd hd') after, returned⟩
  · rintro e v ⟨⟨hd, F, hF⟩, -⟩
    exact ⟨F, hF, rfl, hd⟩

theorem outside {g : D → α} (nothing : ∀ d, Ψ d []) (hS : ∀ d d', rely s d → rely d d' → S d' (g d)) :
    Upholds rely Ψ s (Prog.outside g : Prog D W C R E α) S := by
  refine transaction guarded (G := fun d a F => F = [] ∧ a = g d ∧ rely s d) ?_ ?_
  · have body : Prepares rely s [] ((Prog.query g).bind .ret : Prog D W C R E α)
        fun d a F => F = [] ∧ a = g d ∧ rely s d :=
      .query_bind guarded fun d hd => .ret guarded ⟨rfl, rfl, hd⟩
    rwa [Prog.bind_ret] at body
  · rintro d d' a F - hd' ⟨rfl, rfl, hd⟩ -
    exact ⟨nothing d', guarded.refl d', hS d d' hd hd'⟩

/-- What was read is used in the state that is seen next. -/
theorem outside_bind {g : D → α} {f : α → Prog D W C R E β} (nothing : ∀ d, Ψ d [])
    (hf : ∀ d d', rely s d → rely d d' → Upholds rely Ψ d' (f (g d)) S') :
    Upholds rely Ψ s ((Prog.outside g).bind f) S' := by
  refine .bind guarded (outside guarded nothing (S := fun d' a => ∃ d, rely s d ∧ rely d d' ∧ a = g d)
    fun d d' hd hd' => ⟨d, hd, hd', rfl⟩) ?_
  rintro d' a - ⟨d, hd, hd', rfl⟩
  exact hf d d' hd hd'

theorem query_bind {g : D → α} {f : α → Prog D W C R E β}
    (hf : ∀ d, rely s d → Upholds rely Ψ d (f (g d)) S') : Upholds rely Ψ s ((Prog.query g).bind f) S' := by
  intro past
  rw [wp_bind, wp_query]
  refine ⟨fun d hd => wp_mono (hf d hd past) ?_ ?_, fun _ => ⟨rfl, guarded.refl s⟩⟩
  · rintro b v ⟨hv, later, hb⟩
    exact ⟨hv, guarded.trans hd later, hb⟩
  · rintro e v ⟨hv, later⟩
    exact ⟨hv, guarded.trans hd later⟩

theorem ensure_bind {p : Prop} [Decidable p] {e : E} {f : Unit → Prog D W C R E β}
    (hf : p → Upholds rely Ψ s (f ()) S') : Upholds rely Ψ s ((Prog.ensure p e).bind f) S' := by
  unfold Prog.ensure
  split
  · exact hf ‹_›
  · exact throw guarded e

theorem ensure {p : Prop} [Decidable p] {e : E} {S : D → Unit → Prop} (h : p → S s ()) :
    Upholds rely Ψ s (Prog.ensure p e : Prog D W C R E Unit) S := by
  unfold Prog.ensure
  split
  · exact ret guarded (h ‹_›)
  · exact throw guarded e

theorem orThrow_bind {o : Option α} {e : E} {f : α → Prog D W C R E β}
    (hf : ∀ a, o = some a → Upholds rely Ψ s (f a) S') :
    Upholds rely Ψ s ((Prog.orThrow o e).bind f) S' := by
  cases o with
  | some a => exact hf a rfl
  | none => exact throw guarded e

/-- A row that has to be there. -/
theorem find_bind {g : D → Option α} {e : E} {f : α → Prog D W C R E β} (nothing : ∀ d, Ψ d [])
    (hf : ∀ d d' a, rely s d → rely d d' → g d = some a → Upholds rely Ψ d' (f a) S') :
    Upholds rely Ψ s ((Prog.outside g).bind fun o => (Prog.orThrow o e).bind f) S' :=
  outside_bind guarded nothing fun d d' hd hd' => orThrow_bind guarded fun a ha => hf d d' a hd hd' ha

theorem whenSome {o : Option α} {f : α → Prog D W C R E Unit} {S : D → Unit → Prop}
    (hf : ∀ a, o = some a → Upholds rely Ψ s (f a) S) (h : o = none → S s ()) :
    Upholds rely Ψ s (Prog.whenSome o f) S := by
  cases o with
  | some a => exact hf a rfl
  | none => exact ret guarded (h rfl)

theorem when {c : Prop} [Decidable c] {p : Prog D W C R E Unit} {S : D → Unit → Prop}
    (hp : c → Upholds rely Ψ s p S) (h : ¬c → S s ()) : Upholds rely Ψ s (Prog.when c p) S := by
  unfold Prog.when
  split
  · exact hp ‹_›
  · exact ret guarded (h ‹_›)

theorem request {c : C} {S : D → R c → Prop} (h : ∀ d r, rely s d → S d r) :
    Upholds rely Ψ s (Prog.request c : Prog D W C R E (R c)) S :=
  fun _ => ⟨fun d r hd => ⟨trivial, rfl, hd, h d r hd⟩, fun _ _ => trivial, fun _ => ⟨rfl, guarded.refl s⟩⟩

theorem attempt {p : Prog D W C R E Unit} {S : D → Unit → Prop} (hp : Upholds rely Ψ s p S)
    (h : ∀ d, rely s d → S d ()) : Upholds rely Ψ s p.attempt S :=
  onThrow guarded hp fun d _ hd => ret guarded (h d hd)

theorem statement {w : W} {S : D → Unit → Prop} (h : ∀ d, rely s d → check w d = none →
    Ψ d [w] ∧ rely d (apply w d) ∧ S (apply w d) ()) :
    Upholds rely Ψ s (Prog.statement w : Prog D W C R E Unit) S := by
  refine transaction guarded (G := fun d _ F => rely s d ∧ F = [w]) ?_ ?_
  · exact .of_adds guarded (H := fun _ F => F = [w]) (.exec rfl) fun d _ F hd hF => ⟨hd, hF⟩
  · rintro d d' - F hd hd' ⟨-, rfl⟩ valid
    exact h d' (guarded.trans hd hd') (violation_cons.1 valid).1

end Upholds

omit guarded

variable {X M : Type} [External X C R M] [DecidableEq Row]

/-- **The run rule**: what every admitted commit keeps holds in every configuration that a
run reaches. Every commit has to be one that the programs rely on. -/
theorem Reaches.induct_of_upholds {P : Config D X W C R E → Effect W C → Prop} {db : D} {ext : X}
    {progs : List (Prog D W C R E Unit)} {c : Config D X W C R E}
    (run : Reaches P (Config.start db ext progs) c) (refl : ∀ d, rely d d)
    (trans : ∀ {a b c}, rely a b → rely b c → rely a c) {Ψ : Nat → D → List W → Prop}
    (upholds : ∀ i p, progs[i]? = some p → Upholds rely (Ψ i) db p fun _ _ => True)
    (J : D → List (Commit D W) → Prop) (init : J db [])
    (step : ∀ {c : Config D X W C R E} {i : Nat} {nested : Bool} {F : List W}, Ψ i c.db F →
      violation F c.db = none → P c (.commit i nested F) → J c.db c.log →
      rely c.db (applyAll F c.db) ∧ J (applyAll F c.db) (c.log ++ [⟨i, F, c.db⟩])) :
    J c.db c.log := by
  have good : (Config.start db ext progs).Good rely (fun i d _ ev => Admits (Ψ i) d ev)
      (fun _ _ => True) fun _ _ _ => True :=
    Config.good_start refl fun i p hi =>
      wp_mono (upholds i p hi []) (fun _ _ _ => trivial) fun _ _ _ => trivial
  refine (run.invariant (fun c => J c.db c.log) refl trans good init ?_).2
  intro c c' eff _ moves allowed hJ
  cases moves with
  | internal _ db ext past log =>
    rw [db, log]
    exact ⟨refl _, hJ⟩
  | called i call answered admitted db ext past log =>
    rw [db, log]
    exact ⟨refl _, hJ⟩
  | unsent i call admitted db ext past log =>
    rw [db, log]
    exact ⟨refl _, hJ⟩
  | commit i nested F admitted valid db ext past log =>
    rw [db, log]
    exact step admitted valid allowed hJ

/-- **The run rule for calls**: each program is that of a call, and commits what the call admits. -/
theorem Reaches.induct_of_calls {P : Config D X W C R E → Effect W C → Prop} {db : D} {ext : X} {O : Type}
    {ops : List O} {program : O → Prog D W C R E Unit} {c : Config D X W C R E}
    (run : Reaches P (Config.start db ext (ops.map program)) c) (guarded : Guarded (C := C) (R := R) rely fun _ => False)
    {Ψ : O → D → List W → Prop} (upholds : ∀ op, Upholds rely (Ψ op) db (program op) fun _ _ => True)
    (J : D → List (Commit D W) → Prop) (init : J db [])
    (step : ∀ {c : Config D X W C R E} {i : Nat} {nested : Bool} {F : List W} {op : O}, ops[i]? = some op →
      Ψ op c.db F → violation F c.db = none → P c (.commit i nested F) → J c.db c.log →
      rely c.db (applyAll F c.db) ∧ J (applyAll F c.db) (c.log ++ [⟨i, F, c.db⟩])) :
    J c.db c.log := by
  refine run.induct_of_upholds (Ψ := fun i d F => ∃ op, ops[i]? = some op ∧ Ψ op d F)
    guarded.refl guarded.trans ?_ J init ?_
  · intro i p hp
    rw [List.getElem?_map, Option.map_eq_some_iff] at hp
    obtain ⟨op, hop, rfl⟩ := hp
    exact (upholds op).mono guarded (fun _ _ h => ⟨op, hop, h⟩) fun _ _ h => h
  · rintro c i nested F ⟨op, hop, admitted⟩ valid allowed hJ
    exact step hop admitted valid allowed hJ

/-- **A program on its own**: every commit of it is one that it upholds. -/
theorem Reaches.log_of_upholds {P : Config D X W C R E → Effect W C → Prop} {db : D} {ext : X}
    {p : Prog D W C R E Unit} {c : Config D X W C R E} (run : Reaches P (Config.start db ext [p]) c)
    (guarded : Guarded (C := C) (R := R) rely fun _ => False) {Ψ : D → List W → Prop}
    (upholds : Upholds rely Ψ db p fun _ _ => True) (keeps : ∀ d F, Ψ d F → rely d (applyAll F d)) :
    ∀ k ∈ c.log, Ψ k.before k.writes := by
  refine run.induct_of_upholds (Ψ := fun _ => Ψ) guarded.refl guarded.trans ?_
    (fun _ log => ∀ k ∈ log, Ψ k.before k.writes) (fun _ mem => (List.not_mem_nil mem).elim) ?_
  · intro i q hq
    cases i with
    | zero => exact Option.some.inj hq ▸ upholds
    | succ i => cases hq
  · intro c i nested F admitted _ _ log
    refine ⟨keeps c.db F admitted, fun k mem => ?_⟩
    obtain mem | mem := List.mem_append.1 mem
    · exact log k mem
    · rw [List.mem_singleton.1 mem]
      exact admitted

end Heightt.ReadCommitted
