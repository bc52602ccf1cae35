import Heightt.ReadCommitted.Invariant

/-!
# What a program commits after what it has read

`Makes` forgets what a program has read. `Commits rely Ψ Q s l p` keeps it: `p`
runs from state `s`, has committed the statements `l` so far, and whatever the
others do within `rely`, each of its transactions is one that `Ψ` admits in the
state it commits in; when it returns, it has written what satisfies `Q`. There is one rule for each first operation of a program, so
a program is gone through from its start to its end and every reading stays in
the context, related by `rely` to the states after it.
-/

namespace Heightt.ReadCommitted

open Database

variable {D W C : Type} {R : C → Type} {E α β γ Row Col : Type} [Database D W Row Col E]

theorem Prog.bind_assoc (p : Prog D W C R E α) (f : α → Prog D W C R E β)
    (g : β → Prog D W C R E γ) : (p.bind f).bind g = p.bind fun a => (f a).bind g := by
  induction p with
  | ret a => rfl
  | throw e => rfl
  | read k err ihk ihe => simp only [bind, ihk, ihe]
  | write w k err ihk ihe => simp only [bind, ihk, ihe]
  | «begin» k err ihk ihe => simp only [bind, ihk, ihe]
  | commit k err ihk ihe => simp only [bind, ihk, ihe]
  | rollback k ihk => simp only [bind, ihk]
  | call c k err ihk ihe => simp only [bind, ihk, ihe]

@[simp] theorem Prog.bind_ret (p : Prog D W C R E α) : p.bind ret = p := by
  induction p with
  | ret a => rfl
  | throw e => rfl
  | read k err ihk ihe => simp only [bind, ihk, ihe]
  | write w k err ihk ihe => simp only [bind, ihk, ihe]
  | «begin» k err ihk ihe => simp only [bind, ihk, ihe]
  | commit k err ihk ihe => simp only [bind, ihk, ihe]
  | rollback k ihk => simp only [bind, ihk]
  | call c k err ihk ihe => simp only [bind, ihk, ihe]

/-- The statements that the events committed, in order. -/
def written : List (Event W C R) → List W
  | [] => []
  | .committed _ F :: past => F ++ written past
  | _ :: past => written past

@[simp] theorem written_nil : written ([] : List (Event W C R)) = [] := rfl

theorem written_append (past past' : List (Event W C R)) :
    written (past ++ past') = written past ++ written past' := by
  induction past with
  | nil => rfl
  | cons ev past ih => cases ev <;> simp [written, ih]

@[simp] theorem written_committed (past : List (Event W C R)) (nested : Bool) (F : List W) :
    written (past ++ [.committed nested F]) = written past ++ F := by
  simp [written_append, written]

@[simp] theorem written_answered (past : List (Event W C R)) (c : C) (r : R c) :
    written (past ++ [.answered c r]) = written past := by
  simp [written_append, written]

@[simp] theorem written_failed (past : List (Event W C R)) (c : C) :
    written (past ++ [.failed c]) = written past := by
  simp [written_append, written]

/-- Every transaction that writes is open alone and admitted by `Ψ` after what was written before. -/
def Admitted (Ψ : D → List W → List W → Prop) (d : D) (past : List (Event W C R)) :
    Event W C R → Prop
  | .committed nested F => F = [] ∨ nested = false ∧ Ψ d (written past) F
  | _ => True

/-- The event is no commit. -/
def Calls : Event W C R → Prop
  | .committed .. => False
  | _ => True

variable {rely : D → D → Prop} {Ψ : D → List W → List W → Prop}

/-- Run in a transaction that has executed `F`, `p` calls nobody, and leaves statements
that satisfy `G`; it sees its own statements in a state that is after `s`. -/
def Builds (rely : D → D → Prop) (s : D) (F : List W) (p : Prog D W C R E α) (G : α → List W → Prop) :
    Prop :=
  ∀ past, wp rely (fun _ _ _ => False) p ⟨s, [F], past⟩
    (fun a v => rely s v.seen ∧ ∃ F', v.frames = [F'] ∧ G a F')
    fun _ v => rely s v.seen ∧ ∃ F', v.frames = [F']

namespace Builds

variable {s : D} {F : List W} {G : β → List W → Prop}

theorem ret (guarded : Guarded (C := C) (R := R) rely fun _ => False) {b : β} (h : G b F) :
    Builds rely s F (.ret b : Prog D W C R E β) G := fun _ => ⟨guarded.refl s, F, rfl, h⟩

theorem throw (guarded : Guarded (C := C) (R := R) rely fun _ => False) (e : E) :
    Builds rely s F (.throw e : Prog D W C R E β) G := fun _ => ⟨guarded.refl s, F, rfl⟩

theorem query_bind (guarded : Guarded (C := C) (R := R) rely fun _ => False) {g : D → α}
    {f : α → Prog D W C R E β} (hf : ∀ d, rely s d → Builds rely d F (f (g (applyAll F d))) G) :
    Builds rely s F ((Prog.query g).bind f) G := by
  intro past
  rw [wp_bind, wp_query]
  refine ⟨fun d hd => wp_mono (hf d hd past) ?_ ?_, fun _ => ⟨guarded.refl s, F, rfl⟩⟩
  · rintro b v ⟨hv, F', hF', hb⟩
    exact ⟨guarded.trans hd hv, F', hF', hb⟩
  · rintro e v ⟨hv, F', hF'⟩
    exact ⟨guarded.trans hd hv, F', hF'⟩

theorem exec_bind (guarded : Guarded (C := C) (R := R) rely fun _ => False) {w : W}
    {f : Unit → Prog D W C R E β} (hf : Builds rely s (F ++ [w]) (f ()) G) :
    Builds rely s F ((Prog.exec w).bind f) G := by
  intro past
  rw [wp_bind, wp_exec]
  exact ⟨hf past, fun _ => ⟨guarded.refl s, F, rfl⟩⟩

theorem ensure_bind (guarded : Guarded (C := C) (R := R) rely fun _ => False) {p : Prop} [Decidable p]
    {e : E} {f : Unit → Prog D W C R E β} (hf : p → Builds rely s F (f ()) G) :
    Builds rely s F ((Prog.ensure p e).bind f) G := by
  unfold Prog.ensure
  split
  · exact hf ‹_›
  · exact throw guarded e

theorem orThrow_bind (guarded : Guarded (C := C) (R := R) rely fun _ => False) {o : Option α} {e : E}
    {f : α → Prog D W C R E β} (hf : ∀ a, o = some a → Builds rely s F (f a) G) :
    Builds rely s F ((Prog.orThrow o e).bind f) G := by
  cases o with
  | some a => exact hf a rfl
  | none => exact throw guarded e

/-- A body that may be run after any statements and readings. -/
theorem of_adds (guarded : Guarded (C := C) (R := R) rely fun _ => False) {p : Prog D W C R E β}
    (h : Adds (fun _ => False) p G) : Builds rely s [] p G := fun past => h rely guarded s [] [] past

end Builds

/-- From state `s`, with `l` written so far, `p` commits only what `Ψ` admits and
returns only after it has written what satisfies `Q`. -/
def Commits (rely : D → D → Prop) (Ψ : D → List W → List W → Prop) (Q : List W → Prop) (s : D)
    (l : List W) (p : Prog D W C R E α) : Prop :=
  ∀ past, written past = l →
    wp rely (Admitted Ψ) p ⟨s, [], past⟩ (fun _ v => Q (written v.past)) fun _ _ => True

namespace Commits

variable {Q : List W → Prop} {s : D} {l : List W}

theorem mono {p : Prog D W C R E α} {Ψ' : D → List W → List W → Prop} {Q' : List W → Prop}
    (hp : Commits rely Ψ Q s l p) (inhabited : ∀ s, ∃ d, rely s d)
    (hΨ : ∀ d l F, Ψ d l F → Ψ' d l F) (hQ : ∀ l, Q l → Q' l) : Commits rely Ψ' Q' s l p := by
  intro past hl
  refine wp_mono (wp_carry (I := fun _ => True) (hp past hl) (fun d h ev _ hev => ⟨?_, trivial⟩)
    trivial inhabited) (fun _ _ hv => hQ _ hv.1) fun _ _ _ => trivial
  cases ev with
  | committed nested F => exact hev.imp_right fun ⟨hn, hF⟩ => ⟨hn, hΨ _ _ _ hF⟩
  | answered c r => trivial
  | failed c => trivial

theorem ret {a : α} (hQ : Q l) : Commits rely Ψ Q s l (.ret a : Prog D W C R E α) :=
  fun _ hl => show Q _ by rwa [hl]

theorem throw (e : E) : Commits rely Ψ Q s l (.throw e : Prog D W C R E α) := fun _ _ => trivial

/-- A reading outside a transaction that is not a statement of its own. -/
theorem query_bind {g : D → α} {f : α → Prog D W C R E β}
    (hf : ∀ d, rely s d → Commits rely Ψ Q d l (f (g d))) :
    Commits rely Ψ Q s l ((Prog.query g).bind f) := by
  intro past hl
  rw [wp_bind, wp_query]
  exact ⟨fun d hd => hf d hd past hl, fun _ => trivial⟩

theorem request_bind {c : C} {f : R c → Prog D W C R E β}
    (hf : ∀ d r, rely s d → Commits rely Ψ Q d l (f r)) :
    Commits rely Ψ Q s l ((Prog.request c).bind f) := by
  intro past hl
  rw [wp_bind, wp_request]
  refine ⟨fun d r hd => ⟨trivial, hf d r hd _ ?_⟩, fun _ _ => trivial, fun _ => trivial⟩
  rw [written_answered, hl]

/-- A part that only calls other systems writes nothing. -/
theorem makes_bind {p : Prog D W C R E α} {S : α → Prop} {f : α → Prog D W C R E β}
    (refl : ∀ d, rely d d) (trans : ∀ {a b c}, rely a b → rely b c → rely a c)
    (hp : Makes Calls p S) (hf : ∀ d a, rely s d → S a → Commits rely Ψ Q d l (f a)) :
    Commits rely Ψ Q s l (p.bind f) := by
  intro past hl
  rw [wp_bind]
  refine hp.wp ⟨refl, trans, fun h => h.elim⟩ (I := fun past => written past = l)
    (fun d h ev hh hev => ?_) hl ?_ fun _ _ _ _ _ => trivial
  · cases ev with
    | committed nested F => exact hev.elim
    | answered c r => exact ⟨trivial, by rw [written_answered, hh]⟩
    | failed c => exact ⟨trivial, by rw [written_failed, hh]⟩
  · rintro a ⟨d, fs, past'⟩ hs hv ha hh
    obtain rfl : fs = [] := hv
    exact hf d a hs ha past' hh

theorem ensure_bind {p : Prop} [Decidable p] {e : E} {f : Unit → Prog D W C R E β}
    (hf : p → Commits rely Ψ Q s l (f ())) : Commits rely Ψ Q s l ((Prog.ensure p e).bind f) := by
  unfold Prog.ensure
  split
  · exact hf ‹_›
  · exact throw e

theorem orThrow_bind {o : Option α} {e : E} {f : α → Prog D W C R E β}
    (hf : ∀ a, o = some a → Commits rely Ψ Q s l (f a)) :
    Commits rely Ψ Q s l ((Prog.orThrow o e).bind f) := by
  cases o with
  | some a => exact hf a rfl
  | none => exact throw e

theorem whenSome {o : Option α} {f : α → Prog D W C R E Unit}
    (hf : ∀ a, o = some a → Commits rely Ψ Q s l (f a)) (hQ : o = none → Q l) :
    Commits rely Ψ Q s l (Prog.whenSome o f) := by
  cases o with
  | some a => exact hf a rfl
  | none => exact ret (hQ rfl)

theorem when {c : Prop} [Decidable c] {p : Prog D W C R E Unit}
    (hp : c → Commits rely Ψ Q s l p) (hQ : ¬c → Q l) : Commits rely Ψ Q s l (Prog.when c p) := by
  unfold Prog.when
  split
  · exact hp ‹_›
  · exact ret (hQ ‹_›)

/-- A transaction commits what its body leaves, which was decided on what it read. -/
theorem build_bind {body : Prog D W C R E α}
    {f : α → Prog D W C R E β} {G : α → List W → Prop}
    (guarded : Guarded (C := C) (R := R) rely fun _ => False) (hbody : Builds rely s [] body G)
    (hf : ∀ d a F, rely s d → G a F → violation F d = none →
      (F = [] ∨ Ψ d l F) ∧ Commits rely Ψ Q (applyAll F d) (l ++ F) (f a)) :
    Commits rely Ψ Q s l ((Prog.transaction body).bind f) := by
  intro past hl
  rw [wp_bind]
  have hbody := wp_carry (I := fun past' => past' = past) (Ψ := Admitted Ψ) (hbody past)
    (fun _ _ _ _ h => h.elim) rfl fun s => ⟨s, guarded.refl s⟩
  refine wp_transaction (wp_mono hbody ?_ ?_) fun _ => trivial
  · rintro a ⟨s', fs, past'⟩ ⟨⟨hs, F, hF, ha⟩, rfl⟩
    refine ⟨F, hF, fun d hd valid => ?_, fun _ => trivial⟩
    obtain ⟨admitted, next⟩ := hf d a F (guarded.trans hs hd) ha valid
    refine ⟨?_, next _ (by rw [written_committed, hl])⟩
    rcases admitted with rfl | admitted
    · exact .inl rfl
    · exact .inr ⟨rfl, hl ▸ admitted⟩
  · rintro e v' ⟨⟨-, F, hF⟩, -⟩
    exact ⟨F, hF, trivial⟩

/-- A transaction whose body calls nobody commits what the body adds. -/
theorem transaction_bind {body : Prog D W C R E α} {f : α → Prog D W C R E β}
    {G : α → List W → Prop} (guarded : Guarded (C := C) (R := R) rely fun _ => False)
    (hbody : Adds (fun _ => False) body G)
    (hf : ∀ d a F, rely s d → G a F → violation F d = none →
      (F = [] ∨ Ψ d l F) ∧ Commits rely Ψ Q (applyAll F d) (l ++ F) (f a)) :
    Commits rely Ψ Q s l ((Prog.transaction body).bind f) :=
  build_bind guarded (.of_adds guarded hbody) hf

theorem statement_bind {w : W} {f : Unit → Prog D W C R E β}
    (guarded : Guarded (C := C) (R := R) rely fun _ => False)
    (hf : ∀ d, rely s d → check w d = none →
      Ψ d l [w] ∧ Commits rely Ψ Q (apply w d) (l ++ [w]) (f ())) :
    Commits rely Ψ Q s l ((Prog.statement w).bind f) := by
  refine transaction_bind (G := fun _ F => F = [w]) guarded (.exec rfl) ?_
  rintro d - F hd rfl valid
  obtain ⟨admitted, next⟩ := hf d hd (violation_cons.1 valid).1
  exact ⟨.inr admitted, next⟩

theorem outside_bind {g : D → α} {f : α → Prog D W C R E β}
    (hf : ∀ d d', rely s d → rely d d' → Commits rely Ψ Q d' l (f (g d))) :
    Commits rely Ψ Q s l ((Prog.outside g).bind f) := by
  intro past hl
  rw [wp_bind]
  refine wp_transaction ?_ fun _ => trivial
  refine (wp_query g).2 ⟨fun d hd => ⟨[], rfl, fun d' hd' _ => ⟨.inl rfl, ?_⟩, fun _ => trivial⟩,
    fun _ => ⟨[], rfl, trivial⟩⟩
  exact hf d d' hd hd' _ (by rw [written_committed, hl, List.append_nil])

end Commits

/-- The statements that thread `i` committed, in order. -/
def writtenBy (log : List (Commit D W)) (i : Nat) : List W :=
  (log.filter fun e => e.thread = i).flatMap Commit.writes

omit [Database D W Row Col E] in
@[simp] theorem writtenBy_nil (i : Nat) : writtenBy ([] : List (Commit D W)) i = [] := rfl

omit [Database D W Row Col E] in
theorem writtenBy_append (log : List (Commit D W)) (e : Commit D W) (i : Nat) :
    writtenBy (log ++ [e]) i = writtenBy log i ++ if e.thread = i then e.writes else [] := by
  by_cases h : e.thread = i <;> simp [writtenBy, List.filter_append, h]

variable {X M : Type} [External X C R M] [DecidableEq Row]

/-- Thread `i` has returned. -/
def Config.Returned (c : Config D X W C R E) (i : Nat) : Prop :=
  ∃ t, c.threads[i]? = some t ∧ t.returned = true

/-- **The run rule**: what every commit keeps holds in every configuration a run
reaches, when the programs commit only what `Ψ` admits; a program that has
returned has written what satisfies `Q`. -/
theorem Reaches.induct_of_commits {P : Config D X W C R E → Effect W C → Prop} {db : D} {ext : X}
    {progs : List (Prog D W C R E Unit)} {c : Config D X W C R E}
    (run : Reaches P (Config.start db ext progs) c) {Ψ : Nat → D → List W → List W → Prop}
    {Q : Nat → List W → Prop} (refl : ∀ d, rely d d)
    (trans : ∀ {a b c}, rely a b → rely b c → rely a c)
    (commits : ∀ i p, progs[i]? = some p → Commits rely (Ψ i) (Q i) db [] p)
    (J : D → List (Commit D W) → Prop) (init : J db [])
    (step : ∀ {c : Config D X W C R E} {i : Nat} {F : List W}, Ψ i c.db (writtenBy c.log i) F →
      violation F c.db = none → P c (.commit i false F) → J c.db c.log →
      rely c.db (applyAll F c.db) ∧ J (applyAll F c.db) (c.log ++ [⟨i, F, c.db⟩]))
    (silent : ∀ {d : D} {log : List (Commit D W)} (i : Nat), J d log → J d (log ++ [⟨i, [], d⟩])) :
    J c.db c.log ∧ ∀ i, c.Returned i → Q i (writtenBy c.log i) := by
  have good : (Config.start db ext progs).Good rely (fun i => Admitted (Ψ i))
      (fun i past => Q i (written past)) fun _ _ _ => True :=
    Config.good_start refl fun i p hi => commits i p hi [] rfl
  have step' {c c' : Config D X W C R E} {eff : Effect W C}
      (hmoves : Moves (fun i => Admitted (Ψ i)) c c' eff) (hP : P c eff)
      (hJ : (∀ i, written (c.past i) = writtenBy c.log i) ∧ J c.db c.log) :
      rely c.db c'.db ∧ (∀ i, written (c'.past i) = writtenBy c'.log i) ∧ J c'.db c'.log := by
    obtain ⟨hw, hJ⟩ := hJ
    have unwritten {i : Nat} {ev : Event W C R}
        (past : c'.past = Function.update c.past i (c.past i ++ [ev]))
        (hev : written (c.past i ++ [ev]) = written (c.past i)) (j : Nat) :
        written (c'.past j) = written (c.past j) := by
      rw [past]
      by_cases hj : j = i
      · rw [hj, Function.update_self, hev]
      · rw [Function.update_of_ne hj]
    cases hmoves with
    | internal _ db ext past log =>
      rw [db, log, past]
      exact ⟨refl _, hw, hJ⟩
    | called i call answered admitted db ext past log =>
      have same := unwritten past (by cases answered <;> simp [reply])
      rw [db, log]
      exact ⟨refl _, fun j => (same j).trans (hw j), hJ⟩
    | unsent i call admitted db ext past log =>
      have same := unwritten past (by simp)
      rw [db, log]
      exact ⟨refl _, fun j => (same j).trans (hw j), hJ⟩
    | commit i nested F admitted valid db ext past log =>
      have hw' (j : Nat) : written (c'.past j) = writtenBy c'.log j := by
        rw [past, log, writtenBy_append]
        by_cases hj : j = i
        · rw [hj, Function.update_self, written_committed, hw, if_pos rfl]
        · rw [Function.update_of_ne hj, hw, if_neg (Ne.symm hj), List.append_nil]
      refine ⟨?_, hw', ?_⟩
      all_goals rw [db]
      all_goals rcases admitted with rfl | ⟨rfl, admitted⟩
      · exact refl _
      · exact (step (hw i ▸ admitted) valid hP hJ).1
      · exact log ▸ silent i hJ
      · exact log ▸ (step (hw i ▸ admitted) valid hP hJ).2
  obtain ⟨hgood, hw, hJ⟩ := run.invariant
    (fun c => (∀ i, written (c.past i) = writtenBy c.log i) ∧ J c.db c.log) refl trans good
    ⟨fun i => by unfold Config.past Config.start; rw [List.getElem?_map]; cases progs[i]? <;> rfl, init⟩
    fun _ hmoves hP hJ => step' hmoves hP hJ
  refine ⟨hJ, fun i ⟨t, ht, returned⟩ => ?_⟩
  obtain ⟨s, -, hwp⟩ := hgood i t ht
  have hi := hw i
  unfold Config.past at hi
  rw [ht] at hi
  obtain ⟨prog, frames, past⟩ := t
  cases prog with
  | ret a => exact hi ▸ hwp
  | _ => cases returned

end Heightt.ReadCommitted
