import Heightt.ReadCommitted.Alone

/-!
# Requests in turn

`Prog.Ends` tells how a program can end when no other runs: as in `Prog.alone`,
but any operation may fail, and a call may fail before or after it has reached
the other system. Each such end is one of a run (`Reaches.of_ends`).

`Turns` says what holds when a program ends, and `Within` what a program adds to
the transaction it runs in. There is one rule for each operation. A program is
gone through from its start to its end, and what it reads is read from a state
that does not change under it.
-/

namespace Heightt.ReadCommitted

open Database

variable {D X W C M Row Col E α β : Type} {R : C → Type} [Database D W Row Col E] [External X C R M]

/-- `p`, started in the given states with the open transactions `fs`, can end with the outcome. -/
def Prog.Ends : Prog D W C R E α → List (Frame W) → D → X → Outcome D X W E α → Prop
  | .ret a, fs, d, x, o => o = ⟨.ok a, fs, d, x⟩
  | .throw e, fs, d, x, o => o = ⟨.error e, fs, d, x⟩
  | .read k err, [], d, x, o => (k d).Ends [] d x o ∨ ∃ e, (err e).Ends [] d x o
  | .read k err, f :: fs, d, x, o =>
    f.isOpen = true ∧ (k (applyAll f.writes d)).Ends (f :: fs) d x o ∨
      ∃ e, (err e).Ends (f.close :: fs) d x o
  | .write _ _ _, [], _, _, _ => False
  | .write w k err, f :: fs, d, x, o =>
    (f.isOpen = true ∧ (∀ r ∈ rows D w, r ∉ fs.flatMap (Frame.held D)) ∧
      check w (applyAll f.writes d) = none ∧
      k.Ends ({ f with writes := f.writes ++ [w] } :: fs) d x o) ∨
      ∃ e, (err e).Ends (f.close :: fs) d x o
  | .begin k err, fs, d, x, o => k.Ends ({} :: fs) d x o ∨ ∃ e, (err e).Ends fs d x o
  | .commit _ _, [], _, _, _ => False
  | .commit k err, f :: fs, d, x, o =>
    (f.isOpen = true ∧ violation f.writes d = none ∧ k.Ends fs (applyAll f.writes d) x o) ∨
      ∃ e, (err e).Ends fs d x o
  | .rollback _, [], _, _, _ => False
  | .rollback k, _ :: fs, d, x, o => k.Ends fs d x o
  | .call c k err, fs, d, x, o =>
    (k (External.handle c x).2).Ends fs d (External.handle c x).1 o ∨
      (∃ e, (err e).Ends fs d (External.handle c x).1 o) ∨ ∃ e, (err e).Ends fs d x o

/-- `f` on what a program returned can end with the outcome. -/
def Outcome.Next (o : Outcome D X W E α) (f : α → Prog D W C R E β) (o' : Outcome D X W E β) : Prop :=
  match o.result with
  | .ok a => (f a).Ends o.frames o.db o.ext o'
  | .error e => o' = ⟨.error e, o.frames, o.db, o.ext⟩

/-- The handler `h` on the error of a program can end with the outcome. -/
def Outcome.Handled (o : Outcome D X W E α) (h : E → Prog D W C R E α) (o' : Outcome D X W E α) : Prop :=
  match o.result with
  | .ok a => o' = ⟨.ok a, o.frames, o.db, o.ext⟩
  | .error e => (h e).Ends o.frames o.db o.ext o'

namespace Prog

variable {d : D} {x : X} {fs : List (Frame W)}

@[simp] theorem ends_ret {a : α} {o : Outcome D X W E α} :
    (ret a : Prog D W C R E α).Ends fs d x o ↔ o = ⟨.ok a, fs, d, x⟩ := by
  cases fs <;> rfl

@[simp] theorem ends_throw {e : E} {o : Outcome D X W E α} :
    (throw e : Prog D W C R E α).Ends fs d x o ↔ o = ⟨.error e, fs, d, x⟩ := by
  cases fs <;> rfl

theorem ends_bind {p : Prog D W C R E α} {f : α → Prog D W C R E β} {o : Outcome D X W E β} :
    (p.bind f).Ends fs d x o ↔ ∃ o', p.Ends fs d x o' ∧ o'.Next f o := by
  induction p generalizing fs d x with
  | ret a => simp [bind, Outcome.Next]
  | throw e => simp [bind, Outcome.Next]
  | read k err ihk ihe =>
    cases fs <;> simp only [bind, Ends, ihk, ihe, or_and_right, exists_or, exists_and_left,
      exists_and_right, and_assoc, exists_comm (α := E)]
  | write w k err ihk ihe =>
    cases fs <;> simp only [bind, Ends, ihk, ihe, or_and_right, exists_or, exists_and_left,
      exists_and_right, and_assoc, exists_comm (α := E), false_and, exists_false]
  | «begin» k err ihk ihe =>
    simp only [bind, Ends, ihk, ihe, or_and_right, exists_or, exists_and_right, exists_comm (α := E)]
  | commit k err ihk ihe =>
    cases fs <;> simp only [bind, Ends, ihk, ihe, or_and_right, exists_or, exists_and_left,
      exists_and_right, and_assoc, exists_comm (α := E), false_and, exists_false]
  | rollback k ihk => cases fs <;> simp only [bind, Ends, ihk, false_and, exists_false]
  | call c k err ihk ihe =>
    simp only [bind, Ends, ihk, ihe, or_and_right, exists_or, exists_and_right, exists_comm (α := E)]

theorem ends_onThrow {p : Prog D W C R E α} {h : E → Prog D W C R E α} {o : Outcome D X W E α} :
    (p.onThrow h).Ends fs d x o ↔ ∃ o', p.Ends fs d x o' ∧ o'.Handled h o := by
  induction p generalizing fs d x with
  | ret a => simp [onThrow, Outcome.Handled]
  | throw e => simp [onThrow, Outcome.Handled]
  | read k err ihk ihe =>
    cases fs <;> simp only [onThrow, Ends, ihk, ihe, or_and_right, exists_or, exists_and_left,
      exists_and_right, and_assoc, exists_comm (α := E)]
  | write w k err ihk ihe =>
    cases fs <;> simp only [onThrow, Ends, ihk, ihe, or_and_right, exists_or, exists_and_left,
      exists_and_right, and_assoc, exists_comm (α := E), false_and, exists_false]
  | «begin» k err ihk ihe =>
    simp only [onThrow, Ends, ihk, ihe, or_and_right, exists_or, exists_and_right, exists_comm (α := E)]
  | commit k err ihk ihe =>
    cases fs <;> simp only [onThrow, Ends, ihk, ihe, or_and_right, exists_or, exists_and_left,
      exists_and_right, and_assoc, exists_comm (α := E), false_and, exists_false]
  | rollback k ihk => cases fs <;> simp only [onThrow, Ends, ihk, false_and, exists_false]
  | call c k err ihk ihe =>
    simp only [onThrow, Ends, ihk, ihe, or_and_right, exists_or, exists_and_right, exists_comm (α := E)]

end Prog

/-- `p`, run in turn from the given states, closes its transactions; if it returns
then `S` holds, and if it ends in an error then `T`. -/
def Turns (p : Prog D W C R E α) (d : D) (x : X) (S : α → D → X → Prop) (T : D → X → Prop) : Prop :=
  ∀ o, p.Ends [] d x o → o.frames = [] ∧
    match o.result with
    | .ok a => S a o.db o.ext
    | .error _ => T o.db o.ext

/-- `p`, run in a transaction that has executed `F`, changes nothing outside it;
if it returns then the statements of the transaction satisfy `G`. -/
def Within (p : Prog D W C R E α) (d : D) (x : X) (F : List W) (G : α → List W → Prop) : Prop :=
  ∀ f o, f.writes = F → p.Ends [f] d x o → o.db = d ∧ o.ext = x ∧
    ∃ f', o.frames = [f'] ∧ ∀ a, o.result = .ok a → G a f'.writes

namespace Within

variable {d : D} {x : X} {F : List W} {G : α → List W → Prop}

theorem mono {p : Prog D W C R E α} {G' : α → List W → Prop} (hp : Within p d x F G)
    (h : ∀ a F', G a F' → G' a F') : Within p d x F G' := by
  intro f o hf ho
  obtain ⟨hd, hx, f', hf', hG⟩ := hp f o hf ho
  exact ⟨hd, hx, f', hf', fun a ha => h a _ (hG a ha)⟩

theorem ret {a : α} (h : G a F) : Within (.ret a : Prog D W C R E α) d x F G := by
  intro f o hf ho
  obtain rfl := Prog.ends_ret.1 ho
  refine ⟨rfl, rfl, f, rfl, fun b hb => ?_⟩
  cases hb
  exact hf ▸ h

theorem throw (e : E) : Within (.throw e : Prog D W C R E α) d x F G := by
  intro f o hf ho
  obtain rfl := Prog.ends_throw.1 ho
  exact ⟨rfl, rfl, f, rfl, fun b hb => by cases hb⟩

theorem bind {p : Prog D W C R E α} {f : α → Prog D W C R E β} {G' : β → List W → Prop}
    (hp : Within p d x F G) (hf : ∀ a F', G a F' → Within (f a) d x F' G') :
    Within (p.bind f) d x F G' := by
  intro g o hg ho
  obtain ⟨⟨result, frames, db, ext⟩, ho', next⟩ := Prog.ends_bind.1 ho
  obtain ⟨rfl, rfl, g', rfl, hG⟩ := hp g _ hg ho'
  cases result with
  | error e =>
    obtain rfl := next
    exact ⟨rfl, rfl, g', rfl, fun b hb => by cases hb⟩
  | ok a => exact hf a _ (hG a rfl) g' o rfl next

/-- An error in the transaction that is thrown on. -/
theorem onThrow {p : Prog D W C R E α} {g : E → E} (hp : Within p d x F G) :
    Within (p.onThrow fun e => .throw (g e)) d x F G := by
  intro f o hf ho
  obtain ⟨⟨result, frames, db, ext⟩, ho', handled⟩ := Prog.ends_onThrow.1 ho
  obtain ⟨rfl, rfl, f', rfl, hG⟩ := hp f _ hf ho'
  cases result with
  | error e =>
    obtain rfl := Prog.ends_throw.1 handled
    exact ⟨rfl, rfl, f', rfl, fun b hb => by cases hb⟩
  | ok a =>
    obtain rfl : o = _ := handled
    exact ⟨rfl, rfl, f', rfl, hG⟩

theorem query {g : D → α} (h : G (g (applyAll F d)) F) :
    Within (Prog.query g : Prog D W C R E α) d x F G := by
  intro f o hf ho
  rcases ho with ⟨-, ho⟩ | ⟨e, ho⟩
  · exact ret (hf ▸ h) f o rfl (hf ▸ ho)
  · exact throw e f.close o hf ho

theorem exec {w : W} {G : Unit → List W → Prop} (h : check w (applyAll F d) = none → G () (F ++ [w])) :
    Within (Prog.exec w : Prog D W C R E Unit) d x F G := by
  intro f o hf ho
  rcases ho with ⟨-, -, valid, ho⟩ | ⟨e, ho⟩
  · exact ret (h (hf ▸ valid)) _ o (by rw [hf]) ho
  · exact throw e f.close o hf ho

/-- A call that leaves the other system as it is. -/
theorem request {c : C} {G : R c → List W → Prop} (still : (External.handle c x).1 = x)
    (h : G (External.handle c x).2 F) : Within (Prog.request c : Prog D W C R E (R c)) d x F G := by
  intro f o hf ho
  rcases ho with ho | ⟨e, ho⟩ | ⟨e, ho⟩
  · rw [still] at ho
    exact ret h f o hf ho
  · rw [still] at ho
    exact throw e f o hf ho
  · exact throw e f o hf ho

variable {f : α → Prog D W C R E β} {G' : β → List W → Prop}

theorem query_bind {g : D → α} (hf : Within (f (g (applyAll F d))) d x F G') :
    Within ((Prog.query g).bind f) d x F G' :=
  (query (G := fun a F' => F' = F ∧ a = g (applyAll F d)) ⟨rfl, rfl⟩).bind fun _ _ ⟨hF, ha⟩ => by
    subst hF ha
    exact hf

theorem exec_bind {w : W} {f : Unit → Prog D W C R E β}
    (hf : check w (applyAll F d) = none → Within (f ()) d x (F ++ [w]) G') :
    Within ((Prog.exec w).bind f) d x F G' :=
  (exec (G := fun _ F' => check w (applyAll F d) = none ∧ F' = F ++ [w]) fun valid => ⟨valid, rfl⟩).bind
    fun _ _ ⟨valid, hF⟩ => by
      subst hF
      exact hf valid

theorem request_bind {c : C} {f : R c → Prog D W C R E β} (still : (External.handle c x).1 = x)
    (hf : Within (f (External.handle c x).2) d x F G') : Within ((Prog.request c).bind f) d x F G' :=
  (request (G := fun r F' => F' = F ∧ r = (External.handle c x).2) still ⟨rfl, rfl⟩).bind
    fun _ _ ⟨hF, hr⟩ => by
      subst hF hr
      exact hf

theorem ensure_bind {p : Prop} [Decidable p] {e : E} {f : Unit → Prog D W C R E β}
    (hf : p → Within (f ()) d x F G') : Within ((Prog.ensure p e).bind f) d x F G' := by
  unfold Prog.ensure
  split
  · exact hf ‹_›
  · exact throw e

theorem orThrow_bind {o : Option α} {e : E} (hf : ∀ a, o = some a → Within (f a) d x F G') :
    Within ((Prog.orThrow o e).bind f) d x F G' := by
  cases o with
  | some a => exact hf a rfl
  | none => exact throw e

theorem whenSome {o : Option α} {f : α → Prog D W C R E Unit} {G : Unit → List W → Prop}
    (hf : ∀ a, o = some a → Within (f a) d x F G) (hG : o = none → G () F) :
    Within (Prog.whenSome o f) d x F G := by
  cases o with
  | some a => exact hf a rfl
  | none => exact ret (hG rfl)

theorem when {c : Prop} [Decidable c] {p : Prog D W C R E Unit} {G : Unit → List W → Prop}
    (hp : c → Within p d x F G) (hG : ¬c → G () F) : Within (Prog.when c p) d x F G := by
  unfold Prog.when
  split
  · exact hp ‹_›
  · exact ret (hG ‹_›)

end Within

namespace Turns

variable {d : D} {x : X} {S : α → D → X → Prop} {T : D → X → Prop}

theorem mono {p : Prog D W C R E α} {S' : α → D → X → Prop} {T' : D → X → Prop} (hp : Turns p d x S T)
    (h : ∀ a d' x', S a d' x' → S' a d' x') (he : ∀ d' x', T d' x' → T' d' x') :
    Turns p d x S' T' := by
  intro o ho
  obtain ⟨closed, post⟩ := hp o ho
  refine ⟨closed, ?_⟩
  obtain ⟨result, frames, db, ext⟩ := o
  cases result with
  | ok a => exact h a _ _ post
  | error e => exact he _ _ post

theorem ret {a : α} (h : S a d x) : Turns (.ret a : Prog D W C R E α) d x S T := by
  intro o ho
  obtain rfl := Prog.ends_ret.1 ho
  exact ⟨rfl, h⟩

theorem throw {e : E} (h : T d x) : Turns (.throw e : Prog D W C R E α) d x S T := by
  intro o ho
  obtain rfl := Prog.ends_throw.1 ho
  exact ⟨rfl, h⟩

theorem bind {p : Prog D W C R E α} {f : α → Prog D W C R E β} {S' : β → D → X → Prop}
    (hp : Turns p d x S T) (hf : ∀ a d' x', S a d' x' → Turns (f a) d' x' S' T) :
    Turns (p.bind f) d x S' T := by
  intro o ho
  obtain ⟨⟨result, frames, db, ext⟩, ho', next⟩ := Prog.ends_bind.1 ho
  obtain ⟨rfl, post⟩ := hp _ ho'
  cases result with
  | ok a => exact hf a _ _ post o next
  | error e =>
    obtain rfl : o = _ := next
    exact ⟨rfl, post⟩

theorem onThrow {p : Prog D W C R E α} {h : E → Prog D W C R E α} {T' : D → X → Prop}
    (hp : Turns p d x S T) (handler : ∀ e d' x', T d' x' → Turns (h e) d' x' S T') :
    Turns (p.onThrow h) d x S T' := by
  intro o ho
  obtain ⟨⟨result, frames, db, ext⟩, ho', handled⟩ := Prog.ends_onThrow.1 ho
  obtain ⟨rfl, post⟩ := hp _ ho'
  cases result with
  | ok a =>
    obtain rfl : o = _ := handled
    exact ⟨rfl, post⟩
  | error e => exact handler e _ _ post o handled

theorem attempt {p : Prog D W C R E Unit} {S : Unit → D → X → Prop} {T' : D → X → Prop}
    (hp : Turns p d x S T) (h : ∀ d' x', T d' x' → S () d' x') : Turns (Prog.attempt p) d x S T' :=
  hp.onThrow fun _ d' x' he => ret (h d' x' he)

theorem ensure_bind {p : Prop} [Decidable p] {e : E} {f : Unit → Prog D W C R E β}
    {S : β → D → X → Prop} (he : T d x) (hf : p → Turns (f ()) d x S T) :
    Turns ((Prog.ensure p e).bind f) d x S T := by
  unfold Prog.ensure
  split
  · exact hf ‹_›
  · exact throw he

theorem orThrow_bind {o : Option α} {e : E} {f : α → Prog D W C R E β} {S : β → D → X → Prop}
    (he : T d x) (hf : ∀ a, o = some a → Turns (f a) d x S T) :
    Turns ((Prog.orThrow o e).bind f) d x S T := by
  cases o with
  | some a => exact hf a rfl
  | none => exact throw he

theorem whenSome {o : Option α} {f : α → Prog D W C R E Unit} {S : Unit → D → X → Prop}
    (hf : ∀ a, o = some a → Turns (f a) d x S T) (hS : o = none → S () d x) :
    Turns (Prog.whenSome o f) d x S T := by
  cases o with
  | some a => exact hf a rfl
  | none => exact ret (hS rfl)

theorem when {c : Prop} [Decidable c] {p : Prog D W C R E Unit} {S : Unit → D → X → Prop}
    (hp : c → Turns p d x S T) (hS : ¬c → S () d x) : Turns (Prog.when c p) d x S T := by
  unfold Prog.when
  split
  · exact hp ‹_›
  · exact ret (hS ‹_›)

/-- A call, whose reply may be lost. -/
theorem request {c : C} {S : R c → D → X → Prop}
    (h : S (External.handle c x).2 d (External.handle c x).1) (lost : T d (External.handle c x).1)
    (unsent : T d x) : Turns (Prog.request c : Prog D W C R E (R c)) d x S T := by
  intro o ho
  rcases ho with ho | ⟨e, ho⟩ | ⟨e, ho⟩
  · exact ret h o ho
  · exact throw lost o ho
  · exact throw unsent o ho

/-- A transaction commits what its body adds, or changes nothing. -/
theorem transaction {body : Prog D W C R E α} {G : α → List W → Prop} (hbody : Within body d x [] G)
    (h : ∀ a F, G a F → violation F d = none → S a (applyAll F d) x) (he : T d x) :
    Turns (Prog.transaction body) d x S T := by
  intro o ho
  rcases ho with ho | ⟨e, ho⟩
  · obtain ⟨⟨result, frames, db, ext⟩, ho', next⟩ := Prog.ends_bind.1 ho
    obtain ⟨⟨result', frames', db', ext'⟩, ho'', handled⟩ := Prog.ends_onThrow.1 ho'
    obtain ⟨rfl, rfl, f, rfl, hG⟩ := hbody {} _ rfl ho''
    cases result' with
    | error e =>
      obtain ⟨rfl, rfl, rfl, rfl⟩ : result = .error e ∧ frames = [] ∧ db = db' ∧ ext = ext' := by
        simpa using (Prog.ends_throw (o := ⟨result, frames, db, ext⟩)).1 handled
      obtain rfl : o = _ := next
      exact ⟨rfl, he⟩
    | ok a =>
      obtain ⟨rfl, rfl, rfl, rfl⟩ : result = .ok a ∧ frames = [f] ∧ db = db' ∧ ext = ext' := by
        simpa [Outcome.Handled] using handled
      rcases next with ⟨-, valid, next⟩ | ⟨e, next⟩
      · obtain rfl := Prog.ends_ret.1 next
        exact ⟨rfl, h a _ (hG a rfl) valid⟩
      · obtain rfl := Prog.ends_throw.1 next
        exact ⟨rfl, he⟩
  · exact throw he o ho

theorem statement {w : W} {S : Unit → D → X → Prop} (h : check w d = none → S () (apply w d) x)
    (he : T d x) : Turns (Prog.statement w : Prog D W C R E Unit) d x S T := by
  refine transaction (Within.exec (G := fun _ F => check w d = none ∧ F = [w]) fun valid => ⟨valid, rfl⟩)
    (fun _ F hF _ => ?_) he
  obtain ⟨valid, rfl⟩ := hF
  exact h valid

theorem outside {g : D → α} (h : S (g d) d x) (he : T d x) :
    Turns (Prog.outside g : Prog D W C R E α) d x S T := by
  refine transaction (Within.query (G := fun a F => a = g d ∧ F = []) ⟨rfl, rfl⟩) (fun a F hF _ => ?_) he
  obtain ⟨rfl, rfl⟩ := hF
  exact h

theorem outside_bind {g : D → α} {f : α → Prog D W C R E β} {S : β → D → X → Prop} (he : T d x)
    (hf : Turns (f (g d)) d x S T) : Turns ((Prog.outside g).bind f) d x S T := by
  refine (outside (S := fun a d' x' => a = g d ∧ d' = d ∧ x' = x) ⟨rfl, rfl, rfl⟩ he).bind
    fun a d' x' h => ?_
  obtain ⟨rfl, rfl, rfl⟩ := h
  exact hf

/-- A reading outside a transaction. -/
theorem query_bind {g : D → α} {f : α → Prog D W C R E β} {S : β → D → X → Prop} (he : T d x)
    (hf : Turns (f (g d)) d x S T) : Turns ((Prog.query g).bind f) d x S T := by
  intro o ho
  rcases ho with ho | ⟨e, ho⟩
  · exact hf o ho
  · exact throw he o ho

end Turns

/-! ## What the other rules say of an end -/

/-- A program that ends in turn ends with what `wp` says; an invariant of the
states that the events keep holds at its end. -/
theorem Prog.ends_of_wp {rely : D → D → Prop} {Φ : D → List (Event W C R) → Event W C R → Prop}
    (refl : ∀ d, rely d d) (I : D → X → Prop)
    (commit : ∀ d x past nested F, Φ d past (.committed nested F) → violation F d = none → I d x →
      I (applyAll F d) x)
    (call : ∀ d x past c, (∃ r, Φ d past (.answered c r)) → I d x → I d (External.handle c x).1)
    {p : Prog D W C R E α} {fs : List (Frame W)} {d : D} {x : X} {past : List (Event W C R)}
    {Q : α → View D W C R → Prop} {Qe : E → View D W C R → Prop} {o : Outcome D X W E α}
    (h : wp rely Φ p ⟨d, fs.map Frame.writes, past⟩ Q Qe) (ho : p.Ends fs d x o) (hI : I d x) :
    I o.db o.ext ∧ ∃ past', match o.result with
      | .ok a => Q a ⟨o.db, o.frames.map Frame.writes, past'⟩
      | .error e => Qe e ⟨o.db, o.frames.map Frame.writes, past'⟩ := by
  induction p generalizing fs d x past with
  | ret a =>
    obtain rfl := ends_ret.1 ho
    exact ⟨hI, past, h⟩
  | throw e =>
    obtain rfl := ends_throw.1 ho
    exact ⟨hI, past, h⟩
  | read k err ihk ihe =>
    cases fs with
    | nil =>
      rcases ho with ho | ⟨e, ho⟩
      · exact ihk _ (h.1 d (refl d)) ho hI
      · exact ihe e (h.2 e) ho hI
    | cons f fs =>
      have failed (e : E) : wp rely Φ (err e) ⟨d, (f.close :: fs).map Frame.writes, past⟩ Q Qe := h.2 e
      rcases ho with ⟨-, ho⟩ | ⟨e, ho⟩
      · exact ihk _ (h.1 d (refl d)) ho hI
      · exact ihe e (failed e) ho hI
  | write w k err ihk ihe =>
    cases fs with
    | nil => exact ho.elim
    | cons f fs =>
      have done : wp rely Φ k
          ⟨d, ({ f with writes := f.writes ++ [w] } :: fs).map Frame.writes, past⟩ Q Qe := h.1
      have failed (e : E) : wp rely Φ (err e) ⟨d, (f.close :: fs).map Frame.writes, past⟩ Q Qe := h.2 e
      rcases ho with ⟨-, -, -, ho⟩ | ⟨e, ho⟩
      · exact ihk done ho hI
      · exact ihe e (failed e) ho hI
  | «begin» k err ihk ihe =>
    rcases ho with ho | ⟨e, ho⟩
    · exact ihk h.1 ho hI
    · exact ihe e (h.2 e) ho hI
  | commit k err ihk ihe =>
    cases fs with
    | nil => exact ho.elim
    | cons f fs =>
      rcases ho with ⟨-, valid, ho⟩ | ⟨e, ho⟩
      · obtain ⟨admitted, next⟩ := h.1 d (refl d) valid
        exact ihk next ho (commit _ _ _ _ _ admitted valid hI)
      · exact ihe e (h.2 e) ho hI
  | rollback k ihk =>
    cases fs with
    | nil => exact ho.elim
    | cons f fs => exact ihk h ho hI
  | call c k err ihk ihe =>
    obtain ⟨answered, -, failed⟩ := h
    have moved := call d x past c ⟨_, (answered d (External.handle c x).2 (refl d)).1⟩ hI
    rcases ho with ho | ⟨e, ho⟩ | ⟨e, ho⟩
    · exact ihk _ (answered d _ (refl d)).2 ho moved
    · exact ihe e (failed e) ho moved
    · exact ihe e (failed e) ho hI

/-- A body that calls nobody adds in turn what it adds at all. -/
theorem Within.of_adds {p : Prog D W C R E α} {d : D} {x : X} {F : List W} {G : α → List W → Prop}
    (h : Adds (fun _ => False) p G) : Within p d x F fun a F' => ∃ L, F' = F ++ L ∧ G a L := by
  intro f o hf ho
  subst hf
  obtain ⟨⟨hd, hx⟩, past, post⟩ := Prog.ends_of_wp (fun _ => trivial) (fun d' x' => d' = d ∧ x' = x)
    (fun _ _ _ _ _ hF => hF.elim) (fun _ _ _ _ hc => hc.elim fun _ h => h.elim)
    (h Anything (guarded_anything _) d f.writes [] []) ho ⟨rfl, rfl⟩
  refine ⟨hd, hx, ?_⟩
  obtain ⟨result, frames, db, ext⟩ := o
  cases result with
  | ok a =>
    obtain ⟨-, L, hframes, ha⟩ := post
    obtain ⟨f', rfl, hf'⟩ := List.map_eq_singleton_iff.1 hframes
    refine ⟨f', rfl, fun b hb => ?_⟩
    cases hb
    exact ⟨L, hf', ha⟩
  | error e =>
    obtain ⟨-, L, hframes⟩ := post
    obtain ⟨f', rfl, -⟩ := List.map_eq_singleton_iff.1 hframes
    exact ⟨f', rfl, fun b hb => by cases hb⟩

/-- What every event of a program keeps holds when it ends in turn. -/
theorem Turns.of_makes {P : Event W C R → Prop} {p : Prog D W C R E α} {S : α → Prop} {d : D} {x : X}
    (h : Makes P p S) (I : D → X → Prop)
    (commit : ∀ d x nested F, P (.committed nested F) → violation F d = none → I d x → I (applyAll F d) x)
    (call : ∀ d x c, (∃ r, P (.answered c r)) → I d x → I d (External.handle c x).1) (hI : I d x) :
    Turns p d x (fun a d' x' => I d' x' ∧ S a) I := by
  intro o ho
  obtain ⟨hI', past, post⟩ := Prog.ends_of_wp (fun _ => trivial) I
    (fun d x _ nested F => commit d x nested F) (fun d x _ c => call d x c)
    (h Anything (guarded_anything _) ⟨d, [], []⟩) ho hI
  obtain ⟨result, frames, db, ext⟩ := o
  cases result with
  | ok a =>
    obtain ⟨-, hframes, ha⟩ := post
    exact ⟨List.map_eq_nil_iff.1 hframes, hI', ha⟩
  | error e =>
    obtain ⟨-, hframes⟩ := post
    exact ⟨List.map_eq_nil_iff.1 hframes, hI'⟩

/-! ## Ends and runs -/

variable [DecidableEq Row]

theorem Prog.ends_of_alone {p : Prog D W C R E α} {fs : List (Frame W)} {d : D} {x : X}
    {o : Outcome D X W E α} (h : p.alone fs d x = some o) : p.Ends fs d x o := by
  induction p generalizing fs d x with
  | ret a => exact ends_ret.2 (Option.some.inj ((alone_ret a).symm.trans h)).symm
  | throw e => exact ends_throw.2 (Option.some.inj ((alone_throw e).symm.trans h)).symm
  | read k err ihk ihe =>
    cases fs with
    | nil => exact .inl (ihk d h)
    | cons f fs =>
      simp only [alone, Option.ite_none_right_eq_some] at h
      exact .inl ⟨h.1, ihk _ h.2⟩
  | write w k err ihk ihe =>
    cases fs with
    | nil => cases h
    | cons f fs =>
      simp only [alone, Option.ite_none_right_eq_some] at h
      obtain ⟨⟨isOpen, free⟩, h⟩ := h
      split at h
      · rename_i ok
        exact .inl ⟨isOpen, free, ok, ihk h⟩
      · exact .inr ⟨_, ihe _ h⟩
  | «begin» k err ihk ihe => exact .inl (ihk h)
  | commit k err ihk ihe =>
    cases fs with
    | nil => cases h
    | cons f fs =>
      simp only [alone, Option.ite_none_right_eq_some] at h
      obtain ⟨isOpen, h⟩ := h
      split at h
      · rename_i valid
        exact .inl ⟨isOpen, valid, ihk h⟩
      · exact .inr ⟨_, ihe _ h⟩
  | rollback k ihk =>
    cases fs with
    | nil => cases h
    | cons f fs => exact ihk h
  | call c k err ihk ihe => exact .inl (ihk _ h)

/-- `p` returns, and the rest can end with the outcome. -/
theorem Prog.ends_bind_of_alone {p : Prog D W C R E α} {f : α → Prog D W C R E β} {fs fs' : List (Frame W)}
    {d d' : D} {x x' : X} {a : α} {o : Outcome D X W E β} (h : p.alone fs d x = some ⟨.ok a, fs', d', x'⟩)
    (next : (f a).Ends fs' d' x' o) : (p.bind f).Ends fs d x o :=
  ends_bind.2 ⟨_, ends_of_alone h, next⟩

theorem Prog.ends_outside_bind {g : D → α} {f : α → Prog D W C R E β} {d : D} {x : X} {o : Outcome D X W E β}
    (next : (f (g d)).Ends [] d x o) : ((outside g).bind f).Ends [] d x o :=
  ends_bind_of_alone (p := outside g) (a := g d) rfl next

theorem Reaches.of_ends_single {c₀ : Config D X W C R E} (p : Prog D W C R E Unit)
    {fs : List (Frame W)} {d : D} {x : X} {log : List (Commit D W)} {past : List (Event W C R)}
    {o : Outcome D X W E Unit} (h : p.Ends fs d x o)
    (run : Reaches (fun _ _ => True) c₀ (Config.single d x log p fs past)) :
    ∃ log' past', Reaches (fun _ _ => True) c₀
      (Config.single o.db o.ext log' (.ended o.result) o.frames past') := by
  induction p generalizing fs d x log past with
  | ret a =>
    obtain rfl := Prog.ends_ret.1 h
    exact ⟨log, past, run⟩
  | throw e =>
    obtain rfl := Prog.ends_throw.1 h
    exact ⟨log, past, run⟩
  | read k err ihk ihe =>
    cases fs with
    | nil =>
      rcases h with h | ⟨e, h⟩
      · exact ihk d h (run.of_step rfl rfl)
      · exact ihe e h (run.of_choice (.fail e) rfl rfl)
    | cons f fs =>
      rcases h with ⟨isOpen, h⟩ | ⟨e, h⟩
      · exact ihk _ h (run.of_step (by simp only [Thread.step, if_pos isOpen]; rfl) rfl)
      · exact ihe e h (run.of_choice (.fail e) rfl rfl)
  | write w k err ihk ihe =>
    cases fs with
    | nil => exact h.elim
    | cons f fs =>
      rcases h with ⟨isOpen, free, ok, h⟩ | ⟨e, h⟩
      · have hs : Thread.step 0 d x [] ⟨.write w k err, f :: fs, past⟩ .ok =
            some (⟨k, { f with writes := f.writes ++ [w] } :: fs, past⟩, .internal) := by
          simp only [Thread.step, List.nil_append, if_pos (And.intro isOpen free), ok]
        exact ihk h (run.of_step hs rfl)
      · exact ihe e h (run.of_choice (.fail e) rfl rfl)
  | «begin» k err ihk ihe =>
    rcases h with h | ⟨e, h⟩
    · exact ihk h (run.of_step rfl rfl)
    · exact ihe e h (run.of_choice (.fail e) rfl rfl)
  | commit k err ihk ihe =>
    cases fs with
    | nil => exact h.elim
    | cons f fs =>
      rcases h with ⟨isOpen, valid, h⟩ | ⟨e, h⟩
      · have hs : Thread.step 0 d x [] ⟨.commit k err, f :: fs, past⟩ .ok =
            some (⟨k, fs, past ++ [.committed (!fs.isEmpty) f.writes]⟩,
              .commit 0 (!fs.isEmpty) f.writes) := by
          simp only [Thread.step, if_pos isOpen, valid]
        exact ihk h (run.of_step hs rfl)
      · exact ihe e h (run.of_choice (.fail e) rfl rfl)
  | rollback k ihk =>
    cases fs with
    | nil => exact h.elim
    | cons f fs => exact ihk h (run.of_step rfl rfl)
  | call c k err ihk ihe =>
    rcases h with h | ⟨e, h⟩ | ⟨e, h⟩
    · exact ihk _ h (run.of_step rfl rfl)
    · exact ihe e h (run.of_choice (.lost e) rfl rfl)
    · exact ihe e h (run.of_choice (.fail e) rfl rfl)

/-- Each way a program can end in turn is the end of one of its runs. -/
theorem Reaches.of_ends {p : Prog D W C R E Unit} {d : D} {x : X} {o : Outcome D X W E Unit}
    (h : p.Ends [] d x o) : ∃ log past, Reaches (fun _ _ => True)
      (Config.start d x [p]) (Config.single o.db o.ext log (.ended o.result) o.frames past) :=
  of_ends_single p h .refl

end Heightt.ReadCommitted
