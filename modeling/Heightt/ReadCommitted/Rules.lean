import Heightt.ReadCommitted.Program

/-!
# Rules for weakest preconditions

One rule for each way programs are put together, so that a specification of a
program is assembled from those of its parts and no proof unfolds `wp`. A part
that is specified once, with the events it makes (`Makes`) or the statements it
adds to the open transaction (`Adds`), is used under any condition on the past
that those events keep.
-/

namespace Heightt.ReadCommitted

open Database

variable {D W C : Type} {R : C → Type} {E α β Row Col : Type} [Database D W Row Col E]

variable {rely : D → D → Prop} {Φ Ψ : D → List (Event W C R) → Event W C R → Prop}
  {v : View D W C R}

/-- The condition may be strengthened, along with a property `I` of the past that the events keep. -/
theorem wp_carry {I : List (Event W C R) → Prop} {p : Prog D W C R E α}
    {Q : α → View D W C R → Prop} {Qe : E → View D W C R → Prop} (hp : wp rely Φ p v Q Qe)
    (step : ∀ d h ev, I h → Φ d h ev → Ψ d h ev ∧ I (h ++ [ev])) (hI : I v.past)
    (inhabited : ∀ s, ∃ d, rely s d) :
    wp rely Ψ p v (fun a v => Q a v ∧ I v.past) fun e v => Qe e v ∧ I v.past := by
  induction p generalizing v with
  | ret a => exact ⟨hp, hI⟩
  | throw e => exact ⟨hp, hI⟩
  | read k err ihk ihe =>
    exact ⟨fun d hd => ihk _ (hp.1 d hd) hI, fun e => ihe e (hp.2 e) hI⟩
  | write w k err ihk ihe =>
    obtain ⟨s, _ | ⟨F, fs⟩, h⟩ := v
    · exact hp
    · exact ⟨ihk hp.1 hI, fun e => ihe e (hp.2 e) hI⟩
  | «begin» k err ihk ihe => exact ⟨ihk hp.1 hI, fun e => ihe e (hp.2 e) hI⟩
  | commit k err ihk ihe =>
    obtain ⟨s, _ | ⟨F, fs⟩, h⟩ := v
    · exact hp
    · refine ⟨fun d hd valid => ?_, fun e => ihe e (hp.2 e) hI⟩
      obtain ⟨hev, hk⟩ := hp.1 d hd valid
      obtain ⟨hev, hI'⟩ := step _ _ _ hI hev
      exact ⟨hev, ihk hk hI'⟩
  | rollback k ihk =>
    obtain ⟨s, _ | ⟨F, fs⟩, h⟩ := v
    · exact hp
    · exact ihk hp hI
  | call c k err ihk ihe =>
    obtain ⟨hr, hf, he⟩ := hp
    obtain ⟨d₀, hd₀⟩ := inhabited v.seen
    refine ⟨fun d r hd => ?_, fun d hd => (step _ _ _ hI (hf d hd)).1, fun e => ?_⟩
    · obtain ⟨hr, hk⟩ := hr d r hd
      obtain ⟨hr, hI'⟩ := step _ _ _ hI hr
      exact ⟨hr, ihk r hk hI'⟩
    · exact ihe e (he e) (step _ _ _ hI (hf d₀ hd₀)).2

/-- The rule of consequence. -/
theorem wp_mono {p : Prog D W C R E α} {Q Q' : α → View D W C R → Prop}
    {Qe Qe' : E → View D W C R → Prop} (hp : wp rely Φ p v Q Qe) (hQ : ∀ a v, Q a v → Q' a v)
    (hQe : ∀ e v, Qe e v → Qe' e v) : wp rely Φ p v Q' Qe' := by
  induction p generalizing v with
  | ret a => exact hQ _ _ hp
  | throw e => exact hQe _ _ hp
  | read k err ihk ihe => exact ⟨fun d hd => ihk _ (hp.1 d hd), fun e => ihe e (hp.2 e)⟩
  | write w k err ihk ihe =>
    obtain ⟨s, _ | ⟨F, fs⟩, h⟩ := v
    · exact hp
    · exact ⟨ihk hp.1, fun e => ihe e (hp.2 e)⟩
  | «begin» k err ihk ihe => exact ⟨ihk hp.1, fun e => ihe e (hp.2 e)⟩
  | commit k err ihk ihe =>
    obtain ⟨s, _ | ⟨F, fs⟩, h⟩ := v
    · exact hp
    · exact ⟨fun d hd valid => ⟨(hp.1 d hd valid).1, ihk (hp.1 d hd valid).2⟩,
        fun e => ihe e (hp.2 e)⟩
  | rollback k ihk =>
    obtain ⟨s, _ | ⟨F, fs⟩, h⟩ := v
    · exact hp
    · exact ihk hp
  | call c k err ihk ihe =>
    exact ⟨fun d r hd => ⟨(hp.1 d r hd).1, ihk r (hp.1 d r hd).2⟩, hp.2.1,
      fun e => ihe e (hp.2.2 e)⟩

theorem wp_bind (p : Prog D W C R E α) (f : α → Prog D W C R E β)
    (Q : β → View D W C R → Prop) (Qe : E → View D W C R → Prop) :
    wp rely Φ (p.bind f) v Q Qe ↔ wp rely Φ p v (fun a v => wp rely Φ (f a) v Q Qe) Qe := by
  induction p generalizing v with
  | ret a => rfl
  | throw e => rfl
  | read k err ihk ihe => simp only [Prog.bind, wp, ihk, ihe]
  | write w k err ihk ihe =>
    obtain ⟨s, _ | ⟨F, fs⟩, h⟩ := v <;> simp only [Prog.bind, wp, ihk, ihe]
  | «begin» k err ihk ihe => simp only [Prog.bind, wp, ihk, ihe]
  | commit k err ihk ihe =>
    obtain ⟨s, _ | ⟨F, fs⟩, h⟩ := v <;> simp only [Prog.bind, wp, ihk, ihe]
  | rollback k ihk => obtain ⟨s, _ | ⟨F, fs⟩, h⟩ := v <;> simp only [Prog.bind, wp, ihk]
  | call c k err ihk ihe => simp only [Prog.bind, wp, ihk, ihe]

theorem wp_onThrow (p : Prog D W C R E α) (f : E → Prog D W C R E α)
    (Q : α → View D W C R → Prop) (Qe : E → View D W C R → Prop) :
    wp rely Φ (p.onThrow f) v Q Qe ↔ wp rely Φ p v Q (fun e v => wp rely Φ (f e) v Q Qe) := by
  induction p generalizing v with
  | ret a => rfl
  | throw e => rfl
  | read k err ihk ihe => simp only [Prog.onThrow, wp, ihk, ihe]
  | write w k err ihk ihe =>
    obtain ⟨s, _ | ⟨F, fs⟩, h⟩ := v <;> simp only [Prog.onThrow, wp, ihk, ihe]
  | «begin» k err ihk ihe => simp only [Prog.onThrow, wp, ihk, ihe]
  | commit k err ihk ihe =>
    obtain ⟨s, _ | ⟨F, fs⟩, h⟩ := v <;> simp only [Prog.onThrow, wp, ihk, ihe]
  | rollback k ihk => obtain ⟨s, _ | ⟨F, fs⟩, h⟩ := v <;> simp only [Prog.onThrow, wp, ihk]
  | call c k err ihk ihe => simp only [Prog.onThrow, wp, ihk, ihe]

section Rules

variable {Q : α → View D W C R → Prop} {Qe : E → View D W C R → Prop}
  {Qu : Unit → View D W C R → Prop}

@[simp] theorem wp_ret (a : α) :
    wp rely Φ (.ret a : Prog D W C R E α) v Q Qe ↔ Q a v := Iff.rfl

@[simp] theorem wp_throw (e : E) :
    wp rely Φ (.throw e : Prog D W C R E α) v Q Qe ↔ Qe e v := Iff.rfl

theorem wp_query (f : D → α) :
    wp rely Φ (Prog.query f : Prog D W C R E α) v Q Qe ↔
      (∀ d, rely v.seen d → Q (f (visible v.frames d)) { v with seen := d }) ∧ ∀ e, Qe e v :=
  Iff.rfl

theorem wp_exec (w : W) {s : D} {F : List W} {fs : List (List W)} {h : List (Event W C R)} :
    wp rely Φ (Prog.exec w : Prog D W C R E Unit) ⟨s, F :: fs, h⟩ Qu Qe ↔
      Qu () ⟨s, (F ++ [w]) :: fs, h⟩ ∧ ∀ e, Qe e ⟨s, F :: fs, h⟩ := Iff.rfl

theorem wp_request {c : C} {Q : R c → View D W C R → Prop} :
    wp rely Φ (Prog.request c : Prog D W C R E (R c)) v Q Qe ↔
      (∀ d r, rely v.seen d → Φ d v.past (.answered c r) ∧
        Q r { v with seen := d, past := v.past ++ [.answered c r] }) ∧
      (∀ d, rely v.seen d → Φ d v.past (.failed c)) ∧
      ∀ e, Qe e { v with past := v.past ++ [.failed c] } := Iff.rfl

theorem wp_ensure {p : Prop} [Decidable p] (e : E) :
    wp rely Φ (Prog.ensure p e : Prog D W C R E Unit) v Qu Qe ↔
      (p → Qu () v) ∧ (¬p → Qe e v) := by
  unfold Prog.ensure
  split <;> simp_all

theorem wp_orThrow {o : Option α} {e : E} :
    wp rely Φ (Prog.orThrow o e : Prog D W C R E α) v Q Qe ↔
      (∀ a, o = some a → Q a v) ∧ (o = none → Qe e v) := by
  cases o <;> simp [Prog.orThrow]

theorem wp_when {c : Prop} [Decidable c] {p : Prog D W C R E Unit} :
    wp rely Φ (Prog.when c p) v Qu Qe ↔ (c → wp rely Φ p v Qu Qe) ∧ (¬c → Qu () v) := by
  unfold Prog.when
  split <;> simp_all

theorem wp_whenSome {o : Option α} {f : α → Prog D W C R E Unit} :
    wp rely Φ (Prog.whenSome o f) v Qu Qe ↔
      (∀ a, o = some a → wp rely Φ (f a) v Qu Qe) ∧ (o = none → Qu () v) := by
  cases o <;> simp [Prog.whenSome]

/-- A transaction commits the statements its body leaves in its frame, or none. -/
theorem wp_transaction {body : Prog D W C R E α}
    (hbody : wp rely Φ body { v with frames := [] :: v.frames }
      (fun a v' => ∃ F, v'.frames = F :: v.frames ∧
        (∀ d, rely v'.seen d → violation F d = none →
          Φ d v'.past (.committed (!v.frames.isEmpty) F) ∧
          Q a ⟨applyAll F d, v.frames, v'.past ++ [.committed (!v.frames.isEmpty) F]⟩) ∧
        ∀ e, Qe e { v' with frames := v.frames })
      (fun e v' => ∃ F, v'.frames = F :: v.frames ∧ Qe e { v' with frames := v.frames }))
    (herr : ∀ e, Qe e v) : wp rely Φ (Prog.transaction body) v Q Qe := by
  refine ⟨?_, herr⟩
  rw [wp_bind, wp_onThrow]
  refine wp_mono hbody ?_ ?_
  · rintro a ⟨s, fs, h⟩ ⟨F, hF, hQ, hQe⟩
    obtain rfl : fs = F :: v.frames := hF
    exact ⟨hQ, hQe⟩
  · rintro e ⟨s, fs, h⟩ ⟨F, hF, hQe⟩
    obtain rfl : fs = F :: v.frames := hF
    exact hQe

theorem wp_attempt {p : Prog D W C R E Unit} (hp : wp rely Φ p v Qu fun _ v => Qu () v) :
    wp rely Φ (Prog.attempt p) v Qu Qe :=
  (wp_onThrow _ _ _ _).2 hp

end Rules

/-! ## Parts that are specified once -/

/-- The others may do anything. -/
def Anything (_ _ : D) : Prop := True

/-- What the others do is a preorder, and the events `P` are among it. -/
structure Guarded (rely : D → D → Prop) (P : Event W C R → Prop) : Prop where
  refl : ∀ d, rely d d
  trans : ∀ {a b c}, rely a b → rely b c → rely a c
  keeps : ∀ {nested F d}, P (.committed nested F) → violation F d = none → rely d (applyAll F d)

theorem guarded_anything (P : Event W C R → Prop) : Guarded (D := D) Anything P :=
  ⟨fun _ => trivial, fun _ _ => trivial, fun _ _ => trivial⟩

/-- Whatever the others and the program did before, `p` makes only events that
satisfy `P`, closes every transaction it opens, and returns values that satisfy `S`. -/
def Makes (P : Event W C R → Prop) (p : Prog D W C R E α) (S : α → Prop) : Prop :=
  ∀ rely, Guarded rely P → ∀ v, wp rely (fun _ _ ev => P ev) p v
    (fun a v' => rely v.seen v'.seen ∧ v'.frames = v.frames ∧ S a)
    fun _ v' => rely v.seen v'.seen ∧ v'.frames = v.frames

namespace Makes

variable {P P' : Event W C R → Prop} {S : α → Prop} {S' : β → Prop}

/-- A part that makes only `P` events runs under any condition those keep. -/
theorem wp {p : Prog D W C R E α} (hp : Makes P p S) (guarded : Guarded rely P)
    {I : List (Event W C R) → Prop} {Q : α → View D W C R → Prop} {Qe : E → View D W C R → Prop}
    (step : ∀ d h ev, I h → P ev → Φ d h ev ∧ I (h ++ [ev])) (hI : I v.past)
    (hQ : ∀ a v', rely v.seen v'.seen → v'.frames = v.frames → S a → I v'.past → Q a v')
    (hQe : ∀ e v', rely v.seen v'.seen → v'.frames = v.frames → I v'.past → Qe e v') :
    ReadCommitted.wp rely Φ p v Q Qe := by
  refine wp_mono (wp_carry (hp rely guarded v) step hI fun s => ⟨s, guarded.refl s⟩) ?_ ?_
  · rintro a v' ⟨⟨hs, hv, hS⟩, hI⟩
    exact hQ a v' hs hv hS hI
  · rintro e v' ⟨⟨hs, hv⟩, hI⟩
    exact hQe e v' hs hv hI

/-- The same without a condition on the past. -/
theorem wp' {p : Prog D W C R E α} (hp : Makes P p S) (guarded : Guarded rely P)
    {Q : α → View D W C R → Prop} {Qe : E → View D W C R → Prop}
    (step : ∀ d h ev, P ev → Φ d h ev)
    (hQ : ∀ a v', rely v.seen v'.seen → v'.frames = v.frames → S a → Q a v')
    (hQe : ∀ e v', rely v.seen v'.seen → v'.frames = v.frames → Qe e v') :
    ReadCommitted.wp rely Φ p v Q Qe :=
  hp.wp guarded (I := fun _ => True) (fun d h ev _ hP => ⟨step d h ev hP, trivial⟩) trivial
    (fun a v' hs hv hS _ => hQ a v' hs hv hS) fun e v' hs hv _ => hQe e v' hs hv

theorem mono {p : Prog D W C R E α} (hp : Makes P p S) {T : α → Prop} (hP : ∀ ev, P ev → P' ev)
    (hS : ∀ a, S a → T a) : Makes P' p T := fun _ guarded _ =>
  hp.wp' ⟨guarded.refl, guarded.trans, fun h => guarded.keeps (hP _ h)⟩ (fun _ _ ev => hP ev)
    (fun a _ hs hv ha => ⟨hs, hv, hS a ha⟩) fun _ _ hs hv => ⟨hs, hv⟩

theorem ret {a : α} (ha : S a) : Makes P (.ret a : Prog D W C R E α) S :=
  fun _ guarded v => ⟨guarded.refl v.seen, rfl, ha⟩

theorem throw (e : E) : Makes P (.throw e : Prog D W C R E α) S :=
  fun _ guarded v => ⟨guarded.refl v.seen, rfl⟩

theorem bind {p : Prog D W C R E α} {f : α → Prog D W C R E β} (hp : Makes P p S)
    (hf : ∀ a, S a → Makes P (f a) S') : Makes P (p.bind f) S' := fun rely guarded v => by
  rw [wp_bind]
  refine hp.wp' guarded (fun _ _ _ hP => hP) (fun a v' hs hv ha => ?_) fun _ _ hs hv => ⟨hs, hv⟩
  refine wp_mono (hf a ha rely guarded v') ?_ ?_
  · rintro b v'' ⟨hs', hv', hb⟩
    exact ⟨guarded.trans hs hs', hv'.trans hv, hb⟩
  · rintro e v'' ⟨hs', hv'⟩
    exact ⟨guarded.trans hs hs', hv'.trans hv⟩

theorem onThrow {p : Prog D W C R E α} {f : E → Prog D W C R E α} (hp : Makes P p S)
    (hf : ∀ e, Makes P (f e) S) : Makes P (p.onThrow f) S := fun rely guarded v => by
  rw [wp_onThrow]
  refine hp.wp' guarded (fun _ _ _ hP => hP) (fun a _ hs hv ha => ⟨hs, hv, ha⟩) fun e v' hs hv => ?_
  refine wp_mono (hf e rely guarded v') ?_ ?_
  · rintro b v'' ⟨hs', hv', hb⟩
    exact ⟨guarded.trans hs hs', hv'.trans hv, hb⟩
  · rintro e v'' ⟨hs', hv'⟩
    exact ⟨guarded.trans hs hs', hv'.trans hv⟩

theorem attempt {p : Prog D W C R E Unit} (hp : Makes P p fun _ => True) :
    Makes P p.attempt fun _ => True :=
  onThrow hp fun _ => ret trivial

theorem ensure {p : Prop} [Decidable p] (e : E) :
    Makes P (Prog.ensure p e : Prog D W C R E Unit) fun _ => p := fun _ guarded v => by
  rw [wp_ensure]
  exact ⟨fun hp => ⟨guarded.refl v.seen, rfl, hp⟩, fun _ => ⟨guarded.refl v.seen, rfl⟩⟩

theorem orThrow {o : Option α} {e : E} (ho : ∀ a, o = some a → S a) :
    Makes P (Prog.orThrow o e : Prog D W C R E α) S := fun _ guarded v => by
  rw [wp_orThrow]
  exact ⟨fun a ha => ⟨guarded.refl v.seen, rfl, ho a ha⟩, fun _ => ⟨guarded.refl v.seen, rfl⟩⟩

theorem when {c : Prop} [Decidable c] {p : Prog D W C R E Unit}
    (hp : c → Makes P p fun _ => True) : Makes P (Prog.when c p) fun _ => True := by
  unfold Prog.when
  split
  · exact hp ‹_›
  · exact ret trivial

theorem whenSome {o : Option α} {f : α → Prog D W C R E Unit}
    (hf : ∀ a, o = some a → Makes P (f a) fun _ => True) :
    Makes P (Prog.whenSome o f) fun _ => True := by
  cases o with
  | some a => exact hf a rfl
  | none => exact ret trivial

theorem forEach {l : List α} {f : α → Prog D W C R E Unit}
    (hf : ∀ a ∈ l, Makes P (f a) fun _ => True) : Makes P (Prog.forEach l f) fun _ => True := by
  induction l with
  | nil => exact ret trivial
  | cons a l ih =>
    exact bind (hf a List.mem_cons_self) fun _ _ => ih fun b hb => hf b (List.mem_cons_of_mem a hb)

theorem query {f : D → α} (hf : ∀ d, S (f d)) : Makes P (Prog.query f : Prog D W C R E α) S :=
  fun _ guarded v => (wp_query f).2 ⟨fun _ hd => ⟨hd, rfl, hf _⟩, fun _ => ⟨guarded.refl v.seen, rfl⟩⟩

theorem request {c : C} (hr : ∀ r : R c, P (.answered c r)) (hf : P (.failed c)) :
    Makes P (Prog.request c : Prog D W C R E (R c)) fun _ => True :=
  fun _ guarded v => ⟨fun _ r hd => ⟨hr r, hd, rfl, trivial⟩, fun _ _ => hf,
    fun _ => ⟨guarded.refl v.seen, rfl⟩⟩

end Makes

/-- Run inside an open transaction, `p` makes only events that satisfy `P`, and
adds to the transaction statements `F` such that `G a F` for the value it returns. -/
def Adds (P : Event W C R → Prop) (p : Prog D W C R E α) (G : α → List W → Prop) : Prop :=
  ∀ rely, Guarded rely P → ∀ s F₀ fs h, wp rely (fun _ _ ev => P ev) p ⟨s, F₀ :: fs, h⟩
    (fun a v' => rely s v'.seen ∧ ∃ F, v'.frames = (F₀ ++ F) :: fs ∧ G a F)
    fun _ v' => rely s v'.seen ∧ ∃ F, v'.frames = F :: fs

namespace Adds

variable {P : Event W C R → Prop} {G : α → List W → Prop} {H : β → List W → Prop}

theorem mono {p : Prog D W C R E α} {G' : α → List W → Prop} (hp : Adds P p G)
    (hG : ∀ a F, G a F → G' a F) : Adds P p G' := fun rely guarded s F₀ fs h =>
  wp_mono (hp rely guarded s F₀ fs h) (fun a _ ⟨hs, F, hF, ha⟩ => ⟨hs, F, hF, hG a F ha⟩)
    fun _ _ h => h

theorem ret {a : α} (ha : G a []) : Adds P (.ret a : Prog D W C R E α) G :=
  fun _ guarded s _ _ _ => ⟨guarded.refl s, [], by rw [List.append_nil], ha⟩

theorem throw (e : E) : Adds P (.throw e : Prog D W C R E α) G :=
  fun _ guarded s F₀ _ _ => ⟨guarded.refl s, F₀, rfl⟩

theorem bind {p : Prog D W C R E α} {f : α → Prog D W C R E β} (hp : Adds P p G)
    (hf : ∀ a F, G a F → Adds P (f a) fun b F' => H b (F ++ F')) : Adds P (p.bind f) H :=
  fun rely guarded s F₀ fs h => by
    rw [wp_bind]
    refine wp_mono (hp rely guarded s F₀ fs h) ?_ fun _ _ h => h
    rintro a ⟨s', _, h'⟩ ⟨hs, F, hF, ha⟩
    obtain rfl := hF
    refine wp_mono (hf a F ha rely guarded s' (F₀ ++ F) fs h') ?_ ?_
    · rintro b v ⟨hs', F', hv, hb⟩
      exact ⟨guarded.trans hs hs', F ++ F', by rw [hv, List.append_assoc], hb⟩
    · rintro e v ⟨hs', hv⟩
      exact ⟨guarded.trans hs hs', hv⟩

theorem exec {w : W} {T : Unit → List W → Prop} (hw : T () [w]) :
    Adds P (Prog.exec w : Prog D W C R E Unit) T := fun _ guarded s F₀ _ _ =>
  (wp_exec w).2 ⟨⟨guarded.refl s, [w], rfl, hw⟩, fun _ => ⟨guarded.refl s, F₀, rfl⟩⟩

theorem query {f : D → α} (hf : ∀ d, G (f d) []) : Adds P (Prog.query f : Prog D W C R E α) G :=
  fun _ guarded s F₀ _ _ =>
    (wp_query f).2 ⟨fun _ hd => ⟨hd, [], by rw [List.append_nil], hf _⟩,
      fun _ => ⟨guarded.refl s, F₀, rfl⟩⟩

theorem of_makes {p : Prog D W C R E α} {S : α → Prop} (hp : Makes P p S)
    (hG : ∀ a, S a → G a []) : Adds P p G := fun _ guarded _ F₀ _ _ =>
  hp.wp' guarded (fun _ _ _ hP => hP)
    (fun a _ hs hv ha => ⟨hs, [], by rw [hv, List.append_nil], hG a ha⟩)
    fun _ _ hs hv => ⟨hs, F₀, hv⟩

/-! How a body that starts with one operation goes on. -/

theorem exec_bind {w : W} {f : Unit → Prog D W C R E β}
    (hf : Adds P (f ()) fun b F => H b (w :: F)) : Adds P ((Prog.exec w).bind f) H :=
  bind (G := fun _ F => F = [w]) (exec rfl) fun _ _ hF => hF ▸ hf

theorem query_bind {g : D → α} {f : α → Prog D W C R E β} (hf : ∀ d, Adds P (f (g d)) H) :
    Adds P ((Prog.query g).bind f) H :=
  bind (G := fun a F => F = [] ∧ ∃ d, a = g d) (query fun d => ⟨rfl, d, rfl⟩) fun a F hF => by
    obtain ⟨rfl, d, rfl⟩ := hF
    exact hf d

theorem ensure_bind {p : Prop} [Decidable p] {e : E} {f : Unit → Prog D W C R E β}
    (hf : p → Adds P (f ()) H) : Adds P ((Prog.ensure p e).bind f) H := by
  unfold Prog.ensure
  split
  · exact hf ‹_›
  · exact throw e

theorem orThrow_bind {o : Option α} {e : E} {f : α → Prog D W C R E β}
    (hf : ∀ a, o = some a → Adds P (f a) H) : Adds P ((Prog.orThrow o e).bind f) H := by
  cases o with
  | some a => exact hf a rfl
  | none => exact throw e

theorem when_bind {c : Prop} [Decidable c] {p : Prog D W C R E Unit}
    {f : Unit → Prog D W C R E β} (hp : c → Adds P (p.bind f) H) (hf : ¬c → Adds P (f ()) H) :
    Adds P ((Prog.when c p).bind f) H := by
  unfold Prog.when
  split
  · exact hp ‹_›
  · exact hf ‹_›

theorem whenSome_bind {o : Option α} {p : α → Prog D W C R E Unit}
    {f : Unit → Prog D W C R E β} (hp : ∀ a, o = some a → Adds P ((p a).bind f) H)
    (hf : o = none → Adds P (f ()) H) : Adds P ((Prog.whenSome o p).bind f) H := by
  cases o with
  | some a => exact hp a rfl
  | none => exact hf rfl

theorem whenSome_exec {o : Option α} {w : α → W} :
    Adds P (Prog.whenSome o fun a => Prog.exec (w a) : Prog D W C R E Unit) fun _ F =>
      F = o.toList.map w := by
  cases o with
  | some a => exact exec rfl
  | none => exact ret rfl

theorem forEach {l : List α} {f : α → Prog D W C R E Unit} (hf : ∀ a ∈ l, Adds P (f a) fun _ _ => True) :
    Adds P (Prog.forEach l f) fun _ _ => True := by
  induction l with
  | nil => exact ret trivial
  | cons a l ih =>
    exact bind (hf a List.mem_cons_self) fun _ _ _ => ih fun b hb => hf b (List.mem_cons_of_mem a hb)

theorem makes_bind {p : Prog D W C R E α} {S : α → Prop} {f : α → Prog D W C R E β}
    (hp : Makes P p S) (hf : ∀ a, S a → Adds P (f a) H) : Adds P (p.bind f) H :=
  bind (G := fun a F => F = [] ∧ S a) (of_makes hp fun _ ha => ⟨rfl, ha⟩) fun a F hF => by
    obtain ⟨rfl, ha⟩ := hF
    exact hf a ha

end Adds

namespace Makes

variable {P : Event W C R → Prop} {S : α → Prop}

/-- A transaction commits what its body adds. -/
theorem transaction {body : Prog D W C R E α} {G : α → List W → Prop} (hbody : Adds P body G)
    (hG : ∀ nested a F, G a F → P (.committed nested F) ∧ S a) :
    Makes P (Prog.transaction body) S := fun rely guarded v => by
  refine wp_transaction (wp_mono (hbody rely guarded v.seen [] v.frames v.past) ?_ ?_)
    fun _ => ⟨guarded.refl v.seen, rfl⟩
  · rintro a v' ⟨hs, F, hF, ha⟩
    refine ⟨F, hF, fun d hd valid => ?_, fun _ => ⟨hs, rfl⟩⟩
    have hP := (hG (!v.frames.isEmpty) a F ha).1
    exact ⟨hP, guarded.trans (guarded.trans hs hd) (guarded.keeps hP valid), rfl,
      (hG false a F ha).2⟩
  · rintro e v' ⟨hs, F, hF⟩
    exact ⟨F, hF, hs, rfl⟩

theorem statement {w : W} (hw : ∀ nested, P (.committed nested [w])) :
    Makes P (Prog.statement w : Prog D W C R E Unit) fun _ => True :=
  transaction (G := fun _ F => F = [w]) (.exec rfl) fun nested _ _ hF => ⟨hF ▸ hw nested, trivial⟩

theorem outside {f : D → α} (hf : ∀ d, S (f d)) (hw : ∀ nested, P (.committed nested [])) :
    Makes P (Prog.outside f : Prog D W C R E α) S :=
  transaction (G := fun a F => F = [] ∧ S a) (.query fun d => ⟨rfl, hf d⟩)
    fun nested _ _ ⟨hF, ha⟩ => ⟨hF ▸ hw nested, ha⟩

end Makes

end Heightt.ReadCommitted
