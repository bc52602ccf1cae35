import Heightt.ReadCommitted.Guarantee

/-!
# Transactions that claim what only one can have

A state is `Off` when what the programs claim is gone. If every transaction that
writes is refused in an `Off` state and leaves one behind, then at most one of them
commits (`Reaches.of_claim`), and it commits what it would have committed undisturbed:
whatever its program has read before was the state that the run began with.
-/

namespace Heightt.ReadCommitted

open Database

variable {D W C : Type} {R : C → Type} {E α β Row Col : Type} [Database D W Row Col E]

/-- The others do nothing, or leave an `Off` state. -/
def Frozen (Off : D → Prop) (s d : D) : Prop := d = s ∨ Off d

theorem Frozen.trans {Off : D → Prop} {a b c : D} (h : Frozen Off a b) (h' : Frozen Off b c) :
    Frozen Off a c := by
  obtain rfl | off := h'
  · exact h
  · exact .inr off

/-- `p` may be gone through as if nobody else were there, if what it does in an `Off`
state is no commit that writes. -/
theorem wp_frozen {Off : D → Prop} {Φ Φ' : D → List (Event W C R) → Event W C R → Prop}
    {p : Prog D W C R E α} {v : View D W C R} {Q : α → View D W C R → Prop}
    {Qe : E → View D W C R → Prop}
    (refused : ∀ d past nested F, Φ' d past (.committed nested F) → Off d → F = [])
    (alone : Off v.seen ∨ wp Eq Φ p v (fun _ _ => True) fun _ _ => True)
    (h : wp Anything Φ' p v Q Qe) :
    wp (Frozen Off) (fun d past ev => Φ' d past ev ∧ (Off d ∨ Φ d past ev)) p v Q Qe := by
  have goesOn {s d : D} {q : Prop} (hd : Frozen Off s d) (alone : Off s ∨ q) : Off d ∨ d = s ∧ q := by
    obtain rfl | off := hd
    · exact alone.imp_right fun h => ⟨rfl, h⟩
    · exact .inl off
  induction p generalizing v with
  | ret a => exact h
  | throw e => exact h
  | read k err ihk ihe =>
    refine ⟨fun d hd => ihk _ ?_ (h.1 d trivial), fun e => ihe e (alone.imp_right fun h => h.2 e) (h.2 e)⟩
    obtain off | ⟨rfl, alone⟩ := goesOn hd alone
    · exact .inl off
    · exact .inr (alone.1 v.seen rfl)
  | write w k err ihk ihe =>
    obtain ⟨s, _ | ⟨F, fs⟩, past⟩ := v
    · exact h
    · exact ⟨ihk (alone.imp_right And.left) h.1, fun e => ihe e (alone.imp_right fun h => h.2 e) (h.2 e)⟩
  | «begin» k err ihk ihe =>
    exact ⟨ihk (alone.imp_right And.left) h.1, fun e => ihe e (alone.imp_right fun h => h.2 e) (h.2 e)⟩
  | commit k err ihk ihe =>
    obtain ⟨s, _ | ⟨F, fs⟩, past⟩ := v
    · exact h
    · refine ⟨fun d hd valid => ?_, fun e => ihe e (alone.imp_right fun h => h.2 e) (h.2 e)⟩
      obtain ⟨admitted, next⟩ := h.1 d trivial valid
      obtain off | ⟨rfl, alone⟩ := goesOn hd alone
      · obtain rfl := refused d past _ F admitted off
        exact ⟨⟨admitted, .inl off⟩, ihk (.inl off) next⟩
      · obtain ⟨own, after⟩ := alone.1 d rfl valid
        exact ⟨⟨admitted, .inr own⟩, ihk (.inr after) next⟩
  | rollback k ihk =>
    obtain ⟨s, _ | ⟨F, fs⟩, past⟩ := v
    · exact h
    · exact ihk alone h
  | call c k err ihk ihe =>
    refine ⟨fun d r hd => ?_, fun d hd => ?_, fun e => ihe e (alone.imp_right fun h => h.2.2 e) (h.2.2 e)⟩
    · obtain ⟨admitted, next⟩ := h.1 d r trivial
      obtain off | ⟨rfl, alone⟩ := goesOn hd alone
      · exact ⟨⟨admitted, .inl off⟩, ihk r (.inl off) next⟩
      · obtain ⟨own, after⟩ := alone.1 v.seen r rfl
        exact ⟨⟨admitted, .inr own⟩, ihk r (.inr after) next⟩
    · refine ⟨h.2.1 d trivial, ?_⟩
      obtain off | ⟨rfl, alone⟩ := goesOn hd alone
      · exact .inl off
      · exact .inr (alone.2.1 v.seen rfl)

/-! ## A transaction that nobody disturbs -/

/-- Run in a transaction that sees `s`, while nobody changes the state, `p` adds
statements that satisfy `G`. -/
def Undisturbed (p : Prog D W C R E α) (s : D) (G : α → List W → Prop) : Prop :=
  ∀ d F past, applyAll F d = s → wp Eq (fun _ _ _ => False) p ⟨d, [F], past⟩
    (fun a v => v.seen = d ∧ ∃ F', v.frames = [F ++ F'] ∧ G a F')
    fun _ v => ∃ F', v.frames = [F']

namespace Undisturbed

variable {s : D} {G : α → List W → Prop} {H : β → List W → Prop}

theorem mono {p : Prog D W C R E α} {G' : α → List W → Prop} (hp : Undisturbed p s G)
    (h : ∀ a F, G a F → G' a F) : Undisturbed p s G' := fun d F past hF =>
  wp_mono (hp d F past hF) (fun _ _ ⟨hv, F', hF', ha⟩ => ⟨hv, F', hF', h _ _ ha⟩) fun _ _ h => h

theorem ret {a : α} (h : G a []) : Undisturbed (.ret a : Prog D W C R E α) s G :=
  fun _ F _ _ => ⟨rfl, [], by rw [List.append_nil], h⟩

theorem throw (e : E) : Undisturbed (.throw e : Prog D W C R E α) s G := fun _ F _ _ => ⟨F, rfl⟩

theorem bind {p : Prog D W C R E α} {f : α → Prog D W C R E β} (hp : Undisturbed p s G)
    (hf : ∀ a F, G a F → Undisturbed (f a) (applyAll F s) fun b F' => H b (F ++ F')) :
    Undisturbed (p.bind f) s H := by
  rintro d F past rfl
  rw [wp_bind]
  refine wp_mono (hp d F past rfl) ?_ fun _ _ h => h
  rintro a ⟨d', fs, past'⟩ ⟨seen, F₁, frames, ha⟩
  obtain rfl : d' = d := seen
  obtain rfl : fs = [F ++ F₁] := frames
  refine wp_mono (hf a F₁ ha d' (F ++ F₁) past' (applyAll_append F F₁ d')) ?_ fun _ _ h => h
  rintro b v ⟨seen, F₂, frames, hb⟩
  exact ⟨seen, F₁ ++ F₂, by rw [frames, List.append_assoc], hb⟩

theorem exec {w : W} {T : Unit → List W → Prop} (h : T () [w]) :
    Undisturbed (Prog.exec w : Prog D W C R E Unit) s T :=
  fun _ F _ _ => (wp_exec w).2 ⟨⟨rfl, [w], rfl, h⟩, fun _ => ⟨F, rfl⟩⟩

theorem exec_bind {w : W} {f : Unit → Prog D W C R E β}
    (hf : Undisturbed (f ()) (apply w s) fun b F => H b (w :: F)) :
    Undisturbed ((Prog.exec w).bind f) s H :=
  bind (G := fun _ F => F = [w]) (exec rfl) fun _ _ hF => hF ▸ hf

theorem query_bind {g : D → α} {f : α → Prog D W C R E β} (hf : Undisturbed (f (g s)) s H) :
    Undisturbed ((Prog.query g).bind f) s H := by
  rintro d F past rfl
  rw [wp_bind, wp_query]
  refine ⟨?_, fun _ => ⟨F, rfl⟩⟩
  rintro _ rfl
  exact hf d F past rfl

theorem ensure_bind {p : Prop} [Decidable p] {e : E} {f : Unit → Prog D W C R E β}
    (hf : p → Undisturbed (f ()) s H) : Undisturbed ((Prog.ensure p e).bind f) s H := by
  unfold Prog.ensure
  split
  · exact hf ‹_›
  · exact throw e

theorem orThrow_bind {o : Option α} {e : E} {f : α → Prog D W C R E β}
    (hf : ∀ a, o = some a → Undisturbed (f a) s H) : Undisturbed ((Prog.orThrow o e).bind f) s H := by
  cases o with
  | some a => exact hf a rfl
  | none => exact throw e

theorem whenSome {o : Option α} {f : α → Prog D W C R E Unit} {T : Unit → List W → Prop}
    (hf : ∀ a, o = some a → Undisturbed (f a) s T) (hT : o = none → T () []) :
    Undisturbed (Prog.whenSome o f) s T := by
  cases o with
  | some a => exact hf a rfl
  | none => exact ret (hT rfl)

/-- A loop whose rounds add what `stmts` says. -/
theorem forEach {as : List α} {f : α → Prog D W C R E Unit} {stmts : α → List W}
    (hf : ∀ a s, Undisturbed (f a) s fun _ F => F = stmts a) :
    Undisturbed (Prog.forEach as f) s fun _ F => F = as.flatMap stmts := by
  induction as generalizing s with
  | nil => exact ret rfl
  | cons a as ih =>
    refine (hf a s).bind fun _ F hF => ih.mono fun _ F' hF' => ?_
    rw [hF, hF', List.flatMap_cons]

end Undisturbed

/-- A transaction that nobody disturbs commits what its body adds. -/
theorem Commits.undisturbed_bind {Ψ : D → List W → List W → Prop} {Q : List W → Prop} {s : D}
    {l : List W} {body : Prog D W C R E α} {f : α → Prog D W C R E β} {G : α → List W → Prop}
    (hbody : Undisturbed body s G)
    (hf : ∀ a F, G a F → violation F s = none →
      (F = [] ∨ Ψ s l F) ∧ Commits Eq Ψ Q (applyAll F s) (l ++ F) (f a)) :
    Commits Eq Ψ Q s l ((Prog.transaction body).bind f) := by
  intro past hl
  rw [wp_bind]
  have hbody := wp_carry (I := fun past' => past' = past) (Ψ := Admitted Ψ) (hbody s [] past rfl)
    (fun _ _ _ _ h => h.elim) rfl fun d => ⟨d, rfl⟩
  refine wp_transaction (wp_mono hbody ?_ ?_) fun _ => trivial
  · rintro a ⟨d, fs, past'⟩ ⟨⟨seen, F, frames, ha⟩, rfl⟩
    obtain rfl : d = s := seen
    refine ⟨F, frames, ?_, fun _ => trivial⟩
    rintro _ rfl valid
    obtain ⟨admitted, next⟩ := hf a F ha valid
    refine ⟨?_, next _ (by rw [written_committed, hl])⟩
    rcases admitted with rfl | admitted
    · exact .inl rfl
    · exact .inr ⟨rfl, hl ▸ admitted⟩
  · rintro e v' ⟨⟨F, hF⟩, -⟩
    exact ⟨F, hF, trivial⟩

/-! ## At most one of them -/

/-- A program that, alone from `db` on, commits one transaction, which leaves a state
that satisfies `Post`; it claims, and it returns only after that. -/
structure Claims (Off : D → Prop) (Post : D → Prop) (db : D) (p : Prog D W C R E Unit) : Prop where
  alone : Commits Eq (fun d _ F => d = db ∧ Post (applyAll F db)) (fun _ => True) db [] p
  claims : Commits Anything (fun d _ _ => ¬Off d) (· ≠ []) db [] p

variable {X M : Type} [External X C R M] [DecidableEq Row]

/-- **The claim rule**: of programs that claim, at most one commits, and what it
commits is what it commits undisturbed; no other returns. -/
theorem Reaches.of_claim {P : Config D X W C R E → Effect W C → Prop} {db : D} {ext : X}
    {progs : List (Prog D W C R E Unit)} {c : Config D X W C R E}
    (run : Reaches P (Config.start db ext progs) c) {Off : D → Prop} {Post : Nat → D → Prop}
    (claims : ∀ i p, progs[i]? = some p → Claims Off (Post i) db p)
    (off : ∀ i d, Post i d → Off d) :
    c.db = db ∧ (∀ i, ¬c.Returned i) ∨ ∃ i, i < progs.length ∧ Post i c.db ∧ ∀ j, c.Returned j → j = i := by
  let Ψ (i : Nat) (d : D) (_ : List W) (F : List W) : Prop :=
    i < progs.length ∧ ¬Off d ∧ (Off d ∨ d = db ∧ Post i (applyAll F db))
  have commits : ∀ i p, progs[i]? = some p → Commits (Frozen Off) (Ψ i) (· ≠ []) db [] p := by
    intro i p hi past hl
    have inside : i < progs.length := (List.getElem?_eq_some_iff.1 hi).1
    have refused (d : D) (past : List (Event W C R)) (nested : Bool) (F : List W)
        (admitted : Admitted (fun d _ _ => ¬Off d) d past (.committed nested F)) (gone : Off d) : F = [] :=
      admitted.resolve_right fun h => h.2 gone
    have frozen := wp_frozen refused (.inr ((claims i p hi).alone past hl)) ((claims i p hi).claims past hl)
    refine wp_mono (wp_carry (I := fun _ => True) (Ψ := Admitted (Ψ i)) frozen ?_ trivial fun d => ⟨d, .inl rfl⟩)
      (fun _ _ hv => hv.1) fun _ _ _ => trivial
    intro d past' ev _ ⟨claimed, own⟩
    cases ev with
    | committed nested F =>
      refine ⟨?_, trivial⟩
      obtain none | ⟨alone, on⟩ := claimed
      · exact .inl none
      · obtain gone | none | ⟨-, own⟩ := own
        · exact absurd gone on
        · exact .inl none
        · exact .inr ⟨alone, inside, on, .inr own⟩
    | answered c r => exact ⟨trivial, trivial⟩
    | failed c => exact ⟨trivial, trivial⟩
  obtain ⟨J, returned⟩ := run.induct_of_commits (fun _ => .inl rfl)
    (fun h h' => h.trans h') commits
    (fun d log => d = db ∧ (∀ i, writtenBy log i = []) ∨
      ∃ i, i < progs.length ∧ Post i d ∧ ∀ j, j ≠ i → writtenBy log j = [])
    (.inl ⟨rfl, fun _ => rfl⟩)
    (by
      rintro c i F ⟨inside, on, own⟩ valid - J
      obtain ⟨same, post⟩ := own.resolve_left on
      have untouched : ∀ j, writtenBy c.log j = [] := by
        obtain ⟨-, none⟩ | ⟨j, -, post, -⟩ := J
        · exact none
        · exact absurd (off j c.db post) on
      rw [← same] at post
      refine ⟨.inr (off i _ post), .inr ⟨i, inside, post, fun j other => ?_⟩⟩
      rw [writtenBy_append, untouched j, if_neg (Ne.symm other)]
      rfl)
    (by
      intro d log i J
      have same (j : Nat) : writtenBy (log ++ [⟨i, [], d⟩]) j = writtenBy log j := by
        rw [writtenBy_append]
        split <;> exact List.append_nil _
      simp only [same]
      exact J)
  obtain ⟨same, none⟩ | ⟨i, inside, post, none⟩ := J
  · exact .inl ⟨same, fun i ret => returned i ret (none i)⟩
  · refine .inr ⟨i, inside, post, fun j ret => ?_⟩
    by_contra other
    exact returned j ret (none j other)

end Heightt.ReadCommitted
