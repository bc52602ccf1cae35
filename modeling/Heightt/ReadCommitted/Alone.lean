import Heightt.ReadCommitted.Invariant

/-!
# Programs that run alone

`Prog.alone` is what a program does when no other runs and no operation fails:
how it ends and the states it leaves. It is computed from the program, and it is
one of the program's runs (`Reaches.of_alone`).
-/

namespace Heightt.ReadCommitted

open Database

variable {D X W C M Row Col E α β : Type} {R : C → Type} [Database D W Row Col E] [External X C R M]
  [DecidableEq Row]

/-- How a program ended, with its open transactions and the states it left. -/
structure Outcome (D X W E α : Type) where
  result : Except E α
  frames : List (Frame W)
  db : D
  ext : X

/-- The end of `p` from the given states; `none` if it waits for a lock of its own. -/
def Prog.alone : Prog D W C R E α → List (Frame W) → D → X → Option (Outcome D X W E α)
  | .ret a, fs, d, x => some ⟨.ok a, fs, d, x⟩
  | .throw e, fs, d, x => some ⟨.error e, fs, d, x⟩
  | .read k _, [], d, x => (k d).alone [] d x
  | .read k _, f :: fs, d, x =>
    if f.isOpen then (k (applyAll f.writes d)).alone (f :: fs) d x else none
  | .write _ _ _, [], _, _ => none
  | .write w k err, f :: fs, d, x =>
    if f.isOpen ∧ ∀ r ∈ rows D w, r ∉ fs.flatMap (Frame.held D) then
      match check w (applyAll f.writes d) with
      | none => k.alone ({ f with writes := f.writes ++ [w] } :: fs) d x
      | some e => (err e).alone (f.close :: fs) d x
    else none
  | .begin k _, fs, d, x => k.alone ({} :: fs) d x
  | .commit _ _, [], _, _ => none
  | .commit k err, f :: fs, d, x =>
    if f.isOpen then
      match violation f.writes d with
      | none => k.alone fs (applyAll f.writes d) x
      | some e => (err e).alone fs d x
    else none
  | .rollback _, [], _, _ => none
  | .rollback k, _ :: fs, d, x => k.alone fs d x
  | .call c k _, fs, d, x =>
    (k (External.handle c x).2).alone fs d (External.handle c x).1

/-- The outcome of `f` on what a program returned. -/
def Outcome.next (o : Outcome D X W E α) (f : α → Prog D W C R E β) : Option (Outcome D X W E β) :=
  match o.result with
  | .ok a => (f a).alone o.frames o.db o.ext
  | .error e => some ⟨.error e, o.frames, o.db, o.ext⟩

/-- The outcome of the handler `h` on the error a program ended in. -/
def Outcome.handle (o : Outcome D X W E α) (h : E → Prog D W C R E α) :
    Option (Outcome D X W E α) :=
  match o.result with
  | .ok a => some ⟨.ok a, o.frames, o.db, o.ext⟩
  | .error e => (h e).alone o.frames o.db o.ext

namespace Prog

variable {d : D} {x : X} {fs : List (Frame W)}

attribute [local simp] alone

@[simp] theorem alone_ret (a : α) :
    (ret a : Prog D W C R E α).alone fs d x = some ⟨.ok a, fs, d, x⟩ := by
  cases fs <;> rfl

@[simp] theorem alone_throw (e : E) :
    (throw e : Prog D W C R E α).alone fs d x = some ⟨.error e, fs, d, x⟩ := by
  cases fs <;> rfl

theorem alone_bind (p : Prog D W C R E α) (f : α → Prog D W C R E β) :
    (p.bind f).alone fs d x = (p.alone fs d x).bind fun o => o.next f := by
  induction p generalizing fs d x with
  | ret a => simp [bind, Outcome.next]
  | throw e => simp [bind, Outcome.next]
  | read k err ihk ihe =>
    cases fs with
    | nil => exact ihk d
    | cons f fs =>
      simp only [bind, alone]
      split
      · exact ihk _
      · rfl
  | write w k err ihk ihe =>
    cases fs with
    | nil => rfl
    | cons f fs =>
      simp only [bind, alone]
      split
      · split
        · exact ihk
        · exact ihe _
      · rfl
  | «begin» k err ihk ihe => simpa only [bind, alone] using ihk
  | commit k err ihk ihe =>
    cases fs with
    | nil => rfl
    | cons f fs =>
      simp only [bind, alone]
      split
      · split
        · exact ihk
        · exact ihe _
      · rfl
  | rollback k ihk =>
    cases fs with
    | nil => rfl
    | cons f fs => simpa only [bind, alone] using ihk
  | call c k err ihk ihe => simpa only [bind, alone] using ihk _

theorem alone_onThrow (p : Prog D W C R E α) (h : E → Prog D W C R E α) :
    (p.onThrow h).alone fs d x = (p.alone fs d x).bind fun o => o.handle h := by
  induction p generalizing fs d x with
  | ret a => simp [onThrow, Outcome.handle]
  | throw e => simp [onThrow, Outcome.handle]
  | read k err ihk ihe =>
    cases fs with
    | nil => exact ihk d
    | cons f fs =>
      simp only [onThrow, alone]
      split
      · exact ihk _
      · rfl
  | write w k err ihk ihe =>
    cases fs with
    | nil => rfl
    | cons f fs =>
      simp only [onThrow, alone]
      split
      · split
        · exact ihk
        · exact ihe _
      · rfl
  | «begin» k err ihk ihe => simpa only [onThrow, alone] using ihk
  | commit k err ihk ihe =>
    cases fs with
    | nil => rfl
    | cons f fs =>
      simp only [onThrow, alone]
      split
      · split
        · exact ihk
        · exact ihe _
      · rfl
  | rollback k ihk =>
    cases fs with
    | nil => rfl
    | cons f fs => simpa only [onThrow, alone] using ihk
  | call c k err ihk ihe => simpa only [onThrow, alone] using ihk _

theorem alone_outside (f : D → α) (g : α → Prog D W C R E β) :
    ((outside f).bind g).alone [] d x = (g (f d)).alone [] d x := by
  simp [outside, transaction, query, bind, onThrow, alone, violation]

/-- A transaction whose body returns and whose statements violate no constraint commits. -/
theorem alone_transaction {body : Prog D W C R E α} {a : α} {F : List W} {d' : D} {x' : X}
    (h : body.alone [{}] d x = some ⟨.ok a, [⟨F, true⟩], d', x'⟩) (valid : violation F d' = none)
    (g : α → Prog D W C R E β) :
    ((transaction body).bind g).alone [] d x = (g a).alone [] (applyAll F d') x' := by
  have hbody : ((body.onThrow fun e => rollback (throw e)).bind fun a => commit (ret a) throw).alone
      [{}] d x = some ⟨.ok a, [], applyAll F d', x'⟩ := by
    rw [alone_bind, alone_onThrow, h]
    simp [Outcome.handle, Outcome.next, alone, valid]
  rw [alone_bind]
  simp only [transaction, alone, hbody]
  rfl

/-- A transaction whose body ends in an error leaves nothing. -/
theorem alone_transaction_error {body : Prog D W C R E α} {e : E} {f : Frame W} {x' : X}
    (h : body.alone [{}] d x = some ⟨.error e, [f], d, x'⟩) (g : α → Prog D W C R E β) :
    ((transaction body).bind g).alone [] d x = some ⟨.error e, [], d, x'⟩ := by
  have hbody : ((body.onThrow fun e => rollback (throw e)).bind fun a => commit (ret a) throw).alone
      [{}] d x = some ⟨.error e, [], d, x'⟩ := by
    rw [alone_bind, alone_onThrow, h]
    simp [Outcome.handle, Outcome.next, alone]
  rw [alone_bind]
  simp only [transaction, alone, hbody]
  rfl

/-- A statement in the only open transaction. -/
theorem alone_exec (w : W) (F : List W) (g : Unit → Prog D W C R E β) :
    ((exec w).bind g).alone [⟨F, true⟩] d x = match check w (applyAll F d) with
      | none => (g ()).alone [⟨F ++ [w], true⟩] d x
      | some e => some ⟨.error e, [⟨F, false⟩], d, x⟩ := by
  cases h : check w (applyAll F d) <;> simp [exec, bind, alone, h, Frame.close]

theorem alone_orThrow {o : Option α} {e : E} (g : α → Prog D W C R E β) :
    ((orThrow o e).bind g).alone fs d x = match o with
      | some a => (g a).alone fs d x
      | none => some ⟨.error e, fs, d, x⟩ := by
  cases o <;> simp [orThrow, bind]

theorem alone_query (f : D → α) (g : α → Prog D W C R E β) :
    ((query f).bind g).alone [] d x = (g (f d)).alone [] d x := rfl

/-- A read in the only open transaction. -/
theorem alone_query_open (f : D → α) (F : List W) (g : α → Prog D W C R E β) :
    ((query f).bind g).alone [⟨F, true⟩] d x = (g (f (applyAll F d))).alone [⟨F, true⟩] d x := by
  simp [query, bind, alone]

theorem alone_request (c : C) (g : R c → Prog D W C R E β) :
    ((request c).bind g).alone fs d x =
      (g (External.handle c x).2).alone fs d (External.handle c x).1 := by
  simp [request, bind, alone]

theorem alone_ensure {p : Prop} [Decidable p] (e : E) (g : Unit → Prog D W C R E β) :
    ((ensure p e).bind g).alone fs d x =
      if p then (g ()).alone fs d x else some ⟨.error e, fs, d, x⟩ := by
  unfold ensure
  split <;> simp [bind]

theorem alone_statement (w : W) (g : Unit → Prog D W C R E β) :
    ((statement w).bind g).alone [] d x = match check w d with
      | none => (g ()).alone [] (apply w d) x
      | some e => some ⟨.error e, [], d, x⟩ := by
  cases h : check w d <;>
    simp [statement, transaction, exec, bind, onThrow, alone, violation, h]

/-- `p`, run alone, returns `a`. -/
def Returns (p : Prog D W C R E α) (d : D) (x : X) (a : α) : Prop :=
  ∃ o, p.alone [] d x = some o ∧ o.result = .ok a

@[simp] theorem returns_ret {a b : α} : (ret b : Prog D W C R E α).Returns d x a ↔ a = b := by
  simp [Returns, eq_comm]

@[simp] theorem returns_throw {e : E} {a : α} : (throw e : Prog D W C R E α).Returns d x a ↔ False := by
  simp [Returns]

@[simp] theorem returns_outside_bind {f : D → α} {g : α → Prog D W C R E β} {b : β} :
    ((outside f).bind g).Returns d x b ↔ (g (f d)).Returns d x b := by
  rw [Returns, alone_outside, Returns]

@[simp] theorem returns_ensure_bind {p : Prop} [Decidable p] {e : E} {g : Unit → Prog D W C R E β}
    {b : β} : ((ensure p e).bind g).Returns d x b ↔ p ∧ (g ()).Returns d x b := by
  unfold ensure
  split <;> simp [bind, *]

@[simp] theorem returns_orThrow_bind {o : Option α} {e : E} {g : α → Prog D W C R E β} {b : β} :
    ((orThrow o e).bind g).Returns d x b ↔ ∃ a, o = some a ∧ (g a).Returns d x b := by
  cases o <;> simp [orThrow, bind]

@[simp] theorem returns_statement_bind {w : W} {g : Unit → Prog D W C R E β} {b : β} :
    ((statement w).bind g).Returns d x b ↔ check w d = none ∧ (g ()).Returns (apply w d) x b := by
  rw [Returns, alone_statement]
  cases check w d <;> simp [Returns]

end Prog

/-- A configuration with one thread, in its current transactions. -/
def Config.single (d : D) (x : X) (log : List (Commit D W)) (p : Prog D W C R E Unit)
    (fs : List (Frame W)) (past : List (Event W C R)) : Config D X W C R E :=
  { db := d, ext := x, threads := [⟨p, fs, past⟩], log }

/-- The program ended with `r`. -/
def Prog.ended : Except E α → Prog D W C R E α
  | .ok a => .ret a
  | .error e => .throw e

/-- A step of the only thread is a step of the run. -/
theorem Reaches.of_choice {c₀ c' : Config D X W C R E} {d : D} {x : X} {log : List (Commit D W)}
    {p : Prog D W C R E Unit} {fs : List (Frame W)} {past : List (Event W C R)}
    {t : Thread D W C R E} {eff : Effect W C} (choice : Choice E)
    (run : Reaches (fun _ _ => True) c₀ (Config.single d x log p fs past))
    (h : Thread.step 0 d x [] ⟨p, fs, past⟩ choice = some (t, eff))
    (hc : (Config.single d x log p fs past).update 0 t eff = c') :
    Reaches (fun _ _ => True) c₀ c' := by
  refine run.step (.thread 0 choice) (?_ : Config.act _ _ = some (eff, _)) trivial
  simp [Config.act, Config.single, Config.locked, h, ← hc]

/-- An operation of the only thread that does not fail. -/
theorem Reaches.of_step {c₀ c' : Config D X W C R E} {d : D} {x : X} {log : List (Commit D W)}
    {p : Prog D W C R E Unit} {fs : List (Frame W)} {past : List (Event W C R)}
    {t : Thread D W C R E} {eff : Effect W C}
    (run : Reaches (fun _ _ => True) c₀ (Config.single d x log p fs past))
    (h : Thread.step 0 d x [] ⟨p, fs, past⟩ .ok = some (t, eff))
    (hc : (Config.single d x log p fs past).update 0 t eff = c') :
    Reaches (fun _ _ => True) c₀ c' :=
  of_choice .ok run h hc

theorem Reaches.of_alone_single {c₀ : Config D X W C R E} (p : Prog D W C R E Unit)
    {fs : List (Frame W)} {d : D} {x : X} {log : List (Commit D W)} {past : List (Event W C R)}
    {o : Outcome D X W E Unit} (h : p.alone fs d x = some o)
    (run : Reaches (fun _ _ => True) c₀ (Config.single d x log p fs past)) :
    ∃ log' past', Reaches (fun _ _ => True) c₀
      (Config.single o.db o.ext log' (.ended o.result) o.frames past') := by
  induction p generalizing fs d x log past with
  | ret a =>
    obtain rfl : _ = o := by simpa using h
    exact ⟨log, past, run⟩
  | throw e =>
    obtain rfl : _ = o := by simpa using h
    exact ⟨log, past, run⟩
  | read k err ihk ihe =>
    cases fs with
    | nil => exact ihk d h (run.of_step rfl rfl)
    | cons f fs =>
      simp only [Prog.alone, Option.ite_none_right_eq_some] at h
      exact ihk _ h.2 (run.of_step (by simp only [Thread.step, if_pos h.1]; rfl) rfl)
  | write w k err ihk ihe =>
    cases fs with
    | nil => cases h
    | cons f fs =>
      simp only [Prog.alone, Option.ite_none_right_eq_some] at h
      obtain ⟨free, h⟩ := h
      split at h
      · rename_i ok
        have hs : Thread.step 0 d x [] ⟨.write w k err, f :: fs, past⟩ .ok =
            some (⟨k, { f with writes := f.writes ++ [w] } :: fs, past⟩, .internal) := by
          simp only [Thread.step, List.nil_append, if_pos free, ok]
        exact ihk h (run.of_step hs rfl)
      · rename_i e refused
        have hs : Thread.step 0 d x [] ⟨.write w k err, f :: fs, past⟩ .ok =
            some (⟨err e, f.close :: fs, past⟩, .internal) := by
          simp only [Thread.step, List.nil_append, if_pos free, refused]
        exact ihe e h (run.of_step hs rfl)
  | «begin» k err ihk ihe => exact ihk h (run.of_step rfl rfl)
  | commit k err ihk ihe =>
    cases fs with
    | nil => cases h
    | cons f fs =>
      simp only [Prog.alone, Option.ite_none_right_eq_some] at h
      obtain ⟨isOpen, h⟩ := h
      split at h
      · rename_i valid
        have hs : Thread.step 0 d x [] ⟨.commit k err, f :: fs, past⟩ .ok =
            some (⟨k, fs, past ++ [.committed (!fs.isEmpty) f.writes]⟩,
              .commit 0 (!fs.isEmpty) f.writes) := by
          simp only [Thread.step, if_pos isOpen, valid]
        exact ihk h (run.of_step hs rfl)
      · rename_i e invalid
        have hs : Thread.step 0 d x [] ⟨.commit k err, f :: fs, past⟩ .ok =
            some (⟨err e, fs, past⟩, .internal) := by
          simp only [Thread.step, if_pos isOpen, invalid]
        exact ihe e h (run.of_step hs rfl)
  | rollback k ihk =>
    cases fs with
    | nil => cases h
    | cons f fs => exact ihk h (run.of_step rfl rfl)
  | call c k err ihk ihe => exact ihk _ h (run.of_step rfl rfl)

/-- What a program does alone is one of its runs. -/
theorem Reaches.of_alone {p : Prog D W C R E Unit} {d : D} {x : X} {o : Outcome D X W E Unit}
    (h : p.alone [] d x = some o) : ∃ log past, Reaches (fun _ _ => True)
      (Config.start d x [p]) (Config.single o.db o.ext log (.ended o.result) o.frames past) :=
  of_alone_single p h .refl

end Heightt.ReadCommitted
