import Heightt.ReadCommitted.Guarantee

/-!
# Programs of one transaction

A program that is one transaction may have others open and commit transactions inside it,
on connections of their own. It returns only when its own transaction has committed, and
ends in an error only when it has not.
-/

namespace Heightt.ReadCommitted

open Database

variable {D X W C M Row Col E α : Type} {R : C → Type} [Database D W Row Col E] [External X C R M]

/-- The transaction commits as the last thing the program does: `I` holds of the past before it,
and `K` after it. -/
theorem wp_transaction_once {P : Event W C R → Prop} {body : Prog D W C R E α} {G : α → List W → Prop}
    (hbody : Adds P body G) {I K : List (Event W C R) → Prop} (init : I [])
    (keeps : ∀ past ev, P ev → I past → I (past ++ [ev]))
    (own : ∀ past F a, G a F → I past → K (past ++ [.committed false F])) (s : D) :
    wp Anything (fun _ _ ev => P ev ∨ ∃ F a, ev = .committed false F ∧ G a F) (Prog.transaction body)
      ⟨s, [], []⟩ (fun _ v => K v.past) fun _ v => I v.past := by
  have carried := wp_carry (I := I) (Ψ := fun _ _ ev => P ev ∨ ∃ F a, ev = .committed false F ∧ G a F)
    (hbody Anything (guarded_anything P) s [] [] []) (fun _ past ev before admitted =>
      ⟨.inl admitted, keeps past ev admitted before⟩) init fun s => ⟨s, trivial⟩
  refine wp_transaction (wp_mono carried ?_ ?_) fun _ => init
  · rintro a v ⟨⟨-, F, frames, hF⟩, before⟩
    exact ⟨F, frames, fun d _ _ => ⟨.inr ⟨F, a, rfl, hF⟩, own v.past F a hF before⟩, fun _ => before⟩
  · rintro e v ⟨⟨-, F, frames⟩, before⟩
    exact ⟨F, frames, before⟩

variable [DecidableEq Row]

instance (c : Config D X W C R E) (i : Nat) : Decidable (c.Returned i) :=
  decidable_of_iff (c.threads[i]?.any Thread.returned = true) (by
    unfold Config.Returned
    cases c.threads[i]? <;> simp)

/-- Thread `i` has ended in an error. -/
def Config.Threw (c : Config D X W C R E) (i : Nat) : Prop :=
  ∃ t, c.threads[i]? = some t ∧ t.threw = true

instance (c : Config D X W C R E) (i : Nat) : Decidable (c.Threw i) :=
  decidable_of_iff (c.threads[i]?.any Thread.threw = true) (by
    unfold Config.Threw
    cases c.threads[i]? <;> simp)

theorem Config.Threw.not_returned {c : Config D X W C R E} {i : Nat} (h : c.Threw i) : ¬c.Returned i := by
  rintro ⟨t, ht, returned⟩
  obtain ⟨t', ht', threw⟩ := h
  rw [ht] at ht'
  rw [← Option.some.inj ht'] at threw
  obtain ⟨prog, frames, past⟩ := t
  cases prog with
  | ret a => cases threw
  | _ => cases returned

omit [DecidableEq Row] in
/-- A move writes to the log what it adds to the past of its thread. -/
theorem Moves.written {Φ : Nat → D → List (Event W C R) → Event W C R → Prop} {c c' : Config D X W C R E}
    {eff : Effect W C} (moves : Moves Φ c c' eff) (same : ∀ i, written (c.past i) = writtenBy c.log i) (i : Nat) :
    written (c'.past i) = writtenBy c'.log i := by
  have unwritten {j : Nat} {ev : Event W C R} (past : c'.past = Function.update c.past j (c.past j ++ [ev]))
      (hev : ReadCommitted.written (c.past j ++ [ev]) = ReadCommitted.written (c.past j)) :
      ReadCommitted.written (c'.past i) = ReadCommitted.written (c.past i) := by
    rw [past]
    by_cases own : i = j
    · rw [own, Function.update_self, hev]
    · rw [Function.update_of_ne own]
  cases moves with
  | internal _ db ext past log => rw [log, past, same]
  | called j call answered admitted db ext past log =>
    rw [log, unwritten past (by cases answered <;> simp [reply]), same]
  | unsent j call admitted db ext past log => rw [log, unwritten past (by simp), same]
  | commit j nested F admitted valid db ext past log =>
    rw [past, log, writtenBy_append]
    by_cases own : i = j
    · rw [own, Function.update_self, written_committed, same, if_pos rfl]
    · rw [Function.update_of_ne own, same, if_neg (Ne.symm own), List.append_nil]

/-- **The run rule for programs of one transaction**: what every commit keeps holds in every state,
and what a thread has written tells whether it has returned or ended in an error. -/
theorem Reaches.induct_of_transactions {cond : Config D X W C R E → Effect W C → Prop} {db : D} {ext : X}
    {progs : List (Prog D W C R E Unit)} {c : Config D X W C R E}
    (run : Reaches cond (Config.start db ext progs) c) {P : Event W C R → Prop} {G : Nat → List W → Prop}
    (bodies : ∀ i p, progs[i]? = some p → ∃ body, p = Prog.transaction body ∧ Adds P body fun _ F => G i F)
    {I I' : Nat → List W → Prop} (init : ∀ i, I i [])
    (keeps : ∀ i nested F past, P (.committed nested F) → I i past → I i (past ++ F))
    (own : ∀ i F past, G i F → I i past → I' i (past ++ F))
    (J : D → List (Commit D W) → Prop) (start : J db [])
    (step : ∀ {c : Config D X W C R E} {i : Nat} {nested : Bool} {F : List W},
      P (.committed nested F) ∨ G i F → violation F c.db = none → cond c (.commit i nested F) →
      J c.db c.log → J (applyAll F c.db) (c.log ++ [⟨i, F, c.db⟩])) :
    J c.db c.log ∧ (∀ i, c.Returned i → I' i (writtenBy c.log i)) ∧ ∀ i, c.Threw i → I i (writtenBy c.log i) := by
  have good : (Config.start db ext progs).Good Anything
      (fun i _ _ ev => P ev ∨ ∃ F, ∃ _ : Unit, ev = .committed false F ∧ G i F)
      (fun i past => I' i (written past)) fun i _ past => I i (written past) := by
    refine Config.good_start (fun _ => trivial) fun i p hi => ?_
    obtain ⟨body, rfl, adds⟩ := bodies i p hi
    refine wp_transaction_once adds (I := fun past => I i (written past)) (K := fun past => I' i (written past))
      (init i) (fun past ev admitted before => ?_) (fun past F _ hF before => ?_) db
    · cases ev with
      | committed nested F =>
        rw [written_committed]
        exact keeps i nested F _ admitted before
      | answered c r => rwa [written_answered]
      | failed c => rwa [written_failed]
    · rw [written_committed]
      exact own i F _ hF before
  have keep {c c' : Config D X W C R E} {eff : Effect W C}
      (moves : Moves (fun i _ _ ev => P ev ∨ ∃ F, ∃ _ : Unit, ev = .committed false F ∧ G i F) c c' eff)
      (holds : cond c eff) (hJ : J c.db c.log) : J c'.db c'.log := by
    cases moves with
    | internal _ db ext past log => rwa [db, log]
    | called i call answered admitted db ext past log => rwa [db, log]
    | unsent i call admitted db ext past log => rwa [db, log]
    | commit i nested F admitted valid db ext past log =>
      rw [db, log]
      refine step ?_ valid holds hJ
      obtain base | ⟨F', -, ev, own⟩ := admitted
      · exact .inl base
      · cases ev
        exact .inr own
  obtain ⟨good, same, hJ⟩ := run.invariant
    (fun c => (∀ i, written (c.past i) = writtenBy c.log i) ∧ J c.db c.log) (fun _ => trivial)
    (fun _ _ => trivial) good
    ⟨fun i => by unfold Config.past Config.start; rw [List.getElem?_map]; cases progs[i]? <;> rfl, start⟩
    fun _ moves holds before => ⟨trivial, moves.written before.1, keep moves holds before.2⟩
  refine ⟨hJ, fun i ended => ?_, fun i ended => ?_⟩
  · obtain ⟨t, ht, returned⟩ := ended
    obtain ⟨s, -, hwp⟩ := good i t ht
    rw [← same i, Config.past, ht]
    obtain ⟨prog, frames, past⟩ := t
    cases prog with
    | ret a => exact hwp
    | _ => cases returned
  · obtain ⟨t, ht, threw⟩ := ended
    obtain ⟨s, -, hwp⟩ := good i t ht
    rw [← same i, Config.past, ht]
    obtain ⟨prog, frames, past⟩ := t
    cases prog with
    | throw e => exact hwp
    | _ => cases threw

end Heightt.ReadCommitted
