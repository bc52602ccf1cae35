import Heightt.ReadCommitted.Executes
import Heightt.ReadCommitted.Guarantee

/-!
# Transactions that come after others of their program

Some transactions of a program need that it has written a certain statement before. `Sequenced` says
that each of them comes after it, whatever the others do; a run then finds that statement among its
commits (`Reaches.induct_of_sequenced`).
-/

namespace Heightt.ReadCommitted

open Database

variable {D W C : Type} {R : C → Type} {E α β ι Row Col : Type} [Database D W Row Col E]

/-- What the statements `F` need for some `i` is marked by one of those in `l`. -/
def Prepared (marks : ι → W → Prop) (needs : ι → List W → Prop) (l F : List W) : Prop :=
  ∀ i, needs i F → ∃ w ∈ l, marks i w

/-- A committed transaction satisfies `T` and finds marked what it needs. -/
def Follows (T : List W → Prop) (marks : ι → W → Prop) (needs : ι → List W → Prop)
    (past : List (Event W C R)) : Event W C R → Prop
  | .committed _ F => T F ∧ Prepared marks needs (written past) F
  | _ => True

/-- Every transaction of `p` satisfies `T`, and what it needs was marked by the program before. -/
def Sequenced (T : List W → Prop) (marks : ι → W → Prop) (needs : ι → List W → Prop) (p : Prog D W C R E α) : Prop :=
  ∀ s past, wp Anything (fun _ past ev => Follows T marks needs past ev) p ⟨s, [], past⟩
    (fun _ _ => True) fun _ _ => True

variable {T U : List W → Prop} {marks : ι → W → Prop} {needs : ι → List W → Prop}

/-- The transactions of a program of which the first `l` have been written. -/
theorem wp_follows {p : Prog D W C R E α} {S : α → Prop} (hp : Makes (Committing U) p S) {l : List W}
    (admitted : ∀ F, U F → T F ∧ Prepared marks needs l F) {s : D} {past : List (Event W C R)}
    (already : ∀ w ∈ l, w ∈ written past) {Q : α → View D W C R → Prop}
    (returns : ∀ a s past, S a → Q a ⟨s, [], past⟩) :
    wp Anything (fun _ past ev => Follows T marks needs past ev) p ⟨s, [], past⟩ Q fun _ _ => True := by
  refine hp.wp (guarded_anything _) (I := fun past => ∀ w ∈ l, w ∈ written past) (fun d h ev before hev => ?_) already
    (fun a v' _ closed ha _ => ?_) fun _ _ _ _ _ => trivial
  · refine ⟨?_, fun w hw => ?_⟩
    · cases ev with
      | committed nested F =>
        obtain ⟨tx, prepared⟩ := admitted F hev
        refine ⟨tx, fun i hi => ?_⟩
        obtain ⟨w, mem, mark⟩ := prepared i hi
        exact ⟨w, before w mem, mark⟩
      | answered c r => trivial
      | failed c => trivial
    · rw [written_append]
      exact List.mem_append_left _ (before w hw)
  · obtain ⟨s', fs, past'⟩ := v'
    obtain rfl : fs = [] := closed
    exact returns a s' past' ha

namespace Sequenced

/-- Transactions that need nothing. -/
theorem of_makes {p : Prog D W C R E α} {S : α → Prop} (hp : Makes (Committing U) p S)
    (admitted : ∀ F, U F → T F ∧ ∀ i, ¬needs i F) : Sequenced T marks needs p := by
  intro s past
  refine wp_follows hp (l := []) (fun F hF => ?_) (fun w mem => (List.not_mem_nil mem).elim) fun _ _ _ _ => trivial
  obtain ⟨tx, nothing⟩ := admitted F hF
  exact ⟨tx, fun i hi => (nothing i hi).elim⟩

theorem bind {p : Prog D W C R E α} {S : α → Prop} {f : α → Prog D W C R E β} (hp : Makes (Committing U) p S)
    (admitted : ∀ F, U F → T F ∧ ∀ i, ¬needs i F) (hf : ∀ a, S a → Sequenced T marks needs (f a)) :
    Sequenced T marks needs (p.bind f) := by
  intro s past
  rw [wp_bind]
  refine wp_follows hp (l := []) (fun F hF => ?_) (fun w mem => (List.not_mem_nil mem).elim)
    fun a s' past' ha => hf a ha s' past'
  obtain ⟨tx, nothing⟩ := admitted F hF
  exact ⟨tx, fun i hi => (nothing i hi).elim⟩

/-- A transaction that marks what the rest of the program needs. -/
theorem transaction_bind {body : Prog D W C R E α} {G : α → List W → Prop} {f : α → Prog D W C R E β} {S : β → Prop}
    (hbody : Adds (fun _ => False) body G) (own : ∀ a F, G a F → T F ∧ ∀ i, ¬needs i F)
    (hf : ∀ a, Makes (Committing U) (f a) S)
    (rest : ∀ a F F', G a F → U F' → T F' ∧ Prepared marks needs F F') :
    Sequenced T marks needs ((Prog.transaction body).bind f) := by
  intro s past
  rw [wp_bind]
  have inside := wp_carry (I := fun past' => past' = past)
    (Ψ := fun _ past ev => Follows T marks needs past ev)
    (hbody Anything (guarded_anything _) s [] [] past) (fun _ _ _ _ h => h.elim) rfl fun s => ⟨s, trivial⟩
  refine wp_transaction (wp_mono inside ?_ ?_) fun _ => trivial
  · rintro a ⟨s', fs, past'⟩ ⟨⟨-, F, hF, ha⟩, rfl⟩
    refine ⟨F, hF, fun d _ _ => ?_, fun _ => trivial⟩
    obtain ⟨tx, nothing⟩ := own a F ha
    refine ⟨⟨tx, fun i hi => (nothing i hi).elim⟩, ?_⟩
    refine wp_follows (hf a) (l := F) (fun F' hF' => rest a F F' ha hF') (fun w mem => ?_) fun _ _ _ _ => trivial
    rw [written_append]
    exact List.mem_append_right _ (List.mem_append_left _ mem)
  · rintro e v' ⟨⟨-, F, hF⟩, -⟩
    exact ⟨F, hF, trivial⟩

end Sequenced

variable {X M : Type} [External X C R M] [DecidableEq Row]

/-- **The rule of sequenced programs**: what every commit keeps that finds marked in the run what it needs, holds
in every configuration that the run reaches. -/
theorem Reaches.induct_of_sequenced {P : Config D X W C R E → Effect W C → Prop} {db : D} {ext : X}
    {progs : List (Prog D W C R E Unit)} {c : Config D X W C R E}
    (run : Reaches P (Config.start db ext progs) c)
    (sequenced : ∀ (k : Nat) (p : Prog D W C R E Unit), progs[k]? = some p → Sequenced T marks needs p)
    (J : D → List (Commit D W) → Prop) (init : J db [])
    (step : ∀ {c : Config D X W C R E} {k : Nat} {nested : Bool} {F : List W}, T F →
      (∀ i, needs i F → ∃ e ∈ c.log, ∃ w ∈ e.writes, marks i w) → violation F c.db = none →
      P c (.commit k nested F) → J c.db c.log → J (applyAll F c.db) (c.log ++ [⟨k, F, c.db⟩])) :
    J c.db c.log := by
  have good : (Config.start db ext progs).Good Anything (fun _ _ past ev => Follows T marks needs past ev)
      (fun _ _ => True) fun _ _ _ => True :=
    Config.good_start (fun _ => trivial) fun k p hk => sequenced k p hk db []
  refine (run.invariant (fun c => (∀ k, ∀ w ∈ written (c.past k), ∃ e ∈ c.log, w ∈ e.writes) ∧ J c.db c.log)
    (fun _ => trivial) (fun _ _ => trivial) good ⟨fun k w mem => ?_, init⟩ ?_).2.2
  · have empty : written ((Config.start db ext progs).past k) = ([] : List W) := by
      simp only [Config.past, Config.start, List.getElem?_map]
      cases progs[k]? <;> rfl
    rw [empty] at mem
    exact (List.not_mem_nil mem).elim
  intro c c' eff _ moves allowed h
  obtain ⟨logged, hJ⟩ := h
  refine ⟨trivial, ?_⟩
  have unwritten {k : Nat} {ev : Event W C R} (past : c'.past = Function.update c.past k (c.past k ++ [ev]))
      (hev : written (c.past k ++ [ev]) = written (c.past k)) (j : Nat) :
      written (c'.past j) = written (c.past j) := by
    rw [past]
    by_cases hj : j = k
    · rw [hj, Function.update_self, hev]
    · rw [Function.update_of_ne hj]
  cases moves with
  | internal _ db ext past log =>
    rw [db, log, past]
    exact ⟨logged, hJ⟩
  | called k call answered admitted db ext past log =>
    have same := unwritten past (by cases answered <;> simp [reply])
    rw [db, log]
    exact ⟨fun j w mem => logged j w (same j ▸ mem), hJ⟩
  | unsent k call admitted db ext past log =>
    have same := unwritten past (by simp)
    rw [db, log]
    exact ⟨fun j w mem => logged j w (same j ▸ mem), hJ⟩
  | commit k nested F admitted valid db ext past log =>
    obtain ⟨tx, prepared⟩ := admitted
    rw [db, log, past]
    refine ⟨fun j w mem => ?_, step tx (fun i hi => ?_) valid allowed hJ⟩
    · by_cases hj : j = k
      · rw [hj, Function.update_self, written_committed] at mem
        obtain before | new := List.mem_append.1 mem
        · obtain ⟨e, he, hw⟩ := logged k w before
          exact ⟨e, List.mem_append_left _ he, hw⟩
        · exact ⟨⟨k, F, c.db⟩, List.mem_append_right _ (List.mem_singleton_self _), new⟩
      · rw [Function.update_of_ne hj] at mem
        obtain ⟨e, he, hw⟩ := logged j w mem
        exact ⟨e, List.mem_append_left _ he, hw⟩
    · obtain ⟨w, mem, mark⟩ := prepared i hi
      obtain ⟨e, he, hw⟩ := logged k w mem
      exact ⟨e, he, w, hw, mark⟩

end Heightt.ReadCommitted
