import Heightt.ReadCommitted.Faultless

/-!
# Programs that fail before a commit or not at all

Up to a commit that `marked` tells, a program may end in any error. After that commit
it succeeds, as long as none of its operations fails and the others keep `rest`, what
it counts on from then on. `Completes` says so of a program; in a run of such
programs a thread that has ended in an error has made no marked commit
(`Reaches.not_marked_of_threw`).
-/

namespace Heightt.ReadCommitted

open Database

variable {D X W C M Row Col E α β : Type} {R : C → Type} [Database D W Row Col E]

/-- What a program counts on after the marked commit. -/
def Setting.keeping (rest : D → Prop) : Setting D W C R where
  rely s d := rest s → rest d
  inv _ := True
  allows _ _ := True
  answers _ _ := True

/-- With the open transactions `fs`, the program ends in no error once it has made a marked commit. -/
def Completes (marked : D → List W → Prop) (rest : List W → D → Prop) :
    Prog D W C R E α → List (List W) → Prop
  | .ret _, _ => True
  | .throw _, _ => True
  | .read k err, fs => (∀ d, Completes marked rest (k (visible fs d)) fs) ∧ ∀ e, Completes marked rest (err e) fs
  | .write w k err, fs => match fs with
    | [] => True
    | F :: fs => Completes marked rest k ((F ++ [w]) :: fs) ∧ ∀ e, Completes marked rest (err e) (F :: fs)
  | .begin k err, fs => Completes marked rest k ([] :: fs) ∧ ∀ e, Completes marked rest (err e) fs
  | .commit k err, fs => match fs with
    | [] => True
    | F :: fs =>
      (∀ d, violation F d = none →
        (marked d F → fs = [] ∧ (rest F (applyAll F d) →
          Succeeds (.keeping (rest F)) k (applyAll F d) [] fun _ _ fs => fs = [])) ∧
        (¬marked d F → Completes marked rest k fs)) ∧
      ∀ e, Completes marked rest (err e) fs
  | .rollback k, fs => match fs with
    | [] => True
    | _ :: fs => Completes marked rest k fs
  | .call _ k err, fs => (∀ r, Completes marked rest (k r) fs) ∧ ∀ e, Completes marked rest (err e) fs

namespace Completes

variable {marked : D → List W → Prop} {rest : List W → D → Prop}

/-- A part that makes no marked commit. -/
theorem bind_of_wp {P : Event W C R → Prop} {p : Prog D W C R E α} {f : α → Prog D W C R E β}
    (unmarked : ∀ nested F, P (.committed nested F) → ∀ d, ¬marked d F) {v : View D W C R}
    (hp : wp Anything (fun _ _ ev => P ev) p v (fun a v => Completes marked rest (f a) v.frames)
      fun _ _ => True) : Completes marked rest (p.bind f) v.frames := by
  induction p generalizing v with
  | ret a => exact hp
  | throw e => trivial
  | read k err ihk ihe =>
    exact ⟨fun d => ihk _ (v := { v with seen := d }) (hp.1 d trivial), fun e => ihe e (hp.2 e)⟩
  | write w k err ihk ihe =>
    obtain ⟨s, _ | ⟨F, fs⟩, past⟩ := v
    · exact hp.elim
    · exact ⟨ihk hp.1, fun e => ihe e (hp.2 e)⟩
  | «begin» k err ihk ihe => exact ⟨ihk hp.1, fun e => ihe e (hp.2 e)⟩
  | commit k err ihk ihe =>
    obtain ⟨s, _ | ⟨F, fs⟩, past⟩ := v
    · exact hp.elim
    · refine ⟨fun d valid => ?_, fun e => ihe e (hp.2 e)⟩
      obtain ⟨made, later⟩ := hp.1 d trivial valid
      exact ⟨fun h => (unmarked _ F made d h).elim, fun _ => ihk later⟩
  | rollback k ihk =>
    obtain ⟨s, _ | ⟨F, fs⟩, past⟩ := v
    · exact hp.elim
    · exact ihk hp
  | call c k err ihk ihe =>
    refine ⟨fun r => ihk r (v := { v with past := v.past ++ [.answered c r] }) (hp.1 v.seen r trivial).2, fun e => ?_⟩
    exact ihe e (v := { v with past := v.past ++ [.failed c] }) (hp.2.2 e)

theorem of_unmarked (unmarked : ∀ d F, ¬marked d F) (p : Prog D W C R E α) (fs : List (List W)) :
    Completes marked rest p fs := by
  induction p generalizing fs with
  | ret a => trivial
  | throw e => trivial
  | read k err ihk ihe => exact ⟨fun d => ihk _ fs, fun e => ihe e fs⟩
  | write w k err ihk ihe =>
    cases fs with
    | nil => trivial
    | cons F fs => exact ⟨ihk _, fun e => ihe e _⟩
  | «begin» k err ihk ihe => exact ⟨ihk _, fun e => ihe e fs⟩
  | commit k err ihk ihe =>
    cases fs with
    | nil => trivial
    | cons F fs => exact ⟨fun d _ => ⟨fun h => (unmarked d F h).elim, fun _ => ihk fs⟩, fun e => ihe e fs⟩
  | rollback k ihk =>
    cases fs with
    | nil => trivial
    | cons F fs => exact ihk fs
  | call c k err ihk ihe => exact ⟨fun r => ihk r fs, fun e => ihe e fs⟩

/-- A part that makes no marked commit. -/
theorem bind {P : Event W C R → Prop} {p : Prog D W C R E α} {S : α → Prop} {f : α → Prog D W C R E β}
    (hp : Makes P p S) (unmarked : ∀ nested F, P (.committed nested F) → ∀ d, ¬marked d F)
    (hf : ∀ a, S a → Completes marked rest (f a) []) (d : D) : Completes marked rest (p.bind f) [] := by
  refine bind_of_wp unmarked (v := ⟨d, [], []⟩) (hp.wp' (guarded_anything P) (fun _ _ _ h => h) ?_
    fun _ _ _ _ => trivial)
  intro a v' _ frames ha
  rw [frames]
  exact hf a ha

/-- A statement that is marked in some states. -/
theorem statement_bind {w : W} {f : Unit → Prog D W C R E β}
    (after : ∀ d, check w d = none → marked d [w] → rest [w] (apply w d) →
      Succeeds (.keeping (rest [w])) (f ()) (apply w d) [] fun _ _ fs => fs = [])
    (next : Completes marked rest (f ()) []) : Completes marked rest ((Prog.statement w).bind f) [] := by
  refine ⟨⟨⟨fun d valid => ⟨fun h => ⟨rfl, fun kept => ?_⟩, fun _ => next⟩, fun e => trivial⟩, fun e => trivial⟩,
    fun e => trivial⟩
  exact after d (violation_cons.1 valid).1 h kept

end Completes

variable [External X C R M] [DecidableEq Row]

/-- What a step of the thread with effect `eff` leaves of it. -/
inductive Thread.Goes (marked : D → List W → Prop) (rest : List W → D → Prop) (i : Nat) (db : D)
    (t' : Thread D W C R E) : Effect W C → Prop where
  | on {eff : Effect W C} (quiet : ∀ j nested F, eff ≠ .commit j nested F)
    (later : Completes marked rest t'.prog t'.opened) : Goes marked rest i db t' eff
  | unmarked {nested : Bool} {F : List W} (h : ¬marked db F) (later : Completes marked rest t'.prog t'.opened) :
    Goes marked rest i db t' (.commit i nested F)
  | marked {nested : Bool} {F : List W} (h : marked db F)
    (later : rest F (applyAll F db) → t'.Safe (.keeping (rest F)) (applyAll F db)) :
    Goes marked rest i db t' (.commit i nested F)

/-- One step of a thread that has made no marked commit. -/
theorem Thread.goes_of_step {marked : D → List W → Prop} {rest : List W → D → Prop} {i : Nat} {db : D} {ext : X}
    {locked : List Row} {t t' : Thread D W C R E} {choice : Choice E} {eff : Effect W C}
    (h : t.step i db ext locked choice = some (t', eff)) (now : Completes marked rest t.prog t.opened) :
    Goes marked rest i db t' eff := by
  obtain ⟨prog, frames, past⟩ := t
  cases choice with
  | expire n =>
    simp only [step, Option.some.injEq, Prod.mk.injEq] at h
    obtain ⟨rfl, rfl⟩ := h
    exact .on (fun _ _ _ h => by cases h) (by simpa only [Thread.opened, open_expireFrame] using now)
  | lost e =>
    cases prog <;> simp only [step, reduceCtorEq, Option.some.injEq, Prod.mk.injEq] at h
    case call c k err =>
      obtain ⟨rfl, rfl⟩ := h
      exact .on (fun _ _ _ h => by cases h) (now.2 e)
  | fail e =>
    cases prog with
    | ret a => simp [step] at h
    | throw e => simp [step] at h
    | rollback k => simp [step] at h
    | read k err =>
      simp only [step, Option.some.injEq, Prod.mk.injEq] at h
      obtain ⟨rfl, rfl⟩ := h
      exact .on (fun _ _ _ h => by cases h) (by simpa only [Thread.opened, open_abort] using now.2 e)
    | «begin» k err =>
      simp only [step, Option.some.injEq, Prod.mk.injEq] at h
      obtain ⟨rfl, rfl⟩ := h
      exact .on (fun _ _ _ h => by cases h) (now.2 e)
    | call c k err =>
      simp only [step, Option.some.injEq, Prod.mk.injEq] at h
      obtain ⟨rfl, rfl⟩ := h
      exact .on (fun _ _ _ h => by cases h) (now.2 e)
    | _ =>
      cases frames with
      | nil => simp [step] at h
      | cons f fs =>
        simp only [step, Option.some.injEq, Prod.mk.injEq] at h
        obtain ⟨rfl, rfl⟩ := h
        exact .on (fun _ _ _ h => by cases h) (now.2 e)
  | ok =>
    cases prog with
    | ret a => simp [step] at h
    | throw e => simp [step] at h
    | read k err =>
      cases frames with
      | nil =>
        simp only [step, Option.some.injEq, Prod.mk.injEq] at h
        obtain ⟨rfl, rfl⟩ := h
        exact .on (fun _ _ _ h => by cases h) (now.1 db)
      | cons f fs =>
        simp only [step, Option.ite_none_right_eq_some, Option.some.injEq, Prod.mk.injEq] at h
        obtain ⟨-, rfl, rfl⟩ := h
        exact .on (fun _ _ _ h => by cases h) (now.1 db)
    | write w k err =>
      cases frames with
      | nil => simp [step] at h
      | cons f fs =>
        simp only [step, Option.ite_none_right_eq_some] at h
        obtain ⟨-, h⟩ := h
        split at h
        · simp only [Option.some.injEq, Prod.mk.injEq] at h
          obtain ⟨rfl, rfl⟩ := h
          exact .on (fun _ _ _ h => by cases h) now.1
        · simp only [Option.some.injEq, Prod.mk.injEq] at h
          obtain ⟨rfl, rfl⟩ := h
          exact .on (fun _ _ _ h => by cases h) (now.2 _)
    | «begin» k err =>
      simp only [step, Option.some.injEq, Prod.mk.injEq] at h
      obtain ⟨rfl, rfl⟩ := h
      exact .on (fun _ _ _ h => by cases h) now.1
    | commit k err =>
      cases frames with
      | nil => simp [step] at h
      | cons f fs =>
        simp only [step, Option.ite_none_right_eq_some] at h
        obtain ⟨-, h⟩ := h
        split at h
        · rename_i valid
          simp only [Option.some.injEq, Prod.mk.injEq] at h
          obtain ⟨rfl, rfl⟩ := h
          obtain ⟨after, next⟩ := now.1 db valid
          by_cases h : marked db f.writes
          · obtain ⟨closed, succeeds⟩ := after h
            obtain rfl : fs = [] := List.map_eq_nil_iff.1 closed
            exact .marked h fun kept => ⟨fun f mem => (List.not_mem_nil mem).elim, _, fun h => h, succeeds kept⟩
          · exact .unmarked h (next h)
        · simp only [Option.some.injEq, Prod.mk.injEq] at h
          obtain ⟨rfl, rfl⟩ := h
          exact .on (fun _ _ _ h => by cases h) (now.2 _)
    | rollback k =>
      cases frames with
      | nil => simp [step] at h
      | cons f fs =>
        simp only [step, Option.some.injEq, Prod.mk.injEq] at h
        obtain ⟨rfl, rfl⟩ := h
        exact .on (fun _ _ _ h => by cases h) now
    | call c k err =>
      simp only [step, Option.some.injEq, Prod.mk.injEq] at h
      obtain ⟨rfl, rfl⟩ := h
      exact .on (fun _ _ _ h => by cases h) (now.1 _)

/-! ## Runs of such programs -/

variable (marked : Nat → D → List W → Prop) (rest : Nat → List W → D → Prop)

/-- The thread has made no marked commit. -/
def Config.Unmarked (c : Config D X W C R E) (i : Nat) : Prop :=
  ∀ k ∈ c.log, k.thread = i → ¬marked i k.before k.writes

/-- The step leaves what the threads count on that have made a marked commit: no operation of
theirs fails, and the others keep `rest`. -/
def Config.Spared (c : Config D X W C R E) : Effect W C → Prop
  | .commit i _ F => (marked i c.db F → rest i F (applyAll F c.db)) ∧ ∀ k ∈ c.log, k.thread ≠ i →
    marked k.thread k.before k.writes → rest k.thread k.writes c.db → rest k.thread k.writes (applyAll F c.db)
  | .fault i | .unsent i _ | .called i _ false => c.Unmarked marked i
  | _ => True

instance [∀ i d F, Decidable (marked i d F)] (c : Config D X W C R E) (i : Nat) :
    Decidable (c.Unmarked marked i) :=
  inferInstanceAs (Decidable (∀ k ∈ c.log, k.thread = i → ¬marked i k.before k.writes))

instance [∀ i d F, Decidable (marked i d F)] [∀ i F d, Decidable (rest i F d)] (c : Config D X W C R E)
    (eff : Effect W C) : Decidable (c.Spared marked rest eff) :=
  match eff with
  | .commit i _ F => inferInstanceAs (Decidable ((marked i c.db F → rest i F (applyAll F c.db)) ∧
      ∀ k ∈ c.log, k.thread ≠ i → marked k.thread k.before k.writes → rest k.thread k.writes c.db →
        rest k.thread k.writes (applyAll F c.db)))
  | .fault i | .unsent i _ | .called i _ false => inferInstanceAs (Decidable (c.Unmarked marked i))
  | .internal | .called _ _ true => .isTrue trivial

variable {marked rest} {c c' : Config D X W C R E}

/-- Thread `i` has made no marked commit yet, or ends in no error. -/
def Config.Resolved (marked : Nat → D → List W → Prop) (rest : Nat → List W → D → Prop)
    (c : Config D X W C R E) (i : Nat) (t : Thread D W C R E) : Prop :=
  c.Unmarked marked i ∧ Completes (marked i) (rest i) t.prog t.opened ∨
    ∃ k ∈ c.log, k.thread = i ∧ marked i k.before k.writes ∧ t.Safe (.keeping (rest i k.writes)) c.db

omit [DecidableEq Row] in
theorem Config.log_update (i : Nat) (t : Thread D W C R E) (eff : Effect W C) :
    (c.update i t eff).log = match eff with
      | .commit _ _ F => c.log ++ [⟨i, F, c.db⟩]
      | _ => c.log := by
  cases eff <;> rfl

/-- A commit is that of the thread that takes the step. -/
theorem Thread.commit_of_step {i j : Nat} {db : D} {ext : X} {locked : List Row} {t t' : Thread D W C R E}
    {choice : Choice E} {nested : Bool} {F : List W}
    (h : t.step i db ext locked choice = some (t', .commit j nested F)) : j = i := by
  obtain ⟨prog, frames, past⟩ := t
  cases choice <;> cases prog <;> cases frames <;>
    simp only [step, reduceCtorEq, Option.some.injEq, Prod.mk.injEq, and_false] at h <;> try split at h
  all_goals first
    | cases h
    | (split at h <;> cases h <;> rfl)

omit [DecidableEq Row] in
theorem Config.mem_log_update {i : Nat} {t : Thread D W C R E} {eff : Effect W C} {k : Commit D W}
    (mem : k ∈ (c.update i t eff).log) : k ∈ c.log ∨ ∃ j nested, eff = .commit j nested k.writes ∧ k = ⟨i, k.writes, c.db⟩ := by
  rw [log_update] at mem
  cases eff with
  | commit j nested F =>
    rcases List.mem_append.1 mem with mem | mem
    · exact .inl mem
    · rw [List.mem_singleton] at mem
      subst mem
      exact .inr ⟨j, nested, rfl, rfl⟩
  | _ => exact .inl mem

/-- An operation that fails is a step that spares only threads without a marked commit. -/
theorem Config.Spared.unmarked {i : Nat} {locked : List Row} {t t' : Thread D W C R E} {choice : Choice E}
    {eff : Effect W C} (spared : c.Spared marked rest eff)
    (h : t.step i c.db c.ext locked choice = some (t', eff)) (fails : choice ≠ .ok) : c.Unmarked marked i := by
  obtain ⟨prog, frames, past⟩ := t
  cases choice with
  | ok => exact (fails rfl).elim
  | expire n =>
    simp only [Thread.step, Option.some.injEq, Prod.mk.injEq] at h
    obtain ⟨-, rfl⟩ := h
    exact spared
  | lost e =>
    cases prog <;> simp only [Thread.step, reduceCtorEq, Option.some.injEq, Prod.mk.injEq] at h
    case call c k err =>
      obtain ⟨-, rfl⟩ := h
      exact spared
  | fail e =>
    cases prog <;> cases frames <;>
      simp only [Thread.step, reduceCtorEq, Option.some.injEq, Prod.mk.injEq] at h <;>
      obtain ⟨-, rfl⟩ := h <;> exact spared

/-- The thread that takes a step. -/
theorem Config.Resolved.own {i : Nat} {t t' : Thread D W C R E} {choice : Choice E} {eff : Effect W C}
    (now : c.Resolved marked rest i t) (spared : c.Spared marked rest eff)
    (h : t.step i c.db c.ext (c.locked i) choice = some (t', eff)) :
    (c.update i t' eff).Resolved marked rest i t' := by
  obtain ⟨unmarked, later⟩ | ⟨k, mem, own, committed, safe⟩ := now
  · cases Thread.goes_of_step h later with
    | on quiet later =>
      refine .inl ⟨fun k mem => ?_, later⟩
      obtain mem | ⟨j, nested, rfl, -⟩ := mem_log_update mem
      · exact unmarked k mem
      · exact (quiet j nested k.writes rfl).elim
    | unmarked none later =>
      refine .inl ⟨fun k mem own => ?_, later⟩
      rcases List.mem_append.1 mem with mem | mem
      · exact unmarked k mem own
      · rw [List.mem_singleton.1 mem]
        exact none
    | marked committed later =>
      exact .inr ⟨_, List.mem_append_right _ (List.mem_singleton_self _), rfl, committed, later (spared.1 committed)⟩
  · cases choice with
    | ok =>
      have allowed : t.Allowed (.keeping (rest i k.writes)) c.db c.ext := by
        unfold Thread.Allowed
        split <;> trivial
      refine .inr ⟨k, ?_, own, committed, ?_⟩
      · rw [log_update]
        cases eff with
        | commit j nested F => exact List.mem_append_left _ mem
        | _ => exact mem
      · rw [db_update]
        exact safe.step (fun _ kept => kept) trivial allowed h trivial
    | _ => exact (spared.unmarked h (by simp) k mem own committed).elim

/-- A thread that does not take the step. -/
theorem Config.Resolved.other {i j : Nat} {t u u' : Thread D W C R E} {choice : Choice E} {eff : Effect W C}
    (now : c.Resolved marked rest i t) (spared : c.Spared marked rest eff)
    (h : u.step j c.db c.ext (c.locked j) choice = some (u', eff)) (hij : j ≠ i) :
    (c.update j u' eff).Resolved marked rest i t := by
  obtain ⟨unmarked, later⟩ | ⟨k, mem, own, committed, isOpen, s, kept, succeeds⟩ := now
  · refine .inl ⟨fun k mem own => ?_, later⟩
    obtain mem | ⟨-, -, -, new⟩ := mem_log_update mem
    · exact unmarked k mem own
    · rw [new] at own
      exact (hij own).elim
  · have mem' : k ∈ (c.update j u' eff).log := by
      rw [log_update]
      cases eff with
      | commit l nested F => exact List.mem_append_left _ mem
      | _ => exact mem
    refine .inr ⟨k, mem', own, committed, isOpen, s, fun start => ?_, succeeds⟩
    rw [db_update]
    cases eff with
    | commit l nested F =>
      obtain rfl := Thread.commit_of_step h
      subst own
      exact spared.2 k mem hij.symm committed (kept start)
    | _ => exact kept start

variable {P : Config D X W C R E → Effect W C → Prop} {db : D} {ext : X} {progs : List (Prog D W C R E Unit)}

/-- **The run rule**: in a run whose steps spare the threads that have made a marked commit, a
thread that has ended in an error has made none. -/
theorem Reaches.unmarked_of_threw (run : Reaches P (Config.start db ext progs) c)
    (spared : ∀ {c : Config D X W C R E} {eff : Effect W C}, P c eff → c.Spared marked rest eff)
    (completes : ∀ i p, progs[i]? = some p → Completes (marked i) (rest i) p []) {i : Nat}
    {t : Thread D W C R E} (ht : c.threads[i]? = some t) (threw : t.threw = true) : c.Unmarked marked i := by
  suffices ∀ i t, c.threads[i]? = some t → c.Resolved marked rest i t by
    obtain ⟨unmarked, -⟩ | ⟨k, mem, own, committed, safe⟩ := this i t ht
    · exact unmarked
    · rw [safe.not_threw] at threw
      cases threw
  clear ht threw
  induction run with
  | refl =>
    intro i t ht
    simp only [Config.start, List.getElem?_map, Option.map_eq_some_iff] at ht
    obtain ⟨p, hp, rfl⟩ := ht
    exact .inl ⟨fun _ mem => (List.not_mem_nil mem).elim, completes i p hp⟩
  | step a _ hact hP ih =>
    intro i t ht
    cases a with
    | move m =>
      simp only [Config.act, Option.bind_eq_bind, Option.bind_eq_some_iff, Option.pure_def,
        Option.some.injEq, Prod.mk.injEq] at hact
      obtain ⟨ext, -, -, rfl⟩ := hact
      exact ih i t ht
    | thread j choice =>
      simp only [Config.act, Option.bind_eq_bind, Option.bind_eq_some_iff, Option.pure_def,
        Option.some.injEq, Prod.mk.injEq] at hact
      obtain ⟨u, hu, ⟨u', eff'⟩, hstep, rfl, rfl⟩ := hact
      rw [Config.threads_update, List.getElem?_set] at ht
      split at ht
      · rename_i hij
        subst hij
        split at ht
        · cases ht
          exact (ih j u hu).own (spared hP) hstep
        · cases ht
      · rename_i hij
        exact (ih i t ht).other (spared hP) hstep hij

end Heightt.ReadCommitted
