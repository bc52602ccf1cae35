import Heightt.ReadCommitted.Upholds

/-!
# A program on a part of the state

A program that was written for states `D` runs on the part `get d` of a larger state:
its statements `w` are the statements `inj w` there (`Prog.embed`). When these do to the
part what `w` does, and to nothing that others rely on, what is known of the program
holds of its embedding: one rule for the weakest precondition, and from it one for each
specification.
-/

namespace Heightt.ReadCommitted

open Database

variable {D D' W W' C : Type} {R : C → Type} {E α Row Row' Col Col' : Type} [Database D W Row Col E]
  [Database D' W' Row' Col' E]

/-- The program on the part `get d` of a state `d`. -/
def Prog.embed (get : D' → D) (inj : W → W') : Prog D W C R E α → Prog D' W' C R E α
  | .ret a => .ret a
  | .throw e => .throw e
  | .read k err => .read (fun d => (k (get d)).embed get inj) fun e => (err e).embed get inj
  | .write w k err => .write (inj w) (k.embed get inj) fun e => (err e).embed get inj
  | .begin k err => .begin (k.embed get inj) fun e => (err e).embed get inj
  | .commit k err => .commit (k.embed get inj) fun e => (err e).embed get inj
  | .rollback k => .rollback (k.embed get inj)
  | .call c k err => .call c (fun r => (k r).embed get inj) fun e => (err e).embed get inj

/-- What the event is for the larger state. -/
def Event.embed (inj : W → W') : Event W C R → Event W' C R
  | .committed nested F => .committed nested (F.map inj)
  | .answered c r => .answered c r
  | .failed c => .failed c

/-- The statements `inj w` do to the part `get d` what the statements `w` do, under the same constraints. -/
structure Embeds (get : D' → D) (inj : W → W') : Prop where
  apply : ∀ w d, get (apply (inj w) d) = apply w (get d)
  check : ∀ w d, check (inj w) d = check w (get d)

namespace Embeds

variable {get : D' → D} {inj : W → W'} (part : Embeds get inj)

include part

theorem applyAll (F : List W) (d : D') : get (applyAll (F.map inj) d) = Database.applyAll F (get d) := by
  induction F generalizing d with
  | nil => rfl
  | cons w F ih => rw [List.map_cons, applyAll_cons, ih, part.apply, applyAll_cons]

theorem violation (F : List W) (d : D') : violation (F.map inj) d = Database.violation F (get d) := by
  induction F generalizing d with
  | nil => rfl
  | cons w F ih => simp only [List.map_cons, Database.violation, part.check, ih, part.apply]

theorem visible (fs : List (List W)) (d : D') :
    get (visible (fs.map (List.map inj)) d) = ReadCommitted.visible fs (get d) := by
  cases fs with
  | nil => rfl
  | cons F fs => exact part.applyAll F d

end Embeds

variable {get : D' → D} {inj : W → W'} {rely : D → D → Prop} {rely' : D' → D' → Prop}
  {Φ : D → Event W C R → Prop} {Φ' : D' → Event W' C R → Prop}

/-- The state of a larger view is after `s`, and its part is a view that satisfies `Q`. -/
def Seen (get : D' → D) (inj : W → W') (rely' : D' → D' → Prop) (s : D') (Q : View D W C R → Prop)
    (v : View D' W' C R) : Prop :=
  rely' s v.seen ∧ ∃ fs past, v.frames = fs.map (List.map inj) ∧ Q ⟨get v.seen, fs, past⟩

/-- Others may have moved on to `t` before the part went on from there. -/
theorem Seen.after {s t : D'} {Q : View D W C R → Prop} {v : View D' W' C R}
    (trans : ∀ {a b c}, rely' a b → rely' b c → rely' a c) (hs : rely' s t)
    (h : Seen get inj rely' t Q v) : Seen get inj rely' s Q v :=
  ⟨trans hs h.1, h.2⟩

/-- **The embedding rule**: the weakest precondition of a program holds of its embedding. -/
theorem wp_embed (part : Embeds get inj) (refl : ∀ d, rely' d d)
    (trans : ∀ {a b c}, rely' a b → rely' b c → rely' a c)
    (hrely : ∀ {s d}, rely' s d → rely (get s) (get d))
    (hΦ : ∀ {d ev}, Φ (get d) ev → Φ' d (ev.embed inj))
    (keeps : ∀ {nested F d}, Φ (get d) (.committed nested F) → violation F (get d) = none →
      rely' d (applyAll (F.map inj) d))
    {p : Prog D W C R E α} {s : D'} {fs : List (List W)} {past : List (Event W C R)}
    {past' : List (Event W' C R)} {Q : α → View D W C R → Prop} {Qe : E → View D W C R → Prop}
    (hp : wp rely (fun d _ ev => Φ d ev) p ⟨get s, fs, past⟩ Q Qe) :
    wp rely' (fun d _ ev => Φ' d ev) (p.embed get inj) ⟨s, fs.map (List.map inj), past'⟩
      (fun a => Seen get inj rely' s (Q a)) fun e => Seen get inj rely' s (Qe e) := by
  induction p generalizing s fs past past' with
  | ret a => exact ⟨refl s, fs, past, rfl, hp⟩
  | throw e => exact ⟨refl s, fs, past, rfl, hp⟩
  | read k err ihk ihe =>
    refine ⟨fun d hd => ?_, fun e => ihe e (hp.2 e)⟩
    have later := hp.1 (get d) (hrely hd)
    rw [← part.visible] at later
    exact wp_mono (ihk _ later) (fun _ _ h => h.after trans hd) fun _ _ h => h.after trans hd
  | write w k err ihk ihe =>
    cases fs with
    | nil => exact hp
    | cons F fs =>
      have same : F.map inj ++ [inj w] = (F ++ [w]).map inj := by simp
      refine ⟨?_, fun e => ihe e (hp.2 e)⟩
      rw [same]
      exact ihk hp.1
  | «begin» k err ihk ihe => exact ⟨ihk hp.1, fun e => ihe e (hp.2 e)⟩
  | commit k err ihk ihe =>
    cases fs with
    | nil => exact hp
    | cons F fs =>
      refine ⟨fun d hd valid => ?_, fun e => ihe e (hp.2 e)⟩
      rw [part.violation] at valid
      obtain ⟨admitted, next⟩ := hp.1 (get d) (hrely hd) valid
      have kept := keeps admitted valid
      rw [List.isEmpty_map]
      refine ⟨hΦ admitted, ?_⟩
      rw [← part.applyAll] at next
      exact wp_mono (ihk next) (fun _ _ h => h.after trans (trans hd kept))
        fun _ _ h => h.after trans (trans hd kept)
  | rollback k ihk =>
    cases fs with
    | nil => exact hp
    | cons F fs => exact ihk hp
  | call c k err ihk ihe =>
    obtain ⟨hr, hf, he⟩ := hp
    refine ⟨fun d r hd => ?_, fun d hd => hΦ (hf (get d) (hrely hd)), fun e => ihe e (he e)⟩
    obtain ⟨admitted, next⟩ := hr (get d) r (hrely hd)
    exact ⟨hΦ admitted, wp_mono (ihk r next) (fun _ _ h => h.after trans hd) fun _ _ h => h.after trans hd⟩

/-- What a program upholds, its embedding upholds for the part. -/
theorem Upholds.embed {Ψ : D → List W → Prop} {Ψ' : D' → List W' → Prop} {p : Prog D W C R E α}
    {s : D'} {S : D → α → Prop} (hp : Upholds rely Ψ (get s) p S) (part : Embeds get inj)
    (refl : ∀ d, rely' d d) (trans : ∀ {a b c}, rely' a b → rely' b c → rely' a c)
    (hrely : ∀ {s d}, rely' s d → rely (get s) (get d))
    (hΨ : ∀ {d F}, Ψ (get d) F → Ψ' d (F.map inj))
    (keeps : ∀ {F d}, Ψ (get d) F → violation F (get d) = none → rely' d (applyAll (F.map inj) d)) :
    Upholds rely' Ψ' s (p.embed get inj) fun d a => S (get d) a := by
  intro past
  refine wp_mono (wp_embed (Φ := Admits Ψ) part refl trans hrely (fun {d ev} h => ?_)
    (fun h valid => keeps h valid) (hp [])) ?_ ?_
  · cases ev with
    | committed nested F => exact hΨ h
    | answered c r => trivial
    | failed c => trivial
  · rintro a v ⟨hs, fs, past, hv, rfl, -, ha⟩
    exact ⟨hv, hs, ha⟩
  · rintro e v ⟨hs, fs, past, hv, rfl, -⟩
    exact ⟨hv, hs⟩

end Heightt.ReadCommitted
