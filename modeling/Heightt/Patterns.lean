import Mathlib.Computability.Language

/-!
# Patterns

Regular expressions without alternatives: one symbol of a class after the other, or as few or
as many symbols of a class as possible. `rests` goes through the ways a pattern can match a
prefix, in the order of a backtracking matcher, and `search` takes the first one from the
leftmost place. Where a pattern matches at all is told by its language.
-/

namespace Heightt

variable {α : Type}

/-- A symbol of a class, or as few or as many as possible. -/
inductive Piece (α : Type) where
  | one (p : α → Bool)
  | lazy (p : α → Bool)
  | greedy (p : α → Bool)

abbrev Pattern (α : Type) := List (Piece α)

/-- What is left of a text after none, one, two, … symbols of a class. -/
def runs (p : α → Bool) : List α → List (List α)
  | [] => [[]]
  | a :: s => (a :: s) :: if p a then runs p s else []

namespace Piece

def language : Piece α → Language α
  | one p => {w | ∃ a, p a = true ∧ w = [a]}
  | lazy p | greedy p => {w | ∀ a ∈ w, p a = true}

/-- What a piece can leave of a text, the first attempt first. -/
def rests : Piece α → List α → List (List α)
  | one _, [] => []
  | one p, a :: s => if p a then [s] else []
  | lazy p, s => runs p s
  | greedy p, s => (runs p s).reverse

end Piece

theorem mem_runs {p : α → Bool} {s r : List α} :
    r ∈ runs p s ↔ ∃ w, (∀ a ∈ w, p a = true) ∧ s = w ++ r := by
  induction s with
  | nil =>
    rw [runs, List.mem_singleton]
    constructor
    · rintro rfl
      exact ⟨[], by simp, rfl⟩
    · rintro ⟨w, -, same⟩
      exact (List.append_eq_nil_iff.1 same.symm).2
  | cons a s ih =>
    rw [runs, List.mem_cons]
    constructor
    · rintro (rfl | mem)
      · exact ⟨[], by simp, rfl⟩
      · by_cases hp : p a = true
        · rw [if_pos hp] at mem
          obtain ⟨w, all, rfl⟩ := ih.1 mem
          exact ⟨a :: w, by simpa [hp] using all, rfl⟩
        · rw [if_neg hp] at mem
          cases mem
    · rintro ⟨w, all, same⟩
      cases w with
      | nil => exact .inl same.symm
      | cons b w =>
        obtain ⟨rfl, rfl⟩ := List.cons.inj same
        rw [if_pos (all a List.mem_cons_self)]
        exact .inr (ih.2 ⟨w, fun c hc => all c (List.mem_cons_of_mem _ hc), rfl⟩)

theorem Piece.mem_rests {q : Piece α} {s r : List α} : r ∈ q.rests s ↔ ∃ w ∈ q.language, s = w ++ r := by
  cases q with
  | one p =>
    cases s with
    | nil =>
      refine iff_of_false List.not_mem_nil ?_
      rintro ⟨w, ⟨a, -, rfl⟩, same⟩
      cases same
    | cons a s =>
      constructor
      · intro mem
        rw [rests] at mem
        split at mem
        · rename_i hp
          rw [List.mem_singleton] at mem
          exact ⟨[a], ⟨a, hp, rfl⟩, by rw [mem]; rfl⟩
        · cases mem
      · rintro ⟨w, ⟨b, hp, rfl⟩, same⟩
        obtain ⟨rfl, rfl⟩ := List.cons.inj same
        rw [rests, if_pos hp]
        exact List.mem_singleton_self _
  | lazy p => exact mem_runs
  | greedy p => exact List.mem_reverse.trans mem_runs

namespace Pattern

/-- The texts that the pattern describes. -/
def language (q : Pattern α) : Language α := (q.map Piece.language).prod

theorem mem_language_append {q q' : Pattern α} {w : List α} :
    w ∈ Pattern.language (q ++ q') ↔ ∃ u ∈ q.language, ∃ v ∈ q'.language, u ++ v = w := by
  rw [language, List.map_append, List.prod_append]
  exact Language.mem_mul

/-- Some part of the text is one that the pattern describes. -/
def Matches (q : Pattern α) (s : List α) : Prop := ∃ u w v, s = u ++ w ++ v ∧ w ∈ q.language

/-- What a pattern can leave of a text, the first attempt first. -/
def rests : Pattern α → List α → List (List α)
  | [], s => [s]
  | piece :: q, s => (piece.rests s).flatMap (rests q)

/-- The place where the first match ends. -/
def search (q : Pattern α) : List α → Option Nat
  | [] => (rests q []).head?.map fun _ => 0
  | a :: s => match (rests q (a :: s)).head? with
    | some r => some ((a :: s).length - r.length)
    | none => (search q s).map (· + 1)

/-- The match that is looked for from a place on; beyond the end there is none. -/
def exec (q : Pattern α) (lastIndex : Nat) (s : List α) : Option Nat :=
  if lastIndex ≤ s.length then (search q (s.drop lastIndex)).map (· + lastIndex) else none

theorem mem_rests {q : Pattern α} {s r : List α} : r ∈ rests q s ↔ ∃ w ∈ q.language, s = w ++ r := by
  induction q generalizing s with
  | nil =>
    rw [rests, List.mem_singleton]
    constructor
    · rintro rfl
      exact ⟨[], rfl, rfl⟩
    · rintro ⟨w, empty, same⟩
      obtain rfl : w = [] := empty
      exact same.symm
  | cons piece q ih =>
    rw [rests, List.mem_flatMap]
    constructor
    · rintro ⟨t, ht, hr⟩
      obtain ⟨w, hw, rfl⟩ := Piece.mem_rests.1 ht
      obtain ⟨w', hw', rfl⟩ := ih.1 hr
      exact ⟨w ++ w', ⟨w, hw, w', hw', rfl⟩, (List.append_assoc w w' r).symm⟩
    · rintro ⟨-, ⟨w, hw, w', hw', rfl⟩, rfl⟩
      exact ⟨w' ++ r, Piece.mem_rests.2 ⟨w, hw, List.append_assoc w w' r⟩, ih.2 ⟨w', hw', rfl⟩⟩

theorem head?_rests {q : Pattern α} {s : List α} :
    (rests q s).head?.isSome ↔ ∃ w ∈ q.language, ∃ v, s = w ++ v := by
  rw [List.isSome_head?]
  constructor
  · intro some_
    obtain ⟨r, hr⟩ := List.exists_mem_of_ne_nil _ some_
    obtain ⟨w, hw, same⟩ := mem_rests.1 hr
    exact ⟨w, hw, r, same⟩
  · rintro ⟨w, hw, v, same⟩
    exact List.ne_nil_of_mem (mem_rests.2 ⟨w, hw, same⟩)

/-- A text has a match at its start or in the rest. -/
theorem matches_cons {q : Pattern α} {a : α} {s : List α} :
    q.Matches (a :: s) ↔ (∃ w ∈ q.language, ∃ v, a :: s = w ++ v) ∨ q.Matches s := by
  constructor
  · rintro ⟨u, w, v, same, hw⟩
    cases u with
    | nil => exact .inl ⟨w, hw, v, same⟩
    | cons b u => exact .inr ⟨u, w, v, (List.cons.inj same).2, hw⟩
  · rintro (⟨w, hw, v, same⟩ | ⟨u, w, v, rfl, hw⟩)
    · exact ⟨[], w, v, same, hw⟩
    · exact ⟨a :: u, w, v, rfl, hw⟩

theorem Matches.of_drop {q : Pattern α} {s : List α} {n : Nat} (h : q.Matches (s.drop n)) : q.Matches s := by
  obtain ⟨u, w, v, same, hw⟩ := h
  refine ⟨s.take n ++ u, w, v, ?_, hw⟩
  rw [List.append_assoc, List.append_assoc, ← List.append_assoc u, ← same, List.take_append_drop]

/-- A match is found where there is one. -/
theorem isSome_search {q : Pattern α} {s : List α} : (search q s).isSome ↔ q.Matches s := by
  induction s with
  | nil =>
    rw [search, Option.isSome_map, head?_rests]
    constructor
    · rintro ⟨w, hw, v, same⟩
      exact ⟨[], w, v, same, hw⟩
    · rintro ⟨u, w, v, same, hw⟩
      obtain ⟨same', rfl⟩ := List.append_eq_nil_iff.1 same.symm
      obtain ⟨rfl, rfl⟩ := List.append_eq_nil_iff.1 same'
      exact ⟨[], hw, [], rfl⟩
  | cons a s ih =>
    rw [matches_cons, ← head?_rests, ← ih, search]
    split
    · rename_i r found
      rw [found]
      simp
    · rename_i none_
      rw [none_]
      simp

theorem isSome_exec {q : Pattern α} {n : Nat} {s : List α} :
    (exec q n s).isSome ↔ n ≤ s.length ∧ q.Matches (s.drop n) := by
  rw [exec]
  split
  · rename_i le
    rw [Option.isSome_map, isSome_search]
    simp [le]
  · rename_i gt
    simp [gt]

theorem isSome_exec_zero {q : Pattern α} {s : List α} : (exec q 0 s).isSome ↔ q.Matches s := by
  rw [isSome_exec, List.drop_zero]
  exact and_iff_right (Nat.zero_le _)

/-- A pattern that begins with two single symbols matches no text of one symbol. -/
theorem not_matches_singleton {p p' : α → Bool} {q : Pattern α} {a : α} :
    ¬Pattern.Matches (.one p :: .one p' :: q) [a] := by
  rintro ⟨u, w, v, same, ⟨x, ⟨b, -, rfl⟩, -, ⟨y, ⟨c, -, rfl⟩, z, -, rfl⟩, rfl⟩⟩
  have := congrArg List.length same
  simp only [List.length_append, List.length_cons, List.length_nil] at this
  omega

end Pattern

end Heightt
