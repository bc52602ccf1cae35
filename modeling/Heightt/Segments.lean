import Mathlib.Data.List.Basic

/-!
# Texts joined by a separator

A text is taken apart at every separator and joined again. What was joined comes apart the same
way if no segment but the last contains the separator.
-/

namespace Heightt.Segments

variable {sep : Char}

/-- The words of a list with the separator between them. -/
def joined (sep : Char) : List String → String
  | [] => ""
  | [w] => w
  | w :: v :: ws => w ++ String.singleton sep ++ joined sep (v :: ws)

/-- The parts of a text between its separators. -/
def segments (sep : Char) (t : String) : List String := (t.toList.splitOn sep).map String.ofList

theorem toList_joined (ws : List String) :
    (joined sep ws).toList = [sep].intercalate (ws.map String.toList) := by
  fun_induction joined sep ws with
  | case1 => rfl
  | case2 w => simp
  | case3 w v ws ih =>
    rw [String.toList_append, String.toList_append, String.toList_singleton, ih]
    simp

@[simp] theorem joined_segments (t : String) : joined sep (segments sep t) = t := by
  apply String.toList_injective
  rw [toList_joined, segments, List.map_map, show String.toList ∘ String.ofList = id by ext; simp, List.map_id,
    List.intercalate_splitOn]

theorem segments_ne_nil (t : String) : segments sep t ≠ [] := by
  rw [segments, Ne, List.map_eq_nil_iff]
  exact List.splitOn_ne_nil sep t.toList

theorem segments_eq_cons (sep : Char) (t : String) :
    ∃ v vs, segments sep t = v :: vs ∧ joined sep (v :: vs) = t := by
  obtain ⟨v, vs, eq⟩ := List.exists_cons_of_ne_nil (segments_ne_nil t)
  exact ⟨v, vs, eq, by rw [← eq, joined_segments]⟩

/-- A text without the separator is its only segment. -/
theorem segments_of_notMem {t : String} (h : sep ∉ t.toList) : segments sep t = [t] := by
  rw [segments, List.splitOn_eq_singleton h]
  simp

theorem segments_append {w : String} (h : sep ∉ w.toList) (t : String) :
    segments sep (w ++ String.singleton sep ++ t) = w :: segments sep t := by
  have apart : (w ++ String.singleton sep ++ t).toList = w.toList ++ sep :: t.toList := by simp
  rw [segments, apart, List.splitOn_append_cons_self_of_not_mem h]
  simp [segments]

/-- **Joined words come apart again.** Only the last may contain the separator. -/
theorem segments_joined {ws : List String} (h : ∀ w ∈ ws, sep ∉ w.toList) (t : String) :
    segments sep (joined sep (ws ++ [t])) = ws ++ segments sep t := by
  induction ws with
  | nil => rfl
  | cons w ws ih =>
    obtain ⟨clear, rest⟩ := List.forall_mem_cons.1 h
    obtain ⟨v, vs, eq⟩ := List.exists_cons_of_ne_nil (List.append_ne_nil_of_right_ne_nil ws (List.cons_ne_nil t []))
    rw [List.cons_append, List.cons_append, ← ih rest, eq, joined, segments_append clear]

/-! ## Parts of a list -/

section Parts

variable {α : Type} {p : α → Bool} {s c : List α}

/-- A part without separators, between two separators or the ends. -/
structure IsPart (p : α → Bool) (s c : List α) : Prop where
  clear : ∀ a ∈ c, p a = false
  between : ∃ u v, s = u ++ c ++ v ∧ (u = [] ∨ ∃ u' a, p a = true ∧ u = u' ++ [a]) ∧
    (v = [] ∨ ∃ a v', p a = true ∧ v = a :: v')

/-- A list has no separator or a first one. -/
theorem first_separator (p : α → Bool) (s : List α) :
    (∀ a ∈ s, p a = false) ∨ ∃ u a v, s = u ++ a :: v ∧ (∀ b ∈ u, p b = false) ∧ p a = true := by
  induction s with
  | nil => exact .inl fun a ha => absurd ha List.not_mem_nil
  | cons b s ih =>
    cases hb : p b with
    | true => exact .inr ⟨[], b, s, rfl, fun a ha => absurd ha List.not_mem_nil, hb⟩
    | false =>
      obtain clear | ⟨u, a, v, rfl, clear, ha⟩ := ih
      · exact .inl (List.forall_mem_cons.2 ⟨hb, clear⟩)
      · exact .inr ⟨b :: u, a, v, rfl, List.forall_mem_cons.2 ⟨hb, clear⟩, ha⟩

theorem IsPart.of_mem_splitOnP {s : List α} (h : c ∈ s.splitOnP p) : IsPart p s c := by
  obtain clear | ⟨u, a, v, rfl, clear, ha⟩ := first_separator p s
  · rw [List.splitOnP_eq_singleton clear, List.mem_singleton] at h
    rw [h]
    exact ⟨clear, [], [], by simp, .inl rfl, .inl rfl⟩
  · rw [List.splitOnP_append_cons_of_forall_mem clear a ha] at h
    obtain rfl | h := List.mem_cons.1 h
    · exact ⟨clear, [], a :: v, rfl, .inl rfl, .inr ⟨a, v, ha, rfl⟩⟩
    · obtain ⟨clear', u', v', rfl, before, after⟩ := IsPart.of_mem_splitOnP h
      refine ⟨clear', u ++ a :: u', v', by simp, .inr ?_, after⟩
      obtain rfl | ⟨u'', b, hb, rfl⟩ := before
      · exact ⟨u, a, ha, rfl⟩
      · exact ⟨u ++ a :: u'', b, hb, by simp⟩
termination_by s.length

/-- Splitting a list gives its parts. -/
theorem mem_splitOnP : c ∈ s.splitOnP p ↔ IsPart p s c := by
  refine ⟨IsPart.of_mem_splitOnP, ?_⟩
  rintro ⟨clear, u, v, rfl, before, after⟩
  have last : c ∈ (c ++ v).splitOnP p := by
    obtain rfl | ⟨a, v', ha, rfl⟩ := after
    · rw [List.append_nil, List.splitOnP_eq_singleton clear]
      exact List.mem_singleton_self c
    · rw [List.splitOnP_append_cons_of_forall_mem clear a ha]
      exact List.mem_cons_self
  obtain rfl | ⟨u', a, ha, rfl⟩ := before
  · exact last
  · rw [List.append_assoc, List.append_assoc, List.singleton_append, List.splitOnP_append_cons u' _ ha]
    exact List.mem_append_right _ last

end Parts

end Heightt.Segments
