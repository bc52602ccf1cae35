import Mathlib.Data.List.Nodup

/-!
# Adding what is missing

Rows are added one after the other, each unless its key is taken by then. Afterwards every key is there, no key
has become one of two rows, and adding rows with the same keys once more adds none.
-/

namespace Heightt.Store

variable {α κ : Type} [DecidableEq κ] (key : α → κ)

/-- The elements that are added to `rows` in turn, each unless its key is taken. -/
def added (rows : List α) : List α → List α
  | [] => []
  | a :: as => if key a ∈ rows.map key then added rows as else a :: added (rows ++ [a]) as

variable {key} {rows as : List α} {a : α}

theorem added_taken (h : key a ∈ rows.map key) : added key rows (a :: as) = added key rows as := if_pos h

theorem added_free (h : key a ∉ rows.map key) : added key rows (a :: as) = a :: added key (rows ++ [a]) as := if_neg h

theorem added_append (as bs : List α) :
    added key rows (as ++ bs) = added key rows as ++ added key (rows ++ added key rows as) bs := by
  induction as generalizing rows with
  | nil => simp [added]
  | cons a as ih =>
    rw [List.cons_append]
    by_cases taken : key a ∈ rows.map key
    · rw [added_taken taken, added_taken taken]
      exact ih
    · rw [added_free taken, added_free taken, ih, List.cons_append, List.append_assoc]
      rfl

theorem mem_added (h : a ∈ added key rows as) : a ∈ as ∧ key a ∉ rows.map key := by
  induction as generalizing rows with
  | nil => cases h
  | cons b as ih =>
    by_cases taken : key b ∈ rows.map key
    · rw [added_taken taken] at h
      obtain ⟨mem, free⟩ := ih h
      exact ⟨List.mem_cons_of_mem b mem, free⟩
    · rw [added_free taken] at h
      obtain rfl | h := List.mem_cons.1 h
      · exact ⟨List.mem_cons_self, taken⟩
      · obtain ⟨mem, free⟩ := ih h
        refine ⟨List.mem_cons_of_mem b mem, fun here => free ?_⟩
        rw [List.map_append]
        exact List.mem_append_left _ here

theorem key_mem_added (h : a ∈ as) : key a ∈ (rows ++ added key rows as).map key := by
  induction as generalizing rows with
  | nil => cases h
  | cons b as ih =>
    by_cases taken : key b ∈ rows.map key
    · rw [added_taken taken]
      obtain rfl | h := List.mem_cons.1 h
      · rw [List.map_append]
        exact List.mem_append_left _ taken
      · exact ih h
    · rw [added_free taken]
      obtain rfl | h := List.mem_cons.1 h
      · exact List.mem_map_of_mem (List.mem_append_right _ List.mem_cons_self)
      · have later : key a ∈ (rows ++ [b] ++ added key (rows ++ [b]) as).map key := ih h
        rwa [List.append_assoc] at later

theorem added_eq_nil (h : ∀ a ∈ as, key a ∈ rows.map key) : added key rows as = [] := by
  induction as with
  | nil => rfl
  | cons a as ih =>
    rw [added_taken (h a List.mem_cons_self)]
    exact ih fun b hb => h b (List.mem_cons_of_mem a hb)

theorem nodup_added (nodup : (rows.map key).Nodup) : ((rows ++ added key rows as).map key).Nodup := by
  induction as generalizing rows with
  | nil =>
    rw [added, List.append_nil]
    exact nodup
  | cons a as ih =>
    by_cases taken : key a ∈ rows.map key
    · rw [added_taken taken]
      exact ih nodup
    · rw [added_free taken]
      have one : ((rows ++ [a]).map key).Nodup := by
        rw [List.map_append, List.nodup_append]
        refine ⟨nodup, List.nodup_singleton _, fun k hk k' hk' same => ?_⟩
        rw [List.map_singleton, List.mem_singleton] at hk'
        rw [same, hk'] at hk
        exact taken hk
      have later : ((rows ++ [a] ++ added key (rows ++ [a]) as).map key).Nodup := ih one
      rwa [List.append_assoc] at later

end Heightt.Store
