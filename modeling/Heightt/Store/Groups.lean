import Mathlib.Algebra.BigOperators.Group.List.Basic
import Mathlib.Algebra.Order.Ring.Int
import Mathlib.Data.List.Dedup

/-!
# Sums over groups of rows

Rows grouped by a key, and the sum of an amount over each group. The sums over some of the groups
are the sum over the rows of these.
-/

namespace Heightt.Store

section

variable {α κ : Type} [DecidableEq κ]

def sumOf (amount : α → Int) (rows : List α) : Int := (rows.map amount).sum

def group (key : α → κ) (rows : List α) (k : κ) : List α := rows.filter fun r => key r = k

/-- `GROUP BY key`, with the sum of each group. -/
def groupSums (key : α → κ) (amount : α → Int) (rows : List α) (keys : List κ) : List (κ × Int) :=
  keys.map fun k => (k, sumOf amount (group key rows k))

theorem sumOf_append (amount : α → Int) (rows rows' : List α) :
    sumOf amount (rows ++ rows') = sumOf amount rows + sumOf amount rows' := by
  rw [sumOf, List.map_append, List.sum_append]
  rfl

theorem sumOf_filter_add (amount : α → Int) (p : α → Bool) (rows : List α) :
    sumOf amount (rows.filter p) + sumOf amount (rows.filter fun r => !p r) = sumOf amount rows := by
  unfold sumOf
  rw [← List.sum_append, ← List.map_append]
  exact ((List.filter_append_perm p rows).map amount).sum_eq

/-- By induction on the keys: the rows of the first are not among the rows of the others. -/
theorem sum_groupSums (key : α → κ) (amount : α → Int) (rows : List α) {keys : List κ} (nodup : keys.Nodup) :
    ((groupSums key amount rows keys).map Prod.snd).sum = sumOf amount (rows.filter fun r => key r ∈ keys) := by
  induction keys with
  | nil => simp [groupSums, sumOf]
  | cons k keys ih =>
    obtain ⟨new, nodup⟩ := List.nodup_cons.1 nodup
    have rest := sumOf_filter_add amount (fun r => key r = k) (rows.filter fun r => key r ∈ k :: keys)
    rw [List.filter_filter, List.filter_filter] at rest
    have first : (rows.filter fun r => decide (key r = k) && decide (key r ∈ k :: keys)) = group key rows k := by
      refine List.filter_congr fun r _ => ?_
      rw [Bool.eq_iff_iff]
      simp +contextual
    have others : (rows.filter fun r => !decide (key r = k) && decide (key r ∈ k :: keys)) =
        rows.filter fun r => key r ∈ keys := by
      refine List.filter_congr fun r _ => ?_
      rw [Bool.eq_iff_iff]
      by_cases same : key r = k
      · simp [same, new]
      · simp [same]
    rw [first, others] at rest
    rw [groupSums, List.map_cons, List.map_cons, List.sum_cons, ← rest, ← ih nodup]
    rfl

theorem sum_groupSums_all (key : α → κ) (amount : α → Int) (rows : List α) :
    ((groupSums key amount rows (rows.map key).dedup).map Prod.snd).sum = sumOf amount rows := by
  rw [sum_groupSums key amount rows (List.nodup_dedup _), List.filter_eq_self.2]
  intro r hr
  exact decide_eq_true (List.mem_dedup.2 (List.mem_map_of_mem hr))

end

end Heightt.Store
