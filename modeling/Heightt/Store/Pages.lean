import Mathlib.Data.List.Basic

/-!
# Pages of a list of rows

What Prisma's `skip` and `take` select, and the figures of a page.
-/

namespace Heightt.Store

variable {α β : Type}

/-- `skip` and `take`: Prisma refuses a negative `skip`, and a negative `take` counts from the end. -/
def paginate (skip take : Int) (l : List α) : Option (List α) :=
  if skip < 0 then none
  else if take < 0 then some ((l.reverse.drop skip.toNat).take (-take).toNat).reverse
  else some ((l.drop skip.toNat).take take.toNat)

structure PageMeta where
  page : Int
  limit : Int
  total : Nat
  /-- A division by zero is no number. -/
  totalPages : Option Int
  deriving DecidableEq

theorem paginate_map (skip take : Int) (f : α → β) (l : List α) :
    paginate skip take (l.map f) = (paginate skip take l).map (List.map f) := by
  unfold paginate
  split
  · rfl
  split <;> simp [← List.map_reverse, ← List.map_drop, ← List.map_take]

/-- A page shows rows of the list only. -/
theorem mem_of_paginate {skip take : Int} {l page : List α} (h : paginate skip take l = some page)
    {a : α} (ha : a ∈ page) : a ∈ l := by
  unfold paginate at h
  split at h
  · cases h
  split at h <;> cases h
  · exact List.mem_reverse.1 (List.mem_of_mem_drop (List.mem_of_mem_take (List.mem_reverse.1 ha)))
  · exact List.mem_of_mem_drop (List.mem_of_mem_take ha)

end Heightt.Store
