import Heightt.Search.Service
import Mathlib.Algebra.BigOperators.Intervals
import Mathlib.Algebra.Order.BigOperators.Group.Finset
import Mathlib.Data.List.Perm.Basic

/-!
# Pages of a search

`search` skips the earlier pages twice: each entity's query does, and the combined results are cut
once more. So the pages list everything only where one page holds it.
-/

namespace Heightt.Search

section

variable {locale : Locale} {db : Tables} {dto : SearchQueryDto}

/-- The results of the rows of a type that match, all of them. -/
def matching (locale : Locale) (db : Tables) (dto : SearchQueryDto) (type : SearchEntityType) : List SearchResult :=
  (searchEntity locale db dto 1 (searchEntity locale db dto 1 0 type).total type).data

/-- How the pages of a search would list its matches. -/
structure Paginates (pages : List (List SearchResult)) (matches_ : List SearchResult) (limit : Nat) : Prop where
  once : pages.flatten.Perm matches_
  full : ∀ (k : Nat) (page : List SearchResult), pages[k]? = some page → k + 1 < pages.length → page.length = limit

/-- A search cuts its window out of the matches. -/
theorem searchEntity_eq (page limit : Nat) (type : SearchEntityType) : searchEntity locale db dto page limit type =
    ⟨((matching locale db dto type).drop ((page - 1) * limit)).take limit, (matching locale db dto type).length⟩ := by
  have cut {α : Type} (rows : List α) (keep : α → Bool) (result : α → SearchResult) :
      paged rows keep result page limit =
        ⟨((paged rows keep result 1 (paged rows keep result 1 0).total).data.drop ((page - 1) * limit)).take limit,
          (paged rows keep result 1 (paged rows keep result 1 0).total).data.length⟩ := by
    simp [paged, List.map_drop]
  cases type <;> first | exact cut _ _ _ | simp [searchEntity, matching]

/-- The pages `1..totalPages`, where the searches of each page end in an order of their own. -/
def pages (locale : Locale) (db : Tables) (dto : SearchQueryDto) (arrival : Nat → List SearchEntityType) :
    List (List SearchResult) :=
  (List.range (search locale db dto (arrival 0)).totalPages).map fun k =>
    (search locale db { dto with page := some (k + 1) } (arrival (k + 1))).data

def total (locale : Locale) (db : Tables) (dto : SearchQueryDto) : Nat :=
  ((entityTypes dto).map fun type => (matching locale db dto type).length).sum

/-! ## How long the pages are -/

theorem sorted_perm (locale : Locale) (dto : SearchQueryDto) (results : List SearchResult) : (sorted locale dto results).Perm results := by
  unfold sorted
  split
  · exact List.mergeSort_perm _ _
  · exact List.mergeSort_perm _ _
  · exact .refl _
  · exact .refl _

/-- The matches on the `k`-th window of each type. -/
def window (locale : Locale) (db : Tables) (dto : SearchQueryDto) (k : Nat) : Nat :=
  ((entityTypes dto).map fun type => min ((matching locale db dto type).length - k * dto.pageSize) dto.pageSize).sum

theorem matching_page (page : Option Nat) : matching locale db { dto with page } = matching locale db dto := rfl

theorem data_eq (page : Nat) (arrival : List SearchEntityType) :
    (search locale db { dto with page := some (page + 1) } arrival).data =
      ((sorted locale dto (arrival.flatMap fun type =>
        ((matching locale db dto type).drop (page * dto.pageSize)).take dto.pageSize)).drop (page * dto.pageSize)).take
          dto.pageSize := by
  have cut (type : SearchEntityType) : searchEntity locale db { dto with page := some (page + 1) } (page + 1)
      dto.pageSize type = ⟨((matching locale db dto type).drop (page * dto.pageSize)).take dto.pageSize,
        (matching locale db dto type).length⟩ := searchEntity_eq (page + 1) dto.pageSize type
  show ((sorted locale dto (arrival.flatMap fun type => (searchEntity locale db { dto with page := some (page + 1) }
    (page + 1) dto.pageSize type).data)).drop (page * dto.pageSize)).take dto.pageSize = _
  simp only [cut]

/-- What is left of the combined windows after a second skip. -/
theorem length_data {arrival : List SearchEntityType} (order : arrival.Perm (entityTypes dto)) (page : Nat) :
    (search locale db { dto with page := some (page + 1) } arrival).data.length =
      min (window locale db dto page - page * dto.pageSize) dto.pageSize := by
  rw [data_eq, List.length_take, List.length_drop, (sorted_perm locale dto _).length_eq, List.length_flatMap,
    (order.map _).sum_eq, Nat.min_comm]
  simp [window, Nat.min_comm]

theorem search_total {arrival : List SearchEntityType} (order : arrival.Perm (entityTypes dto)) :
    (search locale db dto arrival).total = total locale db dto := by
  show (arrival.map fun type => (searchEntity locale db dto dto.pageNumber dto.pageSize type).total).sum = _
  rw [(order.map _).sum_eq, total]
  simp only [searchEntity_eq]

/-- Windows of a list that are long enough together are all of it. -/
theorem sum_min (n L P : Nat) : ∑ k ∈ Finset.range P, min (n - k * L) L = min n (P * L) := by
  induction P with
  | zero => simp
  | succ P ih =>
    rw [Finset.sum_range_succ, ih, Nat.succ_mul]
    omega

/-- The windows of the pages hold every match. -/
theorem sum_window {P : Nat} (enough : total locale db dto ≤ P * dto.pageSize) :
    ∑ k ∈ Finset.range P, window locale db dto k = total locale db dto := by
  unfold window total at *
  generalize entityTypes dto = types at *
  induction types with
  | nil => simp
  | cons type types ih =>
    simp only [List.map_cons, List.sum_cons] at enough ⊢
    rw [Finset.sum_add_distrib, sum_min, ih (by omega)]
    omega

theorem total_le_totalPages (positive : 1 ≤ dto.pageSize) :
    total locale db dto ≤ (total locale db dto + dto.pageSize - 1) / dto.pageSize * dto.pageSize := by
  have below := Nat.lt_div_mul_add (a := total locale db dto + dto.pageSize - 1) positive
  omega

theorem pages_eq {arrival : Nat → List SearchEntityType} (order : ∀ k, (arrival k).Perm (entityTypes dto)) :
    pages locale db dto arrival =
      (List.range ((total locale db dto + dto.pageSize - 1) / dto.pageSize)).map fun k =>
        (search locale db { dto with page := some (k + 1) } (arrival (k + 1))).data := by
  rw [pages, ← search_total (order 0)]
  rfl

/-! ## One page -/

/-- With no more matches than a page holds, the first page lists them. -/
theorem first_page {arrival : List SearchEntityType} (order : arrival.Perm (entityTypes dto))
    (few : total locale db dto ≤ dto.pageSize) :
    (search locale db { dto with page := some 1 } arrival).data.Perm ((entityTypes dto).flatMap (matching locale db dto)) := by
  have short : ∀ type ∈ arrival, (matching locale db dto type).length ≤ dto.pageSize := by
    intro type mem
    refine Nat.le_trans (List.single_le_sum (fun _ _ => Nat.zero_le _) _ ?_) few
    exact List.mem_map_of_mem (order.mem_iff.1 mem)
  have whole : (arrival.flatMap fun type => ((matching locale db dto type).drop (0 * dto.pageSize)).take dto.pageSize) =
      arrival.flatMap (matching locale db dto) := by
    refine List.flatMap_congr fun type mem => ?_
    rw [Nat.zero_mul, List.drop_zero, List.take_of_length_le (short type mem)]
  have same := sorted_perm locale dto (arrival.flatMap (matching locale db dto))
  have all := same.trans (order.flatMap_right _)
  rw [data_eq, whole, Nat.zero_mul, List.drop_zero, List.take_of_length_le]
  · exact all
  · rw [all.length_eq, List.length_flatMap]
    exact few

/-- **A search lists its matches on one page or not at all.** The pages list every match once, and all but
the last are full, just if one page holds all matches. -/
theorem search_paginates_iff (locale : Locale) (db : Tables) (dto : SearchQueryDto) (positive : 1 ≤ dto.pageSize)
    (arrival : Nat → List SearchEntityType) (order : ∀ k, (arrival k).Perm (entityTypes dto)) :
    Paginates (pages locale db dto arrival) ((entityTypes dto).flatMap (matching locale db dto)) dto.pageSize ↔
      total locale db dto ≤ dto.pageSize := by
  rw [pages_eq order]
  have enough : total locale db dto ≤ _ := total_le_totalPages positive
  generalize count : (total locale db dto + dto.pageSize - 1) / dto.pageSize = P at enough
  constructor
  · intro paginates
    have lengths := paginates.once.length_eq
    rw [List.length_flatten, List.map_map, List.length_flatMap] at lengths
    -- no page is longer than its window, and the windows have as many rows as there are matches
    have most : ∀ k ∈ Finset.range P, min (window locale db dto k - k * dto.pageSize) dto.pageSize ≤ window locale db dto k :=
      fun k _ => by omega
    have same : ∑ k ∈ Finset.range P, min (window locale db dto k - k * dto.pageSize) dto.pageSize =
        ∑ k ∈ Finset.range P, window locale db dto k := by
      rw [sum_window enough]
      refine Eq.trans ?_ lengths
      simp only [Function.comp_def, length_data (order _)]
      rfl
    have each := (Finset.sum_eq_sum_iff_of_le most).1 same
    cases P with
    | zero => omega
    | succ P =>
      have rest : ∀ k ∈ Finset.range P, window locale db dto (k + 1) = 0 := by
        intro k hk
        have whole := each (k + 1) (Finset.mem_range.2 (Nat.succ_lt_succ (Finset.mem_range.1 hk)))
        have skipped : dto.pageSize ≤ (k + 1) * dto.pageSize := Nat.le_mul_of_pos_left _ (Nat.succ_pos k)
        omega
      have first := each 0 (Finset.mem_range.2 (Nat.succ_pos P))
      have all := sum_window enough
      rw [Finset.sum_range_succ', Finset.sum_eq_zero rest] at all
      omega
  · intro few
    obtain none_ | some_ := Nat.eq_zero_or_pos (total locale db dto)
    · have empty : P = 0 := by
        rw [← count, none_]
        exact Nat.div_eq_of_lt (by omega)
      subst empty
      refine ⟨?_, by simp⟩
      rw [List.length_eq_zero_iff.1 (List.length_flatMap.trans none_)]
      exact .refl _
    · have one : P = 1 := by
        rw [← count]
        exact Nat.div_eq_of_lt_le (by omega) (by omega)
      subst one
      refine ⟨?_, fun k page _ within => absurd within (by simp)⟩
      show (List.flatten [_]).Perm _
      rw [List.flatten_singleton]
      exact first_page (order 1) few

end

def ada : UserRow := ⟨Text.units "user-1", Text.units "ada@example.com", Text.units "ada", none, none, 1⟩

def adaeze : UserRow := ⟨Text.units "user-2", Text.units "adaeze@example.com", Text.units "adaeze", none, none, 2⟩

def twoUsers : Tables where
  users := [ada, adaeze]

def usersNamedAda (limit : Nat) : SearchQueryDto where
  q := Text.units "ada"
  entityType := some .users
  limit := some limit

theorem search_paginates_iff_two :
    Paginates (pages plainLocale twoUsers (usersNamedAda 2) fun _ => [.users])
      ([SearchEntityType.users].flatMap (matching plainLocale twoUsers (usersNamedAda 2))) 2 :=
  (search_paginates_iff plainLocale twoUsers (usersNamedAda 2) (by decide) (fun _ => [.users]) fun _ => .refl _).2
    (by decide)

/-- With one result a page, the second user is on no page. -/
theorem second_page_empty : ¬∀ (locale : Locale) (db : Tables) (dto : SearchQueryDto) (arrival : Nat → List SearchEntityType),
    1 ≤ dto.pageSize → (∀ k, (arrival k).Perm (entityTypes dto)) →
      Paginates (pages locale db dto arrival) ((entityTypes dto).flatMap (matching locale db dto)) dto.pageSize := by
  intro always
  have lengths := (always plainLocale twoUsers (usersNamedAda 1) (fun _ => [.users]) (by decide) fun _ => .refl _).once.length_eq
  revert lengths
  decide

end Heightt.Search
