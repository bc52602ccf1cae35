import Mathlib.Data.List.Nodup
import Mathlib.Algebra.BigOperators.Group.List.Basic
import Mathlib.Algebra.Order.Ring.Int
import Mathlib.Tactic.Abel

/-!
# Tables with a primary key

A table is the list of its rows in insertion order, together with the fact that
no key occurs twice. Every operation keeps that fact, so a lookup by key, an
update of one row and a sum over the table can be related without a side
condition on the table.
-/

namespace Heightt.Store

/-- Rows with pairwise distinct primary keys. -/
structure Table (α κ : Type) (key : α → κ) where
  rows : List α
  nodup : (rows.map key).Nodup

namespace Table

variable {α κ : Type} {key : α → κ} [DecidableEq κ]

/-- The table without rows. -/
def empty : Table α κ key := ⟨[], List.nodup_nil⟩

instance : Inhabited (Table α κ key) := ⟨empty⟩

/-- The row with key `k`. -/
def find (t : Table α κ key) (k : κ) : Option α := t.rows.find? fun r => key r = k

/-- The first row, in table order, that satisfies `p`. -/
def findFirst (t : Table α κ key) (p : α → Bool) : Option α := t.rows.find? p

/-- Append a row; a row whose key is taken is not added. -/
def insert (t : Table α κ key) (r : α) : Table α κ key :=
  if h : key r ∈ t.rows.map key then t
  else ⟨t.rows ++ [r], by
    rw [List.map_append, List.nodup_append]
    refine ⟨t.nodup, List.nodup_singleton _, fun a ha b hb => ?_⟩
    rw [List.map_singleton, List.mem_singleton] at hb
    exact fun e => h (hb ▸ e ▸ ha)⟩

/-- Change every row by a function that keeps its key. -/
def mapRows (t : Table α κ key) (f : α → α) (hf : ∀ r, key (f r) = key r) : Table α κ key :=
  ⟨t.rows.map f, by
    rw [List.map_map, show key ∘ f = key from funext hf]
    exact t.nodup⟩

/-- Change the row with key `k`, if there is one. -/
def modify (t : Table α κ key) (k : κ) (f : α → α) (hf : ∀ r, key (f r) = key r) : Table α κ key :=
  t.mapRows (fun r => if key r = k then f r else r) fun r => by split <;> simp [hf]

/-- Delete the row with key `k`, if there is one. -/
def erase (t : Table α κ key) (k : κ) : Table α κ key :=
  ⟨t.rows.filter fun r => key r ≠ k, (t.nodup.sublist (List.filter_sublist.map key))⟩

/-- Delete the rows that `p` does not keep. -/
def filter (t : Table α κ key) (p : α → Bool) : Table α κ key :=
  ⟨t.rows.filter p, t.nodup.sublist (List.filter_sublist.map key)⟩

/-- The sum of `g` over all rows. -/
def sum (t : Table α κ key) (g : α → Int) : Int := (t.rows.map g).sum

theorem find_key {t : Table α κ key} {k : κ} {r : α} (h : t.find k = some r) : key r = k := by
  simpa using List.find?_some h

theorem find_mem {t : Table α κ key} {k : κ} {r : α} (h : t.find k = some r) : r ∈ t.rows :=
  List.mem_of_find?_eq_some h

theorem find_eq_none {t : Table α κ key} {k : κ} : t.find k = none ↔ k ∉ t.rows.map key := by
  simp [find, List.find?_eq_none]

private theorem find?_of_mem {l : List α} (nodup : (l.map key).Nodup) {r : α} (h : r ∈ l) :
    l.find? (fun s => key s = key r) = some r := by
  induction l with
  | nil => cases h
  | cons s l ih =>
    rw [List.map_cons, List.nodup_cons] at nodup
    rcases List.mem_cons.1 h with rfl | h
    · simp
    · have hne : key s ≠ key r := fun e => nodup.1 (e ▸ List.mem_map_of_mem h)
      rw [List.find?_cons_of_neg (by simpa using hne)]
      exact ih nodup.2 h

/-- A row of the table is what its key looks up. -/
theorem find_of_mem {t : Table α κ key} {r : α} (h : r ∈ t.rows) : t.find (key r) = some r :=
  find?_of_mem t.nodup h

theorem mem_iff_find {t : Table α κ key} {r : α} : r ∈ t.rows ↔ t.find (key r) = some r :=
  ⟨find_of_mem, find_mem⟩

theorem find_eq_some {t : Table α κ key} {k : κ} {r : α} : t.find k = some r ↔ r ∈ t.rows ∧ key r = k := by
  refine ⟨fun h => ⟨find_mem h, find_key h⟩, ?_⟩
  rintro ⟨mem, rfl⟩
  exact find_of_mem mem

/-- Among the rows that `p` keeps, a key finds the row it finds, if `p` keeps that. -/
theorem find_filter (t : Table α κ key) (p : α → Bool) (k : κ) :
    (t.filter p).find k = (t.find k).filter p := by
  refine Option.ext fun r => ?_
  rw [find_eq_some, Option.filter_eq_some_iff, find_eq_some]
  show r ∈ t.rows.filter p ∧ key r = k ↔ _
  rw [List.mem_filter]
  tauto

/-- A row is determined by its key. -/
theorem eq_of_key {t : Table α κ key} {r s : α} (hr : r ∈ t.rows) (hs : s ∈ t.rows) (h : key r = key s) :
    r = s := by
  have found := find_of_mem hr
  rw [h, find_of_mem hs] at found
  exact (Option.some.inj found).symm

@[simp] theorem find_empty (k : κ) : (empty : Table α κ key).find k = none := rfl

omit [DecidableEq κ] in
@[simp] theorem sum_empty (g : α → Int) : (empty : Table α κ key).sum g = 0 := rfl

theorem insert_rows {t : Table α κ key} {r : α} (h : t.find (key r) = none) :
    (t.insert r).rows = t.rows ++ [r] := by
  rw [insert, dif_neg (find_eq_none.1 h)]

theorem find_insert {t : Table α κ key} {r : α} (h : t.find (key r) = none) (k : κ) :
    (t.insert r).find k = if key r = k then some r else t.find k := by
  rw [find, insert_rows h, List.find?_append]
  by_cases hk : key r = k
  · subst hk
    rw [show List.find? (fun s => decide (key s = key r)) t.rows = none from h]
    simp
  · cases hf : t.rows.find? (fun s => key s = k) <;> simp [find, hk, hf]

theorem sum_insert {t : Table α κ key} {r : α} (h : t.find (key r) = none) (g : α → Int) :
    (t.insert r).sum g = t.sum g + g r := by
  simp [sum, insert_rows h]

theorem find_mapRows (t : Table α κ key) (f : α → α) (hf : ∀ r, key (f r) = key r) (k : κ) :
    (t.mapRows f hf).find k = (t.find k).map f := by
  simp [find, mapRows, List.find?_map, Function.comp_def, hf]

theorem find_modify (t : Table α κ key) (k : κ) (f : α → α) (hf : ∀ r, key (f r) = key r) (j : κ) :
    (t.modify k f hf).find j = if j = k then (t.find j).map f else t.find j := by
  rw [modify, find_mapRows]
  cases h : t.find j with
  | none => simp
  | some r =>
    have := find_key h
    subst this
    split <;> simp_all

/-- Changes that commute can be made in either order. -/
theorem modify_mapRows (t : Table α κ key) {f g : α → α} (hf : ∀ r, key (f r) = key r)
    (hg : ∀ r, key (g r) = key r) (comm : ∀ r, g (f r) = f (g r)) (k : κ) :
    (t.mapRows f hf).modify k g hg = (t.modify k g hg).mapRows f hf := by
  unfold modify mapRows
  simp only [List.map_map, mk.injEq]
  refine List.map_congr_left fun r _ => ?_
  rw [Function.comp_apply, Function.comp_apply, hf]
  split
  · exact comm r
  · rfl

@[simp] theorem find_modify_self (t : Table α κ key) (k : κ) (f : α → α)
    (hf : ∀ r, key (f r) = key r) : (t.modify k f hf).find k = (t.find k).map f := by
  rw [find_modify, if_pos rfl]

theorem find_modify_ne {t : Table α κ key} {k j : κ} (h : j ≠ k) (f : α → α)
    (hf : ∀ r, key (f r) = key r) : (t.modify k f hf).find j = t.find j := by
  rw [find_modify, if_neg h]

theorem isSome_find_modify (t : Table α κ key) (k : κ) (f : α → α) (hf : ∀ r, key (f r) = key r)
    (j : κ) : ((t.modify k f hf).find j).isSome = (t.find j).isSome := by
  rw [find_modify]
  split
  · exact Option.isSome_map
  · rfl

theorem modify_rows (t : Table α κ key) (k : κ) (f : α → α) (hf : ∀ r, key (f r) = key r) :
    (t.modify k f hf).rows = t.rows.map fun r => if key r = k then f r else r := rfl

/-- A change of one row that `p` does not notice. -/
theorem findFirst_modify (t : Table α κ key) (k : κ) (f : α → α) (hf : ∀ r, key (f r) = key r)
    {p : α → Bool} (hp : ∀ r, p (f r) = p r) :
    (t.modify k f hf).findFirst p = (t.findFirst p).map fun r => if key r = k then f r else r := by
  rw [findFirst, modify_rows, List.find?_map]
  refine congrArg (Option.map _) (congrArg (fun q => t.rows.find? q) (funext fun r => ?_))
  by_cases h : key r = k
  · rw [Function.comp_apply, if_pos h, hp]
  · rw [Function.comp_apply, if_neg h]

theorem findFirst_insert {t : Table α κ key} {r : α} (h : t.find (key r) = none) (p : α → Bool) :
    (t.insert r).findFirst p = (t.findFirst p).or (if p r then some r else none) := by
  rw [findFirst, insert_rows h, List.find?_append, List.find?_singleton]
  rfl

theorem find_erase (t : Table α κ key) (k j : κ) :
    (t.erase k).find j = if j = k then none else t.find j := by
  rw [find, erase, List.find?_filter]
  split
  · subst j
    exact List.find?_eq_none.2 fun r _ => by simp
  · rename_i hne
    refine congrArg (fun p => t.rows.find? p) (funext fun r => ?_)
    by_cases h : key r = j
    · simp [h, hne]
    · simp [h]

omit [DecidableEq κ] in
/-- A change of rows that keeps `g` of each keeps its sum. -/
theorem sum_mapRows_of_eq (t : Table α κ key) (f : α → α) (hf : ∀ r, key (f r) = key r)
    {g : α → Int} (hg : ∀ r ∈ t.rows, g (f r) = g r) : (t.mapRows f hf).sum g = t.sum g := by
  simp only [sum, mapRows, List.map_map]
  exact congrArg List.sum (List.map_congr_left hg)

theorem sum_modify_of_eq (t : Table α κ key) (k : κ) (f : α → α) (hf : ∀ r, key (f r) = key r)
    {g : α → Int} (hg : ∀ r, g (f r) = g r) : (t.modify k f hf).sum g = t.sum g := by
  refine sum_mapRows_of_eq t _ _ fun r _ => ?_
  split
  · exact hg r
  · rfl

private theorem sum_map_update {M : Type} [AddCommGroup M] {l : List α} (nodup : (l.map key).Nodup)
    {r : α} (hr : r ∈ l) (f : α → α) (g : α → M) :
    ((l.map fun s => if key s = key r then f s else s).map g).sum =
      (l.map g).sum + (g (f r) - g r) := by
  induction l with
  | nil => cases hr
  | cons s l ih =>
    rw [List.map_cons, List.nodup_cons] at nodup
    simp only [List.map_cons, List.sum_cons]
    rcases List.mem_cons.1 hr with rfl | hr
    · have rest : (l.map fun s => if key s = key r then f s else s) = l := by
        refine (List.map_congr_left fun s hs => if_neg fun e => nodup.1 ?_).trans (List.map_id' l)
        exact e ▸ List.mem_map_of_mem hs
      rw [rest, if_pos rfl]
      abel
    · have hne : key s ≠ key r := fun e => nodup.1 (e ▸ List.mem_map_of_mem hr)
      rw [if_neg hne, ih nodup.2 hr]
      abel

/-- Changing one row moves a sum over the rows by that row's difference. -/
theorem sum_map_modify {M : Type} [AddCommGroup M] {t : Table α κ key} {k : κ} {r : α}
    (h : t.find k = some r) (f : α → α) (hf : ∀ r, key (f r) = key r) (g : α → M) :
    ((t.modify k f hf).rows.map g).sum = (t.rows.map g).sum + (g (f r) - g r) := by
  have hk := find_key h
  subst hk
  exact sum_map_update t.nodup (find_mem h) f g

/-- Changing one row moves the sum by that row's difference. -/
theorem sum_modify {t : Table α κ key} {k : κ} {r : α} (h : t.find k = some r) (f : α → α)
    (hf : ∀ r, key (f r) = key r) (g : α → Int) :
    (t.modify k f hf).sum g = t.sum g + (g (f r) - g r) :=
  sum_map_modify h f hf g

/-! What holds of every row. -/

section Rows

variable {t : Table α κ key} {C : α → Prop}

theorem forall_insert (h : ∀ r ∈ t.rows, C r) {s : α} (hs : C s) : ∀ r ∈ (t.insert s).rows, C r := by
  intro r mem
  by_cases taken : key s ∈ t.rows.map key
  · rw [insert, dif_pos taken] at mem
    exact h r mem
  · rw [insert, dif_neg taken] at mem
    obtain mem | mem := List.mem_append.1 mem
    · exact h r mem
    · rw [List.mem_singleton.1 mem]
      exact hs

omit [DecidableEq κ] in
theorem forall_mapRows {f : α → α} (hf : ∀ r, key (f r) = key r) (h : ∀ r ∈ t.rows, C (f r)) :
    ∀ r ∈ (t.mapRows f hf).rows, C r := by
  intro r mem
  obtain ⟨s, hs, rfl⟩ := List.mem_map.1 mem
  exact h s hs

theorem forall_modify {k : κ} {f : α → α} (hf : ∀ r, key (f r) = key r) (h : ∀ r ∈ t.rows, C r)
    (hk : ∀ r, t.find k = some r → C (f r)) : ∀ r ∈ (t.modify k f hf).rows, C r := by
  refine forall_mapRows _ fun r mem => ?_
  split
  · rename_i same
    exact hk r (same ▸ find_of_mem mem)
  · exact h r mem

end Rows

/-- No two rows have the same value of `f`, where they have one. -/
def UniqueBy (t : Table α κ key) {β : Type} (f : α → Option β) : Prop :=
  ∀ r ∈ t.rows, ∀ s ∈ t.rows, ∀ b, f r = some b → f s = some b → key r = key s

omit [DecidableEq κ] in
theorem uniqueBy_iff {t : Table α κ key} {β : Type} {f : α → Option β} :
    t.UniqueBy f ↔ ∀ r ∈ t.rows, ∀ s ∈ t.rows, (f r).isSome → f s = f r → key r = key s := by
  constructor
  · intro h r hr s hs some same
    obtain ⟨b, hb⟩ := Option.isSome_iff_exists.1 some
    exact h r hr s hs b hb (same.trans hb)
  · intro h r hr s hs b hb hb'
    exact h r hr s hs (Option.isSome_iff_exists.2 ⟨b, hb⟩) (hb'.trans hb.symm)

instance {t : Table α κ key} {β : Type} [DecidableEq β] {f : α → Option β} : Decidable (t.UniqueBy f) :=
  decidable_of_iff _ uniqueBy_iff.symm

namespace UniqueBy

variable {β : Type} {t : Table α κ key} {f : α → Option β}

theorem insert (h : t.UniqueBy f) {a : α} (free : ∀ b, f a = some b → ∀ r ∈ t.rows, f r ≠ some b) :
    (t.insert a).UniqueBy f := by
  by_cases taken : key a ∈ t.rows.map key
  · rw [Table.insert, dif_pos taken]
    exact h
  · rw [Table.insert, dif_neg taken]
    intro r hr s hs b hb hb'
    obtain hr | hr := List.mem_append.1 hr
    · obtain hs | hs := List.mem_append.1 hs
      · exact h r hr s hs b hb hb'
      · rw [List.mem_singleton.1 hs] at hb'
        exact absurd hb (free b hb' r hr)
    · obtain rfl := List.mem_singleton.1 hr
      obtain hs | hs := List.mem_append.1 hs
      · exact absurd hb' (free b hb s hs)
      · rw [List.mem_singleton.1 hs]

/-- The changed row has a value that no other one has. -/
theorem modify (h : t.UniqueBy f) {k : κ} {g : α → α} (hg : ∀ r, key (g r) = key r)
    (free : ∀ r, t.find k = some r → ∀ b, f (g r) = some b → ∀ s ∈ t.rows, key s ≠ k → f s ≠ some b) :
    (t.modify k g hg).UniqueBy f := by
  intro r hr s hs b hb hb'
  obtain ⟨r₀, hr₀, rfl⟩ := List.mem_map.1 hr
  obtain ⟨s₀, hs₀, rfl⟩ := List.mem_map.1 hs
  by_cases own : key r₀ = k
  · by_cases own' : key s₀ = k
    · rw [if_pos own, if_pos own', hg, hg, own, own']
    · rw [if_pos own] at hb
      rw [if_neg own'] at hb'
      exact absurd hb' (free r₀ (own ▸ find_of_mem hr₀) b hb s₀ hs₀ own')
  · by_cases own' : key s₀ = k
    · rw [if_neg own] at hb
      rw [if_pos own'] at hb'
      exact absurd hb (free s₀ (own' ▸ find_of_mem hs₀) b hb' r₀ hr₀ own)
    · rw [if_neg own] at hb ⊢
      rw [if_neg own'] at hb' ⊢
      exact h r₀ hr₀ s₀ hs₀ b hb hb'

/-- The value of the changed row stays. -/
theorem modify_same (h : t.UniqueBy f) {k : κ} {g : α → α} (hg : ∀ r, key (g r) = key r)
    (same : ∀ r, f (g r) = f r) : (t.modify k g hg).UniqueBy f := by
  refine h.modify hg fun r found b hb s hs other taken => ?_
  rw [same] at hb
  exact other ((h s hs r (find_mem found) b taken hb).trans (find_key found))

end UniqueBy

/-- Every row of `t` is still in `t'`, changed only as `R` allows. -/
def Grows (R : α → α → Prop) (t t' : Table α κ key) : Prop :=
  ∀ k r, t.find k = some r → ∃ r', t'.find k = some r' ∧ R r r'

section Grows

variable {R : α → α → Prop} {t t' t'' : Table α κ key}

theorem Grows.refl (hR : ∀ r, R r r) (t : Table α κ key) : Grows R t t := fun _ r h => ⟨r, h, hR r⟩

theorem Grows.trans (hR : ∀ {a b c}, R a b → R b c → R a c) (h : Grows R t t') (h' : Grows R t' t'') :
    Grows R t t'' := by
  intro k r hr
  obtain ⟨r', hr', hRr⟩ := h k r hr
  obtain ⟨r'', hr'', hRr'⟩ := h' k r' hr'
  exact ⟨r'', hr'', hR hRr hRr'⟩

theorem grows_insert (hR : ∀ r, R r r) (t : Table α κ key) (s : α) : Grows R t (t.insert s) := by
  intro k r hr
  by_cases free : t.find (key s) = none
  · refine ⟨r, ?_, hR r⟩
    rw [find_insert free, if_neg, hr]
    rintro rfl
    rw [free] at hr
    cases hr
  · rw [find_eq_none, not_not] at free
    rw [insert, dif_pos free]
    exact ⟨r, hr, hR r⟩

theorem grows_mapRows {f : α → α} (hf : ∀ r, key (f r) = key r) (hR : ∀ r ∈ t.rows, R r (f r)) :
    Grows R t (t.mapRows f hf) := by
  intro k r hr
  refine ⟨f r, ?_, hR r (find_mem hr)⟩
  rw [find_mapRows, hr]
  rfl

theorem grows_modify {k : κ} {f : α → α} (hf : ∀ r, key (f r) = key r) (hR : ∀ r, R r r)
    (hRf : ∀ r, t.find k = some r → R r (f r)) : Grows R t (t.modify k f hf) := by
  refine grows_mapRows _ fun r hr => ?_
  split
  · rename_i hk
    exact hRf r (hk ▸ find_of_mem hr)
  · exact hR r

end Grows

end Table

end Heightt.Store
