import Mathlib.Algebra.BigOperators.Group.List.Basic
import Mathlib.Algebra.Order.Ring.Int

/-!
# Statements on a relational state

A database state changes by statements. Each statement names the rows it locks
until its transaction ends, may be refused by a constraint, and changes every
integer column in one of four ways (`Change`). An absolute write (`set`,
`floor`) carries the figure it was computed from: the write is *fresh* when the
column still holds that figure, and a fresh write moves the column by exactly
the amount that was computed. A transaction is the list of its statements,
applied in order.
-/

namespace Heightt.ReadCommitted

/-- What one statement does to one integer column of one row. -/
inductive Change where
  /-- The column is not touched. -/
  | keep
  /-- The database adds `δ` to whatever the row holds. -/
  | add (δ : Int)
  /-- The client writes `base + δ`, computed from an earlier reading `base`. -/
  | set (base δ : Int)
  /-- The client writes `max 0 (base + δ)`, computed from an earlier reading `base`. -/
  | floor (base δ : Int)
  deriving DecidableEq, Repr

namespace Change

/-- The value a column holds after the change. -/
def apply : Change → Int → Int
  | keep, v => v
  | add δ, v => v + δ
  | set base δ, _ => base + δ
  | floor base δ, _ => max 0 (base + δ)

/-- The amount by which the change moves a column that holds what it was computed from. -/
def delta : Change → Int
  | keep => 0
  | add δ => δ
  | set _ δ => δ
  | floor base δ => max 0 (base + δ) - base

/-- The column still holds what the change was computed from. -/
def Fresh : Change → Int → Prop
  | keep, _ => True
  | add _, _ => True
  | set base _, v => v = base
  | floor base _, v => v = base

instance : (c : Change) → (v : Int) → Decidable (c.Fresh v)
  | keep, _ => isTrue trivial
  | add _, _ => isTrue trivial
  | set _ _, _ => inferInstanceAs (Decidable (_ = _))
  | floor _ _, _ => inferInstanceAs (Decidable (_ = _))

@[simp] theorem apply_keep (v : Int) : keep.apply v = v := rfl
@[simp] theorem apply_add (δ v : Int) : (add δ).apply v = v + δ := rfl
@[simp] theorem apply_set (base δ v : Int) : (set base δ).apply v = base + δ := rfl
@[simp] theorem apply_floor (base δ v : Int) : (floor base δ).apply v = max 0 (base + δ) := rfl
@[simp] theorem delta_keep : keep.delta = 0 := rfl
@[simp] theorem delta_add (δ : Int) : (add δ).delta = δ := rfl
@[simp] theorem delta_set (base δ : Int) : (set base δ).delta = δ := rfl
@[simp] theorem delta_floor (base δ : Int) : (floor base δ).delta = max 0 (base + δ) - base := rfl
@[simp] theorem fresh_keep (v : Int) : keep.Fresh v := trivial
@[simp] theorem fresh_add (δ v : Int) : (add δ).Fresh v := trivial
@[simp] theorem fresh_set (base δ v : Int) : (set base δ).Fresh v ↔ v = base := Iff.rfl
@[simp] theorem fresh_floor (base δ v : Int) : (floor base δ).Fresh v ↔ v = base := Iff.rfl

/-- A fresh change moves the column by its delta. -/
theorem apply_of_fresh {c : Change} {v : Int} (h : c.Fresh v) : c.apply v = v + c.delta := by
  cases c with
  | keep => simp
  | add δ => rfl
  | set base δ => simp_all
  | floor base δ =>
    rw [fresh_floor] at h
    simp only [apply_floor, delta_floor]
    omega

end Change

/-- A relational state `D` with statements `W` over it. `rows` are row and
unique-index locks the statement certainly takes, `check` is the constraint it
would violate, `value` reads an integer column, and `cols` are the columns that
a statement may change. -/
class Database (D : Type) (W Row Col E : outParam Type) where
  apply : W → D → D
  check : W → D → Option E
  rows : W → List Row
  value : D → Col → Int
  change : W → Col → Change
  cols : W → List Col
  change_of_not_mem : ∀ {w : W} {c : Col}, c ∉ cols w → change w c = .keep
  value_apply : ∀ {w : W} {d : D} (c : Col), check w d = none →
    value (apply w d) c = (change w c).apply (value d c)

namespace Database

variable {D W Row Col E : Type} [Database D W Row Col E]

/-- The state after the statements `F`, in order. -/
def applyAll (F : List W) (d : D) : D := F.foldl (fun d w => apply w d) d

/-- The first constraint the statements `F` violate, in order. -/
def violation : List W → D → Option E
  | [], _ => none
  | w :: F, d => match check w d with
    | some e => some e
    | none => violation F (apply w d)

/-- The value that the statements `F` leave in column `c` when it held `v`. -/
def valueAfter (D : Type) {W Row Col E : Type} [Database D W Row Col E] (F : List W) (c : Col)
    (v : Int) : Int :=
  F.foldl (fun v w => (change D w c).apply v) v

/-- The amount the statements `F` are meant to add to column `c`. -/
def delta (D : Type) {W Row Col E : Type} [Database D W Row Col E] (F : List W) (c : Col) : Int :=
  (F.map fun w => (change D w c).delta).sum

/-- Every absolute write of `F` to column `c` finds the figure it was computed
from, when the column held `v` before. -/
def Fresh (D : Type) {W Row Col E : Type} [Database D W Row Col E] (c : Col) : List W → Int → Prop
  | [], _ => True
  | w :: F, v => (change D w c).Fresh v ∧ Fresh D c F ((change D w c).apply v)

instance decidableFresh (D : Type) {W Row Col E : Type} [Database D W Row Col E] (c : Col) :
    (F : List W) → (v : Int) → Decidable (Fresh D c F v)
  | [], _ => isTrue trivial
  | w :: F, v => @instDecidableAnd _ _ _ (decidableFresh D c F ((change D w c).apply v))

@[simp] theorem applyAll_nil (d : D) : applyAll ([] : List W) d = d := rfl

@[simp] theorem applyAll_cons (w : W) (F : List W) (d : D) :
    applyAll (w :: F) d = applyAll F (apply w d) := rfl

theorem applyAll_append (F G : List W) (d : D) : applyAll (F ++ G) d = applyAll G (applyAll F d) :=
  List.foldl_append

/-- What every statement of `F` leaves alone. -/
theorem applyAll_keeps {γ : Type} (g : D → γ) {F : List W} (h : ∀ w ∈ F, ∀ d, g (apply w d) = g d)
    (d : D) : g (applyAll F d) = g d := by
  induction F generalizing d with
  | nil => rfl
  | cons w F ih =>
    rw [applyAll_cons, ih fun w hw => h w (List.mem_cons_of_mem _ hw), h w List.mem_cons_self]

theorem violation_cons {w : W} {F : List W} {d : D} :
    violation (w :: F) d = none ↔ check w d = none ∧ violation F (apply w d) = none := by
  rw [violation]
  split <;> simp_all

theorem violation_append {F G : List W} {d : D} :
    violation (F ++ G) d = none ↔ violation F d = none ∧ violation G (applyAll F d) = none := by
  induction F generalizing d with
  | nil => simp [violation]
  | cons w F ih => simp only [List.cons_append, violation_cons, ih, applyAll_cons, and_assoc]

@[simp] theorem delta_nil (c : Col) : delta D ([] : List W) c = 0 := rfl

@[simp] theorem delta_cons (w : W) (F : List W) (c : Col) :
    delta D (w :: F) c = (change D w c).delta + delta D F c := by
  simp [delta]

@[simp] theorem delta_append (F G : List W) (c : Col) :
    delta D (F ++ G) c = delta D F c + delta D G c := by
  simp [delta]

@[simp] theorem valueAfter_nil (c : Col) (v : Int) : valueAfter D ([] : List W) c v = v := rfl

@[simp] theorem valueAfter_cons (w : W) (F : List W) (c : Col) (v : Int) :
    valueAfter D (w :: F) c v = valueAfter D F c ((change D w c).apply v) := rfl

@[simp] theorem valueAfter_append (F G : List W) (c : Col) (v : Int) :
    valueAfter D (F ++ G) c v = valueAfter D G c (valueAfter D F c v) :=
  List.foldl_append

@[simp] theorem fresh_nil (c : Col) (v : Int) : Fresh D c ([] : List W) v := trivial

@[simp] theorem fresh_cons (w : W) (F : List W) (c : Col) (v : Int) :
    Fresh D c (w :: F) v ↔
      (change D w c).Fresh v ∧ Fresh D c F ((change D w c).apply v) := Iff.rfl

/-- Statements that leave a column alone. -/
theorem valueAfter_of_keep {F : List W} {c : Col} (h : ∀ w ∈ F, change D w c = .keep) (v : Int) :
    valueAfter D F c v = v := by
  induction F with
  | nil => rfl
  | cons w F ih =>
    rw [valueAfter_cons, h w List.mem_cons_self]
    exact ih fun w hw => h w (List.mem_cons_of_mem _ hw)

/-- Fresh statements move a column by their delta. -/
theorem valueAfter_of_fresh {F : List W} {c : Col} {v : Int} (h : Fresh D c F v) :
    valueAfter D F c v = v + delta D F c := by
  induction F generalizing v with
  | nil => simp
  | cons w F ih =>
    rw [valueAfter_cons, ih h.2, Change.apply_of_fresh h.1, delta_cons]
    omega

/-- Statements that violate no constraint leave what their changes say. -/
theorem value_applyAll {F : List W} {d : D} (valid : violation F d = none) (c : Col) :
    value (applyAll F d) c = valueAfter D F c (value d c) := by
  induction F generalizing d with
  | nil => rfl
  | cons w F ih =>
    obtain ⟨ok, valid⟩ := violation_cons.1 valid
    rw [applyAll_cons, ih valid, value_apply c ok, valueAfter_cons]

/-- A transaction whose every absolute write is fresh. -/
def Current (F : List W) (d : D) : Prop := ∀ c, Fresh D c F (value d c)

theorem fresh_of_keep {F : List W} {c : Col} (h : ∀ w ∈ F, change D w c = .keep) (v : Int) :
    Fresh D c F v := by
  induction F with
  | nil => trivial
  | cons w F ih =>
    have hw := h w List.mem_cons_self
    rw [fresh_cons, hw]
    exact ⟨trivial, ih fun w hw => h w (List.mem_cons_of_mem _ hw)⟩

/-- Only the columns that the statements name need to be looked at. -/
theorem current_iff {F : List W} {d : D} :
    Current F d ↔ ∀ c ∈ F.flatMap (cols D), Fresh D c F (value d c) := by
  refine ⟨fun h c _ => h c, fun h c => ?_⟩
  by_cases hc : c ∈ F.flatMap (cols D)
  · exact h c hc
  · refine fresh_of_keep (fun w hw => change_of_not_mem fun hm => hc ?_) _
    exact List.mem_flatMap.2 ⟨w, hw, hm⟩

instance (F : List W) (d : D) : Decidable (Current F d) :=
  decidable_of_iff _ current_iff.symm

end Database

end Heightt.ReadCommitted
