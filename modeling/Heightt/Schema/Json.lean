import Mathlib.Data.Rat.Defs

/-!
# Values of a request

What a request's body, query and parameters hold, over texts `τ`: JSON values, and dates. An
object's fields stand in the order of its enumeration.
-/

namespace Heightt

inductive Json (τ : Type) where
  | null
  | bool (b : Bool)
  | number (x : ℚ)
  | date (time : Int)
  | string (s : τ)
  | array (items : List (Json τ))
  | object (fields : List (String × Json τ))

namespace Json

variable {τ : Type}

mutual

/-- The strings at any depth. -/
def texts : Json τ → List τ
  | string s => [s]
  | array items => textsOfItems items
  | object fields => textsOfFields fields
  | null | bool _ | number _ | date _ => []
termination_by structural v => v

def textsOfItems : List (Json τ) → List τ
  | [] => []
  | v :: items => v.texts ++ textsOfItems items
termination_by structural items => items

def textsOfFields : List (String × Json τ) → List τ
  | [] => []
  | (_, v) :: fields => v.texts ++ textsOfFields fields
termination_by structural fields => fields

end

theorem textsOfItems_eq (items : List (Json τ)) : textsOfItems items = items.flatMap texts := by
  induction items with
  | nil => rfl
  | cons v items ih => rw [textsOfItems, ih, List.flatMap_cons]

theorem textsOfFields_eq (fields : List (String × Json τ)) :
    textsOfFields fields = fields.flatMap fun f => f.2.texts := by
  induction fields with
  | nil => rfl
  | cons f fields ih => rw [textsOfFields, ih, List.flatMap_cons]

mutual

/-- The same value over other texts. -/
def map {υ : Type} (f : τ → υ) : Json τ → Json υ
  | null => .null
  | bool b => .bool b
  | number x => .number x
  | date time => .date time
  | string s => .string (f s)
  | array items => .array (mapItems f items)
  | object fields => .object (mapFields f fields)
termination_by structural v => v

def mapItems {υ : Type} (f : τ → υ) : List (Json τ) → List (Json υ)
  | [] => []
  | v :: items => v.map f :: mapItems f items
termination_by structural items => items

def mapFields {υ : Type} (f : τ → υ) : List (String × Json τ) → List (String × Json υ)
  | [] => []
  | (key, v) :: fields => (key, v.map f) :: mapFields f fields
termination_by structural fields => fields

end

/-- What is left of a value when its texts are left out. -/
def shape (v : Json τ) : Json Unit := v.map fun _ => ()

/-- What holds of the items and the fields of a value is used for the value. -/
@[elab_as_elim]
theorem induction {P : Json τ → Prop} (null : P null) (bool : ∀ b, P (bool b)) (number : ∀ x, P (number x))
    (date : ∀ time, P (date time)) (string : ∀ s, P (string s))
    (array : ∀ items, (∀ v ∈ items, P v) → P (array items))
    (object : ∀ fields, (∀ f ∈ fields, P f.2) → P (object fields)) (v : Json τ) : P v := by
  refine @Json.rec τ P (fun items => ∀ v ∈ items, P v) (fun fields => ∀ f ∈ fields, P f.2) (fun f => P f.2)
    null bool number date string array object ?_ ?_ ?_ ?_ ?_ v
  · exact fun v hv => absurd hv List.not_mem_nil
  · intro v items hv hitems
    exact List.forall_mem_cons.2 ⟨hv, hitems⟩
  · exact fun f hf => absurd hf List.not_mem_nil
  · intro f fields hf hfields
    exact List.forall_mem_cons.2 ⟨hf, hfields⟩
  · exact fun _ _ hv => hv

end Json

end Heightt
