import Heightt.Interceptors.SanitizeInterceptor

/-!
# What the interceptor sanitises

The strings that are fields of an object come out sanitised at any depth, and sanitising twice
is sanitising once. `exposed` are the strings that are left as they are: the items of arrays, and
a text by itself. A date comes out as an object without keys, and the key `__proto__` is lost.
-/

namespace Heightt.SanitizeInterceptor

variable (sanitizeHtml : Text → Text)

def Sanitised (s : Text) : Prop := sanitizeString sanitizeHtml s = s

/-- Every string of the output is sanitised, keys, lengths and other leaves are unchanged, and
sanitising twice equals sanitising once. -/
structure Sanitises (v : Json Text) : Prop where
  complete : ∀ s ∈ (sanitizeObject sanitizeHtml v).texts, Sanitised sanitizeHtml s
  shape : (sanitizeObject sanitizeHtml v).shape = v.shape
  again : sanitizeObject sanitizeHtml (sanitizeObject sanitizeHtml v) = sanitizeObject sanitizeHtml v

mutual

/-- The strings that are left as they are. -/
def exposed : Json Text → List Text
  | .string s => [s]
  | .array items => exposedItems items
  | .object fields => exposedFields fields
  | .null | .bool _ | .number _ | .date _ => []
termination_by structural v => v

def exposedItems : List (Json Text) → List Text
  | [] => []
  | v :: items => exposed v ++ exposedItems items
termination_by structural items => items

def exposedFields : List (String × Json Text) → List Text
  | [] => []
  | (_, .string _) :: fields => exposedFields fields
  | (_, v) :: fields => exposed v ++ exposedFields fields
termination_by structural fields => fields

end

mutual

/-- No date at any depth, and no key `__proto__`. -/
def Plain : Json Text → Prop
  | .array items => PlainItems items
  | .object fields => PlainFields fields
  | .date _ => False
  | .string _ | .null | .bool _ | .number _ => True
termination_by structural v => v

def PlainItems : List (Json Text) → Prop
  | [] => True
  | v :: items => Plain v ∧ PlainItems items
termination_by structural items => items

def PlainFields : List (String × Json Text) → Prop
  | [] => True
  | (key, v) :: fields => key ≠ "__proto__" ∧ Plain v ∧ PlainFields fields
termination_by structural fields => fields

end

/-- What the interceptor leaves as it is is sanitised already, and nothing is lost. -/
structure Covered (v : Json Text) : Prop where
  exposed : ∀ s ∈ exposed v, Sanitised sanitizeHtml s
  plain : Plain v

variable {sanitizeHtml}

theorem sanitised_sanitizeString (stable : ∀ s, sanitizeHtml (sanitizeHtml s) = sanitizeHtml s) (s : Text) :
    Sanitised sanitizeHtml (sanitizeString sanitizeHtml s) := by
  unfold Sanitised sanitizeString
  split
  · split
    · exact stable s
    · rfl
  · rfl

/-- What becomes of the value of a field. -/
def sanitizeField (sanitizeHtml : Text → Text) : Json Text → Json Text
  | .string s => .string (sanitizeString sanitizeHtml s)
  | v => sanitizeObject sanitizeHtml v

theorem sanitizeFields_cons (key : String) (v : Json Text) (fields : List (String × Json Text)) :
    sanitizeFields sanitizeHtml ((key, v) :: fields) =
      assign key (sanitizeField sanitizeHtml v) (sanitizeFields sanitizeHtml fields) := by
  cases v <;> rfl

/-! ## Sanitising twice -/

/-- A field that comes out comes out again. -/
theorem sanitizeFields_assign {key : String} {v : Json Text} {fields : List (String × Json Text)}
    (same : sanitizeField sanitizeHtml v = v) (rest : sanitizeFields sanitizeHtml fields = fields) :
    sanitizeFields sanitizeHtml (assign key v fields) = assign key v fields := by
  unfold assign
  split
  · exact rest
  · rename_i own
    rw [sanitizeFields_cons, same, rest, assign, if_neg own]

theorem sanitizeField_again (stable : ∀ s, sanitizeHtml (sanitizeHtml s) = sanitizeHtml s) {v : Json Text}
    (ih : sanitizeObject sanitizeHtml (sanitizeObject sanitizeHtml v) = sanitizeObject sanitizeHtml v) :
    sanitizeField sanitizeHtml (sanitizeField sanitizeHtml v) = sanitizeField sanitizeHtml v := by
  cases v with
  | string s => exact congrArg Json.string (sanitised_sanitizeString stable s)
  | null | bool b | number x | date t | array items | object fields => exact ih

theorem sanitize_again (stable : ∀ s, sanitizeHtml (sanitizeHtml s) = sanitizeHtml s) (v : Json Text) :
    sanitizeObject sanitizeHtml (sanitizeObject sanitizeHtml v) = sanitizeObject sanitizeHtml v := by
  induction v using Json.induction with
  | null | bool b | number x | date t | string s => rfl
  | array items ih =>
    refine congrArg Json.array ?_
    induction items with
    | nil => rfl
    | cons v items rest =>
      obtain ⟨first, others⟩ := List.forall_mem_cons.1 ih
      rw [sanitizeItems, sanitizeItems, first, rest others]
  | object fields ih =>
    refine congrArg Json.object ?_
    induction fields with
    | nil => rfl
    | cons f fields rest =>
      obtain ⟨first, others⟩ := List.forall_mem_cons.1 ih
      rw [sanitizeFields_cons]
      exact sanitizeFields_assign (sanitizeField_again stable first) (rest others)

/-! ## What comes out -/

theorem length_sanitizeFields (fields : List (String × Json Text)) :
    (sanitizeFields sanitizeHtml fields).length ≤ fields.length := by
  induction fields with
  | nil => exact Nat.le_refl _
  | cons f fields ih =>
    rw [sanitizeFields_cons, assign]
    split
    · exact Nat.le_succ_of_le ih
    · exact Nat.succ_le_succ ih

theorem length_mapFields {τ υ : Type} (f : τ → υ) (fields : List (String × Json τ)) :
    (Json.mapFields f fields).length = fields.length := by
  induction fields with
  | nil => rfl
  | cons field fields ih => rw [Json.mapFields, List.length_cons, ih, List.length_cons]

theorem shape_sanitizeField {v : Json Text} (ih : (sanitizeObject sanitizeHtml v).shape = v.shape ↔ Plain v) :
    (sanitizeField sanitizeHtml v).shape = v.shape ↔ Plain v := by
  cases v with
  | string s => exact iff_of_true rfl trivial
  | null | bool b | number x | date t | array items | object fields => exact ih

/-- The shape is kept where nothing is lost. -/
theorem shape_sanitizeObject (v : Json Text) : (sanitizeObject sanitizeHtml v).shape = v.shape ↔ Plain v := by
  induction v using Json.induction with
  | null | bool b | number x | string s => exact iff_of_true rfl trivial
  | date t =>
    refine iff_of_false (fun same => ?_) id
    cases same
  | array items ih =>
    rw [sanitizeObject, Json.shape, Json.shape, Json.map, Json.map, Json.array.injEq, Plain]
    induction items with
    | nil => exact iff_of_true rfl trivial
    | cons v items rest =>
      obtain ⟨first, others⟩ := List.forall_mem_cons.1 ih
      rw [sanitizeItems, Json.mapItems, Json.mapItems, List.cons.injEq, PlainItems, rest others]
      exact and_congr_left fun _ => first
  | object fields ih =>
    rw [sanitizeObject, Json.shape, Json.shape, Json.map, Json.map, Json.object.injEq, Plain]
    induction fields with
    | nil => exact iff_of_true rfl trivial
    | cons f fields rest =>
      obtain ⟨first, others⟩ := List.forall_mem_cons.1 ih
      rw [sanitizeFields_cons, PlainFields, assign]
      split
      · -- a field is lost
        rename_i proto
        refine iff_of_false (fun same => ?_) fun plain => plain.1 proto
        have lengths := congrArg List.length same
        rw [length_mapFields, length_mapFields, List.length_cons] at lengths
        have short : (sanitizeFields sanitizeHtml fields).length ≤ fields.length := length_sanitizeFields fields
        omega
      · rename_i own
        rw [Json.mapFields, Json.mapFields, List.cons.injEq, Prod.mk.injEq, rest others]
        constructor
        · rintro ⟨⟨-, same⟩, plain⟩
          exact ⟨own, (shape_sanitizeField first).1 same, plain⟩
        · rintro ⟨-, plain, others⟩
          exact ⟨⟨rfl, (shape_sanitizeField first).2 plain⟩, others⟩

/-- Then the strings that come out are those left as they are, and others that are sanitised. -/
theorem complete_iff (stable : ∀ s, sanitizeHtml (sanitizeHtml s) = sanitizeHtml s) (v : Json Text) (plain : Plain v) :
    (∀ s ∈ (sanitizeObject sanitizeHtml v).texts, Sanitised sanitizeHtml s) ↔
      ∀ s ∈ exposed v, Sanitised sanitizeHtml s := by
  induction v using Json.induction with
  | null | bool b | number x | date t | string s => exact Iff.rfl
  | array items ih =>
    rw [sanitizeObject, Json.texts, exposed]
    rw [Plain] at plain
    induction items with
    | nil => exact Iff.rfl
    | cons v items rest =>
      obtain ⟨first, others⟩ := List.forall_mem_cons.1 ih
      obtain ⟨plainFirst, plainRest⟩ := plain
      rw [sanitizeItems, Json.textsOfItems, exposedItems, List.forall_mem_append, List.forall_mem_append,
        first plainFirst, rest others plainRest]
  | object fields ih =>
    rw [sanitizeObject, Json.texts, exposed]
    rw [Plain] at plain
    induction fields with
    | nil => exact Iff.rfl
    | cons f fields rest =>
      obtain ⟨first, others⟩ := List.forall_mem_cons.1 ih
      obtain ⟨key, v⟩ := f
      obtain ⟨own, plainFirst, plainRest⟩ := plain
      rw [sanitizeFields_cons, assign, if_neg own, Json.textsOfFields, List.forall_mem_append, rest others plainRest]
      cases v with
      | string s =>
        rw [exposedFields]
        refine and_iff_right fun t ht => ?_
        rw [List.mem_singleton.1 ht]
        exact sanitised_sanitizeString stable s
      | null | bool b | number x | date t | array items | object fields' =>
        rw [exposedFields, List.forall_mem_append]
        · exact and_congr_left fun _ => first plainFirst
        · simp

/-- A value is sanitised as a whole where its exposed strings are clean and nothing is lost. -/
theorem sanitises_iff (stable : ∀ s, sanitizeHtml (sanitizeHtml s) = sanitizeHtml s) (v : Json Text) :
    Sanitises sanitizeHtml v ↔ Covered sanitizeHtml v := by
  constructor
  · intro h
    have plain := (shape_sanitizeObject v).1 h.shape
    exact ⟨(complete_iff stable v plain).1 h.complete, plain⟩
  · intro h
    exact ⟨(complete_iff stable v h.plain).2 h.exposed, (shape_sanitizeObject v).2 h.plain, sanitize_again stable v⟩

/-! ## A tag in an array -/

/-- Leaves out what stands between angle brackets. -/
def strip : Bool → Text → Text
  | _, [] => []
  | true, u :: s => if u = 62 then strip false s else strip true s
  | false, u :: s => if u = 60 then strip true s else u :: strip false s

theorem not_mem_strip (inTag : Bool) (s : Text) : 60 ∉ strip inTag s := by
  induction s generalizing inTag with
  | nil => exact List.not_mem_nil
  | cons u s ih =>
    cases inTag with
    | true =>
      rw [strip]
      split
      · exact ih false
      · exact ih true
    | false =>
      rw [strip]
      split
      · exact ih true
      · rename_i other
        rw [List.mem_cons, not_or]
        exact ⟨Ne.symm other, ih false⟩

theorem strip_of_not_mem {s : Text} (h : 60 ∉ s) : strip false s = s := by
  induction s with
  | nil => rfl
  | cons u s ih =>
    rw [List.mem_cons, not_or] at h
    rw [strip, if_neg (Ne.symm h.1), ih h.2]

theorem strip_strip (s : Text) : strip false (strip false s) = strip false s :=
  strip_of_not_mem (not_mem_strip false s)

/-- A post with a bold word in its text. -/
def post : Json Text := .object [("text", .string (Text.units "a <b>word</b>"))]

theorem sanitises_post : Sanitises (strip false) post ↔ Covered (strip false) post :=
  sanitises_iff strip_strip post

/-- A post with a bold word in its list of tags. -/
def taggedPost : Json Text := .object [("tags", .array [.string (Text.units "<b>x</b>")])]

theorem tag_left : ¬∀ sanitizeHtml : Text → Text, (∀ s, sanitizeHtml (sanitizeHtml s) = sanitizeHtml s) →
    ∀ v, Sanitises sanitizeHtml v := by
  intro all
  have left := (all (strip false) strip_strip taggedPost).complete (Text.units "<b>x</b>") (by decide)
  exact absurd left (by unfold Sanitised; decide)

end Heightt.SanitizeInterceptor
