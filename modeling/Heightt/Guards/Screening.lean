import Heightt.Guards.XssGuard

/-!
# What the guard screens

The strings of a request are tested one after the other. Only the first one meets the places
that earlier requests have left in the patterns: whatever matches nothing sets them back. So a
request is judged by its own strings, except for its first one after a request was rejected,
and except for a text that stands alone, of which the guard sees the characters.
-/

namespace Heightt.XssGuard

open Text

/-- A pattern of the guard matches the string. -/
def Dirty (s : Text) : Prop := ∃ q ∈ dangerousPatterns, q.Matches s

/-- A pattern matches the string from its place on. -/
def Caught (σ : Patterns) (s : Text) : Prop := ∃ e ∈ σ, e.2 ≤ s.length ∧ e.1.Matches (s.drop e.2)

/-- The characters of a text, each a string with its place as the key. -/
def screenedCharacters (i : Nat) : Text → List (String × Text)
  | [] => []
  | u :: s => (toString i, [u]) :: screenedCharacters (i + 1) s

mutual

/-- The strings that are tested, with their keys and in their order. -/
def screened : Json Text → List (String × Text)
  | .array items => screenedItems 0 items
  | .object fields => screenedFields fields
  | .string s => screenedCharacters 0 s
  | .null | .bool _ | .number _ | .date _ => []
termination_by structural v => v

def screenedItems (i : Nat) : List (Json Text) → List (String × Text)
  | [] => []
  | .string s :: items => (toString i, s) :: screenedItems (i + 1) items
  | v :: items => screened v ++ screenedItems (i + 1) items
termination_by structural items => items

def screenedFields : List (String × Json Text) → List (String × Text)
  | [] => []
  | (key, .string s) :: fields => (key, s) :: screenedFields fields
  | (_, v) :: fields => screened v ++ screenedFields fields
termination_by structural fields => fields

end

namespace Request

def screened (r : Request) : List (String × Text) :=
  XssGuard.screened r.body ++ XssGuard.screened r.query ++ XssGuard.screened r.params

/-- The strings at any depth of the request. -/
def texts (r : Request) : List Text := r.body.texts ++ r.query.texts ++ r.params.texts

def Dirty (r : Request) : Prop := ∃ s ∈ r.texts, XssGuard.Dirty s

end Request

def Rejects (σ : Patterns) (r : Request) : Prop := (canActivate σ r).2.isSome

/-- The request has a dirty string, but the first one that is tested does not match from the
places of the patterns on, and no other one that is tested is dirty. -/
structure Overlooked (σ : Patterns) (r : Request) : Prop where
  dirty : r.Dirty
  first : ∀ e ∈ r.screened.head?, ¬Caught σ e.2
  others : ∀ e ∈ r.screened.tail, ¬Dirty e.2

/-- All places are set back. -/
def setBack (σ : Patterns) : Patterns := σ.map fun e => (e.1, 0)

/-! ## One string -/

theorem test_caught {σ : Patterns} {s : Text} : (test σ s).2 = true ↔ Caught σ s := by
  induction σ with
  | nil => simp [test, Caught]
  | cons e σ ih =>
    rw [Caught, List.exists_mem_cons_iff, ← Pattern.isSome_exec, ← Caught, ← ih, test]
    split
    · rename_i found
      simp [found]
    · rename_i none_
      simp [none_]

theorem test_setBack {σ : Patterns} {s : Text} (h : (test σ s).2 = false) : (test σ s).1 = setBack σ := by
  induction σ with
  | nil => rfl
  | cons e σ ih =>
    rw [test] at h ⊢
    split
    · rename_i found
      rw [found] at h
      cases h
    · rename_i none_
      rw [none_] at h
      exact congrArg ((e.1, 0) :: ·) (ih h)

theorem test_patterns (σ : Patterns) (s : Text) : (test σ s).1.map Prod.fst = σ.map Prod.fst := by
  induction σ with
  | nil => rfl
  | cons e σ ih =>
    rw [test]
    split
    · rfl
    · exact congrArg (e.1 :: ·) ih

/-- The guard has its own patterns. -/
def Own (σ : Patterns) : Prop := σ.map Prod.fst = dangerousPatterns

theorem setBack_of_own {σ : Patterns} (own : Own σ) : setBack σ = fresh := by
  have parts : setBack σ = (σ.map Prod.fst).map fun q => (q, 0) := by rw [List.map_map]; rfl
  rw [parts, own]
  rfl

theorem caught_fresh {s : Text} : Caught fresh s ↔ Dirty s := by
  constructor
  · rintro ⟨e, he, -, found⟩
    obtain ⟨q, hq, rfl⟩ := List.mem_map.1 he
    exact ⟨q, hq, found⟩
  · rintro ⟨q, hq, found⟩
    exact ⟨(q, 0), List.mem_map_of_mem hq, Nat.zero_le _, found⟩

/-- What is caught is dirty. -/
theorem Caught.dirty {σ : Patterns} {s : Text} (own : Own σ) (h : Caught σ s) : Dirty s := by
  obtain ⟨e, he, -, found⟩ := h
  exact ⟨e.1, own ▸ List.mem_map_of_mem he, found.of_drop⟩

/-- No single character matches. -/
theorem clean_character (u : UInt16) : ¬Dirty [u] := by
  rintro ⟨q, hq, found⟩
  have long : ∃ p p' rest, q = .one p :: .one p' :: rest := by
    simp only [dangerousPatterns, List.mem_cons, List.not_mem_nil, or_false] at hq
    obtain rfl | rfl | rfl | rfl | rfl | rfl | rfl | rfl | rfl | rfl := hq
    all_goals exact ⟨_, _, _, rfl⟩
  obtain ⟨p, p', rest, rfl⟩ := long
  exact Pattern.not_matches_singleton found

/-! ## All strings -/

/-- The strings in turn, until one is caught. -/
def checkStrings : Patterns → List (String × Text) → Screened
  | σ, [] => (σ, none)
  | σ, (key, s) :: rest => (checkString σ key s).next fun σ => checkStrings σ rest

theorem checkStrings_append (σ : Patterns) (l l' : List (String × Text)) :
    checkStrings σ (l ++ l') = (checkStrings σ l).next fun σ => checkStrings σ l' := by
  induction l generalizing σ with
  | nil => rfl
  | cons e l ih =>
    rw [List.cons_append, checkStrings, checkStrings]
    rcases checkString σ e.1 e.2 with ⟨σ', _ | field⟩
    · exact ih σ'
    · rfl

theorem checkCharacters_eq (σ : Patterns) (i : Nat) (s : Text) :
    checkCharacters σ i s = checkStrings σ (screenedCharacters i s) := by
  induction s generalizing σ i with
  | nil => rfl
  | cons u s ih =>
    rw [checkCharacters, screenedCharacters, checkStrings]
    exact congrArg _ (funext fun σ => ih σ (i + 1))

section

variable {items : List (Json Text)} {fields : List (String × Json Text)}

theorem checkItems_eq (ih : ∀ v ∈ items, ∀ σ, checkForXSS σ v = checkStrings σ (screened v)) (σ : Patterns)
    (i : Nat) : checkItems σ i items = checkStrings σ (screenedItems i items) := by
  induction items generalizing σ i with
  | nil => rfl
  | cons v items rest =>
    obtain ⟨first, others⟩ := List.forall_mem_cons.1 ih
    have next : (fun σ => checkItems σ (i + 1) items) = fun σ => checkStrings σ (screenedItems (i + 1) items) :=
      funext fun σ => rest others σ (i + 1)
    cases v with
    | string s =>
      rw [checkItems, screenedItems, checkStrings, next]
    | null | bool b | number x | date t | array items' | object fields' =>
      rw [checkItems, screenedItems, checkStrings_append, next, first]
      all_goals simp

theorem checkFields_eq (ih : ∀ f ∈ fields, ∀ σ, checkForXSS σ f.2 = checkStrings σ (screened f.2)) (σ : Patterns) :
    checkFields σ fields = checkStrings σ (screenedFields fields) := by
  induction fields generalizing σ with
  | nil => rfl
  | cons f fields rest =>
    obtain ⟨first, others⟩ := List.forall_mem_cons.1 ih
    have next : (fun σ => checkFields σ fields) = fun σ => checkStrings σ (screenedFields fields) :=
      funext fun σ => rest others σ
    obtain ⟨key, v⟩ := f
    cases v with
    | string s =>
      rw [checkFields, screenedFields, checkStrings, next]
    | null | bool b | number x | date t | array items' | object fields' =>
      rw [checkFields, screenedFields, checkStrings_append, next, first]
      all_goals simp

end

/-- The guard's traversal tests the strings in their order. -/
theorem checkForXSS_eq (v : Json Text) : ∀ σ, checkForXSS σ v = checkStrings σ (screened v) := by
  induction v using Json.induction with
  | null | bool b | number x | date t => exact fun _ => rfl
  | string s =>
    intro σ
    rw [checkForXSS, screened]
    exact checkCharacters_eq σ 0 s
  | array items ih =>
    intro σ
    rw [checkForXSS, screened]
    exact checkItems_eq ih σ 0
  | object fields ih =>
    intro σ
    rw [checkForXSS, screened]
    exact checkFields_eq ih σ

theorem canActivate_eq (σ : Patterns) (r : Request) : canActivate σ r = checkStrings σ r.screened := by
  have rest : (fun σ => (checkForXSS σ r.query).next fun σ => checkForXSS σ r.params) =
      fun σ => checkStrings σ (screened r.query ++ screened r.params) := by
    funext σ
    rw [checkStrings_append, checkForXSS_eq]
    exact congrArg _ (funext fun σ => checkForXSS_eq r.params σ)
  rw [canActivate, Request.screened, List.append_assoc, checkStrings_append, checkForXSS_eq, rest]

/-! ## What is tested and what the request holds -/

theorem snd_screenedItems {items : List (Json Text)}
    (ih : ∀ v ∈ items, (∀ s, v ≠ .string s) → (screened v).map Prod.snd = v.texts) (i : Nat) :
    (screenedItems i items).map Prod.snd = Json.textsOfItems items := by
  induction items generalizing i with
  | nil => rfl
  | cons v items rest =>
    obtain ⟨first, others⟩ := List.forall_mem_cons.1 ih
    cases v with
    | string s =>
      rw [screenedItems, List.map_cons, rest others, Json.textsOfItems, Json.texts]
      rfl
    | null | bool b | number x | date t | array items' | object fields' =>
      rw [screenedItems, List.map_append, rest others, Json.textsOfItems, first]
      all_goals simp

theorem snd_screenedFields {fields : List (String × Json Text)}
    (ih : ∀ f ∈ fields, (∀ s, f.2 ≠ .string s) → (screened f.2).map Prod.snd = f.2.texts) :
    (screenedFields fields).map Prod.snd = Json.textsOfFields fields := by
  induction fields with
  | nil => rfl
  | cons f fields rest =>
    obtain ⟨first, others⟩ := List.forall_mem_cons.1 ih
    obtain ⟨key, v⟩ := f
    cases v with
    | string s =>
      rw [screenedFields, List.map_cons, rest others, Json.textsOfFields, Json.texts]
      rfl
    | null | bool b | number x | date t | array items' | object fields' =>
      rw [screenedFields, List.map_append, rest others, Json.textsOfFields, first]
      all_goals simp

/-- Every string is tested, unless the value is nothing but a text. -/
theorem snd_screened (v : Json Text) : (∀ s, v ≠ .string s) → (screened v).map Prod.snd = v.texts := by
  induction v using Json.induction with
  | null | bool b | number x | date t => exact fun _ => rfl
  | string s => exact fun h => absurd rfl (h s)
  | array items ih =>
    intro _
    rw [screened, Json.texts]
    exact snd_screenedItems ih 0
  | object fields ih =>
    intro _
    rw [screened, Json.texts]
    exact snd_screenedFields ih

theorem mem_screenedCharacters {i : Nat} {s : Text} {e : String × Text} (h : e ∈ screenedCharacters i s) :
    ∃ u, e.2 = [u] := by
  induction s generalizing i with
  | nil => cases h
  | cons u s ih =>
    rw [screenedCharacters, List.mem_cons] at h
    obtain rfl | h := h
    · exact ⟨u, rfl⟩
    · exact ih h

/-- A dirty string that is tested is one of the value. -/
theorem mem_texts {v : Json Text} {e : String × Text} (h : e ∈ screened v) (dirty : Dirty e.2) :
    e.2 ∈ v.texts := by
  by_cases bare : ∃ s, v = .string s
  · obtain ⟨s, rfl⟩ := bare
    rw [screened] at h
    obtain ⟨u, same⟩ := mem_screenedCharacters h
    exact absurd (same ▸ dirty) (clean_character u)
  · rw [← snd_screened v (not_exists.1 bare)]
    exact List.mem_map_of_mem h

/-! ## The verdict -/

theorem checkStrings_caught {σ : Patterns} {e : String × Text} (h : Caught σ e.2) (l : List (String × Text)) :
    checkStrings σ (e :: l) = ((test σ e.2).1, some e.1) := by
  have found := test_caught.2 h
  rw [checkStrings, checkString]
  split
  · rename_i σ' same
    rw [same]
    rfl
  · rename_i σ' same
    rw [same] at found
    cases found

theorem checkStrings_missed {σ : Patterns} {e : String × Text} (h : ¬Caught σ e.2) (l : List (String × Text)) :
    checkStrings σ (e :: l) = checkStrings (setBack σ) l := by
  have missed : (test σ e.2).2 = false := Bool.eq_false_iff.2 fun found => h (test_caught.1 found)
  have places := test_setBack missed
  rw [checkStrings, checkString]
  split
  · rename_i σ' same
    rw [same] at missed
    cases missed
  · rename_i σ' same
    rw [same] at places
    rw [← places]
    rfl

theorem own_fresh : Own fresh := by
  rw [Own, fresh, List.map_map]
  exact List.map_id' dangerousPatterns

theorem own_checkStrings {σ : Patterns} (own : Own σ) (l : List (String × Text)) : Own (checkStrings σ l).1 := by
  induction l generalizing σ with
  | nil => exact own
  | cons e l ih =>
    by_cases caught : Caught σ e.2
    · rw [checkStrings_caught caught]
      exact (test_patterns σ e.2).trans own
    · rw [checkStrings_missed caught, setBack_of_own own]
      exact ih own_fresh

/-- With all places set back, what is dirty is caught. -/
theorem checkStrings_fresh {l : List (String × Text)} :
    (checkStrings fresh l).2.isSome ↔ ∃ e ∈ l, Dirty e.2 := by
  induction l with
  | nil => simp [checkStrings]
  | cons e l ih =>
    rw [List.exists_mem_cons_iff]
    by_cases caught : Caught fresh e.2
    · rw [checkStrings_caught caught]
      exact iff_of_true rfl (.inl (caught_fresh.1 caught))
    · rw [checkStrings_missed caught, setBack_of_own own_fresh, ih]
      exact (or_iff_right (mt caught_fresh.2 caught)).symm

/-- The first string is tested from the places of the patterns, the others from their start. -/
theorem rejects_iff {σ : Patterns} (own : Own σ) {r : Request} : Rejects σ r ↔
    (∃ e ∈ r.screened.head?, Caught σ e.2) ∨ ∃ e ∈ r.screened.tail, Dirty e.2 := by
  rw [Rejects, canActivate_eq]
  cases r.screened with
  | nil => simp [checkStrings]
  | cons e l =>
    rw [List.head?_cons, List.tail_cons]
    by_cases caught : Caught σ e.2
    · rw [checkStrings_caught caught]
      exact iff_of_true rfl (.inl ⟨e, rfl, caught⟩)
    · rw [checkStrings_missed caught, setBack_of_own own, checkStrings_fresh]
      refine (or_iff_right ?_).symm
      rintro ⟨e', same, found⟩
      cases same
      exact caught found

theorem mem_request_texts {r : Request} {e : String × Text} (h : e ∈ r.screened) (dirty : Dirty e.2) : r.Dirty := by
  refine ⟨e.2, ?_, dirty⟩
  rw [Request.texts, List.mem_append, List.mem_append]
  rw [Request.screened, List.mem_append, List.mem_append] at h
  exact h.imp (Or.imp (mem_texts · dirty) (mem_texts · dirty)) (mem_texts · dirty)

/-- What is rejected is dirty. -/
theorem Rejects.dirty {σ : Patterns} (own : Own σ) {r : Request} (h : Rejects σ r) : r.Dirty := by
  obtain ⟨e, he, caught⟩ | ⟨e, he, dirty⟩ := (rejects_iff own).1 h
  · exact mem_request_texts (List.mem_of_mem_head? he) (caught.dirty own)
  · exact mem_request_texts (List.mem_of_mem_tail he) dirty

theorem own_after (history : List Request) : Own (after history) := by
  have step (σ : Patterns) (own : Own σ) : Own (history.foldl (fun σ request => (canActivate σ request).1) σ) := by
    induction history generalizing σ with
    | nil => exact own
    | cons r history ih =>
      have next := own_checkStrings own r.screened
      rw [← canActivate_eq] at next
      exact ih _ next
  exact step fresh own_fresh

/-- A request is judged by its own strings, whatever came before, unless it is overlooked. -/
theorem rejects_iff_dirty (history : List Request) (r : Request) :
    (Rejects (after history) r ↔ r.Dirty) ↔ ¬Overlooked (after history) r := by
  have own := own_after history
  constructor
  · intro right overlooked
    obtain ⟨e, he, caught⟩ | ⟨e, he, dirty⟩ := (rejects_iff own).1 (right.2 overlooked.dirty)
    · exact overlooked.first e he caught
    · exact overlooked.others e he dirty
  · intro seen
    refine ⟨Rejects.dirty own, fun dirty => ?_⟩
    by_contra passed
    rw [rejects_iff own, not_or] at passed
    exact seen ⟨dirty, fun e he caught => passed.1 ⟨e, he, caught⟩, fun e he dirty => passed.2 ⟨e, he, dirty⟩⟩

/-- The body, the query and the parameters are not texts by themselves. -/
def Request.Structured (r : Request) : Prop :=
  ∀ s, r.body ≠ .string s ∧ r.query ≠ .string s ∧ r.params ≠ .string s

theorem Request.Structured.texts_eq {r : Request} (h : r.Structured) : r.screened.map Prod.snd = r.texts := by
  rw [Request.screened, List.map_append, List.map_append, snd_screened _ fun s => (h s).1,
    snd_screened _ fun s => (h s).2.1, snd_screened _ fun s => (h s).2.2]
  rfl

/-- Clean requests leave the places as they were at first. -/
theorem after_of_clean {history : List Request} (clean : ∀ r ∈ history, ¬r.Dirty) : after history = fresh := by
  have unmoved {l : List (String × Text)} (h : ∀ e ∈ l, ¬Dirty e.2) : (checkStrings fresh l).1 = fresh := by
    induction l with
    | nil => rfl
    | cons e l ih =>
      obtain ⟨first, others⟩ := List.forall_mem_cons.1 h
      rw [checkStrings_missed (mt caught_fresh.1 first), setBack_of_own own_fresh]
      exact ih others
  rw [after]
  induction history with
  | nil => rfl
  | cons r history ih =>
    obtain ⟨first, others⟩ := List.forall_mem_cons.1 clean
    rw [List.foldl_cons, canActivate_eq, unmoved fun e he dirty => first (mem_request_texts he dirty)]
    exact ih others

/-- Up to the first dirty request, every structured one is judged by its own strings. -/
theorem rejects_of_clean {history : List Request} (clean : ∀ r ∈ history, ¬r.Dirty) {r : Request}
    (structured : r.Structured) : Rejects (after history) r ↔ r.Dirty := by
  refine (rejects_iff_dirty history r).2 fun overlooked => ?_
  obtain ⟨s, hs, dirty⟩ := overlooked.dirty
  rw [← structured.texts_eq] at hs
  obtain ⟨e, he, rfl⟩ := List.mem_map.1 hs
  have first := overlooked.first
  have others := overlooked.others
  rw [after_of_clean clean] at first
  cases same : r.screened with
  | nil =>
    rw [same] at he
    cases he
  | cons e' l =>
    rw [same] at he first others
    obtain rfl | he := List.mem_cons.1 he
    · exact first e rfl (caught_fresh.2 dirty)
    · exact others e he dirty

/-! ## A request that is sent twice -/

/-- A link that runs a script. -/
def scriptLink : Request where
  body := .object [("link", .string (units "javascript:go()"))]
  query := .object []
  params := .object []

theorem scriptLink_dirty : scriptLink.Dirty := by
  refine ⟨units "javascript:go()", by decide, literal "javascript:", by simp [dangerousPatterns], ?_⟩
  exact Pattern.isSome_search.1 (by decide)

/-- The first time it is rejected, the second time it is not. -/
theorem passes_again : ¬∀ history r, Rejects (after history) r ↔ r.Dirty := by
  intro judged
  have passed : ¬Rejects (after [scriptLink]) scriptLink := by
    rw [Rejects]
    decide
  exact passed ((judged [scriptLink] scriptLink).2 scriptLink_dirty)

end Heightt.XssGuard
