import Heightt.Numbers.DecimalTexts

/-!
# JSON texts

`JSON.stringify` and `JSON.parse`, over the code units of a text. How a number is written and read is a
parameter; the grammar of its numerals is not. A text that is written is well-formed, and the value
is read back from it.
-/

namespace Heightt.JsonText

open Text

inductive Value (N : Type) where
  | null
  | bool (b : Bool)
  | number (n : N)
  | string (s : Text)
  | array (items : List (Value N))
  | object (fields : List (Text × Value N))

/-! ## Numerals -/

/-- `0`, or digits that do not begin with it. -/
inductive Whole : Text → Prop
  | zero : Whole [48]
  | digits {d : UInt16} {ds : Text} : digit d = true → d ≠ 48 → Digits ds → Whole (d :: ds)

inductive Fraction : Text → Prop
  | none : Fraction []
  | digits {ds : Text} : ds ≠ [] → Digits ds → Fraction (46 :: ds)

inductive Exponent : Text → Prop
  | none : Exponent []
  | digits {e : UInt16} {s ds : Text} {minus : Bool} : canonicalize e = 69 → Text.Sign s minus → ds ≠ [] → Digits ds →
      Exponent (e :: (s ++ ds))

/-- What a number is written as. -/
def Numeral (t : Text) : Prop :=
  ∃ minus whole fraction exponent, (minus = [] ∨ minus = [45]) ∧ Whole whole ∧ Fraction fraction ∧ Exponent exponent ∧
    t = minus ++ (whole ++ (fraction ++ exponent))

def readMinus : Text → Text × Text
  | 45 :: t => ([45], t)
  | t => ([], t)

def readWhole : Text → Option (Text × Text)
  | 48 :: t => some ([48], t)
  | t => if t.takeWhile digit = [] then none else some (t.takeWhile digit, t.dropWhile digit)

/-- A point has digits after it. -/
def readFraction : Text → Option (Text × Text)
  | 46 :: t => if t.takeWhile digit = [] then none else some (46 :: t.takeWhile digit, t.dropWhile digit)
  | t => some ([], t)

def signText : Text → Text
  | 43 :: _ => [43]
  | 45 :: _ => [45]
  | _ => []

def readExponent : Text → Option (Text × Text)
  | [] => some ([], [])
  | e :: t =>
    if canonicalize e = 69 then
      if (sign t).2.takeWhile digit = [] then none
      else some (e :: (signText t ++ (sign t).2.takeWhile digit), (sign t).2.dropWhile digit)
    else some ([], e :: t)

/-- The numeral at the front of a text and what follows it. -/
def readNumeral (t : Text) : Option (Text × Text) :=
  (readWhole (readMinus t).2).bind fun whole =>
    (readFraction whole.2).bind fun fraction =>
      (readExponent fraction.2).map fun exponent =>
        ((readMinus t).1 ++ (whole.1 ++ (fraction.1 ++ exponent.1)), exponent.2)

/-- How numbers are written, always as numerals, and read. -/
structure NumberFormat (N : Type) where
  print : N → Text
  read : Text → N
  numeral : ∀ n, Numeral (print n)
  read_print : ∀ n, read (print n) = n

/-! ## Strings -/

def hexadecimal (n : Nat) : Text := [hexCharacter (n / 4096), hexCharacter (n / 256 % 16), hexCharacter (n / 16 % 16), hexCharacter (n % 16)]

def unicodeEscape (u : UInt16) : Text := 92 :: 117 :: hexadecimal u.toNat

/-- A code unit that is not half of a pair. -/
def escapedUnit (u : UInt16) : Text :=
  if u = 34 then [92, 34]
  else if u = 92 then [92, 92]
  else if u = 8 then [92, 98]
  else if u = 9 then [92, 116]
  else if u = 10 then [92, 110]
  else if u = 12 then [92, 102]
  else if u = 13 then [92, 114]
  else if u < 32 ∨ highSurrogate u ∨ lowSurrogate u then unicodeEscape u
  else [u]

/-- The inside of a string; a surrogate without its partner is escaped. -/
def escaped : Text → Text
  | [] => []
  | [u] => escapedUnit u
  | u :: v :: s => if highSurrogate u ∧ lowSurrogate v then u :: v :: escaped s else escapedUnit u ++ escaped (v :: s)

/-- The character that stands after a backslash, other than `u`. -/
def unescape (c : UInt16) : Option UInt16 :=
  if c = 34 ∨ c = 92 ∨ c = 47 then some c
  else if c = 98 then some 8
  else if c = 102 then some 12
  else if c = 110 then some 10
  else if c = 114 then some 13
  else if c = 116 then some 9
  else none

def codeUnitOf (a b c d : UInt16) : UInt16 :=
  (hexValue a * 4096 + hexValue b * 256 + hexValue c * 16 + hexValue d).toUInt16

/-- The rest of a string after its opening quote, and the text after it. -/
def readString : Text → Option (Text × Text)
  | [] => none
  | 34 :: t => some ([], t)
  | 92 :: 117 :: a :: b :: c :: d :: t =>
    if hexDigit a && hexDigit b && hexDigit c && hexDigit d then
      (readString t).map fun r => (codeUnitOf a b c d :: r.1, r.2)
    else none
  | 92 :: c :: t => (unescape c).bind fun u => (readString t).map fun r => (u :: r.1, r.2)
  | u :: t => if u < 32 ∨ u = 92 then none else (readString t).map fun r => (u :: r.1, r.2)

/-! ## Values -/

section

variable {N : Type} (format : NumberFormat N)

def quoted (s : Text) : Text := 34 :: (escaped s ++ [34])

mutual

/-- `JSON.stringify(value)` -/
def stringify : Value N → Text
  | .null => units "null"
  | .bool b => units (if b then "true" else "false")
  | .number n => format.print n
  | .string s => quoted s
  | .array items => 91 :: (stringifyItems items ++ [93])
  | .object fields => 123 :: (stringifyFields fields ++ [125])
termination_by structural v => v

def stringifyItems : List (Value N) → Text
  | [] => []
  | [v] => stringify v
  | v :: items => stringify v ++ 44 :: stringifyItems items
termination_by structural items => items

def stringifyFields : List (Text × Value N) → Text
  | [] => []
  | [(key, v)] => quoted key ++ 58 :: stringify v
  | (key, v) :: fields => quoted key ++ 58 :: (stringify v ++ 44 :: stringifyFields fields)
termination_by structural fields => fields

end

def space (u : UInt16) : Bool := u = 32 ∨ u = 9 ∨ u = 10 ∨ u = 13

def skip (t : Text) : Text := t.dropWhile space

/-- A field that is there already is written over. -/
def assign {α : Type} (fields : List (Text × α)) (key : Text) (v : α) : List (Text × α) :=
  if fields.any fun f => f.1 = key then fields.map fun f => if f.1 = key then (key, v) else f else fields ++ [(key, v)]

def readLiteral (t : Text) : Option (Value N × Text) :=
  if units "null" <+: t then some (.null, t.drop 4)
  else if units "true" <+: t then some (.bool true, t.drop 4)
  else if units "false" <+: t then some (.bool false, t.drop 5)
  else (readNumeral t).map fun r => (.number (format.read r.1), r.2)

mutual

/-- A value and the text after it. The number bounds the steps; more than twice the length of the text
is enough. -/
def readValue : Nat → Text → Option (Value N × Text)
  | 0, _ => none
  | n + 1, t =>
    match skip t with
    | 34 :: t => (readString t).map fun r => (.string r.1, r.2)
    | 91 :: t =>
      match skip t with
      | 93 :: t => some (.array [], t)
      | t => (readItems n t).map fun r => (.array r.1, r.2)
    | 123 :: t =>
      match skip t with
      | 125 :: t => some (.object [], t)
      | t => (readFields n [] t).map fun r => (.object r.1, r.2)
    | t => readLiteral format t
termination_by structural n => n

def readItems : Nat → Text → Option (List (Value N) × Text)
  | 0, _ => none
  | n + 1, t =>
    (readValue n t).bind fun first =>
      match skip first.2 with
      | 44 :: t => (readItems n t).map fun r => (first.1 :: r.1, r.2)
      | 93 :: t => some ([first.1], t)
      | _ => none
termination_by structural n => n

def readFields : Nat → List (Text × Value N) → Text → Option (List (Text × Value N) × Text)
  | 0, _, _ => none
  | n + 1, fields, t =>
    match skip t with
    | 34 :: t =>
      (readString t).bind fun key =>
        match skip key.2 with
        | 58 :: t =>
          (readValue n t).bind fun v =>
            match skip v.2 with
            | 44 :: t => readFields n (assign fields key.1 v.1) t
            | 125 :: t => some (assign fields key.1 v.1, t)
            | _ => none
        | _ => none
    | _ => none
termination_by structural n => n

end

/-- `JSON.parse(text)`; `none` is a `SyntaxError`. -/
def parse (t : Text) : Option (Value N) :=
  (readValue format (2 * t.length + 1) t).bind fun r => if skip r.2 = [] then some r.1 else none

end

/-! ## Strings are read back -/

theorem readString_plain {u : UInt16} (long : ¬u < 32) (notQuote : u ≠ 34) (notSlash : u ≠ 92) (t : Text) :
    readString (u :: t) = (readString t).map fun r => (u :: r.1, r.2) := by
  rw [readString.eq_def]
  split
  · cases ‹_›
  · cases ‹_›
    exact absurd rfl notQuote
  · cases ‹_›
    exact absurd rfl notSlash
  · cases ‹_›
    exact absurd rfl notSlash
  · cases ‹_›
    rw [if_neg (by simp [long, notSlash])]

theorem codeUnitOf_hexadecimal (u : UInt16) : codeUnitOf (hexCharacter (u.toNat / 4096)) (hexCharacter (u.toNat / 256 % 16))
    (hexCharacter (u.toNat / 16 % 16)) (hexCharacter (u.toNat % 16)) = u := by
  have small := u.toNat_lt
  unfold codeUnitOf
  rw [(hexValue_hexCharacter (u.toNat / 4096) (by omega)).1, (hexValue_hexCharacter (u.toNat / 256 % 16) (by omega)).1,
    (hexValue_hexCharacter (u.toNat / 16 % 16) (by omega)).1, (hexValue_hexCharacter (u.toNat % 16) (by omega)).1]
  have whole : u.toNat / 4096 * 4096 + u.toNat / 256 % 16 * 256 + u.toNat / 16 % 16 * 16 + u.toNat % 16 = u.toNat := by
    omega
  rw [whole, Nat.toUInt16_eq, UInt16.ofNat_toNat]

theorem readString_unicodeEscape (u : UInt16) (t : Text) :
    readString (unicodeEscape u ++ t) = (readString t).map fun r => (u :: r.1, r.2) := by
  have small := u.toNat_lt
  have digits : (hexDigit (hexCharacter (u.toNat / 4096)) && hexDigit (hexCharacter (u.toNat / 256 % 16)) &&
      hexDigit (hexCharacter (u.toNat / 16 % 16)) && hexDigit (hexCharacter (u.toNat % 16))) = true := by
    rw [(hexValue_hexCharacter (u.toNat / 4096) (by omega)).2, (hexValue_hexCharacter (u.toNat / 256 % 16) (by omega)).2,
      (hexValue_hexCharacter (u.toNat / 16 % 16) (by omega)).2, (hexValue_hexCharacter (u.toNat % 16) (by omega)).2]
    rfl
  show readString (92 :: 117 :: _ :: _ :: _ :: _ :: t) = _
  rw [readString, if_pos digits, codeUnitOf_hexadecimal]

theorem readString_escapedUnit (u : UInt16) (t : Text) :
    readString (escapedUnit u ++ t) = (readString t).map fun r => (u :: r.1, r.2) := by
  unfold escapedUnit
  split_ifs with quote slash backspace tab newline feed carriage control
  · subst quote; rfl
  · subst slash; rfl
  · subst backspace; rfl
  · subst tab; rfl
  · subst newline; rfl
  · subst feed; rfl
  · subst carriage; rfl
  · exact readString_unicodeEscape u t
  · exact readString_plain (fun short => control (.inl short)) quote slash t

/-- A string is read back from what is written of it. -/
theorem readString_escaped (s rest : Text) : readString (escaped s ++ 34 :: rest) = some (s, rest) := by
  fun_induction escaped s with
  | case1 => rfl
  | case2 u =>
    rw [readString_escapedUnit]
    rfl
  | case3 u v s pair ih =>
    have large {w : UInt16} (h : highSurrogate w = true ∨ lowSurrogate w = true) : ¬w < 32 ∧ w ≠ 34 ∧ w ≠ 92 := by
      unfold highSurrogate lowSurrogate at h
      simp only [decide_eq_true_eq] at h
      grind
    obtain ⟨long, notQuote, notSlash⟩ := large (.inl pair.1)
    obtain ⟨long', notQuote', notSlash'⟩ := large (.inr pair.2)
    rw [List.cons_append, List.cons_append, readString_plain long notQuote notSlash, readString_plain long' notQuote' notSlash',
      ih]
    rfl
  | case4 u v s single ih =>
    rw [List.append_assoc, readString_escapedUnit, ih]
    rfl

/-! ## Numerals are read back -/

/-- What may follow a numeral. -/
def Stops (rest : Text) : Prop := ∀ u ∈ rest.head?, digit u = false ∧ u ≠ 46 ∧ canonicalize u ≠ 69

theorem readExponent_append {t rest : Text} (h : Exponent t) (stops : Stops rest) :
    readExponent (t ++ rest) = some (t, rest) := by
  cases h with
  | none =>
    rw [List.nil_append]
    cases rest with
    | nil => rfl
    | cons u rest => rw [readExponent, if_neg (stops u rfl).2.2]
  | @digits e s ds minus mark sign_ some_ digits =>
    have stop : ∀ u ∈ rest.head?, digit u = false := fun u hu => (stops u hu).1
    have read := takeWhile_digits digits stop
    have next : ∀ u ∈ (ds ++ rest).head?, u ≠ 43 ∧ u ≠ 45 := by
      cases ds with
      | nil => exact absurd rfl some_
      | cons d ds =>
        rintro u ⟨⟩
        exact digit_head digits d rfl
    have split_ := sign_append sign_ next
    have text : signText (s ++ (ds ++ rest)) = s := by
      cases sign_ with
      | plus => rfl
      | minus => rfl
      | none =>
        rw [List.nil_append]
        unfold signText
        split
        · exact absurd rfl (next 43 (by simp_all)).1
        · exact absurd rfl (next 45 (by simp_all)).2
        · rfl
    rw [List.cons_append, readExponent, if_pos mark, List.append_assoc, split_, read.1, read.2, if_neg some_, text]

theorem exponent_stops {t rest : Text} (h : Exponent t) (stops : Stops rest) :
    ∀ u ∈ (t ++ rest).head?, digit u = false ∧ u ≠ 46 := by
  cases h with
  | none => exact fun u hu => ⟨(stops u hu).1, (stops u hu).2.1⟩
  | @digits e s ds minus mark sign_ some_ digits =>
    show ∀ u ∈ (e :: (s ++ ds)).head?, _
    exact exponent_head (.marked mark sign_ some_ digits)

theorem readFraction_append {t rest : Text} (h : Fraction t) (stop : ∀ u ∈ rest.head?, digit u = false ∧ u ≠ 46) :
    readFraction (t ++ rest) = some (t, rest) := by
  cases h with
  | none =>
    rw [List.nil_append]
    unfold readFraction
    split
    · exact absurd rfl (stop 46 rfl).2
    · rfl
  | digits some_ digits =>
    have read := takeWhile_digits digits fun u hu => (stop u hu).1
    rw [List.cons_append, readFraction, read.1, read.2, if_neg some_]

theorem readWhole_append {t rest : Text} (h : Whole t) (stop : ∀ u ∈ rest.head?, digit u = false) :
    readWhole (t ++ rest) = some (t, rest) := by
  cases h with
  | zero => rfl
  | digits first notZero digits =>
    have read := takeWhile_digits (List.forall_mem_cons.2 ⟨first, digits⟩) stop
    unfold readWhole
    split
    · rename_i same
      exact absurd (List.cons.inj same).1 notZero
    · rw [read.1, read.2, if_neg (List.cons_ne_nil _ _)]

theorem whole_head {t : Text} (h : Whole t) : ∃ d ds, t = d :: ds ∧ digit d = true := by
  cases h with
  | zero => exact ⟨48, [], rfl, rfl⟩
  | digits first _ _ => exact ⟨_, _, rfl, first⟩

theorem readNumeral_append {t rest : Text} (h : Numeral t) (stops : Stops rest) : readNumeral (t ++ rest) = some (t, rest) := by
  obtain ⟨minus, whole, fraction, exponent, hm, hw, hf, he, rfl⟩ := h
  have afterFraction := exponent_stops he stops
  have afterWhole : ∀ u ∈ (fraction ++ (exponent ++ rest)).head?, digit u = false := by
    cases hf with
    | none => exact fun u hu => (afterFraction u hu).1
    | digits => rintro u ⟨⟩; rfl
  have split_ : readMinus (minus ++ (whole ++ (fraction ++ (exponent ++ rest)))) =
      (minus, whole ++ (fraction ++ (exponent ++ rest))) := by
    obtain rfl | rfl := hm
    · obtain ⟨d, ds, rfl, isDigit⟩ := whole_head hw
      rw [List.nil_append, List.cons_append]
      unfold readMinus
      split
      · rename_i same
        rw [(List.cons.inj same).1] at isDigit
        cases isDigit
      · rfl
    · rfl
  simp only [readNumeral, List.append_assoc, split_, readWhole_append hw afterWhole, readFraction_append hf afterFraction,
    readExponent_append he stops, Option.bind_some, Option.map_some]

/-! ## Values are read back -/

section

variable {N : Type} {format : NumberFormat N}

/-- What holds of the items and the fields of a value is used for the value. -/
@[elab_as_elim]
theorem Value.induction {P : Value N → Prop} (null : P .null) (bool : ∀ b, P (.bool b)) (number : ∀ n, P (.number n))
    (string : ∀ s, P (.string s)) (array : ∀ items, (∀ v ∈ items, P v) → P (.array items))
    (object : ∀ fields, (∀ f ∈ fields, P f.2) → P (.object fields)) (v : Value N) : P v := by
  refine @Value.rec N P (fun items => ∀ v ∈ items, P v) (fun fields => ∀ f ∈ fields, P f.2) (fun f => P f.2)
    null bool number string array object ?_ ?_ ?_ ?_ ?_ v
  · exact fun v hv => absurd hv List.not_mem_nil
  · intro v items hv hitems
    exact List.forall_mem_cons.2 ⟨hv, hitems⟩
  · exact fun f hf => absurd hf List.not_mem_nil
  · intro f fields hf hfields
    exact List.forall_mem_cons.2 ⟨hf, hfields⟩
  · exact fun _ _ hv => hv

/-- No object has a key twice. -/
inductive Proper : Value N → Prop
  | null : Proper .null
  | bool (b : Bool) : Proper (.bool b)
  | number (n : N) : Proper (.number n)
  | string (s : Text) : Proper (.string s)
  | array {items : List (Value N)} : (∀ v ∈ items, Proper v) → Proper (.array items)
  | object {fields : List (Text × Value N)} : (fields.map Prod.fst).Nodup → (∀ f ∈ fields, Proper f.2) → Proper (.object fields)

/-- What follows a value inside another one. -/
def Ends (rest : Text) : Prop := ∀ u ∈ rest.head?, u = 44 ∨ u = 93 ∨ u = 125

theorem Ends.stops {rest : Text} (h : Ends rest) : Stops rest := by
  intro u hu
  obtain rfl | rfl | rfl := h u hu <;> decide

theorem skip_cons {u : UInt16} (h : space u = false) (t : Text) : skip (u :: t) = u :: t :=
  List.dropWhile_cons_of_neg (by simp [h])

theorem numeral_first {t : Text} (h : Numeral t) : ∃ u r, t = u :: r ∧ (u = 45 ∨ digit u = true) := by
  obtain ⟨minus, whole, fraction, exponent, hm, hw, -, -, rfl⟩ := h
  obtain rfl | rfl := hm
  · obtain ⟨d, ds, rfl, isDigit⟩ := whole_head hw
    exact ⟨d, _, rfl, .inr isDigit⟩
  · exact ⟨45, _, rfl, .inl rfl⟩

theorem not_structural {u : UInt16} (h : u = 45 ∨ digit u = true) :
    space u = false ∧ u ∉ [34, 91, 93, 123, 110, 116, 102] := by
  obtain rfl | h := h
  · decide
  · have bounds : 48 ≤ u ∧ u ≤ 57 := of_decide_eq_true h
    rw [UInt16.le_iff_toNat_le, UInt16.le_iff_toNat_le] at bounds
    simp only [space, List.mem_cons, List.not_mem_nil, or_false, decide_eq_false_iff_not, ← UInt16.toNat_inj,
      UInt16.reduceToNat] at bounds ⊢
    omega

theorem stringify_first (format : NumberFormat N) (v : Value N) : ∃ u r, stringify format v = u :: r ∧ space u = false ∧ u ≠ 93 := by
  cases v with
  | null => exact ⟨110, _, rfl, by decide, by decide⟩
  | bool b =>
    cases b with
    | false => exact ⟨102, _, rfl, by decide, by decide⟩
    | true => exact ⟨116, _, rfl, by decide, by decide⟩
  | number n =>
    obtain ⟨u, r, same, first⟩ := numeral_first (format.numeral n)
    obtain ⟨visible, other⟩ := not_structural first
    exact ⟨u, r, by rw [stringify, same], visible, by rintro rfl; exact other (by decide)⟩
  | string s => exact ⟨34, _, rfl, by decide, by decide⟩
  | array items => exact ⟨91, _, rfl, by decide, by decide⟩
  | object fields => exact ⟨123, _, rfl, by decide, by decide⟩

theorem readValue_literal {u : UInt16} (visible : space u = false) (other : u ≠ 34 ∧ u ≠ 91 ∧ u ≠ 123) (n : Nat) (t : Text) :
    readValue format (n + 1) (u :: t) = readLiteral format (u :: t) := by
  rw [readValue, skip_cons visible]
  split
  · exact absurd (List.cons.inj ‹_›).1 other.1
  · exact absurd (List.cons.inj ‹_›).1 other.2.1
  · exact absurd (List.cons.inj ‹_›).1 other.2.2
  · rfl

theorem readLiteral_numeral (format : NumberFormat N) {t : Text} (h : Numeral t) {rest : Text} (ends : Ends rest) :
    readLiteral format (t ++ rest) = some (.number (format.read t), rest) := by
  obtain ⟨u, r, same, first⟩ := numeral_first h
  have other := (not_structural first).2
  have no {c : UInt16} {w : Text} (mem : c ∈ [34, 91, 93, 123, 110, 116, 102]) : ¬c :: w <+: t ++ rest := by
    rw [same]
    intro starts
    rw [(List.cons_prefix_cons.1 starts).1] at mem
    exact other mem
  have null : ¬units "null" <+: t ++ rest := no (c := 110) (by decide)
  have true_ : ¬units "true" <+: t ++ rest := no (c := 116) (by decide)
  have false_ : ¬units "false" <+: t ++ rest := no (c := 102) (by decide)
  rw [readLiteral, if_neg null, if_neg true_, if_neg false_, readNumeral_append h ends.stops, Option.map_some]

theorem readValue_numeral (format : NumberFormat N) {t : Text} (h : Numeral t) (n : Nat) {rest : Text} (ends : Ends rest) :
    readValue format (n + 1) (t ++ rest) = some (.number (format.read t), rest) := by
  have literal := readLiteral_numeral format h ends
  obtain ⟨u, r, same, first⟩ := numeral_first h
  obtain ⟨visible, other⟩ := not_structural first
  subst same
  rw [List.cons_append] at literal ⊢
  rw [readValue_literal visible ⟨?_, ?_, ?_⟩, literal] <;> rintro rfl <;> exact other (by decide)

/-- The value is read back, with what follows it left over. -/
def ReadsBack (format : NumberFormat N) (v : Value N) : Prop :=
  ∀ (n : Nat) (rest : Text), Ends rest → 2 * (stringify format v ++ rest).length < n →
    readValue format n (stringify format v ++ rest) = some (v, rest)

theorem ends_nil : Ends [] := by
  rintro u ⟨⟩

theorem ends_cons {u : UInt16} (h : u = 44 ∨ u = 93 ∨ u = 125) (t : Text) : Ends (u :: t) := by
  rintro w ⟨⟩
  exact h

theorem readItems_stringifyItems (format : NumberFormat N) {items : List (Value N)} (each : ∀ v ∈ items, ReadsBack format v) (some_ : items ≠ []) (n : Nat)
    (rest : Text) (enough : 2 * (stringifyItems format items ++ 93 :: rest).length + 1 < n) :
    readItems format n (stringifyItems format items ++ 93 :: rest) = some (items, rest) := by
  induction items generalizing n with
  | nil => exact absurd rfl some_
  | cons v items ih =>
    obtain ⟨first, others⟩ := List.forall_mem_cons.1 each
    cases n with
    | zero => omega
    | succ n =>
      cases items with
      | nil =>
        rw [stringifyItems] at enough ⊢
        rw [readItems, first n _ (ends_cons (.inr (.inl rfl)) rest) (by omega), Option.bind_some, skip_cons (by decide)]
        rfl
      | cons next items =>
        rw [stringifyItems, List.append_assoc, List.cons_append] at enough ⊢
        · simp only [List.length_append, List.length_cons] at enough
          rw [readItems, first n _ (ends_cons (.inl rfl) _) (by simp only [List.length_append, List.length_cons]; omega),
            Option.bind_some, skip_cons (by decide)]
          simp only
          rw [ih others (List.cons_ne_nil _ _) n (by simp only [List.length_append, List.length_cons]; omega)]
          rfl
        · exact fun h => by cases h
        · exact fun h => by cases h

theorem assign_new {fields : List (Text × Value N)} {key : Text} (new : key ∉ fields.map Prod.fst) (v : Value N) :
    assign fields key v = fields ++ [(key, v)] := by
  rw [assign, if_neg]
  rw [List.any_eq_true]
  rintro ⟨f, hf, same⟩
  exact new (List.mem_map.2 ⟨f, hf, of_decide_eq_true same⟩)

theorem quoted_append (s rest : Text) : quoted s ++ rest = 34 :: (escaped s ++ 34 :: rest) := by
  rw [quoted, List.cons_append, List.append_assoc]
  rfl

theorem readFields_next {n : Nat} {t rest : Text} {v : Value N} (read : readValue format n t = some (v, 44 :: rest))
    (fields : List (Text × Value N)) (key : Text) :
    readFields format (n + 1) fields (quoted key ++ 58 :: t) = readFields format n (assign fields key v) rest := by
  rw [quoted_append, readFields, skip_cons (by decide)]
  simp only
  rw [readString_escaped, Option.bind_some, skip_cons (by decide)]
  simp only
  rw [read, Option.bind_some, skip_cons (by decide)]
  rfl

theorem readFields_last {n : Nat} {t rest : Text} {v : Value N} (read : readValue format n t = some (v, 125 :: rest))
    (fields : List (Text × Value N)) (key : Text) :
    readFields format (n + 1) fields (quoted key ++ 58 :: t) = some (assign fields key v, rest) := by
  rw [quoted_append, readFields, skip_cons (by decide)]
  simp only
  rw [readString_escaped, Option.bind_some, skip_cons (by decide)]
  simp only
  rw [read, Option.bind_some, skip_cons (by decide)]
  rfl

theorem readFields_stringifyFields (format : NumberFormat N) {fields : List (Text × Value N)} (each : ∀ f ∈ fields, ReadsBack format f.2)
    (some_ : fields ≠ []) (n : Nat) (before : List (Text × Value N)) (distinct : ((before ++ fields).map Prod.fst).Nodup)
    (rest : Text) (enough : 2 * (stringifyFields format fields ++ 125 :: rest).length + 1 < n) :
    readFields format n before (stringifyFields format fields ++ 125 :: rest) = some (before ++ fields, rest) := by
  induction fields generalizing n before with
  | nil => exact absurd rfl some_
  | cons f fields ih =>
    obtain ⟨key, v⟩ := f
    obtain ⟨first, others⟩ := List.forall_mem_cons.1 each
    have new : key ∉ before.map Prod.fst := by
      rw [List.map_append, List.map_cons, List.nodup_append] at distinct
      exact fun mem => distinct.2.2 key mem key List.mem_cons_self rfl
    cases n with
    | zero => omega
    | succ n =>
      cases fields with
      | nil =>
        rw [stringifyFields, List.append_assoc, List.cons_append] at enough ⊢
        simp only [List.length_append, List.length_cons] at enough
        have read := first n (125 :: rest) (ends_cons (.inr (.inr rfl)) rest)
          (by simp only [List.length_append, List.length_cons]; omega)
        rw [readFields_last read, assign_new new]
      | cons next fields =>
        have shape : stringifyFields format ((key, v) :: next :: fields) =
            quoted key ++ 58 :: (stringify format v ++ 44 :: stringifyFields format (next :: fields)) := rfl
        rw [shape, List.append_assoc, List.cons_append, List.append_assoc, List.cons_append] at enough ⊢
        simp only [List.length_append, List.length_cons] at enough
        have read := first n (44 :: (stringifyFields format (next :: fields) ++ 125 :: rest)) (ends_cons (.inl rfl) _)
          (by simp only [List.length_append, List.length_cons]; omega)
        rw [readFields_next read, assign_new new, ih others (List.cons_ne_nil _ _) n (before ++ [(key, v)])
          (by simpa using distinct) (by simp only [List.length_append, List.length_cons]; omega)]
        simp

theorem readValue_array {u : UInt16} (visible : space u = false) (notEnd : u ≠ 93) (n : Nat) (t : Text) :
    readValue format (n + 1) (91 :: u :: t) = (readItems format n (u :: t)).map fun r => (.array r.1, r.2) := by
  rw [readValue, skip_cons (by decide)]
  simp only
  rw [skip_cons visible]
  split
  · exact absurd (List.cons.inj ‹_›).1 notEnd
  · rfl

theorem readValue_object (n : Nat) (t : Text) :
    readValue format (n + 1) (123 :: 34 :: t) = (readFields format n [] (34 :: t)).map fun r => (.object r.1, r.2) := by
  rw [readValue, skip_cons (by decide)]
  simp only
  rw [skip_cons (by decide)]
  rfl

theorem stringifyItems_first (format : NumberFormat N) (v : Value N) (items : List (Value N)) :
    ∃ u r, stringifyItems format (v :: items) = u :: r ∧ space u = false ∧ u ≠ 93 := by
  obtain ⟨u, r, same, visible, notEnd⟩ := stringify_first format v
  cases items with
  | nil => exact ⟨u, r, by rw [stringifyItems, same], visible, notEnd⟩
  | cons next items =>
    refine ⟨u, r ++ 44 :: stringifyItems format (next :: items), ?_, visible, notEnd⟩
    show stringify format v ++ 44 :: stringifyItems format (next :: items) = _
    rw [same]
    rfl

theorem stringifyFields_first (format : NumberFormat N) (f : Text × Value N) (fields : List (Text × Value N)) :
    ∃ r, stringifyFields format (f :: fields) = 34 :: r := by
  obtain ⟨key, v⟩ := f
  cases fields with
  | nil => exact ⟨_, rfl⟩
  | cons next fields => exact ⟨_, rfl⟩

theorem readsBack_of_succ {v : Value N} (read : ∀ (n : Nat) (rest : Text), Ends rest →
    2 * (stringify format v ++ rest).length < n + 1 →
      readValue format (n + 1) (stringify format v ++ rest) = some (v, rest)) : ReadsBack format v := by
  intro n rest ends enough
  cases n with
  | zero => omega
  | succ n => exact read n rest ends enough

/-- By induction on the value. -/
theorem readsBack (format : NumberFormat N) {v : Value N} (proper : Proper v) : ReadsBack format v := by
  induction v using Value.induction with
  | null => exact readsBack_of_succ fun _ _ _ _ => rfl
  | bool b => exact readsBack_of_succ fun _ _ _ _ => by cases b <;> rfl
  | number x =>
    refine readsBack_of_succ fun n rest ends _ => ?_
    rw [stringify, readValue_numeral format (format.numeral x) n ends, format.read_print]
  | string s =>
    refine readsBack_of_succ fun n rest _ _ => ?_
    rw [stringify, quoted_append, readValue, skip_cons (by decide)]
    simp only
    rw [readString_escaped]
    rfl
  | array items each =>
    refine readsBack_of_succ fun n rest _ enough => ?_
    cases proper with
    | array properItems =>
      rw [stringify, List.cons_append, List.append_assoc] at enough ⊢
      cases items with
      | nil => rfl
      | cons v items =>
        have read := readItems_stringifyItems format (fun w hw => each w hw (properItems w hw))
          (List.cons_ne_nil v items) n rest
          (by simp only [List.length_cons, List.length_append, List.length_nil] at enough ⊢; omega)
        obtain ⟨u, r, same, visible, notEnd⟩ := stringifyItems_first format v items
        show readValue format (n + 1) (91 :: (stringifyItems format (v :: items) ++ 93 :: rest)) = _
        rw [same, List.cons_append] at read ⊢
        rw [readValue_array visible notEnd, read]
        rfl
  | object fields each =>
    refine readsBack_of_succ fun n rest _ enough => ?_
    cases proper with
    | object distinct properFields =>
      rw [stringify, List.cons_append, List.append_assoc] at enough ⊢
      cases fields with
      | nil => rfl
      | cons f fields =>
        have read := readFields_stringifyFields format (fun g hg => each g hg (properFields g hg))
          (List.cons_ne_nil f fields) n [] distinct rest
          (by simp only [List.length_cons, List.length_append, List.length_nil] at enough ⊢; omega)
        obtain ⟨r, same⟩ := stringifyFields_first format f fields
        show readValue format (n + 1) (123 :: (stringifyFields format (f :: fields) ++ 125 :: rest)) = _
        rw [same, List.cons_append] at read ⊢
        rw [readValue_object, read]
        rfl

/-- **What is written is read back.** -/
theorem parse_stringify {v : Value N} (proper : Proper v) : parse format (stringify format v) = some v := by
  have read := readsBack format proper (2 * (stringify format v).length + 1) [] ends_nil (by simp)
  rw [List.append_nil] at read
  rw [parse, read, Option.bind_some]
  rfl

theorem parse_numeral {t : Text} (h : Numeral t) : parse format t = some (.number (format.read t)) := by
  have read := readValue_numeral format h (2 * t.length) ends_nil
  rw [List.append_nil] at read
  rw [parse, read, Option.bind_some]
  rfl

/-! ## The bound on the steps -/

theorem length_readString {t s r : Text} (read : readString t = some (s, r)) : s.length + r.length < t.length := by
  fun_induction readString t generalizing s r with
  | case1 => cases read
  | case2 t =>
    cases read
    simp
  | case3 a b c d t hex ih =>
    obtain ⟨⟨s', r'⟩, rest, same⟩ := Option.map_eq_some_iff.1 read
    obtain ⟨rfl, rfl⟩ := Prod.mk.inj same
    have := ih rest
    simp only [List.length_cons]
    omega
  | case4 => cases read
  | case5 c t _ ih =>
    obtain ⟨u, -, read⟩ := Option.bind_eq_some_iff.1 read
    obtain ⟨⟨s', r'⟩, rest, same⟩ := Option.map_eq_some_iff.1 read
    obtain ⟨rfl, rfl⟩ := Prod.mk.inj same
    have := ih rest
    simp only [List.length_cons]
    omega
  | case6 => cases read
  | case7 u t _ _ _ _ ih =>
    obtain ⟨⟨s', r'⟩, rest, same⟩ := Option.map_eq_some_iff.1 read
    obtain ⟨rfl, rfl⟩ := Prod.mk.inj same
    have := ih rest
    simp only [List.length_cons]
    omega

theorem length_skip (t : Text) : (skip t).length ≤ t.length := List.length_dropWhile_le _ _

theorem length_digits (t : Text) : (t.takeWhile digit).length + (t.dropWhile digit).length = t.length := by
  rw [← List.length_append, List.takeWhile_append_dropWhile]

theorem length_readWhole {t w r : Text} (read : readWhole t = some (w, r)) : r.length < t.length := by
  unfold readWhole at read
  split at read
  · cases read
    simp
  · split_ifs at read with empty
    cases read
    have digits := length_digits t
    have some_ := List.length_pos_iff.2 empty
    omega

theorem length_readFraction {t w r : Text} (read : readFraction t = some (w, r)) : r.length ≤ t.length := by
  unfold readFraction at read
  split at read
  · rename_i t
    split_ifs at read
    cases read
    have digits := length_digits t
    rw [List.length_cons]
    omega
  · cases read
    exact Nat.le_refl _

theorem length_readExponent {t w r : Text} (read : readExponent t = some (w, r)) : r.length ≤ t.length := by
  cases t with
  | nil =>
    cases read
    exact Nat.le_refl _
  | cons e t =>
    rw [readExponent] at read
    split_ifs at read
    · cases read
      have digits := length_digits (sign t).2
      obtain ⟨s, -, same⟩ := sign_spec t
      have signed := congrArg List.length same
      rw [List.length_append] at signed
      rw [List.length_cons]
      omega
    · cases read
      exact Nat.le_refl _

theorem length_readNumeral {t w r : Text} (read : readNumeral t = some (w, r)) : r.length < t.length := by
  obtain ⟨whole, first, read⟩ := Option.bind_eq_some_iff.1 read
  obtain ⟨fraction, second, read⟩ := Option.bind_eq_some_iff.1 read
  obtain ⟨exponent, third, same⟩ := Option.map_eq_some_iff.1 read
  obtain ⟨-, rfl⟩ := Prod.mk.inj same
  have minus : (readMinus t).2.length ≤ t.length := by
    unfold readMinus
    split <;> simp
  have := length_readWhole first
  have := length_readFraction second
  have := length_readExponent third
  omega

theorem length_readLiteral {t r : Text} {v : Value N} (read : readLiteral format t = some (v, r)) : r.length < t.length := by
  unfold readLiteral at read
  split_ifs at read with null true_ false_
  · cases read
    have long : 4 ≤ t.length := null.length_le
    rw [List.length_drop]
    omega
  · cases read
    have long : 4 ≤ t.length := true_.length_le
    rw [List.length_drop]
    omega
  · cases read
    have long : 5 ≤ t.length := false_.length_le
    rw [List.length_drop]
    omega
  · obtain ⟨⟨w, r'⟩, rest, same⟩ := Option.map_eq_some_iff.1 read
    obtain ⟨-, rfl⟩ := Prod.mk.inj same
    exact length_readNumeral rest

theorem length_of_skip {t t' : Text} {u : UInt16} (same : skip t = u :: t') : t'.length < t.length := by
  have shorter := length_skip t
  rw [same, List.length_cons] at shorter
  exact shorter

/-- A value that is read takes a character at least. -/
theorem shorter (format : NumberFormat N) (n : Nat) :
    (∀ {t : Text} {v : Value N} {r : Text}, readValue format n t = some (v, r) → r.length < t.length) ∧
    (∀ {t : Text} {vs : List (Value N)} {r : Text}, readItems format n t = some (vs, r) → r.length < t.length) ∧
    ∀ {fields : List (Text × Value N)} {t : Text} {vs : List (Text × Value N)} {r : Text},
      readFields format n fields t = some (vs, r) → r.length < t.length := by
  induction n with
  | zero => exact ⟨(by rintro _ _ _ ⟨⟩), (by rintro _ _ _ ⟨⟩), (by rintro _ _ _ _ ⟨⟩)⟩
  | succ n ih =>
    obtain ⟨value, items, fields⟩ := ih
    refine ⟨fun {t v r} read => ?_, fun {t vs r} read => ?_, fun {before t vs r} read => ?_⟩
    · rw [readValue] at read
      split at read
      · have first := length_of_skip ‹_›
        obtain ⟨⟨s, r'⟩, rest, same⟩ := Option.map_eq_some_iff.1 read
        obtain ⟨-, rfl⟩ : _ ∧ r' = r := Prod.mk.inj same
        have := length_readString rest
        omega
      · rename_i t' opens
        have first := length_of_skip opens
        split at read
        · have second := length_of_skip ‹_›
          cases read
          omega
        · obtain ⟨⟨vs, r'⟩, rest, same⟩ := Option.map_eq_some_iff.1 read
          obtain ⟨-, rfl⟩ : _ ∧ r' = r := Prod.mk.inj same
          have := items rest
          have := length_skip t'
          omega
      · rename_i t' opens
        have first := length_of_skip opens
        split at read
        · have second := length_of_skip ‹_›
          cases read
          omega
        · obtain ⟨⟨vs, r'⟩, rest, same⟩ := Option.map_eq_some_iff.1 read
          obtain ⟨-, rfl⟩ : _ ∧ r' = r := Prod.mk.inj same
          have := fields rest
          have := length_skip t'
          omega
      · have := length_readLiteral read
        have := length_skip t
        omega
    · obtain ⟨⟨v, t'⟩, first, read⟩ := Option.bind_eq_some_iff.1 read
      have := value first
      split at read
      · have := length_of_skip ‹_›
        obtain ⟨⟨vs, r'⟩, rest, same⟩ := Option.map_eq_some_iff.1 read
        obtain ⟨-, rfl⟩ : _ ∧ r' = r := Prod.mk.inj same
        have := items rest
        simp only at *
        omega
      · have := length_of_skip ‹_›
        cases read
        simp only at *
        omega
      · cases read
    · rw [readFields] at read
      split at read
      · have := length_of_skip ‹_›
        obtain ⟨⟨key, t₁⟩, name, read⟩ := Option.bind_eq_some_iff.1 read
        have := length_readString name
        split at read
        · have := length_of_skip ‹_›
          obtain ⟨⟨v, t₂⟩, first, read⟩ := Option.bind_eq_some_iff.1 read
          have := value first
          split at read
          · have := length_of_skip ‹_›
            have := fields read
            simp only at *
            omega
          · have := length_of_skip ‹_›
            cases read
            simp only at *
            omega
          · cases read
        · cases read
      · cases read

/-- No more steps are needed than twice the length of the text. -/
theorem steps_enough (n m : Nat) :
    (∀ t : Text, 2 * t.length < n → 2 * t.length < m → readValue format n t = readValue format m t) ∧
    (∀ t : Text, 2 * t.length + 1 < n → 2 * t.length + 1 < m → readItems format n t = readItems format m t) ∧
    ∀ (fields : List (Text × Value N)) (t : Text), 2 * t.length + 1 < n → 2 * t.length + 1 < m →
      readFields format n fields t = readFields format m fields t := by
  induction n generalizing m with
  | zero => exact ⟨fun _ h => by omega, fun _ h => by omega, fun _ _ h => by omega⟩
  | succ n ih =>
    cases m with
    | zero => exact ⟨fun _ _ h => by omega, fun _ _ h => by omega, fun _ _ _ h => by omega⟩
    | succ m =>
      obtain ⟨value, items, fields⟩ := ih m
      refine ⟨fun t h h' => ?_, fun t h h' => ?_, fun before t h h' => ?_⟩
      · rw [readValue, readValue]
        split
        · rfl
        · rename_i t' opens
          have first := length_of_skip opens
          have := length_skip t'
          split
          · rfl
          · rw [items _ (by omega) (by omega)]
        · rename_i t' opens
          have first := length_of_skip opens
          have := length_skip t'
          split
          · rfl
          · rw [fields _ _ (by omega) (by omega)]
        · rfl
      · rw [readItems, readItems, value t (by omega) (by omega)]
        cases first : readValue format m t with
        | none => rfl
        | some r =>
          have consumed := (shorter format m).1 first
          rw [Option.bind_some, Option.bind_some]
          split
          · have := length_of_skip ‹_›
            rw [items _ (by omega) (by omega)]
          · rfl
          · rfl
      · rw [readFields, readFields]
        split
        · have opens := length_of_skip ‹_›
          rename_i t' _
          cases name : readString t' with
          | none => rfl
          | some key =>
            have consumed := length_readString name
            rw [Option.bind_some, Option.bind_some]
            split
            · have colon := length_of_skip ‹_›
              rename_i t'' _
              rw [value t'' (by omega) (by omega)]
              cases first : readValue format m t'' with
              | none => rfl
              | some v =>
                have consumed' := (shorter format m).1 first
                rw [Option.bind_some, Option.bind_some]
                split
                · have := length_of_skip ‹_›
                  exact fields _ _ (by omega) (by omega)
                · rfl
                · rfl
            · rfl
        · rfl

/-- A text is longer than the string that is read from it. -/
theorem length_parse_string {t s : Text} (read : parse format t = some (.string s)) : s.length < t.length := by
  obtain ⟨⟨v, r⟩, first, read⟩ := Option.bind_eq_some_iff.1 read
  split_ifs at read
  obtain rfl : v = .string s := Option.some.inj read
  rw [readValue] at first
  split at first
  · have opens := length_of_skip ‹_›
    obtain ⟨⟨s', r'⟩, rest, same⟩ := Option.map_eq_some_iff.1 first
    obtain ⟨same, -⟩ := Prod.mk.inj same
    obtain rfl : s' = s := Value.string.inj same
    have := length_readString rest
    omega
  · split at first
    · cases first
    · obtain ⟨_, _, same⟩ := Option.map_eq_some_iff.1 first
      cases same
  · split at first
    · cases first
    · obtain ⟨_, _, same⟩ := Option.map_eq_some_iff.1 first
      cases same
  · unfold readLiteral at first
    split_ifs at first
    · cases first
    · cases first
    · cases first
    · obtain ⟨_, _, same⟩ := Option.map_eq_some_iff.1 first
      cases same

end

/-! ## Well-formed texts -/

def surrogate (u : UInt16) : Bool := highSurrogate u || lowSurrogate u

/-- No surrogate is without its partner. -/
def wellFormed : Text → Bool
  | [] => true
  | [u] => !surrogate u
  | u :: v :: s => if highSurrogate u ∧ lowSurrogate v then wellFormed s else !surrogate u && wellFormed (v :: s)

def replaced (u : UInt16) : UInt16 := if surrogate u then 0xFFFD else u

/-- What is left of a text that is sent as UTF-8: a surrogate without its partner becomes the
replacement character. -/
def toWellFormed : Text → Text
  | [] => []
  | [u] => [replaced u]
  | u :: v :: s => if highSurrogate u ∧ lowSurrogate v then u :: v :: toWellFormed s else replaced u :: toWellFormed (v :: s)

theorem replaced_eq_iff {u : UInt16} : replaced u = u ↔ surrogate u = false := by
  unfold replaced
  split
  · rename_i half
    rw [half]
    constructor
    · rintro rfl
      cases half
    · intro h
      cases h
  · rename_i whole
    simp [whole]

theorem toWellFormed_eq_iff (t : Text) : toWellFormed t = t ↔ wellFormed t = true := by
  fun_induction toWellFormed t with
  | case1 => simp [wellFormed]
  | case2 u => simp [wellFormed, replaced_eq_iff]
  | case3 u v s pair ih => simp [wellFormed, pair, ih]
  | case4 u v s single ih => simp only [List.cons.injEq, replaced_eq_iff, ih, wellFormed, if_neg single, Bool.and_eq_true,
      Bool.not_eq_true']

theorem length_toWellFormed (t : Text) : (toWellFormed t).length = t.length := by
  fun_induction toWellFormed t with
  | case1 => rfl
  | case2 => rfl
  | case3 u v s pair ih => rw [List.length_cons, List.length_cons, ih]; rfl
  | case4 u v s single ih => rw [List.length_cons, ih]; rfl

theorem wellFormed_cons {u : UInt16} (whole : surrogate u = false) {t : Text} (h : wellFormed t = true) :
    wellFormed (u :: t) = true := by
  cases t with
  | nil => simp [wellFormed, whole]
  | cons v t =>
    have single : ¬(highSurrogate u = true ∧ lowSurrogate v = true) := by
      intro pair
      rw [surrogate, pair.1] at whole
      cases whole
    rw [wellFormed, if_neg single, whole, h]
    rfl

theorem wellFormed_append {s t : Text} (hs : wellFormed s = true) (ht : wellFormed t = true) : wellFormed (s ++ t) = true := by
  fun_induction wellFormed s with
  | case1 => exact ht
  | case2 u => exact wellFormed_cons (by simpa using hs) ht
  | case3 u v s pair ih =>
    rw [List.cons_append, List.cons_append, wellFormed, if_pos pair]
    exact ih hs
  | case4 u v s single ih =>
    rw [Bool.and_eq_true, Bool.not_eq_true'] at hs
    exact wellFormed_cons hs.1 (ih hs.2)

theorem wellFormed_of_whole {t : Text} (whole : ∀ u ∈ t, surrogate u = false) : wellFormed t = true := by
  induction t with
  | nil => rfl
  | cons u t ih =>
    obtain ⟨first, rest⟩ := List.forall_mem_cons.1 whole
    exact wellFormed_cons first (ih rest)

/-! ## What is written is well-formed -/

theorem surrogate_iff {u : UInt16} : surrogate u = true ↔ 0xD800 ≤ u ∧ u ≤ 0xDFFF := by
  unfold surrogate highSurrogate lowSurrogate
  rw [Bool.or_eq_true, decide_eq_true_eq, decide_eq_true_eq]
  grind

theorem whole_of_lt {u : UInt16} (h : u < 128) : surrogate u = false := by
  rw [Bool.eq_false_iff, ne_eq, surrogate_iff]
  grind

theorem whole_of_digit {u : UInt16} (h : digit u = true) : surrogate u = false := by
  have bounds : 48 ≤ u ∧ u ≤ 57 := of_decide_eq_true h
  exact whole_of_lt (by grind)

theorem whole_hexCharacter : ∀ n < 16, surrogate (hexCharacter n) = false := by decide

theorem wellFormed_escapedUnit (u : UInt16) : wellFormed (escapedUnit u) = true := by
  have small := u.toNat_lt
  unfold escapedUnit
  split_ifs with quote slash backspace tab newline feed carriage control
  · rfl
  · rfl
  · rfl
  · rfl
  · rfl
  · rfl
  · rfl
  · refine wellFormed_of_whole ?_
    unfold unicodeEscape hexadecimal
    simp only [List.mem_cons, List.not_mem_nil, or_false, forall_eq_or_imp, forall_eq]
    exact ⟨by decide, by decide, whole_hexCharacter _ (by omega), whole_hexCharacter _ (by omega),
      whole_hexCharacter _ (by omega), whole_hexCharacter _ (by omega)⟩
  · simp only [not_or, Bool.not_eq_true] at control
    simp [wellFormed, surrogate, control.2.1, control.2.2]

theorem wellFormed_escaped (s : Text) : wellFormed (escaped s) = true := by
  fun_induction escaped s with
  | case1 => rfl
  | case2 u => exact wellFormed_escapedUnit u
  | case3 u v s pair ih => rw [wellFormed, if_pos pair, ih]
  | case4 u v s single ih => exact wellFormed_append (wellFormed_escapedUnit u) ih

theorem wellFormed_quoted (s : Text) : wellFormed (quoted s) = true :=
  wellFormed_cons rfl (wellFormed_append (wellFormed_escaped s) rfl)

theorem Numeral.whole {t : Text} (h : Numeral t) : ∀ u ∈ t, surrogate u = false := by
  obtain ⟨minus, whole, fraction, exponent, hm, hw, hf, he, rfl⟩ := h
  have digits {ds : Text} (h : Digits ds) : ∀ u ∈ ds, surrogate u = false := fun u hu => whole_of_digit (h u hu)
  simp only [List.forall_mem_append]
  refine ⟨?_, ?_, ?_, ?_⟩
  · obtain rfl | rfl := hm
    · exact List.forall_mem_nil _
    · exact List.forall_mem_singleton.2 rfl
  · cases hw with
    | zero => exact List.forall_mem_singleton.2 rfl
    | digits first _ rest => exact List.forall_mem_cons.2 ⟨whole_of_digit first, digits rest⟩
  · cases hf with
    | none => exact List.forall_mem_nil _
    | digits _ rest => exact List.forall_mem_cons.2 ⟨rfl, digits rest⟩
  · cases he with
    | none => exact List.forall_mem_nil _
    | @digits e s ds minus mark sign_ _ rest =>
      refine List.forall_mem_cons.2 ⟨whole_of_lt ?_, List.forall_mem_append.2 ⟨?_, digits rest⟩⟩
      · revert mark
        unfold canonicalize
        grind
      · cases sign_ with
        | none => exact List.forall_mem_nil _
        | plus => exact List.forall_mem_singleton.2 rfl
        | minus => exact List.forall_mem_singleton.2 rfl

theorem wellFormed_stringify {N : Type} (format : NumberFormat N) (v : Value N) : wellFormed (stringify format v) = true := by
  induction v using Value.induction with
  | null => rfl
  | bool b => cases b <;> rfl
  | number n => exact wellFormed_of_whole (format.numeral n).whole
  | string s => exact wellFormed_quoted s
  | array items each =>
    refine wellFormed_cons rfl (wellFormed_append ?_ rfl)
    induction items with
    | nil => rfl
    | cons v items ih =>
      obtain ⟨first, others⟩ := List.forall_mem_cons.1 each
      cases items with
      | nil => exact first
      | cons next items => exact wellFormed_append first (wellFormed_cons rfl (ih others))
  | object fields each =>
    refine wellFormed_cons rfl (wellFormed_append ?_ rfl)
    induction fields with
    | nil => rfl
    | cons f fields ih =>
      obtain ⟨first, others⟩ := List.forall_mem_cons.1 each
      cases fields with
      | nil => exact wellFormed_append (wellFormed_quoted _) (wellFormed_cons rfl first)
      | cons next fields =>
        exact wellFormed_append (wellFormed_quoted _)
          (wellFormed_cons rfl (wellFormed_append first (wellFormed_cons rfl (ih others))))

theorem stringify_ne_nil {N : Type} (format : NumberFormat N) (v : Value N) : stringify format v ≠ [] := by
  obtain ⟨u, r, same, -⟩ := stringify_first format v
  rw [same]
  exact List.cons_ne_nil u r

end Heightt.JsonText
