import Heightt.Numbers.Numerals
import Heightt.Schema.Encodings
import Mathlib.Algebra.Field.Rat
import Mathlib.Data.List.TakeWhile

/-!
# Decimal numerals at the front of a text

`parseFloat` reads the longest numeral a text begins with and passes over what follows. The
grammar of numerals is given apart, with the number each one denotes, and the reader is shown to
read exactly these.
-/

namespace Heightt.Text

/-- The number that digits stand for. -/
def value (ds : Text) : Nat := ds.foldl (fun n u => n * 10 + hexValue u) 0

/-- Whether a minus leads, and what follows the sign. -/
def sign : Text → Bool × Text
  | 43 :: t => (false, t)
  | 45 :: t => (true, t)
  | t => (false, t)

def signed (minus : Bool) (n : Int) : Int := if minus then -n else n

/-- An `e` without digits is not part of the numeral. -/
def exponentPart : Text → Int × Text
  | [] => (0, [])
  | u :: t =>
    if canonicalize u = 69 ∧ (sign t).2.takeWhile digit ≠ [] then
      (signed (sign t).1 (value ((sign t).2.takeWhile digit)), (sign t).2.dropWhile digit)
    else (0, u :: t)

/-- The digits before the point and after it, of which there are some, and the text after these. -/
def unsignedParts (whole after rest : Text) : Option (ℚ × Text) :=
  if whole ++ after = [] then none
  else some (scaled (value (whole ++ after)) ((exponentPart rest).1 - after.length), (exponentPart rest).2)

def unsignedNumeral (t : Text) : Option (ℚ × Text) :=
  unsignedParts (t.takeWhile digit) (fraction (t.dropWhile digit)).1 (fraction (t.dropWhile digit)).2

/-- The numeral at the front and the text after it. -/
def numeral (t : Text) : Option (ℚ × Text) :=
  (unsignedNumeral (sign t).2).map fun r => (if (sign t).1 then -r.1 else r.1, r.2)

/-- `parseFloat`, where it is finite. -/
def parseFloat (t : Text) : Option ℚ := (numeral (t.dropWhile whiteSpace)).map Prod.fst

/-! ## Numerals and what they denote -/

inductive Sign : Text → Bool → Prop
  | none : Sign [] false
  | plus : Sign [43] false
  | minus : Sign [45] true

def Digits (ds : Text) : Prop := ∀ u ∈ ds, digit u = true

/-- A point and digits, with the digits; or neither. -/
inductive Fraction : Text → Text → Prop
  | none : Fraction [] []
  | point (ds : Text) : Digits ds → Fraction (46 :: ds) ds

inductive Exponent : Text → Int → Prop
  | none : Exponent [] 0
  | marked {u : UInt16} {s ds : Text} {minus : Bool} : canonicalize u = 69 → Sign s minus → ds ≠ [] → Digits ds →
      Exponent (u :: (s ++ ds)) (signed minus (value ds))

/-- The text is a decimal numeral of the number, from its first character to its last. -/
def Denotes (t : Text) (x : ℚ) : Prop :=
  ∃ s minus whole p after e k, Sign s minus ∧ Digits whole ∧ Fraction p after ∧ Exponent e k ∧ whole ++ after ≠ [] ∧
    t = s ++ (whole ++ (p ++ e)) ∧
    x = (if minus then -1 else 1) * (value (whole ++ after) * 10 ^ (k - after.length : ℤ))

theorem scaled_eq (n : Nat) (e : Int) : scaled n e = n * (10 : ℚ) ^ e := by
  unfold scaled
  rw [Rat.mkRat_eq_div]
  obtain ⟨k, rfl | rfl⟩ := Int.eq_nat_or_neg e
  · simp
  · simp [div_eq_mul_inv]

/-! ## Reading is exact -/

theorem digits_takeWhile (t : Text) : Digits (t.takeWhile digit) := fun _ hu => List.mem_takeWhile_imp hu

/-- Digits are read up to the first character that is none. -/
theorem takeWhile_digits {ds rest : Text} (digits : Digits ds) (stop : ∀ u ∈ rest.head?, digit u = false) :
    (ds ++ rest).takeWhile digit = ds ∧ (ds ++ rest).dropWhile digit = rest := by
  rw [List.takeWhile_append_of_pos digits, List.dropWhile_append_of_pos digits]
  cases rest with
  | nil => simp
  | cons u rest => simp [stop u rfl]

theorem sign_spec (t : Text) : ∃ s, Sign s (sign t).1 ∧ t = s ++ (sign t).2 := by
  unfold sign
  split
  · exact ⟨[43], .plus, rfl⟩
  · exact ⟨[45], .minus, rfl⟩
  · exact ⟨[], .none, rfl⟩

theorem sign_append {s r : Text} {minus : Bool} (h : Sign s minus) (next : ∀ u ∈ r.head?, u ≠ 43 ∧ u ≠ 45) :
    sign (s ++ r) = (minus, r) := by
  cases h with
  | plus => rfl
  | minus => rfl
  | none =>
    rw [List.nil_append]
    unfold sign
    split
    · exact absurd rfl (next 43 rfl).1
    · exact absurd rfl (next 45 rfl).2
    · rfl

theorem fraction_spec (t : Text) : ∃ p, Fraction p (fraction t).1 ∧ t = p ++ (fraction t).2 := by
  unfold fraction
  split
  · rename_i t
    exact ⟨_, .point _ (digits_takeWhile t), by simp⟩
  · exact ⟨[], .none, rfl⟩

theorem fraction_append {p after r : Text} (h : Fraction p after)
    (next : ∀ u ∈ r.head?, digit u = false ∧ u ≠ 46) : fraction (p ++ r) = (after, r) := by
  cases h with
  | point ds digits =>
    have read := takeWhile_digits digits fun u hu => (next u hu).1
    rw [List.cons_append, fraction, read.1, read.2]
  | none =>
    rw [List.nil_append]
    unfold fraction
    split
    · exact absurd rfl (next 46 rfl).2
    · rfl

theorem exponentPart_spec (t : Text) : ∃ e, Exponent e (exponentPart t).1 ∧ t = e ++ (exponentPart t).2 := by
  fun_cases exponentPart t with
  | case1 => exact ⟨[], .none, rfl⟩
  | case2 u t marked =>
    obtain ⟨s, hs, same⟩ := sign_spec t
    refine ⟨_, .marked marked.1 hs marked.2 (digits_takeWhile _), ?_⟩
    rw [List.cons_append, List.append_assoc, List.takeWhile_append_dropWhile, ← same]
  | case3 u t unmarked => exact ⟨[], .none, rfl⟩

theorem digit_head {ds : Text} (digits : Digits ds) : ∀ u ∈ ds.head?, u ≠ 43 ∧ u ≠ 45 := by
  intro u hu
  have isDigit := digits u (List.mem_of_mem_head? hu)
  constructor <;> rintro rfl <;> cases isDigit

theorem exponentPart_exponent {e : Text} {k : Int} (h : Exponent e k) : exponentPart e = (k, []) := by
  cases h with
  | none => rfl
  | marked mark hs some_ digits =>
    rename_i u s ds minus
    have read : (ds ++ []).takeWhile digit = ds ∧ (ds ++ []).dropWhile digit = [] := takeWhile_digits digits (by simp)
    rw [List.append_nil] at read
    rw [exponentPart, sign_append hs (digit_head digits), read.1, read.2, if_pos ⟨mark, some_⟩]

theorem exponent_head {e : Text} {k : Int} (h : Exponent e k) : ∀ u ∈ e.head?, digit u = false ∧ u ≠ 46 := by
  cases h with
  | none => simp
  | @marked u s ds minus mark =>
    intro w hw
    obtain rfl := Option.some.inj hw
    have other (v : UInt16) (small : v < 65) : u ≠ v := by
      rintro rfl
      revert mark small
      unfold canonicalize
      grind
    refine ⟨?_, other 46 (by decide)⟩
    revert mark
    unfold canonicalize digit
    grind

/-- **The reader reads the grammar.** -/
theorem numeral_iff {t : Text} {x : ℚ} : numeral t = some (x, []) ↔ Denotes t x := by
  constructor
  · intro read
    obtain ⟨⟨y, rest⟩, unsigned, same⟩ := Option.map_eq_some_iff.1 read
    obtain ⟨s, hs, split⟩ := sign_spec t
    unfold unsignedNumeral unsignedParts at unsigned
    obtain ⟨p, hp, point⟩ := fraction_spec ((sign t).2.dropWhile digit)
    split_ifs at unsigned with empty
    obtain ⟨rfl, rfl⟩ := Prod.mk.inj (Option.some.inj unsigned)
    obtain ⟨value_, ends⟩ := Prod.mk.inj same
    obtain ⟨e, he, exponent⟩ := exponentPart_spec (fraction ((sign t).2.dropWhile digit)).2
    rw [ends, List.append_nil] at exponent
    refine ⟨s, _, _, p, _, e, _, hs, digits_takeWhile _, hp, he, empty, ?_, ?_⟩
    · rw [← exponent, ← point, List.takeWhile_append_dropWhile, ← split]
    · rw [← value_, scaled_eq]
      cases (sign t).1 <;> simp
  · rintro ⟨s, minus, whole, p, after, e, k, hs, digits, hp, he, some_, rfl, rfl⟩
    have afterPoint : ∀ u ∈ (p ++ e).head?, digit u = false := by
      cases hp with
      | none => exact fun u hu => (exponent_head he u hu).1
      | point => rintro u ⟨⟩; rfl
    have unsigned : ∀ u ∈ (whole ++ (p ++ e)).head?, u ≠ 43 ∧ u ≠ 45 := by
      cases whole with
      | cons d whole =>
        rintro u ⟨⟩
        exact digit_head digits d rfl
      | nil =>
        cases hp with
        | none => exact absurd rfl some_
        | point => rintro u ⟨⟩; decide
    have read := takeWhile_digits digits afterPoint
    rw [numeral, sign_append hs unsigned, unsignedNumeral, read.1, read.2, fraction_append hp (exponent_head he),
      unsignedParts, if_neg some_, exponentPart_exponent he, Option.map_some, scaled_eq]
    cases minus <;> simp

theorem visible_of_digit {u : UInt16} (h : digit u = true) : whiteSpace u = false := by
  have bounds : 48 ≤ u ∧ u ≤ 57 := of_decide_eq_true h
  rw [UInt16.le_iff_toNat_le, UInt16.le_iff_toNat_le] at bounds
  simp only [whiteSpace, List.mem_cons, List.not_mem_nil, or_false, decide_eq_false_iff_not, UInt16.le_iff_toNat_le,
    ← UInt16.toNat_inj, UInt16.reduceToNat] at bounds ⊢
  omega

/-- A numeral does not begin with white space. -/
theorem Denotes.dropWhile {t : Text} {x : ℚ} (h : Denotes t x) : t.dropWhile whiteSpace = t := by
  obtain ⟨s, minus, whole, p, after, e, k, hs, digits, hp, he, some_, rfl, rfl⟩ := h
  have visible {u : UInt16} {r : Text} (h : whiteSpace u = false) : (u :: r).dropWhile whiteSpace = u :: r := by
    rw [List.dropWhile_cons_of_neg (by simp [h])]
  cases hs with
  | plus => exact visible rfl
  | minus => exact visible rfl
  | none =>
    cases whole with
    | cons d whole => exact visible (visible_of_digit (digits d List.mem_cons_self))
    | nil =>
      cases hp with
      | none => exact absurd rfl some_
      | point => exact visible rfl

theorem Denotes.parseFloat {t : Text} {x : ℚ} (h : Denotes t x) : parseFloat t = some x := by
  rw [Text.parseFloat, h.dropWhile, numeral_iff.2 h]
  rfl

/-! ## Numerals of natural numbers -/

def characters (text : List Char) : Text := text.map codeUnit

theorem hexValue_codeUnit {c : Char} (h : c.isDigit) : digit (codeUnit c) = true ∧ hexValue (codeUnit c) = c.toNat - 48 := by
  have bounds := Numerals.digit_bounds h
  have small : (codeUnit c).toNat = c.toNat := by
    rw [codeUnit, Nat.toUInt16_eq, UInt16.toNat_ofNat']
    omega
  have isDigit : digit (codeUnit c) = true := by
    simp only [digit, UInt16.le_iff_toNat_le, small, UInt16.reduceToNat, decide_eq_true_eq]
    exact bounds
  exact ⟨isDigit, by rw [hexValue, if_pos isDigit, small]⟩

theorem digits_characters {ds : List Char} (digits : ∀ c ∈ ds, c.isDigit) : Digits (characters ds) := by
  intro u hu
  obtain ⟨c, hc, rfl⟩ := List.mem_map.1 hu
  exact (hexValue_codeUnit (digits c hc)).1

theorem value_characters {ds : List Char} (digits : ∀ c ∈ ds, c.isDigit) : value (characters ds) = Numerals.value ds := by
  unfold value characters Numerals.value Nat.ofDigitChars
  generalize 0 = n
  induction ds generalizing n with
  | nil => rfl
  | cons c ds ih =>
    obtain ⟨hc, rest⟩ := List.forall_mem_cons.1 digits
    rw [List.map_cons, List.foldl_cons, List.foldl_cons, ih rest, (hexValue_codeUnit hc).2, Nat.mul_comm n]
    rfl

end Heightt.Text
