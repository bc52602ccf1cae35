import Mathlib.Algebra.Order.Ring.Nat
import Mathlib.Data.List.Lex
import Mathlib.Data.List.TakeWhile
import Mathlib.Data.Char

/-!
# Decimal numerals

Numerals that are padded with zeros to a width, as texts. Among those of the width, the order
of texts is the order of numbers; a numeral that outgrows the width comes before them.
-/

namespace Heightt.Numerals

/-- `String(n).padStart(w, '0')` -/
def padded (w n : Nat) : List Char := (Nat.toDigits 10 n).leftpad w '0'

/-- The number a text of digits stands for. -/
def value (text : List Char) : Nat := Nat.ofDigitChars 10 text 0

/-- The number that the digits at the start of a text stand for, as `parseInt` reads it; `none` is
`NaN`. -/
def parseInt (text : List Char) : Option Nat :=
  match text.takeWhile Char.isDigit with
  | [] => none
  | digits => some (value digits)

@[simp] theorem value_padded (w n : Nat) : value (padded w n) = n := by
  unfold value padded List.leftpad
  rw [Nat.ofDigitChars_append, Nat.ofDigitChars_replicate_zero, Nat.mul_zero, Nat.ofDigitChars_ten_toDigits]

theorem padded_injective (w : Nat) : (padded w).Injective := fun m n h => by
  rw [← value_padded w m, h, value_padded]

theorem isDigit_padded (w n : Nat) : ∀ c ∈ padded w n, c.isDigit := by
  intro c hc
  obtain hc | hc := List.mem_append.1 hc
  · rw [List.eq_of_mem_replicate hc]
    rfl
  · exact Nat.isDigit_of_mem_toDigits (by omega) (by omega) hc

theorem padded_ne_nil (w n : Nat) : padded w n ≠ [] :=
  List.append_ne_nil_of_right_ne_nil _ Nat.toDigits_ne_nil

theorem length_padded {w n : Nat} (pos : 0 < w) (h : n < 10 ^ w) : (padded w n).length = w := by
  have short := (Nat.length_toDigits_le_iff (by omega) pos).2 h
  simp only [padded, List.leftpad, List.length_append, List.length_replicate]
  omega

/-- A padded numeral is read back. -/
theorem parseInt_padded (w n : Nat) : parseInt (padded w n) = some n := by
  have all : (padded w n).takeWhile Char.isDigit = padded w n := List.takeWhile_eq_self_iff.2 (isDigit_padded w n)
  unfold parseInt
  rw [all]
  split
  · exact absurd ‹_› (padded_ne_nil w n)
  · rw [value_padded]

/-! ## The order of texts -/

/-- The digit a character stands for. -/
def digit (c : Char) : Nat := c.toNat - 48

theorem digit_bounds {c : Char} (h : c.isDigit) : 48 ≤ c.toNat ∧ c.toNat ≤ 57 := Char.isDigit_iff_toNat.1 h

theorem lt_iff_digit_lt {c c' : Char} (h : c.isDigit) (h' : c'.isDigit) : c < c' ↔ digit c < digit c' := by
  have bounds := digit_bounds h
  have bounds' := digit_bounds h'
  unfold digit
  rw [Char.lt_def, UInt32.lt_iff_toNat_lt]
  show c.toNat < c'.toNat ↔ _
  omega

theorem eq_of_digit_eq {c c' : Char} (h : c.isDigit) (h' : c'.isDigit) (same : digit c = digit c') : c = c' := by
  have bounds := digit_bounds h
  have bounds' := digit_bounds h'
  unfold digit at same
  exact Char.toNat_inj.1 (by omega)

theorem value_cons (c : Char) (text : List Char) :
    value (c :: text) = 10 ^ text.length * digit c + value text := by
  unfold value
  rw [Nat.ofDigitChars_cons, Nat.ofDigitChars_eq_ofDigitChars_zero, Nat.mul_zero, Nat.zero_add]
  rfl

theorem value_lt {text : List Char} (digits : ∀ c ∈ text, c.isDigit) : value text < 10 ^ text.length := by
  induction text with
  | nil => decide
  | cons c text ih =>
    obtain ⟨hc, rest⟩ := List.forall_mem_cons.1 digits
    have bounds := digit_bounds hc
    have leading : 10 ^ text.length * digit c ≤ 10 ^ text.length * 9 :=
      Nat.mul_le_mul_left _ (by unfold digit; omega)
    rw [value_cons, List.length_cons, Nat.pow_succ]
    have := ih rest
    omega

/-- The leading digits decide. -/
theorem leading_lt {p a b x y : Nat} (less : a < b) (hx : x < p) : p * a + x < p * b + y := by
  have step : p * (a + 1) ≤ p * b := Nat.mul_le_mul_left p less
  rw [Nat.mul_add, Nat.mul_one] at step
  omega

/-- Among texts of one length the order is that of the numbers, by induction on the texts. -/
theorem lt_iff_value_lt {s t : List Char} (hs : ∀ c ∈ s, c.isDigit) (ht : ∀ c ∈ t, c.isDigit)
    (length : s.length = t.length) : s < t ↔ value s < value t := by
  induction s generalizing t with
  | nil =>
    obtain rfl := List.length_eq_zero_iff.1 length.symm
    simp
  | cons c s ih =>
    cases t with
    | nil => cases length
    | cons c' t =>
      obtain ⟨hc, hs⟩ := List.forall_mem_cons.1 hs
      obtain ⟨hc', ht⟩ := List.forall_mem_cons.1 ht
      have same : s.length = t.length := Nat.succ_inj.1 length
      have below := value_lt hs
      have below' := value_lt ht
      rw [List.cons_lt_cons_iff, lt_iff_digit_lt hc hc', value_cons, value_cons, ih hs ht same]
      rw [same] at below ⊢
      constructor
      · rintro (less | ⟨rfl, less⟩)
        · exact leading_lt less below
        · omega
      · intro less
        rcases Nat.lt_trichotomy (digit c) (digit c') with h | h | h
        · exact .inl h
        · rw [h] at less
          exact .inr ⟨eq_of_digit_eq hc hc' h, by omega⟩
        · exact absurd (leading_lt (y := value s) h below') (by omega)

/-- Numerals that fit the width are ordered as their numbers are. -/
theorem padded_lt_iff {w m n : Nat} (pos : 0 < w) (hm : m < 10 ^ w) (hn : n < 10 ^ w) :
    padded w m < padded w n ↔ m < n := by
  rw [lt_iff_value_lt (isDigit_padded w m) (isDigit_padded w n)
    ((length_padded pos hm).trans (length_padded pos hn).symm), value_padded, value_padded]

end Heightt.Numerals
