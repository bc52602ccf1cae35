import Heightt.Numbers.DecimalTexts
import Heightt.Schema.Services
import Mathlib.Tactic.Linarith
import Mathlib.Tactic.FieldSimp

/-!
# Amounts of settlements

`toBachsAmount` and `fromBachsAmount` of `bachs.client.ts`, and the comparison that `completePayment`
of `bachs.service.ts` makes with the amount it expects. The provider's text is read by `parseFloat`
and rounded to Kobo before the comparison.
-/

namespace Heightt.Bachs

open Text

/-! ## Writing -/

/-- `String(x)` of the number that is a hundredth of these digits, from `10 ^ 21` on. -/
def scientific (digits : List Char) : List Char :=
  match (digits.reverse.dropWhile (· = '0')).reverse with
  | [] => []
  | [d] => d :: 'e' :: '+' :: Nat.toDigits 10 (digits.length - 3)
  | d :: ds => d :: '.' :: (ds ++ 'e' :: '+' :: Nat.toDigits 10 (digits.length - 3))

/-- `(amountInKobo / 100).toFixed(2)` -/
def BachsClient.toBachsAmount (amountInKobo : Nat) : Text :=
  if amountInKobo < 10 ^ 23 then
    let digits := Numerals.padded 3 amountInKobo
    characters (digits.take (digits.length - 2) ++ '.' :: digits.drop (digits.length - 2))
  else characters (scientific (Nat.toDigits 10 amountInKobo))

/-! ## Reading -/

/-- `none` is `NaN`, or infinite. -/
def BachsClient.fromBachsAmount (amountInBachs : Text) : Option Int :=
  (parseFloat amountInBachs).map fun amount => Heightt.BachsClient.round (amount * 100)

def maxSafeInteger : Int := 2 ^ 53 - 1

def isSafeInteger (n : Int) : Bool := -maxSafeInteger ≤ n ∧ n ≤ maxSafeInteger

inductive AmountFault where
  /-- "Provider returned an invalid amount" -/
  | invalidAmount
  /-- "Payment settlement mismatch: expected … Kobo, received … Kobo" -/
  | mismatch (expected received : Int)
  deriving DecidableEq

def BachsService.checkAmount (amountInBachs : Text) (expectedSettlementAmount : Int) : Except AmountFault Unit :=
  match BachsClient.fromBachsAmount amountInBachs with
  | none => .error .invalidAmount
  | some amountInKobo =>
    if !isSafeInteger amountInKobo ∨ amountInKobo ≤ 0 then .error .invalidAmount
    else if amountInKobo ≠ expectedSettlementAmount then .error (.mismatch expectedSettlementAmount amountInKobo)
    else .ok ()

/-! ## What passes -/

/-- The number is rounded to this many Kobo. -/
def Near (amount : ℚ) (kobo : Int) : Prop := kobo - 1 / 2 ≤ 100 * amount ∧ 100 * amount < kobo + 1 / 2

theorem round_iff {amount : ℚ} {kobo : Int} : Heightt.BachsClient.round (amount * 100) = kobo ↔ Near amount kobo := by
  rw [Heightt.BachsClient.round, Int.floor_eq_iff, Near]
  constructor <;> rintro ⟨below, above⟩ <;> constructor <;> linarith

/-- The numeral at the front decides, and what follows it does not count. -/
theorem checkAmount_iff {s : Text} {e : Int} (positive : 0 < e) :
    BachsService.checkAmount s e = .ok () ↔ e ≤ maxSafeInteger ∧ ∃ amount, parseFloat s = some amount ∧ Near amount e := by
  unfold BachsService.checkAmount BachsClient.fromBachsAmount
  cases parseFloat s with
  | none => simp
  | some amount =>
    have above : -maxSafeInteger ≤ e := Int.le_trans (by decide) (Int.le_of_lt positive)
    simp only [Option.map_some, Option.some.injEq, exists_eq_left', ← round_iff]
    generalize Heightt.BachsClient.round (amount * 100) = kobo
    constructor
    · intro passed
      split_ifs at passed with invalid other
      obtain rfl := not_not.1 other
      simp only [isSafeInteger, Bool.not_eq_true', decide_eq_false_iff_not, not_or, not_not] at invalid
      exact ⟨invalid.1.2, rfl⟩
    · rintro ⟨safe, rfl⟩
      rw [if_neg, if_neg (by simp)]
      simp only [isSafeInteger, above, safe, and_self, decide_true, Bool.not_true, Bool.false_eq_true, false_or]
      omega

theorem near_of_eq {e : Int} : Near (e / 100) e := by
  constructor <;> linarith

/-! ## The provider's amounts are read back -/

theorem denotes_toBachsAmount {e : Nat} (small : e < 10 ^ 23) : Denotes (BachsClient.toBachsAmount e) (e / 100) := by
  have digits := Numerals.isDigit_padded 3 e
  have long : 3 ≤ (Numerals.padded 3 e).length := by
    unfold Numerals.padded List.leftpad
    simp only [List.length_append, List.length_replicate]
    omega
  rw [BachsClient.toBachsAmount, if_pos small]
  have value_ := value_characters digits
  rw [Numerals.value_padded] at value_
  generalize Numerals.padded 3 e = text at digits long value_
  have parts : characters text = characters (text.take (text.length - 2)) ++ characters (text.drop (text.length - 2)) := by
    unfold characters
    rw [← List.map_append, List.take_append_drop]
  have two : (characters (text.drop (text.length - 2))).length = 2 := by
    unfold characters
    rw [List.length_map, List.length_drop]
    omega
  refine ⟨[], false, characters (text.take (text.length - 2)), _, characters (text.drop (text.length - 2)), [], 0, .none,
    digits_characters fun c hc => digits c (List.mem_of_mem_take hc),
    .point _ (digits_characters fun c hc => digits c (List.mem_of_mem_drop hc)), .none, ?_, ?_, ?_⟩
  · rw [← parts, ← List.length_pos_iff, characters, List.length_map]
    omega
  · simp only [characters, List.map_append, List.map_cons, List.nil_append, List.append_nil]
    rfl
  · rw [← parts, value_, two]
    norm_num [zpow_neg, div_eq_mul_inv]

/-! ## Which texts are settled exactly -/

/-- The text begins with a numeral that is rounded to the amount only if it is a numeral of it; an
amount beyond the safe integers is not written. -/
def Exact (s : Text) (e : Nat) : Prop :=
  if (e : Int) ≤ maxSafeInteger then ∀ amount, parseFloat s = some amount → Near amount e → Denotes s (e / 100)
  else ¬Denotes s (e / 100)

example : BachsClient.toBachsAmount 105 = units "1.05" ∧ BachsClient.toBachsAmount (12 * 10 ^ 22) = units "1.2e+21" := by
  decide +kernel

end Heightt.Bachs
