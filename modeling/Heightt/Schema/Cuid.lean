import Mathlib.Data.List.Infix
import Mathlib.Data.Nat.Digits.Defs

/-!
# Row identifiers and hold reasons

Rows are identified by cuids: 25 characters, each a digit or a lower-case
letter. The reason of a wallet hold is a sentence with the identifier of its
withdrawal at the end, and a hold is later found again by a text that its reason
`contains`. The comparison is case-sensitive, so the sentence of a platform
withdrawal does not contain the one of a user or organisation withdrawal.
-/

namespace Heightt

/-- An identifier made by `cuid()`. -/
structure Cuid where
  chars : List Char
  length_chars : chars.length = 25
  alnum : chars.all (fun c => c.isDigit || c.isLower) = true
  deriving DecidableEq

abbrev Id := Cuid

namespace Cuid

/-- The base-36 digit `n`. -/
def digit (n : Nat) : Char := if n % 36 < 10 then Char.ofNat (48 + n % 36) else Char.ofNat (87 + n % 36)

/-- The last `k` base-36 digits of `n`, the last one first. -/
def digits : Nat → Nat → List Char
  | 0, _ => []
  | k + 1, n => digit n :: digits k (n / 36)

theorem length_digits (k n : Nat) : (digits k n).length = k := by
  induction k generalizing n with
  | zero => rfl
  | succ k ih => rw [digits, List.length_cons, ih]

theorem digit_alnum (n : Nat) : ((digit n).isDigit || (digit n).isLower) = true := by
  have small : ∀ m < 36, ((digit m).isDigit || (digit m).isLower) = true := by decide
  have := small (n % 36) (Nat.mod_lt n (by decide))
  simpa only [digit, Nat.mod_mod] using this

theorem digits_alnum (k n : Nat) :
    (digits k n).all (fun c => c.isDigit || c.isLower) = true := by
  induction k generalizing n with
  | zero => rfl
  | succ k ih => rw [digits, List.all_cons, digit_alnum, ih]; rfl

/-- The `n`-th identifier. -/
def ofNat (n : Nat) : Cuid where
  chars := 'c' :: digits 24 n
  length_chars := by rw [List.length_cons, length_digits]
  alnum := by rw [List.all_cons, digits_alnum]; rfl

instance : Inhabited Cuid := ⟨ofNat 0⟩

theorem digit_inj {m n : Nat} (h : digit m = digit n) : m % 36 = n % 36 := by
  have small : ∀ m < 36, ∀ n < 36, digit m = digit n → m = n := by decide
  refine small _ (Nat.mod_lt m (by decide)) _ (Nat.mod_lt n (by decide)) ?_
  simpa only [digit, Nat.mod_mod] using h

theorem digits_inj {k m n : Nat} (h : digits k m = digits k n) : m % 36 ^ k = n % 36 ^ k := by
  induction k generalizing m n with
  | zero => rw [Nat.pow_zero, Nat.mod_one, Nat.mod_one]
  | succ k ih =>
    obtain ⟨last, rest⟩ := List.cons_eq_cons.1 h
    rw [Nat.pow_succ', Nat.mod_mul, Nat.mod_mul, digit_inj last, ih rest]

/-- Small numbers have different identifiers. -/
theorem ofNat_inj {m n : Nat} (hm : m < 36 ^ 24) (hn : n < 36 ^ 24) (h : ofNat m = ofNat n) : m = n := by
  have digits := digits_inj (List.cons_eq_cons.1 (congrArg chars h)).2
  rwa [Nat.mod_eq_of_lt hm, Nat.mod_eq_of_lt hn] at digits

theorem ext_chars {a b : Cuid} (h : a.chars = b.chars) : a = b := by
  cases a; cases b; cases h; rfl

theorem not_mem {a : Cuid} {x : Char} (hx : (x.isDigit || x.isLower) = false) : x ∉ a.chars := by
  intro h
  have := List.all_eq_true.1 a.alnum x h
  rw [hx] at this
  cases this

end Cuid

/-- A text without `x` that starts a text with an `x` in it ends before that `x`. -/
theorem prefix_of_not_mem {a u v : List Char} {x : Char} (hx : x ∉ a) (h : a <+: u ++ x :: v) :
    a <+: u := by
  rcases List.prefix_or_prefix_of_prefix h (List.prefix_append u (x :: v)) with h' | ⟨w, rfl⟩
  · exact h'
  · have h : w <+: x :: v := (List.prefix_append_right_inj u).1 h
    rcases List.prefix_cons_iff.1 h with rfl | ⟨w, rfl, -⟩
    · simp
    · exact absurd (by simp) hx

/-- A text without `x` that a text contains lies on one side of an `x` in it. -/
theorem infix_of_not_mem {a u v : List Char} {x : Char} (hx : x ∉ a) (h : a <:+: u ++ x :: v) :
    a <:+: u ∨ a <:+: v := by
  induction u with
  | nil =>
    rcases List.infix_cons_iff.1 h with h | h
    · exact .inl (prefix_of_not_mem (u := []) hx h).isInfix
    · exact .inr h
  | cons y u ih =>
    rcases List.infix_cons_iff.1 h with h | h
    · exact .inl (prefix_of_not_mem (u := y :: u) hx h).isInfix
    · exact (ih h).imp_left fun h => List.infix_cons h

/-- The text a user or organisation withdrawal is found by. -/
def withdrawalReason (id : Id) : List Char := "Withdrawal request #".toList ++ id.chars

/-- The text a platform withdrawal is found by. -/
def platformWithdrawalReason (id : Id) : List Char :=
  "Platform withdrawal request #".toList ++ id.chars

namespace Cuid

theorem infix_chars {a b : Cuid} (h : a.chars <:+: b.chars) : a = b :=
  ext_chars (h.eq_of_length (a.length_chars.trans b.length_chars.symm))

theorem not_infix_of_short {a : Cuid} {u : List Char} (hu : u.length < 25) : ¬a.chars <:+: u := by
  intro h
  have := h.length_le
  rw [a.length_chars] at this
  omega

end Cuid

@[simp] theorem chars_infix_withdrawalReason {a b : Cuid} :
    a.chars <:+: withdrawalReason b ↔ a = b := by
  refine ⟨fun h => ?_, fun h => h ▸ (List.suffix_append _ _).isInfix⟩
  have h : a.chars <:+: "Withdrawal request ".toList ++ '#' :: b.chars := h
  rcases infix_of_not_mem (Cuid.not_mem (by decide)) h with h | h
  · exact absurd h (Cuid.not_infix_of_short (by decide))
  · exact Cuid.infix_chars h

@[simp] theorem chars_infix_platformWithdrawalReason {a b : Cuid} :
    a.chars <:+: platformWithdrawalReason b ↔ a = b := by
  refine ⟨fun h => ?_, fun h => h ▸ (List.suffix_append _ _).isInfix⟩
  have h : a.chars <:+: "Platform".toList ++ ' ' :: ("withdrawal request ".toList ++ '#' :: b.chars) := h
  rcases infix_of_not_mem (Cuid.not_mem (by decide)) h with h | h
  · exact absurd h (Cuid.not_infix_of_short (by decide))
  · rcases infix_of_not_mem (Cuid.not_mem (by decide)) h with h | h
    · exact absurd h (Cuid.not_infix_of_short (by decide))
    · exact Cuid.infix_chars h

@[simp] theorem withdrawalReason_infix {a b : Cuid} :
    withdrawalReason a <:+: withdrawalReason b ↔ a = b := by
  refine ⟨fun h => chars_infix_withdrawalReason.1 (List.IsInfix.trans ?_ h), fun h => h ▸ List.infix_rfl⟩
  exact (List.suffix_append _ _).isInfix

@[simp] theorem platformWithdrawalReason_infix {a b : Cuid} :
    platformWithdrawalReason a <:+: platformWithdrawalReason b ↔ a = b := by
  refine ⟨fun h => chars_infix_platformWithdrawalReason.1 (List.IsInfix.trans ?_ h),
    fun h => h ▸ List.infix_rfl⟩
  exact (List.suffix_append _ _).isInfix

/-- The search for a user withdrawal's hold does not find a platform withdrawal's. -/
@[simp] theorem not_withdrawalReason_infix_platform (a b : Cuid) :
    ¬withdrawalReason a <:+: platformWithdrawalReason b := by
  have mem : 'W' ∈ withdrawalReason a := by
    unfold withdrawalReason
    simp
  have not_mem : 'W' ∉ platformWithdrawalReason b := by
    unfold platformWithdrawalReason
    simp [Cuid.not_mem (a := b) (x := 'W') (by decide)]
  exact fun h => not_mem (h.mem mem)

@[simp] theorem not_platformWithdrawalReason_infix (a b : Cuid) :
    ¬platformWithdrawalReason a <:+: withdrawalReason b := by
  have mem : 'P' ∈ platformWithdrawalReason a := by
    unfold platformWithdrawalReason
    simp
  have not_mem : 'P' ∉ withdrawalReason b := by
    unfold withdrawalReason
    simp [Cuid.not_mem (a := b) (x := 'P') (by decide)]
  exact fun h => not_mem (h.mem mem)

end Heightt
