import Heightt.Schema.Text
import Mathlib.Algebra.Order.Ring.Nat
import Mathlib.Data.Rat.Defs

/-!
# Texts as bytes and numbers

UTF-8, hexadecimal digits and Base64 as `Buffer` reads them, and `Number` of a text. Base64 takes
both alphabets, ends at the first `=` and passes over any other character.
-/

namespace Heightt.Text

abbrev Bytes := List UInt8

/-! ## White space -/

/-- What `trim` drops. -/
def whiteSpace (u : UInt16) : Bool :=
  (9 ≤ u ∧ u ≤ 13) ∨ (0x2000 ≤ u ∧ u ≤ 0x200A) ∨
    u ∈ [0x20, 0xA0, 0x1680, 0x2028, 0x2029, 0x202F, 0x205F, 0x3000, 0xFEFF]

def trim (t : Text) : Text := ((t.dropWhile whiteSpace).reverse.dropWhile whiteSpace).reverse

/-! ## UTF-8 -/

/-- A code point as bytes. -/
def utf8Encode (n : Nat) : Bytes :=
  if n < 0x80 then [n.toUInt8]
  else if n < 0x800 then [(0xC0 + n / 64).toUInt8, (0x80 + n % 64).toUInt8]
  else if n < 0x10000 then
    [(0xE0 + n / 4096).toUInt8, (0x80 + n / 64 % 64).toUInt8, (0x80 + n % 64).toUInt8]
  else
    [(0xF0 + n / 262144).toUInt8, (0x80 + n / 4096 % 64).toUInt8, (0x80 + n / 64 % 64).toUInt8,
      (0x80 + n % 64).toUInt8]

def highSurrogate (u : UInt16) : Bool := 0xD800 ≤ u ∧ u ≤ 0xDBFF

def lowSurrogate (u : UInt16) : Bool := 0xDC00 ≤ u ∧ u ≤ 0xDFFF

/-- A surrogate without its partner is written as the replacement character. -/
def utf8Unit (u : UInt16) : Bytes :=
  utf8Encode (if highSurrogate u ∨ lowSurrogate u then 0xFFFD else u.toNat)

/-- `Buffer.from(text, 'utf8')` -/
def utf8 : Text → Bytes
  | [] => []
  | [u] => utf8Unit u
  | u :: v :: s =>
    if highSurrogate u ∧ lowSurrogate v then
      utf8Encode (0x10000 + (u.toNat - 0xD800) * 1024 + (v.toNat - 0xDC00)) ++ utf8 s
    else utf8Unit u ++ utf8 (v :: s)

/-! ## Hexadecimal digits -/

def digit (u : UInt16) : Bool := 48 ≤ u ∧ u ≤ 57

/-- `[a-f0-9]`, in either case. -/
def hexDigit (u : UInt16) : Bool := digit u ∨ (65 ≤ canonicalize u ∧ canonicalize u ≤ 70)

def hexValue (u : UInt16) : Nat := if digit u then u.toNat - 48 else (canonicalize u).toNat - 55

/-- `Buffer.from(text, 'hex')`, of digits. -/
def fromHex : Text → Bytes
  | u :: v :: s => (hexValue u * 16 + hexValue v).toUInt8 :: fromHex s
  | _ => []

def hexCharacter (n : Nat) : UInt16 := (if n < 10 then n + 48 else n + 87).toUInt16

/-- `digest('hex')` -/
def toHex : Bytes → Text
  | [] => []
  | b :: d => hexCharacter (b.toNat / 16) :: hexCharacter (b.toNat % 16) :: toHex d

theorem hexValue_hexCharacter : ∀ n < 16, hexValue (hexCharacter n) = n ∧ hexDigit (hexCharacter n) = true := by
  decide

theorem toUInt8_halves (b : UInt8) : (b.toNat / 16 * 16 + b.toNat % 16).toUInt8 = b := by
  rw [Nat.div_add_mod', Nat.toUInt8_eq, UInt8.ofNat_toNat]

theorem fromHex_toHex (d : Bytes) : fromHex (toHex d) = d := by
  induction d with
  | nil => rfl
  | cons b d ih =>
    have small : b.toNat < 256 := b.toNat_lt
    rw [toHex, fromHex, ih, (hexValue_hexCharacter (b.toNat / 16) (by omega)).1,
      (hexValue_hexCharacter (b.toNat % 16) (by omega)).1, toUInt8_halves]

theorem length_toHex (d : Bytes) : (toHex d).length = 2 * d.length := by
  induction d with
  | nil => rfl
  | cons b d ih =>
    rw [toHex, List.length_cons, List.length_cons, List.length_cons, ih]
    omega

theorem hexDigit_toHex (d : Bytes) : ∀ u ∈ toHex d, hexDigit u = true := by
  induction d with
  | nil => exact fun u hu => absurd hu List.not_mem_nil
  | cons b d ih =>
    have small : b.toNat < 256 := b.toNat_lt
    intro u hu
    obtain rfl | hu := List.mem_cons.1 hu
    · exact (hexValue_hexCharacter _ (by omega)).2
    · obtain rfl | hu := List.mem_cons.1 hu
      · exact (hexValue_hexCharacter _ (by omega)).2
      · exact ih u hu

/-! ## Base64 -/

/-- The six bits of a character of either alphabet. -/
def sextet (u : UInt16) : Option Nat :=
  if 65 ≤ u ∧ u ≤ 90 then some (u.toNat - 65)
  else if 97 ≤ u ∧ u ≤ 122 then some (u.toNat - 71)
  else if digit u then some (u.toNat + 4)
  else if u = 43 ∨ u = 45 then some 62
  else if u = 47 ∨ u = 95 then some 63
  else none

/-- Four times six bits are three bytes; bits that do not fill a byte are dropped. -/
def octets : List Nat → Bytes
  | a :: b :: c :: d :: s =>
    (a * 4 + b / 16).toUInt8 :: (b % 16 * 16 + c / 4).toUInt8 :: (c % 4 * 64 + d).toUInt8 :: octets s
  | [a, b, c] => [(a * 4 + b / 16).toUInt8, (b % 16 * 16 + c / 4).toUInt8]
  | [a, b] => [(a * 4 + b / 16).toUInt8]
  | [_] | [] => []

def padding : UInt16 := 61

/-- `Buffer.from(text, 'base64')` -/
def fromBase64 (t : Text) : Bytes := octets ((t.takeWhile (· ≠ padding)).filterMap sextet)

def sextets : Bytes → List Nat
  | a :: b :: c :: d => a.toNat / 4 :: (a.toNat % 4 * 16 + b.toNat / 16) :: (b.toNat % 16 * 4 + c.toNat / 64) ::
    c.toNat % 64 :: sextets d
  | [a, b] => [a.toNat / 4, a.toNat % 4 * 16 + b.toNat / 16, b.toNat % 16 * 4]
  | [a] => [a.toNat / 4, a.toNat % 4 * 16]
  | [] => []

/-- The character for six bits. -/
def character (n : Nat) : UInt16 :=
  (if n < 26 then n + 65 else if n < 52 then n + 71 else if n < 62 then n - 4 else if n = 62 then 43 else 47).toUInt16

/-- `digest('base64')`, without its padding. -/
def toBase64 (d : Bytes) : Text := (sextets d).map character

theorem length_octets (s : List Nat) : (octets s).length = s.length * 6 / 8 := by
  fun_induction octets s with
  | case1 a b c d s ih =>
    simp only [List.length_cons, ih]
    omega
  | case2 | case3 | case4 | case5 => simp

theorem toUInt8_of_toNat {b : UInt8} {n : Nat} (h : n = b.toNat) : n.toUInt8 = b := by
  rw [h, Nat.toUInt8_eq, UInt8.ofNat_toNat]

theorem octets_sextets (d : Bytes) : octets (sextets d) = d := by
  fun_induction sextets d with
  | case1 a b c d ih =>
    have ha := a.toNat_lt
    have hb := b.toNat_lt
    have hc := c.toNat_lt
    rw [octets, ih, toUInt8_of_toNat (b := a) (by omega), toUInt8_of_toNat (b := b) (by omega),
      toUInt8_of_toNat (b := c) (by omega)]
  | case2 a b =>
    have ha := a.toNat_lt
    have hb := b.toNat_lt
    rw [octets, toUInt8_of_toNat (b := a) (by omega), toUInt8_of_toNat (b := b) (by omega)]
  | case3 a =>
    have ha := a.toNat_lt
    rw [octets, toUInt8_of_toNat (b := a) (by omega)]
  | case4 => rfl

theorem sextets_lt (d : Bytes) : ∀ n ∈ sextets d, n < 64 := by
  fun_induction sextets d with
  | case1 a b c d ih =>
    have ha := a.toNat_lt
    have hb := b.toNat_lt
    have hc := c.toNat_lt
    simp only [List.mem_cons, forall_eq_or_imp]
    exact ⟨by omega, by omega, by omega, by omega, ih⟩
  | case2 a b =>
    have ha := a.toNat_lt
    have hb := b.toNat_lt
    simp only [List.mem_cons, forall_eq_or_imp, List.not_mem_nil, false_imp_iff, implies_true, and_true]
    omega
  | case3 a =>
    have ha := a.toNat_lt
    simp only [List.mem_cons, forall_eq_or_imp, List.not_mem_nil, false_imp_iff, implies_true, and_true]
    omega
  | case4 => exact fun n hn => absurd hn List.not_mem_nil

theorem sextet_character : ∀ n < 64, sextet (character n) = some n ∧ character n ≠ padding := by decide

/-- A Base64 text is read back, however much padding follows it. -/
theorem fromBase64_toBase64 (d : Bytes) (k : Nat) : fromBase64 (toBase64 d ++ .replicate k padding) = d := by
  have whole : (toBase64 d ++ .replicate k padding).takeWhile (· ≠ padding) = toBase64 d := by
    rw [List.takeWhile_append_of_pos]
    · cases k <;> simp
    · intro u hu
      obtain ⟨n, hn, rfl⟩ := List.mem_map.1 hu
      exact decide_eq_true (sextet_character n (sextets_lt d n hn)).2
  have read (s : List Nat) (small : ∀ n ∈ s, n < 64) : (s.map character).filterMap sextet = s := by
    induction s with
    | nil => rfl
    | cons n s ih =>
      rw [List.map_cons, List.filterMap_cons_some (sextet_character n (small n List.mem_cons_self)).1,
        ih fun m hm => small m (List.mem_cons_of_mem n hm)]
  rw [fromBase64, whole, toBase64, read _ (sextets_lt d), octets_sextets]

/-! ## Numbers -/

/-- The digits of a base as a number; none at all are no number. -/
def natural (base : Nat) (t : Text) : Option Nat :=
  if t ≠ [] ∧ t.all fun u => hexDigit u ∧ hexValue u < base then
    some (t.foldl (fun n u => n * base + hexValue u) 0)
  else none

/-- Digits after an optional sign. -/
def integer : Text → Option Int
  | 43 :: t => (natural 10 t).map Int.ofNat
  | 45 :: t => (natural 10 t).map fun n => -Int.ofNat n
  | t => (natural 10 t).map Int.ofNat

/-- `n * 10 ^ e` -/
def scaled (n : Nat) (e : Int) : ℚ := mkRat (n * 10 ^ e.toNat) (10 ^ (-e).toNat)

/-- What follows the digits: a fraction or none. -/
def fraction : Text → Text × Text
  | 46 :: t => (t.takeWhile digit, t.dropWhile digit)
  | t => ([], t)

def exponent : Text → Option Int
  | [] => some 0
  | u :: t => if canonicalize u = 69 then integer t else none

/-- Digits with a fraction and an exponent. -/
def decimal (t : Text) : Option ℚ := do
  let (after, rest) := fraction (t.dropWhile digit)
  let n ← natural 10 (t.takeWhile digit ++ after)
  let e ← exponent rest
  return scaled n (e - after.length)

/-- `Number(text)`, where it is finite. -/
def number (text : Text) : Option ℚ :=
  match trim text with
  | [] => some 0
  | 48 :: u :: t =>
    match canonicalize u with
    | 88 => (natural 16 t).map Nat.cast
    | 79 => (natural 8 t).map Nat.cast
    | 66 => (natural 2 t).map Nat.cast
    | _ => decimal (48 :: u :: t)
  | 43 :: t => decimal t
  | 45 :: t => (decimal t).map fun x => -x
  | t => decimal t

example : number (units " -12.50e1 ") = some (-125) ∧ number (units "0x1F") = some 31 ∧ number (units "12s") = none := by
  decide

end Heightt.Text
