import Heightt.Schema.JsonText

/-!
# Values in Redis

`set` and `get` of `redis.service.ts`, and the one-time codes of `otp.service.ts`. A string is stored as it
is and any other value as its JSON text, but every text that comes back is tried as JSON first.
-/

namespace Heightt.RedisStore

open Text JsonText

structure Entry where
  text : Text
  /-- In seconds; `none` is an entry that stays. -/
  expiresAt : Option Nat

/-- The keys and values are sent as UTF-8. -/
abbrev Redis := Text → Option Entry

def Entry.live (e : Entry) (now : Nat) : Bool := e.expiresAt.all (now < ·)

section

variable {N : Type} (format : NumberFormat N)

def stringValue (value : Value N) : Text :=
  match value with
  | .string s => s
  | value => stringify format value

/-- `if (ttl)` -/
def expiry (now : Nat) (ttl : Option Nat) : Option Nat := (ttl.filter (· ≠ 0)).map (now + ·)

def RedisService.set (redis : Redis) (now : Nat) (key : Text) (value : Value N) (ttl : Option Nat) : Redis := fun k =>
  if k = toWellFormed key then some ⟨toWellFormed (stringValue format value), expiry now ttl⟩ else redis k

/-- An empty text is answered as a missing one. -/
def RedisService.get (redis : Redis) (now : Nat) (key : Text) : Value N :=
  match (redis (toWellFormed key)).filter (·.live now) with
  | none => .null
  | some e => if e.text = [] then .null else (parse format e.text).getD (.string e.text)

def RedisService.delete (redis : Redis) (key : Text) : Redis := fun k => if k = toWellFormed key then none else redis k

/-! ## One-time codes -/

/-- `random` is `Math.floor(Math.random() * 900000)`. -/
def OtpService.generateOtp (random : Nat) : Text := characters (Nat.toDigits 10 (100000 + random))

def OtpService.storeOtp (redis : Redis) (now : Nat) (key otp : Text) (ttlSeconds : Nat) : Redis :=
  RedisService.set format redis now (units "otp:" ++ key) (.string otp) (some ttlSeconds)

/-- `storedOtp === otp` -/
def isText (stored : Value N) (otp : Text) : Bool :=
  match stored with
  | .string s => s = otp
  | _ => false

/-- Whether the code is right, and the store afterwards. A missing code is not right. -/
def OtpService.verifyOtp (redis : Redis) (now : Nat) (key otp : Text) : Bool × Redis :=
  if otp ≠ [] ∧ isText (RedisService.get format redis now (units "otp:" ++ key)) otp = true then
    (true, RedisService.delete redis (units "otp:" ++ key))
  else (false, redis)

end

/-! ## What comes back -/

section

variable {N : Type} {format : NumberFormat N}

/-- The string is stored as it is, and read as nothing else. -/
def Plain (format : NumberFormat N) (s : Text) : Prop := s ≠ [] ∧ wellFormed s = true ∧ parse format s = none

/-- The entry that was set is there and has not expired. -/
def Kept (format : NumberFormat N) (redis : Redis) (key : Text) (v : Value N) (set now : Nat) (ttl : Option Nat) : Prop :=
  redis (toWellFormed key) = some ⟨toWellFormed (stringValue format v), expiry set ttl⟩ ∧
    ∀ e, expiry set ttl = some e → now < e

theorem kept_set (redis : Redis) (key : Text) (v : Value N) (now : Nat) (ttl : Option Nat) (later : Nat)
    (fresh : ∀ e, expiry now ttl = some e → later < e) :
    Kept format (RedisService.set format redis now key v ttl) key v now later ttl := by
  refine ⟨?_, fresh⟩
  rw [RedisService.set, if_pos rfl]

theorem get_kept {redis : Redis} {key : Text} {v : Value N} {set now : Nat} {ttl : Option Nat}
    (kept : Kept format redis key v set now ttl) : RedisService.get format redis now key =
      if toWellFormed (stringValue format v) = [] then .null
      else (parse format (toWellFormed (stringValue format v))).getD (.string (toWellFormed (stringValue format v))) := by
  obtain ⟨entry, fresh⟩ := kept
  have live : (Entry.live ⟨toWellFormed (stringValue format v), expiry set ttl⟩ now) = true := by
    rw [Entry.live, Option.all_eq_true]
    exact fun e he => decide_eq_true (fresh e he)
  simp only [RedisService.get, entry, Option.filter_some, live, if_true]

/-- A string comes back just if it is plain: of any other text a value is read, or it is not sent as it is. -/
theorem get_string_iff {redis : Redis} {key s : Text} {set now : Nat} {ttl : Option Nat}
    (kept : Kept format redis key (.string s) set now ttl) :
    RedisService.get format redis now key = .string s ↔ Plain format s := by
  have text : stringValue format (.string s) = s := rfl
  rw [get_kept kept, text]
  have length := length_toWellFormed s
  by_cases empty : s = []
  · have none_ : toWellFormed s = [] := List.length_eq_zero_iff.1 (by rw [length, empty, List.length_nil])
    rw [if_pos none_]
    exact iff_of_false (by simp) fun plain => plain.1 empty
  · have some_ : toWellFormed s ≠ [] := by
      intro none_
      rw [none_] at length
      exact empty (List.length_eq_zero_iff.1 length.symm)
    rw [if_neg some_]
    constructor
    · intro same
      cases read : parse format (toWellFormed s) with
      | none =>
        rw [read, Option.getD_none] at same
        have sent := Value.string.inj same
        rw [sent] at read
        exact ⟨empty, (toWellFormed_eq_iff s).1 sent, read⟩
      | some v =>
        rw [read, Option.getD_some] at same
        rw [same] at read
        have longer := length_parse_string read
        omega
    · rintro ⟨-, formed, unread⟩
      rw [(toWellFormed_eq_iff s).2 formed, unread, Option.getD_none]

/-- Any other value comes back. -/
theorem get_value {redis : Redis} {key : Text} {v : Value N} {set now : Nat} {ttl : Option Nat} (proper : Proper v)
    (notString : ∀ s, v ≠ .string s) (kept : Kept format redis key v set now ttl) :
    RedisService.get format redis now key = v := by
  have text : stringValue format v = stringify format v := by
    unfold stringValue
    split
    · rename_i s
      exact absurd rfl (notString s)
    · rfl
  have sent : toWellFormed (stringValue format v) = stringify format v := by
    rw [text]
    exact (toWellFormed_eq_iff _).2 (wellFormed_stringify format v)
  rw [get_kept kept, sent, if_neg (stringify_ne_nil format v), parse_stringify proper, Option.getD_some]

end

/-! ## Codes are numerals -/

/-- The digits of a positive number do not begin with a zero. -/
theorem whole_toDigits {n : Nat} (positive : 0 < n) : Whole (characters (Nat.toDigits 10 n)) := by
  have digits : ∀ c ∈ Nat.toDigits 10 n, c.isDigit := fun _ hc => Nat.isDigit_of_mem_toDigits (by omega) (by omega) hc
  have number : Numerals.value (Nat.toDigits 10 n) = n := Nat.ofDigitChars_ten_toDigits
  have shortest {k : Nat} (hk : 0 < k) := Nat.length_toDigits_le_iff (b := 10) (n := n) (by omega) hk
  generalize Nat.toDigits 10 n = text at *
  cases text with
  | nil =>
    have : Numerals.value [] = 0 := rfl
    omega
  | cons c cs =>
    obtain ⟨first, rest⟩ := List.forall_mem_cons.1 digits
    obtain ⟨isDigit, is⟩ := hexValue_codeUnit first
    refine .digits isDigit (fun zero => ?_) (digits_characters rest)
    have none_ : Numerals.digit c = 0 := by
      rw [Numerals.digit, ← is, zero]
      rfl
    have below := Numerals.value_lt rest
    rw [Numerals.value_cons, none_, Nat.mul_zero, Nat.zero_add] at number
    rw [number] at below
    cases cs with
    | nil =>
      have : n < 1 := below
      omega
    | cons d ds =>
      have short := (shortest (k := (d :: ds).length) (by simp)).2 below
      simp only [List.length_cons] at short
      omega

theorem numeral_toDigits (n : Nat) : Numeral (characters (Nat.toDigits 10 n)) := by
  refine ⟨[], characters (Nat.toDigits 10 n), [], [], .inl rfl, ?_, .none, .none, by simp⟩
  obtain rfl | positive := Nat.eq_zero_or_pos n
  · exact .zero
  · exact whole_toDigits positive

/-- Natural numbers, written as their digits. -/
def natural : NumberFormat Nat where
  print n := characters (Nat.toDigits 10 n)
  read := Text.value
  numeral := numeral_toDigits
  read_print n := by
    have digits : ∀ c ∈ Nat.toDigits 10 n, c.isDigit := fun _ hc => Nat.isDigit_of_mem_toDigits (by omega) (by omega) hc
    rw [value_characters digits]
    exact Nat.ofDigitChars_ten_toDigits

/-- **What Redis gives back.** A value comes back equal, unless it is a string that is empty, that is not
well-formed or that is a JSON text itself. Codes are JSON texts, so that none is ever accepted. -/
theorem redis_roundTrip {N : Type} (format : NumberFormat N) :
    (∀ (redis : Redis) (key : Text) (v : Value N) (set now : Nat) (ttl : Option Nat), Proper v →
      Kept format redis key v set now ttl →
        (RedisService.get format redis now key = v ↔ ∀ s, v = .string s → Plain format s)) ∧
    ∀ (redis : Redis) (key : Text) (random set now ttlSeconds : Nat),
      Kept format redis (units "otp:" ++ key) (.string (OtpService.generateOtp random)) set now (some ttlSeconds) →
        (OtpService.verifyOtp format redis now key (OtpService.generateOtp random)).1 = false := by
  refine ⟨fun redis key v set now ttl proper kept => ?_, fun redis key random set now ttlSeconds kept => ?_⟩
  · by_cases string : ∃ s, v = .string s
    · obtain ⟨s, rfl⟩ := string
      rw [get_string_iff kept]
      constructor
      · rintro plain _ ⟨⟩
        exact plain
      · exact fun plain => plain s rfl
    · have notString : ∀ s, v ≠ .string s := fun s same => string ⟨s, same⟩
      exact iff_of_true (get_value proper notString kept) fun s same => absurd same (notString s)
  · have numeral : parse format (OtpService.generateOtp random) ≠ none := by
      rw [OtpService.generateOtp, parse_numeral (numeral_toDigits _)]
      exact Option.some_ne_none _
    unfold OtpService.verifyOtp
    rw [if_neg]
    rintro ⟨-, accepted⟩
    unfold isText at accepted
    split at accepted
    · rename_i s stored
      rw [of_decide_eq_true accepted] at stored
      exact numeral ((get_string_iff kept).1 stored).2.2
    · cases accepted

/-- A code that was stored a second ago, and a text that is no code. -/
theorem redis_roundTrip_abc :
    RedisService.get natural
        (RedisService.set natural (fun _ => none) 0 (units "a") (.string (units "abc")) (some 600)) 1 (units "a") =
      .string (units "abc") ∧
    (OtpService.verifyOtp natural (OtpService.storeOtp natural (fun _ => none) 0 (units "a") (OtpService.generateOtp 23456) 600)
        1 (units "a") (OtpService.generateOtp 23456)).1 = false := by
  have fresh : ∀ e, expiry 0 (some 600) = some e → 1 < e := by
    rintro _ ⟨⟩
    decide
  have plain : Plain natural (units "abc") := ⟨by decide, by decide, by decide⟩
  constructor
  · refine ((redis_roundTrip natural).1 _ _ _ 0 1 (some 600) (.string _) (kept_set _ _ _ 0 _ 1 fresh)).2 ?_
    rintro _ ⟨⟩
    exact plain
  · exact (redis_roundTrip natural).2 _ _ 23456 0 1 600 (kept_set _ _ _ 0 _ 1 fresh)

/-- The string `123456` comes back as a number, and the empty one as `null`. -/
theorem digits_come_back :
    ¬∀ (s key : Text) (redis : Redis), RedisService.get natural (RedisService.set natural redis 0 key (.string s) none) 0 key =
      .string s := by
  intro roundTrip
  have same := roundTrip (units "123456") (units "a") fun _ => none
  have number : RedisService.get natural
      (RedisService.set natural (fun _ => none) 0 (units "a") (.string (units "123456")) none) 0 (units "a") =
        .number 123456 := by rfl
  rw [number] at same
  cases same

end Heightt.RedisStore
