import Heightt.Campus.Database

/-!
# The names of sessions, and what is named after them

A session of an institution is named after two years that follow each other. The
slugs of its organizations carry the name of the session.
-/

namespace Heightt.Campus

open ReadCommitted Prog

/-- The white space of a pattern, which `trim` drops as well. -/
def isSpace (c : Char) : Bool :=
  (9 ≤ c.toNat && c.toNat ≤ 13) || (8192 ≤ c.toNat && c.toNat ≤ 8202) ||
    [32, 160, 5760, 8232, 8233, 8239, 8287, 12288, 65279].contains c.toNat

def trimStart (cs : List Char) : List Char := cs.dropWhile isSpace

def trimEnd (cs : List Char) : List Char := (cs.reverse.dropWhile isSpace).reverse

/-- Four digits. -/
def year (cs : List Char) : Option Nat :=
  if cs.length = 4 ∧ cs.all Char.isDigit then some (Nat.ofDigitChars 10 cs 0) else none

/-- The years of a name of the form `YYYY/YYYY`. -/
def years (name : String) : Option (Nat × Nat) := do
  let cs := trimEnd (trimStart name.toList)
  let startYear ← year (trimEnd (cs.takeWhile (· ≠ '/')))
  let endYear ← year (trimStart ((cs.dropWhile (· ≠ '/')).drop 1))
  return (startYear, endYear)

def sessionName (startYear endYear : Nat) : String :=
  String.ofList (Nat.toDigits 10 startYear ++ '/' :: Nat.toDigits 10 endYear)

def PromotionService.getNextSessionName (currentName : String) : CampusAction String := do
  let matched ← orThrow (years currentName)
    (.badRequest "Current session name must use the YYYY/YYYY format")
  ensure (matched.2 = matched.1 + 1) (.badRequest "Current session years must be consecutive")
  pure (sessionName (matched.1 + 1) (matched.2 + 1))

/-- Whether the year has a 29th of February. -/
def isLeap (year : Nat) : Bool := year % 4 = 0 && (year % 100 ≠ 0 || year % 400 = 0)

def PromotionService.addYears (date : Date) (years : Nat) : Date :=
  let year := date.year + years
  if date.month = 2 ∧ date.day = 29 ∧ ¬isLeap year then { date with year, month := 3, day := 1 }
  else { date with year }

/-- `pattern` occurs in the text. -/
def includes (pattern : List Char) : List Char → Bool
  | [] => pattern.isPrefixOf []
  | c :: cs => pattern.isPrefixOf (c :: cs) || includes pattern cs

/-- The first occurrence of `pattern` is replaced. -/
def replaceChars (pattern replacement : List Char) : List Char → List Char
  | [] => if pattern.isPrefixOf [] then replacement else []
  | c :: cs =>
    if pattern.isPrefixOf (c :: cs) then replacement ++ (c :: cs).drop pattern.length
    else c :: replaceChars pattern replacement cs

/-- The text with the first occurrence of `pattern` replaced. -/
def replaceFirst (text pattern replacement : String) : String :=
  String.ofList (replaceChars pattern.toList replacement.toList text.toList)

/-- The name of a session as part of a slug. -/
def sessionSlug (name : String) : String := replaceFirst name "/" "-"

/-- The slug that an organization of the current session has in the next one. -/
def nextSlug (currentName nextName slug : String) : String :=
  let previousSessionSlug := sessionSlug currentName
  let sessionSlug := sessionSlug nextName
  if includes previousSessionSlug.toList slug.toList then
    replaceFirst slug previousSessionSlug sessionSlug
  else slug ++ "-" ++ sessionSlug

example : nextSlug "2023/2024" "2024/2025" "css" = nextSlug "2023/2024" "2024/2025" "css-2023-2024" := by
  decide +kernel

/-! ## The next session has another name -/

theorem isSpace_of_isDigit {c : Char} (digit : c.isDigit) : isSpace c = false := by
  have low : 48 ≤ c.toNat := by
    simp only [Char.isDigit, Bool.and_eq_true, decide_eq_true_eq] at digit
    exact UInt32.le_iff_toNat_le.1 digit.1
  have high : c.toNat ≤ 57 := by
    simp only [Char.isDigit, Bool.and_eq_true, decide_eq_true_eq] at digit
    exact UInt32.le_iff_toNat_le.1 digit.2
  simp only [isSpace, List.contains_cons, List.contains_nil, Bool.or_eq_false_iff, Bool.and_eq_false_iff,
    decide_eq_false_iff_not, beq_eq_false_iff_ne, Bool.or_false]
  omega

theorem ne_slash_of_isDigit {c : Char} (digit : c.isDigit) : c ≠ '/' := by
  rintro rfl
  cases digit

/-- Digits have nothing to trim. -/
theorem trimStart_of_digits {cs : List Char} (rest : List Char) (digits : ∀ c ∈ cs, c.isDigit) (some : cs ≠ []) :
    trimStart (cs ++ rest) = cs ++ rest := by
  cases cs with
  | nil => exact absurd rfl some
  | cons c cs =>
    rw [trimStart, List.cons_append, List.dropWhile_cons,
      isSpace_of_isDigit (digits c List.mem_cons_self)]
    rfl

theorem trimEnd_of_digits {cs : List Char} (rest : List Char) (digits : ∀ c ∈ cs, c.isDigit) (some : cs ≠ []) :
    trimEnd (rest ++ cs) = rest ++ cs := by
  have reversed : trimStart (cs.reverse ++ rest.reverse) = cs.reverse ++ rest.reverse :=
    trimStart_of_digits rest.reverse (fun c mem => digits c (List.mem_reverse.1 mem)) (by simpa using some)
  rw [← List.reverse_append] at reversed
  rw [trimEnd, show (rest ++ cs).reverse.dropWhile isSpace = (rest ++ cs).reverse from reversed,
    List.reverse_reverse]

theorem digits_toDigits (n : Nat) : ∀ c ∈ Nat.toDigits 10 n, c.isDigit :=
  fun _ mem => Nat.isDigit_of_mem_toDigits (by omega) (by omega) mem

theorem takeWhile_toDigits (n : Nat) (rest : List Char) :
    (Nat.toDigits 10 n ++ '/' :: rest).takeWhile (· ≠ '/') = Nat.toDigits 10 n := by
  rw [List.takeWhile_append_of_pos]
  · simp
  · intro c mem
    exact decide_eq_true (ne_slash_of_isDigit (digits_toDigits n c mem))

/-- A name that is read back has the years it was made of. -/
theorem startYear_sessionName {startYear endYear s e : Nat}
    (read : years (sessionName startYear endYear) = some (s, e)) : s = startYear := by
  have trimmed : trimEnd (trimStart (sessionName startYear endYear).toList) =
      Nat.toDigits 10 startYear ++ '/' :: Nat.toDigits 10 endYear := by
    rw [sessionName, String.toList_ofList, trimStart_of_digits _ (digits_toDigits _) Nat.toDigits_ne_nil,
      List.append_cons]
    exact trimEnd_of_digits _ (digits_toDigits _) Nat.toDigits_ne_nil
  have own : trimEnd (Nat.toDigits 10 startYear) = Nat.toDigits 10 startYear :=
    trimEnd_of_digits [] (digits_toDigits _) Nat.toDigits_ne_nil
  simp only [years, trimmed, takeWhile_toDigits, own] at read
  simp only [Option.bind_eq_bind, Option.bind_eq_some_iff] at read
  obtain ⟨first, read, second, -, same⟩ := read
  cases same
  unfold year at read
  split at read
  · rw [Nat.ofDigitChars_ten_toDigits] at read
    exact (Option.some.inj read).symm
  · cases read

/-- The next session does not have the name of the current one. -/
theorem sessionName_ne {name : String} {s e : Nat} (read : years name = some (s, e)) :
    sessionName (s + 1) (e + 1) ≠ name := by
  rintro rfl
  have := startYear_sessionName read
  omega

-- The programs below are gone through without reading a name.
attribute [irreducible] years

end Heightt.Campus
