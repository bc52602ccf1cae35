import Heightt.Numbers.Calendar
import Heightt.Numbers.DecimalTexts
import Heightt.Schema.Csv

/-!
# Reports as CSV

`createCsv` of `csv.util.ts`: values are written as quoted fields, and an apostrophe is put before
a text that a spreadsheet would take for a formula.
-/

namespace Heightt.CsvUtil

open Text Csv Calendar

inductive CsvValue (Number : Type) where
  | string (text : Text)
  | number (x : Number)
  | boolean (b : Bool)
  /-- Its time value, unless it is an invalid date. -/
  | date (time : Option Int)
  | null
  | undefined
  deriving DecidableEq

def padded (width n : Nat) : Text := characters (Numerals.padded width n)

/-- Years of more than four digits have a sign and six digits. -/
def yearText (year : Int) : Text :=
  if 0 ≤ year ∧ year ≤ 9999 then padded 4 year.toNat
  else units (if year < 0 then "-" else "+") ++ padded 6 year.natAbs

def toISOString (t : Int) : Text :=
  let ms := (t % msPerDay).toNat
  yearText (getFullYear t) ++ units "-" ++ padded 2 (getMonth t + 1).toNat ++ units "-" ++ padded 2 (getDate t).toNat ++
    units "T" ++ padded 2 (ms / 3600000) ++ units ":" ++ padded 2 (ms / 60000 % 60) ++ units ":" ++
    padded 2 (ms / 1000 % 60) ++ units "." ++ padded 3 (ms % 1000) ++ units "Z"

/-- `/^[=+\-@\t\r]/` -/
def formulaPrefix : Text → Bool
  | [] => false
  | u :: _ => u ∈ [61, 43, 45, 64, 9, 13]

def apostrophe : UInt16 := 39

/-- What keeps a spreadsheet from evaluating the text. -/
def neutralized (text : Text) : Text := if formulaPrefix text then apostrophe :: text else text

def byteOrderMark : UInt16 := 0xFEFF

section

variable {Number : Type} (numberText : Number → Text)

/-- `String(value)`; there is no text of an invalid date. -/
def CsvValue.text : CsvValue Number → Option Text
  | string text => some text
  | number x => some (numberText x)
  | boolean b => some (units (if b then "true" else "false"))
  | date time => time.map toISOString
  | null | undefined => some []

def escapeCsvValue (value : CsvValue Number) : Option Text :=
  match value with
  | .null | .undefined => some []
  | value => (value.text numberText).map fun text => quote :: (doubled (neutralized text) ++ [quote])

def line (row : List (CsvValue Number)) : Option Text :=
  (row.mapM (escapeCsvValue numberText)).map (List.intercalate [comma])

/-- `none` is the `RangeError` of an invalid date. -/
def createCsv (headers : List Text) (rows : List (List (CsvValue Number))) : Option Text :=
  ((headers.map CsvValue.string :: rows).mapM (line numberText)).map fun lines =>
    byteOrderMark :: (List.intercalate [cr, lf] lines ++ [cr, lf])

/-- What a field of the report says. -/
def cell (value : CsvValue Number) : Option Text := (value.text numberText).map neutralized

/-- The headers and the rows as a table of texts. -/
def cells (headers : List Text) (rows : List (List (CsvValue Number))) : Option (List (List Text)) :=
  (headers.map CsvValue.string :: rows).mapM fun row => row.mapM (cell numberText)

end

/-! ## Partial maps over lists -/

section

variable {α β : Type} {f : α → Option β}

theorem mapM_eq_none {l : List α} : l.mapM f = none ↔ ∃ a ∈ l, f a = none := by
  induction l with
  | nil => simp
  | cons a l ih =>
    rw [List.mapM_cons]
    cases h : f a with
    | none => simp [h]
    | some b => cases rest : l.mapM f <;> simp [h, rest, ih.symm]

theorem mapM_cons_eq_some {a : α} {l : List α} {bs : List β} :
    (a :: l).mapM f = some bs ↔ ∃ b bs', f a = some b ∧ l.mapM f = some bs' ∧ bs = b :: bs' := by
  rw [List.mapM_cons]
  cases f a <;> cases l.mapM f <;> simp [eq_comm]

theorem length_mapM {l : List α} {bs : List β} (h : l.mapM f = some bs) : bs.length = l.length := by
  induction l generalizing bs with
  | nil => cases h; rfl
  | cons a l ih =>
    obtain ⟨b, bs', -, rest, rfl⟩ := mapM_cons_eq_some.1 h
    rw [List.length_cons, List.length_cons, ih rest]

theorem mem_mapM {l : List α} {bs : List β} (h : l.mapM f = some bs) {b : β} (hb : b ∈ bs) : ∃ a ∈ l, f a = some b := by
  induction l generalizing bs with
  | nil => cases h; cases hb
  | cons a l ih =>
    obtain ⟨c, bs', first, rest, rfl⟩ := mapM_cons_eq_some.1 h
    obtain rfl | hb := List.mem_cons.1 hb
    · exact ⟨a, List.mem_cons_self, first⟩
    · obtain ⟨a', ha', same⟩ := ih rest hb
      exact ⟨a', List.mem_cons_of_mem a ha', same⟩

end

/-! ## A report is read back -/

theorem formulaPrefix_neutralized (text : Text) : formulaPrefix (neutralized text) = false := by
  unfold neutralized
  split
  · rfl
  · rename_i plain
    exact Bool.eq_false_iff.2 plain

section

variable {Number : Type} {numberText : Number → Text}

theorem text_eq_none {value : CsvValue Number} : value.text numberText = none ↔ value = .date none := by
  cases value <;> simp [CsvValue.text]

theorem escapeCsvValue_eq_none {value : CsvValue Number} : escapeCsvValue numberText value = none ↔ value = .date none := by
  cases value <;> simp [escapeCsvValue, CsvValue.text]

theorem field_escapeCsvValue {value : CsvValue Number} {w : Text} (h : escapeCsvValue numberText value = some w) :
    ∃ v, cell numberText value = some v ∧ Field w v := by
  unfold escapeCsvValue at h
  split at h
  · cases h
    exact ⟨[], rfl, .plain (by simp)⟩
  · cases h
    exact ⟨[], rfl, .plain (by simp)⟩
  · obtain ⟨text, same, rfl⟩ := Option.map_eq_some_iff.1 h
    exact ⟨neutralized text, by rw [cell, same]; rfl, .quoted _⟩

/-- By induction on the values of the row. -/
theorem record_line {row : List (CsvValue Number)} (some_ : row ≠ []) {t : Text} (h : line numberText row = some t) :
    ∃ vs, row.mapM (cell numberText) = some vs ∧ Record t vs := by
  induction row generalizing t with
  | nil => exact absurd rfl some_
  | cons value row ih =>
    obtain ⟨ws, escaped, rfl⟩ := Option.map_eq_some_iff.1 h
    obtain ⟨w, ws', first, rest, rfl⟩ := mapM_cons_eq_some.1 escaped
    obtain ⟨v, same, field⟩ := field_escapeCsvValue first
    cases row with
    | nil =>
      cases rest
      refine ⟨[v], mapM_cons_eq_some.2 ⟨v, [], same, rfl, rfl⟩, ?_⟩
      rw [List.reverse_nil, List.intercalate_singleton]
      exact .one field
    | cons next row =>
      obtain ⟨vs, values, record⟩ := ih (List.cons_ne_nil next row) (Option.map_eq_some_iff.2 ⟨ws', rest, rfl⟩)
      obtain ⟨w', ws'', -, -, rfl⟩ := mapM_cons_eq_some.1 rest
      refine ⟨v :: vs, mapM_cons_eq_some.2 ⟨v, vs, same, values, rfl⟩, ?_⟩
      rw [List.intercalate_cons_cons, List.append_assoc]
      exact .cons field record

theorem file_lines {rows : List (List (CsvValue Number))} (some_ : rows ≠ []) (columns : ∀ row ∈ rows, row ≠ [])
    {lines : List Text} (h : rows.mapM (line numberText) = some lines) :
    ∃ table, (rows.mapM fun row => row.mapM (cell numberText)) = some table ∧
      File (List.intercalate [cr, lf] lines ++ [cr, lf]) table := by
  induction rows generalizing lines with
  | nil => exact absurd rfl some_
  | cons row rows ih =>
    obtain ⟨t, ts, first, rest, rfl⟩ := mapM_cons_eq_some.1 h
    obtain ⟨vs, values, record⟩ := record_line (columns row List.mem_cons_self) first
    cases rows with
    | nil =>
      cases rest
      refine ⟨[vs], mapM_cons_eq_some.2 ⟨vs, [], values, rfl, rfl⟩, ?_⟩
      rw [List.reverse_nil, List.intercalate_singleton]
      exact .last record
    | cons next rows =>
      obtain ⟨table, same, file⟩ :=
        ih (List.cons_ne_nil next rows) (fun row hrow => columns row (List.mem_cons_of_mem _ hrow)) rest
      obtain ⟨t', ts', -, -, rfl⟩ := mapM_cons_eq_some.1 rest
      refine ⟨vs :: table, mapM_cons_eq_some.2 ⟨vs, table, values, same, rfl⟩, ?_⟩
      rw [List.intercalate_cons_cons, List.append_assoc, List.append_assoc]
      exact .cons record file

theorem createCsv_eq_none {headers : List Text} {rows : List (List (CsvValue Number))} :
    createCsv numberText headers rows = none ↔ ∃ row ∈ rows, CsvValue.date none ∈ row := by
  have header : line numberText (headers.map CsvValue.string) ≠ none := by
    unfold line
    rw [ne_eq, Option.map_eq_none_iff, mapM_eq_none]
    rintro ⟨value, mem, invalid⟩
    obtain ⟨text, -, rfl⟩ := List.mem_map.1 mem
    cases invalid
  rw [createCsv, Option.map_eq_none_iff, mapM_eq_none, List.exists_mem_cons_iff, or_iff_right header]
  unfold line
  simp only [Option.map_eq_none_iff, mapM_eq_none, escapeCsvValue_eq_none, exists_eq_right]

/-- **A report reads as its table.** For a table of two columns at least, `createCsv` fails on an invalid
date only, and what follows the byte-order mark is, by RFC 4180, a file of the headers and the rows
and of no other table. None of its fields begins a formula. -/
theorem createCsv_table (numberText : Number → Text) (headers : List Text) (rows : List (List (CsvValue Number)))
    (columns : Nat) (two : 2 ≤ columns) (header : headers.length = columns) (uniform : ∀ row ∈ rows, row.length = columns) :
    (createCsv numberText headers rows = none ↔ ∃ row ∈ rows, CsvValue.date none ∈ row) ∧
      ∀ csv, createCsv numberText headers rows = some csv →
        ∃ body table, csv = byteOrderMark :: body ∧ cells numberText headers rows = some table ∧
          parse body = some table ∧ File body table ∧
          (∀ other, File body other → (∀ record ∈ other, 2 ≤ record.length) → other = table) ∧
          ∀ record ∈ table, record.length = columns ∧ ∀ value ∈ record, formulaPrefix value = false := by
  refine ⟨createCsv_eq_none, fun csv h => ?_⟩
  obtain ⟨lines, made, rfl⟩ := Option.map_eq_some_iff.1 h
  have lengths : ∀ row ∈ headers.map CsvValue.string :: rows, row.length = columns := by
    refine List.forall_mem_cons.2 ⟨?_, uniform⟩
    rw [List.length_map, header]
  have filled : ∀ row ∈ headers.map CsvValue.string :: rows, row ≠ [] := by
    rintro row hrow rfl
    have := lengths [] hrow
    rw [List.length_nil] at this
    omega
  obtain ⟨table, same, file⟩ := file_lines (List.cons_ne_nil _ _) filled made
  have widths : ∀ record ∈ table, record.length = columns := by
    intro record hrecord
    obtain ⟨row, hrow, values⟩ := mem_mapM same hrecord
    rw [length_mapM values, lengths row hrow]
  have read : parse (List.intercalate [cr, lf] lines ++ [cr, lf]) = some table :=
    parse_file file fun record hrecord => by rw [widths record hrecord]; exact two
  refine ⟨_, table, rfl, same, read, file, ?_, fun record hrecord => ⟨widths record hrecord, fun value hvalue => ?_⟩⟩
  · intro other file' columns'
    exact Option.some.inj ((parse_file file' columns').symm.trans read)
  · obtain ⟨row, -, values⟩ := mem_mapM same hrecord
    obtain ⟨v, -, is⟩ := mem_mapM values hvalue
    obtain ⟨text, -, rfl⟩ := Option.map_eq_some_iff.1 is
    exact formulaPrefix_neutralized text

end

/-- A name that begins as a formula and has a quote and a line break in it. -/
def oddRow : List (CsvValue Nat) := [.string (units "=Ada \"Ace\"\r\n,"), .number 7]

theorem createCsv_table_oddRow : ∃ csv body table, createCsv (padded 1) [units "Name", units "Level"] [oddRow] = some csv ∧
    csv = byteOrderMark :: body ∧ parse body = some table ∧
    cells (padded 1) [units "Name", units "Level"] [oddRow] = some table := by
  obtain ⟨invalid, read⟩ := createCsv_table (padded 1) [units "Name", units "Level"] [oddRow] 2 (by decide) rfl (by decide)
  obtain ⟨csv, made⟩ := Option.ne_none_iff_exists'.1 fun none_ => absurd (invalid.1 none_) (by decide)
  obtain ⟨body, table, starts, same, parsed, -⟩ := read csv made
  exact ⟨csv, body, table, made, starts, parsed, same⟩

example : (createCsv (padded 1) [units "Due", units "Paid"] [[.number 7, .date (some 1788516000000)]]) =
    some (byteOrderMark :: units "\"Due\",\"Paid\"\r\n\"7\",\"2026-09-04T10:00:00.000Z\"\r\n") := by
  decide +kernel

end Heightt.CsvUtil
