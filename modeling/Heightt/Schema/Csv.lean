import Heightt.Schema.Text
import Mathlib.Data.List.Forall2

/-!
# Comma-separated values

The grammar of RFC 4180, with any character but the four that structure a file as text data, and
a reader that takes a file character by character. Where every record has two fields at least, the
grammar gives a file one table, and the reader finds it.
-/

namespace Heightt.Csv

def comma : UInt16 := 44
def quote : UInt16 := 34
def cr : UInt16 := 13
def lf : UInt16 := 10

def textData (u : UInt16) : Bool := u ≠ comma ∧ u ≠ quote ∧ u ≠ cr ∧ u ≠ lf

/-- Every quote is written twice. -/
def doubled (t : Text) : Text := t.flatMap fun u => if u = quote then [quote, quote] else [u]

/-! ## The grammar -/

/-- The text of a field and its value. -/
inductive Field : Text → Text → Prop
  | plain {v : Text} : (∀ u ∈ v, textData u = true) → Field v v
  | quoted (v : Text) : Field (quote :: (doubled v ++ [quote])) v

/-- Fields with commas between them. -/
inductive Record : Text → List Text → Prop
  | one {w v : Text} : Field w v → Record w [v]
  | cons {w v t : Text} {vs : List Text} : Field w v → Record t vs → Record (w ++ comma :: t) (v :: vs)

/-- Records with line breaks between them, and perhaps one at the end. -/
inductive File : Text → List (List Text) → Prop
  | one {t : Text} {vs : List Text} : Record t vs → File t [vs]
  | last {t : Text} {vs : List Text} : Record t vs → File (t ++ [cr, lf]) [vs]
  | cons {t s : Text} {vs : List Text} {table : List (List Text)} : Record t vs → File s table →
      File (t ++ cr :: lf :: s) (vs :: table)

/-! ## The reader -/

inductive Mode where
  | line | field | plain | quoted | quote | cr
  deriving DecidableEq

structure Reader where
  mode : Mode
  value : Text
  record : List Text
  table : List (List Text)
  deriving DecidableEq

def begin_ : Reader := ⟨.line, [], [], []⟩

/-- A comma or a line break ends the field. -/
def Reader.delimit (r : Reader) (u : UInt16) : Option Reader :=
  if u = comma then some { r with mode := .field, value := [], record := r.record ++ [r.value] }
  else if u = Csv.cr then some { r with mode := .cr }
  else none

def Reader.endRecord (r : Reader) : Reader := ⟨.line, [], [], r.table ++ [r.record ++ [r.value]]⟩

def step (r : Reader) (u : UInt16) : Option Reader :=
  match r.mode with
  | .line | .field =>
    if u = Csv.quote then some { r with mode := .quoted }
    else if textData u then some { r with mode := .plain, value := r.value ++ [u] }
    else r.delimit u
  | .plain => if textData u then some { r with value := r.value ++ [u] } else r.delimit u
  | .quoted => if u = Csv.quote then some { r with mode := .quote } else some { r with value := r.value ++ [u] }
  | .quote => if u = Csv.quote then some { r with mode := .quoted, value := r.value ++ [u] } else r.delimit u
  | .cr => if u = lf then some r.endRecord else none

def Reader.finish (r : Reader) : Option (List (List Text)) :=
  match r.mode with
  | .line => some r.table
  | .field | .plain | .quote => some r.endRecord.table
  | .quoted | .cr => none

def run (r : Reader) (t : Text) : Option Reader := t.foldlM step r

def parse (t : Text) : Option (List (List Text)) := (run begin_ t).bind Reader.finish

/-! ## The reader finds what the grammar gives -/

@[simp] theorem run_nil (r : Reader) : run r [] = some r := rfl

@[simp] theorem run_cons (r : Reader) (u : UInt16) (t : Text) : run r (u :: t) = (step r u).bind fun r' => run r' t :=
  List.foldlM_cons

theorem run_append (r : Reader) (s t : Text) : run r (s ++ t) = (run r s).bind fun r' => run r' t := List.foldlM_append

/-- Where a field has been read, and a delimiter or the end comes next. -/
def Mode.ends : Mode → Bool
  | .line | .field | .plain | .quote => true
  | .quoted | .cr => false

theorem step_delimiter {r : Reader} (ends : r.mode.ends = true) {u : UInt16} (h : u = comma ∨ u = Csv.cr) :
    step r u = r.delimit u := by
  obtain ⟨mode, value, record, table⟩ := r
  obtain rfl | rfl := h <;> cases mode <;> first | rfl | cases ends

theorem run_plain (r : Reader) (plain : r.mode = .plain) {v : Text} (data : ∀ u ∈ v, textData u = true) :
    run r v = some { r with value := r.value ++ v } := by
  obtain ⟨mode, value, record, table⟩ := r
  obtain rfl : mode = .plain := plain
  induction v generalizing value with
  | nil => rw [List.append_nil, run_nil]
  | cons u v ih =>
    obtain ⟨hu, data⟩ := List.forall_mem_cons.1 data
    have read : step ⟨.plain, value, record, table⟩ u = some ⟨.plain, value ++ [u], record, table⟩ := by
      simp only [step, hu, if_true]
    rw [run_cons, read, Option.bind_some, ih data]
    simp

theorem run_doubled (value : Text) (record : List Text) (table : List (List Text)) (v : Text) :
    run ⟨.quoted, value, record, table⟩ (doubled v) = some ⟨.quoted, value ++ v, record, table⟩ := by
  induction v generalizing value with
  | nil => rw [List.append_nil]; rfl
  | cons u v ih =>
    rw [doubled, List.flatMap_cons, ← doubled, run_append]
    have read : run ⟨.quoted, value, record, table⟩ (if u = quote then [quote, quote] else [u]) =
        some ⟨.quoted, value ++ [u], record, table⟩ := by
      split
      · rename_i same
        subst same
        rfl
      · rename_i other
        simp [step, other]
    rw [read, Option.bind_some, ih]
    simp

/-- From the start of a field, the reader has its value at its end. -/
theorem run_field {w v : Text} (h : Field w v) {mode : Mode} (start : mode = .line ∨ mode = .field) (record : List Text)
    (table : List (List Text)) : ∃ mode', run ⟨mode, [], record, table⟩ w = some ⟨mode', v, record, table⟩ ∧
      mode'.ends = true ∧ (mode = .field → mode' ≠ .line) := by
  cases h with
  | plain data =>
    cases w with
    | nil =>
      refine ⟨mode, rfl, ?_, ?_⟩
      · obtain rfl | rfl := start <;> rfl
      · rintro rfl
        decide
    | cons u w =>
      obtain ⟨hu, data⟩ := List.forall_mem_cons.1 data
      have unquoted : u ≠ quote := (of_decide_eq_true hu).2.1
      have read : step ⟨mode, [], record, table⟩ u = some ⟨.plain, [u], record, table⟩ := by
        obtain rfl | rfl := start <;> simp [step, unquoted, hu]
      refine ⟨.plain, ?_, rfl, by simp⟩
      rw [run_cons, read, Option.bind_some, run_plain _ rfl data]
      rfl
  | quoted =>
    have opens : step ⟨mode, [], record, table⟩ quote = some ⟨.quoted, [], record, table⟩ := by
      obtain rfl | rfl := start <;> rfl
    refine ⟨.quote, ?_, rfl, by simp⟩
    rw [run_cons, opens, Option.bind_some, run_append, run_doubled, Option.bind_some]
    rfl

/-- By induction on the fields. -/
theorem run_record {t : Text} {vs : List Text} (h : Record t vs) {mode : Mode} (start : mode = .line ∨ mode = .field)
    (record : List Text) (table : List (List Text)) :
    ∃ mode' value fields, run ⟨mode, [], record, table⟩ t = some ⟨mode', value, fields, table⟩ ∧ mode'.ends = true ∧
      fields ++ [value] = record ++ vs ∧ (mode = .field ∨ 2 ≤ vs.length → mode' ≠ .line) := by
  induction h generalizing mode record with
  | one field =>
    obtain ⟨mode', read, ends, within⟩ := run_field field start record table
    exact ⟨mode', _, record, read, ends, rfl, fun h => within (h.resolve_right (by simp))⟩
  | @cons w v t vs field _ ih =>
    obtain ⟨mode₁, read, ends₁, -⟩ := run_field field start record table
    obtain ⟨mode', value, fields, rest, ends, values, within⟩ := ih (.inr rfl) (record ++ [v])
    refine ⟨mode', value, fields, ?_, ends, ?_, fun _ => within (.inl rfl)⟩
    · rw [run_append, read, Option.bind_some, run_cons, step_delimiter ends₁ (.inl rfl)]
      exact rest
    · rw [values, List.append_assoc]
      rfl

theorem run_lineBreak {r : Reader} (ends : r.mode.ends = true) (t : Text) : run r (cr :: lf :: t) = run r.endRecord t := by
  rw [run_cons, step_delimiter ends (.inr rfl)]
  rfl

/-- By induction on the records; the last may end without a line break. -/
theorem run_file {s : Text} {table : List (List Text)} (h : File s table) (columns : ∀ vs ∈ table, 2 ≤ vs.length)
    (before : List (List Text)) : (run ⟨.line, [], [], before⟩ s).bind Reader.finish = some (before ++ table) := by
  induction h generalizing before with
  | one record =>
    obtain ⟨mode, value, fields, read, ends, values, within⟩ := run_record record (.inl rfl) [] before
    have other : mode ≠ .line := within (.inr (columns _ List.mem_cons_self))
    rw [List.nil_append] at values
    rw [read, Option.bind_some, ← values]
    cases mode <;> first | rfl | exact absurd rfl other | cases ends
  | last record =>
    obtain ⟨mode, value, fields, read, ends, values, -⟩ := run_record record (.inl rfl) [] before
    rw [run_append, read, Option.bind_some, run_lineBreak ends, Reader.endRecord, values]
    rfl
  | cons record _ ih =>
    obtain ⟨mode, value, fields, read, ends, values, -⟩ := run_record record (.inl rfl) [] before
    rw [run_append, read, Option.bind_some, run_lineBreak ends, Reader.endRecord, values,
      ih fun vs hvs => columns vs (List.mem_cons_of_mem _ hvs)]
    simp

theorem parse_file {s : Text} {table : List (List Text)} (h : File s table) (columns : ∀ vs ∈ table, 2 ≤ vs.length) :
    parse s = some table :=
  run_file h columns []

end Heightt.Csv
