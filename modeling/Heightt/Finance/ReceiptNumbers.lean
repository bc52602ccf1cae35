import Heightt.Finance.Receipts
import Heightt.Numbers.Numerals
import Heightt.ReadCommitted.Guarantee
import Heightt.ReadCommitted.InTurn
import Mathlib.Data.List.MinMax

/-!
# ReceiptService: receipt numbers

The number of a receipt is one more than that of the year's last receipt, and the last
receipt is the one whose number comes last as a text. Numbers are padded to four digits, so
that the five digits of 10000 come before the four of 9999.
-/

namespace Heightt.ReceiptService

open ReadCommitted Prog WalletService Store Numerals

/-- The receipt numbers of a year start with this. -/
def receiptPrefix (year : Nat) : List Char := "RCP-".toList ++ Nat.toDigits 10 year ++ ['-']

/-- The `n`-th receipt number of a year. -/
def receiptNumber (year n : Nat) : List Char := receiptPrefix year ++ padded 4 n

/-- The year's receipt numbers. -/
def numbersOf (d : Db) (year : Nat) : List (List Char) :=
  (d.receipts.rows.map fun r => r.receiptNumber.toList).filter fun s => (receiptPrefix year).isPrefixOf s

/-- The first in descending order. -/
def lastReceipt (d : Db) (year : Nat) : Option (List Char) := (numbersOf d year).argmax id

def nextNumber (d : Db) (year : Nat) : Nat :=
  match lastReceipt d year with
  | none => 1
  | some number =>
    match ((number.splitOn '-')[2]?).bind parseInt with
    | some lastNumber => lastNumber + 1
    | none => 1

def generateReceiptNumber (year : Nat) : Action String :=
  outside fun d => String.ofList (receiptNumber year (nextNumber d year))

/-- `generateReceipt` with the number that it generates. -/
def generateNumberedReceipt (year : Nat) (paymentId userId newId : Id) : Action Unit := do
  let payment ← findPayment paymentId
  when (payment.payerId ≠ userId) (requirePermission userId payment)
  let existingReceipt ← outside fun d => d.receipts.findFirst fun r => r.paymentId = payment.id
  when existingReceipt.isNone do
    let receiptNumber ← generateReceiptNumber year
    statement (.createReceipt (receiptRow payment ⟨newId, receiptNumber⟩))

/-- The states in which `n` receipts of the year have been issued, one after the other. Whatever
leaves them alone may happen in between. -/
inductive Issues (year : Nat) : Nat → Db → Prop where
  | start (d : Db) (none_ : numbersOf d year = []) : Issues year 0 d
  | issue {n : Nat} {d d' : Db} (before : Issues year n d) {paymentId userId newId : Id} {x x' : Services}
      (call : (generateNumberedReceipt year paymentId userId newId).alone [] d x = some ⟨.ok (), [], d', x'⟩)
      (created : d'.receipts ≠ d.receipts) : Issues year (n + 1) d'
  | other {n : Nat} {d d' : Db} (before : Issues year n d) (same : numbersOf d' year = numbersOf d year) :
      Issues year n d'

/-- The next number is no receipt's, and no receipt fails to be created for its number. -/
structure NeverCollides (year : Nat) (d : Db) (x : Services) : Prop where
  fresh : ∀ r ∈ d.receipts.rows, r.receiptNumber ≠ String.ofList (receiptNumber year (nextNumber d year))
  created : ∀ (p : Payment) (newId : Id), d.payments.find p.id = some p → d.receipts.find newId = none →
    (∀ r ∈ d.receipts.rows, r.paymentId ≠ p.id) →
    (generateNumberedReceipt year p.id p.payerId newId).alone [] d x ≠
      some ⟨.error (.uniqueConstraint "receiptNumber"), [], d, x⟩

/-! ## The numbers as texts -/

theorem receiptNumber_injective (year : Nat) : (receiptNumber year).Injective := fun _ _ h =>
  padded_injective 4 (List.append_cancel_left h)

theorem isPrefixOf_receiptNumber (year n : Nat) : (receiptPrefix year).isPrefixOf (receiptNumber year n) :=
  List.isPrefixOf_iff_prefix.2 (List.prefix_append _ _)

theorem dash_notMem {text : List Char} (digits : ∀ c ∈ text, c.isDigit) : '-' ∉ text := by
  intro mem
  have := digits _ mem
  contradiction

/-- The number is read back. -/
theorem parse_receiptNumber (year n : Nat) :
    (((receiptNumber year n).splitOn '-')[2]?).bind parseInt = some n := by
  have year_ : '-' ∉ Nat.toDigits 10 year :=
    dash_notMem fun _ mem => Nat.isDigit_of_mem_toDigits (by omega) (by omega) mem
  have apart : (receiptNumber year n).splitOn '-' = ["RCP".toList, Nat.toDigits 10 year, padded 4 n] := by
    have shape : receiptNumber year n = "RCP".toList ++ '-' :: (Nat.toDigits 10 year ++ '-' :: padded 4 n) := by
      simp [receiptNumber, receiptPrefix]
    rw [shape, List.splitOn_append_cons_self_of_not_mem (by decide),
      List.splitOn_append_cons_self_of_not_mem year_, List.splitOn_eq_singleton (dash_notMem (isDigit_padded 4 n))]
  rw [apart]
  exact parseInt_padded 4 n

/-- Up to 9999 the order of texts is that of the numbers. -/
theorem receiptNumber_le (year : Nat) {m n : Nat} (h : m ≤ n) (small : n ≤ 9999) :
    receiptNumber year m ≤ receiptNumber year n := by
  obtain rfl | less := Nat.eq_or_lt_of_le h
  · exact le_refl _
  · refine le_of_lt (List.append_left_lt ?_)
    exact (padded_lt_iff (by decide) (by omega) (by omega)).2 less

/-- 10000 comes before 9999. -/
theorem receiptNumber_10000_lt (year : Nat) : receiptNumber year 10000 < receiptNumber year 9999 :=
  List.append_left_lt (by decide)

/-! ## Issued numbers -/

/-- The year's numbers are those from 1 to `n`, and there are no more than 10000. -/
structure Numbered (year n : Nat) (d : Db) : Prop where
  few : n ≤ 10000
  numbers : ∀ s, s ∈ numbersOf d year ↔ ∃ k, 1 ≤ k ∧ k ≤ n ∧ receiptNumber year k = s

section

variable {year n : Nat} {d d' : Db} {x : Services}

theorem mem_numbersOf {s : List Char} : s ∈ numbersOf d year ↔
    (∃ r ∈ d.receipts.rows, r.receiptNumber.toList = s) ∧ (receiptPrefix year).isPrefixOf s := by
  simp [numbersOf]

theorem lastReceipt_eq_some {s : List Char} (mem : s ∈ numbersOf d year) (last : ∀ t ∈ numbersOf d year, t ≤ s) :
    lastReceipt d year = some s := by
  cases found : lastReceipt d year with
  | none => simp [List.argmax_eq_none.1 found] at mem
  | some t =>
    have max : t ∈ (numbersOf d year).argmax id := found
    have greatest : ¬id t < id s := List.not_lt_of_mem_argmax mem max
    rw [le_antisymm (last t (List.argmax_mem max)) (le_of_not_gt greatest)]

/-- The last number by text is that of the last receipt, until this has five digits. -/
theorem Numbered.lastReceipt (h : Numbered year n d) (pos : 1 ≤ n) :
    lastReceipt d year = some (receiptNumber year (min n 9999)) := by
  refine lastReceipt_eq_some ((h.numbers _).2 ⟨min n 9999, by omega, by omega, rfl⟩) fun t mem => ?_
  obtain ⟨k, -, le, rfl⟩ := (h.numbers t).1 mem
  by_cases small : k ≤ 9999
  · exact receiptNumber_le year (by omega) (by omega)
  · have few := h.few
    obtain rfl : k = 10000 := by omega
    rw [show min n 9999 = 9999 by omega]
    exact le_of_lt (receiptNumber_10000_lt year)

theorem Numbered.nextNumber (h : Numbered year n d) : nextNumber d year = min n 9999 + 1 := by
  unfold ReceiptService.nextNumber
  by_cases pos : 1 ≤ n
  · rw [h.lastReceipt pos]
    simp only [parse_receiptNumber]
  · obtain rfl : n = 0 := by omega
    have empty : numbersOf d year = [] := by
      refine List.eq_nil_iff_forall_not_mem.2 fun s mem => ?_
      obtain ⟨k, one, zero, -⟩ := (h.numbers s).1 mem
      omega
    rw [ReceiptService.lastReceipt, empty]
    rfl

/-- The next number is new unless there are 10000. -/
theorem Numbered.fresh_iff (h : Numbered year n d) :
    (∀ r ∈ d.receipts.rows, r.receiptNumber ≠ String.ofList (receiptNumber year (ReceiptService.nextNumber d year))) ↔
      n < 10000 := by
  have few := h.few
  have taken : receiptNumber year (ReceiptService.nextNumber d year) ∈ numbersOf d year ↔ n = 10000 := by
    rw [h.numbers, h.nextNumber]
    constructor
    · rintro ⟨k, one, le, same⟩
      have := receiptNumber_injective year same
      omega
    · intro full
      exact ⟨min n 9999 + 1, by omega, by omega, rfl⟩
  have mem : receiptNumber year (ReceiptService.nextNumber d year) ∈ numbersOf d year ↔
      ∃ r ∈ d.receipts.rows,
        r.receiptNumber = String.ofList (receiptNumber year (ReceiptService.nextNumber d year)) := by
    rw [mem_numbersOf, and_iff_left (isPrefixOf_receiptNumber year _)]
    refine exists_congr fun r => and_congr_right fun _ => ⟨fun same => ?_, fun same => ?_⟩
    · rw [← same, String.ofList_toList]
    · rw [same, String.toList_ofList]
  constructor
  · intro fresh
    by_contra full
    obtain ⟨r, hr, same⟩ := mem.1 (taken.2 (by omega))
    exact fresh r hr same
  · intro less r hr same
    have := taken.1 (mem.2 ⟨r, hr, same⟩)
    omega

/-! ## Creating a receipt -/

/-- A receipt with the next number is added. -/
def Creates (year : Nat) (d d' : Db) : Prop :=
  ∃ r : Receipt, Database.check (Stmt.createReceipt r) d = none ∧ d' = Database.apply (Stmt.createReceipt r) d ∧
    r.receiptNumber = String.ofList (receiptNumber year (nextNumber d year))

theorem turns_requirePermission (userId : Id) (p : Payment) :
    Turns (requirePermission userId p) d x (fun _ d' _ => d' = d) fun _ _ => True := by
  refine .outside_bind trivial (.outside_bind trivial ?_)
  rw [← bind_ret (ensure _ _)]
  exact .ensure_bind trivial fun _ => .ret rfl

theorem turns_generateNumberedReceipt (paymentId userId newId : Id) :
    Turns (generateNumberedReceipt year paymentId userId newId) d x
      (fun _ d' _ => d' = d ∨ Creates year d d') fun _ _ => True := by
  refine Turns.bind (S := fun _ d' _ => d' = d) ?_ fun payment d₁ x₁ h₁ => ?_
  · refine .outside_bind trivial ?_
    rw [← bind_ret (orThrow _ _)]
    exact .orThrow_bind trivial fun _ _ => .ret rfl
  subst h₁
  refine Turns.bind (S := fun _ d' _ => d' = d₁)
    (.when (fun _ => turns_requirePermission userId payment) fun _ => rfl) fun _ d₂ x₂ h₂ => ?_
  subst h₂
  refine .outside_bind trivial (.when (fun _ => .outside_bind trivial ?_) fun _ => .inl rfl)
  exact .statement (fun valid => .inr ⟨_, valid, rfl, rfl⟩) trivial

/-- What the database has checked of a new receipt. -/
theorem of_check_createReceipt {r : Receipt} (valid : Database.check (Stmt.createReceipt r) d = none) :
    d.receipts.find r.id = none ∧ ∀ s ∈ d.receipts.rows, s.receiptNumber ≠ r.receiptNumber := by
  obtain ⟨id, rest⟩ := Option.or_eq_none_iff.1 valid
  obtain ⟨-, rest⟩ := Option.or_eq_none_iff.1 rest
  have number := (Option.or_eq_none_iff.1 rest).1
  rw [Stmt.unique_eq_none] at id number
  refine ⟨Option.isNone_iff_eq_none.1 (Option.isSome_eq_false_iff.1 id), ?_⟩
  simpa using number

/-- **One receipt more** has the number after `n`. -/
theorem Numbered.create (h : Numbered year n d) (creates : Creates year d d') : Numbered year (n + 1) d' := by
  obtain ⟨r, valid, rfl, number⟩ := creates
  obtain ⟨free, fresh⟩ := of_check_createReceipt valid
  have less : n < 10000 := by
    rw [number] at fresh
    exact h.fresh_iff.1 fresh
  have next : ReceiptService.nextNumber d year = n + 1 := by
    rw [h.nextNumber]
    omega
  have numbers : numbersOf (Database.apply (Stmt.createReceipt r) d) year =
      numbersOf d year ++ [receiptNumber year (n + 1)] := by
    show List.filter _ (List.map _ (d.receipts.insert r).rows) = _
    rw [Table.insert_rows free, List.map_append, List.filter_append]
    simp [numbersOf, number, next, isPrefixOf_receiptNumber]
  refine ⟨less, fun s => ?_⟩
  rw [numbers, List.mem_append, h.numbers, List.mem_singleton]
  constructor
  · rintro (⟨k, one, le, rfl⟩ | rfl)
    · exact ⟨k, one, by omega, rfl⟩
    · exact ⟨n + 1, by omega, le_refl _, rfl⟩
  · rintro ⟨k, one, le, rfl⟩
    by_cases last : k ≤ n
    · exact .inl ⟨k, one, last, rfl⟩
    · obtain rfl : k = n + 1 := by omega
      exact .inr rfl

/-- The numbers after any run of calls. -/
theorem numbered_of_issues (h : Issues year n d) : Numbered year n d := by
  induction h with
  | start d none_ =>
    refine ⟨Nat.zero_le _, fun s => ?_⟩
    rw [none_]
    constructor
    · intro mem
      cases mem
    · rintro ⟨k, one, zero, -⟩
      omega
  | issue before call created ih =>
    obtain ⟨-, rfl | creates⟩ := turns_generateNumberedReceipt _ _ _ _ (ends_of_alone call)
    · exact absurd rfl created
    · exact ih.create creates
  | other before same ih => exact ⟨ih.few, fun s => by rw [same]; exact ih.numbers s⟩

/-- The receipt that the payment gets next. -/
def nextReceipt (year : Nat) (d : Db) (p : Payment) (newId : Id) : Receipt :=
  receiptRow p ⟨newId, String.ofList (receiptNumber year (nextNumber d year))⟩

/-- How a single statement ends. -/
def executed (w : Stmt) (d : Db) (x : Services) : Outcome Db Services Stmt Failure Unit :=
  match Database.check w d with
  | none => ⟨.ok (), [], Database.apply w d, x⟩
  | some e => ⟨.error e, [], d, x⟩

/-- The payer's call, for a payment without a receipt, is its one statement. -/
theorem alone_generateNumberedReceipt {p : Payment} {newId : Id} (stored : d.payments.find p.id = some p)
    (unissued : ∀ r ∈ d.receipts.rows, r.paymentId ≠ p.id) :
    (generateNumberedReceipt year p.id p.payerId newId).alone [] d x =
      some (executed (.createReceipt (nextReceipt year d p newId)) d x) := by
  have none_ : (d.receipts.findFirst fun r => r.paymentId = p.id) = none := by
    simpa [Table.findFirst, List.find?_eq_none] using unissued
  have found : (findPayment p.id).alone [] d x = some ⟨.ok p, [], d, x⟩ := by
    unfold findPayment
    rw [bind_eq, alone_outside, stored]
    rfl
  unfold generateNumberedReceipt generateReceiptNumber
  simp only [bind_eq]
  rw [alone_bind, found]
  simp only [Option.bind_some, Outcome.next, when, ne_eq, not_true_eq_false, if_false, Prog.bind,
    alone_outside, none_, Option.isNone_none, if_true]
  rw [← bind_ret (statement _), alone_statement]
  unfold executed nextReceipt
  cases Database.check (Stmt.createReceipt _) d <;> rfl

/-- A key that no receipt has is free. -/
theorem unique_any {C : Receipt → Prop} [DecidablePred C] (h : ∀ r ∈ d.receipts.rows, ¬C r) (target : String) :
    Stmt.unique (d.receipts.rows.any fun r => C r) target = none := by
  rw [Stmt.unique_eq_none, List.any_eq_false]
  intro r hr
  rw [decide_eq_true_eq]
  exact h r hr

/-- What a new receipt may be refused for. -/
theorem check_nextReceipt {p : Payment} {newId : Id} (free : d.receipts.find newId = none)
    (unissued : ∀ r ∈ d.receipts.rows, r.paymentId ≠ p.id) :
    Database.check (Stmt.createReceipt (nextReceipt year d p newId)) d =
      (Stmt.unique (d.receipts.rows.any fun s => s.receiptNumber = (nextReceipt year d p newId).receiptNumber)
        "receiptNumber").or
        (Stmt.unique (d.receipts.rows.any fun s => s.reference = p.reference) "reference") := by
  have id : Stmt.unique (d.receipts.find newId).isSome "id" = none := by simp [free, Stmt.unique]
  have payment := unique_any (C := fun r => r.paymentId = p.id) unissued "paymentId"
  show (Stmt.unique (d.receipts.find newId).isSome "id").or
    ((Stmt.unique (d.receipts.rows.any fun s => s.paymentId = p.id) "paymentId").or _) = _
  rw [id, payment, Option.none_or, Option.none_or]
  rfl

end

/-- The `k`-th of any number of payments. -/
def manyPayments (k : Nat) : Payment where
  id := .ofNat k
  payerId := .ofNat 0
  organizationId := .ofNat 0
  transactionId := .ofNat 0
  amount := 100
  serviceFee := 0
  reference := String.ofList (List.replicate k 'x')

/-- The receipts are those of the payments before the `n`-th, which is stored. -/
structure Receipted (n : Nat) (d : Db) : Prop where
  payments : d.payments = Table.empty.insert (manyPayments n)
  rows : ∀ r ∈ d.receipts.rows, ∃ k, k < n ∧ r.id = .ofNat k ∧ r.paymentId = .ofNat k ∧
    r.reference = (manyPayments k).reference

namespace Receipted

variable {n : Nat} {d : Db}

theorem stored (h : Receipted n d) : d.payments.find (manyPayments n).id = some (manyPayments n) := by
  rw [h.payments, Table.find_insert rfl, if_pos rfl]

theorem ofNat_ne {k : Nat} (few : n ≤ 10000) (less : k < n) : Cuid.ofNat k ≠ .ofNat n := fun same => by
  have := Cuid.ofNat_inj (by omega) (by omega) same
  omega

theorem unissued (h : Receipted n d) (few : n ≤ 10000) : ∀ r ∈ d.receipts.rows, r.paymentId ≠ (manyPayments n).id := by
  intro r mem
  obtain ⟨k, less, -, payment, -⟩ := h.rows r mem
  exact payment ▸ ofNat_ne few less

theorem free (h : Receipted n d) (few : n ≤ 10000) : d.receipts.find (.ofNat n) = none := by
  refine Table.find_eq_none.2 fun mem => ?_
  obtain ⟨r, hr, id⟩ := List.mem_map.1 mem
  obtain ⟨k, less, own, -⟩ := h.rows r hr
  exact ofNat_ne few less (own.symm.trans id)

theorem reference (h : Receipted n d) : ∀ r ∈ d.receipts.rows, r.reference ≠ (manyPayments n).reference := by
  intro r mem same
  obtain ⟨k, less, -, -, own⟩ := h.rows r mem
  have length := congrArg (fun s => s.toList.length) (own.symm.trans same)
  simp only [manyPayments, String.toList_ofList, List.length_replicate] at length
  omega

/-- The next payment gets its receipt. -/
theorem issue {year : Nat} (h : Receipted n d) (less : n < 10000) (issued : Issues year n d) :
    ∃ d', Issues year (n + 1) d' ∧ Receipted (n + 1) d' := by
  obtain ⟨receipt, own⟩ : ∃ r, nextReceipt year d (manyPayments n) (.ofNat n) = r := ⟨_, rfl⟩
  have free : d.receipts.find receipt.id = none := own ▸ h.free (by omega)
  have number : ∀ r ∈ d.receipts.rows, r.receiptNumber ≠ (nextReceipt year d (manyPayments n) (.ofNat n)).receiptNumber :=
    (numbered_of_issues issued).fresh_iff.2 less
  have valid : Database.check (Stmt.createReceipt receipt) d = none := by
    rw [← own, check_nextReceipt (h.free (by omega)) (h.unissued (by omega)), unique_any number,
      unique_any h.reference]
    rfl
  have call : (generateNumberedReceipt year (manyPayments n).id (manyPayments n).payerId (.ofNat n)).alone [] d {} =
      some (executed (.createReceipt (nextReceipt year d (manyPayments n) (.ofNat n))) d {}) :=
    alone_generateNumberedReceipt h.stored (h.unissued (by omega))
  rw [own, executed, valid] at call
  have added : (Database.apply (Stmt.createReceipt receipt) d).receipts.rows = d.receipts.rows ++ [receipt] :=
    Table.insert_rows free
  have created : (Database.apply (Stmt.createReceipt receipt) d).receipts ≠ d.receipts := by
    intro same
    rw [same] at added
    simpa using congrArg List.length added
  -- the payment of the next step is stored in its place
  refine ⟨{ Database.apply (Stmt.createReceipt receipt) d with
    payments := Table.empty.insert (manyPayments (n + 1)) }, .other (.issue issued call created) rfl, rfl, ?_⟩
  intro r mem
  obtain mem | mem := List.mem_append.1 (added ▸ mem)
  · obtain ⟨k, less, own⟩ := h.rows r mem
    exact ⟨k, by omega, own⟩
  · rw [List.mem_singleton.1 mem, ← own]
    exact ⟨n, by omega, rfl, rfl, rfl⟩

end Receipted

/-- One payment after the other gets its receipt. -/
theorem exists_issues (year n : Nat) (few : n ≤ 10000) : ∃ d, Issues year n d ∧ Receipted n d := by
  induction n with
  | zero =>
    refine ⟨{ payments := Table.empty.insert (manyPayments 0) }, .start _ rfl, rfl, fun r mem => ?_⟩
    cases mem
  | succ n ih =>
    obtain ⟨d, issued, receipted⟩ := ih (by omega)
    exact receipted.issue few issued

end Heightt.ReceiptService
