import Heightt.Finance.Posting
import Heightt.ReadCommitted.Executes
import Heightt.Runs.Amounts

/-!
# The books of the ledger

An entry is posted with its lines, and each line moves the stored balance of its account. So in every
run of postings and reversals in which each line finds the balance that was read for it, the stored
balances are those of all lines, and their sum stays. The reconciliation report leaves out the entries
that are no longer POSTED: it differs from the stored balances by the lines of these.
-/

namespace Heightt

open ReadCommitted Store Database LedgerService WalletService

/-! ## The calls and what they commit -/

/-- A call that changes the books. -/
inductive JournalCall where
  | createJournalEntry (data : JournalData) (new : NewEntry)
  | reverseJournalEntry (id : Id) (reason : String) (new : NewEntry)

def JournalCall.program : JournalCall → Action Unit
  | createJournalEntry data new => (Op.createJournalEntry data new).program
  | reverseJournalEntry id reason new => (Op.reverseJournalEntry id reason new).program

/-- What the calls commit. -/
inductive BookTx : List Stmt → Prop where
  | read : BookTx []
  | entry {data : JournalData} {new : NewEntry} {F : List Stmt}
      (balanced : totalDebits data.lines = totalCredits data.lines) (journal : Journal data new F) : BookTx F
  | mark (id : Id) : BookTx [.updateJournalEntry id .reversed]

theorem JournalCall.makes (call : JournalCall) : Makes (Committing BookTx) call.program fun _ => True := by
  cases call with
  | createJournalEntry data new =>
    exact (makes_createJournalEntry fun _ _ balanced journal => .entry balanced journal).bind fun _ _ => .ret trivial
  | reverseJournalEntry id reason new =>
    refine (committing_outside (S := fun _ => True) (fun _ => trivial) .read).bind fun _ _ => ?_
    refine (makes_orThrow _ _).bind fun e _ => (Makes.ensure _).bind fun _ _ => ?_
    exact (makes_createJournalEntry fun _ _ balanced journal => .entry balanced journal).bind fun _ _ =>
      committing_statement (.mark id)

/-! ## The entries -/

/-- What the lines of all entries add to an account. -/
def enteredTotal (d : Db) (a : AccountId) : Int := d.journalEntries.sum fun e => lineTotal e.lines a

/-- What the report leaves out. -/
def unpostedTotal (d : Db) (a : AccountId) : Int :=
  d.journalEntries.sum fun e => if e.status = .posted then 0 else lineTotal e.lines a

theorem enteredTotal_eq (d : Db) (a : AccountId) : enteredTotal d a = calculatedBalance d a + unpostedTotal d a := by
  unfold enteredTotal calculatedBalance unpostedTotal Table.sum
  induction d.journalEntries.rows with
  | nil => rfl
  | cons e rows ih =>
    have split : lineTotal e.lines a = postedTotal e a + if e.status = .posted then 0 else lineTotal e.lines a := by
      unfold postedTotal
      split <;> omega
    simp only [List.map_cons, List.sum_cons]
    omega

section Entries

variable {data : JournalData} {new : NewEntry} {F : List Stmt} {d s : Db}

/-- One line more: only the new entry, the last row, is changed. -/
theorem entries_of_line {rows : List JournalEntry} {e : JournalEntry} (unused : e.id ∉ rows.map JournalEntry.id)
    (entries : s.journalEntries.rows = rows ++ [e]) (l : JournalLine) :
    (apply (Stmt.createJournalLine e.id l) s).journalEntries.rows = rows ++ [{ e with lines := e.lines ++ [l] }] := by
  refine (Table.modify_rows s.journalEntries e.id (fun e => { e with lines := e.lines ++ [l] }) fun _ => rfl).trans ?_
  rw [entries, List.map_append]
  congr 1
  · refine (List.map_congr_left fun r mem => if_neg fun same => ?_).trans (List.map_id' _)
    exact unused (same ▸ List.mem_map_of_mem mem)
  · simp

theorem entries_of_postings {id : Id} {lines : List JournalLine} {G : List Stmt} (h : Postings id lines G)
    {rows : List JournalEntry} {e : JournalEntry} (hid : e.id = id) (unused : e.id ∉ rows.map JournalEntry.id)
    (entries : s.journalEntries.rows = rows ++ [e]) :
    (applyAll G s).journalEntries.rows = rows ++ [{ e with lines := e.lines ++ lines }] := by
  induction h generalizing s e with
  | nil =>
    rw [List.append_nil]
    exact entries
  | cons l base rest ih =>
    subst hid
    have line := entries_of_line unused entries l
    have all := ih (e := { e with lines := e.lines ++ [l] })
      (s := apply (Stmt.updateLedgerAccount l.ledgerAccountId (.set base (balanceChange l)))
        (apply (Stmt.createJournalLine e.id l) s)) rfl unused line
    rw [List.append_assoc] at all
    exact all

/-- **The entry with all its lines** is the row that a posting adds. -/
theorem entries_of_journal (journal : Journal data new F) (valid : violation F d = none) :
    (applyAll F d).journalEntries.rows = d.journalEntries.rows ++ [data.posted new] := by
  obtain ⟨G, postings, rfl⟩ := journal
  have free := Posting.free (violation_cons.1 valid).1
  have entered : (apply (Stmt.createJournalEntry (data.entry new)) d).journalEntries.rows =
      d.journalEntries.rows ++ [data.entry new] := Table.insert_rows free
  exact entries_of_postings postings rfl (Table.find_eq_none.1 free) entered

theorem enteredTotal_journal (journal : Journal data new F) (valid : violation F d = none) (a : AccountId) :
    enteredTotal (applyAll F d) a = enteredTotal d a + lineTotal data.lines a := by
  unfold enteredTotal Table.sum
  rw [entries_of_journal journal valid, List.map_append, List.sum_append, List.map_singleton, List.sum_singleton]
  rfl

theorem enteredTotal_mark (d : Db) (id : Id) (a : AccountId) :
    enteredTotal (applyAll [.updateJournalEntry id .reversed] d) a = enteredTotal d a :=
  Table.sum_modify_of_eq d.journalEntries id (fun e => { e with status := .reversed }) (fun _ => rfl) fun _ => rfl

end Entries

/-! ## The balances -/

/-- What a statement adds to the balances of all accounts. -/
def Stmt.booked : Stmt → Int
  | .updateLedgerAccount _ balance => balance.delta
  | _ => 0

section Balances

variable {data : JournalData} {new : NewEntry} {F : List Stmt} {d : Db}

theorem total_apply {s : Stmt} (ok : check s d = none) (fresh : ∀ c, (change Db s c).Fresh (value d c)) :
    (apply s d).ledgerAccounts.sum LedgerAccount.balance = d.ledgerAccounts.sum LedgerAccount.balance + s.booked := by
  cases s with
  | updateLedgerAccount id balance =>
    obtain ⟨r, found⟩ := Stmt.existing_eq_none.1 ok
    have read : balance.Fresh r.balance := by
      simpa [change, Stmt.change, value, Db.value, found] using fresh (.ledger id)
    refine (Table.sum_modify found (fun a => { a with balance := balance.apply a.balance }) (fun _ => rfl) _).trans ?_
    rw [Change.apply_of_fresh read, add_sub_cancel_left]
    rfl
  | createLedgerAccount id =>
    have free : d.ledgerAccounts.find id = none := by
      have unused := Stmt.unique_eq_none.1 ok
      exact Option.isNone_iff_eq_none.1 (Option.isSome_eq_false_iff.1 unused)
    exact Table.sum_insert (r := ({ id } : LedgerAccount)) free LedgerAccount.balance
  | _ => exact (add_zero _).symm

/-- What is left of a transaction whose writes are fresh. -/
theorem current_tail {s : Stmt} (ok : check s d = none) (current : Current (s :: F) d) : Current F (apply s d) := by
  intro c
  rw [value_apply c ok]
  exact (current c).2

theorem total_applyAll (valid : violation F d = none) (current : Current F d) :
    (applyAll F d).ledgerAccounts.sum LedgerAccount.balance =
      d.ledgerAccounts.sum LedgerAccount.balance + (F.map Stmt.booked).sum := by
  induction F generalizing d with
  | nil => exact (add_zero _).symm
  | cons s F ih =>
    obtain ⟨ok, valid⟩ := violation_cons.1 valid
    rw [applyAll_cons, ih valid (current_tail ok current), total_apply ok fun c => (current c).1, List.map_cons,
      List.sum_cons, add_assoc]

theorem booked_journal (journal : Journal data new F) : (F.map Stmt.booked).sum = netChange data.lines := by
  obtain ⟨G, postings, rfl⟩ := journal
  rw [List.map_cons, List.sum_cons]
  refine (zero_add _).trans ?_
  generalize data.lines = lines at postings
  induction postings with
  | nil => rfl
  | cons l base rest ih =>
    simp only [List.map_cons, List.sum_cons, ih, Stmt.booked, Change.delta_set]
    unfold netChange
    rw [zero_add, List.map_cons, List.sum_cons]

theorem value_journal (journal : Journal data new F) (valid : violation F d = none) (current : Current F d)
    (a : AccountId) : (applyAll F d).value (.ledger a) = d.value (.ledger a) + lineTotal data.lines a := by
  have moved := (value_applyAll valid (Col.ledger a)).trans (valueAfter_of_fresh (current (.ledger a)))
  rw [delta_journal journal] at moved
  exact moved

end Balances

/-! ## A posting and its reversal -/

/-- What the mirror image of a line adds is taken away. -/
theorem balanceChange_reversal (reference : String) (l : JournalLine) :
    balanceChange (reversal reference l) = -balanceChange l := by
  unfold balanceChange reversal
  cases l.type with
  | debit => rfl
  | credit => exact (Int.neg_neg _).symm

theorem lineTotal_reversal (reference : String) (lines : List JournalLine) (a : AccountId) :
    lineTotal (lines.map (reversal reference)) a = -lineTotal lines a := by
  unfold lineTotal
  induction lines with
  | nil => rfl
  | cons l lines ih =>
    have line : (if (reversal reference l).ledgerAccountId = a then balanceChange (reversal reference l) else 0) =
        -if l.ledgerAccountId = a then balanceChange l else 0 := by
      rw [balanceChange_reversal]
      show (if l.ledgerAccountId = a then _ else _) = _
      split <;> omega
    simp only [List.map_cons, List.sum_cons, ih, line]
    omega

/-- The accounts of `d'` are those of `d`, and the report has moved by `δ`. -/
structure Restored (d : Db) (δ : AccountId → Int) (d' : Db) : Prop where
  balances : ∀ a, d'.value (.ledger a) = d.value (.ledger a)
  report : ∀ a, calculatedBalance d' a = calculatedBalance d a + δ a
  rest : d' = { d with journalEntries := d'.journalEntries, ledgerAccounts := d'.ledgerAccounts }

section RoundTrip

variable {data back : JournalData} {new new' : NewEntry} {d d₁ d₂ : Db} {x : Services} {e e' : JournalEntry}

theorem LedgerService.Posted.value_lineTotal (h : Posted data new d e d₁) (a : AccountId) :
    d₁.value (.ledger a) = d.value (.ledger a) + lineTotal data.lines a := by
  rw [h.value_ledger, lineTotal_eq_netChange, netChange_eq]

theorem LedgerService.Posted.report_lineTotal (h : Posted data new d e d₁) (a : AccountId) :
    calculatedBalance d₁ a = calculatedBalance d a + lineTotal data.lines a := by
  unfold calculatedBalance Table.sum
  rw [h.entries, List.map_append, List.sum_append, List.map_singleton, List.sum_singleton]
  unfold postedTotal
  rw [if_pos h.status, h.lines]

/-- The mirror entry brings the accounts back. -/
theorem LedgerService.Posted.mirrored (h : Posted data new d e d₁) (h' : Posted back new' d₁ e' d₂)
    (lines : back.lines = data.lines.map (reversal e.reference)) : Restored d (fun _ => 0) d₂ where
  balances a := by
    rw [h'.value_lineTotal, h.value_lineTotal, lines, lineTotal_reversal]
    omega
  report a := by
    rw [h'.report_lineTotal, h.report_lineTotal, lines, lineTotal_reversal]
    omega
  rest := by rw [h'.rest, h.rest]

/-- The mark takes the lines of the entry out of the report. -/
theorem Restored.mark (h : Restored d (fun _ => 0) d₂) (found : d₂.journalEntries.find e.id = some e)
    (status : e.status = .posted) :
    Restored d (fun a => -lineTotal e.lines a) (apply (Stmt.updateJournalEntry e.id .reversed) d₂) where
  balances := h.balances
  report a := by
    refine (Table.sum_modify found (fun r => { r with status := .reversed }) (fun _ => rfl) _).trans ?_
    have before : postedTotal e a = lineTotal e.lines a := if_pos status
    have after : postedTotal { e with status := .reversed } a = 0 := rfl
    rw [before, after, zero_sub]
    exact congrArg (· + _) ((h.report a).trans (add_zero _))
  rest := by
    have rest := h.rest
    obtain ⟨⟩ := d₂
    cases rest
    rfl

/-- An entry is posted, and then reversed. -/
def createThenReverse (data : JournalData) (reason : String) (new new' : NewEntry) : Action Unit := do
  let entry ← createJournalEntry data new false
  LedgerService.reverseJournalEntry entry.id reason new'

end RoundTrip

/-! ## The runs -/

/-- Each commit finds the balances that its lines were computed from. -/
def FindsBalances (c : System) : Effect Stmt Call → Prop
  | .commit _ _ F => Current F c.db
  | _ => True

instance (c : System) : (eff : Effect Stmt Call) → Decidable (FindsBalances c eff)
  | .commit _ _ F => inferInstanceAs (Decidable (Current F c.db))
  | .internal => isTrue trivial
  | .fault _ => isTrue trivial
  | .called .. => isTrue trivial
  | .unsent .. => isTrue trivial

/-- The books in state `d`, since the state `db`. -/
structure BooksKept (db d : Db) : Prop where
  /-- Each balance has moved by the lines that were posted on its account. -/
  stored : ∀ a, d.value (.ledger a) - enteredTotal d a = db.value (.ledger a) - enteredTotal db a
  total : d.ledgerAccounts.sum LedgerAccount.balance = db.ledgerAccounts.sum LedgerAccount.balance
  /-- Every entry is old, but for its status, or balanced. -/
  balanced : ∀ e ∈ d.journalEntries.rows, totalDebits e.lines = totalCredits e.lines ∨
    ∃ r ∈ db.journalEntries.rows, r.id = e.id ∧ r.lines = e.lines

namespace BooksKept

variable {db d : Db} {F : List Stmt}

theorem start (db : Db) : BooksKept db db := ⟨fun _ => rfl, rfl, fun e mem => .inr ⟨e, mem, rfl, rfl⟩⟩

theorem step (h : BooksKept db d) (tx : BookTx F) (valid : violation F d = none) (current : Current F d) :
    BooksKept db (applyAll F d) := by
  cases tx with
  | read => exact h
  | entry balanced journal =>
    rename_i data new
    refine ⟨fun a => ?_, ?_, fun e mem => ?_⟩
    · have stored := h.stored a
      rw [value_journal journal valid current, enteredTotal_journal journal valid]
      omega
    · rw [total_applyAll valid current, booked_journal journal, netChange_eq, balanced, Int.sub_self, add_zero]
      exact h.total
    · rw [entries_of_journal journal valid] at mem
      obtain old | new := List.mem_append.1 mem
      · exact h.balanced e old
      · rw [List.mem_singleton.1 new]
        exact .inl balanced
  | mark id =>
    refine ⟨fun a => ?_, h.total, fun e mem => ?_⟩
    · rw [enteredTotal_mark]
      exact h.stored a
    · have rows : (applyAll [.updateJournalEntry id .reversed] d).journalEntries.rows =
          d.journalEntries.rows.map fun e => if e.id = id then { e with status := .reversed } else e :=
        Table.modify_rows d.journalEntries id (fun e => { e with status := .reversed }) fun _ => rfl
      rw [rows] at mem
      obtain ⟨r, old, rfl⟩ := List.mem_map.1 mem
      split
      · exact h.balanced r old
      · exact h.balanced r old

/-- What the reconciliation report shows as the difference. -/
theorem difference (h : BooksKept db d) {r : Reconciliation} (mem : r ∈ reconcileAccounts d) :
    r.difference = db.value (.ledger r.accountId) - enteredTotal db r.accountId + unpostedTotal d r.accountId := by
  obtain ⟨a, reported, rfl⟩ := List.mem_map.1 mem
  have row : a ∈ d.ledgerAccounts.rows := (List.mem_filter.1 reported).1
  have stored : d.value (.ledger a.id) = a.balance := by
    show ((d.ledgerAccounts.find a.id).map LedgerAccount.balance).getD 0 = a.balance
    rw [Table.find_of_mem row]
    rfl
  have kept := h.stored a.id
  have entered := enteredTotal_eq d a.id
  dsimp only
  omega

end BooksKept

/-- The accounts of two wallets. -/
def twoAccounts : Db where
  ledgerAccounts := ⟨[{ id := .wallet (.ofNat 1) }, { id := .wallet (.ofNat 2) }], by decide⟩

/-- An amount from one account to the other. -/
def transferData (amount : Int) : JournalData where
  description := "Transfer"
  lines := [⟨.wallet (.ofNat 1), .debit, amount, ""⟩, ⟨.wallet (.ofNat 2), .credit, amount, ""⟩]

/-- Two postings, and a reversal of the first. -/
def postingsAndReversal : List JournalCall :=
  [.createJournalEntry (transferData 5) ⟨.ofNat 3, "JE-1"⟩, .createJournalEntry (transferData 2) ⟨.ofNat 4, "JE-2"⟩,
    .reverseJournalEntry (.ofNat 3) "mistake" ⟨.ofNat 5, "JE-3"⟩]

end Heightt
