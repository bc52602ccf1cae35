import Heightt.Finance.Ledger
import Heightt.ReadCommitted.Inside

/-!
# LedgerService: posting a journal entry

`createJournalEntry` posts its lines one after the other, and each account is set to the
balance just read plus the line's change. The lines may name an account any number of
times: after some lines an account stands at its old balance plus what these lines add to
it (`Posting`), since the transaction reads what it has written itself.
-/

namespace Heightt.LedgerService

open ReadCommitted Prog Store

/-! ## Sums over lines -/

/-- The lines on an account. -/
def linesOn (lines : List JournalLine) (a : AccountId) : List JournalLine :=
  lines.filter fun l => l.ledgerAccountId = a

/-- What the lines change all balances by. -/
def netChange (lines : List JournalLine) : Int := (lines.map balanceChange).sum

@[simp] theorem netChange_nil : netChange [] = 0 := rfl

theorem netChange_append (lines : List JournalLine) (l : JournalLine) :
    netChange (lines ++ [l]) = netChange lines + balanceChange l := by
  simp [netChange]

theorem netChange_eq (lines : List JournalLine) :
    netChange lines = totalDebits lines - totalCredits lines := by
  induction lines with
  | nil => rfl
  | cons l lines ih =>
    have hl : balanceChange l =
        (if l.type = .debit then l.amount else 0) - if l.type = .debit then 0 else l.amount := by
      cases h : l.type <;> simp [balanceChange, h]
    simp only [netChange, totalDebits, totalCredits, List.map_cons, List.sum_cons] at ih ⊢
    omega

@[simp] theorem lineTotal_nil (a : AccountId) : lineTotal [] a = 0 := rfl

theorem lineTotal_append (lines : List JournalLine) (l : JournalLine) (a : AccountId) :
    lineTotal (lines ++ [l]) a =
      lineTotal lines a + if l.ledgerAccountId = a then balanceChange l else 0 := by
  simp [lineTotal]

theorem lineTotal_eq_netChange (lines : List JournalLine) (a : AccountId) :
    lineTotal lines a = netChange (linesOn lines a) := by
  induction lines with
  | nil => rfl
  | cons l lines ih =>
    unfold lineTotal netChange linesOn at *
    rw [List.map_cons, List.sum_cons, ih]
    by_cases on : l.ledgerAccountId = a
    · simp [on]
    · simp [on]

/-! ## The loop -/

/-- The account, with its balance moved. -/
def addBalance (δ : Int) (a : LedgerAccount) : LedgerAccount := { a with balance := a.balance + δ }

/-- `s` is the state `d` with the lines `done` of the entry posted. -/
structure Posting (data : JournalData) (new : NewEntry) (d : Db) (done : List JournalLine) (s : Db) :
    Prop where
  fresh : d.journalEntries.find new.id = none
  exist : ∀ l ∈ done, (d.ledgerAccounts.find l.ledgerAccountId).isSome
  entries : s.journalEntries.rows = d.journalEntries.rows ++ [{ data.entry new with lines := done }]
  balances : ∀ a, s.ledgerAccounts.find a = (d.ledgerAccounts.find a).map (addBalance (lineTotal done a))
  total : s.ledgerAccounts.sum LedgerAccount.balance =
    d.ledgerAccounts.sum LedgerAccount.balance + netChange done
  rest : s = { d with journalEntries := s.journalEntries, ledgerAccounts := s.ledgerAccounts }

namespace Posting

variable {data : JournalData} {new : NewEntry} {d s : Db} {done : List JournalLine}

/-- The identifier of the new entry is free. -/
theorem free (valid : Database.check (Stmt.createJournalEntry (data.entry new)) d = none) :
    d.journalEntries.find new.id = none := by
  have unused := Stmt.unique_eq_none.1 (Option.or_eq_none_iff.1 valid).1
  exact Option.isNone_iff_eq_none.1 (Option.isSome_eq_false_iff.1 unused)

theorem start (valid : Database.check (Stmt.createJournalEntry (data.entry new)) d = none) :
    Posting data new d [] (Database.apply (Stmt.createJournalEntry (data.entry new)) d) where
  fresh := free valid
  exist := by simp
  entries := Table.insert_rows (free valid)
  balances a := by
    have still : addBalance 0 = id := funext fun r => by simp [addBalance]
    rw [lineTotal_nil, still, Option.map_id_fun]
    rfl
  total := by
    rw [netChange_nil, add_zero]
    rfl
  rest := rfl

/-- One more line: only the new entry, the last row, is changed. -/
theorem entries_line (h : Posting data new d done s) (l : JournalLine) :
    (Database.apply (Stmt.createJournalLine new.id l) s).journalEntries.rows =
      d.journalEntries.rows ++ [{ data.entry new with lines := done ++ [l] }] := by
  refine (Table.modify_rows s.journalEntries new.id
    (fun e => { e with lines := e.lines ++ [l] }) fun _ => rfl).trans ?_
  rw [h.entries, List.map_append]
  congr 1
  · refine (List.map_congr_left fun e he => if_neg fun same => ?_).trans (List.map_id' _)
    exact Table.find_eq_none.1 h.fresh (same ▸ List.mem_map_of_mem he)
  · simp [JournalData.entry]

/-- One more line: its account stood at what was read, and the others keep their balances. -/
theorem balances_line (h : Posting data new d done s) {l : JournalLine} {account : LedgerAccount}
    (found : s.ledgerAccounts.find l.ledgerAccountId = some account) (a : AccountId) :
    (Database.apply (Stmt.updateLedgerAccount l.ledgerAccountId (.set account.balance (balanceChange l)))
        s).ledgerAccounts.find a =
      (d.ledgerAccounts.find a).map (addBalance (lineTotal (done ++ [l]) a)) := by
  refine (Table.find_modify s.ledgerAccounts l.ledgerAccountId
    (fun r => { r with balance := account.balance + balanceChange l }) (fun _ => rfl) a).trans ?_
  rw [lineTotal_append]
  by_cases on : l.ledgerAccountId = a
  · subst on
    have old := h.balances l.ledgerAccountId
    rw [found] at old
    obtain ⟨r, hr, rfl⟩ := Option.map_eq_some_iff.1 old.symm
    rw [if_pos rfl, if_pos rfl, found, hr]
    simp [addBalance, Int.add_assoc]
  · rw [if_neg (Ne.symm on), if_neg on, add_zero]
    exact h.balances a

/-- One more line: the sum of all balances moves by what it adds to the account that was read. -/
theorem total_line (h : Posting data new d done s) {l : JournalLine} {account : LedgerAccount}
    (found : s.ledgerAccounts.find l.ledgerAccountId = some account) :
    (Database.apply (Stmt.updateLedgerAccount l.ledgerAccountId (.set account.balance (balanceChange l)))
        s).ledgerAccounts.sum LedgerAccount.balance =
      d.ledgerAccounts.sum LedgerAccount.balance + netChange (done ++ [l]) := by
  refine (Table.sum_modify found (fun r => { r with balance := account.balance + balanceChange l })
    (fun _ => rfl) _).trans ?_
  rw [h.total, netChange_append]
  dsimp only
  omega

/-- **One line** is posted after the others. -/
theorem line (h : Posting data new d done s) {l : JournalLine} {account : LedgerAccount}
    (found : s.ledgerAccounts.find l.ledgerAccountId = some account) :
    Posting data new d (done ++ [l])
      (Database.apply (Stmt.updateLedgerAccount l.ledgerAccountId (.set account.balance (balanceChange l)))
        (Database.apply (Stmt.createJournalLine new.id l) s)) where
  fresh := h.fresh
  exist k hk := by
    obtain hk | hk := List.mem_append.1 hk
    · exact h.exist k hk
    · have old := h.balances l.ledgerAccountId
      rw [found] at old
      obtain ⟨r, hr, -⟩ := Option.map_eq_some_iff.1 old.symm
      rw [List.mem_singleton.1 hk, hr]
      rfl
  entries := h.entries_line l
  balances := h.balances_line found
  total := h.total_line found
  rest := by
    have rest := h.rest
    obtain ⟨⟩ := s
    cases d
    cases rest
    rfl

/-- `postLine` posts a line. -/
theorem inside_postLine (h : Posting data new d done s) (l : JournalLine) :
    Inside Services (postLine new.id l) s fun _ s' => Posting data new d (done ++ [l]) s' := by
  refine .query_bind (.orThrow_bind fun account found => ?_)
  exact .exec_bind fun _ => .exec fun _ => h.line found

end Posting

/-! ## The call -/

/-- What a call that returns has done: debits are equal to credits, all accounts are there, the
entry is added with exactly these lines, and each balance is moved by the debits less the
credits on its account. Nothing else is changed. -/
structure Posted (data : JournalData) (new : NewEntry) (d : Db) (entry : JournalEntry) (d' : Db) : Prop where
  balanced : totalDebits data.lines = totalCredits data.lines
  exist : ∀ l ∈ data.lines, (d.ledgerAccounts.find l.ledgerAccountId).isSome
  status : entry.status = .posted
  lines : entry.lines = data.lines
  entries : d'.journalEntries.rows = d.journalEntries.rows ++ [entry]
  balances : ∀ a, d'.ledgerAccounts.find a = (d.ledgerAccounts.find a).map
    (addBalance (totalDebits (linesOn data.lines a) - totalCredits (linesOn data.lines a)))
  total : d'.ledgerAccounts.sum LedgerAccount.balance = d.ledgerAccounts.sum LedgerAccount.balance
  rest : d' = { d with journalEntries := d'.journalEntries, ledgerAccounts := d'.ledgerAccounts }

theorem Posting.posted {data : JournalData} {new : NewEntry} {d s : Db}
    (balanced : totalDebits data.lines = totalCredits data.lines)
    (h : Posting data new d data.lines s) : Posted data new d (data.posted new) s where
  balanced := balanced
  exist := h.exist
  status := rfl
  lines := rfl
  entries := h.entries
  balances a := by
    rw [h.balances, lineTotal_eq_netChange, netChange_eq]
  total := by
    have none : netChange data.lines = 0 := by
      rw [netChange_eq, balanced, Int.sub_self]
    rw [h.total, none, add_zero]
  rest := h.rest

namespace Posted

variable {data : JournalData} {new : NewEntry} {d d' : Db} {e : JournalEntry}

/-- All other tables are as they were. -/
theorem others (h : Posted data new d e d') :
    d'.wallets = d.wallets ∧ d'.withdrawals = d.withdrawals :=
  ⟨by rw [h.rest], by rw [h.rest]⟩

theorem isSome_account (h : Posted data new d e d') (a : AccountId) :
    (d'.ledgerAccounts.find a).isSome = (d.ledgerAccounts.find a).isSome := by
  rw [h.balances, Option.isSome_map]

theorem value_ledger (h : Posted data new d e d') (a : AccountId) :
    d'.value (.ledger a) = d.value (.ledger a) +
      (totalDebits (linesOn data.lines a) - totalCredits (linesOn data.lines a)) := by
  simp only [Db.value, h.balances]
  cases found : d.ledgerAccounts.find a with
  | some r => simp [addBalance]
  | none =>
    have unused : linesOn data.lines a = [] := by
      refine List.filter_eq_nil_iff.2 fun l hl => ?_
      have there := h.exist l hl
      simp only [decide_eq_true_eq]
      rintro rfl
      simp [found] at there
    simp [unused, totalDebits, totalCredits]

end Posted

/-- The invariant of the loop: the lines that are not left are posted. -/
theorem inside_createWithClient (data : JournalData) (new : NewEntry) (d : Db) :
    Inside Services (createWithClient data new) d fun e s =>
      e = data.posted new ∧ Posting data new d data.lines s := by
  refine .exec_bind fun valid => ?_
  refine (Inside.forEach (I := fun left s => ∃ done, done ++ left = data.lines ∧ Posting data new d done s)
    ⟨[], rfl, .start valid⟩ ?_).bind fun _ s ⟨done, all, h⟩ => ?_
  · rintro l left s ⟨done, all, h⟩
    exact (h.inside_postLine l).mono fun _ s' h' => ⟨done ++ [l], by rw [← all]; simp, h'⟩
  · rw [List.append_nil] at all
    subst all
    exact .ret ⟨rfl, h⟩

/-- In the caller's transaction. -/
theorem inside_createJournalEntry (data : JournalData) (new : NewEntry) (d : Db) :
    Inside Services (createJournalEntry data new true) d fun e s => Posted data new d e s :=
  .ensure_bind fun balanced => (inside_createWithClient data new d).mono fun _ _ ⟨he, h⟩ =>
    he ▸ h.posted balanced

/-- **A journal entry is posted as a whole or not at all**, in a transaction of its own, and in
the caller's it adds to what the caller has done there and to nothing else. -/
theorem createJournalEntry_posts (data : JournalData) (new : NewEntry) (d : Db) (x : Services) :
    Turns (createJournalEntry data new false) d x
        (fun e d' x' => Posted data new d e d' ∧ x' = x) (fun d' x' => d' = d ∧ x' = x) ∧
      Inside Services (createJournalEntry data new true) d fun e d' => Posted data new d e d' := by
  refine ⟨.ensure_bind ⟨rfl, rfl⟩ fun balanced => ?_, inside_createJournalEntry data new d⟩
  exact (inside_createWithClient data new d).turns
    (fun _ _ ⟨he, h⟩ => ⟨he ▸ h.posted balanced, rfl⟩) ⟨rfl, rfl⟩

/-- Two credits to one account, which are both kept. -/
example : ((createJournalEntry
      { description := "Payment"
        lines := [⟨.wallet (.ofNat 1), .debit, 5, ""⟩, ⟨.wallet (.ofNat 2), .credit, 3, ""⟩,
          ⟨.wallet (.ofNat 2), .credit, 2, ""⟩] } ⟨.ofNat 9, "JE"⟩ false).alone []
      { ledgerAccounts := (Table.empty.insert { id := .wallet (.ofNat 1), balance := 7 }).insert
          { id := .wallet (.ofNat 2), balance := 1 } } ({} : Services)).map
        (fun o => o.db.ledgerAccounts.rows.map LedgerAccount.balance) = some [12, -4] := by
  decide

end Heightt.LedgerService
