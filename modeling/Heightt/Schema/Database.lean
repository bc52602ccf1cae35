import Heightt.ReadCommitted.Statement
import Heightt.Schema.Rows

/-!
# The database and its statements

`Stmt` lists the statements the finance services send through Prisma. A
statement that writes figures or fields computed from an earlier reading carries
that reading (`Change.set`, or the row `seen`). The constraints are the unique
indexes of the schema and Prisma's refusal to update a missing row.
-/

namespace Heightt

open Store ReadCommitted

structure Db where
  wallets : Table Wallet Id Wallet.id := .empty
  walletHolds : Table WalletHold Id WalletHold.id := .empty
  ledgerAccounts : Table LedgerAccount AccountId LedgerAccount.id := .empty
  journalEntries : Table JournalEntry Id JournalEntry.id := .empty
  transactions : Table Transaction Id Transaction.id := .empty
  payments : Table Payment Id Payment.id := .empty
  receipts : Table Receipt Id Receipt.id := .empty
  pendingPayments : Table PendingPayment Id PendingPayment.id := .empty
  withdrawals : Table Withdrawal Id Withdrawal.id := .empty
  dueAssignments : Table DueAssignment Id DueAssignment.id := .empty
  duePayments : Table DuePayment Id DuePayment.id := .empty
  savingsGoals : Table SavingsGoal Id SavingsGoal.id := .empty
  savingsTransactions : Table SavingsTransaction Id SavingsTransaction.id := .empty
  bankAccounts : Table BankAccount Id BankAccount.id := .empty
  academicSessions : Table AcademicSession Id AcademicSession.id := .empty
  dues : Table Due Id Due.id := .empty
  studentProfiles : Table StudentProfile Id StudentProfile.id := .empty
  memberships : List Membership := []
  organizations : List Organization := []
  users : List Id := []
  admins : List Admin := []

/-- The tables that are written and never read back by the modelled code. -/
inductive AuditTable where
  | activityLog | ledgerEntry | withdrawalWebhook | notification
  deriving DecidableEq, Repr

/-- `withdrawal.update`: fields left out are not written. -/
structure WithdrawalPatch where
  status : Option WithdrawalStatus := none
  fee : Option Int := none
  processedAt : Option Nat := none
  /-- The entry whose id is written, as the client knows it. -/
  journalEntry : Option JournalEntry := none
  providerPayoutId : Option PayoutId := none
  metadata : Option WithdrawalMetadata := none
  deriving DecidableEq

def WithdrawalPatch.apply (p : WithdrawalPatch) (w : Withdrawal) : Withdrawal :=
  { w with
    status := p.status.getD w.status
    fee := p.fee.getD w.fee
    processedAt := p.processedAt.or w.processedAt
    journalEntryId := (p.journalEntry.map JournalEntry.id).or w.journalEntryId
    providerPayoutId := p.providerPayoutId.or w.providerPayoutId
    metadata := p.metadata.getD w.metadata }

/-- `pendingPayment.update` -/
structure PendingPaymentPatch where
  status : PendingPaymentStatus
  metadata : Option PendingPaymentMetadata := none
  deriving DecidableEq

def PendingPaymentPatch.apply (p : PendingPaymentPatch) (r : PendingPayment) : PendingPayment :=
  { r with status := p.status, metadata := p.metadata.getD r.metadata }

inductive Stmt where
  | createWallet (id : Id) (userId organizationId : Option Id) (isPlatformWallet : Bool)
  /-- `wallet.update` of the link, which an account's identifier already tells. -/
  | linkWallet (id : Id)
  | markPlatformWallet (id : Id)
  | updateWallet (id : Id) (balance heldBalance : Change)
  /-- `SELECT … FOR UPDATE` that returned these figures. -/
  | lockWallet (id : Id) (balance heldBalance : Int)
  | createWalletHold (hold : WalletHold)
  /-- `walletHold.updateMany` of the ACTIVE holds whose reason contains a text. -/
  | releaseWalletHolds (walletId : Id) (reason : List Char)
  | createLedgerAccount (id : AccountId)
  | updateLedgerAccount (id : AccountId) (balance : Change)
  | createJournalEntry (entry : JournalEntry)
  | createJournalLine (entryId : Id) (line : JournalLine)
  | updateJournalEntry (id : Id) (status : JournalEntryStatus)
  /-- `journalLine.updateMany` of all lines of an entry. -/
  | updateJournalLines (entryId : Id) (amount : Int)
  | createTransaction (transaction : Transaction)
  | updateTransaction (id journalEntryId : Id)
  | createPayment (payment : Payment)
  | updatePayment (id journalEntryId : Id)
  | createReceipt (receipt : Receipt)
  | createPendingPayment (pendingPayment : PendingPayment)
  | updatePendingPayment (seen : PendingPayment) (patch : PendingPaymentPatch)
  /-- `pendingPayment.update` of the checkout that was created for the row `seen`. -/
  | attachCheckout (seen : PendingPayment) (checkoutId : String) (metadata : PendingPaymentMetadata)
  /-- `pendingPayment.updateMany` of the PENDING rows created before `cutoff`. -/
  | expirePendingPayments (cutoff : Nat)
  | createWithdrawal (withdrawal : Withdrawal)
  | updateWithdrawal (seen : Withdrawal) (patch : WithdrawalPatch)
  | createDueAssignment (assignment : DueAssignment)
  | payDueAssignment (id : Id)
  | createDuePayment (duePayment : DuePayment)
  | createSavingsTransaction (deposit : SavingsTransaction)
  | updateSavingsGoal (id : Id) (currentAmount : Int)
  | updateBankAccount (id : Id) (payoutDestinationId : String)
  | createRecord (table : AuditTable)
  deriving DecidableEq

/-- The integer columns whose history the claims are about. A missing row reads 0. -/
inductive Col where
  | balance (walletId : Id)
  | heldBalance (walletId : Id)
  | ledger (id : AccountId)
  deriving DecidableEq

/-- Rows and unique-index keys that statements lock. -/
inductive Row where
  | wallet (id : Id)
  | ledgerAccount (id : AccountId)
  | journalEntry (id : Id)
  | journalReference (reference : String)
  | transactionReference (reference : String)
  | paymentReference (reference : String)
  | receipt (paymentId : Id)
  | pendingPayment (id : Id)
  | withdrawal (id : Id)
  | dueAssignment (id : Id)
  | duePayment (assignmentId : Id)
  | savingsGoal (id : Id)
  deriving DecidableEq

def Wallet.markPlatform (w : Wallet) : Wallet := { w with isPlatformWallet := true }

namespace WalletHold

/-- The hold is ACTIVE, on the wallet, and its reason contains the text. -/
def Matches (walletId : Id) (reason : List Char) (h : WalletHold) : Prop :=
  h.walletId = walletId ∧ reason <:+: h.reason ∧ h.status = .active

instance (walletId : Id) (reason : List Char) (h : WalletHold) :
    Decidable (h.Matches walletId reason) :=
  inferInstanceAs (Decidable (_ ∧ _))

def release (h : WalletHold) : WalletHold := { h with status := .released }

end WalletHold

namespace PendingPayment

/-- The cleanup job closes the payment. -/
def Expires (cutoff : Nat) (p : PendingPayment) : Prop := p.status = .pending ∧ p.createdAt < cutoff

instance (cutoff : Nat) (p : PendingPayment) : Decidable (p.Expires cutoff) :=
  inferInstanceAs (Decidable (_ ∧ _))

/-- The cleanup job replaces the metadata. -/
def expire (p : PendingPayment) : PendingPayment := { p with status := .expired, metadata := {} }

/-- The row gets its checkout and the figures the checkout was created with. -/
def attach (checkoutId : String) (metadata : PendingPaymentMetadata) (p : PendingPayment) :
    PendingPayment :=
  { p with bachsCheckoutId := some checkoutId, metadata }

end PendingPayment

namespace Stmt

/-- The state after a statement. -/
def apply : Stmt → Db → Db
  | createWallet id userId organizationId isPlatformWallet, d =>
    { d with wallets := d.wallets.insert { id, userId, organizationId, isPlatformWallet } }
  | linkWallet _, d => d
  | markPlatformWallet id, d =>
    { d with wallets := d.wallets.modify id Wallet.markPlatform fun _ => rfl }
  | updateWallet id balance heldBalance, d =>
    { d with
      wallets := d.wallets.modify id (fun w =>
        { w with balance := balance.apply w.balance, heldBalance := heldBalance.apply w.heldBalance })
        fun _ => rfl }
  | lockWallet _ _ _, d => d
  | createWalletHold hold, d => { d with walletHolds := d.walletHolds.insert hold }
  | releaseWalletHolds walletId reason, d =>
    { d with
      walletHolds := d.walletHolds.mapRows
        (fun h => if h.Matches walletId reason then h.release else h)
        fun h => by split <;> rfl }
  | createLedgerAccount id, d => { d with ledgerAccounts := d.ledgerAccounts.insert { id } }
  | updateLedgerAccount id balance, d =>
    { d with
      ledgerAccounts := d.ledgerAccounts.modify id
        (fun a => { a with balance := balance.apply a.balance }) fun _ => rfl }
  | createJournalEntry entry, d => { d with journalEntries := d.journalEntries.insert entry }
  | createJournalLine entryId line, d =>
    { d with
      journalEntries := d.journalEntries.modify entryId
        (fun e => { e with lines := e.lines ++ [line] }) fun _ => rfl }
  | updateJournalEntry id status, d =>
    { d with
      journalEntries := d.journalEntries.modify id (fun e => { e with status })
        fun _ => rfl }
  | updateJournalLines entryId amount, d =>
    { d with
      journalEntries := d.journalEntries.modify entryId
        (fun e => { e with lines := e.lines.map fun l => { l with amount } }) fun _ => rfl }
  | createTransaction t, d => { d with transactions := d.transactions.insert t }
  | updateTransaction id journalEntryId, d =>
    { d with
      transactions := d.transactions.modify id
        (fun t => { t with journalEntryId := some journalEntryId }) fun _ => rfl }
  | createPayment p, d => { d with payments := d.payments.insert p }
  | updatePayment id journalEntryId, d =>
    { d with
      payments := d.payments.modify id
        (fun p => { p with journalEntryId := some journalEntryId }) fun _ => rfl }
  | createReceipt r, d => { d with receipts := d.receipts.insert r }
  | createPendingPayment p, d => { d with pendingPayments := d.pendingPayments.insert p }
  | updatePendingPayment seen patch, d =>
    { d with pendingPayments := d.pendingPayments.modify seen.id patch.apply fun _ => rfl }
  | attachCheckout seen checkoutId metadata, d =>
    { d with
      pendingPayments := d.pendingPayments.modify seen.id (PendingPayment.attach checkoutId metadata)
        fun _ => rfl }
  | expirePendingPayments cutoff, d =>
    { d with
      pendingPayments := d.pendingPayments.mapRows
        (fun p => if p.Expires cutoff then p.expire else p) fun p => by split <;> rfl }
  | createWithdrawal w, d => { d with withdrawals := d.withdrawals.insert w }
  | updateWithdrawal seen patch, d =>
    { d with withdrawals := d.withdrawals.modify seen.id patch.apply fun _ => rfl }
  | createDueAssignment a, d => { d with dueAssignments := d.dueAssignments.insert a }
  | payDueAssignment id, d =>
    { d with
      dueAssignments := d.dueAssignments.modify id (fun a => { a with isPaid := true })
        fun _ => rfl }
  | createDuePayment p, d => { d with duePayments := d.duePayments.insert p }
  | createSavingsTransaction t, d => { d with savingsTransactions := d.savingsTransactions.insert t }
  | updateSavingsGoal id currentAmount, d =>
    { d with
      savingsGoals := d.savingsGoals.modify id (fun g => { g with currentAmount })
        fun _ => rfl }
  | updateBankAccount id payoutDestinationId, d =>
    { d with
      bankAccounts := d.bankAccounts.modify id
        (fun b => { b with payoutDestinationId := some payoutDestinationId }) fun _ => rfl }
  | createRecord _, d => d

/-- Refuse with `uniqueConstraint target` when a row other than the written one has the key. -/
def unique (taken : Bool) (target : String) : Option Failure :=
  if taken then some (.uniqueConstraint target) else none

/-- Prisma refuses to update a missing row. -/
def existing {α : Type} (row : Option α) : Option Failure :=
  if row.isNone then some .recordNotFound else none

def foreignKey (present : Bool) : Option Failure :=
  if present then none else some .foreignKeyConstraint

/-- A nullable unique column: null never collides. -/
def collides {α κ : Type} [DecidableEq κ] (rows : List α) (column : α → Option κ) (k : Option κ) : Bool :=
  k.isSome && rows.any fun r => column r = k

/-- The row that was read: the fields that are never written are as they were. -/
def sameRow {α : Type} (Same : α → α → Prop) [∀ a b, Decidable (Same a b)] (row : Option α)
    (seen : α) : Option Failure :=
  if row.any fun r => Same r seen then none else some .recordNotFound

/-- The constraint a statement violates. -/
def check : Stmt → Db → Option Failure
  | createWallet id userId organizationId _, d =>
    (unique (d.wallets.find id).isSome "id").or
      ((unique (collides d.wallets.rows Wallet.userId userId) "userId").or
        (unique (collides d.wallets.rows Wallet.organizationId organizationId) "organizationId"))
  | linkWallet id, d => existing (d.wallets.find id)
  | markPlatformWallet id, d => existing (d.wallets.find id)
  | updateWallet id _ _, d => existing (d.wallets.find id)
  | lockWallet id balance heldBalance, d =>
    if (d.wallets.find id).any fun w => w.balance = balance ∧ w.heldBalance = heldBalance then none
    else some .recordNotFound
  | createWalletHold hold, d => unique (d.walletHolds.find hold.id).isSome "id"
  | releaseWalletHolds _ _, _ => none
  | createLedgerAccount id, d => unique (d.ledgerAccounts.find id).isSome "code"
  | updateLedgerAccount id _, d => existing (d.ledgerAccounts.find id)
  | createJournalEntry e, d =>
    (unique (d.journalEntries.find e.id).isSome "id").or
      ((unique (d.journalEntries.rows.any fun r => r.reference = e.reference) "reference").or
        ((unique (collides d.journalEntries.rows JournalEntry.transactionId e.transactionId)
            "transactionId").or
          ((unique (collides d.journalEntries.rows JournalEntry.paymentId e.paymentId)
              "paymentId").or
            (unique (collides d.journalEntries.rows JournalEntry.withdrawalId e.withdrawalId)
              "withdrawalId"))))
  | createJournalLine entryId line, d =>
    (existing (d.journalEntries.find entryId)).or
      (existing (d.ledgerAccounts.find line.ledgerAccountId))
  | updateJournalEntry id _, d => existing (d.journalEntries.find id)
  | updateJournalLines _ _, _ => none
  | createTransaction t, d =>
    (unique (d.transactions.find t.id).isSome "id").or
      (unique (d.transactions.rows.any fun r => r.reference = t.reference) "reference")
  | updateTransaction id _, d => existing (d.transactions.find id)
  | createPayment p, d =>
    (unique (d.payments.find p.id).isSome "id").or
      ((unique (d.payments.rows.any fun r => r.reference = p.reference) "reference").or
        (unique (collides d.payments.rows Payment.bachsChargeId p.bachsChargeId) "bachsChargeId"))
  | updatePayment id _, d => existing (d.payments.find id)
  | createReceipt r, d =>
    (unique (d.receipts.find r.id).isSome "id").or
      ((unique (d.receipts.rows.any fun s => s.paymentId = r.paymentId) "paymentId").or
        ((unique (d.receipts.rows.any fun s => s.receiptNumber = r.receiptNumber)
            "receiptNumber").or
          (unique (d.receipts.rows.any fun s => s.reference = r.reference) "reference")))
  | createPendingPayment p, d =>
    (unique (d.pendingPayments.find p.id).isSome "id").or
      ((unique (d.pendingPayments.rows.any fun r => r.reference = p.reference) "reference").or
        (unique (collides d.pendingPayments.rows PendingPayment.bachsCheckoutId p.bachsCheckoutId)
          "bachsCheckoutId"))
  | updatePendingPayment seen _, d =>
    sameRow PendingPayment.Same (d.pendingPayments.find seen.id) seen
  | attachCheckout seen checkoutId _, d =>
    (sameRow PendingPayment.Same (d.pendingPayments.find seen.id) seen).or
      (unique (collides (d.pendingPayments.rows.filter fun r => r.id ≠ seen.id)
        PendingPayment.bachsCheckoutId (some checkoutId)) "bachsCheckoutId")
  | expirePendingPayments _, _ => none
  | createWithdrawal w, d =>
    (unique (d.withdrawals.find w.id).isSome "id").or
      (unique (d.withdrawals.rows.any fun r => r.reference = w.reference) "reference")
  | updateWithdrawal seen patch, d =>
    (sameRow Withdrawal.Same (d.withdrawals.find seen.id) seen).or
      ((unique (collides (d.withdrawals.rows.filter fun r => r.id ≠ seen.id)
          Withdrawal.providerPayoutId patch.providerPayoutId) "providerPayoutId").or
        (foreignKey (patch.journalEntry.all fun e => (d.journalEntries.find e.id).isSome)))
  | createDueAssignment a, d =>
    (unique (d.dueAssignments.find a.id).isSome "id").or
      (unique (d.dueAssignments.rows.any fun r => r.dueId = a.dueId ∧ r.studentId = a.studentId)
        "dueId_studentId")
  | payDueAssignment id, d => existing (d.dueAssignments.find id)
  | createDuePayment p, d =>
    (unique (d.duePayments.find p.id).isSome "id").or
      ((unique (d.duePayments.rows.any fun r => r.assignmentId = p.assignmentId)
          "assignmentId").or
        (unique (d.duePayments.rows.any fun r => r.paymentId = p.paymentId) "paymentId"))
  | createSavingsTransaction t, d =>
    (unique (d.savingsTransactions.find t.id).isSome "id").or
      (foreignKey (d.savingsGoals.find t.goalId).isSome)
  | updateSavingsGoal id _, d => existing (d.savingsGoals.find id)
  | updateBankAccount id _, d => existing (d.bankAccounts.find id)
  | createRecord _, _ => none

/-- The locks a statement takes. -/
def locks : Stmt → List Row
  | linkWallet id | markPlatformWallet id | updateWallet id _ _ | lockWallet id _ _ => [.wallet id]
  | createLedgerAccount id | updateLedgerAccount id _ => [.ledgerAccount id]
  | createJournalEntry e => [.journalReference e.reference]
  | updateJournalEntry id _ => [.journalEntry id]
  | createTransaction t => [.transactionReference t.reference]
  | createPayment p => [.paymentReference p.reference]
  | createReceipt r => [.receipt r.paymentId]
  | updatePendingPayment seen _ | attachCheckout seen _ _ => [.pendingPayment seen.id]
  | updateWithdrawal seen _ => [.withdrawal seen.id]
  | payDueAssignment id => [.dueAssignment id]
  | createDuePayment p => [.duePayment p.assignmentId]
  | updateSavingsGoal id _ => [.savingsGoal id]
  | _ => []

/-- What a statement does to a column. -/
def change : Stmt → Col → Change
  | updateWallet id balance _, .balance j => if j = id then balance else .keep
  | updateWallet id _ heldBalance, .heldBalance j => if j = id then heldBalance else .keep
  | updateLedgerAccount id balance, .ledger j => if j = id then balance else .keep
  | _, _ => .keep

/-- The columns a statement may change. -/
def cols : Stmt → List Col
  | updateWallet id _ _ => [.balance id, .heldBalance id]
  | updateLedgerAccount id _ => [.ledger id]
  | _ => []

theorem change_of_not_mem {s : Stmt} {c : Col} (h : c ∉ s.cols) : s.change c = .keep := by
  cases s with
  | updateWallet id balance heldBalance => cases c <;> simp_all [cols, change]
  | updateLedgerAccount id balance => cases c <;> simp_all [cols, change]
  | _ => rfl

end Stmt

/-- The value of a column. -/
def Db.value (d : Db) : Col → Int
  | .balance w => ((d.wallets.find w).map Wallet.balance).getD 0
  | .heldBalance w => ((d.wallets.find w).map Wallet.heldBalance).getD 0
  | .ledger a => ((d.ledgerAccounts.find a).map LedgerAccount.balance).getD 0

namespace Stmt

theorem existing_eq_none {α : Type} {row : Option α} :
    existing row = none ↔ ∃ r, row = some r := by
  cases row <;> simp [existing]

theorem sameRow_eq_none {α : Type} {Same : α → α → Prop} [∀ a b, Decidable (Same a b)]
    {row : Option α} {seen : α} :
    sameRow Same row seen = none ↔ ∃ r, row = some r ∧ Same r seen := by
  cases row <;> simp [sameRow]

theorem unique_eq_none {taken : Bool} {target : String} :
    unique taken target = none ↔ taken = false := by
  cases taken <;> simp [unique]

/-- A change of the wallets that leaves figures alone. -/
private theorem value_modify_wallets {d : Db} {id : Id} {f : Wallet → Wallet}
    {hf : ∀ w, (f w).id = w.id} (hb : ∀ w, (f w).balance = w.balance)
    (hh : ∀ w, (f w).heldBalance = w.heldBalance) (c : Col) :
    ({ d with wallets := d.wallets.modify id f hf } : Db).value c = d.value c := by
  cases c <;> simp only [Db.value, Table.find_modify] <;> split <;>
    simp [Function.comp_def, hb, hh]

/-- Each statement moves the columns as `change` says. -/
theorem value_apply {s : Stmt} {d : Db} (c : Col) (ok : s.check d = none) :
    (s.apply d).value c = (s.change c).apply (d.value c) := by
  cases s with
  | createWallet id userId organizationId isPlatformWallet =>
    simp only [check, Option.or_eq_none_iff, unique_eq_none] at ok
    have free : d.wallets.find id = none := by simpa using ok.1
    have insert := Table.find_insert
      (r := ({ id, userId, organizationId, isPlatformWallet } : Wallet)) free
    cases c with
    | ledger a => rfl
    | _ j =>
      simp only [apply, change, Db.value, Change.apply_keep, insert]
      by_cases h : id = j
      · subst h; simp [free]
      · simp [h]
  | markPlatformWallet id =>
    exact (value_modify_wallets (f := Wallet.markPlatform) (fun _ => rfl) (fun _ => rfl) c).trans
      (by cases c <;> rfl)
  | updateWallet id balance heldBalance =>
    obtain ⟨w, hw⟩ := existing_eq_none.1 ok
    cases c with
    | ledger a => rfl
    | _ j =>
      simp only [apply, change, Db.value, Table.find_modify]
      by_cases h : j = id
      · subst h; simp [hw]
      · simp [h]
  | createLedgerAccount id =>
    have free : d.ledgerAccounts.find id = none := by simpa [check, unique_eq_none] using ok
    cases c with
    | ledger j =>
      simp only [apply, change, Db.value, Change.apply_keep,
        Table.find_insert (r := ({ id } : LedgerAccount)) free]
      by_cases h : id = j
      · subst h; simp [free]
      · simp [h]
    | _ j => rfl
  | updateLedgerAccount id balance =>
    obtain ⟨a, ha⟩ := existing_eq_none.1 ok
    cases c with
    | ledger j =>
      simp only [apply, change, Db.value, Table.find_modify]
      by_cases h : j = id
      · subst h; simp [ha]
      · simp [h]
    | _ j => rfl
  | _ => cases c <;> rfl

end Stmt

instance : Database Db Stmt Row Col Failure where
  apply := Stmt.apply
  check := Stmt.check
  rows := Stmt.locks
  value := Db.value
  change := Stmt.change
  cols := Stmt.cols
  change_of_not_mem := Stmt.change_of_not_mem
  value_apply := Stmt.value_apply

end Heightt
