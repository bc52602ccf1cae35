import Heightt.Finance.Wallet
import Mathlib.Tactic.Linarith

/-!
# LedgerService

Charges, journal entries, their reversal, and the reconciliation report. A
journal entry is posted line by line: each line is inserted and its account is
set to the balance just read plus or minus the amount. Callers that already own
a transaction pass its client; without one the entry is posted in a transaction
of its own.
-/

namespace Heightt.LedgerService

open ReadCommitted Prog WalletService

/-- `fees.withdrawal`; zero means that the limit or the flat fee is not set. -/
structure WithdrawalFeeConfig where
  percentage : ℚ
  minFee : Int := 0
  maxFee : Int := 0
  flatFee : Int := 0
  nonneg : 0 ≤ percentage ∧ 0 ≤ minFee ∧ 0 ≤ maxFee ∧ 0 ≤ flatFee := by decide

/-- The fee settings. `fees.withdrawal` is absent from the shipped configuration. -/
structure FeeConfig where
  vatRate : ℚ := 15 / 2 / 100
  platformFeeAmount : Int := 10000
  paymentGatewayPercentage : ℚ := 3 / 2 / 100
  withdrawal : Option WithdrawalFeeConfig := none
  nonneg : 0 ≤ vatRate ∧ 0 ≤ platformFeeAmount ∧ 0 ≤ paymentGatewayPercentage := by decide

/-- The fee on a user withdrawal, on top of the amount. -/
def calculateWithdrawalCharges (config : FeeConfig) (amount : Int) : Charges :=
  match config.withdrawal with
  | none => { fee := 0 }
  | some c =>
    let fee := BachsClient.round (amount * (c.percentage / 100))
    let fee := if c.minFee ≠ 0 ∧ fee < c.minFee then c.minFee else fee
    let fee := if c.maxFee ≠ 0 ∧ c.maxFee < fee then c.maxFee else fee
    { fee := fee + c.flatFee }

theorem round_nonneg {x : ℚ} (h : 0 ≤ x) : 0 ≤ BachsClient.round x :=
  Int.floor_nonneg.2 (by linarith)

/-- A withdrawal is never charged a negative fee. -/
theorem calculateWithdrawalCharges_fee_nonneg (config : FeeConfig) {amount : Int}
    (h : 0 ≤ amount) : 0 ≤ (calculateWithdrawalCharges config amount).fee := by
  obtain ⟨_, _, _, withdrawal, _⟩ := config
  cases withdrawal with
  | none => exact le_rfl
  | some c =>
    obtain ⟨hp, hmin, hmax, hflat⟩ := c.nonneg
    have share : 0 ≤ BachsClient.round (amount * (c.percentage / 100)) := by
      refine round_nonneg (mul_nonneg ?_ (div_nonneg hp (by norm_num)))
      exact_mod_cast h
    simp only [calculateWithdrawalCharges]
    split_ifs <;> omega

structure PaymentCharges where
  platformFee : Int
  gatewayFee : Int
  vat : Int
  totalCharges : Int
  totalAmount : Int
  netToOrganization : Int
  deriving DecidableEq

def calculatePaymentCharges (config : FeeConfig) (amount : Int) : PaymentCharges :=
  let platformFee := config.platformFeeAmount
  let gatewayFee := BachsClient.round (amount * config.paymentGatewayPercentage)
  let vat := BachsClient.round (platformFee * config.vatRate)
  let totalCharges := platformFee + gatewayFee + vat
  { platformFee, gatewayFee, vat, totalCharges, totalAmount := amount + totalCharges,
    netToOrganization := amount }

/-- A system account is looked up by its code and created on first use. -/
def getOrCreateSystemAccount (a : SystemAccount) : Action AccountId := do
  let account ← outside fun d => d.ledgerAccounts.find (.system a)
  match account with
  | some account => pure account.id
  | none =>
    statement (.createLedgerAccount (.system a))
    pure (.system a)

def getOrCreatePlatformFeeAccount : Action AccountId := getOrCreateSystemAccount .platformFee

def getOrCreateBankClearingAccount : Action AccountId := getOrCreateSystemAccount .bankClearing

def getOrCreateVatPayableAccount : Action AccountId := getOrCreateSystemAccount .vatPayable

def getOrCreateBachsFeeAccount : Action AccountId := getOrCreateSystemAccount .bachsFee

def getOrCreateBachsSettlementAccount : Action AccountId := getOrCreateSystemAccount .bachsSettlement

/-! ## Journal entries -/

/-- The identifiers a new journal entry gets. -/
structure NewEntry where
  id : Id
  reference : String
  deriving DecidableEq

structure JournalData where
  lines : List JournalLine
  description : String
  transactionId : Option Id := none
  paymentId : Option Id := none
  withdrawalId : Option Id := none
  deriving DecidableEq

/-- What a line adds to its account. -/
def balanceChange (l : JournalLine) : Int :=
  match l.type with
  | .debit => l.amount
  | .credit => -l.amount

def totalDebits (lines : List JournalLine) : Int :=
  (lines.map fun l => if l.type = .debit then l.amount else 0).sum

def totalCredits (lines : List JournalLine) : Int :=
  (lines.map fun l => if l.type = .debit then 0 else l.amount).sum

/-- The row `createJournalEntry` inserts before the lines. -/
def JournalData.entry (data : JournalData) (new : NewEntry) : JournalEntry where
  id := new.id
  reference := new.reference
  description := data.description
  transactionId := data.transactionId
  paymentId := data.paymentId
  withdrawalId := data.withdrawalId

/-- The entry with its lines, as the caller of `createJournalEntry` knows it. -/
def JournalData.posted (data : JournalData) (new : NewEntry) : JournalEntry :=
  { data.entry new with lines := data.lines }

/-- Insert one line and update its account. -/
def postLine (entryId : Id) (line : JournalLine) : Action Unit := do
  let account ← query fun d => d.ledgerAccounts.find line.ledgerAccountId
  let account ← orThrow account (.notFound "Ledger account not found")
  exec (.createJournalLine entryId line)
  exec (.updateLedgerAccount line.ledgerAccountId (.set account.balance (balanceChange line)))

/-- The statements of `createJournalEntry`, in the transaction it is given. -/
def createWithClient (data : JournalData) (new : NewEntry) : Action JournalEntry := do
  exec (.createJournalEntry (data.entry new))
  forEach data.lines (postLine new.id)
  pure (data.posted new)

/-- `transactionClient` tells whether the caller passes its transaction. -/
def createJournalEntry (data : JournalData) (new : NewEntry) (transactionClient : Bool) :
    Action JournalEntry := do
  ensure (totalDebits data.lines = totalCredits data.lines) (.badRequest
    s!"Journal entry must be balanced. Debits: {totalDebits data.lines}, Credits: {totalCredits data.lines}")
  if transactionClient then createWithClient data new else transaction (createWithClient data new)

/-- The mirror image of a line. -/
def reversal (reference : String) (l : JournalLine) : JournalLine where
  ledgerAccountId := l.ledgerAccountId
  type := match l.type with
    | .debit => .credit
    | .credit => .debit
  amount := l.amount
  description := "Reversal of " ++ reference ++ ": " ++ l.description

def reversalData (originalEntry : JournalEntry) (reason : String) : JournalData where
  lines := originalEntry.lines.map (reversal originalEntry.reference)
  description := "Reversal of " ++ originalEntry.reference ++ ": " ++ reason

def reverseJournalEntry (id : Id) (reason : String) (new : NewEntry) : Action Unit := do
  let originalEntry ← outside fun d => d.journalEntries.find id
  let originalEntry ← orThrow originalEntry (.notFound "Journal entry not found")
  ensure (originalEntry.status ≠ .reversed) (.badRequest "Journal entry is already reversed")
  let _ ← createJournalEntry (reversalData originalEntry reason) new false
  statement (.updateJournalEntry id .reversed)

/-- The description of the entry that allocates Heightt's share of a withdrawal fee. -/
def platformFeeDescription (withdrawalId : Id) : String :=
  "Platform fee for withdrawal #" ++ String.ofList withdrawalId.chars

/-- `findUnique` of a system account by its code, and `update` of its balance if it is there. -/
def addToSystemAccount (a : SystemAccount) (δ : Int) : Action Unit := do
  let account ← query fun d => d.ledgerAccounts.find (.system a)
  whenSome account fun account => exec (.updateLedgerAccount account.id (.add δ))

/-- Release Heightt's share of an organisation withdrawal fee, if it was allocated. -/
def reverseOrganizationWithdrawalPlatformFee (withdrawal : Withdrawal) : Action Unit := do
  let platformFee := withdrawal.metadata.charges.platformFee.getD 0
  when (withdrawal.metadata.platformFeeAllocatedAt.isSome ∧ 0 < platformFee) do
    let found ← query fun d => d.journalEntries.findFirst fun e =>
      e.description = platformFeeDescription withdrawal.id ∧ e.status = .posted
    let allocationEntry := withdrawal.metadata.platformFeeJournalEntryId.or
      (found.map JournalEntry.id)
    whenSome allocationEntry fun id => exec (.updateJournalEntry id .reversed)
    let platformWallet ← query fun d => d.wallets.findFirst Wallet.isPlatformWallet
    whenSome platformWallet fun w => do
      exec (.updateWallet w.id (.add (-platformFee)) .keep)
      exec (.updateLedgerAccount w.ledgerAccountId (.add (-platformFee)))
    addToSystemAccount .bankClearing platformFee

/-! ## Reconciliation -/

/-- What the lines of an entry add to an account. -/
def lineTotal (lines : List JournalLine) (a : AccountId) : Int :=
  (lines.map fun l => if l.ledgerAccountId = a then balanceChange l else 0).sum

/-- What a POSTED entry adds to an account; other entries are left out. -/
def postedTotal (e : JournalEntry) (a : AccountId) : Int :=
  if e.status = .posted then lineTotal e.lines a else 0

/-- The balance computed from the lines of all POSTED entries. -/
def calculatedBalance (d : Db) (a : AccountId) : Int := d.journalEntries.sum (postedTotal · a)

structure Reconciliation where
  accountId : AccountId
  currentBalance : Int
  calculatedBalance : Int
  difference : Int
  isReconciled : Bool
  deriving DecidableEq

/-- The accounts with a line in a POSTED entry. -/
def reconciledAccounts (d : Db) : List LedgerAccount :=
  d.ledgerAccounts.rows.filter fun a => d.journalEntries.rows.any fun e =>
    e.status = .posted ∧ e.lines.any fun l => l.ledgerAccountId = a.id

/-- The report over the full date range. -/
def reconcileAccounts (d : Db) : List Reconciliation :=
  (reconciledAccounts d).map fun a =>
    { accountId := a.id
      currentBalance := a.balance
      calculatedBalance := calculatedBalance d a.id
      difference := a.balance - calculatedBalance d a.id
      isReconciled := a.balance = calculatedBalance d a.id }

/-! ## What these functions write -/

/-- The statements that post lines to an entry: each account is set from a balance `base`. -/
inductive Postings (entryId : Id) : List JournalLine → List Stmt → Prop where
  | nil : Postings entryId [] []
  | cons {lines : List JournalLine} {F : List Stmt} (l : JournalLine) (base : Int)
      (rest : Postings entryId lines F) :
    Postings entryId (l :: lines) (.createJournalLine entryId l ::
      .updateLedgerAccount l.ledgerAccountId (.set base (balanceChange l)) :: F)

/-- The statements of a journal entry. -/
def Journal (data : JournalData) (new : NewEntry) (F : List Stmt) : Prop :=
  ∃ G, Postings new.id data.lines G ∧ F = .createJournalEntry (data.entry new) :: G

section

variable {P : FinanceEvent → Prop}

theorem adds_postLine (entryId : Id) (l : JournalLine) :
    Adds P (postLine entryId l) fun _ F => ∃ base, F = [.createJournalLine entryId l,
      .updateLedgerAccount l.ledgerAccountId (.set base (balanceChange l))] :=
  .query_bind fun _ => .orThrow_bind fun account _ => .exec_bind (.exec ⟨account.balance, rfl⟩)

theorem adds_postLines (entryId : Id) (lines : List JournalLine) :
    Adds P (forEach lines (postLine entryId)) fun _ F => Postings entryId lines F := by
  induction lines with
  | nil => exact .ret .nil
  | cons l lines ih =>
    refine (adds_postLine entryId l).bind fun _ F hF => ih.mono fun _ G hG => ?_
    obtain ⟨base, rfl⟩ := hF
    exact .cons l base hG

theorem adds_createWithClient (data : JournalData) (new : NewEntry) :
    Adds P (createWithClient data new) fun e F => e = data.posted new ∧ Journal data new F :=
  .exec_bind ((adds_postLines _ _).bind fun _ G hG => .ret
    ⟨rfl, G, hG, by rw [List.append_nil]⟩)

/-- With the caller's transaction, the entry becomes a part of it. -/
theorem adds_createJournalEntry (data : JournalData) (new : NewEntry) :
    Adds P (createJournalEntry data new true) fun e F => e = data.posted new ∧
      totalDebits data.lines = totalCredits data.lines ∧ Journal data new F :=
  .ensure_bind fun balanced => (adds_createWithClient data new).mono fun _ _ ⟨he, hF⟩ =>
    ⟨he, balanced, hF⟩

/-- Without it, the entry is committed by itself. -/
theorem makes_createJournalEntry {data : JournalData} {new : NewEntry}
    (hP : ∀ nested F, totalDebits data.lines = totalCredits data.lines → Journal data new F →
      P (.committed nested F)) :
    Makes P (createJournalEntry data new false) fun e => e = data.posted new :=
  (Makes.ensure _).bind fun _ balanced => .transaction (adds_createWithClient data new)
    fun nested _ F ⟨he, hF⟩ => ⟨hP nested F balanced hF, he⟩

end

theorem makes_getOrCreateSystemAccount {P : FinanceEvent → Prop} [Includes Setup P]
    (a : SystemAccount) : Makes P (getOrCreateSystemAccount a) fun id => id = .system a := by
  refine (Makes.outside (S := fun o : Option LedgerAccount => ∀ account, o = some account →
    account.id = .system a) (fun d account h => ?_) 
    fun nested => quiet (.read nested)).bind fun o ho => ?_
  · exact Store.Table.find_key (t := d.ledgerAccounts) h
  cases o with
  | some account => exact .ret (ho account rfl)
  | none =>
    exact (Makes.statement fun _ => setup (.createLedgerAccount a)).bind fun _ _ => .ret rfl

/-- The transactions of a reversal: the mirror entry, then the mark on the entry. -/
inductive ReversalTx (id : Id) (reason : String) (new : NewEntry) : List Stmt → Prop where
  | mirror (e : JournalEntry) (J : List Stmt) (he : e.id = id) (open_ : e.status ≠ .reversed)
      (journal : Journal (reversalData e reason) new J) : ReversalTx id reason new J
  | mark : ReversalTx id reason new [.updateJournalEntry id .reversed]

theorem makes_reverseJournalEntry (id : Id) (reason : String) (new : NewEntry) :
    Makes (Emits Quiet (ReversalTx id reason new)) (reverseJournalEntry id reason new)
      fun _ => True := by
  refine (Makes.outside (S := fun o : Option JournalEntry => ∀ e, o = some e → e.id = id)
    (fun _ _ h => Store.Table.find_key h) fun nested => quiet (.read nested)).bind fun o ho => ?_
  refine (Makes.orThrow ho).bind fun e he => (Makes.ensure _).bind fun reversible _ => ?_
  exact (makes_createJournalEntry fun nested J _ hJ => .tx nested (.mirror e J he ‹_› hJ)).bind
    fun _ _ => Makes.statement fun nested => .tx nested .mark

/-- The statements that add to a system account, if it is found. -/
def systemAccountWrites (found : Bool) (a : SystemAccount) (δ : Int) : List Stmt :=
  if found then [.updateLedgerAccount (.system a) (.add δ)] else []

/-- The statements that take a fee back from the platform wallet and its account. -/
def takeBack (fee : Int) (w : Wallet) : List Stmt :=
  [.updateWallet w.id (.add (-fee)) .keep, .updateLedgerAccount w.ledgerAccountId (.add (-fee))]

/-- The statements that reverse an allocation: mark its entry, then take the fee
back from the platform wallet and put it into the clearing account. -/
def reverseAllocation (fee : Int) (entry : Option Id) (wallet : Option Wallet) (clearing : Bool) :
    List Stmt :=
  (entry.toList.map fun id => .updateJournalEntry id .reversed) ++
    (wallet.toList.flatMap (takeBack fee) ++ systemAccountWrites clearing .bankClearing fee)

/-- Whether a withdrawal has a platform fee to release. -/
def FeeAllocated (w : Withdrawal) : Prop :=
  w.metadata.platformFeeAllocatedAt.isSome ∧ 0 < w.metadata.charges.platformFee.getD 0

/-- What `reverseOrganizationWithdrawalPlatformFee` writes. -/
inductive FeeReversal (w : Withdrawal) : List Stmt → Prop where
  | none (h : ¬FeeAllocated w) : FeeReversal w []
  | reverse (h : FeeAllocated w) (entry : Option Id) (wallet : Option Wallet) (clearing : Bool)
      (hentry : ∀ id, w.metadata.platformFeeJournalEntryId = some id → entry = some id) :
    FeeReversal w (reverseAllocation (w.metadata.charges.platformFee.getD 0) entry wallet clearing)

theorem adds_addToSystemAccount {P : FinanceEvent → Prop} (a : SystemAccount) (δ : Int) :
    Adds P (addToSystemAccount a δ) fun _ F => ∃ found, F = systemAccountWrites found a δ := by
  refine .query_bind fun d => ?_
  cases h : d.ledgerAccounts.find (.system a) with
  | none => exact .ret ⟨false, rfl⟩
  | some account =>
    refine .exec ⟨true, ?_⟩
    rw [Store.Table.find_key h]
    rfl

theorem adds_reverseOrganizationWithdrawalPlatformFee {P : FinanceEvent → Prop} (w : Withdrawal) :
    Adds P (reverseOrganizationWithdrawalPlatformFee w) fun _ F => FeeReversal w F := by
  unfold reverseOrganizationWithdrawalPlatformFee when
  dsimp only
  split
  · rename_i h
    refine .query_bind fun d => ?_
    generalize hentry : w.metadata.platformFeeJournalEntryId.or _ = entry
    refine Adds.whenSome_exec.bind fun _ F hF => .query_bind fun d' => ?_
    subst hF
    generalize d'.wallets.findFirst Wallet.isPlatformWallet = wallet
    refine Adds.bind (G := fun _ F => F = wallet.toList.flatMap
      (takeBack (w.metadata.charges.platformFee.getD 0))) ?_ fun _ F hF => ?_
    · cases wallet with
      | none => exact .ret rfl
      | some v => exact .exec_bind (.exec rfl)
    subst hF
    refine (adds_addToSystemAccount _ _).mono fun _ F ⟨clearing, hF⟩ => hF ▸ ?_
    exact .reverse h entry wallet clearing fun id hid => by simp [← hentry, hid]
  · exact .ret (.none ‹_›)

end Heightt.LedgerService
