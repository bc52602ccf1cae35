import Heightt.Bachs.Webhook
import Heightt.Finance.WithdrawalWebhook
import Heightt.ReadCommitted.Invariant

/-!
# The operations and their runs

`Op` lists the requests, webhooks and jobs of the finance services. A run
interleaves any number of them, started on one database and one state of the
systems around it. `Op.Commits` says what an operation can commit, and
`Reaches.induct` derives an invariant of every run from what commits keep.
-/

namespace Heightt

open ReadCommitted WalletService LedgerService FinanceService ReceiptService BachsService
  BachsWebhookController WithdrawalWebhookService

/-- A request, webhook or job, with the identifiers and times it is given. -/
inductive Op where
  | creditWallet (dto : WalletTransferDto) (new : NewTransfer)
  | debitWallet (dto : WalletTransferDto) (new : NewTransfer)
  | depositToSavings (userId : Id) (dto : SavingsDepositDto) (new : NewTransfer)
  | executeInternalPayment (config : FeeConfig) (userId : Id) (dto : CreatePaymentDto)
      (new : NewPayment)
  | executeManualPayment (userId : Id) (dto : CreateManualPaymentDto) (new : NewPayment)
  | requestUserWithdrawal (config : FeeConfig) (userId : Id) (dto : WithdrawalRequestDto)
      (new : NewWithdrawal)
  | requestOrganizationWithdrawal (config : FeeConfig) (userId organizationId : Id)
      (dto : WithdrawalRequestDto) (new : NewWithdrawal) (settlement : NewSettlement)
  | requestPlatformWithdrawal (config : FeeConfig) (userId : Id) (dto : WithdrawalRequestDto)
      (new : NewWithdrawal) (settlement : NewSettlement)
  | settleWithdrawal (id : Id) (new : NewSettlement)
  | approveUserWithdrawal (id adminUserId : Id) (new : NewSettlement)
  | approvePlatformWithdrawal (id adminUserId : Id) (allowSelfApproval : Bool)
      (new : NewSettlement)
  | rejectUserWithdrawal (id adminUserId : Id)
  | processWebhook (isValid : Bool) (hook : PayoutWebhook)
  | deliverWebhook (n : Nat)
  | reconcileStaleProcessingWithdrawals (staleBefore : Nat)
  | completePayment (collection : Collection) (new : NewCompletion)
  | handleCheckoutCompleted (checkoutId : Option String) (metadata : CheckoutMetadata)
      (new : NewCompletion)
  | handleCollectionSucceeded (checkoutId : Option String) (chargeId : String)
      (amountInBachs : Option BachsAmount) (metadata : CheckoutMetadata) (new : NewCompletion)
  | handleCollectionFailed (checkoutId : Option String) (reason : String)
  | handleCollectionUnderpaid (checkoutId : Option String) (amountPaid amountExpected : String)
  | handleCheckoutExpired (checkoutId : Option String)
  | getPendingPaymentStatus (id userId : Id) (new : NewCompletion)
  | cancelPendingPayment (id : Id) (userId : Option Id)
  | cleanupExpiredPayments (cutoff : Nat)
  | retryFailedPayment (id : Id)
  | createJournalEntry (data : JournalData) (new : NewEntry)
  | reverseJournalEntry (id : Id) (reason : String) (new : NewEntry)

namespace Op

/-- The program of an operation. -/
def program : Op → Action Unit
  | creditWallet dto new => FinanceService.creditWallet dto new
  | debitWallet dto new => FinanceService.debitWallet dto new
  | depositToSavings userId dto new => FinanceService.depositToSavings userId dto new
  | executeInternalPayment config userId dto new =>
    FinanceService.executeInternalPayment config userId dto new
  | executeManualPayment userId dto new => FinanceService.executeManualPayment userId dto new
  | requestUserWithdrawal config userId dto new =>
    FinanceService.requestUserWithdrawal config userId dto new
  | requestOrganizationWithdrawal config userId organizationId dto new settlement =>
    FinanceService.requestOrganizationWithdrawal config userId organizationId dto new settlement
  | requestPlatformWithdrawal config userId dto new settlement =>
    FinanceService.requestPlatformWithdrawal config userId dto new settlement
  | settleWithdrawal id new => FinanceService.settleWithdrawal id new
  | approveUserWithdrawal id adminUserId new =>
    FinanceService.approveUserWithdrawal id adminUserId new
  | approvePlatformWithdrawal id adminUserId allowSelfApproval new =>
    FinanceService.approvePlatformWithdrawal id adminUserId allowSelfApproval new
  | rejectUserWithdrawal id adminUserId => FinanceService.rejectUserWithdrawal id adminUserId
  | processWebhook isValid hook => WithdrawalWebhookService.processWebhook isValid hook
  | deliverWebhook n => WithdrawalWebhookService.deliverWebhook n
  | reconcileStaleProcessingWithdrawals staleBefore =>
    WithdrawalWebhookService.reconcileStaleProcessingWithdrawals staleBefore
  | completePayment collection new => BachsService.completePayment collection new
  | handleCheckoutCompleted checkoutId metadata new =>
    BachsWebhookController.handleCheckoutCompleted checkoutId metadata new
  | handleCollectionSucceeded checkoutId chargeId amountInBachs metadata new =>
    BachsWebhookController.handleCollectionSucceeded checkoutId chargeId amountInBachs metadata new
  | handleCollectionFailed checkoutId reason =>
    BachsWebhookController.handleCollectionFailed checkoutId reason
  | handleCollectionUnderpaid checkoutId amountPaid amountExpected =>
    BachsWebhookController.handleCollectionUnderpaid checkoutId amountPaid amountExpected
  | handleCheckoutExpired checkoutId => BachsWebhookController.handleCheckoutExpired checkoutId
  | getPendingPaymentStatus id userId new => BachsService.getPendingPaymentStatus id userId new
  | cancelPendingPayment id userId => BachsService.cancelPendingPayment id userId
  | cleanupExpiredPayments cutoff => BachsService.cleanupExpiredPayments cutoff
  | retryFailedPayment id => BachsService.retryFailedPayment id
  | createJournalEntry data new => do
    let _ ← LedgerService.createJournalEntry data new false
    pure ()
  | reverseJournalEntry id reason new => LedgerService.reverseJournalEntry id reason new

/-- The events around the transactions of an operation. -/
def Base : Op → FinanceEvent → Prop
  | creditWallet .. | debitWallet .. | depositToSavings .. | executeInternalPayment ..
  | executeManualPayment .. | requestUserWithdrawal .. => Setup
  | requestOrganizationWithdrawal _ _ _ _ new _ => Pays new.withdrawalId
  | requestPlatformWithdrawal _ _ _ new _ => Pays new.withdrawalId
  | settleWithdrawal id _ => Pays id
  | approveUserWithdrawal id _ _ => Pays id
  | approvePlatformWithdrawal id _ _ _ => Pays id
  | _ => Quiet

/-- The transactions of an operation. -/
def Tx : Op → List Stmt → Prop
  | creditWallet dto _ => CreditTx dto
  | debitWallet dto _ => DebitTx dto
  | depositToSavings _ dto new => SavingsTx dto new
  | executeInternalPayment config userId dto new => InternalPaymentTx config userId dto new
  | executeManualPayment userId dto new => ManualPaymentTx userId dto new
  | requestUserWithdrawal config _ dto new =>
    RequestTx new.withdrawalId dto.amount (userFee config dto)
  | requestOrganizationWithdrawal _ _ _ dto new settlement =>
    RequestAndSettleTx userSettlement new.withdrawalId dto.amount ORGANIZATION_WITHDRAWAL_FEE
      settlement
  | requestPlatformWithdrawal _ userId dto new settlement =>
    RequestAndSettleTx (platformSettlement userId true) new.withdrawalId dto.amount
      BACHS_PAYOUT_FEE settlement
  | settleWithdrawal id new => SettlementTx userSettlement id new
  | approveUserWithdrawal id _ new => SettlementTx userSettlement id new
  | approvePlatformWithdrawal id adminUserId allowSelfApproval new =>
    SettlementTx (platformSettlement adminUserId allowSelfApproval) id new
  | rejectUserWithdrawal id _ => RejectTx id
  | processWebhook .. | deliverWebhook _ | reconcileStaleProcessingWithdrawals _ => WebhookTx
  | completePayment _ new | handleCheckoutCompleted _ _ new | handleCollectionSucceeded _ _ _ _ new
  | getPendingPaymentStatus _ _ new => ExternalPaymentTx new
  | handleCollectionFailed .. | handleCollectionUnderpaid .. | handleCheckoutExpired _
  | cancelPendingPayment .. | cleanupExpiredPayments _ | retryFailedPayment _ => StatusTx
  | createJournalEntry data new => Journal data new
  | reverseJournalEntry id reason new => ReversalTx id reason new

/-- An operation makes only its events. -/
theorem makes (op : Op) : Makes (Emits op.Base op.Tx) op.program fun _ => True := by
  cases op with
  | creditWallet dto new => exact makes_creditWallet dto new
  | debitWallet dto new => exact makes_debitWallet dto new
  | depositToSavings userId dto new => exact makes_depositToSavings userId dto new
  | executeInternalPayment config userId dto new =>
    exact makes_executeInternalPayment config userId dto new
  | executeManualPayment userId dto new => exact makes_executeManualPayment userId dto new
  | requestUserWithdrawal config userId dto new =>
    exact makes_requestUserWithdrawal config userId dto new
  | requestOrganizationWithdrawal config userId organizationId dto new settlement =>
    exact makes_requestOrganizationWithdrawal config userId organizationId dto new settlement
  | requestPlatformWithdrawal config userId dto new settlement =>
    exact makes_requestPlatformWithdrawal config userId dto new settlement
  | settleWithdrawal id new => exact makes_settleWithdrawal id new
  | approveUserWithdrawal id adminUserId new => exact makes_approveUserWithdrawal id adminUserId new
  | approvePlatformWithdrawal id adminUserId allow new =>
    exact makes_approvePlatformWithdrawal id adminUserId allow new
  | rejectUserWithdrawal id adminUserId => exact makes_rejectUserWithdrawal id adminUserId
  | processWebhook isValid hook => exact makes_processWebhook isValid hook
  | deliverWebhook n => exact makes_deliverWebhook n
  | reconcileStaleProcessingWithdrawals staleBefore =>
    exact makes_reconcileStaleProcessingWithdrawals staleBefore
  | completePayment collection new => exact makes_completePayment collection new
  | handleCheckoutCompleted checkoutId metadata new =>
    exact makes_handleCheckoutCompleted checkoutId metadata new
  | handleCollectionSucceeded checkoutId chargeId amountInBachs metadata new =>
    exact makes_handleCollectionSucceeded checkoutId chargeId amountInBachs metadata new
  | handleCollectionFailed checkoutId reason =>
    exact makes_markPendingPayment checkoutId _ (by decide)
  | handleCollectionUnderpaid checkoutId amountPaid amountExpected =>
    exact makes_markPendingPayment checkoutId _ (by decide)
  | handleCheckoutExpired checkoutId => exact makes_markPendingPayment checkoutId _ (by decide)
  | getPendingPaymentStatus id userId new => exact makes_getPendingPaymentStatus id userId new
  | cancelPendingPayment id userId => exact makes_cancelPendingPayment id userId
  | cleanupExpiredPayments cutoff => exact makes_cleanupExpiredPayments cutoff
  | retryFailedPayment id => exact makes_retryFailedPayment id
  | createJournalEntry data new =>
    exact (makes_createJournalEntry fun nested _ _ hJ => .tx nested hJ).bind fun _ _ => .ret trivial
  | reverseJournalEntry id reason new => exact makes_reverseJournalEntry id reason new

/-- What an operation commits: nothing but reads, an audit record, what it has to
set up, or a transaction of its own. -/
inductive Commits (op : Op) : List Stmt → Prop where
  | read : Commits op []
  | record (t : AuditTable) : Commits op [.createRecord t]
  | setup (nested : Bool) {F : List Stmt} (h : SetupTx F) (base : op.Base (.committed nested F)) :
    Commits op F
  | own {F : List Stmt} (h : op.Tx F) : Commits op F

theorem base_cases {op : Op} {nested : Bool} {F : List Stmt} (h : op.Base (.committed nested F)) :
    Setup (.committed nested F) := by
  cases op
  all_goals
    first
      | exact h
      | exact .quiet h
      | cases h; assumption

theorem commits_of_emits {op : Op} {nested : Bool} {F : List Stmt}
    (h : Emits op.Base op.Tx (.committed nested F)) : op.Commits F := by
  cases h with
  | tx _ h => exact .own h
  | base h =>
    cases base_cases h with
    | tx _ hF => exact .setup nested hF h
    | quiet hq =>
      cases hq with
      | read => exact .read
      | record _ t => exact .record t

end Op

/-- The operations at their start. -/
def start (db : Db) (ext : Services) (ops : List Op) : System :=
  Config.start db ext (ops.map Op.program)

/-- The committed transactions of a run. -/
abbrev Log := List (Commit Db Stmt)

open Database

/-- **The run rule**: what every commit keeps holds in every state a run reaches. -/
theorem ReadCommitted.Reaches.induct {cond : System → Effect Stmt Call → Prop} {db : Db} {ext : Services}
    {ops : List Op} {c : System} (run : Reaches cond (start db ext ops) c)
    (J : Db → Log → Prop) (init : J db [])
    (step : ∀ {c : System} {i : Nat} {op : Op} {nested : Bool} {F : List Stmt}, ops[i]? = some op →
      op.Commits F → violation F c.db = none → cond c (.commit i nested F) → J c.db c.log →
      J (applyAll F c.db) (c.log ++ [⟨i, F, c.db⟩])) : J c.db c.log := by
  refine run.invariant_of_makes (P := fun i ev => ∃ op, ops[i]? = some op ∧ Emits op.Base op.Tx ev)
    (fun i p hp => ?_) (fun c => J c.db c.log) init fun {c c' eff} hmoves hcond hJ => ?_
  · rw [List.getElem?_map, Option.map_eq_some_iff] at hp
    obtain ⟨op, hop, rfl⟩ := hp
    exact op.makes.mono (fun ev hev => ⟨op, hop, hev⟩) fun _ h => h
  · cases hmoves with
    | internal _ db ext past log => rwa [db, log]
    | called i call answered admitted db ext past log => rwa [db, log]
    | unsent i call admitted db ext past log => rwa [db, log]
    | commit i nested F admitted valid db ext past log =>
      obtain ⟨op, hop, hev⟩ := admitted
      rw [db, log]
      exact step hop (Op.commits_of_emits hev) valid hcond hJ

/-- A step of a run. -/
abbrev Step := ReadCommitted.Action Move Failure

/-- The threads take turns: each pair is a thread and how many operations it completes. -/
def turns (ts : List (Nat × Nat)) : List Step :=
  ts.flatMap fun t => List.replicate t.2 (.thread t.1 .ok)

end Heightt
