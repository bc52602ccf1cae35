import Heightt.Finance.Payments

/-!
# BachsService: external payments

A pending payment is completed once: by a webhook or by the payer's poll. The
completion credits the organisation, the platform and the clearing account and
creates the payment, all in one transaction whose unique reference lets only one
completion of a pending payment commit. The other functions move a pending
payment between its other statuses.
-/

namespace Heightt

def PendingPaymentStatus.name : PendingPaymentStatus → String
  | pending => "PENDING"
  | completed => "COMPLETED"
  | failed => "FAILED"
  | cancelled => "CANCELLED"
  | expired => "EXPIRED"

namespace BachsService

open ReadCommitted Prog WalletService LedgerService FinanceService ReceiptService

/-- The identifiers the completion of a payment gets. -/
structure NewCompletion where
  orgWalletId : Id
  platformWalletId : Id
  transactionId : Id
  paymentId : Id
  entryId : Id
  duePaymentId : Id
  receipt : NewReceipt
  deriving DecidableEq

/-- What a webhook or a poll tells about a collected payment. -/
structure Collection where
  checkoutId : String
  chargeId : String
  amountInBachs : BachsAmount
  metadata : CheckoutMetadata := {}
  deriving DecidableEq

/-- One of the identifiers in the collection is the pending payment's. -/
def Collection.Identifies (c : Collection) (p : PendingPayment) : Prop :=
  c.checkoutId ≠ "" ∧ p.bachsCheckoutId = some c.checkoutId ∨
    c.metadata.pendingPaymentId = some p.id ∨ c.metadata.internalReference = some p.reference

instance (c : Collection) (p : PendingPayment) : Decidable (c.Identifies p) :=
  inferInstanceAs (Decidable (_ ∨ _ ∨ _))

/-- What `completePayment` returns. -/
structure Completion where
  payment : Payment
  alreadyProcessed : Bool
  shouldGenerateReceipt : Bool

/-- `Number(pendingMetadata.platformFee || 0)` -/
def platformFee (p : PendingPayment) : Int := p.metadata.platformFee.getD 0

def expectedSettlementAmount (p : PendingPayment) : Int :=
  if p.metadata.expectedSettlementAmount.getD 0 = 0 then p.amount + platformFee p
  else p.metadata.expectedSettlementAmount.getD 0

/-- `Number.MAX_SAFE_INTEGER` -/
def maxSafeInteger : Int := 9007199254740991

/-- The settled amount in Kobo, if it is a positive safe integer. -/
def settledAmount (amountInBachs : BachsAmount) : Option Int :=
  (amountInBachs.map BachsClient.fromBachsAmount).filter fun x => 0 < x ∧ x ≤ maxSafeInteger

/-- Open a wallet with its ledger account in the open transaction. -/
def openWallet (newId : Id) (organizationId : Option Id) (isPlatformWallet : Bool) :
    Action Wallet := do
  exec (.createWallet newId none organizationId isPlatformWallet)
  exec (.createLedgerAccount (.wallet newId))
  exec (.linkWallet newId)
  let wallet ← query fun d => d.wallets.find newId
  orThrow wallet .recordNotFound

def organizationWallet (organizationId newId : Id) : Action Wallet := do
  let orgWallet ← query fun d => d.wallets.findFirst fun w => w.organizationId = some organizationId
  match orgWallet with
  | some w => pure w
  | none => openWallet newId (some organizationId) false

def platformWallet (fee : Int) (newId : Id) : Action (Option Wallet) := do
  let platformWallet ← query fun d => d.wallets.findFirst Wallet.isPlatformWallet
  match platformWallet with
  | some w => pure (some w)
  | none =>
    if 0 < fee then do
      let w ← openWallet newId none true
      pure (some w)
    else pure none

/-- `upsert` of the account that holds what the provider has collected. -/
def clearingAccount : Action LedgerAccount := do
  let account ← query fun d => d.ledgerAccounts.find (.system .bachsSettlement)
  match account with
  | some a => pure a
  | none =>
    exec (.createLedgerAccount (.system .bachsSettlement))
    pure { id := .system .bachsSettlement }

def transactionRow (p : PendingPayment) (orgWallet : Wallet) (amountInKobo : Int)
    (new : NewCompletion) : Transaction where
  id := new.transactionId
  walletId := orgWallet.id
  type := .credit
  amount := amountInKobo
  fee := platformFee p
  netAmount := p.amount
  reference := p.reference

def paymentRow (p : PendingPayment) (c : Collection) (new : NewCompletion) : Payment where
  id := new.paymentId
  payerId := p.userId
  organizationId := p.organizationId
  transactionId := new.transactionId
  amount := p.amount
  serviceFee := platformFee p
  reference := p.reference
  bachsChargeId := some c.chargeId
  bachsCheckoutId := some c.checkoutId

def journalEntryRow (p : PendingPayment) (c : Collection) (orgWallet : Wallet)
    (platform : Option Wallet) (amountInKobo : Int) (new : NewCompletion) : JournalEntry where
  id := new.entryId
  reference := "JE-BACHS-" ++ c.chargeId
  description := "External payment via Bachs"
  transactionId := some new.transactionId
  paymentId := some new.paymentId
  lines :=
    [{ ledgerAccountId := .system .bachsSettlement, type := .debit, amount := amountInKobo,
       description := "Bachs collection " ++ c.chargeId },
     { ledgerAccountId := orgWallet.ledgerAccountId, type := .credit, amount := p.amount,
       description := "Payment to organization" }] ++
    platform.toList.map fun w =>
      { ledgerAccountId := w.ledgerAccountId, type := .credit, amount := platformFee p,
        description := "Heightt platform service fee" }

/-- `status: COMPLETED` -/
def completed : PendingPaymentPatch where
  status := .completed

/-- The writes of a completion, once its wallets and its account are read. -/
def creditPayment (p : PendingPayment) (c : Collection) (amountInKobo : Int) (orgWallet : Wallet)
    (platform : Option Wallet) (clearing : LedgerAccount) (new : NewCompletion) :
    Action Unit := do
  exec (.createTransaction (transactionRow p orgWallet amountInKobo new))
  exec (.createRecord .ledgerEntry)
  writeBalance orgWallet p.amount
  whenSome platform fun w => writeBalance w (platformFee p)
  exec (.updateLedgerAccount clearing.id (.set clearing.balance amountInKobo))
  exec (.createPayment (paymentRow p c new))
  exec (.createJournalEntry (journalEntryRow p c orgWallet platform amountInKobo new))
  exec (.updateTransaction new.transactionId new.entryId)
  exec (.updatePayment new.paymentId new.entryId)
  whenSome p.dueAssignmentId fun id =>
    handleDuePayment new.duePaymentId id new.paymentId p.amount
  exec (.updatePendingPayment p completed)
  exec (.createRecord .activityLog)

/-- The completion of a pending payment that no payment exists for. -/
def settlePayment (p : PendingPayment) (c : Collection) (new : NewCompletion) :
    Action Completion := do
  ensure (p.status = .pending)
    (.badRequest ("Payment cannot be completed from " ++ p.status.name ++ " status"))
  let amountInKobo ← orThrow (settledAmount c.amountInBachs)
    (.badRequest "Provider returned an invalid amount")
  ensure (amountInKobo = expectedSettlementAmount p) (.badRequest
    ("Payment settlement mismatch: expected " ++ toString (expectedSettlementAmount p) ++
      " Kobo, received " ++ toString amountInKobo ++ " Kobo"))
  ensure (p.bachsCheckoutId.all fun id => c.checkoutId = id)
    (.badRequest "Checkout ID does not match payment")
  let orgWallet ← organizationWallet p.organizationId new.orgWalletId
  ensure (orgWallet.status = .active)
    (.badRequest "Organization wallet or ledger account is not active")
  let platform ← platformWallet (platformFee p) new.platformWalletId
  ensure (0 < platformFee p → platform.any fun w => w.status = .active)
    (.badRequest "Platform wallet or ledger account is not active")
  let clearing ← clearingAccount
  creditPayment p c amountInKobo orgWallet (platform.filter fun _ => 0 < platformFee p) clearing new
  pure ⟨paymentRow p c new, false, true⟩

def completionTransaction (c : Collection) (new : NewCompletion) : Action Completion := do
  let pendingPayment ← query fun d => d.pendingPayments.findFirst fun p => c.Identifies p
  let p ← orThrow pendingPayment
    (.notFound ("Pending payment not found for checkout " ++ c.checkoutId))
  let existingPayment ← query fun d => d.payments.findFirst fun q => q.reference = p.reference
  match existingPayment with
  | some payment =>
    let receipt ← query fun d => d.receipts.findFirst fun r => r.paymentId = payment.id
    pure ⟨payment, true, receipt.isNone⟩
  | none => settlePayment p c new

/-- A collision on the assignment of a due payment is reported as such. -/
def completionError : Failure → Failure
  | .uniqueConstraint "assignmentId" => .badRequest "This due has already been paid"
  | e => e

/-- FinanceService.handlePaymentCompletedViaBachs, run for the event of that name. -/
def handlePaymentCompletedViaBachs (paymentId userId : Id) (new : NewReceipt) : Action Unit :=
  attempt (generateReceiptFromPayment paymentId userId new)

def completePayment (c : Collection) (new : NewCompletion) : Action Unit := do
  let result ← (transaction (completionTransaction c new)).onThrow fun e =>
    throw (completionError e)
  attempt do
    CacheService.delete (.organization result.payment.organizationId)
    CacheService.delete .platform
    CacheService.invalidateByTag
    CacheService.invalidateByTag
  when result.shouldGenerateReceipt
    (handlePaymentCompletedViaBachs result.payment.id result.payment.payerId new.receipt)

/-! ## The other statuses -/

def findPendingPayment (pendingPaymentId : Id) : Action PendingPayment := do
  let pendingPayment ← outside fun d => d.pendingPayments.find pendingPaymentId
  orThrow pendingPayment (.notFound "Pending payment not found")

/-- `metadata: { ...metadata, … }` with what the code reads back. -/
def withStatus (p : PendingPayment) (status : PendingPaymentStatus) : PendingPaymentPatch where
  status := status
  metadata := some p.metadata

def cancelPendingPayment (pendingPaymentId : Id) (userId : Option Id) : Action Unit := do
  let p ← findPendingPayment pendingPaymentId
  ensure (userId.all fun u => p.userId = u) (.forbidden "You do not have access to this payment")
  ensure (p.status = .pending) (.badRequest "Payment is not pending")
  statement (.updatePendingPayment p (withStatus p .cancelled))

def cleanupExpiredPayments (cutoffTime : Nat) : Action Unit :=
  statement (.expirePendingPayments cutoffTime)

def retryFailedPayment (pendingPaymentId : Id) : Action Unit := do
  let p ← findPendingPayment pendingPaymentId
  ensure (p.status = .failed) (.badRequest "Payment is not in failed state")
  ensure (p.metadata.retryCount + 1 ≤ 3) (.badRequest "Maximum retry attempts exceeded")
  statement (.updatePendingPayment p
    { status := .pending
      metadata := some { p.metadata with retryCount := p.metadata.retryCount + 1 } })

/-- What the poll does with the provider's answer. -/
def applyCheckout (p : PendingPayment) (checkoutId : String) (checkout : Checkout)
    (new : NewCompletion) : Action Unit :=
  match checkout.status, checkout.chargeId, checkout.amount with
  | .completed, some chargeId, some amountInBachs
  | .succeeded, some chargeId, some amountInBachs => do
    completePayment
      { checkoutId, chargeId, amountInBachs, metadata := checkout.metadata.getD {} } new
    let _ ← outside fun d => d.pendingPayments.find p.id
    pure ()
  | .expired, _, _ => statement (.updatePendingPayment p { status := .expired })
  | .cancelled, _, _ => statement (.updatePendingPayment p { status := .cancelled })
  | _, _, _ => pure ()

/-- Errors of the provider and of the completion are logged. -/
def checkWithProvider (p : PendingPayment) (checkoutId : String) (new : NewCompletion) :
    Action Unit :=
  attempt do
    let checkout ← BachsClient.getCheckoutSession checkoutId
    applyCheckout p checkoutId checkout new

def getPendingPaymentStatus (pendingPaymentId userId : Id) (new : NewCompletion) :
    Action Unit := do
  let p ← findPendingPayment pendingPaymentId
  ensure (p.userId = userId) (.forbidden "You do not have access to this payment")
  when (p.status = .pending) (whenSome p.bachsCheckoutId fun id => checkWithProvider p id new)
  let payment ← outside fun d => d.payments.findFirst fun q => q.reference = p.reference
  whenSome payment fun q => do
    let receipt ← outside fun d => d.receipts.findFirst fun r => r.paymentId = q.id
    when receipt.isNone (handlePaymentCompletedViaBachs q.id p.userId new.receipt)

/-! ## What these functions commit -/

/-- The statement opens a wallet or an account. -/
def Opens : Stmt → Prop
  | .createWallet .. | .createLedgerAccount _ | .linkWallet _ => True
  | _ => False

/-- The writes of a completion that found the clearing account at `base`. -/
def creditWrites (p : PendingPayment) (c : Collection) (amountInKobo : Int) (orgWallet : Wallet)
    (platform : Option Wallet) (base : Int) (due : List Stmt) (new : NewCompletion) : List Stmt :=
  .createTransaction (transactionRow p orgWallet amountInKobo new) :: .createRecord .ledgerEntry ::
  (moveWallet orgWallet p.amount ++
  (platform.toList.flatMap (fun w => moveWallet w (platformFee p)) ++
  (.updateLedgerAccount (.system .bachsSettlement) (.set base amountInKobo) ::
    .createPayment (paymentRow p c new) ::
    .createJournalEntry (journalEntryRow p c orgWallet platform amountInKobo new) ::
    .updateTransaction new.transactionId new.entryId ::
    .updatePayment new.paymentId new.entryId ::
    (due ++ [.updatePendingPayment p completed, .createRecord .activityLog]))))

/-- The transactions that move a pending payment to a status other than COMPLETED. -/
inductive StatusTx : List Stmt → Prop where
  | update (p : PendingPayment) (patch : PendingPaymentPatch) (h : patch.status ≠ .completed) :
    StatusTx [.updatePendingPayment p patch]
  | expire (cutoff : Nat) : StatusTx [.expirePendingPayments cutoff]

/-- The transactions of an external payment. -/
inductive ExternalPaymentTx (new : NewCompletion) : List Stmt → Prop where
  | complete (p : PendingPayment) (c : Collection) (amountInKobo : Int) (o : Wallet)
      (platform : Option Wallet) (base : Int) (S due : List Stmt) (identified : c.Identifies p)
      (pending : p.status = .pending) (settled : settledAmount c.amountInBachs = some amountInKobo)
      (expected : amountInKobo = expectedSettlementAmount p)
      (charged : platform.isSome ↔ 0 < platformFee p) (opens : ∀ s ∈ S, Opens s)
      (paid : DuePaid new.paymentId p.amount due) :
    ExternalPaymentTx new (S ++ creditWrites p c amountInKobo o platform base due new)
  | receipt (paymentId : Id) {F : List Stmt} (h : ReceiptTx paymentId new.receipt F) :
    ExternalPaymentTx new F
  | status {F : List Stmt} (h : StatusTx F) : ExternalPaymentTx new F

section

variable {P : FinanceEvent → Prop}

theorem adds_openWallet (newId : Id) (organizationId : Option Id) (isPlatformWallet : Bool) :
    Adds P (openWallet newId organizationId isPlatformWallet) fun _ S => ∀ s ∈ S, Opens s := by
  refine .exec_bind <| .exec_bind <| .exec_bind <| .query_bind fun _ =>
    .of_makes (Makes.orThrow (S := fun _ => True) fun _ _ => trivial) fun _ _ => ?_
  simp [Opens]

theorem adds_organizationWallet (organizationId newId : Id) :
    Adds P (organizationWallet organizationId newId) fun _ S => ∀ s ∈ S, Opens s := by
  refine .query_bind fun d => ?_
  cases d.wallets.findFirst fun w => w.organizationId = some organizationId with
  | some w => exact .ret (by simp)
  | none => exact adds_openWallet _ _ _

theorem adds_platformWallet (fee : Int) (newId : Id) :
    Adds P (platformWallet fee newId) fun _ S => ∀ s ∈ S, Opens s := by
  refine .query_bind fun d => ?_
  cases d.wallets.findFirst Wallet.isPlatformWallet with
  | some w => exact .ret (by simp)
  | none =>
    dsimp only
    split
    · exact (adds_openWallet _ _ _).bind fun _ S hS => .ret (by simpa using hS)
    · exact .ret (by simp)

theorem adds_clearingAccount :
    Adds P clearingAccount fun a S => a.id = .system .bachsSettlement ∧ ∀ s ∈ S, Opens s := by
  refine .query_bind fun d => ?_
  cases h : d.ledgerAccounts.find (.system .bachsSettlement) with
  | some a => exact .ret ⟨Store.Table.find_key h, by simp⟩
  | none => exact .exec_bind <| .ret ⟨rfl, by simp [Opens]⟩

theorem adds_creditPayment (p : PendingPayment) (c : Collection) (amountInKobo : Int) (o : Wallet)
    (platform : Option Wallet) (clearing : LedgerAccount) (new : NewCompletion)
    (h : clearing.id = .system .bachsSettlement) :
    Adds P (creditPayment p c amountInKobo o platform clearing new) fun _ F =>
      ∃ due, DuePaid new.paymentId p.amount due ∧
        F = creditWrites p c amountInKobo o platform clearing.balance due new := by
  refine .exec_bind <| .exec_bind <| (adds_writeBalance o _).bind fun _ F hF => ?_
  subst hF
  refine Adds.bind (G := fun _ F => F = platform.toList.flatMap fun w =>
    moveWallet w (platformFee p)) ?_ fun _ F hF => ?_
  · cases platform with
    | none => exact .ret rfl
    | some w => exact (adds_writeBalance w _).mono fun _ _ hF => by simp [hF]
  subst hF
  refine .exec_bind <| .exec_bind <| .exec_bind <| .exec_bind <| .exec_bind <|
    (adds_duePayment _ _ _ _).bind fun _ due paid => .exec_bind <| .exec ⟨due, paid, ?_⟩
  rw [h]
  rfl

theorem adds_settlePayment (p : PendingPayment) (c : Collection) (new : NewCompletion)
    (identified : c.Identifies p) :
    Adds P (settlePayment p c new) fun _ F => ExternalPaymentTx new F := by
  refine .ensure_bind fun pending => .orThrow_bind fun amountInKobo settled =>
    .ensure_bind fun expected => .ensure_bind fun _ => ?_
  refine (adds_organizationWallet _ _).bind fun o S₁ h₁ => .ensure_bind fun _ => ?_
  refine (adds_platformWallet _ _).bind fun platform S₂ h₂ => .ensure_bind fun active => ?_
  refine adds_clearingAccount.bind fun clearing S₃ ⟨hid, h₃⟩ => ?_
  refine (adds_creditPayment _ _ _ _ _ _ _ hid).bind fun _ F ⟨due, paid, hF⟩ => .ret ?_
  subst hF
  rw [List.append_nil, ← List.append_assoc, ← List.append_assoc]
  refine .complete p c amountInKobo o _ clearing.balance _ due identified pending settled expected
    ?_ ?_ paid
  · by_cases h : 0 < platformFee p <;> cases platform <;> simp_all
  · intro s hs
    simp only [List.mem_append] at hs
    rcases hs with (hs | hs) | hs
    · exact h₁ s hs
    · exact h₂ s hs
    · exact h₃ s hs

theorem adds_completionTransaction (c : Collection) (new : NewCompletion) :
    Adds P (completionTransaction c new) fun _ F => F = [] ∨ ExternalPaymentTx new F := by
  refine .query_bind fun d => .orThrow_bind fun p hp => .query_bind fun d' => ?_
  have identified : c.Identifies p := by simpa using List.find?_some hp
  cases d'.payments.findFirst fun q => q.reference = p.reference with
  | some payment => exact .query_bind fun _ => .ret (.inl rfl)
  | none => exact (adds_settlePayment p c new identified).mono fun _ _ => .inr

end

theorem makes_handlePaymentCompletedViaBachs (paymentId userId : Id) (new : NewCompletion) :
    Makes (Emits Quiet (ExternalPaymentTx new))
      (handlePaymentCompletedViaBachs paymentId userId new.receipt) fun _ => True :=
  makes_receipt fun _ => .receipt paymentId

theorem makes_completePayment (c : Collection) (new : NewCompletion) :
    Makes (Emits Quiet (ExternalPaymentTx new)) (completePayment c new) fun _ => True := by
  refine Makes.bind (S := fun _ => True) (.onThrow (.transaction
    (adds_completionTransaction c new) fun nested _ F hF => ⟨?_, trivial⟩) fun _ => .throw _)
    fun result _ => ?_
  · rcases hF with rfl | hF
    · exact quiet (.read nested)
    · exact .tx nested hF
  · refine Makes.bind (S := fun _ => True) (Makes.attempt ?_) fun _ _ =>
      .when fun _ => makes_handlePaymentCompletedViaBachs _ _ _
    exact (makes_request (c := Call.cacheDelete _) fun _ _ => nofun).bind fun _ _ =>
      (makes_request (c := Call.cacheDelete _) fun _ _ => nofun).bind fun _ _ =>
        makes_invalidateByTag.bind fun _ _ => makes_invalidateByTag

theorem makes_findPendingPayment {P : FinanceEvent → Prop} [Includes Quiet P] (id : Id) :
    Makes P (findPendingPayment id) fun _ => True :=
  (makes_outside _).bind fun _ _ => makes_orThrow _ _

theorem makes_status {p : PendingPayment} {patch : PendingPaymentPatch}
    (h : patch.status ≠ .completed) :
    Makes (Emits Quiet StatusTx) (statement (.updatePendingPayment p patch) : Action Unit)
      fun _ => True :=
  Makes.statement fun nested => .tx nested (.update p patch h)

theorem makes_cancelPendingPayment (id : Id) (userId : Option Id) :
    Makes (Emits Quiet StatusTx) (cancelPendingPayment id userId) fun _ => True :=
  (makes_findPendingPayment id).bind fun _ _ => (Makes.ensure _).bind fun _ _ =>
    (Makes.ensure _).bind fun _ _ => makes_status (by simp [withStatus])

theorem makes_cleanupExpiredPayments (cutoff : Nat) :
    Makes (Emits Quiet StatusTx) (cleanupExpiredPayments cutoff) fun _ => True :=
  Makes.statement fun nested => .tx nested (.expire cutoff)

theorem makes_retryFailedPayment (id : Id) :
    Makes (Emits Quiet StatusTx) (retryFailedPayment id) fun _ => True :=
  (makes_findPendingPayment id).bind fun _ _ => (Makes.ensure _).bind fun _ _ =>
    (Makes.ensure _).bind fun _ _ => makes_status (by simp)

theorem makes_applyCheckout (p : PendingPayment) (checkoutId : String) (checkout : Checkout)
    (new : NewCompletion) :
    Makes (Emits Quiet (ExternalPaymentTx new)) (applyCheckout p checkoutId checkout new)
      fun _ => True := by
  have status {patch : PendingPaymentPatch} (h : patch.status ≠ .completed) :
      Makes (Emits Quiet (ExternalPaymentTx new)) (statement (.updatePendingPayment p patch) : Action Unit)
        fun _ => True :=
    (makes_status h).mono (fun _ => .mono fun _ => .status) fun _ h => h
  unfold applyCheckout
  split
  · exact (makes_completePayment _ _).bind fun _ _ => (makes_outside _).bind
      fun _ _ => .ret trivial
  · exact (makes_completePayment _ _).bind fun _ _ => (makes_outside _).bind
      fun _ _ => .ret trivial
  · exact status (by simp)
  · exact status (by simp)
  · exact .ret trivial

theorem makes_getPendingPaymentStatus (id userId : Id) (new : NewCompletion) :
    Makes (Emits Quiet (ExternalPaymentTx new)) (getPendingPaymentStatus id userId new)
      fun _ => True := by
  refine (makes_findPendingPayment id).bind fun p _ => (Makes.ensure _).bind
    fun _ _ => (Makes.when fun _ => Makes.whenSome fun checkoutId _ => ?_).bind fun _ _ => ?_
  · exact ((makes_request (c := Call.getCheckoutSession _) fun _ _ => nofun).bind
      fun _ _ => makes_applyCheckout _ _ _ _).attempt
  · refine (makes_outside _).bind fun payment _ => Makes.whenSome fun q _ => ?_
    exact (makes_outside _).bind fun _ _ => Makes.when fun _ =>
      makes_handlePaymentCompletedViaBachs _ _ _

end BachsService

end Heightt
