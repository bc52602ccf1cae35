import Heightt.Finance.Requests

/-!
# WithdrawalWebhookService

What the provider's payout webhooks do to a withdrawal, and the job that asks
the provider about withdrawals that stay in processing. A handler finds the
withdrawal before it opens its transaction, and decides by the row it found.
-/

namespace Heightt

def WithdrawalStatus.name : WithdrawalStatus → String
  | pending => "PENDING"
  | processing => "PROCESSING"
  | completed => "COMPLETED"
  | failed => "FAILED"
  | cancelled => "CANCELLED"

/-- One of the identifiers in a webhook is the withdrawal's. -/
def PayoutWebhook.Identifies (h : PayoutWebhook) (w : Withdrawal) : Prop :=
  h.withdrawalId = some w.id ∨ h.reference = some w.reference ∨
    h.providerReference.isSome ∧ w.providerPayoutId = h.providerReference

instance (h : PayoutWebhook) (w : Withdrawal) : Decidable (h.Identifies w) :=
  inferInstanceAs (Decidable (_ ∨ _ ∨ _))

namespace WithdrawalWebhookService

open ReadCommitted Prog WalletService LedgerService FinanceService

/-- The withdrawal a webhook is about. -/
def findWithdrawal (hook : PayoutWebhook) : Action Withdrawal := do
  let withdrawal ← outside fun d => d.withdrawals.findFirst fun w => hook.Identifies w
  orThrow withdrawal (.notFound "Withdrawal not found for reference")

def includeWallet (w : Withdrawal) : Action Wallet := do
  let wallet ← outside fun d => d.wallets.find w.walletId
  orThrow wallet inconsistentQueryResult

/-- The wallet cache of a wallet's owner. -/
def invalidateWithdrawalWallet (wallet : Wallet) : Action Unit := do
  CacheService.invalidateByTag
  CacheService.invalidateByTag
  CacheService.deleteKey "withdrawals:*"
  whenSome owner invalidateWalletCache
where
  owner : Option WalletOwner :=
    match wallet.organizationId with
    | some organizationId => some (.organization organizationId)
    | none => if wallet.isPlatformWallet then some .platform else wallet.userId.map .user

def completed : WithdrawalPatch where
  status := some .completed

def handleWithdrawalSucceeded (hook : PayoutWebhook) : Action Unit := do
  let withdrawal ← findWithdrawal hook
  let wallet ← includeWallet withdrawal
  when (withdrawal.status ≠ .completed) do
    ensure (withdrawal.status = .processing) (.badRequest
      ("Cannot complete withdrawal from " ++ withdrawal.status.name ++ " status"))
    transaction do
      exec (.updateWithdrawal withdrawal completed)
      exec (.createRecord .withdrawalWebhook)
    invalidateWithdrawalWallet wallet

/-- What a failed payout gives back to the balance: the amount and the fee, if
the withdrawal was found in processing. -/
def refundChange (w : Withdrawal) : Change :=
  if w.status = .processing then .add w.totalAmount else .keep

/-- The transaction of a failed payout. -/
def failWithdrawal (w : Withdrawal) (wallet : Wallet) : Action Unit := do
  exec (.updateWithdrawal w failed)
  exec (.releaseWalletHolds w.walletId (withdrawalReason w.id))
  exec (.updateWallet w.walletId (refundChange w) (.floor wallet.heldBalance (-w.totalAmount)))
  when (w.status = .processing) (refundLedger w)
  markReversed w
  reverseOrganizationWithdrawalPlatformFee w
  exec (.createRecord .withdrawalWebhook)

def handleWithdrawalFailed (hook : PayoutWebhook) : Action Unit := do
  let withdrawal ← findWithdrawal hook
  let wallet ← includeWallet withdrawal
  when (withdrawal.status ≠ .failed) do
    transaction (failWithdrawal withdrawal wallet)
    invalidateWithdrawalWallet wallet

/-- `status: PROCESSING` and nothing else. -/
def inProcessing : WithdrawalPatch where
  status := some .processing

def handleWithdrawalPending (hook : PayoutWebhook) : Action Unit := do
  let withdrawal ← findWithdrawal hook
  when (withdrawal.status ≠ .completed ∧ withdrawal.status ≠ .failed) do
    transaction do
      exec (.updateWithdrawal withdrawal inProcessing)
      exec (.createRecord .withdrawalWebhook)

/-- A webhook whose signature is not valid is refused. -/
def processWebhook (isValid : Bool) (hook : PayoutWebhook) : Action Unit := do
  ensure isValid (.badRequest "Invalid webhook signature")
  match hook.event with
  | .succeeded => handleWithdrawalSucceeded hook
  | .failed => handleWithdrawalFailed hook
  | .pending => handleWithdrawalPending hook

/-- The provider's `n`-th webhook arrives, if it has sent that many. -/
def deliverWebhook (n : Nat) : Action Unit := do
  let hook ← receiveWebhook n
  whenSome hook (processWebhook true)

/-- The payload that the reconciliation job makes of the provider's answer. -/
def reconciliationPayload (payout : Payout) : PayoutWebhook where
  event := payout.status.event
  reference := some payout.reference
  providerReference := some payout.id
  withdrawalId := some payout.withdrawalId

/-- A withdrawal that has been in processing since `staleBefore`. -/
def isStale (staleBefore : Nat) (w : Withdrawal) : Bool :=
  w.status = .processing && w.providerPayoutId.isSome &&
    w.processedAt.any fun t => t ≤ staleBefore

def reconcileWithdrawal (w : Withdrawal) : Action Unit := do
  let payout ← BachsClient.getPayout (w.providerPayoutId.getD 0)
  let payout ← orThrow payout (.error "Payout not found")
  match payout.status.event with
  | .succeeded => handleWithdrawalSucceeded (reconciliationPayload payout)
  | .failed => handleWithdrawalFailed (reconciliationPayload payout)
  | .pending => pure ()

/-- The job goes on with the next withdrawal when one could not be reconciled. -/
def reconcileStaleProcessingWithdrawals (staleBefore : Nat) : Action Unit := do
  let withdrawals ← outside fun d => d.withdrawals.rows.filter (isStale staleBefore)
  let withdrawals := (withdrawals.mergeSort fun a b => a.processedAt.getD 0 ≤ b.processedAt.getD 0).take 100
  forEach withdrawals fun w => attempt (reconcileWithdrawal w)

/-! ## What these functions commit -/

/-- The statements that put a failed withdrawal's amount back, if it was debited. -/
def failedRefund (w : Withdrawal) (clearing : Bool) : List Stmt :=
  if w.status = .processing then refundWrites w clearing else []

/-- The transactions of payout webhooks and of the reconciliation job. -/
inductive WebhookTx : List Stmt → Prop where
  | succeeded (w : Withdrawal) (open_ : w.status = .processing) :
    WebhookTx [.updateWithdrawal w completed, .createRecord .withdrawalWebhook]
  | failed (w : Withdrawal) (v : Wallet) (clearing : Bool) (R : List Stmt)
      (hv : v.id = w.walletId) (open_ : w.status ≠ .failed) (reversal : FeeReversal w R) :
    WebhookTx (.updateWithdrawal w FinanceService.failed ::
      .releaseWalletHolds w.walletId (withdrawalReason w.id) ::
      .updateWallet w.walletId (refundChange w) (.floor v.heldBalance (-w.totalAmount)) ::
      (failedRefund w clearing ++ (reversedWrites w ++ (R ++ [.createRecord .withdrawalWebhook]))))
  | pending (w : Withdrawal) (open_ : w.status ≠ .completed ∧ w.status ≠ .failed) :
    WebhookTx [.updateWithdrawal w inProcessing, .createRecord .withdrawalWebhook]

section

variable {P : FinanceEvent → Prop} [Includes Quiet P]

theorem makes_findWithdrawal (hook : PayoutWebhook) :
    Makes P (findWithdrawal hook) fun _ => True :=
  (makes_outside _).bind fun _ _ => makes_orThrow _ _

theorem makes_includeWallet (w : Withdrawal) :
    Makes P (includeWallet w) fun v => v.id = w.walletId :=
  (Makes.outside (S := fun o : Option Wallet => ∀ v, o = some v → v.id = w.walletId)
    (fun _ _ h => Store.Table.find_key h) fun nested => quiet (.read nested)).bind fun _ ho =>
      Makes.orThrow ho

theorem makes_invalidateWithdrawalWallet (v : Wallet) :
    Makes P (invalidateWithdrawalWallet v) fun _ => True :=
  makes_invalidateByTag.bind fun _ _ => makes_invalidateByTag.bind fun _ _ =>
    (makes_request (c := Call.cacheDeleteKey _) fun _ _ => nofun).bind fun _ _ =>
      Makes.whenSome fun _ _ => makes_invalidateWalletCache _

end

theorem makes_handleWithdrawalSucceeded (hook : PayoutWebhook) :
    Makes (Emits Quiet WebhookTx) (handleWithdrawalSucceeded hook) fun _ => True := by
  refine (makes_findWithdrawal hook).bind fun w _ => ?_
  refine (makes_includeWallet w).bind fun v _ => Makes.when fun _ => ?_
  refine (Makes.ensure _).bind fun processing _ => Makes.bind (S := fun _ => True)
    (.transaction (G := fun _ F => WebhookTx F) ?_ fun nested _ F hF => ⟨.tx nested hF, trivial⟩)
    fun _ _ => (makes_invalidateWithdrawalWallet v)
  exact .exec_bind <| .exec <| .succeeded w ‹_›

theorem adds_failWithdrawal {P : FinanceEvent → Prop} (w : Withdrawal) (v : Wallet)
    (hv : v.id = w.walletId) (h : w.status ≠ .failed) :
    Adds P (failWithdrawal w v) fun _ F => WebhookTx F := by
  refine .exec_bind <| .exec_bind <| .exec_bind <| Adds.bind
    (G := fun _ F => ∃ clearing, F = failedRefund w clearing) ?_ fun _ F hF => ?_
  · unfold when failedRefund
    split
    · exact adds_refundLedger w
    · exact .ret ⟨false, rfl⟩
  obtain ⟨clearing, rfl⟩ := hF
  refine (adds_markReversed w).bind fun _ F hF => ?_
  subst hF
  exact (adds_reverseOrganizationWithdrawalPlatformFee w).bind fun _ R hR =>
    .exec <| by simpa using .failed w v clearing R hv h hR

theorem makes_handleWithdrawalFailed (hook : PayoutWebhook) :
    Makes (Emits Quiet WebhookTx) (handleWithdrawalFailed hook) fun _ => True := by
  refine (makes_findWithdrawal hook).bind fun w _ => ?_
  refine (makes_includeWallet w).bind fun v hv => Makes.when fun h => ?_
  exact (Makes.transaction (adds_failWithdrawal w v hv h)
    fun nested _ F hF => ⟨.tx nested hF, trivial⟩).bind (S := fun _ => True) fun _ _ =>
      (makes_invalidateWithdrawalWallet v)

theorem makes_handleWithdrawalPending (hook : PayoutWebhook) :
    Makes (Emits Quiet WebhookTx) (handleWithdrawalPending hook) fun _ => True := by
  refine (makes_findWithdrawal hook).bind fun w _ => Makes.when fun h => ?_
  refine .transaction (G := fun _ F => WebhookTx F) ?_ fun nested _ F hF => ⟨.tx nested hF, trivial⟩
  exact .exec_bind <| .exec <| .pending w h

theorem makes_processWebhook (isValid : Bool) (hook : PayoutWebhook) :
    Makes (Emits Quiet WebhookTx) (processWebhook isValid hook) fun _ => True := by
  refine (Makes.ensure _).bind fun _ _ => ?_
  cases hook.event with
  | succeeded => exact makes_handleWithdrawalSucceeded hook
  | failed => exact makes_handleWithdrawalFailed hook
  | pending => exact makes_handleWithdrawalPending hook

theorem makes_deliverWebhook (n : Nat) :
    Makes (Emits Quiet WebhookTx) (deliverWebhook n) fun _ => True :=
  (makes_request (c := Call.receive n) fun _ _ => nofun).bind fun _ _ =>
    Makes.whenSome fun hook _ => makes_processWebhook true hook

theorem makes_reconcileWithdrawal (w : Withdrawal) :
    Makes (Emits Quiet WebhookTx) (reconcileWithdrawal w) fun _ => True := by
  refine (makes_request (c := Call.getPayout _) fun _ _ => nofun).bind fun o _ => ?_
  refine (makes_orThrow _ _).bind fun payout _ => ?_
  cases payout.status.event with
  | succeeded => exact makes_handleWithdrawalSucceeded _
  | failed => exact makes_handleWithdrawalFailed _
  | pending => exact .ret trivial

theorem makes_reconcileStaleProcessingWithdrawals (staleBefore : Nat) :
    Makes (Emits Quiet WebhookTx) (reconcileStaleProcessingWithdrawals staleBefore) fun _ => True :=
  (makes_outside _).bind fun _ _ => Makes.forEach fun w _ =>
    (makes_reconcileWithdrawal w).attempt

end WithdrawalWebhookService

end Heightt
