import Heightt.Finance.Settlement

/-!
# FinanceService: withdrawal requests

A request checks what is available on the wallet, under a row lock, and holds
the amount and the fee. Organisation and platform requests go on to their
settlement in the same call; user requests wait until an admin approves or
rejects them.
-/

namespace Heightt.FinanceService

open ReadCommitted Prog WalletService LedgerService

def ORGANIZATION_WITHDRAWAL_FEE : Int := 100 * 100
def BACHS_PAYOUT_FEE : Int := 50 * 100

def calculateOrganizationWithdrawalCharges : Charges where
  fee := ORGANIZATION_WITHDRAWAL_FEE
  platformFee := some (ORGANIZATION_WITHDRAWAL_FEE - BACHS_PAYOUT_FEE)
  providerFee := some BACHS_PAYOUT_FEE

def calculatePlatformWithdrawalCharges : Charges where
  fee := BACHS_PAYOUT_FEE
  platformFee := some 0
  providerFee := some BACHS_PAYOUT_FEE

/-- The binary search for the largest amount that the balance covers with its fee. -/
def searchMaximum (fee : Int → Int) (availableBalance low high : Int) : Int :=
  if low < high then
    let candidate := (low + high + 1) / 2
    if candidate + fee candidate ≤ availableBalance then
      searchMaximum fee availableBalance candidate high
    else searchMaximum fee availableBalance low (candidate - 1)
  else low
termination_by (high - low).toNat
decreasing_by all_goals omega

def calculateMaximumWithdrawal (config : FeeConfig) (availableBalance : Int)
    (fixedFee : Option Int) : Int :=
  if availableBalance ≤ 0 then 0
  else match fixedFee with
    | some fee => max 0 (availableBalance - fee)
    | none => searchMaximum (fun amount => (calculateWithdrawalCharges config amount).fee)
        availableBalance 0 availableBalance

/-! ## Requests -/

structure WithdrawalRequestDto where
  bankAccountId : Id
  amount : Int
  min_amount : 100 ≤ amount := by decide

/-- The identifiers a request gets. -/
structure NewWithdrawal where
  walletId : Id
  withdrawalId : Id
  holdId : Id
  reference : String
  deriving DecidableEq

/-- Whether an admin record covers an organisation. -/
def Covers (a : Admin) (o : Organization) : Prop :=
  match a.adminType with
  | .platformAdmin => True
  | .institutionAdmin => a.institutionId = o.institutionId
  | .facultyAdmin => a.facultyId = o.facultyId
  | .departmentAdmin => a.departmentId = o.departmentId
  | .organizationAdmin | .clubAdmin => a.organizationId = some o.id

instance (a : Admin) (o : Organization) : Decidable (Covers a o) := by
  unfold Covers
  split <;> infer_instance

def assertOrganizationAdminScope (userId organizationId : Id) : Action Unit := do
  let organization ← outside fun d => d.organizations.find? fun o => o.id = organizationId
  let admins ← outside fun d => d.admins.filter fun a => a.userId = userId
  let organization ← orThrow organization (.notFound "Organization not found")
  ensure (∃ a ∈ admins, Covers a organization) (.forbidden
    "You do not have permission to view this organization withdrawal history")

/-- BankAccountService.getBankAccountById -/
def getBankAccountById (id userId : Id) : Action BankAccount := do
  let bankAccount ← outside fun d => d.bankAccounts.find id
  let bankAccount ← orThrow bankAccount (.notFound "Bank account not found")
  ensure (bankAccount.userId = userId) (.badRequest "You do not have access to this bank account")
  pure bankAccount

def ensurePayoutDestination (bankAccount : BankAccount) : Action PayoutDestination := do
  ensure bankAccount.bankCode.isSome (.badRequest "Bank code is required for payouts")
  let destination ← fetch bankAccount.payoutDestinationId
  statement (.updateBankAccount bankAccount.id destination.id)
  CacheService.deleteKey "bank-accounts:user"
  ensure (destination.usable ∧ destination.approved)
    (.badRequest "Bank payout destination is not approved")
  pure destination
where
  fetch : Option String → Action PayoutDestination
    | some id => BachsClient.getPayoutDestination id
    | none => BachsClient.createPayoutDestination bankAccount.id

/-- The wallet row, locked until the transaction ends. -/
def lockWalletForWithdrawal (walletId : Id) : Action (Option Wallet) := do
  let wallet ← query fun d => d.wallets.find walletId
  whenSome wallet fun w => exec (.lockWallet w.id w.balance w.heldBalance)
  pure wallet

def insufficientWithdrawalBalance (config : FeeConfig) (availableBalance requestedAmount fee : Int)
    (fixedFee : Option Int) : Failure :=
  .insufficientAvailableBalance availableBalance requestedAmount fee
    (calculateMaximumWithdrawal config availableBalance fixedFee)

/-- The row of a new withdrawal. -/
def withdrawalRow (userId walletId : Id) (dto : WithdrawalRequestDto) (charges : Charges)
    (metadata : WithdrawalMetadata) (new : NewWithdrawal) (reference : String) : Withdrawal where
  id := new.withdrawalId
  userId := userId
  walletId := walletId
  amount := dto.amount
  fee := charges.fee
  reference := reference
  metadata := metadata

/-- The hold of a withdrawal. -/
def holdRow (holdId : Id) (w : Withdrawal) (reason : List Char) : WalletHold where
  id := holdId
  walletId := w.walletId
  amount := w.totalAmount
  reason := reason

/-- Lock the wallet, check what is available on it, and hold the amount and the fee. -/
def holdForWithdrawal (config : FeeConfig) (fixedFee : Option Int) (w : Withdrawal) (holdId : Id)
    (reason : List Char) : Action Unit := do
  let currentWallet ← lockWalletForWithdrawal w.walletId
  let currentWallet ← orThrow currentWallet
    (insufficientWithdrawalBalance config 0 w.amount w.fee fixedFee)
  ensure (w.totalAmount ≤ currentWallet.balance - currentWallet.heldBalance)
    (insufficientWithdrawalBalance config (currentWallet.balance - currentWallet.heldBalance)
      w.amount w.fee fixedFee)
  exec (.createWithdrawal w)
  exec (.createWalletHold (holdRow holdId w reason))
  exec (.updateWallet w.walletId .keep (.add w.totalAmount))

def notifyPlatformAdmins : Action Unit := do
  let admins ← outside fun d => d.admins.filter fun a => a.adminType = .platformAdmin
  forEach admins fun _ => do
    statement (.createRecord .notification)
    EmailService.sendEmail

/-- The row of a user withdrawal. -/
def userWithdrawalRow (config : FeeConfig) (userId walletId : Id) (dto : WithdrawalRequestDto)
    (destination : PayoutDestination) (new : NewWithdrawal) : Withdrawal :=
  let charges := calculateWithdrawalCharges config dto.amount
  withdrawalRow userId walletId dto charges
    { type := .user, payoutDestinationId := some destination.id, charges } new
    ("WTH_" ++ new.reference)

def requestUserWithdrawal (config : FeeConfig) (userId : Id) (dto : WithdrawalRequestDto)
    (new : NewWithdrawal) : Action Unit := do
  let wallet ← getOrCreateWallet (.user userId) new.walletId
  let bankAccount ← getBankAccountById dto.bankAccountId userId
  let destination ← ensurePayoutDestination bankAccount
  transaction do
    holdForWithdrawal config none (userWithdrawalRow config userId wallet.id dto destination new)
      new.holdId (withdrawalReason new.withdrawalId)
    exec (.createRecord .activityLog)
    notifyPlatformAdmins
    invalidateWalletCache (.user userId)

/-- The row of an organisation withdrawal. -/
def organizationWithdrawalRow (userId organizationId walletId : Id) (dto : WithdrawalRequestDto)
    (destination : PayoutDestination) (new : NewWithdrawal) : Withdrawal :=
  withdrawalRow userId walletId dto calculateOrganizationWithdrawalCharges
    { type := .organization, organizationId := some organizationId,
      payoutDestinationId := some destination.id,
      charges := calculateOrganizationWithdrawalCharges } new ("ORG_WTH_" ++ new.reference)

/-- The request settles at once: the requester administers the organisation. -/
def requestOrganizationWithdrawal (config : FeeConfig) (userId organizationId : Id)
    (dto : WithdrawalRequestDto) (new : NewWithdrawal) (settlement : NewSettlement) :
    Action Unit := do
  assertOrganizationAdminScope userId organizationId
  let wallet ← getOrCreateWallet (.organization organizationId) new.walletId
  let bankAccount ← getBankAccountById dto.bankAccountId userId
  ensure bankAccount.bankCode.isSome (.badRequest "Bank code is required for payouts")
  let destination ← ensurePayoutDestination bankAccount
  transaction (holdForWithdrawal config (some ORGANIZATION_WITHDRAWAL_FEE)
    (organizationWithdrawalRow userId organizationId wallet.id dto destination new) new.holdId
    (withdrawalReason new.withdrawalId))
  invalidateWalletCache (.organization organizationId)
  settleWithdrawal new.withdrawalId settlement

/-- The row of a platform withdrawal. -/
def platformWithdrawalRow (userId walletId : Id) (dto : WithdrawalRequestDto)
    (destination : PayoutDestination) (new : NewWithdrawal) : Withdrawal :=
  withdrawalRow userId walletId dto calculatePlatformWithdrawalCharges
    { type := .platform, payoutDestinationId := some destination.id,
      charges := calculatePlatformWithdrawalCharges } new ("PLATFORM_WTH_" ++ new.reference)

/-- The request is approved at once, by the admin who made it. -/
def requestPlatformWithdrawal (config : FeeConfig) (userId : Id) (dto : WithdrawalRequestDto)
    (new : NewWithdrawal) (settlement : NewSettlement) : Action Unit := do
  requirePlatformAdmin userId "Only platform admins can request platform withdrawals"
  let wallet ← getOrCreateWallet .platform new.walletId
  let bankAccount ← getBankAccountById dto.bankAccountId userId
  let destination ← ensurePayoutDestination bankAccount
  transaction do
    holdForWithdrawal config (some BACHS_PAYOUT_FEE)
      (platformWithdrawalRow userId wallet.id dto destination new) new.holdId
      (platformWithdrawalReason new.withdrawalId)
    exec (.createRecord .activityLog)
    invalidateWalletCache .platform
  approvePlatformWithdrawal new.withdrawalId userId true settlement

/-! ## Rejection -/

/-- The wallet cache that a rejected withdrawal clears. -/
def rejectedOwner (w : Withdrawal) (wallet : Wallet) : WalletOwner :=
  match wallet.organizationId with
  | some organizationId => .organization organizationId
  | none => if wallet.isPlatformWallet then .platform else .user w.userId

def rejectUserWithdrawal (withdrawalId adminUserId : Id) : Action Unit := do
  requirePlatformAdmin adminUserId "Only platform admins can reject withdrawals"
  transaction do
    let withdrawal ← query fun d => d.withdrawals.find withdrawalId
    let withdrawal ← orThrow withdrawal (.notFound "Withdrawal not found")
    let wallet ← query fun d => d.wallets.find withdrawal.walletId
    let wallet ← orThrow wallet inconsistentQueryResult
    ensure (withdrawal.status = .pending) (.badRequest "Withdrawal is not pending")
    exec (.updateWithdrawal withdrawal failed)
    exec (.releaseWalletHolds withdrawal.walletId withdrawalId.chars)
    exec (.updateWallet withdrawal.walletId .keep
      (.floor wallet.heldBalance (-withdrawal.totalAmount)))
    exec (.createRecord .activityLog)
    notifyUser withdrawal.userId
    invalidateWalletCache (rejectedOwner withdrawal wallet)

/-! ## What these functions commit -/

/-- A withdrawal as it is requested. -/
structure Requested (w : Withdrawal) (id : Id) (amount fee : Int) : Prop where
  id_eq : w.id = id
  amount_eq : w.amount = amount
  fee_eq : w.fee = fee
  min_amount : 100 ≤ amount
  fee_nonneg : 0 ≤ fee
  pending : w.status = .pending
  noJournal : w.journalEntryId = none
  noPayout : w.providerPayoutId = none
  unallocated : w.metadata.platformFeeAllocatedAt = none

/-- The reason of a withdrawal's hold. -/
def holdReason (w : Withdrawal) : List Char :=
  match w.metadata.type with
  | .platform => platformWithdrawalReason w.id
  | _ => withdrawalReason w.id

/-- The statements that hold a withdrawal's amount on its wallet, read as `v`. -/
def holdWrites (w : Withdrawal) (v : Wallet) (holdId : Id) : List Stmt :=
  [.lockWallet v.id v.balance v.heldBalance, .createWithdrawal w,
    .createWalletHold (holdRow holdId w (holdReason w)),
    .updateWallet w.walletId .keep (.add w.totalAmount)]

/-- The transaction of a request. -/
inductive RequestTx (id : Id) (amount fee : Int) : List Stmt → Prop where
  | mk (w : Withdrawal) (v : Wallet) (holdId : Id) (records : List AuditTable)
      (requested : Requested w id amount fee) (hv : v.id = w.walletId)
      (covered : w.totalAmount ≤ v.balance - v.heldBalance) :
    RequestTx id amount fee (holdWrites w v holdId ++ records.map .createRecord)

/-- The transaction of a rejection. -/
inductive RejectTx (id : Id) : List Stmt → Prop where
  | mk (w : Withdrawal) (v : Wallet) (hw : w.id = id) (hv : v.id = w.walletId)
      (pending : w.status = .pending) :
    RejectTx id [.updateWithdrawal w failed, .releaseWalletHolds w.walletId w.id.chars,
      .updateWallet w.walletId .keep (.floor v.heldBalance (-w.totalAmount)),
      .createRecord .activityLog]

/-- The transactions of a request that is settled at once. -/
inductive RequestAndSettleTx (k : Settlement) (id : Id) (amount fee : Int) (new : NewSettlement) :
    List Stmt → Prop where
  | request {F : List Stmt} (h : RequestTx id amount fee F) :
    RequestAndSettleTx k id amount fee new F
  | settlement {F : List Stmt} (h : SettlementTx k id new F) :
    RequestAndSettleTx k id amount fee new F

theorem adds_holdForWithdrawal {P : FinanceEvent → Prop} (config : FeeConfig)
    (fixedFee : Option Int) (w : Withdrawal) (holdId : Id) {reason : List Char}
    (hreason : reason = holdReason w) :
    Adds P (holdForWithdrawal config fixedFee w holdId reason) fun _ F => ∃ v : Wallet,
      v.id = w.walletId ∧ w.totalAmount ≤ v.balance - v.heldBalance ∧ F = holdWrites w v holdId := by
  subst hreason
  refine Adds.bind (G := fun o F => ∀ v, o = some v → v.id = w.walletId ∧
    F = [.lockWallet v.id v.balance v.heldBalance]) ?_ fun o F ho => ?_
  · refine .query_bind fun d => ?_
    cases h : d.wallets.find w.walletId with
    | none => exact .ret fun _ hv => by cases hv
    | some v =>
      refine .exec_bind <| .ret fun _ hv => ?_
      obtain rfl := Option.some.inj hv
      exact ⟨Store.Table.find_key h, rfl⟩
  refine .orThrow_bind fun v hv => .ensure_bind fun covered => ?_
  obtain ⟨hid, rfl⟩ := ho v hv
  exact .exec_bind <| .exec_bind <| .exec ⟨v, hid, covered, rfl⟩

section

variable {P : FinanceEvent → Prop} [Includes Setup P]

theorem makes_getBankAccountById (id userId : Id) :
    Makes P (getBankAccountById id userId) fun _ => True :=
  (makes_outside _).bind fun _ _ => (makes_orThrow _ _).bind fun _ _ =>
    (Makes.ensure _).bind fun _ _ => .ret trivial

theorem makes_ensurePayoutDestination (bankAccount : BankAccount) :
    Makes P (ensurePayoutDestination bankAccount) fun _ => True := by
  refine (Makes.ensure _).bind fun _ _ => Makes.bind (S := fun _ => True) ?_ fun destination _ => ?_
  · unfold ensurePayoutDestination.fetch
    split <;> exact makes_request fun _ _ => nofun
  · exact (Makes.statement fun _ => setup (.updateBankAccount _ _)).bind fun _ _ =>
      (makes_request (c := Call.cacheDeleteKey _) fun _ _ => nofun).bind fun _ _ =>
        (Makes.ensure _).bind fun _ _ => .ret trivial

theorem makes_assertOrganizationAdminScope (userId organizationId : Id) :
    Makes P (assertOrganizationAdminScope userId organizationId) fun _ => True :=
  (makes_outside _).bind fun _ _ => (makes_outside _).bind fun _ _ =>
    (makes_orThrow _ _).bind fun _ _ => (Makes.ensure _).mono (fun _ h => h) fun _ _ => trivial

theorem makes_notifyPlatformAdmins : Makes P notifyPlatformAdmins fun _ => True :=
  (makes_outside _).bind fun _ _ => Makes.forEach fun _ _ =>
    (Makes.statement fun nested => quiet (.record nested _)).bind fun _ _ => makes_sendEmail

end

/-- The fee of a user withdrawal. -/
def userFee (config : FeeConfig) (dto : WithdrawalRequestDto) : Int :=
  (calculateWithdrawalCharges config dto.amount).fee

theorem userFee_nonneg (config : FeeConfig) (dto : WithdrawalRequestDto) :
    0 ≤ userFee config dto :=
  calculateWithdrawalCharges_fee_nonneg config (by have := dto.min_amount; omega)

theorem makes_requestUserWithdrawal (config : FeeConfig) (userId : Id)
    (dto : WithdrawalRequestDto) (new : NewWithdrawal) :
    Makes (Emits Setup (RequestTx new.withdrawalId dto.amount (userFee config dto)))
      (requestUserWithdrawal config userId dto new) fun _ => True := by
  refine (makes_getOrCreateWallet _ _).bind fun v _ => ?_
  refine (makes_getBankAccountById _ _).bind fun bankAccount _ => ?_
  refine (makes_ensurePayoutDestination _).bind fun destination _ => ?_
  refine .transaction (G := fun _ F => RequestTx new.withdrawalId dto.amount (userFee config dto) F)
    ?_ fun nested _ F hF => ⟨.tx nested hF, trivial⟩
  refine (adds_holdForWithdrawal config _ _ _ rfl).bind fun _ F ⟨v, hv, covered, hF⟩ => ?_
  subst hF
  refine .exec_bind <| .makes_bind makes_notifyPlatformAdmins fun _ _ =>
    .of_makes (makes_invalidateWalletCache _) fun _ _ => ?_
  exact .mk _ v new.holdId [.activityLog]
    ⟨rfl, rfl, rfl, dto.min_amount, userFee_nonneg config dto, rfl, rfl, rfl, rfl⟩ hv covered

theorem makes_requestOrganizationWithdrawal (config : FeeConfig) (userId organizationId : Id)
    (dto : WithdrawalRequestDto) (new : NewWithdrawal) (settlement : NewSettlement) :
    Makes (Emits (Pays new.withdrawalId) (RequestAndSettleTx userSettlement new.withdrawalId
        dto.amount ORGANIZATION_WITHDRAWAL_FEE settlement))
      (requestOrganizationWithdrawal config userId organizationId dto new settlement)
      fun _ => True := by
  refine (makes_assertOrganizationAdminScope _ _).bind fun _ _ => ?_
  refine (makes_getOrCreateWallet _ _).bind fun v _ => ?_
  refine (makes_getBankAccountById _ _).bind fun bankAccount _ => ?_
  refine (Makes.ensure _).bind fun _ _ => ?_
  refine (makes_ensurePayoutDestination _).bind fun destination _ => ?_
  refine Makes.bind (S := fun _ => True) (.transaction
    (G := fun _ F => RequestTx new.withdrawalId dto.amount ORGANIZATION_WITHDRAWAL_FEE F)
    ?_ fun nested _ F hF => ⟨.tx nested (.request hF), trivial⟩) fun _ _ => ?_
  · refine (adds_holdForWithdrawal config _ _ _ rfl).mono fun _ F ⟨v, hv, covered, hF⟩ => ?_
    subst hF
    rw [← List.append_nil (holdWrites _ _ _)]
    exact .mk _ v new.holdId []
      ⟨rfl, rfl, rfl, dto.min_amount, by decide, rfl, rfl, rfl, rfl⟩ hv covered
  · exact (makes_invalidateWalletCache _).bind fun _ _ =>
      (makes_settleWithdrawal _ _).mono (fun _ => .mono fun _ => .settlement) fun _ h => h

theorem makes_requestPlatformWithdrawal (config : FeeConfig) (userId : Id)
    (dto : WithdrawalRequestDto) (new : NewWithdrawal) (settlement : NewSettlement) :
    Makes (Emits (Pays new.withdrawalId) (RequestAndSettleTx (platformSettlement userId true)
        new.withdrawalId dto.amount BACHS_PAYOUT_FEE settlement))
      (requestPlatformWithdrawal config userId dto new settlement) fun _ => True := by
  refine (makes_requirePlatformAdmin _ _).bind fun _ _ => ?_
  refine (makes_getOrCreateWallet _ _).bind fun v _ => ?_
  refine (makes_getBankAccountById _ _).bind fun bankAccount _ => ?_
  refine (makes_ensurePayoutDestination _).bind fun destination _ => ?_
  refine Makes.bind (S := fun _ => True) (.transaction
    (G := fun _ F => RequestTx new.withdrawalId dto.amount BACHS_PAYOUT_FEE F)
    ?_ fun nested _ F hF => ⟨.tx nested (.request hF), trivial⟩) fun _ _ => ?_
  · refine (adds_holdForWithdrawal config _ _ _ rfl).bind fun _ F ⟨v, hv, covered, hF⟩ => ?_
    subst hF
    refine .exec_bind <| .of_makes (makes_invalidateWalletCache _) fun _ _ => ?_
    exact .mk _ v new.holdId [.activityLog]
      ⟨rfl, rfl, rfl, dto.min_amount, by decide, rfl, rfl, rfl, rfl⟩ hv covered
  · exact (makes_approvePlatformWithdrawal _ _ _ _).mono (fun _ => .mono fun _ => .settlement)
      fun _ h => h

theorem makes_rejectUserWithdrawal (id adminUserId : Id) :
    Makes (Emits Quiet (RejectTx id)) (rejectUserWithdrawal id adminUserId) fun _ => True := by
  refine (makes_requirePlatformAdmin _ _).bind fun _ _ => ?_
  refine .transaction (G := fun _ F => RejectTx id F) ?_ fun nested _ F hF => ⟨.tx nested hF, trivial⟩
  refine .query_bind fun d => .orThrow_bind fun w hw => .query_bind fun d' =>
    .orThrow_bind fun v hv => .ensure_bind fun pending => ?_
  obtain rfl := Store.Table.find_key hw
  exact .exec_bind <| .exec_bind <| .exec_bind <| .exec_bind <|
    .makes_bind (makes_notifyUser _) fun _ _ =>
      .of_makes (makes_invalidateWalletCache _) fun _ _ =>
        .mk w v rfl (Store.Table.find_key hv) pending

end Heightt.FinanceService
