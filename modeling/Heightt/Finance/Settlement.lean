import Heightt.Finance.Transfers

/-!
# FinanceService: settlement and payout of withdrawals

A settlement marks a pending withdrawal as processing, posts its journal entry,
releases its hold and debits the wallet; then the payout is submitted to the
provider and what the provider answered is recorded. When the submission fails,
the withdrawal is compensated. User and organisation withdrawals on the one hand
and platform withdrawals on the other are settled by two functions that differ
in their texts and in the check of the approver (`Settlement`).
-/

namespace Heightt

/-- The amount a withdrawal takes from its wallet. -/
def Withdrawal.totalAmount (w : Withdrawal) : Int := w.amount + w.fee

namespace FinanceService

open ReadCommitted Prog WalletService LedgerService

/-- `admin.findFirst` of an active platform admin. -/
def requirePlatformAdmin (userId : Id) (message : String) : Action Unit := do
  let isPlatformAdmin ← outside fun d =>
    d.admins.any fun a => a.userId = userId ∧ a.adminType = .platformAdmin
  ensure isPlatformAdmin (.forbidden message)

/-- The e-mail is sent in the background; its errors are logged. -/
def notifyUser (userId : Id) : Action Unit := do
  let user ← outside fun d => d.users.find? (· = userId)
  whenSome user fun _ => do
    statement (.createRecord .notification)
    attempt EmailService.sendEmail

/-- The identifiers and times that a settlement and its payout get. -/
structure NewSettlement where
  now : Nat
  entry : NewEntry
  allocation : NewEntry
  platformWalletId : Id
  deriving DecidableEq

/-- Prisma's error when a required relation that is included has no row. -/
def inconsistentQueryResult : Failure :=
  .error "Inconsistent query result: Field wallet is required to return data, got `null` instead."

/-- What `settleWithdrawal` and `approvePlatformWithdrawal` differ in. -/
structure Settlement where
  /-- The text the hold is found by. -/
  reason : Id → List Char
  description : String
  inTransit : String
  outgoing : String
  /-- The approver may not settle this withdrawal. -/
  selfApproval : Withdrawal → Bool

namespace Settlement

def journalLines (k : Settlement) (clearing : AccountId) (w : Withdrawal) (wallet : Wallet) :
    List JournalLine :=
  [{ ledgerAccountId := clearing, type := .debit, amount := w.totalAmount,
     description := k.inTransit },
   { ledgerAccountId := wallet.ledgerAccountId, type := .credit, amount := w.totalAmount,
     description := k.outgoing }]

def journalData (k : Settlement) (clearing : AccountId) (w : Withdrawal) (wallet : Wallet) :
    JournalData where
  lines := k.journalLines clearing w wallet
  description := k.description ++ String.ofList w.id.chars
  withdrawalId := some w.id

end Settlement

/-- An entry that is already there has the lines a settlement would post. -/
def matchesExpectedLines (existing : JournalEntry) (lines : List JournalLine) : Prop :=
  existing.status = .posted ∧ existing.isBalanced ∧ existing.lines.length = lines.length ∧
    ∀ expected ∈ lines, ∃ actual ∈ existing.lines,
      actual.ledgerAccountId = expected.ledgerAccountId ∧ actual.type = expected.type ∧
        actual.amount = expected.amount

instance (existing : JournalEntry) (lines : List JournalLine) :
    Decidable (matchesExpectedLines existing lines) :=
  inferInstanceAs (Decidable (_ ∧ _ ∧ _ ∧ _))

def createOrReuseWithdrawalJournal (data : JournalData) (new : NewEntry) : Action JournalEntry := do
  let existing ← query fun d =>
    d.journalEntries.findFirst fun e => e.withdrawalId = data.withdrawalId
  match existing with
  | none => createJournalEntry data new true
  | some existing =>
    ensure (matchesExpectedLines existing data.lines) (.conflict
      "The withdrawal has an existing journal entry that requires manual reconciliation")
    pure existing

/-- `status: PROCESSING` -/
def processing (now : Nat) : WithdrawalPatch where
  status := some .processing
  processedAt := some now

/-- The transaction of a settlement. The wallet is read after its withdrawal. -/
def settlementTransaction (k : Settlement) (withdrawalId : Id) (clearing : AccountId)
    (new : NewSettlement) : Action Withdrawal := do
  let withdrawal ← query fun d => d.withdrawals.find withdrawalId
  let withdrawal ← orThrow withdrawal (.notFound "Withdrawal not found")
  let wallet ← query fun d => d.wallets.find withdrawal.walletId
  let wallet ← orThrow wallet inconsistentQueryResult
  ensure (withdrawal.status = .pending) (.badRequest "Withdrawal is not pending")
  ensure (k.selfApproval withdrawal = false)
    (.badRequest "You cannot approve your own withdrawal request")
  exec (.updateWithdrawal withdrawal (processing new.now))
  let journalEntry ← createOrReuseWithdrawalJournal (k.journalData clearing withdrawal wallet)
    new.entry
  exec (.updateWithdrawal ((processing new.now).apply withdrawal)
    { journalEntry := some journalEntry })
  exec (.releaseWalletHolds withdrawal.walletId (k.reason withdrawalId))
  exec (.updateWallet withdrawal.walletId (.set wallet.balance (-withdrawal.totalAmount))
    (.floor wallet.heldBalance (-withdrawal.totalAmount)))
  exec (.createRecord .activityLog)
  pure ((processing new.now).apply withdrawal)

/-! ## The payout -/

/-- `metadata.charges?.providerFee || withdrawal.fee`, unless the provider tells its fee. -/
def providerFee (w : Withdrawal) (payout : Payout) : Int :=
  match payout.fee with
  | some fee => BachsClient.fromBachsAmount fee
  | none => if w.metadata.charges.providerFee.getD 0 = 0 then w.fee
      else w.metadata.charges.providerFee.getD 0

/-- Heightt's share of an organisation withdrawal fee. -/
def platformShare (w : Withdrawal) (payout : Payout) : Int :=
  if w.metadata.type = .organization then max 0 (w.fee - providerFee w payout) else 0

def feeDifference (w : Withdrawal) (payout : Payout) : Int := providerFee w payout - w.fee

def allocationData (w : Withdrawal) (payout : Payout) (platformWallet : Wallet) : JournalData where
  lines :=
    [{ ledgerAccountId := platformWallet.ledgerAccountId, type := .debit,
       amount := platformShare w payout, description := "Organization withdrawal platform fee" },
     { ledgerAccountId := .system .bankClearing, type := .credit,
       amount := platformShare w payout,
       description := "Organization withdrawal platform fee allocation" }]
  description := platformFeeDescription w.id

/-- Post Heightt's share to the platform wallet and its account. -/
def allocatePlatformFee (w : Withdrawal) (payout : Payout) (platformWallet : Wallet)
    (new : NewEntry) : Action (Option Id) := do
  let clearing ← query fun d => d.ledgerAccounts.find (.system .bankClearing)
  let _ ← orThrow clearing (.error "Payout fee allocation accounts are unavailable")
  let feeEntry ← createJournalEntry (allocationData w payout platformWallet) new true
  exec (.updateWallet platformWallet.id (.add (platformShare w payout)) .keep)
  pure (some feeEntry.id)

/-- Charge the wallet what the provider's fee differs from the fee that was held. -/
def chargeFeeDifference (w : Withdrawal) (payout : Payout) : Action (Option Id) := do
  exec (.updateWallet w.walletId (.add (-feeDifference w payout)) .keep)
  let wallet ← query fun d => d.wallets.find w.walletId
  whenSome wallet fun v =>
    exec (.updateLedgerAccount v.ledgerAccountId (.add (-feeDifference w payout)))
  addToSystemAccount .bankClearing (feeDifference w payout)
  whenSome w.journalEntryId fun id =>
    exec (.updateJournalLines id (w.amount + providerFee w payout))
  pure none

/-- What is recorded of an accepted payout. -/
def payoutPatch (w : Withdrawal) (payout : Payout) (feeEntry : Option Id) (now : Nat) :
    WithdrawalPatch :=
  if w.metadata.type = .organization then
    { fee := some w.fee
      providerPayoutId := some payout.id
      metadata := some { w.metadata with
        charges := { w.metadata.charges with
          fee := w.fee, platformFee := some (platformShare w payout),
          providerFee := some (providerFee w payout) }
        platformFeeAllocatedAt := w.metadata.platformFeeAllocatedAt.or (some now)
        platformFeeJournalEntryId := feeEntry.or w.metadata.platformFeeJournalEntryId } }
  else
    { fee := some (providerFee w payout)
      providerPayoutId := some payout.id
      metadata := some w.metadata }

/-- The transaction that records an accepted payout. -/
def recordPayout (w : Withdrawal) (payout : Payout) (platformWallet : Option Wallet)
    (new : NewSettlement) : Action Unit := do
  let feeEntry ← postFees (platformWallet.filter fun _ => w.metadata.platformFeeAllocatedAt.isNone)
  exec (.updateWithdrawal w (payoutPatch w payout feeEntry new.now))
where
  postFees : Option Wallet → Action (Option Id)
    | some platformWallet => allocatePlatformFee w payout platformWallet new.allocation
    | none =>
      if w.metadata.type ≠ .organization ∧ feeDifference w payout ≠ 0 then
        chargeFeeDifference w payout
      else pure none

def payoutRequest (w : Withdrawal) (destination : String) : PayoutRequest where
  destination := destination
  amount := w.amount
  reference := w.reference
  withdrawalId := w.id

/-- Submit the payout and record what the provider answered. -/
def submitPayout (withdrawalId : Id) (new : NewSettlement) : Action Unit := do
  let withdrawal ← outside fun d => d.withdrawals.find withdrawalId
  let withdrawal ← orThrow withdrawal (.notFound "Withdrawal not found")
  let destination ← orThrow withdrawal.metadata.payoutDestinationId
    (.badRequest "Withdrawal has no approved payout destination")
  let payout ← BachsClient.createPayout (payoutRequest withdrawal destination) withdrawal.id
  ensure (payout.status.refused = false) (.badRequest "Payout provider refused the payout")
  let platformWallet ← walletFor (platformShare withdrawal payout)
  transaction (recordPayout withdrawal payout platformWallet new)
  when (0 < platformShare withdrawal payout) (invalidateWalletCache .platform)
where
  walletFor (share : Int) : Action (Option Wallet) :=
    if 0 < share then do
      let wallet ← getOrCreateWallet .platform new.platformWalletId
      pure (some wallet)
    else pure none

/-- Put the amount and the fee back: to the wallet's account, out of the clearing
account, and mark the journal entry. -/
def refundLedger (w : Withdrawal) : Action Unit := do
  exec (.updateLedgerAccount (.wallet w.walletId) (.add w.totalAmount))
  addToSystemAccount .bankClearing (-w.totalAmount)

def markReversed (w : Withdrawal) : Action Unit :=
  whenSome w.journalEntryId fun id => exec (.updateJournalEntry id .reversed)

def failed : WithdrawalPatch where
  status := some .failed

/-- A withdrawal whose submission is undone: in processing, and no payout recorded. -/
def needsCompensation (w : Withdrawal) : Bool :=
  w.status = .processing && w.providerPayoutId.isNone

def compensateFailedPayoutSubmission (withdrawalId : Id) : Action Unit :=
  transaction do
    let withdrawal ← query fun d => d.withdrawals.find withdrawalId
    whenSome (withdrawal.filter needsCompensation) fun w => do
      exec (.updateWithdrawal w failed)
      exec (.updateWallet w.walletId (.add w.totalAmount) .keep)
      refundLedger w
      markReversed w
      reverseOrganizationWithdrawalPlatformFee w

def triggerWithdrawalTransfer (withdrawalId : Id) (new : NewSettlement) : Action Unit :=
  (submitPayout withdrawalId new).onThrow fun _ => do
    compensateFailedPayoutSubmission withdrawalId
    throw (.payoutSubmissionFailed withdrawalId)

/-! ## The two settlements -/

/-- The transaction, the payout and the notification of a settlement. -/
def settle (k : Settlement) (withdrawalId : Id) (owner : Withdrawal → WalletOwner)
    (new : NewSettlement) : Action Unit := do
  let clearing ← getOrCreateBankClearingAccount
  let approvedWithdrawal ← transaction (settlementTransaction k withdrawalId clearing new)
  triggerWithdrawalTransfer withdrawalId new
  notifyUser approvedWithdrawal.userId
  invalidateWalletCache (owner approvedWithdrawal)
  let _ ← outside fun d => d.withdrawals.find withdrawalId
  pure ()

/-- Settlement of user and organisation withdrawals. -/
def userSettlement : Settlement where
  reason := withdrawalReason
  description := "Withdrawal #"
  inTransit := "Withdrawal in transit"
  outgoing := "Withdrawal"
  selfApproval := fun _ => false

/-- Settlement of platform withdrawals by an admin. -/
def platformSettlement (adminUserId : Id) (allowSelfApproval : Bool) : Settlement where
  reason := platformWithdrawalReason
  description := "Platform withdrawal #"
  inTransit := "Platform withdrawal in transit"
  outgoing := "Platform withdrawal"
  selfApproval := fun w =>
    w.userId = adminUserId && w.metadata.type = .platform && !allowSelfApproval

/-- The wallet cache that a settled withdrawal clears. -/
def settledOwner (w : Withdrawal) : WalletOwner :=
  match w.metadata.organizationId with
  | some organizationId => .organization organizationId
  | none => .user w.userId

def settleWithdrawal (withdrawalId : Id) (new : NewSettlement) : Action Unit :=
  settle userSettlement withdrawalId settledOwner new

def approveUserWithdrawal (withdrawalId adminUserId : Id) (new : NewSettlement) : Action Unit := do
  requirePlatformAdmin adminUserId "Only platform admins can approve withdrawals"
  settleWithdrawal withdrawalId new

def approvePlatformWithdrawal (withdrawalId adminUserId : Id) (allowSelfApproval : Bool)
    (new : NewSettlement) : Action Unit := do
  requirePlatformAdmin adminUserId "Only platform admins can approve platform withdrawals"
  settle (platformSettlement adminUserId allowSelfApproval) withdrawalId (fun _ => .platform) new

/-! ## What these functions commit -/

/-- The entry of a settlement is posted, or one that matches is reused. -/
inductive SettlementJournal (data : JournalData) (new : NewEntry) :
    JournalEntry → List Stmt → Prop where
  | posted {J : List Stmt} (h : Journal data new J) :
    SettlementJournal data new (data.posted new) J
  | reused {e : JournalEntry} (h : e.withdrawalId = data.withdrawalId)
      (matching : matchesExpectedLines e data.lines) : SettlementJournal data new e []

/-- The statements of a settlement around those of its journal entry. -/
def settlementWrites (k : Settlement) (now : Nat) (w : Withdrawal) (v : Wallet) (e : JournalEntry)
    (J : List Stmt) : List Stmt :=
  .updateWithdrawal w (processing now) ::
    (J ++ [.updateWithdrawal ((processing now).apply w) { journalEntry := some e },
      .releaseWalletHolds w.walletId (k.reason w.id),
      .updateWallet w.walletId (.set v.balance (-w.totalAmount))
        (.floor v.heldBalance (-w.totalAmount)),
      .createRecord .activityLog])

/-- The statements that charge a fee difference: to the wallet, to its account
and the clearing account if they are found, and to the lines of its entry. -/
def chargeWrites (w : Withdrawal) (payout : Payout) (wallet clearing : Bool) : List Stmt :=
  .updateWallet w.walletId (.add (-feeDifference w payout)) .keep ::
    ((if wallet then
        [.updateLedgerAccount (.wallet w.walletId) (.add (-feeDifference w payout))] else []) ++
      (systemAccountWrites clearing .bankClearing (feeDifference w payout) ++
        (w.journalEntryId.toList.map fun id =>
          .updateJournalLines id (w.amount + providerFee w payout))))

def refundWrites (w : Withdrawal) (clearing : Bool) : List Stmt :=
  .updateLedgerAccount (.wallet w.walletId) (.add w.totalAmount) ::
    systemAccountWrites clearing .bankClearing (-w.totalAmount)

def reversedWrites (w : Withdrawal) : List Stmt :=
  w.journalEntryId.toList.map fun id => .updateJournalEntry id .reversed

/-- The events around the transactions of a settlement: those that set things up,
and calls that create the payout of withdrawal `id`. -/
inductive Pays (id : Id) : FinanceEvent → Prop where
  | setup {ev : FinanceEvent} (h : Setup ev) : Pays id ev
  | answered (request : PayoutRequest) (h : request.withdrawalId = id) (r : Payout) :
    Pays id (.answered (.createPayout request id) r)
  | failed (request : PayoutRequest) (h : request.withdrawalId = id) :
    Pays id (.failed (.createPayout request id))

instance (id : Id) : Includes Setup (Pays id) := ⟨fun _ => .setup⟩

/-- The transactions of a settlement of withdrawal `id` and of its payout. -/
inductive SettlementTx (k : Settlement) (id : Id) (new : NewSettlement) : List Stmt → Prop where
  | settle (w : Withdrawal) (v : Wallet) (e : JournalEntry) (J : List Stmt) (hw : w.id = id)
      (hv : v.id = w.walletId) (pending : w.status = .pending)
      (approver : k.selfApproval w = false)
      (journal : SettlementJournal (k.journalData (.system .bankClearing) w v) new.entry e J) :
    SettlementTx k id new (settlementWrites k new.now w v e J)
  | allocate (w : Withdrawal) (payout : Payout) (p : Wallet) (J : List Stmt) (hw : w.id = id)
      (share : 0 < platformShare w payout) (unallocated : w.metadata.platformFeeAllocatedAt = none)
      (journal : Journal (allocationData w payout p) new.allocation J) :
    SettlementTx k id new (J ++ [.updateWallet p.id (.add (platformShare w payout)) .keep,
      .updateWithdrawal w (payoutPatch w payout (some new.allocation.id) new.now)])
  | charge (w : Withdrawal) (payout : Payout) (wallet clearing : Bool) (hw : w.id = id)
      (type : w.metadata.type ≠ .organization) :
    SettlementTx k id new (chargeWrites w payout wallet clearing ++
      [.updateWithdrawal w (payoutPatch w payout none new.now)])
  | record (w : Withdrawal) (payout : Payout) (hw : w.id = id)
      (unshared : platformShare w payout ≤ 0 ∨ w.metadata.platformFeeAllocatedAt.isSome)
      (equal : w.metadata.type ≠ .organization → feeDifference w payout = 0) :
    SettlementTx k id new [.updateWithdrawal w (payoutPatch w payout none new.now)]
  | compensate (w : Withdrawal) (clearing : Bool) (R : List Stmt) (hw : w.id = id)
      (needed : w.status = .processing ∧ w.providerPayoutId = none) (reversal : FeeReversal w R) :
    SettlementTx k id new (.updateWithdrawal w failed ::
      .updateWallet w.walletId (.add w.totalAmount) .keep ::
      (refundWrites w clearing ++ (reversedWrites w ++ R)))

section

variable {P : FinanceEvent → Prop}

theorem adds_createOrReuseWithdrawalJournal (data : JournalData) (new : NewEntry) :
    Adds P (createOrReuseWithdrawalJournal data new) fun e J =>
      SettlementJournal data new e J := by
  refine .query_bind fun d => ?_
  cases hd : d.journalEntries.findFirst fun e => e.withdrawalId = data.withdrawalId with
  | none =>
    exact (adds_createJournalEntry data new).mono fun e J ⟨he, _, hJ⟩ => he ▸ .posted hJ
  | some e =>
    have found : e.withdrawalId = data.withdrawalId := by
      simpa using List.find?_some hd
    exact .ensure_bind fun matching => .ret (.reused found matching)

theorem adds_settlementTransaction (k : Settlement) (id : Id) (new : NewSettlement) :
    Adds P (settlementTransaction k id (.system .bankClearing) new) fun _ F =>
      SettlementTx k id new F := by
  refine .query_bind fun d => .orThrow_bind fun w hw => .query_bind fun d' =>
    .orThrow_bind fun v hv => .ensure_bind fun pending => .ensure_bind fun approver => ?_
  obtain rfl := Store.Table.find_key hw
  exact .exec_bind <| (adds_createOrReuseWithdrawalJournal _ _).bind fun e J journal =>
    .exec_bind <| .exec_bind <| .exec_bind <| .exec_bind <| .ret <|
      .settle w v e J rfl (Store.Table.find_key hv) pending approver journal

theorem adds_chargeFeeDifference (w : Withdrawal) (payout : Payout) :
    Adds P (chargeFeeDifference w payout) fun id F =>
      id = none ∧ ∃ wallet clearing, F = chargeWrites w payout wallet clearing := by
  refine .exec_bind <| .query_bind fun d => ?_
  refine Adds.bind (G := fun _ F => ∃ wallet : Bool, F = if wallet then
    [Stmt.updateLedgerAccount (.wallet w.walletId) (.add (-feeDifference w payout))] else [])
    ?_ fun _ F hF => ?_
  · cases h : d.wallets.find w.walletId with
    | none => exact .ret ⟨false, rfl⟩
    | some v =>
      refine .exec ⟨true, ?_⟩
      rw [Wallet.ledgerAccountId, Store.Table.find_key h]
      rfl
  obtain ⟨wallet, rfl⟩ := hF
  refine (adds_addToSystemAccount _ _).bind fun _ F hF => Adds.whenSome_exec.bind fun _ F' hF' => ?_
  obtain ⟨clearing, rfl⟩ := hF
  subst hF'
  exact .ret ⟨rfl, wallet, clearing, by simp [chargeWrites]⟩

theorem adds_allocatePlatformFee (w : Withdrawal) (payout : Payout) (p : Wallet) (new : NewEntry) :
    Adds P (allocatePlatformFee w payout p new) fun id F => id = some new.id ∧
      ∃ J, Journal (allocationData w payout p) new J ∧
        F = J ++ [.updateWallet p.id (.add (platformShare w payout)) .keep] :=
  .query_bind fun _ => .orThrow_bind fun _ _ => (adds_createJournalEntry _ _).bind
    fun e J ⟨he, _, hJ⟩ => .exec_bind <| .ret ⟨by rw [he]; rfl, J, hJ, rfl⟩

theorem adds_recordPayout (k : Settlement) (w : Withdrawal) (payout : Payout) (p : Option Wallet)
    (new : NewSettlement) (hp : p.isSome ↔ 0 < platformShare w payout) :
    Adds P (recordPayout w payout p new) fun _ F => SettlementTx k w.id new F := by
  unfold recordPayout recordPayout.postFees
  cases hfilter : p.filter fun _ => w.metadata.platformFeeAllocatedAt.isNone with
  | some v =>
    obtain ⟨rfl, unallocated⟩ := Option.filter_eq_some_iff.1 hfilter
    refine (adds_allocatePlatformFee w payout v _).bind fun id F ⟨hid, J, hJ, hF⟩ => .exec ?_
    subst hid hF
    rw [List.append_assoc]
    exact .allocate w payout v J rfl (hp.1 rfl) (by simpa using unallocated) hJ
  | none =>
    have unshared : platformShare w payout ≤ 0 ∨ w.metadata.platformFeeAllocatedAt.isSome := by
      cases p with
      | none => exact .inl (by simpa using hp)
      | some v => exact .inr (by simpa [Option.isSome_iff_ne_none] using hfilter)
    dsimp only
    split_ifs with h
    · refine (adds_chargeFeeDifference w payout).bind fun id F ⟨hid, wallet, clearing, hF⟩ =>
        .exec ?_
      subst hid hF
      exact .charge w payout wallet clearing rfl h.1
    · exact Adds.bind (G := fun id F => id = none ∧ F = []) (.ret ⟨rfl, rfl⟩)
        fun id F ⟨hid, hF⟩ => hid ▸ hF ▸ .exec (.record w payout rfl unshared (by tauto))

theorem adds_refundLedger (w : Withdrawal) :
    Adds P (refundLedger w) fun _ F => ∃ clearing, F = refundWrites w clearing :=
  .exec_bind <| (adds_addToSystemAccount _ _).mono fun _ _ ⟨clearing, hF⟩ => ⟨clearing, hF ▸ rfl⟩

theorem adds_markReversed (w : Withdrawal) :
    Adds P (markReversed w) fun _ F => F = reversedWrites w := Adds.whenSome_exec

theorem makes_compensateFailedPayoutSubmission (k : Settlement) (id : Id) (new : NewSettlement) :
    Makes (Emits (Pays id) (SettlementTx k id new)) (compensateFailedPayoutSubmission id) fun _ => True := by
  refine .transaction (G := fun _ F => F = [] ∨ SettlementTx k id new F) ?_ fun nested _ F hF => ?_
  · refine .query_bind fun d => ?_
    cases h : (d.withdrawals.find id).filter needsCompensation with
    | none => exact .ret (.inl rfl)
    | some w =>
      obtain ⟨found, needed⟩ := Option.filter_eq_some_iff.1 h
      obtain rfl := Store.Table.find_key found
      refine .exec_bind <| .exec_bind <| (adds_refundLedger w).bind fun _ F hF => ?_
      obtain ⟨clearing, rfl⟩ := hF
      refine (adds_markReversed w).bind fun _ F hF => ?_
      subst hF
      refine (adds_reverseOrganizationWithdrawalPlatformFee w).mono fun _ R hR => .inr ?_
      exact .compensate w clearing R rfl (by simpa [needsCompensation] using needed) hR
  · rcases hF with rfl | hF
    · exact ⟨quiet (.read nested), trivial⟩
    · exact ⟨.tx nested hF, trivial⟩

theorem makes_submitPayout (k : Settlement) (id : Id) (new : NewSettlement) :
    Makes (Emits (Pays id) (SettlementTx k id new)) (submitPayout id new) fun _ => True := by
  refine Makes.bind (S := fun o => ∀ w, o = some w → w.id = id) ?_ fun o ho => ?_
  · exact Makes.outside (fun d w h => Store.Table.find_key h) fun nested => quiet (.read nested)
  refine (Makes.orThrow ho).bind fun w hw => (makes_orThrow _ _).bind fun dest _ => ?_
  subst hw
  refine (Makes.request (fun r => .base (.answered (payoutRequest w dest) rfl r))
    (.base (.failed (payoutRequest w dest) rfl))).bind fun payout _ => ?_
  refine (Makes.ensure _).bind fun _ _ => ?_
  refine Makes.bind (S := fun p : Option Wallet => p.isSome ↔ 0 < platformShare w payout) ?_
    fun p hp => ?_
  · unfold submitPayout.walletFor
    split_ifs with share
    · exact (makes_getOrCreateWallet _ _).bind fun p _ => .ret (by simpa)
    · exact .ret (by simpa using share)
  refine (Makes.transaction (adds_recordPayout k w payout p new hp)
    fun nested _ F hF => ⟨.tx nested hF, trivial⟩).bind (S := fun _ => True) fun _ _ => ?_
  exact .when fun _ => (makes_invalidateWalletCache _)

theorem makes_triggerWithdrawalTransfer (k : Settlement) (id : Id) (new : NewSettlement) :
    Makes (Emits (Pays id) (SettlementTx k id new)) (triggerWithdrawalTransfer id new) fun _ => True :=
  (makes_submitPayout k id new).onThrow fun _ =>
    (makes_compensateFailedPayoutSubmission k id new).bind fun _ _ => .throw _

end

section

variable {P : FinanceEvent → Prop} [Includes Quiet P]

theorem makes_requirePlatformAdmin (userId : Id) (message : String) :
    Makes P (requirePlatformAdmin userId message) fun _ => True :=
  (makes_outside _).bind fun _ _ => (Makes.ensure _).mono (fun _ h => h) fun _ _ => trivial

theorem makes_sendEmail : Makes P EmailService.sendEmail fun _ => True :=
  makes_request fun _ _ => nofun

theorem makes_notifyUser (userId : Id) : Makes P (notifyUser userId) fun _ => True :=
  (makes_outside _).bind fun _ _ => Makes.whenSome fun _ _ =>
    (Makes.statement fun nested => quiet (.record nested _)).bind fun _ _ => makes_sendEmail.attempt

end

theorem makes_settle (k : Settlement) (id : Id) (owner : Withdrawal → WalletOwner)
    (new : NewSettlement) :
    Makes (Emits (Pays id) (SettlementTx k id new)) (settle k id owner new) fun _ => True := by
  refine (makes_getOrCreateSystemAccount .bankClearing).bind fun clearing h => ?_
  subst h
  refine (Makes.transaction (adds_settlementTransaction k id new)
    fun nested _ F hF => ⟨.tx nested hF, trivial⟩).bind (S := fun _ => True) fun w _ => ?_
  refine (makes_triggerWithdrawalTransfer k id new).bind fun _ _ => ?_
  exact (makes_notifyUser _).bind fun _ _ => (makes_invalidateWalletCache _).bind fun _ _ =>
    (makes_outside _).bind fun _ _ => .ret trivial

theorem makes_settleWithdrawal (id : Id) (new : NewSettlement) :
    Makes (Emits (Pays id) (SettlementTx userSettlement id new)) (settleWithdrawal id new) fun _ => True :=
  makes_settle _ _ _ _

theorem makes_approveUserWithdrawal (id adminUserId : Id) (new : NewSettlement) :
    Makes (Emits (Pays id) (SettlementTx userSettlement id new)) (approveUserWithdrawal id adminUserId new)
      fun _ => True :=
  (makes_requirePlatformAdmin _ _).bind fun _ _ => makes_settleWithdrawal _ _

theorem makes_approvePlatformWithdrawal (id adminUserId : Id) (allow : Bool)
    (new : NewSettlement) :
    Makes (Emits (Pays id) (SettlementTx (platformSettlement adminUserId allow) id new))
      (approvePlatformWithdrawal id adminUserId allow new) fun _ => True :=
  (makes_requirePlatformAdmin _ _).bind fun _ _ => makes_settle _ _ _ _

end FinanceService

end Heightt
