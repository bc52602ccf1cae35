import Heightt.Operations
import Mathlib.Algebra.Group.Pi.Basic

/-!
# What operations add to balances

The amounts that each transaction adds to the wallets' balances and held
balances and to the ledger accounts, and from them the amounts of each
operation (`Op.Moves`).
-/

namespace Heightt

open ReadCommitted Database WalletService LedgerService FinanceService ReceiptService BachsService
  WithdrawalWebhookService

/-- An amount for each column. -/
abbrev Amounts := Col → Int

/-- An amount on a wallet and on its account. -/
def onWallet (w : Id) (δ : Int) : Amounts :=
  Pi.single (.balance w) δ + Pi.single (.ledger (.wallet w)) δ

def onHeld (w : Id) (δ : Int) : Amounts := Pi.single (.heldBalance w) δ

def onSystem (a : SystemAccount) (δ : Int) : Amounts := Pi.single (.ledger (.system a)) δ

/-- The amounts of a journal entry's lines. -/
def onAccounts (lines : List JournalLine) : Amounts
  | .ledger a => lineTotal lines a
  | _ => 0

/-- What is taken from a held balance when it does not go below zero. -/
def released (held total : Int) : Int := max 0 (held - total) - held

/-- The amount a statement adds to each column. -/
def Stmt.delta : Stmt → Amounts
  | .updateWallet id b h => Pi.single (.balance id) b.delta + Pi.single (.heldBalance id) h.delta
  | .updateLedgerAccount a b => Pi.single (.ledger a) b.delta
  | _ => 0

/-- The statements move no balance. -/
def MovesNothing (F : List Stmt) : Prop := ∀ s ∈ F, s.cols = []

theorem Stmt.delta_apply (s : Stmt) (c : Col) : s.delta c = (s.change c).delta := by
  cases s with
  | updateWallet id b h =>
    cases c <;> simp [Stmt.delta, Stmt.change, Pi.single_apply, apply_ite Change.delta]
  | updateLedgerAccount a b =>
    cases c <;> simp [Stmt.delta, Stmt.change, Pi.single_apply, apply_ite Change.delta]
  | _ => cases c <;> rfl

theorem delta_eq_sum (F : List Stmt) : delta Db F = (F.map Stmt.delta).sum := by
  funext c
  induction F with
  | nil => rfl
  | cons s F ih =>
    rw [delta_cons, ih, List.map_cons, List.sum_cons, Pi.add_apply, Stmt.delta_apply]
    rfl

theorem deltas_cons (s : Stmt) (F : List Stmt) : delta Db (s :: F) = s.delta + delta Db F :=
  funext fun c => by rw [delta_cons, Pi.add_apply, Stmt.delta_apply]; rfl

theorem deltas_nil : delta Db ([] : List Stmt) = 0 := rfl

theorem deltas_append (F G : List Stmt) : delta Db (F ++ G) = delta Db F + delta Db G :=
  funext fun _ => delta_append F G _

theorem MovesNothing.delta {F : List Stmt} (h : MovesNothing F) : delta Db F = 0 := by
  funext c
  induction F with
  | nil => rfl
  | cons s F ih =>
    have hs : Database.change Db s c = .keep :=
      Stmt.change_of_not_mem (by simp [h s List.mem_cons_self])
    rw [delta_cons, hs, ih fun s hs => h s (List.mem_cons_of_mem _ hs)]
    rfl

theorem delta_moveWallet (w : Wallet) (δ : Int) : delta Db (moveWallet w δ) = onWallet w.id δ := by
  simp [delta_eq_sum, Stmt.delta, moveWallet, onWallet, Wallet.ledgerAccountId]

theorem onAccounts_cons (l : JournalLine) (lines : List JournalLine) :
    onAccounts (l :: lines) =
      Pi.single (.ledger l.ledgerAccountId) (balanceChange l) + onAccounts lines := by
  funext c
  cases c with
  | ledger a =>
    simp only [onAccounts, lineTotal, List.map_cons, List.sum_cons, Pi.add_apply, Pi.single_apply,
      Col.ledger.injEq, eq_comm]
  | _ j => simp [onAccounts]

theorem onAccounts_nil : onAccounts [] = 0 := by
  funext c
  cases c <;> rfl

theorem delta_postings {id : Id} {lines : List JournalLine} {G : List Stmt}
    (h : Postings id lines G) : delta Db G = onAccounts lines := by
  induction h with
  | nil => exact onAccounts_nil.symm
  | cons l base rest ih =>
    rw [onAccounts_cons, ← ih, delta_eq_sum, delta_eq_sum]
    simp [Stmt.delta]

theorem delta_journal {data : JournalData} {new : NewEntry} {F : List Stmt}
    (h : Journal data new F) : delta Db F = onAccounts data.lines := by
  obtain ⟨G, hG, rfl⟩ := h
  rw [← delta_postings hG, delta_eq_sum, delta_eq_sum]
  simp [Stmt.delta]

/-! ## Withdrawals -/

/-- An amount on an account that is only written if it is found. -/
def ifFound (found : Bool) (δ : Amounts) : Amounts := if found then δ else 0

/-- The platform fee of a failed withdrawal, back from the platform to the clearing account. -/
inductive FeeReleased (w : Withdrawal) : Amounts → Prop where
  | none (h : ¬FeeAllocated w) : FeeReleased w 0
  | release (h : FeeAllocated w) (platform : Option Wallet) (clearing : Bool) :
    FeeReleased w ((platform.toList.map fun p =>
        onWallet p.id (-(w.metadata.charges.platformFee.getD 0))).sum +
      ifFound clearing (onSystem .bankClearing (w.metadata.charges.platformFee.getD 0)))

/-- The amount and the fee of a withdrawal, back from the clearing account to the wallet. -/
def refunded (w : Withdrawal) (clearing : Bool) : Amounts :=
  onWallet w.walletId w.totalAmount + ifFound clearing (onSystem .bankClearing (-w.totalAmount))

/-- The amounts of the settlement and the payout of withdrawal `id`. -/
inductive Settles (id : Id) : Amounts → Prop where
  /-- The wallet is debited; the journal entry is posted, or was there before. -/
  | debit (w : Withdrawal) (hw : w.id = id) (held : Int) (posted : Bool) : Settles id
    (Pi.single (.balance w.walletId) (-w.totalAmount) +
      onHeld w.walletId (released held w.totalAmount) +
      ifFound posted (onSystem .bankClearing w.totalAmount +
        Pi.single (.ledger (.wallet w.walletId)) (-w.totalAmount)))
  /-- The platform's share of the fee is credited. -/
  | allocate (w : Withdrawal) (hw : w.id = id) (payout : Payout) (platform : Id) : Settles id
    (onWallet platform (platformShare w payout) +
      onSystem .bankClearing (-platformShare w payout))
  /-- What the provider's fee differs from the fee that was held is charged. -/
  | charge (w : Withdrawal) (hw : w.id = id) (payout : Payout) (wallet clearing : Bool) :
    Settles id (Pi.single (.balance w.walletId) (-feeDifference w payout) +
      (ifFound wallet (Pi.single (.ledger (.wallet w.walletId)) (-feeDifference w payout)) +
        ifFound clearing (onSystem .bankClearing (feeDifference w payout))))
  | refund (w : Withdrawal) (hw : w.id = id) (clearing : Bool) {R : Amounts}
    (released : FeeReleased w R) : Settles id (refunded w clearing + R)

/-- The amounts of a failed payout. -/
inductive Fails : Amounts → Prop where
  | mk (w : Withdrawal) (held : Int) (clearing : Bool) {R : Amounts}
    (released : FeeReleased w R) : Fails (onHeld w.walletId (Heightt.released held w.totalAmount) +
      (if w.status = .processing then refunded w clearing else 0) + R)

theorem delta_systemAccountWrites (found : Bool) (a : SystemAccount) (δ : Int) :
    delta Db (systemAccountWrites found a δ) = ifFound found (onSystem a δ) := by
  cases found <;> simp [delta_eq_sum, Stmt.delta, systemAccountWrites, ifFound, onSystem]

theorem delta_refundWrites (w : Withdrawal) (clearing : Bool) :
    delta Db (.updateWallet w.walletId (.add w.totalAmount) .keep :: refundWrites w clearing) =
      refunded w clearing := by
  rw [refunded, ← delta_systemAccountWrites]
  simp [delta_eq_sum, Stmt.delta, refundWrites, onWallet, add_assoc]

theorem movesNothing_reversedWrites (w : Withdrawal) : MovesNothing (reversedWrites w) := by
  simp [MovesNothing, reversedWrites, Stmt.cols]

theorem delta_feeReversal {w : Withdrawal} {F : List Stmt} (h : FeeReversal w F) :
    FeeReleased w (delta Db F) := by
  cases h with
  | none h => exact .none h
  | reverse h entry wallet clearing _ =>
    convert FeeReleased.release h wallet clearing using 1
    rw [reverseAllocation, deltas_append, deltas_append, delta_systemAccountWrites]
    cases entry <;> cases wallet <;>
      simp [delta_eq_sum, Stmt.delta, takeBack, onWallet, Wallet.ledgerAccountId]

theorem delta_holdWrites (w : Withdrawal) (v : Wallet) (holdId : Id) :
    delta Db (holdWrites w v holdId) = onHeld w.walletId w.totalAmount := by
  simp [delta_eq_sum, Stmt.delta, holdWrites, onHeld]

theorem movesNothing_records (records : List AuditTable) :
    MovesNothing (records.map .createRecord) := by
  simp [MovesNothing, Stmt.cols]

/-- The lines of a settlement: what is in transit, and what leaves the wallet. -/
theorem onAccounts_settlement (k : Settlement) (w : Withdrawal) {v : Wallet}
    (hv : v.id = w.walletId) :
    onAccounts (k.journalLines (.system .bankClearing) w v) =
      onSystem .bankClearing w.totalAmount +
        Pi.single (.ledger (.wallet w.walletId)) (-w.totalAmount) := by
  simp [Settlement.journalLines, onAccounts_cons, onAccounts_nil, balanceChange, onSystem,
    Wallet.ledgerAccountId, hv]

theorem onAccounts_allocation (w : Withdrawal) (payout : Payout) (p : Wallet) :
    onAccounts (allocationData w payout p).lines =
      Pi.single (.ledger (.wallet p.id)) (platformShare w payout) +
        onSystem .bankClearing (-platformShare w payout) := by
  simp [allocationData, onAccounts_cons, onAccounts_nil, balanceChange, onSystem,
    Wallet.ledgerAccountId]

theorem delta_chargeWrites (w : Withdrawal) (payout : Payout) (wallet clearing : Bool) :
    delta Db (chargeWrites w payout wallet clearing) =
      Pi.single (.balance w.walletId) (-feeDifference w payout) +
      (ifFound wallet (Pi.single (.ledger (.wallet w.walletId)) (-feeDifference w payout)) +
        ifFound clearing (onSystem .bankClearing (feeDifference w payout))) := by
  rw [← delta_systemAccountWrites, chargeWrites, delta_eq_sum, delta_eq_sum]
  cases wallet <;> cases hj : w.journalEntryId <;> simp [Stmt.delta, ifFound]

/-- A settlement and its payout move their amounts, or write no balance. -/
theorem settles_of_settlementTx {k : Settlement} {id : Id} {new : NewSettlement} {F : List Stmt}
    (h : SettlementTx k id new F) : MovesNothing F ∨ Settles id (delta Db F) := by
  cases h with
  | settle w v e J hw hv pending approver journal =>
    cases journal with
    | posted hJ =>
      have lines : delta Db J = _ := (delta_journal hJ).trans (onAccounts_settlement k w hv)
      convert Or.inr (Settles.debit w hw v.heldBalance true) using 2
      simp only [settlementWrites, deltas_cons, deltas_append, deltas_nil, lines, Stmt.delta,
        Change.delta_set, Change.delta_floor, onHeld, released, ifFound, if_true, sub_eq_add_neg]
      abel
    | reused he matching =>
      convert Or.inr (Settles.debit w hw v.heldBalance false) using 2
      simp [settlementWrites, deltas_cons, deltas_nil, Stmt.delta, onHeld, released, ifFound,
        sub_eq_add_neg]
  | allocate w payout p J hw share unallocated journal =>
    have lines : delta Db J = _ := (delta_journal journal).trans (onAccounts_allocation w payout p)
    convert Or.inr (Settles.allocate w hw payout p.id) using 2
    simp [deltas_cons, deltas_append, deltas_nil, lines, Stmt.delta, onWallet]
    abel
  | charge w payout wallet clearing hw type =>
    convert Or.inr (Settles.charge w hw payout wallet clearing) using 2
    simp [deltas_cons, deltas_append, deltas_nil, delta_chargeWrites, Stmt.delta]
  | record w payout hw unshared equal => exact .inl (by simp [MovesNothing, Stmt.cols])
  | compensate w clearing R hw needed reversal =>
    convert Or.inr (Settles.refund w hw clearing (delta_feeReversal reversal)) using 2
    rw [← delta_refundWrites, ← zero_add (delta Db R), ← (movesNothing_reversedWrites w).delta]
    simp only [deltas_cons, deltas_append, Stmt.delta]
    abel

theorem fails_of_webhookTx {F : List Stmt} (h : WebhookTx F) :
    MovesNothing F ∨ Fails (delta Db F) := by
  cases h with
  | succeeded w _ => exact .inl (by simp [MovesNothing, Stmt.cols])
  | pending w _ => exact .inl (by simp [MovesNothing, Stmt.cols])
  | failed w v clearing R hv _ reversal =>
    convert Or.inr (Fails.mk w v.heldBalance clearing (delta_feeReversal reversal)) using 2
    by_cases processing : w.status = .processing
    · rw [if_pos processing, ← delta_refundWrites, ← add_zero (delta Db R),
        ← (movesNothing_reversedWrites w).delta]
      simp only [refundChange, failedRefund, processing, if_true, deltas_cons, deltas_append,
        deltas_nil, Stmt.delta, onHeld, released, Change.delta_floor, Change.delta_keep,
        Change.delta_add, sub_eq_add_neg, Pi.single_zero]
      abel
    · simp [refundChange, failedRefund, processing, deltas_cons, deltas_append, deltas_nil,
        Stmt.delta, onHeld, released, (movesNothing_reversedWrites w).delta, sub_eq_add_neg]

/-! ## Payments -/

theorem movesNothing_duePaid {paymentId : Id} {amount : Int} {F : List Stmt}
    (h : DuePaid paymentId amount F) : MovesNothing F := by
  cases h <;> simp [MovesNothing, Stmt.cols]

theorem movesNothing_opens {S : List Stmt} (h : ∀ s ∈ S, Opens s) : MovesNothing S := by
  intro s hs
  have := h s hs
  cases s <;> simp_all [Opens, Stmt.cols]

theorem movesNothing_setupTx {F : List Stmt} (h : SetupTx F) : MovesNothing F := by
  cases h <;> simp [MovesNothing, Stmt.cols]

/-- The amounts of a completed external payment. -/
inductive Collects : Amounts → Prop where
  | mk (p : PendingPayment) (organization : Id) (platform : Option Wallet) (amountInKobo : Int) :
    Collects (onWallet organization p.amount +
      (platform.toList.map fun w => onWallet w.id (platformFee p)).sum +
      onSystem .bachsSettlement amountInKobo)

theorem delta_creditWrites (p : PendingPayment) (c : Collection) (amountInKobo : Int) (o : Wallet)
    (platform : Option Wallet) (base : Int) {due : List Stmt} (new : NewCompletion)
    (paid : DuePaid new.paymentId p.amount due) :
    delta Db (creditWrites p c amountInKobo o platform base due new) = onWallet o.id p.amount +
      (platform.toList.map fun w => onWallet w.id (platformFee p)).sum +
      onSystem .bachsSettlement amountInKobo := by
  simp only [creditWrites, deltas_cons, deltas_append, deltas_nil, delta_moveWallet, Stmt.delta,
    (movesNothing_duePaid paid).delta, Change.delta_set, onSystem]
  cases platform <;> simp [delta_moveWallet, deltas_nil, add_assoc]

theorem collects_of_externalPaymentTx {new : NewCompletion} {F : List Stmt}
    (h : ExternalPaymentTx new F) : MovesNothing F ∨ Collects (delta Db F) := by
  cases h with
  | complete p c amountInKobo o platform base S due _ _ _ _ _ opens paid =>
    rw [deltas_append, (movesNothing_opens opens).delta, zero_add, delta_creditWrites p c _ o platform base new paid]
    exact .inr (.mk p o.id platform amountInKobo)
  | receipt paymentId h => exact .inl (by cases h; simp [MovesNothing, Stmt.cols])
  | status h => exact .inl (by cases h <;> simp [MovesNothing, Stmt.cols])

end Heightt
