import Heightt.Operations
import Heightt.ReadCommitted.Sequenced

/-!
# What operations do to holds

A withdrawal request creates a hold and adds its amount to the held balance of the wallet. A settlement, a
rejection or a failed payout releases the holds with a text that names the withdrawal, and takes the amount
from the held balance that was read. The payout changes the fee of a withdrawal, but only after its
settlement has released the hold (`Op.holdFirst`). The other transactions leave holds alone.
-/

namespace Heightt

open ReadCommitted Store Database WalletService LedgerService FinanceService ReceiptService BachsService
  WithdrawalWebhookService

/-! ## The transactions -/

/-- The statement changes no hold, no held balance, and of a withdrawal neither the fee nor the metadata. -/
def Stmt.leavesHolds : Stmt → Bool
  | .createWithdrawal _ | .createWalletHold _ | .releaseWalletHolds .. => false
  | .updateWallet _ _ .keep => true
  | .updateWallet .. => false
  | .updateWithdrawal _ patch => patch.fee.isNone && patch.metadata.isNone
  | _ => true

def LeavesHolds (F : List Stmt) : Prop := ∀ s ∈ F, s.leavesHolds = true

namespace LeavesHolds

variable {F G : List Stmt}

theorem nil : LeavesHolds [] := List.forall_mem_nil _

theorem cons {s : Stmt} (hs : s.leavesHolds = true) (hF : LeavesHolds F) : LeavesHolds (s :: F) :=
  List.forall_mem_cons.2 ⟨hs, hF⟩

theorem append (hF : LeavesHolds F) (hG : LeavesHolds G) : LeavesHolds (F ++ G) :=
  fun s hs => (List.mem_append.1 hs).elim (hF s) (hG s)

theorem map {α : Type} {l : List α} {f : α → Stmt} (hf : ∀ a, (f a).leavesHolds = true) : LeavesHolds (l.map f) := by
  intro s hs
  obtain ⟨a, -, rfl⟩ := List.mem_map.1 hs
  exact hf a

theorem moveWallet (w : Wallet) (δ : Int) : LeavesHolds (moveWallet w δ) := .cons rfl (.cons rfl .nil)

theorem journal {data : JournalData} {new : NewEntry} (h : Journal data new F) : LeavesHolds F := by
  obtain ⟨G, postings, rfl⟩ := h
  refine .cons rfl ?_
  generalize data.lines = lines at postings
  induction postings with
  | nil => exact .nil
  | cons l base rest ih => exact .cons rfl (.cons rfl ih)

theorem settlementJournal {data : JournalData} {new : NewEntry} {e : JournalEntry}
    (h : SettlementJournal data new e F) : LeavesHolds F := by
  cases h with
  | posted h => exact journal h
  | reused h matching => exact .nil

theorem systemAccountWrites (found : Bool) (a : SystemAccount) (δ : Int) :
    LeavesHolds (systemAccountWrites found a δ) := by
  unfold LedgerService.systemAccountWrites
  split
  · exact .cons rfl .nil
  · exact .nil

theorem refundWrites (w : Withdrawal) (clearing : Bool) : LeavesHolds (refundWrites w clearing) :=
  .cons rfl (systemAccountWrites _ _ _)

theorem reversedWrites (w : Withdrawal) : LeavesHolds (reversedWrites w) := map fun _ => rfl

theorem feeReversal {w : Withdrawal} (h : FeeReversal w F) : LeavesHolds F := by
  cases h with
  | none h => exact .nil
  | reverse h entry wallet clearing _ =>
    refine (map fun _ => rfl).append (LeavesHolds.append ?_ (systemAccountWrites _ _ _))
    cases wallet with
    | none => exact .nil
    | some v => exact .cons rfl (.cons rfl .nil)

theorem chargeWrites (w : Withdrawal) (payout : Payout) (wallet clearing : Bool) :
    LeavesHolds (chargeWrites w payout wallet clearing) := by
  refine .cons rfl (LeavesHolds.append ?_ ((systemAccountWrites _ _ _).append (map fun _ => rfl)))
  split
  · exact .cons rfl .nil
  · exact .nil

theorem duePaid {paymentId : Id} {amount : Int} (h : DuePaid paymentId amount F) : LeavesHolds F := by
  cases h with
  | none => exact .nil
  | part p hp => exact .cons rfl .nil
  | full p hp => exact .cons rfl (.cons rfl .nil)

theorem opens (h : ∀ s ∈ F, Opens s) : LeavesHolds F := by
  intro s hs
  have opening := h s hs
  cases s with
  | createWallet | createLedgerAccount | linkWallet => rfl
  | _ => cases opening

theorem receiptTx {paymentId : Id} {new : NewReceipt} (h : ReceiptTx paymentId new F) : LeavesHolds F := by
  cases h
  exact .cons rfl .nil

theorem statusTx (h : StatusTx F) : LeavesHolds F := by
  cases h with
  | update p patch _ => exact .cons rfl .nil
  | expire cutoff => exact .cons rfl .nil

theorem setupTx (h : SetupTx F) : LeavesHolds F := by
  cases h with
  | createWallet _ _ _ _ => exact .cons rfl (.cons rfl (.cons rfl (.cons rfl .nil)))
  | _ => exact .cons rfl .nil

theorem externalPaymentTx {new : NewCompletion} (h : ExternalPaymentTx new F) : LeavesHolds F := by
  cases h with
  | complete p c amountInKobo o platform base S due _ _ _ _ _ opening paid =>
    have credited : LeavesHolds (platform.toList.flatMap fun w => FinanceService.moveWallet w (platformFee p)) := by
      cases platform with
      | none => exact .nil
      | some w => simpa using moveWallet w (platformFee p)
    refine (opens opening).append (.cons rfl (.cons rfl ((moveWallet o _).append ?_)))
    refine credited.append (.cons rfl (.cons rfl (.cons rfl (.cons rfl (.cons rfl ?_)))))
    exact (duePaid paid).append (.cons rfl (.cons rfl .nil))
  | receipt paymentId h => exact receiptTx h
  | status h => exact statusTx h

end LeavesHolds

/-- What a transaction does to holds: nothing; it holds what a request asks for; it records the payout of
the one withdrawal that it may; or it releases what is held for `w` and takes it from the held balance. -/
inductive OnHolds : Option Id → List Stmt → Prop where
  | leaves {o : Option Id} {F : List Stmt} (h : LeavesHolds F) : OnHolds o F
  | request {o : Option Id} {id : Id} {amount fee : Int} {F : List Stmt} (h : RequestTx id amount fee F) : OnHolds o F
  | payout {A : List Stmt} (w : Withdrawal) (payout : Payout) (feeEntry : Option Id) (now : Nat)
    (before : LeavesHolds A) : OnHolds (some w.id) (A ++ [.updateWithdrawal w (payoutPatch w payout feeEntry now)])
  | release {o : Option Id} {A B : List Stmt} (w : Withdrawal) (patch : WithdrawalPatch) (reason : List Char)
    (balance : Change) (held : Int) (named : w.id.chars <:+: reason)
    (before : LeavesHolds (.updateWithdrawal w patch :: A)) (after : LeavesHolds B) :
    OnHolds o (.updateWithdrawal w patch :: (A ++ .releaseWalletHolds w.walletId reason ::
      .updateWallet w.walletId balance (.floor held (-w.totalAmount)) :: B))

/-- The fee of withdrawal `id` is written. -/
def SetsFee (id : Id) (F : List Stmt) : Prop :=
  ∃ w patch, Stmt.updateWithdrawal w patch ∈ F ∧ w.id = id ∧ patch.fee.isSome

/-- The statement releases what is held for withdrawal `id`. -/
def Frees (id : Id) : Stmt → Prop
  | .releaseWalletHolds _ reason => id.chars <:+: reason
  | _ => False

theorem LeavesHolds.not_setsFee {F : List Stmt} (h : LeavesHolds F) (id : Id) : ¬SetsFee id F := by
  rintro ⟨w, patch, mem, -, fee⟩
  have leaves := h _ mem
  rw [Stmt.leavesHolds, Bool.and_eq_true, Option.isNone_iff_eq_none] at leaves
  rw [leaves.1] at fee
  cases fee

/-- Only the withdrawal that a payout may be recorded for gets another fee. -/
theorem OnHolds.of_setsFee {o : Option Id} {F : List Stmt} (h : OnHolds o F) {id : Id} (sets : SetsFee id F) :
    o = some id := by
  cases h with
  | leaves h => exact (h.not_setsFee id sets).elim
  | request h =>
    obtain ⟨w, v, holdId, records, requested, hv, covered⟩ := h
    obtain ⟨r, patch, mem, -, -⟩ := sets
    simp [holdWrites] at mem
  | payout w payout feeEntry now before =>
    obtain ⟨r, patch, mem, hr, fee⟩ := sets
    obtain early | last := List.mem_append.1 mem
    · exact (before.not_setsFee id ⟨r, patch, early, hr, fee⟩).elim
    · cases List.mem_singleton.1 last
      exact congrArg some hr
  | release w patch reason balance held named before after =>
    obtain ⟨r, patch', mem, hr, fee⟩ := sets
    rw [← List.cons_append] at mem
    obtain early | late := List.mem_append.1 mem
    · exact (before.not_setsFee id ⟨r, patch', early, hr, fee⟩).elim
    · simp only [List.mem_cons, reduceCtorEq, false_or] at late
      exact (after.not_setsFee id ⟨r, patch', late, hr, fee⟩).elim

theorem onHolds_of_settlementWrites {o : Option Id} (k : Settlement) (now : Nat) (w : Withdrawal) (v : Wallet)
    {data : JournalData} {new : NewEntry} {e : JournalEntry} {J : List Stmt} (named : w.id.chars <:+: k.reason w.id)
    (journal : SettlementJournal data new e J) : OnHolds o (settlementWrites k now w v e J) := by
  have before : LeavesHolds (.updateWithdrawal w (processing now) :: (J ++
      [.updateWithdrawal ((processing now).apply w) { journalEntry := some e }])) :=
    .cons rfl ((LeavesHolds.settlementJournal journal).append (.cons rfl .nil))
  have release := OnHolds.release w (processing now) (k.reason w.id) (.set v.balance (-w.totalAmount))
    v.heldBalance named before (o := o) (B := [.createRecord .activityLog]) (.cons rfl .nil)
  rw [List.append_assoc] at release
  exact release

theorem onHolds_of_settlementTx {k : Settlement} {id : Id} {new : NewSettlement} {F : List Stmt}
    (named : id.chars <:+: k.reason id) (h : SettlementTx k id new F) : OnHolds (some id) F := by
  cases h with
  | settle w v e J hw hv pending approver journal =>
    subst hw
    exact onHolds_of_settlementWrites k new.now w v named journal
  | allocate w payout p J hw share unallocated journal =>
    subst hw
    have before : LeavesHolds (J ++ [.updateWallet p.id (.add (platformShare w payout)) .keep]) :=
      (LeavesHolds.journal journal).append (.cons rfl .nil)
    have recorded := OnHolds.payout w payout (some new.allocation.id) new.now before
    rw [List.append_assoc] at recorded
    exact recorded
  | charge w payout wallet clearing hw type =>
    subst hw
    exact .payout w payout none new.now (LeavesHolds.chargeWrites w payout wallet clearing)
  | record w payout hw unshared equal =>
    subst hw
    exact .payout (A := []) w payout none new.now .nil
  | compensate w clearing R hw needed reversal =>
    exact .leaves (.cons rfl (.cons rfl ((LeavesHolds.refundWrites w clearing).append
      ((LeavesHolds.reversedWrites w).append (.feeReversal reversal)))))

theorem onHolds_of_webhookTx {F : List Stmt} (h : WebhookTx F) : OnHolds none F := by
  cases h with
  | succeeded w _ => exact .leaves (.cons rfl (.cons rfl .nil))
  | pending w _ => exact .leaves (.cons rfl (.cons rfl .nil))
  | failed w v clearing R hv _ reversal =>
    have refunded : LeavesHolds (failedRefund w clearing) := by
      unfold failedRefund
      split
      · exact .refundWrites w clearing
      · exact .nil
    have after : LeavesHolds (failedRefund w clearing ++ (reversedWrites w ++
        (R ++ [.createRecord .withdrawalWebhook]))) :=
      refunded.append ((LeavesHolds.reversedWrites w).append
        ((LeavesHolds.feeReversal reversal).append (.cons rfl .nil)))
    exact .release (A := []) w FinanceService.failed _ _ _ (chars_infix_withdrawalReason.2 rfl) (.cons rfl .nil) after

theorem onHolds_of_rejectTx {id : Id} {F : List Stmt} (h : RejectTx id F) : OnHolds none F := by
  obtain ⟨w, v, hw, hv, pending⟩ := h
  exact .release (A := []) w failed w.id.chars .keep v.heldBalance List.infix_rfl (.cons rfl .nil) (.cons rfl .nil)

theorem onHolds_of_requestAndSettleTx {k : Settlement} {id : Id} {amount fee : Int} {new : NewSettlement}
    {F : List Stmt} (named : id.chars <:+: k.reason id) (h : RequestAndSettleTx k id amount fee new F) :
    OnHolds (some id) F := by
  cases h with
  | request h => exact .request h
  | settlement h => exact onHolds_of_settlementTx named h

/-- The withdrawal that an operation settles. -/
def Op.settled : Op → Option Id
  | requestOrganizationWithdrawal _ _ _ _ new _ | requestPlatformWithdrawal _ _ _ new _ => some new.withdrawalId
  | settleWithdrawal id _ | approveUserWithdrawal id _ _ | approvePlatformWithdrawal id _ _ _ => some id
  | _ => none

/-- The transactions of an operation on holds. -/
theorem Op.onHolds_of_tx {op : Op} {F : List Stmt} (h : op.Tx F) : OnHolds op.settled F := by
  have user (id : Id) : id.chars <:+: withdrawalReason id := chars_infix_withdrawalReason.2 rfl
  have platform (id : Id) : id.chars <:+: platformWithdrawalReason id := chars_infix_platformWithdrawalReason.2 rfl
  cases op with
  | creditWallet dto new =>
    obtain ⟨w, t⟩ := h
    exact .leaves (.cons rfl (.cons rfl ((LeavesHolds.moveWallet w _).append (.cons rfl .nil))))
  | debitWallet dto new =>
    obtain ⟨w, t, -⟩ := h
    exact .leaves (.cons rfl (.cons rfl ((LeavesHolds.moveWallet w _).append (.cons rfl .nil))))
  | depositToSavings userId dto new =>
    obtain ⟨w, t, -, -⟩ := h
    exact .leaves (.cons rfl (.cons rfl (.cons rfl (.cons rfl
      ((LeavesHolds.moveWallet w _).append (.cons rfl .nil))))))
  | executeInternalPayment config userId dto new =>
    cases h with
    | payment u o p created due sufficient paid =>
      have assigned : LeavesHolds (created.toList.map .createDueAssignment) := LeavesHolds.map fun _ => rfl
      refine .leaves (assigned.append ((LeavesHolds.moveWallet u _).append ((LeavesHolds.moveWallet o _).append
        ((LeavesHolds.moveWallet p _).append (.cons rfl (.cons rfl (.cons rfl ?_)))))))
      exact (LeavesHolds.duePaid paid).append (.cons rfl .nil)
    | journal u o p J journal => exact .leaves (.journal journal)
    | receipt h => exact .leaves (.receiptTx h)
  | executeManualPayment userId dto new =>
    cases h with
    | payment u o due sufficient paid =>
      refine .leaves (.cons rfl (.cons rfl ((LeavesHolds.moveWallet u _).append (.cons rfl
        ((LeavesHolds.moveWallet o _).append (.cons rfl (.cons rfl (.cons rfl ?_))))))))
      exact (LeavesHolds.duePaid paid).append (.cons rfl .nil)
    | journal u o J journal => exact .leaves (.journal journal)
    | receipt h => exact .leaves (.receiptTx h)
  | requestUserWithdrawal config userId dto new => exact .request h
  | requestOrganizationWithdrawal config userId organizationId dto new settlement =>
    exact onHolds_of_requestAndSettleTx (user _) h
  | requestPlatformWithdrawal config userId dto new settlement => exact onHolds_of_requestAndSettleTx (platform _) h
  | settleWithdrawal id new => exact onHolds_of_settlementTx (user id) h
  | approveUserWithdrawal id adminUserId new => exact onHolds_of_settlementTx (user id) h
  | approvePlatformWithdrawal id adminUserId allow new => exact onHolds_of_settlementTx (platform id) h
  | rejectUserWithdrawal id adminUserId => exact onHolds_of_rejectTx h
  | processWebhook isValid hook => exact onHolds_of_webhookTx h
  | deliverWebhook n => exact onHolds_of_webhookTx h
  | reconcileStaleProcessingWithdrawals staleBefore => exact onHolds_of_webhookTx h
  | completePayment collection new => exact .leaves (.externalPaymentTx h)
  | handleCheckoutCompleted checkoutId metadata new => exact .leaves (.externalPaymentTx h)
  | handleCollectionSucceeded checkoutId chargeId amount metadata new => exact .leaves (.externalPaymentTx h)
  | getPendingPaymentStatus id userId new => exact .leaves (.externalPaymentTx h)
  | handleCollectionFailed checkoutId reason => exact .leaves (.statusTx h)
  | handleCollectionUnderpaid checkoutId paid expected => exact .leaves (.statusTx h)
  | handleCheckoutExpired checkoutId => exact .leaves (.statusTx h)
  | cancelPendingPayment id userId => exact .leaves (.statusTx h)
  | cleanupExpiredPayments cutoff => exact .leaves (.statusTx h)
  | retryFailedPayment id => exact .leaves (.statusTx h)
  | createJournalEntry data new => exact .leaves (.journal h)
  | reverseJournalEntry id reason new =>
    cases h with
    | mirror e J _ _ journal => exact .leaves (.journal journal)
    | mark => exact .leaves (.cons rfl .nil)

theorem Op.onHolds_of_commits {op : Op} {F : List Stmt} (h : op.Commits F) : OnHolds op.settled F := by
  cases h with
  | read => exact .leaves .nil
  | record t => exact .leaves (.cons rfl .nil)
  | setup nested h _ => exact .leaves (.setupTx h)
  | own h => exact op.onHolds_of_tx h

/-! ## A fee is written after the hold is released -/

theorem committing_of_setup {o : Option Id} {ev : FinanceEvent} (h : Setup ev) : Committing (OnHolds o) ev := by
  cases h with
  | tx nested h => exact .leaves (.setupTx h)
  | quiet h =>
    cases h with
    | read => exact .leaves .nil
    | record nested t => exact .leaves (.cons rfl .nil)
    | _ => trivial

theorem committing_of_pays {k : Settlement} {id : Id} {new : NewSettlement} (named : id.chars <:+: k.reason id)
    {ev : FinanceEvent} (h : Emits (FinanceService.Pays id) (SettlementTx k id new) ev) :
    Committing (OnHolds (some id)) ev := by
  cases h with
  | tx nested h => exact onHolds_of_settlementTx named h
  | base h =>
    cases h with
    | setup h => exact committing_of_setup h
    | _ => trivial

instance (o : Option Id) : Includes Setup (Committing (OnHolds o)) := ⟨fun _ => committing_of_setup⟩

/-- Each transaction is one on holds; a fee is written only after the program has released the hold. -/
abbrev HoldFirst {α : Type} (p : Action α) : Prop := Sequenced (fun F => ∃ o, OnHolds o F) Frees SetsFee p

theorem OnHolds.unsettled {F : List Stmt} (h : OnHolds none F) : (∃ o, OnHolds o F) ∧ ∀ id, ¬SetsFee id F := by
  refine ⟨⟨none, h⟩, fun id sets => ?_⟩
  cases h.of_setsFee sets

theorem HoldFirst.setup_bind {α β : Type} {p : Action α} {S : α → Prop} {f : α → Action β} (hp : Makes Setup p S)
    (hf : ∀ a, S a → HoldFirst (f a)) : HoldFirst (p.bind f) :=
  .bind (U := OnHolds none) (hp.mono (fun _ => committing_of_setup) fun _ h => h) (fun _ h => h.unsettled) hf

theorem HoldFirst.request_bind {α β : Type} {body : Action α} (id : Id) (amount fee : Int) {f : α → Action β}
    (hbody : Adds (Committing (OnHolds none)) body fun _ F => RequestTx id amount fee F)
    (hf : ∀ a, HoldFirst (f a)) : HoldFirst ((Prog.transaction body).bind f) :=
  .bind (Makes.transaction (S := fun _ => True) hbody fun _ _ _ hF => ⟨.request hF, trivial⟩)
    (fun _ h => h.unsettled) fun a _ => hf a

theorem adds_settlementWrites {P : FinanceEvent → Prop} (k : Settlement) (id : Id) (new : NewSettlement) :
    Adds P (settlementTransaction k id (.system .bankClearing) new) fun _ F => ∃ w v e J, w.id = id ∧
      SettlementJournal (k.journalData (.system .bankClearing) w v) new.entry e J ∧
      F = settlementWrites k new.now w v e J := by
  refine .query_bind fun d => .orThrow_bind fun w hw => .query_bind fun d' =>
    .orThrow_bind fun v hv => .ensure_bind fun pending => .ensure_bind fun approver => ?_
  obtain rfl := Table.find_key hw
  exact .exec_bind <| (adds_createOrReuseWithdrawalJournal _ _).bind fun e J journal =>
    .exec_bind <| .exec_bind <| .exec_bind <| .exec_bind <| .ret ⟨w, v, e, J, rfl, journal, rfl⟩

theorem holdFirst_settle (k : Settlement) (id : Id) (owner : Withdrawal → WalletOwner) (new : NewSettlement)
    (named : id.chars <:+: k.reason id) : HoldFirst (settle k id owner new) := by
  refine HoldFirst.setup_bind (makes_getOrCreateSystemAccount .bankClearing) fun clearing h => ?_
  subst h
  refine Sequenced.transaction_bind (U := OnHolds (some id)) (S := fun _ => True) (adds_settlementWrites k id new)
    ?_ (fun w => ?_) ?_
  · rintro a F ⟨w, v, e, J, rfl, journal, rfl⟩
    exact (onHolds_of_settlementWrites k new.now w v named journal).unsettled
  · refine Makes.mono (P := Emits (FinanceService.Pays id) (SettlementTx k id new)) (S := fun _ => True) ?_
      (fun _ => committing_of_pays named) fun _ h => h
    refine (makes_triggerWithdrawalTransfer k id new).bind fun _ _ => ?_
    exact (makes_notifyUser _).bind fun _ _ => (makes_invalidateWalletCache _).bind fun _ _ =>
      (makes_outside _).bind fun _ _ => .ret trivial
  · rintro a F F' ⟨w, v, e, J, rfl, journal, rfl⟩ tx
    refine ⟨⟨_, tx⟩, fun i sets => ?_⟩
    cases tx.of_setsFee sets
    exact ⟨.releaseWalletHolds w.walletId (k.reason w.id), by simp [settlementWrites], named⟩

theorem holdFirst_settleWithdrawal (id : Id) (new : NewSettlement) : HoldFirst (settleWithdrawal id new) :=
  holdFirst_settle _ _ _ _ (chars_infix_withdrawalReason.2 rfl)

theorem holdFirst_approvePlatformWithdrawal (id adminUserId : Id) (allow : Bool) (new : NewSettlement) :
    HoldFirst (approvePlatformWithdrawal id adminUserId allow new) :=
  .setup_bind (makes_requirePlatformAdmin _ _) fun _ _ =>
    holdFirst_settle _ _ _ _ (chars_infix_platformWithdrawalReason.2 rfl)

theorem holdFirst_requestOrganizationWithdrawal (config : FeeConfig) (userId organizationId : Id)
    (dto : WithdrawalRequestDto) (new : NewWithdrawal) (settlement : NewSettlement) :
    HoldFirst (requestOrganizationWithdrawal config userId organizationId dto new settlement) := by
  refine HoldFirst.setup_bind (makes_assertOrganizationAdminScope _ _) fun _ _ => ?_
  refine HoldFirst.setup_bind (makes_getOrCreateWallet _ _) fun v _ => ?_
  refine HoldFirst.setup_bind (makes_getBankAccountById _ _) fun bankAccount _ => ?_
  refine HoldFirst.setup_bind (Makes.ensure _) fun _ _ => ?_
  refine HoldFirst.setup_bind (makes_ensurePayoutDestination _) fun destination _ => ?_
  refine HoldFirst.request_bind new.withdrawalId dto.amount ORGANIZATION_WITHDRAWAL_FEE
    ?_ fun _ => HoldFirst.setup_bind (makes_invalidateWalletCache _) fun _ _ => holdFirst_settleWithdrawal _ _
  refine (adds_holdForWithdrawal config _ _ _ rfl).mono fun _ F ⟨v, hv, covered, hF⟩ => ?_
  subst hF
  rw [← List.append_nil (holdWrites _ _ _)]
  exact .mk _ v new.holdId [] ⟨rfl, rfl, rfl, dto.min_amount, by decide, rfl, rfl, rfl, rfl⟩ hv covered

theorem holdFirst_requestPlatformWithdrawal (config : FeeConfig) (userId : Id) (dto : WithdrawalRequestDto)
    (new : NewWithdrawal) (settlement : NewSettlement) :
    HoldFirst (requestPlatformWithdrawal config userId dto new settlement) := by
  refine HoldFirst.setup_bind (makes_requirePlatformAdmin _ _) fun _ _ => ?_
  refine HoldFirst.setup_bind (makes_getOrCreateWallet _ _) fun v _ => ?_
  refine HoldFirst.setup_bind (makes_getBankAccountById _ _) fun bankAccount _ => ?_
  refine HoldFirst.setup_bind (makes_ensurePayoutDestination _) fun destination _ => ?_
  refine HoldFirst.request_bind new.withdrawalId dto.amount BACHS_PAYOUT_FEE ?_
    fun _ => holdFirst_approvePlatformWithdrawal _ _ _ _
  refine (adds_holdForWithdrawal config _ _ _ rfl).bind fun _ F ⟨v, hv, covered, hF⟩ => ?_
  subst hF
  refine .exec_bind <| .of_makes (makes_invalidateWalletCache _) fun _ _ => ?_
  exact .mk _ v new.holdId [.activityLog] ⟨rfl, rfl, rfl, dto.min_amount, by decide, rfl, rfl, rfl, rfl⟩ hv covered

/-- An operation that settles nothing writes no fee. -/
theorem Op.holdFirst_of_unsettled {op : Op} (unsettled : op.settled = none) : HoldFirst op.program := by
  refine .of_makes (U := OnHolds none) (op.makes.mono (fun ev hev => ?_) fun _ h => h) fun F h => h.unsettled
  cases ev with
  | committed nested F => exact unsettled ▸ Op.onHolds_of_commits (Op.commits_of_emits hev)
  | answered c r => trivial
  | failed c => trivial

theorem Op.holdFirst (op : Op) : HoldFirst op.program := by
  cases op with
  | requestOrganizationWithdrawal config userId organizationId dto new settlement =>
    exact holdFirst_requestOrganizationWithdrawal config userId organizationId dto new settlement
  | requestPlatformWithdrawal config userId dto new settlement =>
    exact holdFirst_requestPlatformWithdrawal config userId dto new settlement
  | settleWithdrawal id new => exact holdFirst_settleWithdrawal id new
  | approveUserWithdrawal id adminUserId new =>
    exact .setup_bind (makes_requirePlatformAdmin _ _) fun _ _ => holdFirst_settleWithdrawal id new
  | approvePlatformWithdrawal id adminUserId allow new =>
    exact holdFirst_approvePlatformWithdrawal id adminUserId allow new
  | _ => exact holdFirst_of_unsettled rfl

end Heightt
