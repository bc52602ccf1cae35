import Heightt.Operations

/-!
# What operations do to withdrawals

An operation requests a withdrawal, moves it on in a settlement, a payout
webhook or a rejection, or leaves the withdrawals alone (`OnWithdrawal`). Every
transaction that moves one on updates only that one, by the patch of its first
update as far as the status and the metadata go (`Updates`).
-/

namespace Heightt

open ReadCommitted Store Database WalletService LedgerService FinanceService ReceiptService BachsService
  WithdrawalWebhookService

def Stmt.leavesWithdrawals : Stmt → Bool
  | .createWithdrawal _ | .updateWithdrawal .. => false
  | _ => true

/-- The statements leave the withdrawals as they are. -/
def LeavesWithdrawals (F : List Stmt) : Prop := ∀ s ∈ F, s.leavesWithdrawals = true

theorem LeavesWithdrawals.append {F G : List Stmt} (hF : LeavesWithdrawals F) (hG : LeavesWithdrawals G) :
    LeavesWithdrawals (F ++ G) :=
  fun s hs => (List.mem_append.1 hs).elim (hF s) (hG s)

theorem LeavesWithdrawals.cons {s : Stmt} {F : List Stmt} (hs : s.leavesWithdrawals = true)
    (hF : LeavesWithdrawals F) : LeavesWithdrawals (s :: F) :=
  List.forall_mem_cons.2 ⟨hs, hF⟩

theorem LeavesWithdrawals.nil : LeavesWithdrawals [] := List.forall_mem_nil _

theorem LeavesWithdrawals.withdrawals {F : List Stmt} (h : LeavesWithdrawals F) (d : Db) :
    (applyAll F d).withdrawals = d.withdrawals := by
  induction F generalizing d with
  | nil => rfl
  | cons s F ih =>
    rw [applyAll_cons, ih fun s hs => h s (List.mem_cons_of_mem _ hs)]
    have hs := h s List.mem_cons_self
    cases s with
    | createWithdrawal w => cases hs
    | updateWithdrawal seen patch => cases hs
    | _ => rfl

theorem leaves_journal {data : JournalData} {new : NewEntry} {J : List Stmt} (h : Journal data new J) :
    LeavesWithdrawals J := by
  obtain ⟨G, hG, rfl⟩ := h
  refine .cons rfl ?_
  generalize data.lines = lines at hG
  induction hG with
  | nil => exact .nil
  | cons l base rest ih => exact .cons rfl (.cons rfl ih)

theorem leaves_moveWallet (w : Wallet) (δ : Int) : LeavesWithdrawals (moveWallet w δ) :=
  .cons rfl (.cons rfl .nil)

theorem leaves_duePaid {paymentId : Id} {amount : Int} {F : List Stmt} (h : DuePaid paymentId amount F) :
    LeavesWithdrawals F := by
  cases h with
  | none => exact .nil
  | part p hp => exact .cons rfl .nil
  | full p hp => exact .cons rfl (.cons rfl .nil)

theorem leaves_opens {S : List Stmt} (h : ∀ s ∈ S, Opens s) : LeavesWithdrawals S := by
  intro s hs
  have := h s hs
  cases s with
  | createWithdrawal w => cases this
  | updateWithdrawal seen patch => cases this
  | _ => rfl

theorem leaves_receiptTx {paymentId : Id} {new : NewReceipt} {F : List Stmt} (h : ReceiptTx paymentId new F) :
    LeavesWithdrawals F := by
  cases h
  exact .cons rfl .nil

theorem leaves_statusTx {F : List Stmt} (h : StatusTx F) : LeavesWithdrawals F := by
  cases h with
  | update p patch _ => exact .cons rfl .nil
  | expire cutoff => exact .cons rfl .nil

theorem leaves_setupTx {F : List Stmt} (h : SetupTx F) : LeavesWithdrawals F := by
  cases h with
  | createWallet _ _ _ _ => exact .cons rfl (.cons rfl (.cons rfl (.cons rfl .nil)))
  | _ => exact .cons rfl .nil

theorem leaves_externalPaymentTx {new : NewCompletion} {F : List Stmt} (h : ExternalPaymentTx new F) :
    LeavesWithdrawals F := by
  cases h with
  | complete p c amountInKobo o platform base S due _ _ _ _ _ opens paid =>
    have credited : LeavesWithdrawals (platform.toList.flatMap fun w => moveWallet w (platformFee p)) := by
      cases platform with
      | none => exact .nil
      | some w => simpa using leaves_moveWallet w (platformFee p)
    refine (leaves_opens opens).append (.cons rfl (.cons rfl ((leaves_moveWallet o _).append ?_)))
    refine credited.append (.cons rfl (.cons rfl (.cons rfl (.cons rfl (.cons rfl ?_)))))
    exact (leaves_duePaid paid).append (.cons rfl (.cons rfl .nil))
  | receipt paymentId h => exact leaves_receiptTx h
  | status h => exact leaves_statusTx h

/-- What a transaction does to the withdrawals. -/
inductive OnWithdrawal : List Stmt → Prop where
  | leaves {F : List Stmt} (h : LeavesWithdrawals F) : OnWithdrawal F
  | request {id : Id} {amount fee : Int} {F : List Stmt} (h : RequestTx id amount fee F) : OnWithdrawal F
  | settlement {k : Settlement} {id : Id} {new : NewSettlement} {F : List Stmt}
    (h : SettlementTx k id new F) : OnWithdrawal F
  | webhook {F : List Stmt} (h : WebhookTx F) : OnWithdrawal F
  | reject {id : Id} {F : List Stmt} (h : RejectTx id F) : OnWithdrawal F

/-- The transactions of an operation on withdrawals. -/
theorem Op.onWithdrawal_of_tx {op : Op} {F : List Stmt} (h : op.Tx F) : OnWithdrawal F := by
  cases op with
  | creditWallet dto new =>
    obtain ⟨w, t⟩ := h
    exact .leaves (.cons rfl (.cons rfl ((leaves_moveWallet w _).append (.cons rfl .nil))))
  | debitWallet dto new =>
    obtain ⟨w, t, -⟩ := h
    exact .leaves (.cons rfl (.cons rfl ((leaves_moveWallet w _).append (.cons rfl .nil))))
  | depositToSavings userId dto new =>
    obtain ⟨w, t, -, -⟩ := h
    exact .leaves (.cons rfl (.cons rfl (.cons rfl (.cons rfl
      ((leaves_moveWallet w _).append (.cons rfl .nil))))))
  | executeInternalPayment config userId dto new =>
    cases h with
    | payment u o p created due sufficient paid =>
      have assigned : LeavesWithdrawals (created.toList.map .createDueAssignment) := by
        intro s hs
        obtain ⟨a, -, rfl⟩ := List.mem_map.1 hs
        rfl
      refine .leaves (assigned.append ((leaves_moveWallet u _).append ((leaves_moveWallet o _).append
        ((leaves_moveWallet p _).append (.cons rfl (.cons rfl (.cons rfl ?_)))))))
      exact (leaves_duePaid paid).append (.cons rfl .nil)
    | journal u o p J journal => exact .leaves (leaves_journal journal)
    | receipt h => exact .leaves (leaves_receiptTx h)
  | executeManualPayment userId dto new =>
    cases h with
    | payment u o due sufficient paid =>
      refine .leaves (.cons rfl (.cons rfl ((leaves_moveWallet u _).append (.cons rfl
        ((leaves_moveWallet o _).append (.cons rfl (.cons rfl (.cons rfl ?_))))))))
      exact (leaves_duePaid paid).append (.cons rfl .nil)
    | journal u o J journal => exact .leaves (leaves_journal journal)
    | receipt h => exact .leaves (leaves_receiptTx h)
  | requestUserWithdrawal config userId dto new => exact .request h
  | requestOrganizationWithdrawal config userId organizationId dto new settlement =>
    cases h with
    | request h => exact .request h
    | settlement h => exact .settlement h
  | requestPlatformWithdrawal config userId dto new settlement =>
    cases h with
    | request h => exact .request h
    | settlement h => exact .settlement h
  | settleWithdrawal id new => exact .settlement h
  | approveUserWithdrawal id adminUserId new => exact .settlement h
  | approvePlatformWithdrawal id adminUserId allow new => exact .settlement h
  | rejectUserWithdrawal id adminUserId => exact .reject h
  | processWebhook isValid hook => exact .webhook h
  | deliverWebhook n => exact .webhook h
  | reconcileStaleProcessingWithdrawals staleBefore => exact .webhook h
  | completePayment collection new => exact .leaves (leaves_externalPaymentTx h)
  | handleCheckoutCompleted checkoutId metadata new => exact .leaves (leaves_externalPaymentTx h)
  | handleCollectionSucceeded checkoutId chargeId amount metadata new =>
    exact .leaves (leaves_externalPaymentTx h)
  | getPendingPaymentStatus id userId new => exact .leaves (leaves_externalPaymentTx h)
  | handleCollectionFailed checkoutId reason => exact .leaves (leaves_statusTx h)
  | handleCollectionUnderpaid checkoutId paid expected => exact .leaves (leaves_statusTx h)
  | handleCheckoutExpired checkoutId => exact .leaves (leaves_statusTx h)
  | cancelPendingPayment id userId => exact .leaves (leaves_statusTx h)
  | cleanupExpiredPayments cutoff => exact .leaves (leaves_statusTx h)
  | retryFailedPayment id => exact .leaves (leaves_statusTx h)
  | createJournalEntry data new => exact .leaves (leaves_journal h)
  | reverseJournalEntry id reason new =>
    cases h with
    | mirror e J _ _ journal => exact .leaves (leaves_journal journal)
    | mark => exact .leaves (.cons rfl .nil)

theorem Op.onWithdrawal_of_commits {op : Op} {F : List Stmt} (h : op.Commits F) : OnWithdrawal F := by
  cases h with
  | read => exact .leaves .nil
  | record t => exact .leaves (.cons rfl .nil)
  | setup nested h _ => exact .leaves (leaves_setupTx h)
  | own h => exact op.onWithdrawal_of_tx h

/-! ## Updates -/

/-- The row a statement updates, as it was read, and the patch. -/
def Stmt.patched : Stmt → Option (Withdrawal × WithdrawalPatch)
  | .updateWithdrawal seen patch => some (seen, patch)
  | _ => none

/-- The first update of a withdrawal. -/
def firstUpdate (F : List Stmt) : Option (Withdrawal × WithdrawalPatch) := F.findSome? Stmt.patched

theorem firstUpdate_of_leaves {F : List Stmt} (h : LeavesWithdrawals F) : firstUpdate F = none := by
  refine List.findSome?_eq_none_iff.2 fun s hs => ?_
  have := h s hs
  cases s with
  | updateWithdrawal seen patch => cases this
  | _ => rfl

theorem firstUpdate_append {F G : List Stmt} (h : LeavesWithdrawals F) :
    firstUpdate (F ++ G) = firstUpdate G := by
  rw [firstUpdate, List.findSome?_append]
  rw [show F.findSome? Stmt.patched = none from firstUpdate_of_leaves h]
  rfl

/-- The statements update withdrawal `w`, which has the fields it was read with, and no other. -/
structure Updates (F : List Stmt) (w : Withdrawal) (patch : WithdrawalPatch) : Prop where
  first : ∃ p, firstUpdate F = some (w, p) ∧ p.status = patch.status ∧ p.metadata = patch.metadata
  find : ∀ (d : Db) (id : Id), (applyAll F d).withdrawals.find id =
    if id = w.id then (d.withdrawals.find id).map patch.apply else d.withdrawals.find id
  same : ∀ d : Db, violation F d = none → ∃ r, d.withdrawals.find w.id = some r ∧ r.Same w

theorem find_updateWithdrawal (w : Withdrawal) (patch : WithdrawalPatch) (d : Db) (id : Id) :
    (apply (Stmt.updateWithdrawal w patch) d).withdrawals.find id =
      if id = w.id then (d.withdrawals.find id).map patch.apply else d.withdrawals.find id :=
  Table.find_modify d.withdrawals w.id patch.apply (fun _ => rfl) id

theorem same_of_check {w : Withdrawal} {patch : WithdrawalPatch} {d : Db}
    (h : check (.updateWithdrawal w patch) d = none) :
    ∃ r, d.withdrawals.find w.id = some r ∧ r.Same w :=
  Stmt.sameRow_eq_none.1 (Option.or_eq_none_iff.1 h).1

/-- One update among statements that leave the withdrawals alone. -/
theorem Updates.one {A B : List Stmt} (hA : LeavesWithdrawals A) (hB : LeavesWithdrawals B)
    (w : Withdrawal) (patch : WithdrawalPatch) :
    Updates (A ++ .updateWithdrawal w patch :: B) w patch where
  first := ⟨patch, firstUpdate_append hA, rfl, rfl⟩
  find d id := by
    rw [applyAll_append, applyAll_cons, hB.withdrawals, find_updateWithdrawal, hA.withdrawals]
  same d valid := by
    obtain ⟨-, valid⟩ := violation_append.1 valid
    rw [← hA.withdrawals d]
    exact same_of_check (violation_cons.1 valid).1

theorem Updates.head {B : List Stmt} (hB : LeavesWithdrawals B) (w : Withdrawal) (patch : WithdrawalPatch) :
    Updates (.updateWithdrawal w patch :: B) w patch :=
  .one (A := []) .nil hB w patch

/-- A second update of the same withdrawal that changes neither the status nor the metadata. -/
theorem Updates.two {A B : List Stmt} {patch patch' both : WithdrawalPatch} (hA : LeavesWithdrawals A)
    (hB : LeavesWithdrawals B) (w w' : Withdrawal) (hw : w'.id = w.id)
    (hboth : ∀ r, patch'.apply (patch.apply r) = both.apply r) (hs : patch.status = both.status)
    (hm : patch.metadata = both.metadata) :
    Updates (.updateWithdrawal w patch :: (A ++ .updateWithdrawal w' patch' :: B)) w both where
  first := ⟨patch, rfl, hs, hm⟩
  find d id := by
    rw [applyAll_cons, applyAll_append, applyAll_cons, hB.withdrawals, find_updateWithdrawal,
      hA.withdrawals, find_updateWithdrawal, hw]
    split
    · rw [Option.map_map]
      exact congrArg (fun f => Option.map f _) (funext hboth)
    · rfl
  same d valid := same_of_check (violation_cons.1 valid).1

/-- A request creates its withdrawal and updates none. -/
theorem creates_of_requestTx {id : Id} {amount fee : Int} {F : List Stmt} (h : RequestTx id amount fee F) :
    firstUpdate F = none ∧ ∀ d : Db, violation F d = none → ∃ w, Requested w id amount fee ∧
      d.withdrawals.find w.id = none ∧ ∀ id, (applyAll F d).withdrawals.find id =
        if w.id = id then some w else d.withdrawals.find id := by
  obtain ⟨w, v, holdId, records, requested, hv, covered⟩ := h
  have recorded : LeavesWithdrawals (records.map .createRecord) := by
    intro s hs
    obtain ⟨t, -, rfl⟩ := List.mem_map.1 hs
    rfl
  have updated : firstUpdate (records.map .createRecord) = none := firstUpdate_of_leaves recorded
  refine ⟨updated, fun d valid => ⟨w, requested, ?_⟩⟩
  have created : check (Stmt.createWithdrawal w) d = none :=
    (violation_cons.1 (violation_cons.1 (violation_append.1 valid).1).2).1
  have free : d.withdrawals.find w.id = none := by
    have := Stmt.unique_eq_none.1 (Option.or_eq_none_iff.1 created).1
    exact Option.not_isSome_iff_eq_none.1 (Bool.not_eq_true _ ▸ this)
  refine ⟨free, fun id => ?_⟩
  rw [applyAll_append, recorded.withdrawals]
  exact Table.find_insert free id

theorem leaves_chargeWrites (w : Withdrawal) (payout : Payout) (wallet clearing : Bool) :
    LeavesWithdrawals (chargeWrites w payout wallet clearing) := by
  refine .cons rfl (LeavesWithdrawals.append ?_ (LeavesWithdrawals.append ?_ ?_))
  · split
    · exact .cons rfl .nil
    · exact .nil
  · unfold systemAccountWrites
    split
    · exact .cons rfl .nil
    · exact .nil
  · intro s hs
    obtain ⟨id, -, rfl⟩ := List.mem_map.1 hs
    rfl

theorem leaves_refundWrites (w : Withdrawal) (clearing : Bool) : LeavesWithdrawals (refundWrites w clearing) := by
  refine .cons rfl ?_
  unfold systemAccountWrites
  split
  · exact .cons rfl .nil
  · exact .nil

theorem leaves_reversedWrites (w : Withdrawal) : LeavesWithdrawals (reversedWrites w) := by
  intro s hs
  obtain ⟨id, -, rfl⟩ := List.mem_map.1 hs
  rfl

theorem leaves_feeReversal {w : Withdrawal} {F : List Stmt} (h : FeeReversal w F) : LeavesWithdrawals F := by
  cases h with
  | none h => exact .nil
  | reverse h entry wallet clearing _ =>
    refine LeavesWithdrawals.append ?_ (LeavesWithdrawals.append ?_ ?_)
    · intro s hs
      obtain ⟨id, -, rfl⟩ := List.mem_map.1 hs
      rfl
    · cases wallet with
      | none => exact .nil
      | some v => exact .cons rfl (.cons rfl .nil)
    · unfold systemAccountWrites
      split
      · exact .cons rfl .nil
      · exact .nil

theorem leaves_settlementJournal {data : JournalData} {new : NewEntry} {e : JournalEntry} {J : List Stmt}
    (h : SettlementJournal data new e J) : LeavesWithdrawals J := by
  cases h with
  | posted h => exact leaves_journal h
  | reused h matching => exact .nil

/-- A settlement marks the withdrawal as processing and links its entry. -/
theorem updates_settlementWrites (k : Settlement) (now : Nat) (w : Withdrawal) (v : Wallet) {data : JournalData}
    {new : NewEntry} {e : JournalEntry} {J : List Stmt} (journal : SettlementJournal data new e J) :
    Updates (settlementWrites k now w v e J) w { processing now with journalEntry := some e } :=
  have linked (r : Withdrawal) : ({ journalEntry := some e } : WithdrawalPatch).apply
      ((processing now).apply r) = { processing now with journalEntry := some e }.apply r := rfl
  .two (leaves_settlementJournal journal) (.cons rfl (.cons rfl (.cons rfl .nil))) w
    ((processing now).apply w) rfl linked rfl rfl

end Heightt
