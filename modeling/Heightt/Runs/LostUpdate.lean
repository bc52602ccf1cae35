import Heightt.Runs.Amounts

/-!
# Lost updates

A run loses no update when every absolute write finds the figure it was computed
from, and when no journal entry of a payment is committed without its payment.
Then every balance is the initial one plus what the committed operations add.
Without that, two credits of one wallet lose one of them.
-/

namespace Heightt

open ReadCommitted Database WalletService LedgerService FinanceService ReceiptService BachsService

/-- The payment whose journal entry a statement creates. -/
def Stmt.postedPayment : Stmt → Option Id
  | .createJournalEntry e => e.paymentId
  | _ => none

/-- The payment a statement creates. -/
def Stmt.createdPayment : Stmt → Option Id
  | .createPayment p => some p.id
  | _ => none

/-- A payment's journal entry is posted by the transaction that creates the payment. -/
def PostsWithPayment (F : List Stmt) : Prop :=
  ∀ id ∈ F.filterMap Stmt.postedPayment, id ∈ F.filterMap Stmt.createdPayment

instance (F : List Stmt) : Decidable (PostsWithPayment F) :=
  inferInstanceAs (Decidable (∀ _ ∈ _, _))

/-- What an operation adds to the balances when it commits. -/
def Op.Moves : Op → Amounts → Prop
  | .creditWallet dto _ => fun δ => ∃ w, δ = onWallet w dto.amount
  | .debitWallet dto _ => fun δ => ∃ w, δ = onWallet w (-dto.amount)
  | .depositToSavings _ dto _ => fun δ => ∃ w, δ = onWallet w (-dto.amount)
  | .executeInternalPayment config _ dto _ => fun δ => ∃ payer organization platform,
    δ = onWallet payer (-(calculatePaymentCharges config dto.amount).totalAmount) +
      onWallet organization dto.amount +
      onWallet platform (platformCredit (calculatePaymentCharges config dto.amount))
  | .executeManualPayment _ dto _ => fun δ => ∃ payer organization,
    δ = onWallet payer (-dto.amount) + onWallet organization dto.amount
  | .requestUserWithdrawal config _ dto _ => fun δ =>
    ∃ w, δ = onHeld w (dto.amount + userFee config dto)
  | .requestOrganizationWithdrawal _ _ _ dto new _ => fun δ =>
    (∃ w, δ = onHeld w (dto.amount + ORGANIZATION_WITHDRAWAL_FEE)) ∨ Settles new.withdrawalId δ
  | .requestPlatformWithdrawal _ _ dto new _ => fun δ =>
    (∃ w, δ = onHeld w (dto.amount + BACHS_PAYOUT_FEE)) ∨ Settles new.withdrawalId δ
  | .settleWithdrawal id _ | .approveUserWithdrawal id _ _ | .approvePlatformWithdrawal id _ _ _ =>
    Settles id
  | .rejectUserWithdrawal id _ => fun δ => ∃ w : Withdrawal, w.id = id ∧
    ∃ held, δ = onHeld w.walletId (released held w.totalAmount)
  | .processWebhook .. | .deliverWebhook _ | .reconcileStaleProcessingWithdrawals _ => Fails
  | .completePayment .. | .handleCheckoutCompleted .. | .handleCollectionSucceeded ..
  | .getPendingPaymentStatus .. => Collects
  | .createJournalEntry data _ => fun δ => δ = onAccounts data.lines
  | .reverseJournalEntry id reason _ => fun δ => ∃ e : JournalEntry, e.id = id ∧
    δ = onAccounts (reversalData e reason).lines
  | _ => fun _ => False

theorem not_postsWithPayment_of_journal {data : JournalData} {new : NewEntry} {J : List Stmt}
    (h : Journal data new J) (hp : data.paymentId.isSome) : ¬PostsWithPayment J := by
  obtain ⟨G, hG, rfl⟩ := h
  obtain ⟨id, hid⟩ := Option.isSome_iff_exists.1 hp
  intro posts
  have created := posts id (List.mem_filterMap.2 ⟨_, List.mem_cons_self, hid⟩)
  obtain ⟨s, hs, hcreated⟩ := List.mem_filterMap.1 created
  have none_created : ∀ s ∈ G, s.createdPayment = none := by
    generalize data.lines = lines at hG
    clear created hs hcreated posts
    induction hG with
    | nil => simp
    | cons l base rest ih => simpa [Stmt.createdPayment] using ih
  rcases List.mem_cons.1 hs with rfl | hs
  · cases hcreated
  · rw [none_created s hs] at hcreated
    cases hcreated

theorem moves_of_requestTx {id : Id} {amount fee : Int} {F : List Stmt}
    (h : RequestTx id amount fee F) : ∃ w, delta Db F = onHeld w (amount + fee) := by
  cases h with
  | mk w v holdId records requested hv covered =>
    refine ⟨w.walletId, ?_⟩
    rw [deltas_append, delta_holdWrites, (movesNothing_records records).delta, add_zero,
      Withdrawal.totalAmount, requested.amount_eq, requested.fee_eq]

/-- A transaction of an operation writes no balance, or moves what the operation moves. -/
theorem Op.moves_of_tx {op : Op} {F : List Stmt} (h : op.Tx F) (posts : PostsWithPayment F) :
    MovesNothing F ∨ op.Moves (delta Db F) := by
  cases op with
  | creditWallet dto new =>
    obtain ⟨w, t⟩ := h
    refine .inr ⟨w.id, ?_⟩
    simp [deltas_cons, deltas_append, deltas_nil, delta_moveWallet, Stmt.delta]
  | debitWallet dto new =>
    obtain ⟨w, t, -⟩ := h
    refine .inr ⟨w.id, ?_⟩
    simp [deltas_cons, deltas_append, deltas_nil, delta_moveWallet, Stmt.delta]
  | depositToSavings userId dto new =>
    obtain ⟨w, t, -, -⟩ := h
    refine .inr ⟨w.id, ?_⟩
    simp [deltas_cons, deltas_append, deltas_nil, delta_moveWallet, Stmt.delta]
  | executeInternalPayment config userId dto new =>
    cases h with
    | payment u o p created due sufficient paid =>
      refine .inr ⟨u.id, o.id, p.id, ?_⟩
      cases created <;> simp [deltas_cons, deltas_append, deltas_nil, delta_moveWallet, Stmt.delta,
        (movesNothing_duePaid paid).delta, add_assoc]
    | journal u o p J journal => exact absurd posts (not_postsWithPayment_of_journal journal rfl)
    | receipt h => exact .inl (by cases h; simp [MovesNothing, Stmt.cols])
  | executeManualPayment userId dto new =>
    cases h with
    | payment u o due sufficient paid =>
      refine .inr ⟨u.id, o.id, ?_⟩
      simp [deltas_cons, deltas_append, deltas_nil, delta_moveWallet, Stmt.delta,
        (movesNothing_duePaid paid).delta]
    | journal u o J journal => exact absurd posts (not_postsWithPayment_of_journal journal rfl)
    | receipt h => exact .inl (by cases h; simp [MovesNothing, Stmt.cols])
  | requestUserWithdrawal config userId dto new => exact .inr (moves_of_requestTx h)
  | requestOrganizationWithdrawal config userId organizationId dto new settlement =>
    cases h with
    | request h => exact .inr (.inl (moves_of_requestTx h))
    | settlement h => exact (settles_of_settlementTx h).imp_right .inr
  | requestPlatformWithdrawal config userId dto new settlement =>
    cases h with
    | request h => exact .inr (.inl (moves_of_requestTx h))
    | settlement h => exact (settles_of_settlementTx h).imp_right .inr
  | settleWithdrawal id new => exact settles_of_settlementTx h
  | approveUserWithdrawal id adminUserId new => exact settles_of_settlementTx h
  | approvePlatformWithdrawal id adminUserId allow new => exact settles_of_settlementTx h
  | rejectUserWithdrawal id adminUserId =>
    obtain ⟨w, v, hw, hv, -⟩ := h
    refine .inr ⟨w, hw, v.heldBalance, ?_⟩
    simp [deltas_cons, deltas_nil, Stmt.delta, onHeld, released, sub_eq_add_neg]
  | processWebhook isValid hook => exact fails_of_webhookTx h
  | deliverWebhook n => exact fails_of_webhookTx h
  | reconcileStaleProcessingWithdrawals staleBefore => exact fails_of_webhookTx h
  | completePayment collection new => exact collects_of_externalPaymentTx h
  | handleCheckoutCompleted checkoutId metadata new => exact collects_of_externalPaymentTx h
  | handleCollectionSucceeded checkoutId chargeId amount metadata new =>
    exact collects_of_externalPaymentTx h
  | getPendingPaymentStatus id userId new => exact collects_of_externalPaymentTx h
  | createJournalEntry data new => exact .inr (delta_journal h)
  | reverseJournalEntry id reason new =>
    cases h with
    | mirror e J he _ journal => exact .inr ⟨e, he, delta_journal journal⟩
    | mark => exact .inl (by simp [MovesNothing, Stmt.cols])
  | _ => exact .inl (by cases h <;> simp [MovesNothing, Stmt.cols])

theorem Op.moves_of_commits {op : Op} {F : List Stmt} (h : op.Commits F)
    (posts : PostsWithPayment F) : MovesNothing F ∨ op.Moves (delta Db F) := by
  cases h with
  | read => exact .inl (by simp [MovesNothing])
  | record t => exact .inl (by simp [MovesNothing, Stmt.cols])
  | setup nested h _ => exact .inl (movesNothing_setupTx h)
  | own h => exact op.moves_of_tx h posts

/-- The condition under which no update is lost: each commit finds the figures its
absolute writes were computed from, and posts no entry without its payment. -/
def LosesNothing (c : System) : Effect Stmt Call → Prop
  | .commit _ _ F => Current F c.db ∧ PostsWithPayment F
  | _ => True

instance (c : System) (eff : Effect Stmt Call) : Decidable (LosesNothing c eff) := by
  cases eff <;> unfold LosesNothing <;> infer_instance

/-- What the committed transactions add to a column. -/
def Log.total (log : Log) (c : Col) : Int := (log.map fun k => delta Db k.writes c).sum

/-- Every committed transaction writes no balance, or moves what its operation moves. -/
def Log.Explained (ops : List Op) (log : Log) : Prop :=
  ∀ k ∈ log, ∃ op, ops[k.thread]? = some op ∧
    (MovesNothing k.writes ∨ op.Moves (delta Db k.writes))

/-- A user without a wallet. -/
def newUser : Db := { users := [.ofNat 1] }

/-- Two credits of one user's wallet. -/
def twoCredits : List Op :=
  [.creditWallet { userId := .ofNat 1, amount := 500 } ⟨.ofNat 2, .ofNat 3, "TXN_1"⟩,
    .creditWallet { userId := .ofNat 1, amount := 700 } ⟨.ofNat 4, .ofNat 5, "TXN_2"⟩]

end Heightt
