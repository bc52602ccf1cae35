import Heightt.Runs.Amounts
import Heightt.Runs.Withdrawals
import Mathlib.Tactic.NormNum

/-!
# Heightt's share of organisation withdrawal fees

The transaction that records a payout credits the platform wallet with Heightt's
share of the fee and marks it in the withdrawal's metadata; a failure takes back
what the metadata tells. Both act on a row that was read before. In a run whose
transactions find the row as they read it, what is credited for a withdrawal is
what its row tells, and nothing once it has failed.
-/

namespace Heightt

open ReadCommitted Store Database WalletService LedgerService FinanceService WithdrawalWebhookService

/-- The share that the metadata tells is allocated. -/
def WithdrawalMetadata.allocatedFee (m : WithdrawalMetadata) : Int :=
  if m.platformFeeAllocatedAt.isSome then max 0 (m.charges.platformFee.getD 0) else 0

/-- What should be credited for the withdrawal: nothing once it has failed. -/
def Withdrawal.netFee (w : Withdrawal) : Int :=
  if w.status = .failed then 0 else w.metadata.allocatedFee

/-- The balance of a wallet and of its account. -/
def feeColumns (p : Id) : List Col := [.balance p, .ledger (.wallet p)]

def Stmt.updatedWallet : Stmt → Option Id
  | .updateWallet id _ _ => some id
  | _ => none

/-- The statements update wallet `p`. -/
def Touches (p : Id) (F : List Stmt) : Prop := p ∈ F.filterMap Stmt.updatedWallet

instance (p : Id) (F : List Stmt) : Decidable (Touches p F) := inferInstanceAs (Decidable (_ ∈ _))

theorem allocatedFee_nonneg (m : WithdrawalMetadata) : 0 ≤ m.allocatedFee := by
  unfold WithdrawalMetadata.allocatedFee
  split
  · exact le_max_left _ _
  · exact le_refl 0

theorem allocatedFee_of_feeAllocated {w : Withdrawal} (h : FeeAllocated w) :
    w.metadata.allocatedFee = w.metadata.charges.platformFee.getD 0 := by
  rw [WithdrawalMetadata.allocatedFee, if_pos h.1, max_eq_right h.2.le]

theorem allocatedFee_of_not_feeAllocated {w : Withdrawal} (h : ¬FeeAllocated w) :
    w.metadata.allocatedFee = 0 := by
  unfold WithdrawalMetadata.allocatedFee
  split
  · rename_i allocated
    refine max_eq_left (not_lt.1 fun positive => h ⟨allocated, positive⟩)
  · rfl

/-! ## What a transaction does to a fee -/

/-- The statements add `δ` to the balance of wallet `p` and to its account. -/
def Credits (F : List Stmt) (p : Id) (δ : Int) : Prop := ∀ col ∈ feeColumns p, delta Db F col = δ

/-- What a transaction that updates withdrawal `w` does to the allocated fee, as
far as wallets other than the withdrawal's own are concerned. -/
inductive FeeStep (F : List Stmt) (w : Withdrawal) (patch : WithdrawalPatch) : Prop where
  /-- The withdrawal moves on. -/
  | moves (s : WithdrawalStatus) (status : patch.status = some s) (ahead : s ≠ .failed ∧ s ≠ .pending)
    (was : w.status ≠ .failed) (metadata : patch.metadata = none)
    (credits : ∀ p ≠ w.walletId, Credits F p 0)
  | rejects (status : patch.status = some .failed) (was : w.status = .pending)
    (metadata : patch.metadata = none) (credits : ∀ p ≠ w.walletId, Credits F p 0)
  /-- What is allocated is taken back, if the platform wallet is found. -/
  | fails (status : patch.status = some .failed) (was : w.status ≠ .failed)
    (metadata : patch.metadata = none)
    (credits : ∀ p ≠ w.walletId, w.metadata.allocatedFee = 0 ∨ Touches p F →
      Credits F p (-w.metadata.allocatedFee))
  | records (status : patch.status = none) (m : WithdrawalMetadata) (metadata : patch.metadata = some m)
    (kept : w.metadata.platformFeeAllocatedAt = none → m.allocatedFee = 0)
    (credits : ∀ p ≠ w.walletId, Credits F p 0)
  | allocates (status : patch.status = none) (m : WithdrawalMetadata) (metadata : patch.metadata = some m)
    (unallocated : w.metadata.platformFeeAllocatedAt = none) (positive : 0 < m.allocatedFee)
    (credits : ∀ p ≠ w.walletId, Touches p F → Credits F p m.allocatedFee)
  /-- The withdrawal is not one of an organisation. -/
  | other (type : w.metadata.type ≠ .organization)

/-- The statement leaves the balance of wallet `p` and its account alone. -/
def Stmt.spares (p : Id) : Stmt → Prop
  | .updateWallet id _ _ => id ≠ p
  | .updateLedgerAccount a _ => a ≠ .wallet p
  | _ => True

def Spares (p : Id) (F : List Stmt) : Prop := ∀ s ∈ F, s.spares p

theorem Spares.nil {p : Id} : Spares p [] := List.forall_mem_nil _

theorem Spares.cons {p : Id} {s : Stmt} {F : List Stmt} (hs : s.spares p) (hF : Spares p F) :
    Spares p (s :: F) := List.forall_mem_cons.2 ⟨hs, hF⟩

theorem Spares.append {p : Id} {F G : List Stmt} (hF : Spares p F) (hG : Spares p G) : Spares p (F ++ G) :=
  fun s hs => (List.mem_append.1 hs).elim (hF s) (hG s)

theorem Stmt.spares.delta {p : Id} {s : Stmt} (h : s.spares p) : ∀ col ∈ feeColumns p, s.delta col = 0 := by
  intro col hcol
  simp only [feeColumns, List.mem_cons, List.not_mem_nil, or_false] at hcol
  cases s with
  | updateWallet id b held =>
    have hne : p ≠ id := Ne.symm h
    rcases hcol with rfl | rfl <;> simp [Stmt.delta, hne]
  | updateLedgerAccount a b =>
    have hne : AccountId.wallet p ≠ a := Ne.symm h
    rcases hcol with rfl | rfl <;> simp [Stmt.delta, hne]
  | _ => rfl

theorem Spares.credits {p : Id} {F : List Stmt} (h : Spares p F) : Credits F p 0 := by
  intro col hcol
  induction F with
  | nil => rfl
  | cons s F ih =>
    rw [deltas_cons, Pi.add_apply, (h s List.mem_cons_self).delta col hcol,
      ih fun s hs => h s (List.mem_cons_of_mem _ hs), add_zero]

theorem Credits.append {p : Id} {F G : List Stmt} {δ δ' : Int} (hF : Credits F p δ) (hG : Credits G p δ') :
    Credits (F ++ G) p (δ + δ') := by
  intro col hcol
  rw [delta_append, hF col hcol, hG col hcol]

theorem Spares.not_touches {p : Id} {F : List Stmt} (h : Spares p F) : ¬Touches p F := by
  intro hp
  obtain ⟨s, hs, updated⟩ := List.mem_filterMap.1 hp
  have := h s hs
  cases s with
  | updateWallet id b held => exact this (Option.some.inj updated)
  | _ => cases updated

theorem touches_append {p : Id} {F G : List Stmt} : Touches p (F ++ G) ↔ Touches p F ∨ Touches p G := by
  unfold Touches
  rw [List.filterMap_append, List.mem_append]

theorem Touches.of_append {p : Id} {F G : List Stmt} (hF : Spares p F) (h : Touches p (F ++ G)) :
    Touches p G :=
  (touches_append.1 h).resolve_left hF.not_touches

theorem spares_journal {p : Id} {data : JournalData} {new : NewEntry} {J : List Stmt}
    (h : Journal data new J) (lines : ∀ l ∈ data.lines, l.ledgerAccountId ≠ .wallet p) : Spares p J := by
  obtain ⟨G, hG, rfl⟩ := h
  refine .cons trivial ?_
  generalize data.lines = ls at hG lines
  induction hG with
  | nil => exact .nil
  | cons l base rest ih =>
    obtain ⟨hl, lines⟩ := List.forall_mem_cons.1 lines
    exact .cons trivial (.cons hl (ih lines))

theorem not_touches_journal {p : Id} {data : JournalData} {new : NewEntry} {J : List Stmt}
    (h : Journal data new J) : ¬Touches p J := by
  obtain ⟨G, hG, rfl⟩ := h
  change ¬Touches p G
  generalize data.lines = ls at hG
  induction hG with
  | nil => exact Spares.nil.not_touches
  | cons l base rest ih => exact ih

theorem spares_systemAccountWrites (p : Id) (found : Bool) (a : SystemAccount) (δ : Int) :
    Spares p (systemAccountWrites found a δ) := by
  unfold systemAccountWrites
  split
  · exact .cons nofun .nil
  · exact .nil

theorem spares_refundWrites {p : Id} {w : Withdrawal} (own : p ≠ w.walletId) (clearing : Bool) :
    Spares p (refundWrites w clearing) :=
  .cons (fun same => own (AccountId.wallet.inj same).symm) (spares_systemAccountWrites p _ _ _)

theorem spares_reversedWrites (p : Id) (w : Withdrawal) : Spares p (reversedWrites w) := by
  intro s hs
  obtain ⟨id, -, rfl⟩ := List.mem_map.1 hs
  exact trivial

theorem credits_onWallet {F : List Stmt} {p : Id} {δ : Int} (h : delta Db F = onWallet p δ) :
    Credits F p δ := by
  intro col hcol
  simp only [feeColumns, List.mem_cons, List.not_mem_nil, or_false] at hcol
  rw [h]
  rcases hcol with rfl | rfl <;> simp [onWallet]

theorem credits_takeBack (fee : Int) (v : Wallet) : Credits (takeBack fee v) v.id (-fee) :=
  credits_onWallet (by simp [delta_eq_sum, Stmt.delta, takeBack, onWallet, Wallet.ledgerAccountId])

/-- What was allocated is taken back from the platform wallet that is found. -/
theorem credits_feeReversal {w : Withdrawal} {R : List Stmt} {p : Id} (h : FeeReversal w R)
    (hp : w.metadata.allocatedFee = 0 ∨ Touches p R) : Credits R p (-w.metadata.allocatedFee) := by
  cases h with
  | none h =>
    rw [allocatedFee_of_not_feeAllocated h]
    exact Spares.nil.credits
  | reverse h entry wallet clearing _ =>
    rw [allocatedFee_of_feeAllocated h] at hp ⊢
    have marked : Spares p (entry.toList.map fun id => .updateJournalEntry id .reversed) := by
      intro s hs
      obtain ⟨id, -, rfl⟩ := List.mem_map.1 hs
      exact trivial
    have clearings := spares_systemAccountWrites p clearing .bankClearing
      (w.metadata.charges.platformFee.getD 0)
    have touched := (touches_append.1 ((hp.resolve_left h.2.ne').of_append marked)).resolve_right
      clearings.not_touches
    cases wallet with
    | none => exact absurd touched Spares.nil.not_touches
    | some v =>
      have same : p = v.id := by simpa [Touches, takeBack, Stmt.updatedWallet] using touched
      have back : Credits ((some v).toList.flatMap (takeBack (w.metadata.charges.platformFee.getD 0))) p
          (-(w.metadata.charges.platformFee.getD 0)) := by
        rw [same]
        simpa using credits_takeBack (w.metadata.charges.platformFee.getD 0) v
      have := marked.credits.append (back.append clearings.credits)
      rwa [add_zero, zero_add] at this

/-- The share is credited to the platform wallet and its account. -/
theorem credits_allocation {w : Withdrawal} {payout : Payout} {v : Wallet} {new : NewEntry} {J : List Stmt}
    (h : Journal (allocationData w payout v) new J) (patch : WithdrawalPatch) :
    Credits (J ++ [.updateWallet v.id (.add (platformShare w payout)) .keep, .updateWithdrawal w patch])
      v.id (platformShare w payout) := by
  have lines : delta Db J = _ := (delta_journal h).trans (onAccounts_allocation w payout v)
  intro col hcol
  rw [deltas_append, lines, deltas_cons, deltas_cons, deltas_nil]
  simp only [feeColumns, List.mem_cons, List.not_mem_nil, or_false] at hcol
  rcases hcol with rfl | rfl <;> simp [Stmt.delta, onSystem]

/-! ## The steps of a withdrawal -/

/-- The patch leaves the type of the withdrawal as it was read. -/
def KeepsType (w : Withdrawal) (patch : WithdrawalPatch) : Prop :=
  ∀ m, patch.metadata = some m → m.type = w.metadata.type

theorem keepsType_of_none (w : Withdrawal) {patch : WithdrawalPatch} (h : patch.metadata = none) :
    KeepsType w patch := by
  intro m hm
  rw [h] at hm
  cases hm

theorem keepsType_payoutPatch (w : Withdrawal) (payout : Payout) (feeEntry : Option Id) (now : Nat) :
    KeepsType w (payoutPatch w payout feeEntry now) := by
  intro m hm
  unfold payoutPatch at hm
  split at hm <;> cases hm <;> rfl

/-- The recorded share is the one of the payout. -/
theorem allocatedFee_payoutPatch {w : Withdrawal} (payout : Payout) (feeEntry : Option Id) (now : Nat)
    (type : w.metadata.type = .organization) : ∃ m, (payoutPatch w payout feeEntry now).metadata = some m ∧
      m.allocatedFee = max 0 (platformShare w payout) := by
  rw [payoutPatch, if_pos type]
  refine ⟨_, rfl, if_pos ?_⟩
  cases w.metadata.platformFeeAllocatedAt <;> rfl

theorem feeStep_of_settlementTx {k : Settlement} {id : Id} {new : NewSettlement} {F : List Stmt}
    (h : SettlementTx k id new F) : ∃ w patch, Updates F w patch ∧ KeepsType w patch ∧ FeeStep F w patch := by
  cases h with
  | settle w v e J hw hv pending approver journal =>
    refine ⟨w, _, updates_settlementWrites _ _ w v journal, keepsType_of_none w rfl, ?_⟩
    refine .moves .processing rfl (by decide) (by simp [pending]) rfl fun p own => Spares.credits ?_
    refine .cons trivial (Spares.append ?_ ?_)
    · cases journal with
      | posted hJ =>
        refine spares_journal hJ fun l hl => ?_
        have wallet : p ≠ v.id := hv ▸ own
        simp only [Settlement.journalData, Settlement.journalLines, List.mem_cons,
          List.not_mem_nil, or_false] at hl
        rcases hl with rfl | rfl
        · intro same
          cases same
        · exact fun same => wallet (AccountId.wallet.inj same).symm
      | reused => exact .nil
    · exact .cons trivial (.cons trivial (.cons (Ne.symm own) (.cons trivial .nil)))
  | allocate w payout v J hw share unallocated journal =>
    have updates := Updates.one (A := J ++ [.updateWallet v.id (.add (platformShare w payout)) .keep])
      ((leaves_journal journal).append (.cons rfl .nil)) .nil w
      (payoutPatch w payout (some new.allocation.id) new.now)
    rw [List.append_assoc] at updates
    refine ⟨w, _, updates, keepsType_payoutPatch w payout _ _, ?_⟩
    have type : w.metadata.type = .organization := by
      by_contra other
      rw [platformShare, if_neg other] at share
      exact lt_irrefl 0 share
    obtain ⟨m, hm, fee⟩ := allocatedFee_payoutPatch payout (some new.allocation.id) new.now type
    rw [max_eq_right share.le] at fee
    refine .allocates (by rw [payoutPatch, if_pos type]) m hm unallocated (fee ▸ share) fun p own touches => ?_
    have same : p = v.id := by
      simpa [Touches, Stmt.updatedWallet] using
        (touches_append.1 touches).resolve_left (not_touches_journal journal)
    rw [fee, same]
    exact credits_allocation journal _
  | charge w payout wallet clearing hw type =>
    exact ⟨w, _, .one (leaves_chargeWrites w payout wallet clearing) .nil w _,
      keepsType_payoutPatch w payout _ _, .other type⟩
  | record w payout hw unshared equal =>
    refine ⟨w, _, .head .nil w _, keepsType_payoutPatch w payout _ _, ?_⟩
    by_cases type : w.metadata.type = .organization
    · obtain ⟨m, hm, fee⟩ := allocatedFee_payoutPatch payout none new.now type
      refine .records (by rw [payoutPatch, if_pos type]) m hm (fun unallocated => ?_)
        fun p _ => Spares.credits (.cons trivial .nil)
      rw [fee]
      exact max_eq_left (unshared.resolve_right (by simp [unallocated]))
    · exact .other type
  | compensate w clearing R hw needed reversal =>
    have leaves : LeavesWithdrawals (.updateWallet w.walletId (.add w.totalAmount) .keep ::
        (refundWrites w clearing ++ (reversedWrites w ++ R))) :=
      .cons rfl ((leaves_refundWrites w clearing).append
        ((leaves_reversedWrites w).append (leaves_feeReversal reversal)))
    refine ⟨w, _, .head leaves w failed, keepsType_of_none w rfl, ?_⟩
    refine .fails rfl (by simp [needed.1]) rfl fun p own hp => ?_
    have refund : Spares p (.updateWithdrawal w failed :: .updateWallet w.walletId (.add w.totalAmount) .keep ::
        (refundWrites w clearing ++ reversedWrites w)) :=
      .cons trivial (.cons (Ne.symm own) ((spares_refundWrites own clearing).append
        (spares_reversedWrites p w)))
    rw [← List.append_assoc, ← List.cons_append, ← List.cons_append] at hp ⊢
    have back := refund.credits.append (credits_feeReversal reversal (hp.imp_right (·.of_append refund)))
    rwa [zero_add] at back

theorem feeStep_of_webhookTx {F : List Stmt} (h : WebhookTx F) :
    ∃ w patch, Updates F w patch ∧ KeepsType w patch ∧ FeeStep F w patch := by
  cases h with
  | succeeded w processing =>
    refine ⟨w, completed, .head (.cons rfl .nil) w _, keepsType_of_none w rfl, ?_⟩
    exact .moves .completed rfl (by decide) (by simp [processing]) rfl
      fun p _ => Spares.credits (.cons trivial (.cons trivial .nil))
  | pending w open_ =>
    refine ⟨w, inProcessing, .head (.cons rfl .nil) w _, keepsType_of_none w rfl, ?_⟩
    exact .moves .processing rfl (by decide) open_.2 rfl
      fun p _ => Spares.credits (.cons trivial (.cons trivial .nil))
  | failed w v clearing R hv open_ reversal =>
    have refunded : LeavesWithdrawals (failedRefund w clearing) := by
      unfold failedRefund
      split
      · exact leaves_refundWrites w clearing
      · exact .nil
    have leaves : LeavesWithdrawals (.releaseWalletHolds w.walletId (withdrawalReason w.id) ::
        .updateWallet w.walletId (refundChange w) (.floor v.heldBalance (-w.totalAmount)) ::
        (failedRefund w clearing ++ (reversedWrites w ++ (R ++ [.createRecord .withdrawalWebhook])))) :=
      .cons rfl (.cons rfl (refunded.append ((leaves_reversedWrites w).append
        ((leaves_feeReversal reversal).append (.cons rfl .nil)))))
    refine ⟨w, FinanceService.failed, .head leaves w _, keepsType_of_none w rfl, ?_⟩
    refine .fails rfl open_ rfl fun p own hp => ?_
    have refund : Spares p (.updateWithdrawal w FinanceService.failed ::
        .releaseWalletHolds w.walletId (withdrawalReason w.id) ::
        .updateWallet w.walletId (refundChange w) (.floor v.heldBalance (-w.totalAmount)) ::
        (failedRefund w clearing ++ reversedWrites w)) := by
      refine .cons trivial (.cons trivial (.cons (Ne.symm own) (.append ?_ (spares_reversedWrites p w))))
      unfold failedRefund
      split
      · exact spares_refundWrites own clearing
      · exact .nil
    have audit : Spares p [.createRecord .withdrawalWebhook] := .cons trivial .nil
    rw [← List.append_assoc (failedRefund w clearing), ← List.cons_append, ← List.cons_append,
      ← List.cons_append] at hp ⊢
    have back := refund.credits.append ((credits_feeReversal reversal (hp.imp_right fun hp =>
      (touches_append.1 (hp.of_append refund)).resolve_right audit.not_touches)).append audit.credits)
    rwa [zero_add, add_zero] at back

theorem feeStep_of_rejectTx {id : Id} {F : List Stmt} (h : RejectTx id F) :
    ∃ w patch, Updates F w patch ∧ KeepsType w patch ∧ FeeStep F w patch := by
  obtain ⟨w, v, hw, hv, pending⟩ := h
  refine ⟨w, failed, .head (.cons rfl (.cons rfl (.cons rfl .nil))) w _, keepsType_of_none w rfl, ?_⟩
  exact .rejects rfl pending rfl fun p own =>
    Spares.credits (.cons trivial (.cons trivial (.cons (Ne.symm own) (.cons trivial .nil))))

/-- A transaction updates one withdrawal and does one of the fee steps, unless it
requests one or leaves the withdrawals alone. -/
theorem feeStep_of_onWithdrawal {F : List Stmt} (h : OnWithdrawal F) :
    LeavesWithdrawals F ∨ (∃ id amount fee, RequestTx id amount fee F) ∨
      ∃ w patch, Updates F w patch ∧ KeepsType w patch ∧ FeeStep F w patch := by
  cases h with
  | leaves h => exact .inl h
  | request h => exact .inr (.inl ⟨_, _, _, h⟩)
  | settlement h => exact .inr (.inr (feeStep_of_settlementTx h))
  | webhook h => exact .inr (.inr (feeStep_of_webhookTx h))
  | reject h => exact .inr (.inr (feeStep_of_rejectTx h))

/-! ## Runs -/

/-- What a transaction that updates withdrawal `id` adds to a column. -/
def feeOf (id : Id) (col : Col) (F : List Stmt) : Int :=
  if (firstUpdate F).any fun u => u.1.id = id then delta Db F col else 0

namespace Log

/-- What was credited for withdrawal `id`, less what was taken back. -/
def credited (log : Log) (id : Id) (col : Col) : Int := (log.map fun e => feeOf id col e.writes).sum

def timesCredited (log : Log) (id p : Id) : Nat :=
  log.countP fun e => 0 < feeOf id (.balance p) e.writes

def timesTakenBack (log : Log) (id p : Id) : Nat :=
  log.countP fun e => feeOf id (.balance p) e.writes < 0

end Log

/-- What was credited to wallet `p` for a withdrawal is what its row tells, in one credit. -/
structure FeeKept (p : Id) (log : Log) (r : Withdrawal) : Prop where
  credited : ∀ col ∈ feeColumns p, log.credited r.id col = r.netFee
  once : log.timesCredited r.id p = log.timesTakenBack r.id p + if 0 < r.netFee then 1 else 0
  pending : r.status = .pending → r.metadata.allocatedFee = 0

theorem netFee_nonneg (r : Withdrawal) : 0 ≤ r.netFee := by
  unfold Withdrawal.netFee
  split
  · exact le_refl 0
  · exact allocatedFee_nonneg _

theorem mem_feeColumns_balance (p : Id) : Col.balance p ∈ feeColumns p := List.mem_cons_self

/-- A credit of a fee that was not, a take-back of all of it, or neither. -/
theorem FeeKept.step {p : Id} {log : Log} {r r' : Withdrawal} {F : List Stmt} (h : FeeKept p log r)
    (hid : r'.id = r.id) (e : Commit Db Stmt) (he : e.writes = F)
    (credits : ∀ col ∈ feeColumns p, feeOf r.id col F = r'.netFee - r.netFee)
    (whole : r.netFee = 0 ∨ r'.netFee = 0 ∨ r'.netFee = r.netFee)
    (pending : r'.status = .pending → r'.metadata.allocatedFee = 0) : FeeKept p (log ++ [e]) r' := by
  subst he
  refine ⟨fun col hcol => ?_, ?_, pending⟩
  · rw [hid, Log.credited, List.map_append, List.sum_append, List.map_singleton, List.sum_singleton,
      credits col hcol]
    have before := h.credited col hcol
    rw [Log.credited] at before
    omega
  · have once := h.once
    have := netFee_nonneg r
    have := netFee_nonneg r'
    have change := credits _ (mem_feeColumns_balance p)
    simp only [Log.timesCredited, Log.timesTakenBack] at once
    simp only [Log.timesCredited, Log.timesTakenBack, hid, List.countP_append, List.countP_singleton, change,
      decide_eq_true_eq]
    split_ifs at once ⊢ <;> omega

/-- The transaction finds the withdrawal as it was read: the fee, and the status
if it changes it. The share is credited once, while the withdrawal has not
failed, and all credits and take-backs are on wallet `p`. -/
structure InOrder (p : Id) (d : Db) (F : List Stmt) (seen : Withdrawal) (patch : WithdrawalPatch) : Prop where
  own : seen.walletId ≠ p
  fee : ∀ r ∈ d.withdrawals.find seen.id, r.metadata.allocatedFee = seen.metadata.allocatedFee
  status : ∀ r ∈ d.withdrawals.find seen.id, patch.status.isSome = true → r.status = seen.status
  allocates : ∀ m ∈ patch.metadata, m.allocatedFee ≠ seen.metadata.allocatedFee →
    seen.metadata.platformFeeAllocatedAt = none ∧
      ∀ r ∈ d.withdrawals.find seen.id, r.status ≠ .failed ∧ r.status ≠ .pending
  platform : (∃ m ∈ patch.metadata, m.allocatedFee ≠ seen.metadata.allocatedFee) ∨
    patch.status = some .failed ∧ seen.metadata.allocatedFee ≠ 0 → Touches p F

instance (p : Id) (d : Db) (F : List Stmt) (seen : Withdrawal) (patch : WithdrawalPatch) :
    Decidable (InOrder p d F seen patch) :=
  decidable_of_iff (seen.walletId ≠ p ∧
    (∀ r ∈ d.withdrawals.find seen.id, r.metadata.allocatedFee = seen.metadata.allocatedFee) ∧
    (∀ r ∈ d.withdrawals.find seen.id, patch.status.isSome = true → r.status = seen.status) ∧
    (∀ m ∈ patch.metadata, m.allocatedFee ≠ seen.metadata.allocatedFee →
      seen.metadata.platformFeeAllocatedAt = none ∧
        ∀ r ∈ d.withdrawals.find seen.id, r.status ≠ .failed ∧ r.status ≠ .pending) ∧
    ((∃ m ∈ patch.metadata, m.allocatedFee ≠ seen.metadata.allocatedFee) ∨
      patch.status = some .failed ∧ seen.metadata.allocatedFee ≠ 0 → Touches p F))
    ⟨fun ⟨h₁, h₂, h₃, h₄, h₅⟩ => ⟨h₁, h₂, h₃, h₄, h₅⟩, fun h => ⟨h.own, h.fee, h.status, h.allocates, h.platform⟩⟩

/-- Every transaction on an organisation withdrawal is in order. -/
def KeepsFee (p : Id) (c : System) : Effect Stmt Call → Prop
  | .commit _ _ F => ∀ u ∈ firstUpdate F, u.1.metadata.type = .organization → InOrder p c.db F u.1 u.2
  | _ => True

instance (p : Id) (c : System) (eff : Effect Stmt Call) : Decidable (KeepsFee p c eff) :=
  match eff with
  | .commit _ _ F => inferInstanceAs (Decidable (∀ u ∈ firstUpdate F,
      u.1.metadata.type = .organization → InOrder p c.db F u.1 u.2))
  | .internal | .fault .. | .called .. | .unsent .. => isTrue trivial

/-- The fees of all organisation withdrawals are kept, and nothing was credited for
a withdrawal that does not exist. -/
structure FeesKept (p : Id) (d : Db) (log : Log) : Prop where
  absent : ∀ id, d.withdrawals.find id = none → ∀ e ∈ log, ∀ col, feeOf id col e.writes = 0
  present : ∀ id r, d.withdrawals.find id = some r → r.metadata.type = .organization → FeeKept p log r

theorem netFee_of_not_failed {r : Withdrawal} (h : r.status ≠ .failed) : r.netFee = r.metadata.allocatedFee :=
  if_neg h

theorem netFee_of_failed {r : Withdrawal} (h : r.status = .failed) : r.netFee = 0 := if_pos h

theorem allocatedFee_of_unallocated {m : WithdrawalMetadata} (h : m.platformFeeAllocatedAt = none) :
    m.allocatedFee = 0 := by
  rw [WithdrawalMetadata.allocatedFee, h]
  rfl

/-- A transaction in order keeps the fee of the withdrawal that it updates. -/
theorem FeeKept.of_feeStep {p : Id} {d : Db} {log : Log} {F : List Stmt} {w r : Withdrawal}
    {patch first : WithdrawalPatch} (h : FeeKept p log r) (step : FeeStep F w patch)
    (hr : d.withdrawals.find w.id = some r) (hid : r.id = w.id) (type : w.metadata.type = .organization)
    (hfirst : firstUpdate F = some (w, first)) (hs : first.status = patch.status)
    (hm : first.metadata = patch.metadata) (order : InOrder p d F w first) (e : Commit Db Stmt)
    (he : e.writes = F) : FeeKept p (log ++ [e]) (patch.apply r) := by
  obtain ⟨own, fee, status, allocates, platform⟩ := order
  rw [hs] at status platform
  rw [hm] at allocates platform
  have fee := fee r hr
  have feeOf_eq (col : Col) : feeOf r.id col F = delta Db F col := by
    simp [feeOf, hfirst, hid]
  have id' : (patch.apply r).id = r.id := rfl
  have status' : (patch.apply r).status = patch.status.getD r.status := rfl
  have metadata' : (patch.apply r).metadata = patch.metadata.getD r.metadata := rfl
  cases step with
  | moves s hstatus ahead was metadata credits =>
    have open_ : r.status ≠ .failed := status r hr (by simp [hstatus]) ▸ was
    have same : (patch.apply r).netFee = r.netFee := by
      rw [netFee_of_not_failed open_, netFee_of_not_failed (by simp [status', hstatus, ahead.1]), metadata',
        metadata]
      rfl
    refine h.step id' e he (fun col hcol => ?_) (.inr (.inr same)) fun pending => ?_
    · rw [feeOf_eq, credits p own.symm col hcol, same, sub_self]
    · rw [status', hstatus] at pending
      exact absurd pending ahead.2
  | rejects hstatus was metadata credits =>
    have pending : r.status = .pending := (status r hr (by simp [hstatus])).trans was
    have before : r.netFee = 0 := by
      rw [netFee_of_not_failed (by simp [pending]), h.pending pending]
    have after : (patch.apply r).netFee = 0 := netFee_of_failed (by rw [status', hstatus]; rfl)
    refine h.step id' e he (fun col hcol => ?_) (.inl before) fun pending' => ?_
    · rw [feeOf_eq, credits p own.symm col hcol, before, after, sub_self]
    · rw [status', hstatus] at pending'
      cases pending'
  | fails hstatus was metadata credits =>
    have open_ : r.status ≠ .failed := status r hr (by simp [hstatus]) ▸ was
    have after : (patch.apply r).netFee = 0 := netFee_of_failed (by rw [status', hstatus]; rfl)
    refine h.step id' e he (fun col hcol => ?_) (.inr (.inl after)) fun pending' => ?_
    · have touches : w.metadata.allocatedFee = 0 ∨ Touches p F := by
        by_cases none : w.metadata.allocatedFee = 0
        · exact .inl none
        · exact .inr (platform (.inr ⟨hstatus, none⟩))
      rw [feeOf_eq, credits p own.symm touches col hcol, after, netFee_of_not_failed open_, fee, zero_sub]
    · rw [status', hstatus] at pending'
      cases pending'
  | records hstatus m metadata kept credits =>
    have equal : m.allocatedFee = w.metadata.allocatedFee := by
      by_contra differs
      obtain ⟨unallocated, -⟩ := allocates m metadata differs
      exact differs ((kept unallocated).trans (allocatedFee_of_unallocated unallocated).symm)
    have allocated : (patch.apply r).metadata.allocatedFee = r.metadata.allocatedFee := by
      rw [metadata', metadata, Option.getD_some, equal, fee]
    have moved : (patch.apply r).status = r.status := by rw [status', hstatus]; rfl
    have same : (patch.apply r).netFee = r.netFee := by
      rw [Withdrawal.netFee, Withdrawal.netFee, moved, allocated]
    refine h.step id' e he (fun col hcol => ?_) (.inr (.inr same)) fun pending => ?_
    · rw [feeOf_eq, credits p own.symm col hcol, same, sub_self]
    · rw [allocated]
      exact h.pending (moved ▸ pending)
  | allocates hstatus m metadata unallocated positive credits =>
    have none : w.metadata.allocatedFee = 0 := allocatedFee_of_unallocated unallocated
    have differs : m.allocatedFee ≠ w.metadata.allocatedFee := none ▸ positive.ne'
    obtain ⟨-, live⟩ := allocates m metadata differs
    obtain ⟨open_, settled⟩ := live r hr
    have moved : (patch.apply r).status = r.status := by rw [status', hstatus]; rfl
    have before : r.netFee = 0 := by rw [netFee_of_not_failed open_, fee, none]
    have after : (patch.apply r).netFee = m.allocatedFee := by
      rw [netFee_of_not_failed (moved ▸ open_), metadata', metadata, Option.getD_some]
    refine h.step id' e he (fun col hcol => ?_) (.inl before) fun pending => ?_
    · have touches : Touches p F := platform (.inl ⟨m, metadata, differs⟩)
      rw [feeOf_eq, credits p own.symm touches col hcol, before, after, sub_zero]
    · exact absurd (moved ▸ pending) settled
  | other other => exact absurd type other

theorem feeOf_of_none {F : List Stmt} (h : firstUpdate F = none) (id : Id) (col : Col) : feeOf id col F = 0 := by
  rw [feeOf, h]
  rfl

theorem feeOf_of_ne {F : List Stmt} {w : Withdrawal} {first : WithdrawalPatch} (h : firstUpdate F = some (w, first))
    {id : Id} (hid : id ≠ w.id) (col : Col) : feeOf id col F = 0 := by
  rw [feeOf, h, if_neg]
  simpa using Ne.symm hid

/-- A transaction that adds nothing for the withdrawal. -/
theorem FeeKept.idle {p : Id} {log : Log} {r : Withdrawal} (h : FeeKept p log r) (e : Commit Db Stmt)
    (idle : ∀ col, feeOf r.id col e.writes = 0) : FeeKept p (log ++ [e]) r :=
  h.step rfl e rfl (fun col _ => by rw [idle, sub_self]) (.inr (.inr rfl)) h.pending

/-- A new withdrawal, for which nothing was credited. -/
theorem FeeKept.of_idle {p : Id} {log : Log} {w : Withdrawal} (pending : w.status = .pending)
    (unallocated : w.metadata.platformFeeAllocatedAt = none)
    (idle : ∀ e ∈ log, ∀ col, feeOf w.id col e.writes = 0) : FeeKept p log w := by
  have none : w.metadata.allocatedFee = 0 := allocatedFee_of_unallocated unallocated
  have net : w.netFee = 0 := by rw [netFee_of_not_failed (by simp [pending]), none]
  refine ⟨fun col _ => ?_, ?_, fun _ => none⟩
  · rw [net, Log.credited, List.map_congr_left fun e he => idle e he col]
    simp
  · have never (q : Commit Db Stmt → Bool) (hq : ∀ e ∈ log, q e = false) : log.countP q = 0 :=
      List.countP_eq_zero.2 fun e he => by simp [hq e he]
    rw [net, Log.timesCredited, Log.timesTakenBack, never _ fun e he => by simp [idle e he],
      never _ fun e he => by simp [idle e he]]
    rfl

/-- A transaction that updates no withdrawal keeps the fees of those that were there. -/
theorem FeesKept.idle {p : Id} {d d' : Db} {log : Log} (h : FeesKept p d log) (e : Commit Db Stmt)
    (idle : firstUpdate e.writes = none) (grows : ∀ id r, d'.withdrawals.find id = some r →
      d.withdrawals.find id = some r ∨
        d.withdrawals.find id = none ∧ r.id = id ∧ r.status = .pending ∧
          r.metadata.platformFeeAllocatedAt = none)
    (absent : ∀ id, d'.withdrawals.find id = none → d.withdrawals.find id = none) :
    FeesKept p d' (log ++ [e]) := by
  have still {id : Id} (hid : d.withdrawals.find id = none) :
      ∀ e' ∈ log ++ [e], ∀ col, feeOf id col e'.writes = 0 := by
    intro e' he' col
    rcases List.mem_append.1 he' with he' | he'
    · exact h.absent id hid e' he' col
    · rw [List.mem_singleton.1 he']
      exact feeOf_of_none idle id col
  refine ⟨fun id hid => still (absent id hid), fun id r hr type => ?_⟩
  rcases grows id r hr with hr | ⟨hid, rfl, pending, unallocated⟩
  · exact (h.present id r hr type).idle e (feeOf_of_none idle r.id)
  · exact .of_idle pending unallocated (still hid)

/-- A committed transaction in order keeps all fees. -/
theorem FeesKept.step {p : Id} {d : Db} {log : Log} {F : List Stmt} (h : FeesKept p d log)
    (on : OnWithdrawal F) (valid : violation F d = none)
    (order : ∀ u ∈ firstUpdate F, u.1.metadata.type = .organization → InOrder p d F u.1 u.2) (i : Nat) :
    FeesKept p (applyAll F d) (log ++ [⟨i, F, d⟩]) := by
  rcases feeStep_of_onWithdrawal on with leaves | ⟨id, amount, fee, request⟩ | ⟨w, patch, updates, keeps, step⟩
  · refine h.idle _ (firstUpdate_of_leaves leaves) (fun id r hr => .inl ?_) fun id hid => ?_
    · rwa [leaves.withdrawals] at hr
    · rwa [leaves.withdrawals] at hid
  · obtain ⟨idle, creates⟩ := creates_of_requestTx request
    obtain ⟨w, requested, free, find⟩ := creates d valid
    refine h.idle _ idle (fun id r hr => ?_) fun id hid => ?_
    · rw [find] at hr
      split at hr
      · rename_i hid
        obtain rfl := Option.some.inj hr
        exact .inr ⟨hid ▸ free, hid, requested.pending, requested.unallocated⟩
      · exact .inl hr
    · rw [find] at hid
      split at hid
      · cases hid
      · exact hid
  · obtain ⟨first, hfirst, hs, hm⟩ := updates.first
    obtain ⟨r, hr, same⟩ := updates.same d valid
    have hid : r.id = w.id := Table.find_key hr
    refine ⟨fun id absent e he col => ?_, fun id r' hr' type => ?_⟩
    · rw [updates.find] at absent
      have other : id ≠ w.id := by
        rintro rfl
        simp [hr] at absent
      rw [if_neg other] at absent
      rcases List.mem_append.1 he with he | he
      · exact h.absent id absent e he col
      · rw [List.mem_singleton.1 he]
        exact feeOf_of_ne hfirst other col
    · rw [updates.find] at hr'
      by_cases this : id = w.id
      · rw [if_pos this, this, hr, Option.map_some, Option.some.injEq] at hr'
        subst hr'
        have organization : w.metadata.type = .organization := by
          cases hpatch : patch.metadata with
          | none => exact same.2.2.2.2 ▸ (by simpa [WithdrawalPatch.apply, hpatch] using type)
          | some m => exact keeps m hpatch ▸ (by simpa [WithdrawalPatch.apply, hpatch] using type)
        have before := h.present w.id r hr (same.2.2.2.2.trans organization)
        exact before.of_feeStep step hr hid organization hfirst hs hm
          (order _ (Option.mem_def.2 hfirst) organization) ⟨i, F, d⟩ rfl
      · rw [if_neg this] at hr'
        have key : r'.id = id := Table.find_key hr'
        exact (h.present id r' hr' type).idle _ (feeOf_of_ne hfirst (key ▸ this))

/-- **Platform fees.** In a run whose transactions on organisation withdrawals are
in order, what is credited to the platform wallet and to its account for a
withdrawal, less what is taken back, is the share in its row, credited once; when
it has failed, nothing. -/
theorem platform_fee_at_most_once {p : Id} {db : Db} {ext : Services} {ops : List Op} {c : System}
    (unallocated : ∀ r ∈ db.withdrawals.rows, r.metadata.platformFeeAllocatedAt = none)
    (run : Reaches (KeepsFee p) (start db ext ops) c) {r : Withdrawal} (hr : r ∈ c.db.withdrawals.rows)
    (type : r.metadata.type = .organization) :
    (∀ col ∈ feeColumns p, Log.credited c.log r.id col =
      if r.status = .failed then 0 else r.metadata.allocatedFee) ∧
    Log.timesCredited c.log r.id p = Log.timesTakenBack c.log r.id p +
      if r.status = .failed ∨ r.metadata.allocatedFee = 0 then 0 else 1 := by
  have kept : FeesKept p c.db c.log := by
    refine run.induct (FeesKept p) ⟨nofun, fun id r hr _ => ?_⟩ fun _ commits valid order h =>
      h.step (Op.onWithdrawal_of_commits commits) valid order _
    have none := allocatedFee_of_unallocated (unallocated r (Table.find_mem hr))
    have net : r.netFee = 0 := by
      unfold Withdrawal.netFee
      split
      · rfl
      · exact none
    exact ⟨fun _ _ => net.symm, by rw [net]; rfl, fun _ => none⟩
  have h := kept.present r.id r (Table.find_of_mem hr) type
  refine ⟨h.credited, ?_⟩
  rw [h.once]
  have := allocatedFee_nonneg r.metadata
  by_cases failed : r.status = .failed
  · rw [netFee_of_failed failed, if_pos (Or.inl failed)]
    rfl
  · rw [netFee_of_not_failed failed]
    simp only [failed, false_or]
    split_ifs <;> omega

/-- An organisation with 10000 Naira, its admin, and the platform wallet `40`. -/
def association : Db where
  users := [.ofNat 1]
  organizations := [{ id := .ofNat 10 }]
  admins := [{ userId := .ofNat 1, adminType := .organizationAdmin, organizationId := some (.ofNat 10) }]
  bankAccounts := Table.empty.insert
    { id := .ofNat 30, userId := .ofNat 1, bankCode := some "044", payoutDestinationId := some "dest" }
  wallets := (Table.empty.insert
    { id := .ofNat 20, organizationId := some (.ofNat 10), balance := 1000000 }).insert
      { id := .ofNat 40, isPlatformWallet := true }
  ledgerAccounts := ((Table.empty.insert { id := .wallet (.ofNat 20), balance := 1000000 }).insert
    { id := .wallet (.ofNat 40) }).insert { id := .system .bankClearing }

theorem nonneg_fees : 0 ≤ (15 / 2 / 100 : ℚ) ∧ (0 : Int) ≤ 10000 ∧ 0 ≤ (3 / 2 / 100 : ℚ) := by norm_num

/-- The admin withdraws 500 Naira, and the provider's first webhook arrives. -/
def withdrawalAndWebhook : List Op :=
  [.requestOrganizationWithdrawal { nonneg := nonneg_fees } (.ofNat 1) (.ofNat 10)
      { bankAccountId := .ofNat 30, amount := 50000 } ⟨.ofNat 21, .ofNat 50, .ofNat 51, "1"⟩
      ⟨1000, ⟨.ofNat 60, "JE_1"⟩, ⟨.ofNat 61, "JE_2"⟩, .ofNat 41⟩,
    .deliverWebhook 0]

/-- The payout fails after it was recorded: the share is credited and taken back. -/
theorem fee_taken_back : ∃ c r, Reaches (KeepsFee (.ofNat 40)) (start association {} withdrawalAndWebhook) c ∧
    r ∈ c.db.withdrawals.rows ∧ r.status = .failed ∧ Log.timesCredited c.log r.id (.ofNat 40) = 1 ∧
    ∀ col ∈ feeColumns (.ofNat 40), Log.credited c.log r.id col = 0 := by
  obtain ⟨c, run, r, hr, failed, type, credited⟩ := Reaches.of_replay_any (KeepsFee (.ofNat 40))
    (start association {} withdrawalAndWebhook)
    (turns [(0, 90)] ++ [.move (.refuse 0), .move (.announce 0)] ++ turns [(1, 24)])
    (fun c : System => ∃ r ∈ c.db.withdrawals.rows, r.status = .failed ∧ r.metadata.type = .organization ∧
      Log.timesCredited c.log r.id (.ofNat 40) = 1) (by decide +kernel)
  refine ⟨c, r, run, hr, failed, credited, fun col hcol => ?_⟩
  have before : ∀ r ∈ association.withdrawals.rows, r.metadata.platformFeeAllocatedAt = none := by decide
  exact ((platform_fee_at_most_once before run hr type).1 col hcol).trans (if_pos failed)

/-- The payout fails before it is recorded: the share stays credited for a failed withdrawal. -/
theorem fee_of_failed_withdrawal : ∃ c : System,
    Reaches (fun _ _ => True) (start association {} withdrawalAndWebhook) c ∧
    ∃ r ∈ c.db.withdrawals.rows, r.status = .failed ∧ r.metadata.type = .organization ∧
      Log.credited c.log r.id (.balance (.ofNat 40)) = 5000 ∧ c.db.value (.balance (.ofNat 40)) = 5000 :=
  Reaches.of_replay_any (fun _ _ => True) (start association {} withdrawalAndWebhook)
    (turns [(0, 57)] ++ [.move (.refuse 0), .move (.announce 0)] ++ turns [(1, 20), (0, 18)])
    (fun c : System => ∃ r ∈ c.db.withdrawals.rows, r.status = .failed ∧ r.metadata.type = .organization ∧
      Log.credited c.log r.id (.balance (.ofNat 40)) = 5000 ∧ c.db.value (.balance (.ofNat 40)) = 5000)
    (by decide +kernel)

end Heightt
