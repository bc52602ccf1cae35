import Heightt.Runs.PlatformFee

/-!
# The money of a withdrawal

A settlement debits the wallet with the amount and the fee, the recorded payout corrects the fee, and a
failure gives back what the settlement took. Each acts on a row that was read before. In a run in which
every step on a withdrawal finds its row as it read it, and the provider's reports come in their time, what
a withdrawal has taken from its wallet is its amount and its fee while it is in processing or completed,
and nothing otherwise.
-/

namespace Heightt

open ReadCommitted Store Database WalletService LedgerService FinanceService WithdrawalWebhookService

/-! ## What a transaction adds to the wallet -/

/-- What should have been added to the wallet for the withdrawal. -/
def Withdrawal.net (w : Withdrawal) : Int :=
  if w.status = .processing ∨ w.status = .completed then -w.totalAmount else 0

theorem net_of_debited {w : Withdrawal} (h : w.status = .processing ∨ w.status = .completed) : w.net = -w.totalAmount :=
  if_pos h

theorem net_of_free {w : Withdrawal} (processing : w.status ≠ .processing) (completed : w.status ≠ .completed) :
    w.net = 0 :=
  if_neg fun h => h.elim processing completed

/-- How often the statements update wallet `p`. -/
def timesTouched (p : Id) (F : List Stmt) : Nat := (F.filterMap Stmt.updatedWallet).count p

/-- Statements that do not update the wallet. -/
theorem delta_of_untouched {p : Id} {F : List Stmt} (h : timesTouched p F = 0) : delta Db F (.balance p) = 0 := by
  unfold timesTouched at h
  induction F with
  | nil => rfl
  | cons s F ih =>
    rw [deltas_cons, Pi.add_apply]
    cases s with
    | updateWallet id balance held =>
      have first : (Stmt.updateWallet id balance held :: F).filterMap Stmt.updatedWallet =
          id :: F.filterMap Stmt.updatedWallet := rfl
      rw [first, List.count_cons, Nat.add_eq_zero_iff] at h
      have other : id ≠ p := by
        intro same
        simp [same] at h
      rw [ih h.1, add_zero]
      simp [Stmt.delta, Ne.symm other]
    | updateLedgerAccount a balance =>
      rw [ih h, add_zero]
      simp [Stmt.delta]
    | _ => exact (ih h).symm ▸ rfl

theorem balance_journal {data : JournalData} {new : NewEntry} {J : List Stmt} (h : Journal data new J) (p : Id) :
    delta Db J (.balance p) = 0 := by
  rw [delta_journal h]
  rfl

theorem balance_settlementJournal {data : JournalData} {new : NewEntry} {e : JournalEntry} {J : List Stmt}
    (h : SettlementJournal data new e J) (p : Id) : delta Db J (.balance p) = 0 := by
  cases h with
  | posted h => exact balance_journal h p
  | reused h matching => rfl

theorem balance_settlementWrites (k : Settlement) (now : Nat) (w : Withdrawal) (v : Wallet) {data : JournalData}
    {new : NewEntry} {e : JournalEntry} {J : List Stmt} (journal : SettlementJournal data new e J) :
    delta Db (settlementWrites k now w v e J) (.balance w.walletId) = -w.totalAmount := by
  have lines := balance_settlementJournal journal w.walletId
  simp [settlementWrites, change, Stmt.change, lines]

theorem balance_chargeWrites (w : Withdrawal) (payout : Payout) (wallet clearing : Bool) :
    delta Db (chargeWrites w payout wallet clearing) (.balance w.walletId) = -feeDifference w payout := by
  rw [delta_chargeWrites]
  cases wallet <;> cases clearing <;> simp [ifFound, onSystem]

theorem balance_refundWrites (w : Withdrawal) (clearing : Bool) (p : Id) :
    delta Db (refundWrites w clearing) (.balance p) = 0 := by
  cases clearing <;> simp [refundWrites, systemAccountWrites, change, Stmt.change]

theorem balance_reversedWrites (w : Withdrawal) (p : Id) : delta Db (reversedWrites w) (.balance p) = 0 := by
  rw [(movesNothing_reversedWrites w).delta]
  rfl

/-- What a transaction that updates withdrawal `w` adds to its wallet. -/
inductive MoneyStep (F : List Stmt) (w : Withdrawal) (patch : WithdrawalPatch) : Prop where
  | settles (was : w.status = .pending) (status : patch.status = some .processing) (fee : patch.fee = none)
    (added : delta Db F (.balance w.walletId) = -w.totalAmount)
  | completes (was : w.status = .processing) (status : patch.status = some .completed) (fee : patch.fee = none)
    (added : delta Db F (.balance w.walletId) = 0)
  /-- The provider reports that the payout is pending. -/
  | reported (status : patch.status = some .processing) (fee : patch.fee = none) (time : patch.processedAt = none)
    (added : delta Db F (.balance w.walletId) = 0)
  | fails (status : patch.status = some .failed) (fee : patch.fee = none)
    (added : timesTouched w.walletId F ≤ 1 →
      delta Db F (.balance w.walletId) = if w.status = .processing then w.totalAmount else 0)
  /-- The payout is recorded, with the fee that it costs. -/
  | records (fee : Int) (status : patch.status = none) (written : patch.fee = some fee)
    (added : (w.metadata.type = .organization → timesTouched w.walletId F = 0) →
      delta Db F (.balance w.walletId) = w.fee - fee)

theorem timesTouched_append (p : Id) (F G : List Stmt) :
    timesTouched p (F ++ G) = timesTouched p F + timesTouched p G := by
  unfold timesTouched
  rw [List.filterMap_append, List.count_append]

theorem fee_payoutPatch (w : Withdrawal) (payout : Payout) (feeEntry : Option Id) (now : Nat) :
    (payoutPatch w payout feeEntry now).status = none ∧ (payoutPatch w payout feeEntry now).fee =
      some (if w.metadata.type = .organization then w.fee else providerFee w payout) := by
  unfold payoutPatch
  split <;> exact ⟨rfl, rfl⟩

/-- What follows the first statement and the refund is about other wallets. -/
theorem untouched_of_once {w : Withdrawal} {balance held : Change} {A G : List Stmt}
    (once : timesTouched w.walletId (A ++ .updateWallet w.walletId balance held :: G) ≤ 1) :
    timesTouched w.walletId G = 0 := by
  have one : timesTouched w.walletId (.updateWallet w.walletId balance held :: G) = timesTouched w.walletId G + 1 := by
    have first : (Stmt.updateWallet w.walletId balance held :: G).filterMap Stmt.updatedWallet =
        w.walletId :: G.filterMap Stmt.updatedWallet := rfl
    rw [timesTouched, first, List.count_cons_self]
    rfl
  rw [timesTouched_append, one] at once
  omega

/-- A transaction that updates withdrawal `w`, first with `patch`. -/
structure MoneyUpdate (F : List Stmt) (w : Withdrawal) (patch : WithdrawalPatch) : Prop where
  first : firstUpdate F = some (w, patch)
  updates : ∃ both, Updates F w both ∧ both.status = patch.status ∧ both.fee = patch.fee
  step : MoneyStep F w patch

theorem MoneyUpdate.head {w : Withdrawal} {patch : WithdrawalPatch} {G : List Stmt} (leaves : LeavesWithdrawals G)
    (step : MoneyStep (.updateWithdrawal w patch :: G) w patch) :
    MoneyUpdate (.updateWithdrawal w patch :: G) w patch :=
  ⟨rfl, ⟨patch, .head leaves w patch, rfl, rfl⟩, step⟩

theorem MoneyUpdate.last {w : Withdrawal} {patch : WithdrawalPatch} {A : List Stmt} (leaves : LeavesWithdrawals A)
    (step : MoneyStep (A ++ [.updateWithdrawal w patch]) w patch) :
    MoneyUpdate (A ++ [.updateWithdrawal w patch]) w patch :=
  ⟨firstUpdate_append leaves, ⟨patch, .one leaves .nil w patch, rfl, rfl⟩, step⟩

theorem MoneyStep.payout {A : List Stmt} {w : Withdrawal} (payout : Payout) (feeEntry : Option Id) (now : Nat)
    (added : (w.metadata.type = .organization →
        timesTouched w.walletId (A ++ [.updateWithdrawal w (payoutPatch w payout feeEntry now)]) = 0) →
      delta Db A (.balance w.walletId) =
        w.fee - if w.metadata.type = .organization then w.fee else providerFee w payout) :
    MoneyStep (A ++ [.updateWithdrawal w (payoutPatch w payout feeEntry now)]) w
      (payoutPatch w payout feeEntry now) := by
  obtain ⟨status, fee⟩ := fee_payoutPatch w payout feeEntry now
  refine .records _ status fee fun spared => ?_
  rw [delta_append, added spared]
  exact add_zero _

theorem moneyUpdate_of_settlementTx {k : Settlement} {id : Id} {new : NewSettlement} {F : List Stmt}
    (h : SettlementTx k id new F) : ∃ w patch, MoneyUpdate F w patch := by
  cases h with
  | settle w v e J hw hv pending approver journal =>
    refine ⟨w, processing new.now, rfl, ⟨_, updates_settlementWrites k new.now w v journal, rfl, rfl⟩, ?_⟩
    exact .settles pending rfl rfl (balance_settlementWrites k new.now w v journal)
  | allocate w payout p J hw share unallocated journal =>
    have leaves : LeavesWithdrawals (J ++ [.updateWallet p.id (.add (platformShare w payout)) .keep]) :=
      (leaves_journal journal).append (.cons rfl .nil)
    have type : w.metadata.type = .organization := by
      by_contra other
      rw [platformShare, if_neg other] at share
      exact lt_irrefl 0 share
    have recorded := MoneyUpdate.last (w := w) leaves (.payout payout (some new.allocation.id) new.now fun spared => ?_)
    · rw [List.append_assoc] at recorded
      exact ⟨w, _, recorded⟩
    · have untouched := spared type
      rw [timesTouched_append, Nat.add_eq_zero_iff] at untouched
      rw [delta_of_untouched untouched.1, if_pos type, sub_self]
  | charge w payout wallet clearing hw type =>
    refine ⟨w, _, .last (leaves_chargeWrites w payout wallet clearing) (.payout payout none new.now fun _ => ?_)⟩
    rw [balance_chargeWrites, if_neg type, feeDifference]
    omega
  | record w payout hw unshared equal =>
    refine ⟨w, _, .last (A := []) .nil (.payout payout none new.now fun _ => ?_)⟩
    split
    · exact (sub_self _).symm
    · rename_i other
      have same := equal other
      rw [feeDifference] at same
      show (0 : Int) = _
      omega
  | compensate w clearing R hw needed reversal =>
    refine ⟨w, failed, .head (.cons rfl ((leaves_refundWrites w clearing).append
      ((leaves_reversedWrites w).append (leaves_feeReversal reversal)))) (.fails rfl rfl fun once => ?_)⟩
    have rest := untouched_of_once (A := [.updateWithdrawal w failed]) once
    rw [delta_cons, delta_cons, delta_of_untouched rest, if_pos needed.1]
    simp [change, Stmt.change]

theorem moneyUpdate_of_webhookTx {F : List Stmt} (h : WebhookTx F) : ∃ w patch, MoneyUpdate F w patch := by
  cases h with
  | succeeded w processing =>
    exact ⟨w, completed, .head (.cons rfl .nil) (.completes processing rfl rfl rfl)⟩
  | pending w open_ => exact ⟨w, inProcessing, .head (.cons rfl .nil) (.reported rfl rfl rfl rfl)⟩
  | failed w v clearing R hv open_ reversal =>
    have refunded : LeavesWithdrawals (failedRefund w clearing) := by
      unfold failedRefund
      split
      · exact leaves_refundWrites w clearing
      · exact .nil
    refine ⟨w, FinanceService.failed, .head (.cons rfl (.cons rfl (refunded.append ((leaves_reversedWrites w).append
      ((leaves_feeReversal reversal).append (.cons rfl .nil)))))) (.fails rfl rfl fun once => ?_)⟩
    have rest := untouched_of_once (A := [.updateWithdrawal w FinanceService.failed,
      .releaseWalletHolds w.walletId (withdrawalReason w.id)]) once
    rw [delta_cons, delta_cons, delta_cons, delta_of_untouched rest]
    unfold refundChange
    split <;> simp [change, Stmt.change]

theorem moneyUpdate_of_rejectTx {id : Id} {F : List Stmt} (h : RejectTx id F) : ∃ w patch, MoneyUpdate F w patch := by
  obtain ⟨w, v, hw, hv, pending⟩ := h
  refine ⟨w, failed, .head (.cons rfl (.cons rfl (.cons rfl .nil))) (.fails rfl rfl fun _ => ?_)⟩
  rw [pending]
  simp [change, Stmt.change]

/-- A transaction leaves the withdrawals alone, requests one, or updates one. -/
theorem moneyUpdate_of_onWithdrawal {F : List Stmt} (h : OnWithdrawal F) :
    LeavesWithdrawals F ∨ (∃ id amount fee, RequestTx id amount fee F) ∨ ∃ w patch, MoneyUpdate F w patch := by
  cases h with
  | leaves h => exact .inl h
  | request h => exact .inr (.inl ⟨_, _, _, h⟩)
  | settlement h => exact .inr (.inr (moneyUpdate_of_settlementTx h))
  | webhook h => exact .inr (.inr (moneyUpdate_of_webhookTx h))
  | reject h => exact .inr (.inr (moneyUpdate_of_rejectTx h))

/-! ## The runs -/

/-- The step on withdrawal `w` comes in its time: the provider reports a payout as pending while the withdrawal
is in processing, and as failed before it is completed, and it is recorded in one of these states. The
wallet is updated once, and not with the share of an organisation's fee. -/
structure InTime (F : List Stmt) (w : Withdrawal) (patch : WithdrawalPatch) : Prop where
  once : timesTouched w.walletId F ≤ if patch.status = none ∧ w.metadata.type = .organization then 0 else 1
  reported : patch.status = some .processing → patch.processedAt = none → w.status = .processing
  failed : patch.status = some .failed → w.status ≠ .completed
  recorded : patch.fee.isSome → w.status = .processing ∨ w.status = .completed

instance (F : List Stmt) (w : Withdrawal) (patch : WithdrawalPatch) : Decidable (InTime F w patch) :=
  decidable_of_iff
    (timesTouched w.walletId F ≤ (if patch.status = none ∧ w.metadata.type = .organization then 0 else 1) ∧
      (patch.status = some .processing → patch.processedAt = none → w.status = .processing) ∧
      (patch.status = some .failed → w.status ≠ .completed) ∧
      (patch.fee.isSome → w.status = .processing ∨ w.status = .completed))
    ⟨fun ⟨h₁, h₂, h₃, h₄⟩ => ⟨h₁, h₂, h₃, h₄⟩, fun h => ⟨h.once, h.reported, h.failed, h.recorded⟩⟩

/-- Each step on a withdrawal finds its row as it was read, and comes in its time. -/
def FindsWithdrawal (c : System) : Effect Stmt Call → Prop
  | .commit _ _ F => ∀ u ∈ firstUpdate F, c.db.withdrawals.find u.1.id = some u.1 ∧ InTime F u.1 u.2
  | _ => True

instance (c : System) (eff : Effect Stmt Call) : Decidable (FindsWithdrawal c eff) :=
  match eff with
  | .commit _ _ F => inferInstanceAs (Decidable (∀ u ∈ firstUpdate F, c.db.withdrawals.find u.1.id = some u.1 ∧
      InTime F u.1 u.2))
  | .internal | .fault .. | .called .. | .unsent .. => isTrue trivial

/-- What the withdrawals have taken from their wallets is what their rows tell. -/
structure MoneyKept (d : Db) (log : Log) : Prop where
  absent : ∀ id, d.withdrawals.find id = none → ∀ e ∈ log, ∀ col, feeOf id col e.writes = 0
  present : ∀ id r, d.withdrawals.find id = some r → log.credited r.id (.balance r.walletId) = r.net

theorem credited_append (log : Log) (e : Commit Db Stmt) (id : Id) (col : Col) :
    Log.credited (log ++ [e]) id col = Log.credited log id col + feeOf id col e.writes := by
  unfold Log.credited
  rw [List.map_append, List.sum_append, List.map_singleton, List.sum_singleton]

/-- The row tells what was added to the wallet. -/
theorem MoneyStep.net {F : List Stmt} {w : Withdrawal} {patch both : WithdrawalPatch} (step : MoneyStep F w patch)
    (time : InTime F w patch) (status : both.status = patch.status) (fee : both.fee = patch.fee) :
    (both.apply w).net = w.net + delta Db F (.balance w.walletId) := by
  have status' : (both.apply w).status = patch.status.getD w.status := status ▸ rfl
  have total : (both.apply w).totalAmount = w.amount + patch.fee.getD w.fee := fee ▸ rfl
  cases step with
  | settles was moved kept added =>
    rw [moved] at status'
    rw [kept] at total
    rw [net_of_debited (.inl status'), total, added, net_of_free (by simp [was]) (by simp [was]), zero_add]
    rfl
  | completes was moved kept added =>
    rw [moved] at status'
    rw [kept] at total
    rw [net_of_debited (.inr status'), total, added, net_of_debited (.inl was), add_zero]
    rfl
  | reported moved kept unstamped added =>
    rw [moved] at status'
    rw [kept] at total
    rw [net_of_debited (.inl status'), total, added, net_of_debited (.inl (time.reported moved unstamped)), add_zero]
    rfl
  | fails moved kept added =>
    rw [moved] at status'
    have once : timesTouched w.walletId F ≤ 1 := by
      have once := time.once
      split at once <;> omega
    have completed := time.failed moved
    rw [net_of_free (by simp [status']) (by simp [status']), added once]
    split
    · rename_i processing
      rw [net_of_debited (.inl processing)]
      omega
    · rename_i processing
      rw [net_of_free processing completed]
      rfl
  | records fee' moved written added =>
    rw [moved] at status'
    rw [written] at total
    have open_ := time.recorded (by simp [written])
    have spared (type : w.metadata.type = .organization) : timesTouched w.walletId F = 0 := by
      have once := time.once
      rw [if_pos ⟨moved, type⟩] at once
      omega
    rw [net_of_debited (w := both.apply w) (by rw [status']; exact open_), total, added spared, net_of_debited open_,
      Withdrawal.totalAmount, Option.getD_some]
    omega

namespace MoneyKept

variable {d d' : Db} {log : Log} {F : List Stmt}

/-- A transaction that updates no withdrawal. -/
theorem idle (h : MoneyKept d log) (e : Commit Db Stmt) (idle : firstUpdate e.writes = none)
    (rows : ∀ id r, d'.withdrawals.find id = some r → d.withdrawals.find id = some r ∨
      d.withdrawals.find id = none ∧ r.id = id ∧ r.net = 0)
    (absent : ∀ id, d'.withdrawals.find id = none → d.withdrawals.find id = none) : MoneyKept d' (log ++ [e]) where
  absent id hid e' he' col := by
    obtain old | new := List.mem_append.1 he'
    · exact h.absent id (absent id hid) e' old col
    · rw [List.mem_singleton.1 new]
      exact feeOf_of_none idle id col
  present id r hr := by
    rw [credited_append, feeOf_of_none idle, add_zero]
    obtain old | ⟨free, rfl, net⟩ := rows id r hr
    · exact h.present id r old
    · rw [net, Log.credited, List.map_congr_left fun e he => h.absent r.id free e he (.balance r.walletId)]
      simp

/-- A transaction that updates a withdrawal, as it was read. -/
theorem update {w : Withdrawal} {patch : WithdrawalPatch} (h : MoneyKept d log) (update : MoneyUpdate F w patch)
    (found : d.withdrawals.find w.id = some w) (time : InTime F w patch) (k : Nat) :
    MoneyKept (applyAll F d) (log ++ [⟨k, F, d⟩]) := by
  obtain ⟨first, ⟨both, updates, status, fee⟩, step⟩ := update
  refine ⟨fun id absent e he col => ?_, fun id r hr => ?_⟩
  · rw [updates.find] at absent
    have other : id ≠ w.id := by
      rintro rfl
      simp [found] at absent
    rw [if_neg other] at absent
    obtain old | new := List.mem_append.1 he
    · exact h.absent id absent e old col
    · rw [List.mem_singleton.1 new]
      exact feeOf_of_ne first other col
  · rw [updates.find] at hr
    rw [credited_append]
    by_cases this : id = w.id
    · rw [if_pos this, this, found, Option.map_some, Option.some.injEq] at hr
      subst hr
      have own : feeOf w.id (.balance w.walletId) F = delta Db F (.balance w.walletId) := by
        simp [feeOf, first]
      exact (congrArg₂ (· + ·) (h.present w.id w found) own).trans (step.net time status fee).symm
    · rw [if_neg this] at hr
      have key : r.id = id := Table.find_key hr
      rw [feeOf_of_ne first (key ▸ this), add_zero]
      exact h.present id r hr

theorem step (h : MoneyKept d log) (on : OnWithdrawal F) (valid : violation F d = none)
    (finds : ∀ u ∈ firstUpdate F, d.withdrawals.find u.1.id = some u.1 ∧ InTime F u.1 u.2) (k : Nat) :
    MoneyKept (applyAll F d) (log ++ [⟨k, F, d⟩]) := by
  obtain leaves | ⟨id, amount, fee, request⟩ | ⟨w, patch, update⟩ := moneyUpdate_of_onWithdrawal on
  · refine h.idle _ (firstUpdate_of_leaves leaves) (fun id r hr => .inl ?_) fun id hid => ?_
    · rwa [leaves.withdrawals] at hr
    · rwa [leaves.withdrawals] at hid
  · obtain ⟨idle, creates⟩ := creates_of_requestTx request
    obtain ⟨w, requested, free, find⟩ := creates d valid
    refine h.idle _ idle (fun id r hr => ?_) fun id hid => ?_
    · rw [find] at hr
      split at hr
      · rename_i hid
        obtain rfl := Option.some.inj hr
        refine .inr ⟨hid ▸ free, hid, net_of_free ?_ ?_⟩ <;> simp [requested.pending]
      · exact .inl hr
    · rw [find] at hid
      split at hid
      · cases hid
      · exact hid
  · obtain ⟨found, time⟩ := finds (w, patch) update.first
    exact h.update update found time k

end MoneyKept

/-- **The money of withdrawals is kept** in every run of the finance operations in which each step on a withdrawal
finds its row as it was read and comes in its time: the amount and the fee are taken from the wallet while the
withdrawal is in processing or completed, and nothing is taken, or all is given back, in every other state. -/
theorem withdrawal_money_kept {db : Db} {ext : Services} {ops : List Op} {c : System}
    (undebited : ∀ r ∈ db.withdrawals.rows, r.status ≠ .processing ∧ r.status ≠ .completed)
    (run : Reaches FindsWithdrawal (start db ext ops) c) {r : Withdrawal} (hr : r ∈ c.db.withdrawals.rows) :
    Log.credited c.log r.id (.balance r.walletId) =
      if r.status = .processing ∨ r.status = .completed then -(r.amount + r.fee) else 0 := by
  have kept : MoneyKept c.db c.log := by
    refine run.induct MoneyKept ⟨fun _ _ e he => (List.not_mem_nil he).elim, fun id r hr => ?_⟩
      fun _ commits valid finds h => h.step (Op.onWithdrawal_of_commits commits) valid finds _
    obtain ⟨processing, completed⟩ := undebited r (Table.find_mem hr)
    exact (net_of_free processing completed).symm
  exact kept.present r.id r (Table.find_of_mem hr)

/-- A payout that fails after it was recorded: the wallet is debited, and gets back what was taken. -/
theorem failed_withdrawal_given_back : ∃ c r, Reaches FindsWithdrawal (start association {} withdrawalAndWebhook) c ∧
    r ∈ c.db.withdrawals.rows ∧ r.status = .failed ∧
    (c.log.map fun e => feeOf r.id (.balance r.walletId) e.writes).filter (· ≠ 0) = [-60000, 60000] ∧
    Log.credited c.log r.id (.balance r.walletId) =
      if r.status = .processing ∨ r.status = .completed then -(r.amount + r.fee) else 0 := by
  obtain ⟨c, run, r, hr, failed, moves⟩ := Reaches.of_replay_any FindsWithdrawal
    (start association {} withdrawalAndWebhook)
    (turns [(0, 90)] ++ [.move (.refuse 0), .move (.announce 0)] ++ turns [(1, 24)])
    (fun c : System => ∃ r ∈ c.db.withdrawals.rows, r.status = .failed ∧
      (c.log.map fun e => feeOf r.id (.balance r.walletId) e.writes).filter (· ≠ 0) = [-60000, 60000])
    (by decide +kernel)
  exact ⟨c, r, run, hr, failed, moves, withdrawal_money_kept (by decide) run hr⟩

end Heightt
