import Heightt.Runs.Holds
import Heightt.Runs.PlatformFee
import Mathlib.Algebra.Order.BigOperators.Group.List

/-!
# Held balances

The hold of a withdrawal is found by a text that contains the withdrawal's id. In every run in which each
commit finds the ACTIVE hold that it is about to release, and the figures that it read, the held balance of
each wallet is the sum of its ACTIVE holds, and no hold is released but by a step on its own withdrawal.
A payout that fails after its settlement is none of these: its hold is gone, and it would lower the held
balance a second time.
-/

namespace Heightt

open ReadCommitted Store Database FinanceService

/-! ## The holds of withdrawals -/

/-- What the hold holds on a wallet. -/
def WalletHold.heldOn (walletId : Id) (h : WalletHold) : Int :=
  if h.walletId = walletId ∧ h.status = .active then h.amount else 0

/-- The sum of the ACTIVE holds of a wallet. -/
def activeHolds (d : Db) (walletId : Id) : Int := d.walletHolds.sum (WalletHold.heldOn walletId)

/-- The hold is that of the withdrawal. -/
structure HoldOf (w : Withdrawal) (h : WalletHold) : Prop where
  wallet : h.walletId = w.walletId
  amount : h.amount = w.totalAmount
  reason : h.reason = holdReason w

/-- The held balances are those of the ACTIVE holds, of which each withdrawal has at most one. -/
structure HoldsKept (d : Db) : Prop where
  held : ∀ id, d.value (.heldBalance id) = activeHolds d id
  nonneg : ∀ h ∈ d.walletHolds.rows, h.status = .active → 0 ≤ h.amount
  owned : ∀ h ∈ d.walletHolds.rows, h.status = .active → ∃ w ∈ d.withdrawals.rows, HoldOf w h
  single : ∀ h ∈ d.walletHolds.rows, ∀ h' ∈ d.walletHolds.rows, h.status = .active → h'.status = .active →
    h.reason = h'.reason → h = h'

/-- The withdrawal was requested, and nothing is held for it any more. -/
structure Freed (id : Id) (d : Db) : Prop where
  requested : (d.withdrawals.find id).isSome
  free : ∀ h ∈ d.walletHolds.rows, h.status = .active → ¬id.chars <:+: h.reason

theorem activeHolds_nonneg {d : Db} (nonneg : ∀ h ∈ d.walletHolds.rows, h.status = .active → 0 ≤ h.amount) (id : Id) :
    0 ≤ activeHolds d id := by
  refine List.sum_nonneg fun x mem => ?_
  obtain ⟨h, hh, rfl⟩ := List.mem_map.1 mem
  unfold WalletHold.heldOn
  split
  · rename_i active
    exact nonneg h hh active.2
  · exact le_rfl

/-- The reason of a hold names one withdrawal. -/
theorem chars_infix_holdReason {id : Id} {w : Withdrawal} : id.chars <:+: holdReason w ↔ id = w.id := by
  unfold holdReason
  split
  · exact chars_infix_platformWithdrawalReason
  · exact chars_infix_withdrawalReason

namespace HoldsKept

variable {d d' : Db} {h : WalletHold} {w : Withdrawal} {id : Id}

/-- Nothing is held to start with. -/
theorem of_none (none : d.walletHolds.rows = []) (held : ∀ v ∈ d.wallets.rows, v.heldBalance = 0) : HoldsKept d where
  held id := by
    have sum : activeHolds d id = 0 := by
      unfold activeHolds Table.sum
      rw [none]
      rfl
    rw [sum, Db.value]
    cases found : d.wallets.find id with
    | none => rfl
    | some v => exact held v (Table.find_mem found)
  nonneg := by
    rw [none]
    exact List.forall_mem_nil _
  owned := by
    rw [none]
    exact List.forall_mem_nil _
  single := by
    rw [none]
    exact List.forall_mem_nil _

/-- The owner of a hold is the withdrawal that its reason names. -/
theorem owner (kept : HoldsKept d) (mem : h ∈ d.walletHolds.rows) (active : h.status = .active)
    (named : id.chars <:+: h.reason) : ∃ w, d.withdrawals.find id = some w ∧ HoldOf w h := by
  obtain ⟨w, hw, own⟩ := kept.owned h mem active
  rw [own.reason] at named
  have same : id = w.id := chars_infix_holdReason.1 named
  exact ⟨w, same ▸ Table.find_of_mem hw, own⟩

/-- **One hold**: the text that names a withdrawal is found in one ACTIVE hold. -/
theorem single_hold (kept : HoldsKept d) {h' : WalletHold} (mem : h ∈ d.walletHolds.rows)
    (mem' : h' ∈ d.walletHolds.rows) (active : h.status = .active) (active' : h'.status = .active)
    (named : id.chars <:+: h.reason) (named' : id.chars <:+: h'.reason) : h = h' := by
  obtain ⟨w, found, own⟩ := kept.owner mem active named
  obtain ⟨w', found', own'⟩ := kept.owner mem' active' named'
  cases found.symm.trans found'
  exact kept.single h mem h' mem' active active' (own.reason.trans own'.reason.symm)

/-- Only the withdrawals change, and the owner of an ACTIVE hold stays its owner. -/
theorem of_owners (kept : HoldsKept d) (holds : d'.walletHolds = d.walletHolds)
    (held : ∀ id, d'.value (.heldBalance id) = d.value (.heldBalance id))
    (owners : ∀ w ∈ d.withdrawals.rows, ∀ h ∈ d.walletHolds.rows, h.status = .active → HoldOf w h →
      ∃ w' ∈ d'.withdrawals.rows, HoldOf w' h) : HoldsKept d' where
  held id := by
    rw [held, kept.held]
    unfold activeHolds
    rw [holds]
  nonneg := by
    rw [holds]
    exact kept.nonneg
  owned h mem active := by
    rw [holds] at mem
    obtain ⟨w, hw, own⟩ := kept.owned h mem active
    exact owners w hw h mem active own
  single := by
    rw [holds]
    exact kept.single

end HoldsKept

/-! ## Statements that leave the holds alone -/

section Leaves

variable {s : Stmt} {F : List Stmt} {d : Db}

theorem walletHolds_of_leaves (h : s.leavesHolds = true) (d : Db) : (apply s d).walletHolds = d.walletHolds := by
  cases s with
  | createWalletHold hold => cases h
  | releaseWalletHolds walletId reason => cases h
  | _ => rfl

theorem held_of_leaves (h : s.leavesHolds = true) (id : Id) : change Db s (.heldBalance id) = .keep := by
  cases s with
  | updateWallet k balance held =>
    cases held with
    | keep => simp [change, Stmt.change]
    | _ => cases h
  | _ => rfl

/-- The withdrawals are rewritten with what they hold. -/
theorem owners_of_leaves (h : s.leavesHolds = true) {w : Withdrawal} (mem : w ∈ d.withdrawals.rows) :
    ∃ w' ∈ (apply s d).withdrawals.rows, ∀ h, HoldOf w h → HoldOf w' h := by
  cases s with
  | createWithdrawal r => cases h
  | updateWithdrawal r patch =>
    rw [Stmt.leavesHolds, Bool.and_eq_true, Option.isNone_iff_eq_none, Option.isNone_iff_eq_none] at h
    obtain ⟨fee, metadata⟩ := h
    have same (h : WalletHold) (own : HoldOf w h) : HoldOf (patch.apply w) h := by
      obtain ⟨wallet, amount, reason⟩ := own
      refine ⟨wallet, ?_, ?_⟩
      · rw [amount, Withdrawal.totalAmount, Withdrawal.totalAmount, WithdrawalPatch.apply]
        simp only [fee, Option.getD_none]
      · rw [reason, holdReason, holdReason, WithdrawalPatch.apply]
        simp only [metadata, Option.getD_none]
    refine ⟨if w.id = r.id then patch.apply w else w, ?_, fun h own => ?_⟩
    · exact List.mem_map_of_mem mem
    · split
      · exact same h own
      · exact own
  | _ => exact ⟨w, mem, fun _ own => own⟩

/-- A withdrawal that was requested stays. -/
theorem requested_apply (s : Stmt) {id : Id} (h : (d.withdrawals.find id).isSome) :
    ((apply s d).withdrawals.find id).isSome := by
  cases s with
  | createWithdrawal w =>
    obtain ⟨r, found⟩ := Option.isSome_iff_exists.1 h
    obtain ⟨r', found', -⟩ := Table.grows_insert (R := fun _ _ => True) (fun _ => trivial) d.withdrawals w id r found
    exact Option.isSome_iff_exists.2 ⟨r', found'⟩
  | updateWithdrawal r patch =>
    exact (Table.isSome_find_modify d.withdrawals r.id patch.apply (fun _ => rfl) id).trans h
  | _ => exact h

theorem HoldsKept.leave (kept : HoldsKept d) (h : LeavesHolds F) (valid : violation F d = none) :
    HoldsKept (applyAll F d) := by
  induction F generalizing d with
  | nil => exact kept
  | cons s F ih =>
    obtain ⟨ok, valid⟩ := violation_cons.1 valid
    have leaves := h s List.mem_cons_self
    refine ih (kept.of_owners (walletHolds_of_leaves leaves d) (fun id => ?_) fun w hw h _ _ own => ?_)
      (fun s hs => h s (List.mem_cons_of_mem _ hs)) valid
    · exact (value_apply _ ok).trans (by rw [held_of_leaves leaves id]; rfl)
    · obtain ⟨w', hw', same⟩ := owners_of_leaves leaves hw
      exact ⟨w', hw', same h own⟩

theorem LeavesHolds.walletHolds (h : LeavesHolds F) (d : Db) : (applyAll F d).walletHolds = d.walletHolds :=
  applyAll_keeps Db.walletHolds (fun s hs d => walletHolds_of_leaves (h s hs) d) d

theorem LeavesHolds.value (h : LeavesHolds F) (valid : violation F d = none) (id : Id) :
    (applyAll F d).value (.heldBalance id) = d.value (.heldBalance id) :=
  (value_applyAll valid _).trans (valueAfter_of_keep (fun s hs => held_of_leaves (h s hs) id) _)

theorem LeavesHolds.fresh_append {G : List Stmt} (h : LeavesHolds F) {id : Id} {v : Int}
    (fresh : Fresh Db (.heldBalance id) (F ++ G) v) : Fresh Db (.heldBalance id) G v := by
  induction F with
  | nil => exact fresh
  | cons s F ih =>
    have leaves := h s List.mem_cons_self
    obtain ⟨-, rest⟩ := fresh_cons .. |>.1 fresh
    rw [held_of_leaves leaves id] at rest
    exact ih (fun s hs => h s (List.mem_cons_of_mem _ hs)) rest

theorem Freed.leave {id : Id} (freed : Freed id d) (h : LeavesHolds F) : Freed id (applyAll F d) := by
  refine ⟨?_, by rw [h.walletHolds]; exact freed.free⟩
  have requested := freed.requested
  clear h freed
  induction F generalizing d with
  | nil => exact requested
  | cons s F ih => exact ih (requested_apply s requested)

end Leaves

/-! ## A request -/

section Request

variable {d : Db} {w : Withdrawal} {v : Wallet} {holdId : Id}

/-- Neither the withdrawal nor the hold was there before. -/
theorem new_of_holdWrites (valid : violation (holdWrites w v holdId) d = none) :
    d.withdrawals.find w.id = none ∧ d.walletHolds.find holdId = none := by
  obtain ⟨-, rest⟩ := violation_cons.1 valid
  obtain ⟨created, rest⟩ := violation_cons.1 rest
  obtain ⟨held, -⟩ := violation_cons.1 rest
  constructor
  · have unused := Stmt.unique_eq_none.1 (Option.or_eq_none_iff.1 created).1
    exact Option.isNone_iff_eq_none.1 (Option.isSome_eq_false_iff.1 unused)
  · exact Option.isNone_iff_eq_none.1 (Option.isSome_eq_false_iff.1 (Stmt.unique_eq_none.1 held))

/-- A new withdrawal and its hold. -/
theorem HoldsKept.request (kept : HoldsKept d) (nonneg : 0 ≤ w.totalAmount)
    (valid : violation (holdWrites w v holdId) d = none) : HoldsKept (applyAll (holdWrites w v holdId) d) := by
  obtain ⟨free, unheld⟩ := new_of_holdWrites valid
  have rows : (applyAll (holdWrites w v holdId) d).walletHolds.rows =
      d.walletHolds.rows ++ [holdRow holdId w (holdReason w)] :=
    Table.insert_rows (r := holdRow holdId w (holdReason w)) unheld
  have withdrawals : (applyAll (holdWrites w v holdId) d).withdrawals.rows = d.withdrawals.rows ++ [w] :=
    Table.insert_rows free
  -- the reason of the new hold is that of no other withdrawal
  have apart (h : WalletHold) (hh : h ∈ d.walletHolds.rows) (active : h.status = .active) :
      h.reason ≠ holdReason w := by
    intro same
    obtain ⟨r, found, -⟩ := kept.owner hh active (same ▸ chars_infix_holdReason.2 rfl)
    rw [free] at found
    cases found
  refine ⟨fun k => ?_, fun h hh active => ?_, fun h hh active => ?_, fun h hh h' hh' active active' same => ?_⟩
  · refine (value_applyAll valid _).trans ?_
    show Change.apply (if k = w.walletId then .add w.totalAmount else .keep) (d.value (.heldBalance k)) = _
    have sum : activeHolds (applyAll (holdWrites w v holdId) d) k =
        activeHolds d k + if w.walletId = k then w.totalAmount else 0 := by
      unfold activeHolds Table.sum
      rw [rows, List.map_append, List.sum_append, List.map_singleton, List.sum_singleton]
      simp [WalletHold.heldOn, holdRow]
    rw [sum, kept.held k]
    split
    · rename_i same
      rw [if_pos same.symm, Change.apply_add]
    · rename_i other
      rw [if_neg (Ne.symm other), Change.apply_keep, add_zero]
  · rw [rows] at hh
    obtain old | new := List.mem_append.1 hh
    · exact kept.nonneg h old active
    · rw [List.mem_singleton.1 new]
      exact nonneg
  · rw [withdrawals]
    rw [rows] at hh
    obtain old | new := List.mem_append.1 hh
    · obtain ⟨r, hr, own⟩ := kept.owned h old active
      exact ⟨r, List.mem_append_left _ hr, own⟩
    · rw [List.mem_singleton.1 new]
      exact ⟨w, List.mem_append_right _ (List.mem_singleton_self w), rfl, rfl, rfl⟩
  · rw [rows] at hh hh'
    obtain old | new := List.mem_append.1 hh
    · obtain old' | new' := List.mem_append.1 hh'
      · exact kept.single h old h' old' active active' same
      · rw [List.mem_singleton.1 new'] at same
        exact (apart h old active same).elim
    · obtain old' | new' := List.mem_append.1 hh'
      · rw [List.mem_singleton.1 new] at same
        exact (apart h' old' active' same.symm).elim
      · rw [List.mem_singleton.1 new, List.mem_singleton.1 new']

theorem Freed.request {id : Id} (freed : Freed id d) (valid : violation (holdWrites w v holdId) d = none) :
    Freed id (applyAll (holdWrites w v holdId) d) := by
  obtain ⟨free, unheld⟩ := new_of_holdWrites valid
  refine ⟨requested_apply (d := d) (.createWithdrawal w) freed.requested, fun h hh active named => ?_⟩
  have rows : (applyAll (holdWrites w v holdId) d).walletHolds.rows =
      d.walletHolds.rows ++ [holdRow holdId w (holdReason w)] :=
    Table.insert_rows (r := holdRow holdId w (holdReason w)) unheld
  rw [rows] at hh
  obtain old | new := List.mem_append.1 hh
  · exact freed.free h old active named
  · rw [List.mem_singleton.1 new] at named
    have requested := freed.requested
    rw [chars_infix_holdReason.1 named, free] at requested
    cases requested

end Request

/-! ## A release -/

section Release

variable {d : Db} {h₀ : WalletHold} {id walletId : Id} {reason : List Char}

/-- The statement that releases the holds with a text. -/
def afterRelease (walletId : Id) (reason : List Char) (d : Db) : Db := apply (Stmt.releaseWalletHolds walletId reason) d

/-- The text that names the withdrawal matches one hold. -/
theorem HoldsKept.matches_iff (kept : HoldsKept d) (mem : h₀ ∈ d.walletHolds.rows)
    (found : h₀.Matches walletId reason) (named : id.chars <:+: reason) {h : WalletHold}
    (hh : h ∈ d.walletHolds.rows) : h.Matches walletId reason ↔ h.id = h₀.id := by
  constructor
  · intro hm
    exact congrArg WalletHold.id (kept.single_hold hh mem hm.2.2 found.2.2 (named.trans hm.2.1) (named.trans found.2.1))
  · intro same
    exact Table.eq_of_key hh mem same ▸ found

theorem HoldsKept.rows_release (kept : HoldsKept d) (mem : h₀ ∈ d.walletHolds.rows)
    (found : h₀.Matches walletId reason) (named : id.chars <:+: reason) :
    (afterRelease walletId reason d).walletHolds.rows =
      (d.walletHolds.modify h₀.id WalletHold.release fun _ => rfl).rows := by
  refine List.map_congr_left fun h hh => ?_
  have one := kept.matches_iff mem found named hh
  by_cases hm : h.Matches walletId reason
  · rw [if_pos hm, if_pos (one.1 hm)]
  · rw [if_neg hm, if_neg fun same => hm (one.2 same)]

theorem HoldsKept.activeHolds_release (kept : HoldsKept d) (mem : h₀ ∈ d.walletHolds.rows)
    (found : h₀.Matches walletId reason) (named : id.chars <:+: reason) (k : Id) :
    activeHolds (afterRelease walletId reason d) k = activeHolds d k - if k = walletId then h₀.amount else 0 := by
  have one := Table.sum_modify (Table.find_of_mem mem) WalletHold.release (fun _ => rfl) (WalletHold.heldOn k)
  have before : h₀.heldOn k = if k = walletId then h₀.amount else 0 := by
    unfold WalletHold.heldOn
    simp only [found.1, found.2.2, and_true, eq_comm]
  have after : h₀.release.heldOn k = 0 := if_neg fun active => by cases active.2
  rw [before, after, zero_sub] at one
  unfold activeHolds Table.sum
  rw [kept.rows_release mem found named]
  exact one

/-- What is ACTIVE afterwards was not released. -/
theorem active_of_release {h : WalletHold} (mem : h ∈ (afterRelease walletId reason d).walletHolds.rows)
    (active : h.status = .active) : h ∈ d.walletHolds.rows ∧ ¬h.Matches walletId reason := by
  obtain ⟨h', mem', rfl⟩ := List.mem_map.1 mem
  split at active
  · cases active
  · rename_i other
    rw [if_neg other]
    exact ⟨mem', other⟩

theorem Freed.release (freed : Freed id d) : Freed id (afterRelease walletId reason d) where
  requested := freed.requested
  free h mem active := freed.free h (active_of_release mem active).1 active

theorem Freed.updateWallet (freed : Freed id d) {balance held : Change} :
    Freed id (apply (Stmt.updateWallet walletId balance held) d) := ⟨freed.requested, freed.free⟩

/-- After the release nothing is held for the withdrawals that the text names. -/
theorem HoldsKept.freed_release (kept : HoldsKept d) (mem : h₀ ∈ d.walletHolds.rows)
    (found : h₀.Matches walletId reason) (named : id.chars <:+: reason) :
    Freed id (afterRelease walletId reason d) where
  requested := by
    obtain ⟨w, hw, -⟩ := kept.owner mem found.2.2 (named.trans found.2.1)
    exact Option.isSome_iff_exists.2 ⟨w, hw⟩
  free h hh active naming := by
    obtain ⟨before, other⟩ := active_of_release hh active
    have same := kept.single_hold before mem active found.2.2 naming (named.trans found.2.1)
    exact other (same ▸ found)

/-- The held balance loses what the one hold held. -/
theorem HoldsKept.release (kept : HoldsKept d) (mem : h₀ ∈ d.walletHolds.rows) (found : h₀.Matches walletId reason)
    (named : id.chars <:+: reason) {balance : Change} {held : Int} (fresh : d.value (.heldBalance walletId) = held)
    (ok : check (Stmt.updateWallet walletId balance (.floor held (-h₀.amount))) d = none) :
    HoldsKept (apply (Stmt.updateWallet walletId balance (.floor held (-h₀.amount)))
      (afterRelease walletId reason d)) where
  held k := by
    have moved := value_apply (w := Stmt.updateWallet walletId balance (.floor held (-h₀.amount)))
      (d := afterRelease walletId reason d) (Col.heldBalance k) ok
    have left := kept.activeHolds_release mem found named k
    have rest : 0 ≤ activeHolds (afterRelease walletId reason d) k :=
      activeHolds_nonneg (fun h hh active => kept.nonneg h (active_of_release hh active).1 active) k
    refine moved.trans ?_
    show Change.apply (if k = walletId then Change.floor held (-h₀.amount) else .keep) (d.value (.heldBalance k)) =
      activeHolds (afterRelease walletId reason d) k
    rw [left] at rest ⊢
    have before := kept.held k
    split
    · rename_i same
      subst same
      rw [Change.apply_floor]
      rw [if_pos rfl] at rest
      omega
    · rw [Change.apply_keep]
      omega
  nonneg h hh active := kept.nonneg h (active_of_release hh active).1 active
  owned h hh active := kept.owned h (active_of_release hh active).1 active
  single h hh h' hh' active active' same :=
    kept.single h (active_of_release hh active).1 h' (active_of_release hh' active').1 active active' same

end Release

/-! ## The runs -/

/-- The statement finds the hold that it releases, and the fee of the withdrawal that it updates as it was read. -/
def Stmt.FindsHold (d : Db) : Stmt → Prop
  | .releaseWalletHolds walletId reason => ∃ h ∈ d.walletHolds.rows, h.Matches walletId reason
  | .updateWithdrawal w _ => (d.withdrawals.find w.id).map Withdrawal.fee = some w.fee
  | _ => True

/-- Each commit finds the hold that it releases, the fees of the withdrawals that it updates, and the held
balances that it was computed from. -/
def FindsHolds (c : System) : Effect Stmt Call → Prop
  | .commit _ _ F => (∀ s ∈ F, s.FindsHold c.db) ∧ ∀ id, Fresh Db (.heldBalance id) F (c.db.value (.heldBalance id))
  | _ => True

/-- A hold that the statements release is that of a withdrawal that they update. -/
def ReleasesOwn (d : Db) (F : List Stmt) : Prop :=
  ∀ h ∈ d.walletHolds.rows, h.status = .active → h ∈ (applyAll F d).walletHolds.rows ∨
    ∃ w patch, Stmt.updateWithdrawal w patch ∈ F ∧ HoldOf w h

/-- What a transaction on holds does to a state in which they are kept. -/
structure HoldStep (d : Db) (F : List Stmt) : Prop where
  kept : HoldsKept (applyAll F d)
  freed : ∀ id, Freed id d → Freed id (applyAll F d)
  frees : ∀ id, ∀ s ∈ F, Frees id s → Freed id (applyAll F d)
  own : ReleasesOwn d F

section Step

variable {o : Option Id} {F : List Stmt} {d : Db}

theorem LeavesHolds.not_frees (h : LeavesHolds F) {s : Stmt} (mem : s ∈ F) (id : Id) : ¬Frees id s := by
  intro frees
  have leaves := h s mem
  cases s with
  | releaseWalletHolds walletId reason => cases leaves
  | _ => exact frees

theorem LeavesHolds.releasesOwn (h : LeavesHolds F) : ReleasesOwn d F := by
  intro hold mem active
  left
  rw [h.walletHolds]
  exact mem

theorem HoldStep.request {w : Withdrawal} {v : Wallet} {holdId : Id} {B : List Stmt} (kept : HoldsKept d)
    (nonneg : 0 ≤ w.totalAmount) (after : LeavesHolds B) (valid : violation (holdWrites w v holdId ++ B) d = none) :
    HoldStep d (holdWrites w v holdId ++ B) := by
  obtain ⟨created, rest⟩ := violation_append.1 valid
  constructor
  · rw [applyAll_append]
    exact (kept.request nonneg created).leave after rest
  · intro id freed
    rw [applyAll_append]
    exact (freed.request created).leave after
  · intro id s mem frees
    obtain first | last := List.mem_append.1 mem
    · simp only [holdWrites, List.mem_cons, List.not_mem_nil, or_false] at first
      obtain rfl | rfl | rfl | rfl := first <;> exact frees.elim
    · exact (after.not_frees last id frees).elim
  · intro h mem active
    left
    rw [applyAll_append, after.walletHolds]
    have rows : (applyAll (holdWrites w v holdId) d).walletHolds.rows =
        d.walletHolds.rows ++ [holdRow holdId w (holdReason w)] :=
      Table.insert_rows (r := holdRow holdId w (holdReason w)) (new_of_holdWrites created).2
    rw [rows]
    exact List.mem_append_left _ mem

/-- The payout of a withdrawal that nothing is held for. -/
theorem HoldStep.payout {w : Withdrawal} {patch : WithdrawalPatch} {A : List Stmt} (kept : HoldsKept d)
    (before : LeavesHolds A) (freed : Freed w.id d) (valid : violation (A ++ [.updateWithdrawal w patch]) d = none) :
    HoldStep d (A ++ [.updateWithdrawal w patch]) := by
  have ready := kept.leave before (violation_append.1 valid).1
  have gone := freed.leave before
  refine ⟨?_, fun id free => ?_, fun id s mem frees => ?_, fun h mem active => .inl ?_⟩
  · rw [applyAll_append]
    refine ready.of_owners rfl (fun _ => rfl) fun r hr h hh active own => ⟨r, ?_, own⟩
    refine List.mem_map.2 ⟨r, hr, if_neg fun same => ?_⟩
    exact gone.free h hh active (own.reason ▸ chars_infix_holdReason.2 same.symm)
  · rw [applyAll_append]
    exact ⟨requested_apply _ (free.leave before).requested, (free.leave before).free⟩
  · obtain first | last := List.mem_append.1 mem
    · exact (before.not_frees first id frees).elim
    · rw [List.mem_singleton.1 last] at frees
      exact frees.elim
  · rw [applyAll_append]
    show h ∈ (applyAll A d).walletHolds.rows
    rw [before.walletHolds]
    exact mem

/-- The hold found is that of the withdrawal as it was read. -/
theorem HoldsKept.holdOf_read {w : Withdrawal} {patch : WithdrawalPatch} {h : WalletHold} (kept : HoldsKept d)
    (mem : h ∈ d.walletHolds.rows) (active : h.status = .active) (named : w.id.chars <:+: h.reason)
    (ok : check (Stmt.updateWithdrawal w patch) d = none)
    (fee : (d.withdrawals.find w.id).map Withdrawal.fee = some w.fee) : HoldOf w h := by
  obtain ⟨r, found, own⟩ := kept.owner mem active named
  obtain ⟨r', found', -, wallet, amount, -, type⟩ := same_of_check ok
  cases found.symm.trans found'
  rw [found, Option.map_some, Option.some.injEq] at fee
  refine ⟨own.wallet.trans wallet, ?_, ?_⟩
  · rw [own.amount, Withdrawal.totalAmount, Withdrawal.totalAmount, amount, fee]
  · rw [own.reason, holdReason, holdReason, type, Table.find_key found]

/-- The release of what is held for a withdrawal. -/
theorem HoldStep.release {w : Withdrawal} {patch : WithdrawalPatch} {reason : List Char} {balance : Change} {held : Int}
    {A B : List Stmt} (kept : HoldsKept d) (named : w.id.chars <:+: reason)
    (before : LeavesHolds (.updateWithdrawal w patch :: A)) (after : LeavesHolds B)
    (valid : violation (.updateWithdrawal w patch :: (A ++ .releaseWalletHolds w.walletId reason ::
      .updateWallet w.walletId balance (.floor held (-w.totalAmount)) :: B)) d = none)
    {h₀ : WalletHold} (mem : h₀ ∈ d.walletHolds.rows) (found : h₀.Matches w.walletId reason)
    (fee : (d.withdrawals.find w.id).map Withdrawal.fee = some w.fee)
    (fresh : (applyAll (.updateWithdrawal w patch :: A) d).value (.heldBalance w.walletId) = held) :
    HoldStep d (.updateWithdrawal w patch :: (A ++ .releaseWalletHolds w.walletId reason ::
      .updateWallet w.walletId balance (.floor held (-w.totalAmount)) :: B)) := by
  have own := kept.holdOf_read mem found.2.2 (named.trans found.2.1) (violation_cons.1 valid).1 fee
  rw [← List.cons_append] at valid ⊢
  obtain ⟨first, rest⟩ := violation_append.1 valid
  obtain ⟨-, rest⟩ := violation_cons.1 rest
  obtain ⟨ok, last⟩ := violation_cons.1 rest
  have ready := kept.leave before first
  have still : h₀ ∈ (applyAll (.updateWithdrawal w patch :: A) d).walletHolds.rows := by
    rw [before.walletHolds]
    exact mem
  have all : applyAll (.updateWithdrawal w patch :: A ++ .releaseWalletHolds w.walletId reason ::
      .updateWallet w.walletId balance (.floor held (-w.totalAmount)) :: B) d =
      applyAll B (apply (Stmt.updateWallet w.walletId balance (.floor held (-w.totalAmount)))
        (afterRelease w.walletId reason (applyAll (.updateWithdrawal w patch :: A) d))) := by
    rw [applyAll_append, applyAll_cons, applyAll_cons]
    rfl
  rw [← own.amount] at ok all ⊢
  refine ⟨?_, fun id freed => ?_, fun id s hs frees => ?_, fun h hh active => ?_⟩
  · rw [all]
    rw [← own.amount] at last
    exact (ready.release still found named fresh ok).leave after last
  · rw [all]
    exact (freed.leave before).release.updateWallet.leave after
  · obtain leaves | rest := List.mem_append.1 hs
    · exact (before.not_frees leaves id frees).elim
    · rw [List.mem_cons, List.mem_cons] at rest
      obtain rfl | rfl | leaves := rest
      · rw [all]
        exact (ready.freed_release still found frees).updateWallet.leave after
      · exact frees.elim
      · exact (after.not_frees leaves id frees).elim
  · by_cases hm : h.Matches w.walletId reason
    · right
      exact ⟨w, patch, List.mem_append_left _ List.mem_cons_self,
        kept.holdOf_read hh active (named.trans hm.2.1) (violation_cons.1 first).1 fee⟩
    · left
      rw [all, after.walletHolds]
      show h ∈ (afterRelease w.walletId reason (applyAll (.updateWithdrawal w patch :: A) d)).walletHolds.rows
      refine List.mem_map.2 ⟨h, ?_, if_neg hm⟩
      rw [before.walletHolds]
      exact hh

/-- **One step**: every transaction that finds its hold and the figures it read keeps the holds. -/
theorem OnHolds.step (tx : OnHolds o F) (kept : HoldsKept d) (valid : violation F d = none)
    (finds : ∀ s ∈ F, s.FindsHold d) (fresh : ∀ id, Fresh Db (.heldBalance id) F (d.value (.heldBalance id)))
    (settled : ∀ id, SetsFee id F → Freed id d) : HoldStep d F := by
  cases tx with
  | leaves h =>
    exact ⟨kept.leave h valid, fun id freed => freed.leave h, fun id s mem frees => (h.not_frees mem id frees).elim,
      h.releasesOwn⟩
  | request h =>
    obtain ⟨w, v, holdId, records, requested, hv, covered⟩ := h
    have nonneg : 0 ≤ w.totalAmount := by
      have amount := requested.min_amount
      have fee := requested.fee_nonneg
      rw [Withdrawal.totalAmount, requested.amount_eq, requested.fee_eq]
      omega
    exact .request kept nonneg (.map fun _ => rfl) valid
  | payout w payout feeEntry now before =>
    refine .payout kept before (settled w.id ⟨w, _, List.mem_append_right _ (List.mem_singleton_self _), rfl, ?_⟩) valid
    unfold payoutPatch
    split <;> rfl
  | release w patch reason balance held named before after =>
    obtain ⟨h₀, mem, found⟩ := finds (.releaseWalletHolds w.walletId reason) (by simp)
    have fee := finds (.updateWithdrawal w patch) List.mem_cons_self
    rename_i A B
    refine .release kept named before after valid mem found fee ?_
    have leaves : violation (.updateWithdrawal w patch :: A) d = none := by
      rw [← List.cons_append] at valid
      exact (violation_append.1 valid).1
    have rest := before.fresh_append (fresh w.walletId)
    have read : (change Db (Stmt.updateWallet w.walletId balance (.floor held (-w.totalAmount)))
        (.heldBalance w.walletId)).Fresh (d.value (.heldBalance w.walletId)) := rest.2.1
    rw [before.value leaves]
    simpa [change, Stmt.change] using read

end Step

/-- What a run has done to the holds so far. -/
structure HoldsLogged (d : Db) (log : Log) : Prop where
  kept : HoldsKept d
  freed : ∀ e ∈ log, ∀ s ∈ e.writes, ∀ id, Frees id s → Freed id d
  own : ∀ e ∈ log, ReleasesOwn e.before e.writes

theorem HoldsLogged.step {d : Db} {log : Log} {F : List Stmt} (h : HoldsLogged d log) (k : Nat) (step : HoldStep d F) :
    HoldsLogged (applyAll F d) (log ++ [⟨k, F, d⟩]) where
  kept := step.kept
  freed e mem s hs id frees := by
    obtain old | new := List.mem_append.1 mem
    · exact step.freed id (h.freed e old s hs id frees)
    · obtain rfl := List.mem_singleton.1 new
      exact step.frees id s hs frees
  own e mem := by
    obtain old | new := List.mem_append.1 mem
    · exact h.own e old
    · obtain rfl := List.mem_singleton.1 new
      exact step.own

/-- **The held balances are kept** in every run of the finance operations in which each commit finds the hold
that it releases, and the fee and the held balance that it was computed from: they are the sums of the ACTIVE
holds, and no step on one withdrawal releases the hold of another. -/
theorem held_balances_kept {db : Db} {ext : Services} {ops : List Op} {c : System} (kept : HoldsKept db)
    (run : Reaches FindsHolds (start db ext ops) c) :
    HoldsKept c.db ∧ (∀ v ∈ c.db.wallets.rows, v.heldBalance = activeHolds c.db v.id) ∧
      ∀ e ∈ c.log, ReleasesOwn e.before e.writes := by
  have logged : HoldsLogged c.db c.log := by
    have sequenced (k : Nat) (p : Action Unit) (hp : (ops.map Op.program)[k]? = some p) : HoldFirst p := by
      rw [List.getElem?_map, Option.map_eq_some_iff] at hp
      obtain ⟨op, -, rfl⟩ := hp
      exact op.holdFirst
    refine run.induct_of_sequenced sequenced HoldsLogged
      ⟨kept, fun e mem => (List.not_mem_nil mem).elim, fun e mem => (List.not_mem_nil mem).elim⟩ ?_
    rintro c k nested F ⟨o, tx⟩ marked valid ⟨finds, fresh⟩ h
    refine h.step k (tx.step h.kept valid finds fresh fun id sets => ?_)
    obtain ⟨e, he, s, hs, frees⟩ := marked id sets
    exact h.freed e he s hs id frees
  refine ⟨logged.kept, fun v mem => ?_, logged.own⟩
  have held := logged.kept.held v.id
  rw [Db.value, Table.find_of_mem mem] at held
  exact held

theorem freshHeld_iff {F : List Stmt} {d : Db} :
    (∀ id, Fresh Db (Col.heldBalance id) F (d.value (.heldBalance id))) ↔
      ∀ id ∈ F.filterMap Stmt.updatedWallet, Fresh Db (Col.heldBalance id) F (d.value (.heldBalance id)) := by
  refine ⟨fun h id _ => h id, fun h id => ?_⟩
  by_cases named : id ∈ F.filterMap Stmt.updatedWallet
  · exact h id named
  · refine fresh_of_keep (fun s mem => ?_) _
    cases s with
    | updateWallet k balance held =>
      refine if_neg fun same => named ?_
      exact List.mem_filterMap.2 ⟨_, mem, congrArg some same.symm⟩
    | _ => rfl

instance (d : Db) (s : Stmt) : Decidable (s.FindsHold d) := by
  unfold Stmt.FindsHold
  split <;> infer_instance

instance (c : System) : (eff : Effect Stmt Call) → Decidable (FindsHolds c eff)
  | .commit _ _ _ => @instDecidableAnd _ _ inferInstance (decidable_of_iff _ freshHeld_iff.symm)
  | .internal => isTrue trivial
  | .fault _ => isTrue trivial
  | .called .. => isTrue trivial
  | .unsent .. => isTrue trivial

theorem min_firstAmount : (100 : Int) ≤ 50000 := by decide

theorem min_secondAmount : (100 : Int) ≤ 30000 := by decide

/-- Two withdrawals of the association, of 500 and of 300 Naira. -/
def twoWithdrawals : List Op :=
  [.requestOrganizationWithdrawal { nonneg := nonneg_fees } (.ofNat 1) (.ofNat 10)
      { bankAccountId := .ofNat 30, amount := 50000, min_amount := min_firstAmount }
      ⟨.ofNat 21, .ofNat 50, .ofNat 51, "1"⟩
      ⟨1000, ⟨.ofNat 60, "JE_1"⟩, ⟨.ofNat 61, "JE_2"⟩, .ofNat 41⟩,
    .requestOrganizationWithdrawal { nonneg := nonneg_fees } (.ofNat 1) (.ofNat 10)
      { bankAccountId := .ofNat 30, amount := 30000, min_amount := min_secondAmount }
      ⟨.ofNat 22, .ofNat 52, .ofNat 53, "2"⟩
      ⟨1000, ⟨.ofNat 62, "JE_3"⟩, ⟨.ofNat 63, "JE_4"⟩, .ofNat 42⟩]

/-- The first withdrawal is settled and paid out while the second is being requested. -/
theorem twoWithdrawals_keep_holds : ∃ c : System, Reaches FindsHolds (start association {} twoWithdrawals) c ∧
    c.threads.map Thread.returned = [true, false] ∧ c.db.wallets.rows.map Wallet.heldBalance = [40000, 0] ∧
    HoldsKept c.db ∧ (∀ v ∈ c.db.wallets.rows, v.heldBalance = activeHolds c.db v.id) ∧
    ∀ e ∈ c.log, ReleasesOwn e.before e.writes := by
  obtain ⟨c, run, returned, held⟩ := Reaches.of_replay_any FindsHolds (start association {} twoWithdrawals)
    (turns [(0, 36), (1, 34), (0, 54)])
    (fun c : System => c.threads.map Thread.returned = [true, false] ∧
      c.db.wallets.rows.map Wallet.heldBalance = [40000, 0]) (by decide +kernel)
  have start : HoldsKept association := .of_none rfl (by decide)
  exact ⟨c, run, returned, held, held_balances_kept start run⟩

end Heightt
