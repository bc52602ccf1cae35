import Heightt.Operations
import Heightt.ReadCommitted.SingleCommit
import Heightt.Runs.LostUpdate
import Mathlib.Algebra.BigOperators.Fin

/-!
# Savings deposits

A deposit writes the balance of the wallet and the amount of the goal as figures computed
from its readings, the wallet perhaps from the cache, and takes any goal it is given. Where
each deposit finds the user's own wallet and goal as it has read them, the goals tally with
their deposits and the wallets have paid for them.
-/

namespace Heightt

open ReadCommitted Prog Store Database WalletService FinanceService

/-- A call of `depositToSavings`. -/
structure SavingsCall where
  userId : Id
  dto : SavingsDepositDto
  new : NewTransfer
  deriving DecidableEq

def SavingsCall.program (s : SavingsCall) : Action Unit := depositToSavings s.userId s.dto s.new

namespace Db

def walletOf (d : Db) (userId : Id) : Option Wallet := d.wallets.findFirst fun w => w.userId = some userId

/-- A user who has no wallet yet has nothing in it. -/
def balanceOf (d : Db) (userId : Id) : Int := ((d.walletOf userId).map Wallet.balance).getD 0

theorem balanceOf_nonneg {d : Db} (h : ∀ w ∈ d.wallets.rows, 0 ≤ w.balance) (userId : Id) :
    0 ≤ d.balanceOf userId := by
  unfold balanceOf
  cases found : d.walletOf userId with
  | none => exact le_refl 0
  | some w => exact h w (List.mem_of_find?_eq_some found)

/-- The sum of the deposits to a goal. -/
def deposited (d : Db) (goalId : Id) : Int :=
  d.savingsTransactions.sum fun t => if t.goalId = goalId then t.amount else 0

/-- Every goal has the sum of its deposits. -/
def GoalsTally (d : Db) : Prop := ∀ g ∈ d.savingsGoals.rows, g.currentAmount = d.deposited g.id

instance (d : Db) : Decidable d.GoalsTally := inferInstanceAs (Decidable (∀ _ ∈ _, _))

/-- The goal belongs to the user. -/
def OwnsGoal (d : Db) (userId goalId : Id) : Prop := ∃ g ∈ d.savingsGoals.find goalId, g.userId = userId

instance (d : Db) (userId goalId : Id) : Decidable (d.OwnsGoal userId goalId) :=
  inferInstanceAs (Decidable (∃ _ ∈ _, _))

end Db

/-- What the user has deposited in the calls that have returned. -/
def depositedBy (calls : List SavingsCall) (c : System) (userId : Id) : Int :=
  ∑ i : Fin calls.length, if calls[i].userId = userId ∧ c.Returned i then calls[i].dto.amount else 0

/-- Every call has returned or ended in an error. -/
def AllFinished (calls : List SavingsCall) (c : System) : Prop :=
  ∀ i : Fin calls.length, c.Returned i ∨ c.Threw i

/-- The savings are conserved in a run of deposits that started on the database `db`. -/
structure SavingsConserved (db : Db) (calls : List SavingsCall) (c : System) : Prop where
  tally : c.db.GoalsTally
  covered : ∀ userId, 0 ≤ c.db.balanceOf userId
  owned : ∀ i : Fin calls.length, c.Returned i → c.db.OwnsGoal calls[i].userId calls[i].dto.goalId
  paid : AllFinished calls c → ∀ userId,
    c.db.balanceOf userId = db.balanceOf userId - depositedBy calls c userId

/-- The deposit finds the user's wallet, and a goal of the user's, with the figures it has read. -/
def SavingsCall.Finds (s : SavingsCall) (d : Db) : Stmt → Prop
  | .updateWallet id (.set base _) _ => ∃ w ∈ d.walletOf s.userId, w.id = id ∧ w.balance = base
  | .updateSavingsGoal id currentAmount =>
    ∃ g ∈ d.savingsGoals.find id, g.userId = s.userId ∧ g.currentAmount + s.dto.amount = currentAmount
  | _ => True

/-- Every deposit finds its rows when it commits. -/
def FindsRows (calls : List SavingsCall) (c : System) : Effect Stmt Call → Prop
  | .commit i _ F => ∀ s ∈ calls[i]?, ∀ w ∈ F, s.Finds c.db w
  | _ => True

section

variable (calls : List SavingsCall) (c : System)

instance : Decidable (AllFinished calls c) := inferInstanceAs (Decidable (∀ _, _))

instance (s : SavingsCall) (d : Db) (w : Stmt) : Decidable (s.Finds d w) := by
  unfold SavingsCall.Finds
  split <;> infer_instance

instance (eff : Effect Stmt Call) : Decidable (FindsRows calls c eff) :=
  match eff with
  | .commit i _ F => inferInstanceAs (Decidable (∀ s ∈ calls[i]?, ∀ w ∈ F, s.Finds c.db w))
  | .internal | .fault _ | .called .. | .unsent .. => instDecidableTrue

end

/-! ## What the commits do to savings -/

/-- The amount a statement deposits. -/
def Stmt.deposit : Stmt → Int
  | .createSavingsTransaction t => t.amount
  | _ => 0

def depositsIn (F : List Stmt) : Int := (F.map Stmt.deposit).sum

theorem depositsIn_nil : depositsIn [] = 0 := rfl

theorem depositsIn_append (F G : List Stmt) : depositsIn (F ++ G) = depositsIn F + depositsIn G := by
  unfold depositsIn
  rw [List.map_append, List.sum_append]

/-- The statement has nothing to do with goals, and with no balance of a wallet. -/
def Stmt.sparesSavings : Stmt → Bool
  | .createSavingsTransaction _ | .updateSavingsGoal _ _ | .updateWallet _ _ _ => false
  | _ => true

/-- The goals, their deposits and the balances are the same. -/
structure SameSavings (d d' : Db) : Prop where
  goals : d'.savingsGoals = d.savingsGoals
  deposits : d'.savingsTransactions = d.savingsTransactions
  balances : ∀ userId, d'.balanceOf userId = d.balanceOf userId

theorem SameSavings.trans {a b c : Db} (h : SameSavings a b) (h' : SameSavings b c) : SameSavings a c where
  goals := h'.goals.trans h.goals
  deposits := h'.deposits.trans h.deposits
  balances userId := (h'.balances userId).trans (h.balances userId)

theorem sameSavings_apply {s : Stmt} {d : Db} (valid : s.check d = none) (spares : s.sparesSavings = true) :
    SameSavings d (s.apply d) := by
  cases s with
  | createSavingsTransaction t => cases spares
  | updateSavingsGoal id currentAmount => cases spares
  | updateWallet id balance heldBalance => cases spares
  | createWallet id owner organizationId isPlatformWallet =>
    refine ⟨rfl, rfl, fun userId => ?_⟩
    simp only [Stmt.check, Option.or_eq_none_iff, Stmt.unique_eq_none] at valid
    have free : d.wallets.find id = none := by simpa using valid.1
    have inserted := Table.findFirst_insert (t := d.wallets)
      (r := ({ id, userId := owner, organizationId, isPlatformWallet } : Wallet)) free
      fun w => w.userId = some userId
    unfold Db.balanceOf Db.walletOf
    rw [Stmt.apply, inserted]
    cases d.wallets.findFirst fun w => w.userId = some userId with
    | some w => rfl
    | none =>
      -- the wallet is new and empty
      rw [Option.none_or]
      split <;> rfl
  | markPlatformWallet id =>
    refine ⟨rfl, rfl, fun userId => ?_⟩
    unfold Db.balanceOf Db.walletOf
    rw [Stmt.apply, Table.findFirst_modify d.wallets id Wallet.markPlatform (fun _ => rfl) fun _ => rfl]
    cases d.wallets.findFirst fun w => w.userId = some userId with
    | none => rfl
    | some w =>
      rw [Option.map_some, Option.map_some]
      split <;> rfl
  | _ => exact ⟨rfl, rfl, fun _ => rfl⟩

theorem sameSavings_applyAll {F : List Stmt} {d : Db} (valid : violation F d = none)
    (spares : ∀ s ∈ F, s.sparesSavings = true) : SameSavings d (applyAll F d) := by
  induction F generalizing d with
  | nil => exact ⟨rfl, rfl, fun _ => rfl⟩
  | cons s F ih =>
    obtain ⟨first, rest⟩ := violation_cons.1 valid
    have here := sameSavings_apply first (spares s List.mem_cons_self)
    exact here.trans (ih rest fun s' mem => spares s' (List.mem_cons_of_mem s mem))

theorem spares_of_setup {nested : Bool} {F : List Stmt} (setup : Setup (.committed nested F)) :
    ∀ s ∈ F, s.sparesSavings = true := by
  cases setup with
  | quiet quiet => cases quiet <;> simp [Stmt.sparesSavings]
  | tx _ tx => cases tx <;> simp [Stmt.sparesSavings]

theorem deposit_of_spares {s : Stmt} (spares : s.sparesSavings = true) : s.deposit = 0 := by
  cases s <;> first | rfl | cases spares

theorem depositsIn_of_spares {F : List Stmt} (spares : ∀ s ∈ F, s.sparesSavings = true) : depositsIn F = 0 := by
  refine List.sum_eq_zero fun x mem => ?_
  obtain ⟨s, hs, rfl⟩ := List.mem_map.1 mem
  exact deposit_of_spares (spares s hs)

theorem depositsIn_of_savingsTx {dto : SavingsDepositDto} {new : NewTransfer} {F : List Stmt}
    (tx : SavingsTx dto new F) : depositsIn F = dto.amount := by
  cases tx
  simp [depositsIn, moveWallet, Stmt.deposit, savingsDeposit]

/-- What a deposit leaves, when it has found its rows. -/
structure Deposits (s : SavingsCall) (d d' : Db) : Prop where
  free : d.savingsTransactions.find s.new.transactionId = none
  deposits : d'.savingsTransactions = d.savingsTransactions.insert (savingsDeposit s.dto s.new)
  goal : ∃ g, d.savingsGoals.find s.dto.goalId = some g ∧ g.userId = s.userId ∧
    d'.savingsGoals = d.savingsGoals.modify s.dto.goalId
      (fun r => { r with currentAmount := g.currentAmount + s.dto.amount }) fun _ => rfl
  wallet : ∃ w, d.walletOf s.userId = some w ∧ s.dto.amount ≤ w.balance ∧
    d'.wallets = d.wallets.modify w.id (fun r => { r with balance := w.balance - s.dto.amount }) fun _ => rfl

theorem deposits_applyAll {s : SavingsCall} {F : List Stmt} {d : Db} (tx : SavingsTx s.dto s.new F)
    (valid : violation F d = none) (finds : ∀ w ∈ F, s.Finds d w) : Deposits s d (applyAll F d) := by
  cases tx with
  | mk w t goalAmount sufficient =>
    obtain ⟨first, -⟩ := violation_cons.1 valid
    obtain ⟨g, found, own, amount⟩ := finds (.updateSavingsGoal s.dto.goalId (goalAmount + s.dto.amount)) (by simp)
    obtain ⟨w', foundW, id, balance⟩ := finds (.updateWallet w.id (.set w.balance (-s.dto.amount)) .keep)
      (by simp [moveWallet])
    have free : d.savingsTransactions.find s.new.transactionId = none := by
      have both : Stmt.check (.createSavingsTransaction (savingsDeposit s.dto s.new)) d = none := first
      simp only [Stmt.check, Option.or_eq_none_iff, Stmt.unique_eq_none] at both
      simpa [savingsDeposit] using both.1
    refine ⟨free, rfl, ⟨g, found, own, ?_⟩, ⟨w', foundW, balance ▸ sufficient, ?_⟩⟩
    · rw [amount]
      rfl
    · rw [id, balance]
      rfl

namespace Deposits

variable {s : SavingsCall} {d d' : Db}

theorem balanceOf (h : Deposits s d d') (userId : Id) :
    d'.balanceOf userId = d.balanceOf userId - if s.userId = userId then s.dto.amount else 0 := by
  obtain ⟨w, found, -, wallets⟩ := h.wallet
  have after : d'.walletOf userId = (d.walletOf userId).map fun r =>
      if r.id = w.id then { r with balance := w.balance - s.dto.amount } else r := by
    unfold Db.walletOf
    rw [wallets]
    exact Table.findFirst_modify d.wallets w.id _ _ fun _ => rfl
  unfold Db.balanceOf
  rw [after]
  by_cases own : s.userId = userId
  · rw [if_pos own, ← own, found]
    simp
  · rw [if_neg own, sub_zero]
    cases other : d.walletOf userId with
    | none => rfl
    | some v =>
      -- a row has one owner
      have apart : v.id ≠ w.id := by
        intro same
        have row : v = w := Table.eq_of_key (List.mem_of_find?_eq_some other) (List.mem_of_find?_eq_some found) same
        have ownV : v.userId = some userId := by simpa using List.find?_some other
        have ownW : w.userId = some s.userId := by simpa using List.find?_some found
        rw [row, ownW] at ownV
        exact own (Option.some.inj ownV)
      simp [apart]

theorem covered (h : Deposits s d d') (before : ∀ userId, 0 ≤ d.balanceOf userId) (userId : Id) :
    0 ≤ d'.balanceOf userId := by
  rw [h.balanceOf]
  split
  · rename_i own
    obtain ⟨w, found, sufficient, -⟩ := h.wallet
    have balance : d.balanceOf userId = w.balance := by
      unfold Db.balanceOf
      rw [← own, found]
      rfl
    omega
  · have := before userId
    omega

theorem deposited (h : Deposits s d d') (goalId : Id) :
    d'.deposited goalId = d.deposited goalId + if s.dto.goalId = goalId then s.dto.amount else 0 := by
  unfold Db.deposited
  rw [h.deposits, Table.sum_insert h.free]
  rfl

theorem tally (h : Deposits s d d') (before : d.GoalsTally) : d'.GoalsTally := by
  obtain ⟨g, found, -, goals⟩ := h.goal
  intro r mem
  rw [goals, Table.modify_rows] at mem
  obtain ⟨r, old, rfl⟩ := List.mem_map.1 mem
  rw [h.deposited]
  have sum := before r old
  by_cases own : r.id = s.dto.goalId
  · have same : r = g := by
      rw [Table.mem_iff_find, own, found] at old
      exact (Option.some.inj old).symm
    rw [if_pos own, ← same, sum]
    simp [own]
  · rw [if_neg own, if_neg (Ne.symm own), sum, add_zero]

theorem ownsGoal (h : Deposits s d d') {userId goalId : Id} (before : d.OwnsGoal userId goalId) :
    d'.OwnsGoal userId goalId := by
  obtain ⟨r, mem, own⟩ := before
  obtain ⟨g, -, -, goals⟩ := h.goal
  unfold Db.OwnsGoal
  rw [goals, Table.find_modify, mem]
  split
  · exact ⟨_, rfl, own⟩
  · exact ⟨r, rfl, own⟩

theorem own (h : Deposits s d d') : d'.OwnsGoal s.userId s.dto.goalId := by
  obtain ⟨g, found, own, -⟩ := h.goal
  exact h.ownsGoal ⟨g, found, own⟩

end Deposits

/-! ## Runs -/

/-- The statements of a deposit, one of which is its own. -/
def Deposited (calls : List SavingsCall) (i : Nat) (F : List Stmt) : Prop :=
  ∃ s, calls[i]? = some s ∧ depositsIn F = s.dto.amount ∧
    .createSavingsTransaction (savingsDeposit s.dto s.new) ∈ F

/-- What the user has deposited in the transactions of the log. -/
def committedBy (calls : List SavingsCall) (log : Log) (userId : Id) : Int :=
  ∑ i : Fin calls.length, if calls[i].userId = userId then depositsIn (writtenBy log i) else 0

/-- What every commit of a run of deposits keeps. -/
structure SavingsSound (db : Db) (calls : List SavingsCall) (d : Db) (log : Log) : Prop where
  tally : d.GoalsTally
  covered : ∀ userId, 0 ≤ d.balanceOf userId
  owned : ∀ i t, .createSavingsTransaction t ∈ writtenBy log i →
    ∃ s, calls[i]? = some s ∧ d.OwnsGoal s.userId t.goalId
  paid : ∀ userId, d.balanceOf userId = db.balanceOf userId - committedBy calls log userId

theorem committedBy_append_of_zero {calls : List SavingsCall} {log : Log} {e : Commit Db Stmt}
    (nothing : depositsIn e.writes = 0) (userId : Id) :
    committedBy calls (log ++ [e]) userId = committedBy calls log userId := by
  refine Finset.sum_congr rfl fun i _ => ?_
  have same : depositsIn (writtenBy (log ++ [e]) i) = depositsIn (writtenBy log i) := by
    rw [writtenBy_append, depositsIn_append]
    split
    · rw [nothing, add_zero]
    · exact add_zero _
  rw [same]

theorem committedBy_append {calls : List SavingsCall} {log : Log} {e : Commit Db Stmt} {s : SavingsCall}
    (call : calls[e.thread]? = some s) (userId : Id) : committedBy calls (log ++ [e]) userId =
      committedBy calls log userId + if s.userId = userId then depositsIn e.writes else 0 := by
  obtain ⟨within, rfl⟩ := List.getElem?_eq_some_iff.1 call
  have one : (if calls[e.thread].userId = userId then depositsIn e.writes else 0) =
      ∑ i : Fin calls.length, if i = ⟨e.thread, within⟩ then
        if calls[i].userId = userId then depositsIn e.writes else 0 else 0 := by
    rw [Finset.sum_ite_eq' Finset.univ, if_pos (Finset.mem_univ _)]
    rfl
  unfold committedBy
  rw [one, ← Finset.sum_add_distrib]
  refine Finset.sum_congr rfl fun i _ => ?_
  rw [writtenBy_append, depositsIn_append]
  by_cases own : i = ⟨e.thread, within⟩
  · have thread : e.thread = i := congrArg Fin.val own.symm
    rw [if_pos own, if_pos thread]
    split <;> simp
  · have thread : e.thread ≠ i := fun same => own (Fin.ext same.symm)
    rw [if_neg own, if_neg thread, depositsIn_nil, add_zero, add_zero]

theorem savingsSound_start {db : Db} {calls : List SavingsCall} (tally : db.GoalsTally)
    (covered : ∀ userId, 0 ≤ db.balanceOf userId) : SavingsSound db calls db [] where
  tally := tally
  covered := covered
  owned i t mem := by cases mem
  paid userId := by simp [committedBy, depositsIn]

namespace SavingsSound

variable {db d : Db} {calls : List SavingsCall} {log : Log} {i : Nat} {F : List Stmt}

theorem spared (h : SavingsSound db calls d log) (valid : violation F d = none)
    (spares : ∀ s ∈ F, s.sparesSavings = true) : SavingsSound db calls (applyAll F d) (log ++ [⟨i, F, d⟩]) := by
  have same := sameSavings_applyAll valid spares
  refine ⟨?_, fun userId => ?_, fun j t mem => ?_, fun userId => ?_⟩
  · unfold Db.GoalsTally Db.deposited
    rw [same.goals, same.deposits]
    exact h.tally
  · rw [same.balances]
    exact h.covered userId
  · have old : .createSavingsTransaction t ∈ writtenBy log j := by
      rw [writtenBy_append, List.mem_append] at mem
      obtain old | new := mem
      · exact old
      · split at new
        · cases spares _ new
        · cases new
    obtain ⟨s, call, owns⟩ := h.owned j t old
    refine ⟨s, call, ?_⟩
    unfold Db.OwnsGoal
    rwa [same.goals]
  · rw [same.balances, h.paid, committedBy_append_of_zero (depositsIn_of_spares spares)]

theorem deposit (h : SavingsSound db calls d log) {s : SavingsCall} (call : calls[i]? = some s)
    (tx : SavingsTx s.dto s.new F) (valid : violation F d = none) (finds : ∀ w ∈ F, s.Finds d w) :
    SavingsSound db calls (applyAll F d) (log ++ [⟨i, F, d⟩]) := by
  have done := deposits_applyAll tx valid finds
  refine ⟨done.tally h.tally, done.covered h.covered, fun j t mem => ?_, fun userId => ?_⟩
  · rw [writtenBy_append, List.mem_append] at mem
    obtain old | new := mem
    · obtain ⟨s', call', owns⟩ := h.owned j t old
      exact ⟨s', call', done.ownsGoal owns⟩
    · split at new
      · rename_i thread
        refine ⟨s, thread ▸ call, ?_⟩
        have row : t = savingsDeposit s.dto s.new := by
          cases tx
          simpa [moveWallet] using new
        rw [row]
        exact done.own
      · cases new
  · rw [done.balanceOf, h.paid, committedBy_append (e := ⟨i, F, d⟩) call, depositsIn_of_savingsTx tx, sub_sub]

end SavingsSound

/-- What a run of deposits keeps, and what each of its calls has written at its end. -/
theorem savingsSound_of_findsRows {db : Db} {ext : Services} {calls : List SavingsCall} {c : System}
    (tally : db.GoalsTally) (covered : ∀ userId, 0 ≤ db.balanceOf userId)
    (run : Reaches (FindsRows calls) (Config.start db ext (calls.map SavingsCall.program)) c) :
    SavingsSound db calls c.db c.log ∧ (∀ i, c.Returned i → Deposited calls i (writtenBy c.log i)) ∧
      ∀ i, c.Threw i → depositsIn (writtenBy c.log i) = 0 := by
  refine run.induct_of_transactions (P := Setup)
    (G := fun i F => ∃ s, calls[i]? = some s ∧ SavingsTx s.dto s.new F) (I := fun _ past => depositsIn past = 0)
    (fun i p hp => ?_) (fun _ => rfl) (fun i nested F past setup before => ?_)
    (fun i F past own before => ?_) (SavingsSound db calls) (savingsSound_start tally covered)
    (fun {c i nested F} tx valid finds before => ?_)
  · rw [List.getElem?_map, Option.map_eq_some_iff] at hp
    obtain ⟨s, call, rfl⟩ := hp
    obtain ⟨body, same, adds⟩ := adds_depositToSavings (P := Setup) s.userId s.dto s.new
    exact ⟨body, same, adds.mono fun _ F tx => ⟨s, call, tx⟩⟩
  · rw [depositsIn_append, before, depositsIn_of_spares (spares_of_setup setup), add_zero]
  · obtain ⟨s, call, tx⟩ := own
    refine ⟨s, call, ?_, List.mem_append_right past ?_⟩
    · rw [depositsIn_append, before, depositsIn_of_savingsTx tx, zero_add]
    · cases tx
      exact List.mem_cons_self
  · obtain setup | ⟨s, call, tx⟩ := tx
    · exact before.spared valid (spares_of_setup setup)
    · exact before.deposit call tx valid (finds s call)

/-- **Savings are conserved** in every run of deposits each of which finds its rows. -/
theorem savingsConserved_of_findsRows {db : Db} {ext : Services} {calls : List SavingsCall} {c : System}
    (tally : db.GoalsTally) (covered : ∀ userId, 0 ≤ db.balanceOf userId)
    (run : Reaches (FindsRows calls) (Config.start db ext (calls.map SavingsCall.program)) c) :
    SavingsConserved db calls c := by
  obtain ⟨sound, returned, threw⟩ := savingsSound_of_findsRows tally covered run
  refine ⟨sound.tally, sound.covered, fun i done => ?_, fun finished userId => ?_⟩
  · obtain ⟨s, call, -, mem⟩ := returned i done
    obtain ⟨s', call', owns⟩ := sound.owned i _ mem
    have same : calls[i] = s := by simpa using call
    rw [call] at call'
    rw [← Option.some.inj call'] at owns
    rw [same]
    exact owns
  · rw [sound.paid]
    refine congrArg _ (Finset.sum_congr rfl fun i _ => ?_)
    obtain done | failed := finished i
    · obtain ⟨s, call, amount, -⟩ := returned i done
      have same : calls[i] = s := by simpa using call
      rw [amount, same]
      simp only [done, and_true]
    · rw [threw i failed]
      simp [failed.not_returned]

/-- Two users with a goal each, one of whom has a wallet. -/
def savers : Db where
  users := [.ofNat 1, .ofNat 2]
  wallets := ⟨[{ id := .ofNat 3, userId := some (.ofNat 1), balance := 1000 }], by decide⟩
  ledgerAccounts := ⟨[{ id := .wallet (.ofNat 3), balance := 1000 }], by decide⟩
  savingsGoals := ⟨[{ id := .ofNat 4, userId := .ofNat 1 }, { id := .ofNat 5, userId := .ofNat 2 }], by decide⟩

/-- Two deposits of one user to one goal. -/
def twoDeposits : List SavingsCall :=
  [⟨.ofNat 1, { goalId := .ofNat 4, amount := 300 }, ⟨.ofNat 6, .ofNat 7, "SAV_1"⟩⟩,
    ⟨.ofNat 1, { goalId := .ofNat 4, amount := 200 }, ⟨.ofNat 8, .ofNat 9, "SAV_2"⟩⟩]

/-- A deposit of one user to the goal of the other. -/
def strangersGoal : List SavingsCall :=
  [⟨.ofNat 1, { goalId := .ofNat 5, amount := 300 }, ⟨.ofNat 6, .ofNat 7, "SAV_1"⟩⟩]

theorem savers_covered (userId : Id) : 0 ≤ savers.balanceOf userId :=
  Db.balanceOf_nonneg (by decide) userId

/-- One after the other, both deposits reach the goal and leave the wallet. -/
theorem twoDeposits_in_turn : ∃ c,
    Reaches (FindsRows twoDeposits) (Config.start savers {} (twoDeposits.map SavingsCall.program)) c ∧
    AllFinished twoDeposits c ∧ SavingsConserved savers twoDeposits c := by
  obtain ⟨c, run, finished⟩ := Reaches.of_replay_any (FindsRows twoDeposits)
    (Config.start savers {} (twoDeposits.map SavingsCall.program)) (turns [(0, 21), (1, 21)])
    (AllFinished twoDeposits) (by decide +kernel)
  exact ⟨c, run, finished, savingsConserved_of_findsRows (by decide) savers_covered run⟩

/-- The second deposit reads before the first commits, and writes its own figures over those of
the first; and a deposit to a stranger's goal is taken. -/
theorem deposits_not_conserved :
    (∃ c, Reaches (fun _ _ => True) (Config.start savers {} (twoDeposits.map SavingsCall.program)) c ∧
      AllFinished twoDeposits c ∧ ¬c.db.GoalsTally ∧ depositedBy twoDeposits c (.ofNat 1) = 500 ∧
      c.db.balanceOf (.ofNat 1) = 800 ∧ ¬SavingsConserved savers twoDeposits c) ∧
    ∃ c, Reaches (fun _ _ => True) (Config.start savers {} (strangersGoal.map SavingsCall.program)) c ∧
      c.Returned 0 ∧ ¬SavingsConserved savers strangersGoal c := by
  obtain ⟨c, run, finished, untallied, amount, balance⟩ := Reaches.of_replay_any (fun _ _ => True)
    (Config.start savers {} (twoDeposits.map SavingsCall.program)) (turns [(0, 12), (1, 5), (0, 9), (1, 10)])
    (fun c : System => AllFinished twoDeposits c ∧ ¬c.db.GoalsTally ∧
      depositedBy twoDeposits c (.ofNat 1) = 500 ∧ c.db.balanceOf (.ofNat 1) = 800) (by decide +kernel)
  obtain ⟨c', run', returned, disowned⟩ := Reaches.of_replay_any (fun _ _ => True)
    (Config.start savers {} (strangersGoal.map SavingsCall.program)) (turns [(0, 21)])
    (fun c : System => c.Returned 0 ∧ ¬c.db.OwnsGoal (.ofNat 1) (.ofNat 5)) (by decide +kernel)
  exact ⟨⟨c, run, finished, untallied, amount, balance, fun h => untallied h.tally⟩,
    c', run', returned, fun h => disowned (h.owned ⟨0, by decide⟩ returned)⟩

end Heightt
