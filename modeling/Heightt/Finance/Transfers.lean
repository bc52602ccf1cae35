import Heightt.Finance.Ledger

/-!
# FinanceService: credits, debits and savings deposits

Each of these looks the wallet up first, possibly in the cache, and later writes
the new balance it computed from that reading, to the wallet and to its ledger
account.
-/

namespace Heightt.FinanceService

open ReadCommitted Prog WalletService LedgerService

/-- A request to credit or debit a user's wallet. -/
structure WalletTransferDto where
  userId : Id
  amount : Int
  reference : Option String := none
  min_amount : 1 ≤ amount := by decide
  deriving DecidableEq

/-- The identifiers a transfer gets. -/
structure NewTransfer where
  walletId : Id
  transactionId : Id
  reference : String
  deriving DecidableEq

/-- The transaction row of a credit or debit. -/
def transferRow (type : TransactionType) (wallet : Wallet) (dto : WalletTransferDto)
    (new : NewTransfer) : Transaction where
  id := new.transactionId
  walletId := wallet.id
  type := type
  amount := dto.amount
  netAmount := dto.amount
  reference := dto.reference.getD new.reference

def creditWallet (dto : WalletTransferDto) (new : NewTransfer) : Action Unit := do
  let wallet ← getOrCreateWallet (.user dto.userId) new.walletId
  transaction do
    ensure (wallet.status = .active) (.badRequest "Wallet is not active")
    exec (.createTransaction (transferRow .credit wallet dto new))
    exec (.createRecord .ledgerEntry)
    exec (.updateWallet wallet.id (.set wallet.balance dto.amount) .keep)
    exec (.updateLedgerAccount wallet.ledgerAccountId (.set wallet.balance dto.amount))
    exec (.createRecord .activityLog)
    invalidateWalletCache (.user dto.userId)

def debitWallet (dto : WalletTransferDto) (new : NewTransfer) : Action Unit := do
  let wallet ← getOrCreateWallet (.user dto.userId) new.walletId
  transaction do
    ensure (wallet.status = .active) (.badRequest "Wallet is not active")
    ensure (dto.amount ≤ wallet.balance) (.badRequest "Insufficient balance")
    exec (.createTransaction (transferRow .debit wallet dto new))
    exec (.createRecord .ledgerEntry)
    exec (.updateWallet wallet.id (.set wallet.balance (-dto.amount)) .keep)
    exec (.updateLedgerAccount wallet.ledgerAccountId (.set wallet.balance (-dto.amount)))
    exec (.createRecord .activityLog)
    invalidateWalletCache (.user dto.userId)

/-- The request admits amounts from 100 Kobo on; nothing here needs more than a positive one. -/
structure SavingsDepositDto where
  goalId : Id
  amount : Int
  positive : 0 < amount := by decide
  deriving DecidableEq

/-- The transaction row of a savings deposit. -/
def savingsRow (wallet : Wallet) (dto : SavingsDepositDto) (new : NewTransfer) : Transaction where
  id := new.transactionId
  walletId := wallet.id
  type := .debit
  amount := dto.amount
  netAmount := dto.amount
  reference := new.reference

/-- The DEPOSIT row of a savings deposit. -/
def savingsDeposit (dto : SavingsDepositDto) (new : NewTransfer) : SavingsTransaction where
  id := new.transactionId
  goalId := dto.goalId
  amount := dto.amount

/-- The wallet is looked up on a connection of its own, while the transaction is open. -/
def depositToSavings (userId : Id) (dto : SavingsDepositDto) (new : NewTransfer) : Action Unit :=
  transaction do
    let wallet ← getOrCreateWallet (.user userId) new.walletId
    ensure (wallet.status = .active) (.badRequest "Wallet is not active")
    ensure (dto.amount ≤ wallet.balance) (.badRequest "Insufficient balance")
    let goal ← query fun d => d.savingsGoals.find dto.goalId
    let goal ← orThrow goal (.notFound "Savings goal not found")
    ensure (goal.status = .active) (.badRequest "Savings goal is not active")
    exec (.createSavingsTransaction (savingsDeposit dto new))
    exec (.updateSavingsGoal dto.goalId (goal.currentAmount + dto.amount))
    exec (.createTransaction (savingsRow wallet dto new))
    exec (.createRecord .ledgerEntry)
    exec (.updateWallet wallet.id (.set wallet.balance (-dto.amount)) .keep)
    exec (.updateLedgerAccount wallet.ledgerAccountId (.set wallet.balance (-dto.amount)))
    exec (.createRecord .activityLog)
    invalidateWalletCache (.user userId)

/-! ## What these functions commit -/

/-- The statements that move a wallet and its account from the figure `base` by `δ`. -/
def moveWallet (w : Wallet) (δ : Int) : List Stmt :=
  [.updateWallet w.id (.set w.balance δ) .keep,
    .updateLedgerAccount w.ledgerAccountId (.set w.balance δ)]

/-- The transaction of a credit. -/
inductive CreditTx (dto : WalletTransferDto) : List Stmt → Prop where
  | mk (w : Wallet) (t : Transaction) : CreditTx dto
    (.createTransaction t :: .createRecord .ledgerEntry :: moveWallet w dto.amount ++
      [.createRecord .activityLog])

/-- The transaction of a debit, which found the amount in the wallet's balance. -/
inductive DebitTx (dto : WalletTransferDto) : List Stmt → Prop where
  | mk (w : Wallet) (t : Transaction) (sufficient : dto.amount ≤ w.balance) : DebitTx dto
    (.createTransaction t :: .createRecord .ledgerEntry :: moveWallet w (-dto.amount) ++
      [.createRecord .activityLog])

/-- The transaction of a savings deposit. -/
inductive SavingsTx (dto : SavingsDepositDto) (new : NewTransfer) : List Stmt → Prop where
  | mk (w : Wallet) (t : Transaction) (goalAmount : Int) (sufficient : dto.amount ≤ w.balance) :
    SavingsTx dto new (.createSavingsTransaction (savingsDeposit dto new) ::
      .updateSavingsGoal dto.goalId (goalAmount + dto.amount) :: .createTransaction t ::
      .createRecord .ledgerEntry :: moveWallet w (-dto.amount) ++ [.createRecord .activityLog])

theorem makes_creditWallet (dto : WalletTransferDto) (new : NewTransfer) :
    Makes (Emits Setup (CreditTx dto)) (creditWallet dto new) fun _ => True := by
  refine (makes_getOrCreateWallet _ _).bind fun w _ => ?_
  refine .transaction (G := fun _ F => CreditTx dto F) ?_ fun nested _ F hF => ⟨.tx nested hF, trivial⟩
  refine .ensure_bind fun _ => .exec_bind ?_
  exact .exec_bind <| .exec_bind <| .exec_bind <| .exec_bind <|
    .of_makes (makes_invalidateWalletCache _) fun _ _ => .mk w _

theorem makes_debitWallet (dto : WalletTransferDto) (new : NewTransfer) :
    Makes (Emits Setup (DebitTx dto)) (debitWallet dto new) fun _ => True := by
  refine (makes_getOrCreateWallet _ _).bind fun w _ => ?_
  refine .transaction (G := fun _ F => DebitTx dto F) ?_ fun nested _ F hF => ⟨.tx nested hF, trivial⟩
  refine .ensure_bind fun _ => .ensure_bind fun sufficient => .exec_bind ?_
  exact .exec_bind <| .exec_bind <| .exec_bind <| .exec_bind <|
    .of_makes (makes_invalidateWalletCache _) fun _ _ => .mk w _ sufficient

/-- A deposit is one transaction; what it sets up is committed inside it. -/
theorem adds_depositToSavings {P : FinanceEvent → Prop} [Includes Setup P] (userId : Id) (dto : SavingsDepositDto)
    (new : NewTransfer) : ∃ body, depositToSavings userId dto new = transaction body ∧
      Adds P body fun _ F => SavingsTx dto new F := by
  refine ⟨_, rfl, ?_⟩
  refine .makes_bind (makes_getOrCreateWallet _ _) fun w _ => ?_
  refine .ensure_bind fun _ => .ensure_bind fun sufficient => .query_bind fun d =>
    .orThrow_bind fun goal _ => .ensure_bind fun _ => .exec_bind <| .exec_bind <| .exec_bind ?_
  exact .exec_bind <| .exec_bind <| .exec_bind <| .exec_bind <|
    .of_makes (makes_invalidateWalletCache _) fun _ _ => .mk w _ _ sufficient

theorem makes_depositToSavings (userId : Id) (dto : SavingsDepositDto) (new : NewTransfer) :
    Makes (Emits Setup (SavingsTx dto new)) (depositToSavings userId dto new) fun _ => True := by
  obtain ⟨body, same, adds⟩ := adds_depositToSavings (P := Emits Setup (SavingsTx dto new)) userId dto new
  rw [same]
  exact .transaction adds fun nested _ F hF => ⟨.tx nested hF, trivial⟩

end Heightt.FinanceService
