import Heightt.ReadCommitted.Statement
import Heightt.ReadCommitted.Run
import Heightt.Store.Table

/-!
# Bank accounts and payout destinations

The bank accounts of the users, the withdrawals requested to them, and the
provider's payout destinations. The provider is part of the state: a request to it
is a statement, and its answer a reading. It keeps the first answer to every
idempotency key and gives it again.
-/

namespace Heightt.Payouts

open Store ReadCommitted

structure BankAccount where
  id : String
  userId : String
  bankName : String
  accountNumber : String
  accountName : String
  bankCode : Option String
  isDefault : Bool := false
  payoutDestinationId : Option Nat := none
  /-- `deletedAt` is set. -/
  isDeleted : Bool := false
  deriving DecidableEq

/-- What the provider answers about a destination, with what it was registered for. -/
structure PayoutDestination where
  id : Nat
  accountNumber : String
  bankCode : String
  status : String := "approved"
  is_usable : Bool := true
  deriving DecidableEq

/-- The answer that an idempotency key got; the key names a bank account. -/
structure Answer where
  bankAccountId : String
  destination : PayoutDestination
  deriving DecidableEq

/-- A withdrawal with the bank account that its request has read: the row keeps
the name and the number, its metadata the account and the destination. -/
structure Withdrawal where
  id : String
  bankAccount : BankAccount
  payoutDestinationId : Nat
  deriving DecidableEq

/-- A payout that the provider was asked for. -/
structure Payout where
  withdrawalId : String
  destination : Nat
  deriving DecidableEq

structure PayoutDb where
  bankAccounts : Table BankAccount String BankAccount.id := .empty
  withdrawals : Table Withdrawal String Withdrawal.id := .empty
  destinations : Table PayoutDestination Nat PayoutDestination.id := .empty
  answers : Table Answer String Answer.bankAccountId := .empty
  payouts : List Payout := []

/-- `bankAccount.update`: fields left out are not written. -/
structure BankAccountPatch where
  bankName : Option String := none
  accountNumber : Option String := none
  accountName : Option String := none
  bankCode : Option String := none
  isDefault : Option Bool := none
  payoutDestinationId : Option (Option Nat) := none
  isDeleted : Option Bool := none
  deriving DecidableEq

def BankAccountPatch.apply (p : BankAccountPatch) (a : BankAccount) : BankAccount :=
  { a with
    bankName := p.bankName.getD a.bankName
    accountNumber := p.accountNumber.getD a.accountNumber
    accountName := p.accountName.getD a.accountName
    bankCode := p.bankCode.or a.bankCode
    isDefault := p.isDefault.getD a.isDefault
    payoutDestinationId := p.payoutDestinationId.getD a.payoutDestinationId
    isDeleted := p.isDeleted.getD a.isDeleted }

/-- What a request for a destination says. -/
structure DestinationData where
  accountNumber : String
  bankCode : String
  deriving DecidableEq

inductive PayoutError where
  | notFound (message : String)
  | badRequest (message : String)
  | conflict (message : String)
  | uniqueConstraint
  | recordNotFound
  /-- The database, the cache or the provider failed. -/
  | fault
  deriving DecidableEq

inductive PayoutStmt where
  | createBankAccount (account : BankAccount)
  | updateBankAccount (id : String) (patch : BankAccountPatch)
  /-- The other accounts of the user are no longer the default. -/
  | unsetDefault (userId : String) (other : Option String)
  | createWithdrawal (withdrawal : Withdrawal)
  | createActivityLog
  /-- The provider registers a destination, or has answered to the key before. -/
  | createPayoutDestination (data : DestinationData) (idempotencyKey : String)
  /-- The provider reviews a destination. -/
  | reviewDestination (id : Nat) (status : String) (is_usable : Bool)
  /-- The provider accepts a payout, or has done so before. -/
  | createPayout (payout : Payout)
  deriving DecidableEq

inductive PayoutRow where
  | bankAccount (id : String)
  | withdrawal (id : String)
  deriving DecidableEq

def BankAccount.unset (userId : String) (other : Option String) (a : BankAccount) : BankAccount :=
  if a.userId = userId ∧ a.isDefault ∧ ¬a.isDeleted ∧ some a.id ≠ other then
    { a with isDefault := false }
  else a

theorem BankAccount.unset_id (userId : String) (other : Option String) (a : BankAccount) :
    (a.unset userId other).id = a.id := by
  unfold unset
  split <;> rfl

def PayoutDestination.review (status : String) (is_usable : Bool) (r : PayoutDestination) :
    PayoutDestination :=
  { r with status, is_usable }

namespace PayoutDb

/-- The destination that a new registration gets. -/
def newDestination (d : PayoutDb) (data : DestinationData) : PayoutDestination where
  id := d.destinations.rows.length
  accountNumber := data.accountNumber
  bankCode := data.bankCode

end PayoutDb

namespace PayoutStmt

def apply : PayoutStmt → PayoutDb → PayoutDb
  | createBankAccount a, d => { d with bankAccounts := d.bankAccounts.insert a }
  | updateBankAccount id patch, d =>
    { d with bankAccounts := d.bankAccounts.modify id patch.apply fun _ => rfl }
  | unsetDefault userId other, d =>
    { d with
      bankAccounts := d.bankAccounts.mapRows (BankAccount.unset userId other)
        (BankAccount.unset_id userId other) }
  | createWithdrawal w, d => { d with withdrawals := d.withdrawals.insert w }
  | createActivityLog, d => d
  | createPayoutDestination data key, d =>
    if (d.answers.find key).isSome then d
    else
      { d with
        destinations := d.destinations.insert (d.newDestination data)
        answers := d.answers.insert ⟨key, d.newDestination data⟩ }
  | reviewDestination id status is_usable, d =>
    { d with
      destinations := d.destinations.modify id (PayoutDestination.review status is_usable) fun _ => rfl }
  | createPayout p, d =>
    if d.payouts.any fun q => q.withdrawalId = p.withdrawalId then d
    else { d with payouts := d.payouts ++ [p] }

/-- Another account has the same user, number and bank, or the same destination. -/
def Taken (d : PayoutDb) (a : BankAccount) : Prop :=
  ∃ b ∈ d.bankAccounts.rows, b.id ≠ a.id ∧
    (b.userId = a.userId ∧ b.accountNumber = a.accountNumber ∧ b.bankName = a.bankName ∨
      a.payoutDestinationId.isSome ∧ b.payoutDestinationId = a.payoutDestinationId)

instance (d : PayoutDb) (a : BankAccount) : Decidable (Taken d a) :=
  inferInstanceAs (Decidable (∃ b ∈ d.bankAccounts.rows, _ ∧ _))

/-- The constraint a statement violates. -/
def check : PayoutStmt → PayoutDb → Option PayoutError
  | createBankAccount a, d =>
    if (d.bankAccounts.find a.id).isSome ∨ Taken d a then some .uniqueConstraint else none
  | updateBankAccount id patch, d =>
    match d.bankAccounts.find id with
    | none => some .recordNotFound
    | some a => if Taken d (patch.apply a) then some .uniqueConstraint else none
  | createWithdrawal w, d => if (d.withdrawals.find w.id).isSome then some .uniqueConstraint else none
  | unsetDefault .., _ | createActivityLog, _ | createPayoutDestination .., _
  | reviewDestination .., _ | createPayout _, _ => none

/-- The rows that a statement locks. -/
def rows : PayoutStmt → List PayoutRow
  | createBankAccount a => [.bankAccount a.id]
  | updateBankAccount id _ => [.bankAccount id]
  | createWithdrawal w => [.withdrawal w.id]
  | unsetDefault .. | createActivityLog | createPayoutDestination .. | reviewDestination ..
  | createPayout _ => []

end PayoutStmt

/-- No integer column is counted here. -/
instance : Database PayoutDb PayoutStmt PayoutRow Empty PayoutError where
  apply := PayoutStmt.apply
  check := PayoutStmt.check
  rows := PayoutStmt.rows
  value _ c := c.elim
  change _ c := c.elim
  cols _ := []
  change_of_not_mem {_ c} := c.elim
  value_apply c := c.elim

end Heightt.Payouts
