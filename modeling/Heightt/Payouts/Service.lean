import Heightt.Payouts.Database

/-!
# BankAccountService and payouts

Adding, changing and deleting bank accounts, and the part of FinanceService that
finds the destination of a withdrawal and asks the provider for its payout.
-/

namespace Heightt.Payouts

open Store ReadCommitted Prog

/-- `bachsClient.resolveBankAccount`, and `cacheService.delete` of a user's accounts. -/
inductive AccountCall where
  | resolveBankAccount (bankCode accountNumber : String)
  | cacheDelete (userId : String)
  deriving DecidableEq

/-- What the bank says about an account number; an empty name is `none`. -/
structure Resolution where
  accountName : String
  bankName : Option String := none
  deriving DecidableEq

def AccountCall.Reply : AccountCall → Type
  | resolveBankAccount .. => Option Resolution
  | cacheDelete _ => Unit

/-- The accounts that the banks know, by code and number. -/
structure Banks where
  accounts : List ((String × String) × Resolution) := []

instance : External Banks AccountCall AccountCall.Reply Empty where
  handle
    | .resolveBankAccount bankCode accountNumber, x =>
      (x, (x.accounts.find? fun a => a.1 = (bankCode, accountNumber)).map Prod.snd)
    | .cacheDelete _, x => (x, ())
  move m := m.elim

abbrev PayoutAction (α : Type) :=
  Prog PayoutDb PayoutStmt AccountCall AccountCall.Reply PayoutError α

abbrev PayoutSystem :=
  Config PayoutDb Banks PayoutStmt AccountCall AccountCall.Reply PayoutError

def CacheService.delete (userId : String) : PayoutAction Unit :=
  request (C := AccountCall) (.cacheDelete userId)

def BachsClient.resolveBankAccount (bankCode accountNumber : String) :
    PayoutAction (Option Resolution) :=
  request (C := AccountCall) (.resolveBankAccount bankCode accountNumber)

structure CreateBankAccountDto where
  bankName : String
  accountNumber : String
  bankCode : String
  isDefault : Bool := false
  deriving DecidableEq

structure UpdateBankAccountDto where
  bankName : Option String := none
  accountNumber : Option String := none
  accountName : Option String := none
  bankCode : Option String := none
  isDefault : Option Bool := none
  deriving DecidableEq

namespace BankAccountService

def getBankAccountById (id userId : String) : PayoutAction BankAccount := do
  let bankAccount ← outside fun d => d.bankAccounts.findFirst fun a => a.id = id ∧ ¬a.isDeleted
  let bankAccount ← orThrow bankAccount (.notFound "Bank account not found")
  ensure (bankAccount.userId = userId) (.badRequest "You do not have access to this bank account")
  pure bankAccount

/-- The row of a new account. -/
def accountRow (userId newId : String) (dto : CreateBankAccountDto) (verified : Resolution)
    (isDefault : Bool) : BankAccount where
  id := newId
  userId := userId
  bankName := verified.bankName.getD dto.bankName
  accountNumber := dto.accountNumber
  accountName := verified.accountName
  bankCode := some dto.bankCode
  isDefault := isDefault

/-- What reviving a deleted account writes. -/
def revival (a : BankAccount) : BankAccountPatch where
  bankName := some a.bankName
  accountNumber := some a.accountNumber
  accountName := some a.accountName
  bankCode := a.bankCode
  isDefault := some a.isDefault
  payoutDestinationId := some none
  isDeleted := some false

def createBankAccount (userId : String) (dto : CreateBankAccountDto) (newId : String) :
    PayoutAction Unit := do
  let resolution ← BachsClient.resolveBankAccount dto.bankCode dto.accountNumber
  let verified ← orThrow resolution (.badRequest "Bank account could not be verified")
  let existing ← outside fun d => d.bankAccounts.findFirst fun a =>
    a.userId = userId ∧ a.accountNumber = dto.accountNumber ∧
      a.bankName = verified.bankName.getD dto.bankName
  ensure (existing.all BankAccount.isDeleted) (.conflict "This bank account is already added")
  let count ← outside fun d =>
    (d.bankAccounts.rows.filter fun a => a.userId = userId ∧ ¬a.isDeleted).length
  let isDefault : Bool := dto.isDefault || count = 0
  when isDefault (statement (.unsetDefault userId none))
  let account := accountRow userId newId dto verified isDefault
  statement (write existing account)
  CacheService.delete userId
where
  write : Option BankAccount → BankAccount → PayoutStmt
    | some existing, account => .updateBankAccount existing.id (revival account)
    | none, account => .createBankAccount account

def payoutDetailsChanged (dto : UpdateBankAccountDto) (bankAccount : BankAccount) : Prop :=
  (dto.bankName.isSome ∧ dto.bankName ≠ some bankAccount.bankName) ∨
  (dto.accountNumber.isSome ∧ dto.accountNumber ≠ some bankAccount.accountNumber) ∨
  (dto.bankCode.isSome ∧ dto.bankCode ≠ bankAccount.bankCode)

instance (dto : UpdateBankAccountDto) (bankAccount : BankAccount) :
    Decidable (payoutDetailsChanged dto bankAccount) :=
  inferInstanceAs (Decidable ((_ ∧ _) ∨ (_ ∧ _) ∨ (_ ∧ _)))

def updatePatch (dto : UpdateBankAccountDto) (bankAccount : BankAccount) : BankAccountPatch where
  bankName := dto.bankName
  accountNumber := dto.accountNumber
  accountName := dto.accountName
  bankCode := dto.bankCode
  isDefault := dto.isDefault
  payoutDestinationId := if payoutDetailsChanged dto bankAccount then some none else none

def updateBankAccount (id userId : String) (dto : UpdateBankAccountDto) : PayoutAction Unit := do
  let bankAccount ← getBankAccountById id userId
  when (dto.isDefault = some true) (statement (.unsetDefault userId (some id)))
  statement (.updateBankAccount id (updatePatch dto bankAccount))
  CacheService.delete userId

def deleteBankAccount (id userId : String) : PayoutAction Unit := do
  let bankAccount ← getBankAccountById id userId
  when bankAccount.isDefault do
    let nextAccount ← outside fun d => d.bankAccounts.findFirst fun a =>
      a.userId = userId ∧ ¬a.isDeleted ∧ a.id ≠ id
    whenSome nextAccount fun a => statement (.updateBankAccount a.id { isDefault := some true })
  transaction do
    exec (.updateBankAccount id { isDefault := some false, isDeleted := some true })
    exec .createActivityLog
  CacheService.delete userId

def setDefaultBankAccount (id userId : String) : PayoutAction Unit := do
  let _ ← getBankAccountById id userId
  statement (.unsetDefault userId (some id))
  statement (.updateBankAccount id { isDefault := some true })
  CacheService.delete userId

end BankAccountService

namespace FinanceService

open BankAccountService

def getPayoutDestination (id : Nat) : PayoutAction PayoutDestination := do
  let destination ← outside fun d => d.destinations.find id
  orThrow destination .fault

/-- The provider's answer is the one the key got first. -/
def createPayoutDestination (data : DestinationData) (idempotencyKey : String) :
    PayoutAction PayoutDestination := do
  statement (.createPayoutDestination data idempotencyKey)
  let answer ← outside fun d => d.answers.find idempotencyKey
  let answer ← orThrow answer .fault
  pure answer.destination

def ensurePayoutDestination (bankAccount : BankAccount) (requireUsable : Bool) :
    PayoutAction PayoutDestination := do
  let bankCode ← orThrow (bankAccount.bankCode.filter (· ≠ "")) (.badRequest "Bank code is required for payouts")
  let destination ← fetch bankCode bankAccount.payoutDestinationId
  statement (.updateBankAccount bankAccount.id { payoutDestinationId := some (some destination.id) })
  CacheService.delete bankAccount.userId
  ensure (requireUsable → destination.is_usable ∧ destination.status = "approved")
    (.badRequest ("Bank payout destination is " ++
      if destination.status = "" then "not approved" else destination.status))
  pure destination
where
  fetch (bankCode : String) : Option Nat → PayoutAction PayoutDestination
    | some id => getPayoutDestination id
    | none => createPayoutDestination ⟨bankAccount.accountNumber, bankCode⟩ bankAccount.id

def prepareBankAccountPayout (userId bankAccountId : String) : PayoutAction Unit := do
  let bankAccount ← getBankAccountById bankAccountId userId
  let _ ← ensurePayoutDestination bankAccount false

/-- The part of a withdrawal request that settles where it is paid to. -/
def requestUserWithdrawal (userId bankAccountId newId : String) : PayoutAction Unit := do
  let bankAccount ← getBankAccountById bankAccountId userId
  let payoutDestination ← ensurePayoutDestination bankAccount true
  transaction (exec (.createWithdrawal
    { id := newId, bankAccount, payoutDestinationId := payoutDestination.id }))

def triggerWithdrawalTransfer (withdrawalId : String) : PayoutAction Unit := do
  let withdrawal ← outside fun d => d.withdrawals.find withdrawalId
  let withdrawal ← orThrow withdrawal (.notFound "Withdrawal not found")
  statement (.createPayout ⟨withdrawal.id, withdrawal.payoutDestinationId⟩)

/-- An organisation's withdrawal goes to the provider in the same call, and so
does one of the platform. -/
def requestOrganizationWithdrawal (userId bankAccountId newId : String) : PayoutAction Unit := do
  requestUserWithdrawal userId bankAccountId newId
  triggerWithdrawalTransfer newId

end FinanceService

end Heightt.Payouts
