import Heightt.Schema.Cuid
import Heightt.Store.Table
import Mathlib.Data.Rat.Floor

/-!
# The tables of the finance services

The rows of `schema.prisma` that the wallet, ledger, payment and withdrawal code
reads or writes. Amounts are integers in Kobo.
-/

namespace Heightt

inductive WalletStatus where
  | active | suspended | closed
  deriving DecidableEq, Repr

inductive HoldStatus where
  | active | released | expired
  deriving DecidableEq, Repr

inductive WithdrawalStatus where
  | pending | processing | completed | failed | cancelled
  deriving DecidableEq, Repr

inductive PendingPaymentStatus where
  | pending | completed | failed | cancelled | expired
  deriving DecidableEq, Repr

inductive JournalEntryStatus where
  | draft | posted | reversed | voided
  deriving DecidableEq, Repr

inductive JournalLineType where
  | debit | credit
  deriving DecidableEq, Repr

inductive TransactionType where
  | credit | debit
  deriving DecidableEq, Repr

inductive DueStatus where
  | active | inactive | completed | cancelled
  deriving DecidableEq, Repr

inductive AcademicSessionStatus where
  | upcoming | active | completed | archived
  deriving DecidableEq, Repr

inductive SessionScope where
  | institution | faculty | department | level
  deriving DecidableEq, Repr

inductive SavingsStatus where
  | active | completed | cancelled
  deriving DecidableEq, Repr

/-- The accounts of `SYSTEM_ACCOUNTS`, which are looked up by their code. -/
inductive SystemAccount where
  | platformFee | platformRevenue | escrow | bankClearing | vatPayable
  | bachsSettlement | bachsFee | settlementPayable
  deriving DecidableEq, Repr

def SystemAccount.code : SystemAccount → String
  | platformFee => "4100"
  | platformRevenue => "4000"
  | escrow => "2100"
  | bankClearing => "1100"
  | vatPayable => "2200"
  | bachsSettlement => "1200"
  | bachsFee => "4200"
  | settlementPayable => "2300"

/-- A ledger account is the one opened for a wallet, whose `walletId` is unique,
or a system account, whose code is unique. -/
inductive AccountId where
  | wallet (id : Id)
  | system (account : SystemAccount)
  deriving DecidableEq

structure Wallet where
  id : Id
  userId : Option Id := none
  organizationId : Option Id := none
  isPlatformWallet : Bool := false
  balance : Int := 0
  heldBalance : Int := 0
  status : WalletStatus := .active
  deriving DecidableEq

/-- A wallet and its account are created together, so the link is never missing. -/
def Wallet.ledgerAccountId (w : Wallet) : AccountId := .wallet w.id

structure WalletHold where
  id : Id
  walletId : Id
  amount : Int
  reason : List Char
  status : HoldStatus := .active
  deriving DecidableEq

structure LedgerAccount where
  id : AccountId
  balance : Int := 0
  deriving DecidableEq

structure JournalLine where
  ledgerAccountId : AccountId
  type : JournalLineType
  amount : Int
  description : String
  deriving DecidableEq

structure JournalEntry where
  id : Id
  reference : String
  description : String
  transactionId : Option Id := none
  paymentId : Option Id := none
  withdrawalId : Option Id := none
  status : JournalEntryStatus := .posted
  isBalanced : Bool := true
  lines : List JournalLine := []
  deriving DecidableEq

structure Transaction where
  id : Id
  walletId : Id
  type : TransactionType
  amount : Int
  fee : Int := 0
  netAmount : Int
  reference : String
  journalEntryId : Option Id := none
  deriving DecidableEq

structure Payment where
  id : Id
  payerId : Id
  organizationId : Id
  transactionId : Id
  amount : Int
  serviceFee : Int
  reference : String
  bachsChargeId : Option String := none
  bachsCheckoutId : Option String := none
  journalEntryId : Option Id := none
  deriving DecidableEq

structure Receipt where
  id : Id
  paymentId : Id
  userId : Id
  receiptNumber : String
  reference : String
  totalAmount : Int
  deriving DecidableEq

/-- The metadata of a pending payment that the payment code reads back. -/
structure PendingPaymentMetadata where
  baseAmount : Option Int := none
  platformFee : Option Int := none
  expectedSettlementAmount : Option Int := none
  retryCount : Nat := 0
  failureReason : Option String := none
  deriving DecidableEq

structure PendingPayment where
  id : Id
  userId : Id
  organizationId : Id
  amount : Int
  dueAssignmentId : Option Id := none
  reference : String
  status : PendingPaymentStatus := .pending
  bachsCheckoutId : Option String := none
  createdAt : Nat := 0
  metadata : PendingPaymentMetadata := {}
  deriving DecidableEq

/-- The fields of a pending payment that are never written. -/
def PendingPayment.Same (a b : PendingPayment) : Prop :=
  a.userId = b.userId ∧ a.organizationId = b.organizationId ∧ a.amount = b.amount ∧
    a.dueAssignmentId = b.dueAssignmentId ∧ a.reference = b.reference

instance (a b : PendingPayment) : Decidable (a.Same b) :=
  inferInstanceAs (Decidable (_ ∧ _ ∧ _ ∧ _ ∧ _))

inductive WithdrawalType where
  | user | organization | platform
  deriving DecidableEq, Repr

/-- `metadata.charges` of a withdrawal. -/
structure Charges where
  fee : Int
  platformFee : Option Int := none
  providerFee : Option Int := none
  deriving DecidableEq

structure WithdrawalMetadata where
  type : WithdrawalType
  organizationId : Option Id := none
  payoutDestinationId : Option String := none
  charges : Charges
  platformFeeAllocatedAt : Option Nat := none
  platformFeeJournalEntryId : Option Id := none
  deriving DecidableEq

/-- The provider's identifier of a payout. -/
abbrev PayoutId := Nat

structure Withdrawal where
  id : Id
  userId : Id
  walletId : Id
  amount : Int
  fee : Int
  status : WithdrawalStatus := .pending
  reference : String
  metadata : WithdrawalMetadata
  processedAt : Option Nat := none
  journalEntryId : Option Id := none
  providerPayoutId : Option PayoutId := none
  deriving DecidableEq

/-- The fields of a withdrawal that are never written. -/
def Withdrawal.Same (a b : Withdrawal) : Prop :=
  a.userId = b.userId ∧ a.walletId = b.walletId ∧ a.amount = b.amount ∧
    a.reference = b.reference ∧ a.metadata.type = b.metadata.type

instance (a b : Withdrawal) : Decidable (a.Same b) :=
  inferInstanceAs (Decidable (_ ∧ _ ∧ _ ∧ _ ∧ _))

structure AcademicSession where
  id : Id
  institutionId : Id
  scope : SessionScope := .institution
  isCurrent : Bool := false
  status : AcademicSessionStatus
  deriving DecidableEq

structure Due where
  id : Id
  organizationId : Id
  sessionId : Option Id := none
  amount : Int
  isFresher : Bool := false
  isDirectEntryEligible : Bool := false
  status : DueStatus := .active
  deletedAt : Option Nat := none
  createdAt : Nat := 0
  deriving DecidableEq

structure DueAssignment where
  id : Id
  dueId : Id
  studentId : Id
  amount : Int
  isPaid : Bool := false
  createdAt : Nat := 0
  deriving DecidableEq

structure DuePayment where
  id : Id
  assignmentId : Id
  paymentId : Id
  amount : Int
  deriving DecidableEq

structure StudentProfile where
  id : Id
  userId : Id
  institutionId : Id
  departmentId : Id
  currentAcademicLevelId : Option Id := none
  /-- `currentAcademicLevel.numericLevel` -/
  numericLevel : Option Nat := none
  isDirectEntry : Bool := false
  deriving DecidableEq

/-- An ACTIVE membership. -/
structure Membership where
  userId : Id
  organizationId : Id
  /-- `membershipType` is ADMIN or STAFF. -/
  isStaff : Bool := false
  deriving DecidableEq

structure SavingsGoal where
  id : Id
  userId : Id
  currentAmount : Int := 0
  status : SavingsStatus := .active
  deriving DecidableEq

/-- A savings transaction of type DEPOSIT, the only one that is made. -/
structure SavingsTransaction where
  id : Id
  goalId : Id
  amount : Int
  deriving DecidableEq

structure BankAccount where
  id : Id
  userId : Id
  bankCode : Option String
  payoutDestinationId : Option String := none
  deriving DecidableEq

structure Organization where
  id : Id
  institutionId : Option Id := none
  facultyId : Option Id := none
  departmentId : Option Id := none
  deriving DecidableEq

inductive AdminType where
  | platformAdmin | institutionAdmin | facultyAdmin | departmentAdmin | organizationAdmin | clubAdmin
  deriving DecidableEq, Repr

/-- An ACTIVE admin record. -/
structure Admin where
  userId : Id
  adminType : AdminType
  organizationId : Option Id := none
  institutionId : Option Id := none
  facultyId : Option Id := none
  departmentId : Option Id := none
  deriving DecidableEq

/-- How an operation fails. The first four are raised by the code, with their
messages; the others by the database and by other systems. -/
inductive Failure where
  | notFound (message : String)
  | badRequest (message : String)
  | forbidden (message : String)
  | conflict (message : String)
  /-- `INSUFFICIENT_AVAILABLE_BALANCE` -/
  | insufficientAvailableBalance (availableBalance requestedAmount fee maxWithdrawable : Int)
  /-- `PAYOUT_SUBMISSION_FAILED` -/
  | payoutSubmissionFailed (withdrawalId : Id)
  | error (message : String)
  | uniqueConstraint (target : String)
  | recordNotFound
  | foreignKeyConstraint
  | invalidArgument
  | unavailable
  deriving DecidableEq

end Heightt
