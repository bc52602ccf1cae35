import Heightt.ReadCommitted.Statement
import Heightt.ReadCommitted.Run
import Heightt.Store.Table

/-!
# Guest payers and their payments

A guest pays under a placeholder user; a user with the same email takes the
guest's payments over with a claim code. The rows that this reads or writes, and
its statements. Every payment is created COMPLETED and never changes its status.
-/

namespace Heightt.Guests

open Store ReadCommitted

structure User where
  id : String
  email : String
  emailVerified : Bool := true
  deriving DecidableEq

structure StudentProfile where
  id : String
  userId : String
  deriving DecidableEq

structure GuestPayer where
  id : String
  email : String
  placeholderUserId : String
  claimedById : Option String := none
  claimedAt : Option Nat := none
  createdAt : Nat := 0
  deriving DecidableEq

structure GuestClaimCode where
  id : String
  guestPayerId : String
  codeHash : String
  expiresAt : Nat
  attempts : Nat := 0
  usedAt : Option Nat := none
  createdAt : Nat
  deriving DecidableEq

inductive PendingPaymentStatus where
  | pending | completed | failed | cancelled | expired
  deriving DecidableEq, Repr

structure PendingPayment where
  id : String
  userId : String
  organizationId : String
  amount : Int
  dueAssignmentId : Option String := none
  reference : String
  status : PendingPaymentStatus := .pending
  /-- `metadata.guestDueId` -/
  guestDueId : Option String := none
  deriving DecidableEq

structure Payment where
  id : String
  payerId : String
  organizationId : String
  amount : Int
  reference : String
  /-- `metadata.guestDueId` -/
  guestDueId : Option String := none
  deriving DecidableEq

structure Receipt where
  id : String
  paymentId : String
  userId : String
  deriving DecidableEq

structure Due where
  id : String
  organizationId : String
  amount : Int
  deletedAt : Option Nat := none
  deriving DecidableEq

structure DueAssignment where
  id : String
  dueId : String
  studentId : String
  amount : Int
  isPaid : Bool := false
  deriving DecidableEq

structure DuePayment where
  id : String
  assignmentId : String
  paymentId : String
  amount : Int
  deriving DecidableEq

structure GuestDb where
  users : List User := []
  studentProfiles : List StudentProfile := []
  guestPayers : Table GuestPayer String GuestPayer.id := .empty
  claimCodes : Table GuestClaimCode String GuestClaimCode.id := .empty
  /-- The identifiers of deleted claim codes, which are not given again. -/
  deletedCodes : List String := []
  payments : Table Payment String Payment.id := .empty
  pendingPayments : Table PendingPayment String PendingPayment.id := .empty
  receipts : Table Receipt String Receipt.id := .empty
  dues : List Due := []
  dueAssignments : Table DueAssignment String DueAssignment.id := .empty
  duePayments : Table DuePayment String DuePayment.id := .empty
  /-- The admins and staff, who may generate the receipts of others. -/
  admins : List String := []
  /-- The time in milliseconds. -/
  now : Nat := 0

inductive GuestError where
  | notFound (message : String)
  | badRequest (message : String)
  | forbidden (message : String)
  /-- HTTP 429 -/
  | tooManyRequests (message : String)
  | uniqueConstraint
  | recordNotFound
  | foreignKeyConstraint
  /-- The database, the mail service or the cache failed. -/
  | fault
  deriving DecidableEq

inductive GuestStmt where
  | createClaimCode (code : GuestClaimCode)
  | deleteClaimCode (id : String)
  | incrementAttempts (id : String)
  /-- `guestClaimCode.update` of `usedAt`. -/
  | useClaimCode (id : String) (at_ : Nat)
  /-- `payment.updateMany` of the payer; so for the next two. -/
  | updatePayments (payerId newPayerId : String)
  | updatePendingPayments (userId newUserId : String)
  | updateReceipts (userId newUserId : String)
  | claimGuestPayer (id claimedById : String) (claimedAt : Nat)
  /-- The assignment of its due and student is paid, and is created if there is none. -/
  | upsertDueAssignment (assignment : DueAssignment)
  | payDueAssignment (id : String)
  | createDuePayment (duePayment : DuePayment)
  | createPayment (payment : Payment)
  | completePendingPayment (id : String)
  | createReceipt (receipt : Receipt)
  | createStudentProfile (profile : StudentProfile)
  | createActivityLog
  /-- Time passes. -/
  | tick (ms : Nat)
  deriving DecidableEq

inductive GuestRow where
  | claimCode (id : String)
  | guestPayer (id : String)
  | dueAssignment (dueId studentId : String)
  | duePayment (assignmentId : String)
  | paymentReference (reference : String)
  | pendingPayment (id : String)
  | receipt (paymentId : String)
  | studentProfile (userId : String)
  deriving DecidableEq

def GuestClaimCode.miss (c : GuestClaimCode) : GuestClaimCode := { c with attempts := c.attempts + 1 }

def GuestClaimCode.use (at_ : Nat) (c : GuestClaimCode) : GuestClaimCode := { c with usedAt := some at_ }

def GuestPayer.claim (userId : String) (at_ : Nat) (g : GuestPayer) : GuestPayer :=
  { g with claimedById := some userId, claimedAt := some at_ }

def Payment.give (payerId newPayerId : String) (p : Payment) : Payment :=
  if p.payerId = payerId then { p with payerId := newPayerId } else p

def PendingPayment.give (userId newUserId : String) (p : PendingPayment) : PendingPayment :=
  if p.userId = userId then { p with userId := newUserId } else p

def Receipt.give (userId newUserId : String) (r : Receipt) : Receipt :=
  if r.userId = userId then { r with userId := newUserId } else r

def DueAssignment.pay (a : DueAssignment) : DueAssignment := { a with isPaid := true }

def PendingPayment.complete (p : PendingPayment) : PendingPayment := { p with status := .completed }

namespace GuestDb

def findUser (d : GuestDb) (id : String) : Option User := d.users.find? fun u => u.id = id

def findProfile (d : GuestDb) (userId : String) : Option StudentProfile :=
  d.studentProfiles.find? fun p => p.userId = userId

/-- The assignment of a due to a student. -/
def assignmentOf (d : GuestDb) (dueId studentId : String) : Option DueAssignment :=
  d.dueAssignments.findFirst fun a => a.dueId = dueId ∧ a.studentId = studentId

end GuestDb

namespace GuestStmt

def apply : GuestStmt → GuestDb → GuestDb
  | createClaimCode c, d => { d with claimCodes := d.claimCodes.insert c }
  | deleteClaimCode id, d =>
    { d with claimCodes := d.claimCodes.erase id, deletedCodes := id :: d.deletedCodes }
  | incrementAttempts id, d =>
    { d with claimCodes := d.claimCodes.modify id GuestClaimCode.miss fun _ => rfl }
  | useClaimCode id at_, d =>
    { d with claimCodes := d.claimCodes.modify id (.use at_) fun _ => rfl }
  | updatePayments payerId newPayerId, d =>
    { d with
      payments := d.payments.mapRows (.give payerId newPayerId) fun p => by unfold Payment.give; split <;> rfl }
  | updatePendingPayments userId newUserId, d =>
    { d with
      pendingPayments := d.pendingPayments.mapRows (.give userId newUserId)
        fun p => by unfold PendingPayment.give; split <;> rfl }
  | updateReceipts userId newUserId, d =>
    { d with
      receipts := d.receipts.mapRows (.give userId newUserId) fun r => by unfold Receipt.give; split <;> rfl }
  | claimGuestPayer id claimedById claimedAt, d =>
    { d with guestPayers := d.guestPayers.modify id (.claim claimedById claimedAt) fun _ => rfl }
  | upsertDueAssignment a, d =>
    match d.assignmentOf a.dueId a.studentId with
    | some found =>
      { d with dueAssignments := d.dueAssignments.modify found.id DueAssignment.pay fun _ => rfl }
    | none => { d with dueAssignments := d.dueAssignments.insert a }
  | payDueAssignment id, d =>
    { d with dueAssignments := d.dueAssignments.modify id DueAssignment.pay fun _ => rfl }
  | createDuePayment p, d => { d with duePayments := d.duePayments.insert p }
  | createPayment p, d => { d with payments := d.payments.insert p }
  | completePendingPayment id, d =>
    { d with pendingPayments := d.pendingPayments.modify id PendingPayment.complete fun _ => rfl }
  | createReceipt r, d => { d with receipts := d.receipts.insert r }
  | createStudentProfile p, d => { d with studentProfiles := d.studentProfiles ++ [p] }
  | createActivityLog, d => d
  | tick ms, d => { d with now := d.now + ms }

/-- The row must exist. -/
def existing {α : Type} (row : Option α) : Option GuestError :=
  if row.isSome then none else some .recordNotFound

/-- The constraint a statement violates. -/
def check : GuestStmt → GuestDb → Option GuestError
  | createClaimCode c, d =>
    if (d.claimCodes.find c.id).isSome ∨ c.id ∈ d.deletedCodes then some .uniqueConstraint
    else if (d.guestPayers.find c.guestPayerId).isSome then none else some .foreignKeyConstraint
  | deleteClaimCode id, d | incrementAttempts id, d | useClaimCode id _, d =>
    existing (d.claimCodes.find id)
  | updatePayments .., _ | updatePendingPayments .., _ | updateReceipts .., _ => none
  | claimGuestPayer id _ _, d => existing (d.guestPayers.find id)
  | upsertDueAssignment a, d =>
    if (d.assignmentOf a.dueId a.studentId).isNone ∧ (d.dueAssignments.find a.id).isSome then
      some .uniqueConstraint
    else none
  | payDueAssignment id, d => existing (d.dueAssignments.find id)
  | createDuePayment p, d =>
    if (d.duePayments.find p.id).isSome ∨ d.duePayments.rows.any (fun r => r.assignmentId = p.assignmentId ∨
        r.paymentId = p.paymentId) then some .uniqueConstraint
    else if (d.dueAssignments.find p.assignmentId).isSome then none
    else some .foreignKeyConstraint
  | createPayment p, d =>
    if (d.payments.find p.id).isSome ∨ d.payments.rows.any (fun r => r.reference = p.reference) then
      some .uniqueConstraint
    else none
  | completePendingPayment id, d => existing (d.pendingPayments.find id)
  | createReceipt r, d =>
    if (d.receipts.find r.id).isSome ∨ d.receipts.rows.any (fun s => s.paymentId = r.paymentId) then
      some .uniqueConstraint
    else none
  | createStudentProfile p, d =>
    if d.studentProfiles.any fun q => q.id = p.id ∨ q.userId = p.userId then some .uniqueConstraint
    else none
  | createActivityLog, _ | tick _, _ => none

/-- The rows and unique-index entries that a statement locks. -/
def rows : GuestStmt → List GuestRow
  | deleteClaimCode id | incrementAttempts id | useClaimCode id _ => [.claimCode id]
  | claimGuestPayer id _ _ => [.guestPayer id]
  | upsertDueAssignment a => [.dueAssignment a.dueId a.studentId]
  | createDuePayment p => [.duePayment p.assignmentId]
  | createPayment p => [.paymentReference p.reference]
  | completePendingPayment id => [.pendingPayment id]
  | createReceipt r => [.receipt r.paymentId]
  | createStudentProfile p => [.studentProfile p.userId]
  | createClaimCode _ | updatePayments .. | updatePendingPayments .. | updateReceipts ..
  | payDueAssignment _ | createActivityLog | tick _ => []

end GuestStmt

/-- No integer column is counted here. -/
instance : Database GuestDb GuestStmt GuestRow Empty GuestError where
  apply := GuestStmt.apply
  check := GuestStmt.check
  rows := GuestStmt.rows
  value _ c := c.elim
  change _ c := c.elim
  cols _ := []
  change_of_not_mem {_ c} := c.elim
  value_apply c := c.elim

end Heightt.Guests
