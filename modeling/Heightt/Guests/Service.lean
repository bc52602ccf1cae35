import Heightt.Guests.Database
import Mathlib.Data.List.Sort

/-!
# GuestPaymentService

Claiming guest payments with a code, and what of `completePayment` and of the
creation of a student profile concerns the payments of a guest.
-/

namespace Heightt.Guests

open Store ReadCommitted Prog

/-- The mail service, and the comparison of two hashes, which leaves a trace
of the codes that were compared. -/
inductive GuestCall where
  | sendEmail (email code : String)
  | timingSafeEqual (claim : GuestClaimCode) (submittedHash : String)
  deriving DecidableEq

def GuestCall.Reply : GuestCall → Type
  | sendEmail .. | timingSafeEqual .. => Bool

/-- What the calls leave. -/
structure Outside where
  mailWorks : Bool := true
  /-- The identifiers of the codes that were compared, and the outcomes. -/
  compared : List (String × Bool) := []

instance : External Outside GuestCall GuestCall.Reply Empty where
  handle
    | .sendEmail .., x => (x, x.mailWorks)
    | .timingSafeEqual claim submittedHash, x =>
      let equal := decide (claim.codeHash = submittedHash)
      ({ x with compared := x.compared ++ [(claim.id, equal)] }, equal)
  move m := m.elim

abbrev GuestAction (α : Type) := Prog GuestDb GuestStmt GuestCall GuestCall.Reply GuestError α

abbrev GuestSystem := Config GuestDb Outside GuestStmt GuestCall GuestCall.Reply GuestError

/-- `normalizeEmail` trims and lowers; `codeHash` is the HMAC of a code for a user. -/
structure ClaimConfig where
  normalizeEmail : String → String
  codeHash : (code userId : String) → String

/-- The identifiers of the due records of a claimed payment. -/
structure NewDueRecord where
  assignmentId : String
  duePaymentId : String

namespace GuestPaymentService

def sendEmail (email code : String) : GuestAction Bool := request (C := GuestCall) (.sendEmail email code)

def timingSafeEqual (claim : GuestClaimCode) (submittedHash : String) : GuestAction Bool :=
  request (C := GuestCall) (.timingSafeEqual claim submittedHash)

def isUnclaimed (email : String) (g : GuestPayer) : Bool := g.email = email ∧ g.claimedAt = none

/-- The unclaimed guests with the email, the oldest first; `verifyClaimCode` asks for no order. -/
def findGuests (d : GuestDb) (email : String) : List GuestPayer :=
  (d.guestPayers.rows.filter (isUnclaimed email)).insertionSort fun g h => g.createdAt ≤ h.createdAt

/-- A user whose email is verified, with the student profile if there is one. -/
def verifiedUser (userId message : String) : GuestAction (User × Option StudentProfile) := do
  let found ← outside fun d => (d.findUser userId).map fun u => (u, d.findProfile userId)
  orThrow (found.filter fun p => p.1.emailVerified) (.forbidden message)

def requestClaimCode (config : ClaimConfig) (userId code newId : String) : GuestAction Unit := do
  let (user, _) ← verifiedUser userId "Verify your account email before claiming payments"
  let email := config.normalizeEmail user.email
  let guests ← outside fun d => findGuests d email
  whenSome guests.head? fun guest => do
    let now ← query GuestDb.now
    let recent ← outside fun d => d.claimCodes.findFirst fun c =>
      c.guestPayerId = guest.id ∧ c.usedAt = none ∧ now ≤ c.createdAt + 60000
    ensure recent.isNone (.tooManyRequests "Wait before requesting another code")
    let now ← query GuestDb.now
    statement (.createClaimCode
      { id := newId, guestPayerId := guest.id, codeHash := config.codeHash code user.id
        expiresAt := now + 10 * 60000, createdAt := now })
    let sent ← sendEmail email code
    when (sent = false) do
      statement (.deleteClaimCode newId)
      throw (.badRequest "Unable to send claim code")

/-- The newest usable code of the unclaimed guests with the email. -/
def usableCode (d : GuestDb) (email : String) (now : Nat) : Option GuestClaimCode :=
  ((d.claimCodes.rows.filter fun c => c.usedAt = none ∧ now < c.expiresAt ∧ c.attempts < 5 ∧
    (d.guestPayers.find c.guestPayerId).any (isUnclaimed email)).insertionSort
      fun c e => e.createdAt ≤ c.createdAt).head?

/-- Mark the student's assignment of the payment's due as paid, by this payment
unless another one has done so. -/
def recordDue (profile : StudentProfile) (payment : Payment) (new : NewDueRecord) : GuestAction Unit :=
  whenSome (payment.guestDueId.filter (· ≠ "")) fun dueId => do
    let due ← query fun d => d.dues.find? fun due => due.id = dueId ∧ due.deletedAt = none
    whenSome (due.filter fun due => due.organizationId = payment.organizationId) fun due => do
      exec (.upsertDueAssignment
        { id := new.assignmentId, dueId, studentId := profile.id, amount := due.amount, isPaid := true })
      let upserted ← query fun d => d.assignmentOf dueId profile.id
      let assignment ← orThrow upserted .recordNotFound
      let existingDuePayment ← query fun d => d.duePayments.findFirst fun p => p.assignmentId = assignment.id
      when (existingDuePayment = none) (exec (.createDuePayment
        { id := new.duePaymentId, assignmentId := assignment.id, paymentId := payment.id
          amount := payment.amount }))

/-- Everything of a guest becomes the user's. -/
def claimGuest (user : User) (profile : Option StudentProfile) (now : Nat)
    (new : (paymentId : String) → NewDueRecord) (guest : GuestPayer) : GuestAction Unit := do
  let payments ← query fun d => d.payments.rows.filter fun p => p.payerId = guest.placeholderUserId
  exec (.updatePayments guest.placeholderUserId user.id)
  exec (.updatePendingPayments guest.placeholderUserId user.id)
  exec (.updateReceipts guest.placeholderUserId user.id)
  whenSome profile fun profile =>
    forEach payments fun payment => recordDue profile payment (new payment.id)
  exec (.claimGuestPayer guest.id user.id now)

/-- The transaction of `verifyClaimCode`. -/
def claimGuests (user : User) (profile : Option StudentProfile) (claim : GuestClaimCode)
    (guests : List GuestPayer) (now : Nat) (new : (paymentId : String) → NewDueRecord) :
    GuestAction Unit := do
  forEach guests (claimGuest user profile now new)
  exec (.useClaimCode claim.id now)

def verifyClaimCode (config : ClaimConfig) (userId code : String)
    (new : (paymentId : String) → NewDueRecord) : GuestAction Unit := do
  let (user, profile) ← verifiedUser userId "Verified account required"
  let email := config.normalizeEmail user.email
  let submittedHash := config.codeHash code user.id
  let now ← query GuestDb.now
  let found ← outside fun d => usableCode d email now
  let claim ← orThrow found (.badRequest "Invalid or expired claim code")
  let validCode ← timingSafeEqual claim submittedHash
  when (validCode = false) do
    statement (.incrementAttempts claim.id)
    throw (.badRequest "Invalid or expired claim code")
  let guests ← outside fun d => findGuests d email
  let now ← query GuestDb.now
  transaction (claimGuests user profile claim guests now new)

end GuestPaymentService

/-- The due recording of `completePayment`. -/
def payDue (pendingPayment : PendingPayment) (paymentId duePaymentId : String) : GuestAction Unit := do
  let dueAssignment ← query fun d => pendingPayment.dueAssignmentId.bind d.dueAssignments.find
  whenSome (dueAssignment.filter fun a => a.isPaid = false) fun dueAssignment => do
    let totalPaid ← query fun d =>
      ((d.duePayments.rows.filter fun p => p.assignmentId = dueAssignment.id).map DuePayment.amount).sum
    exec (.createDuePayment
      { id := duePaymentId, assignmentId := dueAssignment.id, paymentId, amount := pendingPayment.amount })
    when (dueAssignment.amount ≤ totalPaid + pendingPayment.amount) (exec (.payDueAssignment dueAssignment.id))

/-- The transaction of `completePayment`, when the provider reports the amount that was asked for;
its figures are in `BachsService.completePayment`. -/
def recordPayment (pendingPaymentId paymentId duePaymentId : String) : GuestAction Payment := do
  let found ← query fun d => d.pendingPayments.find pendingPaymentId
  let pendingPayment ← orThrow found (.notFound "Pending payment not found for checkout")
  let existingPayment ← query fun d => d.payments.findFirst fun p => p.reference = pendingPayment.reference
  match existingPayment with
  | some payment => pure payment
  | none => do
    ensure (pendingPayment.status = .pending) (.badRequest "Payment cannot be completed")
    let payment : Payment :=
      { id := paymentId, payerId := pendingPayment.userId, organizationId := pendingPayment.organizationId
        amount := pendingPayment.amount, reference := pendingPayment.reference
        guestDueId := pendingPayment.guestDueId }
    exec (.createPayment payment)
    payDue pendingPayment paymentId duePaymentId
    exec (.completePendingPayment pendingPaymentId)
    exec .createActivityLog
    pure payment

/-- `ReceiptService.generateReceiptFromPayment` -/
def generateReceipt (payment : Payment) (receiptId : String) : GuestAction Unit := do
  let found ← outside fun d => d.payments.find payment.id
  let current ← orThrow found (.notFound "Payment not found")
  let isAdmin ← outside fun d => d.admins.contains payment.payerId
  ensure (current.payerId = payment.payerId ∨ isAdmin = true)
    (.forbidden "You do not have permission to generate receipt for this payment")
  let existingReceipt ← outside fun d => d.receipts.findFirst fun r => r.paymentId = payment.id
  when existingReceipt.isNone
    (statement (.createReceipt { id := receiptId, paymentId := payment.id, userId := current.payerId }))

/-- An error in the receipt does not fail the payment. -/
def completePayment (pendingPaymentId paymentId duePaymentId receiptId : String) : GuestAction Unit := do
  let payment ← transaction (recordPayment pendingPaymentId paymentId duePaymentId)
  attempt (generateReceipt payment receiptId)

/-- The profile that a user creates. -/
def createStudentProfile (userId newId : String) : GuestAction Unit :=
  statement (.createStudentProfile { id := newId, userId })

/-- A call, with the identifiers it is given, or time passing. -/
inductive GuestOp where
  | requestClaimCode (userId code newId : String)
  | verifyClaimCode (userId code : String) (new : (paymentId : String) → NewDueRecord)
  | completePayment (pendingPaymentId paymentId duePaymentId receiptId : String)
  | createStudentProfile (userId newId : String)
  | tick (ms : Nat)

/-- The program of a call. -/
def GuestOp.program (config : ClaimConfig) : GuestOp → GuestAction Unit
  | requestClaimCode userId code newId => GuestPaymentService.requestClaimCode config userId code newId
  | verifyClaimCode userId code new => GuestPaymentService.verifyClaimCode config userId code new
  | completePayment pendingPaymentId paymentId duePaymentId receiptId =>
    Guests.completePayment pendingPaymentId paymentId duePaymentId receiptId
  | createStudentProfile userId newId => Guests.createStudentProfile userId newId
  | tick ms => statement (.tick ms)

end Heightt.Guests
