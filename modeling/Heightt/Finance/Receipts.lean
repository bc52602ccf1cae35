import Heightt.Finance.Wallet

/-!
# ReceiptService

A payment has at most one receipt. It is generated after the payment has
committed, and an error in it never undoes or fails the payment.
-/

namespace Heightt.ReceiptService

open ReadCommitted Prog WalletService

/-- The identifiers a receipt gets. -/
structure NewReceipt where
  id : Id
  receiptNumber : String
  deriving DecidableEq

def receiptRow (payment : Payment) (new : NewReceipt) : Receipt where
  id := new.id
  paymentId := payment.id
  userId := payment.payerId
  receiptNumber := new.receiptNumber
  reference := payment.reference
  totalAmount := payment.amount + payment.serviceFee

/-- Only the payer, an admin or the staff of the organisation see a payment. -/
def requirePermission (userId : Id) (payment : Payment) : Action Unit := do
  let isAdmin ← outside fun d => d.admins.any fun a => a.userId = userId
  let isOrgAdmin ← outside fun d => d.memberships.any fun m =>
    m.userId = userId ∧ m.organizationId = payment.organizationId ∧ m.isStaff
  ensure (isAdmin ∨ isOrgAdmin)
    (.forbidden "You do not have permission to generate receipt for this payment")

def findPayment (paymentId : Id) : Action Payment := do
  let payment ← outside fun d => d.payments.find paymentId
  orThrow payment (.notFound "Payment not found")

def generateReceipt (paymentId userId : Id) (new : NewReceipt) : Action Unit := do
  let payment ← findPayment paymentId
  when (payment.payerId ≠ userId) (requirePermission userId payment)
  let existingReceipt ← outside fun d => d.receipts.findFirst fun r => r.paymentId = payment.id
  when existingReceipt.isNone (statement (.createReceipt (receiptRow payment new)))

def generateReceiptFromPayment (paymentId userId : Id) (new : NewReceipt) : Action Unit := do
  let payment ← findPayment paymentId
  generateReceipt payment.id userId new

/-- The transaction of a receipt. -/
inductive ReceiptTx (paymentId : Id) (new : NewReceipt) : List Stmt → Prop where
  | mk (payment : Payment) (h : payment.id = paymentId) :
    ReceiptTx paymentId new [.createReceipt (receiptRow payment new)]

section

variable {P : FinanceEvent → Prop} [Includes Quiet P]

theorem makes_findPayment (paymentId : Id) :
    Makes P (findPayment paymentId) fun p => p.id = paymentId :=
  (Makes.outside (S := fun o : Option Payment => ∀ p, o = some p → p.id = paymentId)
    (fun _ _ h => Store.Table.find_key h) fun nested => quiet (.read nested)).bind fun _ ho =>
      Makes.orThrow ho

theorem makes_requirePermission (userId : Id) (payment : Payment) :
    Makes P (requirePermission userId payment) fun _ => True :=
  (makes_outside _).bind fun _ _ => (makes_outside _).bind fun _ _ =>
    (Makes.ensure _).mono (fun _ h => h) fun _ _ => trivial

theorem makes_generateReceipt (paymentId userId : Id) (new : NewReceipt) :
    Makes (Emits P (ReceiptTx paymentId new)) (generateReceipt paymentId userId new)
      fun _ => True := by
  refine (makes_findPayment paymentId).bind fun payment h => ?_
  refine (Makes.when fun _ => (makes_requirePermission _ _)).bind fun _ _ => ?_
  exact (makes_outside _).bind fun _ _ => Makes.when fun _ =>
    Makes.statement fun nested => .tx nested (.mk payment h)

theorem makes_generateReceiptFromPayment (paymentId userId : Id) (new : NewReceipt) :
    Makes (Emits P (ReceiptTx paymentId new)) (generateReceiptFromPayment paymentId userId new)
      fun _ => True :=
  (makes_findPayment paymentId).bind fun _ h =>
    h ▸ makes_generateReceipt _ _ _

end

end Heightt.ReceiptService
