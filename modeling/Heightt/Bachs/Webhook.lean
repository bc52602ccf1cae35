import Heightt.Bachs.Service

/-!
# BachsWebhookController

The provider's collection and checkout webhooks. A success is completed; a
failure, an underpayment and an expiry are written to the pending payment with
the webhook's checkout, whatever its status is by then.
-/

namespace Heightt.BachsWebhookController

open ReadCommitted Prog WalletService BachsService

def isPaid : CheckoutStatus → Bool
  | .paid | .completed | .succeeded => true
  | _ => false

/-- The checkout is read from the provider before it is trusted. -/
def handleCheckoutCompleted (checkoutId : Option String) (metadata : CheckoutMetadata)
    (new : NewCompletion) : Action Unit := do
  let checkoutId ← orThrow checkoutId
    (.badRequest "Completed checkout webhook is missing checkout ID")
  let checkout ← BachsClient.getCheckoutSession checkoutId
  when (isPaid checkout.status) do
    let chargeId ← orThrow checkout.chargeId
      (.badRequest "Completed checkout could not be verified with payment details")
    let amountInBachs ← orThrow checkout.amount
      (.badRequest "Completed checkout could not be verified with payment details")
    completePayment
      { checkoutId, chargeId, amountInBachs, metadata := checkout.metadata.getD metadata } new

/-- Only a bad request is reported to the provider as such. -/
def collectionError : Failure → Failure
  | .badRequest message => .badRequest message
  | _ => .error "Payment processing failed"

def handleCollectionSucceeded (checkoutId : Option String) (chargeId : String)
    (amountInBachs : Option BachsAmount) (metadata : CheckoutMetadata) (new : NewCompletion) :
    Action Unit := do
  let checkoutId ← orThrow checkoutId
    (.badRequest "Successful payment webhook is missing checkout ID or amount")
  let amountInBachs ← orThrow amountInBachs
    (.badRequest "Successful payment webhook is missing checkout ID or amount")
  (completePayment { checkoutId, chargeId, amountInBachs, metadata } new).onThrow fun e =>
    throw (collectionError e)

/-- Write a status to the first pending payment with the checkout; a webhook
without one finds the first of all. Errors are logged. -/
def markPendingPayment (checkoutId : Option String) (status : PendingPaymentStatus)
    (failureReason : Option String) : Action Unit :=
  attempt do
    let pendingPayment ← outside fun d => d.pendingPayments.findFirst fun p =>
      checkoutId.all fun id => p.bachsCheckoutId = some id
    whenSome pendingPayment fun p => statement (.updatePendingPayment p
      { status
        metadata := some { p.metadata with
          failureReason := failureReason.or p.metadata.failureReason } })

def handleCollectionFailed (checkoutId : Option String) (reason : String) : Action Unit :=
  markPendingPayment checkoutId .failed (some reason)

def handleCollectionUnderpaid (checkoutId : Option String) (amountPaid amountExpected : String) :
    Action Unit :=
  markPendingPayment checkoutId .failed
    (some ("Underpaid: received " ++ amountPaid ++ " but expected " ++ amountExpected))

def handleCheckoutExpired (checkoutId : Option String) : Action Unit :=
  markPendingPayment checkoutId .expired none

theorem makes_markPendingPayment (checkoutId : Option String) {status : PendingPaymentStatus}
    (failureReason : Option String) (h : status ≠ .completed) :
    Makes (Emits Quiet StatusTx) (markPendingPayment checkoutId status failureReason) fun _ => True :=
  ((makes_outside _).bind fun _ _ => Makes.whenSome fun _ _ =>
    makes_status h).attempt

theorem makes_handleCheckoutCompleted (checkoutId : Option String) (metadata : CheckoutMetadata)
    (new : NewCompletion) :
    Makes (Emits Quiet (ExternalPaymentTx new)) (handleCheckoutCompleted checkoutId metadata new)
      fun _ => True := by
  refine (makes_orThrow _ _).bind fun id _ => ?_
  refine (makes_request (c := Call.getCheckoutSession id) fun _ _ => nofun).bind
    fun checkout _ => Makes.when fun _ => ?_
  exact (makes_orThrow checkout.chargeId _).bind fun chargeId _ =>
    (makes_orThrow checkout.amount _).bind fun amount _ =>
      makes_completePayment _ _

theorem makes_handleCollectionSucceeded (checkoutId : Option String) (chargeId : String)
    (amountInBachs : Option BachsAmount) (metadata : CheckoutMetadata) (new : NewCompletion) :
    Makes (Emits Quiet (ExternalPaymentTx new))
      (handleCollectionSucceeded checkoutId chargeId amountInBachs metadata new) fun _ => True :=
  (makes_orThrow _ _).bind fun _ _ =>
    (makes_orThrow _ _).bind fun _ _ =>
      (makes_completePayment _ _).onThrow fun _ => .throw _

end Heightt.BachsWebhookController
