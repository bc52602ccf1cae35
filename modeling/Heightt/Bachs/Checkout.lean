import Heightt.Bachs.Service
import Mathlib.Data.List.MinMax

/-!
# BachsService.initiatePayment

A payment is initiated by a pending payment and a checkout that the provider is
asked for. The row of an earlier call is used again while it is pending: with its
checkout if that is still open, or with a new one if it has none.
-/

namespace Heightt.BachsService

open ReadCommitted Prog Store WalletService LedgerService FinanceService

/-- The least amount the provider accepts for a checkout. -/
def MIN_BACHS_CHECKOUT_AMOUNT_KOBO : Int := 10000

structure PendingPaymentData where
  organizationId : Id
  amount : Int
  dueAssignmentId : Option Id := none
  reference : Option String := none
  deriving DecidableEq

/-- The identifiers and the time a new pending payment gets. -/
structure NewPendingPayment where
  id : Id
  reference : String
  now : Nat
  deriving DecidableEq

/-- What is wrong with a redirect URL. -/
inductive RedirectFault where
  | invalid | protocol | origin
  deriving DecidableEq, Repr

structure CheckoutConfig where
  fees : FeeConfig
  /-- `fees.platform.enabled` -/
  platformFeeEnabled : Bool := true
  frontendUrl : String := "http://localhost:3001"
  /-- What `new URL` and the allowed origins have against a URL. -/
  redirectFault : String → Option RedirectFault := fun _ => none

def CheckoutConfig.platformFee (config : CheckoutConfig) : Int :=
  if config.platformFeeEnabled then config.fees.platformFeeAmount else 0

/-- What `initiatePayment` returns. -/
structure CheckoutReply where
  checkoutId : String
  checkoutUrl : String
  pendingPaymentId : Id
  baseAmount : Int
  platformFee : Int
  totalBeforeGatewayFee : Int
  deriving DecidableEq

/-- A pending payment, with the page of its checkout if that is open. -/
structure OpenPayment where
  row : PendingPayment
  checkoutUrl : Option String := none
  deriving DecidableEq

/-- The time a pending payment can be used again, in milliseconds. -/
def checkoutLifetime : Nat := 60 * 60 * 1000

/-- `findFirst` of the user's pending payment for the same purpose, newest first. -/
def findExisting (userId : Id) (data : PendingPaymentData) (d : Db) : Option PendingPayment :=
  (d.pendingPayments.rows.filter fun p => p.userId = userId ∧ p.organizationId = data.organizationId ∧
    p.dueAssignmentId = data.dueAssignmentId ∧ p.status = .pending).argmax PendingPayment.createdAt

/-- The pending payment that a request goes on with: it has no checkout yet, or an open one. -/
def reusedPayment (userId : Id) (data : PendingPaymentData) (now : Nat) (d : Db) (x : Services) :
    Option PendingPayment :=
  (findExisting userId data d).filter fun p => now < p.createdAt + checkoutLifetime ∧
    p.bachsCheckoutId.all fun id => (x.checkout id).status = .open

/-- The figures a row gets from a request: `{ ...metadata, baseAmount, … }`. -/
def withFigures (metadata : PendingPaymentMetadata) (amount fee : Int) : PendingPaymentMetadata :=
  { metadata with
    baseAmount := some amount
    platformFee := some fee
    expectedSettlementAmount := some (amount + fee) }

def pendingPaymentRow (userId : Id) (data : PendingPaymentData) (fee : Int) (new : NewPendingPayment) :
    PendingPayment where
  id := new.id
  userId := userId
  organizationId := data.organizationId
  amount := data.amount
  dueAssignmentId := data.dueAssignmentId
  reference := data.reference.getD new.reference
  createdAt := new.now
  metadata := withFigures {} data.amount fee

def createPendingPayment (userId : Id) (data : PendingPaymentData) (fee : Int)
    (new : NewPendingPayment) : Action OpenPayment := do
  exec (.createPendingPayment (pendingPaymentRow userId data fee new))
  pure { row := pendingPaymentRow userId data fee new }

/-- What an earlier checkout of the pending payment allows: to go on with it, or
to start anew once its row is closed. -/
def checkExisting (p : PendingPayment) (checkoutId : String) : Action (Option OpenPayment) := do
  let checkout ← BachsClient.getCheckoutSession checkoutId
  match checkout.status with
  | .open => pure (some ⟨p, checkout.checkoutUrl⟩)
  | .expired => do
    exec (.updatePendingPayment p { status := .expired })
    pure none
  | .cancelled => do
    exec (.updatePendingPayment p { status := .cancelled })
    pure none
  | _ => throw (.conflict "A payment for this due is already being confirmed")

/-- Only a conflict is thrown on as it is. -/
def existingError : Failure → Failure
  | .conflict message => .conflict message
  | _ => .conflict "The existing payment could not be checked. Please check its status before trying again."

/-- Go on with the pending payment `p`, or start anew. -/
def reusePendingPayment (userId : Id) (data : PendingPaymentData) (fee : Int) (new : NewPendingPayment)
    (p : PendingPayment) : Action OpenPayment :=
  if p.createdAt + checkoutLifetime ≤ new.now then do
    exec (.updatePendingPayment p (withStatus p .expired))
    createPendingPayment userId data fee new
  else
    match p.bachsCheckoutId with
    | none => pure { row := p }
    | some checkoutId => do
      let existing ← (checkExisting p checkoutId).onThrow fun e => throw (existingError e)
      match existing with
      | some found => pure found
      | none => createPendingPayment userId data fee new

/-- The transaction of `initiatePayment`. -/
def openPendingPayment (userId : Id) (data : PendingPaymentData) (fee : Int) (new : NewPendingPayment) :
    Action OpenPayment := do
  let completedDuePayment ← query fun d => data.dueAssignmentId.bind fun id =>
    d.duePayments.findFirst fun p => p.assignmentId = id
  ensure completedDuePayment.isNone (.badRequest "This due has already been paid")
  let existing ← query fun d => findExisting userId data d
  match existing with
  | some p => reusePendingPayment userId data fee new p
  | none => createPendingPayment userId data fee new

/-- A collision of a payment for a due is reported as such. -/
def initiationError (data : PendingPaymentData) : Failure → Failure
  | .uniqueConstraint target =>
    if data.dueAssignmentId.isSome then .conflict "A payment for this due is already in progress"
    else .uniqueConstraint target
  | e => e

def validateRedirectUrl (config : CheckoutConfig) (url field : String) : Action Unit :=
  match config.redirectFault url with
  | none => pure ()
  | some .invalid => throw (.badRequest (field ++ " must be a valid URL"))
  | some .protocol => throw (.badRequest (field ++ " must use HTTP or HTTPS"))
  | some .origin => throw (.badRequest (field ++ " origin is not allowed"))

/-- `text || other` -/
def orText (text : Option String) (other : String) : String :=
  (text.filter fun t => t ≠ "").getD other

/-- A new checkout for the row, priced and recorded with the figures of the request. -/
def createCheckout (config : CheckoutConfig) (data : PendingPaymentData) (row : PendingPayment)
    (successUrl cancelUrl : Option String) : Action CheckoutReply := do
  validateRedirectUrl config (orText successUrl (config.frontendUrl ++ "/payment/callback")) "successUrl"
  validateRedirectUrl config (orText cancelUrl (config.frontendUrl ++ "/payment/cancelled")) "cancelUrl"
  let session ← BachsClient.createCheckoutSession
    { amount := BachsClient.toBachsAmount (data.amount + config.platformFee)
      metadata := { pendingPaymentId := some row.id, internalReference := some row.reference } }
  statement (.attachCheckout row session.checkoutId
    (withFigures row.metadata data.amount config.platformFee))
  pure
    { checkoutId := session.checkoutId, checkoutUrl := session.checkoutUrl, pendingPaymentId := row.id
      baseAmount := data.amount, platformFee := config.platformFee
      totalBeforeGatewayFee := data.amount + config.platformFee }

/-- `Number(figure || other)` -/
def orNumber (figure : Option Int) (other : Int) : Int :=
  if figure.getD 0 = 0 then other else figure.getD 0

/-- The reply for a row whose checkout is open at `url`. -/
def reusedReply (row : PendingPayment) (url : String) : CheckoutReply where
  checkoutId := row.bachsCheckoutId.getD ""
  checkoutUrl := url
  pendingPaymentId := row.id
  baseAmount := orNumber row.metadata.baseAmount row.amount
  platformFee := orNumber row.metadata.platformFee 0
  totalBeforeGatewayFee := orNumber row.metadata.expectedSettlementAmount row.amount

/-- The validations and the transaction that come before the checkout. -/
def preparePayment (config : CheckoutConfig) (userId : Id) (data : PendingPaymentData)
    (new : NewPendingPayment) : Action OpenPayment := do
  ensure (MIN_BACHS_CHECKOUT_AMOUNT_KOBO ≤ data.amount)
    (.badRequest ("Amount must be at least " ++ formatKobo MIN_BACHS_CHECKOUT_AMOUNT_KOBO ++ " (" ++
      toString MIN_BACHS_CHECKOUT_AMOUNT_KOBO ++ " Kobo)"))
  let user ← outside fun d => d.users.find? fun u => u = userId
  let _ ← orThrow user (.notFound "User not found")
  BachsClient.getOrCreateCustomer
  (transaction (openPendingPayment userId data config.platformFee new)).onThrow fun e =>
    throw (initiationError data e)

def initiatePayment (config : CheckoutConfig) (userId : Id) (data : PendingPaymentData)
    (successUrl cancelUrl : Option String) (new : NewPendingPayment) : Action CheckoutReply := do
  let found ← preparePayment config userId data new
  match found.checkoutUrl.filter fun url => url ≠ "" with
  | some url => pure (reusedReply found.row url)
  | none => createCheckout config data found.row successUrl cancelUrl

theorem find_of_findExisting {userId : Id} {data : PendingPaymentData} {d : Db} {p : PendingPayment}
    (h : findExisting userId data d = some p) :
    d.pendingPayments.find p.id = some p ∧ p.status = .pending := by
  have mem := List.mem_filter.1 (List.argmax_mem h)
  have matches_ := of_decide_eq_true mem.2
  exact ⟨Table.find_of_mem mem.1, matches_.2.2.2⟩

end Heightt.BachsService
