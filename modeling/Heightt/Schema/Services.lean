import Heightt.ReadCommitted.Run
import Heightt.Schema.Database

/-!
# The systems around the database

The wallet cache in Redis, the mail service and the payment provider. The cache
holds the wallet it was last given for each owner and may drop an entry at any
time. The provider keeps one payout for each idempotency key, decides by itself
whether a pending payout is paid or fails, and announces what it decided in
webhooks that may arrive late, repeatedly and out of order.
-/

namespace Heightt

open ReadCommitted

inductive WalletOwner where
  | user (id : Id)
  | organization (id : Id)
  | platform
  deriving DecidableEq

/-- An amount the provider sent, as `parseFloat` reads it; `none` is NaN. -/
abbrev BachsAmount := Option ℚ

/-- A payout status, in upper case. -/
inductive PayoutStatus where
  | pending | paid | succeeded | success | completed
  | failed | rejected | cancelled | canceled | other
  deriving DecidableEq, Repr

/-- A payout as the provider reports it. -/
structure Payout where
  id : PayoutId
  status : PayoutStatus
  /-- The fee the provider charges, in Naira. -/
  fee : Option ℚ := none
  reference : String
  /-- `metadata.withdrawalId` -/
  withdrawalId : Id
  deriving DecidableEq

structure PayoutRequest where
  destination : String
  amount : Int
  reference : String
  withdrawalId : Id
  deriving DecidableEq

structure PayoutDestination where
  id : String
  approved : Bool
  usable : Bool
  deriving DecidableEq

/-- The metadata that `initiatePayment` put on a checkout. -/
structure CheckoutMetadata where
  pendingPaymentId : Option Id := none
  internalReference : Option String := none
  deriving DecidableEq

inductive CheckoutStatus where
  | open | completed | succeeded | paid | expired | cancelled
  deriving DecidableEq, Repr

/-- A checkout session as the provider reports it. -/
structure Checkout where
  status : CheckoutStatus
  chargeId : Option String := none
  amount : Option BachsAmount := none
  metadata : Option CheckoutMetadata := none
  /-- `checkout_url` -/
  checkoutUrl : Option String := none
  deriving DecidableEq

/-- `pricing.amount`, in Naira, and the metadata of a new checkout. -/
structure CheckoutRequest where
  amount : ℚ
  metadata : CheckoutMetadata
  deriving DecidableEq

/-- The provider's answer to a new checkout. -/
structure CheckoutSession where
  checkoutId : String
  checkoutUrl : String
  deriving DecidableEq

/-- The kinds of payout webhook. -/
inductive PayoutEvent where
  | succeeded | failed | pending
  deriving DecidableEq, Repr

/-- A payout webhook: what `getWebhookIdentifiers` finds in it. -/
structure PayoutWebhook where
  event : PayoutEvent
  reference : Option String := none
  providerReference : Option PayoutId := none
  withdrawalId : Option Id := none
  deriving DecidableEq

inductive Call where
  | cacheGet (owner : WalletOwner)
  | cacheSet (owner : WalletOwner) (wallet : Wallet)
  | cacheDelete (owner : WalletOwner)
  /-- `invalidateByTag` of a tag that every cached wallet carries. -/
  | cacheClear
  /-- `delete` of a key that holds no wallet. -/
  | cacheDeleteKey (key : String)
  | sendEmail
  | createPayout (request : PayoutRequest) (idempotencyKey : Id)
  | getPayout (id : PayoutId)
  | getPayoutDestination (id : String)
  | createPayoutDestination (bankAccountId : Id)
  /-- `GET /customers`, and `POST /customers` if there is none. -/
  | getOrCreateCustomer
  | createCheckoutSession (request : CheckoutRequest)
  | getCheckoutSession (checkoutId : String)
  /-- The `n`-th webhook the provider sent arrives. -/
  | receive (n : Nat)
  deriving DecidableEq

def Call.Reply : Call → Type
  | cacheGet _ => Option Wallet
  | createPayout _ _ => Payout
  | getPayout _ => Option Payout
  | getPayoutDestination _ => PayoutDestination
  | createPayoutDestination _ => PayoutDestination
  | createCheckoutSession _ => CheckoutSession
  | getCheckoutSession _ => Checkout
  | receive _ => Option PayoutWebhook
  | _ => Unit

/-- The provider's and the cache's state. -/
structure Services where
  walletCache : List (WalletOwner × Wallet) := []
  /-- The payouts with the idempotency key each was created under. -/
  payouts : List (Id × Payout) := []
  /-- What the provider will say about the next payout it is asked for. -/
  nextPayout : PayoutStatus × Option ℚ := (.pending, none)
  /-- The payout webhooks sent so far. -/
  sent : List PayoutWebhook := []
  destination : PayoutDestination := ⟨"dest", true, true⟩
  checkouts : List (String × Checkout) := []
  /-- The price of each checkout, in Naira, in the order they were created. -/
  prices : List ℚ := []

/-- What the environment does by itself. -/
inductive Move where
  | evict (owner : WalletOwner)
  | decideNextPayout (status : PayoutStatus) (fee : Option ℚ)
  | pay (id : PayoutId)
  | refuse (id : PayoutId)
  | announce (id : PayoutId)
  | updateCheckout (checkoutId : String) (checkout : Checkout)
  deriving DecidableEq

namespace PayoutStatus

/-- The statuses for which `triggerWithdrawalTransfer` gives the payout up. -/
def refused : PayoutStatus → Bool
  | failed | rejected | cancelled => true
  | _ => false

/-- The event that announces a status. -/
def event : PayoutStatus → PayoutEvent
  | paid | succeeded | success | completed => .succeeded
  | failed | rejected | cancelled | canceled => .failed
  | pending | other => .pending

end PayoutStatus

namespace Services

def cached (s : Services) (owner : WalletOwner) : Option Wallet :=
  (s.walletCache.find? fun e => e.1 = owner).map Prod.snd

def drop (s : Services) (owner : WalletOwner) : Services :=
  { s with walletCache := s.walletCache.filter fun e => e.1 ≠ owner }

/-- The payout created under an idempotency key. -/
def payoutFor (s : Services) (key : Id) : Option Payout :=
  (s.payouts.find? fun p => p.1 = key).map Prod.snd

/-- The payout with the provider's identifier. -/
def payout (s : Services) (id : PayoutId) : Option Payout :=
  (s.payouts.find? fun p => p.2.id = id).map Prod.snd

/-- `createPayout` with an idempotency key the provider honours. -/
def createPayout (s : Services) (request : PayoutRequest) (key : Id) : Services × Payout :=
  match s.payoutFor key with
  | some p => (s, p)
  | none =>
    let p : Payout :=
      { id := s.payouts.length, status := s.nextPayout.1, fee := s.nextPayout.2,
        reference := request.reference, withdrawalId := request.withdrawalId }
    ({ s with payouts := s.payouts ++ [(key, p)] }, p)

def setPayoutStatus (s : Services) (id : PayoutId) (status : PayoutStatus) : Services :=
  { s with payouts := s.payouts.map fun e => if e.2.id = id then (e.1, { e.2 with status }) else e }

/-- The provider's identifier of the `n`-th checkout. -/
def checkoutId (n : Nat) : String := String.ofList (List.replicate (n + 1) 'c')

/-- A checkout as the provider reports it; one that nothing is known of is open. -/
def checkout (s : Services) (checkoutId : String) : Checkout :=
  ((s.checkouts.find? fun e => e.1 = checkoutId).map Prod.snd).getD { status := .open }

/-- What the payer is charged for a checkout. -/
def price (s : Services) (id : String) : Option ℚ :=
  if id = checkoutId (id.length - 1) then s.prices[id.length - 1]? else none

/-- Every checkout has an identifier of its own and keeps its price. -/
def createCheckoutSession (s : Services) (request : CheckoutRequest) : Services × CheckoutSession :=
  let id := checkoutId s.prices.length
  let url := "/checkout/" ++ id
  ({ s with
      prices := s.prices ++ [request.amount]
      checkouts := (id, { status := .open, metadata := some request.metadata, checkoutUrl := some url })
        :: s.checkouts },
    ⟨id, url⟩)

theorem price_checkoutId (s : Services) (n : Nat) : s.price (checkoutId n) = s.prices[n]? := by
  have length : (checkoutId n).length = n + 1 := by simp [checkoutId]
  rw [price, length, Nat.add_sub_cancel, if_pos rfl]

/-- A checkout keeps its price. -/
theorem price_kept {s s' : Services} (h : s.prices <+: s'.prices) {id : String} {amount : ℚ}
    (hp : s.price id = some amount) : s'.price id = some amount := by
  unfold price at hp ⊢
  split at hp
  · rename_i own
    rw [if_pos own]
    obtain ⟨later, hs⟩ := h
    rw [← hs, List.getElem?_append_left (List.getElem?_eq_some_iff.1 hp).1, hp]
  · cases hp

/-- A new checkout is priced as requested. -/
theorem price_createCheckoutSession (s : Services) (request : CheckoutRequest) :
    (s.createCheckoutSession request).1.price (s.createCheckoutSession request).2.checkoutId =
      some request.amount := by
  change Services.price _ (checkoutId s.prices.length) = _
  rw [price_checkoutId]
  simp [createCheckoutSession]

/-- The webhook that announces a payout's status. -/
def webhook (p : Payout) : PayoutWebhook where
  event := p.status.event
  reference := some p.reference
  providerReference := some p.id
  withdrawalId := some p.withdrawalId

def handle (s : Services) : (c : Call) → Services × c.Reply
  | .cacheGet owner => (s, s.cached owner)
  | .cacheSet owner wallet => ({ s.drop owner with
      walletCache := (owner, wallet) :: (s.drop owner).walletCache }, ())
  | .cacheDelete owner => (s.drop owner, ())
  | .cacheClear => ({ s with walletCache := [] }, ())
  | .cacheDeleteKey _ => (s, ())
  | .sendEmail => (s, ())
  | .createPayout request key => s.createPayout request key
  | .getPayout id => (s, s.payout id)
  | .getPayoutDestination _ => (s, s.destination)
  | .createPayoutDestination _ => (s, s.destination)
  | .getOrCreateCustomer => (s, ())
  | .createCheckoutSession request => s.createCheckoutSession request
  | .getCheckoutSession checkoutId => (s, s.checkout checkoutId)
  | .receive n => (s, s.sent[n]?)

/-- A payout is paid or refused once, while it is pending. -/
def move (s : Services) : Move → Option Services
  | .evict owner => some (s.drop owner)
  | .decideNextPayout status fee => some { s with nextPayout := (status, fee) }
  | .pay id => do
    let p ← s.payout id
    if p.status = .pending then some (s.setPayoutStatus id .paid) else none
  | .refuse id => do
    let p ← s.payout id
    if p.status = .pending then some (s.setPayoutStatus id .failed) else none
  | .announce id => do
    let p ← s.payout id
    some { s with sent := s.sent ++ [webhook p] }
  | .updateCheckout checkoutId checkout =>
    some { s with checkouts := (checkoutId, checkout) :: s.checkouts }

end Services

instance : External Services Call Call.Reply Move where
  handle c s := s.handle c
  move m s := s.move m

/-- A program of the finance services. -/
abbrev Action (α : Type) := Prog Db Stmt Call Call.Reply Failure α

abbrev FinanceEvent := Event Stmt Call Call.Reply

open Prog

namespace CacheService

/-- `get` of the cached wallet of an owner. -/
def get (owner : WalletOwner) : Action (Option Wallet) := request (C := Call) (.cacheGet owner)

def setWithTag (owner : WalletOwner) (wallet : Wallet) : Action Unit :=
  request (C := Call) (.cacheSet owner wallet)

def delete (owner : WalletOwner) : Action Unit := request (C := Call) (.cacheDelete owner)

def deleteKey (key : String) : Action Unit := request (C := Call) (.cacheDeleteKey key)

/-- `invalidateByTag` logs its errors and goes on. -/
def invalidateByTag : Action Unit := attempt (request (C := Call) .cacheClear)

end CacheService

def EmailService.sendEmail : Action Unit := request (C := Call) .sendEmail

namespace BachsClient

def createPayout (data : PayoutRequest) (idempotencyKey : Id) : Action Payout :=
  request (C := Call) (.createPayout data idempotencyKey)

/-- The provider answers with the payout, or that there is none. -/
def getPayout (id : PayoutId) : Action (Option Payout) := request (C := Call) (.getPayout id)

def getPayoutDestination (id : String) : Action PayoutDestination :=
  request (C := Call) (.getPayoutDestination id)

def createPayoutDestination (bankAccountId : Id) : Action PayoutDestination :=
  request (C := Call) (.createPayoutDestination bankAccountId)

def getOrCreateCustomer : Action Unit := request (C := Call) .getOrCreateCustomer

def createCheckoutSession (data : CheckoutRequest) : Action CheckoutSession :=
  request (C := Call) (.createCheckoutSession data)

def getCheckoutSession (checkoutId : String) : Action Checkout :=
  request (C := Call) (.getCheckoutSession checkoutId)

/-- `Math.round` -/
def round (x : ℚ) : Int := ⌊x + 1 / 2⌋

/-- Kobo to Naira. -/
def toBachsAmount (amountInKobo : Int) : ℚ := amountInKobo / 100

/-- Naira to Kobo. -/
def fromBachsAmount (amountInBachs : ℚ) : Int := round (amountInBachs * 100)

end BachsClient

/-- The arrival of the `n`-th webhook the provider sent. -/
def receiveWebhook (n : Nat) : Action (Option PayoutWebhook) := request (C := Call) (.receive n)

abbrev System := Config Db Services Stmt Call Call.Reply Failure

end Heightt
