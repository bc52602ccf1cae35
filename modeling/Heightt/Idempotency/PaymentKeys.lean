import Heightt.Idempotency.Service

/-!
# Payments with an idempotency key

`processInternalPayment` and `processManualPayment`: a key that was issued to the
user and is unused, then `processWithIdempotency` for the key and the user. Redis
holds the keys, the stored responses and the locks, each until it expires. What
the payment does to the database is a parameter (`Bank`).
-/

namespace Heightt.PaymentKeys

open ReadCommitted Prog Idempotency

inductive PaymentKind where
  | internal | manual
  deriving DecidableEq

/-- `executeInternalPayment` and `executeManualPayment`: what they make of the database
`B`, and the result of a payment that succeeds. -/
class Bank (B : Type) (Dto V : outParam Type) where
  execute : (kind : PaymentKind) → (userId : String) → Dto → (idempotencyKey : Option String) →
    B → B × Option V

/-- What is kept under a key. -/
structure KeyData where
  userId : String
  used : Bool := false
  deriving DecidableEq

/-- A value until it expires. -/
structure Entry (α : Type) where
  value : α
  expiresAt : Nat

/-- The value, if it has not expired. -/
def live {α : Type} (now : Nat) (entry : Option (Entry α)) : Option α :=
  (entry.filter fun e => now < e.expiresAt).map Entry.value

inductive PaymentError where
  | badRequest (message : String)
  | conflict (message : String)
  /-- The payment was refused, or failed. -/
  | payment
  /-- Redis failed. -/
  | fault
  deriving DecidableEq

/-- The service has no tables of its own here. -/
structure NoTables where

theorem keeps_none {w c : Empty} (_ : c ∉ (w.elim : List Empty)) : (w.elim : Empty → Change) c = .keep :=
  w.elim

instance : Database NoTables Empty Empty Empty PaymentError where
  apply w := w.elim
  check w := w.elim
  rows w := w.elim
  value _ c := c.elim
  change w := w.elim
  cols w := w.elim
  change_of_not_mem := keeps_none
  value_apply {w} := w.elim

/-- The calls to Redis and to the database, what a payment returned, and the time passing. -/
inductive PaymentCall (Dto V : Type) where
  | getKey (idempotencyKey : String)
  /-- For an hour. -/
  | setKey (idempotencyKey : String) (data : KeyData)
  | getCachedResponse (key userId : String)
  | acquireLock (key userId : String)
  | storeResponse (key userId : String) (response : V)
  | releaseLock (key userId : String)
  | execute (kind : PaymentKind) (userId : String) (dto : Dto) (idempotencyKey : Option String)
  | returned (result : V)
  | tick (seconds : Nat)

variable {B Dto V : Type}

def PaymentCall.Reply : PaymentCall Dto V → Type
  | getKey _ => Option KeyData
  | getCachedResponse .. => Option V
  | acquireLock .. => Bool
  | execute .. => Option V
  | _ => Unit

structure Outside (B V : Type) where
  bank : B
  keys : String → Option (Entry KeyData) := fun _ => none
  responses : (key userId : String) → Option (Entry V) := fun _ _ => none
  locks : (key userId : String) → Option (Entry Unit) := fun _ _ => none
  /-- In seconds. -/
  now : Nat := 0

/-- The function with one value replaced. -/
def put {α : Type} (f : String → α) (k : String) (a : α) : String → α :=
  fun j => if j = k then a else f j

def put₂ {α : Type} (f : String → String → α) (k u : String) (a : α) : String → String → α :=
  fun j v => if j = k ∧ v = u then a else f j v

instance [Bank B Dto V] [Stored V] : External (Outside B V) (PaymentCall Dto V) PaymentCall.Reply Empty where
  handle
    | .getKey key, x => (x, live x.now (x.keys key))
    | .setKey key data, x => ({ x with keys := put x.keys key (some ⟨data, x.now + 3600⟩) }, ())
    | .getCachedResponse key userId, x => (x, (live x.now (x.responses key userId)).bind readBack)
    | .acquireLock key userId, x =>
      if live x.now (x.locks key userId) = none then
        ({ x with locks := put₂ x.locks key userId (some ⟨(), x.now + 30⟩) }, true)
      else (x, false)
    | .storeResponse key userId response, x =>
      ({ x with responses := put₂ x.responses key userId (some ⟨response, x.now + 86400⟩) }, ())
    | .releaseLock key userId, x => ({ x with locks := put₂ x.locks key userId none }, ())
    | .execute kind userId dto idempotencyKey, x =>
      let (bank, result) := Bank.execute kind userId dto idempotencyKey x.bank
      ({ x with bank }, result)
    | .returned _, x => (x, ())
    | .tick seconds, x => ({ x with now := x.now + seconds }, ())
  move m := m.elim

abbrev PaymentAction (Dto V α : Type) :=
  Prog NoTables Empty (PaymentCall Dto V) PaymentCall.Reply PaymentError α

/-- Make a call and wait for its reply. -/
def await (c : PaymentCall Dto V) : PaymentAction Dto V c.Reply := request c

namespace FinanceService

def getKey (idempotencyKey : String) : PaymentAction Dto V (Option KeyData) := await (.getKey idempotencyKey)

def setKey (idempotencyKey : String) (data : KeyData) : PaymentAction Dto V Unit :=
  await (.setKey idempotencyKey data)

/-- The new key is drawn at random. -/
def generateIdempotencyKey (userId newKey : String) : PaymentAction Dto V Unit := setKey newKey { userId }

def validateIdempotencyKey (idempotencyKey userId : String) : PaymentAction Dto V Bool := do
  let data ← getKey idempotencyKey
  match data with
  | none => pure false
  | some data => pure (data.userId = userId ∧ data.used = false)

def markIdempotencyKeyAsUsed (idempotencyKey : String) : PaymentAction Dto V Unit := do
  let data ← getKey idempotencyKey
  whenSome data fun data => setKey idempotencyKey { data with used := true }

end FinanceService

namespace IdempotencyService

def getCachedResponse (key userId : String) : PaymentAction Dto V (Option V) :=
  await (.getCachedResponse key userId)

def acquireLock (key userId : String) : PaymentAction Dto V Bool := await (.acquireLock key userId)

def storeResponse (key userId : String) (response : V) : PaymentAction Dto V Unit :=
  await (.storeResponse key userId response)

def releaseLock (key userId : String) : PaymentAction Dto V Unit := await (.releaseLock key userId)

/-- `try { p } finally { q }` -/
def tryFinally {α : Type} (p : PaymentAction Dto V α) (q : PaymentAction Dto V Unit) : PaymentAction Dto V α :=
  (p.onThrow fun e => q.bind fun _ => throw e).bind fun a => q.bind fun _ => ret a

def processWithIdempotency (key userId : String) (processor : PaymentAction Dto V V) :
    PaymentAction Dto V V := do
  let cached ← getCachedResponse key userId
  match cached with
  | some response => pure response
  | none =>
    let locked ← acquireLock key userId
    if locked then
      tryFinally
        (do
          let result ← processor
          storeResponse key userId result
          pure result)
        (releaseLock key userId)
    else
      let retryResult ← getCachedResponse key userId
      match retryResult with
      | some response => pure response
      | none => throw (.conflict "Request is being processed, please try again")

end IdempotencyService

namespace FinanceService

open IdempotencyService

def execute (kind : PaymentKind) (userId : String) (dto : Dto) (idempotencyKey : Option String) :
    PaymentAction Dto V V := do
  let result ← await (.execute kind userId dto idempotencyKey)
  orThrow (α := V) result .payment

/-- A key that is empty counts as none. -/
def processPayment (kind : PaymentKind) (userId : String) (dto : Dto) (idempotencyKey : Option String) :
    PaymentAction Dto V V :=
  match idempotencyKey.filter (· ≠ "") with
  | none => execute kind userId dto idempotencyKey
  | some key => do
    let isValid ← validateIdempotencyKey key userId
    ensure (isValid = true)
      (.badRequest "Invalid or expired idempotency key. Please generate a new one.")
    processWithIdempotency key userId do
      let result ← execute kind userId dto idempotencyKey
      markIdempotencyKeyAsUsed key
      pure result

def processInternalPayment (userId : String) (dto : Dto) (idempotencyKey : Option String) :
    PaymentAction Dto V V :=
  processPayment .internal userId dto idempotencyKey

def processManualPayment (userId : String) (dto : Dto) (idempotencyKey : Option String) :
    PaymentAction Dto V V :=
  processPayment .manual userId dto idempotencyKey

end FinanceService

/-- An operation of a run. -/
inductive PaymentOp (Dto : Type) where
  | generateIdempotencyKey (userId newKey : String)
  | processInternalPayment (userId : String) (dto : Dto) (idempotencyKey : Option String)
  | processManualPayment (userId : String) (dto : Dto) (idempotencyKey : Option String)
  | tick (seconds : Nat)

/-- The call `p`, and what it returned. -/
def returning (p : PaymentAction Dto V V) : PaymentAction Dto V Unit := do
  let result ← p
  await (.returned result)

def PaymentOp.program : PaymentOp Dto → PaymentAction Dto V Unit
  | generateIdempotencyKey userId newKey => FinanceService.generateIdempotencyKey userId newKey
  | processInternalPayment userId dto idempotencyKey =>
    returning (FinanceService.processInternalPayment userId dto idempotencyKey)
  | processManualPayment userId dto idempotencyKey =>
    returning (FinanceService.processManualPayment userId dto idempotencyKey)
  | tick seconds => await (.tick seconds)

abbrev PaymentSystem (B Dto V : Type) :=
  Config NoTables (Outside B V) Empty (PaymentCall Dto V) PaymentCall.Reply PaymentError

end Heightt.PaymentKeys
