import Heightt.ReadCommitted.Invariant

/-!
# IdempotencyService

`processWithIdempotency` for one key and one user. Redis holds a stored response
and a lock, each until it is deleted or expires; the lock's value does not tell
who set it. The expiry of either and the result the processor will compute next
are operations of their own, so that a run orders them among the calls.
-/

namespace Heightt.Idempotency

open ReadCommitted Prog

/-- How a result `V` is read back after it was stored: a falsy one reads as a miss. -/
class Stored (V : Type) where
  readBack : V → Option V

export Stored (readBack)

inductive IdempotencyError where
  | conflict (message : String)
  /-- Redis or the processor failed. -/
  | fault
  deriving DecidableEq

/-- The service has no tables of its own. -/
structure NoTables where

instance : Database NoTables Empty Empty Empty IdempotencyError where
  apply w := w.elim
  check w := w.elim
  rows w := w.elim
  value _ c := c.elim
  change w := w.elim
  cols w := w.elim
  change_of_not_mem {w} := w.elim
  value_apply {w} := w.elim

/-- The calls of the service, with the caller that makes them where it matters to
a reader, and the events around it. -/
inductive IdempotencyCall (V : Type) where
  | getCachedResponse
  /-- `SET … EX 30 NX` -/
  | acquireLock (caller : Nat)
  | processor
  | storeResponse (response : V)
  | releaseLock (caller : Nat)
  /-- The call has returned this. -/
  | returned (result : V)
  | lockExpires
  | responseExpires
  /-- What the processor will compute next. -/
  | computes (result : V)

variable {V : Type}

def IdempotencyCall.Reply : IdempotencyCall V → Type
  | getCachedResponse => Option V
  | acquireLock _ => Bool
  | processor => V
  | _ => Unit

structure Redis (V : Type) where
  response : Option V := none
  /-- The caller that set the lock; Redis itself does not know. -/
  lock : Option Nat := none
  nextResult : V

/-- What `getCachedResponse` finds. -/
def Redis.cached [Stored V] (r : Redis V) : Option V := r.response.bind readBack

instance [Stored V] : External (Redis V) (IdempotencyCall V) IdempotencyCall.Reply Empty where
  handle
    | .getCachedResponse, r => (r, r.cached)
    | .acquireLock caller, r =>
      if r.lock = none then ({ r with lock := some caller }, true) else (r, false)
    | .processor, r => (r, r.nextResult)
    | .storeResponse response, r => ({ r with response := some response }, ())
    | .releaseLock _, r => ({ r with lock := none }, ())
    | .returned _, r => (r, ())
    | .lockExpires, r => ({ r with lock := none }, ())
    | .responseExpires, r => ({ r with response := none }, ())
    | .computes result, r => ({ r with nextResult := result }, ())
  move m := m.elim

abbrev IdempotencyAction (V : Type) :=
  Prog NoTables Empty (IdempotencyCall V) IdempotencyCall.Reply IdempotencyError

/-- Make a call and wait for its reply. -/
def await (c : IdempotencyCall V) : IdempotencyAction V c.Reply := request c

def getCachedResponse : IdempotencyAction V (Option V) := await .getCachedResponse

def acquireLock (caller : Nat) : IdempotencyAction V Bool := await (.acquireLock caller)

def processor : IdempotencyAction V V := await .processor

def storeResponse (response : V) : IdempotencyAction V Unit := await (.storeResponse response)

def releaseLock (caller : Nat) : IdempotencyAction V Unit := await (.releaseLock caller)

/-- `try { p } finally { q }` -/
def tryFinally {α : Type} (p : IdempotencyAction V α) (q : IdempotencyAction V Unit) :
    IdempotencyAction V α :=
  (p.onThrow fun e => q.bind fun _ => throw e).bind fun a => q.bind fun _ => ret a

def processWithIdempotency (caller : Nat) : IdempotencyAction V V := do
  let cached ← getCachedResponse
  match cached with
  | some response => pure response
  | none =>
    let locked ← acquireLock caller
    if locked then
      tryFinally
        (do
          let result ← processor
          storeResponse result
          pure result)
        (releaseLock caller)
    else
      let retryResult ← getCachedResponse
      match retryResult with
      | some response => pure response
      | none => throw (.conflict "Request is being processed, please try again")

/-- An operation of a run. -/
inductive IdempotencyOp (V : Type) where
  | call
  | lockExpires
  | responseExpires
  | computes (result : V)

/-- The program of the operation that is the `i`-th of a run. -/
def IdempotencyOp.program (i : Nat) : IdempotencyOp V → IdempotencyAction V Unit
  | call => do
    let result ← processWithIdempotency i
    await (.returned result)
  | lockExpires => await .lockExpires
  | responseExpires => await .responseExpires
  | computes result => await (.computes result)

abbrev IdempotencySystem (V : Type) :=
  Config NoTables (Redis V) Empty (IdempotencyCall V) IdempotencyCall.Reply IdempotencyError

/-- The operations at their start, with nothing stored and no lock. -/
def start (nextResult : V) (ops : List (IdempotencyOp V)) : IdempotencySystem V :=
  Config.start {} { nextResult } (ops.mapIdx IdempotencyOp.program)

end Heightt.Idempotency
