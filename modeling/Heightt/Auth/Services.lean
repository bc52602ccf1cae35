import Heightt.ReadCommitted.Run
import Heightt.Auth.Database

/-!
# Redis and mail around the authentication code

The counters of the rate limiter, the cached user profiles, and the mail
service. A counter and a profile may expire at any time.
-/

namespace Heightt.Auth

open ReadCommitted

/-- The keys of the rate limiter's counters. -/
inductive CounterKey where
  | login (ip : String)
  | adminLogin (authClient : AuthClient) (ip : String)
  | forgotPassword (ip : String) (email : List Char)
  deriving DecidableEq

inductive CacheTag where
  | user (id : Option Id)
  | auth
  deriving DecidableEq

inductive AuthCall (S : Type) where
  | checkLoginAttempts (key : CounterKey) (maxAttempts : Nat)
  | incrementLoginAttempt (key : CounterKey)
  | resetLoginAttempts (key : CounterKey)
  | checkRateLimit (key : CounterKey) (limit : Nat)
  | incrementRateLimit (key : CounterKey)
  | getUserProfile (userId : Id)
  | cacheUserProfile (userId : Id)
  | invalidateUserCache (userId : Option Id)
  | deleteUserSessions (userId : Id)
  | invalidateByTag (tag : CacheTag)
  | sendPasswordResetEmail (email username : List Char) (rawToken : S)
  | sendPasswordChangedEmail (email username : List Char)
  deriving DecidableEq

variable {S : Type}

/-- The checks tell whether the caller is allowed, and a profile whether it is cached. -/
def AuthCall.Reply : AuthCall S → Type
  | checkLoginAttempts .. | checkRateLimit .. | getUserProfile _ | sendPasswordResetEmail .. => Bool
  | _ => Unit

structure Redis (S : Type) where
  /-- One entry for each time a counter was incremented. -/
  counters : List CounterKey := []
  profiles : List Id := []
  /-- The reset tokens that were mailed. -/
  outbox : List (List Char × S) := []

namespace Redis

def count (r : Redis S) (key : CounterKey) : Nat := r.counters.count key

def increment (r : Redis S) (key : CounterKey) : Redis S := { r with counters := key :: r.counters }

def deleteCounter (r : Redis S) (key : CounterKey) : Redis S :=
  { r with counters := r.counters.filter (· ≠ key) }

def deleteProfile (r : Redis S) (userId : Option Id) : Redis S :=
  { r with profiles := r.profiles.filter fun id => some id ≠ userId }

end Redis

inductive Expiry where
  | counter (key : CounterKey)
  | profile (userId : Id)
  deriving DecidableEq

instance : External (Redis S) (AuthCall S) AuthCall.Reply Expiry where
  handle
    | .checkLoginAttempts key maxAttempts, r => (r, decide (r.count key < maxAttempts))
    | .incrementLoginAttempt key, r => (r.increment key, ())
    | .resetLoginAttempts key, r => (r.deleteCounter key, ())
    | .checkRateLimit key limit, r => (r, decide (r.count key < limit))
    | .incrementRateLimit key, r => (r.increment key, ())
    | .getUserProfile userId, r => (r, decide (userId ∈ r.profiles))
    | .cacheUserProfile userId, r => ({ r with profiles := userId :: r.profiles }, ())
    | .invalidateUserCache userId, r => (r.deleteProfile userId, ())
    | .deleteUserSessions _, r | .invalidateByTag _, r => (r, ())
    | .sendPasswordResetEmail email _ rawToken, r =>
      ({ r with outbox := (email, rawToken) :: r.outbox }, true)
    | .sendPasswordChangedEmail .., r => (r, ())
  move
    | .counter key, r => some (r.deleteCounter key)
    | .profile userId, r => some (r.deleteProfile (some userId))

/-- A program of the authentication code. -/
abbrev AuthAction (S : Type) := Prog (AuthDb S) (AuthStmt S) (AuthCall S) AuthCall.Reply AuthError

end Heightt.Auth
