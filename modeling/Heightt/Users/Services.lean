import Heightt.Users.Database

/-!
# Redis and mail around the users code

The cached users, the counters of the rate limiter and the mail service. An entry of the
cache may expire at any time, and other services store entries of their own under its keys.
-/

namespace Heightt.Users

open ReadCommitted

/-- The keys that begin with `user:`. -/
inductive CacheKey where
  | profile (id : Id)
  | email (email : List Char)
  | username (username : List Char)
  | sessions (id : Id)
  deriving DecidableEq

/-- A user as `include: { profile: true, studentProfile: true }` returns it. -/
structure UserView where
  user : User
  profile : Option UserProfile
  studentProfile : Option StudentProfile
  deriving DecidableEq

/-- A value of the cache. -/
inductive Entry where
  | user (view : UserView)
  /-- What another service has stored. -/
  | other (text : String)
  deriving DecidableEq

structure CacheEntry where
  key : CacheKey
  value : Entry
  tags : List String
  deriving DecidableEq

inductive RateKey where
  | register (ip : String)
  | resendVerification (ip : String) (email : List Char)
  deriving DecidableEq

inductive UsersCall where
  | checkRateLimit (key : RateKey) (limit : Nat)
  | cacheGet (key : CacheKey)
  | cacheSetWithTag (key : CacheKey) (value : Entry) (tags : List String)
  | cacheDelete (key : CacheKey)
  | invalidateByTag (tag : String)
  /-- `invalidatePattern` of `user:*`; no key of the cache matches `users:*`. -/
  | invalidateUserPattern
  | sendVerificationEmail (email username token : List Char)
  | sendWelcomeEmail (email username : List Char)
  deriving DecidableEq

/-- The rate limiter tells whether the caller is allowed, and the mail service whether it has sent. -/
def UsersCall.Reply : UsersCall → Type
  | checkRateLimit .. | sendVerificationEmail .. => Bool
  | cacheGet _ => Option Entry
  | _ => Unit

structure UsersServices where
  cache : List CacheEntry := []
  /-- One entry for each time a counter was incremented. -/
  counters : List RateKey := []
  /-- The tokens that were mailed. -/
  outbox : List (List Char × List Char) := []

namespace UsersServices

def cached (x : UsersServices) (key : CacheKey) : Option Entry :=
  (x.cache.find? fun e => e.key = key).map CacheEntry.value

def delete (x : UsersServices) (key : CacheKey) : UsersServices :=
  { x with cache := x.cache.filter fun e => e.key ≠ key }

def store (x : UsersServices) (e : CacheEntry) : UsersServices :=
  { x with cache := e :: x.cache.filter fun e' => e'.key ≠ e.key }

end UsersServices

inductive UsersMove where
  | expire (key : CacheKey)
  | storeOther (key : CacheKey) (text : String)
  deriving DecidableEq

instance : External UsersServices UsersCall UsersCall.Reply UsersMove where
  handle
    | .checkRateLimit key limit, x => (x, decide (x.counters.count key < limit))
    | .cacheGet key, x => (x, x.cached key)
    | .cacheSetWithTag key value tags, x => (x.store ⟨key, value, tags⟩, ())
    | .cacheDelete key, x => (x.delete key, ())
    | .invalidateByTag tag, x => ({ x with cache := x.cache.filter fun e => tag ∉ e.tags }, ())
    | .invalidateUserPattern, x => ({ x with cache := [] }, ())
    | .sendVerificationEmail email _ token, x => ({ x with outbox := (email, token) :: x.outbox }, true)
    | .sendWelcomeEmail .., x => (x, ())
  move
    | .expire key, x => some (x.delete key)
    | .storeOther key text, x => some (x.store ⟨key, .other text, []⟩)

/-- A program of the users code. -/
abbrev UsersAction := Prog UsersDb UsersStmt UsersCall UsersCall.Reply UsersError

abbrev UsersSystem := Config UsersDb UsersServices UsersStmt UsersCall UsersCall.Reply UsersError

end Heightt.Users
