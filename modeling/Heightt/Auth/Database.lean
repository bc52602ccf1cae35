import Heightt.ReadCommitted.Statement
import Heightt.Auth.Tokens
import Heightt.Store.Table
import Mathlib.Data.List.Sort

/-!
# Users, sessions and password resets

The rows the authentication code reads or writes, its statements, and the clock
it reads the time from. An `updateMany` takes the rows that match when it
starts, and changes those of them that still match once it holds their locks.
-/

namespace Heightt.Auth

open Store ReadCommitted

inductive UserStatus where
  | active | inactive | suspended | deleted
  deriving DecidableEq, Repr

structure User (S : Type) where
  id : Id
  email : List Char
  username : List Char
  passwordHash : S
  emailVerified : Bool := true
  status : UserStatus := .active
  lastLoginAt : Option Nat := none
  deriving DecidableEq

/-- An admin row, as far as `adminLogin` looks at it. -/
structure AdminRole where
  userId : Id
  isPlatformAdmin : Bool
  isActive : Bool
  deriving DecidableEq

structure Session (S : Type) where
  id : Id
  userId : Id
  refreshTokenHash : S
  expiresAt : Nat
  lastUsedAt : Nat
  isActive : Bool := true
  revokedAt : Option Nat := none
  revokedReason : Option String := none
  authClient : AuthClient := .user
  deriving DecidableEq

structure PasswordReset (S : Type) where
  id : Id
  userId : Id
  token : S
  expiresAt : Nat
  usedAt : Option Nat := none
  deriving DecidableEq

/-- A where clause on active sessions. A field that is undefined is no filter. -/
structure SessionWhere where
  id : Option Id := none
  userId : Option Id := none
  authClient : Option AuthClient := none
  /-- `revokedAt: null` -/
  unrevoked : Bool := true
  /-- `expiresAt: { gt }` -/
  expiresAfter : Option Nat := none
  deriving DecidableEq

variable {S : Type}

def SessionWhere.holds (w : SessionWhere) (s : Session S) : Bool :=
  s.isActive && w.id.all (fun i => s.id = i) && w.userId.all (fun u => s.userId = u) &&
    w.authClient.all (fun a => s.authClient = a) && (!w.unrevoked || s.revokedAt.isNone) &&
    w.expiresAfter.all fun t => t < s.expiresAt

/-- Sessions, the most recently used one first. -/
def byLastUse (l : List (Session S)) : List (Session S) :=
  l.insertionSort fun a b => b.lastUsedAt ≤ a.lastUsedAt

structure AuthDb (S : Type) where
  users : Table (User S) Id User.id := .empty
  admins : List AdminRole := []
  sessions : Table (Session S) Id Session.id := .empty
  passwordResets : Table (PasswordReset S) Id PasswordReset.id := .empty
  /-- The time in milliseconds. -/
  now : Nat := 0

namespace AuthDb

def findSession (d : AuthDb S) (w : SessionWhere) : Option (Session S) := d.sessions.findFirst w.holds

/-- The sessions that match, in table order. -/
def findSessions (d : AuthDb S) (w : SessionWhere) : List (Session S) := d.sessions.rows.filter w.holds

def sessionIds (d : AuthDb S) (w : SessionWhere) : List Id := (d.findSessions w).map Session.id

/-- `{ userId, usedAt: null }` -/
def unusedResets (d : AuthDb S) (userId : Id) : List Id :=
  (d.passwordResets.rows.filter fun r => r.userId = userId ∧ r.usedAt = none).map PasswordReset.id

end AuthDb

inductive AuthError where
  | unauthorized (message : String)
  | badRequest (message : String)
  | notFound (message : String)
  /-- A unique index already holds the value. -/
  | uniqueViolation
  /-- Prisma's error for an update of a missing row. -/
  | recordNotFound
  /-- The database, the cache or another service failed. -/
  | fault
  deriving DecidableEq

inductive AuthStmt (S : Type) where
  | createSession (session : Session S)
  /-- `session.update` of a login, with the token whose hash is stored. -/
  | storeRefreshToken (id : Id) (token hash : S)
  /-- `session.update` of a refresh of the session `seen`, with the token that was
  presented and the one whose hash is stored. -/
  | rotateRefreshToken (seen : Session S) (presented token hash : S) (lastUsedAt : Nat)
  | revokeSession (id : Id) (at_ : Nat) (reason : String)
  /-- `session.updateMany` of the rows `ids` that matched. -/
  | revokeSessions (ids : List Id) (w : SessionWhere) (at_ : Nat) (reason : String)
  | updateLastLogin (userId : Id) (at_ : Nat)
  | updatePassword (userId : Id) (passwordHash : S)
  /-- `passwordReset.updateMany` of one unused and unexpired row, which has to change it. -/
  | consumeReset (seen : PasswordReset S) (at_ : Nat)
  /-- `passwordReset.updateMany` of the unused rows `ids` of a user. -/
  | supersedeResets (userId : Id) (ids : List Id) (at_ : Nat)
  | createReset (reset : PasswordReset S)
  | createAuditLog (userId : Option Id) (action : String)
  /-- Time passes. -/
  | tick (ms : Nat)
  deriving DecidableEq

inductive AuthRow (S : Type) where
  | session (id : Id)
  | refreshTokenHash (hash : S)
  | user (id : Id)
  | passwordReset (id : Id)
  | resetToken (token : S)
  deriving DecidableEq

def Session.revoke (at_ : Nat) (reason : String) (s : Session S) : Session S :=
  { s with isActive := false, revokedAt := some at_, revokedReason := some reason }

@[simp] theorem Session.id_revoke (at_ : Nat) (reason : String) (s : Session S) :
    (s.revoke at_ reason).id = s.id := rfl

def PasswordReset.use (at_ : Nat) (r : PasswordReset S) : PasswordReset S := { r with usedAt := some at_ }

@[simp] theorem PasswordReset.id_use (at_ : Nat) (r : PasswordReset S) : (r.use at_).id = r.id := rfl

namespace AuthStmt

def apply : AuthStmt S → AuthDb S → AuthDb S
  | createSession s, d => { d with sessions := d.sessions.insert s }
  | storeRefreshToken id _ hash, d =>
    { d with sessions := d.sessions.modify id (fun s => { s with refreshTokenHash := hash }) fun _ => rfl }
  | rotateRefreshToken seen _ _ hash lastUsedAt, d =>
    { d with
      sessions := d.sessions.modify seen.id
        (fun s => { s with refreshTokenHash := hash, lastUsedAt }) fun _ => rfl }
  | revokeSession id at_ reason, d =>
    { d with sessions := d.sessions.modify id (Session.revoke at_ reason) (Session.id_revoke at_ reason) }
  | revokeSessions ids w at_ reason, d =>
    { d with
      sessions := d.sessions.mapRows
        (fun s => if s.id ∈ ids ∧ w.holds s then s.revoke at_ reason else s)
        fun s => by split <;> simp }
  | updateLastLogin userId at_, d =>
    { d with users := d.users.modify userId (fun u => { u with lastLoginAt := some at_ }) fun _ => rfl }
  | updatePassword userId passwordHash, d =>
    { d with users := d.users.modify userId (fun u => { u with passwordHash }) fun _ => rfl }
  | consumeReset seen at_, d =>
    { d with passwordResets := d.passwordResets.modify seen.id (PasswordReset.use at_) (PasswordReset.id_use at_) }
  | supersedeResets userId ids at_, d =>
    { d with
      passwordResets := d.passwordResets.mapRows
        (fun r => if r.id ∈ ids ∧ r.userId = userId ∧ r.usedAt = none then r.use at_ else r)
        fun r => by split <;> simp }
  | createReset reset, d => { d with passwordResets := d.passwordResets.insert reset }
  | createAuditLog _ _, d => d
  | tick ms, d => { d with now := d.now + ms }

variable [DecidableEq S]

/-- The constraint a statement violates. -/
def check : AuthStmt S → AuthDb S → Option AuthError
  | createSession s, d =>
    if (d.sessions.find s.id).isSome ∨
      d.sessions.rows.any (fun t => t.refreshTokenHash = s.refreshTokenHash)
    then some .uniqueViolation else none
  | storeRefreshToken id _ hash, d | rotateRefreshToken ⟨id, _, _, _, _, _, _, _, _⟩ _ _ hash _, d =>
    if (d.sessions.find id).isNone then some .recordNotFound
    else if d.sessions.rows.any (fun t => t.id ≠ id ∧ t.refreshTokenHash = hash)
      then some .uniqueViolation
    else none
  | revokeSession id _ _, d => if (d.sessions.find id).isNone then some .recordNotFound else none
  | updateLastLogin userId _, d | updatePassword userId _, d =>
    if (d.users.find userId).isNone then some .recordNotFound else none
  | consumeReset seen at_, d =>
    match d.passwordResets.find seen.id with
    | some r =>
      if r.usedAt = none ∧ at_ < r.expiresAt then none
      else some (.badRequest "Reset link is invalid or has expired.")
    | none => some (.badRequest "Reset link is invalid or has expired.")
  | createReset reset, d =>
    if (d.passwordResets.find reset.id).isSome ∨
      d.passwordResets.rows.any (fun r => r.token = reset.token)
    then some .uniqueViolation else none
  | revokeSessions .., _ | supersedeResets .., _ | createAuditLog .., _ | tick _, _ => none

/-- The rows and unique-index entries that a statement locks. -/
def rows : AuthStmt S → List (AuthRow S)
  | createSession s => [.session s.id, .refreshTokenHash s.refreshTokenHash]
  | storeRefreshToken id _ hash => [.session id, .refreshTokenHash hash]
  | rotateRefreshToken seen _ _ hash _ => [.session seen.id, .refreshTokenHash hash]
  | revokeSession id _ _ => [.session id]
  | revokeSessions ids _ _ _ => ids.map .session
  | updateLastLogin userId _ => [.user userId]
  | updatePassword userId _ => [.user userId]
  | consumeReset seen _ => [.passwordReset seen.id]
  | supersedeResets _ ids _ => ids.map .passwordReset
  | createReset reset => [.passwordReset reset.id, .resetToken reset.token]
  | createAuditLog _ _ => []
  | tick _ => []

end AuthStmt

/-- No integer column is counted here. -/
instance [DecidableEq S] : Database (AuthDb S) (AuthStmt S) (AuthRow S) Empty AuthError where
  apply := AuthStmt.apply
  check := AuthStmt.check
  rows := AuthStmt.rows
  value _ c := c.elim
  change _ c := c.elim
  cols _ := []
  change_of_not_mem {_ c} := c.elim
  value_apply c := c.elim

end Heightt.Auth
