import Heightt.Auth.Database
import Heightt.ReadCommitted.Run

/-!
# Users, their profiles and their email verifications

The rows that registration, email verification and the users service read or write, their
statements, and the cache, the rate limiter and the mail service around them. Texts are
lists of characters where they are compared or changed.
-/

namespace Heightt.Users

open Store ReadCommitted
open Auth (UserStatus)

/-- A row of the user table, with all its columns that are returned. -/
structure User where
  id : Id
  email : List Char
  username : List Char
  passwordHash : String
  emailVerified : Bool := false
  status : UserStatus := .active
  lastLoginAt : Option Nat := none
  createdAt : Nat := 0
  deriving DecidableEq

inductive VerificationStatus where
  | unverified | pending | verified | rejected
  deriving DecidableEq, Repr

structure UserProfile where
  userId : Id
  firstName : List Char := []
  lastName : List Char := []
  avatar : Option String := none
  gender : Option String := none
  country : Option String := none
  verificationStatus : VerificationStatus := .unverified
  verifiedAt : Option Nat := none
  deriving DecidableEq

structure StudentProfile where
  userId : Id
  matricNumber : String
  deriving DecidableEq

structure EmailVerification where
  id : Id
  userId : Id
  email : List Char
  token : List Char
  expiresAt : Nat
  verifiedAt : Option Nat := none
  createdAt : Nat := 0
  deriving DecidableEq

/-- The columns that are never written. -/
def EmailVerification.Same (a b : EmailVerification) : Prop :=
  a.userId = b.userId ∧ a.email = b.email ∧ a.token = b.token ∧ a.expiresAt = b.expiresAt

instance (a b : EmailVerification) : Decidable (a.Same b) := inferInstanceAs (Decidable (_ ∧ _))

structure Organization where
  id : Id
  name : String
  slug : String
  deriving DecidableEq

/-- A membership, with the names of its roles. -/
structure OrganizationMembership where
  userId : Id
  organizationId : Id
  roles : List String := []
  deriving DecidableEq

structure UsersDb where
  users : Table User Id User.id := .empty
  profiles : Table UserProfile Id UserProfile.userId := .empty
  studentProfiles : List StudentProfile := []
  emailVerifications : Table EmailVerification Id EmailVerification.id := .empty
  organizations : List Organization := []
  memberships : List OrganizationMembership := []
  /-- The time in milliseconds. -/
  now : Nat := 0

namespace UsersDb

/-- `{ userId, verifiedAt: null }` -/
def unverified (d : UsersDb) (userId : Id) : List EmailVerification :=
  d.emailVerifications.rows.filter fun v => v.userId = userId ∧ v.verifiedAt = none

end UsersDb

inductive UsersError where
  | badRequest (message : String)
  | notFound (message : String)
  | conflict (message : String)
  /-- A unique index already holds the value. -/
  | uniqueViolation
  /-- Prisma's error for an update of a missing row. -/
  | recordNotFound
  /-- The database, the cache or another service failed. -/
  | fault
  deriving DecidableEq

/-- The fields of `userProfile.update` that are given. -/
structure ProfilePatch where
  firstName : Option (List Char) := none
  lastName : Option (List Char) := none
  avatar : Option String := none
  gender : Option String := none
  country : Option String := none
  deriving DecidableEq

def ProfilePatch.apply (p : ProfilePatch) (r : UserProfile) : UserProfile :=
  { r with
    firstName := p.firstName.getD r.firstName
    lastName := p.lastName.getD r.lastName
    avatar := p.avatar.or r.avatar
    gender := p.gender.or r.gender
    country := p.country.or r.country }

inductive UsersStmt where
  | createUser (user : User)
  | createProfile (profile : UserProfile)
  | createVerification (verification : EmailVerification)
  /-- `emailVerification.deleteMany` of the unverified rows `ids` of a user. -/
  | deleteUnverified (userId : Id) (ids : List Id)
  | deleteVerification (id : Id)
  | setEmailVerified (userId : Id)
  /-- `emailVerification.update` of the row `seen`. -/
  | setVerifiedAt (seen : EmailVerification) (at_ : Nat)
  | setProfileVerified (userId : Id) (at_ : Nat)
  | updateUser (userId : Id) (username email : Option (List Char))
  | updateProfile (userId : Id) (patch : ProfilePatch)
  | updateStatus (userId : Id) (status : UserStatus)
  | createAuditLog (userId : Id) (action : String)
  /-- Time passes. -/
  | tick (ms : Nat)
  deriving DecidableEq

inductive UsersRow where
  | user (id : Id)
  | email (email : List Char)
  | username (username : List Char)
  | profile (userId : Id)
  | emailVerification (id : Id)
  | token (token : List Char)
  deriving DecidableEq

/-- `user.update` of the name and the address: what is not given stays. -/
def User.rename (username email : Option (List Char)) (u : User) : User :=
  { u with username := username.getD u.username, email := email.getD u.email }

def UserProfile.verify (at_ : Nat) (p : UserProfile) : UserProfile :=
  { p with verificationStatus := .verified, verifiedAt := some at_ }

namespace UsersStmt

def apply : UsersStmt → UsersDb → UsersDb
  | createUser u, d => { d with users := d.users.insert u }
  | createProfile p, d => { d with profiles := d.profiles.insert p }
  | createVerification v, d => { d with emailVerifications := d.emailVerifications.insert v }
  | deleteUnverified userId ids, d =>
    { d with
      emailVerifications := d.emailVerifications.filter fun v =>
        !decide (v.id ∈ ids ∧ v.userId = userId ∧ v.verifiedAt = none) }
  | deleteVerification id, d => { d with emailVerifications := d.emailVerifications.erase id }
  | setEmailVerified userId, d =>
    { d with users := d.users.modify userId (fun u => { u with emailVerified := true }) fun _ => rfl }
  | setVerifiedAt seen at_, d =>
    { d with
      emailVerifications := d.emailVerifications.modify seen.id
        (fun v => { v with verifiedAt := some at_ }) fun _ => rfl }
  | setProfileVerified userId at_, d =>
    { d with profiles := d.profiles.modify userId (UserProfile.verify at_) fun _ => rfl }
  | updateUser userId username email, d =>
    { d with users := d.users.modify userId (User.rename username email) fun _ => rfl }
  | updateProfile userId patch, d =>
    { d with profiles := d.profiles.modify userId patch.apply fun _ => rfl }
  | updateStatus userId status, d =>
    { d with users := d.users.modify userId (fun u => { u with status }) fun _ => rfl }
  | createAuditLog _ _, d => d
  | tick ms, d => { d with now := d.now + ms }

/-- Refuse when the value is taken. -/
def unique (taken : Bool) : Option UsersError := if taken then some .uniqueViolation else none

def existing {α : Type} (row : Option α) : Option UsersError := if row.isNone then some .recordNotFound else none

/-- Another user has the value. -/
def taken (d : UsersDb) (userId : Id) (column : User → List Char) (value : Option (List Char)) : Bool :=
  d.users.rows.any fun u => u.id ≠ userId && value = some (column u)

/-- The constraint a statement violates. -/
def check : UsersStmt → UsersDb → Option UsersError
  | createUser u, d =>
    (unique (d.users.find u.id).isSome).or
      ((unique (taken d u.id User.email (some u.email))).or (unique (taken d u.id User.username (some u.username))))
  | createProfile p, d => unique (d.profiles.find p.userId).isSome
  | createVerification v, d =>
    (unique (d.emailVerifications.find v.id).isSome).or
      (unique (d.emailVerifications.rows.any fun r => r.token = v.token))
  | deleteVerification id, d => existing (d.emailVerifications.find id)
  | setEmailVerified userId, d | updateStatus userId _, d => existing (d.users.find userId)
  | setVerifiedAt seen _, d =>
    if (d.emailVerifications.find seen.id).any fun v => v.Same seen then none else some .recordNotFound
  | setProfileVerified userId _, d | updateProfile userId _, d => existing (d.profiles.find userId)
  | updateUser userId username email, d =>
    (existing (d.users.find userId)).or
      ((unique (taken d userId User.username username)).or (unique (taken d userId User.email email)))
  | deleteUnverified .., _ | createAuditLog .., _ | tick _, _ => none

/-- The rows and unique-index entries that a statement locks. -/
def rows : UsersStmt → List UsersRow
  | createUser u => [.user u.id, .email u.email, .username u.username]
  | createProfile p => [.profile p.userId]
  | createVerification v => [.emailVerification v.id, .token v.token]
  | deleteUnverified _ ids => ids.map .emailVerification
  | deleteVerification id => [.emailVerification id]
  | setEmailVerified userId | updateStatus userId _ => [.user userId]
  | setVerifiedAt seen _ => [.emailVerification seen.id]
  | setProfileVerified userId _ | updateProfile userId _ => [.profile userId]
  | updateUser userId username email =>
    .user userId :: (username.map .username).toList ++ (email.map .email).toList
  | createAuditLog _ _ | tick _ => []

end UsersStmt

/-- No integer column is counted here. -/
instance : Database UsersDb UsersStmt UsersRow Empty UsersError where
  apply := UsersStmt.apply
  check := UsersStmt.check
  rows := UsersStmt.rows
  value _ c := c.elim
  change _ c := c.elim
  cols _ := []
  change_of_not_mem {_ c} := c.elim
  value_apply c := c.elim

end Heightt.Users
