import Heightt.Auth.Service
import Heightt.Store.Pages
import Heightt.Users.Services

/-!
# Registration, email verification and UsersService

The functions of `auth.service.ts` that verify addresses, and those of `users.service.ts`
that read and update users. Fresh identifiers, tokens and password hashes are arguments,
and the time is read from the database's clock.
-/

namespace Heightt.Users

open ReadCommitted Prog
open Store (paginate PageMeta)
open Auth (UserStatus toLowerCase trim)

def callService (c : UsersCall) : UsersAction c.Reply := Prog.request c

def checkRateLimit (key : RateKey) (limit : Nat) : UsersAction Bool := callService (.checkRateLimit key limit)

/-- `sendVerificationEmailWithLink`, with the token of the link. -/
def sendVerificationEmail (email username token : List Char) : UsersAction Bool :=
  callService (.sendVerificationEmail email username token)

def cacheGet (key : CacheKey) : UsersAction (Option Entry) := callService (.cacheGet key)

def cacheDelete (key : CacheKey) : UsersAction Unit := callService (.cacheDelete key)

/-- An error of Redis is logged and not thrown. -/
def invalidateByTag (tag : String) : UsersAction Unit :=
  attempt (callService (UsersCall.invalidateByTag tag) : UsersAction Unit)

def invalidateUserPattern : UsersAction Unit := callService .invalidateUserPattern

def sendWelcomeEmail (email username : List Char) : UsersAction Unit :=
  callService (.sendWelcomeEmail email username)

/-- `Date.now()` -/
def clock : UsersAction Nat := query UsersDb.now

/-- A text counts as given if it is not empty. -/
def given {α : Type} (text : Option (List α)) : Option (List α) := text.filter fun t => !t.isEmpty

/-- The rows, the latest one first. -/
def latestFirst {α : Type} (createdAt : α → Nat) (l : List α) : List α :=
  l.insertionSort fun a b => createdAt b ≤ createdAt a

/-- `{ contains, mode: 'insensitive' }` -/
def containsInsensitive (text value : List Char) : Bool := toLowerCase text <:+: toLowerCase value

def statusText : UserStatus → String
  | .active => "ACTIVE"
  | .inactive => "INACTIVE"
  | .suspended => "SUSPENDED"
  | .deleted => "DELETED"

namespace UsersDb

/-- `include: { profile: true, studentProfile: true }` -/
def view (d : UsersDb) (u : User) : UserView where
  user := u
  profile := d.profiles.find u.id
  studentProfile := d.studentProfiles.find? fun s => s.userId = u.id

def findByEmail (d : UsersDb) (email : List Char) : Option User := d.users.findFirst fun u => u.email = email

def findByUsername (d : UsersDb) (username : List Char) : Option User :=
  d.users.findFirst fun u => u.username = username

end UsersDb

namespace AuthService

/-- `cacheService.invalidateUserCache` -/
def invalidateUserCache (userId : Id) : UsersAction Unit := cacheDelete (.profile userId)

structure RegisterDto where
  email : List Char
  username : List Char
  /-- `PasswordUtil.hash(dto.password)` -/
  passwordHash : String
  deriving DecidableEq

/-- The identifiers and the token a registration gets. -/
structure NewUser where
  userId : Id
  verificationId : Id
  token : List Char
  deriving DecidableEq

def oneDay : Nat := 24 * 60 * 60 * 1000

def register (dto : RegisterDto) (ip : String) (new : NewUser) : UsersAction Unit := do
  let allowed ← checkRateLimit (.register ip) 10
  ensure (allowed = true) (.badRequest "Too many registration attempts. Please try again later.")
  let existingEmail ← outside fun d => d.findByEmail (toLowerCase dto.email)
  ensure (existingEmail = none) (.conflict "User with this email already exists")
  let existingUsername ← outside fun d => d.findByUsername (toLowerCase dto.username)
  ensure (existingUsername = none) (.conflict "Username is already taken")
  transaction do
    let now ← clock
    exec (.createUser
      { id := new.userId, email := toLowerCase dto.email, username := toLowerCase dto.username,
        passwordHash := dto.passwordHash, createdAt := now })
    exec (.createProfile { userId := new.userId })
    exec (.createVerification
      { id := new.verificationId, userId := new.userId, email := toLowerCase dto.email,
        token := new.token, expiresAt := now + oneDay, createdAt := now })
    exec (.createAuditLog new.userId "USER_REGISTERED")
  let verification ← outside fun d =>
    (latestFirst EmailVerification.createdAt (d.unverified new.userId)).head?
  whenSome verification fun v => attempt do
    let _ ← sendVerificationEmail (toLowerCase dto.email) (toLowerCase dto.username) v.token
    pure ()
  invalidateUserCache new.userId

/-- `emailVerification.findUnique` with the user. -/
def findVerification (token : List Char) (d : UsersDb) : Option (EmailVerification × User) := do
  let v ← d.emailVerifications.findFirst fun v => v.token = token
  let u ← d.users.find v.userId
  pure (v, u)

def verifyEmail (token : List Char) : UsersAction Unit := do
  let found ← outside (findVerification token)
  let (verification, user) ← orThrow found (.badRequest "Invalid verification token")
  ensure (verification.verifiedAt = none) (.badRequest "Email already verified")
  let now ← clock
  ensure (now ≤ verification.expiresAt)
    (.badRequest "Verification token has expired. Please request a new one.")
  let verifiedAt ← clock
  transaction do
    exec (.setEmailVerified verification.userId)
    exec (.setVerifiedAt verification verifiedAt)
    exec (.setProfileVerified verification.userId verifiedAt)
    exec (.createAuditLog verification.userId "EMAIL_VERIFIED")
  attempt (sendWelcomeEmail user.email user.username)
  invalidateUserCache verification.userId

/-- `emailVerification.deleteMany` of the unverified rows of a user. -/
def deleteManyUnverified (userId : Id) : UsersAction Unit := transaction do
  let ids ← query fun d => (d.unverified userId).map EmailVerification.id
  exec (.deleteUnverified userId ids)

/-- The identifier and the token a new verification gets. -/
structure NewVerification where
  id : Id
  token : List Char
  deriving DecidableEq

def resendVerificationEmail (email : List Char) (ip : String) (new : NewVerification) : UsersAction Unit := do
  let normalizedEmail := toLowerCase (trim email)
  let allowed ← checkRateLimit (.resendVerification (if ip = "" then "unknown" else ip) normalizedEmail) 3
  ensure (allowed = true) (.badRequest "Too many verification email requests. Please try again later.")
  let user ← outside fun d => d.findByEmail normalizedEmail
  let user ← orThrow user (.notFound "User not found")
  ensure (user.emailVerified = false) (.badRequest "Email already verified")
  deleteManyUnverified user.id
  let now ← clock
  statement (.createVerification
    { id := new.id, userId := user.id, email := user.email, token := new.token,
      expiresAt := now + oneDay, createdAt := now })
  onThrow
    (do
      let sent ← sendVerificationEmail user.email user.username new.token
      ensure (sent = true) .fault)
    fun _ => do
      statement (.deleteVerification new.id)
      throw (.badRequest "Failed to send verification email. Please try again.")

end AuthService

namespace UsersService

structure UserFilters where
  email : Option (List Char) := none
  username : Option (List Char) := none
  status : Option UserStatus := none
  createdAfter : Option Nat := none
  createdBefore : Option Nat := none
  deriving DecidableEq

def UserFilters.holds (f : UserFilters) (u : User) : Bool :=
  (given f.email).all (fun text => containsInsensitive text u.email) &&
    (given f.username).all (fun text => containsInsensitive text u.username) &&
    f.status.all (fun status => u.status = status) && f.createdAfter.all (fun t => t ≤ u.createdAt) &&
    f.createdBefore.all fun t => u.createdAt ≤ t

structure Page where
  data : List UserView
  info : PageMeta
  deriving DecidableEq

def findAll (page limit : Int) (filters : UserFilters) : UsersAction Page := do
  let users ← outside fun d => (paginate ((page - 1) * limit) limit
    (latestFirst User.createdAt (d.users.rows.filter filters.holds))).map (List.map d.view)
  let users ← orThrow users .fault
  let total ← outside fun d => (d.users.rows.filter filters.holds).length
  pure ⟨users, page, limit, total, if limit = 0 then none else some (-(Int.fdiv (-total) limit))⟩

/-- A membership as `getUsersWithRoles` includes it. -/
structure MembershipView where
  membership : OrganizationMembership
  organization : Option Organization
  deriving DecidableEq

structure UserWithRoles where
  user : User
  profile : Option UserProfile
  organizationMemberships : List MembershipView
  deriving DecidableEq

/-- The memberships of the user, each with its organization. -/
def membershipsOf (d : UsersDb) (u : User) : List MembershipView :=
  (d.memberships.filter fun m => m.userId = u.id).map fun m =>
    ⟨m, d.organizations.find? fun o => o.id = m.organizationId⟩

def getUsersWithRoles (organizationId : Option Id) : UsersAction (List UserWithRoles) :=
  outside fun d =>
    (latestFirst User.createdAt (d.users.rows.filter fun u => organizationId.all fun o =>
      d.memberships.any fun m => m.userId = u.id && m.organizationId = o)).map fun u =>
        ⟨u, d.profiles.find u.id, membershipsOf d u⟩

/-- The text is in the user's address or name, or in a name of the profile. -/
def searched (d : UsersDb) (query : List Char) (u : User) : Bool :=
  containsInsensitive query u.email || containsInsensitive query u.username ||
    (d.profiles.find u.id).any fun p =>
      containsInsensitive query p.firstName || containsInsensitive query p.lastName

def searchUsers (query : List Char) (limit : Int) : UsersAction (List UserView) := do
  let users ← outside fun d =>
    (paginate 0 limit (latestFirst User.createdAt (d.users.rows.filter (searched d query)))).map (List.map d.view)
  orThrow users .fault

/-- An error of the database or of Redis is logged and not thrown. -/
def invalidateUsersCache (userId : Id) : UsersAction Unit := attempt do
  invalidateByTag "users"
  invalidateByTag "user"
  invalidateByTag "stats"
  invalidateByTag "sessions"
  cacheDelete (.profile userId)
  cacheDelete (.sessions userId)
  AuthService.invalidateUserCache userId
  let user ← outside fun d => d.users.find userId
  whenSome user fun u => do
    cacheDelete (.email u.email)
    cacheDelete (.username u.username)
  invalidateUserPattern

/-- Cached for five minutes under the tags `users` and `user`. -/
def cacheUser (key : CacheKey) (view : UserView) : UsersAction Unit :=
  callService (.cacheSetWithTag key (.user view) ["users", "user"])

/-- The cached value, or the user that `find` finds, which is cached. -/
def cachedUser (key : CacheKey) (find : UsersDb → Option User) : UsersAction Entry := do
  let cached ← cacheGet key
  match cached with
  | some value => pure value
  | none =>
    let user ← outside fun d => (find d).map d.view
    let user ← orThrow user (.notFound "User not found")
    cacheUser key user
    pure (.user user)

def findById (id : Id) : UsersAction Entry := cachedUser (.profile id) fun d => d.users.find id

def findByEmail (email : List Char) : UsersAction Entry :=
  cachedUser (.email (toLowerCase email)) fun d => d.findByEmail (toLowerCase email)

def findByUsername (username : List Char) : UsersAction UserView := do
  let user ← outside fun d => (d.findByUsername (toLowerCase username)).map d.view
  orThrow user (.notFound "User not found")

structure UpdateUserDto where
  username : Option (List Char) := none
  email : Option (List Char) := none
  firstName : Option (List Char) := none
  lastName : Option (List Char) := none
  avatar : Option String := none
  gender : Option String := none
  country : Option String := none
  deriving DecidableEq

namespace UpdateUserDto

def patch (dto : UpdateUserDto) : ProfilePatch where
  firstName := dto.firstName
  lastName := dto.lastName
  avatar := dto.avatar
  gender := dto.gender
  country := dto.country

/-- One of the fields of the profile is given and not empty. -/
def touchesProfile (dto : UpdateUserDto) : Bool :=
  (given dto.firstName).isSome || (given dto.lastName).isSome || dto.avatar.any (· ≠ "") ||
    dto.gender.any (· ≠ "") || dto.country.any (· ≠ "")

end UpdateUserDto

/-- Another user has the address, in whatever case. -/
def emailTaken (d : UsersDb) (email : List Char) (userId : Id) : Bool :=
  (d.users.findFirst fun u => toLowerCase u.email = toLowerCase email ∧ u.id ≠ userId).isSome

/-- The message of a response and the user it shows. -/
structure Updated (α : Type) where
  message : String
  user : α
  deriving DecidableEq

def updateProfile (userId : Id) (dto : UpdateUserDto) : UsersAction (Updated Entry) := do
  let user ← outside fun d => d.users.find userId
  let _ ← orThrow user (.notFound "User not found")
  whenSome (given dto.username) fun username => do
    let existingUser ← outside fun d => d.findByUsername username
    ensure (existingUser = none) (.conflict "Username is already taken")
  whenSome (given dto.email) fun email => do
    let taken ← outside fun d => emailTaken d email userId
    ensure (taken = false) (.conflict "Email is already registered")
  transaction do
    exec (.updateUser userId ((given dto.username).map toLowerCase) ((given dto.email).map toLowerCase))
    when (dto.touchesProfile = true) (exec (.updateProfile userId dto.patch))
  invalidateUsersCache userId
  let result ← findById userId
  pure ⟨"Profile updated successfully", result⟩

/-- `user.update` of the status, which returns the row. -/
def updateUserStatus (userId : Id) (status : UserStatus) : UsersAction UserView := transaction do
  exec (.updateStatus userId status)
  let user ← query fun d => (d.users.find userId).map d.view
  orThrow user .recordNotFound

def updateStatus (userId : Id) (status : UserStatus) : UsersAction (Updated UserView) := do
  let user ← outside fun d => d.users.find userId
  let user ← orThrow user (.notFound "User not found")
  ensure (user.status ≠ status) (.badRequest ("User is already " ++ statusText status))
  let updatedUser ← updateUserStatus userId status
  when (status = .deleted) (statement (.createAuditLog userId "USER_DELETED"))
  invalidateUsersCache userId
  pure ⟨"User status updated to " ++ statusText status, updatedUser⟩

end UsersService

end Heightt.Users
