import Heightt.Auth.Services

/-!
# AuthService

The functions of `auth.service.ts` that open, refresh and revoke sessions and
that reset passwords. Fresh identifiers, salts and reset tokens are arguments,
and the time is read from the database's clock.
-/

namespace Heightt.Auth

open ReadCommitted Prog

structure AuthConfig where
  /-- `JWT_REFRESH_EXPIRY`, in seconds. -/
  refreshExpiry : Nat := 2592000
  maxLoginAttempts : Nat := 5
  /-- Scoped cookie names then start with `__Host-`. -/
  secureCookies : Bool := true

structure Request (S : Type) where
  ip : String := ""
  /-- The cookies that are not empty. -/
  cookies : List (String × S) := []
  /-- `request.user?.authClient` -/
  userClient : Option AuthClient := none

structure LoginDto (S : Type) where
  identifier : List Char
  password : S

/-- The identifier and the salt a new session gets. -/
structure NewSession where
  id : Id
  salt : Nat

def toLowerCase (s : List Char) : List Char := s.map Char.toLower

def trim (s : List Char) : List Char :=
  ((s.dropWhile Char.isWhitespace).reverse.dropWhile Char.isWhitespace).reverse

namespace CookieService

variable {S : Type}

def scopedRefreshCookieName (config : AuthConfig) : AuthClient → String
  | .platformAdmin =>
    if config.secureCookies then "__Host-heightt.platform.refresh" else "heightt.platform.refresh"
  | .organizationAdmin =>
    if config.secureCookies then "__Host-heightt.organization.refresh"
    else "heightt.organization.refresh"
  | .user => "refreshToken"

def getRefreshTokenFromCookie (request : Request S) : Option S := request.cookies.lookup "refreshToken"

def getScopedRefreshTokenFromCookie (config : AuthConfig) (request : Request S) (client : AuthClient) :
    Option S :=
  request.cookies.lookup (scopedRefreshCookieName config client)

/-- The cookie `refresh` and `logout` look at. -/
def refreshCookie (config : AuthConfig) (request : Request S) (expectedClient : Option AuthClient) :
    Option S :=
  match expectedClient with
  | some client => getScopedRefreshTokenFromCookie config request client
  | none => getRefreshTokenFromCookie request

end CookieService

namespace AuthService

open CookieService TokenService

variable {S : Type}

/-- Call Redis or the mail service. -/
def callService (c : AuthCall S) : AuthAction S c.Reply := Prog.request c

def checkLoginAttempts (key : CounterKey) (maxAttempts : Nat) : AuthAction S Bool :=
  callService (.checkLoginAttempts key maxAttempts)

def checkRateLimit (key : CounterKey) (limit : Nat) : AuthAction S Bool :=
  callService (.checkRateLimit key limit)

def getUserProfile (userId : Id) : AuthAction S Bool := callService (.getUserProfile userId)

def cacheUserProfile (userId : Id) : AuthAction S Unit := callService (.cacheUserProfile userId)

def invalidateUserCache (userId : Option Id) : AuthAction S Unit :=
  callService (.invalidateUserCache userId)

/-- An error of Redis is logged and not thrown. -/
def invalidateByTag (tag : CacheTag) : AuthAction S Unit :=
  attempt (callService (AuthCall.invalidateByTag tag) : AuthAction S Unit)

/-- `Date.now()` -/
def clock : AuthAction S Nat := query AuthDb.now

/-- `session.updateMany` in the open transaction. -/
def updateManySessions (w : SessionWhere) (at_ : Nat) (reason : String) : AuthAction S Unit := do
  let ids ← query fun d => d.sessionIds w
  exec (.revokeSessions ids w at_ reason)

/-- `passwordReset.updateMany` in the open transaction. -/
def updateManyResets (userId : Id) (at_ : Nat) : AuthAction S Unit := do
  let ids ← query fun d => d.unusedResets userId
  exec (.supersedeResets userId ids at_)

/-- The session with its user. -/
def withUser (d : AuthDb S) (s : Session S) : Option (Session S × User S) :=
  (d.users.find s.userId).map fun u => (s, u)

def findUser (d : AuthDb S) (identifier : List Char) : Option (User S) :=
  d.users.findFirst fun u => u.email = identifier ∨ u.username = identifier

/-! ## Password reset -/

variable [DecidableEq S] [Crypto S]

def forgotPassword (dtoEmail : List Char) (request : Request S) (resetId : Id) (rawToken : S) :
    AuthAction S Unit := do
  let email := toLowerCase (trim dtoEmail)
  let rateLimitKey :=
    CounterKey.forgotPassword (if request.ip = "" then "unknown" else request.ip) email
  let allowed ← checkRateLimit rateLimitKey 5
  ensure (allowed = true)
    (.badRequest "Too many password reset requests. Please try again later.")
  let _ ← callService (.incrementRateLimit rateLimitKey)
  let user ← outside fun d => d.users.findFirst fun u => u.email = email
  whenSome (user.filter fun u => u.status = .active) fun user => do
    let tokenHash := digest rawToken
    let now ← clock
    let expiresAt := now + 60 * 60 * 1000
    transaction do
      let usedAt ← clock
      updateManyResets user.id usedAt
      exec (.createReset { id := resetId, userId := user.id, token := tokenHash, expiresAt })
    let _ ← callService (.sendPasswordResetEmail user.email user.username rawToken)
    pure ()

def invalidResetLink : AuthError := .badRequest "Reset link is invalid or has expired."

/-- The reset that `findFirst` finds at `now`, with its user. -/
def findReset (tokenHash : S) (now : Nat) (d : AuthDb S) : Option (PasswordReset S × User S) := do
  let r ← d.passwordResets.findFirst fun r => r.token = tokenHash ∧ r.usedAt = none ∧ now < r.expiresAt
  let u ← d.users.find r.userId
  pure (r, u)

def resetPassword (token newPassword : S) (salt : Nat) : AuthAction S Unit := do
  let tokenHash := digest token
  let checkedAt ← clock
  let reset ← outside (findReset tokenHash checkedAt)
  let (reset, user) ← orThrow (reset.filter fun r => r.2.status = .active) invalidResetLink
  let passwordHash := Crypto.hash newPassword salt
  let now ← clock
  transaction do
    exec (.consumeReset reset now)
    exec (.updatePassword reset.userId passwordHash)
    updateManyResets reset.userId now
    updateManySessions { userId := some reset.userId, unrevoked := false } now "Password reset"
    exec (.createAuditLog (some reset.userId) "PASSWORD_RESET")
  invalidateUserCache (some reset.userId)
  let _ ← callService (.sendPasswordChangedEmail user.email user.username)
  pure ()

/-! ## Login -/

def incrementAndReject {α : Type} (key : CounterKey) (message : String) : AuthAction S α := do
  let _ ← callService (.incrementLoginAttempt key)
  throw (.unauthorized message)

/-- The checks of the identifier and the password that both logins make. -/
def authenticate (key : CounterKey) (dto : LoginDto S) : AuthAction S (User S) := do
  let user ← outside fun d => findUser d (toLowerCase dto.identifier)
  match user.filter fun u => u.status = .active with
  | none => incrementAndReject key "Invalid credentials"
  | some user =>
    if verify user.passwordHash dto.password then pure user
    else incrementAndReject key "Invalid credentials"

/-- Both logins create the session with a placeholder, then sign a refresh token
with the session's identifier and store its hash. -/
def createSessionWithToken (config : AuthConfig) (user : User S) (authClient : AuthClient)
    (lifetime : Nat) (action : String) (new : NewSession) : AuthAction S S := do
  let now ← clock
  statement (.createSession
    { id := new.id, userId := user.id, refreshTokenHash := pending, expiresAt := now + lifetime,
      lastUsedAt := now, authClient })
  let signedAt ← clock
  let refreshToken :=
    signAsync (refreshClaims signedAt config.refreshExpiry user.id user.email new.id authClient)
  statement (.storeRefreshToken new.id refreshToken (Crypto.hash refreshToken new.salt))
  let lastLoginAt ← clock
  statement (.updateLastLogin user.id lastLoginAt)
  statement (.createAuditLog (some user.id) action)
  pure refreshToken

def getCurrentUser (userId : Id) : AuthAction S Unit := do
  let cached ← getUserProfile userId
  when (cached = false) do
    let user ← outside fun d => d.users.find userId
    let _ ← orThrow user (.notFound "User not found")
    cacheUserProfile userId

def login (config : AuthConfig) (dto : LoginDto S) (request : Request S) (new : NewSession) :
    AuthAction S S := do
  let rateLimitKey := CounterKey.login request.ip
  let allowed ← checkLoginAttempts rateLimitKey config.maxLoginAttempts
  ensure (allowed = true) (.unauthorized "Too many login attempts. Please try again later.")
  let user ← authenticate rateLimitKey dto
  ensure (user.emailVerified = true) (.unauthorized "Email verification required")
  let _ ← callService (.resetLoginAttempts rateLimitKey)
  let refreshToken ← createSessionWithToken config user .user (30 * 24 * 60 * 60 * 1000) "USER_LOGIN" new
  invalidateUserCache (some user.id)
  getCurrentUser user.id
  pure refreshToken

/-- The active roles with which a user may log in to an admin application. -/
def adminRoles (d : AuthDb S) (userId : Id) (authClient : AuthClient) : List AdminRole :=
  d.admins.filter fun a =>
    a.userId = userId ∧ a.isActive ∧ (a.isPlatformAdmin ↔ authClient = .platformAdmin)

def adminLogin (config : AuthConfig) (dto : LoginDto S) (request : Request S) (authClient : AuthClient)
    (new : NewSession) : AuthAction S S := do
  let rateLimitKey := CounterKey.adminLogin authClient request.ip
  let allowed ← checkLoginAttempts rateLimitKey 3
  ensure (allowed = true) (.unauthorized "Too many admin login attempts. Please try again later.")
  let user ← authenticate rateLimitKey dto
  let roles ← outside fun d => adminRoles d user.id authClient
  -- The two checks after this one ask for the roles that the filter has left.
  if roles.isEmpty then
    incrementAndReject rateLimitKey "Access denied. You do not have admin privileges."
  else do
    let _ ← callService (.resetLoginAttempts rateLimitKey)
    let refreshToken ←
      createSessionWithToken config user authClient (24 * 60 * 60 * 1000) "ADMIN_LOGIN" new
    cacheUserProfile user.id
    pure refreshToken

/-! ## Refresh -/

/-- The where clause of `refresh`. -/
def refreshable (payload : Payload) (authClient : AuthClient) (now : Nat) : SessionWhere where
  userId := payload.sub
  authClient := some authClient
  expiresAfter := some now

/-- The session named in the token, if it is usable. -/
def sessionOfToken (payload : Payload) (authClient : AuthClient) :
    AuthAction S (Option (Session S × User S)) :=
  match payload.sessionId with
  | some id => do
    let now ← clock
    let w := { refreshable payload authClient now with id := some id }
    outside fun d => (d.findSession w).bind (withUser d)
  | none => pure none

/-- Among all usable sessions, the one whose hash the token verifies, or else the
one used last. -/
def sessionByHash (payload : Payload) (authClient : AuthClient) (refreshToken : S) :
    AuthAction S (Option (Session S × User S)) := do
  let now ← clock
  let w := refreshable payload authClient now
  let sessions ← outside fun d => (byLastUse (d.findSessions w)).filterMap (withUser d)
  pure ((sessions.find? fun s => verify s.1.refreshTokenHash refreshToken).or sessions.head?)

def refresh (config : AuthConfig) (request : Request S) (expectedClient : Option AuthClient)
    (salt : Nat) : AuthAction S S := do
  let refreshToken ← orThrow (refreshCookie config request expectedClient)
    (.unauthorized "Refresh token required")
  let now ← clock
  let payload ← orThrow ((verifyRefreshToken now refreshToken).filter fun p => !p.expired)
    (.unauthorized "Invalid or expired refresh token")
  let tokenClient := payload.authClient.getD .user
  ensure (expectedClient.all (tokenClient = ·) = true)
    (.unauthorized "Refresh token belongs to a different Heightt application")
  let clientScope := expectedClient.getD .user
  let named ← sessionOfToken payload clientScope
  let session ← orElse (named.map some) (sessionByHash payload clientScope refreshToken)
  let (session, user) ← orThrow session (.unauthorized "Session not found")
  ensure (verify session.refreshTokenHash refreshToken = true) (.unauthorized "Invalid refresh token")
  let signedAt ← clock
  let newRefreshToken := signAsync
    (refreshClaims signedAt config.refreshExpiry session.userId user.email session.id tokenClient)
  let lastUsedAt ← clock
  statement (.rotateRefreshToken session refreshToken newRefreshToken
    (Crypto.hash newRefreshToken salt) lastUsedAt)
  pure newRefreshToken

/-! ## Logout -/

/-- The where clause of `logout`. -/
def revocable (payload : Payload) (expectedClient : Option AuthClient) : SessionWhere where
  userId := payload.sub
  authClient := expectedClient

/-- The session named in the token. -/
def sessionNamed (payload : Payload) (expectedClient : Option AuthClient) :
    AuthAction S (Option (Session S)) :=
  match payload.sessionId with
  | some id => outside fun d => d.findSession { revocable payload expectedClient with id := some id }
  | none => pure none

/-- The session that was used last. -/
def sessionUsedLast (payload : Payload) (expectedClient : Option AuthClient) :
    AuthAction S (Option (Session S)) :=
  outside fun d => (byLastUse (d.findSessions (revocable payload expectedClient))).head?

def logout (config : AuthConfig) (request : Request S) (expectedClient : Option AuthClient) :
    AuthAction S Unit := do
  ensure (expectedClient = none ∨ request.userClient = none ∨ request.userClient = expectedClient)
    (.unauthorized "Access token belongs to a different Heightt application")
  whenSome (refreshCookie config request expectedClient) fun refreshToken => do
    let now ← clock
    whenSome (verifyRefreshToken now refreshToken) fun payload => do
      let named ← sessionNamed payload expectedClient
      let session ← orElse (named.map some) (sessionUsedLast payload expectedClient)
      whenSome session fun session => do
        let revokedAt ← clock
        statement (.revokeSession session.id revokedAt "User logout")
        invalidateUserCache payload.sub

def logoutAll (request : Request S) : AuthAction S Unit :=
  whenSome (getRefreshTokenFromCookie request) fun refreshToken => do
    let now ← clock
    whenSome (verifyRefreshToken now refreshToken) fun payload => do
      let revokedAt ← clock
      transaction (updateManySessions { userId := payload.sub } revokedAt "Logout all devices")
      statement (.createAuditLog payload.sub "USER_LOGOUT_ALL")
      invalidateUserCache payload.sub
      invalidateByTag (.user payload.sub)
      invalidateByTag .auth

def revokeSession (userId sessionId : Id) : AuthAction S Unit := do
  let session ← outside fun d => d.findSession { id := some sessionId, userId := some userId }
  let _ ← orThrow session (.notFound "Session not found")
  let revokedAt ← clock
  statement (.revokeSession sessionId revokedAt "Revoked by user")
  let _ ← callService (.deleteUserSessions userId)
  invalidateByTag (.user (some userId))

end AuthService

end Heightt.Auth
