import Heightt.Auth.Service
import Heightt.ReadCommitted.Guarantee

/-!
# The authentication calls and their runs

`AuthOp` lists the calls that open, refresh and revoke sessions and that reset
passwords, and the passing of time. `AuthOp.Writes` says what a call may commit,
given what it has committed before, and `AuthOp.Done` what it has committed when
it returns. Every statement lets the tables only age (`Grows`), so what a call
has read about a row's owner or expiry still holds when it commits.
-/

namespace Heightt.Auth

open ReadCommitted Store Prog Database AuthService CookieService TokenService

variable {S : Type}

/-- What later statements leave of a session. -/
structure Session.Aged (s s' : Session S) : Prop where
  userId : s'.userId = s.userId
  expiresAt : s'.expiresAt = s.expiresAt
  authClient : s'.authClient = s.authClient
  inactive : s.isActive = false → s'.isActive = false

theorem Session.Aged.refl (s : Session S) : s.Aged s := ⟨rfl, rfl, rfl, fun h => h⟩

theorem Session.Aged.trans {s s' s'' : Session S} (h : s.Aged s') (h' : s'.Aged s'') : s.Aged s'' where
  userId := h'.userId.trans h.userId
  expiresAt := h'.expiresAt.trans h.expiresAt
  authClient := h'.authClient.trans h.authClient
  inactive := fun hi => h'.inactive (h.inactive hi)

theorem Session.aged_revoke (s : Session S) (at_ : Nat) (reason : String) :
    s.Aged (s.revoke at_ reason) := ⟨rfl, rfl, rfl, fun _ => rfl⟩

/-- What later statements leave of a reset. -/
structure PasswordReset.Aged (r r' : PasswordReset S) : Prop where
  userId : r'.userId = r.userId
  token : r'.token = r.token
  expiresAt : r'.expiresAt = r.expiresAt
  used : r.usedAt ≠ none → r'.usedAt ≠ none

theorem PasswordReset.Aged.refl (r : PasswordReset S) : r.Aged r := ⟨rfl, rfl, rfl, fun h => h⟩

theorem PasswordReset.Aged.trans {r r' r'' : PasswordReset S} (h : r.Aged r') (h' : r'.Aged r'') :
    r.Aged r'' where
  userId := h'.userId.trans h.userId
  token := h'.token.trans h.token
  expiresAt := h'.expiresAt.trans h.expiresAt
  used := fun hu => h'.used (h.used hu)

theorem PasswordReset.aged_use (r : PasswordReset S) (at_ : Nat) : r.Aged (r.use at_) where
  userId := rfl
  token := rfl
  expiresAt := rfl
  used := fun _ h => nomatch h

/-- What the others can have done in the meantime. -/
structure Grows (d d' : AuthDb S) : Prop where
  now : d.now ≤ d'.now
  sessions : d.sessions.Grows Session.Aged d'.sessions
  resets : d.passwordResets.Grows PasswordReset.Aged d'.passwordResets

theorem Grows.refl (d : AuthDb S) : Grows d d :=
  ⟨Nat.le_refl _, .refl Session.Aged.refl _, .refl PasswordReset.Aged.refl _⟩

theorem Grows.trans {d d' d'' : AuthDb S} (h : Grows d d') (h' : Grows d' d'') : Grows d d'' where
  now := Nat.le_trans h.now h'.now
  sessions := h.sessions.trans Session.Aged.trans h'.sessions
  resets := h.resets.trans PasswordReset.Aged.trans h'.resets

/-- A statement lets the tables only age. -/
theorem grows_apply (w : AuthStmt S) (d : AuthDb S) : Grows d (w.apply d) := by
  have sessions {t : Table (Session S) Id Session.id} (h : d.sessions.Grows Session.Aged t) :
      Grows d { d with sessions := t } := ⟨Nat.le_refl _, h, .refl PasswordReset.Aged.refl _⟩
  have resets {t : Table (PasswordReset S) Id PasswordReset.id}
      (h : d.passwordResets.Grows PasswordReset.Aged t) :
      Grows d { d with passwordResets := t } := ⟨Nat.le_refl _, .refl Session.Aged.refl _, h⟩
  cases w with
  | createSession s => exact sessions (Table.grows_insert Session.Aged.refl _ _)
  | storeRefreshToken id token hash =>
    exact sessions (Table.grows_modify _ Session.Aged.refl fun s _ => ⟨rfl, rfl, rfl, fun h => h⟩)
  | rotateRefreshToken seen presented token hash lastUsedAt =>
    exact sessions (Table.grows_modify _ Session.Aged.refl fun s _ => ⟨rfl, rfl, rfl, fun h => h⟩)
  | revokeSession id at_ reason =>
    exact sessions (Table.grows_modify _ Session.Aged.refl fun s _ => s.aged_revoke at_ reason)
  | revokeSessions ids w at_ reason =>
    refine sessions (Table.grows_mapRows _ fun s _ => ?_)
    split
    · exact s.aged_revoke at_ reason
    · exact .refl s
  | consumeReset seen at_ =>
    exact resets (Table.grows_modify _ PasswordReset.Aged.refl fun r _ => r.aged_use at_)
  | supersedeResets userId ids at_ =>
    refine resets (Table.grows_mapRows _ fun r _ => ?_)
    split
    · exact r.aged_use at_
    · exact .refl r
  | createReset reset => exact resets (Table.grows_insert PasswordReset.Aged.refl _ _)
  | updateLastLogin userId at_ => exact ⟨Nat.le_refl _, .refl Session.Aged.refl _, .refl PasswordReset.Aged.refl _⟩
  | updatePassword userId passwordHash =>
    exact ⟨Nat.le_refl _, .refl Session.Aged.refl _, .refl PasswordReset.Aged.refl _⟩
  | createAuditLog userId action => exact .refl d
  | tick ms => exact ⟨Nat.le_add_right _ _, .refl Session.Aged.refl _, .refl PasswordReset.Aged.refl _⟩

variable [DecidableEq S]

theorem grows_applyAll (F : List (AuthStmt S)) (d : AuthDb S) : Grows d (applyAll F d) := by
  induction F generalizing d with
  | nil => exact .refl d
  | cons w F ih => exact (grows_apply w d).trans (ih _)

theorem guarded_grows : Guarded (D := AuthDb S) (C := AuthCall S) (R := AuthCall.Reply) Grows fun _ => False :=
  ⟨Grows.refl, Grows.trans, fun h => h.elim⟩

/-! ## What each call commits -/

variable [Crypto S]

/-- The transaction of a reset. -/
def resetStatements (reset : PasswordReset S) (passwordHash : S) (at_ : Nat) (ids sessions : List Id) :
    List (AuthStmt S) :=
  [.consumeReset reset at_, .updatePassword reset.userId passwordHash,
    .supersedeResets reset.userId ids at_,
    .revokeSessions sessions { userId := some reset.userId, unrevoked := false } at_ "Password reset",
    .createAuditLog (some reset.userId) "PASSWORD_RESET"]

/-- The transaction that issues a reset. -/
def issueStatements (reset : PasswordReset S) (ids : List Id) (usedAt : Nat) : List (AuthStmt S) :=
  [.supersedeResets reset.userId ids usedAt, .createReset reset]

/-- A login commits four transactions in turn. -/
inductive LoginWrites (config : AuthConfig) (client : AuthClient) (action : String) (new : NewSession) :
    List (AuthStmt S) → List (AuthStmt S) → Prop where
  | create (session : Session S) (named : session.id = new.id) (opened : session.authClient = client)
    (placeholder : session.refreshTokenHash = pending) :
    LoginWrites config client action new [] [.createSession session]
  | store (session : Session S) (email : List Char) (signedAt : Nat) (token : S)
    (signed : token = signAsync (refreshClaims signedAt config.refreshExpiry session.userId email
      session.id session.authClient)) :
    LoginWrites config client action new [.createSession session]
      [.storeRefreshToken session.id token (Crypto.hash token new.salt)]
  | lastLogin (session : Session S) (id : Id) (token hash : S) (userId : Id) (at_ : Nat) :
    LoginWrites config client action new [.createSession session, .storeRefreshToken id token hash]
      [.updateLastLogin userId at_]
  | audit (l : List (AuthStmt S)) (userId : Option Id) (written : l ≠ []) :
    LoginWrites config client action new l [.createAuditLog userId action]

/-- The transaction of a refresh, with what the call has read and checked before. -/
inductive RefreshWrites (config : AuthConfig) (request : Request S) (expectedClient : Option AuthClient)
    (salt : Nat) : List (AuthStmt S) → Prop where
  | rotate (seen : Session S) (presented token : S) (payload : Payload) (email : List Char)
    (verifiedAt checkedAt signedAt lastUsedAt : Nat)
    (cookie : refreshCookie config request expectedClient = some presented)
    (verified : verifyRefreshToken verifiedAt presented = some payload)
    (unexpired : payload.expired = false)
    (client : ∀ a, expectedClient = some a → payload.authClient.getD .user = a)
    (usable : (refreshable payload (expectedClient.getD .user) checkedAt).holds seen = true)
    (matched : verify seen.refreshTokenHash presented = true)
    (signed : token = signAsync (refreshClaims signedAt config.refreshExpiry seen.userId email seen.id
      (payload.authClient.getD .user))) :
    RefreshWrites config request expectedClient salt
      [.rotateRefreshToken seen presented token (Crypto.hash token salt) lastUsedAt]

/-- A call, with the identifiers and salts it is given, or time passing. -/
inductive AuthOp (S : Type) where
  | forgotPassword (email : List Char) (request : Request S) (resetId : Id) (rawToken : S)
  | resetPassword (token newPassword : S) (salt : Nat)
  | login (dto : LoginDto S) (request : Request S) (new : NewSession)
  | adminLogin (dto : LoginDto S) (request : Request S) (authClient : AuthClient) (new : NewSession)
  | refresh (request : Request S) (expectedClient : Option AuthClient) (salt : Nat)
  | logout (request : Request S) (expectedClient : Option AuthClient)
  | logoutAll (request : Request S)
  | revokeSession (userId sessionId : Id)
  | tick (ms : Nat)

namespace AuthOp

/-- The program of a call. -/
def program (config : AuthConfig) : AuthOp S → AuthAction S Unit
  | forgotPassword email request resetId rawToken =>
    AuthService.forgotPassword email request resetId rawToken
  | resetPassword token newPassword salt => AuthService.resetPassword token newPassword salt
  | login dto request new => do
    let _ ← AuthService.login config dto request new
    pure ()
  | adminLogin dto request authClient new => do
    let _ ← AuthService.adminLogin config dto request authClient new
    pure ()
  | refresh request expectedClient salt => do
    let _ ← AuthService.refresh config request expectedClient salt
    pure ()
  | logout request expectedClient => AuthService.logout config request expectedClient
  | logoutAll request => AuthService.logoutAll request
  | revokeSession userId sessionId => AuthService.revokeSession userId sessionId
  | tick ms => statement (.tick ms)

/-- The call, which has committed `l`, may commit `F` in state `d`. -/
def Writes (config : AuthConfig) : AuthOp S → AuthDb S → List (AuthStmt S) → List (AuthStmt S) → Prop
  | forgotPassword _ _ resetId rawToken, _, _, F =>
    ∃ (reset : PasswordReset S) (ids : List Id) (usedAt : Nat), reset.id = resetId ∧
      reset.token = digest rawToken ∧ F = issueStatements reset ids usedAt
  | resetPassword token newPassword salt, d, _, F =>
    ∃ (s : AuthDb S) (reset : PasswordReset S) (at_ : Nat) (ids sessions : List Id), Grows s d ∧
      reset ∈ s.passwordResets.rows ∧ reset.token = digest token ∧ reset.usedAt = none ∧
      s.now ≤ at_ ∧ at_ ≤ d.now ∧
      F = resetStatements reset (Crypto.hash newPassword salt) at_ ids sessions
  | login _ _ new, _, l, F => LoginWrites config .user "USER_LOGIN" new l F
  | adminLogin _ _ authClient new, _, l, F => LoginWrites config authClient "ADMIN_LOGIN" new l F
  | refresh request expectedClient salt, _, _, F => RefreshWrites config request expectedClient salt F
  | logout .., _, _, F => ∃ id at_, F = [.revokeSession id at_ "User logout"]
  | logoutAll _, _, _, F =>
    (∃ ids w at_, F = [.revokeSessions ids w at_ "Logout all devices"]) ∨
      ∃ userId, F = [.createAuditLog userId "USER_LOGOUT_ALL"]
  | revokeSession .., _, _, F => ∃ id at_, F = [.revokeSession id at_ "Revoked by user"]
  | tick ms, _, _, F => F = [.tick ms]

/-- What a call that has returned has committed. -/
def Done (config : AuthConfig) : AuthOp S → List (AuthStmt S) → Prop
  | resetPassword token newPassword salt, l =>
    ∃ (reset : PasswordReset S) (at_ : Nat) (ids sessions : List Id), reset.token = digest token ∧
      l = resetStatements reset (Crypto.hash newPassword salt) at_ ids sessions
  | refresh request expectedClient salt, l => RefreshWrites config request expectedClient salt l
  | _, _ => True

end AuthOp

section Specs

variable {config : AuthConfig} {Ψ : AuthDb S → List (AuthStmt S) → List (AuthStmt S) → Prop}
  {Q : List (AuthStmt S) → Prop} {d : AuthDb S} {l : List (AuthStmt S)} {α β : Type}

omit [Crypto S] in
theorem calls_callService (c : AuthCall S) : Makes Calls (callService c) fun _ => True :=
  .request (fun _ => trivial) trivial

omit [Crypto S] in
theorem calls_checkRateLimit (key : CounterKey) (limit : Nat) :
    Makes Calls (checkRateLimit key limit : AuthAction S Bool) fun _ => True :=
  calls_callService _

omit [Crypto S] in
theorem calls_checkLoginAttempts (key : CounterKey) (maxAttempts : Nat) :
    Makes Calls (checkLoginAttempts key maxAttempts : AuthAction S Bool) fun _ => True :=
  calls_callService _

omit [Crypto S] in
theorem calls_getUserProfile (userId : Id) :
    Makes Calls (getUserProfile userId : AuthAction S Bool) fun _ => True :=
  calls_callService _

omit [Crypto S] in
theorem calls_cacheUserProfile (userId : Id) :
    Makes Calls (cacheUserProfile userId : AuthAction S Unit) fun _ => True :=
  calls_callService _

omit [Crypto S] in
theorem calls_invalidateUserCache (userId : Option Id) :
    Makes Calls (invalidateUserCache userId : AuthAction S Unit) fun _ => True :=
  calls_callService _

omit [Crypto S] in
theorem calls_invalidateByTag (tag : CacheTag) :
    Makes Calls (invalidateByTag tag : AuthAction S Unit) fun _ => True :=
  .attempt (calls_callService (AuthCall.invalidateByTag tag))

omit [Crypto S] in
theorem calls_incrementAndReject (key : CounterKey) (message : String) :
    Makes Calls (incrementAndReject key message : AuthAction S α) fun _ => True :=
  .bind (calls_callService _) fun _ _ => .throw _

omit [Crypto S] in
/-- A part that only calls Redis or the mail service. -/
theorem commits_calls {p : AuthAction S α} {f : α → AuthAction S β} (hp : Makes Calls p fun _ => True)
    (hf : ∀ d' a, Grows d d' → Commits Grows Ψ Q d' l (f a)) : Commits Grows Ψ Q d l (p.bind f) :=
  .makes_bind Grows.refl Grows.trans hp fun d' a hd _ => hf d' a hd

theorem commits_forgotPassword (email : List Char) (request : Request S) (resetId : Id) (rawToken : S) :
    Commits Grows ((AuthOp.forgotPassword email request resetId rawToken).Writes config) (fun _ => True)
      d [] (AuthService.forgotPassword email request resetId rawToken) := by
  unfold AuthService.forgotPassword
  simp only [bind_eq]
  refine commits_calls (calls_checkRateLimit _ _) fun d allowed _ => ?_
  refine .ensure_bind fun _ => ?_
  refine commits_calls (calls_callService _) fun d _ _ => ?_
  refine .outside_bind fun _ d _ _ => ?_
  refine .whenSome (fun user _ => ?_) fun _ => trivial
  refine .query_bind fun d _ => ?_
  refine .transaction_bind guarded_grows (G := fun _ F =>
    ∃ (reset : PasswordReset S) (ids : List Id) (usedAt : Nat), reset.id = resetId ∧
      reset.token = digest rawToken ∧ F = issueStatements reset ids usedAt)
    ?_ fun d' _ F _ hF _ => ⟨.inr hF, ?_⟩
  · refine .query_bind fun _ => ?_
    rw [updateManyResets, bind_eq, Prog.bind_assoc]
    refine .query_bind fun d => .exec_bind (.exec ?_)
    exact ⟨⟨resetId, user.id, digest rawToken, _, none⟩, d.unusedResets user.id, _, rfl, rfl, rfl⟩
  · exact commits_calls (calls_callService _) fun _ _ _ => .ret trivial

omit [Crypto S] in
theorem mem_of_findReset {tokenHash : S} {now : Nat} {found : PasswordReset S × User S}
    (h : findReset tokenHash now d = some found) :
    found.1 ∈ d.passwordResets.rows ∧ found.1.token = tokenHash ∧ found.1.usedAt = none := by
  unfold findReset at h
  simp only [Option.bind_eq_bind, Option.bind_eq_some_iff, Option.pure_def, Option.some.injEq] at h
  obtain ⟨r, hr, u, -, rfl⟩ := h
  have holds := List.find?_some hr
  simp only [decide_eq_true_eq] at holds
  exact ⟨List.mem_of_find?_eq_some hr, holds.1, holds.2.1⟩

theorem commits_resetPassword (token newPassword : S) (salt : Nat) :
    Commits Grows ((AuthOp.resetPassword token newPassword salt).Writes config)
      ((AuthOp.resetPassword token newPassword salt).Done config) d []
      (AuthService.resetPassword token newPassword salt) := by
  unfold AuthService.resetPassword
  simp only [bind_eq]
  refine .query_bind fun d _ => ?_
  refine .outside_bind fun s d _ read => ?_
  refine .orThrow_bind fun found hfound => ?_
  obtain ⟨reset, user⟩ := found
  obtain ⟨hread, -⟩ := Option.filter_eq_some_iff.1 hfound
  obtain ⟨mem, htoken, unused⟩ := mem_of_findReset hread
  refine .query_bind fun d' hd => ?_
  refine .transaction_bind guarded_grows (G := fun _ F => ∃ (ids sessions : List Id),
    F = resetStatements reset (Crypto.hash newPassword salt) d'.now ids sessions)
    ?_ fun d'' _ F hd' hF _ => ?_
  · refine .exec_bind (.exec_bind ?_)
    rw [updateManyResets, bind_eq, Prog.bind_assoc]
    refine .query_bind fun _ => .exec_bind ?_
    rw [updateManySessions, bind_eq, Prog.bind_assoc]
    exact .query_bind fun _ => .exec_bind (.exec ⟨_, _, rfl⟩)
  · obtain ⟨ids, sessions, rfl⟩ := hF
    refine ⟨.inr ⟨s, reset, d'.now, ids, sessions, (read.trans hd).trans hd', mem, htoken, unused,
      (read.trans hd).now, hd'.now, rfl⟩, ?_⟩
    refine commits_calls (calls_invalidateUserCache _) fun _ _ _ => ?_
    refine commits_calls (calls_callService _) fun _ _ _ => .ret ?_
    exact ⟨reset, d'.now, ids, sessions, htoken, rfl⟩

theorem commits_authenticate {key : CounterKey} {dto : LoginDto S} {f : User S → AuthAction S β}
    (hf : ∀ d' user, Grows d d' → Commits Grows Ψ Q d' l (f user)) :
    Commits Grows Ψ Q d l ((authenticate key dto).bind f) := by
  have rejected (message : String) (d' : AuthDb S) :
      Commits Grows Ψ Q d' l ((incrementAndReject key message : AuthAction S (User S)).bind f) := by
    rw [incrementAndReject, bind_eq, Prog.bind_assoc]
    exact commits_calls (calls_callService _) fun _ _ _ => .throw _
  rw [authenticate, bind_eq, Prog.bind_assoc]
  refine .outside_bind fun s d' hs hd => ?_
  split
  · exact rejected _ d'
  · split
    · exact hf d' _ (hs.trans hd)
    · exact rejected _ d'

theorem commits_createSessionWithToken {user : User S} {client : AuthClient} {lifetime : Nat}
    {action : String} {new : NewSession} {f : S → AuthAction S Unit}
    (hf : ∀ d' l' token, Commits Grows (fun _ => LoginWrites config client action new) (fun _ => True)
      d' l' (f token)) :
    Commits Grows (fun _ => LoginWrites config client action new) (fun _ => True) d []
      ((createSessionWithToken config user client lifetime action new).bind f) := by
  unfold createSessionWithToken
  simp only [bind_eq, Prog.bind_assoc, clock]
  refine .query_bind fun d₀ _ => ?_
  refine .statement_bind guarded_grows fun d₁ _ _ => ⟨.create _ rfl rfl rfl, ?_⟩
  refine .query_bind fun d₂ _ => ?_
  refine .statement_bind guarded_grows fun d₃ _ _ => ⟨.store _ user.email d₂.now _ rfl, ?_⟩
  refine .query_bind fun d₄ _ => ?_
  refine .statement_bind guarded_grows fun d₅ _ _ => ⟨.lastLogin _ _ _ _ _ _, ?_⟩
  exact .statement_bind guarded_grows fun d₆ _ _ => ⟨.audit _ _ (List.cons_ne_nil _ _), hf _ _ _⟩

theorem commits_login (dto : LoginDto S) (request : Request S) (new : NewSession) :
    Commits Grows ((AuthOp.login dto request new).Writes config) (fun _ => True) d []
      ((AuthOp.login dto request new).program config) := by
  unfold AuthOp.program AuthService.login
  simp only [bind_eq, Prog.bind_assoc, getCurrentUser]
  refine commits_calls (calls_checkLoginAttempts _ _) fun d _ _ => ?_
  refine .ensure_bind fun _ => commits_authenticate fun d user _ => ?_
  refine .ensure_bind fun _ => commits_calls (calls_callService _) fun d _ _ => ?_
  refine commits_createSessionWithToken fun d l token => ?_
  refine commits_calls (calls_invalidateUserCache _) fun d _ _ => ?_
  refine commits_calls (calls_getUserProfile _) fun d cached _ => ?_
  unfold Prog.when
  split
  · rw [Prog.bind_assoc]
    refine .outside_bind fun _ d _ _ => ?_
    rw [Prog.bind_assoc]
    exact .orThrow_bind fun _ _ => commits_calls (calls_cacheUserProfile _) fun _ _ _ => .ret trivial
  · exact .ret trivial

theorem commits_adminLogin (dto : LoginDto S) (request : Request S) (authClient : AuthClient)
    (new : NewSession) :
    Commits Grows ((AuthOp.adminLogin dto request authClient new).Writes config) (fun _ => True) d []
      ((AuthOp.adminLogin dto request authClient new).program config) := by
  unfold AuthOp.program AuthService.adminLogin
  simp only [bind_eq, Prog.bind_assoc]
  refine commits_calls (calls_checkLoginAttempts _ _) fun d _ _ => ?_
  refine .ensure_bind fun _ => commits_authenticate fun d user _ => ?_
  refine .outside_bind fun roles d _ _ => ?_
  split
  · rw [incrementAndReject, bind_eq, Prog.bind_assoc]
    exact commits_calls (calls_callService _) fun _ _ _ => .throw _
  · simp only [Prog.bind_assoc]
    refine commits_calls (calls_callService _) fun d _ _ => ?_
    refine commits_createSessionWithToken fun d l token => ?_
    exact commits_calls (calls_cacheUserProfile _) fun _ _ _ => .ret trivial

omit [DecidableEq S] [Crypto S] in
/-- A where clause that also names the session matches less. -/
theorem holds_of_named {w : SessionWhere} (hw : w.id = none) {id : Option Id} {s : Session S}
    (h : ({ w with id } : SessionWhere).holds s = true) : w.holds s = true := by
  simp only [SessionWhere.holds, Bool.and_eq_true, hw, Option.all_none] at h ⊢
  tauto

omit [DecidableEq S] [Crypto S] in
theorem of_withUser {s : Session S} {found : Session S × User S} (h : withUser d s = some found) :
    found.1 = s := by
  obtain ⟨u, -, rfl⟩ := Option.map_eq_some_iff.1 h
  rfl

omit [Crypto S] in
/-- The session that the token names is usable when it is read. -/
theorem commits_sessionOfToken {payload : Payload} {client : AuthClient}
    {f : Option (Session S × User S) → AuthAction S β}
    (hf : ∀ d' named, (∀ found, named = some found →
      ∃ now, (refreshable payload client now).holds found.1 = true) → Commits Grows Ψ Q d' l (f named)) :
    Commits Grows Ψ Q d l ((sessionOfToken payload client).bind f) := by
  unfold sessionOfToken
  split
  · simp only [bind_eq, Prog.bind_assoc, clock]
    refine .query_bind fun d₀ _ => ?_
    refine .outside_bind fun s d₁ _ _ => hf d₁ _ fun found hfound => ?_
    obtain ⟨session, hsession, huser⟩ := Option.bind_eq_some_iff.1 hfound
    exact ⟨d₀.now, of_withUser huser ▸ holds_of_named rfl (List.find?_some hsession)⟩
  · exact hf d none fun _ h => nomatch h

/-- So is the one that is found by the hash or by its last use. -/
theorem commits_sessionByHash {payload : Payload} {client : AuthClient} {token : S}
    {f : Option (Session S × User S) → AuthAction S β}
    (hf : ∀ d' chosen, (∀ found, chosen = some found →
      ∃ now, (refreshable payload client now).holds found.1 = true) → Commits Grows Ψ Q d' l (f chosen)) :
    Commits Grows Ψ Q d l ((sessionByHash payload client token).bind f) := by
  unfold sessionByHash
  simp only [bind_eq, Prog.bind_assoc, clock]
  refine .query_bind fun d₀ _ => ?_
  refine .outside_bind fun s d₁ _ _ => hf d₁ _ fun found hfound => ⟨d₀.now, ?_⟩
  have mem : found ∈ (byLastUse (s.findSessions (refreshable payload client d₀.now))).filterMap
      (withUser s) := by
    rcases Option.or_eq_some_iff.1 hfound with h | ⟨-, h⟩
    · exact List.mem_of_find?_eq_some h
    · exact List.mem_of_head? h
  obtain ⟨session, hmem, huser⟩ := List.mem_filterMap.1 mem
  rw [of_withUser huser]
  exact (List.mem_filter.1 ((List.perm_insertionSort _ _).mem_iff.1 hmem)).2

/-- The session named in the token comes first. -/
theorem commits_session {payload : Payload} {client : AuthClient} {token : S}
    {f : Option (Session S × User S) → AuthAction S β}
    (hf : ∀ d' chosen, (∀ found, chosen = some found →
      ∃ now, (refreshable payload client now).holds found.1 = true) → Commits Grows Ψ Q d' l (f chosen)) :
    Commits Grows Ψ Q d l ((sessionOfToken payload client).bind fun named =>
      (orElse (named.map some) (sessionByHash payload client token)).bind f) := by
  refine commits_sessionOfToken fun d' named hnamed => ?_
  cases named with
  | some found => exact hf d' (some found) hnamed
  | none => exact commits_sessionByHash hf

theorem commits_refresh (request : Request S) (expectedClient : Option AuthClient) (salt : Nat) :
    Commits Grows ((AuthOp.refresh request expectedClient salt).Writes config)
      ((AuthOp.refresh request expectedClient salt).Done config) d []
      ((AuthOp.refresh request expectedClient salt).program config) := by
  unfold AuthOp.program AuthService.refresh
  simp only [bind_eq, Prog.bind_assoc, clock]
  refine .orThrow_bind fun presented cookie => ?_
  refine .query_bind fun d₀ _ => ?_
  refine .orThrow_bind fun payload hpayload => ?_
  obtain ⟨verified, unexpired⟩ := Option.filter_eq_some_iff.1 hpayload
  refine .ensure_bind fun client => ?_
  refine commits_session fun d found hfound => ?_
  refine .orThrow_bind fun p hp => ?_
  obtain ⟨checkedAt, usable⟩ := hfound p hp
  refine .ensure_bind fun matched => ?_
  refine .query_bind fun d₁ _ => .query_bind fun d₂ _ => ?_
  have rotates : RefreshWrites config request expectedClient salt
      [.rotateRefreshToken p.1 presented _ _ d₂.now] :=
    .rotate p.1 presented _ payload p.2.email d₀.now checkedAt d₁.now d₂.now cookie verified
      (by simpa using unexpired) (fun a ha => by simpa [ha] using client) usable matched rfl
  exact .statement_bind guarded_grows fun d₃ _ _ => ⟨rotates, .ret rotates⟩

omit [Crypto S] in
theorem commits_revocable {payload : Payload} {expectedClient : Option AuthClient}
    {f : Option (Session S) → AuthAction S β}
    (hf : ∀ d' session, Commits Grows Ψ Q d' l (f session)) :
    Commits Grows Ψ Q d l ((sessionNamed payload expectedClient).bind fun named =>
      (orElse (named.map some) (sessionUsedLast payload expectedClient)).bind f) := by
  have last (d : AuthDb S) : Commits Grows Ψ Q d l
      ((sessionUsedLast payload expectedClient).bind f) := .outside_bind fun _ d' _ _ => hf d' _
  unfold sessionNamed
  split
  · refine .outside_bind fun s d' _ _ => ?_
    cases s.findSession _ with
    | some session => exact hf d' (some session)
    | none => exact last d'
  · exact last d

theorem commits_logout (request : Request S) (expectedClient : Option AuthClient) :
    Commits Grows ((AuthOp.logout request expectedClient).Writes config) (fun _ => True) d []
      (AuthService.logout config request expectedClient) := by
  unfold AuthService.logout
  simp only [bind_eq, clock]
  refine .ensure_bind fun _ => .whenSome (fun token _ => ?_) fun _ => trivial
  refine .query_bind fun d _ => .whenSome (fun payload _ => ?_) fun _ => trivial
  refine commits_revocable fun d session => ?_
  refine .whenSome (fun session _ => .query_bind fun d _ => ?_) fun _ => trivial
  refine .statement_bind guarded_grows fun d _ _ => ⟨⟨_, _, rfl⟩, ?_⟩
  rw [← Prog.bind_ret (invalidateUserCache _)]
  exact commits_calls (calls_invalidateUserCache _) fun _ _ _ => .ret trivial

theorem commits_logoutAll (request : Request S) :
    Commits Grows ((AuthOp.logoutAll request).Writes config) (fun _ => True) d []
      (AuthService.logoutAll request) := by
  unfold AuthService.logoutAll
  simp only [bind_eq, clock]
  refine .whenSome (fun token _ => .query_bind fun d _ => ?_) fun _ => trivial
  refine .whenSome (fun payload _ => .query_bind fun d _ => ?_) fun _ => trivial
  refine .transaction_bind guarded_grows (G := fun _ F =>
    ∃ ids w at_, F = [AuthStmt.revokeSessions ids w at_ "Logout all devices"])
    ?_ fun d' _ F _ hF _ => ⟨.inr (.inl hF), ?_⟩
  · exact .query_bind fun _ => .exec ⟨_, _, _, rfl⟩
  · refine .statement_bind guarded_grows fun d _ _ => ⟨.inr ⟨_, rfl⟩, ?_⟩
    refine commits_calls (calls_invalidateUserCache _) fun d _ _ => ?_
    refine commits_calls (calls_invalidateByTag _) fun d _ _ => ?_
    rw [← Prog.bind_ret (invalidateByTag _)]
    exact commits_calls (calls_invalidateByTag _) fun _ _ _ => .ret trivial

theorem commits_revokeSession (userId sessionId : Id) :
    Commits Grows ((AuthOp.revokeSession userId sessionId).Writes (S := S) config) (fun _ => True) d []
      (AuthService.revokeSession userId sessionId) := by
  unfold AuthService.revokeSession
  simp only [bind_eq, clock]
  refine .outside_bind fun _ d _ _ => .orThrow_bind fun session _ => .query_bind fun d _ => ?_
  refine .statement_bind guarded_grows fun d _ _ => ⟨⟨_, _, rfl⟩, ?_⟩
  refine commits_calls (calls_callService _) fun d _ _ => ?_
  rw [← Prog.bind_ret (invalidateByTag _)]
  exact commits_calls (calls_invalidateByTag _) fun _ _ _ => .ret trivial

/-- A call commits only what `AuthOp.Writes` says, and has committed what
`AuthOp.Done` says when it returns. -/
theorem AuthOp.commits (op : AuthOp S) :
    Commits Grows (op.Writes config) (op.Done config) d [] (op.program config) := by
  cases op with
  | forgotPassword email request resetId rawToken =>
    exact commits_forgotPassword email request resetId rawToken
  | resetPassword token newPassword salt => exact commits_resetPassword token newPassword salt
  | login dto request new => exact commits_login dto request new
  | adminLogin dto request authClient new => exact commits_adminLogin dto request authClient new
  | refresh request expectedClient salt => exact commits_refresh request expectedClient salt
  | logout request expectedClient => exact commits_logout request expectedClient
  | logoutAll request => exact commits_logoutAll request
  | revokeSession userId sessionId => exact commits_revokeSession userId sessionId
  | tick ms =>
    rw [AuthOp.program, ← Prog.bind_ret (statement _)]
    exact .statement_bind guarded_grows fun _ _ _ => ⟨rfl, .ret trivial⟩

end Specs

/-! ## Runs -/

/-- The configurations of the authentication calls. -/
abbrev AuthSystem (S : Type) :=
  Config (AuthDb S) (Redis S) (AuthStmt S) (AuthCall S) AuthCall.Reply AuthError

/-- The committed transactions of a run. -/
abbrev AuthLog (S : Type) := List (Commit (AuthDb S) (AuthStmt S))

/-- The calls at their start. -/
def begins (config : AuthConfig) (db : AuthDb S) (ext : Redis S) (ops : List (AuthOp S)) : AuthSystem S :=
  Config.start db ext (ops.map (AuthOp.program config))

/-- **The run rule**: what every commit keeps holds in every state a run reaches. -/
theorem induct_of_run {P : AuthSystem S → Effect (AuthStmt S) (AuthCall S) → Prop} {config : AuthConfig}
    {db : AuthDb S} {ext : Redis S} {ops : List (AuthOp S)} {c : AuthSystem S}
    (run : Reaches P (begins config db ext ops) c) (J : AuthDb S → AuthLog S → Prop) (init : J db [])
    (step : ∀ {c : AuthSystem S} {i : Nat} {op : AuthOp S} {F : List (AuthStmt S)}, ops[i]? = some op →
      op.Writes config c.db (writtenBy c.log i) F → violation F c.db = none →
      P c (.commit i false F) → J c.db c.log → J (applyAll F c.db) (c.log ++ [⟨i, F, c.db⟩]))
    (silent : ∀ {d : AuthDb S} {log : AuthLog S} (i : Nat), J d log → J d (log ++ [⟨i, [], d⟩])) :
    J c.db c.log ∧
      ∀ i op, ops[i]? = some op → c.Returned i → op.Done config (writtenBy c.log i) := by
  have commits (i : Nat) (p : AuthAction S Unit) (hp : (ops.map (AuthOp.program config))[i]? = some p) :
      Commits Grows (fun d l F => ∃ op, ops[i]? = some op ∧ op.Writes config d l F)
        (fun l => ∀ op, ops[i]? = some op → op.Done config l) db [] p := by
    rw [List.getElem?_map, Option.map_eq_some_iff] at hp
    obtain ⟨op, hop, rfl⟩ := hp
    refine op.commits.mono (fun s => ⟨s, .refl s⟩) (fun _ _ _ hF => ⟨op, hop, hF⟩) fun l hl op' hop' => ?_
    rw [hop] at hop'
    exact Option.some.inj hop' ▸ hl
  obtain ⟨hJ, done⟩ := run.induct_of_commits Grows.refl Grows.trans commits J init
    (fun {c i F} ⟨op, hop, writes⟩ valid hP hJ =>
      ⟨grows_applyAll F c.db, step hop writes valid hP hJ⟩) silent
  exact ⟨hJ, fun i op hop returned => done i returned op hop⟩

/-- The threads take turns: each pair is a thread and how many operations it completes. -/
def authTurns (ts : List (Nat × Nat)) : List (Action Expiry AuthError) :=
  ts.flatMap fun t => List.replicate t.2 (.thread t.1 .ok)

/-- One user, with the password `plain 1`. -/
def oneUser : AuthDb Text where
  users := Table.empty.insert
    { id := .ofNat 1, email := "a@b".toList, username := [], passwordHash := .hashed (.plain 1) 0 }
  now := 1000

end Heightt.Auth
