import Heightt.ReadCommitted.Alone
import Heightt.Auth.Service

/-!
# Whose sessions a logout revokes

`logout` and `logoutAll` take the user from the payload of the refresh token. The
payload of a token that has expired or does not verify is not null and has no
user, and a where clause without a user matches the sessions of everybody.
-/

namespace Heightt.Auth

open ReadCommitted Store Prog Database AuthService CookieService TokenService

variable {S : Type}

/-- Every session that changed belongs to the owner. -/
def Confined (owner : Option Id) (d d' : AuthDb S) : Prop :=
  ∀ id, d'.sessions.find id ≠ d.sessions.find id →
    ∃ s, d.sessions.find id = some s ∧ owner = some s.userId

theorem mem_byLastUse {l : List (Session S)} {s : Session S} : s ∈ byLastUse l ↔ s ∈ l :=
  (List.perm_insertionSort _ l).mem_iff

theorem Confined.refl (owner : Option Id) (d : AuthDb S) : Confined owner d d :=
  fun _ h => absurd rfl h

/-- What the service takes the session to revoke from. -/
def chosen (payload : Payload) (expectedClient : Option AuthClient) (d : AuthDb S) : Option (Session S) :=
  (payload.sessionId.bind fun id =>
    d.findSession { revocable payload expectedClient with id := some id }).or
  (byLastUse (d.findSessions (revocable payload expectedClient))).head?

theorem holds_of_chosen {payload : Payload} {expectedClient : Option AuthClient} {d : AuthDb S}
    {s : Session S} (h : chosen payload expectedClient d = some s) :
    s ∈ d.sessions.rows ∧ (revocable payload expectedClient).holds s = true := by
  rcases Option.or_eq_some_iff.1 h with h | ⟨-, h⟩
  · obtain ⟨id, -, h⟩ := Option.bind_eq_some_iff.1 h
    refine ⟨List.mem_of_find?_eq_some h, ?_⟩
    have := List.find?_some h
    simp only [SessionWhere.holds, revocable, Bool.and_eq_true] at this ⊢
    simp_all
  · have := mem_byLastUse.1 (List.mem_of_mem_head? h)
    exact List.mem_filter.1 this

theorem chosen_eq_none {payload : Payload} {expectedClient : Option AuthClient} {d : AuthDb S} :
    chosen payload expectedClient d = none ↔
      ∀ s ∈ d.sessions.rows, (revocable payload expectedClient).holds s = false := by
  constructor
  · intro h s hs
    have hnil := List.head?_eq_none_iff.1 (Option.or_eq_none_iff.1 h).2
    by_contra hh
    have : s ∈ byLastUse (d.findSessions (revocable payload expectedClient)) :=
      mem_byLastUse.2 (List.mem_filter.2 ⟨hs, by simpa using hh⟩)
    rw [hnil] at this
    cases this
  · intro h
    cases hc : chosen payload expectedClient d with
    | none => rfl
    | some s =>
      obtain ⟨hs, hh⟩ := holds_of_chosen hc
      rw [h s hs] at hh
      cases hh

/-- Revoking one session is confined to its user. -/
theorem confined_revokeSession {d : AuthDb S} {s : Session S} (hs : s ∈ d.sessions.rows)
    (active : s.isActive = true) {owner : Option Id} {at_ : Nat} {reason : String} :
    Confined owner d (AuthStmt.apply (.revokeSession s.id at_ reason) d) ↔ owner = some s.userId := by
  have found : d.sessions.find s.id = some s := Table.find_of_mem hs
  constructor
  · intro h
    have changed : (d.sessions.modify s.id (Session.revoke at_ reason)
        (Session.id_revoke at_ reason)).find s.id ≠ d.sessions.find s.id := by
      rw [Table.find_modify_self, found, Option.map_some, ne_eq, Option.some.injEq]
      intro e
      have := congrArg Session.isActive e
      simp [Session.revoke, active] at this
    obtain ⟨t, ht, howner⟩ := h s.id changed
    rw [found] at ht
    exact Option.some.inj ht ▸ howner
  · intro howner id hid
    by_cases he : id = s.id
    · exact he ▸ ⟨s, found, howner⟩
    · exact absurd (Table.find_modify_ne he _ (Session.id_revoke at_ reason)) hid

/-- Revoking the sessions that match is confined to the owner exactly when they are all the owner's. -/
theorem confined_revokeSessions {d : AuthDb S} {w : SessionWhere} {owner : Option Id} {at_ : Nat}
    {reason : String} :
    Confined owner d (AuthStmt.apply (.revokeSessions (d.sessionIds w) w at_ reason) d) ↔
      ∀ s ∈ d.sessions.rows, w.holds s = true → owner = some s.userId := by
  have find_apply (id : Id) :
      (AuthStmt.apply (.revokeSessions (d.sessionIds w) w at_ reason) d).sessions.find id =
        (d.sessions.find id).map fun s =>
          if s.id ∈ d.sessionIds w ∧ w.holds s then s.revoke at_ reason else s :=
    Table.find_mapRows _ _ (fun s => by split <;> simp) _
  constructor
  · intro h s hs holds
    have found : d.sessions.find s.id = some s := Table.find_of_mem hs
    have mem : s.id ∈ d.sessionIds w := List.mem_map_of_mem (List.mem_filter.2 ⟨hs, holds⟩)
    obtain ⟨t, ht, howner⟩ := h s.id (by
      rw [find_apply, found, Option.map_some, if_pos ⟨mem, holds⟩, ne_eq, Option.some.injEq]
      intro e
      have := congrArg Session.isActive e
      simp only [SessionWhere.holds, Bool.and_eq_true] at holds
      simp [Session.revoke, holds] at this)
    rw [found] at ht
    exact Option.some.inj ht ▸ howner
  · intro h id hid
    rw [find_apply] at hid
    cases found : d.sessions.find id with
    | none => simp [found] at hid
    | some s =>
      refine ⟨s, rfl, h s (Table.find_mem found) ?_⟩
      rw [found, Option.map_some, ne_eq, Option.some.injEq] at hid
      by_contra hh
      exact hid (if_neg fun hc => hh hc.2)

/-- A matching session belongs to the user of the where clause, if it names one. -/
theorem owner_of_holds {w : SessionWhere} {u : Id} (hw : w.userId = some u) {s : Session S}
    (h : w.holds s = true) : s.userId = u := by
  simp only [SessionWhere.holds, Bool.and_eq_true, hw, Option.all_some, decide_eq_true_eq] at h
  exact h.1.1.1.2

/-- Without a user and an id, the where clause matches every active session of the client. -/
theorem holds_of_unfiltered {w : SessionWhere} (hid : w.id = none) (hu : w.userId = none)
    (hr : w.unrevoked = true) (he : w.expiresAfter = none) {s : Session S} :
    w.holds s = true ↔ s.isActive = true ∧ s.revokedAt = none ∧
      ∀ c, w.authClient = some c → s.authClient = c := by
  cases hc : w.authClient <;> simp [SessionWhere.holds, hid, hu, hr, he, hc]
  tauto

variable [Crypto S]

/-- The user a token names, if its signature and expiry verify. -/
def tokenOwner (now : Nat) (cookie : Option S) : Option Id := do
  let token ← cookie
  match verifyAsync now token with
  | .ok c => some c.sub
  | .error _ => none

/-- The token fails verification in a way that `verifyRefreshToken` reports with an
object instead of null. -/
def Marked (now : Nat) (token : S) : Prop := ∃ p, verifyRefreshToken now token = some p ∧ p.sub = none

/-- No user is taken from a token that is only marked. -/
theorem tokenOwner_of_sub {now : Nat} {token : S} {p : Payload}
    (h : verifyRefreshToken now token = some p) : tokenOwner now (some token) = p.sub := by
  rcases verifyRefreshToken_cases h with ⟨c, hc, rfl⟩ | ⟨e, he, hsub, -⟩
  · simp [tokenOwner, hc, Claims.payload]
  · simp [tokenOwner, he, hsub]

theorem marked_iff {now : Nat} {token : S} {p : Payload} (h : verifyRefreshToken now token = some p) :
    Marked now token ↔ p.sub = none := by
  simp [Marked, h]

/-- The client check lets the call pass. -/
def ClientAllowed (request : Request S) (expectedClient : Option AuthClient) : Prop :=
  expectedClient = none ∨ request.userClient = none ∨ request.userClient = expectedClient

instance (request : Request S) (expectedClient : Option AuthClient) :
    Decidable (ClientAllowed request expectedClient) := inferInstanceAs (Decidable (_ ∨ _))

variable [DecidableEq S]

/-- What `logout` does alone. -/
theorem alone_logout (config : AuthConfig) (request : Request S) (expectedClient : Option AuthClient)
    (d : AuthDb S) (x : Redis S) :
    ∃ r x', (logout config request expectedClient).alone [] d x = some ⟨r, [],
      match (if ClientAllowed request expectedClient then refreshCookie config request expectedClient
        else none).bind fun token => (verifyRefreshToken d.now token).bind fun p =>
          chosen p expectedClient d with
      | some s => AuthStmt.apply (.revokeSession s.id d.now "User logout") d
      | none => d, x'⟩ := by
  unfold logout
  simp only [bind_eq, alone_ensure]
  split
  · rename_i allowed
    rw [if_pos (show ClientAllowed request expectedClient from allowed)]
    cases refreshCookie config request expectedClient with
    | none => exact ⟨_, _, rfl⟩
    | some token =>
      simp only [whenSome, Option.bind_some, clock, alone_query]
      cases verifyRefreshToken d.now token with
      | none => exact ⟨_, _, rfl⟩
      | some p =>
        have session (g : Option (Session S) → AuthAction S Unit) :
            ((sessionNamed p expectedClient).bind fun named =>
              (orElse (named.map some) (sessionUsedLast p expectedClient)).bind g).alone [] d x =
            (g (chosen p expectedClient d)).alone [] d x := by
          have last : ((sessionUsedLast p expectedClient).bind g).alone [] d x =
              (g (byLastUse (d.findSessions (revocable p expectedClient))).head?).alone [] d x :=
            alone_outside _ _
          unfold sessionNamed chosen
          cases p.sessionId with
          | none => exact last
          | some id =>
            simp only [alone_outside, Option.bind_some]
            cases d.findSession { revocable p expectedClient with id := some id } with
            | none => exact last
            | some s => rfl
        rw [session]
        simp only [Option.bind_some]
        cases hs : chosen p expectedClient d with
        | none => exact ⟨_, _, rfl⟩
        | some s =>
          have found : d.sessions.find s.id = some s := Table.find_of_mem (holds_of_chosen hs).1
          have ok : check (AuthStmt.revokeSession s.id d.now "User logout" : AuthStmt S) d = none := by
            simp [check, AuthStmt.check, found]
          simp only [alone_query, alone_statement, ok]
          exact ⟨.ok (), _, rfl⟩
  · rename_i refused
    rw [if_neg (show ¬ClientAllowed request expectedClient from refused)]
    exact ⟨_, _, rfl⟩

/-- What `logoutAll` does alone. -/
theorem alone_logoutAll (request : Request S) (d : AuthDb S) (x : Redis S) :
    ∃ r x', (logoutAll request).alone [] d x = some ⟨r, [],
      match (getRefreshTokenFromCookie request).bind fun token => verifyRefreshToken d.now token with
      | some p =>
        let w : SessionWhere := { userId := p.sub }
        AuthStmt.apply (.revokeSessions (d.sessionIds w) w d.now "Logout all devices") d
      | none => d, x'⟩ := by
  unfold logoutAll
  cases getRefreshTokenFromCookie request with
  | none => exact ⟨_, _, rfl⟩
  | some token =>
    simp only [whenSome, Option.bind_some, clock, bind_eq, alone_query]
    cases verifyRefreshToken d.now token with
    | none => exact ⟨_, _, rfl⟩
    | some p =>
      let w : SessionWhere := { userId := p.sub }
      let F : List (AuthStmt S) := [.revokeSessions (d.sessionIds w) w d.now "Logout all devices"]
      have body : (updateManySessions w d.now "Logout all devices").alone [{}] d x =
          some ⟨.ok (), [⟨F, true⟩], d, x⟩ := by
        simp [updateManySessions, query, exec, Prog.bind, alone, check, AuthStmt.check, F]
      have valid : violation F d = none := rfl
      simp only [alone_query, alone_transaction body valid, alone_statement]
      exact ⟨.ok (), _, rfl⟩

/-- **Whose sessions are revoked.** What a logout changes is confined to the user
of a verified token exactly when the token was not merely marked as expired or
invalid, or no active session was there to be matched. -/
theorem confined_iff_not_marked :
    (∀ (config : AuthConfig) (request : Request S) (expectedClient : Option AuthClient)
        (d : AuthDb S) (x : Redis S), ∃ o, (logout config request expectedClient).alone [] d x = some o ∧
      (Confined (tokenOwner d.now (refreshCookie config request expectedClient)) d o.db ↔
        ¬(ClientAllowed request expectedClient ∧
          ∃ token, refreshCookie config request expectedClient = some token ∧ Marked d.now token ∧
            ∃ s ∈ d.sessions.rows, s.isActive = true ∧ s.revokedAt = none ∧
              ∀ c, expectedClient = some c → s.authClient = c))) ∧
    ∀ (request : Request S) (d : AuthDb S) (x : Redis S), ∃ o, (logoutAll request).alone [] d x = some o ∧
      (Confined (tokenOwner d.now (getRefreshTokenFromCookie request)) d o.db ↔
        ¬∃ token, getRefreshTokenFromCookie request = some token ∧ Marked d.now token ∧
          ∃ s ∈ d.sessions.rows, s.isActive = true ∧ s.revokedAt = none) := by
  constructor
  · intro config request expectedClient d x
    obtain ⟨r, x', h⟩ := alone_logout config request expectedClient d x
    refine ⟨_, h, ?_⟩
    by_cases allowed : ClientAllowed request expectedClient
    · rw [if_pos allowed]
      cases refreshCookie config request expectedClient with
      | none => simpa using Confined.refl _ d
      | some token =>
        simp only [Option.bind_some, allowed, true_and, Option.some.injEq, exists_eq_left']
        cases hp : verifyRefreshToken d.now token with
        | none => simpa [Marked, hp] using Confined.refl _ d
        | some p =>
          rw [tokenOwner_of_sub hp, marked_iff hp]
          have matches_iff (hsub : p.sub = none) (s : Session S) :=
            holds_of_unfiltered (w := revocable p expectedClient) (s := s) rfl hsub rfl rfl
          simp only [Option.bind_some]
          cases hs : chosen p expectedClient d with
          | none =>
            simp only [Confined.refl, true_iff, not_and, not_exists]
            intro hsub s hmem hactive hrevoked hclient
            have := chosen_eq_none.1 hs s hmem
            rw [(matches_iff hsub s).2 ⟨hactive, hrevoked, hclient⟩] at this
            cases this
          | some s =>
            obtain ⟨hmem, holds⟩ := holds_of_chosen hs
            have active : s.isActive = true := by
              simp only [SessionWhere.holds, Bool.and_eq_true] at holds
              exact holds.1.1.1.1.1
            simp only [confined_revokeSession hmem active]
            cases hsub : p.sub with
            | none => simpa using ⟨s, hmem, (matches_iff hsub s).1 holds⟩
            | some u => simp [owner_of_holds hsub holds]
    · rw [if_neg allowed]
      simpa [allowed] using Confined.refl _ d
  · intro request d x
    obtain ⟨r, x', h⟩ := alone_logoutAll request d x
    refine ⟨_, h, ?_⟩
    cases getRefreshTokenFromCookie request with
    | none => simpa using Confined.refl _ d
    | some token =>
      simp only [Option.bind_some, Option.some.injEq, exists_eq_left']
      cases hp : verifyRefreshToken d.now token with
      | none => simpa [Marked, hp] using Confined.refl _ d
      | some p =>
        simp only [confined_revokeSessions, tokenOwner_of_sub hp, marked_iff hp]
        cases hsub : p.sub with
        | none =>
          have matches_iff (s : Session S) :=
            holds_of_unfiltered (w := { userId := none }) (s := s) rfl rfl rfl rfl
          simp [matches_iff]
        | some u =>
          simp only [reduceCtorEq, false_and, not_false_eq_true, iff_true, Option.some.injEq]
          intro s hs holds
          exact (owner_of_holds (w := { userId := some u }) rfl holds).symm

/-- One user's active session, when nobody is logged in with a valid token. -/
def oneSession : AuthDb Text where
  users := Table.empty.insert { id := .ofNat 1, email := [], username := [], passwordHash := .plain 1 }
  sessions := Table.empty.insert
    { id := .ofNat 2, userId := .ofNat 1, refreshTokenHash := .hashed (.plain 2) 0,
      expiresAt := 2000, lastUsedAt := 500 }
  now := 1000

/-- A request whose refresh cookie is no token at all. -/
def tamperedCookie : Request Text := { cookies := [("refreshToken", .plain 7)] }

/-- A cookie that is no token makes both logouts revoke another user's session. -/
theorem tampered_cookie_revokes :
    (∃ o, (logout {} tamperedCookie none).alone [] oneSession ({} : Redis Text) = some o ∧
      ¬Confined (tokenOwner oneSession.now (refreshCookie {} tamperedCookie none)) oneSession o.db) ∧
    ∃ o, (logoutAll tamperedCookie).alone [] oneSession ({} : Redis Text) = some o ∧
      ¬Confined (tokenOwner oneSession.now (getRefreshTokenFromCookie tamperedCookie)) oneSession o.db := by
  have nobody : tokenOwner oneSession.now (getRefreshTokenFromCookie tamperedCookie) = none := by
    decide +kernel
  have revokes (p : AuthAction Text Unit) (h : (p.alone [] oneSession ({} : Redis Text)).any (fun o =>
      o.db.sessions.find (.ofNat 2) ≠ oneSession.sessions.find (.ofNat 2)) = true) :
      ∃ o, p.alone [] oneSession ({} : Redis Text) = some o ∧ ¬Confined none oneSession o.db := by
    obtain ⟨o, ho, changed⟩ := (Option.any_eq_true _ _).1 h
    refine ⟨o, ho, fun confined => ?_⟩
    obtain ⟨s, -, owner⟩ := confined _ (of_decide_eq_true changed)
    cases owner
  exact ⟨nobody ▸ revokes _ (by decide +kernel), nobody ▸ revokes _ (by decide +kernel)⟩

end Heightt.Auth
