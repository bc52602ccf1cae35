import Heightt.Schema.Cuid

/-!
# Refresh tokens

`token.service.ts` over the JWT and argon2 packages. `Crypto` is what the
service relies on from the packages: a token is what signing its claims gives, it
verifies until it expires and no other text does, a hash verifies the text it was
made from and no other, and the placeholder of a new session verifies nothing.
-/

namespace Heightt.Auth

inductive AuthClient where
  | user | organizationAdmin | platformAdmin
  deriving DecidableEq, Repr

/-- The payload of a refresh token; `iat` and `exp` are in seconds. -/
structure Claims where
  sub : Id
  email : List Char
  sessionId : Option Id
  authClient : Option AuthClient
  iat : Nat
  exp : Nat
  deriving DecidableEq

/-- The errors of `jwtService.verifyAsync`. -/
inductive JwtError where
  | tokenExpired | jsonWebToken | other
  deriving DecidableEq, Repr

/-- The packages on the texts `S`. `now` is in milliseconds, and a hash takes a salt. -/
class Crypto (S : Type) where
  signAsync : Claims → S
  verifyAsync : (now : Nat) → S → Except JwtError Claims
  hash : S → (salt : Nat) → S
  verify : (hash : S) → S → Bool
  /-- The text 'pending'. -/
  pending : S
  /-- SHA-256. -/
  digest : S → S
  verifyAsync_signAsync : ∀ now c,
    verifyAsync now (signAsync c) = if now / 1000 < c.exp then .ok c else .error .tokenExpired
  eq_signAsync : ∀ {now t c}, verifyAsync now t = .ok c → t = signAsync c
  signAsync_injective : Function.Injective signAsync
  verify_hash : ∀ {t t' salt}, verify (hash t salt) t' = true ↔ t' = t
  verify_pending : ∀ t, verify pending t = false

export Crypto (signAsync verifyAsync verify pending digest)

section Crypto

variable {S : Type} [Crypto S]

theorem verify_hash_self (t : S) (salt : Nat) : verify (Crypto.hash t salt) t = true :=
  Crypto.verify_hash.2 rfl

/-- Hashes of different texts differ. -/
theorem hash_eq_hash {t t' : S} {salt salt' : Nat} (h : Crypto.hash t salt = Crypto.hash t' salt') :
    t = t' :=
  Crypto.verify_hash.1 (h ▸ verify_hash_self t salt)

theorem hash_ne_pending (t : S) (salt : Nat) : Crypto.hash t salt ≠ pending := by
  intro h
  have := verify_hash_self t salt
  rw [h, Crypto.verify_pending] at this
  cases this

end Crypto

/-- What `verifyRefreshToken` returns when it does not return null: the claims, or
an object with only a marker. -/
structure Payload where
  sub : Option Id := none
  sessionId : Option Id := none
  authClient : Option AuthClient := none
  expired : Bool := false
  invalid : Bool := false
  deriving DecidableEq

def Claims.payload (c : Claims) : Payload :=
  { sub := some c.sub, sessionId := c.sessionId, authClient := c.authClient }

namespace TokenService

variable {S : Type} [Crypto S]

/-- The claims `generateRefreshToken` signs at `now`. -/
def refreshClaims (now refreshExpiry : Nat) (userId : Id) (email : List Char) (sessionId : Id)
    (authClient : AuthClient) : Claims where
  sub := userId
  email := email
  sessionId := some sessionId
  authClient := some authClient
  iat := now / 1000
  exp := now / 1000 + refreshExpiry

def verifyRefreshToken (now : Nat) (token : S) : Option Payload :=
  match verifyAsync now token with
  | .ok c => some c.payload
  | .error .tokenExpired => some { expired := true }
  | .error .jsonWebToken => some { invalid := true }
  | .error .other => none

/-- Either the token carries claims and has not expired, or no field of the payload is set. -/
theorem verifyRefreshToken_cases {now : Nat} {token : S} {p : Payload}
    (h : verifyRefreshToken now token = some p) :
    (∃ c, verifyAsync now token = .ok c ∧ p = c.payload) ∨
      (∃ e, verifyAsync now token = .error e ∧ p.sub = none ∧ p.sessionId = none ∧
        p.authClient = none) := by
  unfold verifyRefreshToken at h
  split at h
  · rename_i c hc
    obtain rfl := Option.some.inj h
    exact .inl ⟨c, hc, rfl⟩
  · rename_i hc
    obtain rfl := Option.some.inj h
    exact .inr ⟨_, hc, rfl, rfl, rfl⟩
  · rename_i hc
    obtain rfl := Option.some.inj h
    exact .inr ⟨_, hc, rfl, rfl, rfl⟩
  · cases h

end TokenService

/-- Texts for examples: tokens, hashes and other texts are kept apart by how they were made. -/
inductive Text where
  | signed (c : Claims)
  | hashed (t : Text) (salt : Nat)
  | digested (t : Text)
  | plain (n : Nat)
  deriving DecidableEq

instance : Crypto Text where
  signAsync := .signed
  verifyAsync
    | now, .signed c => if now / 1000 < c.exp then .ok c else .error .tokenExpired
    | _, _ => .error .jsonWebToken
  hash := .hashed
  verify
    | .hashed t _, t' => t' = t
    | _, _ => false
  pending := .plain 0
  digest := .digested
  verifyAsync_signAsync _ _ := rfl
  eq_signAsync {now t c} h := by
    cases t with
    | signed c' =>
      simp only at h
      split at h
      · cases h; rfl
      · cases h
    | _ => cases h
  signAsync_injective _ _ h := Text.signed.inj h
  verify_hash := by simp
  verify_pending _ := rfl

end Heightt.Auth
