import Heightt.Auth.Service

/-!
# Rate limits

`redis/rate-limit.service.ts` and the four operations of `auth.service.ts` that ask it: an operation
checks the counter of its key and has to count itself. What the operations do to the database is in
`Auth.Service` and `Users.Service`; here they are followed as far as the counters go.
-/

namespace Heightt.RateLimits

open Auth (User Crypto toLowerCase trim)

structure Counter where
  count : Nat
  /-- In milliseconds; `none` is a counter that stays. -/
  expiresAt : Option Nat := none

/-- The counters that Redis holds. Only `INCR` writes them, so that `get` reads a number. -/
abbrev Counters := List Char → Option Counter

def Counters.live (redis : Counters) (now : Nat) (key : List Char) : Option Counter :=
  (redis key).filter fun c => c.expiresAt.all (now < ·)

def Counters.write (redis : Counters) (key : List Char) (c : Option Counter) : Counters :=
  fun k => if k = key then c else redis k

namespace RedisService

/-- `get(key) || 0` -/
def get (redis : Counters) (now : Nat) (key : List Char) : Nat := ((redis.live now key).map Counter.count).getD 0

def increment (redis : Counters) (now : Nat) (key : List Char) : Counters :=
  redis.write key (some ⟨get redis now key + 1, (redis.live now key).bind Counter.expiresAt⟩)

def expire (redis : Counters) (now : Nat) (key : List Char) (seconds : Nat) : Counters :=
  redis.write key ((redis.live now key).map fun c => { c with expiresAt := some (now + seconds * 1000) })

def delete (redis : Counters) (key : List Char) : Counters := redis.write key none

end RedisService

namespace RateLimitService

def loginKey (key : List Char) : List Char := "login:attempts:".toList ++ key

def rateKey (key : List Char) : List Char := "rate:".toList ++ key

/-- `allowed` of the answer. -/
def checkLoginAttempts (redis : Counters) (now : Nat) (key : List Char) (maxAttempts : Nat) : Bool :=
  ¬maxAttempts ≤ RedisService.get redis now (loginKey key)

def incrementLoginAttempt (redis : Counters) (now : Nat) (key : List Char) (windowMinutes : Nat := 15) : Counters :=
  RedisService.expire (RedisService.increment redis now (loginKey key)) now (loginKey key) (windowMinutes * 60)

def resetLoginAttempts (redis : Counters) (key : List Char) : Counters := RedisService.delete redis (loginKey key)

/-- `allowed` of the answer. -/
def checkRateLimit (redis : Counters) (now : Nat) (key : List Char) (limit : Nat) : Bool :=
  ¬limit ≤ RedisService.get redis now (rateKey key)

def incrementRateLimit (redis : Counters) (now : Nat) (key : List Char) (windowSeconds : Nat) : Counters :=
  RedisService.expire (RedisService.increment redis now (rateKey key)) now (rateKey key) windowSeconds

end RateLimitService

inductive LimitError where
  | badRequest (message : String)
  | unauthorized (message : String)
  | conflict (message : String)
  | notFound (message : String)
  /-- The database failed. -/
  | fault
  deriving DecidableEq

structure LimiterConfig where
  maxLoginAttempts : Nat := 5
  windowMinutes : Nat := 15

/-- What a request meets. -/
structure World (S : Type) where
  /-- `none` where the database fails. -/
  users : Option (List (User S))
  /-- Whether a mail can be sent. -/
  sent : Bool := true
  /-- When the limiter is asked. -/
  now : Nat
  /-- When a counter is written. -/
  later : Nat

/-- `request.ip || 'unknown'` -/
def orUnknown (ip : Option (List Char)) : List Char := (ip.filter (· ≠ [])).getD "unknown".toList

abbrev Answer := Except LimitError Unit

namespace AuthService

open RateLimitService

variable {S : Type}

def registerKey (ip : Option (List Char)) : List Char := "register:".toList ++ ip.getD "undefined".toList

def resendKey (ip : Option (List Char)) (email : List Char) : List Char :=
  "resend-verification:".toList ++ orUnknown ip ++ ':' :: toLowerCase (trim email)

def forgotKey (ip : Option (List Char)) (email : List Char) : List Char :=
  "forgot-password:".toList ++ orUnknown ip ++ ':' :: toLowerCase (trim email)

def ipKey (ip : Option (List Char)) : List Char := "login:".toList ++ ip.getD "undefined".toList

/-- Writes no counter. -/
def register (redis : Counters) (w : World S) (ip : Option (List Char)) (email username : List Char) : Answer :=
  if checkRateLimit redis w.now (registerKey ip) 10 = false then
    .error (.badRequest "Too many registration attempts. Please try again later.")
  else
    match w.users with
    | none => .error .fault
    | some users =>
      if users.any fun u => u.email = toLowerCase email then .error (.conflict "User with this email already exists")
      else if users.any fun u => u.username = toLowerCase username then .error (.conflict "Username is already taken")
      else .ok ()

/-- Writes no counter. -/
def resendVerificationEmail (redis : Counters) (w : World S) (ip : Option (List Char)) (email : List Char) : Answer :=
  if checkRateLimit redis w.now (resendKey ip email) 3 = false then
    .error (.badRequest "Too many verification email requests. Please try again later.")
  else
    match w.users with
    | none => .error .fault
    | some users =>
      match users.find? fun u => u.email = toLowerCase (trim email) with
      | none => .error (.notFound "User not found")
      | some user =>
        if user.emailVerified then .error (.badRequest "Email already verified")
        else if w.sent then .ok ()
        else .error (.badRequest "Failed to send verification email. Please try again.")

/-- The answer does not tell whether there is an account. -/
def forgotPassword (redis : Counters) (w : World S) (ip : Option (List Char)) (email : List Char) : Answer × Counters :=
  if checkRateLimit redis w.now (forgotKey ip email) 5 = false then
    (.error (.badRequest "Too many password reset requests. Please try again later."), redis)
  else (if w.users.isNone then .error .fault else .ok (), incrementRateLimit redis w.later (forgotKey ip email) (15 * 60))

variable [Crypto S]

/-- The user whose credentials these are. -/
def authenticate (users : List (User S)) (identifier : List Char) (password : S) : Option (User S) :=
  ((users.find? fun u => u.email = toLowerCase identifier ∨ u.username = toLowerCase identifier).filter
    fun u => u.status = .active).filter fun u => Crypto.verify u.passwordHash password

def login (config : LimiterConfig) (redis : Counters) (w : World S) (ip : Option (List Char)) (identifier : List Char)
    (password : S) : Answer × Counters :=
  if checkLoginAttempts redis w.now (ipKey ip) config.maxLoginAttempts = false then
    (.error (.unauthorized "Too many login attempts. Please try again later."), redis)
  else
    match w.users with
    | none => (.error .fault, redis)
    | some users =>
      match authenticate users identifier password with
      -- Without the configured window.
      | none => (.error (.unauthorized "Invalid credentials"), incrementLoginAttempt redis w.later (ipKey ip))
      | some user =>
        if user.emailVerified = false then (.error (.unauthorized "Email verification required"), redis)
        else (.ok (), resetLoginAttempts redis (ipKey ip))

end AuthService

/-! ## Requests -/

inductive Operation where
  | register
  | resendVerification
  | forgotPassword
  | login
  deriving DecidableEq

inductive Request (S : Type) where
  | register (ip : Option (List Char)) (email username : List Char)
  | resendVerification (ip : Option (List Char)) (email : List Char)
  | forgotPassword (ip : Option (List Char)) (email : List Char)
  | login (ip : Option (List Char)) (identifier : List Char) (password : S)

structure Visit (S : Type) extends World S where
  request : Request S

section

open AuthService RateLimitService

variable {S : Type}

def Request.operation : Request S → Operation
  | .register .. => .register
  | .resendVerification .. => .resendVerification
  | .forgotPassword .. => .forgotPassword
  | .login .. => .login

/-- The key of the counter. -/
def Request.key : Request S → List Char
  | .register ip _ _ => rateKey (registerKey ip)
  | .resendVerification ip email => rateKey (resendKey ip email)
  | .forgotPassword ip email => rateKey (forgotKey ip email)
  | .login ip _ _ => loginKey (ipKey ip)

def limit (config : LimiterConfig) : Operation → Nat
  | .register => 10
  | .resendVerification => 3
  | .forgotPassword => 5
  | .login => config.maxLoginAttempts

/-- In milliseconds. -/
def window (config : LimiterConfig) : Operation → Nat
  | .register => 3600 * 1000
  | .resendVerification | .forgotPassword => 15 * 60 * 1000
  | .login => config.windowMinutes * 60 * 1000

/-- What the operation answers where the limiter does not let the request past. -/
def refusal : Operation → LimitError
  | .register => .badRequest "Too many registration attempts. Please try again later."
  | .resendVerification => .badRequest "Too many verification email requests. Please try again later."
  | .forgotPassword => .badRequest "Too many password reset requests. Please try again later."
  | .login => .unauthorized "Too many login attempts. Please try again later."

/-- One request after the other. -/
structure Sequential (run : List (Visit S)) : Prop where
  forward : ∀ v ∈ run, v.now ≤ v.later
  one : run.Pairwise fun v v' => v.later ≤ v'.now

/-- Has the key of `r` and comes in the window from `t` on. -/
def within (config : LimiterConfig) (r : Request S) (t : Nat) (v : Visit S) : Bool :=
  v.request.key = r.key ∧ t ≤ v.now ∧ v.now < t + window config r.operation

variable [Crypto S] (config : LimiterConfig)

def handle (redis : Counters) (v : Visit S) : Answer × Counters :=
  match v.request with
  | .register ip email username => (register redis v.toWorld ip email username, redis)
  | .resendVerification ip email => (resendVerificationEmail redis v.toWorld ip email, redis)
  | .forgotPassword ip email => forgotPassword redis v.toWorld ip email
  | .login ip identifier password => login config redis v.toWorld ip identifier password

/-- The request gets past the limiter. -/
def Passes (redis : Counters) (v : Visit S) : Prop := (handle config redis v).1 ≠ .error (refusal v.request.operation)

instance (redis : Counters) (v : Visit S) : Decidable (Passes config redis v) :=
  inferInstanceAs (Decidable ((handle config redis v).1 ≠ .error (refusal v.request.operation)))

/-- The requests of a run that get past the limiter. -/
def passed (redis : Counters) : List (Visit S) → List (Visit S)
  | [] => []
  | v :: run =>
    if Passes config redis v then v :: passed (handle config redis v).2 run else passed (handle config redis v).2 run

/-- The request is counted where it gets past the limiter. Failed logins are counted for fifteen minutes. -/
def CountsItself (v : Visit S) : Prop :=
  match v.request with
  | .register .. | .resendVerification .. => False
  | .forgotPassword .. => True
  | .login _ identifier password =>
    config.windowMinutes ≤ 15 ∧ ∃ users, v.users = some users ∧ authenticate users identifier password = none

/-- At most the limit of requests with the key of `r` get past the limiter in the window from `t` on. -/
def Limited (redis : Counters) (run : List (Visit S)) (r : Request S) (t : Nat) : Prop :=
  (passed config redis run).countP (within config r t) ≤ limit config r.operation

instance (redis : Counters) (run : List (Visit S)) (r : Request S) (t : Nat) : Decidable (Limited config redis run r t) :=
  inferInstanceAs (Decidable ((passed config redis run).countP (within config r t) ≤ limit config r.operation))

end

/-! ## What a request does to the counters -/

section

variable {redis : Counters} {key : List Char}

theorem write_self (c : Option Counter) : redis.write key c key = c := if_pos rfl

theorem write_other {k : List Char} (h : k ≠ key) (c : Option Counter) : redis.write key c k = redis k := if_neg h

theorem live_write_self {now : Nat} {c : Counter} (live : c.expiresAt.all (now < ·) = true) :
    (redis.write key (some c)).live now key = some c := by
  rw [Counters.live, write_self, Option.filter_some, if_pos live]

theorem live_some {now : Nat} {c : Counter} (h : redis.live now key = some c) :
    redis key = some c ∧ ∀ e, c.expiresAt = some e → now < e := by
  obtain ⟨found, live⟩ := Option.filter_eq_some_iff.1 h
  exact ⟨found, fun e he => of_decide_eq_true ((Option.all_eq_true _ _).1 live e he)⟩

/-- Counted once more, and kept for the whole window. -/
theorem counted (now seconds : Nat) :
    RedisService.expire (RedisService.increment redis now key) now key seconds key =
      some ⟨RedisService.get redis now key + 1, some (now + seconds * 1000)⟩ := by
  have live : (((redis.live now key).bind Counter.expiresAt).all (now < ·)) = true := by
    rw [Option.all_eq_true]
    intro e he
    obtain ⟨c, hc, expires⟩ := Option.bind_eq_some_iff.1 he
    exact decide_eq_true ((live_some hc).2 e expires)
  rw [RedisService.expire, write_self, RedisService.increment, live_write_self live]
  rfl

theorem counted_other {k : List Char} (h : k ≠ key) (now seconds : Nat) :
    RedisService.expire (RedisService.increment redis now key) now key seconds k = redis k := by
  rw [RedisService.expire, write_other h, RedisService.increment, write_other h]

end

section

variable {redis : Counters} {now : Nat} {key : List Char}

theorem checkRateLimit_eq_false {limit : Nat} :
    RateLimitService.checkRateLimit redis now key limit = false ↔
      limit ≤ RedisService.get redis now (RateLimitService.rateKey key) := by
  rw [RateLimitService.checkRateLimit, decide_eq_false_iff_not, not_not]

theorem checkLoginAttempts_eq_false {maxAttempts : Nat} :
    RateLimitService.checkLoginAttempts redis now key maxAttempts = false ↔
      maxAttempts ≤ RedisService.get redis now (RateLimitService.loginKey key) := by
  rw [RateLimitService.checkLoginAttempts, decide_eq_false_iff_not, not_not]

end

/-! ## Keys -/

section

variable {S : Type}

/-- By which the keys of the operations are told apart. -/
def keyStart : Operation → List Char
  | .register => "rate:reg".toList
  | .resendVerification => "rate:res".toList
  | .forgotPassword => "rate:for".toList
  | .login => "login:at".toList

theorem take_key (r : Request S) : r.key.take 8 = keyStart r.operation := by cases r <;> rfl

theorem keyStart_injective : keyStart.Injective := by
  intro o o'
  cases o <;> cases o' <;> decide

theorem operation_of_key {r r' : Request S} (h : r.key = r'.key) : r.operation = r'.operation :=
  keyStart_injective (by rw [← take_key, ← take_key, h])

end

/-! ## One request -/

section

open AuthService RateLimitService RedisService

variable {S : Type} [Crypto S] {config : LimiterConfig} {redis : Counters} {v : Visit S}

omit [Crypto S] in
theorem refused_register (w : World S) (ip : Option (List Char)) (email username : List Char) :
    register redis w ip email username = .error (refusal .register) ↔ 10 ≤ get redis w.now (rateKey (registerKey ip)) := by
  rw [← checkRateLimit_eq_false]
  fun_cases AuthService.register <;> simp_all [refusal]

omit [Crypto S] in
theorem refused_resendVerificationEmail (w : World S) (ip : Option (List Char)) (email : List Char) :
    resendVerificationEmail redis w ip email = .error (refusal .resendVerification) ↔
      3 ≤ get redis w.now (rateKey (resendKey ip email)) := by
  rw [← checkRateLimit_eq_false]
  fun_cases AuthService.resendVerificationEmail <;> simp_all [refusal]

omit [Crypto S] in
theorem refused_forgotPassword (w : World S) (ip : Option (List Char)) (email : List Char) :
    (forgotPassword redis w ip email).1 = .error (refusal .forgotPassword) ↔
      5 ≤ get redis w.now (rateKey (forgotKey ip email)) := by
  rw [← checkRateLimit_eq_false]
  fun_cases AuthService.forgotPassword
  · simp_all [refusal]
  · cases w.users <;> simp_all [refusal]

theorem refused_login (w : World S) (ip : Option (List Char)) (identifier : List Char) (password : S) :
    (login config redis w ip identifier password).1 = .error (refusal .login) ↔
      config.maxLoginAttempts ≤ get redis w.now (loginKey (ipKey ip)) := by
  rw [← checkLoginAttempts_eq_false]
  fun_cases AuthService.login <;> simp_all [refusal]

theorem passes_iff : Passes config redis v ↔ get redis v.now v.request.key < limit config v.request.operation := by
  rw [← not_le]
  unfold Passes handle
  cases v.request with
  | register ip email username => exact (refused_register v.toWorld ip email username).not
  | resendVerification ip email => exact (refused_resendVerificationEmail v.toWorld ip email).not
  | forgotPassword ip email => exact (refused_forgotPassword v.toWorld ip email).not
  | login ip identifier password => exact (refused_login v.toWorld ip identifier password).not

/-- A request changes no counter but its own. -/
theorem handle_other {k : List Char} (h : k ≠ v.request.key) : (handle config redis v).2 k = redis k := by
  unfold handle
  unfold Request.key at h
  cases request : v.request with
  | register ip email username => rfl
  | resendVerification ip email => rfl
  | forgotPassword ip email =>
    rw [request] at h
    simp only [forgotPassword]
    split
    · rfl
    · exact counted_other h _ _
  | login ip identifier password =>
    rw [request] at h
    simp only [login]
    split
    · rfl
    · split
      · rfl
      · split
        · exact counted_other h _ _
        · split
          · rfl
          · exact write_other h _

/-- A request that does not get past the limiter is not counted. -/
theorem handle_refused (h : ¬Passes config redis v) : (handle config redis v).2 = redis := by
  rw [passes_iff, not_lt] at h
  unfold handle
  cases request : v.request with
  | register ip email username => rfl
  | resendVerification ip email => rfl
  | forgotPassword ip email =>
    rw [request] at h
    have refused : checkRateLimit redis v.now (forgotKey ip email) 5 = false := checkRateLimit_eq_false.2 h
    simp only [forgotPassword]
    rw [if_pos refused]
  | login ip identifier password =>
    rw [request] at h
    have refused : checkLoginAttempts redis v.now (ipKey ip) config.maxLoginAttempts = false := checkLoginAttempts_eq_false.2 h
    simp only [login]
    rw [if_pos refused]

/-- Registering and asking for another verification mail are never counted. -/
theorem handle_uncounted (h : v.request.operation = .register ∨ v.request.operation = .resendVerification) :
    (handle config redis v).2 = redis := by
  unfold handle
  unfold Request.operation at h
  cases request : v.request with
  | register ip email username => rfl
  | resendVerification ip email => rfl
  | forgotPassword ip email => simp [request] at h
  | login ip identifier password => simp [request] at h

/-- A request that counts itself is in its counter for at least the window. -/
theorem handle_counted (h : Passes config redis v) (counts : CountsItself config v) :
    ∃ until_, (handle config redis v).2 v.request.key = some ⟨get redis v.later v.request.key + 1, some until_⟩ ∧
      v.later + window config v.request.operation ≤ until_ := by
  rw [passes_iff, ← not_le] at h
  unfold CountsItself at counts
  unfold handle
  cases request : v.request with
  | register ip email username => rw [request] at counts; exact counts.elim
  | resendVerification ip email => rw [request] at counts; exact counts.elim
  | forgotPassword ip email =>
    rw [request] at h
    have allowed : ¬checkRateLimit redis v.now (forgotKey ip email) 5 = false := checkRateLimit_eq_false.not.2 h
    refine ⟨_, ?_, le_refl _⟩
    simp only [forgotPassword]
    rw [if_neg allowed]
    exact counted v.later (15 * 60)
  | login ip identifier password =>
    rw [request] at h counts
    have allowed : ¬checkLoginAttempts redis v.now (ipKey ip) config.maxLoginAttempts = false :=
      checkLoginAttempts_eq_false.not.2 h
    obtain ⟨short, users, found, unknown⟩ := counts
    refine ⟨v.later + 15 * 60 * 1000, ?_, ?_⟩
    · simp only [login]
      rw [if_neg allowed, found]
      simp only [unknown]
      exact counted v.later (15 * 60)
    · simp only [window, Request.operation]
      omega

end

/-! ## Runs -/

section

variable {S : Type} [Crypto S] {config : LimiterConfig} {redis : Counters}

omit [Crypto S] in
theorem within_iff {r : Request S} {t : Nat} {v : Visit S} : within config r t v = true ↔
    v.request.key = r.key ∧ t ≤ v.now ∧ v.now < t + window config r.operation := by
  rw [within, decide_eq_true_iff]

theorem passed_sublist (redis : Counters) (run : List (Visit S)) : (passed config redis run).Sublist run := by
  induction run generalizing redis with
  | nil => exact .slnil
  | cons v run ih =>
    rw [passed]
    split
    · exact (ih _).cons_cons v
    · exact (ih _).cons v

omit [Crypto S] in
theorem Sequential.of_cons {v : Visit S} {run : List (Visit S)} (h : Sequential (v :: run)) :
    v.now ≤ v.later ∧ (∀ v' ∈ run, v.later ≤ v'.now) ∧ Sequential run := by
  obtain ⟨forward, one⟩ := h
  obtain ⟨next, one⟩ := List.pairwise_cons.1 one
  exact ⟨forward v List.mem_cons_self, next, fun v' hv' => forward v' (List.mem_cons_of_mem v hv'), one⟩

/-- When the window is over no request of it follows. -/
theorem none_within {run : List (Visit S)} {r : Request S} {t : Nat}
    (over_ : ∀ v ∈ run, t + window config r.operation ≤ v.now) :
    (passed config redis run).countP (within config r t) = 0 := by
  rw [List.countP_eq_zero]
  intro v hv inside
  have late := over_ v ((passed_sublist redis run).subset hv)
  have early := (within_iff.1 inside).2.2
  omega

theorem get_eq {key : List Char} {c : Counter} {now : Nat} (found : redis key = some c)
    (fresh : ∀ e, c.expiresAt = some e → now < e) : RedisService.get redis now key = c.count := by
  have live : c.expiresAt.all (now < ·) = true := by
    rw [Option.all_eq_true]
    exact fun e he => decide_eq_true (fresh e he)
  rw [RedisService.get, Counters.live, found, Option.filter_some, if_pos live]
  rfl

/-- The counter tells of `n` requests until the window from `t` on is over, and what follows is not before `t`. -/
structure Tallied (config : LimiterConfig) (redis : Counters) (r : Request S) (t n : Nat) (run : List (Visit S)) : Prop where
  counter : ∃ c, redis r.key = some c ∧ n ≤ c.count ∧ ∀ e, c.expiresAt = some e → t + window config r.operation ≤ e
  after : ∀ v ∈ run, t ≤ v.now

omit [Crypto S] in
theorem Tallied.le_get {r : Request S} {t n now : Nat} {run : List (Visit S)} (h : Tallied config redis r t n run)
    (inside : now < t + window config r.operation) : n ≤ RedisService.get redis now r.key := by
  obtain ⟨c, found, count, expires⟩ := h.counter
  rw [get_eq found fun e he => Nat.lt_of_lt_of_le inside (expires e he)]
  exact count

/-- One more request has got past and is tallied, or the window is over. -/
theorem Tallied.count {r : Request S} {t n : Nat} {v : Visit S} {run : List (Visit S)}
    (tallied : 0 < n → Tallied config redis r t n (v :: run)) (sequential : Sequential (v :: run))
    (inside : within config r t v = true) (passes : Passes config redis v) (counts : CountsItself config v) :
    t + window config r.operation ≤ v.later ∨ Tallied config (handle config redis v).2 r t (n + 1) run := by
  obtain ⟨forward, next, -⟩ := sequential.of_cons
  obtain ⟨sameKey, start, -⟩ := within_iff.1 inside
  obtain ⟨until_, counter, kept⟩ := handle_counted passes counts
  rw [operation_of_key sameKey] at kept
  rw [sameKey] at counter
  by_cases late : t + window config r.operation ≤ v.later
  · exact .inl late
  · refine .inr ⟨⟨_, counter, ?_, ?_⟩, ?_⟩
    · obtain rfl | positive := Nat.eq_zero_or_pos n
      · exact Nat.le_add_left _ _
      · exact Nat.succ_le_succ ((tallied positive).le_get (Nat.not_le.1 late))
    · rintro _ ⟨⟩
      omega
    · intro v' hv'
      have := next v' hv'
      omega

theorem countP_passed_le {r : Request S} {t n : Nat} {run : List (Visit S)} (sequential : Sequential run)
    (counts : ∀ v ∈ run, within config r t v = true → CountsItself config v) (room : n ≤ limit config r.operation)
    (tallied : 0 < n → Tallied config redis r t n run) :
    n + (passed config redis run).countP (within config r t) ≤ limit config r.operation := by
  induction run generalizing redis n with
  | nil => exact room
  | cons v run ih =>
    obtain ⟨forward, next, rest⟩ := sequential.of_cons
    have counts' := fun v' hv' => counts v' (List.mem_cons_of_mem v hv')
    have after : 0 < n → ∀ v' ∈ run, t ≤ v'.now := fun positive v' hv' =>
      (tallied positive).after v' (List.mem_cons_of_mem v hv')
    rw [passed]
    by_cases passes : Passes config redis v
    · rw [if_pos passes, List.countP_cons]
      by_cases sameKey : v.request.key = r.key
      · by_cases inside : within config r t v = true
        · have below := passes_iff.1 passes
          rw [sameKey, operation_of_key sameKey] at below
          have room' : n + 1 ≤ limit config r.operation := by
            obtain rfl | positive := Nat.eq_zero_or_pos n
            · omega
            · have := (tallied positive).le_get (within_iff.1 inside).2.2
              omega
          rw [if_pos inside]
          obtain over_ | tallied' := Tallied.count tallied sequential inside passes (counts v List.mem_cons_self inside)
          · rw [none_within fun v' hv' => Nat.le_trans over_ (next v' hv')]
            exact room'
          · have := ih rest counts' room' fun _ => tallied'
            omega
        · rw [if_neg inside]
          by_cases early : v.now < t
          · -- Nothing is tallied before the window.
            have none_ : n = 0 := by
              by_contra some_
              have := (tallied (Nat.pos_of_ne_zero some_)).after v List.mem_cons_self
              omega
            subst none_
            exact ih rest counts' room fun positive => absurd positive (Nat.lt_irrefl 0)
          · have late : t + window config r.operation ≤ v.now := by
              by_contra inside'
              exact inside (within_iff.2 ⟨sameKey, Nat.not_lt.1 early, Nat.not_le.1 inside'⟩)
            rw [none_within fun v' hv' => Nat.le_trans late (Nat.le_trans forward (next v' hv'))]
            exact room
      · have outside : ¬within config r t v = true := fun inside => sameKey (within_iff.1 inside).1
        rw [if_neg outside]
        refine ih rest counts' room fun positive => ⟨?_, after positive⟩
        rw [handle_other (Ne.symm sameKey)]
        exact (tallied positive).counter
    · rw [if_neg passes, handle_refused passes]
      exact ih rest counts' room fun positive => ⟨(tallied positive).counter, after positive⟩

/-- Without a count every request gets past. -/
theorem countP_passed_of_uncounted {r : Request S} {t : Nat} {run : List (Visit S)}
    (uncounted : r.operation = .register ∨ r.operation = .resendVerification) (none_ : redis r.key = none) :
    (passed config redis run).countP (within config r t) = run.countP (within config r t) := by
  induction run generalizing redis with
  | nil => rfl
  | cons v run ih =>
    have none' : (handle config redis v).2 r.key = none := by
      by_cases sameKey : v.request.key = r.key
      · rw [← operation_of_key sameKey] at uncounted
        rw [handle_uncounted uncounted]
        exact none_
      · rw [handle_other (Ne.symm sameKey)]
        exact none_
    rw [passed, List.countP_cons]
    by_cases inside : within config r t v = true
    · have sameKey := (within_iff.1 inside).1
      have passes : Passes config redis v := by
        rw [passes_iff, sameKey, operation_of_key sameKey, RedisService.get, Counters.live, none_]
        obtain register | resend := uncounted
        · rw [register]
          exact Nat.zero_lt_succ 9
        · rw [resend]
          exact Nat.zero_lt_succ 2
      rw [if_pos passes, List.countP_cons, ih none']
    · rw [if_neg inside]
      split
      · rw [List.countP_cons, if_neg inside, ih none']
      · exact ih none'

end

/-- The same request at several times. -/
def repeated (request : Request Auth.Text) (users : List (User Auth.Text)) (times : List Nat) : List (Visit Auth.Text) :=
  times.map fun now => { users := some users, now, later := now, request }

-- With the right password, but without a verified address.
example : ¬Limited {} (fun _ => none)
    (repeated (.login none [] (.plain 1)) [⟨.ofNat 0, [], [], .hashed (.plain 1) 0, false, .active, none⟩] [0, 1, 2, 3, 4, 5])
    (.login none [] (.plain 1)) 0 := by
  decide

end Heightt.RateLimits
