import Heightt.Auth.Operations
import Heightt.ReadCommitted.Faultless

/-!
# Logins at the same time

Both logins insert the session with the text 'pending' in the unique column of
the token's hash, and store the hash in a later statement. A login with valid
credentials is refused nothing and ends in no error, when no other session holds
the placeholder as it inserts its own; another login that is between the two
statements, or that crashed there, makes it fail.
-/

namespace Heightt.Auth

open ReadCommitted Store Prog Database AuthService TokenService

variable {S : Type}

/-- What the logins look at of a user. -/
def User.credentials (u : User S) : User S := { u with lastLoginAt := none }

/-- The users have kept their credentials, and the admins are the same. -/
structure UsersKept (d d' : AuthDb S) : Prop where
  users : d'.users.rows.map User.credentials = d.users.rows.map User.credentials
  admins : d'.admins = d.admins

/-- Equal credentials are equal in all that the logins look at. -/
theorem User.of_credentials {u u' : User S} (h : u'.credentials = u.credentials) :
    u'.id = u.id ∧ u'.status = u.status ∧ u'.passwordHash = u.passwordHash ∧
      u'.emailVerified = u.emailVerified := by
  simp only [credentials, User.mk.injEq] at h
  exact ⟨h.1, h.2.2.2.2.2.1, h.2.2.2.1, h.2.2.2.2.1⟩

theorem UsersKept.refl (d : AuthDb S) : UsersKept d d := ⟨rfl, rfl⟩

/-- A user is found by the credentials. -/
theorem UsersKept.find {d d' : AuthDb S} (h : UsersKept d d') {p : User S → Bool}
    (hp : ∀ u, p u.credentials = p u) {u : User S} (hu : d.users.rows.find? p = some u) :
    ∃ u', d'.users.rows.find? p = some u' ∧ u'.credentials = u.credentials := by
  have through (l : List (User S)) : (l.find? p).map User.credentials = (l.map User.credentials).find? p := by
    rw [List.find?_map]
    exact congrArg (fun q => (l.find? q).map User.credentials) (funext fun u => (hp u).symm)
  have := through d'.users.rows
  rw [h.users, ← through, hu] at this
  exact Option.map_eq_some_iff.1 this

/-- A login, or time passing. -/
def AuthOp.isLogin : AuthOp S → Bool
  | login .. | adminLogin .. | tick _ => true
  | _ => false

/-- The identifier of the session that a login opens. -/
def AuthOp.opens : AuthOp S → Option Id
  | login _ _ new | adminLogin _ _ _ new => some new.id
  | _ => none

/-- The identifiers that the logins are given are new and distinct. -/
structure FreshIds (db : AuthDb S) (ops : List (AuthOp S)) : Prop where
  distinct : ops.Pairwise fun op op' => ∀ id, op.opens = some id → op'.opens ≠ some id
  free : ∀ op ∈ ops, ∀ id, op.opens = some id → db.sessions.find id = none

variable [Crypto S]

/-- The credentials are those of an active user, whose email is verified or who has
a role in the admin application. -/
def AuthOp.Valid (db : AuthDb S) : AuthOp S → Prop
  | login dto _ _ => ∃ u, findUser db (toLowerCase dto.identifier) = some u ∧ u.status = .active ∧
    verify u.passwordHash dto.password = true ∧ u.emailVerified = true
  | adminLogin dto _ authClient _ => ∃ u, findUser db (toLowerCase dto.identifier) = some u ∧
    u.status = .active ∧ verify u.passwordHash dto.password = true ∧ adminRoles db u.id authClient ≠ []
  | _ => False

/-- Every session has the placeholder or the hash of a token of its own. -/
def WellHashed (d : AuthDb S) : Prop :=
  ∀ s ∈ d.sessions.rows, s.refreshTokenHash = pending ∨
    ∃ (c : Claims) (salt : Nat), s.refreshTokenHash = Crypto.hash (signAsync c) salt ∧ c.sessionId = some s.id

/-- The statement opens a session. -/
def AuthStmt.opens : AuthStmt S → Bool
  | createSession _ => true
  | _ => false

/-- What the login that opens session `id` counts on: nobody else opens or deletes
that session, no session holds the placeholder while it inserts its own, and the
rate limiter lets it through. -/
def loginSetting (db : AuthDb S) (id : Id) :
    Setting (AuthDb S) (AuthStmt S) (AuthCall S) AuthCall.Reply where
  rely d d' := (d'.sessions.find id).isSome = (d.sessions.find id).isSome
  inv d := WellHashed d ∧ UsersKept db d
  allows d F := F.any AuthStmt.opens = true → ∀ s ∈ d.sessions.rows, s.refreshTokenHash ≠ pending
  answers
    | .checkLoginAttempts _ _, r => r = true
    | _, _ => True

instance [DecidableEq S] (db : AuthDb S) (id : Id) (d : AuthDb S) (F : List (AuthStmt S)) :
    Decidable ((loginSetting db id).allows d F) :=
  inferInstanceAs (Decidable (_ → ∀ s ∈ d.sessions.rows, _))

instance (db : AuthDb S) (id : Id) (c : AuthCall S) (r : c.Reply) :
    Decidable ((loginSetting db id).answers c r) := by
  cases c with
  | checkLoginAttempts key maxAttempts => exact instDecidableEqBool r true
  | _ => exact isTrue trivial

/-! ## What the logins keep -/

variable [DecidableEq S]

omit [DecidableEq S] in
theorem wellHashed_insert {d : AuthDb S} {session : Session S} (h : WellHashed d)
    (placeholder : session.refreshTokenHash = pending) :
    WellHashed (AuthStmt.apply (.createSession session) d) := by
  intro s hs
  change s ∈ (d.sessions.insert session).rows at hs
  unfold Table.insert at hs
  split at hs
  · exact h s hs
  · rcases List.mem_append.1 hs with hs | hs
    · exact h s hs
    · exact .inl (List.mem_singleton.1 hs ▸ placeholder)

omit [DecidableEq S] in
theorem wellHashed_store {d : AuthDb S} {id : Id} {c : Claims} {salt : Nat} (h : WellHashed d)
    (named : c.sessionId = some id) :
    WellHashed (AuthStmt.apply (.storeRefreshToken id (signAsync c) (Crypto.hash (signAsync c) salt)) d) := by
  intro s hs
  obtain ⟨s₀, hs₀, rfl⟩ := List.mem_map.1 hs
  by_cases hid : s₀.id = id
  · rw [if_pos hid]
    exact .inr ⟨c, salt, rfl, hid ▸ named⟩
  · rw [if_neg hid]
    exact h s₀ hs₀

omit [Crypto S] [DecidableEq S] in
theorem isSome_store {d : AuthDb S} {id : Id} {hash : S} (token : S) (id' : Id) :
    ((AuthStmt.apply (.storeRefreshToken id token hash) d).sessions.find id').isSome =
      (d.sessions.find id').isSome := by
  unfold AuthStmt.apply
  rw [Table.isSome_find_modify]

omit [Crypto S] [DecidableEq S] in
theorem isSome_create {d : AuthDb S} {session : Session S} (free : d.sessions.find session.id = none) :
    ((AuthStmt.apply (.createSession session) d).sessions.find session.id).isSome = true := by
  unfold AuthStmt.apply
  rw [Table.find_insert free, if_pos rfl]
  rfl

/-- What a login commits keeps the hashes, the credentials, and the other sessions' places. -/
theorem kept_of_login {db d : AuthDb S} {config : AuthConfig} {client : AuthClient} {action : String}
    {new : NewSession} {l F : List (AuthStmt S)} (writes : LoginWrites config client action new l F)
    (h : WellHashed d ∧ UsersKept db d) :
    (WellHashed (applyAll F d) ∧ UsersKept db (applyAll F d)) ∧
      ∀ id ≠ new.id, ((applyAll F d).sessions.find id).isSome = (d.sessions.find id).isSome := by
  cases writes with
  | create session named opened placeholder =>
    refine ⟨⟨wellHashed_insert h.1 placeholder, h.2.users, h.2.admins⟩, fun id hid => ?_⟩
    change ((d.sessions.insert session).find id).isSome = _
    by_cases free : d.sessions.find session.id = none
    · rw [Table.find_insert free, if_neg]
      exact fun same => hid (same.symm.trans named)
    · rw [Table.find_eq_none, not_not] at free
      rw [Table.insert, dif_pos free]
  | store session email signedAt token signed =>
    exact ⟨⟨signed ▸ wellHashed_store h.1 rfl, h.2.users, h.2.admins⟩,
      fun id _ => isSome_store token id⟩
  | lastLogin session id token hash userId at_ =>
    refine ⟨⟨h.1, ?_, h.2.admins⟩, fun _ _ => rfl⟩
    refine Eq.trans ?_ h.2.users
    change (List.map _ d.users.rows).map User.credentials = _
    rw [List.map_map]
    refine List.map_congr_left fun u _ => ?_
    simp only [Function.comp_apply]
    split <;> rfl
  | audit l userId written => exact ⟨h, fun _ _ => rfl⟩

/-! ## A login succeeds -/

section Succeeds

variable {db : AuthDb S} {id : Id} {d s : AuthDb S} {α β : Type} {config : AuthConfig}
  {Q : β → AuthDb S → List (List (AuthStmt S)) → Prop}

theorem succeeds_callService {c : AuthCall S} {f : c.Reply → AuthAction S β}
    (hf : ∀ d r, (loginSetting db id).rely s d → (loginSetting db id).inv d →
      (loginSetting db id).answers c r → Succeeds (loginSetting db id) (f r) d [] Q) :
    Succeeds (loginSetting db id) ((callService c).bind f) s [] Q :=
  Succeeds.request_bind hf

theorem succeeds_checkLoginAttempts {key : CounterKey} {maxAttempts : Nat} {f : Bool → AuthAction S β}
    (hf : ∀ d, (loginSetting db id).rely s d → Succeeds (loginSetting db id) (f true) d [] Q) :
    Succeeds (loginSetting db id) ((checkLoginAttempts key maxAttempts).bind f) s [] Q := by
  refine succeeds_callService (c := .checkLoginAttempts key maxAttempts) fun d allowed hd _ hallowed => ?_
  have through : allowed = true := hallowed
  exact through ▸ hf d hd

/-- Valid credentials are accepted. -/
theorem succeeds_authenticate {key : CounterKey} {dto : LoginDto S} {u : User S}
    {f : User S → AuthAction S β} (found : findUser db (toLowerCase dto.identifier) = some u)
    (active : u.status = .active) (password : verify u.passwordHash dto.password = true)
    (hf : ∀ d u', (loginSetting db id).rely s d → (loginSetting db id).inv d →
      u'.credentials = u.credentials → Succeeds (loginSetting db id) (f u') d [] Q) :
    Succeeds (loginSetting db id) ((authenticate key dto).bind f) s [] Q := by
  rw [authenticate, bind_eq, Prog.bind_assoc]
  refine .outside_bind fun d d' hs hd hd' hi' => ?_
  obtain ⟨u', hu', same⟩ := hd.2.find (fun _ => rfl) found
  obtain ⟨-, status, hash, -⟩ := User.of_credentials same
  have hfind : findUser d (toLowerCase dto.identifier) = some u' := hu'
  rw [hfind, Option.filter_some, status, active]
  simp only [decide_true, if_true]
  rw [hash, if_pos password]
  exact hf d' u' (hd'.trans hs) hi' same

omit [DecidableEq S] in
/-- No other session has the hash of a token of this one. -/
theorem hash_ne_of_wellHashed {c : Claims} {salt : Nat} (h : WellHashed d) (named : c.sessionId = some id)
    {t : Session S} (ht : t ∈ d.sessions.rows) (other : t.id ≠ id) :
    t.refreshTokenHash ≠ Crypto.hash (signAsync c) salt := by
  intro same
  rcases h t ht with placeholder | ⟨c', salt', hash, named'⟩
  · exact hash_ne_pending _ _ (same.symm.trans placeholder)
  · have signed := hash_eq_hash (hash.symm.trans same)
    rw [Crypto.signAsync_injective signed, named] at named'
    exact other (Option.some.inj named').symm

/-- The session is opened and its token stored. -/
theorem succeeds_createSessionWithToken {user : User S} {client : AuthClient} {lifetime : Nat}
    {action : String} {new : NewSession} {f : S → AuthAction S β}
    (free : s.sessions.find new.id = none) (known : ∀ d, UsersKept db d → (d.users.find user.id).isSome = true)
    (hf : ∀ d token, (loginSetting db new.id).inv d → Succeeds (loginSetting db new.id) (f token) d [] Q) :
    Succeeds (loginSetting db new.id)
      ((createSessionWithToken config user client lifetime action new).bind f) s [] Q := by
  unfold createSessionWithToken
  simp only [bind_eq, Prog.bind_assoc, clock]
  refine .query_bind fun d₀ hd₀ _ => ?_
  have still_free {d : AuthDb S} (hd : (loginSetting db new.id).rely d₀ d) :
      d.sessions.find new.id = none := by
    have := hd.trans hd₀
    rw [free] at this
    exact Option.isSome_eq_false_iff.1 this |> Option.isNone_iff_eq_none.1
  refine .statement_bind (fun d hd _ allowed => ?_) fun d hd' _ _ => ?_
  · have unused := allowed rfl
    simp only [check, AuthStmt.check, still_free hd, Option.isSome_none, Bool.false_eq_true, false_or,
      ite_eq_right_iff, reduceCtorEq, imp_false, List.any_eq_true, decide_eq_true_eq, not_exists, not_and]
    exact unused
  · refine .query_bind fun d₁ hd₁ _ => ?_
    have still_open {d : AuthDb S} (hd : (loginSetting db new.id).rely d₁ d) :
        (d.sessions.find new.id).isNone = false := by
      rw [Option.isNone_eq_false_iff, hd, hd₁]
      exact isSome_create (still_free hd')
    refine .statement_bind (fun d hd hi _ => ?_) fun d _ _ _ => ?_
    · simp only [check, AuthStmt.check, still_open hd, Bool.false_eq_true, if_false, ite_eq_right_iff,
        reduceCtorEq, imp_false, List.any_eq_true, decide_eq_true_eq, not_exists, not_and]
      exact fun t ht other => hash_ne_of_wellHashed hi.1 rfl ht other
    · refine .query_bind fun d₂ _ _ => ?_
      refine .statement_bind (fun d _ hi _ => ?_) fun d _ _ _ => ?_
      · have found := known d hi.2
        simp [check, AuthStmt.check, ← Option.not_isSome, found]
      · exact .statement_bind (fun _ _ _ _ => rfl) fun d _ _ hi => hf d _ hi

omit [Crypto S] [DecidableEq S] in
/-- A user that was found is found again by its identifier. -/
theorem UsersKept.find_id {d : AuthDb S} (h : UsersKept db d) {identifier : List Char} {u u' : User S}
    (found : findUser db identifier = some u) (same : u'.credentials = u.credentials) :
    (d.users.find u'.id).isSome = true := by
  have hu : db.users.find u.id = some u := Table.find_of_mem (List.mem_of_find?_eq_some found)
  obtain ⟨u'', hu'', -⟩ := h.find (fun _ => rfl) hu
  rw [(User.of_credentials same).1]
  exact Option.isSome_iff_exists.2 ⟨u'', hu''⟩

theorem succeeds_getCurrentUser {userId : Id} {f : Unit → AuthAction S β}
    (known : ∀ d, UsersKept db d → (d.users.find userId).isSome = true)
    (hf : ∀ d, Succeeds (loginSetting db id) (f ()) d [] Q) :
    Succeeds (loginSetting db id) ((getCurrentUser userId).bind f) s [] Q := by
  rw [getCurrentUser, bind_eq, Prog.bind_assoc]
  refine succeeds_callService (c := .getUserProfile userId) fun d cached _ _ _ => ?_
  unfold Prog.when
  split
  · simp only [bind_eq, Prog.bind_assoc]
    refine .outside_bind fun d d' _ hi _ _ => ?_
    obtain ⟨u, hu⟩ := Option.isSome_iff_exists.1 (known d hi.2)
    refine .orThrow_bind hu ?_
    exact succeeds_callService (c := .cacheUserProfile userId) fun d _ _ _ _ => hf d
  · exact hf d

omit [Crypto S] [DecidableEq S] in
theorem free_of_rely {s d : AuthDb S} {id : Id} (free : s.sessions.find id = none)
    (h : (d.sessions.find id).isSome = (s.sessions.find id).isSome) : d.sessions.find id = none := by
  rw [free] at h
  exact Option.isNone_iff_eq_none.1 (Option.isSome_eq_false_iff.1 h)

theorem succeeds_login {dto : LoginDto S} {request : Request S} {new : NewSession}
    (valid : (AuthOp.login dto request new).Valid db) (free : s.sessions.find new.id = none) :
    Succeeds (loginSetting db new.id) ((AuthOp.login dto request new).program config) s []
      fun _ _ fs => fs = [] := by
  obtain ⟨u, found, active, password, verified⟩ := valid
  unfold AuthOp.program AuthService.login
  simp only [bind_eq, Prog.bind_assoc]
  refine succeeds_checkLoginAttempts fun d hd => .ensure_bind rfl ?_
  refine succeeds_authenticate found active password fun d' u' hd' _ same => ?_
  obtain ⟨-, -, -, hverified⟩ := User.of_credentials same
  refine .ensure_bind (hverified.trans verified) ?_
  refine succeeds_callService fun d'' _ hd'' _ _ => ?_
  have still_free := free_of_rely free ((hd''.trans hd').trans hd)
  have known (d : AuthDb S) (h : UsersKept db d) : (d.users.find u'.id).isSome = true :=
    h.find_id found same
  refine succeeds_createSessionWithToken still_free known fun d _ _ => ?_
  refine succeeds_callService (c := .invalidateUserCache _) fun d _ _ _ _ => ?_
  exact succeeds_getCurrentUser known fun d => rfl

theorem succeeds_adminLogin {dto : LoginDto S} {request : Request S} {authClient : AuthClient}
    {new : NewSession} (valid : (AuthOp.adminLogin dto request authClient new).Valid db)
    (free : s.sessions.find new.id = none) :
    Succeeds (loginSetting db new.id) ((AuthOp.adminLogin dto request authClient new).program config) s []
      fun _ _ fs => fs = [] := by
  obtain ⟨u, found, active, password, roles⟩ := valid
  unfold AuthOp.program AuthService.adminLogin
  simp only [bind_eq, Prog.bind_assoc]
  refine succeeds_checkLoginAttempts fun d hd => .ensure_bind rfl ?_
  refine succeeds_authenticate found active password fun d' u' hd' _ same => ?_
  refine .outside_bind fun d₁ d₂ hd₁ hi₁ hd₂ _ => ?_
  have admitted : (adminRoles d₁ u'.id authClient).isEmpty = false := by
    rw [adminRoles, hi₁.2.admins, (User.of_credentials same).1]
    exact List.isEmpty_eq_false_iff.2 roles
  rw [admitted]
  simp only [Bool.false_eq_true, if_false, Prog.bind_assoc]
  refine succeeds_callService fun d'' _ hd'' _ _ => ?_
  have still_free := free_of_rely free ((((hd''.trans hd₂).trans hd₁).trans hd').trans hd)
  have known (d : AuthDb S) (h : UsersKept db d) : (d.users.find u'.id).isSome = true :=
    h.find_id found same
  refine succeeds_createSessionWithToken still_free known fun d _ _ => ?_
  exact succeeds_callService (c := .cacheUserProfile _) fun d _ _ _ _ => rfl

/-- A login with valid credentials succeeds. -/
theorem AuthOp.succeeds {op : AuthOp S} (valid : op.Valid db) (opens : op.opens = some id)
    (free : s.sessions.find id = none) :
    Succeeds (loginSetting db id) (op.program config) s [] fun _ _ fs => fs = [] := by
  cases op with
  | login dto request new =>
    cases opens
    exact succeeds_login valid free
  | adminLogin dto request authClient new =>
    cases opens
    exact succeeds_adminLogin valid free
  | _ => exact valid.elim

end Succeeds

/-! ## Runs of logins -/

/-- What a login or the clock commits keeps what the logins rely on. -/
theorem kept_of_writes {config : AuthConfig} {db d : AuthDb S} {op : AuthOp S} {l F : List (AuthStmt S)}
    (isLogin : op.isLogin = true) (writes : op.Writes config d l F) (h : WellHashed d ∧ UsersKept db d) :
    (WellHashed (applyAll F d) ∧ UsersKept db (applyAll F d)) ∧ ∀ id, op.opens ≠ some id →
      ((applyAll F d).sessions.find id).isSome = (d.sessions.find id).isSome := by
  cases op with
  | login dto request new =>
    obtain ⟨kept, others⟩ := kept_of_login writes h
    exact ⟨kept, fun id hid => others id fun same => hid (same ▸ rfl)⟩
  | adminLogin dto request authClient new =>
    obtain ⟨kept, others⟩ := kept_of_login writes h
    exact ⟨kept, fun id hid => others id fun same => hid (same ▸ rfl)⟩
  | tick ms =>
    change F = [.tick ms] at writes
    subst writes
    exact ⟨⟨h.1, h.2.users, h.2.admins⟩, fun _ _ => rfl⟩
  | _ => cases isLogin

omit [Crypto S] [DecidableEq S] in
/-- No other login opens the same session. -/
theorem FreshIds.opens_ne {db : AuthDb S} {ops : List (AuthOp S)} (h : FreshIds db ops) {i j : Nat}
    {op op' : AuthOp S} (hi : ops[i]? = some op) (hj : ops[j]? = some op') (hij : j ≠ i) {id : Id}
    (opens : op.opens = some id) : op'.opens ≠ some id := by
  have pair := List.pairwise_iff_getElem.1 h.distinct
  obtain ⟨hi', rfl⟩ := List.getElem?_eq_some_iff.1 hi
  obtain ⟨hj', rfl⟩ := List.getElem?_eq_some_iff.1 hj
  rcases Nat.lt_or_gt_of_ne hij with h | h
  · exact fun opens' => pair j i hj' hi' h id opens' opens
  · exact pair i j hi' hj' h id opens

/-- In a run of logins, one that is spared is not refused anything. -/
theorem safe_of_run {config : AuthConfig} {db : AuthDb S} {ext : Redis S} {ops : List (AuthOp S)}
    {c : AuthSystem S} {i : Nat} {op : AuthOp S} {id : Id} (logins : ∀ op ∈ ops, op.isLogin = true)
    (hashed : WellHashed db) (fresh : FreshIds db ops) (hop : ops[i]? = some op) (valid : op.Valid db)
    (opens : op.opens = some id)
    (run : Runs (Config.Spares (M := Expiry) (loginSetting db id) i) (begins config db ext ops) c) :
    ∀ t, c.threads[i]? = some t → t.Safe (loginSetting db id) c.db := by
  have good : (begins config db ext ops).Good Grows
      (fun j => Admitted fun d l F => ∃ op, ops[j]? = some op ∧ op.Writes config d l F)
      (fun _ _ => True) fun _ _ _ => True := by
    refine Config.good_start Grows.refl fun j p hp => ?_
    rw [List.getElem?_map, Option.map_eq_some_iff] at hp
    obtain ⟨op', hop', rfl⟩ := hp
    exact op'.commits.mono (fun s => ⟨s, .refl s⟩)
      (fun _ _ _ hF => ⟨op', hop', hF⟩) (fun _ _ => trivial) [] rfl
  refine (run.safe Grows.refl Grows.trans good (fun c => WellHashed c.db ∧ UsersKept db c.db)
    ⟨hashed, .refl db⟩ (fun _ h => h) (fun _ => rfl) (fun h h' => h'.trans h) ?_ ?_).2.2
  · intro t ht
    simp only [begins, Config.start, List.map_map, List.getElem?_map, hop, Option.map_some,
      Option.some.injEq] at ht
    subst ht
    have closed : ∀ f ∈ ([] : List (Frame (AuthStmt S))), f.isOpen = true := by simp
    exact ⟨closed, db, rfl, op.succeeds valid opens (fresh.free op (List.mem_of_getElem? hop) id opens)⟩
  · intro c c' eff moves kept
    cases moves with
    | internal _ db _ _ _ =>
      rw [db]
      exact ⟨.refl _, kept, fun _ => rfl⟩
    | called j call answered _ db _ _ _ =>
      rw [db]
      exact ⟨.refl _, kept, fun _ => rfl⟩
    | unsent j call _ db _ _ _ =>
      rw [db]
      exact ⟨.refl _, kept, fun _ => rfl⟩
    | commit j nested F admitted _ db _ _ _ =>
      rw [db]
      rcases admitted with rfl | ⟨rfl, op', hop', writes⟩
      · exact ⟨.refl _, kept, fun _ => rfl⟩
      · obtain ⟨kept', others⟩ := kept_of_writes (logins op' (List.mem_of_getElem? hop')) writes kept
        refine ⟨grows_applyAll F c.db, kept', fun hne => others id ?_⟩
        exact fresh.opens_ne hop hop' (fun same => hne false F (same ▸ rfl)) opens

/-- **Logins at the same time.** In a run of logins of any users, a call with valid
credentials ends in no error, and can go on until it has returned or waits, as
long as no operation of its own fails, the rate limiter lets it through, and no
session holds the placeholder while it inserts its own. -/
theorem logins_succeed {config : AuthConfig} {db : AuthDb S} {ext : Redis S} {ops : List (AuthOp S)}
    {c : AuthSystem S} {i : Nat} {op : AuthOp S} {id : Id} (logins : ∀ op ∈ ops, op.isLogin = true)
    (hashed : WellHashed db) (fresh : FreshIds db ops) (hop : ops[i]? = some op) (valid : op.Valid db)
    (opens : op.opens = some id)
    (run : Runs (Config.Spares (M := Expiry) (loginSetting db id) i) (begins config db ext ops) c) :
    (∀ t, c.threads[i]? = some t → t.threw = false) ∧
      ∃ c', Runs (fun c a => Config.Spares (M := Expiry) (loginSetting db id) i c a ∧ a = .thread i .ok) c c' ∧
        (c'.Returned i ∨ c'.Held (loginSetting db id) i) := by
  have safe {c : AuthSystem S}
      (run : Runs (Config.Spares (M := Expiry) (loginSetting db id) i) (begins config db ext ops) c) :=
    safe_of_run logins hashed fresh hop valid opens run
  have thread : i < c.threads.length := by
    rw [run.length_threads, begins, Config.start, List.length_map, List.length_map]
    exact (List.getElem?_eq_some_iff.1 hop).1
  have ht := List.getElem?_eq_getElem thread
  exact ⟨fun t ht => (safe run t ht).not_threw, Runs.returns_or_waits (fun _ run => safe run) run ht⟩

/-- Two users, with the passwords `plain 1` and `plain 2`; the second administers an organization. -/
def twoUsers : AuthDb Text :=
  { oneUser with
    users := oneUser.users.insert
      { id := .ofNat 4, email := "c@d".toList, username := [], passwordHash := .hashed (.plain 2) 0 }
    admins := [⟨.ofNat 4, false, true⟩] }

/-- One of them logs in, and the other logs in as an admin. -/
def twoLogins : List (AuthOp Text) :=
  [.login ⟨"a@b".toList, .plain 1⟩ { ip := "1" } ⟨.ofNat 2, 0⟩,
    .adminLogin ⟨"c@d".toList, .plain 2⟩ { ip := "2" } .organizationAdmin ⟨.ofNat 3, 0⟩]

theorem twoLogins_valid : ∀ op ∈ twoLogins, op.isLogin = true ∧ op.Valid twoUsers := by
  intro op hop
  rcases List.mem_cons.1 hop with rfl | hop
  · exact ⟨rfl, _, rfl, rfl, by decide, rfl⟩
  · rw [List.mem_singleton.1 hop]
    exact ⟨rfl, _, rfl, rfl, by decide, by decide⟩

theorem twoLogins_fresh : WellHashed twoUsers ∧ FreshIds twoUsers twoLogins := by
  refine ⟨nofun, ?_, fun _ _ _ _ => rfl⟩
  have differ : (Cuid.ofNat 3 : Id) ≠ Cuid.ofNat 2 := by decide
  simp [twoLogins, AuthOp.opens, differ]

/-- When the first login has stored its token, the second succeeds. -/
theorem second_login_succeeds : ∃ c : AuthSystem Text,
    Runs (Config.Spares (M := Expiry) (loginSetting twoUsers (.ofNat 3)) 1)
      (begins {} twoUsers {} twoLogins) c ∧ c.Returned 1 ∧ ∀ t, c.threads[1]? = some t → t.threw = false := by
  obtain ⟨c, run, hc⟩ := Runs.of_replay_any (Config.Spares (M := Expiry) (loginSetting twoUsers (.ofNat 3)) 1)
    (begins {} twoUsers {} twoLogins) (authTurns [(0, 26), (1, 24)])
    (fun c : AuthSystem Text => (c.threads[1]?).any Thread.returned = true) (by decide +kernel)
  exact ⟨c, run, (Option.any_eq_true _ _).1 hc, (logins_succeed (fun op hop => (twoLogins_valid op hop).1)
    twoLogins_fresh.1 twoLogins_fresh.2 rfl (twoLogins_valid _ (by simp [twoLogins])).2 rfl run).1⟩

/-- When the first login stops before it has stored its token, the second fails
although its credentials are valid. -/
theorem second_login_collides : (∀ op ∈ twoLogins, op.isLogin = true ∧ op.Valid twoUsers) ∧
    ∃ c : AuthSystem Text,
      Runs (fun _ (a : Action Expiry AuthError) => a.succeeds = true) (begins {} twoUsers {} twoLogins) c ∧
        (c.threads[1]?).bind Thread.thrown = some .uniqueViolation :=
  ⟨twoLogins_valid, Runs.of_replay_any (fun _ (a : Action Expiry AuthError) => a.succeeds = true)
    (begins {} twoUsers {} twoLogins) (authTurns [(0, 9), (1, 12)])
    (fun c : AuthSystem Text => (c.threads[1]?).bind Thread.thrown = some .uniqueViolation)
    (by decide +kernel)⟩

end Heightt.Auth
