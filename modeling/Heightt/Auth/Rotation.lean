import Heightt.Auth.Operations

/-!
# Rotation of refresh tokens

A login issues the first token of its session and every refresh the next one;
the session keeps a hash of the last. `refresh` compares the hash it has read
and writes the new one in a statement of its own, and the new token differs from
the old one only if the second has changed. `Steady` says that neither matters;
then the tokens of a session form a chain, and each refresh consumes its end.
-/

namespace Heightt.Auth

open ReadCommitted Store Database AuthService CookieService TokenService

variable {S : Type}

namespace AuthStmt

/-- The token that the statement issues for the session. -/
def issues (id : Id) : AuthStmt S → Option S
  | storeRefreshToken id' token _ => if id' = id then some token else none
  | rotateRefreshToken seen _ token _ _ => if seen.id = id then some token else none
  | _ => none

/-- The token that the statement consumes. -/
def presents : AuthStmt S → Option S
  | rotateRefreshToken _ presented _ _ _ => some presented
  | _ => none

/-- The statement opens no session and stores no token. -/
def keepsTokens : AuthStmt S → Bool
  | createSession _ | storeRefreshToken .. | rotateRefreshToken .. => false
  | _ => true

end AuthStmt

/-- The tokens issued for a session, in order. -/
def issuedTokens (log : AuthLog S) (id : Id) : List S :=
  log.flatMap fun e => e.writes.filterMap (AuthStmt.issues id)

/-- The tokens that refreshes consumed, in order. -/
def presentedTokens (log : AuthLog S) : List S := log.flatMap fun e => e.writes.filterMap AuthStmt.presents

theorem issuedTokens_append (log : AuthLog S) (e : Commit (AuthDb S) (AuthStmt S)) (id : Id) :
    issuedTokens (log ++ [e]) id = issuedTokens log id ++ e.writes.filterMap (AuthStmt.issues id) := by
  simp [issuedTokens]

theorem presentedTokens_append (log : AuthLog S) (e : Commit (AuthDb S) (AuthStmt S)) :
    presentedTokens (log ++ [e]) = presentedTokens log ++ e.writes.filterMap AuthStmt.presents := by
  simp [presentedTokens]

section Later

variable [Crypto S]

/-- The `iat` of a token. -/
def issuedAt (token : S) : Option Nat :=
  match verifyAsync 0 token with
  | .ok c => some c.iat
  | .error _ => none

/-- The token was signed in a later second than the other. -/
def Later (token other : S) : Prop :=
  (issuedAt token).any (fun a => (issuedAt other).any fun b => decide (b < a)) = true

instance (token other : S) : Decidable (Later token other) := inferInstanceAs (Decidable (_ = true))

theorem later_iff {token other : S} :
    Later token other ↔ ∃ a b, issuedAt token = some a ∧ issuedAt other = some b ∧ b < a := by
  simp [Later, Option.any_eq_true]

theorem Later.ne {token other : S} (h : Later token other) : other ≠ token := by
  rintro rfl
  obtain ⟨a, b, ha, hb, hlt⟩ := later_iff.1 h
  rw [ha] at hb
  cases hb
  omega

theorem Later.trans {t t' t'' : S} (h : Later t t') (h' : Later t' t'') : Later t t'' := by
  obtain ⟨a, b, ha, hb, hlt⟩ := later_iff.1 h
  obtain ⟨b', c, hb', hc, hlt'⟩ := later_iff.1 h'
  rw [hb] at hb'
  cases hb'
  exact later_iff.2 ⟨a, c, ha, hc, by omega⟩

end Later

variable [DecidableEq S] [Crypto S]

/-- A refresh finds its session as it has read it, not expired, and signs the new
token in a later second than the one that was presented. -/
def AuthStmt.Steady (d : AuthDb S) : AuthStmt S → Prop
  | rotateRefreshToken seen presented token _ _ =>
    d.sessions.find seen.id = some seen ∧ d.now < seen.expiresAt ∧ Later token presented
  | _ => True

instance (d : AuthDb S) (w : AuthStmt S) : Decidable (w.Steady d) := by
  cases w <;> unfold AuthStmt.Steady <;> infer_instance

/-- Every refresh that commits is steady. -/
def Steady (c : AuthSystem S) : Effect (AuthStmt S) (AuthCall S) → Prop
  | .commit _ _ F => ∀ w ∈ F, w.Steady c.db
  | _ => True

instance (c : AuthSystem S) (eff : Effect (AuthStmt S) (AuthCall S)) : Decidable (Steady c eff) := by
  cases eff <;> unfold Steady <;> infer_instance

/-- The refresh at `e`, after the transactions `log`, consumed the last token
issued for a session that was usable and of the client that the caller expects. -/
def Accepted (config : AuthConfig) (ops : List (AuthOp S)) (log : AuthLog S)
    (e : Commit (AuthDb S) (AuthStmt S)) (seen : Session S) (presented : S) : Prop :=
  (issuedTokens log seen.id).getLast? = some presented ∧ e.before.sessions.find seen.id = some seen ∧
    seen.isActive = true ∧ seen.revokedAt = none ∧ e.before.now < seen.expiresAt ∧
    ∃ request expectedClient salt, ops[e.thread]? = some (.refresh request expectedClient salt) ∧
      refreshCookie config request expectedClient = some presented ∧
      seen.authClient = expectedClient.getD .user

/-- **Rotation**, over the transactions `log`. -/
structure Rotation (config : AuthConfig) (ops : List (AuthOp S)) (log : AuthLog S) : Prop where
  /-- A refresh succeeds only with the last token issued for a usable session of its client. -/
  accepted : ∀ log' e, log' ++ [e] <+: log → ∀ seen presented token hash at_,
    AuthStmt.rotateRefreshToken seen presented token hash at_ ∈ e.writes →
      Accepted config ops log' e seen presented
  /-- No token is consumed twice. -/
  single : (presentedTokens log).Nodup

/-- What a session row says of the tokens issued for it. -/
def Records (log : AuthLog S) (id : Id) (s : Session S) : Prop :=
  (s.refreshTokenHash = pending ∧ issuedTokens log id = []) ∨
    ∃ (c : Claims) (salt : Nat), (issuedTokens log id).getLast? = some (signAsync c) ∧
      s.refreshTokenHash = Crypto.hash (signAsync c) salt ∧ c.sub = s.userId ∧ c.sessionId = some id ∧
      c.authClient = some s.authClient

/-- The tokens of each session form a chain whose end the row keeps. -/
structure Chain (d : AuthDb S) (log : AuthLog S) : Prop where
  records : ∀ id s, d.sessions.find id = some s → Records log id s
  absent : ∀ id, d.sessions.find id = none → issuedTokens log id = []
  ordered : ∀ id, (issuedTokens log id).Pairwise fun t t' => Later t' t
  /-- A token that was consumed is not the last of its session. -/
  spent : ∀ t ∈ presentedTokens log, ∃ id c, t = signAsync c ∧ c.sessionId = some id ∧
    t ∈ (issuedTokens log id).dropLast
  /-- What a login has created is there, and is that login's alone. -/
  opened : ∀ i session, AuthStmt.createSession session ∈ writtenBy log i →
    ∃ s, d.sessions.find session.id = some s ∧ s.userId = session.userId ∧ s.authClient = session.authClient
  own : ∀ i j s s', AuthStmt.createSession s ∈ writtenBy log i →
    AuthStmt.createSession s' ∈ writtenBy log j → s.id = s'.id → i = j
  /-- It has no token before the login stores one. -/
  waiting : ∀ i session, AuthStmt.createSession session ∈ writtenBy log i →
    (∀ w ∈ writtenBy log i, w.issues session.id = none) → issuedTokens log session.id = []

/-- What matters of a session for its tokens. -/
def Session.core (s : Session S) : Id × S × AuthClient := (s.userId, s.refreshTokenHash, s.authClient)

omit [DecidableEq S] [Crypto S] in
/-- Other statements leave the sessions' tokens alone. -/
theorem core_of_keepsTokens {w : AuthStmt S} {d : AuthDb S} (keeps : w.keepsTokens = true) (id : Id) :
    ((w.apply d).sessions.find id).map Session.core = (d.sessions.find id).map Session.core := by
  have mapped (f : Session S → Session S) (hf : ∀ s, (f s).id = s.id) (hcore : ∀ s, (f s).core = s.core) :
      ((d.sessions.mapRows f hf).find id).map Session.core = (d.sessions.find id).map Session.core := by
    rw [Table.find_mapRows, Option.map_map]
    exact congrArg (fun g => (d.sessions.find id).map g) (funext hcore)
  cases w with
  | createSession => cases keeps
  | storeRefreshToken => cases keeps
  | rotateRefreshToken => cases keeps
  | revokeSession id' at_ reason =>
    exact mapped (fun s => if s.id = id' then s.revoke at_ reason else s) (fun s => by split <;> rfl)
      fun s => by split <;> rfl
  | revokeSessions ids w at_ reason =>
    exact mapped (fun s => if s.id ∈ ids ∧ w.holds s then s.revoke at_ reason else s)
      (fun s => by split <;> rfl) fun s => by split <;> rfl
  | _ => rfl

omit [Crypto S] in
theorem core_applyAll {F : List (AuthStmt S)} {d : AuthDb S} (keeps : ∀ w ∈ F, w.keepsTokens = true)
    (id : Id) :
    ((applyAll F d).sessions.find id).map Session.core = (d.sessions.find id).map Session.core := by
  induction F generalizing d with
  | nil => rfl
  | cons w F ih =>
    rw [applyAll_cons, ih fun w hw => keeps w (List.mem_cons_of_mem _ hw)]
    exact core_of_keepsTokens (keeps w List.mem_cons_self) id

omit [DecidableEq S] in
theorem Records.congr {log log' : AuthLog S} {id : Id} {s s' : Session S}
    (issued : issuedTokens log' id = issuedTokens log id) (core : s'.core = s.core)
    (h : Records log id s) : Records log' id s' := by
  simp only [Session.core, Prod.mk.injEq] at core
  obtain ⟨owner, hash, client⟩ := core
  rwa [Records, issued, owner, hash, client]

omit [DecidableEq S] [Crypto S] in
theorem issuedTokens_of_keeps {log : AuthLog S} {e : Commit (AuthDb S) (AuthStmt S)}
    (keeps : ∀ w ∈ e.writes, w.keepsTokens = true) (id : Id) :
    issuedTokens (log ++ [e]) id = issuedTokens log id := by
  rw [issuedTokens_append, List.filterMap_eq_nil_iff.2, List.append_nil]
  intro w hw
  have := keeps w hw
  cases w <;> first | rfl | cases this

omit [DecidableEq S] [Crypto S] in
theorem presentedTokens_of_keeps {log : AuthLog S} {e : Commit (AuthDb S) (AuthStmt S)}
    (keeps : ∀ w ∈ e.writes, w.keepsTokens = true) :
    presentedTokens (log ++ [e]) = presentedTokens log := by
  rw [presentedTokens_append, List.filterMap_eq_nil_iff.2, List.append_nil]
  intro w hw
  have := keeps w hw
  cases w <;> first | rfl | cases this

omit [DecidableEq S] [Crypto S] in
theorem mem_writtenBy_append {log : AuthLog S} {e : Commit (AuthDb S) (AuthStmt S)} {i : Nat}
    {w : AuthStmt S} (h : w ∈ writtenBy log i) : w ∈ writtenBy (log ++ [e]) i := by
  rw [writtenBy_append]
  exact List.mem_append_left _ h

/-- A transaction that opens no session and stores no token. -/
theorem chain_of_keeps {d : AuthDb S} {log : AuthLog S} {i : Nat} {F : List (AuthStmt S)}
    (h : Chain d log) (keeps : ∀ w ∈ F, w.keepsTokens = true) :
    Chain (applyAll F d) (log ++ [⟨i, F, d⟩]) := by
  have issued (id : Id) : issuedTokens (log ++ [⟨i, F, d⟩]) id = issuedTokens log id :=
    issuedTokens_of_keeps keeps id
  have core (id : Id) := core_applyAll (d := d) keeps id
  have created {j : Nat} {session : Session S}
      (hj : AuthStmt.createSession session ∈ writtenBy (log ++ [⟨i, F, d⟩]) j) :
      AuthStmt.createSession session ∈ writtenBy log j := by
    rw [writtenBy_append] at hj
    rcases List.mem_append.1 hj with hj | hj
    · exact hj
    · split at hj
      · cases keeps _ hj
      · cases hj
  constructor
  · intro id s hs
    have := core id
    rw [hs, Option.map_some] at this
    obtain ⟨s₀, hs₀, same⟩ := Option.map_eq_some_iff.1 this.symm
    exact (h.records id s₀ hs₀).congr (issued id) same.symm
  · intro id hid
    have := core id
    rw [hid, Option.map_none] at this
    rw [issued]
    exact h.absent id (Option.map_eq_none_iff.1 this.symm)
  · exact fun id => issued id ▸ h.ordered id
  · rw [presentedTokens_of_keeps keeps]
    intro t ht
    obtain ⟨id, c, htc, hid, hmem⟩ := h.spent t ht
    exact ⟨id, c, htc, hid, issued id ▸ hmem⟩
  · intro j session hj
    obtain ⟨s, hs, owner, client⟩ := h.opened j session (created hj)
    obtain ⟨s', hs', same⟩ := Option.map_eq_some_iff.1
      ((core session.id).trans (congrArg (Option.map Session.core) hs))
    simp only [Session.core, Prod.mk.injEq] at same
    exact ⟨s', hs', same.1.trans owner, same.2.2.trans client⟩
  · exact fun j j' s s' hj hj' same => h.own j j' s s' (created hj) (created hj') same
  · intro j session hj none_issued
    rw [issued]
    exact h.waiting j session (created hj) fun w hw => none_issued w (mem_writtenBy_append hw)

/-- A login opens its session. -/
theorem chain_of_create {d : AuthDb S} {log : AuthLog S} {i : Nat} {session : Session S}
    (h : Chain d log) (placeholder : session.refreshTokenHash = pending)
    (ok : check (AuthStmt.createSession session) d = none) :
    Chain (AuthStmt.apply (.createSession session) d)
      (log ++ [⟨i, [.createSession session], d⟩]) := by
  have free : d.sessions.find session.id = none := by
    simp only [check, AuthStmt.check, ite_eq_right_iff, reduceCtorEq, imp_false, not_or,
      Option.not_isSome_iff_eq_none] at ok
    exact ok.1
  have find (id : Id) : (AuthStmt.apply (.createSession session) d).sessions.find id =
      if session.id = id then some session else d.sessions.find id := Table.find_insert free id
  have issued (id : Id) :
      issuedTokens (log ++ [⟨i, [.createSession session], d⟩]) id = issuedTokens log id := by
    rw [issuedTokens_append]
    exact List.append_nil _
  have created {j : Nat} {s : Session S}
      (hj : AuthStmt.createSession s ∈ writtenBy (log ++ [⟨i, [.createSession session], d⟩]) j) :
      AuthStmt.createSession s ∈ writtenBy log j ∨ j = i ∧ s = session := by
    rw [writtenBy_append] at hj
    rcases List.mem_append.1 hj with hj | hj
    · exact .inl hj
    · split at hj
      · rename_i hi
        simp only [List.mem_singleton, AuthStmt.createSession.injEq] at hj
        exact .inr ⟨hi.symm, hj⟩
      · cases hj
  have taken {j : Nat} {s : Session S} (hj : AuthStmt.createSession s ∈ writtenBy log j) :
      s.id ≠ session.id := by
    intro same
    obtain ⟨s', hs', -⟩ := h.opened j s hj
    rw [same, free] at hs'
    cases hs'
  constructor
  · intro id s hs
    rw [find] at hs
    split at hs
    · rename_i hid
      cases hs
      exact .inl ⟨placeholder, by rw [issued, ← hid]; exact h.absent _ free⟩
    · exact (h.records id s hs).congr (issued id) rfl
  · intro id hid
    rw [find] at hid
    split at hid
    · cases hid
    · rw [issued]
      exact h.absent id hid
  · exact fun id => issued id ▸ h.ordered id
  · intro t ht
    rw [presentedTokens_append] at ht
    obtain ⟨id, c, htc, hid, hmem⟩ := h.spent t (by simpa [AuthStmt.presents] using ht)
    exact ⟨id, c, htc, hid, issued id ▸ hmem⟩
  · intro j s hj
    rcases created hj with hj | ⟨-, rfl⟩
    · obtain ⟨s', hs', owner⟩ := h.opened j s hj
      refine ⟨s', ?_, owner⟩
      rw [find, if_neg (taken hj).symm]
      exact hs'
    · exact ⟨s, by rw [find, if_pos rfl], rfl, rfl⟩
  · intro j j' s s' hj hj' same
    rcases created hj with old | ⟨hi, rfl⟩
    · rcases created hj' with old' | ⟨-, rfl⟩
      · exact h.own j j' s s' old old' same
      · exact absurd same (taken old)
    · rcases created hj' with old' | ⟨hi', -⟩
      · exact absurd same.symm (taken old')
      · exact hi.trans hi'.symm
  · intro j s hj none_issued
    rw [issued]
    rcases created hj with old | ⟨-, rfl⟩
    · exact h.waiting j s old fun w hw => none_issued w (mem_writtenBy_append hw)
    · exact h.absent _ free

omit [DecidableEq S] in
/-- A statement issues the next token of a session and stores its hash. -/
theorem chain_of_issue {d : AuthDb S} {log : AuthLog S} {i : Nat} {w : AuthStmt S} {s : Session S}
    (c : Claims) (salt : Nat) (h : Chain d log) (found : d.sessions.find s.id = some s)
    (core : ∀ id, ((w.apply d).sessions.find id).map Session.core =
      if id = s.id then some (s.userId, Crypto.hash (signAsync c) salt, s.authClient)
      else (d.sessions.find id).map Session.core)
    (issues : ∀ id, w.issues id = if s.id = id then some (signAsync c) else none)
    (create : ∀ session, w ≠ .createSession session) (owner : c.sub = s.userId)
    (named : c.sessionId = some s.id) (client : c.authClient = some s.authClient)
    (later : ∀ t ∈ issuedTokens log s.id, Later (signAsync c) t)
    (presents : ∀ t, w.presents = some t →
      ∃ c', t = signAsync c' ∧ c'.sessionId = some s.id ∧ t ∈ issuedTokens log s.id)
    (waiting : ∀ j session, AuthStmt.createSession session ∈ writtenBy log j →
      (∀ v ∈ writtenBy (log ++ [⟨i, [w], d⟩]) j, v.issues session.id = none) → session.id ≠ s.id) :
    Chain (w.apply d) (log ++ [⟨i, [w], d⟩]) := by
  have issued_self : issuedTokens (log ++ [⟨i, [w], d⟩]) s.id = issuedTokens log s.id ++ [signAsync c] := by
    simp [issuedTokens_append, issues]
  have issued_ne {id : Id} (hid : id ≠ s.id) :
      issuedTokens (log ++ [⟨i, [w], d⟩]) id = issuedTokens log id := by
    simp [issuedTokens_append, issues, Ne.symm hid]
  have created {j : Nat} {session : Session S}
      (hj : AuthStmt.createSession session ∈ writtenBy (log ++ [⟨i, [w], d⟩]) j) :
      AuthStmt.createSession session ∈ writtenBy log j := by
    rw [writtenBy_append] at hj
    rcases List.mem_append.1 hj with hj | hj
    · exact hj
    · split at hj
      · exact absurd (List.mem_singleton.1 hj).symm (create session)
      · cases hj
  constructor
  · intro id s' hs'
    have hcore := core id
    rw [hs', Option.map_some] at hcore
    by_cases hid : id = s.id
    · rw [if_pos hid, Option.some.injEq] at hcore
      simp only [Session.core, Prod.mk.injEq] at hcore
      obtain ⟨howner, hhash, hclient⟩ := hcore
      refine .inr ⟨c, salt, ?_, hhash, owner.trans howner.symm, hid ▸ named, hclient ▸ client⟩
      rw [hid, issued_self, List.getLast?_append, List.getLast?_singleton]
      rfl
    · rw [if_neg hid] at hcore
      obtain ⟨s₀, hs₀, same⟩ := Option.map_eq_some_iff.1 hcore.symm
      exact (h.records id s₀ hs₀).congr (issued_ne hid) same.symm
  · intro id habsent
    have hcore := core id
    rw [habsent, Option.map_none] at hcore
    by_cases hid : id = s.id
    · rw [if_pos hid] at hcore
      cases hcore
    · rw [if_neg hid] at hcore
      rw [issued_ne hid]
      exact h.absent id (Option.map_eq_none_iff.1 hcore.symm)
  · intro id
    by_cases hid : id = s.id
    · rw [hid, issued_self, List.pairwise_append]
      refine ⟨h.ordered s.id, List.pairwise_singleton _ _, fun t ht t' ht' => ?_⟩
      exact List.mem_singleton.1 ht' ▸ later t ht
    · rw [issued_ne hid]
      exact h.ordered id
  · intro t ht
    rw [presentedTokens_append] at ht
    rcases List.mem_append.1 ht with ht | ht
    · obtain ⟨id, c', htc, hid, hmem⟩ := h.spent t ht
      refine ⟨id, c', htc, hid, ?_⟩
      by_cases hs : id = s.id
      · rw [hs, issued_self, List.dropLast_concat]
        exact List.mem_of_mem_dropLast (hs ▸ hmem)
      · rwa [issued_ne hs]
    · obtain ⟨v, hv, hpresents⟩ := List.mem_filterMap.1 ht
      rw [List.mem_singleton.1 hv] at hpresents
      obtain ⟨c', htc, hid, hmem⟩ := presents t hpresents
      refine ⟨s.id, c', htc, hid, ?_⟩
      rwa [issued_self, List.dropLast_concat]
  · intro j session hj
    obtain ⟨s', hs', howner, hclient⟩ := h.opened j session (created hj)
    have hcore := core session.id
    by_cases hid : session.id = s.id
    · rw [hid, found] at hs'
      cases hs'
      rw [if_pos hid] at hcore
      obtain ⟨s'', hs'', same⟩ := Option.map_eq_some_iff.1 hcore
      simp only [Session.core, Prod.mk.injEq] at same
      exact ⟨s'', hs'', same.1.trans howner, same.2.2.trans hclient⟩
    · rw [if_neg hid, hs', Option.map_some] at hcore
      obtain ⟨s'', hs'', same⟩ := Option.map_eq_some_iff.1 hcore
      simp only [Session.core, Prod.mk.injEq] at same
      exact ⟨s'', hs'', same.1.trans howner, same.2.2.trans hclient⟩
  · exact fun j j' s s' hj hj' same => h.own j j' s s' (created hj) (created hj') same
  · intro j session hj none_issued
    rw [issued_ne (waiting j session (created hj) none_issued)]
    exact h.waiting j session (created hj) fun v hv => none_issued v (mem_writtenBy_append hv)

omit [DecidableEq S] in
/-- A login stores its first token. -/
theorem chain_of_store {d : AuthDb S} {log : AuthLog S} {i : Nat} {session : Session S} {c : Claims}
    {salt : Nat} (h : Chain d log) (first : writtenBy log i = [.createSession session])
    (owner : c.sub = session.userId) (named : c.sessionId = some session.id)
    (client : c.authClient = some session.authClient) :
    Chain (AuthStmt.apply (.storeRefreshToken session.id (signAsync c) (Crypto.hash (signAsync c) salt)) d)
      (log ++ [⟨i, [.storeRefreshToken session.id (signAsync c) (Crypto.hash (signAsync c) salt)], d⟩]) := by
  have mine : AuthStmt.createSession session ∈ writtenBy log i := first ▸ List.mem_singleton_self _
  obtain ⟨s, hs, howner, hclient⟩ := h.opened i session mine
  have hid : s.id = session.id := Table.find_key hs
  have none_yet : issuedTokens log session.id = [] := by
    refine h.waiting i session mine fun w hw => ?_
    rw [first, List.mem_singleton] at hw
    rw [hw]
    rfl
  refine chain_of_issue (s := s) c salt h (hid ▸ hs) (fun id => ?_) (fun id => ?_)
    (fun _ h => by cases h) (owner.trans howner.symm) (hid ▸ named) (hclient ▸ client) ?_
    (fun t ht => by cases ht) fun j session' hj none_issued same => ?_
  · rw [hid]
    unfold AuthStmt.apply
    rw [Table.find_modify]
    split
    · rename_i heq
      rw [heq, hs]
      rfl
    · rfl
  · rw [hid]
    rfl
  · rw [hid, none_yet]
    exact fun _ ht => by cases ht
  · obtain rfl := h.own j i session' session hj mine (same.trans hid)
    have stored := none_issued
      (.storeRefreshToken session.id (signAsync c) (Crypto.hash (signAsync c) salt)) (by
        rw [writtenBy_append]
        simp)
    simp [AuthStmt.issues, same, hid] at stored

omit [DecidableEq S] in
/-- A signed token that `verifyRefreshToken` does not report as expired has its claims. -/
theorem payload_of_signed {now : Nat} {c : Claims} {payload : Payload}
    (verified : verifyRefreshToken now (signAsync c : S) = some payload)
    (unexpired : payload.expired = false) : payload = c.payload := by
  unfold verifyRefreshToken at verified
  rw [Crypto.verifyAsync_signAsync] at verified
  split at verified
  · rename_i hc
    split at hc
    · cases hc
      exact (Option.some.inj verified).symm
    · cases hc
  · cases verified
    cases unexpired
  · rename_i hc
    split at hc <;> cases hc
  · cases verified

omit [DecidableEq S] in
/-- A token whose hash a session keeps is the last one issued for it. -/
theorem last_of_matched {log : AuthLog S} {id : Id} {s : Session S} {presented : S}
    (h : Records log id s) (matched : verify s.refreshTokenHash presented = true) :
    ∃ c, presented = signAsync c ∧ (issuedTokens log id).getLast? = some presented ∧ c.sub = s.userId ∧
      c.sessionId = some id ∧ c.authClient = some s.authClient := by
  rcases h with ⟨placeholder, -⟩ | ⟨c, salt, last, hash, owner, named, client⟩
  · rw [placeholder, Crypto.verify_pending] at matched
    cases matched
  · rw [hash, Crypto.verify_hash] at matched
    exact ⟨c, matched, matched ▸ last, owner, named, client⟩

omit [DecidableEq S] in
/-- The last of a session's tokens is later than the others, so whatever is later
than it is later than all. -/
theorem Chain.later_of_last {d : AuthDb S} {log : AuthLog S} {id : Id} {last token : S} (h : Chain d log)
    (hlast : (issuedTokens log id).getLast? = some last) (later : Later token last) :
    ∀ t ∈ issuedTokens log id, Later token t := by
  intro t ht
  obtain ⟨l, hl⟩ := List.getLast?_eq_some_iff.1 hlast
  have ordered := h.ordered id
  rw [hl] at ht ordered
  rcases List.mem_append.1 ht with ht | ht
  · exact later.trans ((List.pairwise_append.1 ordered).2.2 t ht last (List.mem_singleton_self _))
  · exact List.mem_singleton.1 ht ▸ later

omit [DecidableEq S] in
/-- The last token of a session has not been consumed. -/
theorem Chain.last_unspent {d : AuthDb S} {log : AuthLog S} {id : Id} {c : Claims} (h : Chain d log)
    (hlast : (issuedTokens log id).getLast? = some (signAsync c)) (named : c.sessionId = some id) :
    signAsync c ∉ presentedTokens log := by
  intro mem
  obtain ⟨id', c', hc, hid, hmem⟩ := h.spent _ mem
  rw [← Crypto.signAsync_injective hc, named, Option.some.injEq] at hid
  subst hid
  obtain ⟨l, hl⟩ := List.getLast?_eq_some_iff.1 hlast
  have ordered := h.ordered id
  rw [hl] at hmem ordered
  rw [List.dropLast_concat] at hmem
  exact ((List.pairwise_append.1 ordered).2.2 _ hmem _ (List.mem_singleton_self _)).ne rfl

/-- A refresh consumes the last token of its session and issues the next. -/
theorem chain_of_rotate {config : AuthConfig} {ops : List (AuthOp S)} {d : AuthDb S} {log : AuthLog S}
    {i : Nat} {request : Request S} {expectedClient : Option AuthClient} {salt : Nat}
    {F : List (AuthStmt S)} (h : Chain d log)
    (hop : ops[i]? = some (.refresh request expectedClient salt))
    (writes : RefreshWrites config request expectedClient salt F) (steady : ∀ w ∈ F, w.Steady d) :
    Chain (applyAll F d) (log ++ [⟨i, F, d⟩]) ∧ ∃ seen presented token hash at_,
      F = [.rotateRefreshToken seen presented token hash at_] ∧ presented ∉ presentedTokens log ∧
        Accepted config ops log ⟨i, F, d⟩ seen presented := by
  cases writes with
  | rotate seen presented token payload email verifiedAt checkedAt signedAt lastUsedAt cookie verified
      unexpired client usable matched signed =>
    obtain ⟨found, current, later⟩ := steady _ (List.mem_singleton_self _)
    obtain ⟨c, hpresented, last, owner, named, hclient⟩ :=
      last_of_matched (h.records seen.id seen found) matched
    have hpayload : payload = c.payload := payload_of_signed (hpresented ▸ verified) unexpired
    have htoken : payload.authClient = some seen.authClient := by rw [hpayload]; exact hclient
    have mem : presented ∈ issuedTokens log seen.id := List.mem_of_getLast? last
    rw [htoken, Option.getD_some] at signed
    simp only [SessionWhere.holds, refreshable, Bool.and_eq_true, Option.all_some, decide_eq_true_eq,
      Bool.not_true, Bool.false_or, Option.isNone_iff_eq_none] at usable
    obtain ⟨⟨⟨⟨⟨active, -⟩, -⟩, sameClient⟩, unrevoked⟩, -⟩ := usable
    constructor
    · subst signed
      refine chain_of_issue (w := .rotateRefreshToken seen presented _ _ lastUsedAt) (refreshClaims
        signedAt config.refreshExpiry seen.userId email seen.id seen.authClient) salt h found
        (fun id => ?_) (fun _ => rfl) (fun _ h => by cases h) rfl rfl rfl (h.later_of_last last later) ?_ ?_
      · unfold AuthStmt.apply
        rw [Table.find_modify]
        split
        · rename_i heq
          rw [heq, found]
          rfl
        · rfl
      · intro t ht
        cases ht
        exact ⟨c, hpresented, named, mem⟩
      · intro j session hj none_issued same
        have := h.waiting j session hj fun v hv => none_issued v (mem_writtenBy_append hv)
        rw [same] at this
        rw [this] at mem
        cases mem
    · refine ⟨seen, presented, _, _, _, rfl, ?_, last, found, active, unrevoked, current, ?_⟩
      · rw [hpresented]
        exact h.last_unspent (hpresented ▸ last) named
      · exact ⟨request, expectedClient, salt, hop, cookie, sameClient⟩

omit [DecidableEq S] [Crypto S] in
/-- A transaction is added that consumes no token, or one that is accepted. -/
theorem Rotation.append {config : AuthConfig} {ops : List (AuthOp S)} {log : AuthLog S}
    {e : Commit (AuthDb S) (AuthStmt S)} (h : Rotation config ops log)
    (accepted : ∀ seen presented token hash at_,
      AuthStmt.rotateRefreshToken seen presented token hash at_ ∈ e.writes →
        Accepted config ops log e seen presented)
    (one : (e.writes.filterMap AuthStmt.presents).Nodup)
    (unspent : ∀ t ∈ e.writes.filterMap AuthStmt.presents, t ∉ presentedTokens log) :
    Rotation config ops (log ++ [e]) where
  accepted log' e' hprefix seen presented token hash at_ hw := by
    rcases List.prefix_concat_iff.1 hprefix with same | hprefix
    · obtain ⟨rfl, he⟩ := List.append_inj' same rfl
      cases he
      exact accepted seen presented token hash at_ hw
    · exact h.accepted log' e' hprefix seen presented token hash at_ hw
  single := by
    rw [presentedTokens_append, List.nodup_append]
    exact ⟨h.single, one, fun t ht u hu htu => unspent u hu (htu ▸ ht)⟩

omit [DecidableEq S] [Crypto S] in
/-- A transaction that consumes no token. -/
theorem Rotation.append_quiet {config : AuthConfig} {ops : List (AuthOp S)} {log : AuthLog S}
    {e : Commit (AuthDb S) (AuthStmt S)} (h : Rotation config ops log)
    (quiet : ∀ w ∈ e.writes, w.presents = none) : Rotation config ops (log ++ [e]) := by
  have nothing : e.writes.filterMap AuthStmt.presents = [] := List.filterMap_eq_nil_iff.2 quiet
  refine h.append (fun _ _ _ _ _ hw => nomatch quiet _ hw) (nothing ▸ List.nodup_nil) ?_
  rw [nothing]
  exact fun _ ht => nomatch ht

/-- What a login commits keeps the chains. -/
theorem rotation_of_login {config : AuthConfig} {ops : List (AuthOp S)} {d : AuthDb S} {log : AuthLog S}
    {i : Nat} {client : AuthClient} {action : String} {new : NewSession} {F : List (AuthStmt S)}
    (h : Rotation config ops log ∧ Chain d log)
    (writes : LoginWrites config client action new (writtenBy log i) F) (valid : violation F d = none) :
    Rotation config ops (log ++ [⟨i, F, d⟩]) ∧ Chain (applyAll F d) (log ++ [⟨i, F, d⟩]) := by
  have single {w : AuthStmt S} {p : AuthStmt S → Prop} (hp : p w) : ∀ v ∈ [w], p v :=
    fun v hv => List.mem_singleton.1 hv ▸ hp
  generalize hl : writtenBy log i = l at writes
  cases writes with
  | create session named opened placeholder =>
    exact ⟨h.1.append_quiet (single rfl), chain_of_create h.2 placeholder (violation_cons.1 valid).1⟩
  | store session email signedAt token signed =>
    subst signed
    exact ⟨h.1.append_quiet (single rfl), chain_of_store h.2 hl rfl rfl rfl⟩
  | lastLogin session id token hash userId at_ =>
    exact ⟨h.1.append_quiet (single rfl), chain_of_keeps h.2 (single rfl)⟩
  | audit l userId written =>
    exact ⟨h.1.append_quiet (single rfl), chain_of_keeps h.2 (single rfl)⟩

/-- What a call commits keeps the chains. -/
theorem rotation_of_writes {config : AuthConfig} {ops : List (AuthOp S)} {c : AuthSystem S} {i : Nat}
    {op : AuthOp S} {F : List (AuthStmt S)} (hop : ops[i]? = some op)
    (writes : op.Writes config c.db (writtenBy c.log i) F) (valid : violation F c.db = none)
    (steady : Steady c (.commit i false F)) (h : Rotation config ops c.log ∧ Chain c.db c.log) :
    Rotation config ops (c.log ++ [⟨i, F, c.db⟩]) ∧
      Chain (applyAll F c.db) (c.log ++ [⟨i, F, c.db⟩]) := by
  have keeps (hF : ∀ w ∈ F, w.keepsTokens = true) :
      Rotation config ops (c.log ++ [⟨i, F, c.db⟩]) ∧
        Chain (applyAll F c.db) (c.log ++ [⟨i, F, c.db⟩]) := by
    refine ⟨h.1.append_quiet fun w hw => ?_, chain_of_keeps h.2 hF⟩
    have := hF w hw
    cases w <;> first | rfl | cases this
  cases op with
  | forgotPassword email request resetId rawToken =>
    obtain ⟨reset, ids, usedAt, -, -, rfl⟩ := writes
    exact keeps (by simp [issueStatements, AuthStmt.keepsTokens])
  | resetPassword token newPassword salt =>
    obtain ⟨s, reset, at_, ids, sessions, -, -, -, -, -, -, rfl⟩ := writes
    exact keeps (by simp [resetStatements, AuthStmt.keepsTokens])
  | login dto request new => exact rotation_of_login h writes valid
  | adminLogin dto request authClient new => exact rotation_of_login h writes valid
  | refresh request expectedClient salt =>
    obtain ⟨chain, seen, presented, token, hash, at_, hF, unspent, accepted⟩ :=
      chain_of_rotate h.2 hop writes steady
    refine ⟨h.1.append ?_ ?_ ?_, chain⟩
    · intro seen' presented' token' hash' at' hw
      rw [hF, List.mem_singleton] at hw
      cases hw
      exact accepted
    · rw [hF]
      exact List.nodup_singleton _
    · rw [hF]
      intro t ht
      exact List.mem_singleton.1 ht ▸ unspent
  | logout request expectedClient =>
    obtain ⟨id, at_, rfl⟩ := writes
    exact keeps (by simp [AuthStmt.keepsTokens])
  | logoutAll request =>
    rcases writes with ⟨ids, w, at_, rfl⟩ | ⟨userId, rfl⟩
    · exact keeps (by simp [AuthStmt.keepsTokens])
    · exact keeps (by simp [AuthStmt.keepsTokens])
  | revokeSession userId sessionId =>
    obtain ⟨id, at_, rfl⟩ := writes
    exact keeps (by simp [AuthStmt.keepsTokens])
  | tick ms =>
    obtain rfl : F = [.tick ms] := writes
    exact keeps (by simp [AuthStmt.keepsTokens])

omit [DecidableEq S] in
/-- Without sessions there are no tokens. -/
theorem Chain.nil {d : AuthDb S} (fresh : d.sessions.rows = []) : Chain d [] where
  records id s hs := by
    have absent : d.sessions.find id = none := by
      rw [Table.find_eq_none, fresh]
      exact List.not_mem_nil
    rw [absent] at hs
    cases hs
  absent _ _ := rfl
  ordered _ := List.Pairwise.nil
  spent := nofun
  opened := nofun
  own := nofun
  waiting := nofun

/-- **Refresh-token rotation.** In a run whose refreshes are steady, from a state
without sessions, each refresh consumes the last token issued for a usable session
of its client, and no token is consumed twice. A refresh that returns has consumed
the token it was given. -/
theorem refresh_tokens_rotate {config : AuthConfig} {db : AuthDb S} {ext : Redis S}
    {ops : List (AuthOp S)} {c : AuthSystem S} (fresh : db.sessions.rows = [])
    (run : Reaches Steady (begins config db ext ops) c) :
    Rotation config ops c.log ∧ ∀ i request expectedClient salt,
      ops[i]? = some (.refresh request expectedClient salt) → c.Returned i →
        ∃ log' e, log' ++ [e] <+: c.log ∧ e.thread = i ∧ ∃ seen presented,
          refreshCookie config request expectedClient = some presented ∧
            Accepted config ops log' e seen presented := by
  have rotation : Rotation config ops [] :=
    ⟨fun log' e hprefix => absurd (List.prefix_nil.1 hprefix) (by simp), List.nodup_nil⟩
  obtain ⟨⟨h, -⟩, done⟩ := induct_of_run run (fun d log => Rotation config ops log ∧ Chain d log)
    ⟨rotation, .nil fresh⟩ (fun hop writes valid hP h => rotation_of_writes hop writes valid hP h)
    fun i h => ⟨h.1.append_quiet nofun, chain_of_keeps (F := []) h.2 nofun⟩
  refine ⟨h, fun i request expectedClient salt hop returned => ?_⟩
  have writes := done i _ hop returned
  change RefreshWrites config request expectedClient salt (writtenBy c.log i) at writes
  generalize hl : writtenBy c.log i = l at writes
  cases writes with
  | rotate seen presented token payload email verifiedAt checkedAt signedAt lastUsedAt cookie =>
    have mem : AuthStmt.rotateRefreshToken seen presented token (Crypto.hash token salt) lastUsedAt ∈
        writtenBy c.log i := hl ▸ List.mem_singleton_self _
    obtain ⟨e, he, hw⟩ := List.mem_flatMap.1 mem
    obtain ⟨he, thread⟩ := List.mem_filter.1 he
    obtain ⟨log', log'', hlog⟩ := List.append_of_mem he
    have hprefix : log' ++ [e] <+: c.log := ⟨log'', by simp [hlog]⟩
    exact ⟨log', e, hprefix, of_decide_eq_true thread, seen, presented, cookie,
      h.accepted log' e hprefix _ _ _ _ _ hw⟩

/-- The token a login of the user signs at 1000. -/
def firstToken : Text :=
  .signed (refreshClaims 1000 2592000 (.ofNat 1) "a@b".toList (.ofNat 5) .user)

/-- A login, and two refreshes with its token a second later. -/
def loginAndRefreshTwice : List (AuthOp Text) :=
  [.login ⟨"a@b".toList, .plain 1⟩ {} ⟨.ofNat 5, 7⟩, .tick 1000,
    .refresh { cookies := [("refreshToken", firstToken)] } none 8,
    .refresh { cookies := [("refreshToken", firstToken)] } none 9]

/-- One after the other, the first refresh succeeds and the second is rejected. -/
theorem second_refresh_rejected : ∃ c, Reaches Steady (begins {} oneUser {} loginAndRefreshTwice) c ∧
    presentedTokens c.log = [firstToken] ∧ Rotation {} loginAndRefreshTwice c.log := by
  obtain ⟨c, run, hc⟩ := Reaches.of_replay_any Steady (begins {} oneUser {} loginAndRefreshTwice)
    (authTurns [(0, 26), (1, 3), (2, 10), (3, 5)])
    (fun c : AuthSystem Text => presentedTokens c.log = [firstToken]) (by decide +kernel)
  exact ⟨c, run, hc, (refresh_tokens_rotate rfl run).1⟩

/-- At the same time, both succeed. -/
theorem both_refreshes_accepted : ∃ c,
    Reaches (fun _ _ => True) (begins {} oneUser {} loginAndRefreshTwice) c ∧
      c.threads.all Thread.returned = true ∧ presentedTokens c.log = [firstToken, firstToken] ∧
      ¬Rotation {} loginAndRefreshTwice c.log := by
  obtain ⟨c, run, returned, twice⟩ := Reaches.of_replay_any (fun _ _ => True)
    (begins {} oneUser {} loginAndRefreshTwice)
    (authTurns [(0, 26), (1, 3), (2, 5), (3, 5), (2, 5), (3, 5)])
    (fun c : AuthSystem Text => c.threads.all Thread.returned = true ∧
      presentedTokens c.log = [firstToken, firstToken]) (by decide +kernel)
  refine ⟨c, run, returned, twice, fun rotation => ?_⟩
  have single := rotation.single
  rw [twice] at single
  exact absurd single (by decide)

end Heightt.Auth
