import Heightt.Auth.Operations

/-!
# Password resets are used once

A reset token is consumed by an update that has to find it unused, so each token
changes the password at most once. Issuing a token and resetting the password
also close the user's other tokens, and a reset closes the user's sessions; both
are `updateMany`s, which miss a row that another call commits between the
statement and the commit. When they miss none, what a commit closes stays closed.
-/

namespace Heightt.Auth

open ReadCommitted Store Database

variable {S : Type}

namespace AuthStmt

/-- The `updateMany` has found every row that matches it in state `d`. -/
def Complete : AuthStmt S → AuthDb S → Prop
  | supersedeResets userId ids _, d => ∀ id ∈ d.unusedResets userId, id ∈ ids
  | revokeSessions ids w _ _, d => ∀ id ∈ d.sessionIds w, id ∈ ids
  | _, _ => True

instance (w : AuthStmt S) (d : AuthDb S) : Decidable (w.Complete d) :=
  match w with
  | supersedeResets userId ids _ => inferInstanceAs (Decidable (∀ id ∈ d.unusedResets userId, id ∈ ids))
  | revokeSessions ids w _ _ => inferInstanceAs (Decidable (∀ id ∈ d.sessionIds w, id ∈ ids))
  | createSession .. | storeRefreshToken .. | rotateRefreshToken .. | revokeSession .. | updateLastLogin ..
  | updatePassword .. | consumeReset .. | createReset .. | createAuditLog .. | tick .. => isTrue trivial

/-- The token a statement consumes. -/
def consumed : AuthStmt S → Option S
  | consumeReset seen _ => some seen.token
  | _ => none

/-- The statement belongs to a transaction that closes resets. -/
def closes : AuthStmt S → Bool
  | supersedeResets .. => true
  | _ => false

/-- The statement changes neither a password nor a reset. -/
def leavesResets : AuthStmt S → Bool
  | consumeReset .. | updatePassword .. | supersedeResets .. | createReset _ => false
  | _ => true

end AuthStmt

variable [DecidableEq S]

/-- Every `updateMany` of `F` finds all rows that match it when `F` takes effect. -/
def Complete : List (AuthStmt S) → AuthDb S → Prop
  | [], _ => True
  | w :: F, d => w.Complete d ∧ Complete F (w.apply d)

instance decidableComplete : (F : List (AuthStmt S)) → (d : AuthDb S) → Decidable (Complete F d)
  | [], _ => isTrue trivial
  | w :: F, d => @instDecidableAnd _ _ _ (decidableComplete F (w.apply d))

/-- No reset is issued and no session opened for a user while a transaction
closes the user's resets and sessions. -/
def Undisturbed (c : AuthSystem S) : Effect (AuthStmt S) (AuthCall S) → Prop
  | .commit _ _ F => F.any AuthStmt.closes = true → Complete F c.db
  | _ => True

instance (c : AuthSystem S) (eff : Effect (AuthStmt S) (AuthCall S)) : Decidable (Undisturbed c eff) :=
  match eff with
  | .commit _ _ F => inferInstanceAs (Decidable (F.any AuthStmt.closes = true → Complete F c.db))
  | .internal | .fault .. | .called .. | .unsent .. => isTrue trivial

/-- The tokens that were consumed. -/
def consumedTokens (log : AuthLog S) : List S := log.flatMap fun e => e.writes.filterMap AuthStmt.consumed

/-- The reset is still in the table, and used. -/
def Used (d : AuthDb S) (r : PasswordReset S) : Prop :=
  ∃ r', d.passwordResets.find r.id = some r' ∧ r.Aged r' ∧ r'.usedAt ≠ none

/-- The session is in the table, and not active. -/
def Closed (d : AuthDb S) (id : Id) : Prop := ∃ s, d.sessions.find id = some s ∧ s.isActive = false

omit [DecidableEq S] in
theorem Used.grows {d d' : AuthDb S} {r : PasswordReset S} (h : Used d r) (grows : Grows d d') :
    Used d' r := by
  obtain ⟨r', hr', aged, used⟩ := h
  obtain ⟨r'', hr'', aged'⟩ := grows.resets r.id r' hr'
  exact ⟨r'', hr'', aged.trans aged', aged'.used used⟩

omit [DecidableEq S] in
theorem Closed.grows {d d' : AuthDb S} {id : Id} (h : Closed d id) (grows : Grows d d') : Closed d' id := by
  obtain ⟨s, hs, inactive⟩ := h
  obtain ⟨s', hs', aged⟩ := grows.sessions id s hs
  exact ⟨s', hs', aged.inactive inactive⟩

omit [DecidableEq S] in
/-- A complete `updateMany` leaves no reset of the user unused. -/
theorem used_of_supersede {d : AuthDb S} {userId : Id} {ids : List Id} {at_ : Nat}
    (complete : (AuthStmt.supersedeResets userId ids at_ : AuthStmt S).Complete d) {r : PasswordReset S}
    (hr : r ∈ d.passwordResets.rows) (owner : r.userId = userId) :
    Used ((AuthStmt.supersedeResets userId ids at_).apply d) r := by
  refine ⟨if r.id ∈ ids ∧ r.userId = userId ∧ r.usedAt = none then r.use at_ else r, ?_, ?_, ?_⟩
  · exact (Table.find_mapRows _ _ (fun r => by split <;> simp) _).trans (by rw [Table.find_of_mem hr]; rfl)
  · split
    · exact r.aged_use at_
    · exact .refl r
  · split
    · exact Option.some_ne_none at_
    · rename_i hmiss
      intro unused
      refine hmiss ⟨complete r.id ?_, owner, unused⟩
      exact List.mem_map_of_mem (List.mem_filter.2 ⟨hr, by simp [owner, unused]⟩)

omit [DecidableEq S] in
/-- A complete `updateMany` leaves no session of the user active. -/
theorem closed_of_revoke {d : AuthDb S} {userId : Id} {ids : List Id} {at_ : Nat} {reason : String}
    {w : SessionWhere} (hw : w = { userId := some userId, unrevoked := false })
    (complete : (AuthStmt.revokeSessions ids w at_ reason : AuthStmt S).Complete d) {s : Session S}
    (hs : s ∈ d.sessions.rows) (owner : s.userId = userId) :
    Closed ((AuthStmt.revokeSessions ids w at_ reason).apply d) s.id := by
  refine ⟨if s.id ∈ ids ∧ w.holds s then s.revoke at_ reason else s, ?_, ?_⟩
  · exact (Table.find_mapRows _ _ (fun s => by split <;> simp) _).trans (by rw [Table.find_of_mem hs]; rfl)
  · split
    · rfl
    · rename_i hmiss
      by_contra active
      have holds : w.holds s = true := by
        simpa [SessionWhere.holds, hw, owner] using active
      exact hmiss ⟨complete s.id (List.mem_map_of_mem (List.mem_filter.2 ⟨hs, holds⟩)), holds⟩

/-- A transaction that closes a user's resets, and is complete, leaves all of them used. -/
theorem used_of_complete {F : List (AuthStmt S)} {d : AuthDb S} {userId : Id} {ids : List Id} {at_ : Nat}
    (complete : Complete F d) (mem : AuthStmt.supersedeResets userId ids at_ ∈ F) {r : PasswordReset S}
    (hr : r ∈ d.passwordResets.rows) (owner : r.userId = userId) : Used (applyAll F d) r := by
  induction F generalizing d r with
  | nil => cases mem
  | cons w F ih =>
    rcases List.mem_cons.1 mem with rfl | mem
    · exact (used_of_supersede complete.1 hr owner).grows (grows_applyAll F _)
    · obtain ⟨r', hr', aged⟩ := (grows_apply w d).resets r.id r (Table.find_of_mem hr)
      obtain ⟨r'', hr'', aged', used⟩ :=
        ih complete.2 mem (Table.find_mem hr') (aged.userId.trans owner)
      exact ⟨r'', by rw [← Table.find_key hr']; exact hr'', aged.trans aged', used⟩

/-- The same for the sessions that a reset closes. -/
theorem closed_of_complete {F : List (AuthStmt S)} {d : AuthDb S} {userId : Id} {ids : List Id} {at_ : Nat}
    {reason : String} (complete : Complete F d)
    (mem : AuthStmt.revokeSessions ids { userId := some userId, unrevoked := false } at_ reason ∈ F)
    {s : Session S} (hs : s ∈ d.sessions.rows) (owner : s.userId = userId) :
    Closed (applyAll F d) s.id := by
  induction F generalizing d s with
  | nil => cases mem
  | cons w F ih =>
    rcases List.mem_cons.1 mem with rfl | mem
    · exact (closed_of_revoke rfl complete.1 hs owner).grows (grows_applyAll F _)
    · obtain ⟨s', hs', aged⟩ := (grows_apply w d).sessions s.id s (Table.find_of_mem hs)
      rw [applyAll_cons, ← Table.find_key hs']
      exact ih complete.2 mem (Table.find_mem hs') (aged.userId.trans owner)

/-- `token @unique` -/
def TokensUnique (d : AuthDb S) : Prop := (d.passwordResets.rows.map PasswordReset.token).Nodup

instance (d : AuthDb S) : Decidable (TokensUnique d) := inferInstanceAs (Decidable (List.Nodup _))

omit [DecidableEq S] in
theorem TokensUnique.mapRows {d : AuthDb S} (h : TokensUnique d) {f : PasswordReset S → PasswordReset S}
    (hf : ∀ r, (f r).id = r.id) (token : ∀ r, (f r).token = r.token) :
    TokensUnique { d with passwordResets := d.passwordResets.mapRows f hf } := by
  have same : (d.passwordResets.rows.map f).map PasswordReset.token =
      d.passwordResets.rows.map PasswordReset.token := by
    rw [List.map_map]
    exact List.map_congr_left fun r _ => token r
  unfold TokensUnique
  exact same ▸ h

/-- The unique index is kept by every statement that it lets pass. -/
theorem TokensUnique.apply {d : AuthDb S} {w : AuthStmt S} (h : TokensUnique d) (ok : check w d = none) :
    TokensUnique (w.apply d) := by
  cases w with
  | consumeReset seen at_ => exact h.mapRows _ fun r => by split <;> rfl
  | supersedeResets userId ids at_ => exact h.mapRows _ fun r => by split <;> rfl
  | createReset reset =>
    simp only [check, AuthStmt.check, ite_eq_right_iff, reduceCtorEq, imp_false, not_or,
      Option.not_isSome_iff_eq_none, List.any_eq_true, decide_eq_true_eq, not_exists, not_and] at ok
    unfold TokensUnique AuthStmt.apply
    rw [Table.insert_rows ok.1, List.map_append, List.nodup_append]
    refine ⟨h, List.nodup_singleton _, fun t ht u hu => ?_⟩
    obtain ⟨r, hr, rfl⟩ := List.mem_map.1 ht
    rw [List.map_singleton, List.mem_singleton] at hu
    exact hu ▸ ok.2 r hr
  | _ => exact h

theorem TokensUnique.applyAll {d : AuthDb S} {F : List (AuthStmt S)} (h : TokensUnique d)
    (valid : violation F d = none) : TokensUnique (applyAll F d) := by
  induction F generalizing d with
  | nil => exact h
  | cons w F ih =>
    obtain ⟨ok, valid⟩ := violation_cons.1 valid
    exact ih (h.apply ok) valid

variable [Crypto S]

/-- The entry is a reset's: it consumed a token that was the call's own, unused, and
unexpired when the call took the time. -/
def Consumes (e : Commit (AuthDb S) (AuthStmt S)) (token newPassword : S) (salt : Nat) : Prop :=
  ∃ r ∈ e.before.passwordResets.rows, ∃ at_ ids sessions,
    e.writes = resetStatements r (Crypto.hash newPassword salt) at_ ids sessions ∧
      r.token = digest token ∧ r.usedAt = none ∧ at_ < r.expiresAt ∧ at_ ≤ e.before.now

/-- The transaction closes the resets of the user. -/
def Closes (e : Commit (AuthDb S) (AuthStmt S)) (userId : Id) : Prop :=
  ∃ ids at_, AuthStmt.supersedeResets userId ids at_ ∈ e.writes

/-- **Single use of reset tokens**, in a state `d` after the transactions `log`. -/
structure SingleUse (ops : List (AuthOp S)) (d : AuthDb S) (log : AuthLog S) : Prop where
  /-- Each token changes the password at most once. -/
  once : (consumedTokens log).Nodup
  /-- Only a reset changes a password. -/
  only : ∀ e ∈ log, ∀ userId hash, AuthStmt.updatePassword userId hash ∈ e.writes →
    ∃ token newPassword salt, ops[e.thread]? = some (.resetPassword token newPassword salt)
  /-- A reset with a token that is expired or used changes nothing. -/
  live : ∀ e ∈ log, ∀ token newPassword salt,
    ops[e.thread]? = some (.resetPassword token newPassword salt) →
      e.writes = [] ∨ Consumes e token newPassword salt
  /-- Nor does a token once a later one is issued for its user, or the password is reset. -/
  superseded : log.Pairwise fun e e' => ∀ userId, Closes e userId →
    ∀ r ∈ e.before.passwordResets.rows, r.userId = userId → r.token ∉ e'.writes.filterMap AuthStmt.consumed
  /-- The tokens from before are used. -/
  closed : ∀ e ∈ log, ∀ userId, Closes e userId →
    ∀ r ∈ e.before.passwordResets.rows, r.userId = userId → Used d r
  /-- No session of the user from before a reset is usable. -/
  sessions : ∀ e ∈ log, ∀ userId hash, AuthStmt.updatePassword userId hash ∈ e.writes →
    ∀ s ∈ e.before.sessions.rows, s.userId = userId → Closed d s.id

/-- What holds besides of the resets in the table. -/
structure Spent (d : AuthDb S) (log : AuthLog S) : Prop where
  unique : TokensUnique d
  spent : ∀ t ∈ consumedTokens log, ∃ r ∈ d.passwordResets.rows, r.token = t ∧ r.usedAt ≠ none

omit [DecidableEq S] [Crypto S] in
theorem consumedTokens_append (log : AuthLog S) (e : Commit (AuthDb S) (AuthStmt S)) :
    consumedTokens (log ++ [e]) = consumedTokens log ++ e.writes.filterMap AuthStmt.consumed := by
  simp [consumedTokens]

omit [DecidableEq S] [Crypto S] in
/-- A token is that of one row. -/
theorem TokensUnique.eq {d : AuthDb S} (h : TokensUnique d) {r r' : PasswordReset S}
    (hr : r ∈ d.passwordResets.rows) (hr' : r' ∈ d.passwordResets.rows) (same : r.token = r'.token) :
    r = r' :=
  List.inj_on_of_nodup_map h hr hr' same

/-- A transaction is added that consumes at most a token that is unused. -/
theorem SingleUse.append {ops : List (AuthOp S)} {d : AuthDb S} {log : AuthLog S} {i : Nat}
    {F : List (AuthStmt S)} (h : SingleUse ops d log) (resets : Spent d log)
    (one : (F.filterMap AuthStmt.consumed).Nodup)
    (unused : ∀ t ∈ F.filterMap AuthStmt.consumed,
      ∃ r ∈ d.passwordResets.rows, r.token = t ∧ r.usedAt = none)
    (only : ∀ userId hash, AuthStmt.updatePassword userId hash ∈ F →
      ∃ token newPassword salt, ops[i]? = some (.resetPassword token newPassword salt))
    (live : ∀ token newPassword salt, ops[i]? = some (.resetPassword token newPassword salt) →
      F = [] ∨ Consumes ⟨i, F, d⟩ token newPassword salt)
    (closed : ∀ userId ids at_, AuthStmt.supersedeResets userId ids at_ ∈ F →
      ∀ r ∈ d.passwordResets.rows, r.userId = userId → Used (applyAll F d) r)
    (sessions : ∀ userId hash, AuthStmt.updatePassword userId hash ∈ F →
      ∀ s ∈ d.sessions.rows, s.userId = userId → Closed (applyAll F d) s.id) :
    SingleUse ops (applyAll F d) (log ++ [⟨i, F, d⟩]) where
  once := by
    rw [consumedTokens_append, List.nodup_append]
    refine ⟨h.once, one, fun t ht u hu htu => ?_⟩
    obtain ⟨r, hr, rfl, used⟩ := resets.spent t ht
    obtain ⟨r', hr', htoken, hunused⟩ := unused u hu
    exact used (resets.unique.eq hr hr' (htu.trans htoken.symm) ▸ hunused)
  only e he := by
    rcases List.mem_append.1 he with he | he
    · exact h.only e he
    · exact List.mem_singleton.1 he ▸ only
  live e he := by
    rcases List.mem_append.1 he with he | he
    · exact h.live e he
    · exact List.mem_singleton.1 he ▸ live
  superseded := by
    refine List.pairwise_append.2 ⟨h.superseded, List.pairwise_singleton _ _, ?_⟩
    intro e he e' he' userId closes r hr owner consumed
    obtain rfl := List.mem_singleton.1 he'
    obtain ⟨r', hr', aged, used⟩ := h.closed e he userId closes r hr owner
    obtain ⟨r'', hr'', htoken, hunused⟩ := unused _ consumed
    exact used (resets.unique.eq hr'' (Table.find_mem hr') (htoken.trans aged.token.symm) ▸ hunused)
  closed e he userId closes r hr owner := by
    rcases List.mem_append.1 he with he | he
    · exact (h.closed e he userId closes r hr owner).grows (grows_applyAll F d)
    · obtain rfl := List.mem_singleton.1 he
      obtain ⟨ids, at_, hw⟩ := closes
      exact closed userId ids at_ hw r hr owner
  sessions e he userId hash hw s hs owner := by
    rcases List.mem_append.1 he with he | he
    · exact (h.sessions e he userId hash hw s hs owner).grows (grows_applyAll F d)
    · obtain rfl := List.mem_singleton.1 he
      exact sessions userId hash hw s hs owner

omit [Crypto S] in
/-- So it is with the tokens that are spent. -/
theorem Spent.append {d : AuthDb S} {log : AuthLog S} {i : Nat} {F : List (AuthStmt S)}
    (h : Spent d log) (valid : violation F d = none)
    (spent : ∀ t ∈ F.filterMap AuthStmt.consumed,
      ∃ r ∈ (applyAll F d).passwordResets.rows, r.token = t ∧ r.usedAt ≠ none) :
    Spent (applyAll F d) (log ++ [⟨i, F, d⟩]) where
  unique := h.unique.applyAll valid
  spent t ht := by
    rw [consumedTokens_append] at ht
    rcases List.mem_append.1 ht with ht | ht
    · obtain ⟨r, hr, token, used⟩ := h.spent t ht
      obtain ⟨r', hr', aged⟩ := (grows_applyAll F d).resets r.id r (Table.find_of_mem hr)
      exact ⟨r', Table.find_mem hr', aged.token.trans token, aged.used used⟩
    · exact spent t ht

/-- A transaction that leaves passwords and resets alone. -/
theorem single_use_of_leaves {ops : List (AuthOp S)} {d : AuthDb S} {log : AuthLog S} {i : Nat}
    {F : List (AuthStmt S)} (h : SingleUse ops d log ∧ Spent d log) (valid : violation F d = none)
    (leaves : ∀ w ∈ F, w.leavesResets = true)
    (other : ∀ token newPassword salt, ops[i]? = some (.resetPassword token newPassword salt) → F = []) :
    SingleUse ops (applyAll F d) (log ++ [⟨i, F, d⟩]) ∧ Spent (applyAll F d) (log ++ [⟨i, F, d⟩]) := by
  have nothing : F.filterMap AuthStmt.consumed = [] := by
    refine List.filterMap_eq_nil_iff.2 fun w hw => ?_
    have := leaves w hw
    cases w <;> first | rfl | cases this
  have no {p : Prop} {w : AuthStmt S} (hw : w ∈ F) (hl : w.leavesResets = false) : p := by
    rw [leaves w hw] at hl
    cases hl
  constructor
  · refine h.1.append h.2 (nothing ▸ List.nodup_nil) (nothing ▸ fun _ ht => nomatch ht)
      (fun _ _ hw => no hw rfl) ?_ (fun _ _ _ hw => no hw rfl) fun _ _ hw => no hw rfl
    exact fun token newPassword salt hop => .inl (other token newPassword salt hop)
  · exact h.2.append valid (nothing ▸ fun _ ht => nomatch ht)

/-- A transaction that issues a token. -/
theorem single_use_of_issue {ops : List (AuthOp S)} {d : AuthDb S} {log : AuthLog S} {i : Nat}
    {reset : PasswordReset S} {ids : List Id} {usedAt : Nat} {F : List (AuthStmt S)}
    (hF : F = issueStatements reset ids usedAt) (h : SingleUse ops d log ∧ Spent d log)
    (valid : violation F d = none) (complete : Complete F d)
    (other : ∀ token newPassword salt, ops[i]? ≠ some (.resetPassword token newPassword salt)) :
    SingleUse ops (applyAll F d) (log ++ [⟨i, F, d⟩]) ∧ Spent (applyAll F d) (log ++ [⟨i, F, d⟩]) := by
  have no_password {userId : Id} {hash : S} {p : Prop} (hw : AuthStmt.updatePassword userId hash ∈ F) : p := by
    simp [hF, issueStatements] at hw
  have nothing : F.filterMap AuthStmt.consumed = [] := by
    rw [hF]
    rfl
  constructor
  · exact h.1.append h.2 (nothing ▸ List.nodup_nil) (nothing ▸ fun _ ht => nomatch ht)
      (fun _ _ hw => no_password hw) (fun _ _ _ hop => absurd hop (other _ _ _))
      (fun _ _ _ hw _ hr owner => used_of_complete complete hw hr owner) fun _ _ hw => no_password hw
  · exact h.2.append valid (nothing ▸ fun _ ht => nomatch ht)

omit [Crypto S] in
/-- The row that a reset has read is the row it consumes. -/
theorem mem_of_consume {s d : AuthDb S} {reset : PasswordReset S} {at_ : Nat} (grows : Grows s d)
    (mem : reset ∈ s.passwordResets.rows) (unused : reset.usedAt = none)
    (ok : check (AuthStmt.consumeReset reset at_) d = none) :
    reset ∈ d.passwordResets.rows ∧ at_ < reset.expiresAt := by
  obtain ⟨r, hr, aged⟩ := grows.resets reset.id reset (Table.find_of_mem mem)
  simp only [check, AuthStmt.check, hr, ite_eq_left_iff, reduceCtorEq, imp_false, not_not] at ok
  have same : r = reset := by
    obtain ⟨id, userId, token, expiresAt, usedAt⟩ := reset
    obtain ⟨id', userId', token', expiresAt', usedAt'⟩ := r
    have hid := Table.find_key hr
    have howner := aged.userId
    have htoken := aged.token
    have hexpiry := aged.expiresAt
    simp_all
  subst same
  exact ⟨Table.find_mem hr, ok.2⟩

/-- A transaction that resets a password. -/
theorem single_use_of_reset {ops : List (AuthOp S)} {s d : AuthDb S} {log : AuthLog S} {i : Nat}
    {token newPassword : S} {salt : Nat} {reset : PasswordReset S} {at_ : Nat} {ids sessions : List Id}
    {F : List (AuthStmt S)} (hF : F = resetStatements reset (Crypto.hash newPassword salt) at_ ids sessions)
    (h : SingleUse ops d log ∧ Spent d log) (valid : violation F d = none) (complete : Complete F d)
    (hop : ops[i]? = some (.resetPassword token newPassword salt)) (grows : Grows s d)
    (mem : reset ∈ s.passwordResets.rows) (htoken : reset.token = digest token)
    (unused : reset.usedAt = none) (past : at_ ≤ d.now) :
    SingleUse ops (applyAll F d) (log ++ [⟨i, F, d⟩]) ∧ Spent (applyAll F d) (log ++ [⟨i, F, d⟩]) := by
  have ok : check (AuthStmt.consumeReset reset at_) d = none := by
    rw [hF, resetStatements, violation_cons] at valid
    exact valid.1
  obtain ⟨hmem, unexpired⟩ := mem_of_consume grows mem unused ok
  have consumed : F.filterMap AuthStmt.consumed = [reset.token] := by
    rw [hF]
    rfl
  have of_consumed {p : S → Prop} (hp : p reset.token) : ∀ t ∈ F.filterMap AuthStmt.consumed, p t := by
    rw [consumed]
    exact fun t ht => List.mem_singleton.1 ht ▸ hp
  have owner_of_password {userId : Id} {hash : S} (hw : AuthStmt.updatePassword userId hash ∈ F) :
      userId = reset.userId := by
    simp only [hF, resetStatements, List.mem_cons, AuthStmt.updatePassword.injEq, reduceCtorEq,
      List.not_mem_nil, or_false, false_or] at hw
    exact hw.1
  constructor
  · refine h.1.append h.2 (consumed ▸ List.nodup_singleton _) (of_consumed ⟨reset, hmem, rfl, unused⟩)
      (fun _ _ _ => ⟨token, newPassword, salt, hop⟩) ?_
      (fun _ _ _ hw _ hr owner => used_of_complete complete hw hr owner) ?_
    · intro token' newPassword' salt' hop'
      rw [hop, Option.some.injEq, AuthOp.resetPassword.injEq] at hop'
      obtain ⟨rfl, rfl, rfl⟩ := hop'
      exact .inr ⟨reset, hmem, at_, ids, sessions, hF, htoken, unused, unexpired, past⟩
    · intro userId hash hw session hs owner
      rw [owner_of_password hw] at owner
      have closing : AuthStmt.revokeSessions sessions { userId := some reset.userId, unrevoked := false }
          at_ "Password reset" ∈ F := by simp [hF, resetStatements]
      exact closed_of_complete complete closing hs owner
  · refine h.2.append valid (of_consumed ?_)
    have closing : AuthStmt.supersedeResets reset.userId ids at_ ∈ F := by simp [hF, resetStatements]
    obtain ⟨r, hr, aged, used⟩ := used_of_complete complete closing hmem rfl
    exact ⟨r, Table.find_mem hr, aged.token, used⟩

/-- What a call commits keeps the single use of tokens. -/
theorem single_use_of_writes {config : AuthConfig} {ops : List (AuthOp S)} {c : AuthSystem S} {i : Nat}
    {op : AuthOp S} {F : List (AuthStmt S)} (hop : ops[i]? = some op)
    (writes : op.Writes config c.db (writtenBy c.log i) F) (valid : violation F c.db = none)
    (undisturbed : Undisturbed c (.commit i false F)) (h : SingleUse ops c.db c.log ∧ Spent c.db c.log) :
    SingleUse ops (applyAll F c.db) (c.log ++ [⟨i, F, c.db⟩]) ∧
      Spent (applyAll F c.db) (c.log ++ [⟨i, F, c.db⟩]) := by
  have leaves (hl : ∀ w ∈ F, w.leavesResets = true)
      (hne : ∀ token newPassword salt, op ≠ .resetPassword token newPassword salt) :=
    single_use_of_leaves (i := i) h valid hl fun token newPassword salt hop' =>
      absurd (Option.some.inj (hop.symm.trans hop')) (hne token newPassword salt)
  have one {w : AuthStmt S} (hF : F = [w]) (hl : w.leavesResets = true) :
      ∀ w ∈ F, w.leavesResets = true := by
    rw [hF]
    exact fun v hv => List.mem_singleton.1 hv ▸ hl
  have login {client : AuthClient} {action : String} {new : NewSession}
      (hw : LoginWrites config client action new (writtenBy c.log i) F) :
      ∀ w ∈ F, w.leavesResets = true := by
    generalize writtenBy c.log i = l at hw
    cases hw with
    | create session named opened placeholder => exact one rfl rfl
    | store session email signedAt token signed => exact one rfl rfl
    | lastLogin session id token hash userId at_ => exact one rfl rfl
    | audit l userId written => exact one rfl rfl
  cases op with
  | forgotPassword email request resetId rawToken =>
    obtain ⟨reset, ids, usedAt, -, -, hF⟩ := writes
    refine single_use_of_issue hF h valid (undisturbed ?_) fun token newPassword salt hop' => ?_
    · rw [hF]
      rfl
    · rw [hop] at hop'
      cases hop'
  | resetPassword token newPassword salt =>
    obtain ⟨s, reset, at_, ids, sessions, grows, mem, htoken, unused, -, past, hF⟩ := writes
    refine single_use_of_reset hF h valid (undisturbed ?_) hop grows mem htoken unused past
    rw [hF]
    rfl
  | login dto request new => exact leaves (login writes) nofun
  | adminLogin dto request authClient new => exact leaves (login writes) nofun
  | refresh request expectedClient salt =>
    change RefreshWrites config request expectedClient salt F at writes
    cases writes with
    | rotate => exact leaves (one rfl rfl) nofun
  | logout request expectedClient =>
    obtain ⟨id, at_, hF⟩ := writes
    exact leaves (one hF rfl) nofun
  | logoutAll request =>
    rcases writes with ⟨ids, w, at_, hF⟩ | ⟨userId, hF⟩
    · exact leaves (one hF rfl) nofun
    · exact leaves (one hF rfl) nofun
  | revokeSession userId sessionId =>
    obtain ⟨id, at_, hF⟩ := writes
    exact leaves (one hF rfl) nofun
  | tick ms => exact leaves (one writes rfl) nofun

/-- **Password resets.** In a run in which nothing is issued or opened for a user
while a transaction closes the user's resets and sessions, tokens are used once,
and a reset that returns has used its own. -/
theorem reset_tokens_single_use {config : AuthConfig} {db : AuthDb S} {ext : Redis S}
    {ops : List (AuthOp S)} {c : AuthSystem S} (unique : TokensUnique db)
    (run : Reaches Undisturbed (begins config db ext ops) c) :
    SingleUse ops c.db c.log ∧ ∀ i token newPassword salt,
      ops[i]? = some (.resetPassword token newPassword salt) → c.Returned i →
        ∃ e ∈ c.log, e.thread = i ∧ Consumes e token newPassword salt := by
  obtain ⟨⟨h, -⟩, done⟩ := induct_of_run run (fun d log => SingleUse ops d log ∧ Spent d log)
    ⟨⟨List.nodup_nil, nofun, nofun, List.Pairwise.nil, nofun, nofun⟩, unique, nofun⟩
    (fun hop writes valid hP h => single_use_of_writes hop writes valid hP h)
    fun i h => single_use_of_leaves (F := []) h rfl nofun fun _ _ _ _ => rfl
  refine ⟨h, fun i token newPassword salt hop returned => ?_⟩
  obtain ⟨reset, at_, ids, sessions, -, hl⟩ := done i _ hop returned
  have mem : AuthStmt.consumeReset reset at_ ∈ writtenBy c.log i := by simp [hl, resetStatements]
  obtain ⟨e, he, hw⟩ := List.mem_flatMap.1 mem
  obtain ⟨he, thread⟩ := List.mem_filter.1 he
  have thread : e.thread = i := of_decide_eq_true thread
  refine ⟨e, he, thread, (h.live e he token newPassword salt (thread ▸ hop)).resolve_left ?_⟩
  exact List.ne_nil_of_mem hw

/-- The user asks for two reset links, and opens the first. -/
def twoLinks : List (AuthOp Text) :=
  [.forgotPassword "a@b".toList { ip := "1" } (.ofNat 2) (.plain 2),
    .forgotPassword "a@b".toList { ip := "2" } (.ofNat 3) (.plain 3),
    .resetPassword (.plain 2) (.plain 9) 0]

/-- When the link is opened before the second is asked for, it resets the password. -/
theorem first_link_resets : ∃ c, Reaches Undisturbed (begins {} oneUser {} twoLinks) c ∧
    consumedTokens c.log = [digest (.plain 2)] ∧ SingleUse twoLinks c.db c.log := by
  obtain ⟨c, run, hc⟩ := Reaches.of_replay_any Undisturbed (begins {} oneUser {} twoLinks)
    (authTurns [(0, 13), (2, 16), (1, 13)])
    (fun c : AuthSystem Text => consumedTokens c.log = [digest (.plain 2)]) (by decide +kernel)
  exact ⟨c, run, hc, (reset_tokens_single_use (by decide +kernel) run).1⟩

/-- When both links are asked for at once, the second stays usable after the reset. -/
theorem second_link_survives : ∃ c, Reaches (fun _ _ => True) (begins {} oneUser {} twoLinks) c ∧
    c.threads.all Thread.returned = true ∧ ¬SingleUse twoLinks c.db c.log := by
  obtain ⟨c, run, returned, e, he, closes, r, hr, owner, unused⟩ := Reaches.of_replay_any (fun _ _ => True)
    (begins {} oneUser {} twoLinks) (authTurns [(1, 9), (0, 13), (2, 10), (1, 4), (2, 6)])
    (fun c : AuthSystem Text => c.threads.all Thread.returned = true ∧
      ∃ e ∈ c.log, AuthStmt.supersedeResets (.ofNat 1) [] 1000 ∈ e.writes ∧
        ∃ r ∈ e.before.passwordResets.rows, r.userId = .ofNat 1 ∧
          (c.db.passwordResets.find r.id).all (fun r => r.usedAt = none) = true) (by decide +kernel)
  refine ⟨c, run, returned, fun single => ?_⟩
  obtain ⟨r', hr', -, used⟩ := single.closed e he (.ofNat 1) ⟨[], 1000, closes⟩ r hr owner
  rw [hr', Option.all_some, decide_eq_true_eq] at unused
  exact used unused

end Heightt.Auth
