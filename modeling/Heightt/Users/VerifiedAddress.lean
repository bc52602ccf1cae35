import Heightt.ReadCommitted.Executes
import Heightt.Users.Service

/-!
# A verified user's address is verified

The flag of a user says that an address was verified, not which one. A change of the
address keeps the flag, a token issued for one address verifies whatever address the user
has when it is used, and a resend whose mail fails deletes its token although it may have
been used. A run in which none of these happens keeps the verified users' addresses verified.
-/

namespace Heightt.Users

open Store ReadCommitted Prog Database AuthService UsersService

/-- A call, with the identifiers it is given, or time passing. -/
inductive VerificationOp where
  | register (dto : RegisterDto) (ip : String) (new : NewUser)
  | resendVerificationEmail (email : List Char) (ip : String) (new : NewVerification)
  | verifyEmail (token : List Char)
  | updateProfile (userId : Id) (dto : UpdateUserDto)
  | tick (ms : Nat)
  deriving DecidableEq

def VerificationOp.program : VerificationOp → UsersAction Unit
  | register dto ip new => AuthService.register dto ip new
  | resendVerificationEmail email ip new => AuthService.resendVerificationEmail email ip new
  | verifyEmail token => AuthService.verifyEmail token
  | updateProfile userId dto => do
    let _ ← UsersService.updateProfile userId dto
    pure ()
  | tick ms => statement (.tick ms)

namespace UsersDb

/-- The user has verified the address. -/
def VerifiedAddress (d : UsersDb) (userId : Id) (email : List Char) : Prop :=
  ∃ v ∈ d.emailVerifications.rows, v.userId = userId ∧ v.email = email ∧ v.verifiedAt ≠ none

instance (d : UsersDb) (userId : Id) (email : List Char) : Decidable (d.VerifiedAddress userId email) :=
  inferInstanceAs (Decidable (∃ _ ∈ _, _))

/-- Every verified user has verified the address of the account. -/
def AddressesVerified (d : UsersDb) : Prop :=
  ∀ u ∈ d.users.rows, u.emailVerified = true → d.VerifiedAddress u.id u.email

instance (d : UsersDb) : Decidable d.AddressesVerified := inferInstanceAs (Decidable (∀ _ ∈ _, _))

end UsersDb

/-- What a statement finds when its transaction commits: the new address of a verified user is one
the user has verified; the address of a token that verifies a user is the user's; and the
verification that a failed resend deletes has not been used. -/
def UsersStmt.KeepsAddress (d : UsersDb) : UsersStmt → Prop
  | updateUser userId _ (some email) =>
    ∀ u ∈ d.users.find userId, u.emailVerified = true → d.VerifiedAddress userId email
  | setVerifiedAt seen _ => ∀ u ∈ d.users.find seen.userId, u.emailVerified = false → seen.email = u.email
  | deleteVerification id => ∀ v ∈ d.emailVerifications.find id, v.verifiedAt = none
  | _ => True

instance (d : UsersDb) (w : UsersStmt) : Decidable (w.KeepsAddress d) := by
  unfold UsersStmt.KeepsAddress
  split <;> infer_instance

/-- No commit parts a verified user from the verified address. -/
def KeepsAddresses (c : UsersSystem) : Effect UsersStmt UsersCall → Prop
  | .commit _ _ F => ∀ w ∈ F, w.KeepsAddress c.db
  | _ => True

instance (c : UsersSystem) (eff : Effect UsersStmt UsersCall) : Decidable (KeepsAddresses c eff) := by
  cases eff <;> unfold KeepsAddresses <;> infer_instance

/-! ## What the calls commit -/

/-- The statement takes no address from a verified user, in whatever state. -/
def UsersStmt.Mild : UsersStmt → Prop
  | createUser u => u.emailVerified = false
  | setEmailVerified _ | deleteVerification _ | updateUser .. => False
  | _ => True

/-- The transaction of `verifyEmail`. -/
def verifyStatements (seen : EmailVerification) (at_ : Nat) : List UsersStmt :=
  [.setEmailVerified seen.userId, .setVerifiedAt seen at_, .setProfileVerified seen.userId at_,
    .createAuditLog seen.userId "EMAIL_VERIFIED"]

/-- The transactions of the calls. -/
inductive VerificationTx : List UsersStmt → Prop where
  | mild {F : List UsersStmt} (mild : Each UsersStmt.Mild F) : VerificationTx F
  | verify (seen : EmailVerification) (at_ : Nat) : VerificationTx (verifyStatements seen at_)
  | delete (id : Id) : VerificationTx [.deleteVerification id]
  | update (userId : Id) (username email : Option (List Char)) {F : List UsersStmt}
    (mild : Each UsersStmt.Mild F) : VerificationTx (.updateUser userId username email :: F)

section Makes

variable {α : Type}

theorem makes_mild {w : UsersStmt} (mild : w.Mild) :
    Makes (Committing VerificationTx) (statement w : UsersAction Unit) fun _ => True :=
  committing_statement (.mild (each_singleton mild))

theorem makes_read (f : UsersDb → α) : Makes (Committing VerificationTx) (outside f : UsersAction α) fun _ => True :=
  committing_outside (fun _ => trivial) (.mild (each_nil _))

theorem makes_call (c : UsersCall) : Makes (Committing VerificationTx) (callService c) fun _ => True :=
  committing_request c

theorem makes_checkRateLimit (key : RateKey) (limit : Nat) :
    Makes (Committing VerificationTx) (checkRateLimit key limit) fun _ => True :=
  makes_call _

theorem makes_sendVerificationEmail (email username token : List Char) :
    Makes (Committing VerificationTx) (sendVerificationEmail email username token) fun _ => True :=
  makes_call _

theorem makes_clock : Makes (Committing VerificationTx) clock fun _ => True := .query fun _ => trivial

theorem makes_orThrow (o : Option α) (e : UsersError) :
    Makes (Committing VerificationTx) (orThrow o e : UsersAction α) fun _ => True :=
  .orThrow fun _ _ => trivial

theorem makes_register (dto : RegisterDto) (ip : String) (new : NewUser) :
    Makes (Committing VerificationTx) (register dto ip new) fun _ => True := by
  refine (makes_checkRateLimit _ _).bind fun allowed _ => (Makes.ensure _).bind fun _ _ => ?_
  refine (makes_read _).bind fun _ _ => (Makes.ensure _).bind fun _ _ => ?_
  refine (makes_read _).bind fun _ _ => (Makes.ensure _).bind fun _ _ => ?_
  refine .bind (S := fun _ => True) ?_ fun _ _ => (makes_read _).bind fun verification _ => ?_
  · refine .transaction (G := fun _ F => Each UsersStmt.Mild F) ?_ fun nested _ F mild => ⟨.mild mild, trivial⟩
    refine .each_bind (.each_query _) fun now => .each_bind (.each_exec rfl) fun _ => ?_
    exact .each_bind (.each_exec trivial) fun _ => .each_bind (.each_exec trivial) fun _ => .each_exec trivial
  · refine .bind (S := fun _ => True) (.whenSome fun v _ => ?_) fun _ _ => makes_call _
    exact .attempt ((makes_sendVerificationEmail _ _ _).bind fun _ _ => .ret trivial)

theorem makes_verifyEmail (token : List Char) :
    Makes (Committing VerificationTx) (verifyEmail token) fun _ => True := by
  refine (makes_read _).bind fun found _ => (makes_orThrow _ _).bind fun row _ => ?_
  refine (Makes.ensure _).bind fun _ _ => makes_clock.bind fun now _ => (Makes.ensure _).bind fun _ _ => ?_
  refine makes_clock.bind fun verifiedAt _ => .bind (S := fun _ => True) ?_ fun _ _ => ?_
  · refine .transaction (G := fun _ F => F = verifyStatements row.1 verifiedAt) ?_ fun nested _ F hF => ?_
    · exact .exec_bind <| .exec_bind <| .exec_bind <| .exec rfl
    · exact ⟨hF ▸ .verify row.1 verifiedAt, trivial⟩
  · exact (makes_call _).attempt.bind fun _ _ => makes_call _

theorem makes_resendVerificationEmail (email : List Char) (ip : String) (new : NewVerification) :
    Makes (Committing VerificationTx) (resendVerificationEmail email ip new) fun _ => True := by
  refine (makes_checkRateLimit _ _).bind fun allowed _ => (Makes.ensure _).bind fun _ _ => ?_
  refine (makes_read _).bind fun _ _ => (makes_orThrow _ _).bind fun user _ => (Makes.ensure _).bind fun _ _ => ?_
  refine .bind (S := fun _ => True) ?_ fun _ _ => makes_clock.bind fun now _ => ?_
  · refine .transaction (G := fun _ F => Each UsersStmt.Mild F) ?_ fun nested _ F mild => ⟨.mild mild, trivial⟩
    exact .each_bind (.each_query _) fun ids => .each_exec trivial
  · refine (makes_mild (w := .createVerification _) trivial).bind fun _ _ => .onThrow ?_ fun _ => ?_
    · exact (makes_sendVerificationEmail _ _ _).bind fun sent _ => (Makes.ensure _).mono (fun _ h => h) fun _ _ => trivial
    · exact .bind (S := fun _ => True) (committing_statement (.delete new.id)) fun _ _ => .throw _

theorem makes_invalidateUsersCache (userId : Id) :
    Makes (Committing VerificationTx) (invalidateUsersCache userId) fun _ => True := by
  refine .attempt ((makes_call _).attempt.bind fun _ _ => (makes_call _).attempt.bind fun _ _ => ?_)
  refine (makes_call _).attempt.bind fun _ _ => (makes_call _).attempt.bind fun _ _ => ?_
  refine (makes_call _).bind fun _ _ => (makes_call _).bind fun _ _ => (makes_call _).bind fun _ _ => ?_
  refine (makes_read _).bind fun user _ => .bind (S := fun _ => True) (.whenSome fun u _ => ?_) fun _ _ => ?_
  · exact (makes_call _).bind fun _ _ => makes_call _
  · exact makes_call _

theorem makes_findById (id : Id) : Makes (Committing VerificationTx) (findById id) fun _ => True := by
  refine (makes_call _).bind fun cached _ => ?_
  cases cached with
  | some value => exact .ret trivial
  | none =>
    refine (makes_read _).bind fun user _ => (makes_orThrow _ _).bind fun view _ => ?_
    exact (makes_call _).bind fun _ _ => .ret trivial

theorem makes_updateProfile (userId : Id) (dto : UpdateUserDto) :
    Makes (Committing VerificationTx) (updateProfile userId dto) fun _ => True := by
  refine (makes_read _).bind fun user _ => (makes_orThrow _ _).bind fun _ _ => ?_
  refine .bind (S := fun _ => True) (.whenSome fun username _ => ?_) fun _ _ => ?_
  · exact (makes_read _).bind fun _ _ => (Makes.ensure _).mono (fun _ h => h) fun _ _ => trivial
  refine .bind (S := fun _ => True) (.whenSome fun email _ => ?_) fun _ _ => ?_
  · exact (makes_read _).bind fun _ _ => (Makes.ensure _).mono (fun _ h => h) fun _ _ => trivial
  refine .bind (S := fun _ => True) ?_ fun _ _ => (makes_invalidateUsersCache userId).bind fun _ _ =>
    (makes_findById userId).bind fun _ _ => .ret trivial
  refine .transaction (G := fun _ F => VerificationTx F) (.exec_bind ?_) fun nested _ F tx => ⟨tx, trivial⟩
  refine Adds.mono (G := fun _ F => Each UsersStmt.Mild F) (.each_when ?_) fun _ F mild => .update _ _ _ mild
  exact Adds.each_exec (w := UsersStmt.updateProfile userId dto.patch) trivial

theorem VerificationOp.makes (op : VerificationOp) :
    Makes (Committing VerificationTx) op.program fun _ => True := by
  cases op with
  | register dto ip new => exact makes_register dto ip new
  | resendVerificationEmail email ip new => exact makes_resendVerificationEmail email ip new
  | verifyEmail token => exact makes_verifyEmail token
  | updateProfile userId dto => exact (makes_updateProfile userId dto).bind fun _ _ => .ret trivial
  | tick ms => exact makes_mild trivial

end Makes

/-! ## What the commits keep -/

namespace UsersDb

variable {d d' : UsersDb}

/-- The later state has every verification of the earlier one that was used. -/
def KeepsUsed (d d' : UsersDb) : Prop :=
  ∀ userId email, d.VerifiedAddress userId email → d'.VerifiedAddress userId email

theorem KeepsUsed.of_same (same : d'.emailVerifications = d.emailVerifications) : KeepsUsed d d' := by
  intro userId email h
  unfold VerifiedAddress
  rwa [same]

theorem keepsUsed_createVerification (v : EmailVerification) (d : UsersDb) :
    KeepsUsed d ((UsersStmt.createVerification v).apply d) := by
  rintro userId email ⟨r, mem, h⟩
  refine ⟨r, ?_, h⟩
  obtain ⟨r', found, same⟩ := Table.grows_insert (R := Eq) (fun _ => rfl) d.emailVerifications v r.id r
    (Table.find_of_mem mem)
  rw [same]
  exact Table.find_mem found

theorem keepsUsed_deleteUnverified (owner : Id) (ids : List Id) (d : UsersDb) :
    KeepsUsed d ((UsersStmt.deleteUnverified owner ids).apply d) := by
  rintro userId email ⟨r, mem, own, same, used⟩
  refine ⟨r, List.mem_filter.2 ⟨mem, ?_⟩, own, same, used⟩
  simp [used]

theorem keepsUsed_setVerifiedAt (seen : EmailVerification) (at_ : Nat) (d : UsersDb) :
    KeepsUsed d ((UsersStmt.setVerifiedAt seen at_).apply d) := by
  rintro userId email ⟨r, mem, own, same, used⟩
  refine ⟨if r.id = seen.id then { r with verifiedAt := some at_ } else r, List.mem_map_of_mem mem, ?_⟩
  split
  · exact ⟨own, same, Option.some_ne_none at_⟩
  · exact ⟨own, same, used⟩

/-- The verified users of the later state were verified before, with the same addresses. -/
theorem AddressesVerified.kept (h : d.AddressesVerified) (used : KeepsUsed d d')
    (users : ∀ u' ∈ d'.users.rows, u'.emailVerified = true →
      ∃ u ∈ d.users.rows, u.emailVerified = true ∧ u.id = u'.id ∧ u.email = u'.email) :
    d'.AddressesVerified := by
  intro u' mem flag
  obtain ⟨u, old, was, id, email⟩ := users u' mem flag
  rw [← id, ← email]
  exact used _ _ (h u old was)

theorem AddressesVerified.of_mild (h : d.AddressesVerified) {w : UsersStmt} (mild : w.Mild) :
    (w.apply d).AddressesVerified := by
  cases w with
  | createUser new =>
    refine h.kept (.of_same rfl) (Table.forall_insert (t := d.users) (fun u mem flag => ?_) fun flag => ?_)
    · exact ⟨u, mem, flag, rfl, rfl⟩
    · have unverified : new.emailVerified = false := mild
      rw [unverified] at flag
      cases flag
  | updateStatus userId status =>
    refine h.kept (.of_same rfl) fun u' mem flag => ?_
    obtain ⟨u, old, rfl⟩ := List.mem_map.1 mem
    refine ⟨u, old, ?_⟩
    split at flag
    · exact ⟨flag, by split <;> rfl, by split <;> rfl⟩
    · exact ⟨flag, by split <;> rfl, by split <;> rfl⟩
  | createVerification v =>
    exact h.kept (keepsUsed_createVerification v d) fun u mem flag => ⟨u, mem, flag, rfl, rfl⟩
  | deleteUnverified userId ids =>
    exact h.kept (keepsUsed_deleteUnverified userId ids d) fun u mem flag => ⟨u, mem, flag, rfl, rfl⟩
  | setVerifiedAt seen at_ =>
    exact h.kept (keepsUsed_setVerifiedAt seen at_ d) fun u mem flag => ⟨u, mem, flag, rfl, rfl⟩
  | setEmailVerified userId => exact mild.elim
  | deleteVerification id => exact mild.elim
  | updateUser userId username email => exact mild.elim
  | _ => exact h.kept (.of_same rfl) fun u mem flag => ⟨u, mem, flag, rfl, rfl⟩

theorem AddressesVerified.of_each_mild (h : d.AddressesVerified) {F : List UsersStmt}
    (mild : Each UsersStmt.Mild F) : (applyAll F d).AddressesVerified := by
  induction F generalizing d with
  | nil => exact h
  | cons w F ih =>
    exact ih (h.of_mild (mild w List.mem_cons_self)) fun w' mem => mild w' (List.mem_cons_of_mem w mem)

/-- A used token verifies its address. -/
theorem verifiedAddress_setVerifiedAt {seen : EmailVerification} {at_ : Nat}
    (valid : (UsersStmt.setVerifiedAt seen at_).check d = none) :
    ((UsersStmt.setVerifiedAt seen at_).apply d).VerifiedAddress seen.userId seen.email := by
  unfold UsersStmt.check at valid
  cases found : d.emailVerifications.find seen.id with
  | none => simp [found] at valid
  | some v =>
    have same : v.Same seen := by simpa [found] using valid
    refine ⟨{ v with verifiedAt := some at_ }, ?_, same.1, same.2.1, Option.some_ne_none at_⟩
    have mem := List.mem_map_of_mem (f := fun r : EmailVerification =>
      if r.id = seen.id then { r with verifiedAt := some at_ } else r) (Table.find_mem found)
    rwa [if_pos (Table.find_key (t := d.emailVerifications) found)] at mem

/-- The token's address is the address of the user it verifies. -/
theorem AddressesVerified.of_verify (h : d.AddressesVerified) {seen : EmailVerification} {at_ : Nat}
    (valid : violation (verifyStatements seen at_) d = none)
    (keeps : (UsersStmt.setVerifiedAt seen at_).KeepsAddress d) :
    (applyAll (verifyStatements seen at_) d).AddressesVerified := by
  have rest : Each UsersStmt.Mild
      [.setProfileVerified seen.userId at_, .createAuditLog seen.userId "EMAIL_VERIFIED"] := by
    intro w mem
    simp only [List.mem_cons, List.not_mem_nil, or_false] at mem
    obtain rfl | rfl := mem <;> trivial
  refine AddressesVerified.of_each_mild (F := [.setProfileVerified seen.userId at_,
    .createAuditLog seen.userId "EMAIL_VERIFIED"]) (d := applyAll [.setEmailVerified seen.userId,
      .setVerifiedAt seen at_] d) ?_ rest
  obtain ⟨-, valid⟩ := violation_cons.1 valid
  obtain ⟨found, -⟩ := violation_cons.1 valid
  have used : KeepsUsed d (applyAll [.setEmailVerified seen.userId, .setVerifiedAt seen at_] d) :=
    keepsUsed_setVerifiedAt seen at_ d
  intro u' mem flag
  obtain ⟨u, old, rfl⟩ := List.mem_map.1 mem
  by_cases own : u.id = seen.userId
  · rw [if_pos own]
    cases was : u.emailVerified with
    | true => exact used _ _ (h u old was)
    | false =>
      have email : seen.email = u.email := keeps u (own ▸ Table.find_of_mem old) was
      rw [own, ← email]
      exact verifiedAddress_setVerifiedAt found
  · rw [if_neg own] at flag ⊢
    exact used _ _ (h u old flag)

/-- The deleted verification has not been used. -/
theorem AddressesVerified.of_delete (h : d.AddressesVerified) {id : Id}
    (keeps : (UsersStmt.deleteVerification id).KeepsAddress d) :
    ((UsersStmt.deleteVerification id).apply d).AddressesVerified := by
  refine h.kept ?_ fun u mem flag => ⟨u, mem, flag, rfl, rfl⟩
  rintro userId email ⟨v, mem, own, same, used⟩
  refine ⟨v, List.mem_filter.2 ⟨mem, ?_⟩, own, same, used⟩
  have other : v.id ≠ id := by
    intro deleted
    exact used (keeps v (deleted ▸ Table.find_of_mem mem))
  simp [other]

/-- The new address of a verified user is one the user has verified. -/
theorem AddressesVerified.of_updateUser (h : d.AddressesVerified) {userId : Id}
    {username email : Option (List Char)} (keeps : (UsersStmt.updateUser userId username email).KeepsAddress d) :
    ((UsersStmt.updateUser userId username email).apply d).AddressesVerified := by
  intro u' mem flag
  have used : KeepsUsed d ((UsersStmt.updateUser userId username email).apply d) := .of_same rfl
  obtain ⟨u, old, rfl⟩ := List.mem_map.1 mem
  by_cases own : u.id = userId
  · rw [if_pos own] at flag ⊢
    cases email with
    | none => exact used _ _ (h u old flag)
    | some email =>
      have verified : d.VerifiedAddress userId email := keeps u (own ▸ Table.find_of_mem old) flag
      rw [← own] at verified
      exact used _ _ verified
  · rw [if_neg own] at flag ⊢
    exact used _ _ (h u old flag)

theorem AddressesVerified.of_tx (h : d.AddressesVerified) {F : List UsersStmt} (tx : VerificationTx F)
    (valid : violation F d = none) (keeps : ∀ w ∈ F, w.KeepsAddress d) : (applyAll F d).AddressesVerified := by
  cases tx with
  | mild mild => exact h.of_each_mild mild
  | verify seen at_ => exact h.of_verify valid (keeps _ (by simp [verifyStatements]))
  | delete id => exact h.of_delete (keeps _ List.mem_cons_self)
  | update userId username email mild => exact (h.of_updateUser (keeps _ List.mem_cons_self)).of_each_mild mild

end UsersDb

/-- **A verified user has verified the address of the account**, in every state that a run reaches
in which no commit parts the two. -/
theorem addressesVerified_of_keepsAddresses {db : UsersDb} {ext : UsersServices} {ops : List VerificationOp}
    {c : UsersSystem} (verified : db.AddressesVerified)
    (run : Reaches KeepsAddresses (Config.start db ext (ops.map VerificationOp.program)) c) :
    c.db.AddressesVerified := by
  refine run.induct_of_committing (T := fun _ => VerificationTx) (fun i p hp => ?_)
    (fun d _ => d.AddressesVerified) verified fun tx valid keeps before => before.of_tx tx valid keeps
  rw [List.getElem?_map, Option.map_eq_some_iff] at hp
  obtain ⟨op, -, rfl⟩ := hp
  exact op.makes

/-- A registration, a resend of its mail, the use of either token and a change of the address. -/
def adaRegisters : VerificationOp :=
  .register ⟨"ada@unilag.edu.ng".toList, "ada".toList, "$2b$"⟩ "10.0.0.1" ⟨.ofNat 1, .ofNat 2, "t1".toList⟩

def adaResends : VerificationOp :=
  .resendVerificationEmail "ada@unilag.edu.ng".toList "10.0.0.1" ⟨.ofNat 3, "t2".toList⟩

def adaMoves : VerificationOp := .updateProfile (.ofNat 1) { email := some "eve@mail.com".toList }

/-- The users code is run from an empty database. -/
def verifying (ops : List VerificationOp) : UsersSystem :=
  Config.start {} ({} : UsersServices) (ops.map VerificationOp.program)

/-- A user who registers and verifies the address keeps it verified. -/
theorem adaVerifies_keeps_address : ∃ c,
    Reaches KeepsAddresses (verifying [adaRegisters, .verifyEmail "t1".toList]) c ∧
    c.threads.all Thread.returned ∧ c.db.users.rows.any User.emailVerified ∧ c.db.AddressesVerified := by
  obtain ⟨c, run, returned, verified⟩ := Reaches.of_replay_any KeepsAddresses
    (verifying [adaRegisters, .verifyEmail "t1".toList]) (takeTurns UsersMove UsersError [(0, 19), (1, 13)])
    (fun c : UsersSystem => c.threads.all Thread.returned ∧ c.db.users.rows.any User.emailVerified)
    (by decide +kernel)
  exact ⟨c, run, returned, verified, addressesVerified_of_keepsAddresses (by decide) run⟩

/-- A verified user's address is changed; a token is used after the change; and a token is used
before its resend, whose reply from the mail service is lost, deletes it. -/
theorem verified_without_address :
    (∃ c, Reaches (fun _ _ => True) (verifying [adaRegisters, .verifyEmail "t1".toList, adaMoves]) c ∧
      c.threads.all Thread.returned ∧ ¬c.db.AddressesVerified) ∧
    (∃ c, Reaches (fun _ _ => True) (verifying [adaRegisters, adaMoves, .verifyEmail "t1".toList]) c ∧
      c.threads.all Thread.returned ∧ ¬c.db.AddressesVerified) ∧
    ∃ c, Reaches (fun _ _ => True) (verifying [adaRegisters, adaResends, .verifyEmail "t2".toList]) c ∧
      ¬c.db.AddressesVerified := by
  refine ⟨?_, ?_, ?_⟩
  · exact Reaches.of_replay_any _ _ (takeTurns UsersMove UsersError [(0, 19), (1, 13), (2, 27)])
      (fun c : UsersSystem => c.threads.all Thread.returned ∧ ¬c.db.AddressesVerified) (by decide +kernel)
  · exact Reaches.of_replay_any _ _ (takeTurns UsersMove UsersError [(0, 19), (1, 27), (2, 13)])
      (fun c : UsersSystem => c.threads.all Thread.returned ∧ ¬c.db.AddressesVerified) (by decide +kernel)
  · exact Reaches.of_replay_any _ _ (takeTurns UsersMove UsersError [(0, 19), (1, 12)] ++
      [.thread 1 (.lost .fault)] ++ takeTurns UsersMove UsersError [(2, 13), (1, 3)])
      (fun c : UsersSystem => ¬c.db.AddressesVerified) (by decide +kernel)

end Heightt.Users
