import Heightt.Payouts.Service
import Heightt.ReadCommitted.Guarantee

/-!
# Where withdrawals are paid to

The provider keeps one destination for each bank account, the one it was first
asked for. `Settled` says that an account's number and bank code no longer change
once it was asked, and are as the caller has read them when it is; then every payout
goes to the number and bank that the account had when its withdrawal was requested.
-/

namespace Heightt.Payouts

open Store ReadCommitted Prog Database BankAccountService FinanceService

/-- A call, with the identifiers it is given, or a review by the provider. -/
inductive PayoutOp where
  | createBankAccount (userId : String) (dto : CreateBankAccountDto) (newId : String)
  | updateBankAccount (id userId : String) (dto : UpdateBankAccountDto)
  | deleteBankAccount (id userId : String)
  | setDefaultBankAccount (id userId : String)
  | prepareBankAccountPayout (userId bankAccountId : String)
  | requestUserWithdrawal (userId bankAccountId newId : String)
  | requestOrganizationWithdrawal (userId bankAccountId newId : String)
  | triggerWithdrawalTransfer (withdrawalId : String)
  | review (id : Nat) (status : String) (is_usable : Bool)

/-- The program of a call. -/
def PayoutOp.program : PayoutOp → PayoutAction Unit
  | createBankAccount userId dto newId => BankAccountService.createBankAccount userId dto newId
  | updateBankAccount id userId dto => BankAccountService.updateBankAccount id userId dto
  | deleteBankAccount id userId => BankAccountService.deleteBankAccount id userId
  | setDefaultBankAccount id userId => BankAccountService.setDefaultBankAccount id userId
  | prepareBankAccountPayout userId id => FinanceService.prepareBankAccountPayout userId id
  | requestUserWithdrawal userId id newId => FinanceService.requestUserWithdrawal userId id newId
  | requestOrganizationWithdrawal userId id newId =>
    FinanceService.requestOrganizationWithdrawal userId id newId
  | triggerWithdrawalTransfer id => FinanceService.triggerWithdrawalTransfer id
  | review id status is_usable => statement (.reviewDestination id status is_usable)

/-- The calls at their start. -/
def begins (db : PayoutDb) (banks : Banks) (ops : List PayoutOp) : PayoutSystem :=
  .start db banks (ops.map PayoutOp.program)

/-! ## What must hold -/

/-- The destination is registered for the number and bank of the account. -/
def RegisteredFor (d : PayoutDb) (id : Nat) (a : BankAccount) : Prop :=
  ∃ r, d.destinations.find id = some r ∧ r.accountNumber = a.accountNumber ∧
    some r.bankCode = a.bankCode

/-- Every payout goes to what is registered for the account that its request has read. -/
def PaidAsRequested (d : PayoutDb) : Prop :=
  ∀ p ∈ d.payouts, ∃ w, d.withdrawals.find p.withdrawalId = some w ∧ RegisteredFor d p.destination w.bankAccount

/-- The accounts, the provider's answers and the withdrawals fit together. -/
structure Consistent (d : PayoutDb) : Prop where
  /-- The provider answered with a destination for the account as it stands. -/
  answers : ∀ key answer, d.answers.find key = some answer →
    ∃ a, d.bankAccounts.find key = some a ∧ RegisteredFor d answer.destination.id a
  /-- An account's destination is the one its key got. -/
  accounts : ∀ a ∈ d.bankAccounts.rows, ∀ id, a.payoutDestinationId = some id →
    ∃ answer, d.answers.find a.id = some answer ∧ answer.destination.id = id
  withdrawals : ∀ w ∈ d.withdrawals.rows, RegisteredFor d w.payoutDestinationId w.bankAccount
  payouts : ∀ p ∈ d.payouts, ∃ w, d.withdrawals.find p.withdrawalId = some w ∧
    w.payoutDestinationId = p.destination
  /-- The provider numbers its destinations. -/
  numbered : ∀ r ∈ d.destinations.rows, r.id < d.destinations.rows.length

theorem Consistent.paidAsRequested {d : PayoutDb} (h : Consistent d) : PaidAsRequested d := by
  intro p hp
  obtain ⟨w, hw, same⟩ := h.payouts p hp
  exact ⟨w, hw, same ▸ h.withdrawals w (Table.find_mem hw)⟩

namespace PayoutStmt

/-- The number and bank code of an account that the provider was asked for stay as
they are, and when it is asked they are as the request says. -/
def Settled (d : PayoutDb) : PayoutStmt → Prop
  | updateBankAccount id patch => (d.answers.find id).isSome → ∀ a ∈ d.bankAccounts.find id,
    (patch.apply a).accountNumber = a.accountNumber ∧ (patch.apply a).bankCode = a.bankCode
  | createPayoutDestination data key => ∃ a ∈ d.bankAccounts.find key,
    a.accountNumber = data.accountNumber ∧ a.bankCode = some data.bankCode
  | _ => True

instance (d : PayoutDb) : (w : PayoutStmt) → Decidable (w.Settled d)
  | updateBankAccount id _ => inferInstanceAs (Decidable (_ → ∀ a ∈ d.bankAccounts.find id, _ ∧ _))
  | createPayoutDestination _ key => inferInstanceAs (Decidable (∃ a ∈ d.bankAccounts.find key, _ ∧ _))
  | createBankAccount _ | unsetDefault .. | createWithdrawal _ | createActivityLog
  | reviewDestination .. | createPayout _ => isTrue trivial

end PayoutStmt

/-- Every commit is settled. -/
def Settled (c : PayoutSystem) : Effect PayoutStmt AccountCall → Prop
  | .commit _ _ F => ∀ w ∈ F, w.Settled c.db
  | _ => True

instance (c : PayoutSystem) : (eff : Effect PayoutStmt AccountCall) → Decidable (Settled c eff)
  | .commit _ _ F => inferInstanceAs (Decidable (∀ w ∈ F, w.Settled c.db))
  | .internal | .fault _ | .called .. | .unsent .. => isTrue trivial

/-! ## One statement -/

def PayoutDestination.Same (r r' : PayoutDestination) : Prop :=
  r'.accountNumber = r.accountNumber ∧ r'.bankCode = r.bankCode

/-- The number and bank code are the same. -/
def BankAccount.Same (a a' : BankAccount) : Prop :=
  a'.accountNumber = a.accountNumber ∧ a'.bankCode = a.bankCode

/-- Nothing the provider has answered and no withdrawal is taken back. -/
structure Extends (d d' : PayoutDb) : Prop where
  answers : d.answers.Grows Eq d'.answers
  destinations : d.destinations.Grows PayoutDestination.Same d'.destinations
  withdrawals : d.withdrawals.Grows Eq d'.withdrawals

theorem PayoutDestination.Same.refl (r : PayoutDestination) : r.Same r := ⟨rfl, rfl⟩

theorem Extends.refl (d : PayoutDb) : Extends d d :=
  ⟨.refl (fun _ => rfl) _, .refl PayoutDestination.Same.refl _, .refl (fun _ => rfl) _⟩

theorem Extends.trans {d d' d'' : PayoutDb} (h : Extends d d') (h' : Extends d' d'') : Extends d d'' :=
  ⟨h.answers.trans Eq.trans h'.answers,
    h.destinations.trans (fun hab hbc => ⟨hbc.1.trans hab.1, hbc.2.trans hab.2⟩) h'.destinations,
    h.withdrawals.trans Eq.trans h'.withdrawals⟩

theorem extends_apply (w : PayoutStmt) (d : PayoutDb) : Extends d (w.apply d) := by
  have same : Extends d d := .refl d
  cases w with
  | createBankAccount a => exact { same with }
  | updateBankAccount id patch => exact { same with }
  | unsetDefault userId other => exact { same with }
  | createWithdrawal w =>
    exact { same with withdrawals := Table.grows_insert (fun _ => rfl) _ w }
  | createActivityLog => exact same
  | createPayoutDestination data key =>
    simp only [PayoutStmt.apply]
    split
    · exact same
    · exact { same with
        answers := Table.grows_insert (fun _ => rfl) _ _
        destinations := Table.grows_insert PayoutDestination.Same.refl _ _ }
  | reviewDestination id status is_usable =>
    exact { same with
      destinations := Table.grows_modify (f := PayoutDestination.review status is_usable)
        (fun _ => rfl) PayoutDestination.Same.refl fun _ _ => ⟨rfl, rfl⟩ }
  | createPayout p =>
    simp only [PayoutStmt.apply]
    split
    · exact same
    · exact { same with }

theorem Extends.registeredFor {d d' : PayoutDb} (h : Extends d d') {id : Nat} {a a' : BankAccount}
    (registered : RegisteredFor d id a) (same : a.Same a') : RegisteredFor d' id a' := by
  obtain ⟨r, hr, number, code⟩ := registered
  obtain ⟨r', hr', number', code'⟩ := h.destinations id r hr
  exact ⟨r', hr', by rw [number', number, same.1], by rw [code', code, same.2]⟩

/-- What a call knows about a statement it writes, after it wrote `l`. -/
def PayoutStmt.Justified (d : PayoutDb) (l : List PayoutStmt) : PayoutStmt → Prop
  | createBankAccount a => a.payoutDestinationId = none
  | updateBankAccount id patch => ∀ destination, patch.payoutDestinationId = some (some destination) →
    ∃ answer, d.answers.find id = some answer ∧ answer.destination.id = destination
  | createWithdrawal w => ∃ answer, d.answers.find w.bankAccount.id = some answer ∧
    answer.destination.id = w.payoutDestinationId ∧
      (RegisteredFor d w.payoutDestinationId w.bankAccount ∨
        ∃ data, .createPayoutDestination data w.bankAccount.id ∈ l ∧
          data.accountNumber = w.bankAccount.accountNumber ∧ some data.bankCode = w.bankAccount.bankCode)
  | createPayout p => ∃ w, d.withdrawals.find p.withdrawalId = some w ∧
    w.payoutDestinationId = p.destination
  | _ => True

/-- The account is as the provider was asked for it. -/
def Asked (d : PayoutDb) (l : List PayoutStmt) : Prop :=
  ∀ data key, .createPayoutDestination data key ∈ l → (d.answers.find key).isSome ∧
    ∃ a, d.bankAccounts.find key = some a ∧ a.accountNumber = data.accountNumber ∧
      a.bankCode = some data.bankCode

/-- The accounts that the provider has answered for keep their number and bank code. -/
theorem same_of_settled {d : PayoutDb} {w : PayoutStmt} (valid : w.check d = none)
    (settled : w.Settled d) {key : String} (answered : (d.answers.find key).isSome) {a : BankAccount}
    (ha : d.bankAccounts.find key = some a) :
    ∃ a', (w.apply d).bankAccounts.find key = some a' ∧ a.Same a' := by
  have kept : a.Same a := ⟨rfl, rfl⟩
  cases w with
  | createBankAccount b =>
    have free : d.bankAccounts.find b.id = none := by
      rw [← Option.not_isSome_iff_eq_none]
      intro taken
      simp [PayoutStmt.check, taken] at valid
    refine ⟨a, ?_, kept⟩
    show (d.bankAccounts.insert b).find key = some a
    rw [Table.find_insert free, if_neg]
    · exact ha
    · rintro rfl
      rw [free] at ha
      cases ha
  | updateBankAccount id patch =>
    have found := Table.find_modify d.bankAccounts id patch.apply (fun _ => rfl) key
    by_cases own : key = id
    · subst own
      rw [if_pos rfl, ha] at found
      exact ⟨patch.apply a, found, settled answered a ha⟩
    · rw [if_neg own, ha] at found
      exact ⟨a, found, kept⟩
  | unsetDefault userId other =>
    have found := Table.find_mapRows d.bankAccounts (BankAccount.unset userId other)
      (BankAccount.unset_id userId other) key
    rw [ha] at found
    refine ⟨_, found, ?_⟩
    unfold BankAccount.unset
    split <;> exact ⟨rfl, rfl⟩
  | createPayoutDestination data id =>
    refine ⟨a, ?_, kept⟩
    simp only [PayoutStmt.apply]
    split <;> exact ha
  | createPayout p =>
    refine ⟨a, ?_, kept⟩
    simp only [PayoutStmt.apply]
    split <;> exact ha
  | _ => exact ⟨a, ha, kept⟩

/-- An answer that stood before still fits its account. -/
theorem Consistent.answers_apply {d : PayoutDb} {w : PayoutStmt} (h : Consistent d)
    (valid : w.check d = none) (settled : w.Settled d) {key : String} {answer : Answer}
    (ha : d.answers.find key = some answer) :
    ∃ a, (w.apply d).bankAccounts.find key = some a ∧
      RegisteredFor (w.apply d) answer.destination.id a := by
  obtain ⟨a, found, registered⟩ := h.answers key answer ha
  obtain ⟨a', found', same⟩ := same_of_settled valid settled (by rw [ha]; rfl) found
  exact ⟨a', found', (extends_apply w d).registeredFor registered same⟩

/-- An account's destination after a statement is the one its key got. -/
theorem Consistent.accounts_apply {d : PayoutDb} {w : PayoutStmt} {l : List PayoutStmt}
    (h : Consistent d) (valid : w.check d = none) (justified : w.Justified d l) :
    ∀ a ∈ (w.apply d).bankAccounts.rows, ∀ id, a.payoutDestinationId = some id →
      ∃ answer, d.answers.find a.id = some answer ∧ answer.destination.id = id := by
  intro a mem id hid
  cases w with
  | createBankAccount b =>
    have free : d.bankAccounts.find b.id = none := by
      rw [← Option.not_isSome_iff_eq_none]
      intro taken
      simp [PayoutStmt.check, taken] at valid
    change a ∈ (d.bankAccounts.insert b).rows at mem
    rw [Table.insert_rows free, List.mem_append, List.mem_singleton] at mem
    obtain mem | rfl := mem
    · exact h.accounts a mem id hid
    · rw [show a.payoutDestinationId = none from justified] at hid
      cases hid
  | updateBankAccount key patch =>
    obtain ⟨b, hb, rfl⟩ := List.mem_map.1 mem
    by_cases own : b.id = key
    · rw [if_pos own] at hid ⊢
      cases hp : patch.payoutDestinationId with
      | none => exact h.accounts b hb id (by simpa [BankAccountPatch.apply, hp] using hid)
      | some destination =>
        have new : destination = some id := by simpa [BankAccountPatch.apply, hp] using hid
        subst new
        obtain ⟨answer, found, same⟩ := justified id hp
        exact ⟨answer, own ▸ found, same⟩
    · rw [if_neg own] at hid ⊢
      exact h.accounts b hb id hid
  | unsetDefault userId other =>
    obtain ⟨b, hb, rfl⟩ := List.mem_map.1 mem
    rw [BankAccount.unset_id]
    refine h.accounts b hb id ?_
    rw [← hid]
    unfold BankAccount.unset
    split <;> rfl
  | createPayoutDestination data key =>
    refine h.accounts a ?_ id hid
    simp only [PayoutStmt.apply] at mem
    split at mem <;> exact mem
  | createPayout p =>
    refine h.accounts a ?_ id hid
    simp only [PayoutStmt.apply] at mem
    split at mem <;> exact mem
  | createWithdrawal w => exact h.accounts a mem id hid
  | createActivityLog => exact h.accounts a mem id hid
  | reviewDestination n status is_usable => exact h.accounts a mem id hid

/-- What a withdrawal is paid to is registered for its account. -/
theorem Consistent.registered_of_justified {d : PayoutDb} {w : Withdrawal} {l : List PayoutStmt}
    (h : Consistent d) (asked : Asked d l)
    (justified : (PayoutStmt.createWithdrawal w).Justified d l) :
    RegisteredFor d w.payoutDestinationId w.bankAccount := by
  obtain ⟨answer, found, same, registered | ⟨data, hdata, number, code⟩⟩ := justified
  · exact registered
  · obtain ⟨-, a, ha, number', code'⟩ := asked data _ hdata
    obtain ⟨a', ha', registered⟩ := h.answers _ answer found
    cases ha.symm.trans ha'
    rw [← same]
    exact (Extends.refl d).registeredFor registered ⟨number.symm.trans number'.symm, code.symm.trans code'.symm⟩

/-- A provider that registers a destination answers for the account as it is. -/
theorem Consistent.register {d : PayoutDb} {data : DestinationData} {key : String} (h : Consistent d)
    (free : d.answers.find key = none)
    (settled : (PayoutStmt.createPayoutDestination data key).Settled d) :
    Consistent ((PayoutStmt.createPayoutDestination data key).apply d) := by
  have new : d.destinations.find (d.newDestination data).id = none := by
    rw [← Option.not_isSome_iff_eq_none, Option.isSome_iff_exists]
    rintro ⟨r, hr⟩
    have := h.numbered r (Table.find_mem hr)
    rw [Table.find_key hr] at this
    exact Nat.lt_irrefl _ this
  have grows := extends_apply (.createPayoutDestination data key) d
  have applied : (PayoutStmt.createPayoutDestination data key).apply d =
      { d with
        destinations := d.destinations.insert (d.newDestination data)
        answers := d.answers.insert ⟨key, d.newDestination data⟩ } := by
    simp [PayoutStmt.apply, free]
  rw [applied] at grows ⊢
  constructor
  · intro key' answer ha
    change (d.answers.insert ⟨key, d.newDestination data⟩).find key' = some answer at ha
    rw [Table.find_insert free] at ha
    split at ha
    · rename_i own
      obtain rfl := Option.some.inj ha
      obtain ⟨a, mem, number, code⟩ := settled
      refine ⟨a, own ▸ mem, d.newDestination data, ?_, number.symm, code.symm⟩
      show (d.destinations.insert (d.newDestination data)).find _ = _
      rw [Table.find_insert new, if_pos rfl]
    · obtain ⟨a, found, registered⟩ := h.answers key' answer ha
      exact ⟨a, found, grows.registeredFor registered ⟨rfl, rfl⟩⟩
  · intro a mem id hid
    obtain ⟨answer, found, same⟩ := h.accounts a mem id hid
    obtain ⟨answer', found', rfl⟩ := grows.answers _ answer found
    exact ⟨answer, found', same⟩
  · intro w mem
    exact grows.registeredFor (h.withdrawals w mem) ⟨rfl, rfl⟩
  · exact h.payouts
  · intro r mem
    change r ∈ (d.destinations.insert (d.newDestination data)).rows at mem
    show r.id < (d.destinations.insert (d.newDestination data)).rows.length
    rw [Table.insert_rows new, List.mem_append, List.mem_singleton] at mem
    rw [Table.insert_rows new, List.length_append, List.length_singleton]
    obtain mem | rfl := mem
    · exact Nat.lt_succ_of_lt (h.numbered r mem)
    · exact Nat.lt_succ_self _

theorem consistent_apply {d : PayoutDb} {w : PayoutStmt} {l : List PayoutStmt} (h : Consistent d)
    (asked : Asked d l) (valid : w.check d = none) (settled : w.Settled d)
    (justified : w.Justified d l) : Consistent (w.apply d) := by
  have answers : ∀ key answer, d.answers.find key = some answer → _ :=
    fun _ _ => h.answers_apply valid settled
  have accounts := h.accounts_apply valid justified
  have grows := extends_apply w d
  have withdrawals : ∀ w' ∈ d.withdrawals.rows,
      RegisteredFor (w.apply d) w'.payoutDestinationId w'.bankAccount := fun w' mem =>
    grows.registeredFor (h.withdrawals w' mem) ⟨rfl, rfl⟩
  cases w with
  | createBankAccount a => exact { h with answers := answers, accounts := accounts }
  | updateBankAccount id patch => exact { h with answers := answers, accounts := accounts }
  | unsetDefault userId other => exact { h with answers := answers, accounts := accounts }
  | createActivityLog => exact h
  | createWithdrawal w =>
    have free : d.withdrawals.find w.id = none := by
      rw [← Option.not_isSome_iff_eq_none]
      intro taken
      simp [PayoutStmt.check, taken] at valid
    refine { h with withdrawals := ?_, payouts := ?_ }
    · intro w' mem
      change w' ∈ (d.withdrawals.insert w).rows at mem
      rw [Table.insert_rows free, List.mem_append, List.mem_singleton] at mem
      obtain mem | rfl := mem
      · exact h.withdrawals w' mem
      · exact h.registered_of_justified asked justified
    · intro p mem
      obtain ⟨w', found, same⟩ := h.payouts p mem
      obtain ⟨_, found', rfl⟩ := grows.withdrawals _ w' found
      exact ⟨w', found', same⟩
  | createPayoutDestination data key =>
    cases free : d.answers.find key with
    | none => exact h.register free settled
    | some answer =>
      have still : (PayoutStmt.createPayoutDestination data key).apply d = d := by
        simp [PayoutStmt.apply, free]
      rw [still]
      exact h
  | reviewDestination id status is_usable =>
    refine { h with answers := answers, withdrawals := withdrawals, numbered := ?_ }
    intro r mem
    obtain ⟨r₀, mem₀, rfl⟩ := List.mem_map.1 mem
    show _ < (List.map _ d.destinations.rows).length
    rw [List.length_map]
    split <;> exact h.numbered r₀ mem₀
  | createPayout p =>
    simp only [PayoutStmt.apply]
    split
    · exact h
    · refine { h with payouts := ?_ }
      intro q mem
      obtain mem | mem := List.mem_append.1 mem
      · exact h.payouts q mem
      · rw [List.mem_singleton.1 mem]
        exact justified

/-- What was asked still stands, and so does what is asked now. -/
theorem asked_apply {d : PayoutDb} {w : PayoutStmt} {l : List PayoutStmt} (asked : Asked d l)
    (valid : w.check d = none) (settled : w.Settled d) : Asked (w.apply d) l := by
  intro data key mem
  obtain ⟨answered, a, ha, number, code⟩ := asked data key mem
  obtain ⟨answer, hanswer⟩ := Option.isSome_iff_exists.1 answered
  obtain ⟨answer', hanswer', -⟩ := (extends_apply w d).answers key answer hanswer
  obtain ⟨a', ha', same⟩ := same_of_settled valid settled answered ha
  exact ⟨by rw [hanswer']; rfl, a', ha', same.1.trans number, same.2.trans code⟩

theorem asked_now {d : PayoutDb} {data : DestinationData} {key : String}
    (settled : (PayoutStmt.createPayoutDestination data key).Settled d) :
    Asked ((PayoutStmt.createPayoutDestination data key).apply d)
      [.createPayoutDestination data key] := by
  intro data' key' mem
  cases List.mem_singleton.1 mem
  obtain ⟨a, mem, number, code⟩ := settled
  simp only [PayoutStmt.apply]
  split
  · exact ⟨‹_›, a, mem, number, code⟩
  · rename_i free
    refine ⟨?_, a, mem, number, code⟩
    show ((d.answers.insert ⟨key, d.newDestination data⟩).find key).isSome
    rw [Table.find_insert (by simpa using free), if_pos rfl]
    rfl

/-! ## What the calls commit -/

/-- What the others do: they take nothing back, and leave a consistent state consistent. -/
structure Relies (d d' : PayoutDb) : Prop where
  grows : Extends d d'
  consistent : Consistent d → Consistent d'

theorem Relies.refl (d : PayoutDb) : Relies d d := ⟨.refl d, id⟩

theorem Relies.trans {d d' d'' : PayoutDb} (h : Relies d d') (h' : Relies d' d'') : Relies d d'' :=
  ⟨h.grows.trans h'.grows, fun hd => h'.consistent (h.consistent hd)⟩

theorem guarded_relies : Guarded (D := PayoutDb) (C := AccountCall) (R := AccountCall.Reply) Relies
    fun _ => False :=
  ⟨Relies.refl, Relies.trans, fun h => h.elim⟩

/-- A commit is one justified statement, with a log entry at most. -/
def Justified (d : PayoutDb) (l F : List PayoutStmt) : Prop :=
  ∃ w : PayoutStmt, w.Justified d l ∧ (F = [w] ∨ F = [w, .createActivityLog])

/-- What a call knows about a destination for the account it has read. -/
def Knows (d : PayoutDb) (l : List PayoutStmt) (a : BankAccount) (id : Nat) : Prop :=
  ∃ answer, d.answers.find a.id = some answer ∧ answer.destination.id = id ∧
    (RegisteredFor d id a ∨ ∃ data, .createPayoutDestination data a.id ∈ l ∧
      data.accountNumber = a.accountNumber ∧ some data.bankCode = a.bankCode)

theorem Knows.mono {d d' : PayoutDb} {l l' : List PayoutStmt} {a : BankAccount} {id : Nat}
    (h : Knows d l a id) (grows : Extends d d') (more : ∀ w ∈ l, w ∈ l') : Knows d' l' a id := by
  obtain ⟨answer, found, same, registered⟩ := h
  obtain ⟨_, found', rfl⟩ := grows.answers _ answer found
  refine ⟨answer, found', same, ?_⟩
  obtain registered | ⟨data, mem, rest⟩ := registered
  · exact .inl (grows.registeredFor registered ⟨rfl, rfl⟩)
  · exact .inr ⟨data, more _ mem, rest⟩

/-- The account as it was read in a consistent state. -/
def ReadIn (s : PayoutDb) (a : BankAccount) : Prop :=
  ∀ id, a.payoutDestinationId = some id → Knows s [] a id

section Calls

variable {Q : List PayoutStmt → Prop} {s : PayoutDb} {l : List PayoutStmt} {α β : Type}

theorem commits_delete {userId : String} {f : Unit → PayoutAction β}
    (hf : ∀ d, Relies s d → Commits Relies Justified Q d l (f ())) :
    Commits Relies Justified Q s l ((CacheService.delete userId).bind f) :=
  .request_bind fun d _ hd => hf d hd

theorem commits_statement {w : PayoutStmt} {f : Unit → PayoutAction β}
    (hw : ∀ d, Relies s d → w.Justified d l)
    (hf : ∀ d, Relies s d → Commits Relies Justified Q (w.apply d) (l ++ [w]) (f ())) :
    Commits Relies Justified Q s l ((Prog.statement w).bind f) :=
  .statement_bind guarded_relies fun d hd _ => ⟨⟨w, hw d hd, .inl rfl⟩, hf d hd⟩

theorem commits_when {c : Prop} [Decidable c] {p : PayoutAction Unit} {f : Unit → PayoutAction β}
    (hp : c → Commits Relies Justified Q s l (p.bind f))
    (hf : ¬c → Commits Relies Justified Q s l (f ())) :
    Commits Relies Justified Q s l ((Prog.when c p).bind f) := by
  unfold Prog.when
  split
  · exact hp ‹_›
  · exact hf ‹_›

/-- An account that is found is read in the state it is found in. -/
theorem commits_getBankAccountById {id userId : String} {f : BankAccount → PayoutAction β}
    (hf : ∀ d a, Relies s d → (Consistent s → ReadIn d a) →
      Commits Relies Justified Q d l (f a)) :
    Commits Relies Justified Q s l ((getBankAccountById id userId).bind f) := by
  simp only [getBankAccountById, bind_eq, pure_eq, Prog.bind_assoc]
  refine .outside_bind fun d d' hd hd' => .orThrow_bind fun a found => .ensure_bind fun _ => ?_
  refine hf d' a (hd.trans hd') fun consistent id hid => ?_
  have mem : a ∈ d.bankAccounts.rows := List.mem_of_find?_eq_some found
  have consistent := hd.consistent consistent
  obtain ⟨answer, answered, same⟩ := consistent.accounts a mem id hid
  obtain ⟨b, hb, registered⟩ := consistent.answers _ answer answered
  cases hb.symm.trans (Table.find_of_mem mem)
  exact Knows.mono ⟨answer, answered, same, .inl (same ▸ registered)⟩ hd'.grows fun _ h => h

/-- What the provider answers is known to be for the account. -/
theorem commits_fetch {a : BankAccount} {bankCode : String} (code : a.bankCode = some bankCode)
    (read : ReadIn s a) {f : PayoutDestination → PayoutAction β}
    (hf : ∀ d l' r, Extends s d → (∀ w ∈ l, w ∈ l') → Knows d l' a r.id →
      Commits Relies Justified Q d l' (f r)) :
    Commits Relies Justified Q s l
      ((ensurePayoutDestination.fetch a bankCode a.payoutDestinationId).bind f) := by
  cases hid : a.payoutDestinationId with
  | some id =>
    simp only [ensurePayoutDestination.fetch, getPayoutDestination, bind_eq, Prog.bind_assoc]
    refine .outside_bind fun d d' hd hd' => .orThrow_bind fun r found => ?_
    have grows := hd.grows.trans hd'.grows
    refine hf d' l r grows (fun _ h => h) ?_
    rw [Table.find_key found]
    exact (read id hid).mono grows fun _ h => absurd h List.not_mem_nil
  | none =>
    simp only [ensurePayoutDestination.fetch, createPayoutDestination, bind_eq, pure_eq, Prog.bind_assoc]
    refine commits_statement (fun _ _ => trivial) fun d₀ hd₀ => ?_
    refine .outside_bind fun d d' hd hd' => .orThrow_bind fun answer found => ?_
    have grows : Extends s d' :=
      ((hd₀.grows.trans (extends_apply _ d₀)).trans hd.grows).trans hd'.grows
    refine hf d' _ answer.destination grows (fun _ h => List.mem_append_left _ h) ?_
    refine Knows.mono (d := d) ⟨answer, found, rfl, .inr ⟨⟨a.accountNumber, bankCode⟩, ?_, rfl,
      code.symm⟩⟩ hd'.grows
      fun _ h => h
    exact List.mem_append_right _ (List.mem_singleton_self _)

theorem commits_ensurePayoutDestination {a : BankAccount} {requireUsable : Bool} (read : ReadIn s a)
    {f : PayoutDestination → PayoutAction β}
    (hf : ∀ d l' r, Extends s d → Knows d l' a r.id → Commits Relies Justified Q d l' (f r)) :
    Commits Relies Justified Q s l ((ensurePayoutDestination a requireUsable).bind f) := by
  simp only [ensurePayoutDestination, bind_eq, pure_eq, Prog.bind_assoc]
  refine .orThrow_bind fun bankCode code => ?_
  refine commits_fetch (Option.filter_eq_some_iff.1 code).1 read fun d l' r grows _ knows => ?_
  refine commits_statement (fun d' hd' id hid => ?_) fun d' hd' => ?_
  · obtain ⟨answer, found, same, -⟩ := knows.mono hd'.grows fun _ h => h
    cases hid
    exact ⟨answer, found, same⟩
  · refine commits_delete fun d'' hd'' => .ensure_bind fun _ => ?_
    have grows' := (hd'.grows.trans (extends_apply _ d')).trans hd''.grows
    exact hf d'' _ r (grows.trans grows') (knows.mono grows' fun _ h => List.mem_append_left _ h)

theorem commits_requestUserWithdrawal {userId bankAccountId newId : String} (consistent : Consistent s)
    {f : Unit → PayoutAction β} (hf : ∀ d l', Commits Relies Justified Q d l' (f ())) :
    Commits Relies Justified Q s l ((requestUserWithdrawal userId bankAccountId newId).bind f) := by
  simp only [requestUserWithdrawal, bind_eq, Prog.bind_assoc]
  refine commits_getBankAccountById fun d a _ read => ?_
  refine commits_ensurePayoutDestination (read consistent) fun d' l' r _ knows => ?_
  exact commits_statement (fun d hd => knows.mono hd.grows fun _ h => h) fun _ _ => hf _ _

theorem commits_triggerWithdrawalTransfer {withdrawalId : String} :
    Commits Relies Justified (fun _ => True) s l (triggerWithdrawalTransfer withdrawalId) := by
  rw [← Prog.bind_ret (triggerWithdrawalTransfer withdrawalId)]
  simp only [triggerWithdrawalTransfer, bind_eq, Prog.bind_assoc]
  refine .outside_bind fun d d' _ hd' => .orThrow_bind fun w found => ?_
  refine commits_statement (fun d'' hd'' => ?_) fun _ _ => .ret trivial
  obtain ⟨_, found', rfl⟩ := (hd'.trans hd'').grows.withdrawals _ w found
  rw [← Table.find_key found] at found'
  exact ⟨w, found', rfl⟩

theorem commits_createBankAccount {userId newId : String} {dto : CreateBankAccountDto} :
    Commits Relies Justified (fun _ => True) s l (createBankAccount userId dto newId) := by
  rw [← Prog.bind_ret (createBankAccount userId dto newId)]
  simp only [createBankAccount, bind_eq, Prog.bind_assoc]
  refine .request_bind fun d r _ => .orThrow_bind fun verified _ => ?_
  refine .outside_bind fun d existing _ _ => .ensure_bind fun _ => .outside_bind fun d count _ _ => ?_
  have written (d : PayoutDb) (l : List PayoutStmt) (seen : Option BankAccount) (isDefault : Bool) :
      (createBankAccount.write seen (accountRow userId newId dto verified isDefault)).Justified d l := by
    cases seen with
    | none => exact rfl
    | some e => exact fun _ h => by cases h
  refine commits_when (fun _ => ?_) fun _ => ?_
  · refine commits_statement (fun _ _ => trivial) fun d _ => ?_
    refine commits_statement (fun d _ => written d _ _ _) fun d _ => ?_
    exact commits_delete fun _ _ => .ret trivial
  · refine commits_statement (fun d _ => written d _ _ _) fun d _ => ?_
    exact commits_delete fun _ _ => .ret trivial

/-- A change that sets no destination is justified. -/
theorem justified_of_unset {d : PayoutDb} {id : String} {patch : BankAccountPatch}
    (h : ∀ destination, patch.payoutDestinationId ≠ some (some destination)) :
    (PayoutStmt.updateBankAccount id patch).Justified d l := fun destination hd => (h destination hd).elim

theorem commits_updateBankAccount {id userId : String} {dto : UpdateBankAccountDto} :
    Commits Relies Justified (fun _ => True) s l
      (BankAccountService.updateBankAccount id userId dto) := by
  rw [← Prog.bind_ret (BankAccountService.updateBankAccount id userId dto)]
  simp only [BankAccountService.updateBankAccount, bind_eq, Prog.bind_assoc]
  refine commits_getBankAccountById fun d a _ _ => ?_
  have unset (destination : Nat) : (updatePatch dto a).payoutDestinationId ≠ some (some destination) := by
    unfold updatePatch
    split <;> simp
  refine commits_when (fun _ => ?_) fun _ => ?_
  · refine commits_statement (fun _ _ => trivial) fun d _ => ?_
    refine commits_statement (fun _ _ => justified_of_unset unset) fun d _ => ?_
    exact commits_delete fun _ _ => .ret trivial
  · refine commits_statement (fun _ _ => justified_of_unset unset) fun d _ => ?_
    exact commits_delete fun _ _ => .ret trivial

theorem commits_deleteBankAccount {id userId : String} :
    Commits Relies Justified (fun _ => True) s l (deleteBankAccount id userId) := by
  rw [← Prog.bind_ret (deleteBankAccount id userId)]
  simp only [deleteBankAccount, bind_eq, Prog.bind_assoc]
  refine commits_getBankAccountById fun d a _ _ => ?_
  have deletes (d : PayoutDb) (l : List PayoutStmt) : Commits Relies Justified (fun _ => True) d l
      ((Prog.transaction ((Prog.exec (.updateBankAccount id { isDefault := some false, isDeleted := some true })).bind
        fun _ => Prog.exec .createActivityLog)).bind fun _ => (CacheService.delete userId).bind Prog.ret) := by
    refine .transaction_bind (G := fun _ F => F = [.updateBankAccount id
      { isDefault := some false, isDeleted := some true }, .createActivityLog]) guarded_relies ?_ ?_
    · exact .exec_bind (.exec rfl)
    · rintro d' - F _ rfl _
      exact ⟨.inr ⟨_, justified_of_unset (by simp), .inr rfl⟩, commits_delete fun _ _ => .ret trivial⟩
  refine commits_when (fun _ => ?_) fun _ => deletes _ _
  simp only [Prog.bind_assoc]
  refine .outside_bind fun d _ _ _ => ?_
  cases d.bankAccounts.findFirst _ with
  | none => exact deletes _ _
  | some next =>
    refine commits_statement (fun _ _ => justified_of_unset (by simp)) fun d _ => ?_
    exact deletes _ _

theorem commits_setDefaultBankAccount {id userId : String} :
    Commits Relies Justified (fun _ => True) s l (setDefaultBankAccount id userId) := by
  rw [← Prog.bind_ret (setDefaultBankAccount id userId)]
  simp only [setDefaultBankAccount, bind_eq, Prog.bind_assoc]
  refine commits_getBankAccountById fun d a _ _ => ?_
  refine commits_statement (fun _ _ => trivial) fun d _ => ?_
  refine commits_statement (fun _ _ => justified_of_unset (by simp)) fun d _ => ?_
  exact commits_delete fun _ _ => .ret trivial

/-- A call commits only what it can justify. -/
theorem PayoutOp.commits (op : PayoutOp) (consistent : Consistent s) :
    Commits Relies Justified (fun _ => True) s [] op.program := by
  cases op with
  | createBankAccount userId dto newId => exact commits_createBankAccount
  | updateBankAccount id userId dto => exact commits_updateBankAccount
  | deleteBankAccount id userId => exact commits_deleteBankAccount
  | setDefaultBankAccount id userId => exact commits_setDefaultBankAccount
  | prepareBankAccountPayout userId id =>
    refine commits_getBankAccountById fun d a _ read => ?_
    exact commits_ensurePayoutDestination (read consistent) fun _ _ _ _ _ => .ret trivial
  | requestUserWithdrawal userId id newId =>
    rw [program, ← Prog.bind_ret (FinanceService.requestUserWithdrawal userId id newId)]
    exact commits_requestUserWithdrawal consistent fun _ _ => .ret trivial
  | requestOrganizationWithdrawal userId id newId =>
    exact commits_requestUserWithdrawal consistent fun _ _ => commits_triggerWithdrawalTransfer
  | triggerWithdrawalTransfer id => exact commits_triggerWithdrawalTransfer
  | review id status is_usable =>
    rw [program, ← Prog.bind_ret (statement _)]
    exact commits_statement (fun _ _ => trivial) fun _ _ => .ret trivial

end Calls

/-! ## Runs -/

theorem consistent_empty : Consistent {} where
  answers := by simp
  accounts := by simp [Table.empty]
  withdrawals := by simp [Table.empty]
  payouts := by simp
  numbered := by simp [Table.empty]

/-- **Payouts follow the accounts.** In a run whose commits are settled, every
payout goes to the destination registered for the number and the bank that the
account had when the withdrawal was requested. -/
theorem payouts_follow_accounts {db : PayoutDb} {banks : Banks} {ops : List PayoutOp} {c : PayoutSystem}
    (consistent : Consistent db) (run : Reaches Settled (begins db banks ops) c) :
    PaidAsRequested c.db := by
  have commits (i : Nat) (p : PayoutAction Unit) (hp : (ops.map PayoutOp.program)[i]? = some p) :
      Commits Relies Justified (fun _ => True) db [] p := by
    rw [List.getElem?_map, Option.map_eq_some_iff] at hp
    obtain ⟨op, -, rfl⟩ := hp
    exact op.commits consistent
  suffices Consistent c.db ∧ ∀ e ∈ c.log, Asked c.db e.writes from this.1.paidAsRequested
  refine (run.induct_of_commits (Ψ := fun _ => Justified) (Q := fun _ _ => True) Relies.refl Relies.trans
    commits (fun d log => Consistent d ∧ ∀ e ∈ log, Asked d e.writes) ⟨consistent, by simp⟩ ?_ ?_).1
  · rintro c i F ⟨w, justified, hF⟩ valid settled ⟨consistent, asked⟩
    have first : w ∈ F := by rcases hF with rfl | rfl <;> exact List.mem_cons_self
    have ok : w.check c.db = none := by
      rcases hF with rfl | rfl <;> exact (violation_cons.1 valid).1
    have after : applyAll F c.db = w.apply c.db := by rcases hF with rfl | rfl <;> rfl
    have own : Asked c.db (writtenBy c.log i) := by
      intro data key mem
      obtain ⟨e, he, mem⟩ := List.mem_flatMap.1 mem
      exact asked e (List.mem_filter.1 he).1 data key mem
    have consistent' : Consistent (w.apply c.db) :=
      consistent_apply consistent own ok (settled w first) justified
    rw [after]
    refine ⟨⟨extends_apply w c.db, fun _ => consistent'⟩, consistent', fun e he => ?_⟩
    obtain he | he := List.mem_append.1 he
    · exact asked_apply (asked e he) ok (settled w first)
    · rw [List.mem_singleton.1 he]
      intro data key mem
      have same : w = .createPayoutDestination data key := by
        rcases hF with rfl | rfl <;> simpa [eq_comm] using mem
      subst same
      exact asked_now (settled _ first) data key (List.mem_singleton_self _)
  · rintro d log i ⟨consistent, asked⟩
    refine ⟨consistent, fun e he => ?_⟩
    obtain he | he := List.mem_append.1 he
    · exact asked e he
    · rw [List.mem_singleton.1 he]
      exact fun _ _ h => absurd h List.not_mem_nil

/-- The threads take turns: each pair is a thread and how many operations it completes. -/
def turns (ts : List (Nat × Nat)) : List (Action Empty PayoutError) :=
  ts.flatMap fun t => List.replicate t.2 (.thread t.1 .ok)

/-- An account that no withdrawal has used. -/
def oneAccount : PayoutDb where
  bankAccounts := Table.empty.insert
    { id := "a", userId := "u", bankName := "GTBank", accountNumber := "0123456789", accountName := "U",
      bankCode := some "058", isDefault := true }

theorem consistent_oneAccount : Consistent oneAccount where
  answers := by simp [oneAccount]
  accounts := by decide
  withdrawals := by simp [oneAccount, Table.empty]
  payouts := by simp [oneAccount]
  numbered := by simp [oneAccount, Table.empty]

/-- A payout to an account that stays as it is. -/
theorem payout_arrives : ∃ c, Reaches Settled
      (begins oneAccount {} [.requestOrganizationWithdrawal "u" "a" "w1"]) c ∧
    c.threads.all Thread.returned = true ∧ c.db.payouts = [⟨"w1", 0⟩] ∧ PaidAsRequested c.db := by
  obtain ⟨c, run, hc⟩ := Reaches.of_replay_any Settled
    (begins oneAccount {} [.requestOrganizationWithdrawal "u" "a" "w1"]) (turns [(0, 22)])
    (fun c : PayoutSystem => c.threads.all Thread.returned = true ∧ c.db.payouts = [⟨"w1", 0⟩])
    (by decide +kernel)
  exact ⟨c, run, hc.1, hc.2, payouts_follow_accounts consistent_oneAccount run⟩

/-- The number is changed between two withdrawals. -/
def changedNumber : List PayoutOp :=
  [.requestOrganizationWithdrawal "u" "a" "w1",
    .updateBankAccount "a" "u" { accountNumber := some "9876543210" },
    .requestOrganizationWithdrawal "u" "a" "w2"]

/-- The second payout goes to the number that the account no longer has. -/
theorem paid_to_old_number : ∃ c, Reaches (fun _ _ => True) (begins oneAccount {} changedNumber) c ∧
    c.threads.all Thread.returned = true ∧ ¬PaidAsRequested c.db := by
  obtain ⟨c, run, returned, paid, number, destination⟩ := Reaches.of_replay_any (fun _ _ => True)
    (begins oneAccount {} changedNumber) (turns [(0, 22), (1, 7), (2, 22)])
    (fun c : PayoutSystem => c.threads.all Thread.returned = true ∧ ⟨"w2", 0⟩ ∈ c.db.payouts ∧
      (c.db.withdrawals.find "w2").map (fun w => w.bankAccount.accountNumber) = some "9876543210" ∧
      (c.db.destinations.find 0).map PayoutDestination.accountNumber = some "0123456789")
    (by decide +kernel)
  refine ⟨c, run, returned, fun right => ?_⟩
  obtain ⟨w, hw, r, hr, same, -⟩ := right _ paid
  have hw : c.db.withdrawals.find "w2" = some w := hw
  have hr : c.db.destinations.find 0 = some r := hr
  rw [hw, Option.map_some] at number
  rw [hr, Option.map_some] at destination
  have differ : "0123456789" = "9876543210" := (Option.some.inj destination).symm.trans
    (same.trans (Option.some.inj number))
  revert differ
  decide

end Heightt.Payouts
