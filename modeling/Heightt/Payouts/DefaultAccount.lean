import Heightt.Payouts.Service
import Heightt.ReadCommitted.Alone
import Heightt.ReadCommitted.Guarantee

/-!
# The default bank account

The first account of a user is the default, and so is one that is added, changed or chosen as
such; where the default is deleted another account takes its place. An update may also take
the mark away, and it unsets the other accounts in a statement of its own, before its own
row is written: `KeepsDefault` leaves out the two updates after which there is no default.
-/

namespace Heightt.Payouts

open Store ReadCommitted Prog Database BankAccountService

/-- The calls that change bank accounts. -/
inductive AccountOp where
  | create (userId : String) (dto : CreateBankAccountDto) (newId : String)
  | update (id userId : String) (dto : UpdateBankAccountDto)
  | delete (id userId : String)
  | setDefault (id userId : String)

def AccountOp.program : AccountOp → PayoutAction Unit
  | create userId dto newId => createBankAccount userId dto newId
  | update id userId dto => updateBankAccount id userId dto
  | delete id userId => deleteBankAccount id userId
  | setDefault id userId => setDefaultBankAccount id userId

/-- A default account of the user that is not deleted. -/
def IsDefault (userId : String) (a : BankAccount) : Prop :=
  a.userId = userId ∧ a.isDeleted = false ∧ a.isDefault = true

/-- An account of the user that is not deleted. -/
def Live (userId : String) (a : BankAccount) : Prop := a.userId = userId ∧ a.isDeleted = false

/-- Where the user has an account, exactly one is the default, and no deleted one is. -/
structure OneDefault (d : PayoutDb) (userId : String) : Prop where
  exactly : (∃ a ∈ d.bankAccounts.rows, Live userId a) → ∃! a, a ∈ d.bankAccounts.rows ∧ IsDefault userId a
  deleted : ∀ a ∈ d.bankAccounts.rows, a.userId = userId → a.isDeleted = true → a.isDefault = false

/-- The account that `getBankAccountById` returns. -/
def Accessible (d : PayoutDb) (id userId : String) (a : BankAccount) : Prop :=
  d.bankAccounts.find id = some a ∧ Live userId a

/-- An update takes the mark from no default account, and one that sets the mark meets no other
account with its number and bank. -/
def KeepsDefault (d : PayoutDb) : AccountOp → Prop
  | .update id userId dto => ∀ a, Accessible d id userId a →
    (dto.isDefault = some false → a.isDefault = true → PayoutStmt.Taken d ((updatePatch dto a).apply a)) ∧
      (dto.isDefault = some true → a.isDefault = false → ¬PayoutStmt.Taken d ((updatePatch dto a).apply a))
  | _ => True

/-- The identifier of a new account is not in use. -/
def Fresh (d : PayoutDb) : AccountOp → Prop
  | .create _ _ newId => d.bankAccounts.find newId = none
  | _ => True

/-- The states after any number of calls, one after the other, that all meet `C`. -/
inductive Serves (C : PayoutDb → AccountOp → Prop) (d₀ : PayoutDb) : PayoutDb → Prop where
  | start : Serves C d₀ d₀
  | call {d : PayoutDb} (before : Serves C d₀ d) (op : AccountOp) (x : Banks)
      {o : Outcome PayoutDb Banks PayoutStmt PayoutError Unit} (fresh : Fresh d op) (meets : C d op)
      (run : op.program.alone [] d x = some o) : Serves C d₀ o.db

/-! ## Unique accounts -/

/-- No two accounts break a unique index. -/
def UniqueAccounts (d : PayoutDb) : Prop := ∀ a ∈ d.bankAccounts.rows, ¬PayoutStmt.Taken d a

/-- The indexed columns are the same. -/
structure SameKeys (a a' : BankAccount) : Prop where
  id : a'.id = a.id
  userId : a'.userId = a.userId
  accountNumber : a'.accountNumber = a.accountNumber
  bankName : a'.bankName = a.bankName
  payoutDestinationId : a'.payoutDestinationId = a.payoutDestinationId

theorem SameKeys.refl (a : BankAccount) : SameKeys a a := ⟨rfl, rfl, rfl, rfl, rfl⟩

theorem sameKeys_unset (userId : String) (other : Option String) (a : BankAccount) :
    SameKeys a (a.unset userId other) := by
  unfold BankAccount.unset
  split
  · exact ⟨rfl, rfl, rfl, rfl, rfl⟩
  · exact .refl a

section

variable {d d' : PayoutDb}

/-- What collides depends on the indexed columns. -/
theorem taken_congr {f : BankAccount → BankAccount} (rows : d'.bankAccounts.rows = d.bankAccounts.rows.map f)
    (keys : ∀ a, SameKeys a (f a)) {a a' : BankAccount} (same : SameKeys a a') :
    PayoutStmt.Taken d' a' ↔ PayoutStmt.Taken d a := by
  unfold PayoutStmt.Taken
  rw [rows, same.id, same.userId, same.accountNumber, same.bankName, same.payoutDestinationId]
  constructor
  · rintro ⟨b, hb, clash⟩
    obtain ⟨c, hc, rfl⟩ := List.mem_map.1 hb
    rw [(keys c).id, (keys c).userId, (keys c).accountNumber, (keys c).bankName,
      (keys c).payoutDestinationId] at clash
    exact ⟨c, hc, clash⟩
  · rintro ⟨b, hb, clash⟩
    refine ⟨f b, List.mem_map_of_mem hb, ?_⟩
    rw [(keys b).id, (keys b).userId, (keys b).accountNumber, (keys b).bankName, (keys b).payoutDestinationId]
    exact clash

theorem unique_unset (h : UniqueAccounts d) (userId : String) (other : Option String) :
    UniqueAccounts (apply (.unsetDefault userId other) d) := by
  intro a ha
  obtain ⟨b, hb, rfl⟩ := List.mem_map.1 ha
  exact mt (taken_congr (d := d) rfl (sameKeys_unset userId other) (sameKeys_unset userId other b)).1 (h b hb)

/-- The rows after an update. -/
def updated (id : String) (patch : BankAccountPatch) (a : BankAccount) : BankAccount :=
  if a.id = id then patch.apply a else a

theorem rows_update (id : String) (patch : BankAccountPatch) (d : PayoutDb) :
    (apply (.updateBankAccount id patch) d : PayoutDb).bankAccounts.rows =
      d.bankAccounts.rows.map (updated id patch) := rfl

theorem updated_id (id : String) (patch : BankAccountPatch) (a : BankAccount) :
    (updated id patch a).id = a.id ∧ (updated id patch a).userId = a.userId := by
  unfold updated
  split <;> exact ⟨rfl, rfl⟩

/-- An update that is let through keeps the accounts apart. -/
theorem unique_update (h : UniqueAccounts d) {id : String} {patch : BankAccountPatch} {a : BankAccount}
    (stored : d.bankAccounts.find id = some a) (free : ¬PayoutStmt.Taken d (patch.apply a)) :
    UniqueAccounts (apply (.updateBankAccount id patch) d) := by
  have own {b : BankAccount} (hb : b ∈ d.bankAccounts.rows) (same : b.id = id) : b = a :=
    Table.eq_of_key hb (Table.find_mem stored) (same.trans (Table.find_key stored).symm)
  rintro c' hc' ⟨b', hb', other, clash⟩
  obtain ⟨c, hc, rfl⟩ := List.mem_map.1 (rows_update id patch d ▸ hc')
  obtain ⟨b, hb, rfl⟩ := List.mem_map.1 (rows_update id patch d ▸ hb')
  rw [(updated_id id patch c).1, (updated_id id patch b).1] at other
  unfold updated at clash
  by_cases hcid : c.id = id
  · rw [if_pos hcid, if_neg fun same => other (same.trans hcid.symm), own hc hcid] at clash
    exact free ⟨b, hb, own hc hcid ▸ other, clash⟩
  · rw [if_neg hcid] at clash
    by_cases hbid : b.id = id
    · rw [if_pos hbid, own hb hbid] at clash
      refine free ⟨c, hc, own hb hbid ▸ Ne.symm other, ?_⟩
      obtain ⟨user, number, bank⟩ | ⟨some_, same⟩ := clash
      · exact .inl ⟨user.symm, number.symm, bank.symm⟩
      · exact .inr ⟨same ▸ some_, same.symm⟩
    · rw [if_neg hbid] at clash
      exact h c hc ⟨b, hb, other, clash⟩

theorem rows_create {a : BankAccount} (free : d.bankAccounts.find a.id = none) :
    (apply (.createBankAccount a) d : PayoutDb).bankAccounts.rows = d.bankAccounts.rows ++ [a] :=
  Table.insert_rows free

theorem unique_create (h : UniqueAccounts d) {a : BankAccount} (free : d.bankAccounts.find a.id = none)
    (apart : ¬PayoutStmt.Taken d a) : UniqueAccounts (apply (.createBankAccount a) d) := by
  rintro c hc ⟨b, hb, other, clash⟩
  rw [rows_create free, List.mem_append, List.mem_singleton] at hc hb
  obtain hc | rfl := hc
  · obtain hb | rfl := hb
    · exact h c hc ⟨b, hb, other, clash⟩
    · refine apart ⟨c, hc, Ne.symm other, ?_⟩
      obtain ⟨user, number, bank⟩ | ⟨some_, same⟩ := clash
      · exact .inl ⟨user.symm, number.symm, bank.symm⟩
      · exact .inr ⟨same ▸ some_, same.symm⟩
  · obtain hb | rfl := hb
    · exact apart ⟨b, hb, other, clash⟩
    · exact other rfl

/-! ## One default -/

variable {userId : String}

/-- An account that alone has the mark. -/
theorem oneDefault_of_only {b : BankAccount} (mem : b ∈ d.bankAccounts.rows) (marked : IsDefault userId b)
    (only : ∀ a ∈ d.bankAccounts.rows, a.userId = userId → a.isDefault = true → a = b) : OneDefault d userId where
  exactly _ := ⟨b, ⟨mem, marked⟩, fun a ⟨ha, own, _, default_⟩ => only a ha own default_⟩
  deleted a ha own gone := by
    by_contra default_
    rw [only a ha own (by simpa using default_), marked.2.1] at gone
    cases gone

/-- The last account is gone. -/
theorem oneDefault_of_none (none_ : ∀ a ∈ d.bankAccounts.rows, a.userId = userId →
    a.isDeleted = true ∧ a.isDefault = false) : OneDefault d userId where
  exactly := by
    rintro ⟨a, ha, own, live⟩
    rw [(none_ a ha own).1] at live
    cases live
  deleted a ha own _ := (none_ a ha own).2

/-- A change of rows after which the same accounts have the mark. -/
structure SameMarks (userId : String) (rows : List BankAccount) (f : BankAccount → BankAccount) : Prop where
  owner : ∀ a ∈ rows, (f a).userId = a.userId
  isDefault : ∀ a ∈ rows, a.userId = userId → (f a).isDefault = a.isDefault
  isDeleted : ∀ a ∈ rows, a.userId = userId → a.isDefault = true → (f a).isDeleted = a.isDeleted
  live : (∃ a ∈ rows, Live userId (f a)) → ∃ a ∈ rows, Live userId a

/-- The user's accounts are left alone. -/
theorem SameMarks.of_fixed {rows : List BankAccount} {f : BankAccount → BankAccount}
    (owner : ∀ a ∈ rows, (f a).userId = a.userId) (fixed : ∀ a ∈ rows, a.userId = userId → f a = a) :
    SameMarks userId rows f where
  owner := owner
  isDefault a ha own := by rw [fixed a ha own]
  isDeleted a ha own _ := by rw [fixed a ha own]
  live := by
    rintro ⟨a, ha, own, live⟩
    rw [owner a ha] at own
    rw [fixed a ha own] at live
    exact ⟨a, ha, own, live⟩

theorem OneDefault.map (h : OneDefault d userId) {f : BankAccount → BankAccount}
    (rows : d'.bankAccounts.rows = d.bankAccounts.rows.map f) (same : SameMarks userId d.bankAccounts.rows f) :
    OneDefault d' userId where
  exactly := by
    rintro ⟨a', ha', live⟩
    rw [rows] at ha'
    obtain ⟨a, ha, rfl⟩ := List.mem_map.1 ha'
    obtain ⟨b, ⟨hb, own, kept, marked⟩, only⟩ := h.exactly (same.live ⟨a, ha, live⟩)
    refine ⟨f b, ⟨rows ▸ List.mem_map_of_mem hb, (same.owner b hb).trans own, ?_, ?_⟩, ?_⟩
    · exact (same.isDeleted b hb own marked).trans kept
    · exact (same.isDefault b hb own).trans marked
    · rintro c' ⟨hc', own', kept', marked'⟩
      rw [rows] at hc'
      obtain ⟨c, hc, rfl⟩ := List.mem_map.1 hc'
      rw [same.owner c hc] at own'
      rw [same.isDefault c hc own'] at marked'
      rw [same.isDeleted c hc own' marked'] at kept'
      rw [only c ⟨hc, own', kept', marked'⟩]
  deleted := by
    intro a' ha' own gone
    rw [rows] at ha'
    obtain ⟨a, ha, rfl⟩ := List.mem_map.1 ha'
    rw [same.owner a ha] at own
    rw [same.isDefault a ha own]
    by_contra marked
    rw [Bool.not_eq_false] at marked
    rw [same.isDeleted a ha own marked] at gone
    rw [h.deleted a ha own gone] at marked
    cases marked

/-- One account more, that does not have the mark or is another user's. -/
theorem OneDefault.append (h : OneDefault d userId) {a : BankAccount}
    (rows : d'.bankAccounts.rows = d.bankAccounts.rows ++ [a])
    (plain : a.userId = userId → a.isDefault = false ∧ ∃ b ∈ d.bankAccounts.rows, Live userId b) :
    OneDefault d' userId where
  exactly := by
    rintro ⟨c, hc, live⟩
    have before : ∃ b ∈ d.bankAccounts.rows, Live userId b := by
      rw [rows, List.mem_append, List.mem_singleton] at hc
      obtain hc | rfl := hc
      · exact ⟨c, hc, live⟩
      · exact (plain live.1).2
    obtain ⟨b, ⟨hb, marked⟩, only⟩ := h.exactly before
    refine ⟨b, ⟨rows ▸ List.mem_append_left _ hb, marked⟩, ?_⟩
    rintro e ⟨he, default_⟩
    rw [rows, List.mem_append, List.mem_singleton] at he
    obtain he | rfl := he
    · exact only e ⟨he, default_⟩
    · have := (plain default_.1).1
      rw [default_.2.2] at this
      cases this
  deleted := by
    intro c hc own gone
    rw [rows, List.mem_append, List.mem_singleton] at hc
    obtain hc | rfl := hc
    · exact h.deleted c hc own gone
    · exact (plain own).1

/-- The other accounts of the user do not have the mark. -/
theorem OneDefault.other (h : OneDefault d userId) {a b : BankAccount} (ha : a ∈ d.bankAccounts.rows)
    (default_ : IsDefault userId a) (hb : b ∈ d.bankAccounts.rows) (own : b.userId = userId) (ne : b.id ≠ a.id) :
    b.isDefault = false := by
  by_contra marked
  rw [Bool.not_eq_false] at marked
  by_cases gone : b.isDeleted = true
  · rw [h.deleted b hb own gone] at marked
    cases marked
  · obtain ⟨c, -, only⟩ := h.exactly ⟨a, ha, default_.1, default_.2.1⟩
    have same := (only b ⟨hb, own, by simpa using gone, marked⟩).trans (only a ⟨ha, default_⟩).symm
    exact ne (congrArg BankAccount.id same)

end

/-! ## What every call keeps -/

/-- All users have one default account, and accounts are apart. -/
structure Kept (d : PayoutDb) : Prop where
  unique : UniqueAccounts d
  one : ∀ userId, OneDefault d userId

section

variable {d : PayoutDb} {id userId : String} {a : BankAccount} {patch : BankAccountPatch}

/-- The stored account is the one with its identifier. -/
theorem eq_of_stored (stored : d.bankAccounts.find id = some a) {b : BankAccount}
    (hb : b ∈ d.bankAccounts.rows) (same : b.id = id) : b = a :=
  Table.eq_of_key hb (Table.find_mem stored) (same.trans (Table.find_key stored).symm)

/-- An update that neither gives nor takes the mark. -/
theorem one_update (h : Kept d) (stored : d.bankAccounts.find id = some a)
    (marks : (patch.apply a).isDefault = a.isDefault)
    (kept : a.isDefault = true → (patch.apply a).isDeleted = a.isDeleted)
    (live : (patch.apply a).isDeleted = false → ∃ b ∈ d.bankAccounts.rows, Live a.userId b) (u : String) :
    OneDefault (apply (.updateBankAccount id patch) d) u := by
  refine (h.one u).map (rows_update id patch d) ⟨fun b _ => (updated_id id patch b).2, ?_, ?_, ?_⟩
  · intro b hb _
    unfold updated
    split
    · rename_i same
      rw [eq_of_stored stored hb same, marks]
    · rfl
  · intro b hb _ marked
    unfold updated
    split
    · rename_i same
      obtain rfl := eq_of_stored stored hb same
      exact kept marked
    · rfl
  · rintro ⟨b, hb, own, notDeleted⟩
    rw [(updated_id id patch b).2] at own
    unfold updated at notDeleted
    split at notDeleted
    · rename_i same
      obtain rfl := eq_of_stored stored hb same
      exact own ▸ live notDeleted
    · exact ⟨b, hb, own, notDeleted⟩

/-- Accounts of others are not unset. -/
theorem unset_of_ne {b : BankAccount} (other : b.userId ≠ userId) (o : Option String) :
    b.unset userId o = b :=
  if_neg fun h => other h.1

/-- Only accounts that are left out keep the mark. -/
theorem isDefault_unset (h : OneDefault d userId) {b : BankAccount} (hb : b ∈ d.bankAccounts.rows)
    (own : b.userId = userId) {o : Option String} (out : some b.id ≠ o) : (b.unset userId o).isDefault = false := by
  unfold BankAccount.unset
  split
  · rfl
  · rename_i none_
    by_contra marked
    rw [Bool.not_eq_false] at marked
    refine none_ ⟨own, marked, fun gone => ?_, out⟩
    rw [h.deleted b hb own gone] at marked
    cases marked

/-- An update that gives the mark, after it was taken from the other accounts. -/
theorem one_mark (h : Kept d) (stored : d.bankAccounts.find id = some a) {o : Option String}
    (left : ∀ k, o = some k → k = id)
    (marked : IsDefault a.userId (patch.apply (a.unset a.userId o))) (u : String) :
    OneDefault (apply (.updateBankAccount id patch) (apply (.unsetDefault a.userId o) d)) u := by
  have rows : (apply (.updateBankAccount id patch) (apply (.unsetDefault a.userId o) d) :
      PayoutDb).bankAccounts.rows =
        d.bankAccounts.rows.map fun b => updated id patch (b.unset a.userId o) := by
    rw [rows_update]
    exact List.map_map
  have key (b : BankAccount) : (b.unset a.userId o).id = b.id := BankAccount.unset_id _ _ b
  by_cases own : u = a.userId
  · subst own
    refine oneDefault_of_only (b := updated id patch (a.unset a.userId o))
      (rows ▸ List.mem_map_of_mem (Table.find_mem stored)) ?_ ?_
    · rw [updated, if_pos ((key a).trans (Table.find_key stored))]
      exact marked
    · intro c hc own default_
      rw [rows] at hc
      obtain ⟨b, hb, rfl⟩ := List.mem_map.1 hc
      by_cases same : b.id = id
      · rw [eq_of_stored stored hb same]
      · rw [(updated_id id patch _).2, (sameKeys_unset _ _ b).userId] at own
        rw [updated, if_neg fun h => same ((key b).symm.trans h)] at default_
        rw [isDefault_unset (h.one a.userId) hb own fun h => same (left _ h.symm)] at default_
        cases default_
  · refine (h.one u).map rows (.of_fixed (fun b _ => ?_) fun b hb other => ?_)
    · rw [(updated_id id patch _).2, (sameKeys_unset _ _ b).userId]
    · have ne : b.userId ≠ a.userId := fun same => own (other.symm.trans same)
      rw [unset_of_ne ne, updated, if_neg fun same => ne (congrArg BankAccount.userId (eq_of_stored stored hb same))]

/-- A new account that gets the mark, after it was taken from the others. -/
theorem one_create (h : Kept d) (free : d.bankAccounts.find a.id = none) (marked : IsDefault a.userId a) (u : String) :
    OneDefault (apply (.createBankAccount a) (apply (.unsetDefault a.userId none) d)) u := by
  have unset : (apply (.unsetDefault a.userId none) d : PayoutDb).bankAccounts.rows =
      d.bankAccounts.rows.map (BankAccount.unset a.userId none) := rfl
  have rows : (apply (.createBankAccount a) (apply (.unsetDefault a.userId none) d) :
      PayoutDb).bankAccounts.rows = d.bankAccounts.rows.map (BankAccount.unset a.userId none) ++ [a] := by
    refine Table.insert_rows ?_
    refine (Table.find_mapRows d.bankAccounts (BankAccount.unset a.userId none)
      (BankAccount.unset_id a.userId none) a.id).trans ?_
    rw [free, Option.map_none]
  by_cases own : u = a.userId
  · subst own
    refine oneDefault_of_only (b := a) (rows ▸ List.mem_append_right _ (List.mem_singleton_self a)) marked ?_
    intro c hc own default_
    rw [rows, List.mem_append, List.mem_singleton] at hc
    obtain hc | rfl := hc
    · obtain ⟨b, hb, rfl⟩ := List.mem_map.1 hc
      rw [(sameKeys_unset _ _ b).userId] at own
      rw [isDefault_unset (h.one a.userId) hb own (Option.some_ne_none b.id)] at default_
      cases default_
    · rfl
  · have others := (h.one u).map unset (.of_fixed (fun b _ => (sameKeys_unset _ _ b).userId) fun b _ other =>
      unset_of_ne (fun same => own (other.symm.trans same)) none)
    exact others.append rows fun same => absurd same.symm own

/-- What marks the next default, and what deletes an account. -/
def toDefault : BankAccountPatch where
  isDefault := some true

def deletion : BankAccountPatch where
  isDefault := some false
  isDeleted := some true

/-- The default is deleted, and another account has become the default before. -/
theorem one_delete_next (h : Kept d) (stored : d.bankAccounts.find id = some a)
    (default_ : IsDefault a.userId a) {n : BankAccount} (next : n ∈ d.bankAccounts.rows)
    (live : Live a.userId n) (other : n.id ≠ id) (u : String) :
    OneDefault (apply (.updateBankAccount id deletion) (apply (.updateBankAccount n.id toDefault) d)) u := by
  have rows : (apply (.updateBankAccount id deletion) (apply (.updateBankAccount n.id toDefault) d) :
      PayoutDb).bankAccounts.rows = d.bankAccounts.rows.map fun b => updated id deletion (updated n.id toDefault b) := by
    rw [rows_update, rows_update]
    exact List.map_map
  have owner (b : BankAccount) : (updated id deletion (updated n.id toDefault b)).userId = b.userId := by
    rw [(updated_id id _ _).2, (updated_id n.id _ _).2]
  have key (b : BankAccount) : (updated n.id toDefault b).id = b.id := (updated_id n.id _ b).1
  by_cases own : u = a.userId
  · subst own
    have marked : updated id deletion (updated n.id toDefault n) = toDefault.apply n := by
      rw [updated, if_neg fun same => other ((key n).symm.trans same), updated, if_pos rfl]
    refine oneDefault_of_only (b := toDefault.apply n) ?_ ⟨live.1, live.2, rfl⟩ ?_
    · rw [rows, ← marked]
      exact List.mem_map_of_mem next
    · intro c hc own marked'
      rw [rows] at hc
      obtain ⟨b, hb, rfl⟩ := List.mem_map.1 hc
      rw [owner] at own
      by_cases hid : b.id = id
      · rw [updated, if_pos ((key b).trans hid)] at marked'
        cases marked'
      · rw [updated, if_neg fun same => hid ((key b).symm.trans same)] at marked' ⊢
        by_cases hn : b.id = n.id
        · rw [updated, if_pos hn, Table.eq_of_key hb next hn]
        · -- only the deleted account had the mark before
          rw [updated, if_neg hn] at marked'
          rw [(h.one a.userId).other (Table.find_mem stored) default_ hb own fun same =>
            hid (same.trans (Table.find_key stored))] at marked'
          cases marked'
  · refine (h.one u).map rows (.of_fixed (fun b _ => owner b) fun b hb others => ?_)
    have ne : b.userId ≠ a.userId := fun same => own (others.symm.trans same)
    have hid : b.id ≠ id := fun same => ne (congrArg BankAccount.userId (eq_of_stored stored hb same))
    have hn : b.id ≠ n.id := fun same => ne (Table.eq_of_key hb next same ▸ live.1)
    rw [updated, if_neg fun same => hid ((key b).symm.trans same), updated, if_neg hn]

/-- The only account is deleted. -/
theorem one_delete_last (h : Kept d) (stored : d.bankAccounts.find id = some a)
    (last : ∀ b ∈ d.bankAccounts.rows, Live a.userId b → b.id = id) (u : String) :
    OneDefault (apply (.updateBankAccount id deletion) d) u := by
  by_cases own : u = a.userId
  · subst own
    refine oneDefault_of_none fun c hc own => ?_
    rw [rows_update] at hc
    obtain ⟨b, hb, rfl⟩ := List.mem_map.1 hc
    rw [(updated_id id _ b).2] at own
    unfold updated
    split
    · exact ⟨rfl, rfl⟩
    · rename_i hid
      have gone : b.isDeleted = true := by
        by_contra live
        exact hid (last b hb ⟨own, by simpa using live⟩)
      exact ⟨gone, (h.one a.userId).deleted b hb own gone⟩
  · refine (h.one u).map (rows_update id deletion d) (.of_fixed (fun b _ => (updated_id id _ b).2) fun b hb others => ?_)
    have ne : b.userId ≠ a.userId := fun same => own (others.symm.trans same)
    rw [updated, if_neg fun same => ne (congrArg BankAccount.userId (eq_of_stored stored hb same))]

end

/-! ## The calls -/

section

variable {d : PayoutDb} {x : Banks} {o : Outcome PayoutDb Banks PayoutStmt PayoutError Unit} {id userId : String}

theorem check_update {a : BankAccount} {patch : BankAccountPatch} (stored : d.bankAccounts.find id = some a) :
    check (PayoutStmt.updateBankAccount id patch) d =
      if PayoutStmt.Taken d (patch.apply a) then some .uniqueConstraint else none := by
  simp [Database.check, PayoutStmt.check, stored]

/-- The account is read, or the call ends. -/
theorem alone_getBankAccountById (d : PayoutDb) (x : Banks) (id userId : String) (g : BankAccount → PayoutAction Unit) :
    (∃ a, Accessible d id userId a ∧
      ((getBankAccountById id userId).bind g).alone [] d x = (g a).alone [] d x) ∨
      ∃ e, ((getBankAccountById id userId).bind g).alone [] d x = some ⟨.error e, [], d, x⟩ := by
  unfold getBankAccountById
  simp only [bind_eq, Prog.bind_assoc, alone_outside, alone_orThrow]
  cases found : d.bankAccounts.findFirst fun a => a.id = id ∧ ¬a.isDeleted with
  | none => exact .inr ⟨_, rfl⟩
  | some a =>
    have mem := List.mem_of_find?_eq_some found
    obtain ⟨key, live⟩ : a.id = id ∧ a.isDeleted = false := by simpa using List.find?_some found
    simp only [alone_ensure]
    by_cases own : a.userId = userId
    · rw [if_pos own]
      exact .inl ⟨a, ⟨Table.find_eq_some.2 ⟨mem, key⟩, own, live⟩, rfl⟩
    · rw [if_neg own]
      exact .inr ⟨_, rfl⟩

/-- An account of the user is read. -/
theorem alone_accessible {a : BankAccount} (access : Accessible d id userId a) (g : BankAccount → PayoutAction Unit) :
    ((getBankAccountById id userId).bind g).alone [] d x = (g a).alone [] d x := by
  obtain ⟨stored, own, live⟩ := access
  have found : (d.bankAccounts.findFirst fun b => b.id = id ∧ ¬b.isDeleted) = some a := by
    have some_ : (d.bankAccounts.findFirst fun b => b.id = id ∧ ¬b.isDeleted).isSome :=
      List.find?_isSome.2 ⟨a, Table.find_mem stored, by simp [Table.find_key stored, live]⟩
    obtain ⟨b, hb⟩ := Option.isSome_iff_exists.1 some_
    have key : b.id = id ∧ b.isDeleted = false := by simpa using List.find?_some hb
    have same := eq_of_stored stored (List.mem_of_find?_eq_some hb) key.1
    exact same ▸ hb
  unfold getBankAccountById
  simp only [bind_eq, Prog.bind_assoc, alone_outside, alone_orThrow, found, alone_ensure, if_pos own]
  rfl

/-- After the reading of an account. -/
theorem of_getBankAccountById {g : BankAccount → PayoutAction Unit}
    (run : ((getBankAccountById id userId).bind g).alone [] d x = some o) (same : Kept d)
    (next : ∀ a, Accessible d id userId a → (g a).alone [] d x = some o → Kept o.db) : Kept o.db := by
  obtain ⟨a, access, eq⟩ | ⟨e, eq⟩ := alone_getBankAccountById d x id userId g
  · exact next a access (eq ▸ run)
  · rw [eq] at run
    cases run
    exact same

/-- After a statement that is let through. -/
theorem of_statement {w : PayoutStmt} {g : Unit → PayoutAction Unit}
    (run : ((statement w).bind g).alone [] d x = some o) (valid : check w d = none) :
    (g ()).alone [] (apply w d) x = some o := by
  rw [alone_statement, valid] at run
  exact run

/-- The last call, which clears the cache. -/
theorem of_cacheDelete (run : (CacheService.delete userId).alone [] d x = some o) : o.db = d := by
  cases run
  rfl

/-- An account does not collide with itself. -/
theorem UniqueAccounts.apart (h : UniqueAccounts d) {a a' : BankAccount} (mem : a ∈ d.bankAccounts.rows)
    (keys : SameKeys a a') : ¬PayoutStmt.Taken d a' :=
  mt (taken_congr (f := fun b => b) (List.map_id' _).symm SameKeys.refl keys).1 (h a mem)

/-- The account after the others were unset. -/
theorem find_unset {a : BankAccount} {userId : String} {other : Option String}
    (stored : d.bankAccounts.find id = some a) :
    (apply (.unsetDefault userId other) d : PayoutDb).bankAccounts.find id = some (a.unset userId other) := by
  refine (Table.find_mapRows d.bankAccounts (BankAccount.unset userId other)
    (BankAccount.unset_id userId other) id).trans ?_
  rw [stored, Option.map_some]

/-- An update that gives the mark is let through after the other accounts were unset. -/
theorem Kept.mark (h : Kept d) {a : BankAccount} {patch : BankAccountPatch} {other : Option String}
    (stored : d.bankAccounts.find id = some a) (left : ∀ k, other = some k → k = id)
    (marked : IsDefault a.userId (patch.apply (a.unset a.userId other)))
    (apart : ¬PayoutStmt.Taken d (patch.apply (a.unset a.userId other))) :
    check (PayoutStmt.updateBankAccount id patch) (apply (.unsetDefault a.userId other) d) = none ∧
      Kept (apply (.updateBankAccount id patch) (apply (.unsetDefault a.userId other) d)) := by
  have found : (apply (.unsetDefault a.userId other) d : PayoutDb).bankAccounts.find id =
      some (a.unset a.userId other) := find_unset stored
  have apart' : ¬PayoutStmt.Taken (apply (.unsetDefault a.userId other) d)
      (patch.apply (a.unset a.userId other)) :=
    mt (taken_congr (d := d) rfl (sameKeys_unset a.userId other) (.refl _)).1 apart
  refine ⟨(check_update found).trans (if_neg apart'), ?_, one_mark h stored left marked⟩
  exact unique_update (unique_unset h.unique a.userId other) found apart'

/-- The mark is taken from the other accounts and given to this one. -/
theorem Kept.of_mark (h : Kept d) {a : BankAccount} {patch : BankAccountPatch} {other : Option String}
    (stored : d.bankAccounts.find id = some a) (left : ∀ k, other = some k → k = id)
    (marked : IsDefault a.userId (patch.apply (a.unset a.userId other)))
    (apart : ¬PayoutStmt.Taken d (patch.apply (a.unset a.userId other)))
    (run : ((statement (.unsetDefault a.userId other)).bind fun _ =>
      (statement (.updateBankAccount id patch)).bind fun _ => CacheService.delete userId).alone [] d x = some o) :
    Kept o.db := by
  obtain ⟨valid, kept⟩ := h.mark stored left marked apart
  have unset := of_statement run rfl
  have written := of_statement unset valid
  rw [of_cacheDelete written]
  exact kept

/-- An account that is left out when the others are unset. -/
theorem unset_itself (a : BankAccount) : a.unset a.userId (some a.id) = a :=
  if_neg fun all => all.2.2.2 rfl

theorem kept_setDefault (h : Kept d) (run : (setDefaultBankAccount id userId).alone [] d x = some o) :
    Kept o.db := by
  unfold setDefaultBankAccount at run
  simp only [bind_eq] at run
  refine of_getBankAccountById run h fun a access run => ?_
  obtain ⟨stored, rfl, live⟩ := access
  obtain rfl := Table.find_key stored
  refine h.of_mark stored (fun k same => (Option.some.inj same).symm) ?_ ?_ run
  · rw [unset_itself]
    exact ⟨rfl, live, rfl⟩
  · rw [unset_itself]
    exact h.unique.apart (Table.find_mem stored) ⟨rfl, rfl, rfl, rfl, rfl⟩

/-- A single update and the clearing of the cache. -/
theorem of_write {w : PayoutStmt} (run : ((statement w).bind fun _ => CacheService.delete userId).alone [] d x = some o) :
    o.db = d ∨ check w d = none ∧ o.db = apply w d := by
  rw [alone_statement] at run
  cases valid : check w d with
  | none =>
    rw [valid] at run
    exact .inr ⟨rfl, of_cacheDelete run⟩
  | some e =>
    rw [valid] at run
    cases run
    exact .inl rfl

/-- Where an account already is the default, the others have no mark that could be taken. -/
theorem Kept.unset (h : Kept d) {a : BankAccount} (mem : a ∈ d.bankAccounts.rows) (default_ : IsDefault a.userId a) :
    Kept (apply (.unsetDefault a.userId (some a.id)) d) := by
  have fixed (b : BankAccount) (hb : b ∈ d.bankAccounts.rows) : b.unset a.userId (some a.id) = b := by
    refine if_neg fun all => ?_
    obtain ⟨own, marked, -, other⟩ := all
    rw [(h.one a.userId).other mem default_ hb own fun same => other (congrArg some same)] at marked
    cases marked
  have rows : (apply (.unsetDefault a.userId (some a.id)) d : PayoutDb).bankAccounts.rows =
      d.bankAccounts.rows.map (BankAccount.unset a.userId (some a.id)) := rfl
  refine ⟨unique_unset h.unique a.userId (some a.id), fun u => (h.one u).map rows ?_⟩
  exact .of_fixed (fun b _ => (sameKeys_unset a.userId (some a.id) b).userId) fun b hb _ => fixed b hb

/-- An update that neither gives nor takes the mark, and the clearing of the cache. -/
theorem Kept.of_plain (h : Kept d) {a : BankAccount} {patch : BankAccountPatch}
    (stored : d.bankAccounts.find id = some a) (marks : (patch.apply a).isDefault = a.isDefault)
    (kept : a.isDefault = true → (patch.apply a).isDeleted = a.isDeleted)
    (live : (patch.apply a).isDeleted = false → ∃ b ∈ d.bankAccounts.rows, Live a.userId b)
    (run : ((statement (.updateBankAccount id patch)).bind fun _ => CacheService.delete userId).alone [] d x = some o) :
    Kept o.db := by
  obtain same | ⟨valid, same⟩ := of_write run
  · exact same ▸ h
  · rw [check_update stored, ite_eq_right_iff] at valid
    have apart : ¬PayoutStmt.Taken d (patch.apply a) := fun taken => by cases valid taken
    rw [same]
    exact ⟨unique_update h.unique stored apart, one_update h stored marks kept live⟩

/-- An update changes the mark as it says. -/
theorem kept_update (h : Kept d) {dto : UpdateBankAccountDto}
    (keeps : KeepsDefault d (.update id userId dto))
    (run : (updateBankAccount id userId dto).alone [] d x = some o) : Kept o.db := by
  unfold updateBankAccount at run
  simp only [bind_eq] at run
  refine of_getBankAccountById run h fun a access run => ?_
  obtain ⟨loses, gains⟩ := keeps a access
  obtain ⟨stored, rfl, live⟩ := access
  obtain rfl := Table.find_key stored
  have mem := Table.find_mem stored
  unfold when at run
  by_cases gives : dto.isDefault = some true
  · rw [if_pos gives] at run
    have becomes (b : BankAccount) : ((updatePatch dto a).apply b).isDefault = true := by
      simp [BankAccountPatch.apply, updatePatch, gives]
    by_cases marked : a.isDefault = true
    · have unset := of_statement run rfl
      have found : (apply (.unsetDefault a.userId (some a.id)) d : PayoutDb).bankAccounts.find a.id = some a :=
        (find_unset stored).trans (congrArg some (unset_itself a))
      exact (h.unset mem ⟨rfl, live, marked⟩).of_plain found ((becomes a).trans marked.symm) (fun _ => rfl)
        (fun _ => ⟨a, Table.find_mem found, rfl, live⟩) unset
    · refine h.of_mark stored (fun k same => (Option.some.inj same).symm) ?_ ?_ run
      · rw [unset_itself]
        exact ⟨rfl, live, becomes a⟩
      · rw [unset_itself]
        exact gains gives (by simpa using marked)
  · rw [if_neg gives] at run
    by_cases takes : dto.isDefault = some false ∧ a.isDefault = true
    · -- only a refused update may take the mark
      obtain same | ⟨valid, -⟩ := of_write run
      · exact same ▸ h
      · rw [check_update stored, if_pos (loses takes.1 takes.2)] at valid
        cases valid
    · have marks : ((updatePatch dto a).apply a).isDefault = a.isDefault := by
        cases left : dto.isDefault with
        | none => simp [BankAccountPatch.apply, updatePatch, left]
        | some b =>
          cases b with
          | true => exact absurd left gives
          | false =>
            have plain : a.isDefault = false := by simpa [left] using takes
            simp [BankAccountPatch.apply, updatePatch, left, plain]
      exact h.of_plain stored marks (fun _ => rfl) (fun _ => ⟨a, mem, rfl, live⟩) run

/-- The transaction that deletes an account. -/
theorem of_deletion (h : UniqueAccounts d) {a : BankAccount} (stored : d.bankAccounts.find id = some a)
    (run : ((transaction ((exec (.updateBankAccount id deletion)).bind fun _ => exec .createActivityLog)).bind
      fun _ => CacheService.delete userId).alone [] d x = some o) :
    UniqueAccounts o.db ∧ o.db = apply (.updateBankAccount id deletion) d := by
  have apart : ¬PayoutStmt.Taken d (deletion.apply a) :=
    h.apart (Table.find_mem stored) ⟨rfl, rfl, rfl, rfl, rfl⟩
  have valid : check (PayoutStmt.updateBankAccount id deletion) d = none :=
    (check_update stored).trans (if_neg apart)
  have body : ((exec (.updateBankAccount id deletion)).bind fun _ => exec .createActivityLog :
      PayoutAction Unit).alone [{}] d x =
        some ⟨.ok (), [⟨[.updateBankAccount id deletion, .createActivityLog], true⟩], d, x⟩ := by
    refine (alone_exec _ [] _).trans ?_
    rw [applyAll_nil, valid]
    rfl
  rw [alone_transaction body (violation_cons.2 ⟨valid, rfl⟩)] at run
  rw [of_cacheDelete run]
  exact ⟨unique_update h stored apart, rfl⟩

theorem kept_delete (h : Kept d) (run : (deleteBankAccount id userId).alone [] d x = some o) : Kept o.db := by
  unfold deleteBankAccount at run
  simp only [bind_eq] at run
  refine of_getBankAccountById run h fun a access run => ?_
  obtain ⟨stored, rfl, live⟩ := access
  have mem := Table.find_mem stored
  unfold when at run
  by_cases default_ : a.isDefault = true
  · rw [if_pos default_, Prog.bind_assoc, alone_outside] at run
    cases found : d.bankAccounts.findFirst fun b => b.userId = a.userId ∧ ¬b.isDeleted ∧ b.id ≠ id with
    | none =>
      rw [found] at run
      obtain ⟨unique, same⟩ := of_deletion h.unique stored run
      refine ⟨unique, fun u => ?_⟩
      rw [same]
      refine one_delete_last h stored (fun b hb live => ?_) u
      by_contra other
      have skipped := List.find?_eq_none.1 found b hb
      simp [live.1, live.2, other] at skipped
    | some n =>
      rw [found] at run
      have next := List.mem_of_find?_eq_some found
      obtain ⟨own, live', other⟩ : n.userId = a.userId ∧ n.isDeleted = false ∧ n.id ≠ id := by
        simpa using List.find?_some found
      have here := Table.find_of_mem next
      have apart : ¬PayoutStmt.Taken d (toDefault.apply n) := h.unique.apart next ⟨rfl, rfl, rfl, rfl, rfl⟩
      have promoted := of_statement run ((check_update here).trans (if_neg apart))
      have still : (apply (.updateBankAccount n.id toDefault) d : PayoutDb).bankAccounts.find id = some a :=
        (Table.find_modify_ne (Ne.symm other) toDefault.apply fun _ => rfl).trans stored
      obtain ⟨unique, same⟩ := of_deletion (unique_update h.unique here apart) still promoted
      refine ⟨unique, fun u => ?_⟩
      rw [same]
      exact one_delete_next h stored ⟨rfl, live, default_⟩ next ⟨own, live'⟩ other u
  · rw [if_neg default_] at run
    obtain ⟨unique, same⟩ := of_deletion h.unique stored run
    refine ⟨unique, fun u => ?_⟩
    rw [same]
    refine one_update h stored ?_ (fun marked => absurd marked default_) (fun gone => ?_) u
    · exact (Bool.eq_false_iff.2 default_).symm
    · cases gone

/-- An account without a destination collides where its user, number and bank do. -/
theorem UniqueAccounts.apart_revived (h : UniqueAccounts d) {a a' : BankAccount} (mem : a ∈ d.bankAccounts.rows)
    (id : a'.id = a.id) (own : a'.userId = a.userId) (number : a'.accountNumber = a.accountNumber)
    (bank : a'.bankName = a.bankName) (none_ : a'.payoutDestinationId = none) : ¬PayoutStmt.Taken d a' := by
  rintro ⟨b, hb, other, clash⟩
  rw [own, number, bank, none_] at clash
  obtain clash | ⟨some_, -⟩ := clash
  · exact h a mem ⟨b, hb, id ▸ other, .inl clash⟩
  · cases some_

section

variable {dto : CreateBankAccountDto} {newId : String} {verified : Resolution} {isDefault : Bool}

/-- A new account. -/
theorem kept_new (h : Kept d) (free : d.bankAccounts.find newId = none)
    (none_ : ∀ a ∈ d.bankAccounts.rows, ¬(a.userId = userId ∧ a.accountNumber = dto.accountNumber ∧
      a.bankName = verified.bankName.getD dto.bankName))
    (first : isDefault = false → ∃ b ∈ d.bankAccounts.rows, Live userId b)
    (run : ((when isDefault (statement (.unsetDefault userId none))).bind fun _ =>
      (statement (.createBankAccount (accountRow userId newId dto verified isDefault))).bind fun _ =>
        CacheService.delete userId).alone [] d x = some o) : Kept o.db := by
  have apart : ¬PayoutStmt.Taken d (accountRow userId newId dto verified isDefault) := by
    rintro ⟨b, hb, -, clash⟩
    obtain clash | ⟨some_, -⟩ := clash
    · exact none_ b hb clash
    · cases some_
  unfold when at run
  cases isDefault with
  | true =>
    have unset := of_statement run rfl
    have free' : (apply (.unsetDefault userId none) d : PayoutDb).bankAccounts.find newId = none := by
      refine (Table.find_mapRows d.bankAccounts (BankAccount.unset userId none)
        (BankAccount.unset_id userId none) newId).trans ?_
      rw [free, Option.map_none]
    have apart' : ¬PayoutStmt.Taken (apply (.unsetDefault userId none) d)
        (accountRow userId newId dto verified true) :=
      mt (taken_congr (d := d) rfl (sameKeys_unset userId none) (.refl _)).1 apart
    have valid : check (PayoutStmt.createBankAccount (accountRow userId newId dto verified true))
        (apply (.unsetDefault userId none) d) = none :=
      if_neg (not_or.2 ⟨by rw [accountRow, free']; exact Bool.false_ne_true, apart'⟩)
    have created := of_statement unset valid
    rw [of_cacheDelete created]
    exact ⟨unique_create (unique_unset h.unique userId none) free' apart', one_create h free ⟨rfl, rfl, rfl⟩⟩
  | false =>
    obtain same | ⟨-, same⟩ := of_write run
    · exact same ▸ h
    · rw [same]
      exact ⟨unique_create h.unique free apart, fun u => (h.one u).append (rows_create free) fun own =>
        ⟨rfl, own ▸ first rfl⟩⟩

/-- A deleted account that is revived. -/
theorem kept_revived (h : Kept d) {e : BankAccount} (mem : e ∈ d.bankAccounts.rows)
    (own : e.userId = userId) (number : e.accountNumber = dto.accountNumber)
    (bank : e.bankName = verified.bankName.getD dto.bankName) (gone : e.isDeleted = true)
    (first : isDefault = false → ∃ b ∈ d.bankAccounts.rows, Live userId b)
    (run : ((when isDefault (statement (.unsetDefault userId none))).bind fun _ =>
      (statement (.updateBankAccount e.id (revival (accountRow userId newId dto verified isDefault)))).bind
        fun _ => CacheService.delete userId).alone [] d x = some o) : Kept o.db := by
  subst own
  have stored := Table.find_of_mem mem
  unfold when at run
  cases isDefault with
  | true =>
    have same := sameKeys_unset e.userId none e
    refine h.of_mark stored (fun k some_ => ?_) ⟨same.userId, rfl, rfl⟩ ?_ run
    · cases some_
    · exact h.unique.apart_revived mem same.id same.userId number.symm bank.symm rfl
  | false =>
    have plain : e.isDefault = false := (h.one e.userId).deleted e mem rfl gone
    have marks : ((revival (accountRow e.userId newId dto verified false)).apply e).isDefault = e.isDefault :=
      plain.symm
    refine h.of_plain stored marks (fun marked => ?_) (fun _ => first rfl) run
    rw [plain] at marked
    cases marked

end

theorem kept_create (h : Kept d) {dto : CreateBankAccountDto} {newId : String}
    (free : d.bankAccounts.find newId = none)
    (run : (createBankAccount userId dto newId).alone [] d x = some o) : Kept o.db := by
  unfold createBankAccount at run
  simp only [bind_eq] at run
  replace run : ((orThrow (External.handle (R := AccountCall.Reply)
      (AccountCall.resolveBankAccount dto.bankCode dto.accountNumber) x).2 _).bind _).alone [] d x = some o := run
  rw [alone_orThrow] at run
  split at run
  · rename_i verified resolved
    rw [alone_outside, alone_ensure] at run
    split at run
    · rename_i gone
      rw [alone_outside] at run
      have first : (dto.isDefault || decide ((d.bankAccounts.rows.filter fun a =>
          a.userId = userId ∧ ¬a.isDeleted).length = 0)) = false → ∃ b ∈ d.bankAccounts.rows, Live userId b := by
        intro plain
        have some_ := (Bool.or_eq_false_iff.1 plain).2
        rw [decide_eq_false_iff_not, List.length_eq_zero_iff, List.filter_eq_nil_iff] at some_
        push Not at some_
        simpa [Live] using some_
      cases found : d.bankAccounts.findFirst fun a => a.userId = userId ∧ a.accountNumber = dto.accountNumber ∧
          a.bankName = verified.bankName.getD dto.bankName with
      | none =>
        rw [found] at run
        exact kept_new h free (by simpa using List.find?_eq_none.1 found) first run
      | some e =>
        rw [found] at run gone
        obtain ⟨own, number, bank⟩ : e.userId = userId ∧ e.accountNumber = dto.accountNumber ∧
            e.bankName = verified.bankName.getD dto.bankName := by
          simpa using List.find?_some found
        exact kept_revived h (List.mem_of_find?_eq_some found) own number bank gone first run
    · cases run
      exact h
  · cases run
    exact h

/-- An account without a default. -/
theorem not_kept {a : BankAccount} (mem : a ∈ d.bankAccounts.rows) (live : a.isDeleted = false)
    (none_ : ∀ b ∈ d.bankAccounts.rows, b.userId = a.userId → b.isDefault = false) : ¬Kept d := by
  intro h
  obtain ⟨b, ⟨hb, own, -, marked⟩, -⟩ := (h.one a.userId).exactly ⟨a, mem, rfl, live⟩
  rw [none_ b hb own] at marked
  cases marked

/-- An update that takes the mark, or that takes it from the others and is refused, leaves a user
without a default account. -/
theorem keepsDefault_of_kept (h : Kept d) {dto : UpdateBankAccountDto}
    (run : (updateBankAccount id userId dto).alone [] d x = some o) (after : Kept o.db) :
    KeepsDefault d (.update id userId dto) := by
  intro a access
  unfold updateBankAccount at run
  rw [bind_eq, alone_accessible access, bind_eq] at run
  obtain ⟨stored, rfl, live⟩ := access
  obtain rfl := Table.find_key stored
  have mem := Table.find_mem stored
  unfold when at run
  constructor
  · intro takes marked
    by_contra apart
    rw [takes, if_neg (by decide)] at run
    have valid : check (PayoutStmt.updateBankAccount a.id (updatePatch dto a)) d = none :=
      (check_update stored).trans (if_neg apart)
    have written := of_statement run valid
    rw [of_cacheDelete written] at after
    have taken : ((updatePatch dto a).apply a).isDefault = false := by
      simp [BankAccountPatch.apply, updatePatch, takes]
    have here : updated a.id (updatePatch dto a) a = (updatePatch dto a).apply a := if_pos rfl
    have mem' : (updatePatch dto a).apply a ∈
        (apply (.updateBankAccount a.id (updatePatch dto a)) d : PayoutDb).bankAccounts.rows :=
      here ▸ List.mem_map_of_mem mem
    refine not_kept mem' live (fun b hb own => ?_) after
    obtain ⟨c, hc, rfl⟩ := List.mem_map.1 (rows_update a.id (updatePatch dto a) d ▸ hb)
    rw [(updated_id a.id _ c).2] at own
    by_cases itself : c.id = a.id
    · rw [Table.eq_of_key hc mem itself, here, taken]
    · rw [updated, if_neg itself]
      exact (h.one a.userId).other mem ⟨rfl, live, marked⟩ hc own itself
  · intro gives plain taken
    rw [if_pos gives] at run
    have unset := of_statement run rfl
    have found : (apply (.unsetDefault a.userId (some a.id)) d : PayoutDb).bankAccounts.find a.id = some a :=
      (find_unset stored).trans (congrArg some (unset_itself a))
    obtain same | ⟨valid, -⟩ := of_write unset
    · rw [same] at after
      refine not_kept (Table.find_mem found) live (fun b hb own => ?_) after
      obtain ⟨c, hc, rfl⟩ := List.mem_map.1 hb
      rw [(sameKeys_unset _ _ c).userId] at own
      by_cases itself : c.id = a.id
      · rw [Table.eq_of_key hc mem itself, unset_itself, plain]
      · exact isDefault_unset (h.one a.userId) hc own fun same => itself (Option.some.inj same)
    · rw [check_update found, if_pos] at valid
      · cases valid
      · exact (taken_congr (d := d) rfl (sameKeys_unset _ _) (.refl _)).2 taken

/-- A call leaves every user one default account, unless it is one of these updates. -/
theorem Kept.call_iff (h : Kept d) {op : AccountOp} (fresh : Fresh d op)
    (run : op.program.alone [] d x = some o) : Kept o.db ↔ KeepsDefault d op := by
  cases op with
  | create userId dto newId => exact iff_of_true (kept_create h fresh run) trivial
  | update id userId dto => exact ⟨keepsDefault_of_kept h run, fun keeps => kept_update h keeps run⟩
  | delete id userId => exact iff_of_true (kept_delete h run) trivial
  | setDefault id userId => exact iff_of_true (kept_setDefault h run) trivial

end

/-- Whatever is called, every user with an account has one default. -/
theorem Serves.kept {d₀ d : PayoutDb} (run : Serves KeepsDefault d₀ d) (h : Kept d₀) : Kept d := by
  induction run with
  | start => exact h
  | call before op x fresh keeps run ih => exact (ih.call_iff fresh run).2 keeps

theorem kept_empty : Kept {} where
  unique a ha := by cases ha
  one userId :=
    { exactly := by
        rintro ⟨a, ha, -⟩
        cases ha
      deleted := by
        intro a ha
        cases ha }

/-- From an empty database, a user with an account has one default account, and no deleted one. -/
theorem oneDefault_of_serves {d : PayoutDb} (run : Serves KeepsDefault {} d) (userId : String) :
    OneDefault d userId :=
  (run.kept kept_empty).one userId

/-- A bank that knows one account. -/
def oneBank : Banks where
  accounts := [(("058", "0123456789"), { accountName := "Ada Obi", bankName := some "GTB" })]

def firstAccount : CreateBankAccountDto where
  bankName := "GTB"
  accountNumber := "0123456789"
  bankCode := "058"

def firstRow : BankAccount where
  id := "a1"
  userId := "ada"
  bankName := "GTB"
  accountNumber := "0123456789"
  accountName := "Ada Obi"
  bankCode := some "058"
  isDefault := true

/-- After the first account was added. -/
def adaOnly : PayoutDb where
  bankAccounts := Store.Table.empty.insert firstRow

theorem serves_adaOnly (C : PayoutDb → AccountOp → Prop)
    (meets : C {} (.create "ada" firstAccount "a1")) : Serves C {} adaOnly :=
  .call (o := ⟨.ok (), [], adaOnly, oneBank⟩) .start (.create "ada" firstAccount "a1") oneBank rfl meets rfl

theorem oneDefault_of_serves_adaOnly : OneDefault adaOnly "ada" :=
  oneDefault_of_serves (serves_adaOnly KeepsDefault trivial) "ada"

/-- The user takes the mark from the only account. -/
def unmark : UpdateBankAccountDto where
  isDefault := some false

theorem unmarked : ¬∀ d, Serves (fun _ _ => True) {} d → ∀ userId, OneDefault d userId := by
  intro all
  have run : (AccountOp.update "a1" "ada" unmark).program.alone [] adaOnly oneBank =
      some ⟨.ok (), [], { bankAccounts := Store.Table.empty.insert { firstRow with isDefault := false } }, oneBank⟩ :=
    rfl
  have one := all _ (.call (serves_adaOnly _ trivial) (.update "a1" "ada" unmark) oneBank trivial trivial run) "ada"
  obtain ⟨b, ⟨hb, -, -, marked⟩, -⟩ := one.exactly ⟨_, List.mem_singleton_self _, rfl, rfl⟩
  rw [List.mem_singleton.1 hb] at marked
  cases marked

end Heightt.Payouts
