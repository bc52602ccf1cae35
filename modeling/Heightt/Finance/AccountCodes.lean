import Heightt.Schema.Cuid

/-!
# Codes of wallet accounts

A wallet is created together with its ledger account, in one transaction, at five places of
`wallet.service.ts` and `bachs.service.ts`. The code of the account is unique in the database and
holds the first characters of the wallet's identifier only: these begin with the time at which it
was made.
-/

namespace Heightt.AccountCodes

/-- The places at which a wallet is created. -/
inductive Place where
  | getOrCreateUserWallet
  | getOrCreateOrganizationWallet
  | initializePlatformWallet
  /-- `completePayment`, for the organisation of the payment. -/
  | collectingOrganization
  /-- `completePayment`, for the platform. -/
  | collectingPlatform
  deriving DecidableEq

/-- What the code begins with. -/
def Place.label : Place → String
  | getOrCreateUserWallet => "WALLET-USER-"
  | getOrCreateOrganizationWallet => "WALLET-ORG-"
  | initializePlatformWallet | collectingPlatform => "PLATFORM-WALLET-"
  | collectingOrganization => "ORG-WALLET-"

/-- How much of the wallet's identifier follows. -/
def Place.size : Place → Nat
  | getOrCreateUserWallet | getOrCreateOrganizationWallet | initializePlatformWallet => 8
  | collectingOrganization | collectingPlatform => 12

structure Creation where
  place : Place
  walletId : Id
  deriving DecidableEq

/-- `wallet.id.substring(0, size)` -/
def Creation.shortened (c : Creation) : List Char := c.walletId.chars.take c.place.size

def Creation.code (c : Creation) : List Char := c.place.label.toList ++ c.shortened

/-- The unique columns of a ledger account. -/
structure LedgerAccount where
  code : List Char
  walletId : Option Id := none
  deriving DecidableEq

/-- The accounts of `LedgerService`. -/
def systemAccounts : List LedgerAccount :=
  ["4100", "4000", "2100", "1100", "2200", "1200", "4200", "2300"].map fun code => { code := code.toList }

/-- `tx.ledgerAccount.create`, which fails where the code is taken, or the wallet has an account. -/
def create (accounts : List LedgerAccount) (c : Creation) : Option (List LedgerAccount) :=
  if accounts.any fun a => a.code = c.code ∨ a.walletId = some c.walletId then none
  else some (⟨c.code, some c.walletId⟩ :: accounts)

def createAll (accounts : List LedgerAccount) (creations : List Creation) : Option (List LedgerAccount) :=
  creations.foldlM create accounts

/-! ## When codes are distinct -/

theorem length_shortened (c : Creation) : c.shortened.length = c.place.size := by
  rw [Creation.shortened, List.length_take, c.walletId.length_chars]
  cases c.place <;> rfl

/-- Neither label is the beginning of the other, except where they are the same. -/
theorem label_eq_of_append {p q : Place} {u v : List Char} (same : p.label.toList ++ u = q.label.toList ++ v) :
    p.label = q.label := by
  have head := congrArg (List.take 8) same
  cases p <;> cases q <;> first | rfl | exact absurd head (by simp [Place.label])

theorem eq_of_label_of_size : ∀ {p q : Place}, p.label = q.label → p.size = q.size → p = q := by
  intro p q label size
  cases p <;> cases q <;> first | rfl | exact absurd label (by decide) | exact absurd size (by decide)

/-- Codes are the same if they are made at the same place, of identifiers with the same beginning. -/
theorem code_eq_iff {c d : Creation} : c.code = d.code ↔ c.place = d.place ∧ c.shortened = d.shortened := by
  constructor
  · intro same
    have label := label_eq_of_append same
    have short : c.shortened = d.shortened := by
      rw [Creation.code, Creation.code, label] at same
      exact List.append_cancel_left same
    have size : c.place.size = d.place.size := by rw [← length_shortened, ← length_shortened, short]
    exact ⟨eq_of_label_of_size label size, short⟩
  · rintro ⟨place, short⟩
    rw [Creation.code, Creation.code, place, short]

theorem code_not_system (c : Creation) : ∀ a ∈ systemAccounts, a.code ≠ c.code := by
  have digit : ∀ a ∈ systemAccounts, a.code.head?.all Char.isDigit = true ∧ a.code ≠ [] := by decide
  intro a ha same
  obtain ⟨digits, -⟩ := digit a ha
  rw [same, Creation.code] at digits
  cases hp : c.place <;> rw [hp] at digits <;> cases digits

/-! ## Runs -/

theorem create_isSome_iff {accounts : List LedgerAccount} {c : Creation} :
    (create accounts c).isSome ↔ ∀ a ∈ accounts, a.code ≠ c.code ∧ a.walletId ≠ some c.walletId := by
  unfold create
  split
  · rename_i taken
    obtain ⟨a, ha, own⟩ := List.any_eq_true.1 taken
    refine iff_of_false Bool.false_ne_true fun apart => ?_
    obtain code | wallet := of_decide_eq_true own
    · exact (apart a ha).1 code
    · exact (apart a ha).2 wallet
  · rename_i free
    simpa using free

/-- The accounts after some creations. -/
theorem createAll_eq_some {accounts accounts' : List LedgerAccount} {creations : List Creation}
    (h : createAll accounts creations = some accounts') :
    ∀ a, a ∈ accounts' ↔ a ∈ accounts ∨ ∃ c ∈ creations, a = ⟨c.code, some c.walletId⟩ := by
  induction creations generalizing accounts with
  | nil =>
    obtain rfl : accounts = accounts' := Option.some.inj h
    simp
  | cons c cs ih =>
    obtain ⟨next, made, rest⟩ := Option.bind_eq_some_iff.1 h
    have added : next = ⟨c.code, some c.walletId⟩ :: accounts := by
      unfold create at made
      split at made
      · cases made
      · exact (Option.some.inj made).symm
    intro a
    rw [ih rest a, added]
    simp only [List.mem_cons, exists_eq_or_imp]
    tauto

/-- Creations of different wallets succeed one after the other if no two codes, nor any older one, are
the same. -/
theorem createAll_isSome_iff {accounts : List LedgerAccount} {creations : List Creation}
    (ids : (creations.map Creation.walletId).Nodup)
    (fresh : ∀ a ∈ accounts, ∀ c ∈ creations, a.walletId ≠ some c.walletId) :
    (createAll accounts creations).isSome ↔
      (∀ a ∈ accounts, ∀ c ∈ creations, a.code ≠ c.code) ∧ (creations.map Creation.code).Nodup := by
  induction creations generalizing accounts with
  | nil => simp [createAll]
  | cons c cs ih =>
    obtain ⟨new, ids⟩ := List.nodup_cons.1 ids
    have free : (create accounts c).isSome ↔ ∀ a ∈ accounts, a.code ≠ c.code := by
      rw [create_isSome_iff]
      exact ⟨fun h a ha => (h a ha).1, fun h a ha => ⟨h a ha, fresh a ha c List.mem_cons_self⟩⟩
    have step : (createAll accounts (c :: cs)).isSome ↔
        (∀ a ∈ accounts, a.code ≠ c.code) ∧ (createAll (⟨c.code, some c.walletId⟩ :: accounts) cs).isSome := by
      rw [← free, createAll, List.foldlM_cons, create]
      split <;> simp [createAll]
    have fresh' : ∀ a ∈ (⟨c.code, some c.walletId⟩ :: accounts : List LedgerAccount), ∀ d ∈ cs,
        a.walletId ≠ some d.walletId := by
      intro a ha d hd
      obtain rfl | ha := List.mem_cons.1 ha
      · intro same
        exact new (Option.some.inj same ▸ List.mem_map_of_mem hd)
      · exact fresh a ha d (List.mem_cons_of_mem c hd)
    rw [step, ih ids fresh', List.map_cons, List.nodup_cons]
    simp only [List.forall_mem_cons, List.mem_map, not_exists, not_and]
    constructor
    · rintro ⟨old, ⟨own, others⟩, nodup⟩
      exact ⟨fun a ha => ⟨old a ha, others a ha⟩, fun d hd same => own d hd same.symm, nodup⟩
    · rintro ⟨old, own, nodup⟩
      exact ⟨fun a ha => (old a ha).1, ⟨fun d hd same => own d hd same.symm, fun a ha => (old a ha).2⟩, nodup⟩

/-- **Codes of wallet accounts.** Wallets have different codes, and none of their creations fails,
exactly if no two that are created at one place have identifiers with the same beginning. -/
theorem createAll_iff_apart (creations : List Creation) (ids : (creations.map Creation.walletId).Nodup) :
    ((creations.map Creation.code).Nodup ∧ (createAll systemAccounts creations).isSome) ↔
      creations.Pairwise fun c d => c.place = d.place → c.shortened ≠ d.shortened := by
  have system : ∀ a ∈ systemAccounts, a.walletId = none := by decide
  have fresh : ∀ a ∈ systemAccounts, ∀ c ∈ creations, a.walletId ≠ some c.walletId := by
    intro a ha c _
    rw [system a ha]
    exact Option.some_ne_none _ ∘ Eq.symm
  have codes : (creations.map Creation.code).Nodup ↔
      creations.Pairwise fun c d => c.place = d.place → c.shortened ≠ d.shortened := by
    rw [List.Nodup, List.pairwise_map]
    simp only [ne_eq, code_eq_iff, not_and]
  rw [createAll_isSome_iff ids fresh, ← codes]
  exact ⟨fun h => h.1, fun h => ⟨h, fun a ha c _ => code_not_system c a ha, h⟩⟩

/-- Identifiers with the same first eight characters. -/
def together : Id × Id := (.ofNat 0, .ofNat (36 ^ 7))

/-- The wallets of a user and of an organisation. -/
theorem createAll_iff_apart_owners :
    (createAll systemAccounts
      [⟨.getOrCreateUserWallet, together.1⟩, ⟨.getOrCreateOrganizationWallet, together.2⟩]).isSome :=
  ((createAll_iff_apart _ (by decide)).2 (by decide)).2

/-- The wallets of two users. -/
theorem code_taken : ¬∀ creations : List Creation, (creations.map Creation.walletId).Nodup →
    (creations.map Creation.code).Nodup ∧ (createAll systemAccounts creations).isSome := by
  intro distinct
  have both := distinct [⟨.getOrCreateUserWallet, together.1⟩, ⟨.getOrCreateUserWallet, together.2⟩] (by decide)
  revert both
  decide

end Heightt.AccountCodes
