import Heightt.Finance.Posting
import Heightt.Finance.Settlement
import Heightt.ReadCommitted.Guarantee

/-!
# LedgerService: releasing Heightt's share of a withdrawal fee

`triggerWithdrawalTransfer` allocates the share to the platform wallet and writes a mark to
the withdrawal's metadata; `reverseOrganizationWithdrawalPlatformFee` takes the share back
where it finds the mark. It undoes the allocation, but it leaves the mark as it is, so that
a second call takes the share once more.
-/

namespace Heightt.FinanceService

open ReadCommitted Prog WalletService LedgerService Store

/-- One call of the reversal with the row that is stored, in a transaction. -/
def releaseFee (id : Id) : Action Unit :=
  transaction do
    let withdrawal ← query fun d => d.withdrawals.find id
    whenSome withdrawal reverseOrganizationWithdrawalPlatformFee

/-- What a wallet that gets `fee` stands higher by, and its account. -/
def walletShare (wallet : Option Wallet) (fee : Int) : Col → Int
  | .balance i => if wallet.any fun v => v.id = i then fee else 0
  | .heldBalance _ => 0
  | .ledger a => if wallet.any fun v => v.ledgerAccountId = a then fee else 0

/-- What an allocation of `fee` moves: the platform wallet against the clearing account. -/
def feeMoved (wallet : Option Wallet) (fee : Int) (c : Col) : Int :=
  walletShare wallet fee c - if c = .ledger (.system .bankClearing) then fee else 0

/-! ## Single statements -/

section

variable {s : Db}

theorem value_updateWallet {id : Id} {δ : Int} (valid : Database.check (Stmt.updateWallet id (.add δ) .keep) s = none)
    (c : Col) : (Database.apply (Stmt.updateWallet id (.add δ) .keep) s).value c =
      s.value c + if c = .balance id then δ else 0 := by
  refine (Stmt.value_apply c valid).trans ?_
  cases c with
  | balance i => by_cases h : i = id <;> simp [Stmt.change, h]
  | heldBalance i => simp [Stmt.change]
  | ledger a => simp [Stmt.change]

theorem value_updateLedgerAccount {a : AccountId} {δ : Int}
    (valid : Database.check (Stmt.updateLedgerAccount a (.add δ)) s = none) (c : Col) :
    (Database.apply (Stmt.updateLedgerAccount a (.add δ)) s).value c =
      s.value c + if c = .ledger a then δ else 0 := by
  refine (Stmt.value_apply c valid).trans ?_
  cases c with
  | ledger b => by_cases h : b = a <;> simp [Stmt.change, h]
  | _ i => simp [Stmt.change]

theorem isSome_updateLedgerAccount (a b : AccountId) (δ : Change) :
    ((Database.apply (Stmt.updateLedgerAccount a δ) s).ledgerAccounts.find b).isSome =
      (s.ledgerAccounts.find b).isSome :=
  Table.isSome_find_modify s.ledgerAccounts a (fun r => { r with balance := δ.apply r.balance })
    (fun _ => rfl) b

end

/-! ## The reversal -/

section

variable {s : Db}

theorem value_congr {s' : Db} (wallets : s'.wallets = s.wallets)
    (accounts : s'.ledgerAccounts = s.ledgerAccounts) (c : Col) : s'.value c = s.value c := by
  cases c <;> simp only [Db.value, wallets, accounts]

/-- The entry of the allocation is marked; the figures stay. -/
theorem inside_markEntry (entry : Option Id) :
    Inside Services (whenSome entry fun id => (exec (.updateJournalEntry id .reversed) : Action Unit)) s
      fun _ s' => s'.withdrawals = s.withdrawals ∧ s'.wallets = s.wallets ∧
        s'.ledgerAccounts = s.ledgerAccounts :=
  .whenSome (fun _ _ => .exec fun _ => ⟨rfl, rfl, rfl⟩) fun _ => ⟨rfl, rfl, rfl⟩

theorem inside_takeBack (wallet : Option Wallet) (fee : Int) :
    Inside Services
      (whenSome wallet fun w => (do
        exec (.updateWallet w.id (.add (-fee)) .keep)
        exec (.updateLedgerAccount w.ledgerAccountId (.add (-fee))) : Action Unit)) s
      fun _ s' => s'.withdrawals = s.withdrawals ∧
        (∀ a, (s'.ledgerAccounts.find a).isSome = (s.ledgerAccounts.find a).isSome) ∧
        ∀ c, s'.value c = s.value c - walletShare wallet fee c := by
  refine .whenSome (fun w hw => ?_) fun none => ?_
  · subst hw
    refine .exec_bind fun valid => .exec fun valid' => ⟨rfl, fun a => ?_, fun c => ?_⟩
    · exact isSome_updateLedgerAccount _ _ _
    · rw [value_updateLedgerAccount valid', value_updateWallet valid]
      cases c with
      | balance i =>
        by_cases h : w.id = i
        · simp [walletShare, h, Int.sub_eq_add_neg]
        · simp [walletShare, h, Ne.symm h]
      | heldBalance i => simp [walletShare]
      | ledger a =>
        by_cases h : w.ledgerAccountId = a
        · simp [walletShare, h, Int.sub_eq_add_neg]
        · simp [walletShare, h, Ne.symm h]
  · subst none
    refine ⟨rfl, fun _ => rfl, fun c => ?_⟩
    cases c <;> simp [walletShare]

theorem inside_addToSystemAccount {a : SystemAccount} {δ : Int}
    (there : (s.ledgerAccounts.find (.system a)).isSome) :
    Inside Services (addToSystemAccount a δ) s fun _ s' => s'.withdrawals = s.withdrawals ∧
      (s'.ledgerAccounts.find (.system a)).isSome ∧
      ∀ c, s'.value c = s.value c + if c = .ledger (.system a) then δ else 0 := by
  refine .query_bind (.whenSome (fun account found => ?_) fun none => ?_)
  · have same : account.id = .system a := Table.find_key found
    rw [same]
    exact .exec fun valid => ⟨rfl, (isSome_updateLedgerAccount _ _ _).trans there,
      value_updateLedgerAccount valid⟩
  · rw [none] at there
    cases there

end

/-- `s'` is `s` with `fee` taken back from the platform wallet. The withdrawal keeps its mark. -/
structure Released (fee : Int) (s s' : Db) : Prop where
  withdrawals : s'.withdrawals = s.withdrawals
  clearing : (s'.ledgerAccounts.find (.system .bankClearing)).isSome
  value : ∀ c, s'.value c = s.value c - feeMoved (s.wallets.findFirst Wallet.isPlatformWallet) fee c

/-- Where the mark is set, the fee is taken back; whether it was before is not asked. -/
theorem inside_reverse {s : Db} {w : Withdrawal} (allocated : FeeAllocated w)
    (clearing : (s.ledgerAccounts.find (.system .bankClearing)).isSome) :
    Inside Services (reverseOrganizationWithdrawalPlatformFee w) s fun _ s' =>
      Released (w.metadata.charges.platformFee.getD 0) s s' := by
  unfold FeeAllocated at allocated
  unfold reverseOrganizationWithdrawalPlatformFee
  dsimp only
  generalize w.metadata.charges.platformFee.getD 0 = fee at allocated
  refine .when (fun _ => .query_bind ((inside_markEntry _).bind fun _ s₁ h₁ => ?_))
    fun h => absurd allocated h
  obtain ⟨kept₁, wallets₁, accounts₁⟩ := h₁
  refine .query_bind ((inside_takeBack _ fee).bind fun _ s₂ h₂ => ?_)
  obtain ⟨kept₂, there, value₂⟩ := h₂
  refine (inside_addToSystemAccount (by rw [there, accounts₁, clearing])).mono fun _ s₃ h₃ => ?_
  obtain ⟨kept₃, there₃, value₃⟩ := h₃
  refine ⟨kept₃.trans (kept₂.trans kept₁), there₃, fun c => ?_⟩
  rw [value₃, value₂, value_congr wallets₁ accounts₁, wallets₁]
  unfold feeMoved
  omega

/-- Where it is not set, nothing is done. -/
theorem alone_releaseFee {s : Db} {x : Services} {w : Withdrawal} (stored : s.withdrawals.find w.id = some w)
    (unallocated : ¬FeeAllocated w) : (releaseFee w.id).alone [] s x = some ⟨.ok (), [], s, x⟩ := by
  have nothing : reverseOrganizationWithdrawalPlatformFee w = pure () := by
    unfold reverseOrganizationWithdrawalPlatformFee when
    exact if_neg unallocated
  rw [← bind_ret (releaseFee w.id)]
  refine alone_transaction (F := []) ?_ rfl ret
  rw [bind_eq, alone_query_open, Database.applyAll_nil, stored, whenSome, nothing]
  rfl

theorem turns_releaseFee {s : Db} {x : Services} {w : Withdrawal} (stored : s.withdrawals.find w.id = some w)
    (allocated : FeeAllocated w) (clearing : (s.ledgerAccounts.find (.system .bankClearing)).isSome) :
    Turns (releaseFee w.id) s x
      (fun _ s' _ => Released (w.metadata.charges.platformFee.getD 0) s s') fun _ _ => True := by
  refine Inside.turns (G := fun _ s' => Released (w.metadata.charges.platformFee.getD 0) s s') ?_
    (fun _ _ h => h) trivial
  refine .query_bind ?_
  rw [stored]
  exact inside_reverse allocated clearing

/-! ## The allocation -/

theorem platformShare_nonneg (w : Withdrawal) (payout : Payout) : 0 ≤ platformShare w payout := by
  unfold platformShare
  split <;> omega

/-- `s` is `d` with the share of a withdrawal allocated to `wallet`, and the mark set. -/
structure Allocated (w : Withdrawal) (payout : Payout) (wallet : Option Wallet) (d s : Db) : Prop where
  row : ∃ w', s.withdrawals.find w.id = some w' ∧ w'.metadata.platformFeeAllocatedAt.isSome ∧
    w'.metadata.charges.platformFee = some (platformShare w payout)
  accounts : ∀ a, (s.ledgerAccounts.find a).isSome = (d.ledgerAccounts.find a).isSome
  platform : ∀ v, d.wallets.findFirst Wallet.isPlatformWallet = some v →
    ∃ v', s.wallets.findFirst Wallet.isPlatformWallet = some v' ∧ v'.id = v.id
  value : ∀ c, s.value c = d.value c +
    if w.metadata.platformFeeAllocatedAt = none then feeMoved wallet (platformShare w payout) c else 0

/-- The wallet matters by its identifier. -/
theorem feeMoved_congr {v v' : Wallet} (h : v'.id = v.id) (fee : Int) (c : Col) :
    feeMoved (some v') fee c = feeMoved (some v) fee c := by
  cases c with
  | balance i => simp [feeMoved, walletShare, h]
  | heldBalance i => rfl
  | ledger a =>
    by_cases on : AccountId.wallet v.id = a <;> simp [feeMoved, walletShare, Wallet.ledgerAccountId, h, on]

theorem feeMoved_zero (wallet : Option Wallet) (c : Col) : feeMoved wallet 0 c = 0 := by
  cases c <;> simp [feeMoved, walletShare]

/-- The journal entry of an allocation moves the share from the clearing account to the wallet's. -/
theorem value_allocation {w : Withdrawal} {payout : Payout} {v : Wallet} {new : NewEntry} {d s : Db}
    {e : JournalEntry} (h : Posted (allocationData w payout v) new d e s) (c : Col) :
    s.value c + (if c = .balance v.id then platformShare w payout else 0) =
      d.value c + feeMoved (some v) (platformShare w payout) c := by
  have wallets : s.wallets = d.wallets := h.others.1
  cases c with
  | balance i =>
    by_cases same : v.id = i <;> simp [Db.value, wallets, feeMoved, walletShare, same, eq_comm (a := i)]
  | heldBalance i => simp [Db.value, wallets, feeMoved, walletShare]
  | ledger a =>
    rw [h.value_ledger]
    by_cases wallet : v.ledgerAccountId = a
    · subst wallet
      simp [linesOn, allocationData, totalDebits, totalCredits, feeMoved, walletShare, Wallet.ledgerAccountId]
    · by_cases clearing : a = .system .bankClearing
      · subst clearing
        simp [linesOn, allocationData, totalDebits, totalCredits, feeMoved, walletShare, wallet]
      · simp [linesOn, allocationData, totalDebits, totalCredits, feeMoved, walletShare, wallet, clearing,
          Ne.symm clearing]

/-- The posting moves the share, and the platform wallet is the one it was. -/
theorem inside_allocatePlatformFee {w : Withdrawal} {payout : Payout} {v : Wallet} {new : NewEntry} {d : Db} :
    Inside Services (allocatePlatformFee w payout v new) d fun _ s => s.withdrawals = d.withdrawals ∧
      (∀ a, (s.ledgerAccounts.find a).isSome = (d.ledgerAccounts.find a).isSome) ∧
      (∀ p, d.wallets.findFirst Wallet.isPlatformWallet = some p →
        ∃ p', s.wallets.findFirst Wallet.isPlatformWallet = some p' ∧ p'.id = p.id) ∧
      ∀ c, s.value c = d.value c + feeMoved (some v) (platformShare w payout) c := by
  refine .query_bind (.orThrow_bind fun _ _ => (inside_createJournalEntry _ _ d).bind fun e s h => ?_)
  refine .exec_bind fun valid => .ret ⟨h.others.2, h.isSome_account, fun p hp => ?_, fun c => ?_⟩
  · have kept := Table.findFirst_modify s.wallets v.id
      (fun r => { r with balance := r.balance + platformShare w payout, heldBalance := r.heldBalance })
      (fun _ => rfl) (p := Wallet.isPlatformWallet) fun _ => rfl
    rw [congrArg (Table.findFirst · Wallet.isPlatformWallet) h.others.1, hp] at kept
    refine ⟨_, kept, ?_⟩
    dsimp only
    split <;> rfl
  · rw [value_updateWallet valid, value_allocation h]

/-- What is posted before the payout is recorded. -/
theorem inside_postFees {w : Withdrawal} {payout : Payout} {wallet : Option Wallet} {new : NewSettlement}
    {d : Db} (organization : w.metadata.type = .organization)
    (share : wallet.isSome ↔ 0 < platformShare w payout) :
    Inside Services (recordPayout.postFees w payout new
        (wallet.filter fun _ => w.metadata.platformFeeAllocatedAt.isNone)) d fun _ s =>
      s.withdrawals = d.withdrawals ∧
      (∀ a, (s.ledgerAccounts.find a).isSome = (d.ledgerAccounts.find a).isSome) ∧
      (∀ p, d.wallets.findFirst Wallet.isPlatformWallet = some p →
        ∃ p', s.wallets.findFirst Wallet.isPlatformWallet = some p' ∧ p'.id = p.id) ∧
      ∀ c, s.value c = d.value c +
        if w.metadata.platformFeeAllocatedAt = none then feeMoved wallet (platformShare w payout) c else 0 := by
  cases posted : wallet.filter fun _ => w.metadata.platformFeeAllocatedAt.isNone with
  | none =>
    unfold recordPayout.postFees
    rw [if_neg (by simp [organization])]
    refine .ret ⟨rfl, fun _ => rfl, fun p hp => ⟨p, hp, rfl⟩, fun c => ?_⟩
    split
    · rename_i unallocated
      -- no wallet was opened, since there is no share
      have none : wallet = none := by
        rw [← posted, unallocated]
        cases wallet <;> rfl
      have nothing : platformShare w payout = 0 := by
        have := platformShare_nonneg w payout
        have : ¬0 < platformShare w payout := fun h => by simpa [none] using share.2 h
        omega
      rw [nothing, feeMoved_zero, add_zero]
    · rw [add_zero]
  | some v =>
    obtain ⟨rfl, unallocated⟩ := Option.filter_eq_some_iff.1 posted
    refine inside_allocatePlatformFee.mono fun _ s h => ?_
    simp only [if_pos (Option.isNone_iff_eq_none.1 unallocated)]
    exact h

theorem inside_recordPayout {w : Withdrawal} {payout : Payout} {wallet : Option Wallet} {new : NewSettlement}
    {d : Db} (organization : w.metadata.type = .organization)
    (share : wallet.isSome ↔ 0 < platformShare w payout)
    (stored : d.withdrawals.find w.id = some w) :
    Inside Services (recordPayout w payout wallet new) d fun _ s => Allocated w payout wallet d s := by
  refine (inside_postFees organization share).bind fun entry s ⟨rows, accounts, platform, value⟩ => ?_
  refine .exec fun valid => ⟨⟨(payoutPatch w payout entry new.now).apply w, ?_, ?_, ?_⟩, accounts, platform, value⟩
  · refine (Table.find_modify_self s.withdrawals w.id (payoutPatch w payout entry new.now).apply
      fun _ => rfl).trans ?_
    rw [rows, stored]
    rfl
  · unfold payoutPatch
    rw [if_pos organization]
    cases h : w.metadata.platformFeeAllocatedAt <;> simp [WithdrawalPatch.apply]
  · unfold payoutPatch
    rw [if_pos organization]
    rfl

/-! ## Undoing, and undoing again -/

/-- The reversal undoes what has led from `d` to `d₁`. Called any number of times more it changes
nothing, and neither does it for a withdrawal whose fee was never allocated. -/
structure ReversalUndoes (id : Id) (d d₁ : Db) (x : Services) : Prop where
  undone : ∃ d₂, (releaseFee id).alone [] d₁ x = some ⟨.ok (), [], d₂, x⟩ ∧
    (∀ c, d₂.value c = d.value c) ∧
    ∀ n, (forEach (List.replicate n ()) fun _ => releaseFee id).alone [] d₂ x = some ⟨.ok (), [], d₂, x⟩
  unallocated : ∀ s (w : Withdrawal), s.withdrawals.find w.id = some w →
    w.metadata.platformFeeAllocatedAt = none → (releaseFee w.id).alone [] s x = some ⟨.ok (), [], s, x⟩

section

variable {w : Withdrawal} {payout : Payout} {wallet : Option Wallet} {d d₁ d₂ : Db} {x : Services}

theorem alone_forEach_of_still {id : Id} (still : (releaseFee id).alone [] d x = some ⟨.ok (), [], d, x⟩)
    (n : Nat) : (forEach (List.replicate n ()) fun _ => releaseFee id).alone [] d x =
      some ⟨.ok (), [], d, x⟩ := by
  induction n with
  | zero => rfl
  | succ n ih =>
    show ((releaseFee id).bind fun _ => forEach (List.replicate n ()) fun _ => releaseFee id).alone [] d x = _
    rw [alone_bind, still]
    exact ih

/-- A release of an allocated fee moves the clearing account. -/
theorem released_of_alone {s s' : Db} {id : Id} {v : Withdrawal} (stored : s.withdrawals.find id = some v)
    (allocated : FeeAllocated v) (clearing : (s.ledgerAccounts.find (.system .bankClearing)).isSome)
    (h : (releaseFee id).alone [] s x = some ⟨.ok (), [], s', x⟩) :
    Released (v.metadata.charges.platformFee.getD 0) s s' := by
  obtain rfl : v.id = id := Table.find_key stored
  exact (turns_releaseFee stored allocated clearing _ (ends_of_alone h)).2

theorem Released.clearing_value {fee : Int} {s s' : Db} (h : Released fee s s') :
    s'.value (.ledger (.system .bankClearing)) = s.value (.ledger (.system .bankClearing)) + fee := by
  rw [h.value]
  cases s.wallets.findFirst Wallet.isPlatformWallet <;> simp [feeMoved, walletShare, Wallet.ledgerAccountId]

/-- The first release leaves the row, and with it the mark, so that the second is one as well. -/
theorem not_reversalUndoes {id : Id} {v : Withdrawal} (stored : d₁.withdrawals.find id = some v)
    (allocated : FeeAllocated v) (clearing : (d₁.ledgerAccounts.find (.system .bankClearing)).isSome) :
    ¬ReversalUndoes id d d₁ x := by
  intro undoes
  obtain ⟨d₂, first, -, again⟩ := undoes.undone
  have released := released_of_alone stored allocated clearing first
  have second : (releaseFee id).alone [] d₂ x = some ⟨.ok (), [], d₂, x⟩ := by
    rw [← bind_ret (releaseFee id)]
    exact again 1
  have moved := (released_of_alone (by rw [released.withdrawals, stored]) allocated released.clearing
    second).clearing_value
  have pos := allocated.2
  omega

theorem allocated_of_alone {new : NewSettlement} (organization : w.metadata.type = .organization)
    (opened : wallet.isSome ↔ 0 < platformShare w payout) (stored : d.withdrawals.find w.id = some w)
    (h : (transaction (recordPayout w payout wallet new)).alone [] d x = some ⟨.ok (), [], d₁, x⟩) :
    Allocated w payout wallet d d₁ := by
  have turns : Turns (transaction (recordPayout w payout wallet new)) d x
      (fun _ s _ => Allocated w payout wallet d s) fun _ _ => True :=
    (inside_recordPayout organization opened stored).turns (fun _ _ h => h) trivial
  exact (turns _ (ends_of_alone h)).2

end

/-- **The reversal of a platform fee** undoes the allocation and does nothing when it is called
again, if and only if Heightt has no share in the fee. -/
theorem reversalUndoes_iff (w : Withdrawal) (payout : Payout) (wallet : Option Wallet) (new : NewSettlement)
    (d d₁ : Db) (x : Services) (stored : d.withdrawals.find w.id = some w)
    (organization : w.metadata.type = .organization) (opened : wallet.isSome ↔ 0 < platformShare w payout)
    (clearing : (d.ledgerAccounts.find (.system .bankClearing)).isSome)
    (allocated : (transaction (recordPayout w payout wallet new)).alone [] d x = some ⟨.ok (), [], d₁, x⟩) :
    (ReversalUndoes w.id d d₁ x ↔ platformShare w payout = 0) ∧
      (w.metadata.platformFeeAllocatedAt = none →
        (∀ v, wallet = some v → d.wallets.findFirst Wallet.isPlatformWallet = some v) →
        ∀ d₂, (releaseFee w.id).alone [] d₁ x = some ⟨.ok (), [], d₂, x⟩ → ∀ c, d₂.value c = d.value c) := by
  have spec := allocated_of_alone organization opened stored allocated
  obtain ⟨w', row, mark, share⟩ := spec.row
  have there : (d₁.ledgerAccounts.find (.system .bankClearing)).isSome := by rw [spec.accounts, clearing]
  have fee : w'.metadata.charges.platformFee.getD 0 = platformShare w payout := by rw [share]; rfl
  have due : FeeAllocated w' ↔ 0 < platformShare w payout := by
    unfold FeeAllocated
    rw [fee]
    exact and_iff_right mark
  have nonneg := platformShare_nonneg w payout
  have still (none : platformShare w payout = 0) :
      (releaseFee w.id).alone [] d₁ x = some ⟨.ok (), [], d₁, x⟩ :=
    Table.find_key row ▸ alone_releaseFee (Table.find_key row ▸ row) (by rw [due]; omega)
  refine ⟨⟨fun undoes => ?_, fun none => ⟨⟨d₁, ?_⟩, ?_⟩⟩, fun unallocated platform d₂ h c => ?_⟩
  · by_contra some
    exact not_reversalUndoes row (due.2 (by omega)) there undoes
  · refine ⟨still none, fun c => ?_, alone_forEach_of_still (still none)⟩
    rw [spec.value, none, feeMoved_zero, ite_self, add_zero]
  · intro s v stored unallocated
    exact alone_releaseFee stored fun ⟨marked, _⟩ => by simp [unallocated] at marked
  · by_cases none : platformShare w payout = 0
    · rw [still none] at h
      cases h
      rw [spec.value, none, feeMoved_zero, ite_self, add_zero]
    · have share : 0 < platformShare w payout := by omega
      obtain ⟨v, hv⟩ := Option.isSome_iff_exists.1 (opened.2 share)
      obtain ⟨v', found, same⟩ := spec.platform v (platform v hv)
      have released := released_of_alone row (due.2 share) there h
      rw [released.value, spec.value, found, fee, if_pos unallocated, hv, feeMoved_congr same]
      omega

/-- A platform wallet, and a payout in transit whose fee of 20 Naira costs 5 Naira at the provider. -/
def organizationWithdrawal : Withdrawal where
  id := .ofNat 5
  userId := .ofNat 6
  walletId := .ofNat 7
  amount := 100000
  fee := 2000
  status := .processing
  reference := "WD"
  metadata := { type := .organization, charges := { fee := 2000, providerFee := some 500 } }

def platformWallet : Wallet where
  id := .ofNat 1
  isPlatformWallet := true

def beforeAllocation : Db where
  wallets := Table.empty.insert platformWallet
  ledgerAccounts := (Table.empty.insert { id := .wallet (.ofNat 1) }).insert { id := .system .bankClearing }
  withdrawals := Table.empty.insert organizationWithdrawal

def acceptedPayout : Payout where
  id := 1
  status := .completed
  reference := "WD"
  withdrawalId := .ofNat 5

/-- The allocation of the share of 15 Naira. -/
def allocation : Option (Outcome Db Services Stmt Failure Unit) :=
  (transaction (recordPayout organizationWithdrawal acceptedPayout (some platformWallet)
    ⟨0, ⟨.ofNat 8, "JE-1"⟩, ⟨.ofNat 9, "JE-2"⟩, .ofNat 10⟩)).alone [] beforeAllocation {}

def afterAllocation : Db := (allocation.map Outcome.db).getD {}

theorem reversalUndoes_iff_example : ReversalUndoes (.ofNat 5) beforeAllocation afterAllocation {} ↔
    platformShare organizationWithdrawal acceptedPayout = 0 :=
  (reversalUndoes_iff organizationWithdrawal acceptedPayout (some platformWallet)
    ⟨0, ⟨.ofNat 8, "JE-1"⟩, ⟨.ofNat 9, "JE-2"⟩, .ofNat 10⟩ beforeAllocation afterAllocation {}
    rfl rfl (by decide) (by decide) rfl).1

/-- Two releases take the share twice: the platform wallet ends below the balance of 0 that it had
before the allocation. -/
theorem released_twice :
    ¬ReversalUndoes (.ofNat 5) beforeAllocation afterAllocation {} ∧
      ((forEach [(), ()] fun _ => releaseFee (.ofNat 5)).alone [] afterAllocation ({} : Services)).map
        (fun o => o.db.value (.balance (.ofNat 1))) = some (-1500) := by
  constructor
  · exact not_reversalUndoes (v := (payoutPatch organizationWithdrawal acceptedPayout (some (.ofNat 9)) 0).apply
      organizationWithdrawal) rfl ⟨rfl, by decide⟩ (by decide)
  · decide

end Heightt.FinanceService
