import Heightt.ReadCommitted.Upholds
import Heightt.Runs.CheckoutAmounts

/-!
# The platform wallet

Three operations open a platform wallet when they have found none, and no constraint keeps
a second one out. Where every wallet that becomes a platform wallet finds none in the state
in which it does, there is one, and every fee of a completed payment is credited to it.
-/

namespace Heightt

open ReadCommitted Prog Store Database WalletService FinanceService ReceiptService BachsService

inductive PlatformOp where
  | initializePlatformWallet (newId : Id)
  | getOrCreatePlatformWallet (newId : Id)
  | completePayment (collection : Collection) (new : NewCompletion)
  deriving DecidableEq

def PlatformOp.program : PlatformOp → Action Unit
  | initializePlatformWallet newId => do
    let _ ← WalletService.initializePlatformWallet newId
    pure ()
  | getOrCreatePlatformWallet newId => do
    let _ ← WalletService.getOrCreatePlatformWallet newId
    pure ()
  | completePayment collection new => BachsService.completePayment collection new

/-! ## One wallet for all fees -/

/-- The wallet is a platform wallet. -/
def Db.IsPlatform (d : Db) (id : Id) : Prop := (d.wallets.find id).any Wallet.isPlatformWallet = true

instance (d : Db) (id : Id) : Decidable (d.IsPlatform id) := inferInstanceAs (Decidable (_ = true))

/-- There is at most one platform wallet. -/
def Db.OnePlatform (d : Db) : Prop := ∀ i j, d.IsPlatform i → d.IsPlatform j → i = j

/-- The fee of the payment that the statement completes. -/
def Stmt.chargedFee : Stmt → Int
  | .updatePendingPayment p patch => if patch.status = .completed then max 0 (platformFee p) else 0
  | _ => 0

/-- The fees of the payments that the statements complete. -/
def chargedFees (F : List Stmt) : Int := (F.map Stmt.chargedFee).sum

/-- The fees of all payments that were completed. -/
def collectedFees (log : Log) : Int := (log.map fun e => chargedFees e.writes).sum

/-- The transaction credits the fee to the wallet, to its account and in its journal entry. -/
structure CreditsFee (F : List Stmt) (fee : Int) (id : Id) : Prop where
  wallet : ∃ base, .updateWallet id (.set base fee) .keep ∈ F
  account : ∃ base, .updateLedgerAccount (.wallet id) (.set base fee) ∈ F
  journal : ∃ entry, .createJournalEntry entry ∈ F ∧
    { ledgerAccountId := .wallet id, type := .credit, amount := fee,
      description := "Heightt platform service fee" : JournalLine } ∈ entry.lines

/-- No transaction so far has overwritten a change of the wallet's balance. -/
def Unspoiled (log : Log) (id : Id) : Prop :=
  ∀ e ∈ log, Fresh Db (.balance id) e.writes (e.before.value (.balance id))

/-- One platform wallet takes the fees of all payments completed since the state `db`. -/
structure SinglePlatformWallet (db d : Db) (log : Log) : Prop where
  single : d.OnePlatform
  credited : ∀ e ∈ log, ∀ p patch, .updatePendingPayment p patch ∈ e.writes → patch.status = .completed →
    0 < platformFee p → ∃ id, d.IsPlatform id ∧ CreditsFee e.writes (platformFee p) id
  total : ∀ id, d.IsPlatform id → Unspoiled log id →
    d.value (.balance id) = db.value (.balance id) + collectedFees log

/-! ## What a statement does to the flag -/

/-- The wallet that the statement makes a platform wallet. -/
def Stmt.installs : Stmt → Option Id
  | .createWallet id _ _ isPlatformWallet => if isPlatformWallet then some id else none
  | .markPlatformWallet id => some id
  | _ => none

/-- A wallet keeps its organization, and stays a platform wallet. -/
def Wallet.StaysWith (w w' : Wallet) : Prop :=
  w'.organizationId = w.organizationId ∧ (w.isPlatformWallet = true → w'.isPlatformWallet = true)

/-- Every wallet is still there. -/
def WalletsStay (d d' : Db) : Prop := Table.Grows Wallet.StaysWith d.wallets d'.wallets

theorem staysWith_refl (w : Wallet) : w.StaysWith w := ⟨rfl, fun h => h⟩

theorem walletsStay_refl (d : Db) : WalletsStay d d := Table.Grows.refl staysWith_refl _

theorem WalletsStay.trans {a b c : Db} (h : WalletsStay a b) (h' : WalletsStay b c) : WalletsStay a c :=
  Table.Grows.trans (fun h h' => ⟨h'.1.trans h.1, fun hp => h'.2 (h.2 hp)⟩) h h'

theorem walletsStay_apply (s : Stmt) (d : Db) : WalletsStay d (s.apply d) := by
  cases s with
  | createWallet id userId organizationId isPlatformWallet =>
    exact Table.grows_insert staysWith_refl d.wallets _
  | markPlatformWallet id =>
    exact Table.grows_modify (f := Wallet.markPlatform) (fun _ => rfl) staysWith_refl
      fun w _ => ⟨rfl, fun _ => rfl⟩
  | updateWallet id balance heldBalance =>
    exact Table.grows_modify (t := d.wallets) (f := fun w => { w with
      balance := balance.apply w.balance, heldBalance := heldBalance.apply w.heldBalance })
      (fun _ => rfl) staysWith_refl fun w _ => ⟨rfl, fun h => h⟩
  | _ => exact walletsStay_refl d

theorem walletsStay_applyAll (F : List Stmt) (d : Db) : WalletsStay d (applyAll F d) := by
  induction F generalizing d with
  | nil => exact walletsStay_refl d
  | cons s F ih => exact (walletsStay_apply s d).trans (ih (s.apply d))

theorem isPlatform_iff {d : Db} {id : Id} :
    d.IsPlatform id ↔ ∃ w, d.wallets.find id = some w ∧ w.isPlatformWallet = true := by
  unfold Db.IsPlatform
  cases d.wallets.find id <;> simp

theorem WalletsStay.isPlatform {d d' : Db} (h : WalletsStay d d') {id : Id} (hp : d.IsPlatform id) :
    d'.IsPlatform id := by
  obtain ⟨w, hw, flag⟩ := isPlatform_iff.1 hp
  obtain ⟨w', hw', -, stays⟩ := h id w hw
  exact isPlatform_iff.2 ⟨w', hw', stays flag⟩

theorem find_markPlatformWallet (k j : Id) (d : Db) :
    ((Stmt.markPlatformWallet k).apply d).wallets.find j =
      if j = k then (d.wallets.find j).map Wallet.markPlatform else d.wallets.find j :=
  Table.find_modify d.wallets k Wallet.markPlatform (fun _ => rfl) j

/-- A platform wallet was one before, or the statement makes it one. -/
theorem isPlatform_of_apply {s : Stmt} {d : Db} {id : Id} (h : (s.apply d).IsPlatform id) :
    d.IsPlatform id ∨ s.installs = some id := by
  obtain ⟨w, hw, flag⟩ := isPlatform_iff.1 h
  cases s with
  | createWallet newId userId organizationId isPlatformWallet =>
    by_cases free : d.wallets.find newId = none
    · rw [Stmt.apply, Table.find_insert
        (r := ({ id := newId, userId, organizationId, isPlatformWallet } : Wallet)) free] at hw
      split at hw
      · rename_i own
        rw [← Option.some.inj hw] at flag
        have flag : isPlatformWallet = true := flag
        refine .inr ?_
        rw [Stmt.installs, if_pos flag]
        exact congrArg some own
      · exact .inl (isPlatform_iff.2 ⟨w, hw, flag⟩)
    · rw [Table.find_eq_none, not_not] at free
      rw [Stmt.apply, Table.insert, dif_pos free] at hw
      exact .inl (isPlatform_iff.2 ⟨w, hw, flag⟩)
  | markPlatformWallet k =>
    by_cases own : id = k
    · exact .inr (congrArg some own.symm)
    · rw [find_markPlatformWallet, if_neg own] at hw
      exact .inl (isPlatform_iff.2 ⟨w, hw, flag⟩)
  | updateWallet k balance heldBalance =>
    rw [Stmt.apply, Table.find_modify] at hw
    split at hw
    · obtain ⟨v, hv, rfl⟩ := Option.map_eq_some_iff.1 hw
      exact .inl (isPlatform_iff.2 ⟨v, hv, flag⟩)
    · exact .inl (isPlatform_iff.2 ⟨w, hw, flag⟩)
  | _ => exact .inl h

theorem isPlatform_of_applyAll {F : List Stmt} {d : Db} {id : Id} (h : (applyAll F d).IsPlatform id) :
    d.IsPlatform id ∨ ∃ s ∈ F, s.installs = some id := by
  induction F generalizing d with
  | nil => exact .inl h
  | cons s F ih =>
    obtain before | ⟨t, mem, installs⟩ := ih (d := s.apply d) h
    · obtain before | installs := isPlatform_of_apply before
      · exact .inl before
      · exact .inr ⟨s, List.mem_cons_self, installs⟩
    · exact .inr ⟨t, List.mem_cons_of_mem s mem, installs⟩

/-! ## What the operations commit -/

/-- The wallet belongs to an organization, or `S` opens it for one. -/
def Organized (d : Db) (S : List Stmt) (id : Id) : Prop :=
  (∃ w organization, d.wallets.find id = some w ∧ w.organizationId = some organization) ∨
    ∃ organization, .createWallet id none (some organization) false ∈ S

/-- The wallet is a platform wallet, or `S` opens it as one. -/
def Flagged (d : Db) (S : List Stmt) (id : Id) : Prop :=
  d.IsPlatform id ∨ .createWallet id none none true ∈ S

/-- The statement has nothing to do with wallets or pending payments. -/
def Stmt.plain : Stmt → Bool
  | .createRecord _ | .createReceipt _ => true
  | _ => false

/-- The transactions of the operations, in the state in which they commit. -/
inductive FeeTx (d : Db) : List Stmt → Prop where
  | plain {F : List Stmt} (h : ∀ s ∈ F, s.plain = true) : FeeTx d F
  | create (id : Id) : FeeTx d [.createWallet id none none true, .createLedgerAccount (.wallet id),
      .linkWallet id, .createRecord .activityLog]
  | mark (id : Id) (w : Wallet) (found : d.wallets.find id = some w) (legacy : w.organizationId = none) :
    FeeTx d [.markPlatformWallet id]
  | complete (p : PendingPayment) (c : Collection) (amountInKobo : Int) (o : Wallet)
      (platform : Option Wallet) (base : Int) (S due : List Stmt) (new : NewCompletion)
      (opens : ∀ s ∈ S, OpensApart s) (organization : Organized d S o.id)
      (flagged : ∀ w ∈ platform, Flagged d S w.id) (charged : platform.isSome ↔ 0 < platformFee p)
      (paid : DuePaid new.paymentId p.amount due) :
    FeeTx d (S ++ creditWrites p c amountInKobo o platform base due new)

theorem WalletsStay.organized {d d' : Db} (h : WalletsStay d d') {S S' : List Stmt} {id : Id}
    (hS : Organized d S id) : Organized d' (S ++ S') id := by
  obtain ⟨w, organization, hw, ho⟩ | ⟨organization, mem⟩ := hS
  · obtain ⟨w', hw', same, -⟩ := h id w hw
    exact .inl ⟨w', organization, hw', same.trans ho⟩
  · exact .inr ⟨organization, List.mem_append_left _ mem⟩

theorem WalletsStay.flagged {d d' : Db} (h : WalletsStay d d') {S S' : List Stmt} {id : Id}
    (hS : Flagged d S id) : Flagged d' (S ++ S') id :=
  hS.imp h.isPlatform (List.mem_append_left _)

/-- What was committed on a reading can be committed later. -/
theorem WalletsStay.feeTx {d d' : Db} (h : WalletsStay d d') {F : List Stmt} (hF : FeeTx d F) : FeeTx d' F := by
  cases hF with
  | plain hF => exact .plain hF
  | create id => exact .create id
  | mark id w found legacy =>
    obtain ⟨w', found', same, -⟩ := h id w found
    exact .mark id w' found' (same.trans legacy)
  | complete p c amountInKobo o platform base S due new opens organization flagged charged paid =>
    refine .complete p c amountInKobo o platform base S due new opens ?_ (fun w hw => ?_) charged paid
    · have kept : Organized d' (S ++ []) _ := h.organized organization
      rwa [List.append_nil] at kept
    · have kept : Flagged d' (S ++ []) w.id := h.flagged (flagged w hw)
      rwa [List.append_nil] at kept

theorem guarded_walletsStay (P : FinanceEvent → Prop) : Guarded WalletsStay P :=
  ⟨walletsStay_refl, WalletsStay.trans, fun _ _ => walletsStay_applyAll _ _⟩

section Operations

variable {α : Type} {d : Db} {S : List Stmt} {G : Db → α → List Stmt → Prop}

theorem adds_openWallet_apart (newId : Id) {organizationId : Option Id} {isPlatformWallet : Bool}
    (apart : isPlatformWallet = true → organizationId = none) :
    Adds (fun _ => False) (openWallet newId organizationId isPlatformWallet) fun w S => w.id = newId ∧
      .createWallet newId none organizationId isPlatformWallet ∈ S ∧ ∀ s ∈ S, OpensApart s ∧
        (isPlatformWallet = false → s.installs = none) := by
  refine .exec_bind <| .exec_bind <| .exec_bind <| .query_bind fun d => ?_
  refine .of_makes (Makes.orThrow (S := fun w => w.id = newId) fun w hw =>
    Table.find_key (t := d.wallets) hw) fun w hw => ?_
  refine ⟨hw, List.mem_cons_self, ?_⟩
  intro s mem
  simp only [List.mem_cons, List.not_mem_nil, or_false] at mem
  obtain rfl | rfl | rfl := mem
  · refine ⟨apart, fun other => ?_⟩
    rw [other]
    rfl
  · exact ⟨trivial, fun _ => rfl⟩
  · exact ⟨trivial, fun _ => rfl⟩

/-- The wallet of the organization, found or opened. -/
theorem prepares_organizationWallet {organizationId newId : Id} {f : Wallet → Action α}
    (hf : ∀ d' o S, WalletsStay d d' → Organized d' S o.id →
      (∀ s ∈ S, OpensApart s ∧ s.installs = none) →
      Prepares WalletsStay d' S (f o) G) :
    Prepares WalletsStay d [] ((organizationWallet organizationId newId).bind f) G := by
  unfold organizationWallet
  rw [Prog.bind_eq, Prog.bind_assoc]
  refine .query_bind (guarded_walletsStay _) fun d' stays => ?_
  rw [applyAll_nil]
  cases found : d'.wallets.findFirst fun w => w.organizationId = some organizationId with
  | some o =>
    have owns : o.organizationId = some organizationId := by simpa using List.find?_some found
    have row := Table.find_of_mem (List.mem_of_find?_eq_some found)
    exact hf d' o [] stays (.inl ⟨o, organizationId, row, owns⟩) fun _ mem => (List.not_mem_nil mem).elim
  | none =>
    refine .adds_bind (guarded_walletsStay _) (adds_openWallet_apart newId fun h => by cases h) ?_
    rintro d'' o S stays' ⟨rfl, opened, opens⟩
    exact hf d'' o S (stays.trans stays') (.inr ⟨organizationId, opened⟩) fun s mem =>
      ⟨(opens s mem).1, (opens s mem).2 rfl⟩

/-- The platform wallet, found or, for a fee, opened. -/
theorem prepares_platformWallet {fee : Int} {newId : Id} {f : Option Wallet → Action α}
    (fresh : ∀ s ∈ S, s.installs = none) (hf : ∀ d' platform S', WalletsStay d d' →
      (∀ w ∈ platform, Flagged d' (S ++ S') w.id) → (0 < fee → platform.isSome = true) →
      (∀ s ∈ S', OpensApart s) → Prepares WalletsStay d' (S ++ S') (f platform) G) :
    Prepares WalletsStay d S ((BachsService.platformWallet fee newId).bind f) G := by
  unfold BachsService.platformWallet
  rw [Prog.bind_eq, Prog.bind_assoc]
  refine .query_bind (guarded_walletsStay _) fun d' stays => ?_
  cases found : (applyAll S d').wallets.findFirst Wallet.isPlatformWallet with
  | some w =>
    refine (List.append_nil S ▸ hf d' (some w) [] stays (fun v hv => .inl ?_) (fun _ => rfl)
      fun _ mem => (List.not_mem_nil mem).elim : Prepares WalletsStay d' S (f (some w)) G)
    rw [← Option.some.inj hv]
    have row := Table.find_of_mem (List.mem_of_find?_eq_some found)
    have flag := List.find?_some found
    obtain before | ⟨s, mem, installs⟩ := isPlatform_of_applyAll (isPlatform_iff.2 ⟨w, row, flag⟩)
    · exact before
    · rw [fresh s mem] at installs
      cases installs
  | none =>
    dsimp only
    split
    · rw [Prog.bind_eq, Prog.bind_assoc]
      refine .adds_bind (guarded_walletsStay _) (adds_openWallet_apart newId fun _ => rfl) ?_
      rintro d'' w S' stays' ⟨rfl, opened, opens⟩
      refine hf d'' (some w) S' (stays.trans stays') (fun v hv => .inr ?_) (fun _ => rfl)
        fun s mem => (opens s mem).1
      rw [← Option.some.inj hv]
      exact List.mem_append_right S opened
    · rename_i free
      refine (List.append_nil S ▸ hf d' none [] stays (fun v hv => ?_) (fun fee => (free fee).elim)
        fun _ mem => (List.not_mem_nil mem).elim : Prepares WalletsStay d' S (f none) G)
      cases hv

theorem adds_clearingAccount_apart : Adds (fun _ => False) clearingAccount fun a S =>
    a.id = .system .bachsSettlement ∧ ∀ s ∈ S, OpensApart s := by
  refine .query_bind fun d => ?_
  cases found : d.ledgerAccounts.find (.system .bachsSettlement) with
  | some a => exact .ret ⟨Table.find_key (t := d.ledgerAccounts) found, by simp⟩
  | none => exact .exec_bind <| .ret ⟨rfl, by simp [OpensApart]⟩

theorem prepares_settlePayment (p : PendingPayment) (c : Collection) (new : NewCompletion) :
    Prepares WalletsStay d [] (settlePayment p c new) fun d _ F => FeeTx d F := by
  have guarded := guarded_walletsStay fun _ => False
  unfold settlePayment
  refine .ensure_bind guarded fun _ => .orThrow_bind guarded fun amountInKobo _ => ?_
  refine .ensure_bind guarded fun _ => .ensure_bind guarded fun _ => ?_
  refine prepares_organizationWallet fun d o S stays organization opens => ?_
  refine .ensure_bind guarded fun _ => ?_
  refine prepares_platformWallet (fun s mem => (opens s mem).2) fun d' platform S' stays' flagged fee opens' => ?_
  refine .ensure_bind guarded fun _ => ?_
  refine .adds_bind guarded adds_clearingAccount_apart ?_
  rintro d'' clearing S'' stays'' ⟨account, opens''⟩
  refine .adds_bind guarded (adds_creditPayment _ _ _ _ _ _ _ account) ?_
  rintro d₃ _ F stays₃ ⟨due, paid, rfl⟩
  have later := stays''.trans stays₃
  refine .ret guarded (.complete p c amountInKobo o _ clearing.balance (S ++ S' ++ S'') due new ?_ ?_ ?_ ?_ paid)
  · intro s mem
    simp only [List.mem_append] at mem
    obtain (mem | mem) | mem := mem
    · exact (opens s mem).1
    · exact opens' s mem
    · exact opens'' s mem
  · rw [List.append_assoc]
    exact (stays'.trans later).organized organization
  · intro w mem
    exact later.flagged (flagged w (Option.mem_filter_iff.1 mem).1)
  · by_cases pos : 0 < platformFee p
    · obtain ⟨w, rfl⟩ := Option.isSome_iff_exists.1 (fee pos)
      simp [pos]
    · cases platform <;> simp [pos]

theorem prepares_completionTransaction (c : Collection) (new : NewCompletion) :
    Prepares WalletsStay d [] (completionTransaction c new) fun d _ F => FeeTx d F := by
  have guarded := guarded_walletsStay fun _ => False
  unfold completionTransaction
  refine .query_bind guarded fun d _ => .orThrow_bind guarded fun p _ => .query_bind guarded fun d' _ => ?_
  cases (applyAll [] d').payments.findFirst fun q => q.reference = p.reference with
  | some payment => exact .query_bind guarded fun _ _ => .ret guarded (.plain fun _ mem => (List.not_mem_nil mem).elim)
  | none => exact prepares_settlePayment p c new

/-- A transaction of which the state, when it commits, may be later than the one it has seen. -/
theorem upholds_transaction {body : Action α} (hbody : Prepares WalletsStay d [] body fun d _ F => FeeTx d F) :
    Upholds WalletsStay FeeTx d (transaction body) fun _ _ => True :=
  .transaction (guarded_walletsStay _) hbody fun _ _ _ F _ later tx _ =>
    ⟨later.feeTx tx, walletsStay_applyAll F _, trivial⟩

theorem feeTx_nil (d : Db) : FeeTx d [] := .plain fun _ mem => (List.not_mem_nil mem).elim

theorem upholds_outside (f : Db → α) : Upholds WalletsStay FeeTx d (outside f : Action α) fun _ _ => True :=
  .outside (guarded_walletsStay _) feeTx_nil fun _ _ _ _ => trivial

/-- Calls, readings, audit records and receipts have nothing to do with wallets. -/
theorem upholds_plain {T : List Stmt → Prop} {S : α → Prop} {p : Action α} (hp : Makes (Emits Quiet T) p S)
    (hT : ∀ F, T F → ∀ s ∈ F, s.plain = true) : Upholds WalletsStay FeeTx d p fun _ => S := by
  refine .of_makes hp (guarded_walletsStay _) fun nested F d made => ?_
  cases made with
  | tx _ own => exact .plain (hT F own)
  | base quiet =>
    cases quiet with
    | read => exact feeTx_nil d
    | record _ t => exact .plain fun s mem => by rw [List.mem_singleton.1 mem]; rfl

theorem upholds_initializePlatformWallet (newId : Id) :
    Upholds WalletsStay FeeTx d (WalletService.initializePlatformWallet newId) fun _ _ => True := by
  have guarded := guarded_walletsStay fun _ => False
  unfold WalletService.initializePlatformWallet
  refine .bind guarded (upholds_outside _) fun d existingWallet _ _ => ?_
  cases existingWallet with
  | some w => exact .ret guarded trivial
  | none =>
    refine .bind guarded (S := fun d o => ∀ w ∈ o, ∃ v, d.wallets.find w.id = some v ∧ v.organizationId = none)
      (.outside guarded feeTx_nil fun d₀ d₁ _ stays w found => ?_) fun d₁ legacyWallet _ legacy => ?_
    · have unowned : isLegacyWallet w = true := List.find?_some found
      have row := Table.find_of_mem (List.mem_of_find?_eq_some found)
      obtain ⟨v, hv, same, -⟩ := stays w.id w row
      simp only [isLegacyWallet, Bool.and_eq_true, Option.isNone_iff_eq_none] at unowned
      exact ⟨v, hv, same.trans unowned.1.2⟩
    · cases legacyWallet with
      | some w =>
        obtain ⟨v, hv, none⟩ := legacy w rfl
        refine upholds_transaction (.adds_bind guarded (.exec (T := fun _ F => F = [.markPlatformWallet w.id]) rfl) ?_)
        rintro d₂ - F stays rfl
        obtain ⟨v', hv', same, -⟩ := stays w.id v hv
        refine .query_bind guarded fun d₃ stays' => .ret guarded (stays'.feeTx ?_)
        exact .mark w.id v' hv' (same.trans none)
      | none =>
        refine upholds_transaction (.of_adds guarded (H := fun _ F => F = [.createWallet newId none none true,
          .createLedgerAccount (.wallet newId), .linkWallet newId, .createRecord .activityLog]) ?_ ?_)
        · exact .exec_bind <| .exec_bind <| .exec_bind <| .exec_bind <| .query fun _ => rfl
        · rintro d₂ - F - rfl
          exact .create newId

theorem upholds_getOrCreatePlatformWallet (newId : Id) :
    Upholds WalletsStay FeeTx d (WalletService.getOrCreatePlatformWallet newId) fun _ _ => True := by
  have guarded := guarded_walletsStay fun _ => False
  have none (F : List Stmt) (h : False) : ∀ s ∈ F, s.plain = true := h.elim
  unfold WalletService.getOrCreatePlatformWallet
  refine .bind guarded (upholds_plain (makes_get _) none) fun d cached _ _ => ?_
  cases cached with
  | some w => exact .ret guarded trivial
  | none =>
    refine .bind guarded (upholds_outside _) fun d found _ _ => ?_
    have wallet : Upholds WalletsStay FeeTx d (getOrCreatePlatformWallet.initializeUnless newId found) fun _ _ => True := by
      cases found with
      | some w => exact .ret guarded trivial
      | none => exact upholds_initializePlatformWallet newId
    refine .bind guarded wallet fun d w _ _ => ?_
    refine .bind guarded (upholds_plain (.whenSome fun w _ => makes_setWithTag _ w) none) fun d _ _ _ => ?_
    exact .ret guarded trivial

theorem upholds_completePayment (c : Collection) (new : NewCompletion) :
    Upholds WalletsStay FeeTx d (BachsService.completePayment c new) fun _ _ => True := by
  have guarded := guarded_walletsStay fun _ => False
  unfold BachsService.completePayment
  refine .bind guarded (.onThrow guarded (upholds_transaction (prepares_completionTransaction c new))
    fun _ _ _ => .throw guarded _) fun d result _ _ => ?_
  have rest : Makes (Emits Quiet (ReceiptTx result.payment.id new.receipt)) (do
      attempt do
        CacheService.delete (.organization result.payment.organizationId)
        CacheService.delete .platform
        CacheService.invalidateByTag
        CacheService.invalidateByTag
      when result.shouldGenerateReceipt
        (handlePaymentCompletedViaBachs result.payment.id result.payment.payerId new.receipt)) fun _ => True := by
    refine Makes.bind (S := fun _ => True) (.attempt ?_) fun _ _ => .when fun _ => makes_receipt fun _ h => h
    refine (makes_request (c := Call.cacheDelete _) fun _ _ h => by cases h).bind fun _ _ => ?_
    refine (makes_request (c := Call.cacheDelete _) fun _ _ h => by cases h).bind fun _ _ => ?_
    exact makes_invalidateByTag.bind fun _ _ => makes_invalidateByTag
  refine upholds_plain rest fun F receipt s mem => ?_
  cases receipt with
  | mk payment h =>
    rw [List.mem_singleton.1 mem]
    rfl

end Operations

/-! ## What a transaction leaves -/

section Transactions

variable {d : Db} {F S : List Stmt}

/-- A wallet that the statements open is there when they are done. -/
theorem find_of_opened {id : Id} {userId organizationId : Option Id} {isPlatformWallet : Bool}
    (opened : .createWallet id userId organizationId isPlatformWallet ∈ S) (valid : violation S d = none) :
    ∃ w, (applyAll S d).wallets.find id = some w ∧ w.organizationId = organizationId ∧
      (isPlatformWallet = true → w.isPlatformWallet = true) := by
  obtain ⟨A, B, rfl⟩ := List.append_of_mem opened
  obtain ⟨allowed, -⟩ := violation_cons.1 (violation_append.1 valid).2
  have free : (applyAll A d).wallets.find id = none := by
    simpa [Stmt.unique_eq_none] using (Option.or_eq_none_iff.1 allowed).1
  have row := Table.find_insert (r := ({ id, userId, organizationId, isPlatformWallet } : Wallet)) free id
  rw [if_pos rfl] at row
  rw [applyAll_append, applyAll_cons]
  obtain ⟨w, found, same, flag⟩ := walletsStay_applyAll B
    (Stmt.apply (.createWallet id userId organizationId isPlatformWallet) (applyAll A d)) id _ row
  exact ⟨w, found, same, flag⟩

theorem Organized.find {id : Id} (h : Organized d S id) (valid : violation S d = none) :
    ∃ w organization, (applyAll S d).wallets.find id = some w ∧ w.organizationId = some organization := by
  obtain ⟨w, organization, found, owns⟩ | ⟨organization, opened⟩ := h
  · obtain ⟨w', found', same, -⟩ := walletsStay_applyAll S d id w found
    exact ⟨w', organization, found', same.trans owns⟩
  · obtain ⟨w, found, owns, -⟩ := find_of_opened opened valid
    exact ⟨w, organization, found, owns⟩

theorem Flagged.isPlatform {id : Id} (h : Flagged d S id) (valid : violation S d = none) :
    (applyAll S d).IsPlatform id := by
  obtain before | opened := h
  · exact (walletsStay_applyAll S d).isPlatform before
  · obtain ⟨w, found, -, flag⟩ := find_of_opened opened valid
    exact isPlatform_iff.2 ⟨w, found, flag rfl⟩

/-- What the statements of a completion are, besides the one that completes its payment. -/
theorem mem_creditWrites {p : PendingPayment} {c : Collection} {amountInKobo : Int} {o : Wallet}
    {platform : Option Wallet} {base : Int} {due : List Stmt} {new : NewCompletion}
    (paid : DuePaid new.paymentId p.amount due) {s : Stmt}
    (mem : s ∈ creditWrites p c amountInKobo o platform base due new) :
    s.isCredit = true ∨ (∃ entry, s = .createJournalEntry entry) ∨ s = .updatePendingPayment p completed := by
  rw [creditWrites_eq] at mem
  simp only [List.mem_append, List.mem_cons, List.not_mem_nil, or_false] at mem
  obtain before | rfl | link | rfl | rfl := mem
  · exact .inl (isCredit_creditBefore p c _ o platform base new s before)
  · exact .inr (.inl ⟨_, rfl⟩)
  · exact .inl (isCredit_creditLinks paid new s link)
  · exact .inr (.inr rfl)
  · exact .inl rfl

theorem chargedFees_append (F G : List Stmt) : chargedFees (F ++ G) = chargedFees F + chargedFees G := by
  unfold chargedFees
  rw [List.map_append, List.sum_append]

theorem chargedFees_eq_zero (h : ∀ s ∈ F, s.chargedFee = 0) : chargedFees F = 0 := by
  unfold chargedFees
  rw [List.map_congr_left h]
  simp

theorem chargedFee_of_isCredit {s : Stmt} (h : s.isCredit = true) : s.chargedFee = 0 := by
  cases s <;> first | rfl | cases h

theorem chargedFee_of_opensApart {s : Stmt} (h : OpensApart s) : s.chargedFee = 0 := by
  cases s <;> first | rfl | exact h.elim

theorem chargedFees_creditWrites (p : PendingPayment) (c : Collection) (amountInKobo : Int) (o : Wallet)
    (platform : Option Wallet) (base : Int) {due : List Stmt} (new : NewCompletion)
    (paid : DuePaid new.paymentId p.amount due) :
    chargedFees (creditWrites p c amountInKobo o platform base due new) = max 0 (platformFee p) := by
  have before : chargedFees (creditBefore p c amountInKobo o platform base new) = 0 :=
    chargedFees_eq_zero fun s mem => chargedFee_of_isCredit (isCredit_creditBefore p c _ o platform base new s mem)
  have links : chargedFees (creditLinks due new) = 0 :=
    chargedFees_eq_zero fun s mem => chargedFee_of_isCredit (isCredit_creditLinks paid new s mem)
  have rest : chargedFees [.updatePendingPayment p completed, .createRecord .activityLog] = max 0 (platformFee p) := by
    simp [chargedFees, Stmt.chargedFee, completed]
  rw [creditWrites_eq, chargedFees_append, before, zero_add]
  change chargedFees ([.createJournalEntry _] ++ (creditLinks due new ++ _)) = _
  rw [chargedFees_append, chargedFees_append, links, rest, zero_add]
  exact zero_add _

theorem creditsFee_creditWrites (p : PendingPayment) (c : Collection) (amountInKobo : Int) (o w : Wallet)
    (base : Int) (S due : List Stmt) (new : NewCompletion) :
    CreditsFee (S ++ creditWrites p c amountInKobo o (some w) base due new) (platformFee p) w.id where
  wallet := ⟨w.balance, by simp [creditWrites, moveWallet]⟩
  account := ⟨w.balance, by simp [creditWrites, moveWallet, Wallet.ledgerAccountId]⟩
  journal := ⟨journalEntryRow p c o (some w) amountInKobo new, by simp [creditWrites],
    by simp [journalEntryRow, Wallet.ledgerAccountId]⟩

theorem apart_of_mark {id : Id} {w : Wallet} (found : d.wallets.find id = some w) (legacy : w.organizationId = none)
    (apart : PlatformApart d) : PlatformApart ((Stmt.markPlatformWallet id).apply d) := by
  intro v mem platform
  have row := Table.find_of_mem mem
  rw [find_markPlatformWallet] at row
  split at row
  · rename_i own
    obtain ⟨u, hu, rfl⟩ := Option.map_eq_some_iff.1 row
    rw [own, found] at hu
    rw [← Option.some.inj hu]
    exact legacy
  · exact apart v (Table.find_mem row) platform

theorem FeeTx.apart (tx : FeeTx d F) (apart : PlatformApart d) : PlatformApart (applyAll F d) := by
  cases tx with
  | plain h =>
    refine apart_applyAll (fun s mem => ?_) apart
    have plain := h s mem
    cases s <;> first | exact trivial | cases plain
  | create id =>
    refine apart_applyAll (fun s mem => ?_) apart
    simp only [List.mem_cons, List.not_mem_nil, or_false] at mem
    obtain rfl | rfl | rfl | rfl := mem
    · exact fun _ => rfl
    all_goals exact trivial
  | mark id w found legacy => exact apart_of_mark found legacy apart
  | complete p c amountInKobo o platform base S due new opens organization flagged charged paid =>
    refine apart_applyAll (fun s mem => ?_) apart
    obtain mem | mem := List.mem_append.1 mem
    · exact keepsApart_of_opensApart (opens s mem)
    · obtain credit | ⟨entry, rfl⟩ | rfl := mem_creditWrites paid mem
      · exact (leaves_of_isCredit credit).2.2
      · exact trivial
      · exact trivial

/-- A fee is credited to a platform wallet. -/
theorem FeeTx.credited (tx : FeeTx d F) (valid : violation F d = none) {p : PendingPayment}
    {patch : PendingPaymentPatch} (mem : .updatePendingPayment p patch ∈ F) (pos : 0 < platformFee p) :
    ∃ id, (applyAll F d).IsPlatform id ∧ CreditsFee F (platformFee p) id := by
  cases tx with
  | plain h => cases h _ mem
  | create id => simp at mem
  | mark id w found legacy => simp at mem
  | complete q c amountInKobo o platform base S due new opens organization flagged charged paid =>
    obtain opened | mem := List.mem_append.1 mem
    · exact (opens _ opened).elim
    · obtain credit | ⟨entry, other⟩ | own := mem_creditWrites paid mem
      · cases credit
      · cases other
      · obtain ⟨rfl, -⟩ := Stmt.updatePendingPayment.inj own
        obtain ⟨w, rfl⟩ := Option.isSome_iff_exists.1 (charged.2 pos)
        refine ⟨w.id, ?_, creditsFee_creditWrites p c amountInKobo o w base S due new⟩
        rw [applyAll_append]
        exact (walletsStay_applyAll _ _).isPlatform ((flagged w rfl).isPlatform (violation_append.1 valid).1)

/-- The balance of a wallet without organization moves by the fees if it is the platform's,
and else not at all. -/
theorem FeeTx.delta (tx : FeeTx d F) (valid : violation F d = none) (one : (applyAll F d).OnePlatform) {id : Id}
    {w : Wallet} (found : (applyAll F d).wallets.find id = some w) (unowned : w.organizationId = none) :
    delta Db F (.balance id) = if w.isPlatformWallet = true then chargedFees F else 0 := by
  have still {F : List Stmt} (h : ∀ s ∈ F, s.cols = [] ∧ s.chargedFee = 0) (col : Col) :
      Database.delta Db F col = if w.isPlatformWallet = true then chargedFees F else 0 := by
    rw [MovesNothing.delta fun s mem => (h s mem).1, chargedFees_eq_zero fun s mem => (h s mem).2, ite_self]
    rfl
  cases tx with
  | plain h =>
    refine still (fun s mem => ?_) _
    have plain := h s mem
    cases s <;> first | exact ⟨rfl, rfl⟩ | cases plain
  | create j => exact still (by simp [Stmt.cols, Stmt.chargedFee]) _
  | mark j v _ _ => exact still (by simp [Stmt.cols, Stmt.chargedFee]) _
  | complete p c amountInKobo o platform base S due new opens organization flagged charged paid =>
    obtain ⟨validS, -⟩ := violation_append.1 valid
    have later := walletsStay_applyAll (creditWrites p c amountInKobo o platform base due new) (applyAll S d)
    rw [← applyAll_append] at later
    have other : id ≠ o.id := by
      rintro rfl
      obtain ⟨v, org, hv, owns⟩ := organization.find validS
      obtain ⟨v', hv', same, -⟩ := later _ v hv
      rw [found, Option.some.injEq] at hv'
      rw [← hv', unowned, owns] at same
      cases same
    have opened : Database.delta Db S (.balance id) = 0 := by
      rw [MovesNothing.delta fun s mem => ?_]
      · rfl
      · have apart := opens s mem
        cases s <;> first | rfl | exact apart.elim
    have fees : chargedFees S = 0 := chargedFees_eq_zero fun s mem => chargedFee_of_opensApart (opens s mem)
    rw [delta_append, opened, zero_add, delta_creditWrites p c _ o platform base new paid, chargedFees_append, fees,
      zero_add, chargedFees_creditWrites p c _ o platform base new paid]
    cases platform with
    | none =>
      have free : max 0 (platformFee p) = 0 := max_eq_left (not_lt.1 fun pos => by simpa using charged.2 pos)
      simp [onWallet, onSystem, other, free]
    | some v =>
      have marked : (applyAll (S ++ creditWrites p c amountInKobo o (some v) base due new) d).IsPlatform v.id :=
        later.isPlatform ((flagged v rfl).isPlatform validS)
      have pos : 0 < platformFee p := charged.1 rfl
      by_cases flag : w.isPlatformWallet = true
      · have same : id = v.id := one _ _ (isPlatform_iff.2 ⟨w, found, flag⟩) marked
        have apart : v.id ≠ o.id := same ▸ other
        simp [onWallet, onSystem, same, flag, apart, pos.le]
      · have apart : id ≠ v.id := by
          rintro rfl
          obtain ⟨u, hu, flag'⟩ := isPlatform_iff.1 marked
          rw [found, Option.some.injEq] at hu
          exact flag (hu ▸ flag')
        simp [onWallet, onSystem, other, apart, flag]

end Transactions

/-! ## The runs -/

/-- Each statement that makes a platform wallet finds none. -/
def InstallsAlone : List Stmt → Db → Prop
  | [], _ => True
  | s :: F, d =>
    (s.installs.isSome = true → d.wallets.findFirst Wallet.isPlatformWallet = none) ∧ InstallsAlone F (s.apply d)

instance : (F : List Stmt) → (d : Db) → Decidable (InstallsAlone F d)
  | [], _ => isTrue trivial
  | s :: F, d => @instDecidableAnd _ _ _ (instDecidableInstallsAlone F (s.apply d))

/-- A commit that makes a platform wallet finds none. -/
def OpensNoSecond (c : System) : Effect Stmt Call → Prop
  | .commit _ _ F => InstallsAlone F c.db
  | _ => True

instance (c : System) : (eff : Effect Stmt Call) → Decidable (OpensNoSecond c eff)
  | .commit _ _ F => inferInstanceAs (Decidable (InstallsAlone F c.db))
  | .internal | .fault _ | .called .. | .unsent .. => inferInstanceAs (Decidable True)

section Runs

variable {db d : Db} {log : Log} {F : List Stmt}

theorem not_isPlatform_of_findFirst (h : d.wallets.findFirst Wallet.isPlatformWallet = none) (id : Id) :
    ¬d.IsPlatform id := by
  intro platform
  obtain ⟨w, found, flag⟩ := isPlatform_iff.1 platform
  exact List.find?_eq_none.1 h w (Table.find_mem found) flag

/-- Statements that make a platform wallet alone found none. -/
theorem InstallsAlone.none (alone : InstallsAlone F d) {s : Stmt} (mem : s ∈ F) (installs : s.installs.isSome = true)
    (id : Id) : ¬d.IsPlatform id := by
  induction F generalizing d with
  | nil => cases mem
  | cons t F ih =>
    obtain rfl | mem := List.mem_cons.1 mem
    · exact not_isPlatform_of_findFirst (alone.1 installs) id
    · exact fun before => ih alone.2 mem ((walletsStay_apply t d).isPlatform before)

theorem InstallsAlone.onePlatform (alone : InstallsAlone F d) (one : d.OnePlatform) : (applyAll F d).OnePlatform := by
  induction F generalizing d with
  | nil => exact one
  | cons s F ih =>
    refine ih alone.2 fun i j hi hj => ?_
    obtain beforeI | ofI := isPlatform_of_apply hi
    · obtain beforeJ | ofJ := isPlatform_of_apply hj
      · exact one i j beforeI beforeJ
      · exact (not_isPlatform_of_findFirst (alone.1 (ofJ ▸ rfl)) i beforeI).elim
    · obtain beforeJ | ofJ := isPlatform_of_apply hj
      · exact (not_isPlatform_of_findFirst (alone.1 (ofI ▸ rfl)) j beforeJ).elim
      · rw [ofI] at ofJ
        exact Option.some.inj ofJ

/-- Every fee so far was credited to a platform wallet. -/
def AllCredited (d : Db) (log : Log) : Prop :=
  ∀ e ∈ log, ∀ p patch, .updatePendingPayment p patch ∈ e.writes → patch.status = .completed →
    0 < platformFee p → ∃ id, d.IsPlatform id ∧ CreditsFee e.writes (platformFee p) id

/-- What a balance has moved by since the state `db`, for the wallets without organization. -/
def FeesCounted (db d : Db) (log : Log) : Prop :=
  ∀ id w, d.wallets.find id = some w → w.organizationId = none → Unspoiled log id →
    d.value (.balance id) = db.value (.balance id) +
      if w.isPlatformWallet = true then collectedFees log else 0

theorem collectedFees_append (i : Nat) :
    collectedFees (log ++ [⟨i, F, d⟩]) = collectedFees log + chargedFees F := by
  unfold collectedFees
  rw [List.map_append, List.sum_append, List.map_singleton, List.sum_singleton]

theorem AllCredited.step (credited : AllCredited d log) (tx : FeeTx d F) (valid : violation F d = none) (i : Nat) :
    AllCredited (applyAll F d) (log ++ [⟨i, F, d⟩]) := by
  intro e mem p patch update completes pos
  obtain mem | mem := List.mem_append.1 mem
  · obtain ⟨id, platform, credits⟩ := credited e mem p patch update completes pos
    exact ⟨id, (walletsStay_applyAll F d).isPlatform platform, credits⟩
  · rw [List.mem_singleton.1 mem] at update ⊢
    exact tx.credited valid update pos

/-- Without a platform wallet no fee was charged. -/
theorem AllCredited.sum_eq_zero (credited : AllCredited d log) (none : ∀ id, ¬d.IsPlatform id) :
    collectedFees log = 0 := by
  refine List.sum_eq_zero fun x mem => ?_
  obtain ⟨e, he, rfl⟩ := List.mem_map.1 mem
  refine chargedFees_eq_zero fun s hs => ?_
  cases s with
  | updatePendingPayment p patch =>
    by_cases completes : patch.status = .completed
    · refine (if_pos completes).trans (max_eq_left (not_lt.1 fun pos => ?_))
      obtain ⟨id, platform, -⟩ := credited e he p patch hs completes pos
      exact none id platform
    · exact if_neg completes
  | _ => rfl

theorem FeesCounted.step (stay : WalletsStay db d) (credited : AllCredited d log) (counted : FeesCounted db d log)
    (tx : FeeTx d F) (valid : violation F d = none) (alone : InstallsAlone F d)
    (one : (applyAll F d).OnePlatform) (i : Nat) : FeesCounted db (applyAll F d) (log ++ [⟨i, F, d⟩]) := by
  intro id w found unowned unspoiled
  have fresh : Fresh Db (.balance id) F (d.value (.balance id)) :=
    unspoiled ⟨i, F, d⟩ (List.mem_append_right log List.mem_cons_self)
  have moved : (applyAll F d).value (.balance id) = d.value (.balance id) +
      if w.isPlatformWallet = true then chargedFees F else 0 := by
    rw [← tx.delta valid one found unowned, ← valueAfter_of_fresh fresh]
    exact value_applyAll valid (Col.balance id)
  rw [moved, collectedFees_append]
  cases before : d.wallets.find id with
  | none =>
    have missing : d.value (.balance id) = 0 := by simp [Db.value, before]
    have never : db.value (.balance id) = 0 := by
      cases first : db.wallets.find id with
      | none => simp [Db.value, first]
      | some v =>
        obtain ⟨v', there, -⟩ := stay id v first
        rw [before] at there
        cases there
    rw [missing, never]
    by_cases flag : w.isPlatformWallet = true
    · have new : ∃ s ∈ F, s.installs = some id := by
        obtain old | new := isPlatform_of_applyAll (isPlatform_iff.2 ⟨w, found, flag⟩)
        · obtain ⟨v, there, -⟩ := isPlatform_iff.1 old
          rw [before] at there
          cases there
        · exact new
      obtain ⟨s, mem, installs⟩ := new
      rw [if_pos flag, if_pos flag, credited.sum_eq_zero (alone.none mem (installs ▸ rfl)), zero_add, zero_add]
    · rw [if_neg flag, if_neg flag]
  | some v =>
    obtain ⟨w', found', same, stays⟩ := walletsStay_applyAll F d id v before
    rw [found, Option.some.injEq] at found'
    subst found'
    have was := counted id v before (same.symm.trans unowned) fun e mem => unspoiled e (List.mem_append_left _ mem)
    rw [was]
    by_cases flag : w.isPlatformWallet = true
    · rw [if_pos flag, if_pos flag]
      by_cases old : v.isPlatformWallet = true
      · rw [if_pos old, add_assoc]
      · have new : ∃ s ∈ F, s.installs = some id := by
          obtain platform | new := isPlatform_of_applyAll (isPlatform_iff.2 ⟨w, found, flag⟩)
          · obtain ⟨u, there, flag'⟩ := isPlatform_iff.1 platform
            rw [before, Option.some.injEq] at there
            exact (old (there ▸ flag')).elim
          · exact new
        obtain ⟨s, mem, installs⟩ := new
        rw [if_neg old, credited.sum_eq_zero (alone.none mem (installs ▸ rfl)), add_zero, zero_add]
    · have old : ¬v.isPlatformWallet = true := fun h => flag (stays h)
      rw [if_neg flag, if_neg flag, if_neg old, add_zero]

theorem upholds_program (op : PlatformOp) : Upholds WalletsStay FeeTx d op.program fun _ _ => True := by
  have guarded := guarded_walletsStay fun _ => False
  cases op with
  | initializePlatformWallet newId =>
    exact .bind guarded (upholds_initializePlatformWallet newId) fun _ _ _ _ => .ret guarded trivial
  | getOrCreatePlatformWallet newId =>
    exact .bind guarded (upholds_getOrCreatePlatformWallet newId) fun _ _ _ _ => .ret guarded trivial
  | completePayment collection new => exact upholds_completePayment collection new

/-- **One platform wallet takes all fees**, in every state of a run from a state without one,
where each commit that makes a platform wallet finds none. -/
theorem single_platform_wallet {ext : Services} {ops : List PlatformOp} {c : System}
    (none : ∀ id, ¬db.IsPlatform id)
    (run : Reaches OpensNoSecond (Config.start db ext (ops.map PlatformOp.program)) c) :
    SinglePlatformWallet db c.db c.log := by
  have kept : WalletsStay db c.db ∧ PlatformApart c.db ∧ c.db.OnePlatform ∧ AllCredited c.db c.log ∧
      FeesCounted db c.db c.log := by
    refine run.induct_of_upholds (Ψ := fun _ => FeeTx) walletsStay_refl WalletsStay.trans ?_
      (fun d log => WalletsStay db d ∧ PlatformApart d ∧ d.OnePlatform ∧ AllCredited d log ∧ FeesCounted db d log)
      ?_ ?_
    · intro i p hp
      rw [List.getElem?_map, Option.map_eq_some_iff] at hp
      obtain ⟨op, -, rfl⟩ := hp
      exact upholds_program op
    · refine ⟨walletsStay_refl db, fun w mem flag => ?_, fun i _ platform => (none i platform).elim,
        fun _ mem => (List.not_mem_nil mem).elim, fun id w found _ _ => ?_⟩
      · exact (none _ (isPlatform_iff.2 ⟨w, Table.find_of_mem mem, flag⟩)).elim
      · rw [show collectedFees [] = 0 from rfl, ite_self, add_zero]
    · rintro c i nested F tx valid alone ⟨stay, apart, one, credited, counted⟩
      have after := InstallsAlone.onePlatform alone one
      exact ⟨walletsStay_applyAll F c.db, stay.trans (walletsStay_applyAll F c.db), tx.apart apart, after,
        credited.step tx valid i, counted.step stay credited tx valid alone after i⟩
  obtain ⟨-, apart, one, credited, counted⟩ := kept
  refine ⟨one, credited, fun id platform unspoiled => ?_⟩
  obtain ⟨w, found, flag⟩ := isPlatform_iff.1 platform
  have total := counted id w found (apart w (Table.find_mem found) flag) unspoiled
  rwa [if_pos flag] at total

end Runs

/-- A pending payment with a fee. -/
def feePayment : PendingPayment where
  id := .ofNat 3
  userId := .ofNat 1
  organizationId := .ofNat 2
  amount := 1000
  reference := "PAY_1"
  bachsCheckoutId := some "c"
  metadata := { platformFee := some 50 }

/-- The payment is pending, and there is no wallet yet. -/
def beforeWallets : Db where
  users := [.ofNat 1]
  organizations := [{ id := .ofNat 2 }]
  pendingPayments := ⟨[feePayment], by decide⟩

/-- The start of the service, and the completion of the payment. -/
def startupAndPayment : List PlatformOp :=
  [.initializePlatformWallet (.ofNat 4),
    .completePayment { checkoutId := "c", chargeId := "ch", amountInBachs := some (21 / 2) }
      ⟨.ofNat 5, .ofNat 6, .ofNat 7, .ofNat 8, .ofNat 9, .ofNat 10, ⟨.ofNat 11, "R"⟩⟩]

theorem beforeWallets_none (id : Id) : ¬beforeWallets.IsPlatform id := by
  intro platform
  cases platform

/-- The service starts, and then the payment is completed: its fee is in the platform wallet. -/
theorem startup_then_payment : (∀ id, ¬beforeWallets.IsPlatform id) ∧
    ∃ c : System, Reaches OpensNoSecond
      (Config.start beforeWallets ({} : Services) (startupAndPayment.map PlatformOp.program)) c ∧
    c.threads.map Thread.returned = [true, true] ∧ c.db.value (.balance (.ofNat 4)) = 50 ∧
    SinglePlatformWallet beforeWallets c.db c.log := by
  refine ⟨beforeWallets_none, ?_⟩
  obtain ⟨c, run, returned, fee⟩ := Reaches.of_replay_any OpensNoSecond
    (Config.start beforeWallets ({} : Services) (startupAndPayment.map PlatformOp.program))
    (turns [(0, 13), (1, 41)])
    (fun c : System => c.threads.map Thread.returned = [true, true] ∧ c.db.value (.balance (.ofNat 4)) = 50)
    (by decide +kernel)
  exact ⟨c, run, returned, fee, single_platform_wallet beforeWallets_none run⟩

/-- The payment is completed after the start of the service has found no platform wallet, and
before it opens one: there are two. -/
theorem startup_during_payment : (∀ id, ¬beforeWallets.IsPlatform id) ∧
    ∃ c : System, Reaches (fun _ _ => True)
      (Config.start beforeWallets ({} : Services) (startupAndPayment.map PlatformOp.program)) c ∧
    c.threads.map Thread.returned = [true, true] ∧ ¬c.db.OnePlatform ∧
    ¬SinglePlatformWallet beforeWallets c.db c.log := by
  refine ⟨beforeWallets_none, ?_⟩
  obtain ⟨c, run, returned, started, paid⟩ := Reaches.of_replay_any (fun _ _ => True)
    (Config.start beforeWallets ({} : Services) (startupAndPayment.map PlatformOp.program))
    (turns [(0, 6), (1, 45), (0, 7)])
    (fun c : System => c.threads.map Thread.returned = [true, true] ∧ c.db.IsPlatform (.ofNat 4) ∧
      c.db.IsPlatform (.ofNat 6)) (by decide +kernel)
  have two : ¬c.db.OnePlatform := fun one => absurd (one _ _ started paid) (by decide)
  exact ⟨c, run, returned, two, fun h => two h.single⟩

end Heightt
