import Heightt.Schema.Services

/-!
# WalletService

Wallets are created on first use, together with their ledger account, and every
lookup leaves the wallet in the cache. A cached wallet is returned without
looking at the database. Fresh identifiers are arguments: `newId` is the one the
database would give to a new wallet.
-/

namespace Heightt.WalletService

open ReadCommitted Prog

/-- The transaction that creates a wallet and the ledger account linked to it. -/
def createWallet (newId : Id) (userId organizationId : Option Id) (isPlatformWallet : Bool) :
    Action (Option Wallet) :=
  transaction do
    exec (.createWallet newId userId organizationId isPlatformWallet)
    exec (.createLedgerAccount (.wallet newId))
    exec (.linkWallet newId)
    exec (.createRecord .activityLog)
    query fun d => d.wallets.find newId

/-- A wallet without owner from before the `isPlatformWallet` flag. -/
def isLegacyWallet (w : Wallet) : Bool :=
  w.userId.isNone && w.organizationId.isNone && !w.isPlatformWallet

def initializePlatformWallet (newId : Id) : Action (Option Wallet) := do
  let existingWallet ← outside fun d => d.wallets.findFirst Wallet.isPlatformWallet
  match existingWallet with
  | some w => pure (some w)
  | none =>
    let legacyWallet ← outside fun d => d.wallets.findFirst isLegacyWallet
    match legacyWallet with
    | some w =>
      transaction do
        exec (.markPlatformWallet w.id)
        query fun d => d.wallets.find w.id
    | none => createWallet newId none none true

def getOrCreateUserWallet (userId newId : Id) : Action (Option Wallet) := do
  let cached ← CacheService.get (.user userId)
  match cached with
  | some w => pure (some w)
  | none =>
    let user ← outside fun d => d.users.find? (· = userId)
    let _ ← orThrow user (.notFound "User not found")
    let wallet ← outside fun d => d.wallets.findFirst fun w => w.userId = some userId
    match wallet with
    | some w => pure (some w)
    | none => createWallet newId (some userId) none false

def getOrCreateOrganizationWallet (organizationId newId : Id) : Action (Option Wallet) := do
  let cached ← CacheService.get (.organization organizationId)
  match cached with
  | some w => pure (some w)
  | none =>
    let organization ← outside fun d => d.organizations.find? fun o => o.id = organizationId
    let _ ← orThrow organization (.notFound "Organization not found")
    let wallet ← outside fun d => d.wallets.findFirst fun w => w.organizationId = some organizationId
    match wallet with
    | some w => pure (some w)
    | none => createWallet newId none (some organizationId) false

def getOrCreatePlatformWallet (newId : Id) : Action (Option Wallet) := do
  let cached ← CacheService.get .platform
  match cached with
  | some w => pure (some w)
  | none =>
    let found ← outside fun d => d.wallets.findFirst Wallet.isPlatformWallet
    let wallet ← initializeUnless found
    whenSome wallet fun w => CacheService.setWithTag .platform w
    pure wallet
where
  initializeUnless : Option Wallet → Action (Option Wallet)
    | some w => pure (some w)
    | none => initializePlatformWallet newId

def cacheWallet (wallet : Wallet) : Action Unit := do
  whenSome wallet.userId fun userId => CacheService.setWithTag (.user userId) wallet
  whenSome wallet.organizationId fun organizationId =>
    CacheService.setWithTag (.organization organizationId) wallet
  when wallet.isPlatformWallet (CacheService.setWithTag .platform wallet)

/-- The caller of a lookup that found nothing fails on its first use of the wallet. -/
def getOrCreateWallet (owner : WalletOwner) (newId : Id) : Action Wallet := do
  let found ← lookup owner
  let wallet ← orThrow found (.error "Cannot read properties of null")
  cacheWallet wallet
  pure wallet
where
  lookup : WalletOwner → Action (Option Wallet)
    | .user id => getOrCreateUserWallet id newId
    | .organization id => getOrCreateOrganizationWallet id newId
    | .platform => getOrCreatePlatformWallet newId

def invalidateWalletCache (owner : WalletOwner) : Action Unit := do
  CacheService.delete owner
  CacheService.invalidateByTag
  CacheService.invalidateByTag

/-! ## What these functions do to others -/

/-- Events that leave the rows of the finance tables alone: reads, audit records,
and calls that create no payout. -/
inductive Quiet : FinanceEvent → Prop where
  | read (nested : Bool) : Quiet (.committed nested [])
  | record (nested : Bool) (t : AuditTable) : Quiet (.committed nested [.createRecord t])
  | answered (c : Call) (r : c.Reply) (h : ∀ req key, c ≠ .createPayout req key) :
    Quiet (.answered c r)
  | failed (c : Call) (h : ∀ req key, c ≠ .createPayout req key) : Quiet (.failed c)

/-- The transactions that set wallets, accounts and payout destinations up. -/
inductive SetupTx : List Stmt → Prop where
  | createWallet (id : Id) (userId organizationId : Option Id) (isPlatformWallet : Bool) :
    SetupTx [.createWallet id userId organizationId isPlatformWallet,
      .createLedgerAccount (.wallet id), .linkWallet id, .createRecord .activityLog]
  | markPlatformWallet (id : Id) : SetupTx [.markPlatformWallet id]
  | createLedgerAccount (a : SystemAccount) : SetupTx [.createLedgerAccount (.system a)]
  | updateBankAccount (id : Id) (destination : String) :
    SetupTx [.updateBankAccount id destination]

/-- Events that set something up, or are quiet. -/
inductive Setup : FinanceEvent → Prop where
  | quiet {ev : FinanceEvent} (h : Quiet ev) : Setup ev
  | tx (nested : Bool) {F : List Stmt} (h : SetupTx F) : Setup (.committed nested F)

/-- The events of an operation: those of `B`, and its own transactions, which satisfy `T`. -/
inductive Emits (B : FinanceEvent → Prop) (T : List Stmt → Prop) : FinanceEvent → Prop where
  | base {ev : FinanceEvent} (h : B ev) : Emits B T ev
  | tx (nested : Bool) {F : List Stmt} (h : T F) : Emits B T (.committed nested F)

theorem Emits.mono {B : FinanceEvent → Prop} {T T' : List Stmt → Prop} (h : ∀ F, T F → T' F)
    {ev : FinanceEvent} (hev : Emits B T ev) : Emits B T' ev := by
  cases hev with
  | base hB => exact .base hB
  | tx nested hF => exact .tx nested (h _ hF)

/-- The events `A` are among the events `P`, so that a part which makes `A` events
is a part of any operation that makes `P` events. -/
class Includes (A P : FinanceEvent → Prop) : Prop where
  incl : ∀ ev, A ev → P ev

instance (A : FinanceEvent → Prop) : Includes A A := ⟨fun _ h => h⟩

instance (A B : FinanceEvent → Prop) (T : List Stmt → Prop) [Includes A B] :
    Includes A (Emits B T) :=
  ⟨fun ev h => .base (Includes.incl ev h)⟩

instance (P : FinanceEvent → Prop) [Includes Setup P] : Includes Quiet P :=
  ⟨fun ev h => Includes.incl ev (Setup.quiet h)⟩

theorem quiet {P : FinanceEvent → Prop} [Includes Quiet P] {ev : FinanceEvent} (h : Quiet ev) :
    P ev := Includes.incl ev h

theorem setup {P : FinanceEvent → Prop} [Includes Setup P] {nested : Bool} {F : List Stmt}
    (h : SetupTx F) : P (.committed nested F) := Includes.incl _ (Setup.tx nested h)

theorem makes_orThrow {P : FinanceEvent → Prop} {α : Type} (o : Option α) (e : Failure) :
    Makes P (orThrow o e : Action α) fun _ => True :=
  Makes.orThrow fun _ _ => trivial

section

variable {P : FinanceEvent → Prop} [Includes Quiet P]

theorem makes_outside {α : Type} (f : Db → α) : Makes P (outside f : Action α) fun _ => True :=
  Makes.outside (fun _ => trivial) fun nested => quiet (.read nested)

theorem makes_request {c : Call} (h : ∀ req key, c ≠ .createPayout req key) :
    Makes P (request c : Action c.Reply) fun _ => True :=
  Makes.request (fun r => quiet (.answered c r h)) (quiet (.failed c h))

theorem makes_get (owner : WalletOwner) : Makes P (CacheService.get owner) fun _ => True :=
  makes_request fun _ _ => nofun

theorem makes_setWithTag (owner : WalletOwner) (w : Wallet) :
    Makes P (CacheService.setWithTag owner w) fun _ => True :=
  makes_request fun _ _ => nofun

theorem makes_invalidateByTag : Makes P CacheService.invalidateByTag fun _ => True :=
  (makes_request (c := Call.cacheClear) fun _ _ => nofun).attempt

theorem makes_invalidateWalletCache (owner : WalletOwner) :
    Makes P (invalidateWalletCache owner) fun _ => True :=
  (makes_request (c := Call.cacheDelete owner) fun _ _ => nofun).bind fun _ _ =>
    makes_invalidateByTag.bind fun _ _ => makes_invalidateByTag

theorem makes_cacheWallet (wallet : Wallet) : Makes P (cacheWallet wallet) fun _ => True :=
  (Makes.whenSome fun _ _ => makes_setWithTag _ _).bind fun _ _ =>
    (Makes.whenSome fun _ _ => makes_setWithTag _ _).bind fun _ _ =>
      Makes.when fun _ => makes_setWithTag _ _

end

section

variable {P : FinanceEvent → Prop} [Includes Setup P]

theorem makes_createWallet (newId : Id) (userId organizationId : Option Id)
    (isPlatformWallet : Bool) :
    Makes P (createWallet newId userId organizationId isPlatformWallet) fun _ => True := by
  refine Makes.transaction (G := fun _ F => F = [.createWallet newId userId organizationId
    isPlatformWallet, .createLedgerAccount (.wallet newId), .linkWallet newId,
    .createRecord .activityLog]) ?_ fun nested _ F hF => ⟨hF ▸ setup (.createWallet ..), trivial⟩
  exact .exec_bind <| .exec_bind <| .exec_bind <| .exec_bind <| .query fun _ => rfl

theorem makes_initializePlatformWallet (newId : Id) :
    Makes P (initializePlatformWallet newId) fun _ => True := by
  refine (makes_outside _).bind fun existingWallet _ => ?_
  cases existingWallet with
  | some w => exact .ret trivial
  | none =>
    refine (makes_outside _).bind fun legacyWallet _ => ?_
    cases legacyWallet with
    | none => exact makes_createWallet newId none none true
    | some w =>
      refine Makes.transaction (G := fun _ F => F = [.markPlatformWallet w.id]) ?_
        fun nested _ F hF => ⟨hF ▸ setup (.markPlatformWallet ..), trivial⟩
      exact .exec_bind <| .query fun _ => rfl

theorem makes_getOrCreateUserWallet (userId newId : Id) :
    Makes P (getOrCreateUserWallet userId newId) fun _ => True := by
  refine (makes_get _).bind fun cached _ => ?_
  cases cached with
  | some w => exact .ret trivial
  | none =>
    refine (makes_outside _).bind fun user _ => (makes_orThrow _ _).bind fun _ _ => ?_
    refine (makes_outside _).bind fun wallet _ => ?_
    cases wallet with
    | some w => exact .ret trivial
    | none => exact makes_createWallet newId (some userId) none false

theorem makes_getOrCreateOrganizationWallet (organizationId newId : Id) :
    Makes P (getOrCreateOrganizationWallet organizationId newId) fun _ => True := by
  refine (makes_get _).bind fun cached _ => ?_
  cases cached with
  | some w => exact .ret trivial
  | none =>
    refine (makes_outside _).bind fun organization _ => (makes_orThrow _ _).bind fun _ _ => ?_
    refine (makes_outside _).bind fun wallet _ => ?_
    cases wallet with
    | some w => exact .ret trivial
    | none => exact makes_createWallet newId none (some organizationId) false

theorem makes_getOrCreatePlatformWallet (newId : Id) :
    Makes P (getOrCreatePlatformWallet newId) fun _ => True := by
  refine (makes_get _).bind fun cached _ => ?_
  cases cached with
  | some w => exact .ret trivial
  | none =>
    refine (makes_outside _).bind fun found _ => Makes.bind (S := fun _ => True) ?_ fun wallet _ =>
      (Makes.whenSome fun w _ => makes_setWithTag _ w).bind fun _ _ => .ret trivial
    cases found with
    | some w => exact .ret trivial
    | none => exact makes_initializePlatformWallet newId

/-- Looking a wallet up only sets things up. -/
theorem makes_getOrCreateWallet (owner : WalletOwner) (newId : Id) :
    Makes P (getOrCreateWallet owner newId) fun _ => True := by
  refine Makes.bind (S := fun _ => True) ?_ fun found _ => (makes_orThrow _ _).bind fun w _ =>
    (makes_cacheWallet w).bind fun _ _ => .ret trivial
  cases owner with
  | user id => exact makes_getOrCreateUserWallet id newId
  | organization id => exact makes_getOrCreateOrganizationWallet id newId
  | platform => exact makes_getOrCreatePlatformWallet newId

end

end Heightt.WalletService
