import Heightt.Bachs.Checkout
import Heightt.Bachs.Webhook
import Heightt.ReadCommitted.Guarantee
import Heightt.ReadCommitted.InTurn
import Mathlib.Logic.Relation

/-!
# External payments in turn

What the completion of a pending payment and the changes of its status commit
when no other request runs: with the wallets, the pending payment and its
figures as they are in the state that the transaction finds.
-/

namespace Heightt.BachsService

open ReadCommitted Prog Store Database WalletService LedgerService FinanceService ReceiptService
  BachsWebhookController

/-- The statement opens a wallet or an account; the platform's wallet is no organization's. -/
def OpensApart : Stmt → Prop
  | .createWallet _ _ organizationId isPlatformWallet => isPlatformWallet = true → organizationId = none
  | .createLedgerAccount _ | .linkWallet _ => True
  | _ => False

/-- The completion of the pending payment `p` in state `d`. -/
inductive CompletionTx (d : Db) (p : PendingPayment) : List Stmt → Prop where
  | mk (c : Collection) (new : NewCompletion) (o : Wallet) (platform : Option Wallet) (base : Int)
      (S S' S'' due : List Stmt) (found : d.pendingPayments.find p.id = some p)
      (pending : p.status = .pending) (opens : ∀ s ∈ S ++ S' ++ S'', OpensApart s)
      (organization : (applyAll S d).wallets.findFirst (fun w => w.organizationId = some p.organizationId) =
        some o)
      (fee : ∀ w ∈ platform, (applyAll (S ++ S') d).wallets.findFirst Wallet.isPlatformWallet = some w)
      (charged : platform.isSome ↔ 0 < platformFee p) (paid : DuePaid new.paymentId p.amount due) :
    CompletionTx d p (S ++ S' ++ S'' ++
      creditWrites p c (expectedSettlementAmount p) o platform base due new)

/-- The metadata still say what the payment is to settle at. -/
def HasFigures (p : PendingPayment) : Prop := p.metadata.expectedSettlementAmount.isSome

instance (p : PendingPayment) : Decidable (HasFigures p) := inferInstanceAs (Decidable (_ = true))

/-- The same fee and the same amount to settle. -/
def SameFigures (m m' : PendingPaymentMetadata) : Prop :=
  m.platformFee = m'.platformFee ∧ m.expectedSettlementAmount = m'.expectedSettlementAmount

/-- A transaction of an external payment in state `d`. -/
inductive PendingTx (d : Db) : List Stmt → Prop where
  | receipt (r : Receipt) : PendingTx d [.createReceipt r]
  | record (t : AuditTable) : PendingTx d [.createRecord t]
  | complete {p : PendingPayment} {F : List Stmt} (h : CompletionTx d p F) : PendingTx d F
  | status (p : PendingPayment) (patch : PendingPaymentPatch) (found : d.pendingPayments.find p.id = some p)
      (undone : patch.status ≠ .completed) (reopens : patch.status = .pending → HasFigures p)
      (figures : ∀ m ∈ patch.metadata, SameFigures m p.metadata) :
    PendingTx d [.updatePendingPayment p patch]
  | expire (cutoff : Nat) : PendingTx d [.expirePendingPayments cutoff]

/-- Transactions of external payments lead from one state to the other. -/
def Advances : Db → Db → Prop :=
  Relation.ReflTransGen fun d d' => ∃ F, PendingTx d F ∧ violation F d = none ∧ d' = applyAll F d

/-- Requests for external payments lead from one pair of states to the other. -/
structure Advanced (d : Db) (x : Services) (d' : Db) (x' : Services) : Prop where
  db : Advances d d'
  prices : x.prices <+: x'.prices

namespace Advanced

variable {d d' d'' : Db} {x x' x'' : Services}

theorem refl (d : Db) (x : Services) : Advanced d x d x := ⟨.refl, List.prefix_rfl⟩

theorem trans (h : Advanced d x d' x') (h' : Advanced d' x' d'' x'') : Advanced d x d'' x'' :=
  ⟨h.db.trans h'.db, h.prices.trans h'.prices⟩

theorem tx {F : List Stmt} (h : PendingTx d F) (valid : violation F d = none) (x : Services) :
    Advanced d x (applyAll F d) x :=
  ⟨.single ⟨F, h, valid, rfl⟩, List.prefix_rfl⟩

end Advanced

section Within

variable {d : Db} {x : Services} {F : List Stmt}

/-- A wallet that is opened is the last row of its table. -/
theorem within_openWallet (newId : Id) {organizationId : Option Id} {isPlatformWallet : Bool}
    (apart : isPlatformWallet = true → organizationId = none) :
    Within (openWallet newId organizationId isPlatformWallet) d x F fun w F' => ∃ S, F' = F ++ S ∧
      (∀ s ∈ S, OpensApart s) ∧ w = { id := newId, organizationId, isPlatformWallet } ∧
        (applyAll F' d).wallets.rows = (applyAll F d).wallets.rows ++ [w] := by
  refine .exec_bind fun valid => .exec_bind fun _ => .exec_bind fun _ => .query_bind ?_
  have free : (applyAll F d).wallets.find newId = none := by
    have := (Option.or_eq_none_iff.1 valid).1
    simpa [Stmt.unique_eq_none] using this
  have inserted : (applyAll (F ++ [.createWallet newId none organizationId isPlatformWallet] ++
      [.createLedgerAccount (.wallet newId)] ++ [.linkWallet newId]) d).wallets =
      (applyAll F d).wallets.insert { id := newId, organizationId, isPlatformWallet } := by
    simp only [applyAll_append]
    rfl
  have row := Table.find_insert (r := ({ id := newId, organizationId, isPlatformWallet } : Wallet)) free newId
  rw [if_pos rfl] at row
  rw [inserted, row]
  refine .ret ⟨[.createWallet newId none organizationId isPlatformWallet,
    .createLedgerAccount (.wallet newId), .linkWallet newId], by simp,
    by simpa [OpensApart] using apart, rfl, ?_⟩
  rw [inserted, Table.insert_rows free]

theorem within_organizationWallet (organizationId newId : Id) :
    Within (organizationWallet organizationId newId) d x F fun o F' => ∃ S, F' = F ++ S ∧
      (∀ s ∈ S, OpensApart s) ∧
        (applyAll F' d).wallets.findFirst (fun w => w.organizationId = some organizationId) = some o := by
  refine .query_bind ?_
  cases h : (applyAll F d).wallets.findFirst fun w => w.organizationId = some organizationId with
  | some w => exact .ret ⟨[], by simp, by simp, h⟩
  | none =>
    refine (within_openWallet _ (by simp)).mono ?_
    rintro w F' ⟨S, hF, opens, rfl, rows⟩
    refine ⟨S, hF, opens, ?_⟩
    rw [Table.findFirst, rows, List.find?_append, show List.find? _ _ = none from h]
    simp

theorem within_platformWallet (fee : Int) (newId : Id) :
    Within (platformWallet fee newId) d x F fun platform F' => ∃ S, F' = F ++ S ∧
      (∀ s ∈ S, OpensApart s) ∧
      (0 < fee → platform.isSome) ∧
        ∀ w ∈ platform, (applyAll F' d).wallets.findFirst Wallet.isPlatformWallet = some w := by
  refine .query_bind ?_
  cases h : (applyAll F d).wallets.findFirst Wallet.isPlatformWallet with
  | some w => exact .ret ⟨[], by simp, by simp, by simp, fun v hv => by rw [h, hv]⟩
  | none =>
    dsimp only
    split
    · refine (within_openWallet _ fun _ => rfl).bind fun w F' hF' => ?_
      obtain ⟨S, hF, opens, rfl, rows⟩ := hF'
      refine .ret ⟨S, hF, opens, by simp, fun v hv => ?_⟩
      rw [Table.findFirst, rows, List.find?_append, show List.find? _ _ = none from h]
      simpa using hv
    · rename_i free
      exact .ret ⟨[], by simp, by simp, fun pos => (free pos).elim, by simp⟩

theorem within_clearingAccount :
    Within clearingAccount d x F fun a F' => ∃ S, F' = F ++ S ∧ (∀ s ∈ S, OpensApart s) ∧
      a.id = .system .bachsSettlement := by
  refine .query_bind ?_
  cases h : (applyAll F d).ledgerAccounts.find (.system .bachsSettlement) with
  | some a => exact .ret ⟨[], by simp, by simp, Table.find_key h⟩
  | none =>
    exact .exec_bind fun _ => .ret ⟨[.createLedgerAccount (.system .bachsSettlement)], rfl,
      by simp [OpensApart], rfl⟩

end Within

/-- A completion commits the credits of a pending payment, or nothing. -/
theorem within_settlePayment {d : Db} {x : Services} {p : PendingPayment}
    (found : d.pendingPayments.find p.id = some p) (c : Collection) (new : NewCompletion) :
    Within (settlePayment p c new) d x [] fun _ F => CompletionTx d p F := by
  refine .ensure_bind fun pending => .orThrow_bind fun amountInKobo _ => .ensure_bind fun expected =>
    .ensure_bind fun _ => ?_
  refine (within_organizationWallet _ _).bind fun o F₁ h₁ => .ensure_bind fun _ => ?_
  refine (within_platformWallet _ _).bind fun platform F₂ h₂ => .ensure_bind fun _ => ?_
  refine within_clearingAccount.bind fun clearing F₃ h₃ => ?_
  obtain ⟨S, rfl, opens, organization⟩ := h₁
  obtain ⟨S', rfl, opens', charged, fee⟩ := h₂
  obtain ⟨S'', rfl, opens'', hid⟩ := h₃
  refine (Within.of_adds (adds_creditPayment (P := fun _ => False) _ _ _ _ _ _ _ hid)).bind
    fun _ F hF => .ret ?_
  obtain ⟨L, rfl, due, paid, rfl⟩ := hF
  subst expected
  refine .mk c new o _ clearing.balance _ S' S'' due found pending ?_ organization ?_ ?_ paid
  · intro s hs
    simp only [List.mem_append] at hs
    rcases hs with (hs | hs) | hs
    · exact opens s hs
    · exact opens' s hs
    · exact opens'' s hs
  · intro w hw
    exact fee w (Option.mem_filter_iff.1 hw).1
  · by_cases pos : 0 < platformFee p
    · simpa [pos] using charged pos
    · simp [pos]

theorem within_completionTransaction (d : Db) (x : Services) (c : Collection) (new : NewCompletion) :
    Within (completionTransaction c new) d x [] fun _ F => F = [] ∨ ∃ p, CompletionTx d p F := by
  refine .query_bind <| .orThrow_bind fun p hp => .query_bind ?_
  have found : d.pendingPayments.find p.id = some p := Table.find_of_mem (List.mem_of_find?_eq_some hp)
  split
  · exact .query_bind <| .ret (.inl rfl)
  · exact (within_settlePayment found c new).mono fun _ F hF => .inr ⟨p, hF⟩

theorem prices_handle (x : Services) (c : Call) : x.prices <+: (x.handle c).1.prices := by
  cases c with
  | createCheckoutSession request => exact List.prefix_append _ _
  | createPayout request key =>
    change x.prices <+: (x.createPayout request key).1.prices
    unfold Services.createPayout
    split <;> exact List.prefix_rfl
  | _ => exact List.prefix_rfl

/-- Events that are quiet, or transactions of external payments in any state. -/
theorem turns_of_makes {α : Type} {T : List Stmt → Prop} {p : Action α} {S : α → Prop}
    (h : Makes (Emits Quiet T) p S) (hT : ∀ d F, T F → PendingTx d F) (d : Db) (x : Services) :
    Turns p d x (fun _ => Advanced d x) (Advanced d x) := by
  refine (Turns.of_makes h (Advanced d x) ?_ ?_ (.refl d x)).mono (fun _ _ _ h => h.1) fun _ _ h => h
  · intro d' x' nested F hF valid advanced
    cases hF with
    | base hB =>
      cases hB with
      | read => exact advanced
      | record _ t => exact advanced.trans (.tx (.record t) valid x')
    | tx _ hF => exact advanced.trans (.tx (hT d' F hF) valid x')
  · intro d' x' c _ advanced
    exact ⟨advanced.db, advanced.prices.trans (prices_handle x' c)⟩

theorem Advanced.bind {α β : Type} {p : Action α} {f : α → Action β} {d : Db} {x : Services}
    (hp : Turns p d x (fun _ => Advanced d x) (Advanced d x))
    (hf : ∀ a d' x', Turns (f a) d' x' (fun _ => Advanced d' x') (Advanced d' x')) :
    Turns (p.bind f) d x (fun _ => Advanced d x) (Advanced d x) :=
  hp.bind fun a d' x' h => (hf a d' x').mono (fun _ _ _ h' => h.trans h') fun _ _ h' => h.trans h'

/-- At most one pending payment is completed between the states. -/
def Settled (d d' : Db) : Prop :=
  d' = d ∨ ∃ p F, CompletionTx d p F ∧ violation F d = none ∧ d' = applyAll F d

/-- Only receipts are added between the states. -/
def Receipted (d d' : Db) : Prop := d' = { d with receipts := d'.receipts }

/-- The completion for a collection, by the pending payment that it finds first. -/
inductive Concluded (c : Collection) (d d' : Db) (p : PendingPayment) : Prop where
  /-- There is a payment of the reference already. -/
  | found (first : d.pendingPayments.findFirst (fun p => c.Identifies p) = some p) (q : Payment)
    (hq : q ∈ d.payments.rows) (same : q.reference = p.reference) (unchanged : d' = d)
  | completed (first : d.pendingPayments.findFirst (fun p => c.Identifies p) = some p) (F : List Stmt)
    (tx : CompletionTx d p F) (valid : violation F d = none) (committed : d' = applyAll F d)

theorem within_completionTransaction_concluded (d : Db) (x : Services) (c : Collection)
    (new : NewCompletion) : Within (completionTransaction c new) d x [] fun _ F =>
      violation F d = none → ∃ p, Concluded c d (applyAll F d) p := by
  refine .query_bind <| .orThrow_bind fun p first => .query_bind ?_
  have row : d.pendingPayments.find p.id = some p := Table.find_of_mem (List.mem_of_find?_eq_some first)
  cases existing : (applyAll [] d).payments.findFirst fun q => q.reference = p.reference with
  | some q =>
    refine .query_bind <| .ret fun _ => ⟨p, .found first q (List.mem_of_find?_eq_some existing) ?_ rfl⟩
    simpa using List.find?_some existing
  | none =>
    exact (within_settlePayment row c new).mono fun _ F tx valid => ⟨p, .completed first F tx valid rfl⟩

theorem Concluded.settled {c : Collection} {d d' : Db} {p : PendingPayment} (h : Concluded c d d' p) :
    Settled d d' := by
  cases h with
  | found _ _ _ _ unchanged => exact .inl unchanged
  | completed _ F tx valid committed => exact .inr ⟨p, F, tx, valid, committed⟩

/-- The collection is concluded, and receipts are added. -/
def ConcludedBy (c : Collection) (d d' : Db) : Prop := ∃ d₁ p, Concluded c d d₁ p ∧ Receipted d₁ d'

theorem Receipted.refl (d : Db) : Receipted d d := rfl

theorem Receipted.trans {d d' d'' : Db} (h : Receipted d d') (h' : Receipted d' d'') : Receipted d d'' := by
  unfold Receipted at h h' ⊢
  rw [h', h]

/-- Quiet events, and receipts. -/
theorem turns_receipted {p : Action Unit} (paymentId : Id) (new : NewReceipt)
    (h : Makes (Emits Quiet (ReceiptTx paymentId new)) p fun _ => True) (d : Db) (x : Services) :
    Turns p d x (fun _ d' _ => Receipted d d') fun d' _ => Receipted d d' := by
  refine (Turns.of_makes h (fun d' _ => Receipted d d') ?_ (fun _ _ _ _ h => h) (.refl d)).mono
    (fun _ _ _ h => h.1) fun _ _ h => h
  intro d' x' nested F hF _ receipted
  refine receipted.trans ?_
  cases hF with
  | base hB =>
    cases hB with
    | read => exact .refl d'
    | record _ t => exact .refl d'
  | tx _ hF =>
    cases hF with
    | mk payment _ => rfl

/-- The receipt of a payment is left out if it fails. -/
theorem turns_handlePaymentCompleted_receipted {T : Db → Services → Prop} (paymentId userId : Id)
    (new : NewReceipt) (d : Db) (x : Services) :
    Turns (handlePaymentCompletedViaBachs paymentId userId new) d x (fun _ d' _ => Receipted d d') T :=
  Turns.attempt (turns_receipted paymentId new (makes_generateReceiptFromPayment paymentId userId new) d x)
    fun _ _ h => h

/-- What follows the transaction of a completion adds a receipt, and does not fail. -/
theorem turns_afterCompletion (result : Completion) (new : NewCompletion) (d : Db) (x : Services) :
    Turns ((attempt do
      CacheService.delete (.organization result.payment.organizationId)
      CacheService.delete .platform
      CacheService.invalidateByTag
      CacheService.invalidateByTag).bind fun _ => when result.shouldGenerateReceipt
        (handlePaymentCompletedViaBachs result.payment.id result.payment.payerId new.receipt)) d x
      (fun _ d' _ => Receipted d d') fun _ _ => False := by
  refine Turns.bind (Turns.attempt (turns_receipted result.payment.id new.receipt
    ?_ d x) fun _ _ h => h) fun _ d₁ x₁ receipted => ?_
  · exact (makes_request (c := Call.cacheDelete _) fun _ _ => nofun).bind fun _ _ =>
      (makes_request (c := Call.cacheDelete _) fun _ _ => nofun).bind fun _ _ =>
        makes_invalidateByTag.bind fun _ _ => makes_invalidateByTag
  · refine .when (fun _ => ?_) fun _ => receipted
    exact (turns_handlePaymentCompleted_receipted _ _ _ d₁ x₁).mono (fun _ _ _ h => receipted.trans h)
      fun _ _ h => h

theorem turns_completePayment_concluded (c : Collection) (new : NewCompletion) (d : Db) (x : Services) :
    Turns (completePayment c new) d x (fun _ d' _ => ConcludedBy c d d') fun d' _ => d' = d := by
  refine Turns.bind (S := fun _ d' _ => ∃ p, Concluded c d d' p) ?_ fun result d₁ x₁ concluded => ?_
  · exact (Turns.transaction (T := fun d' _ => d' = d) (within_completionTransaction_concluded d x c new)
      (fun _ _ concluded valid => concluded valid) rfl).onThrow fun _ _ _ h => .throw h
  · obtain ⟨p, concluded⟩ := concluded
    exact (turns_afterCompletion result new d₁ x₁).mono (fun _ _ _ h => ⟨d₁, p, concluded, h⟩)
      fun _ _ h => h.elim

variable (d : Db) (x : Services)

theorem turns_completion (c : Collection) (new : NewCompletion) :
    Turns ((transaction (completionTransaction c new)).onThrow fun e => throw (completionError e)) d x
      (fun _ d' x' => x' = x ∧ Settled d d') fun d' x' => x' = x ∧ d' = d := by
  refine (Turns.transaction (T := fun d' x' => x' = x ∧ d' = d)
    (within_completionTransaction d x c new) ?_ ⟨rfl, rfl⟩).onThrow fun _ _ _ h => .throw h
  rintro a F (rfl | ⟨p, hF⟩) valid
  · exact ⟨rfl, .inl rfl⟩
  · exact ⟨rfl, .inr ⟨p, F, hF, valid, rfl⟩⟩

/-- What follows the transaction of a completion. -/
theorem makes_afterCompletion (result : Completion) (new : NewCompletion) :
    Makes (Emits Quiet (ReceiptTx result.payment.id new.receipt)) ((attempt do
      CacheService.delete (.organization result.payment.organizationId)
      CacheService.delete .platform
      CacheService.invalidateByTag
      CacheService.invalidateByTag).bind fun _ => when result.shouldGenerateReceipt
        (handlePaymentCompletedViaBachs result.payment.id result.payment.payerId new.receipt))
      fun _ => True := by
  refine Makes.bind (S := fun _ => True) (.attempt ?_) fun _ _ => .when fun _ => makes_receipt fun _ h => h
  exact (makes_request (c := Call.cacheDelete _) fun _ _ => nofun).bind fun _ _ =>
    (makes_request (c := Call.cacheDelete _) fun _ _ => nofun).bind fun _ _ =>
      makes_invalidateByTag.bind fun _ _ => makes_invalidateByTag

theorem turns_handlePaymentCompletedViaBachs (paymentId userId : Id) (new : NewReceipt) :
    Turns (handlePaymentCompletedViaBachs paymentId userId new) d x (fun _ => Advanced d x)
      (Advanced d x) :=
  turns_of_makes (makes_receipt fun _ h => h) (fun d F hF => by cases hF; exact .receipt _) d x

theorem turns_completePayment (c : Collection) (new : NewCompletion) :
    Turns (completePayment c new) d x (fun _ => Advanced d x) (Advanced d x) := by
  refine Advanced.bind ((turns_completion d x c new).mono ?_ ?_) fun result d' x' =>
    turns_of_makes (makes_afterCompletion result new) (fun d F hF => by cases hF; exact .receipt _) d' x'
  · rintro _ d' x' ⟨rfl, rfl | ⟨p, F, hF, valid, rfl⟩⟩
    · exact .refl d' x'
    · exact .tx (.complete hF) valid x'
  · rintro d' x' ⟨rfl, rfl⟩
    exact .refl d' x'

/-- One call completes at most one pending payment, and adds a receipt. -/
theorem turns_completePayment_settled (c : Collection) (new : NewCompletion) :
    Turns (completePayment c new) d x (fun _ d' _ => ∃ d₁, Settled d d₁ ∧ Receipted d₁ d')
      fun d' _ => ∃ d₁, Settled d d₁ ∧ Receipted d₁ d' := by
  refine (turns_completePayment_concluded c new d x).mono ?_ ?_
  · rintro _ d' - ⟨d₁, p, concluded, receipted⟩
    exact ⟨d₁, concluded.settled, receipted⟩
  · rintro d' - rfl
    exact ⟨d', .inl rfl, .refl d'⟩

variable {d : Db} {x : Services}

/-- A change of status computed from the row as it is. -/
theorem turns_status {p : PendingPayment} {patch : PendingPaymentPatch}
    (found : d.pendingPayments.find p.id = some p) (undone : patch.status ≠ .completed)
    (reopens : patch.status = .pending → HasFigures p)
    (figures : ∀ m ∈ patch.metadata, SameFigures m p.metadata) :
    Turns (statement (.updatePendingPayment p patch) : Action Unit) d x (fun _ => Advanced d x)
      (Advanced d x) := by
  refine .statement (fun valid => ?_) (.refl d x)
  exact .tx (.status p patch found undone reopens figures) (violation_cons.2 ⟨valid, rfl⟩) x

theorem turns_findPendingPayment_bind {id : Id} {f : PendingPayment → Action Unit}
    {S : Unit → Db → Services → Prop} {T : Db → Services → Prop} (he : T d x)
    (hf : ∀ p, d.pendingPayments.find p.id = some p → p.id = id → Turns (f p) d x S T) :
    Turns ((findPendingPayment id).bind f) d x S T := by
  unfold findPendingPayment
  rw [bind_eq, Prog.bind_assoc]
  refine .outside_bind he <| .orThrow_bind he fun p hp => ?_
  have hid := Table.find_key hp
  exact hf p (hid ▸ hp) hid

theorem turns_cancelPendingPayment (id : Id) (userId : Option Id) :
    Turns (cancelPendingPayment id userId) d x (fun _ => Advanced d x) (Advanced d x) :=
  turns_findPendingPayment_bind (.refl d x) fun _ found _ =>
    .ensure_bind (.refl d x) fun _ => .ensure_bind (.refl d x) fun _ =>
      turns_status found (by simp [withStatus]) (by simp [withStatus])
        fun m hm => by cases hm; exact ⟨rfl, rfl⟩

theorem turns_cleanupExpiredPayments (cutoff : Nat) :
    Turns (cleanupExpiredPayments cutoff) d x (fun _ => Advanced d x) (Advanced d x) := by
  refine .statement (fun valid => ?_) (.refl d x)
  exact .tx (.expire cutoff) (violation_cons.2 ⟨valid, rfl⟩) x

/-- A retried payment is reopened with its figures if the failed row has them. -/
theorem turns_retryFailedPayment {id : Id}
    (kept : ∀ p, d.pendingPayments.find id = some p → p.status = .failed → HasFigures p) :
    Turns (retryFailedPayment id) d x (fun _ => Advanced d x) (Advanced d x) :=
  turns_findPendingPayment_bind (.refl d x) fun p found hid =>
    .ensure_bind (.refl d x) fun failed => .ensure_bind (.refl d x) fun _ =>
      turns_status found (by simp) (fun _ => kept p (hid ▸ found) failed)
        fun m hm => by cases hm; exact ⟨rfl, rfl⟩

theorem turns_markPendingPayment (checkoutId : Option String) {status : PendingPaymentStatus}
    (failureReason : Option String) (undone : status ≠ .completed) (closed : status ≠ .pending) :
    Turns (markPendingPayment checkoutId status failureReason) d x (fun _ => Advanced d x)
      (Advanced d x) := by
  refine .attempt (T := Advanced d x) ?_ fun _ _ h => h
  refine .outside_bind (.refl d x) <| .whenSome (fun p hp => ?_) fun _ => .refl d x
  have found : d.pendingPayments.find p.id = some p := Table.find_of_mem (List.mem_of_find?_eq_some hp)
  exact turns_status found undone (fun h => (closed h).elim) fun m hm => by cases hm; exact ⟨rfl, rfl⟩

theorem turns_applyCheckout {p : PendingPayment} (found : d.pendingPayments.find p.id = some p)
    (checkoutId : String) (checkout : Checkout) (new : NewCompletion) :
    Turns (applyCheckout p checkoutId checkout new) d x (fun _ => Advanced d x) (Advanced d x) := by
  have completes (c : Collection) : Turns ((completePayment c new).bind fun _ =>
      (Prog.outside fun d => d.pendingPayments.find p.id).bind fun _ => Prog.ret ()) d x
      (fun _ => Advanced d x) (Advanced d x) :=
    Advanced.bind (turns_completePayment d x c new) fun _ d' x' =>
      .outside_bind (.refl d' x') (.ret (.refl d' x'))
  unfold applyCheckout
  split
  · exact completes _
  · exact completes _
  · exact turns_status found (by simp) (by simp) (by simp)
  · exact turns_status found (by simp) (by simp) (by simp)
  · exact .ret (.refl d x)

theorem turns_getPendingPaymentStatus (id userId : Id) (new : NewCompletion) :
    Turns (getPendingPaymentStatus id userId new) d x (fun _ => Advanced d x) (Advanced d x) := by
  refine turns_findPendingPayment_bind (.refl d x) fun p found _ => .ensure_bind (.refl d x) fun _ => ?_
  refine Advanced.bind ?_ fun _ d' x' => ?_
  · refine .when (fun _ => .whenSome (fun checkoutId _ => ?_) fun _ => .refl d x) fun _ => .refl d x
    refine .attempt (T := Advanced d x) ?_ fun _ _ h => h
    refine (Turns.request (c := Call.getCheckoutSession checkoutId)
      (S := fun _ d' x' => d' = d ∧ x' = x) ⟨rfl, rfl⟩ (.refl d x) (.refl d x)).bind ?_
    rintro checkout d' x' ⟨rfl, rfl⟩
    exact turns_applyCheckout found checkoutId checkout new
  · refine .outside_bind (.refl d' x') <| .whenSome (fun q _ => ?_) fun _ => .refl d' x'
    exact .outside_bind (.refl d' x') <| .when
      (fun _ => turns_handlePaymentCompletedViaBachs d' x' _ _ _) fun _ => .refl d' x'

theorem turns_handleCheckoutCompleted (checkoutId : Option String) (metadata : CheckoutMetadata)
    (new : NewCompletion) :
    Turns (handleCheckoutCompleted checkoutId metadata new) d x (fun _ => Advanced d x)
      (Advanced d x) := by
  refine .orThrow_bind (.refl d x) fun id _ => ?_
  refine (Turns.request (c := Call.getCheckoutSession id) (S := fun _ d' x' => d' = d ∧ x' = x)
    ⟨rfl, rfl⟩ (.refl d x) (.refl d x)).bind ?_
  rintro checkout d' x' ⟨rfl, rfl⟩
  refine .when (fun _ => ?_) fun _ => .refl _ _
  exact .orThrow_bind (.refl _ _) fun chargeId _ => .orThrow_bind (.refl _ _) fun amount _ =>
    turns_completePayment _ _ _ new

theorem turns_handleCollectionSucceeded (checkoutId : Option String) (chargeId : String)
    (amountInBachs : Option BachsAmount) (metadata : CheckoutMetadata) (new : NewCompletion) :
    Turns (handleCollectionSucceeded checkoutId chargeId amountInBachs metadata new) d x
      (fun _ => Advanced d x) (Advanced d x) :=
  .orThrow_bind (.refl d x) fun _ _ => .orThrow_bind (.refl d x) fun _ _ =>
    (turns_completePayment d x _ new).onThrow fun _ _ _ h => .throw h

/-! ## A payment is initiated -/

/-- A pending row is closed so that a new one can be created. -/
inductive Closes (d : Db) : List Stmt → Prop where
  | nothing : Closes d []
  | row (p : PendingPayment) (patch : PendingPaymentPatch) (found : d.pendingPayments.find p.id = some p)
      (undone : patch.status ≠ .completed) (closed : patch.status ≠ .pending)
      (figures : ∀ m ∈ patch.metadata, SameFigures m p.metadata) :
    Closes d [.updatePendingPayment p patch]

/-- The transaction of `initiatePayment` goes on with a row, or creates one. -/
inductive OpenedTx (d : Db) (x : Services) (userId : Id) (data : PendingPaymentData) (fee : Int)
    (new : NewPendingPayment) : OpenPayment → List Stmt → Prop where
  | reuse (p : PendingPayment) (url : Option String)
      (reused : reusedPayment userId data new.now d x = some p)
      (own : url.isSome → p.bachsCheckoutId.isSome) :
    OpenedTx d x userId data fee new ⟨p, url⟩ []
  | create {F : List Stmt} (closes : Closes d F) :
    OpenedTx d x userId data fee new { row := pendingPaymentRow userId data fee new }
      (F ++ [.createPendingPayment (pendingPaymentRow userId data fee new)])

theorem within_createPendingPayment {userId : Id} {data : PendingPaymentData} {fee : Int}
    {new : NewPendingPayment} {F : List Stmt} (closes : Closes d F) :
    Within (createPendingPayment userId data fee new) d x F (OpenedTx d x userId data fee new) :=
  .exec_bind fun _ => .ret (.create closes)

/-- The checkout of `p` is still open, or its row was closed. -/
def FoundOpen (d : Db) (x : Services) (p : PendingPayment) (checkoutId : String) :
    Option OpenPayment → List Stmt → Prop
  | some found, F => F = [] ∧ found.row = p ∧ (x.checkout checkoutId).status = .open
  | none, F => Closes d F

theorem within_getCheckoutSession (checkoutId : String) :
    Within (BachsClient.getCheckoutSession checkoutId) d x []
      fun (checkout : Checkout) F => F = [] ∧ checkout = x.checkout checkoutId :=
  .request (c := Call.getCheckoutSession checkoutId) rfl ⟨rfl, rfl⟩

theorem within_checkExisting {p : PendingPayment} (found : d.pendingPayments.find p.id = some p)
    (checkoutId : String) : Within (checkExisting p checkoutId) d x [] (FoundOpen d x p checkoutId) := by
  have close {status : PendingPaymentStatus} (undone : status ≠ .completed)
      (closed : status ≠ .pending) : Closes d [.updatePendingPayment p { status }] :=
    .row p _ found undone closed (by simp)
  refine (within_getCheckoutSession checkoutId).bind ?_
  rintro checkout _ ⟨rfl, rfl⟩
  split
  · exact .ret ⟨rfl, rfl, by assumption⟩
  · exact .exec_bind fun _ => .ret (close (by simp) (by simp))
  · exact .exec_bind fun _ => .ret (close (by simp) (by simp))
  · exact .throw _

theorem within_openPendingPayment (userId : Id) (data : PendingPaymentData) (fee : Int)
    (new : NewPendingPayment) :
    Within (openPendingPayment userId data fee new) d x [] (OpenedTx d x userId data fee new) := by
  refine .query_bind <| .ensure_bind fun _ => .query_bind ?_
  cases existing : findExisting userId data (applyAll [] d) with
  | none => exact within_createPendingPayment .nothing
  | some p =>
    obtain ⟨found, -⟩ := find_of_findExisting existing
    change Within (reusePendingPayment userId data fee new p) _ _ _ _
    unfold reusePendingPayment
    split
    · refine .exec_bind fun _ => within_createPendingPayment ?_
      exact .row p _ found (by simp [withStatus]) (by simp [withStatus])
        fun m hm => by cases hm; exact ⟨rfl, rfl⟩
    · rename_i young
      have reused (usable : p.bachsCheckoutId.all fun id => (x.checkout id).status = .open) :
          reusedPayment userId data new.now d x = some p := by
        rw [reusedPayment, show findExisting userId data d = some p from existing, Option.filter_some,
          if_pos]
        simp only [Bool.decide_and, Bool.and_eq_true, decide_eq_true_eq]
        exact ⟨by omega, usable⟩
      split
      · rename_i bare
        exact .ret (.reuse p none (reused (by simp [bare])) (by simp))
      · rename_i checkoutId attached
        refine Within.bind (.onThrow (within_checkExisting found checkoutId)) fun opened F hF => ?_
        cases opened with
        | none => exact within_createPendingPayment hF
        | some opened =>
          obtain ⟨rfl, rfl, isOpen⟩ := hF
          exact .ret (.reuse _ _ (reused (by simp [attached, isOpen])) fun _ => by simp [attached])

end Heightt.BachsService
