import Heightt.Runs.CheckoutAmounts

/-!
# Collected money

What becomes of the money that a success event reports. The requests are served
in turn: a pending payment can be cancelled, can expire or fail, and its due can
be paid in another way, before the provider reports that it was collected. The
event is then refused, and changes nothing; an event that is not refused leaves a
payment and the credit of its organisation, from this request or an earlier one.
-/

namespace Heightt

open ReadCommitted Prog Store Database WalletService LedgerService FinanceService ReceiptService BachsService
  BachsWebhookController WithdrawalWebhookService

/-- A request to the finance services, webhook or job. -/
inductive FinanceRequest where
  | initiatePayment (config : CheckoutConfig) (userId : Id) (data : PendingPaymentData)
      (successUrl cancelUrl : Option String) (new : NewPendingPayment)
  | op (op : Op)

namespace FinanceRequest

def program : FinanceRequest → Action Unit
  | initiatePayment config userId data successUrl cancelUrl new =>
    (BachsService.initiatePayment config userId data successUrl cancelUrl new).bind fun _ => .ret ()
  | op o => o.program

end FinanceRequest

/-- The reference of the payment that an operation makes from a wallet. -/
def Op.paymentReference : Op → Option String
  | .executeInternalPayment _ _ _ new => some ("PAY_" ++ new.reference)
  | .executeManualPayment _ dto new => some (dto.reference.getD ("PAY_" ++ new.reference))
  | _ => none

def FinanceRequest.paymentReference : FinanceRequest → Option String
  | initiatePayment .. => none
  | op o => o.paymentReference

/-- A request that was served, with the states before and after it. -/
structure Handled where
  request : FinanceRequest
  before : Db
  after : Db

/-- The requests are served in turn, in any order, and any operation of theirs may fail. -/
inductive Ordered (db : Db) (ext : Services) : List Handled → Db → Services → Prop where
  | start : Ordered db ext [] db ext
  | request {past : List Handled} {d : Db} {x : Services} (r : FinanceRequest)
      (o : Outcome Db Services Stmt Failure Unit) : Ordered db ext past d x →
    r.program.Ends [] d x o → Ordered db ext (past ++ [⟨r, d, o.db⟩]) o.db o.ext
  | moved {past : List Handled} {d : Db} {x x' : Services} (m : Move) :
    Ordered db ext past d x → x.move m = some x' → Ordered db ext past d x'

/-- The collection that the details of a checkout report. -/
def Checkout.collection (checkout : Checkout) (checkoutId : String) (metadata : CheckoutMetadata) :
    Option Collection :=
  checkout.chargeId.bind fun chargeId => checkout.amount.map fun amountInBachs =>
    { checkoutId, chargeId, amountInBachs, metadata := checkout.metadata.getD metadata }

/-- The collection that the provider's answer to a poll for `p` reports. -/
def polled (x : Services) (p : PendingPayment) : Option Collection :=
  p.bachsCheckoutId.bind fun checkoutId =>
    if (x.checkout checkoutId).status = .completed ∨ (x.checkout checkoutId).status = .succeeded then
      (x.checkout checkoutId).collection checkoutId {}
    else none

/-- The collection that a success event reports, in the state that it is handled in. -/
def Op.reported (d : Db) (x : Services) : Op → Option Collection
  | .completePayment c _ => some c
  | .handleCollectionSucceeded (some checkoutId) chargeId (some amountInBachs) metadata _ =>
    some { checkoutId, chargeId, amountInBachs, metadata }
  | .handleCheckoutCompleted (some checkoutId) metadata _ =>
    if isPaid (x.checkout checkoutId).status then (x.checkout checkoutId).collection checkoutId metadata
    else none
  | .getPendingPaymentStatus id userId _ =>
    ((d.pendingPayments.find id).filter fun p => p.userId = userId ∧ p.status = .pending).bind (polled x)
  | _ => none

/-- A poll logs what the completion throws. -/
def Op.polls : Op → Bool
  | .getPendingPaymentStatus .. => true
  | _ => false

/-- The completion of `p` between the states records its payment and credits its organization.
A wallet of an organization that is marked as the platform's gets the fee instead. -/
structure Collected (d d' : Db) (p : PendingPayment) : Prop where
  row : d.pendingPayments.find p.id = some p
  pending : p.status = .pending
  payment : ∃ q ∈ d'.payments.rows, q.reference = p.reference ∧ q.organizationId = p.organizationId ∧
    q.amount = p.amount
  credit : ∃ o ∈ d'.wallets.rows, o.organizationId = some p.organizationId ∧ (o.isPlatformWallet = false →
    d'.value (.balance o.id) = d.value (.balance o.id) + p.amount)

/-- Where the payment of a reference comes from. -/
inductive Origin (db : Db) (past : List Handled) (reference : String) : Prop where
  | start (q : Payment) (hq : q ∈ db.payments.rows) (same : q.reference = reference)
  | wallet (h : Handled) (mem : h ∈ past) (same : h.request.paymentReference = some reference)
  | collected (h : Handled) (mem : h ∈ past) (p : PendingPayment) (same : p.reference = reference)
    (collected : Collected h.before h.after p)

/-- A collection for `p` is accounted for: there is a payment of its reference. -/
structure AccountedFor (db : Db) (past : List Handled) (d d' : Db) (p : PendingPayment) : Prop where
  completes : p.status = .pending ∨ ∃ q ∈ d.payments.rows, q.reference = p.reference
  payment : ∃ q ∈ d'.payments.rows, q.reference = p.reference
  origin : Origin db past p.reference

/-! ## What a request does to the payments -/

/-- The same payment, whose journal entry may have been linked. -/
def SamePayment (q q' : Payment) : Prop := q' = { q with journalEntryId := q'.journalEntryId }

theorem SamePayment.refl (q : Payment) : SamePayment q q := rfl

theorem SamePayment.trans {q q' q'' : Payment} (h : SamePayment q q') (h' : SamePayment q' q'') :
    SamePayment q q'' := by
  unfold SamePayment at h h' ⊢
  rw [h', h]

theorem SamePayment.reference {q q' : Payment} (h : SamePayment q q') : q'.reference = q.reference := by
  rw [h]

/-- The payments stay. -/
abbrev PaymentsKept (d d' : Db) : Prop := Table.Grows SamePayment d.payments d'.payments

theorem paymentsKept_refl (d : Db) : PaymentsKept d d := Table.Grows.refl .refl d.payments

theorem PaymentsKept.trans {d d' d'' : Db} (h : PaymentsKept d d') (h' : PaymentsKept d' d'') :
    PaymentsKept d d'' := Table.Grows.trans SamePayment.trans h h'

theorem PaymentsKept.reference {d d' : Db} (h : PaymentsKept d d') {reference : String}
    (found : ∃ q ∈ d.payments.rows, q.reference = reference) :
    ∃ q ∈ d'.payments.rows, q.reference = reference := by
  obtain ⟨q, hq, same⟩ := found
  obtain ⟨q', hq', kept⟩ := h _ q (Table.find_of_mem hq)
  exact ⟨q', Table.find_mem hq', kept.reference.trans same⟩

theorem paymentsKept_apply (s : Stmt) (d : Db) : PaymentsKept d (s.apply d) := by
  cases s with
  | createPayment p => exact Table.grows_insert .refl _ _
  | updatePayment id journalEntryId =>
    exact Table.grows_modify (f := fun p : Payment => { p with journalEntryId := some journalEntryId })
      (fun _ => rfl) SamePayment.refl fun _ _ => rfl
  | _ => exact paymentsKept_refl d

theorem paymentsKept_applyAll (F : List Stmt) (d : Db) : PaymentsKept d (applyAll F d) := by
  induction F generalizing d with
  | nil => exact paymentsKept_refl d
  | cons s F ih => exact (paymentsKept_apply s d).trans (ih (s.apply d))

/-- A payment that is created is there when the transaction has committed. -/
theorem payment_created {F : List Stmt} {q : Payment} {d : Db} (created : .createPayment q ∈ F)
    (valid : violation F d = none) : ∃ q', (applyAll F d).payments.find q.id = some q' ∧ SamePayment q q' := by
  induction F generalizing d with
  | nil => cases created
  | cons s F ih =>
    obtain ⟨ok, valid⟩ := violation_cons.1 valid
    rcases List.mem_cons.1 created with rfl | created
    · have free : d.payments.find q.id = none := by
        have := (Option.or_eq_none_iff.1 ok).1
        simpa [Stmt.unique_eq_none] using this
      have inserted := (Table.find_insert free q.id).trans (if_pos rfl)
      exact paymentsKept_applyAll F (Stmt.apply (.createPayment q) d) q.id q inserted
    · exact ih created valid

/-- The statement creates no payment, or one of this reference. -/
def Stmt.paysAs (reference : Option String) : Stmt → Prop
  | .createPayment q => some q.reference = reference
  | _ => True

/-- The payments the statements create have this reference. -/
def PaysAs (reference : Option String) (F : List Stmt) : Prop := ∀ s ∈ F, s.paysAs reference

/-- Every payment was there, or has this reference. -/
def PaidAs (reference : Option String) (d d' : Db) : Prop :=
  ∀ q' ∈ d'.payments.rows, (∃ q ∈ d.payments.rows, q.reference = q'.reference) ∨
    reference = some q'.reference

theorem paidAs_refl (reference : Option String) (d : Db) : PaidAs reference d d :=
  fun q hq => .inl ⟨q, hq, rfl⟩

theorem PaidAs.trans {reference : Option String} {d d' d'' : Db} (h : PaidAs reference d d')
    (h' : PaidAs reference d' d'') : PaidAs reference d d'' := by
  intro q'' hq''
  rcases h' q'' hq'' with ⟨q', hq', same⟩ | same
  · rw [← same]
    exact h q' hq'
  · exact .inr same

theorem paidAs_apply {reference : Option String} {s : Stmt} (h : s.paysAs reference) (d : Db) :
    PaidAs reference d (s.apply d) := by
  intro q' hq'
  cases s with
  | createPayment p =>
    by_cases free : d.payments.find p.id = none
    · have rows := Table.insert_rows (r := p) free
      rw [Stmt.apply, rows, List.mem_append, List.mem_singleton] at hq'
      rcases hq' with hq' | rfl
      · exact .inl ⟨q', hq', rfl⟩
      · exact .inr h.symm
    · rw [Table.find_eq_none, not_not] at free
      rw [Stmt.apply, Table.insert, dif_pos free] at hq'
      exact .inl ⟨q', hq', rfl⟩
  | updatePayment id journalEntryId =>
    rw [Stmt.apply, Table.modify_rows, List.mem_map] at hq'
    obtain ⟨q, hq, rfl⟩ := hq'
    refine .inl ⟨q, hq, ?_⟩
    split <;> rfl
  | _ => exact .inl ⟨q', hq', rfl⟩

theorem paidAs_applyAll {reference : Option String} {F : List Stmt} (h : PaysAs reference F) (d : Db) :
    PaidAs reference d (applyAll F d) := by
  induction F generalizing d with
  | nil => exact paidAs_refl reference d
  | cons s F ih =>
    obtain ⟨hs, hF⟩ := List.forall_mem_cons.1 h
    exact (paidAs_apply hs d).trans (ih hF (s.apply d))

theorem PaysAs.nil {reference : Option String} : PaysAs reference [] := List.forall_mem_nil _

theorem PaysAs.cons {reference : Option String} {s : Stmt} {F : List Stmt} (hs : s.paysAs reference)
    (hF : PaysAs reference F) : PaysAs reference (s :: F) := List.forall_mem_cons.2 ⟨hs, hF⟩

theorem PaysAs.append {reference : Option String} {F G : List Stmt} (hF : PaysAs reference F)
    (hG : PaysAs reference G) : PaysAs reference (F ++ G) :=
  fun s hs => (List.mem_append.1 hs).elim (hF s) (hG s)

section

variable (reference : Option String)

theorem paysAs_moveWallet (w : Wallet) (δ : Int) : PaysAs reference (moveWallet w δ) :=
  .cons trivial (.cons trivial .nil)

theorem paysAs_duePaid {paymentId : Id} {amount : Int} {F : List Stmt} (h : DuePaid paymentId amount F) :
    PaysAs reference F := by
  cases h with
  | none => exact .nil
  | part p hp => exact .cons trivial .nil
  | full p hp => exact .cons trivial (.cons trivial .nil)

theorem paysAs_receiptTx {paymentId : Id} {new : NewReceipt} {F : List Stmt} (h : ReceiptTx paymentId new F) :
    PaysAs reference F := by
  cases h
  exact .cons trivial .nil

theorem paysAs_statusTx {F : List Stmt} (h : StatusTx F) : PaysAs reference F := by
  cases h with
  | update p patch _ => exact .cons trivial .nil
  | expire cutoff => exact .cons trivial .nil

theorem paysAs_setupTx {F : List Stmt} (h : SetupTx F) : PaysAs reference F := by
  cases h with
  | createWallet _ _ _ _ => exact .cons trivial (.cons trivial (.cons trivial (.cons trivial .nil)))
  | _ => exact .cons trivial .nil

theorem paysAs_journal {data : JournalData} {new : NewEntry} {J : List Stmt} (h : Journal data new J) :
    PaysAs reference J := by
  obtain ⟨G, hG, rfl⟩ := h
  refine .cons trivial ?_
  generalize data.lines = ls at hG
  induction hG with
  | nil => exact .nil
  | cons l base rest ih => exact .cons trivial (.cons trivial ih)

theorem paysAs_systemAccountWrites (found : Bool) (a : SystemAccount) (δ : Int) :
    PaysAs reference (systemAccountWrites found a δ) := by
  unfold systemAccountWrites
  split
  · exact .cons trivial .nil
  · exact .nil

/-- No payment is among statements that are all of one kind. -/
theorem paysAs_map {α : Type} (as : List α) {f : α → Stmt} (h : ∀ a, (f a).paysAs reference) :
    PaysAs reference (as.map f) := by
  intro s hs
  obtain ⟨a, -, rfl⟩ := List.mem_map.1 hs
  exact h a

theorem paysAs_feeReversal {w : Withdrawal} {R : List Stmt} (h : FeeReversal w R) : PaysAs reference R := by
  cases h with
  | none _ => exact .nil
  | reverse _ entry wallet clearing _ =>
    refine PaysAs.append (paysAs_map reference _ fun _ => trivial) (PaysAs.append ?_
      (paysAs_systemAccountWrites reference _ _ _))
    cases wallet with
    | none => exact .nil
    | some v => exact .cons trivial (.cons trivial .nil)

theorem paysAs_requestTx {id : Id} {amount fee : Int} {F : List Stmt} (h : RequestTx id amount fee F) :
    PaysAs reference F := by
  cases h with
  | mk w v holdId records _ _ _ =>
    have holds : PaysAs reference (holdWrites w v holdId) :=
      .cons trivial (.cons trivial (.cons trivial (.cons trivial .nil)))
    exact holds.append (paysAs_map reference records fun _ => trivial)

theorem paysAs_settlementTx {k : Settlement} {id : Id} {new : NewSettlement} {F : List Stmt}
    (h : SettlementTx k id new F) : PaysAs reference F := by
  have refunds (w : Withdrawal) (clearing : Bool) : PaysAs reference (refundWrites w clearing) :=
    .cons trivial (paysAs_systemAccountWrites reference _ _ _)
  cases h with
  | settle w v e J _ _ _ _ journal =>
    refine .cons trivial (PaysAs.append ?_ (.cons trivial (.cons trivial (.cons trivial (.cons trivial .nil)))))
    cases journal with
    | posted h => exact paysAs_journal reference h
    | reused _ _ => exact .nil
  | allocate w payout p J _ _ _ journal =>
    exact (paysAs_journal reference journal).append (.cons trivial (.cons trivial .nil))
  | charge w payout wallet clearing _ _ =>
    refine PaysAs.append (.cons trivial (PaysAs.append ?_ ?_)) (.cons trivial .nil)
    · cases wallet with
      | true => exact .cons trivial .nil
      | false => exact .nil
    · exact (paysAs_systemAccountWrites reference _ _ _).append (paysAs_map reference _ fun _ => trivial)
  | record w payout _ _ _ => exact .cons trivial .nil
  | compensate w clearing R _ _ reversal =>
    exact .cons trivial (.cons trivial (PaysAs.append (refunds w clearing)
      (PaysAs.append (paysAs_map reference _ fun _ => trivial) (paysAs_feeReversal reference reversal))))

theorem paysAs_webhookTx {F : List Stmt} (h : WebhookTx F) : PaysAs reference F := by
  cases h with
  | succeeded w _ => exact .cons trivial (.cons trivial .nil)
  | failed w v clearing R _ _ reversal =>
    have refunds : PaysAs reference (failedRefund w clearing) := by
      unfold failedRefund
      split
      · exact .cons trivial (paysAs_systemAccountWrites reference _ _ _)
      · exact .nil
    exact .cons trivial (.cons trivial (.cons trivial (PaysAs.append refunds
      (PaysAs.append (paysAs_map reference _ fun _ => trivial)
        (PaysAs.append (paysAs_feeReversal reference reversal) (.cons trivial .nil))))))
  | pending w _ => exact .cons trivial (.cons trivial .nil)

theorem paysAs_settleRequestTx {k : Settlement} {id : Id} {amount fee : Int} {new : NewSettlement}
    {F : List Stmt} (h : RequestAndSettleTx k id amount fee new F) : PaysAs reference F := by
  cases h with
  | request h => exact paysAs_requestTx reference h
  | settlement h => exact paysAs_settlementTx reference h

end

/-- The operation completes external payments. -/
def Op.completes : Op → Bool
  | .completePayment .. | .handleCheckoutCompleted .. | .handleCollectionSucceeded ..
  | .getPendingPaymentStatus .. => true
  | _ => false

/-- The other operations create no payments but those of their reference. -/
theorem Op.paysAs_of_tx {op : Op} (other : op.completes = false) {F : List Stmt} (h : op.Tx F) :
    PaysAs op.paymentReference F := by
  cases op with
  | creditWallet dto new =>
    obtain ⟨w, t⟩ := h
    exact .cons trivial (.cons trivial ((paysAs_moveWallet _ w _).append (.cons trivial .nil)))
  | debitWallet dto new =>
    obtain ⟨w, t, -⟩ := h
    exact .cons trivial (.cons trivial ((paysAs_moveWallet _ w _).append (.cons trivial .nil)))
  | depositToSavings userId dto new =>
    obtain ⟨w, t, -, -⟩ := h
    exact .cons trivial (.cons trivial (.cons trivial (.cons trivial
      ((paysAs_moveWallet _ w _).append (.cons trivial .nil)))))
  | executeInternalPayment config userId dto new =>
    cases h with
    | payment u o p created due _ paid =>
      refine PaysAs.append (paysAs_map _ _ fun _ => trivial) (PaysAs.append (paysAs_moveWallet _ u _)
        (PaysAs.append (paysAs_moveWallet _ o _) (PaysAs.append (paysAs_moveWallet _ p _)
          (.cons trivial (.cons rfl (.cons trivial ?_))))))
      exact (paysAs_duePaid _ paid).append (.cons trivial .nil)
    | journal u o p J journal => exact paysAs_journal _ journal
    | receipt h => exact paysAs_receiptTx _ h
  | executeManualPayment userId dto new =>
    cases h with
    | payment u o due _ paid =>
      refine .cons trivial (.cons trivial ((paysAs_moveWallet _ u _).append (.cons trivial
        ((paysAs_moveWallet _ o _).append (.cons rfl (.cons trivial (.cons trivial ?_)))))))
      exact (paysAs_duePaid _ paid).append (.cons trivial .nil)
    | journal u o J journal => exact paysAs_journal _ journal
    | receipt h => exact paysAs_receiptTx _ h
  | requestUserWithdrawal config userId dto new => exact paysAs_requestTx _ h
  | requestOrganizationWithdrawal config userId organizationId dto new settlement =>
    exact paysAs_settleRequestTx _ h
  | requestPlatformWithdrawal config userId dto new settlement => exact paysAs_settleRequestTx _ h
  | settleWithdrawal id new => exact paysAs_settlementTx _ h
  | approveUserWithdrawal id adminUserId new => exact paysAs_settlementTx _ h
  | approvePlatformWithdrawal id adminUserId allow new => exact paysAs_settlementTx _ h
  | rejectUserWithdrawal id adminUserId =>
    obtain ⟨w, v, -, -, -⟩ := h
    exact .cons trivial (.cons trivial (.cons trivial (.cons trivial .nil)))
  | processWebhook isValid hook => exact paysAs_webhookTx _ h
  | deliverWebhook n => exact paysAs_webhookTx _ h
  | reconcileStaleProcessingWithdrawals staleBefore => exact paysAs_webhookTx _ h
  | completePayment collection new => cases other
  | handleCheckoutCompleted checkoutId metadata new => cases other
  | handleCollectionSucceeded checkoutId chargeId amount metadata new => cases other
  | getPendingPaymentStatus id userId new => cases other
  | handleCollectionFailed checkoutId reason => exact paysAs_statusTx _ h
  | handleCollectionUnderpaid checkoutId paid expected => exact paysAs_statusTx _ h
  | handleCheckoutExpired checkoutId => exact paysAs_statusTx _ h
  | cancelPendingPayment id userId => exact paysAs_statusTx _ h
  | cleanupExpiredPayments cutoff => exact paysAs_statusTx _ h
  | retryFailedPayment id => exact paysAs_statusTx _ h
  | createJournalEntry data new => exact paysAs_journal _ h
  | reverseJournalEntry id reason new =>
    cases h with
    | mirror e J _ _ journal => exact paysAs_journal _ journal
    | mark => exact .cons trivial .nil

theorem Op.paysAs_of_commits {op : Op} (other : op.completes = false) {F : List Stmt} (h : op.Commits F) :
    PaysAs op.paymentReference F := by
  cases h with
  | read => exact .nil
  | record t => exact .cons trivial .nil
  | setup nested h _ => exact paysAs_setupTx _ h
  | own h => exact op.paysAs_of_tx other h

/-- The payments stay, and the new ones have this reference. -/
structure Pays (reference : Option String) (d d' : Db) : Prop where
  kept : PaymentsKept d d'
  paid : PaidAs reference d d'

theorem Pays.of_eq {reference : Option String} {d d' : Db} (h : d'.payments = d.payments) :
    Pays reference d d' where
  kept := by
    rw [PaymentsKept, h]
    exact paymentsKept_refl d
  paid := by
    unfold PaidAs
    rw [h]
    exact paidAs_refl reference d

theorem turns_paysAs {op : Op} (other : op.completes = false) (d : Db) (x : Services) :
    Turns op.program d x (fun _ d' _ => Pays op.paymentReference d d')
      fun d' _ => Pays op.paymentReference d d' := by
  refine (Turns.of_makes op.makes (fun d' _ => Pays op.paymentReference d d') ?_
    (fun _ _ _ _ h => h) (.of_eq rfl)).mono (fun _ _ _ h => h.1) fun _ _ h => h
  intro d' x' nested F hF valid pays
  have more := Op.paysAs_of_commits other (Op.commits_of_emits hF)
  exact ⟨pays.kept.trans (paymentsKept_applyAll F d'), pays.paid.trans (paidAs_applyAll more d')⟩

theorem paysAs_openedTx {d : Db} {x : Services} {userId : Id} {data : PendingPaymentData} {fee : Int}
    {new : NewPendingPayment} {found : OpenPayment} {F : List Stmt}
    (h : OpenedTx d x userId data fee new found F) : ∀ s ∈ F, ∀ d : Db, (s.apply d).payments = d.payments := by
  intro s hs d'
  cases h with
  | reuse p url _ _ => cases hs
  | create closes =>
    rcases List.mem_append.1 hs with hs | hs
    · cases closes with
      | nothing => cases hs
      | row p patch _ _ _ _ =>
        cases List.mem_singleton.1 hs
        rfl
    · cases List.mem_singleton.1 hs
      rfl

/-- A request for a payment changes no payments. -/
theorem turns_initiatePayment_payments {d : Db} {x : Services} (config : CheckoutConfig) (userId : Id)
    (data : PendingPaymentData) (successUrl cancelUrl : Option String) (new : NewPendingPayment) :
    Turns (BachsService.initiatePayment config userId data successUrl cancelUrl new) d x
      (fun _ d' _ => d'.payments = d.payments) fun d' _ => d'.payments = d.payments := by
  have prepared : Turns (preparePayment config userId data new) d x
      (fun _ d' _ => d'.payments = d.payments) fun d' _ => d'.payments = d.payments := by
    refine .ensure_bind rfl fun _ => .outside_bind rfl <| .orThrow_bind rfl fun _ _ => ?_
    refine (Turns.request (c := Call.getOrCreateCustomer) (S := fun _ d' x' => d' = d ∧ x' = x)
      ⟨rfl, rfl⟩ rfl rfl).bind ?_
    rintro _ d' x' ⟨rfl, rfl⟩
    refine (Turns.transaction (T := fun d'' _ => d''.payments = d'.payments)
      (within_openPendingPayment userId data _ new) (fun found F hF _ => ?_) rfl).onThrow
        fun _ _ _ h => .throw h
    exact applyAll_keeps Db.payments (paysAs_openedTx hF) d'
  refine prepared.bind fun found d₁ x₁ same => ?_
  cases found.checkoutUrl.filter fun url => url ≠ "" with
  | some url => exact .ret same
  | none =>
    refine (turns_validateRedirectUrl config _ _ same).bind ?_
    rintro _ d₂ x₂ ⟨rfl, rfl⟩
    refine (turns_validateRedirectUrl config _ _ same).bind ?_
    rintro _ d₂ x₂ ⟨rfl, rfl⟩
    refine (Turns.request (c := Call.createCheckoutSession _) (S := fun _ d' _ => d' = d₂) rfl same
      same).bind ?_
    rintro _ d₃ x₃ rfl
    exact (Turns.statement (S := fun _ (d' : Db) _ => d'.payments = d.payments) (fun _ => same) same).bind
      fun _ _ _ h => .ret h

/-! ## What a completion does -/

/-- The payment of a completion is the only one that it creates. -/
theorem paysAs_completion {d : Db} {p : PendingPayment} {F : List Stmt} (h : CompletionTx d p F) :
    PaysAs (some p.reference) F := by
  obtain ⟨c, new, o, platform, base, S, S', S'', due, found, pending, opens, organization, fee, charged,
    paid⟩ := h
  have opened : PaysAs (some p.reference) (S ++ S' ++ S'') := by
    intro s hs
    have := opens s hs
    cases s with
    | createPayment q => exact this.elim
    | _ => trivial
  have charged : PaysAs (some p.reference) (platform.toList.flatMap fun w => moveWallet w (platformFee p)) := by
    cases platform with
    | none => exact .nil
    | some w =>
      rw [Option.toList_some, List.flatMap_singleton]
      exact paysAs_moveWallet _ w _
  refine PaysAs.append opened (.cons trivial (.cons trivial ?_))
  refine PaysAs.append (paysAs_moveWallet _ o _) (PaysAs.append charged ?_)
  refine .cons trivial (.cons rfl (.cons trivial (.cons trivial (.cons trivial ?_))))
  exact PaysAs.append (paysAs_duePaid _ paid) (.cons trivial (.cons trivial .nil))

theorem collected_of_completionTx {d : Db} {p : PendingPayment} {F : List Stmt} (h : CompletionTx d p F)
    (valid : violation F d = none) : Collected d (applyAll F d) p := by
  have keeps := keepsApart_completion h
  obtain ⟨c, new, o, platform, base, S, S', S'', due, found, pending, opens, organization, fee, charged,
    paid⟩ := h
  refine ⟨found, pending, ?_, ?_⟩
  · obtain ⟨q, hq, same⟩ := payment_created (q := paymentRow p c new)
      (by simp [creditWrites]) valid
    refine ⟨q, Table.find_mem hq, same.reference, ?_, ?_⟩
    · rw [same]
      rfl
    · rw [same]
      rfl
  · have split : S ++ S' ++ S'' ++ creditWrites p c (expectedSettlementAmount p) o platform base due new =
        S ++ (S' ++ S'' ++ creditWrites p c (expectedSettlementAmount p) o platform base due new) := by
      simp only [List.append_assoc]
    obtain ⟨o', findO', orgO', markO'⟩ := wallet_row_applyAll
      (F := S' ++ S'' ++ creditWrites p c (expectedSettlementAmount p) o platform base due new)
      (Table.find_of_mem (List.mem_of_find?_eq_some organization))
      fun s hs => keeps s (split ▸ List.mem_append_right _ hs)
    rw [← applyAll_append, ← split] at findO'
    have orgO : o.organizationId = some p.organizationId := by simpa using List.find?_some organization
    have idO' : o'.id = o.id := Table.find_key findO'
    refine ⟨o', Table.find_mem findO', orgO'.trans orgO, fun unmarked => ?_⟩
    have values := wallets_credited opens valid (markO' ▸ unmarked) organization fee paid o.id
    rw [if_pos rfl] at values
    rw [idO', values]
    cases platform with
    | none => exact add_zero _
    | some w =>
      have distinct := distinct_of_unmarked (fun s hs => opens s (List.mem_append_left _ hs))
        (markO' ▸ unmarked) organization fee w rfl
      exact (congrArg _ (if_neg distinct.symm)).trans (add_zero _)

theorem Collected.receipted {d d₁ d' : Db} {p : PendingPayment} (h : Collected d d₁ p)
    (receipted : Receipted d₁ d') : Collected d d' p := by
  rw [receipted]
  exact ⟨h.row, h.pending, h.payment, h.credit⟩

/-- The payments and the wallets stay as they are. -/
structure Leaves (d d' : Db) : Prop where
  payments : d'.payments = d.payments
  wallets : d'.wallets = d.wallets

/-- What a request that completes payments does, with the collection that it reports. -/
inductive Handles (reported : Option Collection) (d d' : Db) : Prop where
  | concluded (c : Collection) (hc : reported = some c) (h : ConcludedBy c d d')
  | refused (h : Receipted d d')
  | unreported (h : reported = none) (leaves : Leaves d d')

theorem Handles.receipted {reported : Option Collection} {d d₁ d' : Db} (h : Handles reported d d₁)
    (receipted : Receipted d₁ d') : Handles reported d d' := by
  cases h with
  | concluded c hc h =>
    obtain ⟨d₂, p, concluded, before⟩ := h
    exact .concluded c hc ⟨d₂, p, concluded, before.trans receipted⟩
  | refused h => exact .refused (h.trans receipted)
  | unreported h leaves =>
    refine .unreported h ?_
    rw [receipted]
    exact ⟨leaves.payments, leaves.wallets⟩

theorem Handles.pays {reported : Option Collection} {d d' : Db} (h : Handles reported d d') :
    PaymentsKept d d' ∧ ∀ q' ∈ d'.payments.rows, (∃ q ∈ d.payments.rows, q.reference = q'.reference) ∨
      ∃ p, p.reference = q'.reference ∧ Collected d d' p := by
  have leaves (same : d'.payments = d.payments) : PaymentsKept d d' ∧ ∀ q' ∈ d'.payments.rows,
      (∃ q ∈ d.payments.rows, q.reference = q'.reference) ∨
        ∃ p, p.reference = q'.reference ∧ Collected d d' p := by
    have pays : Pays none d d' := .of_eq same
    exact ⟨pays.kept, fun q' hq' => (pays.paid q' hq').imp_right fun h => by cases h⟩
  cases h with
  | concluded c _ h =>
    obtain ⟨d₁, p, concluded, receipted⟩ := h
    have payments : d'.payments = d₁.payments := by rw [receipted]
    cases concluded with
    | found _ _ _ _ unchanged =>
      subst unchanged
      exact leaves payments
    | completed _ F tx valid committed =>
      subst committed
      have collected := (collected_of_completionTx tx valid).receipted receipted
      rw [PaymentsKept, payments]
      refine ⟨paymentsKept_applyAll F d, fun q' hq' => ?_⟩
      rcases paidAs_applyAll (paysAs_completion tx) d q' hq' with before | same
      · exact .inl before
      · exact .inr ⟨p, Option.some.inj same, collected⟩
  | refused h => exact leaves (by rw [h])
  | unreported _ h => exact leaves h.payments

/-! ## Events -/

theorem turns_handleCheckoutCompleted_handles (checkoutId : String) (metadata : CheckoutMetadata)
    (new : NewCompletion) (d : Db) (x : Services) :
    Turns (handleCheckoutCompleted (some checkoutId) metadata new) d x
      (fun _ d' _ => Receipted d d' ∧ isPaid (x.checkout checkoutId).status = false ∨
        isPaid (x.checkout checkoutId).status = true ∧
          ∃ c ∈ (x.checkout checkoutId).collection checkoutId metadata, ConcludedBy c d d')
      fun d' _ => d' = d := by
  refine (Turns.request (c := Call.getCheckoutSession checkoutId) (S := fun checkout d' x' => d' = d ∧
    x' = x ∧ checkout = x.checkout checkoutId) ⟨rfl, rfl, rfl⟩ rfl rfl).bind ?_
  rintro checkout d' x' ⟨rfl, rfl, rfl⟩
  refine .when (fun paid => ?_) fun unpaid => .inl ⟨.refl _, by simpa using unpaid⟩
  refine .orThrow_bind rfl fun chargeId charge => .orThrow_bind rfl fun amount settled => ?_
  refine (turns_completePayment_concluded _ new _ _).mono (fun _ d' _ h => .inr ⟨paid, _, ?_, h⟩) fun _ _ h => h
  simp [Checkout.collection, charge, settled]

theorem turns_applyCheckout_handles {p : PendingPayment} {checkoutId : String} {d : Db} {x : Services}
    (attached : p.bachsCheckoutId = some checkoutId) (new : NewCompletion) :
    Turns (applyCheckout p checkoutId (x.checkout checkoutId) new) d x
      (fun _ d' _ => Handles (polled x p) d d') fun d' _ => Handles (polled x p) d d' := by
  have completes (c : Collection) (reported : polled x p = some c) : Turns ((completePayment c new).bind
      fun _ => (Prog.outside fun d => d.pendingPayments.find p.id).bind fun _ => Prog.ret ()) d x
        (fun _ d' _ => Handles (polled x p) d d') fun d' _ => Handles (polled x p) d d' := by
    refine Turns.bind (S := fun _ d' _ => Handles (polled x p) d d')
      ((turns_completePayment_concluded c new d x).mono (fun _ _ _ h => .concluded c reported h) ?_)
      fun _ d' x' h => .outside_bind h (.ret h)
    rintro d' - rfl
    exact .refused (.refl d')
  have updates (patch : PendingPaymentPatch) (reported : polled x p = none) :
      Turns (statement (.updatePendingPayment p patch) : Action Unit) d x
        (fun _ d' _ => Handles (polled x p) d d') fun d' _ => Handles (polled x p) d d' :=
    .statement (fun _ => .unreported reported ⟨rfl, rfl⟩) (.refused (.refl d))
  unfold applyCheckout
  split
  · rename_i status charge settled
    exact completes _ (by simp [polled, attached, Checkout.collection, status, charge, settled])
  · rename_i status charge settled
    exact completes _ (by simp [polled, attached, Checkout.collection, status, charge, settled])
  · rename_i status
    exact updates _ (by simp [polled, attached, status])
  · rename_i status
    exact updates _ (by simp [polled, attached, status])
  · exact .ret (.refused (.refl d))

theorem turns_getPendingPaymentStatus_handles (id userId : Id) (new : NewCompletion) (d : Db)
    (x : Services) :
    let reported := (Op.getPendingPaymentStatus id userId new).reported d x
    Turns (getPendingPaymentStatus id userId new) d x (fun _ d' _ => Handles reported d d')
      fun d' _ => Handles reported d d' := by
  intro reported
  have start : Handles reported d d := .refused (.refl d)
  refine turns_findPendingPayment_bind start fun p found hid => .ensure_bind start fun own => ?_
  refine Turns.bind (S := fun _ d' _ => Handles reported d d') ?_ fun _ d₁ x₁ handles => ?_
  · refine .when (fun pending => .whenSome (fun checkoutId attached => ?_) fun _ => start) fun _ => start
    have same : reported = polled x p := by
      subst hid
      simp [reported, Op.reported, Option.filter, found, own, pending]
    refine .attempt (T := fun d' _ => Handles reported d d') ?_ fun _ _ h => h
    refine (Turns.request (c := Call.getCheckoutSession checkoutId) (S := fun checkout d' x' => d' = d ∧
      x' = x ∧ checkout = x.checkout checkoutId) ⟨rfl, rfl, rfl⟩ start start).bind ?_
    rintro checkout d' x' ⟨rfl, rfl, rfl⟩
    rw [same]
    exact turns_applyCheckout_handles attached new
  · refine .outside_bind handles <| .whenSome (fun q _ => ?_) fun _ => handles
    refine .outside_bind handles <| .when (fun _ => ?_) fun _ => handles
    exact (turns_handlePaymentCompleted_receipted _ _ _ d₁ x₁).mono (fun _ _ _ h => handles.receipted h)
      fun _ _ h => h

/-- An event that is not a poll reports what it does not conclude. -/
theorem turns_handles {op : Op} (completes : op.completes = true) (d : Db) (x : Services) :
    Turns op.program d x (fun _ d' _ => Handles (op.reported d x) d d' ∧
        (op.polls = false → ∀ c ∈ op.reported d x, ConcludedBy c d d'))
      fun d' _ => Handles (op.reported d x) d d' := by
  have unchanged {reported : Option Collection} : ∀ d' (_ : Services), d' = d → Handles reported d d' := by
    rintro d' - rfl
    exact .refused (.refl d')
  cases op with
  | completePayment c new =>
    refine (turns_completePayment_concluded c new d x).mono (fun _ d' _ h => ?_) unchanged
    exact ⟨.concluded c rfl h, fun _ c' hc' => by cases hc'; exact h⟩
  | handleCollectionSucceeded checkoutId chargeId amountInBachs metadata new =>
    cases checkoutId with
    | none => exact .throw (unchanged d x rfl)
    | some id =>
      cases amountInBachs with
      | none => exact .throw (unchanged d x rfl)
      | some amount =>
        refine Turns.mono (Turns.onThrow (turns_completePayment_concluded _ new d x)
          fun _ _ _ h => .throw h) (fun _ d' _ h => ?_) unchanged
        exact ⟨.concluded _ rfl h, fun _ c' hc' => by cases hc'; exact h⟩
  | handleCheckoutCompleted checkoutId metadata new =>
    cases checkoutId with
    | none => exact .throw (unchanged d x rfl)
    | some id =>
      refine (turns_handleCheckoutCompleted_handles id metadata new d x).mono ?_ unchanged
      rintro _ d' - (⟨receipted, unpaid⟩ | ⟨paid, c, hc, h⟩)
      · refine ⟨.refused receipted, fun _ c hc => ?_⟩
        rw [Op.reported, unpaid, if_neg (by simp)] at hc
        cases hc
      · have reported : Op.reported d x (.handleCheckoutCompleted (some id) metadata new) = some c := by
          rw [Op.reported, if_pos paid]
          exact hc
        rw [reported]
        exact ⟨.concluded c rfl h, fun _ c' hc' => by cases hc'; exact h⟩
  | getPendingPaymentStatus id userId new =>
    exact (turns_getPendingPaymentStatus_handles id userId new d x).mono
      (fun _ _ _ h => ⟨h, fun polls => by cases polls⟩) fun _ _ h => h
  | _ => cases completes

/-! ## Runs -/

/-- A request keeps the payments, and a new one is paid from a wallet or collected. -/
structure Serves (r : FinanceRequest) (d d' : Db) : Prop where
  kept : PaymentsKept d d'
  paid : ∀ q' ∈ d'.payments.rows, (∃ q ∈ d.payments.rows, q.reference = q'.reference) ∨
    r.paymentReference = some q'.reference ∨ ∃ p, p.reference = q'.reference ∧ Collected d d' p

theorem Pays.serves {r : FinanceRequest} {d d' : Db} (h : Pays r.paymentReference d d') : Serves r d d' :=
  ⟨h.kept, fun q' hq' => (h.paid q' hq').imp_right .inl⟩

theorem turns_serves (r : FinanceRequest) (d : Db) (x : Services) :
    Turns r.program d x (fun _ d' _ => Serves r d d') fun d' _ => Serves r d d' := by
  cases r with
  | initiatePayment config userId data successUrl cancelUrl new =>
    refine ((turns_initiatePayment_payments config userId data successUrl cancelUrl new).mono
      (fun _ _ _ h => h) fun d' _ h => (Pays.of_eq h).serves).bind fun _ d' x' h => .ret ?_
    exact (Pays.of_eq h).serves
  | op op =>
    by_cases completes : op.completes = true
    · have serves {d' : Db} (h : Handles (op.reported d x) d d') : Serves (.op op) d d' :=
        ⟨h.pays.1, fun q' hq' => (h.pays.2 q' hq').imp_right .inr⟩
      exact (turns_handles completes d x).mono (fun _ _ _ h => serves h.1) fun _ _ h => serves h
    · exact (turns_paysAs (Bool.eq_false_iff.2 completes) d x).mono
        (fun _ _ _ h => Pays.serves (r := .op op) h) fun _ _ h => Pays.serves (r := .op op) h

theorem serves_of_ends {r : FinanceRequest} {d : Db} {x : Services} {o : Outcome Db Services Stmt Failure Unit}
    (ends : r.program.Ends [] d x o) : Serves r d o.db := by
  obtain ⟨-, post⟩ := turns_serves r d x o ends
  obtain ⟨result, frames, d', x'⟩ := o
  cases result with
  | ok a => exact post
  | error e => exact post

theorem Origin.later {db : Db} {past : List Handled} {reference : String} (h : Origin db past reference)
    (handled : Handled) : Origin db (past ++ [handled]) reference := by
  cases h with
  | start q hq same => exact .start q hq same
  | wallet h mem same => exact .wallet h (List.mem_append_left _ mem) same
  | collected h mem p same collected => exact .collected h (List.mem_append_left _ mem) p same collected

/-- A payment after a request has an origin, if those before it have one. -/
theorem origin_of_serves {db d d' : Db} {past : List Handled} {r : FinanceRequest} (h : Serves r d d')
    (origins : ∀ q ∈ d.payments.rows, Origin db past q.reference) {q' : Payment}
    (hq' : q' ∈ d'.payments.rows) : Origin db (past ++ [⟨r, d, d'⟩]) q'.reference := by
  have last : (⟨r, d, d'⟩ : Handled) ∈ past ++ [⟨r, d, d'⟩] :=
    List.mem_append_right _ (List.mem_singleton.2 rfl)
  rcases h.paid q' hq' with ⟨q, hq, same⟩ | same | ⟨p, same, collected⟩
  · rw [← same]
    exact (origins q hq).later _
  · exact .wallet _ last same
  · exact .collected _ last p same collected

/-- Every payment of a run has an origin. -/
theorem Ordered.origin {db d : Db} {ext x : Services} {past : List Handled}
    (ordered : Ordered db ext past d x) : ∀ q ∈ d.payments.rows, Origin db past q.reference := by
  induction ordered with
  | start => exact fun q hq => .start q hq rfl
  | request r o _ ends ih => exact fun q hq => origin_of_serves (serves_of_ends ends) ih hq
  | moved m _ _ ih => exact ih

/-- A collection that is concluded is accounted for. -/
theorem accountedFor_of_concludedBy {db d d' : Db} {past : List Handled} {r : FinanceRequest} {c : Collection}
    (h : ConcludedBy c d d') (serves : Serves r d d')
    (origins : ∀ q ∈ d.payments.rows, Origin db past q.reference) :
    ∃ p, d.pendingPayments.findFirst (fun p => c.Identifies p) = some p ∧
      AccountedFor db (past ++ [⟨r, d, d'⟩]) d d' p := by
  obtain ⟨d₁, p, concluded, receipted⟩ := h
  have account (completes : p.status = .pending ∨ ∃ q ∈ d.payments.rows, q.reference = p.reference)
      (payment : ∃ q ∈ d'.payments.rows, q.reference = p.reference) :
      AccountedFor db (past ++ [⟨r, d, d'⟩]) d d' p := by
    obtain ⟨q, hq, same⟩ := payment
    exact ⟨completes, ⟨q, hq, same⟩, same ▸ origin_of_serves serves origins hq⟩
  cases concluded with
  | found first q hq same _ =>
    exact ⟨p, first, account (.inr ⟨q, hq, same⟩) (serves.kept.reference ⟨q, hq, same⟩)⟩
  | completed first F tx valid committed =>
    subst committed
    have collected := (collected_of_completionTx tx valid).receipted receipted
    obtain ⟨q, hq, same, -⟩ := collected.payment
    exact ⟨p, first, account (.inl collected.pending) ⟨q, hq, same⟩⟩

/-- The payer asks for a checkout of 300 Naira. -/
def checkoutRequest : FinanceRequest :=
  .initiatePayment checkoutConfig (.ofNat 1) (payment 30000) none none firstPayment

/-- The provider reports that the first checkout was settled at an amount in Naira. -/
def settledAt (naira : ℚ) : Op := .handleCollectionSucceeded (some "c") "charge" (some (some naira)) {}
  firstCompletion

end Heightt
