import Heightt.ReadCommitted.Executes
import Heightt.ReadCommitted.Traces
import Heightt.Runs.LostUpdate

/-!
# Payments and what they record

Every payment is created together with what it moves and with what it records: the due payment, the
paid mark of the assignment, the COMPLETED status of the pending payment. So in every run, however the
operations are interleaved, the records agree with the payments, and no reference is paid twice.
-/

namespace Heightt

open ReadCommitted Store Database WalletService LedgerService FinanceService ReceiptService BachsService
  WithdrawalWebhookService

/-! ## What a transaction records -/

/-- The statement records nothing about payments and dues. -/
def Stmt.bare : Stmt → Bool
  | .createPayment _ | .createDueAssignment _ | .createDuePayment _ | .payDueAssignment _ | .createPendingPayment _ => false
  | .updatePendingPayment _ patch => patch.status ≠ .completed
  | _ => true

def Bare (F : List Stmt) : Prop := ∀ s ∈ F, s.bare = true

/-- What a payment adds to the balances, by the way it was made. -/
inductive Paid (q : Payment) : Amounts → Prop where
  | external (organization : Id) (platform : Option Wallet) (amountInKobo : Int) :
    Paid q (onWallet organization q.amount + (platform.toList.map fun w => onWallet w.id q.serviceFee).sum +
      onSystem .bachsSettlement amountInKobo)
  | internal (config : FeeConfig) (payer organization platform : Id)
      (charged : q.serviceFee = (calculatePaymentCharges config q.amount).totalCharges) :
    Paid q (onWallet payer (-(q.amount + q.serviceFee)) + onWallet organization q.amount +
      onWallet platform (platformCredit (calculatePaymentCharges config q.amount)))
  | manual (payer organization : Id) : Paid q (onWallet payer (-q.amount) + onWallet organization q.amount)

/-- Whatever the statements record is recorded of a payment that they create, and each such payment is
all that they move. They assign no due, unless they may (`assigns`). -/
structure Recorded (assigns : Prop) (F : List Stmt) : Prop where
  moved : ∀ q, .createPayment q ∈ F → Paid q (delta Db F)
  due : ∀ p, .createDuePayment p ∈ F → ∃ q, .createPayment q ∈ F ∧ q.id = p.paymentId ∧ q.amount = p.amount
  paid : ∀ id, .payDueAssignment id ∈ F → ∃ p, .createDuePayment p ∈ F ∧ p.assignmentId = id
  completed : ∀ p patch, .updatePendingPayment p patch ∈ F → patch.status = .completed →
    ∃ q, .createPayment q ∈ F ∧ q.reference = p.reference
  requested : ∀ p, .createPendingPayment p ∉ F
  assigned : ∀ a, .createDueAssignment a ∈ F → assigns

section

variable {assigns : Prop} {F G : List Stmt}

theorem Bare.append (hF : Bare F) (hG : Bare G) : Bare (F ++ G) := List.forall_mem_append.2 ⟨hF, hG⟩

theorem Bare.cons {s : Stmt} (hs : s.bare = true) (hF : Bare F) : Bare (s :: F) := List.forall_mem_cons.2 ⟨hs, hF⟩

theorem Bare.nil : Bare [] := List.forall_mem_nil _

theorem Bare.recorded (h : Bare F) : Recorded assigns F where
  moved q mem := absurd (h _ mem) Bool.noConfusion
  due p mem := absurd (h _ mem) Bool.noConfusion
  paid id mem := absurd (h _ mem) Bool.noConfusion
  completed p patch mem status := by
    have bare := h _ mem
    simp [Stmt.bare, status] at bare
  requested p mem := absurd (h _ mem) Bool.noConfusion
  assigned a mem := absurd (h _ mem) Bool.noConfusion

theorem bare_map {α : Type} (l : List α) {f : α → Stmt} (hf : ∀ a, (f a).bare = true) : Bare (l.map f) := by
  intro s mem
  obtain ⟨a, -, rfl⟩ := List.mem_map.1 mem
  exact hf a

theorem bare_journal {data : JournalData} {new : NewEntry} {J : List Stmt} (h : Journal data new J) : Bare J := by
  obtain ⟨G, hG, rfl⟩ := h
  refine .cons rfl ?_
  generalize data.lines = lines at hG
  induction hG with
  | nil => exact .nil
  | cons l base rest ih => exact .cons rfl (.cons rfl ih)

theorem bare_moveWallet (w : Wallet) (δ : Int) : Bare (moveWallet w δ) := .cons rfl (.cons rfl .nil)

theorem bare_systemAccountWrites (found : Bool) (a : SystemAccount) (δ : Int) : Bare (systemAccountWrites found a δ) := by
  unfold systemAccountWrites
  split
  · exact .cons rfl .nil
  · exact .nil

theorem bare_refundWrites (w : Withdrawal) (clearing : Bool) : Bare (refundWrites w clearing) :=
  .cons rfl (bare_systemAccountWrites _ _ _)

theorem bare_reversedWrites (w : Withdrawal) : Bare (reversedWrites w) := bare_map _ fun _ => rfl

theorem bare_feeReversal {w : Withdrawal} (h : FeeReversal w F) : Bare F := by
  cases h with
  | none h => exact .nil
  | reverse h entry wallet clearing _ =>
    refine Bare.append (bare_map _ fun _ => rfl) (Bare.append ?_ (bare_systemAccountWrites _ _ _))
    cases wallet with
    | none => exact .nil
    | some v => exact .cons rfl (.cons rfl .nil)

theorem bare_receiptTx {paymentId : Id} {new : NewReceipt} (h : ReceiptTx paymentId new F) : Bare F := by
  cases h
  exact .cons rfl .nil

theorem bare_requestTx {id : Id} {amount fee : Int} (h : RequestTx id amount fee F) : Bare F := by
  cases h
  exact Bare.append (.cons rfl (.cons rfl (.cons rfl (.cons rfl .nil)))) (bare_map _ fun _ => rfl)

theorem bare_chargeWrites (w : Withdrawal) (payout : Payout) (wallet clearing : Bool) :
    Bare (chargeWrites w payout wallet clearing) := by
  refine .cons rfl (Bare.append ?_ (Bare.append (bare_systemAccountWrites _ _ _) (bare_map _ fun _ => rfl)))
  split
  · exact .cons rfl .nil
  · exact .nil

theorem bare_settlementTx {k : Settlement} {id : Id} {new : NewSettlement} (h : SettlementTx k id new F) : Bare F := by
  cases h with
  | settle w v e J hw hv pending approver journal =>
    refine .cons rfl (Bare.append ?_ (.cons rfl (.cons rfl (.cons rfl (.cons rfl .nil)))))
    cases journal with
    | posted h => exact bare_journal h
    | reused h matching => exact .nil
  | allocate w payout p J hw share unallocated journal =>
    exact Bare.append (bare_journal journal) (.cons rfl (.cons rfl .nil))
  | charge w payout wallet clearing hw type => exact Bare.append (bare_chargeWrites _ _ _ _) (.cons rfl .nil)
  | record w payout hw unshared equal => exact .cons rfl .nil
  | compensate w clearing R hw needed reversal =>
    exact .cons rfl (.cons rfl (Bare.append (bare_refundWrites _ _)
      (Bare.append (bare_reversedWrites _) (bare_feeReversal reversal))))

theorem bare_webhookTx (h : WebhookTx F) : Bare F := by
  cases h with
  | succeeded w _ => exact .cons rfl (.cons rfl .nil)
  | pending w _ => exact .cons rfl (.cons rfl .nil)
  | failed w v clearing R hv _ reversal =>
    refine .cons rfl (.cons rfl (.cons rfl (Bare.append ?_ (Bare.append (bare_reversedWrites _)
      (Bare.append (bare_feeReversal reversal) (.cons rfl .nil))))))
    unfold failedRefund
    split
    · exact bare_refundWrites _ _
    · exact .nil

theorem bare_statusTx (h : StatusTx F) : Bare F := by
  cases h with
  | update p patch h => exact .cons (decide_eq_true h) .nil
  | expire cutoff => exact .cons rfl .nil

theorem bare_opens (h : ∀ s ∈ F, Opens s) : Bare F := by
  intro s mem
  have opens := h s mem
  cases s with
  | createPayment | createDueAssignment | createDuePayment | payDueAssignment | createPendingPayment => cases opens
  | updatePendingPayment => cases opens
  | _ => rfl

theorem bare_setupTx (h : SetupTx F) : Bare F := by
  cases h
  all_goals
    intro s mem
    simp only [List.mem_cons, List.not_mem_nil, or_false] at mem
    rcases mem with rfl | rfl | rfl | rfl
  all_goals rfl

/-- A statement of the transaction of payment `q`, whose due is recorded by `due`. -/
inductive OfPayment (assigns : Prop) (q : Payment) (due : List Stmt) : Stmt → Prop where
  | other {s : Stmt} (h : s.bare = true) : OfPayment assigns q due s
  | payment : OfPayment assigns q due (.createPayment q)
  | due {s : Stmt} (h : s ∈ due) : OfPayment assigns q due s
  | assignment (a : DueAssignment) (h : assigns) : OfPayment assigns q due (.createDueAssignment a)
  | completed (p : PendingPayment) (patch : PendingPaymentPatch) (h : p.reference = q.reference) :
    OfPayment assigns q due (.updatePendingPayment p patch)

theorem recorded_of_payment (q : Payment) (due : List Stmt) (only : ∀ s ∈ F, OfPayment assigns q due s)
    (created : .createPayment q ∈ F) (within : ∀ s ∈ due, s ∈ F) (paid : DuePaid q.id q.amount due)
    (moved : Paid q (delta Db F)) : Recorded assigns F where
  moved r mem := by
    cases only _ mem with
    | other h => cases h
    | payment => exact moved
    | due h => cases paid <;> simp at h
  due p mem := by
    cases only _ mem with
    | other h => cases h
    | due h =>
      refine ⟨q, created, ?_⟩
      cases paid with
      | none => cases h
      | part r hr =>
        obtain rfl : p = r := by simpa using h
        exact ⟨hr.1.symm, hr.2.symm⟩
      | full r hr =>
        obtain rfl : p = r := by simpa using h
        exact ⟨hr.1.symm, hr.2.symm⟩
  paid id mem := by
    cases only _ mem with
    | other h => cases h
    | due h =>
      cases paid with
      | none => cases h
      | part r hr => simp at h
      | full r hr =>
        have same : id = r.assignmentId := by simpa using h
        exact ⟨r, within _ List.mem_cons_self, same.symm⟩
  completed p patch mem status := by
    cases only _ mem with
    | other h => simp [Stmt.bare, status] at h
    | due h => cases paid <;> simp at h
    | completed _ _ h => exact ⟨q, created, h.symm⟩
  requested p mem := by
    cases only _ mem with
    | other h => cases h
    | due h => cases paid <;> simp at h
  assigned a mem := by
    cases only _ mem with
    | other h => cases h
    | due h => cases paid <;> simp at h
    | assignment _ h => exact h

theorem recorded_externalPaymentTx {new : NewCompletion} (h : ExternalPaymentTx new F) : Recorded assigns F := by
  cases h with
  | complete p c amountInKobo o platform base S due _ _ _ _ _ opens paid =>
    have amounts : delta Db (S ++ creditWrites p c amountInKobo o platform base due new) =
        onWallet o.id p.amount + (platform.toList.map fun w => onWallet w.id (platformFee p)).sum +
          onSystem .bachsSettlement amountInKobo := by
      rw [deltas_append, (movesNothing_opens opens).delta, zero_add, delta_creditWrites p c _ o platform base new paid]
    refine recorded_of_payment (paymentRow p c new) due (fun s mem => ?_) (by simp [creditWrites])
      (fun s mem => by simp [creditWrites, mem]) paid ?_
    · simp only [creditWrites, List.mem_append, List.mem_cons, List.not_mem_nil, or_false] at mem
      obtain mem | rfl | rfl | mem | mem | rfl | rfl | rfl | rfl | rfl | mem | rfl | rfl := mem
      · exact .other (bare_opens opens s mem)
      · exact .other rfl
      · exact .other rfl
      · exact .other (bare_moveWallet _ _ s mem)
      · obtain ⟨w, -, mem⟩ := List.mem_flatMap.1 mem
        exact .other (bare_moveWallet _ _ s mem)
      · exact .other rfl
      · exact .payment
      · exact .other rfl
      · exact .other rfl
      · exact .other rfl
      · exact .due mem
      · exact .completed _ _ rfl
      · exact .other rfl
    · rw [amounts]
      exact .external o.id platform amountInKobo
  | receipt paymentId h => exact (bare_receiptTx h).recorded
  | status h => exact (bare_statusTx h).recorded

theorem recorded_internalPaymentTx {config : FeeConfig} {userId : Id} {dto : CreatePaymentDto} {new : NewPayment}
    (h : InternalPaymentTx config userId dto new F) : Recorded True F := by
  cases h with
  | payment u o p created due sufficient paid =>
    refine recorded_of_payment (internalPaymentRow userId dto (calculatePaymentCharges config dto.amount) new) due
      (fun s mem => ?_) (by simp) (fun s mem => by simp [mem]) paid ?_
    · simp only [List.mem_append, List.mem_cons, List.not_mem_nil, or_false] at mem
      obtain mem | mem | mem | mem | rfl | rfl | rfl | mem | rfl := mem
      · obtain ⟨a, -, rfl⟩ := List.mem_map.1 mem
        exact .assignment a trivial
      · exact .other (bare_moveWallet _ _ s mem)
      · exact .other (bare_moveWallet _ _ s mem)
      · exact .other (bare_moveWallet _ _ s mem)
      · exact .other rfl
      · exact .payment
      · exact .other rfl
      · exact .due mem
      · exact .other rfl
    · have charged : (internalPaymentRow userId dto (calculatePaymentCharges config dto.amount) new).serviceFee =
        (calculatePaymentCharges config dto.amount).totalCharges := rfl
      convert Paid.internal config u.id o.id p.id charged using 1
      cases created <;> simp [deltas_cons, deltas_append, deltas_nil, delta_moveWallet, Stmt.delta,
        (movesNothing_duePaid paid).delta, add_assoc, internalPaymentRow, calculatePaymentCharges]
  | journal u o p J journal => exact (bare_journal journal).recorded
  | receipt h => exact (bare_receiptTx h).recorded

theorem recorded_manualPaymentTx {userId : Id} {dto : CreateManualPaymentDto} {new : NewPayment}
    (h : ManualPaymentTx userId dto new F) : Recorded assigns F := by
  cases h with
  | payment u o due sufficient paid =>
    refine recorded_of_payment (manualPaymentRow userId dto new) due (fun s mem => ?_) (by simp)
      (fun s mem => by simp [mem]) paid ?_
    · simp only [List.mem_append, List.mem_cons, List.not_mem_nil, or_false] at mem
      obtain rfl | rfl | mem | rfl | mem | rfl | rfl | rfl | mem | rfl := mem
      · exact .other rfl
      · exact .other rfl
      · exact .other (bare_moveWallet _ _ s mem)
      · exact .other rfl
      · exact .other (bare_moveWallet _ _ s mem)
      · exact .payment
      · exact .other rfl
      · exact .other rfl
      · exact .due mem
      · exact .other rfl
    · convert Paid.manual u.id o.id using 1
      simp [deltas_cons, deltas_append, deltas_nil, delta_moveWallet, Stmt.delta,
        (movesNothing_duePaid paid).delta, manualPaymentRow]
  | journal u o J journal => exact (bare_journal journal).recorded
  | receipt h => exact (bare_receiptTx h).recorded

/-- The operation is a payment from a wallet, which assigns the due that it pays. -/
def Op.PaysInternally : Op → Prop
  | .executeInternalPayment .. => True
  | _ => False

/-- **What an operation commits** records its payments, and nothing else. -/
theorem Op.recorded_of_commits {op : Op} (h : op.Commits F) : Recorded op.PaysInternally F := by
  cases h with
  | read => exact Bare.nil.recorded
  | record t => exact (Bare.cons rfl .nil).recorded
  | setup nested h _ => exact (bare_setupTx h).recorded
  | own h =>
    cases op with
    | creditWallet dto new =>
      cases h
      exact (Bare.cons rfl (.cons rfl (Bare.append (bare_moveWallet _ _) (.cons rfl .nil)))).recorded
    | debitWallet dto new =>
      cases h
      exact (Bare.cons rfl (.cons rfl (Bare.append (bare_moveWallet _ _) (.cons rfl .nil)))).recorded
    | depositToSavings userId dto new =>
      cases h
      exact (Bare.cons rfl (.cons rfl (.cons rfl (.cons rfl (Bare.append (bare_moveWallet _ _)
        (.cons rfl .nil)))))).recorded
    | executeInternalPayment config userId dto new => exact recorded_internalPaymentTx h
    | executeManualPayment userId dto new => exact recorded_manualPaymentTx h
    | requestUserWithdrawal config userId dto new => exact (bare_requestTx h).recorded
    | requestOrganizationWithdrawal config userId organizationId dto new settlement =>
      cases h with
      | request h => exact (bare_requestTx h).recorded
      | settlement h => exact (bare_settlementTx h).recorded
    | requestPlatformWithdrawal config userId dto new settlement =>
      cases h with
      | request h => exact (bare_requestTx h).recorded
      | settlement h => exact (bare_settlementTx h).recorded
    | settleWithdrawal id new => exact (bare_settlementTx h).recorded
    | approveUserWithdrawal id adminUserId new => exact (bare_settlementTx h).recorded
    | approvePlatformWithdrawal id adminUserId allow new => exact (bare_settlementTx h).recorded
    | rejectUserWithdrawal id adminUserId =>
      cases h
      exact (Bare.cons rfl (.cons rfl (.cons rfl (.cons rfl .nil)))).recorded
    | processWebhook isValid hook => exact (bare_webhookTx h).recorded
    | deliverWebhook n => exact (bare_webhookTx h).recorded
    | reconcileStaleProcessingWithdrawals staleBefore => exact (bare_webhookTx h).recorded
    | completePayment collection new => exact recorded_externalPaymentTx h
    | handleCheckoutCompleted checkoutId metadata new => exact recorded_externalPaymentTx h
    | handleCollectionSucceeded checkoutId chargeId amount metadata new => exact recorded_externalPaymentTx h
    | getPendingPaymentStatus id userId new => exact recorded_externalPaymentTx h
    | createJournalEntry data new => exact (bare_journal h).recorded
    | reverseJournalEntry id reason new =>
      cases h with
      | mirror e J he _ journal => exact (bare_journal journal).recorded
      | mark => exact (Bare.cons rfl .nil).recorded
    | _ => exact (bare_statusTx h).recorded

end

/-! ## Assignments start unpaid -/

/-- The statement opens no assignment that is paid already. -/
def Stmt.opensUnpaid : Stmt → Bool
  | .createDueAssignment a => !a.isPaid
  | _ => true

abbrev OpensUnpaid : List Stmt → Prop := Each fun s => s.opensUnpaid = true

section

variable {F : List Stmt} {config : FeeConfig} {userId : Id} {dto : CreatePaymentDto} {new : NewPayment}

theorem opensUnpaid_of_unassigned (h : ∀ a, .createDueAssignment a ∉ F) : OpensUnpaid F := by
  intro s mem
  cases s with
  | createDueAssignment a => exact absurd mem (h a)
  | _ => rfl

theorem Bare.opensUnpaid (h : Bare F) : OpensUnpaid F :=
  opensUnpaid_of_unassigned fun _ mem => absurd (h _ mem) Bool.noConfusion

instance : Includes Setup (Committing OpensUnpaid) where
  incl ev h := by
    cases h with
    | tx nested h => exact (bare_setupTx h).opensUnpaid
    | quiet h =>
      cases h with
      | read nested => exact Bare.nil.opensUnpaid
      | record nested t => exact (Bare.cons rfl .nil).opensUnpaid
      | answered c r h => trivial
      | failed c h => trivial

theorem fills_of_makes {α : Type} {p : Action α} {S : α → Prop} (h : Makes (Committing OpensUnpaid) p S) :
    Fills (fun s : Stmt => s.opensUnpaid = true) p :=
  Adds.of_makes h fun _ _ => each_nil _

theorem fills_findDueAssignment (userId newId : Id) (dueAssignmentId dueId : Option Id) :
    Fills (fun s : Stmt => s.opensUnpaid = true) (findDueAssignment userId newId dueAssignmentId dueId) := by
  cases dueAssignmentId with
  | some id =>
    exact .bind (.query _) fun _ => .bind (.orThrow _ _) fun _ => .bind (.query _) fun _ =>
      .bind (.orThrow _ _) fun _ => .bind (.ensure _ _) fun _ => .bind (.query _) fun _ =>
      .bind (.orThrow _ _) fun _ => .bind (.ensure _ _) fun _ => .bind (.ensure _ _) fun _ => .ret _
  | none =>
    cases dueId with
    | none => exact .ret none
    | some id =>
      refine .bind (.query _) fun _ => .bind (.orThrow _ _) fun _ => .bind (.query _) fun _ =>
        .bind (.orThrow _ _) fun _ => .bind (.ensure _ _) fun _ => .bind (.query _) fun _ =>
        .bind (.orThrow _ _) fun _ => .bind (.query _) fun existing => ?_
      cases existing with
      | some a => exact .bind (.ensure _ _) fun _ => .ret _
      | none => exact .bind (.exec rfl) fun _ => .ret _

theorem fills_writeBalance (w : Wallet) (δ : Int) :
    Fills (fun s : Stmt => s.opensUnpaid = true) (writeBalance w δ) :=
  .bind (.exec rfl) fun _ => .exec rfl

theorem fills_handleDuePayment (duePaymentId dueAssignmentId paymentId : Id) (amount : Int) :
    Fills (fun s : Stmt => s.opensUnpaid = true) (handleDuePayment duePaymentId dueAssignmentId paymentId amount) :=
  .bind (.query _) fun _ => .whenSome fun _ => .bind (.query _) fun _ => .bind (.exec rfl) fun _ =>
    .each_when (.each_exec rfl)

theorem fills_internalPaymentTransaction (u o p : Wallet) : Fills (fun s : Stmt => s.opensUnpaid = true)
    (internalPaymentTransaction config userId dto u o p new) := by
  refine .bind (.ensure _ _) fun _ => .bind (.ensure _ _) fun _ => .bind (fills_findDueAssignment _ _ _ _) fun due => ?_
  refine .bind (.whenSome fun _ => .ensure _ _) fun _ => ?_
  refine .bind (fills_of_makes (makes_getOrCreateSystemAccount .platformFee)) fun _ => ?_
  refine .bind (fills_of_makes (makes_getOrCreateSystemAccount .vatPayable)) fun _ => ?_
  refine .bind (fills_of_makes (makes_getOrCreateSystemAccount .bachsFee)) fun _ => ?_
  refine .bind (fills_of_makes (makes_getOrCreateSystemAccount .bachsSettlement)) fun _ => ?_
  refine .bind (fills_writeBalance u _) fun _ => .bind (fills_writeBalance o _) fun _ => ?_
  refine .bind (fills_writeBalance p _) fun _ => .bind (.exec rfl) fun _ => .bind (.exec rfl) fun _ => ?_
  refine .bind (fills_of_makes (makes_createJournalEntry fun _ _ _ journal => (bare_journal journal).opensUnpaid))
    fun _ => .bind (.exec rfl) fun _ => ?_
  refine .bind (.whenSome fun a => fills_handleDuePayment _ _ _ _) fun _ => .bind (.exec rfl) fun _ => ?_
  exact .bind (fills_of_makes (makes_invalidateWalletCache _)) fun _ =>
    .bind (fills_of_makes (makes_invalidateWalletCache _)) fun _ => fills_of_makes (makes_invalidateWalletCache _)

theorem makes_executeInternalPayment_unpaid (config : FeeConfig) (userId : Id) (dto : CreatePaymentDto)
    (new : NewPayment) : Makes (Committing OpensUnpaid) (executeInternalPayment config userId dto new) fun _ => True := by
  refine (makes_findUser userId).bind fun _ _ => (makes_getOrCreateWallet _ _).bind fun u _ => ?_
  refine (makes_getOrCreateWallet _ _).bind fun o _ => (makes_getOrCreateWallet _ _).bind fun p _ => ?_
  refine (committing_transaction (fills_internalPaymentTransaction u o p)).bind fun _ _ => ?_
  refine (makes_receipt (B := Quiet) (T := OpensUnpaid) fun F h => (bare_receiptTx h).opensUnpaid).mono ?_ fun _ h => h
  intro ev h
  cases h with
  | base h => exact quiet h
  | tx nested h => exact h

theorem Op.makes_unpaid (op : Op) : Makes (Committing OpensUnpaid) op.program fun _ => True := by
  have unassigned (others : ¬op.PaysInternally) : Makes (Committing OpensUnpaid) op.program fun _ => True := by
    refine op.makes.mono (fun ev h => ?_) fun _ h => h
    cases ev with
    | committed nested F =>
      exact opensUnpaid_of_unassigned fun a mem =>
        others ((recorded_of_commits (commits_of_emits h)).assigned a mem)
    | answered c r => trivial
    | failed c => trivial
  cases op with
  | executeInternalPayment config userId dto new => exact makes_executeInternalPayment_unpaid config userId dto new
  | _ => exact unassigned id

/-- No run opens an assignment that is paid already. -/
theorem opensUnpaid_of_run {cond : System → Effect Stmt Call → Prop} {db : Db} {ext : Services} {ops : List Op}
    {c : System} (run : Reaches cond (start db ext ops) c) : ∀ k ∈ c.log, OpensUnpaid k.writes := by
  refine run.induct_of_committing (T := fun _ => OpensUnpaid) (fun i p hp => ?_)
    (fun _ log => ∀ k ∈ log, OpensUnpaid k.writes) (List.forall_mem_nil _) fun opens _ _ before => ?_
  · rw [List.getElem?_map, Option.map_eq_some_iff] at hp
    obtain ⟨op, -, rfl⟩ := hp
    exact op.makes_unpaid
  · exact List.forall_mem_append.2 ⟨before, List.forall_mem_singleton.2 opens⟩

end

/-! ## The tables that a statement changes -/

section

variable {s : Stmt} {d : Db}

theorem free_of_unique {α κ : Type} [DecidableEq κ] {key : α → κ} {t : Table α κ key} {k : κ} {target : String} {rest : Option Failure}
    (ok : (Stmt.unique (t.find k).isSome target).or rest = none) : t.find k = none := by
  have unused := Stmt.unique_eq_none.1 (Option.or_eq_none_iff.1 ok).1
  exact Option.isNone_iff_eq_none.1 (Option.isSome_eq_false_iff.1 unused)

theorem payments_created {q : Payment} (ok : check (.createPayment q) d = none) :
    (apply (Stmt.createPayment q) d).payments.rows = d.payments.rows ++ [q] := Table.insert_rows (free_of_unique ok)

theorem duePayments_created {p : DuePayment} (ok : check (.createDuePayment p) d = none) :
    (apply (Stmt.createDuePayment p) d).duePayments.rows = d.duePayments.rows ++ [p] :=
  Table.insert_rows (free_of_unique ok)

theorem payments_linked (d : Db) (id journalEntryId : Id) :
    (apply (Stmt.updatePayment id journalEntryId) d).payments.rows =
      d.payments.rows.map fun q => if q.id = id then { q with journalEntryId := some journalEntryId } else q :=
  Table.modify_rows d.payments id (fun q => { q with journalEntryId := some journalEntryId }) fun _ => rfl

theorem assignments_marked (d : Db) (id : Id) : (apply (Stmt.payDueAssignment id) d).dueAssignments.rows =
    d.dueAssignments.rows.map fun a => if a.id = id then { a with isPaid := true } else a :=
  Table.modify_rows d.dueAssignments id (fun a => { a with isPaid := true }) fun _ => rfl

/-- A payment stays, but for the link to its journal entry. -/
theorem payment_lasts {P : Payment → Prop} (linked : ∀ q id, P q → P { q with journalEntryId := some id })
    (ok : check s d = none) (h : ∃ q ∈ d.payments.rows, P q) : ∃ q ∈ (apply s d).payments.rows, P q := by
  obtain ⟨q, mem, hq⟩ := h
  cases s with
  | createPayment r => exact ⟨q, payments_created ok ▸ List.mem_append_left _ mem, hq⟩
  | updatePayment id journalEntryId =>
    rw [payments_linked]
    refine ⟨_, List.mem_map_of_mem mem, ?_⟩
    split
    · exact linked q journalEntryId hq
    · exact hq
  | _ => exact ⟨q, mem, hq⟩

theorem references_of_apply (ok : check s d = none) (nodup : (d.payments.rows.map Payment.reference).Nodup) :
    ((apply s d).payments.rows.map Payment.reference).Nodup := by
  cases s with
  | createPayment q =>
    have unused := Stmt.unique_eq_none.1 (Option.or_eq_none_iff.1 (Option.or_eq_none_iff.1 ok).2).1
    rw [payments_created ok, List.map_append, List.nodup_append]
    refine ⟨nodup, List.nodup_singleton _, fun a ha b hb same => ?_⟩
    obtain ⟨r, mem, rfl⟩ := List.mem_map.1 ha
    rw [List.map_singleton, List.mem_singleton] at hb
    rw [List.any_eq_false] at unused
    exact unused r mem (decide_eq_true (same.trans hb))
  | updatePayment id journalEntryId =>
    have same : (d.payments.rows.map (Payment.reference ∘ fun q =>
        if q.id = id then { q with journalEntryId := some journalEntryId } else q)) =
        d.payments.rows.map Payment.reference := by
      refine List.map_congr_left fun q _ => ?_
      rw [Function.comp_apply]
      split <;> rfl
    rw [payments_linked, List.map_map, same]
    exact nodup
  | _ => exact nodup

theorem duePayment_lasts {p : DuePayment} (ok : check s d = none) (h : p ∈ d.duePayments.rows) :
    p ∈ (apply s d).duePayments.rows := by
  cases s with
  | createDuePayment r => exact duePayments_created ok ▸ List.mem_append_left _ h
  | _ => exact h

theorem duePayment_arises {p : DuePayment} (ok : check s d = none) (h : p ∈ (apply s d).duePayments.rows) :
    p ∈ d.duePayments.rows ∨ s = .createDuePayment p := by
  cases s with
  | createDuePayment r =>
    rw [duePayments_created ok] at h
    obtain h | h := List.mem_append.1 h
    · exact .inl h
    · obtain rfl := List.mem_singleton.1 h
      exact .inr rfl
  | _ => exact .inl h

theorem assignments_of_apply (ok : check s d = none) (nodup : (d.duePayments.rows.map DuePayment.assignmentId).Nodup) :
    ((apply s d).duePayments.rows.map DuePayment.assignmentId).Nodup := by
  cases s with
  | createDuePayment p =>
    have unused := Stmt.unique_eq_none.1 (Option.or_eq_none_iff.1 (Option.or_eq_none_iff.1 ok).2).1
    rw [duePayments_created ok, List.map_append, List.nodup_append]
    refine ⟨nodup, List.nodup_singleton _, fun a ha b hb same => ?_⟩
    obtain ⟨r, mem, rfl⟩ := List.mem_map.1 ha
    rw [List.map_singleton, List.mem_singleton] at hb
    rw [List.any_eq_false] at unused
    exact unused r mem (decide_eq_true (same.trans hb))
  | _ => exact nodup

/-- An assignment is marked as paid, or opened so, or was paid before. -/
theorem paid_arises {id : Id} (ok : check s d = none)
    (h : ∃ a ∈ (apply s d).dueAssignments.rows, a.id = id ∧ a.isPaid = true) :
    (∃ a ∈ d.dueAssignments.rows, a.id = id ∧ a.isPaid = true) ∨
      (s = .payDueAssignment id ∨ ∃ a, s = .createDueAssignment a ∧ a.isPaid = true) := by
  obtain ⟨a, mem, hid, isPaid⟩ := h
  cases s with
  | createDueAssignment r =>
    have rows : (apply (Stmt.createDueAssignment r) d).dueAssignments.rows = d.dueAssignments.rows ++ [r] :=
      Table.insert_rows (free_of_unique ok)
    rw [rows] at mem
    obtain mem | mem := List.mem_append.1 mem
    · exact .inl ⟨a, mem, hid, isPaid⟩
    · obtain rfl := List.mem_singleton.1 mem
      exact .inr (.inr ⟨a, rfl, isPaid⟩)
  | payDueAssignment k =>
    rw [assignments_marked] at mem
    obtain ⟨b, old, rfl⟩ := List.mem_map.1 mem
    by_cases same : b.id = k
    · rw [if_pos same] at hid
      exact .inr (.inl (by rw [← hid, ← same]))
    · rw [if_neg same] at hid isPaid
      exact .inl ⟨b, old, hid, isPaid⟩
  | _ => exact .inl ⟨a, mem, hid, isPaid⟩

/-- A pending payment of the reference is COMPLETED. -/
def Completed (d : Db) (reference : String) : Prop :=
  ∃ p ∈ d.pendingPayments.rows, p.reference = reference ∧ p.status = .completed

theorem completed_arises {reference : String} (ok : check s d = none) (h : Completed (apply s d) reference) :
    Completed d reference ∨ ((∃ p patch, s = .updatePendingPayment p patch ∧ patch.status = .completed ∧
      p.reference = reference) ∨ ∃ p, s = .createPendingPayment p) := by
  obtain ⟨p, mem, hr, status⟩ := h
  cases s with
  | createPendingPayment r => exact .inr (.inr ⟨r, rfl⟩)
  | updatePendingPayment seen patch =>
    have rows : (apply (Stmt.updatePendingPayment seen patch) d).pendingPayments.rows =
        d.pendingPayments.rows.map fun r => if r.id = seen.id then patch.apply r else r :=
      Table.modify_rows d.pendingPayments seen.id patch.apply fun _ => rfl
    rw [rows] at mem
    obtain ⟨r, old, rfl⟩ := List.mem_map.1 mem
    by_cases same : r.id = seen.id
    · rw [if_pos same] at hr status
      obtain ⟨r', found, unchanged⟩ := Stmt.sameRow_eq_none.1 ok
      have row : r' = r := by
        rw [← same, Table.find_of_mem old] at found
        exact (Option.some.inj found).symm
      rw [row] at unchanged
      exact .inr (.inl ⟨seen, patch, rfl, status, unchanged.2.2.2.2.symm.trans hr⟩)
    · rw [if_neg same] at hr status
      exact .inl ⟨r, old, hr, status⟩
  | attachCheckout seen checkoutId metadata =>
    have rows : (apply (Stmt.attachCheckout seen checkoutId metadata) d).pendingPayments.rows =
        d.pendingPayments.rows.map fun r => if r.id = seen.id then r.attach checkoutId metadata else r :=
      Table.modify_rows d.pendingPayments seen.id (PendingPayment.attach checkoutId metadata) fun _ => rfl
    rw [rows] at mem
    obtain ⟨r, old, rfl⟩ := List.mem_map.1 mem
    refine .inl ⟨r, old, ?_⟩
    split at hr
    · rw [if_pos ‹_›] at status
      exact ⟨hr, status⟩
    · rw [if_neg ‹_›] at status
      exact ⟨hr, status⟩
  | expirePendingPayments cutoff =>
    obtain ⟨r, old, rfl⟩ := List.mem_map.1 mem
    refine .inl ⟨r, old, ?_⟩
    split at hr
    · rw [if_pos ‹_›] at status
      cases status
    · rw [if_neg ‹_›] at status
      exact ⟨hr, status⟩
  | _ => exact .inl ⟨p, mem, hr, status⟩

/-- The payments with the reference. -/
def Db.paidTimes (d : Db) (reference : String) : ℕ := d.payments.rows.countP fun q => q.reference = reference

/-- Whether the statement creates a payment with the reference. -/
def Stmt.pays (reference : String) : Stmt → Bool
  | .createPayment q => q.reference = reference
  | _ => false

theorem paidTimes_apply (reference : String) (s : Stmt) (d : Db) (ok : check s d = none) :
    (apply s d).paidTimes reference = d.paidTimes reference + if s.pays reference then 1 else 0 := by
  cases s with
  | createPayment q =>
    unfold Db.paidTimes
    rw [payments_created ok, List.countP_append, List.countP_singleton]
    rfl
  | updatePayment id journalEntryId =>
    unfold Db.paidTimes
    rw [payments_linked, List.countP_map]
    refine List.countP_congr fun q _ => ?_
    rw [Function.comp_apply]
    split <;> rfl
  | _ => rfl

end

/-! ## The records of a run -/

/-- The records agree with the payments. -/
structure Agree (d : Db) : Prop where
  /-- No reference is paid twice. -/
  once : (d.payments.rows.map Payment.reference).Nodup
  /-- No assignment has two payments. -/
  single : (d.duePayments.rows.map DuePayment.assignmentId).Nodup
  /-- What is recorded as paid on a due is what a payment paid. -/
  due : ∀ p ∈ d.duePayments.rows, ∃ q ∈ d.payments.rows, q.id = p.paymentId ∧ q.amount = p.amount
  /-- An assignment that is marked as paid has a payment. -/
  paid : ∀ a ∈ d.dueAssignments.rows, a.isPaid = true → ∃ p ∈ d.duePayments.rows, p.assignmentId = a.id
  /-- A COMPLETED pending payment has its payment. -/
  completed : ∀ p ∈ d.pendingPayments.rows, p.status = .completed → ∃ q ∈ d.payments.rows, q.reference = p.reference

section

variable {assigns : Prop} {F : List Stmt} {d : Db}

theorem payment_of_created {P : Payment → Prop} (linked : ∀ q id, P q → P { q with journalEntryId := some id })
    (valid : violation F d = none) (h : ∃ q, .createPayment q ∈ F ∧ P q) : ∃ q ∈ (applyAll F d).payments.rows, P q := by
  obtain ⟨q, mem, hq⟩ := h
  refine made_applyAll (P := fun d : Db => ∃ q ∈ d.payments.rows, P q) mem (fun d ok => ?_)
    (fun s _ d ok => payment_lasts linked ok) valid
  rw [payments_created ok]
  exact ⟨q, List.mem_append_right _ (List.mem_singleton_self q), hq⟩

theorem payment_kept {P : Payment → Prop} (linked : ∀ q id, P q → P { q with journalEntryId := some id })
    (valid : violation F d = none) (h : ∃ q ∈ d.payments.rows, P q) : ∃ q ∈ (applyAll F d).payments.rows, P q :=
  lasts_applyAll (P := fun d : Db => ∃ q ∈ d.payments.rows, P q) (fun _ _ _ ok => payment_lasts linked ok) valid h

theorem Agree.applyAll (h : Agree d) (records : Recorded assigns F) (opens : OpensUnpaid F)
    (valid : violation F d = none) : Agree (applyAll F d) where
  once := lasts_applyAll (P := fun d : Db => (d.payments.rows.map Payment.reference).Nodup)
    (fun _ _ _ ok => references_of_apply ok) valid h.once
  single := lasts_applyAll (P := fun d : Db => (d.duePayments.rows.map DuePayment.assignmentId).Nodup)
    (fun _ _ _ ok => assignments_of_apply ok) valid h.single
  due p mem := by
    have origin := of_applyAll (P := fun d : Db => p ∈ d.duePayments.rows) (N := fun s => s = .createDuePayment p)
      (fun _ _ _ ok => duePayment_arises ok) valid mem
    obtain before | ⟨s, new, rfl⟩ := origin
    · exact payment_kept (fun q id h => h) valid (h.due p before)
    · exact payment_of_created (fun q id h => h) valid (records.due p new)
  paid a mem isPaid := by
    have origin := of_applyAll (P := fun d : Db => ∃ b ∈ d.dueAssignments.rows, b.id = a.id ∧ b.isPaid = true)
      (fun _ _ _ ok => paid_arises ok) valid ⟨a, mem, rfl, isPaid⟩
    obtain ⟨b, before, same, was⟩ | ⟨s, new, rfl | ⟨b, rfl, was⟩⟩ := origin
    · obtain ⟨p, recorded, of⟩ := h.paid b before was
      exact ⟨p, lasts_applyAll (P := fun d : Db => p ∈ d.duePayments.rows) (fun _ _ _ ok => duePayment_lasts ok) valid
        recorded, of.trans same⟩
    · obtain ⟨p, created, of⟩ := records.paid a.id new
      refine ⟨p, made_applyAll (P := fun d : Db => p ∈ d.duePayments.rows) created (fun d ok => ?_)
        (fun _ _ _ ok => duePayment_lasts ok) valid, of⟩
      rw [duePayments_created ok]
      exact List.mem_append_right _ (List.mem_singleton_self p)
    · have unpaid : (!b.isPaid) = true := opens _ new
      rw [was] at unpaid
      cases unpaid
  completed p mem status := by
    have origin := of_applyAll (P := fun d : Db => Completed d p.reference) (fun _ _ _ ok => completed_arises ok) valid
      ⟨p, mem, rfl, status⟩
    obtain ⟨r, before, same, was⟩ | ⟨s, new, ⟨r, patch, rfl, completes, same⟩ | ⟨r, rfl⟩⟩ := origin
    · exact payment_kept (fun q id h => h) valid (same ▸ h.completed r before was)
    · exact payment_of_created (fun q id h => h) valid (same ▸ records.completed r patch new completes)
    · exact absurd new (records.requested r)

end

section

variable {cond : System → Effect Stmt Call → Prop} {db : Db} {ext : Services} {ops : List Op} {c : System}

/-- **The records agree with the payments** in every state that operations reach, however they are
interleaved and whatever fails. -/
theorem records_agree_with_payments (agree : Agree db) (run : Reaches cond (start db ext ops) c) : Agree c.db := by
  have kept := run.induct (fun d log => (∀ k ∈ log, OpensUnpaid k.writes) → Agree d) (fun _ => agree) ?_
  · exact kept (opensUnpaid_of_run run)
  · rintro c i op nested F hop commits valid - before unpaid
    obtain ⟨earlier, now⟩ := List.forall_mem_append.1 unpaid
    exact (before earlier).applyAll (Op.recorded_of_commits commits) (now _ (List.mem_singleton_self _)) valid

end

/-- A checkout that pays a due. -/
def dueCheckout : PendingPayment where
  id := .ofNat 3
  userId := .ofNat 1
  organizationId := .ofNat 2
  amount := 1000
  dueAssignmentId := some (.ofNat 4)
  reference := "PAY_1"
  bachsCheckoutId := some "c"

/-- The due is not paid yet. -/
def beforePayment : Db where
  users := [.ofNat 1]
  organizations := [{ id := .ofNat 2 }]
  wallets := ⟨[{ id := .ofNat 5, organizationId := some (.ofNat 2) }], by decide⟩
  ledgerAccounts := ⟨[{ id := .wallet (.ofNat 5) }], by decide⟩
  dueAssignments := ⟨[{ id := .ofNat 4, dueId := .ofNat 6, studentId := .ofNat 7, amount := 1000 }], by decide⟩
  pendingPayments := ⟨[dueCheckout], by decide⟩

/-- The payment of the checkout is reported. -/
def paymentReport (n : Nat) : Op :=
  .completePayment { checkoutId := "c", chargeId := "ch", amountInBachs := some 10 }
    ⟨.ofNat n, .ofNat (n + 1), .ofNat (n + 2), .ofNat (n + 3), .ofNat (n + 4), .ofNat (n + 5), ⟨.ofNat (n + 6), "R"⟩⟩

/-- The payment is reported again before the first report commits. -/
theorem twoReports_agree : Agree beforePayment ∧ ∃ c : System,
    Reaches (fun _ _ => True) (start beforePayment {} [paymentReport 10, paymentReport 20]) c ∧
    c.db.dueAssignments.rows.map DueAssignment.isPaid = [true] ∧ Agree c.db := by
  have agree : Agree beforePayment := ⟨by decide, by decide, by decide, by decide, by decide⟩
  obtain ⟨c, run, paid⟩ := Reaches.of_replay_any (fun _ _ => True)
    (start beforePayment {} [paymentReport 10, paymentReport 20]) (turns [(1, 4), (0, 39), (1, 4)])
    (fun c : System => c.db.dueAssignments.rows.map DueAssignment.isPaid = [true]) (by decide +kernel)
  exact ⟨agree, c, run, paid, records_agree_with_payments agree run⟩

section

variable {cond : System → Effect Stmt Call → Prop} {db : Db} {ext : Services} {ops : List Op} {c : System}

/-- How often the committed transactions pay a reference. -/
def Log.paidTimes (log : Log) (reference : String) : ℕ := (log.flatMap Commit.writes).countP (Stmt.pays reference)

/-- The payments of a state, and those that the transactions which led to it committed. -/
structure PaidOnce (db d : Db) (log : Log) (reference : String) : Prop where
  /-- No payment is lost. -/
  counted : d.paidTimes reference = db.paidTimes reference + log.paidTimes reference
  /-- No payment is made twice. -/
  once : d.paidTimes reference ≤ 1
  /-- A transaction that makes a payment moves what is paid, and nothing else. -/
  moved : ∀ k ∈ log, ∀ q, q.reference = reference → .createPayment q ∈ k.writes → Paid q (delta Db k.writes)

theorem paidTimes_applyAll {F : List Stmt} {d : Db} (reference : String) (valid : violation F d = none) :
    (applyAll F d).paidTimes reference = d.paidTimes reference + F.countP (Stmt.pays reference) := by
  have shares : (F.map fun s => if s.pays reference then 1 else 0).sum = F.countP (Stmt.pays reference) := by
    clear valid
    induction F with
    | nil => rfl
    | cons s F ih => rw [List.map_cons, List.sum_cons, ih, List.countP_cons, add_comm]
  rw [count_applyAll (n := fun d : Db => d.paidTimes reference) (paidTimes_apply reference) valid, shares]

theorem paidTimes_append (log : Log) (i : Nat) (F : List Stmt) (d : Db) (reference : String) :
    Log.paidTimes (log ++ [⟨i, F, d⟩]) reference = log.paidTimes reference + F.countP (Stmt.pays reference) := by
  unfold Log.paidTimes
  rw [List.flatMap_append, List.countP_append, List.flatMap_singleton]

theorem paidTimes_le_one {d : Db} (nodup : (d.payments.rows.map Payment.reference).Nodup) (reference : String) :
    d.paidTimes reference ≤ 1 := by
  have once := List.nodup_iff_count_le_one.1 nodup reference
  rw [List.count, List.countP_map] at once
  refine le_of_eq_of_le (List.countP_congr fun q _ => ?_) once
  simp

end

end Heightt
