import Heightt.Bachs.InTurn
import Heightt.Runs.Amounts
import Mathlib.Tactic.NormNum

/-!
# The amounts of a checkout

An external payment has its amount in three places: the row, its metadata and
the provider's checkout. The requests for external payments are served in turn;
as long as none goes on with a row of other figures, every reply names a checkout
of the requested price, and the completion credits just what was requested.
-/

namespace Heightt

open ReadCommitted Store Database WalletService LedgerService FinanceService BachsService

/-- The requests, webhooks and jobs that follow a pending payment. -/
def Op.external : Op → Bool
  | .completePayment .. | .handleCheckoutCompleted .. | .handleCollectionSucceeded ..
  | .handleCollectionFailed .. | .handleCollectionUnderpaid .. | .handleCheckoutExpired ..
  | .getPendingPaymentStatus .. | .cancelPendingPayment .. | .cleanupExpiredPayments ..
  | .retryFailedPayment .. => true
  | _ => false

/-- A request for an external payment. -/
inductive PaymentRequest where
  | initiatePayment (config : CheckoutConfig) (userId : Id) (data : PendingPaymentData)
      (successUrl cancelUrl : Option String) (new : NewPendingPayment)
  | external (op : Op)

/-- A reply of `initiatePayment`, with the amount that was requested and the fee at that time. -/
structure Answer where
  amount : Int
  fee : Int
  reply : CheckoutReply
  deriving DecidableEq

/-- The reply, if the call succeeded. -/
def answered (config : CheckoutConfig) (data : PendingPaymentData) :
    Except Failure CheckoutReply → List Answer
  | .ok reply => [⟨data.amount, config.platformFee, reply⟩]
  | .error _ => []

/-- The requests are served in turn and any operation of theirs may fail; `P` is
what each request meets in the state it starts in. -/
inductive Served (P : PaymentRequest → Db → Services → Prop) (db : Db) (ext : Services) :
    Db → Services → List Answer → Prop where
  | start : Served P db ext db ext []
  | initiated {d : Db} {x : Services} {answers : List Answer} (config : CheckoutConfig) (userId : Id)
      (data : PendingPaymentData) (successUrl cancelUrl : Option String) (new : NewPendingPayment)
      (o : Outcome Db Services Stmt Failure CheckoutReply) :
    Served P db ext d x answers →
    P (.initiatePayment config userId data successUrl cancelUrl new) d x →
    (BachsService.initiatePayment config userId data successUrl cancelUrl new).Ends [] d x o →
    Served P db ext o.db o.ext (answers ++ answered config data o.result)
  | external {d : Db} {x : Services} {answers : List Answer} (op : Op)
      (o : Outcome Db Services Stmt Failure Unit) :
    Served P db ext d x answers → op.external = true → P (.external op) d x →
    op.program.Ends [] d x o → Served P db ext o.db o.ext answers
  | moved {d : Db} {x x' : Services} {answers : List Answer} (m : Move) :
    Served P db ext d x answers → x.move m = some x' → Served P db ext d x' answers

/-- The request changes no figures: a row that is used again has the requested
amount, and the current fee if it has a checkout; a payment that is retried has
not lost its figures to the cleanup job. -/
def KeepsFigures : PaymentRequest → Db → Services → Prop
  | .initiatePayment config userId data _ _ new, d, x =>
    ∀ p ∈ reusedPayment userId data new.now d x,
      p.amount = data.amount ∧ (p.bachsCheckoutId.isSome → platformFee p = config.platformFee)
  | .external (.retryFailedPayment id), d, _ =>
    ∀ p ∈ d.pendingPayments.find id, p.status = .failed → HasFigures p
  | .external _, _, _ => True

/-- The completion of `p` between the states credits `amount` to the wallet of its
organization and `fee` to a platform wallet, and posts one entry, which balances. -/
structure Credited (d d' : Db) (p : PendingPayment) (amount fee : Int) : Prop where
  wallets : ∃ o ∈ d'.wallets.rows, o.organizationId = some p.organizationId ∧
    ∃ platform : Option Wallet, (platform.isSome ↔ 0 < fee) ∧
      (∀ w ∈ platform, w ∈ d'.wallets.rows ∧ w.isPlatformWallet = true) ∧
      ∀ id, d'.value (.balance id) = d.value (.balance id) + (if id = o.id then amount else 0) +
        platform.elim 0 fun w => if id = w.id then fee else 0
  entry : ∃ e, d'.journalEntries.rows = d.journalEntries.rows ++ [e] ∧ e.status = .posted ∧
    totalDebits e.lines = totalCredits e.lines

/-- What a reply promises: the price of its checkout, and what a completion of its
pending payment credits. -/
structure AmountsAgree (d : Db) (x : Services) (a : Answer) : Prop where
  price : x.price a.reply.checkoutId = some (BachsClient.toBachsAmount (a.amount + a.fee))
  credited : ∀ c new o, (BachsService.completePayment c new).Ends [] d x o →
    ∀ p ∈ d.pendingPayments.find a.reply.pendingPaymentId, p.status = .pending →
      (∃ p' ∈ o.db.pendingPayments.find p.id, p'.status = .completed) →
        Credited d o.db p a.amount a.fee

/-! ## Completions -/

/-- The platform's wallets belong to no organization. -/
def PlatformApart (d : Db) : Prop :=
  ∀ w ∈ d.wallets.rows, w.isPlatformWallet = true → w.organizationId = none

/-- The statement opens no wallet, or one that is apart. -/
def Stmt.keepsApart : Stmt → Prop
  | .createWallet _ _ organizationId isPlatformWallet => isPlatformWallet = true → organizationId = none
  | .markPlatformWallet _ => False
  | _ => True

theorem apart_apply {s : Stmt} {d : Db} (hs : s.keepsApart) (apart : PlatformApart d) :
    PlatformApart (s.apply d) := by
  intro w hw platform
  cases s with
  | createWallet id userId organizationId isPlatformWallet =>
    by_cases free : d.wallets.find id = none
    · have rows := Table.insert_rows
        (r := ({ id, userId, organizationId, isPlatformWallet } : Wallet)) free
      rw [Stmt.apply, rows, List.mem_append, List.mem_singleton] at hw
      rcases hw with hw | rfl
      · exact apart w hw platform
      · exact hs platform
    · rw [Table.find_eq_none, not_not] at free
      rw [Stmt.apply, Table.insert, dif_pos free] at hw
      exact apart w hw platform
  | markPlatformWallet id => exact hs.elim
  | updateWallet id balance heldBalance =>
    rw [Stmt.apply, Table.modify_rows, List.mem_map] at hw
    obtain ⟨v, hv, rfl⟩ := hw
    by_cases hid : v.id = id
    · rw [if_pos hid] at platform ⊢
      exact apart v hv platform
    · rw [if_neg hid] at platform ⊢
      exact apart v hv platform
  | _ => exact apart w hw platform

theorem apart_applyAll {F : List Stmt} {d : Db} (hF : ∀ s ∈ F, s.keepsApart) (apart : PlatformApart d) :
    PlatformApart (applyAll F d) := by
  induction F generalizing d with
  | nil => exact apart
  | cons s F ih =>
    rw [applyAll_cons]
    exact ih (fun s hs => hF s (List.mem_cons_of_mem _ hs)) (apart_apply (hF s List.mem_cons_self) apart)

theorem keepsApart_of_opensApart {s : Stmt} (h : OpensApart s) : s.keepsApart := by
  cases s with
  | createWallet id userId organizationId isPlatformWallet => exact h
  | createLedgerAccount _ => trivial
  | linkWallet _ => trivial
  | _ => exact h.elim

theorem change_of_opensApart {s : Stmt} (h : OpensApart s) (c : Col) : s.change c = .keep := by
  cases s with
  | createWallet id userId organizationId isPlatformWallet => rfl
  | createLedgerAccount _ => rfl
  | linkWallet _ => rfl
  | _ => exact h.elim

/-- Opening wallets leaves the ones there are. -/
theorem find_of_opensApart {S : List Stmt} (h : ∀ s ∈ S, OpensApart s) {d : Db} {id : Id} {w : Wallet}
    (hw : d.wallets.find id = some w) : (applyAll S d).wallets.find id = some w := by
  induction S generalizing d with
  | nil => exact hw
  | cons s S ih =>
    rw [applyAll_cons]
    refine ih (fun s hs => h s (List.mem_cons_of_mem _ hs)) ?_
    have hs := h s List.mem_cons_self
    cases s with
    | createWallet newId userId organizationId isPlatformWallet =>
      change (d.wallets.insert _).find id = some w
      by_cases free : d.wallets.find newId = none
      · rw [Table.find_insert (r := ({ id := newId, userId, organizationId, isPlatformWallet } : Wallet)) free,
          if_neg, hw]
        rintro rfl
        rw [free] at hw
        cases hw
      · rw [Table.find_eq_none, not_not] at free
        rw [Table.insert, dif_pos free, hw]
    | createLedgerAccount _ => exact hw
    | linkWallet _ => exact hw
    | _ => exact hs.elim

theorem value_of_opensApart {S : List Stmt} (h : ∀ s ∈ S, OpensApart s) {d : Db}
    (valid : violation S d = none) (c : Col) : (applyAll S d).value c = d.value c :=
  (value_applyAll valid c).trans
    (valueAfter_of_keep (fun s hs => change_of_opensApart (h s hs) c) (d.value c))

/-- The figure a completion reads in a wallet is the one its column holds. -/
theorem balance_of_findFirst {S : List Stmt} (h : ∀ s ∈ S, OpensApart s) {d : Db}
    (valid : violation S d = none) {q : Wallet → Bool} {w : Wallet}
    (hw : (applyAll S d).wallets.findFirst q = some w) :
    (applyAll S d).wallets.find w.id = some w ∧ q w = true ∧ d.value (.balance w.id) = w.balance := by
  have find : (applyAll S d).wallets.find w.id = some w := Table.find_of_mem (List.mem_of_find?_eq_some hw)
  refine ⟨find, List.find?_some hw, ?_⟩
  rw [← value_of_opensApart h valid]
  simp [Db.value, find]

def Stmt.leavesEntries : Stmt → Bool
  | .createJournalEntry _ | .createJournalLine .. | .updateJournalEntry .. | .updateJournalLines .. => false
  | _ => true

def Stmt.leavesPending : Stmt → Bool
  | .createPendingPayment _ | .updatePendingPayment .. | .attachCheckout .. | .expirePendingPayments _ => false
  | _ => true

theorem journalEntries_applyAll {F : List Stmt} (h : ∀ s ∈ F, s.leavesEntries = true) (d : Db) :
    (applyAll F d).journalEntries = d.journalEntries := by
  refine applyAll_keeps Db.journalEntries (fun s hs d => ?_) d
  have hs := h s hs
  cases s with
  | createJournalEntry e => cases hs
  | createJournalLine id l => cases hs
  | updateJournalEntry id st => cases hs
  | updateJournalLines id a => cases hs
  | _ => rfl

theorem pendingPayments_applyAll {F : List Stmt} (h : ∀ s ∈ F, s.leavesPending = true) (d : Db) :
    (applyAll F d).pendingPayments = d.pendingPayments := by
  refine applyAll_keeps Db.pendingPayments (fun s hs d => ?_) d
  have hs := h s hs
  cases s with
  | createPendingPayment p => cases hs
  | updatePendingPayment p patch => cases hs
  | attachCheckout p id m => cases hs
  | expirePendingPayments c => cases hs
  | _ => rfl

theorem valueAfter_moveWallet (w : Wallet) (δ : Int) (j : Id) (v : Int) :
    valueAfter Db (moveWallet w δ) (.balance j) v = if j = w.id then w.balance + δ else v := by
  change Change.apply .keep (Change.apply (if j = w.id then .set w.balance δ else .keep) v) = _
  split <;> rfl

theorem valueAfter_duePaid {paymentId : Id} {amount : Int} {due : List Stmt}
    (h : DuePaid paymentId amount due) (c : Col) (v : Int) : valueAfter Db due c v = v := by
  cases h <;> rfl

/-- What a completion leaves in the balances. -/
theorem valueAfter_creditWrites (p : PendingPayment) (c : Collection) (amountInKobo : Int) (o : Wallet)
    (platform : Option Wallet) (base : Int) {due : List Stmt} (new : NewCompletion)
    (paid : DuePaid new.paymentId p.amount due) (j : Id) (v : Int) :
    valueAfter Db (creditWrites p c amountInKobo o platform base due new) (.balance j) v =
      platform.elim (if j = o.id then o.balance + p.amount else v) fun w =>
        if j = w.id then w.balance + platformFee p else if j = o.id then o.balance + p.amount else v := by
  have rest (v : Int) : valueAfter Db (.updateLedgerAccount (.system .bachsSettlement)
      (.set base amountInKobo) :: .createPayment (paymentRow p c new) ::
      .createJournalEntry (journalEntryRow p c o platform amountInKobo new) ::
      .updateTransaction new.transactionId new.entryId :: .updatePayment new.paymentId new.entryId ::
      (due ++ [.updatePendingPayment p completed, .createRecord .activityLog])) (.balance j) v = v := by
    change valueAfter Db (due ++ [.updatePendingPayment p completed, .createRecord .activityLog])
      (.balance j) v = v
    rw [valueAfter_append, valueAfter_duePaid paid]
    rfl
  change valueAfter Db (moveWallet o p.amount ++ _) (.balance j) v = _
  rw [valueAfter_append, valueAfter_append, rest, valueAfter_moveWallet]
  cases platform with
  | none => rfl
  | some w =>
    rw [Option.toList_some, List.flatMap_singleton, valueAfter_moveWallet]
    rfl

/-- The rows of the wallets keep their owner. -/
theorem wallet_row_applyAll {F : List Stmt} {d : Db} {id : Id} {w : Wallet}
    (hw : d.wallets.find id = some w) (hF : ∀ s ∈ F, s.keepsApart) :
    ∃ v, (applyAll F d).wallets.find id = some v ∧ v.organizationId = w.organizationId ∧
      v.isPlatformWallet = w.isPlatformWallet := by
  induction F generalizing d w with
  | nil => exact ⟨w, hw, rfl, rfl⟩
  | cons s F ih =>
    rw [applyAll_cons]
    have next : ∃ v, (s.apply d).wallets.find id = some v ∧ v.organizationId = w.organizationId ∧
        v.isPlatformWallet = w.isPlatformWallet := by
      have hs := hF s List.mem_cons_self
      cases s with
      | createWallet newId userId organizationId isPlatformWallet =>
        refine ⟨w, ?_, rfl, rfl⟩
        exact find_of_opensApart (S := [.createWallet newId userId organizationId isPlatformWallet])
          (fun s h => (List.mem_singleton.1 h) ▸ hs) hw
      | markPlatformWallet _ => exact hs.elim
      | updateWallet k balance heldBalance =>
        refine ⟨if id = k then { w with balance := balance.apply w.balance,
                                        heldBalance := heldBalance.apply w.heldBalance } else w, ?_, ?_⟩
        · rw [Stmt.apply, Table.find_modify, hw]
          split <;> rfl
        · split <;> exact ⟨rfl, rfl⟩
      | _ => exact ⟨w, hw, rfl, rfl⟩
    obtain ⟨v, hv, ho, hp⟩ := next
    obtain ⟨v', hv', ho', hp'⟩ := ih hv fun s hs => hF s (List.mem_cons_of_mem _ hs)
    exact ⟨v', hv', ho'.trans ho, hp'.trans hp⟩

/-- The figures of a row agree. -/
structure FiguresAgree (p : PendingPayment) : Prop where
  amount : 0 < p.amount
  fee : 0 ≤ platformFee p
  expected : p.metadata.expectedSettlementAmount = some (p.amount + platformFee p)

theorem FiguresAgree.expectedSettlementAmount {p : PendingPayment} (h : FiguresAgree p) :
    expectedSettlementAmount p = p.amount + platformFee p := by
  obtain ⟨amount, fee, expected⟩ := h
  rw [BachsService.expectedSettlementAmount, expected, Option.getD_some, if_neg (by omega)]

/-- The entry of a completion balances. -/
theorem balanced_journalEntryRow {p : PendingPayment} (agree : FiguresAgree p) (c : Collection) (o : Wallet)
    {platform : Option Wallet} (charged : platform.isSome ↔ 0 < platformFee p) (new : NewCompletion) :
    totalDebits (journalEntryRow p c o platform (expectedSettlementAmount p) new).lines =
      totalCredits (journalEntryRow p c o platform (expectedSettlementAmount p) new).lines := by
  rw [agree.expectedSettlementAmount]
  have fee := agree.fee
  cases platform with
  | none =>
    have free : platformFee p = 0 := by
      have : ¬0 < platformFee p := fun pos => by simp at charged; omega
      omega
    simp [totalDebits, totalCredits, journalEntryRow, free]
  | some w => simp [totalDebits, totalCredits, journalEntryRow]

/-- The writes of a completion before its journal entry. -/
def creditBefore (p : PendingPayment) (c : Collection) (amountInKobo : Int) (o : Wallet)
    (platform : Option Wallet) (base : Int) (new : NewCompletion) : List Stmt :=
  .createTransaction (transactionRow p o amountInKobo new) :: .createRecord .ledgerEntry ::
    (moveWallet o p.amount ++ (platform.toList.flatMap (fun w => moveWallet w (platformFee p)) ++
      [.updateLedgerAccount (.system .bachsSettlement) (.set base amountInKobo),
        .createPayment (paymentRow p c new)]))

/-- The writes of a completion between its journal entry and its pending payment. -/
def creditLinks (due : List Stmt) (new : NewCompletion) : List Stmt :=
  .updateTransaction new.transactionId new.entryId :: .updatePayment new.paymentId new.entryId :: due

theorem creditWrites_eq (p : PendingPayment) (c : Collection) (amountInKobo : Int) (o : Wallet)
    (platform : Option Wallet) (base : Int) (due : List Stmt) (new : NewCompletion) :
    creditWrites p c amountInKobo o platform base due new =
      creditBefore p c amountInKobo o platform base new ++
        .createJournalEntry (journalEntryRow p c o platform amountInKobo new) ::
          (creditLinks due new ++ [.updatePendingPayment p completed, .createRecord .activityLog]) := by
  simp [creditWrites, creditBefore, creditLinks]

/-- The statement moves a figure, or creates a row of no entry and no pending payment. -/
def Stmt.isCredit : Stmt → Bool
  | .createTransaction _ | .createRecord _ | .updateWallet .. | .updateLedgerAccount ..
  | .createPayment _ | .updateTransaction .. | .updatePayment .. | .createDuePayment _
  | .payDueAssignment _ => true
  | _ => false

theorem isCredit_creditBefore (p : PendingPayment) (c : Collection) (amountInKobo : Int) (o : Wallet)
    (platform : Option Wallet) (base : Int) (new : NewCompletion) :
    ∀ s ∈ creditBefore p c amountInKobo o platform base new, s.isCredit = true := by
  cases platform <;> simp [creditBefore, moveWallet, Stmt.isCredit]

theorem isCredit_creditLinks {paymentId : Id} {amount : Int} {due : List Stmt}
    (paid : DuePaid paymentId amount due) (new : NewCompletion) :
    ∀ s ∈ creditLinks due new, s.isCredit = true := by
  cases paid <;> simp [creditLinks, Stmt.isCredit]

theorem leaves_of_isCredit {s : Stmt} (h : s.isCredit = true) :
    s.leavesEntries = true ∧ s.leavesPending = true ∧ s.keepsApart := by
  cases s <;> first | exact ⟨rfl, rfl, trivial⟩ | cases h

theorem leaves_of_opensApart {s : Stmt} (h : OpensApart s) :
    s.leavesEntries = true ∧ s.leavesPending = true := by
  cases s <;> first | exact ⟨rfl, rfl⟩ | exact h.elim

/-- The row that a completion completes. -/
theorem pendingPayments_completion {d : Db} {p : PendingPayment} {F : List Stmt} (h : CompletionTx d p F) :
    (applyAll F d).pendingPayments = d.pendingPayments.modify p.id completed.apply fun _ => rfl := by
  obtain ⟨c, new, o, platform, base, S, S', S'', due, found, pending, opens, organization, fee, charged,
    paid⟩ := h
  have leaves : ∀ s ∈ S ++ S' ++ S'' ++ creditBefore p c (expectedSettlementAmount p) o platform base new ++
      .createJournalEntry (journalEntryRow p c o platform (expectedSettlementAmount p) new) ::
        creditLinks due new, s.leavesPending = true := by
    intro s hs
    rcases List.mem_append.1 hs with hs | hs
    · rcases List.mem_append.1 hs with hs | hs
      · exact (leaves_of_opensApart (opens s hs)).2
      · exact (leaves_of_isCredit (isCredit_creditBefore p c _ o platform base new s hs)).2.1
    · rcases List.mem_cons.1 hs with rfl | hs
      · rfl
      · exact (leaves_of_isCredit (isCredit_creditLinks paid new s hs)).2.1
  have split : S ++ S' ++ S'' ++ creditWrites p c (expectedSettlementAmount p) o platform base due new =
      S ++ S' ++ S'' ++ creditBefore p c (expectedSettlementAmount p) o platform base new ++
        .createJournalEntry (journalEntryRow p c o platform (expectedSettlementAmount p) new) ::
          creditLinks due new ++ [.updatePendingPayment p completed, .createRecord .activityLog] := by
    simp [creditWrites_eq]
  rw [split, applyAll_append]
  exact congrArg (fun t : Table PendingPayment Id PendingPayment.id =>
    t.modify p.id completed.apply fun _ => rfl) (pendingPayments_applyAll leaves d)

/-- A wallet that is not marked as the platform's gets no fee. -/
theorem distinct_of_unmarked {d : Db} {p : PendingPayment} {o : Wallet} {platform : Option Wallet}
    {S S' : List Stmt} (opens : ∀ s ∈ S ++ S', OpensApart s) (unmarked : o.isPlatformWallet = false)
    (organization : (applyAll S d).wallets.findFirst (fun w => w.organizationId = some p.organizationId) =
      some o)
    (fee : ∀ w ∈ platform, (applyAll (S ++ S') d).wallets.findFirst Wallet.isPlatformWallet = some w) :
    ∀ w ∈ platform, w.id ≠ o.id := by
  intro w hw same
  have findO : (applyAll (S ++ S') d).wallets.find o.id = some o := by
    rw [applyAll_append]
    exact find_of_opensApart (fun s hs => opens s (List.mem_append_right _ hs))
      (Table.find_of_mem (List.mem_of_find?_eq_some organization))
  have findW := Table.find_of_mem (List.mem_of_find?_eq_some (fee w hw))
  have marked : w.isPlatformWallet = true := List.find?_some (fee w hw)
  rw [same, findO] at findW
  cases findW
  rw [marked] at unmarked
  cases unmarked

/-- The wallets of a completion, as it read them. -/
theorem wallets_credited {d : Db} {p : PendingPayment} {c : Collection} {new : NewCompletion} {o : Wallet}
    {platform : Option Wallet} {base : Int} {S S' S'' due : List Stmt}
    (opens : ∀ s ∈ S ++ S' ++ S'', OpensApart s)
    (valid : violation (S ++ S' ++ S'' ++
      creditWrites p c (expectedSettlementAmount p) o platform base due new) d = none)
    (unmarked : o.isPlatformWallet = false)
    (organization : (applyAll S d).wallets.findFirst (fun w => w.organizationId = some p.organizationId) =
      some o)
    (fee : ∀ w ∈ platform, (applyAll (S ++ S') d).wallets.findFirst Wallet.isPlatformWallet = some w)
    (paid : DuePaid new.paymentId p.amount due) (j : Id) :
    (applyAll (S ++ S' ++ S'' ++ creditWrites p c (expectedSettlementAmount p) o platform base due new)
      d).value (.balance j) = d.value (.balance j) + (if j = o.id then p.amount else 0) +
        platform.elim 0 fun w => if j = w.id then platformFee p else 0 := by
  have hS : ∀ s ∈ S, OpensApart s := fun s hs => opens s (by simp [hs])
  have hS' : ∀ s ∈ S ++ S', OpensApart s := fun s hs => opens s (List.mem_append_left _ hs)
  have validS' : violation (S ++ S') d = none :=
    (violation_append.1 (violation_append.1 valid).1).1
  obtain ⟨-, -, balO⟩ := balance_of_findFirst hS (violation_append.1 validS').1 organization
  refine (value_applyAll valid _).trans ?_
  rw [valueAfter_append, valueAfter_of_keep fun s hs => change_of_opensApart (opens s hs) _,
    valueAfter_creditWrites p c _ o platform base new paid]
  change platform.elim (if j = o.id then o.balance + p.amount else d.value (.balance j)) _ = _
  cases platform with
  | none =>
    by_cases hj : j = o.id
    · subst hj
      simp [balO]
    · simp [hj]
  | some w =>
    obtain ⟨-, -, balW⟩ := balance_of_findFirst hS' validS' (fee w rfl)
    have distinct := distinct_of_unmarked hS' unmarked organization fee w rfl
    by_cases hj : j = w.id
    · subst hj
      simp [balW, distinct]
    · by_cases hj' : j = o.id
      · subst hj'
        simp [balO, hj]
      · simp [hj, hj']
        rfl

/-- The entry of a completion is the only one it creates. -/
theorem journalEntries_completion {d : Db} {p : PendingPayment} {c : Collection} {new : NewCompletion}
    {o : Wallet} {platform : Option Wallet} {base amountInKobo : Int} {S due : List Stmt}
    (opens : ∀ s ∈ S, OpensApart s)
    (valid : violation (S ++ creditWrites p c amountInKobo o platform base due new) d = none)
    (paid : DuePaid new.paymentId p.amount due) :
    (applyAll (S ++ creditWrites p c amountInKobo o platform base due new) d).journalEntries.rows =
      d.journalEntries.rows ++ [journalEntryRow p c o platform amountInKobo new] := by
  rw [creditWrites_eq, ← List.append_assoc] at valid ⊢
  have before : ∀ s ∈ S ++ creditBefore p c amountInKobo o platform base new, s.leavesEntries = true := by
    intro s hs
    rcases List.mem_append.1 hs with hs | hs
    · exact (leaves_of_opensApart (opens s hs)).1
    · exact (leaves_of_isCredit (isCredit_creditBefore p c _ o platform base new s hs)).1
  have after : ∀ s ∈ creditLinks due new ++ [.updatePendingPayment p completed, .createRecord .activityLog],
      s.leavesEntries = true := by
    intro s hs
    rcases List.mem_append.1 hs with hs | hs
    · exact (leaves_of_isCredit (isCredit_creditLinks paid new s hs)).1
    · simp only [List.mem_cons, List.not_mem_nil, or_false] at hs
      rcases hs with rfl | rfl <;> rfl
  have kept := journalEntries_applyAll before d
  have free : d.journalEntries.find (journalEntryRow p c o platform amountInKobo new).id = none := by
    have := (Option.or_eq_none_iff.1 (violation_cons.1 (violation_append.1 valid).2).1).1
    rw [Stmt.unique_eq_none, kept] at this
    simpa using this
  rw [applyAll_append, applyAll_cons, journalEntries_applyAll after]
  change (Table.insert (applyAll _ d).journalEntries _).rows = _
  rw [kept, Table.insert_rows free]

theorem keepsApart_completion {d : Db} {p : PendingPayment} {F : List Stmt} (h : CompletionTx d p F) :
    ∀ s ∈ F, s.keepsApart := by
  obtain ⟨c, new, o, platform, base, S, S', S'', due, found, pending, opens, organization, fee, charged,
    paid⟩ := h
  rw [creditWrites_eq]
  intro s hs
  simp only [List.mem_append, List.mem_cons, List.not_mem_nil, or_false] at hs
  rcases hs with ((hs | hs) | hs) | hs | rfl | hs | rfl | rfl
  · exact keepsApart_of_opensApart (opens s (by simp [hs]))
  · exact keepsApart_of_opensApart (opens s (by simp [hs]))
  · exact keepsApart_of_opensApart (opens s (by simp [hs]))
  · exact (leaves_of_isCredit (isCredit_creditBefore p c _ o platform base new s hs)).2.2
  · trivial
  · exact (leaves_of_isCredit (isCredit_creditLinks paid new s hs)).2.2
  · trivial
  · trivial

theorem apart_completion {d : Db} {p : PendingPayment} {F : List Stmt} (h : CompletionTx d p F)
    (apart : PlatformApart d) : PlatformApart (applyAll F d) :=
  apart_applyAll (keepsApart_completion h) apart

/-- **Completions credit their figures.** -/
theorem credited_of_completionTx {d : Db} {p : PendingPayment} {F : List Stmt} (h : CompletionTx d p F)
    (valid : violation F d = none) (apart : PlatformApart d) (agree : FiguresAgree p) :
    Credited d (applyAll F d) p p.amount (platformFee p) := by
  have keeps := keepsApart_completion h
  obtain ⟨c, new, o, platform, base, S, S', S'', due, found, pending, opens, organization, fee, charged,
    paid⟩ := h
  have unmarked : o.isPlatformWallet = false := by
    have apartS : PlatformApart (applyAll S d) := apart_applyAll
      (fun s hs => keepsApart_of_opensApart (opens s (by simp [hs]))) apart
    have orgO : o.organizationId = some p.organizationId := by simpa using List.find?_some organization
    rw [← Bool.not_eq_true]
    intro marked
    rw [apartS o (List.mem_of_find?_eq_some organization) marked] at orgO
    cases orgO
  have values := wallets_credited opens valid unmarked organization fee paid
  have splitO : S ++ S' ++ S'' ++ creditWrites p c (expectedSettlementAmount p) o platform base due new =
      S ++ (S' ++ S'' ++ creditWrites p c (expectedSettlementAmount p) o platform base due new) := by
    simp only [List.append_assoc]
  have splitW : S ++ S' ++ S'' ++ creditWrites p c (expectedSettlementAmount p) o platform base due new =
      (S ++ S') ++ (S'' ++ creditWrites p c (expectedSettlementAmount p) o platform base due new) := by
    simp only [List.append_assoc]
  obtain ⟨o', findO', orgO', -⟩ := wallet_row_applyAll
    (F := S' ++ S'' ++ creditWrites p c (expectedSettlementAmount p) o platform base due new)
    (Table.find_of_mem (List.mem_of_find?_eq_some organization))
    fun s hs => keeps s (splitO ▸ List.mem_append_right _ hs)
  rw [← applyAll_append, ← splitO] at findO'
  have orgO := List.find?_some (p := fun w : Wallet => decide (w.organizationId = some p.organizationId))
    organization
  refine ⟨⟨o', Table.find_mem findO', orgO'.trans (of_decide_eq_true orgO), ?_⟩, _,
    journalEntries_completion opens valid paid, rfl, balanced_journalEntryRow agree c o charged new⟩
  have idO' : o'.id = o.id := Table.find_key findO'
  cases platform with
  | none => exact ⟨none, charged, by simp, fun id => by rw [idO']; exact values id⟩
  | some w =>
    obtain ⟨w', findW', -, platW'⟩ := wallet_row_applyAll
      (F := S'' ++ creditWrites p c (expectedSettlementAmount p) o (some w) base due new)
      (Table.find_of_mem (List.mem_of_find?_eq_some (fee w rfl)))
      fun s hs => keeps s (splitW ▸ List.mem_append_right _ hs)
    rw [← applyAll_append, ← splitW] at findW'
    have platW : w.isPlatformWallet = true := List.find?_some (fee w rfl)
    have idW' : w'.id = w.id := Table.find_key findW'
    refine ⟨some w', charged, ?_, fun id => ?_⟩
    · rintro v hv
      cases hv
      exact ⟨Table.find_mem findW', platW'.trans platW⟩
    · rw [idO']
      change _ = _ + _ + if id = w'.id then _ else _
      rw [idW']
      exact values id

/-! ## Rows and their checkouts -/

/-- What the steps of external payments leave of a row. -/
structure KeepsRow (p p' : PendingPayment) : Prop where
  amount : p'.amount = p.amount
  checkout : p'.bachsCheckoutId = p.bachsCheckoutId
  figures : HasFigures p' → SameFigures p'.metadata p.metadata
  pending : p'.status = .pending → (p.status = .pending → HasFigures p) → HasFigures p'

theorem KeepsRow.refl (p : PendingPayment) : KeepsRow p p :=
  ⟨rfl, rfl, fun _ => ⟨rfl, rfl⟩, fun pending h => h pending⟩

theorem KeepsRow.hasFigures {p p' : PendingPayment} (h : KeepsRow p p') (figures : HasFigures p') :
    HasFigures p := by
  unfold HasFigures at figures ⊢
  rwa [← (h.figures figures).2]

theorem KeepsRow.platformFee {p p' : PendingPayment} (h : KeepsRow p p') (figures : HasFigures p') :
    platformFee p' = platformFee p := by
  unfold BachsService.platformFee
  rw [(h.figures figures).1]

theorem KeepsRow.trans {p p' p'' : PendingPayment} (h : KeepsRow p p') (h' : KeepsRow p' p'') :
    KeepsRow p p'' where
  amount := h'.amount.trans h.amount
  checkout := h'.checkout.trans h.checkout
  figures := fun figures =>
    have before := h.figures (h'.hasFigures figures)
    ⟨(h'.figures figures).1.trans before.1, (h'.figures figures).2.trans before.2⟩
  pending := fun pending kept => h'.pending pending fun pending' => h.pending pending' kept

/-- Every row is kept, and there are no others. -/
def RowsKept (d d' : Db) : Prop :=
  ∀ id, Option.Rel KeepsRow (d.pendingPayments.find id) (d'.pendingPayments.find id)

theorem rowsKept_of_eq {d d' : Db} (h : d'.pendingPayments = d.pendingPayments) : RowsKept d d' := by
  intro id
  rw [h]
  cases d.pendingPayments.find id with
  | none => exact .none
  | some p => exact .some (.refl p)

theorem RowsKept.trans {d d' d'' : Db} (h : RowsKept d d') (h' : RowsKept d' d'') : RowsKept d d'' := by
  intro id
  have row := h id
  have row' := h' id
  generalize d.pendingPayments.find id = p at row
  generalize d'.pendingPayments.find id = p' at row row'
  generalize d''.pendingPayments.find id = p'' at row'
  cases row with
  | none =>
    cases row'
    exact .none
  | some kept =>
    cases row' with
    | some kept' => exact .some (kept.trans kept')

/-- A row that is changed as `KeepsRow` allows. -/
theorem rowsKept_of_modify {d d' : Db} {p : PendingPayment} {f : PendingPayment → PendingPayment}
    (hf : ∀ r, (f r).id = r.id) (found : d.pendingPayments.find p.id = some p)
    (h : d'.pendingPayments = d.pendingPayments.modify p.id f hf) (kept : KeepsRow p (f p)) :
    RowsKept d d' := by
  intro id
  rw [h, Table.find_modify]
  by_cases hid : id = p.id
  · subst hid
    rw [if_pos rfl, found]
    exact .some kept
  · rw [if_neg hid]
    cases d.pendingPayments.find id with
    | none => exact .none
    | some q => exact .some (.refl q)

theorem keepsRow_completed (p : PendingPayment) : KeepsRow p (completed.apply p) :=
  ⟨rfl, rfl, fun _ => ⟨rfl, rfl⟩, fun pending => by cases pending⟩

theorem keepsRow_expire (p : PendingPayment) : KeepsRow p p.expire :=
  ⟨rfl, rfl, fun figures => (by cases figures), fun pending => by cases pending⟩

/-- Each transaction of an external payment keeps the rows. -/
theorem rowsKept_of_pendingTx {d : Db} {F : List Stmt} (h : PendingTx d F) :
    RowsKept d (applyAll F d) := by
  cases h with
  | receipt r => exact rowsKept_of_eq rfl
  | record t => exact rowsKept_of_eq rfl
  | complete h =>
    have rows := pendingPayments_completion h
    obtain ⟨c, new, o, platform, base, S, S', S'', due, found, -⟩ := h
    exact rowsKept_of_modify _ found rows (keepsRow_completed _)
  | status p patch found undone reopens figures =>
    refine rowsKept_of_modify (f := patch.apply) (fun _ => rfl) found rfl ⟨rfl, rfl, fun _ => ?_, ?_⟩
    · cases hm : patch.metadata with
      | none => simp [PendingPaymentPatch.apply, hm, SameFigures]
      | some m => simpa [PendingPaymentPatch.apply, hm] using figures m hm
    · intro pending _
      have kept := reopens pending
      cases hm : patch.metadata with
      | none => simpa [PendingPaymentPatch.apply, HasFigures, hm] using kept
      | some m =>
        have same := (figures m hm).2
        simpa [PendingPaymentPatch.apply, HasFigures, hm, same] using kept
  | expire cutoff =>
    intro id
    change Option.Rel _ _ ((d.pendingPayments.mapRows
      (fun p => if p.Expires cutoff then p.expire else p) fun p => by split <;> rfl).find id)
    rw [Table.find_mapRows]
    cases d.pendingPayments.find id with
    | none => exact .none
    | some p =>
      refine .some ?_
      dsimp only
      split
      · exact keepsRow_expire p
      · exact .refl p

/-- The row has figures that agree while it is pending, and its checkout is priced at them. -/
structure Priced (x : Services) (p : PendingPayment) : Prop where
  kept : p.status = .pending → HasFigures p
  agree : HasFigures p → FiguresAgree p
  price : HasFigures p → ∀ id, p.bachsCheckoutId = some id →
    x.price id = some (BachsClient.toBachsAmount (p.amount + platformFee p))

theorem Priced.of_prices {x x' : Services} {p : PendingPayment} (h : Priced x p)
    (prices : x.prices <+: x'.prices) : Priced x' p :=
  ⟨h.kept, h.agree, fun figures id hid => Services.price_kept prices (h.price figures id hid)⟩

theorem Priced.of_keepsRow {x : Services} {p p' : PendingPayment} (h : Priced x p) (kept : KeepsRow p p') :
    Priced x p' where
  kept := fun pending => kept.pending pending h.kept
  agree := fun figures => by
    have before := h.agree (kept.hasFigures figures)
    refine ⟨?_, ?_, ?_⟩
    · rw [kept.amount]
      exact before.amount
    · rw [kept.platformFee figures]
      exact before.fee
    · rw [(kept.figures figures).2, kept.amount, kept.platformFee figures]
      exact before.expected
  price := fun figures id hid => by
    rw [kept.amount, kept.platformFee figures]
    exact h.price (kept.hasFigures figures) id (kept.checkout ▸ hid)

/-- The rows are priced, and the platform's wallets apart. -/
structure Sound (d : Db) (x : Services) : Prop where
  priced : ∀ id p, d.pendingPayments.find id = some p → Priced x p
  apart : PlatformApart d

/-- The row of an answer still has what was requested. -/
def HasRequested (a : Answer) (p : PendingPayment) : Prop :=
  p.amount = a.amount ∧ p.bachsCheckoutId.isSome ∧ (HasFigures p → platformFee p = a.fee)

/-- What every later state keeps of an answer. -/
structure Promised (d : Db) (x : Services) (a : Answer) : Prop where
  price : x.price a.reply.checkoutId = some (BachsClient.toBachsAmount (a.amount + a.fee))
  row : ∃ p, d.pendingPayments.find a.reply.pendingPaymentId = some p ∧ HasRequested a p

/-- A sound state with the earlier answers. -/
structure Continues (d : Db) (x : Services) (d' : Db) (x' : Services) : Prop where
  sound : Sound d' x'
  promised : ∀ a, Promised d x a → Promised d' x' a

theorem Continues.refl {d : Db} {x : Services} (sound : Sound d x) : Continues d x d x :=
  ⟨sound, fun _ h => h⟩

theorem Continues.trans {d d' d'' : Db} {x x' x'' : Services} (h : Continues d x d' x')
    (h' : Continues d' x' d'' x'') : Continues d x d'' x'' :=
  ⟨h'.sound, fun a ha => h'.promised a (h.promised a ha)⟩

theorem continues_of_prices {d : Db} {x x' : Services} (sound : Sound d x)
    (prices : x.prices <+: x'.prices) : Continues d x d x' where
  sound := ⟨fun id p hp => (sound.priced id p hp).of_prices prices, sound.apart⟩
  promised := fun _ h => ⟨Services.price_kept prices h.price, h.row⟩

theorem continues_of_rowsKept {d d' : Db} {x : Services} (sound : Sound d x) (kept : RowsKept d d')
    (apart : PlatformApart d') : Continues d x d' x where
  sound := by
    refine ⟨fun id p' hp' => ?_, apart⟩
    have row := kept id
    rw [hp'] at row
    generalize hp : d.pendingPayments.find id = p at row
    cases row with
    | some h => exact (sound.priced id _ hp).of_keepsRow h
  promised := by
    intro a h
    obtain ⟨price, p, hp, amount, checkout, fee⟩ := h
    have row := kept a.reply.pendingPaymentId
    rw [hp] at row
    generalize hp' : d'.pendingPayments.find a.reply.pendingPaymentId = p' at row
    cases row with
    | some h =>
      refine ⟨price, _, hp', h.amount.trans amount, ?_, fun figures => ?_⟩
      · rw [h.checkout]
        exact checkout
      · rw [h.platformFee figures]
        exact fee (h.hasFigures figures)

theorem apart_of_pendingTx {d : Db} {F : List Stmt} (h : PendingTx d F) (valid : violation F d = none)
    (apart : PlatformApart d) : PlatformApart (applyAll F d) := by
  cases h with
  | complete h => exact apart_completion h apart
  | _ => exact apart

theorem continues_of_advanced {d d' : Db} {x x' : Services} (sound : Sound d x)
    (h : Advanced d x d' x') : Continues d x d' x' := by
  have db : Continues d x d' x := by
    refine Relation.ReflTransGen.head_induction_on (motive := fun d _ => Sound d x → Continues d x d' x)
      h.db (fun sound => .refl sound) ?_ sound
    rintro d₁ d₂ ⟨F, hF, valid, rfl⟩ - ih sound
    have next := continues_of_rowsKept sound (rowsKept_of_pendingTx hF)
      (apart_of_pendingTx hF valid sound.apart)
    exact next.trans (ih next.sound)
  exact db.trans (continues_of_prices db.sound h.prices)

/-! ## A request for a payment -/

theorem platformFee_nonneg (config : CheckoutConfig) : 0 ≤ config.platformFee := by
  unfold CheckoutConfig.platformFee
  split
  · exact config.fees.nonneg.2.1
  · exact le_refl 0

theorem figuresAgree_withFigures {p : PendingPayment} {amount fee : Int} (hamount : p.amount = amount)
    (pos : 0 < amount) (nonneg : 0 ≤ fee) (m : PendingPaymentMetadata) (checkoutId : Option String) :
    FiguresAgree { p with bachsCheckoutId := checkoutId, metadata := withFigures m amount fee } := by
  subst hamount
  exact ⟨pos, nonneg, rfl⟩

/-- A row with the requested figures to go on with. -/
structure Opened (d : Db) (x : Services) (d' : Db) (amount fee : Int) (found : OpenPayment) : Prop where
  continues : Continues d x d' x
  row : d'.pendingPayments.find found.row.id = some found.row
  pending : found.row.status = .pending
  amount : found.row.amount = amount
  fee : found.row.bachsCheckoutId.isSome → platformFee found.row = fee
  own : found.checkoutUrl.isSome → found.row.bachsCheckoutId.isSome

theorem continues_of_closes {d : Db} {x : Services} {F : List Stmt} (sound : Sound d x)
    (closes : Closes d F) : Continues d x (applyAll F d) x := by
  cases closes with
  | nothing => exact .refl sound
  | row p patch found undone closed figures =>
    refine continues_of_rowsKept sound (rowsKept_of_pendingTx ?_) sound.apart
    exact .status p patch found undone (fun pending => (closed pending).elim) figures

theorem continues_of_create {d : Db} {x : Services} {row : PendingPayment} (sound : Sound d x)
    (free : d.pendingPayments.find row.id = none) (priced : Priced x row) :
    Continues d x (Stmt.apply (.createPendingPayment row) d) x where
  sound := by
    refine ⟨fun id p hp => ?_, sound.apart⟩
    rw [Stmt.apply, Table.find_insert free] at hp
    split at hp
    · cases hp
      exact priced
    · exact sound.priced id p hp
  promised := by
    intro a h
    obtain ⟨price, p, hp, requested⟩ := h
    refine ⟨price, p, ?_, requested⟩
    rw [Stmt.apply, Table.find_insert free, if_neg, hp]
    intro same
    rw [← same, free] at hp
    cases hp

theorem opened_of_openedTx {d : Db} {x : Services} {userId : Id} {data : PendingPaymentData} {fee : Int}
    {new : NewPendingPayment} {found : OpenPayment} {F : List Stmt} (sound : Sound d x)
    (kept : ∀ p ∈ reusedPayment userId data new.now d x,
      p.amount = data.amount ∧ (p.bachsCheckoutId.isSome → platformFee p = fee))
    (pos : 0 < data.amount) (nonneg : 0 ≤ fee) (h : OpenedTx d x userId data fee new found F)
    (valid : violation F d = none) : Opened d x (applyAll F d) data.amount fee found := by
  cases h with
  | reuse p url reused own =>
    obtain ⟨existing, -⟩ := Option.filter_eq_some_iff.1 reused
    obtain ⟨row, pending⟩ := find_of_findExisting existing
    exact ⟨.refl sound, row, pending, (kept p reused).1, (kept p reused).2, own⟩
  | @create F closes =>
    obtain ⟨-, valid⟩ := violation_append.1 valid
    have closed := continues_of_closes sound closes
    have free : (applyAll F d).pendingPayments.find (pendingPaymentRow userId data fee new).id = none := by
      have := (Option.or_eq_none_iff.1 (violation_cons.1 valid).1).1
      simpa [Stmt.unique_eq_none] using this
    have priced : Priced x (pendingPaymentRow userId data fee new) :=
      ⟨fun _ => rfl, fun _ => ⟨pos, nonneg, rfl⟩, fun _ id hid => by cases hid⟩
    rw [applyAll_append]
    refine ⟨closed.trans (continues_of_create closed.sound free priced), ?_, rfl, rfl, ?_, ?_⟩
    · change (Table.insert _ _).find _ = _
      rw [Table.find_insert free, if_pos rfl]
    · intro checkout
      cases checkout
    · intro url
      cases url

theorem turns_preparePayment {d : Db} {x : Services} (config : CheckoutConfig) (userId : Id)
    (data : PendingPaymentData) (new : NewPendingPayment) (sound : Sound d x)
    (kept : ∀ p ∈ reusedPayment userId data new.now d x,
      p.amount = data.amount ∧ (p.bachsCheckoutId.isSome → platformFee p = config.platformFee)) :
    Turns (preparePayment config userId data new) d x
      (fun found d' x' => x' = x ∧ 0 < data.amount ∧
        Opened d x d' data.amount config.platformFee found) (Continues d x) := by
  refine .ensure_bind (.refl sound) fun least => .outside_bind (.refl sound) <|
    .orThrow_bind (.refl sound) fun _ _ => ?_
  have pos : 0 < data.amount := lt_of_lt_of_le (by decide) least
  refine (Turns.request (c := Call.getOrCreateCustomer) (S := fun _ d' x' => d' = d ∧ x' = x)
    ⟨rfl, rfl⟩ (.refl sound) (.refl sound)).bind ?_
  rintro _ d' x' ⟨rfl, rfl⟩
  refine (Turns.transaction (T := Continues d' x') (within_openPendingPayment userId data _ new)
    (fun found F hF valid => ?_) (.refl sound)).onThrow fun _ _ _ h => .throw h
  exact ⟨rfl, pos, opened_of_openedTx sound kept pos (platformFee_nonneg config) hF valid⟩

theorem turns_validateRedirectUrl {d : Db} {x : Services} (config : CheckoutConfig) (url field : String)
    {T : Db → Services → Prop} (he : T d x) :
    Turns (validateRedirectUrl config url field) d x (fun _ d' x' => d' = d ∧ x' = x) T := by
  unfold validateRedirectUrl
  split
  · exact .ret ⟨rfl, rfl⟩
  · exact .throw he
  · exact .throw he
  · exact .throw he

/-- The checkout that was created is recorded with the figures of the request. -/
theorem continues_of_attach {d : Db} {x : Services} {row : PendingPayment} {amount fee : Int}
    {checkoutId : String} (sound : Sound d x) (found : d.pendingPayments.find row.id = some row)
    (pending : row.status = .pending) (hamount : row.amount = amount) (pos : 0 < amount)
    (nonneg : 0 ≤ fee) (hfee : row.bachsCheckoutId.isSome → platformFee row = fee)
    (price : x.price checkoutId = some (BachsClient.toBachsAmount (amount + fee))) (reply : CheckoutReply)
    (hid : reply.checkoutId = checkoutId) (hrow : reply.pendingPaymentId = row.id) :
    let d' := Stmt.apply (.attachCheckout row checkoutId (withFigures row.metadata amount fee)) d
    Continues d x d' x ∧ Promised d' x ⟨amount, fee, reply⟩ := by
  intro d'
  set attached := PendingPayment.attach checkoutId (withFigures row.metadata amount fee) row
  have find (id : Id) : d'.pendingPayments.find id =
      if id = row.id then (d.pendingPayments.find id).map
        (PendingPayment.attach checkoutId (withFigures row.metadata amount fee))
      else d.pendingPayments.find id :=
    Table.find_modify _ _ (PendingPayment.attach checkoutId _) (fun _ => rfl) _
  have row' : d'.pendingPayments.find row.id = some attached := by
    rw [find, if_pos rfl, found]
    rfl
  have others {id : Id} (h : id ≠ row.id) : d'.pendingPayments.find id = d.pendingPayments.find id := by
    rw [find, if_neg h]
  refine ⟨⟨⟨fun id p hp => ?_, sound.apart⟩, fun a h => ?_⟩, ⟨hid ▸ price, attached, hrow ▸ row', ?_⟩⟩
  · by_cases same : id = row.id
    · rw [same, row'] at hp
      cases hp
      refine ⟨fun _ => rfl, fun _ => figuresAgree_withFigures hamount pos nonneg _ _, fun _ id h => ?_⟩
      cases h
      exact hamount ▸ price
    · exact sound.priced id p ((others same).symm.trans hp)
  · obtain ⟨price, p, hp, amount', checkout, fee'⟩ := h
    by_cases same : a.reply.pendingPaymentId = row.id
    · -- an earlier answer of this row: it has a checkout, and so the fee is the same
      rw [same, found] at hp
      cases hp
      refine ⟨price, attached, same ▸ row', amount', rfl, fun _ => ?_⟩
      exact (hfee checkout).symm.trans (fee' ((sound.priced _ _ found).kept pending))
    · exact ⟨price, p, (others same).trans hp, amount', checkout, fee'⟩
  · exact ⟨hamount, rfl, fun _ => rfl⟩

theorem turns_createCheckout {d d' : Db} {x : Services} {config : CheckoutConfig} {data : PendingPaymentData}
    {found : OpenPayment} (successUrl cancelUrl : Option String) (pos : 0 < data.amount)
    (opened : Opened d x d' data.amount config.platformFee found) :
    Turns (createCheckout config data found.row successUrl cancelUrl) d' x
      (fun reply d'' x'' => Continues d x d'' x'' ∧
        Promised d'' x'' ⟨data.amount, config.platformFee, reply⟩) (Continues d x) := by
  refine (turns_validateRedirectUrl config _ _ opened.continues).bind ?_
  rintro _ d₁ x₁ ⟨rfl, rfl⟩
  refine (turns_validateRedirectUrl config _ _ opened.continues).bind ?_
  rintro _ d₁ x₁ ⟨rfl, rfl⟩
  set request : CheckoutRequest :=
    { amount := BachsClient.toBachsAmount (data.amount + config.platformFee)
      metadata :=
        { pendingPaymentId := some found.row.id, internalReference := some found.row.reference } }
  have priced : Continues _ x₁ _ (x₁.createCheckoutSession request).1 :=
    continues_of_prices opened.continues.sound (List.prefix_append _ _)
  have continues := opened.continues.trans priced
  refine (Turns.request (c := Call.createCheckoutSession request)
    (S := fun session d'' x'' => d'' = d₁ ∧ x'' = (x₁.createCheckoutSession request).1 ∧
      session = (x₁.createCheckoutSession request).2) ⟨rfl, rfl, rfl⟩ continues opened.continues).bind ?_
  rintro _ d₂ x₂ ⟨rfl, rfl, rfl⟩
  have attached := continues_of_attach priced.sound opened.row opened.pending opened.amount pos
    (platformFee_nonneg config) opened.fee (Services.price_createCheckoutSession x₁ request)
  refine (Turns.statement (S := fun _ d'' x'' => x'' = (x₁.createCheckoutSession request).1 ∧
    d'' = Stmt.apply (.attachCheckout found.row (x₁.createCheckoutSession request).2.checkoutId
      (withFigures found.row.metadata data.amount config.platformFee)) d₂)
    (fun _ => ⟨rfl, rfl⟩) continues).bind ?_
  rintro _ d₃ x₃ ⟨rfl, rfl⟩
  refine .ret ?_
  obtain ⟨next, promised⟩ := attached
    { checkoutId := (x₁.createCheckoutSession request).2.checkoutId
      checkoutUrl := (x₁.createCheckoutSession request).2.checkoutUrl
      pendingPaymentId := found.row.id, baseAmount := data.amount, platformFee := config.platformFee
      totalBeforeGatewayFee := data.amount + config.platformFee } rfl rfl
  exact ⟨continues.trans next, promised⟩

theorem turns_initiatePayment {d : Db} {x : Services} (config : CheckoutConfig) (userId : Id)
    (data : PendingPaymentData) (successUrl cancelUrl : Option String) (new : NewPendingPayment)
    (sound : Sound d x)
    (kept : KeepsFigures (.initiatePayment config userId data successUrl cancelUrl new) d x) :
    Turns (BachsService.initiatePayment config userId data successUrl cancelUrl new) d x
      (fun reply d' x' => Continues d x d' x' ∧ Promised d' x' ⟨data.amount, config.platformFee, reply⟩)
      (Continues d x) := by
  refine (turns_preparePayment config userId data new sound kept).bind ?_
  rintro found d' x' ⟨rfl, pos, opened⟩
  cases hurl : found.checkoutUrl.filter fun url => url ≠ "" with
  | none => exact turns_createCheckout successUrl cancelUrl pos opened
  | some url =>
    obtain ⟨hasUrl, -⟩ := Option.filter_eq_some_iff.1 hurl
    have own := opened.own (by simp [hasUrl])
    obtain ⟨checkoutId, attached⟩ := Option.isSome_iff_exists.1 own
    have priced := opened.continues.sound.priced _ _ opened.row
    have price := priced.price (priced.kept opened.pending) checkoutId attached
    rw [opened.amount, opened.fee own] at price
    refine .ret ⟨opened.continues, ?_, _, opened.row, opened.amount, own, fun _ => opened.fee own⟩
    change x'.price (found.row.bachsCheckoutId.getD "") = _
    rw [attached]
    exact price

/-! ## Runs -/

theorem turns_external {d : Db} {x : Services} {op : Op} (external : op.external = true)
    (kept : KeepsFigures (.external op) d x) :
    Turns op.program d x (fun _ => Advanced d x) (Advanced d x) := by
  cases op with
  | completePayment collection new => exact turns_completePayment d x collection new
  | handleCheckoutCompleted checkoutId metadata new =>
    exact turns_handleCheckoutCompleted checkoutId metadata new
  | handleCollectionSucceeded checkoutId chargeId amountInBachs metadata new =>
    exact turns_handleCollectionSucceeded checkoutId chargeId amountInBachs metadata new
  | handleCollectionFailed checkoutId reason =>
    exact turns_markPendingPayment checkoutId _ (by decide) (by decide)
  | handleCollectionUnderpaid checkoutId amountPaid amountExpected =>
    exact turns_markPendingPayment checkoutId _ (by decide) (by decide)
  | handleCheckoutExpired checkoutId => exact turns_markPendingPayment checkoutId _ (by decide) (by decide)
  | getPendingPaymentStatus id userId new => exact turns_getPendingPaymentStatus id userId new
  | cancelPendingPayment id userId => exact turns_cancelPendingPayment id userId
  | cleanupExpiredPayments cutoff => exact turns_cleanupExpiredPayments cutoff
  | retryFailedPayment id => exact turns_retryFailedPayment kept
  | _ => cases external

theorem prices_move {x x' : Services} {m : Move} (h : x.move m = some x') : x'.prices = x.prices := by
  cases m with
  | evict owner =>
    cases h
    rfl
  | decideNextPayout status fee =>
    cases h
    rfl
  | pay id =>
    obtain ⟨p, -, h⟩ := Option.bind_eq_some_iff.1 h
    obtain ⟨-, h⟩ := Option.ite_none_right_eq_some.1 h
    cases h
    rfl
  | refuse id =>
    obtain ⟨p, -, h⟩ := Option.bind_eq_some_iff.1 h
    obtain ⟨-, h⟩ := Option.ite_none_right_eq_some.1 h
    cases h
    rfl
  | announce id =>
    obtain ⟨p, -, h⟩ := Option.bind_eq_some_iff.1 h
    cases h
    rfl
  | updateCheckout checkoutId checkout =>
    cases h
    rfl

/-- The states of a run are sound, and the answers of its requests hold on. -/
theorem Served.sound {db d : Db} {ext x : Services} {answers : List Answer} (start : Sound db ext)
    (h : Served KeepsFigures db ext d x answers) : Sound d x ∧ ∀ a ∈ answers, Promised d x a := by
  induction h with
  | start => exact ⟨start, by simp⟩
  | initiated config userId data successUrl cancelUrl new o _ kept ends ih =>
    obtain ⟨sound, promised⟩ := ih
    obtain ⟨-, post⟩ := turns_initiatePayment config userId data successUrl cancelUrl new sound kept o ends
    obtain ⟨result, frames, d', x'⟩ := o
    cases result with
    | error e =>
      refine ⟨post.sound, fun a ha => post.promised a (promised a ?_)⟩
      simpa [answered] using ha
    | ok reply =>
      refine ⟨post.1.sound, fun a ha => ?_⟩
      rcases List.mem_append.1 ha with ha | ha
      · exact post.1.promised a (promised a ha)
      · obtain rfl := List.mem_singleton.1 ha
        exact post.2
  | @external d x answers op o _ external kept ends ih =>
    obtain ⟨sound, promised⟩ := ih
    obtain ⟨-, post⟩ := turns_external external kept o ends
    obtain ⟨result, frames, d', x'⟩ := o
    have continues : Continues d x d' x' := by
      cases result with
      | error e => exact continues_of_advanced sound post
      | ok a => exact continues_of_advanced sound post
    exact ⟨continues.sound, fun a ha => continues.promised a (promised a ha)⟩
  | @moved d x x' answers m _ h ih =>
    obtain ⟨sound, promised⟩ := ih
    have prices : x.prices <+: x'.prices := by rw [prices_move h]
    have continues := continues_of_prices sound prices
    exact ⟨continues.sound, fun a ha => continues.promised a (promised a ha)⟩

/-- A promise is what its checkout costs and its completion credits. -/
theorem amountsAgree_of_promised {d : Db} {x : Services} {a : Answer} (sound : Sound d x)
    (h : Promised d x a) : AmountsAgree d x a := by
  obtain ⟨price, p, found, amount, -, fee⟩ := h
  refine ⟨price, fun c new o ends q hq pending completed => ?_⟩
  obtain rfl : q = p := Option.some.inj (hq.symm.trans found)
  have figures := (sound.priced _ q found).kept pending
  have hid : q.id = a.reply.pendingPaymentId := Table.find_key found
  have settled : ∃ d₁, Settled d d₁ ∧ Receipted d₁ o.db := by
    obtain ⟨-, post⟩ := turns_completePayment_settled d x c new o ends
    obtain ⟨result, frames, d', x'⟩ := o
    cases result with
    | ok b => exact post
    | error e => exact post
  obtain ⟨d₁, settled, receipted⟩ := settled
  obtain ⟨q', hq', done⟩ := completed
  rw [receipted] at hq' ⊢
  rw [hid] at hq'
  rcases settled with rfl | ⟨r, F, hF, valid, rfl⟩
  · obtain rfl : q' = q := Option.some.inj (hq'.symm.trans found)
    rw [pending] at done
    cases done
  · have rows := pendingPayments_completion hF
    have foundR : d.pendingPayments.find r.id = some r := by
      cases hF
      assumption
    have find := (congrArg (fun t => t.find a.reply.pendingPaymentId) rows).trans
      (Table.find_modify _ _ completed.apply (fun _ => rfl) _)
    replace hq' := find.symm.trans hq'
    by_cases same : a.reply.pendingPaymentId = r.id
    · obtain rfl : r = q := Option.some.inj (foundR.symm.trans (same ▸ found))
      have credited := credited_of_completionTx hF valid sound.apart ((sound.priced _ r found).agree figures)
      rw [amount, fee figures] at credited
      exact ⟨credited.wallets, credited.entry⟩
    · rw [if_neg same] at hq'
      obtain rfl : q' = q := Option.some.inj (hq'.symm.trans found)
      rw [pending] at done
      cases done

/-- **The amounts of a checkout agree**: as long as no request changes the figures
of a row, every reply names a checkout of the requested price, and the completion
of its pending payment credits what was requested. -/
theorem checkout_amounts_agree {db d : Db} {ext x : Services} {answers : List Answer}
    (start : Sound db ext) (served : Served KeepsFigures db ext d x answers) :
    ∀ a ∈ answers, AmountsAgree d x a := by
  obtain ⟨sound, promised⟩ := served.sound start
  intro a ha
  exact amountsAgree_of_promised sound (promised a ha)

/-! ## Runs of one payer -/

/-- One payer, and no wallets yet. -/
def payer : Db where
  users := [.ofNat 1]
  organizations := [{ id := .ofNat 10 }]

theorem nonneg_rates : 0 ≤ (15 / 2 / 100 : ℚ) ∧ (0 : Int) ≤ 10000 ∧ 0 ≤ (3 / 2 / 100 : ℚ) := by norm_num

def checkoutConfig : CheckoutConfig where
  fees := { nonneg := nonneg_rates }

/-- The payer pays the organization an amount in Kobo. -/
def payment (amount : Int) : PendingPaymentData where
  organizationId := .ofNat 10
  amount := amount

/-- The first pending payment is `1`. -/
def firstPayment : NewPendingPayment := ⟨.ofNat 1, "pp_1", 0⟩

/-- The provider reports that an amount in Naira was collected with the first checkout. -/
def collected (naira : ℚ) : Collection where
  checkoutId := "c"
  chargeId := "charge"
  amountInBachs := some naira

def firstCompletion : NewCompletion :=
  ⟨.ofNat 20, .ofNat 21, .ofNat 30, .ofNat 31, .ofNat 32, .ofNat 33, ⟨.ofNat 34, "RCP_1"⟩⟩

theorem sound_payer : Sound payer {} where
  priced := fun id p hp => by cases hp
  apart := fun w hw => by cases hw

/-- The request of the payer, with the identifiers of a new pending payment. -/
def request (naira : Int) (new : NewPendingPayment) : Action CheckoutReply :=
  BachsService.initiatePayment checkoutConfig (.ofNat 1) (payment (naira * 100)) none none new

def completion (naira : ℚ) : Action Unit := BachsService.completePayment (collected naira) firstCompletion

def firstAnswer : Answer := ⟨30000, 10000, ⟨"c", "/checkout/c", .ofNat 1, 30000, 10000, 40000⟩⟩

/-- 300 Naira are requested, priced at 400, and credited. -/
theorem payment_credited : ∃ d x, AmountsAgree d x firstAnswer ∧ x.price "c" = some 400 ∧
    ∃ o, (completion 400).Ends [] d x o ∧
      o.db.value (.balance (.ofNat 20)) = 30000 ∧ o.db.value (.balance (.ofNat 21)) = 10000 := by
  obtain ⟨o, ho, answers, price, o', ho', values⟩ :
      ∃ o ∈ (request 300 firstPayment).alone [] payer ({} : Services),
        answered checkoutConfig (payment 30000) o.result = [firstAnswer] ∧ o.ext.price "c" = some 400 ∧
        ∃ o' ∈ (completion 400).alone [] o.db o.ext,
          o'.db.value (.balance (.ofNat 20)) = 30000 ∧ o'.db.value (.balance (.ofNat 21)) = 10000 := by
    decide +kernel
  have kept : KeepsFigures (.initiatePayment checkoutConfig (.ofNat 1) (payment 30000) none none firstPayment)
      payer {} := by
    intro p hp
    cases hp
  have served := Served.initiated _ _ _ _ _ _ o .start kept (Prog.ends_of_alone ho)
  rw [answers] at served
  exact ⟨o.db, o.ext, checkout_amounts_agree sound_payer served _ (List.mem_singleton.2 rfl), price, o',
    Prog.ends_of_alone ho', values⟩

/-- The provider cannot be reached for the checkout of the row. -/
theorem ends_createCheckout_unavailable (data : PendingPaymentData) (row : PendingPayment) (d : Db)
    (x : Services) :
    (createCheckout checkoutConfig data row none none).Ends [] d x ⟨.error .unavailable, [], d, x⟩ :=
  .inr (.inr ⟨.unavailable, rfl⟩)

/-- The completion of the answered payment posts an entry that does not balance. -/
def Unbalanced (d : Db) (x : Services) (a : Answer) : Prop :=
  ∃ o ∈ (completion 400).alone [] d x, ∃ p ∈ d.pendingPayments.find a.reply.pendingPaymentId,
    p.status = .pending ∧ (∃ p' ∈ o.db.pendingPayments.find p.id, p'.status = .completed) ∧
      ∀ e ∈ o.db.journalEntries.rows, totalDebits e.lines ≠ totalCredits e.lines

instance (d : Db) (x : Services) (a : Answer) : Decidable (Unbalanced d x a) :=
  inferInstanceAs (Decidable (∃ o ∈ _, _))

theorem not_amountsAgree_of_unbalanced {d : Db} {x : Services} {a : Answer} (h : Unbalanced d x a) :
    ¬AmountsAgree d x a := by
  intro agree
  obtain ⟨o, ho, p, hp, pending, completed, unbalanced⟩ := h
  obtain ⟨e, rows, -, balanced⟩ := (agree.credited _ _ _ (Prog.ends_of_alone ho) p hp pending completed).entry
  exact unbalanced e (rows ▸ List.mem_append_right _ (List.mem_singleton.2 rfl)) balanced

/-- A checkout for 200 Naira cannot be created, one for 300 is created for the same
row, and its completion credits 200 and posts an entry that does not balance. -/
theorem amounts_of_reused_payment : ∃ d x answers, Served (fun _ _ _ => True) payer {} d x answers ∧
    ∃ a ∈ answers, a.amount = 30000 ∧ ¬AmountsAgree d x a := by
  obtain ⟨o₁, ho₁, closed, found, hfound, bare, o₂, ho₂, a, ha, amount, unbalanced⟩ :
      ∃ o₁ ∈ (preparePayment checkoutConfig (.ofNat 1) (payment 20000) firstPayment).alone [] payer
        ({} : Services), o₁.frames.length = 0 ∧ ∃ found ∈ o₁.result.toOption, found.checkoutUrl = none ∧
      ∃ o₂ ∈ (request 300 ⟨.ofNat 2, "pp_2", 0⟩).alone [] o₁.db o₁.ext,
      ∃ a ∈ (answered checkoutConfig (payment 30000) o₂.result).head?, a.amount = 30000 ∧
        Unbalanced o₂.db o₂.ext a := by
    decide +kernel
  have unavailable : (request 200 firstPayment).Ends [] payer {} ⟨.error .unavailable, [], o₁.db, o₁.ext⟩ := by
    refine Prog.ends_bind.2 ⟨o₁, Prog.ends_of_alone ho₁, ?_⟩
    obtain ⟨result, frames, d, x⟩ := o₁
    obtain rfl := List.eq_nil_of_length_eq_zero closed
    cases result with
    | error e => cases hfound
    | ok row =>
      cases hfound
      obtain ⟨row, url⟩ := found
      obtain rfl : url = none := bare
      exact ends_createCheckout_unavailable _ _ _ _
  have served := Served.initiated _ _ _ _ _ _ o₂ (Served.initiated _ _ _ _ _ _ _
    (Served.start (P := fun _ _ _ => True)) trivial unavailable) trivial (Prog.ends_of_alone ho₂)
  exact ⟨o₂.db, o₂.ext, _, served, a, List.mem_append_right _ (List.mem_of_mem_head? ha), amount,
    not_amountsAgree_of_unbalanced unbalanced⟩

end Heightt
