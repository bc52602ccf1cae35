import Heightt.Finance.Transfers
import Heightt.Finance.Receipts

/-!
# FinanceService: in-app payments

A payment from a user's wallet to an organisation, with the service charges
(internal) or without (manual). All wallets are looked up before the
transaction and written back from those readings; the journal entry is posted
by `createJournalEntry` without the transaction's client, that is, in a
transaction of its own.
-/

namespace Heightt.FinanceService

open ReadCommitted Prog WalletService LedgerService ReceiptService

/-- An amount in Kobo as `₦` and two decimals. -/
def formatKobo (kobo : Int) : String :=
  let cents := kobo.natAbs % 100
  "₦" ++ (if kobo < 0 then "-" else "") ++ toString (kobo.natAbs / 100) ++ "." ++
    (if cents < 10 then "0" else "") ++ toString cents

structure CreatePaymentDto where
  organizationId : Id
  amount : Int
  description : Option String := none
  dueAssignmentId : Option Id := none
  dueId : Option Id := none
  min_amount : 1 ≤ amount := by decide

structure CreateManualPaymentDto where
  organizationId : Id
  amount : Int
  description : String
  reference : Option String := none
  dueAssignmentId : Option Id := none
  min_amount : 1 ≤ amount := by decide

/-- The identifiers an in-app payment gets. -/
structure NewPayment where
  walletId : Id
  orgWalletId : Id
  platformWalletId : Id
  transactionId : Id
  paymentId : Id
  dueAssignmentId : Id
  duePaymentId : Id
  reference : String
  entry : NewEntry
  receipt : NewReceipt
  deriving DecidableEq

/-! ## Dues -/

/-- Whether a due is for the level of a student. -/
def isEligible (due : Due) (student : StudentProfile) : Bool :=
  if student.isDirectEntry then
    student.numericLevel.any (200 ≤ ·) && due.isFresher && due.isDirectEntryEligible
  else if due.isFresher then student.numericLevel = some 100
  else student.numericLevel.any (200 ≤ ·)

def assertDueLevel (due : Due) (student : StudentProfile) : Action Unit :=
  ensure (isEligible due student)
    (.forbidden "This due is not available for your academic level")

def findStudentProfile (userId : Id) : Action (Option StudentProfile) :=
  query fun d => d.studentProfiles.findFirst fun s => s.userId = userId

/-- The due assignment a payment names. -/
def assignedDue (userId dueAssignmentId : Id) : Action (Option DueAssignment) := do
  let dueAssignment ← query fun d => d.dueAssignments.find dueAssignmentId
  let dueAssignment ← orThrow dueAssignment (.notFound "Due assignment not found")
  let due ← query fun d => d.dues.find dueAssignment.dueId
  let due ← orThrow due (.error "Inconsistent query result: Field due is required")
  ensure (¬dueAssignment.isPaid) (.badRequest "This due has already been paid")
  let studentProfile ← findStudentProfile userId
  let studentProfile ← orThrow studentProfile
    (.forbidden "This due assignment does not belong to you")
  ensure (dueAssignment.studentId = studentProfile.id)
    (.forbidden "This due assignment does not belong to you")
  assertDueLevel due studentProfile
  pure (some dueAssignment)

/-- The assignment of a due to the student, created if there is none. -/
def autoAssignedDue (userId dueId newId : Id) : Action (Option DueAssignment) := do
  let due ← query fun d => d.dues.findFirst fun due => due.id = dueId ∧ due.deletedAt = none
  let due ← orThrow due (.notFound "Due not found")
  let studentProfile ← findStudentProfile userId
  let studentProfile ← orThrow studentProfile (.notFound
    "Student profile not found. Please complete your student profile first.")
  assertDueLevel due studentProfile
  let membership ← query fun d => d.memberships.find? fun m =>
    m.userId = userId ∧ m.organizationId = due.organizationId
  let _ ← orThrow membership (.forbidden
    "You are not a member of this organization. Please join the organization first.")
  let existingAssignment ← query fun d => d.dueAssignments.findFirst fun a =>
    a.dueId = due.id ∧ a.studentId = studentProfile.id
  match existingAssignment with
  | some a =>
    ensure (¬a.isPaid) (.badRequest "This due has already been paid")
    pure (some a)
  | none =>
    let a : DueAssignment :=
      { id := newId, dueId := due.id, studentId := studentProfile.id, amount := due.amount }
    exec (.createDueAssignment a)
    pure (some a)

def findDueAssignment (userId newId : Id) : Option Id → Option Id → Action (Option DueAssignment)
  | some dueAssignmentId, _ => assignedDue userId dueAssignmentId
  | none, some dueId => autoAssignedDue userId dueId newId
  | none, none => pure none

def assertDueAmount (amount : Int) (dueAssignment : Option DueAssignment) : Action Unit :=
  whenSome dueAssignment fun a => ensure (amount = a.amount)
    (.badRequest ("Due payment amount must be exactly " ++ toString a.amount ++ " Kobo"))

/-- Record the payment of a due that is not paid yet. -/
def handleDuePayment (duePaymentId dueAssignmentId paymentId : Id) (amount : Int) : Action Unit := do
  let dueAssignment ← query fun d => d.dueAssignments.find dueAssignmentId
  whenSome (dueAssignment.filter fun a => !a.isPaid) fun a => do
    let totalPaid ← query fun d => d.duePayments.sum fun p =>
      if p.assignmentId = a.id then p.amount else 0
    exec (.createDuePayment { id := duePaymentId, assignmentId := a.id, paymentId, amount })
    when (a.amount ≤ totalPaid + amount) (exec (.payDueAssignment a.id))

/-! ## Internal payments -/

/-- Write a wallet's balance and its account's from the reading `w`. -/
def writeBalance (w : Wallet) (δ : Int) : Action Unit := do
  exec (.updateWallet w.id (.set w.balance δ) .keep)
  exec (.updateLedgerAccount w.ledgerAccountId (.set w.balance δ))

/-- The platform's part of the charges. -/
def platformCredit (c : PaymentCharges) : Int := c.platformFee + c.vat

def internalTransactionRow (dto : CreatePaymentDto) (charges : PaymentCharges) (wallet : Wallet)
    (new : NewPayment) : Transaction where
  id := new.transactionId
  walletId := wallet.id
  type := .debit
  amount := charges.totalAmount
  fee := charges.totalCharges
  netAmount := dto.amount
  reference := "PAY_" ++ new.reference

def internalPaymentRow (userId : Id) (dto : CreatePaymentDto) (charges : PaymentCharges)
    (new : NewPayment) : Payment where
  id := new.paymentId
  payerId := userId
  organizationId := dto.organizationId
  transactionId := new.transactionId
  amount := dto.amount
  serviceFee := charges.totalCharges
  reference := "PAY_" ++ new.reference

def internalJournal (userId : Id) (dto : CreatePaymentDto) (charges : PaymentCharges)
    (wallet orgWallet platformWallet : Wallet) (bachsFee bachsSettlement : AccountId)
    (new : NewPayment) : JournalData where
  lines :=
    [{ ledgerAccountId := wallet.ledgerAccountId, type := .debit, amount := charges.totalAmount,
       description := "Payment from user " ++ String.ofList userId.chars },
     { ledgerAccountId := orgWallet.ledgerAccountId, type := .credit, amount := dto.amount,
       description := "Payment to organization " ++ String.ofList dto.organizationId.chars },
     { ledgerAccountId := platformWallet.ledgerAccountId, type := .credit,
       amount := charges.platformFee, description := "Platform service fee" },
     { ledgerAccountId := platformWallet.ledgerAccountId, type := .credit, amount := charges.vat,
       description := "VAT on platform fee" },
     { ledgerAccountId := bachsFee, type := .debit, amount := charges.gatewayFee,
       description := "Bachs transaction fee" },
     { ledgerAccountId := bachsSettlement, type := .credit, amount := charges.gatewayFee,
       description := "Bachs fee payable" }]
  description := "Payment: " ++ dto.description.getD "Payment"
  paymentId := some new.paymentId
  transactionId := some new.transactionId

/-- The transaction of an internal payment. The journal entry is posted without
its client. -/
def internalPaymentTransaction (config : FeeConfig) (userId : Id) (dto : CreatePaymentDto)
    (wallet orgWallet platformWallet : Wallet) (new : NewPayment) : Action Unit := do
  ensure (wallet.status = .active) (.badRequest "Wallet is not active")
  ensure (charges.totalAmount ≤ wallet.balance) (.badRequest
    ("Insufficient balance. Need: " ++ formatKobo charges.totalAmount ++ ", Available: " ++
      formatKobo wallet.balance))
  let dueAssignment ← findDueAssignment userId new.dueAssignmentId dto.dueAssignmentId dto.dueId
  assertDueAmount dto.amount dueAssignment
  let _ ← getOrCreatePlatformFeeAccount
  let _ ← getOrCreateVatPayableAccount
  let bachsFeeAccount ← getOrCreateBachsFeeAccount
  let bachsSettlementAccount ← getOrCreateBachsSettlementAccount
  writeBalance wallet (-charges.totalAmount)
  writeBalance orgWallet dto.amount
  writeBalance platformWallet (platformCredit charges)
  exec (.createTransaction (internalTransactionRow dto charges wallet new))
  exec (.createPayment (internalPaymentRow userId dto charges new))
  let journalEntry ← createJournalEntry (internalJournal userId dto charges wallet orgWallet
    platformWallet bachsFeeAccount bachsSettlementAccount new) new.entry false
  exec (.updatePayment new.paymentId journalEntry.id)
  whenSome dueAssignment fun a =>
    handleDuePayment new.duePaymentId a.id new.paymentId dto.amount
  exec (.createRecord .activityLog)
  invalidateWalletCache (.user userId)
  invalidateWalletCache (.organization dto.organizationId)
  invalidateWalletCache .platform
where
  charges : PaymentCharges := calculatePaymentCharges config dto.amount

def findUser (userId : Id) : Action Unit := do
  let user ← outside fun d => d.users.find? (· = userId)
  let _ ← orThrow user (.notFound "User not found")
  pure ()

def executeInternalPayment (config : FeeConfig) (userId : Id) (dto : CreatePaymentDto)
    (new : NewPayment) : Action Unit := do
  findUser userId
  let wallet ← getOrCreateWallet (.user userId) new.walletId
  let orgWallet ← getOrCreateWallet (.organization dto.organizationId) new.orgWalletId
  let platformWallet ← getOrCreateWallet .platform new.platformWalletId
  transaction (internalPaymentTransaction config userId dto wallet orgWallet platformWallet new)
  attempt (generateReceiptFromPayment new.paymentId userId new.receipt)

/-! ## Manual payments -/

def manualTransactionRow (dto : CreateManualPaymentDto) (wallet : Wallet) (new : NewPayment) :
    Transaction where
  id := new.transactionId
  walletId := wallet.id
  type := .debit
  amount := dto.amount
  netAmount := dto.amount
  reference := dto.reference.getD ("PAY_" ++ new.reference)

def manualPaymentRow (userId : Id) (dto : CreateManualPaymentDto) (new : NewPayment) :
    Payment where
  id := new.paymentId
  payerId := userId
  organizationId := dto.organizationId
  transactionId := new.transactionId
  amount := dto.amount
  serviceFee := 0
  reference := dto.reference.getD ("PAY_" ++ new.reference)

def manualJournal (userId : Id) (dto : CreateManualPaymentDto) (wallet orgWallet : Wallet)
    (new : NewPayment) : JournalData where
  lines :=
    [{ ledgerAccountId := wallet.ledgerAccountId, type := .debit, amount := dto.amount,
       description := "Manual payment from user " ++ String.ofList userId.chars },
     { ledgerAccountId := orgWallet.ledgerAccountId, type := .credit, amount := dto.amount,
       description := "Manual payment to organization " ++
         String.ofList dto.organizationId.chars }]
  description := "Manual payment: " ++ dto.description
  paymentId := some new.paymentId
  transactionId := some new.transactionId

/-- The transaction of a manual payment. The journal entry is posted without its
client. -/
def manualPaymentTransaction (userId : Id) (dto : CreateManualPaymentDto)
    (wallet orgWallet : Wallet) (new : NewPayment) : Action Unit := do
  ensure (wallet.status = .active) (.badRequest "Wallet is not active")
  ensure (dto.amount ≤ wallet.balance) (.badRequest "Insufficient balance")
  exec (.createTransaction (manualTransactionRow dto wallet new))
  exec (.createRecord .ledgerEntry)
  writeBalance wallet (-dto.amount)
  exec (.createRecord .ledgerEntry)
  writeBalance orgWallet dto.amount
  exec (.createPayment (manualPaymentRow userId dto new))
  let journalEntry ← createJournalEntry (manualJournal userId dto wallet orgWallet new)
    new.entry false
  exec (.updatePayment new.paymentId journalEntry.id)
  exec (.updateTransaction new.transactionId journalEntry.id)
  whenSome dto.dueAssignmentId fun id =>
    handleDuePayment new.duePaymentId id new.paymentId dto.amount
  exec (.createRecord .activityLog)
  invalidateWalletCache (.user userId)
  invalidateWalletCache (.organization dto.organizationId)

def executeManualPayment (userId : Id) (dto : CreateManualPaymentDto) (new : NewPayment) :
    Action Unit := do
  findUser userId
  let wallet ← getOrCreateWallet (.user userId) new.walletId
  let orgWallet ← getOrCreateWallet (.organization dto.organizationId) new.orgWalletId
  transaction (manualPaymentTransaction userId dto wallet orgWallet new)
  attempt (generateReceiptFromPayment new.paymentId userId new.receipt)

/-! ## What these functions commit -/

/-- What `handleDuePayment` writes. -/
inductive DuePaid (paymentId : Id) (amount : Int) : List Stmt → Prop where
  | none : DuePaid paymentId amount []
  | part (p : DuePayment) (hp : p.paymentId = paymentId ∧ p.amount = amount) :
    DuePaid paymentId amount [.createDuePayment p]
  | full (p : DuePayment) (hp : p.paymentId = paymentId ∧ p.amount = amount) :
    DuePaid paymentId amount [.createDuePayment p, .payDueAssignment p.assignmentId]

/-- The transactions of an internal payment. -/
inductive InternalPaymentTx (config : FeeConfig) (userId : Id) (dto : CreatePaymentDto)
    (new : NewPayment) : List Stmt → Prop where
  | payment (u o p : Wallet) (created : Option DueAssignment) (due : List Stmt)
      (sufficient : (calculatePaymentCharges config dto.amount).totalAmount ≤ u.balance)
      (paid : DuePaid new.paymentId dto.amount due) :
    InternalPaymentTx config userId dto new (created.toList.map .createDueAssignment ++
      (moveWallet u (-(calculatePaymentCharges config dto.amount).totalAmount) ++
      (moveWallet o dto.amount ++
      (moveWallet p (platformCredit (calculatePaymentCharges config dto.amount)) ++
      (.createTransaction
          (internalTransactionRow dto (calculatePaymentCharges config dto.amount) u new) ::
        .createPayment
          (internalPaymentRow userId dto (calculatePaymentCharges config dto.amount) new) ::
        .updatePayment new.paymentId new.entry.id :: (due ++ [.createRecord .activityLog]))))))
  | journal (u o p : Wallet) (J : List Stmt)
      (journal : Journal (internalJournal userId dto (calculatePaymentCharges config dto.amount)
        u o p (.system .bachsFee) (.system .bachsSettlement) new) new.entry J) :
    InternalPaymentTx config userId dto new J
  | receipt {F : List Stmt} (h : ReceiptTx new.paymentId new.receipt F) :
    InternalPaymentTx config userId dto new F

/-- The transactions of a manual payment. -/
inductive ManualPaymentTx (userId : Id) (dto : CreateManualPaymentDto) (new : NewPayment) :
    List Stmt → Prop where
  | payment (u o : Wallet) (due : List Stmt) (sufficient : dto.amount ≤ u.balance)
      (paid : DuePaid new.paymentId dto.amount due) :
    ManualPaymentTx userId dto new
      (.createTransaction (manualTransactionRow dto u new) :: .createRecord .ledgerEntry ::
      (moveWallet u (-dto.amount) ++ .createRecord .ledgerEntry ::
      (moveWallet o dto.amount ++ .createPayment (manualPaymentRow userId dto new) ::
        .updatePayment new.paymentId new.entry.id ::
        .updateTransaction new.transactionId new.entry.id ::
        (due ++ [.createRecord .activityLog]))))
  | journal (u o : Wallet) (J : List Stmt)
      (journal : Journal (manualJournal userId dto u o new) new.entry J) :
    ManualPaymentTx userId dto new J
  | receipt {F : List Stmt} (h : ReceiptTx new.paymentId new.receipt F) :
    ManualPaymentTx userId dto new F

section

variable {P : FinanceEvent → Prop}

theorem adds_findStudentProfile (userId : Id) :
    Adds P (findStudentProfile userId) fun _ F => F = [] := .query fun _ => rfl

theorem adds_assertDueLevel (due : Due) (student : StudentProfile) :
    Adds P (assertDueLevel due student) fun _ F => F = [] :=
  .of_makes (Makes.ensure _) fun _ _ => rfl

/-- Looking a due up writes nothing, or creates an assignment. -/
theorem adds_findDueAssignment (userId newId : Id) (dueAssignmentId dueId : Option Id) :
    Adds P (findDueAssignment userId newId dueAssignmentId dueId) fun _ F =>
      ∃ created : Option DueAssignment, F = created.toList.map .createDueAssignment := by
  cases dueAssignmentId with
  | some id =>
    refine .query_bind fun _ => .orThrow_bind fun a _ => .query_bind fun _ =>
      .orThrow_bind fun due _ => .ensure_bind fun _ => .query_bind fun _ =>
      .orThrow_bind fun student _ => .ensure_bind fun _ => ?_
    exact (adds_assertDueLevel due student).bind fun _ F hF => hF ▸ .ret ⟨none, rfl⟩
  | none =>
    cases dueId with
    | none => exact .ret ⟨none, rfl⟩
    | some id =>
      refine .query_bind fun _ => .orThrow_bind fun due _ => .query_bind fun _ =>
        .orThrow_bind fun student _ => (adds_assertDueLevel due student).bind fun _ F hF => ?_
      subst hF
      refine .query_bind fun _ => .orThrow_bind fun _ _ => .query_bind fun d => ?_
      cases d.dueAssignments.findFirst fun a => a.dueId = due.id ∧ a.studentId = student.id with
      | some a => exact .ensure_bind fun _ => .ret ⟨none, rfl⟩
      | none => exact .exec_bind <| .ret ⟨some _, rfl⟩

theorem adds_handleDuePayment (duePaymentId dueAssignmentId paymentId : Id) (amount : Int) :
    Adds P (handleDuePayment duePaymentId dueAssignmentId paymentId amount) fun _ F =>
      DuePaid paymentId amount F := by
  refine .query_bind fun d => ?_
  cases (d.dueAssignments.find dueAssignmentId).filter fun a => !a.isPaid with
  | none => exact .ret .none
  | some a =>
    refine .query_bind fun _ => .exec_bind ?_
    unfold when
    split
    · exact .exec (.full _ ⟨rfl, rfl⟩)
    · exact .ret (.part _ ⟨rfl, rfl⟩)

theorem adds_duePayment (o : Option Id) (duePaymentId paymentId : Id) (amount : Int) :
    Adds P (whenSome o fun id => handleDuePayment duePaymentId id paymentId amount) fun _ F =>
      DuePaid paymentId amount F := by
  cases o with
  | none => exact .ret .none
  | some id => exact adds_handleDuePayment _ _ _ _

theorem adds_writeBalance (w : Wallet) (δ : Int) :
    Adds P (writeBalance w δ) fun _ F => F = moveWallet w δ := .exec_bind (.exec rfl)

variable [Includes Setup P]

/-- The statements of an internal payment, when its journal entry is one of the admitted events. -/
theorem adds_internalPaymentTransaction (config : FeeConfig) (userId : Id) (dto : CreatePaymentDto)
    (u o p : Wallet) (new : NewPayment)
    (journal : ∀ nested J, InternalPaymentTx config userId dto new J → P (.committed nested J)) :
    Adds P (internalPaymentTransaction config userId dto u o p new) fun _ F =>
      InternalPaymentTx config userId dto new F := by
  refine .ensure_bind fun _ => .ensure_bind fun sufficient => ?_
  refine (adds_findDueAssignment _ _ _ _).bind fun a F hF => ?_
  obtain ⟨created, rfl⟩ := hF
  refine .makes_bind (Makes.whenSome fun _ _ => (Makes.ensure _).mono (fun _ h => h)
    fun _ _ => trivial) fun _ _ => ?_
  refine .makes_bind (makes_getOrCreateSystemAccount .platformFee) fun _ _ => .makes_bind (makes_getOrCreateSystemAccount .vatPayable) fun _ _ => ?_
  refine .makes_bind (makes_getOrCreateSystemAccount .bachsFee) fun fee hfee => ?_
  refine .makes_bind (makes_getOrCreateSystemAccount .bachsSettlement) fun settlement hsettlement => ?_
  subst hfee hsettlement
  refine (adds_writeBalance u _).bind fun _ F hF => ?_
  subst hF
  refine (adds_writeBalance o _).bind fun _ F hF => ?_
  subst hF
  refine (adds_writeBalance p _).bind fun _ F hF => ?_
  subst hF
  refine .exec_bind <| .exec_bind <| .makes_bind (makes_createJournalEntry
    fun nested J _ hJ => journal nested J (.journal u o p J hJ)) fun e he => ?_
  subst he
  refine .exec_bind <| Adds.bind (G := fun _ F => DuePaid new.paymentId dto.amount F) ?_
    fun _ due paid => .exec_bind <| .makes_bind (makes_invalidateWalletCache _) fun _ _ =>
      .makes_bind (makes_invalidateWalletCache _) fun _ _ => .of_makes (makes_invalidateWalletCache _) fun _ _ => ?_
  · cases a with
    | none => exact .ret .none
    | some a => exact adds_handleDuePayment _ _ _ _
  · exact .payment u o p created due sufficient paid

theorem adds_manualPaymentTransaction (userId : Id) (dto : CreateManualPaymentDto) (u o : Wallet)
    (new : NewPayment)
    (journal : ∀ nested J, ManualPaymentTx userId dto new J → P (.committed nested J)) :
    Adds P (manualPaymentTransaction userId dto u o new) fun _ F =>
      ManualPaymentTx userId dto new F := by
  refine .ensure_bind fun _ => .ensure_bind fun sufficient => .exec_bind <| .exec_bind ?_
  refine (adds_writeBalance u _).bind fun _ F hF => .exec_bind ?_
  subst hF
  refine (adds_writeBalance o _).bind fun _ F hF => ?_
  subst hF
  refine .exec_bind <| .makes_bind (makes_createJournalEntry
    fun nested J _ hJ => journal nested J (.journal u o J hJ)) fun e he => ?_
  subst he
  refine .exec_bind <| .exec_bind <| (adds_duePayment _ _ _ _).bind fun _ due paid =>
    .exec_bind <| .makes_bind (makes_invalidateWalletCache _) fun _ _ => .of_makes (makes_invalidateWalletCache _) fun _ _ => ?_
  exact .payment u o due sufficient paid

end

theorem makes_findUser {P : FinanceEvent → Prop} [Includes Quiet P] (userId : Id) :
    Makes P (findUser userId) fun _ => True :=
  (makes_outside _).bind fun _ _ => (makes_orThrow _ _).bind fun _ _ => .ret trivial

theorem makes_receipt {B : FinanceEvent → Prop} [Includes Quiet B] {T : List Stmt → Prop}
    {paymentId userId : Id} {new : NewReceipt}
    (h : ∀ F, ReceiptTx paymentId new F → T F) :
    Makes (Emits B T) (attempt (generateReceiptFromPayment paymentId userId new)) fun _ => True :=
  ((makes_generateReceiptFromPayment _ _ _).mono (fun _ => .mono h) fun _ h => h).attempt

theorem makes_executeInternalPayment (config : FeeConfig) (userId : Id) (dto : CreatePaymentDto)
    (new : NewPayment) :
    Makes (Emits Setup (InternalPaymentTx config userId dto new))
      (executeInternalPayment config userId dto new) fun _ => True := by
  refine (makes_findUser userId).bind fun _ _ => ?_
  refine (makes_getOrCreateWallet _ _).bind fun u _ => ?_
  refine (makes_getOrCreateWallet _ _).bind fun o _ => ?_
  refine (makes_getOrCreateWallet _ _).bind fun p _ => ?_
  refine Makes.bind (S := fun _ => True) (.transaction (adds_internalPaymentTransaction config
    userId dto u o p new fun nested _ => .tx nested)
    fun nested _ _ hF => ⟨.tx nested hF, trivial⟩) fun _ _ => makes_receipt fun _ => .receipt

theorem makes_executeManualPayment (userId : Id) (dto : CreateManualPaymentDto)
    (new : NewPayment) :
    Makes (Emits Setup (ManualPaymentTx userId dto new)) (executeManualPayment userId dto new)
      fun _ => True := by
  refine (makes_findUser userId).bind fun _ _ => ?_
  refine (makes_getOrCreateWallet _ _).bind fun u _ => ?_
  refine (makes_getOrCreateWallet _ _).bind fun o _ => ?_
  refine Makes.bind (S := fun _ => True) (.transaction (adds_manualPaymentTransaction userId dto
    u o new fun nested _ => .tx nested)
    fun nested _ _ hF => ⟨.tx nested hF, trivial⟩) fun _ _ => makes_receipt fun _ => .receipt

end Heightt.FinanceService
