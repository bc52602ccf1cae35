import Heightt.Finance.Payments
import Heightt.ReadCommitted.Alone
import Mathlib.Algebra.Order.Floor.Ring
import Mathlib.Tactic.Ring

/-!
# FinanceService: the journal of an internal payment

`executeInternalPayment` takes the amount and all charges from the payer and credits the
amount to the organisation and the platform's charges to the platform. The gateway's
charge, which the payer has paid as well, is debited once more and credited once, so the
entry balances only where that charge is rounded to nothing. Amounts and settings may be
any numbers here: the request's check admits every number from 1 on.
-/

namespace Heightt.FinanceService

open ReadCommitted Prog WalletService LedgerService ReceiptService

/-- The settings that `calculatePaymentCharges` reads. -/
structure PaymentFees where
  vatRate : ℚ := 15 / 2 / 100
  platformFeeAmount : ℚ := 10000
  paymentGatewayPercentage : ℚ := 3 / 2 / 100

/-- The charges on an amount. -/
structure ChargedAmount where
  platformFee : ℚ
  gatewayFee : ℚ
  vat : ℚ
  totalAmount : ℚ

/-- `calculatePaymentCharges`, for any numbers. -/
def chargesOn (fees : PaymentFees) (amount : ℚ) : ChargedAmount :=
  let platformFee := fees.platformFeeAmount
  let gatewayFee : ℚ := BachsClient.round (amount * fees.paymentGatewayPercentage)
  let vat : ℚ := BachsClient.round (platformFee * fees.vatRate)
  { platformFee, gatewayFee, vat, totalAmount := amount + (platformFee + gatewayFee + vat) }

/-- Whose account a line is on. -/
inductive LineAccount where
  | payer | organization | platform | bachsFee | bachsSettlement
  deriving DecidableEq

structure AmountLine where
  account : LineAccount
  type : JournalLineType
  amount : ℚ

/-- The lines of the entry. -/
def internalLines (c : ChargedAmount) (amount : ℚ) : List AmountLine :=
  [⟨.payer, .debit, c.totalAmount⟩, ⟨.organization, .credit, amount⟩, ⟨.platform, .credit, c.platformFee⟩,
    ⟨.platform, .credit, c.vat⟩, ⟨.bachsFee, .debit, c.gatewayFee⟩, ⟨.bachsSettlement, .credit, c.gatewayFee⟩]

/-- The amounts of the lines of one type. -/
def total (type : JournalLineType) (lines : List AmountLine) : ℚ :=
  (lines.map fun l => if l.type = type then l.amount else 0).sum

/-- What the lines credit to an account. -/
def creditedTo (account : LineAccount) (lines : List AmountLine) : ℚ :=
  total .credit (lines.filter fun l => l.account = account)

/-- What the entry should be: debits equal credits, and the credits to organisation and
platform are those made to their wallets. -/
structure JournalBalances (fees : PaymentFees) (amount : ℚ) : Prop where
  balanced : total .debit (internalLines (chargesOn fees amount) amount) =
    total .credit (internalLines (chargesOn fees amount) amount)
  organization : creditedTo .organization (internalLines (chargesOn fees amount) amount) = amount
  platform : creditedTo .platform (internalLines (chargesOn fees amount) amount) =
    (chargesOn fees amount).platformFee + (chargesOn fees amount).vat

/-- The gateway's share of the amount is rounded to nothing. -/
def NoGatewayFee (percentage amount : ℚ) : Prop :=
  -(1 / 2) ≤ amount * percentage ∧ amount * percentage < 1 / 2

instance (percentage amount : ℚ) : Decidable (NoGatewayFee percentage amount) :=
  inferInstanceAs (Decidable (_ ∧ _))

theorem noGatewayFee_iff (percentage amount : ℚ) :
    NoGatewayFee percentage amount ↔ BachsClient.round (amount * percentage) = 0 := by
  unfold NoGatewayFee BachsClient.round
  rw [Int.floor_eq_iff, Int.cast_zero, zero_add]
  constructor <;> intro h <;> constructor <;> linarith [h.1, h.2]

theorem total_debit (c : ChargedAmount) (amount : ℚ) :
    total .debit (internalLines c amount) = c.totalAmount + c.gatewayFee := by
  simp [total, internalLines]

theorem total_credit (c : ChargedAmount) (amount : ℚ) :
    total .credit (internalLines c amount) = amount + c.platformFee + c.vat + c.gatewayFee := by
  simp [total, internalLines]
  ring

/-- The entry is out by the gateway's charge. -/
theorem journalBalances_iff (fees : PaymentFees) (amount : ℚ) :
    JournalBalances fees amount ↔ NoGatewayFee fees.paymentGatewayPercentage amount := by
  have out : total .debit (internalLines (chargesOn fees amount) amount) =
      total .credit (internalLines (chargesOn fees amount) amount) + (chargesOn fees amount).gatewayFee := by
    rw [total_debit, total_credit]
    simp only [chargesOn]
    ring
  have fee : (chargesOn fees amount).gatewayFee = 0 ↔ NoGatewayFee fees.paymentGatewayPercentage amount := by
    rw [noGatewayFee_iff]
    exact Int.cast_eq_zero
  rw [← fee]
  constructor
  · intro h
    have := h.balanced
    linarith
  · intro none
    refine ⟨by rw [out, none, add_zero], ?_, ?_⟩
    · simp [creditedTo, total, internalLines]
    · simp [creditedTo, total, internalLines]

/-! ## The call -/

section

variable (config : FeeConfig) (userId : Id) (dto : CreatePaymentDto) (u o p : Wallet) (fee settlement : AccountId)
  (new : NewPayment)

/-- The data that `executeInternalPayment` passes to `createJournalEntry`. -/
def paymentJournal : JournalData :=
  internalJournal userId dto (calculatePaymentCharges config dto.amount) u o p fee settlement new

/-- Its lines carry the amounts above. -/
theorem totals_paymentJournal :
    let lines := internalLines (chargesOn ⟨config.vatRate, config.platformFeeAmount,
      config.paymentGatewayPercentage⟩ dto.amount) dto.amount
    (totalDebits (paymentJournal config userId dto u o p fee settlement new).lines : ℚ) = total .debit lines ∧
      (totalCredits (paymentJournal config userId dto u o p fee settlement new).lines : ℚ) = total .credit lines := by
  constructor
  · rw [total_debit]
    simp [totalDebits, paymentJournal, internalJournal, chargesOn, calculatePaymentCharges]
  · rw [total_credit]
    simp [totalCredits, paymentJournal, internalJournal, chargesOn, calculatePaymentCharges]
    ring

theorem balanced_paymentJournal_iff :
    totalDebits (paymentJournal config userId dto u o p fee settlement new).lines =
        totalCredits (paymentJournal config userId dto u o p fee settlement new).lines ↔
      NoGatewayFee config.paymentGatewayPercentage dto.amount := by
  obtain ⟨debits, credits⟩ := totals_paymentJournal config userId dto u o p fee settlement new
  rw [← journalBalances_iff ⟨config.vatRate, config.platformFeeAmount, config.paymentGatewayPercentage⟩,
    ← Int.cast_inj (α := ℚ), debits, credits]
  refine ⟨fun balanced => ⟨balanced, ?_, ?_⟩, fun h => h.balanced⟩
  · simp [creditedTo, total, internalLines]
  · simp [creditedTo, total, internalLines]

/-- The error of an entry that does not balance. -/
def unbalanced (data : JournalData) : Failure :=
  .badRequest s!"Journal entry must be balanced. Debits: {totalDebits data.lines}, Credits: {totalCredits data.lines}"

/-- What `createJournalEntry` does with the entry: it posts it if the gateway's charge is
nothing, and else refuses it. -/
theorem createJournalEntry_paymentJournal :
    createJournalEntry (paymentJournal config userId dto u o p fee settlement new) new.entry false =
      if NoGatewayFee config.paymentGatewayPercentage dto.amount then
        transaction (createWithClient (paymentJournal config userId dto u o p fee settlement new) new.entry)
      else throw (unbalanced (paymentJournal config userId dto u o p fee settlement new)) := by
  have balanced := balanced_paymentJournal_iff config userId dto u o p fee settlement new
  unfold createJournalEntry ensure
  by_cases none : NoGatewayFee config.paymentGatewayPercentage dto.amount
  · rw [if_pos (balanced.2 none), if_pos none]
    rfl
  · rw [if_neg (mt balanced.1 none), if_neg none]
    rfl

variable {config userId dto new}

/-- With a charge, the transaction of the payment never gets past its journal. -/
theorem adds_internalPaymentTransaction_none {P : FinanceEvent → Prop} [Includes Quiet P] [Includes Setup P]
    (charged : ¬NoGatewayFee config.paymentGatewayPercentage dto.amount) :
    Adds P (internalPaymentTransaction config userId dto u o p new) fun _ _ => False := by
  refine .ensure_bind fun _ => .ensure_bind fun sufficient => ?_
  refine (adds_findDueAssignment _ _ _ _).bind fun a F _ => ?_
  refine .makes_bind (Makes.whenSome fun _ _ => (Makes.ensure _).mono (fun _ h => h)
    fun _ _ => trivial) fun _ _ => ?_
  refine .makes_bind (makes_getOrCreateSystemAccount .platformFee) fun _ _ => ?_
  refine .makes_bind (makes_getOrCreateSystemAccount .vatPayable) fun _ _ => ?_
  refine .makes_bind (makes_getOrCreateSystemAccount .bachsFee) fun fee _ => ?_
  refine .makes_bind (makes_getOrCreateSystemAccount .bachsSettlement) fun settlement _ => ?_
  refine (adds_writeBalance u _).bind fun _ _ _ => (adds_writeBalance o _).bind fun _ _ _ => ?_
  refine (adds_writeBalance p _).bind fun _ _ _ => .exec_bind <| .exec_bind ?_
  refine .makes_bind (S := fun _ => False) ?_ fun _ never => never.elim
  have refused := createJournalEntry_paymentJournal config userId dto u o p fee settlement new
  rw [if_neg charged] at refused
  show Makes P (createJournalEntry (paymentJournal config userId dto u o p fee settlement new) new.entry false) _
  rw [refused]
  exact .throw _

/-- With a charge, no internal payment is ever made: the call commits no more than wallets and
accounts that it creates, in every interleaving, and does not return. -/
theorem makes_executeInternalPayment_none
    (charged : ¬NoGatewayFee config.paymentGatewayPercentage dto.amount) :
    Makes (Emits Setup fun _ => False) (executeInternalPayment config userId dto new) fun _ => False := by
  refine (makes_findUser userId).bind fun _ _ => ?_
  refine (makes_getOrCreateWallet _ _).bind fun u _ => ?_
  refine (makes_getOrCreateWallet _ _).bind fun o _ => ?_
  refine (makes_getOrCreateWallet _ _).bind fun p _ => ?_
  refine Makes.bind (S := fun _ => False) (.transaction (adds_internalPaymentTransaction_none u o p charged)
    fun _ _ _ never => never.elim) fun _ never => never.elim

end

/-- **An internal payment's journal balances** if and only if the gateway's share of the amount
is rounded to nothing, and then only does `createJournalEntry` accept it. -/
theorem internal_journal_balances_iff (fees : PaymentFees) (amount : ℚ) (config : FeeConfig) (userId : Id)
    (dto : CreatePaymentDto) (u o p : Wallet) (fee settlement : AccountId) (new : NewPayment) :
    (JournalBalances fees amount ↔ NoGatewayFee fees.paymentGatewayPercentage amount) ∧
    createJournalEntry (paymentJournal config userId dto u o p fee settlement new) new.entry false =
      if NoGatewayFee config.paymentGatewayPercentage dto.amount then
        transaction (createWithClient (paymentJournal config userId dto u o p fee settlement new) new.entry)
      else throw (unbalanced (paymentJournal config userId dto u o p fee settlement new)) :=
  ⟨journalBalances_iff fees amount, createJournalEntry_paymentJournal config userId dto u o p fee settlement new⟩

/-- A user with a funded wallet, and an organisation. -/
def fundedPayer : Db where
  users := [.ofNat 1]
  organizations := [{ id := .ofNat 10 }]
  wallets := Store.Table.empty.insert { id := .ofNat 2, userId := some (.ofNat 1), balance := 1000000 }
  ledgerAccounts := Store.Table.empty.insert { id := .wallet (.ofNat 2), balance := 1000000 }

def paymentOf100Naira : CreatePaymentDto where
  organizationId := .ofNat 10
  amount := 10000

def newInternalPayment : NewPayment where
  walletId := .ofNat 20
  orgWalletId := .ofNat 21
  platformWalletId := .ofNat 22
  transactionId := .ofNat 23
  paymentId := .ofNat 24
  dueAssignmentId := .ofNat 25
  duePaymentId := .ofNat 26
  reference := "R"
  entry := ⟨.ofNat 27, "JE"⟩
  receipt := ⟨.ofNat 28, "RC"⟩

/-- With the shipped settings a payment of 100 Naira from a wallet of 10000 Naira, which passes
all checks, is refused by its journal. -/
theorem internal_journal_out_of_balance : ¬JournalBalances {} 10000 ∧
    ∃ o ∈ (executeInternalPayment { nonneg := by decide +kernel } (.ofNat 1) paymentOf100Naira newInternalPayment).alone []
        fundedPayer ({} : Services),
      o.result = .error (.badRequest "Journal entry must be balanced. Debits: 21050, Credits: 20900") := by
  constructor
  · rw [journalBalances_iff]
    norm_num [NoGatewayFee]
  · decide +kernel

end Heightt.FinanceService
