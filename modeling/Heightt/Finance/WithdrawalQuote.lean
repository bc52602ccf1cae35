import Heightt.Finance.Requests
import Heightt.Numbers.Bisection
import Mathlib.Algebra.Order.Floor.Ring

/-!
# FinanceService: withdrawal quotes

A quote tells how much of a wallet can be withdrawn, and whether an amount can be. Its
maximum comes from a binary search over the fee of `calculateWithdrawalCharges`, or from
the fixed fee of the other two kinds; a request checks the sum again on the locked row.
The settings may hold any numbers here, also ones that the columns of a withdrawal cannot.
-/

namespace Heightt.FinanceService

open ReadCommitted Prog WalletService LedgerService Bisection

/-- `fees.withdrawal`; zero means that a part is not set. -/
structure WithdrawalFees where
  percentage : ℚ
  minFee : ℚ := 0
  maxFee : ℚ := 0
  flatFee : ℚ := 0
  nonneg : 0 ≤ percentage := by decide

namespace WithdrawalFees

/-- The share of the amount, raised to the minimum and lowered to the maximum. -/
def clamped (c : WithdrawalFees) (amount : Int) : ℚ :=
  let fee : ℚ := BachsClient.round (amount * (c.percentage / 100))
  let fee := if c.minFee ≠ 0 ∧ fee < c.minFee then c.minFee else fee
  if c.maxFee ≠ 0 ∧ c.maxFee < fee then c.maxFee else fee

/-- The fee of `calculateWithdrawalCharges`. -/
def fee (c : WithdrawalFees) (amount : Int) : ℚ :=
  if c.flatFee ≠ 0 then c.clamped amount + c.flatFee else c.clamped amount

theorem fee_eq (c : WithdrawalFees) (amount : Int) : c.fee amount = c.clamped amount + c.flatFee := by
  unfold fee
  split
  · rfl
  · rename_i unset
    rw [not_not.1 unset, add_zero]

theorem round_mono {x y : ℚ} (h : x ≤ y) : BachsClient.round x ≤ BachsClient.round y := by
  unfold BachsClient.round
  exact Int.floor_le_floor (by linarith)

theorem clamped_mono (c : WithdrawalFees) {m n : Int} (le : m ≤ n) : c.clamped m ≤ c.clamped n := by
  have share : (BachsClient.round (m * (c.percentage / 100)) : ℚ) ≤
      (BachsClient.round (n * (c.percentage / 100)) : ℚ) := by
    have factor : 0 ≤ c.percentage / 100 := div_nonneg c.nonneg (by norm_num)
    exact_mod_cast round_mono (mul_le_mul_of_nonneg_right (by exact_mod_cast le) factor)
  unfold clamped
  generalize (BachsClient.round (m * (c.percentage / 100)) : ℚ) = x at share
  generalize (BachsClient.round (n * (c.percentage / 100)) : ℚ) = y at share
  dsimp only
  -- The minimum first: a raised share stays in order; then the maximum.
  have raised : (if c.minFee ≠ 0 ∧ x < c.minFee then c.minFee else x) ≤
      if c.minFee ≠ 0 ∧ y < c.minFee then c.minFee else y := by
    split_ifs with hx hy hy
    · exact le_rfl
    · by_cases set : c.minFee = 0
      · exact absurd set hx.1
      · exact not_lt.1 fun less => hy ⟨set, less⟩
    · exact share.trans hy.2.le
    · exact share
  generalize (if c.minFee ≠ 0 ∧ x < c.minFee then c.minFee else x) = x at raised
  generalize (if c.minFee ≠ 0 ∧ y < c.minFee then c.minFee else y) = y at raised
  split_ifs with hx hy hy
  · exact le_rfl
  · exact hx.2.le.trans raised
  · by_cases set : c.maxFee = 0
    · exact absurd set hy.1
    · exact not_lt.1 fun less => hx ⟨set, less⟩
  · exact raised

theorem fee_mono (c : WithdrawalFees) {m n : Int} (le : m ≤ n) : c.fee m ≤ c.fee n := by
  rw [fee_eq, fee_eq]
  have := c.clamped_mono le
  linarith

/-- No fee is negative where no part is. -/
theorem fee_nonneg (c : WithdrawalFees) (min : 0 ≤ c.minFee) (max : 0 ≤ c.maxFee) (flat : 0 ≤ c.flatFee)
    {amount : Int} (nonneg : 0 ≤ amount) : 0 ≤ c.fee amount := by
  have share : (0 : ℚ) ≤ BachsClient.round (amount * (c.percentage / 100)) := by
    have factor : 0 ≤ c.percentage / 100 := div_nonneg c.nonneg (by norm_num)
    exact_mod_cast round_nonneg (mul_nonneg (by exact_mod_cast nonneg) factor)
  rw [fee_eq]
  have : 0 ≤ c.clamped amount := by
    unfold clamped
    dsimp only
    split_ifs <;> assumption
  linarith

end WithdrawalFees

/-! ## The fee of each kind -/

/-- The fee of a user withdrawal; none while `fees.withdrawal` is absent or not enabled. -/
def configuredFee (fees : Option WithdrawalFees) (amount : Int) : ℚ :=
  match fees with
  | none => 0
  | some c => c.fee amount

/-- The fixed fee of the kinds that have one. -/
def fixedFee : WithdrawalType → Option Int
  | .user => none
  | .organization => some ORGANIZATION_WITHDRAWAL_FEE
  | .platform => some BACHS_PAYOUT_FEE

def withdrawalFee (fees : Option WithdrawalFees) (kind : WithdrawalType) (amount : Int) : ℚ :=
  match fixedFee kind with
  | some fee => fee
  | none => configuredFee fees amount

theorem withdrawalFee_mono (fees : Option WithdrawalFees) (kind : WithdrawalType) {m n : Int} (le : m ≤ n) :
    withdrawalFee fees kind m ≤ withdrawalFee fees kind n := by
  unfold withdrawalFee
  cases fixedFee kind with
  | some fee => exact le_rfl
  | none =>
    cases fees with
    | none => exact le_rfl
    | some c => exact c.fee_mono le

/-- The amount and its fee fit what is available. -/
def covered (fee : Int → ℚ) (availableBalance amount : Int) : Bool := amount + fee amount ≤ availableBalance

/-- A covered amount stays covered when it is lowered: the fee falls with it. -/
theorem downward_covered {fee : Int → ℚ} (mono : ∀ {m n : Int}, m ≤ n → fee m ≤ fee n) (availableBalance : Int) :
    Downward (covered fee availableBalance) := by
  intro m n _ le fits
  unfold covered at fits ⊢
  rw [decide_eq_true_iff] at fits ⊢
  have amounts : (m : ℚ) ≤ n := by exact_mod_cast le
  have := mono le
  linarith

/-- `calculateMaximumWithdrawal`, for any settings. -/
def maximumWithdrawal (fees : Option WithdrawalFees) (availableBalance : Int) (fixedFee : Option Int) : Int :=
  if availableBalance ≤ 0 then 0
  else match fixedFee with
    | some fee => max 0 (availableBalance - fee)
    | none => search (covered (configuredFee fees) availableBalance) 0 availableBalance

/-- The amounts that a wallet can pay with their fee. -/
def payable (fees : Option WithdrawalFees) (kind : WithdrawalType) (availableBalance : Int) : Set Int :=
  {m | 0 < m ∧ covered (withdrawalFee fees kind) availableBalance m = true}

/-- Below a fixed fee nothing fits, and above it what is left does. -/
theorem fixed_greatest_iff {fee availableBalance : Int} (nonneg : 0 ≤ fee) :
    GreatestOrZero {m | 0 < m ∧ covered (fun _ => (fee : ℚ)) availableBalance m = true}
      (max 0 (availableBalance - fee)) ↔
    covered (fun _ => (fee : ℚ)) availableBalance (availableBalance + 1) = false := by
  have covers (m : Int) : covered (fun _ => (fee : ℚ)) availableBalance m = true ↔ m + fee ≤ availableBalance := by
    rw [covered, decide_eq_true_iff]
    norm_cast
  refine ⟨fun _ => Bool.eq_false_iff.2 fun fits => ?_, fun _ => ?_⟩
  · have := (covers _).1 fits
    omega
  · by_cases some : fee < availableBalance
    · rw [max_eq_right (by omega)]
      refine .inl ⟨⟨by omega, (covers _).2 (by omega)⟩, fun m mem => ?_⟩
      have := (covers m).1 mem.2
      omega
    · rw [max_eq_left (by omega)]
      refine .inr ⟨Set.eq_empty_of_forall_notMem fun m mem => ?_, rfl⟩
      have := (covers m).1 mem.2
      have := mem.1
      omega

/-- The maximum is right if and only if the first amount above the balance, or one Kobo where
there is no balance, does not fit. -/
theorem maximumWithdrawal_iff (fees : Option WithdrawalFees) (kind : WithdrawalType) (availableBalance : Int) :
    GreatestOrZero (payable fees kind availableBalance) (maximumWithdrawal fees availableBalance (fixedFee kind)) ↔
      covered (withdrawalFee fees kind) availableBalance (max availableBalance 0 + 1) = false := by
  have down := downward_covered (withdrawalFee_mono fees kind) availableBalance
  unfold maximumWithdrawal
  by_cases broke : availableBalance ≤ 0
  · rw [if_pos broke, max_eq_right broke, zero_add]
    constructor
    · rintro (greatest | ⟨empty, -⟩)
      · exact absurd greatest.1.1 (lt_irrefl _)
      · refine Bool.eq_false_iff.2 fun fits => ?_
        have mem : (1 : Int) ∈ payable fees kind availableBalance := ⟨one_pos, fits⟩
        rw [empty] at mem
        exact mem
    · intro one
      refine .inr ⟨Set.eq_empty_of_forall_notMem fun m mem => ?_, rfl⟩
      have := down one_pos mem.1 mem.2
      rw [one] at this
      cases this
  · rw [if_neg broke, max_eq_left (by omega)]
    cases kind with
    | user => exact search_greatest_iff down (by omega)
    | organization => exact fixed_greatest_iff (by decide)
    | platform => exact fixed_greatest_iff (by decide)

/-! ## The quote -/

structure WithdrawalQuoteDto where
  type : WithdrawalType
  organizationId : Option Id := none
  amount : Option Int := none

inductive FeePolicy where
  | providerFeeOnly | withdrawalFeeApplies
  deriving DecidableEq

structure WithdrawalQuote where
  balance : Int
  heldBalance : Int
  availableBalance : Int
  requestedAmount : Option Int
  fee : ℚ
  totalDebit : ℚ
  maxWithdrawable : Int
  canWithdraw : Bool
  feePolicy : FeePolicy
  deriving DecidableEq

/-- What a quote says of a wallet. -/
def withdrawalQuote (fees : Option WithdrawalFees) (dto : WithdrawalQuoteDto) (balance heldBalance : Int) :
    WithdrawalQuote :=
  let availableBalance := max 0 (balance - heldBalance)
  let maxWithdrawable := maximumWithdrawal fees availableBalance (fixedFee dto.type)
  let asked := dto.amount.filter (· ≠ 0)
  let fee := (asked.map (withdrawalFee fees dto.type)).getD 0
  let totalDebit := (asked.map fun amount : Int => (amount : ℚ) + fee).getD 0
  { balance, heldBalance, availableBalance, requestedAmount := dto.amount, fee, totalDebit, maxWithdrawable
    canWithdraw := match dto.amount with
      | some amount => 100 ≤ amount ∧ totalDebit ≤ availableBalance
      | none => 100 ≤ maxWithdrawable
    feePolicy := if dto.type = .platform then .providerFeeOnly else .withdrawalFeeApplies }

/-- The wallet that a quote is about, for a caller who may see it. -/
def quotedWallet (userId : Id) (dto : WithdrawalQuoteDto) : Action WalletOwner :=
  match dto.type with
  | .organization => do
    let organizationId ← orThrow dto.organizationId
      (.badRequest "organizationId is required for an organization withdrawal quote")
    assertOrganizationAdminScope userId organizationId
    pure (.organization organizationId)
  | .platform => do
    requirePlatformAdmin userId "Only platform admins can access the platform withdrawal quote"
    pure .platform
  | .user => pure (.user userId)

def getWithdrawalQuote (fees : Option WithdrawalFees) (userId : Id) (dto : WithdrawalQuoteDto) (newId : Id) :
    Action WithdrawalQuote := do
  let owner ← quotedWallet userId dto
  let wallet ← getOrCreateWallet owner newId
  pure (withdrawalQuote fees dto wallet.balance wallet.heldBalance)

/-- The check of a request on the locked row. -/
def passesBalanceCheck (fees : Option WithdrawalFees) (kind : WithdrawalType) (amount balance heldBalance : Int) :
    Prop :=
  ¬((balance - heldBalance : Int) : ℚ) < amount + withdrawalFee fees kind amount

/-- The settings of the fee configuration. -/
def settings (config : FeeConfig) : Option WithdrawalFees :=
  config.withdrawal.map fun c =>
    { percentage := c.percentage, minFee := c.minFee, maxFee := c.maxFee, flatFee := c.flatFee, nonneg := c.nonneg.1 }

theorem configuredFee_settings (config : FeeConfig) (amount : Int) :
    configuredFee (settings config) amount = (calculateWithdrawalCharges config amount).fee := by
  unfold configuredFee settings calculateWithdrawalCharges
  cases config.withdrawal with
  | none => exact Int.cast_zero.symm
  | some c =>
    show WithdrawalFees.fee _ amount = _
    rw [WithdrawalFees.fee_eq, WithdrawalFees.clamped]
    push_cast
    norm_cast

theorem covered_settings (config : FeeConfig) (availableBalance amount : Int) :
    covered (configuredFee (settings config)) availableBalance amount = true ↔
      amount + (calculateWithdrawalCharges config amount).fee ≤ availableBalance := by
  rw [covered, decide_eq_true_iff, configuredFee_settings]
  norm_cast

theorem search_settings (config : FeeConfig) (availableBalance low high : Int) :
    search (covered (configuredFee (settings config)) availableBalance) low high =
      searchMaximum (fun amount => (calculateWithdrawalCharges config amount).fee) availableBalance low high := by
  fun_induction searchMaximum with
  | case1 low high lt middle fits ih =>
    rw [search, if_pos lt]
    exact (if_pos ((covered_settings config _ middle).2 fits)).trans ih
  | case2 low high lt middle unfit ih =>
    rw [search, if_pos lt]
    exact (if_neg fun fits => unfit ((covered_settings config _ middle).1 fits)).trans ih
  | case3 low high ge => rw [search, if_neg ge]

/-- The maximum in a request's error is that of the quote. -/
theorem maximumWithdrawal_settings (config : FeeConfig) (availableBalance : Int) (fixedFee : Option Int) :
    maximumWithdrawal (settings config) availableBalance fixedFee =
      calculateMaximumWithdrawal config availableBalance fixedFee := by
  unfold maximumWithdrawal calculateMaximumWithdrawal
  split
  · rfl
  · cases fixedFee with
    | some fee => rfl
    | none => exact search_settings config availableBalance 0 availableBalance

theorem passesBalanceCheck_iff (fees : Option WithdrawalFees) (kind : WithdrawalType)
    (amount balance heldBalance : Int) : passesBalanceCheck fees kind amount balance heldBalance ↔
      covered (withdrawalFee fees kind) (balance - heldBalance) amount = true := by
  rw [passesBalanceCheck, covered, decide_eq_true_iff, not_lt]

/-- The check is the one that `holdForWithdrawal` makes for each kind of request. -/
theorem totalAmount_le_iff (config : FeeConfig) (userId organizationId walletId : Id) (dto : WithdrawalRequestDto)
    (destination : PayoutDestination) (new : NewWithdrawal) (v : Wallet) :
    ((userWithdrawalRow config userId walletId dto destination new).totalAmount ≤ v.balance - v.heldBalance ↔
      passesBalanceCheck (settings config) .user dto.amount v.balance v.heldBalance) ∧
    ((organizationWithdrawalRow userId organizationId walletId dto destination new).totalAmount ≤
        v.balance - v.heldBalance ↔
      passesBalanceCheck (settings config) .organization dto.amount v.balance v.heldBalance) ∧
    ((platformWithdrawalRow userId walletId dto destination new).totalAmount ≤ v.balance - v.heldBalance ↔
      passesBalanceCheck (settings config) .platform dto.amount v.balance v.heldBalance) := by
  refine ⟨?_, ?_, ?_⟩
  · rw [passesBalanceCheck_iff]
    exact (covered_settings config _ _).symm
  · rw [passesBalanceCheck, not_lt]
    show _ ↔ (dto.amount : ℚ) + (ORGANIZATION_WITHDRAWAL_FEE : ℚ) ≤ _
    norm_cast
  · rw [passesBalanceCheck, not_lt]
    show _ ↔ (dto.amount : ℚ) + (BACHS_PAYOUT_FEE : ℚ) ≤ _
    norm_cast

/-! ## Exactness -/

/-- What a quote should be for every wallet: the maximum is the greatest amount that can be
paid, and an amount can be withdrawn if it is up to the maximum, which is when a request of it
passes its check. -/
structure ExactQuotes (fees : Option WithdrawalFees) (kind : WithdrawalType) : Prop where
  maximum : ∀ availableBalance, GreatestOrZero (payable fees kind availableBalance)
    (maximumWithdrawal fees availableBalance (fixedFee kind))
  quote : ∀ (dto : WithdrawalQuoteDto) (balance heldBalance amount : Int), dto.type = kind →
    dto.amount = some amount → 100 ≤ amount →
    ((withdrawalQuote fees dto balance heldBalance).canWithdraw = true ↔
      amount ≤ (withdrawalQuote fees dto balance heldBalance).maxWithdrawable) ∧
    (amount ≤ (withdrawalQuote fees dto balance heldBalance).maxWithdrawable ↔
      passesBalanceCheck fees kind amount balance heldBalance)

/-- Up to the greatest payable amount, all positive amounts are payable. -/
theorem le_iff_covered {fees : Option WithdrawalFees} {kind : WithdrawalType} {availableBalance m amount : Int}
    (greatest : GreatestOrZero (payable fees kind availableBalance) m) (positive : 0 < amount) :
    amount ≤ m ↔ covered (withdrawalFee fees kind) availableBalance amount = true := by
  constructor
  · intro le
    obtain greatest | ⟨-, rfl⟩ := greatest
    · exact downward_covered (withdrawalFee_mono fees kind) availableBalance positive le greatest.1.2
    · omega
  · intro fits
    have mem : amount ∈ payable fees kind availableBalance := ⟨positive, fits⟩
    obtain greatest | ⟨empty, -⟩ := greatest
    · exact greatest.2 mem
    · rw [empty] at mem
      exact mem.elim

theorem canWithdraw_iff {fees : Option WithdrawalFees} {dto : WithdrawalQuoteDto} {amount : Int}
    (balance heldBalance : Int) (asked : dto.amount = some amount) (least : 100 ≤ amount) :
    (withdrawalQuote fees dto balance heldBalance).canWithdraw = true ↔
      covered (withdrawalFee fees dto.type) (max 0 (balance - heldBalance)) amount = true := by
  have given : (some amount).filter (fun amount : Int => decide (amount ≠ 0)) = some amount := by
    rw [Option.filter_some, if_pos]
    exact decide_eq_true (by omega)
  simp only [withdrawalQuote, covered, asked, given, Option.map_some, Option.getD_some, decide_eq_true_iff, least,
    true_and]

/-- An amount of 100 Kobo or more with a fee above -1 does not fit a balance below zero. -/
theorem covered_max_iff {fees : Option WithdrawalFees} {kind : WithdrawalType}
    (fee : -1 < withdrawalFee fees kind 1) {amount : Int} (least : 100 ≤ amount) (availableBalance : Int) :
    covered (withdrawalFee fees kind) (max 0 availableBalance) amount = true ↔
      covered (withdrawalFee fees kind) availableBalance amount = true := by
  obtain nonneg | negative := le_total 0 availableBalance
  · rw [max_eq_right nonneg]
  · have above : -1 < withdrawalFee fees kind amount := fee.trans_le (withdrawalFee_mono fees kind (by omega))
    have amounts : (100 : ℚ) ≤ amount := by exact_mod_cast least
    have balance : (availableBalance : ℚ) ≤ 0 := by exact_mod_cast negative
    rw [max_eq_left negative, covered, covered, decide_eq_true_iff, decide_eq_true_iff, Int.cast_zero]
    constructor <;> intro fits <;> linarith

theorem greatest_of_fee {fees : Option WithdrawalFees} {kind : WithdrawalType}
    (fee : -1 < withdrawalFee fees kind 1) (availableBalance : Int) :
    GreatestOrZero (payable fees kind availableBalance)
      (maximumWithdrawal fees availableBalance (fixedFee kind)) := by
  rw [maximumWithdrawal_iff, covered, decide_eq_false_iff_not, not_le]
  have above : -1 < withdrawalFee fees kind (max availableBalance 0 + 1) :=
    fee.trans_le (withdrawalFee_mono fees kind (by omega))
  have balance : (availableBalance : ℚ) ≤ (max availableBalance 0 : Int) := by exact_mod_cast le_max_left _ _
  push_cast at balance ⊢
  linarith

theorem exactQuotes_of_fee {fees : Option WithdrawalFees} {kind : WithdrawalType}
    (fee : -1 < withdrawalFee fees kind 1) : ExactQuotes fees kind := by
  refine ⟨greatest_of_fee fee, fun dto balance heldBalance amount same asked least => ?_⟩
  subst same
  have max_iff : amount ≤ (withdrawalQuote fees dto balance heldBalance).maxWithdrawable ↔
      covered (withdrawalFee fees dto.type) (max 0 (balance - heldBalance)) amount = true :=
    le_iff_covered (greatest_of_fee fee _) (by omega)
  refine ⟨(canWithdraw_iff balance heldBalance asked least).trans max_iff.symm, ?_⟩
  rw [max_iff, passesBalanceCheck_iff, covered_max_iff fee least]

/-- With no negative part, the fee on one Kobo is not negative. -/
theorem withdrawalFee_settings_nonneg (config : FeeConfig) (kind : WithdrawalType) :
    0 ≤ withdrawalFee (settings config) kind 1 := by
  cases kind with
  | user =>
    show 0 ≤ configuredFee (settings config) 1
    rw [configuredFee_settings]
    exact_mod_cast calculateWithdrawalCharges_fee_nonneg config one_pos.le
  | organization => exact (by norm_num [ORGANIZATION_WITHDRAWAL_FEE] : (0 : ℚ) ≤ (ORGANIZATION_WITHDRAWAL_FEE : ℚ))
  | platform => exact (by norm_num [BACHS_PAYOUT_FEE] : (0 : ℚ) ≤ (BACHS_PAYOUT_FEE : ℚ))

/-- The quotes of the application's own settings are exact, and so is the maximum that its
requests report. -/
theorem exactQuotes_settings (config : FeeConfig) (kind : WithdrawalType) :
    ExactQuotes (settings config) kind ∧ ∀ availableBalance,
      GreatestOrZero (payable (settings config) kind availableBalance)
        (calculateMaximumWithdrawal config availableBalance (fixedFee kind)) := by
  have fee : -1 < withdrawalFee (settings config) kind 1 := by
    have := withdrawalFee_settings_nonneg config kind
    linarith
  refine ⟨exactQuotes_of_fee fee, fun availableBalance => ?_⟩
  rw [← maximumWithdrawal_settings]
  exact greatest_of_fee fee availableBalance

/-- **Withdrawal quotes are exact** for all wallets if and only if the fee on one Kobo is
above -1 Kobo: whole parts none of which is negative give such a fee. -/
theorem exactQuotes_iff (fees : Option WithdrawalFees) (kind : WithdrawalType) :
    ExactQuotes fees kind ↔ -1 < withdrawalFee fees kind 1 := by
  refine ⟨fun exact => ?_, exactQuotes_of_fee⟩
  have one := (maximumWithdrawal_iff fees kind 0).1 (exact.maximum 0)
  rw [covered, decide_eq_false_iff_not, not_le, max_self, zero_add, Int.cast_zero, Int.cast_one] at one
  linarith

/-- A discount of 50 Kobo: 150 Kobo can be paid from 100, where the maximum is at most 100. -/
theorem discount_not_exact : ¬ExactQuotes (some { percentage := 0, flatFee := -50 }) .user := by
  intro exact
  have beyond := (maximumWithdrawal_iff _ .user 100).1 (exact.maximum 100)
  revert beyond
  decide +kernel

end Heightt.FinanceService
