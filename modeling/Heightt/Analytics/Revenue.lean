import Heightt.Numbers.Calendar
import Heightt.Store.Groups
import Mathlib.Data.List.Perm.Subperm
import Mathlib.Data.List.Sort

/-!
# Revenue

`getRevenueAnalytics` of `analytics.service.ts`: the total, the sums by payment method and the trend
by months. The trend has its own translation of the filter, which leaves out the institution.
-/

namespace Heightt.AnalyticsService

open Calendar Store

inductive PaymentStatus where
  | pending | processing | completed | failed | refunded | cancelled
  deriving DecidableEq

inductive PaymentMethod where
  | card | bankTransfer | ussd | qrCode | wallet
  deriving DecidableEq

structure RevenueRow where
  organizationId : String
  amount : Int
  status : PaymentStatus
  paymentMethod : PaymentMethod
  paidAt : Option Int
  deriving DecidableEq

structure OrganizationRow where
  id : String
  institutionId : Option String

/-- The tables that are read. -/
structure Tables where
  payments : List RevenueRow
  organizations : List OrganizationRow

structure AnalyticsQueryDto where
  institutionId : Option String := none
  organizationId : Option String := none
  startDate : Option Int := none
  endDate : Option Int := none

/-- `if (text)` -/
def present (text : Option String) : Option String := text.filter (· ≠ "")

/-- What `where` is built up to. -/
structure Where where
  institutionId : Option String
  organizationId : Option String
  gte : Option Int
  lte : Option Int

def AnalyticsQueryDto.where_ (dto : AnalyticsQueryDto) : Where where
  institutionId := present dto.institutionId
  organizationId := present dto.organizationId
  gte := dto.startDate
  lte := dto.endDate

/-- A comparison with a bound that may be absent; a row without the date fails it. -/
def bounded (bound : Option Int) (holds : Int → Int → Bool) (paidAt : Option Int) : Bool :=
  bound.all fun b => paidAt.any fun t => holds b t

/-- The conditions of `getRevenueTrend`. -/
def Where.trendConditions (w : Where) (p : RevenueRow) : Bool :=
  decide (p.status = .completed) && w.organizationId.all (· = p.organizationId) &&
    bounded w.gte (fun b t => b ≤ t) p.paidAt && bounded w.lte (fun b t => t ≤ b) p.paidAt

/-- The payment's organization is one of the institution. -/
def ofInstitution (organizations : List OrganizationRow) (institutionId : String) (p : RevenueRow) : Bool :=
  organizations.any fun o => decide (o.id = p.organizationId) && decide (o.institutionId = some institutionId)

/-- The conditions of Prisma's `where`. -/
def Where.conditions (w : Where) (organizations : List OrganizationRow) (p : RevenueRow) : Bool :=
  w.trendConditions p && w.institutionId.all fun i => ofInstitution organizations i p

/-- `ASC`, where no date at all comes last. -/
def Ascending (a b : Option Int) : Prop := b = none ∨ ∃ x y, a = some x ∧ b = some y ∧ x ≤ y

instance : DecidableRel Ascending := fun a b =>
  match a, b with
  | _, none => .isTrue (.inl rfl)
  | none, some _ => .isFalse (by simp [Ascending])
  | some x, some y => decidable_of_iff (x ≤ y) (by simp [Ascending])

/-- `DATE_TRUNC('month', "paidAt")` -/
def truncated (p : RevenueRow) : Option Int := p.paidAt.map month

/-- The first twelve of the months that have payments. -/
def trendMonths (rows : List RevenueRow) : List (Option Int) :=
  (((rows.map truncated).dedup).insertionSort Ascending).take 12

def getRevenueTrend (payments : List RevenueRow) (w : Where) : List (Option Int × Int) :=
  let rows := payments.filter w.trendConditions
  groupSums truncated RevenueRow.amount rows (trendMonths rows)

structure RevenueAnalytics where
  totalRevenue : Int
  totalTransactions : Nat
  revenueTrend : List (Option Int × Int)
  revenueByPaymentMethod : List (PaymentMethod × Int)

def getRevenueAnalytics (db : Tables) (dto : AnalyticsQueryDto) : RevenueAnalytics :=
  let rows := db.payments.filter (dto.where_.conditions db.organizations)
  { totalRevenue := sumOf RevenueRow.amount rows
    totalTransactions := rows.length
    revenueTrend := getRevenueTrend db.payments dto.where_
    revenueByPaymentMethod :=
      groupSums RevenueRow.paymentMethod RevenueRow.amount rows (rows.map RevenueRow.paymentMethod).dedup }

/-! ## What the breakdowns add up to -/

def Tables.matching (db : Tables) (dto : AnalyticsQueryDto) : List RevenueRow :=
  db.payments.filter (dto.where_.conditions db.organizations)

/-- The payments that the trend reads, and those of them in its months. -/
def Tables.trendRows (db : Tables) (dto : AnalyticsQueryDto) : List RevenueRow :=
  db.payments.filter dto.where_.trendConditions

def Tables.inTrend (db : Tables) (dto : AnalyticsQueryDto) (p : RevenueRow) : Bool :=
  truncated p ∈ trendMonths (db.trendRows dto)

/-- The matching payments were made in at most twelve months. -/
def FewMonths (rows : List RevenueRow) : Prop :=
  ∃ ms : List Int, ms.length ≤ 12 ∧ ∀ p ∈ rows, ∃ t, p.paidAt = some t ∧ month t ∈ ms

theorem sum_revenueByPaymentMethod (db : Tables) (dto : AnalyticsQueryDto) :
    ((getRevenueAnalytics db dto).revenueByPaymentMethod.map Prod.snd).sum = (getRevenueAnalytics db dto).totalRevenue :=
  sum_groupSums_all _ _ _

theorem nodup_trendMonths (rows : List RevenueRow) : (trendMonths rows).Nodup :=
  ((List.perm_insertionSort _ _).nodup_iff.2 (List.nodup_dedup _)).sublist (List.take_sublist _ _)

theorem sum_revenueTrend (db : Tables) (dto : AnalyticsQueryDto) :
    ((getRevenueAnalytics db dto).revenueTrend.map Prod.snd).sum =
      sumOf RevenueRow.amount ((db.trendRows dto).filter (db.inTrend dto)) :=
  (sum_groupSums truncated RevenueRow.amount (db.trendRows dto) (nodup_trendMonths (db.trendRows dto))).trans
    (congrArg _ (List.filter_congr fun _ _ => decide_eq_decide.2 Iff.rfl))

/-- With at most twelve months none is left out. -/
theorem mem_trendMonths {rows : List RevenueRow} (few : FewMonths rows) {p : RevenueRow} (hp : p ∈ rows) :
    truncated p ∈ trendMonths rows := by
  obtain ⟨ms, short, made⟩ := few
  have months : (rows.map truncated).dedup ⊆ ms.map some := by
    intro m hm
    obtain ⟨q, hq, rfl⟩ := List.mem_map.1 (List.mem_dedup.1 hm)
    obtain ⟨t, paid, among⟩ := made q hq
    rw [truncated, paid]
    exact List.mem_map_of_mem among
  have length := (List.subperm_of_subset (List.nodup_dedup _) months).length_le
  rw [List.length_map] at length
  rw [trendMonths, List.take_of_length_le (by rw [List.length_insertionSort]; omega), List.mem_insertionSort,
    List.mem_dedup]
  exact List.mem_map_of_mem hp

theorem matching_eq (db : Tables) (dto : AnalyticsQueryDto) :
    db.matching dto = (db.trendRows dto).filter fun p =>
      dto.where_.institutionId.all fun i => ofInstitution db.organizations i p := by
  unfold Tables.matching Tables.trendRows
  rw [List.filter_filter]
  refine List.filter_congr fun p _ => ?_
  rw [Where.conditions, Bool.and_comm]

/-- The payments of other institutions that the trend counts, and those of the institution itself that
it leaves out, are of one sum. -/
def Balanced (db : Tables) (dto : AnalyticsQueryDto) (institutionId : String) : Prop :=
  sumOf RevenueRow.amount ((db.trendRows dto).filter fun p =>
      !ofInstitution db.organizations institutionId p && db.inTrend dto p) =
    sumOf RevenueRow.amount ((db.trendRows dto).filter fun p =>
      ofInstitution db.organizations institutionId p && !db.inTrend dto p)

/-- Two institutions with a payment each, in the same month. -/
def twoInstitutions : Tables where
  payments := [⟨"org-1", 100, .completed, .card, some 0⟩, ⟨"org-2", 250, .completed, .card, some 0⟩]
  organizations := [⟨"org-1", some "unilag"⟩, ⟨"org-2", some "ui"⟩]

theorem fewMonths_twoInstitutions (dto : AnalyticsQueryDto) : FewMonths (twoInstitutions.matching dto) := by
  refine ⟨[month 0], by decide, fun p hp => ⟨0, ?_, by simp⟩⟩
  have among : p ∈ twoInstitutions.payments := List.mem_of_mem_filter hp
  simp only [twoInstitutions, List.mem_cons, List.not_mem_nil, or_false] at among
  obtain rfl | rfl := among <;> rfl

end Heightt.AnalyticsService
