import Heightt.Guests.DueRecords
import Heightt.ReadCommitted.Guarantee

/-!
# Whose the payments of guests are

What a claim promises (`ClaimSettled`), the condition on the calls (`Prompt`),
and what every call keeps (`Kept`). Completions keep it here; the claims
themselves are in `Guests.Claims`.
-/

namespace Heightt.Guests

open Store ReadCommitted Prog Database GuestPaymentService

/-- Calls in turn lead from one pair of states to the other. Each is made where
it meets `P`, and ends in any way that a call can end. -/
inductive Served (config : ClaimConfig) (P : GuestOp → GuestDb → Prop) (db : GuestDb) (ext : Outside) :
    GuestDb → Outside → Prop where
  | start : Served config P db ext db ext
  | call {d : GuestDb} {x : Outside} (op : GuestOp) (o : Outcome GuestDb Outside GuestStmt GuestError Unit) :
    Served config P db ext d x → P op d → (op.program config).Ends [] d x o →
    Served config P db ext o.db o.ext

/-- The user is the placeholder of a guest that is not claimed. -/
def IsGuest (d : GuestDb) (userId : String) : Prop :=
  ∃ g ∈ d.guestPayers.rows, g.claimedAt = none ∧ g.placeholderUserId = userId

/-- The payment is recorded for the due, for the student who is its payer. -/
def Recorded (d : GuestDb) (p : Payment) (dueId : String) : Prop :=
  ∃ profile ∈ d.findProfile p.payerId, RecordedFor d profile.id dueId p.id

/-- The user is a student, and the due of the payment is there and not paid. -/
def Recordable (d : GuestDb) (userId : String) (p : Payment) : Prop :=
  ∀ dueId ∈ p.guestDue, DueFound d p dueId ∧
    ∃ profile ∈ d.findProfile userId, Unpaid d profile.id dueId

/-- The payments of the guests. -/
def paymentsOf (d : GuestDb) (guests : List GuestPayer) : List Payment :=
  guests.flatMap fun g => d.payments.rows.filter fun p => p.payerId = g.placeholderUserId

/-- All payments of the guests can be recorded for the user. -/
structure Ready (d : GuestDb) (userId : String) (guests : List GuestPayer) : Prop where
  recordable : ∀ p ∈ paymentsOf d guests, Recordable d userId p
  apart : (paymentsOf d guests).Pairwise OtherDue

/-- The code that is compared is the submitted one. -/
def Correct (config : ClaimConfig) (d : GuestDb) (user : User) (code : String) : Prop :=
  ∃ claim ∈ usableCode d (config.normalizeEmail user.email) d.now,
    claim.codeHash = config.codeHash code user.id

/-- A guest's payment for a due completes while it is the guest's, and a correct
code claims what can be recorded. -/
def Prompt (config : ClaimConfig) : GuestOp → GuestDb → Prop
  | .completePayment pendingPaymentId .., d => ∀ q ∈ d.pendingPayments.find pendingPaymentId,
      q.status = .pending → q.guestDueId.isSome → IsGuest d q.userId
  | .verifyClaimCode userId code _, d => ∀ user ∈ d.findUser userId, Correct config d user code →
      Ready d user.id (findGuests d (config.normalizeEmail user.email))
  | _, _ => True

/-- Nothing is left with the placeholder. -/
structure Vacated (d : GuestDb) (placeholderUserId : String) : Prop where
  payments : ∀ p ∈ d.payments.rows, p.payerId ≠ placeholderUserId
  pendingPayments : ∀ q ∈ d.pendingPayments.rows, q.userId ≠ placeholderUserId
  receipts : ∀ r ∈ d.receipts.rows, r.userId ≠ placeholderUserId

/-- All that was the guest's in state `d₀` is the user's in state `d`, and recorded. -/
structure ClaimSettled (d₀ d : GuestDb) (g : GuestPayer) (userId : String) : Prop where
  vacated : Vacated d g.placeholderUserId
  pendingPayments : ∀ q ∈ d₀.pendingPayments.rows, q.userId = g.placeholderUserId →
    ∃ q', d.pendingPayments.find q.id = some q' ∧ q'.userId = userId ∧
      (q'.status = .completed → ∃ p ∈ d.payments.rows, p.reference = q.reference ∧ p.payerId = userId ∧
        ∀ dueId ∈ q.guestDueId, dueId ≠ "" → Recorded d p dueId)
  payments : ∀ p ∈ d₀.payments.rows, p.payerId = g.placeholderUserId →
    ∃ p', d.payments.find p.id = some p' ∧ p'.payerId = userId ∧
      ∀ dueId ∈ p.guestDueId, dueId ≠ "" → Recorded d p' dueId
  receipts : ∀ r ∈ d₀.receipts.rows, r.userId = g.placeholderUserId →
    ∃ r', d.receipts.find r.id = some r' ∧ r'.userId = userId

/-- No guest has been claimed: what guests paid and what they have not yet paid is
with their placeholders. -/
structure BeforeClaims (d : GuestDb) : Prop where
  unclaimed : ∀ g ∈ d.guestPayers.rows, g.claimedAt = none ∧ g.claimedById = none
  placeholders : ∀ g ∈ d.guestPayers.rows, ∀ g' ∈ d.guestPayers.rows,
    g.placeholderUserId = g'.placeholderUserId → g = g'
  unverified : ∀ g ∈ d.guestPayers.rows, ∀ u ∈ d.findUser g.placeholderUserId, u.emailVerified = false
  guests : ∀ p ∈ d.payments.rows, p.guestDue.isSome → IsGuest d p.payerId
  references : ∀ q ∈ d.pendingPayments.rows, ∀ q' ∈ d.pendingPayments.rows,
    q.reference = q'.reference → q = q'
  same : ∀ p ∈ d.payments.rows, ∀ q ∈ d.pendingPayments.rows, p.reference = q.reference →
    p.payerId = q.userId ∧ p.guestDueId = q.guestDueId
  completed : ∀ q ∈ d.pendingPayments.rows, q.status = .completed →
    ∃ p ∈ d.payments.rows, p.reference = q.reference
  sited : Sited d

/-! ## Who owns what -/

/-- Whose the rows of a user are by now. -/
def GuestDb.ownerOf (d : GuestDb) (userId : String) : String :=
  ((d.guestPayers.findFirst fun g => g.placeholderUserId = userId).bind GuestPayer.claimedById).getD userId

/-- The owner when the rows of `a` become those of `b`. -/
def moveOwner (a b owner : String) : String := if owner = a then b else owner

section Give

variable (a b : String)

theorem payerId_give (p : Payment) : (p.give a b).payerId = moveOwner a b p.payerId := by
  unfold Payment.give moveOwner
  split <;> rfl

theorem userId_give (q : PendingPayment) : (q.give a b).userId = moveOwner a b q.userId := by
  unfold PendingPayment.give moveOwner
  split <;> rfl

theorem Receipt.userId_give (r : Receipt) : (r.give a b).userId = moveOwner a b r.userId := by
  unfold Receipt.give moveOwner
  split <;> rfl

theorem give_cases (p : Payment) : ∃ payerId, p.give a b = { p with payerId } := by
  unfold Payment.give
  split
  · exact ⟨b, rfl⟩
  · exact ⟨p.payerId, rfl⟩

theorem PendingPayment.give_cases (q : PendingPayment) : ∃ userId, q.give a b = { q with userId } := by
  unfold PendingPayment.give
  split
  · exact ⟨b, rfl⟩
  · exact ⟨q.userId, rfl⟩

@[simp] theorem id_give (p : Payment) : (p.give a b).id = p.id := by
  obtain ⟨_, h⟩ := give_cases a b p
  rw [h]

@[simp] theorem Payment.reference_give (p : Payment) : (p.give a b).reference = p.reference := by
  obtain ⟨_, h⟩ := give_cases a b p
  rw [h]

@[simp] theorem Payment.guestDueId_give (p : Payment) : (p.give a b).guestDueId = p.guestDueId := by
  obtain ⟨_, h⟩ := give_cases a b p
  rw [h]

@[simp] theorem PendingPayment.id_give (q : PendingPayment) : (q.give a b).id = q.id := by
  obtain ⟨_, h⟩ := PendingPayment.give_cases a b q
  rw [h]

@[simp] theorem reference_give (q : PendingPayment) : (q.give a b).reference = q.reference := by
  obtain ⟨_, h⟩ := PendingPayment.give_cases a b q
  rw [h]

@[simp] theorem guestDueId_give (q : PendingPayment) : (q.give a b).guestDueId = q.guestDueId := by
  obtain ⟨_, h⟩ := PendingPayment.give_cases a b q
  rw [h]

@[simp] theorem status_give (q : PendingPayment) : (q.give a b).status = q.status := by
  obtain ⟨_, h⟩ := PendingPayment.give_cases a b q
  rw [h]

@[simp] theorem Receipt.id_give (r : Receipt) : (r.give a b).id = r.id := by
  unfold Receipt.give
  split <;> rfl

end Give

/-- What every call keeps. -/
structure Kept (d₀ d : GuestDb) : Prop where
  guests : Table.Grows (fun g₀ g => g.placeholderUserId = g₀.placeholderUserId) d₀.guestPayers d.guestPayers
  placeholders : ∀ g ∈ d.guestPayers.rows, ∀ g' ∈ d.guestPayers.rows,
    g.placeholderUserId = g'.placeholderUserId → g = g'
  unverified : ∀ g ∈ d.guestPayers.rows, ∀ u ∈ d.findUser g.placeholderUserId, u.emailVerified = false
  claimants : ∀ g ∈ d.guestPayers.rows, ∀ userId ∈ g.claimedById,
    g.claimedAt.isSome ∧ ∃ u ∈ d.findUser userId, u.emailVerified = true
  vacated : ∀ g ∈ d.guestPayers.rows, g.claimedAt.isSome → Vacated d g.placeholderUserId
  dues : ∀ p ∈ d.payments.rows, ∀ dueId ∈ p.guestDue, IsGuest d p.payerId ∨ Recorded d p dueId
  references : ∀ q ∈ d.pendingPayments.rows, ∀ q' ∈ d.pendingPayments.rows,
    q.reference = q'.reference → q = q'
  same : ∀ p ∈ d.payments.rows, ∀ q ∈ d.pendingPayments.rows, p.reference = q.reference →
    p.payerId = q.userId ∧ p.guestDueId = q.guestDueId
  completed : ∀ q ∈ d.pendingPayments.rows, q.status = .completed →
    ∃ p ∈ d.payments.rows, p.reference = q.reference
  sited : Sited d
  pendingPayments : Table.Grows (fun q₀ q => q.reference = q₀.reference ∧ q.guestDueId = q₀.guestDueId ∧
    q.userId = d.ownerOf q₀.userId) d₀.pendingPayments d.pendingPayments
  payments : Table.Grows (fun p₀ p => p.guestDueId = p₀.guestDueId ∧ p.payerId = d.ownerOf p₀.payerId)
    d₀.payments d.payments
  receipts : Table.Grows (fun r₀ r => r.userId = d.ownerOf r₀.userId) d₀.receipts d.receipts

theorem ownerOf_of_unclaimed {d : GuestDb} (h : ∀ g ∈ d.guestPayers.rows, g.claimedById = none)
    (userId : String) : d.ownerOf userId = userId := by
  unfold GuestDb.ownerOf
  cases found : d.guestPayers.findFirst fun g => g.placeholderUserId = userId with
  | none => rfl
  | some g =>
    rw [Option.bind_some, h g (List.mem_of_find?_eq_some found)]
    rfl

theorem BeforeClaims.kept {d : GuestDb} (h : BeforeClaims d) : Kept d d := by
  have owner := ownerOf_of_unclaimed fun g hg => (h.unclaimed g hg).2
  refine
    { guests := fun _ g hg => ⟨g, hg, rfl⟩
      placeholders := h.placeholders
      unverified := h.unverified
      claimants := fun g hg userId hu => ?_
      vacated := fun g hg claimed => ?_
      dues := fun p hp dueId hdue => .inl (h.guests p hp (Option.isSome_iff_exists.2 ⟨dueId, hdue⟩))
      references := h.references
      same := h.same
      completed := h.completed
      sited := h.sited
      pendingPayments := .refl (fun q => ⟨rfl, rfl, (owner _).symm⟩) _
      payments := .refl (fun p => ⟨rfl, (owner _).symm⟩) _
      receipts := .refl (fun r => (owner _).symm) _ }
  · rw [(h.unclaimed g hg).2] at hu
    cases hu
  · rw [(h.unclaimed g hg).1] at claimed
    cases claimed

/-- The user who has claimed a guest owns what was the guest's. -/
theorem ownerOf_claimed {d₀ d : GuestDb} (h : Kept d₀ d) {g : GuestPayer} (hg : g ∈ d.guestPayers.rows)
    {userId : String} (claimed : g.claimedById = some userId) : d.ownerOf g.placeholderUserId = userId := by
  unfold GuestDb.ownerOf
  cases found : d.guestPayers.findFirst fun g' => g'.placeholderUserId = g.placeholderUserId with
  | none =>
    have other := List.find?_eq_none.1 found g hg
    simp at other
  | some g' =>
    have same : g'.placeholderUserId = g.placeholderUserId := by simpa using List.find?_some found
    rw [h.placeholders g' (List.mem_of_find?_eq_some found) g hg same, Option.bind_some, claimed]
    rfl

theorem Kept.settled {d₀ d : GuestDb} (h : Kept d₀ d) {g g' : GuestPayer} (hg : g ∈ d₀.guestPayers.rows)
    (hg' : d.guestPayers.find g.id = some g') {userId : String} (claimed : g'.claimedById = some userId) :
    ClaimSettled d₀ d g userId := by
  have hmem := Table.find_mem hg'
  have placeholder : g'.placeholderUserId = g.placeholderUserId := by
    obtain ⟨g'', hg'', placeholder⟩ := h.guests g.id g (Table.find_of_mem hg)
    rw [hg'] at hg''
    obtain rfl := Option.some.inj hg''
    exact placeholder
  obtain ⟨done, u, hu, verified⟩ := h.claimants g' hmem userId claimed
  have owner := ownerOf_claimed h hmem claimed
  rw [placeholder] at owner
  -- A claimant is no placeholder, so nothing of the user waits for a claim.
  have recorded : ∀ p ∈ d.payments.rows, p.payerId = userId → ∀ dueId ∈ p.guestDueId, dueId ≠ "" →
      Recorded d p dueId := by
    intro p hp payer dueId hdue nonempty
    have due : p.guestDue = some dueId := by
      unfold Payment.guestDue
      rw [hdue, Option.filter_some, if_pos (by simpa using nonempty)]
    refine (h.dues p hp dueId due).resolve_left ?_
    rintro ⟨g₁, hg₁, -, own⟩
    have unverified := h.unverified g₁ hg₁ u (by rw [own, payer]; exact hu)
    rw [verified] at unverified
    cases unverified
  refine ⟨?_, fun q hq own => ?_, fun p hp own => ?_, fun r hr own => ?_⟩
  · rw [← placeholder]
    exact h.vacated g' hmem done
  · obtain ⟨q', hq', reference, due, user⟩ := h.pendingPayments q.id q (Table.find_of_mem hq)
    rw [own, owner] at user
    refine ⟨q', hq', user, fun completed => ?_⟩
    obtain ⟨p, hp, same⟩ := h.completed q' (Table.find_mem hq') completed
    obtain ⟨payer, due'⟩ := h.same p hp q' (Table.find_mem hq') same
    refine ⟨p, hp, same.trans reference, payer.trans user, ?_⟩
    rw [← due, ← due']
    exact recorded p hp (payer.trans user)
  · obtain ⟨p', hp', due, payer⟩ := h.payments p.id p (Table.find_of_mem hp)
    rw [own, owner] at payer
    refine ⟨p', hp', payer, ?_⟩
    rw [← due]
    exact recorded p' (Table.find_mem hp') payer
  · obtain ⟨r', hr', user⟩ := h.receipts r.id r (Table.find_of_mem hr)
    rw [own, owner] at user
    exact ⟨r', hr', user⟩

/-! ## What leaves guests and owners alone -/

/-- Between the states nothing changes its owner, no guest is claimed and no record is lost. -/
structure Aside (d d' : GuestDb) : Prop where
  users : d'.users = d.users
  guestPayers : d'.guestPayers = d.guestPayers
  payments : d'.payments = d.payments
  pendingPayments : d'.pendingPayments = d.pendingPayments
  receipts : d'.receipts = d.receipts
  profiles : ∀ userId, ∀ profile ∈ d.findProfile userId, d'.findProfile userId = some profile
  recorded : ∀ studentId dueId paymentId, RecordedFor d studentId dueId paymentId →
    RecordedFor d' studentId dueId paymentId
  sited : Sited d → Sited d'

theorem Aside.refl (d : GuestDb) : Aside d d :=
  ⟨rfl, rfl, rfl, rfl, rfl, fun _ _ h => h, fun _ _ _ h => h, fun h => h⟩

theorem Aside.trans {d d' d'' : GuestDb} (h : Aside d d') (h' : Aside d' d'') : Aside d d'' where
  users := h'.users.trans h.users
  guestPayers := h'.guestPayers.trans h.guestPayers
  payments := h'.payments.trans h.payments
  pendingPayments := h'.pendingPayments.trans h.pendingPayments
  receipts := h'.receipts.trans h.receipts
  profiles := fun userId profile hp => h'.profiles userId profile (h.profiles userId profile hp)
  recorded := fun s dueId paymentId hr => h'.recorded s dueId paymentId (h.recorded s dueId paymentId hr)
  sited := fun hs => h'.sited (h.sited hs)

theorem Aside.kept {d₀ d d' : GuestDb} (aside : Aside d d') (h : Kept d₀ d) : Kept d₀ d' := by
  obtain ⟨users, guestPayers, payments, pendingPayments, receipts, profiles, recorded, sited⟩ := aside
  cases d
  cases d'
  dsimp only at users guestPayers payments pendingPayments receipts
  subst users guestPayers payments pendingPayments receipts
  refine
    { guests := h.guests
      placeholders := h.placeholders
      unverified := h.unverified
      claimants := h.claimants
      vacated := fun g hg claimed => ?_
      dues := fun p hp dueId hdue => ?_
      references := h.references
      same := h.same
      completed := h.completed
      sited := sited h.sited
      pendingPayments := h.pendingPayments
      payments := h.payments
      receipts := h.receipts }
  · have vacated := h.vacated g hg claimed
    exact ⟨vacated.payments, vacated.pendingPayments, vacated.receipts⟩
  · refine (h.dues p hp dueId hdue).imp (fun guest => guest) ?_
    rintro ⟨profile, hprofile, record⟩
    exact ⟨profile, profiles _ _ hprofile, recorded _ _ _ record⟩

/-- The statement is about claim codes, due records, profiles or the time. -/
def GuestStmt.aside : GuestStmt → Bool
  | updatePayments .. | updatePendingPayments .. | updateReceipts .. | claimGuestPayer ..
  | createPayment _ | completePendingPayment _ | createReceipt _ => false
  | _ => true

theorem findProfile_append {d : GuestDb} {userId : String} {profile : StudentProfile}
    (h : d.findProfile userId = some profile) (p : StudentProfile) :
    ({ d with studentProfiles := d.studentProfiles ++ [p] } : GuestDb).findProfile userId = some profile := by
  unfold GuestDb.findProfile at h ⊢
  rw [List.find?_append, h]
  rfl

theorem aside_apply {d : GuestDb} {w : GuestStmt} (aside : w.aside = true) (valid : w.check d = none) :
    Aside d (w.apply d) := by
  have recorded (s dueId paymentId : String) :
      RecordedFor d s dueId paymentId → RecordedFor (w.apply d) s dueId paymentId := recordedFor_apply valid
  have sited := sited_apply valid
  cases w with
  | upsertDueAssignment a =>
    have frame := upsert_frame a d
    rw [frame]
    rw [frame] at recorded sited
    exact ⟨rfl, rfl, rfl, rfl, rfl, fun _ _ h => h, recorded, sited⟩
  | createStudentProfile p =>
    exact ⟨rfl, rfl, rfl, rfl, rfl, fun _ _ h => findProfile_append h p, recorded, sited⟩
  | updatePayments _ _ | updatePendingPayments _ _ | updateReceipts _ _ | claimGuestPayer _ _ _
  | createPayment _ | completePendingPayment _ | createReceipt _ => cases aside
  | _ => exact ⟨rfl, rfl, rfl, rfl, rfl, fun _ _ h => h, recorded, sited⟩

/-! ## A payment completes -/

section Completion

variable {d₀ d : GuestDb}

theorem free_of_createPayment {p : Payment} (valid : (GuestStmt.createPayment p).check d = none) :
    d.payments.find p.id = none := by
  rw [← Option.not_isSome_iff_eq_none]
  intro taken
  simp [GuestStmt.check, taken] at valid

theorem free_of_createReceipt {r : Receipt} (valid : (GuestStmt.createReceipt r).check d = none) :
    d.receipts.find r.id = none := by
  rw [← Option.not_isSome_iff_eq_none]
  intro taken
  simp [GuestStmt.check, taken] at valid

/-- The payment of a pending payment that has not been claimed before it completes. -/
theorem kept_createPayment (h : Kept d₀ d) {p : Payment} (valid : (GuestStmt.createPayment p).check d = none)
    {q : PendingPayment} (hq : q ∈ d.pendingPayments.rows) (reference : p.reference = q.reference)
    (payer : p.payerId = q.userId) (due : p.guestDueId = q.guestDueId)
    (guest : p.guestDueId.isSome → IsGuest d p.payerId) :
    Kept d₀ ((GuestStmt.createPayment p).apply d) := by
  have rows : ((GuestStmt.createPayment p).apply d).payments.rows = d.payments.rows ++ [p] :=
    Table.insert_rows (free_of_createPayment valid)
  have cases_ : ∀ p' ∈ ((GuestStmt.createPayment p).apply d).payments.rows,
      p' ∈ d.payments.rows ∨ p' = p := by
    intro p' hp'
    rw [rows] at hp'
    exact (List.mem_append.1 hp').imp_right List.mem_singleton.1
  refine
    { guests := h.guests
      placeholders := h.placeholders
      unverified := h.unverified
      claimants := h.claimants
      vacated := fun g hg claimed => ⟨fun p' hp' => ?_, (h.vacated g hg claimed).pendingPayments,
        (h.vacated g hg claimed).receipts⟩
      dues := fun p' hp' dueId hdue => ?_
      references := h.references
      same := fun p' hp' q' hq' same => ?_
      completed := fun q' hq' completed => ?_
      sited := h.sited
      pendingPayments := h.pendingPayments
      payments := fun id p₀ hp₀ => ?_
      receipts := h.receipts }
  · rcases cases_ p' hp' with hp' | rfl
    · exact (h.vacated g hg claimed).payments p' hp'
    · rw [payer]
      exact (h.vacated g hg claimed).pendingPayments q hq
  · rcases cases_ p' hp' with hp' | rfl
    · exact h.dues p' hp' dueId hdue
    · refine .inl (guest ?_)
      cases none_ : p'.guestDueId with
      | none =>
        rw [Payment.guestDue, none_] at hdue
        cases hdue
      | some _ => rfl
  · rcases cases_ p' hp' with hp' | rfl
    · exact h.same p' hp' q' hq' same
    · obtain rfl := h.references q hq q' hq' (reference.symm.trans same)
      exact ⟨payer, due⟩
  · obtain ⟨p', hp', same⟩ := h.completed q' hq' completed
    refine ⟨p', ?_, same⟩
    rw [rows]
    exact List.mem_append_left _ hp'
  · obtain ⟨p', hp', owned⟩ := h.payments id p₀ hp₀
    obtain ⟨p'', hp'', rfl⟩ := Table.grows_insert (R := Eq) (fun _ => rfl) d.payments p id p' hp'
    exact ⟨p', hp'', owned⟩

theorem kept_completePendingPayment (h : Kept d₀ d) {q : PendingPayment}
    (hq : d.pendingPayments.find q.id = some q) {p : Payment} (hp : p ∈ d.payments.rows)
    (reference : p.reference = q.reference) :
    Kept d₀ ((GuestStmt.completePendingPayment q.id).apply d) := by
  have cases_ : ∀ q' ∈ ((GuestStmt.completePendingPayment q.id).apply d).pendingPayments.rows,
      ∃ q₁ ∈ d.pendingPayments.rows, q' = if q₁.id = q.id then q₁.complete else q₁ := by
    intro q' hq'
    obtain ⟨q₁, hq₁, rfl⟩ := List.mem_map.1 hq'
    exact ⟨q₁, hq₁, rfl⟩
  have kept (q₁ : PendingPayment) : ((if q₁.id = q.id then q₁.complete else q₁).reference = q₁.reference) ∧
      (if q₁.id = q.id then q₁.complete else q₁).guestDueId = q₁.guestDueId ∧
      (if q₁.id = q.id then q₁.complete else q₁).userId = q₁.userId := by
    split
    · exact ⟨rfl, rfl, rfl⟩
    · exact ⟨rfl, rfl, rfl⟩
  refine
    { guests := h.guests
      placeholders := h.placeholders
      unverified := h.unverified
      claimants := h.claimants
      vacated := fun g hg claimed => ⟨(h.vacated g hg claimed).payments, fun q' hq' => ?_,
        (h.vacated g hg claimed).receipts⟩
      dues := h.dues
      references := fun q' hq' q'' hq'' same => ?_
      same := fun p' hp' q' hq' same => ?_
      completed := fun q' hq' completed => ?_
      sited := h.sited
      pendingPayments := fun id q₀ hq₀ => ?_
      payments := h.payments
      receipts := h.receipts }
  · obtain ⟨q₁, hq₁, rfl⟩ := cases_ q' hq'
    rw [(kept q₁).2.2]
    exact (h.vacated g hg claimed).pendingPayments q₁ hq₁
  · obtain ⟨q₁, hq₁, rfl⟩ := cases_ q' hq'
    obtain ⟨q₂, hq₂, rfl⟩ := cases_ q'' hq''
    rw [(kept q₁).1, (kept q₂).1] at same
    rw [h.references q₁ hq₁ q₂ hq₂ same]
  · obtain ⟨q₁, hq₁, rfl⟩ := cases_ q' hq'
    rw [(kept q₁).1] at same
    rw [(kept q₁).2.1, (kept q₁).2.2]
    exact h.same p' hp' q₁ hq₁ same
  · obtain ⟨q₁, hq₁, rfl⟩ := cases_ q' hq'
    rw [(kept q₁).1]
    by_cases own : q₁.id = q.id
    · have hq₁ := Table.find_of_mem hq₁
      rw [own, hq] at hq₁
      obtain rfl := Option.some.inj hq₁
      exact ⟨p, hp, reference⟩
    · rw [if_neg own] at completed
      exact h.completed q₁ hq₁ completed
  · obtain ⟨q₁, hq₁, owned⟩ := h.pendingPayments id q₀ hq₀
    obtain ⟨q₂, hq₂, reference', due, user⟩ := Table.grows_modify (t := d.pendingPayments) (k := q.id)
      (f := PendingPayment.complete) (R := fun q₁ q₂ => q₂.reference = q₁.reference ∧
        q₂.guestDueId = q₁.guestDueId ∧ q₂.userId = q₁.userId) (fun _ => rfl) (fun _ => ⟨rfl, rfl, rfl⟩)
      (fun _ _ => ⟨rfl, rfl, rfl⟩) id q₁ hq₁
    exact ⟨q₂, hq₂, reference'.trans owned.1, due.trans owned.2.1, user.trans owned.2.2⟩

/-- A receipt of a payer. -/
theorem kept_createReceipt (h : Kept d₀ d) {r : Receipt} (valid : (GuestStmt.createReceipt r).check d = none)
    {p : Payment} (hp : p ∈ d.payments.rows) (own : r.userId = p.payerId) :
    Kept d₀ ((GuestStmt.createReceipt r).apply d) := by
  refine
    { guests := h.guests
      placeholders := h.placeholders
      unverified := h.unverified
      claimants := h.claimants
      vacated := fun g hg claimed => ⟨(h.vacated g hg claimed).payments,
        (h.vacated g hg claimed).pendingPayments, fun r' hr' => ?_⟩
      dues := h.dues
      references := h.references
      same := h.same
      completed := h.completed
      sited := h.sited
      pendingPayments := h.pendingPayments
      payments := h.payments
      receipts := fun id r₀ hr₀ => ?_ }
  · change r' ∈ (d.receipts.insert r).rows at hr'
    rw [Table.insert_rows (free_of_createReceipt valid)] at hr'
    rcases List.mem_append.1 hr' with hr' | hr'
    · exact (h.vacated g hg claimed).receipts r' hr'
    · obtain rfl := List.mem_singleton.1 hr'
      rw [own]
      exact (h.vacated g hg claimed).payments p hp
  · obtain ⟨r', hr', owned⟩ := h.receipts id r₀ hr₀
    obtain ⟨r'', hr'', rfl⟩ := Table.grows_insert (R := Eq) (fun _ => rfl) d.receipts r id r' hr'
    exact ⟨r', hr'', owned⟩

theorem inside_payDue (q : PendingPayment) (paymentId duePaymentId : String) :
    Inside Outside (payDue q paymentId duePaymentId) d fun _ d' => Aside d d' := by
  refine .query_bind (.whenSome (fun a _ => .query_bind (.exec_bind fun valid => ?_)) fun _ => .refl d)
  have aside := aside_apply rfl valid
  exact .when (fun _ => .exec fun valid' => aside.trans (aside_apply rfl valid')) fun _ => aside

theorem inside_recordPayment (h : Kept d₀ d) (id paymentId duePaymentId : String)
    (prompt : ∀ q ∈ d.pendingPayments.find id, q.status = .pending → q.guestDueId.isSome →
      IsGuest d q.userId) :
    Inside Outside (recordPayment id paymentId duePaymentId) d fun _ d' => Kept d₀ d' := by
  refine .query_bind (.orThrow_bind fun q hq => .query_bind ?_)
  cases d.payments.findFirst fun p => p.reference = q.reference with
  | some payment => exact .ret h
  | none =>
    refine .ensure_bind fun pending => .exec_bind fun valid => ?_
    have hid := Table.find_key hq
    have kept := kept_createPayment h valid (Table.find_mem hq) rfl rfl rfl (prompt q hq pending)
    refine (inside_payDue q paymentId duePaymentId).bind fun _ d' aside => ?_
    have kept' := aside.kept kept
    refine .exec_bind fun valid' => .exec_bind fun _ => .ret ?_
    subst hid
    refine kept_completePendingPayment (p := ⟨paymentId, q.userId, q.organizationId, q.amount, q.reference,
      q.guestDueId⟩) kept' ?_ ?_ rfl
    · rw [aside.pendingPayments]
      exact hq
    · rw [aside.payments]
      refine Table.find_mem (k := paymentId) ?_
      exact (Table.find_insert (free_of_createPayment valid) _).trans (if_pos rfl)

theorem turns_generateReceipt {x : Outside} (h : Kept d₀ d) (payment : Payment) (receiptId : String) :
    Turns (generateReceipt payment receiptId) d x (fun _ d' _ => Kept d₀ d') fun d' _ => Kept d₀ d' := by
  refine .outside_bind h (.orThrow_bind h fun current hcurrent => .outside_bind h ?_)
  refine .ensure_bind h fun _ => .outside_bind h (.when (fun _ => ?_) fun _ => h)
  exact .statement (fun valid => kept_createReceipt h valid (Table.find_mem hcurrent) rfl) h

theorem turns_completePayment {x : Outside} (h : Kept d₀ d) (id paymentId duePaymentId receiptId : String)
    (prompt : ∀ q ∈ d.pendingPayments.find id, q.status = .pending → q.guestDueId.isSome →
      IsGuest d q.userId) :
    Turns (completePayment id paymentId duePaymentId receiptId) d x (fun _ d' _ => Kept d₀ d')
      fun d' _ => Kept d₀ d' := by
  refine ((inside_recordPayment h id paymentId duePaymentId prompt).turns
    (S := fun _ d' _ => Kept d₀ d') (fun _ _ kept => kept) h).bind fun payment d' x' kept => ?_
  exact .attempt (turns_generateReceipt kept payment receiptId) fun _ _ kept => kept

end Completion

end Heightt.Guests
