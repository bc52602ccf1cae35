import Heightt.Guests.Service
import Heightt.ReadCommitted.Inside

/-!
# Due records

A payment is recorded for a due when the student's assignment is paid and has
the payment's due payment. No statement undoes that, and `recordDue` does it for
a due whose assignment has no due payment yet.
-/

namespace Heightt.Guests

open Store ReadCommitted Prog Database GuestPaymentService

/-- The due that a guest paid. -/
def Payment.guestDue (p : Payment) : Option String := p.guestDueId.filter (· ≠ "")

/-- The student's assignment of the due is paid, and has a due payment of the payment. -/
def RecordedFor (d : GuestDb) (studentId dueId paymentId : String) : Prop :=
  ∃ a, d.assignmentOf dueId studentId = some a ∧ a.isPaid = true ∧
    ∃ r ∈ d.duePayments.rows, r.assignmentId = a.id ∧ r.paymentId = paymentId

/-- The student's assignment of the due, if there is one, has no due payment. -/
def Unpaid (d : GuestDb) (studentId dueId : String) : Prop :=
  ∀ a ∈ d.assignmentOf dueId studentId, ∀ r ∈ d.duePayments.rows, r.assignmentId ≠ a.id

/-- Due payments are of assignments that there are. -/
def Sited (d : GuestDb) : Prop := ∀ r ∈ d.duePayments.rows, (d.dueAssignments.find r.assignmentId).isSome

/-- The row stays and is not unpaid again. -/
def StaysPaid (a a' : DueAssignment) : Prop :=
  a'.id = a.id ∧ a'.dueId = a.dueId ∧ a'.studentId = a.studentId ∧ (a.isPaid = true → a'.isPaid = true)

theorem StaysPaid.refl (a : DueAssignment) : StaysPaid a a := ⟨rfl, rfl, rfl, id⟩

theorem staysPaid_pay (a : DueAssignment) : StaysPaid a a.pay := ⟨rfl, rfl, rfl, fun _ => rfl⟩

/-! ## What statements do to the assignment of a due -/

theorem assignmentOf_pay (d : GuestDb) (id dueId studentId : String) :
    ({ d with dueAssignments := d.dueAssignments.modify id DueAssignment.pay fun _ => rfl } :
      GuestDb).assignmentOf dueId studentId =
      (d.assignmentOf dueId studentId).map fun a => if a.id = id then a.pay else a :=
  Table.findFirst_modify _ _ DueAssignment.pay (fun _ => rfl) fun _ => rfl

theorem assignmentOf_insert {d : GuestDb} {a : DueAssignment} (free : d.dueAssignments.find a.id = none)
    (dueId studentId : String) :
    ({ d with dueAssignments := d.dueAssignments.insert a } : GuestDb).assignmentOf dueId studentId =
      (d.assignmentOf dueId studentId).or
        (if decide (a.dueId = dueId ∧ a.studentId = studentId) then some a else none) :=
  Table.findFirst_insert free _

/-- What an upsert whose constraints hold does: it pays the row, or creates it. -/
theorem upsert_cases {d : GuestDb} {a : DueAssignment}
    (valid : (GuestStmt.upsertDueAssignment a).check d = none) :
    (∃ found, d.assignmentOf a.dueId a.studentId = some found ∧
      (GuestStmt.upsertDueAssignment a).apply d =
        { d with dueAssignments := d.dueAssignments.modify found.id DueAssignment.pay fun _ => rfl }) ∨
    d.assignmentOf a.dueId a.studentId = none ∧ d.dueAssignments.find a.id = none ∧
      (GuestStmt.upsertDueAssignment a).apply d =
        { d with dueAssignments := d.dueAssignments.insert a } := by
  cases h : d.assignmentOf a.dueId a.studentId with
  | some found => exact .inl ⟨found, rfl, by simp only [GuestStmt.apply, h]⟩
  | none =>
    refine .inr ⟨rfl, ?_, by simp only [GuestStmt.apply, h]⟩
    rw [← Option.not_isSome_iff_eq_none]
    intro taken
    simp [GuestStmt.check, h, taken] at valid

/-- An assignment stays the one of its due and student. -/
theorem assignmentOf_apply {d : GuestDb} {w : GuestStmt} (valid : w.check d = none)
    {dueId studentId : String} {a : DueAssignment} (h : d.assignmentOf dueId studentId = some a) :
    ∃ a', (w.apply d).assignmentOf dueId studentId = some a' ∧ StaysPaid a a' := by
  have paid (id : String) : StaysPaid a (if a.id = id then a.pay else a) := by
    split
    · exact staysPaid_pay a
    · exact .refl a
  cases w with
  | upsertDueAssignment b =>
    obtain ⟨found, -, happly⟩ | ⟨-, free, happly⟩ := upsert_cases valid
    · rw [happly, assignmentOf_pay, h]
      exact ⟨_, rfl, paid found.id⟩
    · rw [happly, assignmentOf_insert free, h]
      exact ⟨a, rfl, .refl a⟩
  | payDueAssignment id =>
    exact ⟨_, (assignmentOf_pay d id dueId studentId).trans (congrArg _ h), paid id⟩
  | _ => exact ⟨a, h, .refl a⟩

/-- No due payment is taken away. -/
theorem duePayments_apply {d : GuestDb} {w : GuestStmt} {r : DuePayment} (h : r ∈ d.duePayments.rows) :
    r ∈ (w.apply d).duePayments.rows := by
  have old := Table.find_of_mem h
  cases w with
  | upsertDueAssignment a =>
    simp only [GuestStmt.apply]
    split <;> exact h
  | createDuePayment p =>
    obtain ⟨r', found, rfl⟩ := Table.grows_insert (R := Eq) (fun _ => rfl) d.duePayments p r.id r old
    exact Table.find_mem found
  | _ => exact h

theorem recordedFor_apply {d : GuestDb} {w : GuestStmt} (valid : w.check d = none)
    {studentId dueId paymentId : String} (h : RecordedFor d studentId dueId paymentId) :
    RecordedFor (w.apply d) studentId dueId paymentId := by
  obtain ⟨a, found, paid, r, hr, assignment, payment⟩ := h
  obtain ⟨a', found', id, -, -, paid'⟩ := assignmentOf_apply valid found
  exact ⟨a', found', paid' paid, r, duePayments_apply hr, assignment.trans id.symm, payment⟩

/-- No assignment is taken away. -/
theorem dueAssignments_apply {d : GuestDb} {w : GuestStmt} {id : String}
    (h : (d.dueAssignments.find id).isSome) : ((w.apply d).dueAssignments.find id).isSome := by
  obtain ⟨a, found⟩ := Option.isSome_iff_exists.1 h
  cases w with
  | upsertDueAssignment b =>
    simp only [GuestStmt.apply]
    split
    · exact (Table.isSome_find_modify _ _ DueAssignment.pay (fun _ => rfl) id).trans h
    · obtain ⟨a', found', -⟩ := Table.grows_insert (R := Eq) (fun _ => rfl) d.dueAssignments b id a found
      exact Option.isSome_iff_exists.2 ⟨a', found'⟩
  | payDueAssignment id' =>
    exact (Table.isSome_find_modify d.dueAssignments id' DueAssignment.pay (fun _ => rfl) id).trans h
  | _ => exact h

theorem createDuePayment_cases {d : GuestDb} {p : DuePayment}
    (valid : (GuestStmt.createDuePayment p).check d = none) :
    d.duePayments.find p.id = none ∧ (d.dueAssignments.find p.assignmentId).isSome := by
  simp only [GuestStmt.check] at valid
  split at valid
  · cases valid
  · rename_i free
    split at valid
    · rename_i present
      exact ⟨Option.not_isSome_iff_eq_none.1 fun taken => free (.inl taken), present⟩
    · cases valid

theorem sited_apply {d : GuestDb} {w : GuestStmt} (valid : w.check d = none) (h : Sited d) :
    Sited (w.apply d) := by
  intro r hr
  refine dueAssignments_apply ?_
  cases w with
  | createDuePayment p =>
    obtain ⟨free, present⟩ := createDuePayment_cases valid
    change r ∈ (d.duePayments.insert p).rows at hr
    rw [Table.insert_rows free] at hr
    rcases List.mem_append.1 hr with hr | hr
    · exact h r hr
    · obtain rfl := List.mem_singleton.1 hr
      exact present
  | upsertDueAssignment a =>
    simp only [GuestStmt.apply] at hr
    split at hr <;> exact h r hr
  | _ => exact h r hr

/-- The assignment after an upsert is paid. -/
theorem assignmentOf_upsert {d : GuestDb} {a : DueAssignment} (paid : a.isPaid = true)
    (valid : (GuestStmt.upsertDueAssignment a).check d = none) :
    ∃ a', ((GuestStmt.upsertDueAssignment a).apply d).assignmentOf a.dueId a.studentId = some a' ∧
      a'.isPaid = true := by
  obtain ⟨found, hfound, happly⟩ | ⟨absent, free, happly⟩ := upsert_cases valid
  · rw [happly, assignmentOf_pay, hfound, Option.map_some, if_pos rfl]
    exact ⟨found.pay, rfl, rfl⟩
  · rw [happly, assignmentOf_insert free, absent, if_pos (decide_eq_true ⟨rfl, rfl⟩)]
    exact ⟨a, rfl, paid⟩

/-- A new assignment has no due payment. -/
theorem unpaid_upsert {d : GuestDb} {a : DueAssignment}
    (valid : (GuestStmt.upsertDueAssignment a).check d = none) (sited : Sited d) {studentId dueId : String}
    (h : Unpaid d studentId dueId) :
    Unpaid ((GuestStmt.upsertDueAssignment a).apply d) studentId dueId := by
  obtain ⟨found, -, happly⟩ | ⟨-, free, happly⟩ := upsert_cases valid
  · rw [happly]
    intro b' hb r hr
    rw [assignmentOf_pay] at hb
    obtain ⟨b, found, rfl⟩ := Option.map_eq_some_iff.1 hb
    have old := h b found r hr
    split
    · exact old
    · exact old
  · rw [happly]
    intro b hb r hr
    rw [assignmentOf_insert free] at hb
    cases old : d.assignmentOf dueId studentId with
    | some b₀ =>
      rw [old] at hb
      cases hb
      exact h b old r hr
    | none =>
      rw [old] at hb
      obtain ⟨-, rfl⟩ : _ ∧ a = b := by simpa using hb
      intro same
      have present := sited r hr
      rw [same, free] at present
      cases present

theorem mem_assignmentOf {d : GuestDb} {dueId studentId : String} {a : DueAssignment}
    (h : d.assignmentOf dueId studentId = some a) :
    a ∈ d.dueAssignments.rows ∧ a.dueId = dueId ∧ a.studentId = studentId :=
  ⟨List.mem_of_find?_eq_some h, by simpa using List.find?_some h⟩

/-- A due payment of an assignment is of no other due. -/
theorem unpaid_createDuePayment {d : GuestDb} {p : DuePayment}
    (valid : (GuestStmt.createDuePayment p).check d = none) {studentId dueId dueId' : String}
    {a : DueAssignment} (found : d.assignmentOf dueId studentId = some a) (own : p.assignmentId = a.id)
    (other : dueId' ≠ dueId) (h : Unpaid d studentId dueId') :
    Unpaid ((GuestStmt.createDuePayment p).apply d) studentId dueId' := by
  intro b hb r hr
  change r ∈ (d.duePayments.insert p).rows at hr
  rw [Table.insert_rows (createDuePayment_cases valid).1] at hr
  rcases List.mem_append.1 hr with hr | hr
  · exact h b hb r hr
  · obtain rfl := List.mem_singleton.1 hr
    intro same
    obtain ⟨ha, hdue, -⟩ := mem_assignmentOf found
    change b ∈ d.assignmentOf dueId' studentId at hb
    obtain ⟨hb, hdue', -⟩ := mem_assignmentOf hb
    obtain rfl := Table.eq_of_key hb ha (same.symm.trans own)
    exact other (hdue'.symm.trans hdue)

/-! ## What `recordDue` does -/

/-- The due is there, in the payment's organization. -/
def DueFound (d : GuestDb) (p : Payment) (dueId : String) : Prop :=
  ∃ due ∈ d.dues.find? (fun due => due.id = dueId ∧ due.deletedAt = none),
    due.organizationId = p.organizationId

/-- From `e` to `e'`, the payment is recorded and nothing else. -/
structure RecordsDue (studentId : String) (p : Payment) (e e' : GuestDb) : Prop where
  frame : e' = { e with dueAssignments := e'.dueAssignments, duePayments := e'.duePayments }
  sited : Sited e'
  recorded : ∀ dueId ∈ p.guestDue, RecordedFor e' studentId dueId p.id
  kept : ∀ s dueId paymentId, RecordedFor e s dueId paymentId → RecordedFor e' s dueId paymentId
  unpaid : ∀ dueId, p.guestDue ≠ some dueId → Unpaid e studentId dueId → Unpaid e' studentId dueId

theorem upsert_frame (a : DueAssignment) (e : GuestDb) : (GuestStmt.upsertDueAssignment a).apply e =
    { e with dueAssignments := ((GuestStmt.upsertDueAssignment a).apply e).dueAssignments } := by
  simp only [GuestStmt.apply]
  split <;> rfl

theorem frame_duePayments {e e₁ : GuestDb} (h : e₁ = { e with dueAssignments := e₁.dueAssignments })
    (t : Table DuePayment String DuePayment.id) : { e₁ with duePayments := t } =
      { e with dueAssignments := e₁.dueAssignments, duePayments := t } := by
  conv_lhs => rw [h]

theorem inside_recordDue {e : GuestDb} {profile : StudentProfile} {p : Payment} (new : NewDueRecord)
    (sited : Sited e) (found : ∀ dueId ∈ p.guestDue, DueFound e p dueId)
    (unpaid : ∀ dueId ∈ p.guestDue, Unpaid e profile.id dueId) :
    Inside Outside (recordDue profile p new) e fun _ e' => RecordsDue profile.id p e e' := by
  refine .whenSome (fun dueId hdue => ?_) fun none_ => ?_
  · obtain ⟨due, hfound, horganization⟩ := found dueId hdue
    refine .query_bind (.whenSome (fun due' hdue' => ?_) fun absent => ?_)
    · refine .exec_bind fun valid => .query_bind (.orThrow_bind fun a ha => .query_bind ?_)
      obtain ⟨a', ha', paid⟩ := assignmentOf_upsert rfl valid
      obtain rfl : a = a' := Option.some.inj (ha.symm.trans ha')
      have still := unpaid_upsert valid sited (unpaid dueId hdue)
      have sited' := sited_apply valid sited
      refine .when (fun _ => .exec fun valid' => ?_) fun taken => absurd ?_ taken
      · refine ⟨?_, sited_apply valid' sited', fun dueId' hdue' => ?_, fun s dueId' paymentId h => ?_,
          fun dueId' other h => ?_⟩
        · exact frame_duePayments (upsert_frame _ e) _
        · obtain rfl := Option.some.inj (hdue.symm.trans hdue')
          obtain ⟨a', ha', stays⟩ := assignmentOf_apply valid' ha
          refine ⟨a', ha', stays.2.2.2 paid, ⟨new.duePaymentId, a.id, p.id, p.amount⟩, ?_, stays.1.symm, rfl⟩
          refine Table.find_mem (k := new.duePaymentId) ?_
          exact (Table.find_insert (createDuePayment_cases valid').1 _).trans (if_pos rfl)
        · exact recordedFor_apply valid' (recordedFor_apply valid h)
        · refine unpaid_createDuePayment valid' ha rfl ?_ (unpaid_upsert valid sited h)
          rintro rfl
          exact other hdue
      · refine List.find?_eq_none.2 fun r hr => ?_
        have := still a ha r hr
        simpa using this
    · rw [hfound] at absent
      simp [Option.filter, horganization] at absent
  · refine ⟨rfl, sited, fun dueId hdue => ?_, fun _ _ _ h => h, fun _ _ h => h⟩
    rw [Payment.guestDue, none_] at hdue
    cases hdue

/-- Payments of one due only once. -/
def OtherDue (p p' : Payment) : Prop := ∀ dueId ∈ p.guestDue, p'.guestDue ≠ some dueId

/-- From `e` to `e'`, those of the payments are recorded that are not in `left`,
which still can be. -/
structure RecordsDues (studentId : String) (payments : List Payment) (e : GuestDb) (left : List Payment)
    (e' : GuestDb) : Prop where
  frame : e' = { e with dueAssignments := e'.dueAssignments, duePayments := e'.duePayments }
  sited : Sited e'
  recorded : ∀ p ∈ payments, p ∈ left ∨ ∀ dueId ∈ p.guestDue, RecordedFor e' studentId dueId p.id
  kept : ∀ s dueId paymentId, RecordedFor e s dueId paymentId → RecordedFor e' s dueId paymentId
  waiting : ∀ p ∈ left, p ∈ payments ∧ ∀ dueId ∈ p.guestDue, Unpaid e' studentId dueId
  apart : left.Pairwise OtherDue
  unpaid : ∀ dueId, (∀ p ∈ payments, p.guestDue ≠ some dueId) → Unpaid e studentId dueId →
    Unpaid e' studentId dueId

theorem inside_recordDues {e : GuestDb} {profile : StudentProfile} {payments : List Payment}
    (new : (paymentId : String) → NewDueRecord) (sited : Sited e)
    (found : ∀ p ∈ payments, ∀ dueId ∈ p.guestDue, DueFound e p dueId)
    (unpaid : ∀ p ∈ payments, ∀ dueId ∈ p.guestDue, Unpaid e profile.id dueId)
    (apart : payments.Pairwise OtherDue) :
    Inside Outside (forEach payments fun p => recordDue profile p (new p.id)) e fun _ e' =>
      RecordsDues profile.id payments e [] e' := by
  refine .forEach (I := RecordsDues profile.id payments e) ?_ fun p left e₁ h => ?_
  · exact ⟨rfl, sited, fun p hp => .inl hp, fun _ _ _ h => h, fun p hp => ⟨hp, unpaid p hp⟩, apart,
      fun _ _ h => h⟩
  · obtain ⟨hp, free⟩ := h.waiting p List.mem_cons_self
    obtain ⟨others, apart⟩ := List.pairwise_cons.1 h.apart
    have dues : e₁.dues = e.dues := by rw [h.frame]
    have found₁ : ∀ dueId ∈ p.guestDue, DueFound e₁ p dueId := by
      unfold DueFound
      rw [dues]
      exact found p hp
    refine (inside_recordDue (new p.id) h.sited found₁ free).mono fun _ e' records => ?_
    refine
      { frame := ?_
        sited := records.sited
        recorded := fun p' hp' => ?_
        kept := fun s dueId paymentId hr => records.kept _ _ _ (h.kept s dueId paymentId hr)
        waiting := fun p' hp' => ?_
        apart
        unpaid := fun dueId none_ hu => records.unpaid dueId (none_ p hp) (h.unpaid dueId none_ hu) }
    · rw [records.frame, h.frame]
    · rcases h.recorded p' hp' with waiting | done
      · rcases List.mem_cons.1 waiting with rfl | waiting
        · exact .inr records.recorded
        · exact .inl waiting
      · exact .inr fun dueId hdue => records.kept _ _ _ (done dueId hdue)
    · obtain ⟨mem, free'⟩ := h.waiting p' (List.mem_cons_of_mem _ hp')
      refine ⟨mem, fun dueId hdue => records.unpaid dueId (fun same => ?_) (free' dueId hdue)⟩
      exact others p' hp' dueId same hdue

end Heightt.Guests
