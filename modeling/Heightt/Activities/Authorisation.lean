import Heightt.Activities.Service
import Heightt.ReadCommitted.InTurn
import Heightt.ReadCommitted.Guarantee

/-!
# Who may act on a registration

Registrations are confirmed and attendees checked in and out by the staff of the
activity's organization and by admins of the platform; a registration may also be
cancelled by the registrant. Each operation looks the permission up for itself,
and an activity without an organization turns its filter off.
-/

namespace Heightt.Activities

open Store ReadCommitted Prog ActivitiesService

/-- An operation on a registration or an attendance. -/
inductive RegistrationOp where
  | confirmRegistration (registrationId : String)
  | cancelRegistration (registrationId : String)
  | checkInAttendee (registrationId newId : String)
  | checkOutAttendee (attendanceId : String)
  deriving DecidableEq

namespace RegistrationOp

def program (userId : String) : RegistrationOp → ActivityAction Unit
  | confirmRegistration registrationId => ActivitiesService.confirmRegistration registrationId userId
  | cancelRegistration registrationId => ActivitiesService.cancelRegistration registrationId userId
  | checkInAttendee registrationId newId => ActivitiesService.checkInAttendee registrationId userId newId
  | checkOutAttendee attendanceId => ActivitiesService.checkOutAttendee attendanceId userId

/-- The registration that the operation is about. -/
def registration (d : ActivityDb) : RegistrationOp → Option EventRegistration
  | confirmRegistration id | cancelRegistration id | checkInAttendee id _ => d.registrations.find id
  | checkOutAttendee id => (d.attendances.find id).bind fun a => d.registrations.find a.registrationId

end RegistrationOp

/-! ## Authorisation -/

/-- The user is an ACTIVE ADMIN or STAFF member of the organization. -/
def StaffOf (d : ActivityDb) (userId organizationId : String) : Prop :=
  ∃ m ∈ d.memberships, m.userId = userId ∧ m.organizationId = organizationId ∧ m.isStaff = true

/-- The organization of an event; an empty identifier names none. -/
def Event.organization (event : Event) : Option String := event.organizationId.filter (· ≠ "")

/-- The user is staff of the event's own organization, or an admin of the platform. -/
def Authorised (d : ActivityDb) (userId : String) (event : Event) : Prop :=
  (∃ organizationId ∈ event.organization, StaffOf d userId organizationId) ∨ userId ∈ d.platformAdmins

/-- The ticket purchase of the registration is paid. -/
def PaidFor (d : ActivityDb) (r : EventRegistration) : Prop :=
  ∃ p ∈ d.ticketPurchases, r.ticketPurchaseId = some p.id ∧ p.status = .paid

/-- The registrant's own call for a paid event whose registration is PENDING. -/
def OwnUnsettled (userId : String) (r : EventRegistration) (event : Event) : Prop :=
  r.userId = userId ∧ event.isFree = false ∧ r.status = .pending

/-- Who may do the operation, and when. -/
def RegistrationOp.Permitted (d : ActivityDb) (userId : String) (r : EventRegistration) (event : Event) :
    RegistrationOp → Prop
  | confirmRegistration _ => Authorised d userId event ∧ (OwnUnsettled userId r event → PaidFor d r)
  | cancelRegistration _ => Authorised d userId event ∨ r.userId = userId
  | checkInAttendee .. | checkOutAttendee _ => Authorised d userId event

/-- The permission that was looked up is about the event's own organization, and a
registrant who confirms has it and has nothing to pay. -/
def RegistrationOp.LooksUpOwn (d : ActivityDb) (userId : String) (r : EventRegistration) (event : Event) :
    RegistrationOp → Prop
  | confirmRegistration _ =>
    (userId ∈ d.platformAdmins ∨ event.organization.isSome ∧
      (r.userId = userId → ∀ organizationId ∈ event.organization, StaffOf d userId organizationId)) ∧
      (OwnUnsettled userId r event → PaidFor d r)
  | cancelRegistration _ => r.userId = userId ∨ userId ∈ d.platformAdmins ∨ event.organization.isSome
  | checkInAttendee .. | checkOutAttendee _ => userId ∈ d.platformAdmins ∨ event.organization.isSome

/-! ## What an operation checks -/

/-- The lookup of `manages`. -/
def Manages (d : ActivityDb) (userId : String) (event : Event) : Prop :=
  (∃ m ∈ d.memberships, m.userId = userId ∧
    (∀ organizationId ∈ event.organization, m.organizationId = organizationId) ∧ m.isStaff = true) ∨
  userId ∈ d.platformAdmins

/-- What an operation that succeeds has found. -/
def RegistrationOp.Checked (d : ActivityDb) (userId : String) (r : EventRegistration) (event : Event) :
    RegistrationOp → Prop
  | confirmRegistration _ | cancelRegistration _ => Manages d userId event ∨ r.userId = userId
  | checkInAttendee .. | checkOutAttendee _ => Manages d userId event

theorem manages_of_organization {d : ActivityDb} {userId : String} {event : Event}
    (h : event.organization.isSome = true) : Manages d userId event ↔ Authorised d userId event := by
  obtain ⟨organizationId, own⟩ := Option.isSome_iff_exists.1 h
  unfold Manages Authorised
  rw [own]
  refine or_congr_left ⟨?_, ?_⟩
  · rintro ⟨m, hm, user, member, staff⟩
    exact ⟨organizationId, rfl, m, hm, user, member organizationId rfl, staff⟩
  · rintro ⟨o, ho, m, hm, user, member, staff⟩
    cases ho
    refine ⟨m, hm, user, fun o' ho' => ?_, staff⟩
    cases ho'
    exact member

/-- An event without an organization is managed by the staff of any, who are not authorised. -/
theorem not_authorised_of_none {d : ActivityDb} {userId : String} {event : Event}
    (none : ¬event.organization.isSome = true) (other : userId ∉ d.platformAdmins) :
    ¬Authorised d userId event := by
  rintro (⟨organizationId, own, -⟩ | admin)
  · exact none (Option.isSome_iff_exists.2 ⟨organizationId, own⟩)
  · exact other admin

section

variable {d : ActivityDb} {x : Outside} {β : Type} {S : β → ActivityDb → Outside → Prop}

theorem turns_findRegistration_bind {registrationId : String}
    {f : EventRegistration × Event → ActivityAction β}
    (hf : ∀ r event, d.registrations.find registrationId = some r → d.findEvent r.eventId = some event →
      Turns (f (r, event)) d x S fun _ _ => True) :
    Turns ((findRegistration registrationId).bind f) d x S fun _ _ => True := by
  unfold findRegistration
  rw [bind_eq, Prog.bind_assoc]
  refine .outside_bind trivial (.orThrow_bind trivial fun found h => ?_)
  obtain ⟨r, hr, h⟩ := Option.bind_eq_some_iff.1 h
  obtain ⟨event, hevent, h⟩ := Option.bind_eq_some_iff.1 h
  cases h
  exact hf r event hr hevent

theorem turns_findAttendance_bind {attendanceId : String} {f : EventRegistration × Event → ActivityAction β}
    (hf : ∀ a r event, d.attendances.find attendanceId = some a →
      d.registrations.find a.registrationId = some r → d.findEvent r.eventId = some event →
      Turns (f (r, event)) d x S fun _ _ => True) :
    Turns ((findAttendance attendanceId).bind f) d x S fun _ _ => True := by
  unfold findAttendance
  rw [bind_eq, Prog.bind_assoc]
  refine .outside_bind trivial (.orThrow_bind trivial fun found h => ?_)
  obtain ⟨a, ha, h⟩ := Option.bind_eq_some_iff.1 h
  obtain ⟨r, hr, h⟩ := Option.bind_eq_some_iff.1 h
  obtain ⟨event, hevent, h⟩ := Option.bind_eq_some_iff.1 h
  cases h
  exact hf a r event ha hr hevent

theorem turns_manages_bind {userId : String} {event : Event} {f : Bool → ActivityAction β}
    (hf : ∀ permitted, (permitted = true ↔ Manages d userId event) → Turns (f permitted) d x S fun _ _ => True) :
    Turns ((manages userId event).bind f) d x S fun _ _ => True := by
  unfold manages
  simp only [bind_eq, Prog.bind_assoc]
  refine .outside_bind trivial (.outside_bind trivial (hf _ ?_))
  have own (m : Membership) : (event.organizationId.filter (· ≠ "")).all (m.organizationId = ·) = true ↔
      ∀ organizationId ∈ event.organization, m.organizationId = organizationId := by
    unfold Event.organization
    cases event.organizationId.filter (· ≠ "") <;> simp
  rw [Bool.or_eq_true, List.find?_isSome, List.find?_isSome]
  simp only [decide_eq_true_eq, own, exists_eq_right, Manages]

theorem turns_request {P : Prop} (hP : P) (c : ActivityCall) :
    Turns (request c : ActivityAction c.Reply) d x (fun _ _ _ => P) fun _ _ => True :=
  .request (c := c) hP trivial trivial

theorem turns_invalidateRegistrationCaches {P : Prop} (hP : P) (activityId : String) :
    Turns (invalidateRegistrationCaches activityId) d x (fun _ _ _ => P) fun _ _ => True :=
  .attempt (T := fun _ _ => True) (.bind (turns_request hP (.invalidateByTag _)) fun _ _ _ _ =>
    .bind (turns_request hP (.invalidateByTag _)) fun _ _ _ _ => turns_request hP (.delete _)) fun _ _ _ => hP

theorem turns_invalidateAttendanceCaches {P : Prop} (hP : P) (activityId : String) :
    Turns (invalidateAttendanceCaches activityId) d x (fun _ _ _ => P) fun _ _ => True :=
  .attempt (T := fun _ _ => True) (.bind (turns_request hP (.invalidateByTag _)) fun _ _ _ _ =>
    .bind (turns_request hP (.invalidateByTag _)) fun _ _ _ _ => .bind (turns_request hP (.invalidateByTag _)) fun _ _ _ _ =>
      turns_request hP (.delete _)) fun _ _ _ => hP

end

/-- An operation that succeeds has found its registration and event, and passed its check. -/
def RegistrationOp.Passes (d : ActivityDb) (userId : String) (op : RegistrationOp) : Prop :=
  ∃ r event, op.registration d = some r ∧ d.findEvent r.eventId = some event ∧ op.Checked d userId r event

theorem turns_registrationOp (d : ActivityDb) (x : Outside) (userId : String) (op : RegistrationOp) :
    Turns (op.program userId) d x (fun _ _ _ => op.Passes d userId) fun _ _ => True := by
  cases op with
  | confirmRegistration id =>
    refine turns_findRegistration_bind fun r event hr hevent => turns_manages_bind fun permitted h =>
      .ensure_bind trivial fun allowed => .ensure_bind trivial fun _ => ?_
    have passes : RegistrationOp.Passes d userId (.confirmRegistration id) :=
      ⟨r, event, hr, hevent, allowed.imp_left h.1⟩
    exact .bind (S := fun _ _ _ => True) (.statement (fun _ => trivial) trivial) fun _ _ _ _ =>
      .bind (turns_invalidateRegistrationCaches passes _) fun _ _ _ passes =>
        turns_request passes (.createNotification _ _)
  | cancelRegistration id =>
    refine turns_findRegistration_bind fun r event hr hevent => ?_
    refine .bind (S := fun _ _ _ => Manages d userId event ∨ r.userId = userId) (.when (fun _ => ?_) fun own =>
      .inr (not_not.1 own)) fun _ _ _ checked => .ensure_bind trivial fun _ =>
        .bind (S := fun _ _ _ => True) (.statement (fun _ => trivial) trivial) fun _ _ _ _ =>
          turns_invalidateRegistrationCaches ⟨r, event, hr, hevent, checked⟩ _
    refine turns_manages_bind fun permitted h => ?_
    unfold ensure
    split
    · rename_i allowed
      exact .ret (.inl (h.1 allowed))
    · exact .throw trivial
  | checkInAttendee id newId =>
    refine turns_findRegistration_bind fun r event hr hevent => turns_manages_bind fun permitted h =>
      .ensure_bind trivial fun allowed => .ensure_bind trivial fun _ => .query_bind trivial ?_
    exact .bind (S := fun _ _ _ => True) (.statement (fun _ => trivial) trivial) fun _ _ _ _ =>
      turns_invalidateAttendanceCaches ⟨r, event, hr, hevent, h.1 allowed⟩ _
  | checkOutAttendee id =>
    refine turns_findAttendance_bind fun a r event ha hr hevent => turns_manages_bind fun permitted h =>
      .ensure_bind trivial fun allowed => .query_bind trivial ?_
    have found : RegistrationOp.registration d (.checkOutAttendee id) = some r :=
      Option.bind_eq_some_iff.2 ⟨a, ha, hr⟩
    exact .bind (S := fun _ _ _ => True) (.statement (fun _ => trivial) trivial) fun _ _ _ _ =>
      turns_invalidateAttendanceCaches ⟨r, event, found, hevent, h.1 allowed⟩ _

/-- A check that has passed is a permission exactly if it was about the event's own organization. -/
theorem permitted_iff_looksUpOwn {d : ActivityDb} {userId : String} {r : EventRegistration} {event : Event}
    {op : RegistrationOp} (checked : op.Checked d userId r event) :
    op.Permitted d userId r event ↔ op.LooksUpOwn d userId r event := by
  have authorised (manages : Manages d userId event) :
      Authorised d userId event ↔ userId ∈ d.platformAdmins ∨ event.organization.isSome := by
    by_cases admin : userId ∈ d.platformAdmins
    · exact iff_of_true (.inr admin) (.inl admin)
    by_cases own : event.organization.isSome = true
    · exact iff_of_true ((manages_of_organization own).1 manages) (.inr own)
    · exact iff_of_false (not_authorised_of_none own admin) (by simp [admin, own])
  cases op with
  | confirmRegistration id =>
    refine and_congr_left fun _ => ?_
    by_cases own : r.userId = userId
    · unfold Authorised
      cases event.organization <;> simp [own, or_comm]
    · have h := authorised (checked.resolve_right own)
      simp only [own, false_implies, and_true]
      exact h
  | cancelRegistration id =>
    by_cases own : r.userId = userId
    · exact iff_of_true (.inr own) (.inl own)
    · have h := authorised (checked.resolve_right own)
      simp only [RegistrationOp.Permitted, RegistrationOp.LooksUpOwn, own, or_false, false_or]
      exact h
  | checkInAttendee _ _ => exact authorised checked
  | checkOutAttendee _ => exact authorised checked

/-- **Authorisation of events**: an operation that succeeds is permitted to its user
exactly if the permission that it looked up is about the event's own organization. -/
theorem registration_op_permitted {d : ActivityDb} {x : Outside} {userId : String} {op : RegistrationOp}
    {o : Outcome ActivityDb Outside ActivityStmt ActivityError Unit} (ends : (op.program userId).Ends [] d x o)
    (succeeds : o.result = .ok ()) :
    ∃ r event, op.registration d = some r ∧ d.findEvent r.eventId = some event ∧
      (op.Permitted d userId r event ↔ op.LooksUpOwn d userId r event) := by
  obtain ⟨-, post⟩ := turns_registrationOp d x userId op o ends
  rw [succeeds] at post
  obtain ⟨r, event, hr, hevent, checked⟩ := post
  exact ⟨r, event, hr, hevent, permitted_iff_looksUpOwn checked⟩

/-! ## One paid event -/

/-- A paid event of organization `o`, with a registration of `u` that is PENDING, and staff `s`. -/
def paidEvent : ActivityDb where
  events := [{ id := "e", organizationId := some "o", startDate := 0, isFree := false, price := some 5000 }]
  registrations := Table.empty.insert { id := "r", eventId := "e", userId := "u" }
  memberships := [{ userId := "s", organizationId := "o", isStaff := true }]

theorem confirmed_by (userId : String) (permitted : userId = "s" ∨ userId = "u") :
    ∃ o, ((RegistrationOp.confirmRegistration "r").program userId).Ends [] paidEvent ({} : Outside) o ∧
      o.result = .ok () := by
  obtain ⟨o, ho, succeeds⟩ : ∃ o ∈ ((RegistrationOp.confirmRegistration "r").program userId).alone []
      paidEvent ({} : Outside), o.result.toOption = some () := by
    rcases permitted with rfl | rfl <;> decide +kernel
  refine ⟨o, Prog.ends_of_alone ho, ?_⟩
  obtain ⟨result, frames, e, x⟩ := o
  cases result with
  | error e => cases succeeds
  | ok a => rfl

/-- The staff confirm the registration, as they may. -/
theorem registration_op_permitted_staff : ∃ r event,
    (RegistrationOp.confirmRegistration "r").registration paidEvent = some r ∧
    paidEvent.findEvent r.eventId = some event ∧
    ((RegistrationOp.confirmRegistration "r").Permitted paidEvent "s" r event ↔
      (RegistrationOp.confirmRegistration "r").LooksUpOwn paidEvent "s" r event) := by
  obtain ⟨o, ends, succeeds⟩ := confirmed_by "s" (.inl rfl)
  exact registration_op_permitted ends succeeds

/-- The registrant confirms the registration without having paid. -/
theorem registrant_confirms_unpaid : ∃ o r event,
    ((RegistrationOp.confirmRegistration "r").program "u").Ends [] paidEvent ({} : Outside) o ∧
    o.result = .ok () ∧ (RegistrationOp.confirmRegistration "r").registration paidEvent = some r ∧
    paidEvent.findEvent r.eventId = some event ∧ OwnUnsettled "u" r event ∧ ¬PaidFor paidEvent r ∧
    ¬Authorised paidEvent "u" event := by
  obtain ⟨o, ends, succeeds⟩ := confirmed_by "u" (.inr rfl)
  refine ⟨o, _, _, ends, succeeds, rfl, rfl, ⟨rfl, rfl, rfl⟩, ?_, ?_⟩
  · rintro ⟨p, hp, -⟩
    cases hp
  · rintro (⟨organizationId, own, m, hm, user, -⟩ | admin)
    · obtain rfl := List.mem_singleton.1 hm
      exact absurd user (by decide)
    · cases admin

end Heightt.Activities
