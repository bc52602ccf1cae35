import Heightt.Activities.Database

/-!
# ActivitiesService

Registration for activities. The capacity and an earlier registration are looked
up before the transaction that creates the new one.
-/

namespace Heightt.Activities

open Store ReadCommitted Prog

/-- The cache and the notification service. -/
inductive ActivityCall where
  | invalidateByTag (tag : String)
  | delete (key : String)
  | createNotification (userId title : String)
  deriving DecidableEq

def ActivityCall.Reply : ActivityCall → Type
  | invalidateByTag _ | delete _ | createNotification .. => Unit

/-- No modelled function reads what these services hold. -/
structure Outside where

instance : External Outside ActivityCall ActivityCall.Reply Empty where
  handle
    | .invalidateByTag _, x | .delete _, x | .createNotification .., x => (x, ())
  move m := m.elim

abbrev ActivityAction (α : Type) :=
  Prog ActivityDb ActivityStmt ActivityCall ActivityCall.Reply ActivityError α

abbrev ActivitySystem :=
  Config ActivityDb Outside ActivityStmt ActivityCall ActivityCall.Reply ActivityError

/-- `quantity` is optional, and at least 1. -/
structure RegisterActivityDto where
  quantity : Option ℚ := none
  min : ∀ q ∈ quantity, 1 ≤ q := by simp

/-- The identifiers and ticket codes that a registration gets. -/
structure NewRegistration where
  id : String
  ticketId : Nat → String
  ticketCode : Nat → String
  purchaseId : String

namespace ActivitiesService

def invalidateRegistrationCaches (activityId : String) : ActivityAction Unit :=
  attempt do
    request (C := ActivityCall) (.invalidateByTag "registrations")
    request (C := ActivityCall) (.invalidateByTag "activities")
    request (C := ActivityCall) (.delete ("activity:" ++ activityId))

def createNotification (userId title : String) : ActivityAction Unit :=
  request (C := ActivityCall) (.createNotification userId title)

/-- `dto.quantity || 1` -/
def quantity (dto : RegisterActivityDto) : ℚ :=
  if dto.quantity.getD 0 = 0 then 1 else dto.quantity.getD 0

/-- `Number(activity.price) || 0` -/
def ticketPrice (activity : Event) : Int := activity.price.getD 0

/-- The row that a registration creates. -/
def registrationRow (activity : Event) (userId : String) (dto : RegisterActivityDto)
    (new : NewRegistration) : EventRegistration where
  id := new.id
  eventId := activity.id
  userId := userId
  status := if activity.isFree then .confirmed else .pending
  places := quantity dto

def ticketRows (activity : Event) (dto : RegisterActivityDto) (new : NewRegistration) : List Ticket :=
  (List.range (quantity dto).floor.toNat).map fun i =>
    { id := new.ticketId i, eventId := activity.id, code := new.ticketCode i, price := ticketPrice activity }

/-- The tickets of a paid activity, and the purchase of the first. -/
def createTickets (activity : Event) (userId : String) (dto : RegisterActivityDto) (new : NewRegistration) :
    ActivityAction Unit := do
  let createdTickets := ticketRows activity dto new
  exec (.createTickets createdTickets)
  whenSome createdTickets.head? fun ticket =>
    exec (.createTicketPurchase
      { id := new.purchaseId, userId, ticketId := ticket.id, amount := ticketPrice activity * quantity dto })

/-- The confirmed registrations are counted if the activity has a capacity. -/
def checkCapacity (activity : Event) (dto : RegisterActivityDto) : ActivityAction (Option Nat) :=
  match activity.capacity.filter (· ≠ 0) with
  | some capacity => do
    let confirmedRegistrations ← outside fun d => d.countConfirmed activity.id
    ensure (confirmedRegistrations + quantity dto ≤ capacity) (.badRequest "Activity is at full capacity")
    pure (some confirmedRegistrations)
  | none => pure none

def registerForActivity (userId activityId : String) (dto : RegisterActivityDto) (new : NewRegistration) :
    ActivityAction Unit := do
  let found ← outside fun d => d.findEvent activityId
  let activity ← orThrow found (.notFound "Activity not found")
  ensure (activity.status = .published) (.badRequest "Activity is not open for registration")
  let now ← query ActivityDb.now
  ensure (now ≤ activity.startDate) (.badRequest "Activity has already started")
  let counted ← checkCapacity activity dto
  let existing ← outside fun d => d.registrations.findFirst fun r =>
    r.eventId = activityId ∧ r.userId = userId ∧ r.status ≠ .cancelled
  ensure existing.isNone (.conflict "You are already registered for this activity")
  transaction do
    exec (.createRegistration (registrationRow activity userId dto new) counted)
    when (activity.isFree = false ∧ 0 < ticketPrice activity) (createTickets activity userId dto new)
  invalidateRegistrationCaches activityId
  createNotification userId
    (if activity.isFree then "🎉 Activity Registration Confirmed!" else "⏳ Registration Pending Payment")

/-- Whether the user is ADMIN or STAFF of the activity's organization, or an admin of the
platform; an activity without an organization takes the staff of any. -/
def manages (userId : String) (activity : Event) : ActivityAction Bool := do
  let membership ← outside fun d => d.memberships.find? fun m => m.userId = userId ∧
    (activity.organizationId.filter (· ≠ "")).all (m.organizationId = ·) ∧ m.isStaff = true
  let isPlatformAdmin ← outside fun d => d.platformAdmins.find? (· = userId)
  pure (membership.isSome || isPlatformAdmin.isSome)

def findRegistration (registrationId : String) : ActivityAction (EventRegistration × Event) := do
  let found ← outside fun d => do
    let registration ← d.registrations.find registrationId
    let event ← d.findEvent registration.eventId
    pure (registration, event)
  orThrow found (.notFound "Registration not found")

def confirmRegistration (registrationId userId : String) : ActivityAction Unit := do
  let (registration, event) ← findRegistration registrationId
  let permitted ← manages userId event
  ensure (permitted = true ∨ registration.userId = userId)
    (.forbidden "You do not have permission to confirm this registration")
  ensure (registration.status ≠ .confirmed) (.badRequest "Registration is already confirmed")
  statement (.updateRegistration registrationId .confirmed)
  invalidateRegistrationCaches registration.eventId
  createNotification registration.userId "✅ Registration Confirmed!"

def cancelRegistration (registrationId userId : String) : ActivityAction Unit := do
  let (registration, event) ← findRegistration registrationId
  when (registration.userId ≠ userId) do
    let permitted ← manages userId event
    ensure (permitted = true) (.forbidden "You do not have permission to cancel this registration")
  ensure (registration.status ≠ .cancelled) (.badRequest "Registration is already cancelled")
  statement (.updateRegistration registrationId .cancelled)
  invalidateRegistrationCaches registration.eventId

def invalidateAttendanceCaches (activityId : String) : ActivityAction Unit :=
  attempt do
    request (C := ActivityCall) (.invalidateByTag "attendance")
    request (C := ActivityCall) (.invalidateByTag "activity-stats")
    request (C := ActivityCall) (.invalidateByTag "activities")
    request (C := ActivityCall) (.delete ("activity:" ++ activityId))

def checkInAttendee (registrationId userId newId : String) : ActivityAction Unit := do
  let (registration, event) ← findRegistration registrationId
  let permitted ← manages userId event
  ensure (permitted = true) (.forbidden "You do not have permission to check in attendees")
  ensure (registration.status = .confirmed) (.badRequest "Registration is not confirmed")
  let now ← query ActivityDb.now
  statement (.createAttendance { id := newId, registrationId, checkedInAt := now })
  invalidateAttendanceCaches registration.eventId

def findAttendance (attendanceId : String) : ActivityAction (EventRegistration × Event) := do
  let found ← outside fun d => do
    let attendance ← d.attendances.find attendanceId
    let registration ← d.registrations.find attendance.registrationId
    let event ← d.findEvent registration.eventId
    pure (registration, event)
  orThrow found (.notFound "Attendance record not found")

def checkOutAttendee (attendanceId userId : String) : ActivityAction Unit := do
  let (registration, event) ← findAttendance attendanceId
  let permitted ← manages userId event
  ensure (permitted = true) (.forbidden "You do not have permission to check out attendees")
  let now ← query ActivityDb.now
  statement (.updateAttendance attendanceId now)
  invalidateAttendanceCaches registration.eventId

end ActivitiesService

end Heightt.Activities
