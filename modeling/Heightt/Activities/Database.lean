import Heightt.ReadCommitted.Statement
import Heightt.ReadCommitted.Run
import Heightt.Store.Table
import Mathlib.Algebra.Field.Rat

/-!
# Activities and their registrations

The rows that registrations read or write, and their statements. A registration
takes the places that were asked for; the table does not store them, and no
function reads them (`places`).
-/

namespace Heightt.Activities

open Store ReadCommitted

inductive EventStatus where
  | draft | published | cancelled | completed
  deriving DecidableEq, Repr

inductive RegistrationStatus where
  | pending | confirmed | cancelled | waiting
  deriving DecidableEq, Repr

/-- An activity. -/
structure Event where
  id : String
  organizationId : Option String := none
  startDate : Nat
  capacity : Option Int := none
  isFree : Bool := true
  price : Option Int := some 0
  status : EventStatus := .draft
  deriving DecidableEq

structure EventRegistration where
  id : String
  eventId : String
  userId : String
  ticketPurchaseId : Option String := none
  status : RegistrationStatus := .pending
  /-- The places that were asked for. -/
  places : ℚ := 1
  deriving DecidableEq

structure Ticket where
  id : String
  eventId : String
  code : String
  price : Int
  deriving DecidableEq

inductive TicketStatus where
  | pending | paid | cancelled | refunded
  deriving DecidableEq, Repr

/-- A purchase of tickets. -/
structure TicketPurchase where
  id : String
  userId : String
  ticketId : String
  amount : ℚ
  status : TicketStatus := .pending
  deriving DecidableEq

structure Attendance where
  id : String
  registrationId : String
  checkedInAt : Nat
  checkedOutAt : Option Nat := none
  deriving DecidableEq

/-- An ACTIVE membership. -/
structure Membership where
  userId : String
  organizationId : String
  /-- `membershipType` is ADMIN or STAFF. -/
  isStaff : Bool := false
  deriving DecidableEq

structure ActivityDb where
  events : List Event := []
  registrations : Table EventRegistration String EventRegistration.id := .empty
  tickets : List Ticket := []
  ticketPurchases : List TicketPurchase := []
  attendances : Table Attendance String Attendance.id := .empty
  memberships : List Membership := []
  /-- The users with an ACTIVE PLATFORM_ADMIN record. -/
  platformAdmins : List String := []
  /-- The time in milliseconds. -/
  now : Nat := 0

inductive ActivityError where
  | notFound (message : String)
  | badRequest (message : String)
  | forbidden (message : String)
  | conflict (message : String)
  | uniqueConstraint
  | recordNotFound
  | foreignKeyConstraint
  /-- The database, the cache or the notification service failed. -/
  | fault
  deriving DecidableEq

inductive ActivityStmt where
  /-- `counted` confirmed registrations were found, if the event has a capacity. -/
  | createRegistration (registration : EventRegistration) (counted : Option Nat)
  | createTickets (tickets : List Ticket)
  | createTicketPurchase (purchase : TicketPurchase)
  | updateRegistration (id : String) (status : RegistrationStatus)
  | createAttendance (attendance : Attendance)
  | updateAttendance (id : String) (checkedOutAt : Nat)
  /-- Time passes. -/
  | tick (ms : Nat)
  deriving DecidableEq

inductive ActivityRow where
  | registration (id : String)
  | registered (eventId userId : String)
  | ticketCode (code : String)
  | attended (registrationId : String)
  | attendance (id : String)
  deriving DecidableEq

def EventRegistration.withStatus (status : RegistrationStatus) (r : EventRegistration) :
    EventRegistration := { r with status }

namespace ActivityDb

def findEvent (d : ActivityDb) (id : String) : Option Event := d.events.find? fun e => e.id = id

def countConfirmed (d : ActivityDb) (eventId : String) : Nat :=
  (d.registrations.rows.filter fun r => r.eventId = eventId ∧ r.status = .confirmed).length

/-- The places that a registration takes at an event. -/
def placesAt (eventId : String) (r : EventRegistration) : ℚ :=
  if r.eventId = eventId ∧ r.status = .confirmed then r.places else 0

/-- The places that the confirmed registrations of an event take. -/
def placesTaken (d : ActivityDb) (eventId : String) : ℚ :=
  (d.registrations.rows.map (placesAt eventId)).sum

end ActivityDb

namespace ActivityStmt

def apply : ActivityStmt → ActivityDb → ActivityDb
  | createRegistration r _, d => { d with registrations := d.registrations.insert r }
  | createTickets ts, d => { d with tickets := d.tickets ++ ts }
  | createTicketPurchase p, d => { d with ticketPurchases := d.ticketPurchases ++ [p] }
  | updateRegistration id status, d =>
    { d with registrations := d.registrations.modify id (.withStatus status) fun _ => rfl }
  | createAttendance a, d => { d with attendances := d.attendances.insert a }
  | updateAttendance id checkedOutAt, d =>
    { d with
      attendances := d.attendances.modify id
        (fun a => { a with checkedOutAt := some checkedOutAt }) fun _ => rfl }
  | tick ms, d => { d with now := d.now + ms }

/-- The constraint a statement violates. -/
def check : ActivityStmt → ActivityDb → Option ActivityError
  | createRegistration r _, d =>
    if (d.registrations.find r.id).isSome ∨
        d.registrations.rows.any (fun s => s.eventId = r.eventId ∧ s.userId = r.userId) then
      some .uniqueConstraint
    else if (d.findEvent r.eventId).isSome then none else some .foreignKeyConstraint
  | createTickets ts, d =>
    if (d.tickets ++ ts).map Ticket.id |>.Nodup then
      if (d.tickets ++ ts).map Ticket.code |>.Nodup then none else some .uniqueConstraint
    else some .uniqueConstraint
  | createTicketPurchase p, d =>
    if d.ticketPurchases.any fun q => q.id = p.id ∨ q.ticketId = p.ticketId then some .uniqueConstraint
    else if p.ticketId ∈ d.tickets.map Ticket.id then none else some .foreignKeyConstraint
  | updateRegistration id _, d =>
    if (d.registrations.find id).isSome then none else some .recordNotFound
  | createAttendance a, d =>
    if (d.attendances.find a.id).isSome ∨ d.attendances.rows.any (fun b => b.registrationId = a.registrationId) then
      some .uniqueConstraint
    else if (d.registrations.find a.registrationId).isSome then none else some .foreignKeyConstraint
  | updateAttendance id _, d =>
    if (d.attendances.find id).isSome then none else some .recordNotFound
  | tick _, _ => none

/-- The rows and unique-index entries that a statement locks. -/
def rows : ActivityStmt → List ActivityRow
  | createRegistration r _ => [.registration r.id, .registered r.eventId r.userId]
  | createTickets ts => ts.map fun t => .ticketCode t.code
  | updateRegistration id _ => [.registration id]
  | createAttendance a => [.attended a.registrationId]
  | updateAttendance id _ => [.attendance id]
  | createTicketPurchase _ | tick _ => []

end ActivityStmt

/-- No integer column is counted here. -/
instance : Database ActivityDb ActivityStmt ActivityRow Empty ActivityError where
  apply := ActivityStmt.apply
  check := ActivityStmt.check
  rows := ActivityStmt.rows
  value _ c := c.elim
  change _ c := c.elim
  cols _ := []
  change_of_not_mem {_ c} := c.elim
  value_apply c := c.elim

end Heightt.Activities
