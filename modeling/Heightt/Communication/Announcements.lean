import Heightt.ReadCommitted.Run
import Heightt.ReadCommitted.Statement
import Heightt.Store.Table

/-!
# Announcements and the listeners of their publication

`AnnouncementService.publishAnnouncement` and the two functions that listen to the event it
emits. A call goes on with the listeners where the service has emitted the event: the gateway's
does not wait for anything, and the errors of both stay with them.
-/

namespace Heightt.Communication

open Store ReadCommitted Prog

structure Announcement where
  id : String
  organizationId : String
  title : String
  content : String
  priority : String := "NORMAL"
  isPublished : Bool := false
  publishedAt : Option Nat := none
  deriving DecidableEq

structure Organization where
  id : String
  name : String
  deriving DecidableEq

structure Membership where
  userId : String
  organizationId : String
  /-- `membershipType` is ADMIN or STAFF. -/
  isStaff : Bool := false
  /-- `status` is ACTIVE. -/
  active : Bool := true
  deriving DecidableEq

structure Notification where
  id : String
  userId : String
  title : String
  priority : String
  /-- The announcement and the organization in its `data`. -/
  announcementId : String
  organizationId : String
  deriving DecidableEq

structure CommunicationDb where
  announcements : Table Announcement String Announcement.id := .empty
  organizations : Table Organization String Organization.id := .empty
  memberships : List Membership := []
  notifications : List Notification := []
  /-- The users with an ACTIVE PLATFORM_ADMIN record. -/
  platformAdmins : List String := []
  /-- The users whom `PermissionService` grants `communication:create` for an organization. -/
  granted : List (String × String) := []
  now : Nat := 0

inductive CommunicationError where
  | notFound (message : String)
  | badRequest (message : String)
  | forbidden (message : String)
  | recordNotFound
  | uniqueConstraint
  /-- A listener read a property of `undefined`. -/
  | typeError
  | fault
  deriving DecidableEq

inductive CommunicationStmt where
  | publish (id : String) (publishedAt : Nat)
  | createNotifications (notifications : List Notification)
  deriving DecidableEq

def Announcement.publish (publishedAt : Nat) (a : Announcement) : Announcement :=
  { a with isPublished := true, publishedAt := some publishedAt }

namespace CommunicationStmt

def apply : CommunicationStmt → CommunicationDb → CommunicationDb
  | publish id publishedAt, d =>
    { d with announcements := d.announcements.modify id (Announcement.publish publishedAt) fun _ => rfl }
  | createNotifications ns, d => { d with notifications := d.notifications ++ ns }

/-- The constraint a statement violates. -/
def check : CommunicationStmt → CommunicationDb → Option CommunicationError
  | publish id _, d => if (d.announcements.find id).isSome then none else some .recordNotFound
  | createNotifications ns, d =>
    if (ns.map Notification.id).Nodup ∧ ∀ n ∈ ns, ∀ m ∈ d.notifications, m.id ≠ n.id then none
    else some .uniqueConstraint

/-- The announcements that a statement locks. -/
def rows : CommunicationStmt → List String
  | publish id _ => [id]
  | createNotifications _ => []

end CommunicationStmt

/-- No integer column is counted here. -/
instance : Database CommunicationDb CommunicationStmt String Empty CommunicationError where
  apply := CommunicationStmt.apply
  check := CommunicationStmt.check
  rows := CommunicationStmt.rows
  value _ c := c.elim
  change _ c := c.elim
  cols _ := []
  change_of_not_mem {_ c} := c.elim
  value_apply c := c.elim

/-- What a room is told of a published announcement; a property may be `undefined`. -/
structure AnnouncementMessage where
  announcementId : Option String
  title : Option String
  content : Option String
  priority : Option String
  publishedAt : Option Nat
  deriving DecidableEq

inductive CommunicationCall where
  /-- `invalidateByTag`, `delete` and `invalidatePattern` of the announcement's entries. -/
  | invalidateAnnouncements (id : String)
  | invalidateNotifications
  | sendToOrganization (organizationId : String) (message : AnnouncementMessage)
  | sendToUsers (userIds : List String) (notifications : List Notification)
  deriving DecidableEq

def CommunicationCall.Reply : CommunicationCall → Type := fun _ => Unit

/-- What the rooms of organizations and the users were sent. -/
structure Gateway where
  rooms : List (String × AnnouncementMessage) := []
  users : List (String × List Notification) := []
  deriving DecidableEq

instance : External Gateway CommunicationCall CommunicationCall.Reply Empty where
  handle
    | .invalidateAnnouncements _, x | .invalidateNotifications, x => (x, ())
    | .sendToOrganization o message, x => ({ x with rooms := x.rooms ++ [(o, message)] }, ())
    | .sendToUsers userIds ns, x => ({ x with users := x.users ++ userIds.map fun u => (u, ns) }, ())
  move m := m.elim

abbrev CommunicationAction (α : Type) :=
  Prog CommunicationDb CommunicationStmt CommunicationCall CommunicationCall.Reply CommunicationError α

abbrev CommunicationSystem :=
  Config CommunicationDb Gateway CommunicationStmt CommunicationCall CommunicationCall.Reply CommunicationError

/-- The payload of `announcement.published`: what its listeners look for. -/
structure PublishedEvent where
  announcement : Option Announcement := none
  organization : Option Organization := none
  announcementId : Option String := none
  organizationId : Option String := none
  title : Option String := none
  content : Option String := none
  priority : Option String := none
  publishedAt : Option Nat := none
  deriving DecidableEq

namespace NotificationGateway

/-- A missing or empty organization id is no organization. -/
def handleAnnouncementPublished (data : PublishedEvent) : CommunicationAction Unit :=
  whenSome (data.organizationId.filter (· ≠ "")) fun organizationId =>
    request (C := CommunicationCall) (.sendToOrganization organizationId
      { announcementId := data.announcementId, title := data.title, content := data.content
        priority := data.priority, publishedAt := data.publishedAt })

end NotificationGateway

namespace NotificationService

/-- The saved rows are sent to the users, each of whom gets all of them. -/
def createBulkNotifications (userIds : List String) (notifications : List Notification) :
    CommunicationAction Unit := do
  statement (.createNotifications notifications)
  request (C := CommunicationCall) .invalidateNotifications
  request (C := CommunicationCall) (.sendToUsers userIds notifications)

def handleAnnouncementPublished (data : PublishedEvent) (newId : Nat → String) : CommunicationAction Unit := do
  let organization ← orThrow data.organization .typeError
  let members ← outside fun d => (d.memberships.filter fun m =>
    m.organizationId = organization.id ∧ m.active).map Membership.userId
  let announcement ← orThrow data.announcement .typeError
  createBulkNotifications members (members.mapIdx fun i userId =>
    { id := newId i, userId := userId, title := "📢 " ++ announcement.title
      priority := if announcement.priority = "" then "NORMAL" else announcement.priority
      announcementId := announcement.id, organizationId := organization.id })

end NotificationService

namespace AnnouncementService

def hasAnnouncementPermission (userId organizationId : String) : CommunicationAction Bool := do
  let isPlatformAdmin ← outside fun d => d.platformAdmins.find? (· = userId)
  if isPlatformAdmin.isSome then pure true
  else
    let membership ← outside fun d => d.memberships.find? fun m =>
      m.userId = userId ∧ m.organizationId = organizationId ∧ m.isStaff ∧ m.active
    if membership.isSome then pure true
    else outside fun d => decide ((userId, organizationId) ∈ d.granted)

/-- `include: { organization: true }` -/
def findAnnouncement (id : String) (d : CommunicationDb) : Option (Announcement × Organization) := do
  let announcement ← d.announcements.find id
  let organization ← d.organizations.find announcement.organizationId
  pure (announcement, organization)

/-- An error is logged and not thrown. -/
def invalidateAnnouncementCache (id : String) : CommunicationAction Unit :=
  attempt (request (C := CommunicationCall) (.invalidateAnnouncements id) : CommunicationAction Unit)

/-- The listeners of the event; an error of one of them is nobody else's. -/
def emit (data : PublishedEvent) (newId : Nat → String) : CommunicationAction Unit := do
  attempt (NotificationGateway.handleAnnouncementPublished data)
  attempt (NotificationService.handleAnnouncementPublished data newId)

def update (id : String) (publishedAt : Nat) : CommunicationAction (Announcement × Organization) :=
  transaction do
    exec (.publish id publishedAt)
    let published ← query (findAnnouncement id)
    orThrow published .recordNotFound

def publishAnnouncement (id userId : String) (newId : Nat → String) : CommunicationAction Unit := do
  let found ← outside (findAnnouncement id)
  let (announcement, _) ← orThrow found (.notFound "Announcement not found")
  ensure (announcement.isPublished = false) (.badRequest "Announcement is already published")
  let hasPermission ← hasAnnouncementPermission userId announcement.organizationId
  ensure (hasPermission = true) (.forbidden "You do not have permission to publish this announcement")
  let now ← query CommunicationDb.now
  let (published, organization) ← update id now
  invalidateAnnouncementCache id
  emit { announcement := some published, organization := some organization } newId

end AnnouncementService

end Heightt.Communication
