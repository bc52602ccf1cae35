import Heightt.Caching.Requests

/-!
# What the handlers return without the cache

A handler hands what it read from the request to a method of a service. `Reading` is that call, with
the filters the method ignores already gone. What announcements it returns is computed here, and
`read` stands for every other query of the database.
-/

namespace Heightt.Caching

open Store

/-- A call of a service's method, with `none` for what it does not filter by. -/
inductive Reading where
  | students (page limit : Option Int) (organizationId institutionId facultyId departmentId levelId
      academicSessionId status verificationStatus search : Option String)
  | student (id : String)
  | studentOfUser (userId : String)
  | studentDashboard (userId : String)
  | adminDashboard (institutionId : Option String)
  | studentStats (institutionId : Option String)
  | academicRecords (studentId : String)
  /-- `PromotionService.getPromotionHistory` -/
  | promotionPage (studentId : String) (page limit : Int)
  /-- `StudentsService.getPromotionHistory` -/
  | promotionHistory (studentId : String)
  | verifications (studentId : String)
  | eligibleStudents (fromLevelId departmentId : Option String) (page limit : Option Int)
  | promotionStats (institutionId : Option String)
  | announcements (organizationId : Option String) (page limit : Option Int) (isPublished : Option Bool)
      (type priority : Option String)
  | announcement (id : String)
  | announcementStats (organizationId : Option String)
  | notifications (userId : String) (page limit : Option Int) (read : Option Bool) (type : Option String)
  | unreadCount (userId : String)
  | preferences (userId : String)
  | organizations (page limit : Option Int) (institutionId type scope search parentId
      academicSessionId : Option String)
  | organization (id : String)
  | organizationBySlug (slug : String) (institutionId : Option String)
  | members (organizationId : String) (page limit : Option Int) (status membershipType search : Option String)
  | pendingJoinRequests (organizationId : String) (page limit : Option Int)
  | joinRequestStats (organizationId : String)
  | organizationStats (institutionId academicSessionId : Option String)
  | files (userId : String) (organizationId purpose : Option String) (page limit : Option Int)
  | filesByEntity (entityType entityId : String)
  | file (id : String)
  | fileUrl (id : String) (width height : Option String)
  | fileStats (userId : String)
  | allFiles (userId organizationId purpose : Option String) (page limit : Option Int)
  | emailAvailability (email excludeUserId : Option String)
  | usernameAvailability (rawUsername : Option String)
  | users (page limit : Option Int) (email username status createdAfter createdBefore : Option String)
  | user (id : String)
  | userByEmail (email : String)
  | userStats
  | sessions (userId : String)
  | userOrganizations (userId : String)
  | permissions (userId : String)
  /-- The profile with admin scopes that `AuthService.getCurrentUser` returns. -/
  | authProfile (userId : String)
  /-- The profile with an access token that `AuthService.adminLogin` returns. -/
  | adminProfile (userId : String)
  deriving DecidableEq

/-- A query's page or limit, with the default that stands for a missing one. -/
def paging (x : Option String) (d : String) : Option Int := parseInt (x.getD d)

/-- A width or height that changes the URL. The pipe has made a number of it, and the word that the
key has for a missing one is NaN. -/
def dimension (x : Option String) : Option String := (given x).filter (· ≠ "original")

def Request.reading : Request → Reading
  | getAllStudents page limit organizationId institutionId facultyId departmentId levelId academicSessionId status
      verificationStatus search =>
    .students (paging page "1") (paging limit "10") (given organizationId) (given institutionId) (given facultyId)
      (given departmentId) (given levelId) (given academicSessionId) (given status) (given verificationStatus)
      (given search)
  | getCurrentStudent userId => .studentOfUser userId
  | getStudentDashboard userId => .studentDashboard userId
  | getAdminDashboard institutionId => .adminDashboard (given institutionId)
  | getStudentById id => .student id
  | getAcademicRecords id => .academicRecords id
  | getPromotionHistory id => .promotionPage id 1 10
  | getEligibleStudents fromLevelId departmentId page limit =>
    .eligibleStudents fromLevelId (given departmentId) (paging page "1") (paging limit "10")
  | getPromotionStats institutionId => .promotionStats (given institutionId)
  | getVerifications id => .verifications id
  | getAnnouncements organizationId page limit isPublished type priority =>
    .announcements (given organizationId) (paging page "1") (paging limit "10") (flag isPublished) (given type)
      (given priority)
  | getAnnouncementById id => .announcement id
  | getNotifications userId page limit read type =>
    .notifications userId (paging page "1") (paging limit "20") (flag read) (given type)
  | getUnreadCount userId => .unreadCount userId
  | getPreferences userId => .preferences userId
  | getAllOrganizations page limit institutionId _ type scope search parentId academicSessionId =>
    -- The service lists the ACTIVE organizations whatever status is asked for.
    .organizations (paging page "1") (paging limit "10") (given institutionId) (given type) (given scope)
      (given search) (given parentId) (given academicSessionId)
  | getOrganizationById id => .organization id
  | getOrganizationBySlug slug institutionId => .organizationBySlug slug (given institutionId)
  | getMembers id page limit status membershipType search =>
    .members id (paging page "1") (paging limit "10") (given status) (given membershipType) (given search)
  | getPendingJoinRequests id page limit => .pendingJoinRequests id (paging page "1") (paging limit "10")
  | getOrganizationJoinRequestStats id => .joinRequestStats id
  | getStats institutionId academicSessionId =>
    .organizationStats (given institutionId) (given academicSessionId)
  | getFiles userId page limit purpose organizationId =>
    .files userId (given organizationId) (given purpose) (paging page "1") (paging limit "10")
  | getFilesByPurpose userId purpose page limit =>
    .files userId none (given (some purpose)) (paging page "1") (paging limit "10")
  | getFilesByEntity entityType entityId => .filesByEntity entityType entityId
  | getFileById id => .file id
  | getFileUrl id width height => .fileUrl id (dimension width) (dimension height)
  | getFileStats userId => .fileStats userId
  | getAllFiles page limit userId organizationId purpose =>
    .allFiles (given userId) (given organizationId) (given purpose) (paging page "1") (paging limit "10")
  | checkEmailAvailability email excludeUserId => .emailAvailability email (given excludeUserId)
  | findAll page limit email username status createdAfter createdBefore =>
    .users (paging page "1") (paging limit "10") (given email) (given username) (given status) (given createdAfter)
      (given createdBefore)
  | getCurrentUser userId => .user userId
  | getUserStats => .userStats
  | getUserSessions userId => .sessions userId
  | findById id => .user id
  | findByEmail email => .userByEmail email.toLower
  | getUserOrganizations userId => .userOrganizations userId
  | checkUsernameAvailability username => .usernameAvailability username

def ServiceRead.reading : ServiceRead → Reading
  | getStudentById id => .student id
  | getStudentByUserId userId => .studentOfUser userId
  | getAcademicRecords studentId => .academicRecords studentId
  | getPromotionHistory studentId => .promotionHistory studentId
  | getStudentVerifications studentId => .verifications studentId
  | getStudentDashboard userId => .studentDashboard userId
  | getAdminDashboard institutionId => .adminDashboard (given institutionId)
  | getStudentStats institutionId => .studentStats (given institutionId)
  | getPromotionPage studentId => .promotionPage studentId 1 10
  | getAnnouncementById id => .announcement id
  | getAnnouncementStats organizationId => .announcementStats (given organizationId)
  | getPreferences userId => .preferences userId
  | getOrganizationById id => .organization id
  | getFileById fileId => .file fileId
  | findById id => .user id
  | findByEmail email => .userByEmail email.toLower
  | getUserStats => .userStats
  | getUserSessions userId => .sessions userId
  | getCurrentUser userId => .authProfile userId
  | adminLogin userId => .adminProfile userId
  | getSessions userId => .sessions userId
  | getUserPermissions userId => .permissions userId

structure Announcement extends Communication.Announcement where
  expiresAt : Option Nat := none
  deriving DecidableEq

structure AnnouncementRead where
  announcementId : String
  userId : String
  deriving DecidableEq

structure Database (R : Type) where
  announcements : Table Announcement String (fun a => a.id) := .empty
  announcementReads : List AnnouncementRead := []
  now : Nat := 0
  /-- All other tables. -/
  rest : R

structure HttpError where
  status : Nat
  message : String
  deriving DecidableEq

inductive Body (V : Type) where
  | announcement (row : Announcement) (reads : List AnnouncementRead) (isExpired : Bool)
  | announcementStats (total published drafts totalReads engagementRate : Nat)
  | other (value : V)
  deriving DecidableEq

/-- `announcement.expiresAt && announcement.expiresAt < new Date()` -/
def Announcement.expired (a : Announcement) (now : Nat) : Bool := a.expiresAt.any (· < now)

/-- The handler says that an announcement is expired; the row that its service stores does not. -/
def Body.dated {V : Type} (now : Nat) : Body V → Body V
  | announcement row reads _ => announcement row reads (row.expired now)
  | body => body

section

variable {R V : Type} (read : Database R → Reading → Except HttpError V) (d : Database R)

/-- `AnnouncementService.getAnnouncementStats`, with the rate rounded half up. -/
def announcementStats (organizationId : Option String) : Body V :=
  let rows := d.announcements.rows.filter fun a => organizationId.all (a.organizationId = ·)
  let published := rows.countP (·.isPublished)
  let reads := d.announcementReads.countP fun r => rows.any (·.id = r.announcementId)
  .announcementStats rows.length published (rows.countP fun a => !a.isPublished) reads
    (if 0 < published then (20 * reads + published) / (2 * published) else 0)

/-- What the service's method returns and, if it stores something, stores. -/
def answer : Reading → Except HttpError (Body V)
  | .announcement id =>
    match d.announcements.find id with
    | none => .error ⟨404, "Announcement not found"⟩
    | some row => .ok (.announcement row (d.announcementReads.filter (·.announcementId = id)) false)
  | .announcementStats organizationId => .ok (announcementStats d organizationId)
  | r => (read d r).map Body.other

/-- The response of the request's handler without the cache. -/
def response : Request → Except HttpError (Body V)
  | .getAnnouncementById id => (answer read d (.announcement id)).map (Body.dated d.now)
  | r => answer read d r.reading

end

end Heightt.Caching
