import Heightt.Communication.Announcements
import Heightt.Segments

/-!
# Cached requests and the keys of their responses

The GET endpoints with `@Cache` of the students, communication, organizations, files and users
controllers, the key each computes and what its handler hands to the services. A value of the
query is a text or missing; a parameter that is repeated is its texts with commas between them,
in the key and, since the validation pipe turns it into a text, in the handler.
-/

namespace Heightt.Caching

open Segments

/-- `x || undefined`. -/
def given (x : Option String) : Option String := x.filter (· ≠ "")

/-- `x || d` in a template. -/
def orElse (x : Option String) (d : String) : String := (given x).getD d

/-- A missing value in a template. -/
def printed (x : Option String) : String := x.getD "undefined"

def digits (cs : List Char) : Option Int :=
  match cs.takeWhile Char.isDigit with
  | [] => none
  | ds => some (ds.foldl (fun n c => 10 * n + (c.toNat - '0'.toNat : Nat)) 0)

/-- `parseInt(text, 10)`, with `none` for NaN. -/
def parseInt (text : String) : Option Int :=
  match text.toList.dropWhile Char.isWhitespace with
  | '-' :: cs => (digits cs).map fun n => -n
  | '+' :: cs => digits cs
  | cs => digits cs

/-- `x === 'true' ? true : x === 'false' ? false : undefined`. -/
def flag (x : Option String) : Option Bool :=
  if x = some "true" then some true else if x = some "false" then some false else none

/-- A piece of a key's template. -/
inductive Part where
  /-- A fixed word, a path parameter or the user's id. -/
  | word (w : String)
  /-- A page or a limit, `${x || d}`. -/
  | number (x : Option String) (d : String)
  /-- A value that the service filters by if it is given, `${x || d}`. -/
  | filter (x : Option String) (d : String)
  /-- A value that the handler ignores or compares with words other than `d`, `${x || d}`. -/
  | choice (x : Option String) (d : String)
  /-- A value that stands as it is, `${x}`. -/
  | raw (x : Option String)
  deriving DecidableEq

def Part.print : Part → String
  | word w => w
  | number x d | filter x d | choice x d => orElse x d
  | raw x => printed x

/-- A template literal with colons between its parts. -/
def template (parts : List Part) : String := joined ':' (parts.map Part.print)

inductive Request where
  -- students.controller.ts
  | getAllStudents (page limit organizationId institutionId facultyId departmentId levelId academicSessionId status
      verificationStatus search : Option String)
  | getCurrentStudent (userId : String)
  | getStudentDashboard (userId : String)
  | getAdminDashboard (institutionId : Option String)
  | getStudentById (id : String)
  | getAcademicRecords (id : String)
  | getPromotionHistory (id : String)
  | getEligibleStudents (fromLevelId departmentId page limit : Option String)
  | getPromotionStats (institutionId : Option String)
  | getVerifications (id : String)
  -- communication.controller.ts
  | getAnnouncements (organizationId page limit isPublished type priority : Option String)
  | getAnnouncementById (id : String)
  | getNotifications (userId : String) (page limit read type : Option String)
  | getUnreadCount (userId : String)
  | getPreferences (userId : String)
  -- organizations.controller.ts
  | getAllOrganizations (page limit institutionId status type scope search parentId academicSessionId : Option String)
  | getOrganizationById (id : String)
  | getOrganizationBySlug (slug : String) (institutionId : Option String)
  | getMembers (id : String) (page limit status membershipType search : Option String)
  | getPendingJoinRequests (id : String) (page limit : Option String)
  | getOrganizationJoinRequestStats (id : String)
  | getStats (institutionId academicSessionId : Option String)
  -- files.controller.ts
  | getFiles (userId : String) (page limit purpose organizationId : Option String)
  | getFilesByPurpose (userId purpose : String) (page limit : Option String)
  | getFilesByEntity (entityType entityId : String)
  | getFileById (id : String)
  | getFileUrl (id : String) (width height : Option String)
  | getFileStats (userId : String)
  | getAllFiles (page limit userId organizationId purpose : Option String)
  -- users.controller.ts
  | checkEmailAvailability (email excludeUserId : Option String)
  | findAll (page limit email username status createdAfter createdBefore : Option String)
  | getCurrentUser (userId : String)
  | getUserStats
  | getUserSessions (userId : String)
  | findById (id : String)
  | findByEmail (email : String)
  | getUserOrganizations (userId : String)
  -- username-availability.controller.ts
  | checkUsernameAvailability (username : Option String)
  deriving DecidableEq

open Part in
/-- The template of the endpoint's key. -/
def Request.parts : Request → List Part
  | getAllStudents page limit organizationId institutionId facultyId departmentId levelId academicSessionId status
      verificationStatus search =>
    [word "students", number page "1", number limit "10", filter organizationId "all", filter institutionId "all",
      filter facultyId "all", filter departmentId "all", filter levelId "all", filter academicSessionId "all",
      filter status "all", filter verificationStatus "all", filter search "all"]
  | getCurrentStudent userId => [word "student", word "user", word userId]
  | getStudentDashboard userId => [word "student", word "dashboard", word userId]
  | getAdminDashboard institutionId => [word "students", word "admin-dashboard", filter institutionId "all"]
  | getStudentById id => [word "student", word id]
  | getAcademicRecords id => [word "student", word "academic-records", word id]
  | getPromotionHistory id => [word "student", word "promotions", word id]
  | getEligibleStudents fromLevelId departmentId page limit =>
    [word "students", word "eligible", raw fromLevelId, filter departmentId "all", number page "1",
      number limit "10"]
  | getPromotionStats institutionId => [word "promotions", word "stats", filter institutionId "all"]
  | getVerifications id => [word "student", word "verifications", word id]
  | getAnnouncements organizationId page limit isPublished type priority =>
    [word "announcements", word "v2", filter organizationId "all", number page "1", number limit "10",
      choice isPublished "all", filter type "all", filter priority "all"]
  | getAnnouncementById id => [word "announcement", word id]
  | getNotifications userId page limit read type =>
    [word "notifications", word "user", word userId, number page "1", number limit "20", choice read "all",
      filter type "all"]
  | getUnreadCount userId => [word "notifications", word "unread", word userId]
  | getPreferences userId => [word "notifications", word "preferences", word userId]
  | getAllOrganizations page limit institutionId status type scope search parentId academicSessionId =>
    [word "organizations", number page "1", number limit "10", filter institutionId "all", choice status "all",
      filter type "all", filter scope "all", filter search "all", filter parentId "all",
      filter academicSessionId "all"]
  | getOrganizationById id => [word "organization", word id]
  | getOrganizationBySlug slug institutionId =>
    [word "organization", word "slug", word slug, raw institutionId]
  | getMembers id page limit status membershipType search =>
    [word "organization", word id, word "members", number page "1", number limit "10", filter status "all",
      filter membershipType "all", filter search "all"]
  | getPendingJoinRequests id page limit =>
    [word "organization", word id, word "join-requests", word "pending", number page "1", number limit "10"]
  | getOrganizationJoinRequestStats id => [word "organization", word id, word "join-requests", word "stats"]
  | getStats institutionId academicSessionId =>
    [word "organizations", word "stats", filter institutionId "all", filter academicSessionId "all"]
  | getFiles userId page limit purpose organizationId =>
    [word "files", word "list", word userId, filter organizationId "all", filter purpose "all", number page "1",
      number limit "10"]
  | getFilesByPurpose userId purpose page limit =>
    [word "files", word "purpose", word purpose, word userId, number page "1", number limit "10"]
  | getFilesByEntity entityType entityId => [word "files", word "entity", word entityType, word entityId]
  | getFileById id => [word "file", word id]
  | getFileUrl id width height =>
    [word "file", word "url", word id, choice width "original", choice height "original"]
  | getFileStats userId => [word "files", word "stats", word userId]
  | getAllFiles page limit userId organizationId purpose =>
    [word "files", word "admin", number page "1", number limit "10", filter userId "all",
      filter organizationId "all", filter purpose "all"]
  | checkEmailAvailability email excludeUserId =>
    [word "email", word "check", raw email, filter excludeUserId "none"]
  | findAll page limit email username status createdAfter createdBefore =>
    [word "users", number page "1", number limit "10", filter email "all", filter username "all",
      filter status "all", filter createdAfter "all", filter createdBefore "all"]
  | getCurrentUser userId => [word "user", word "profile", word userId]
  | getUserStats => [word "users", word "stats"]
  | getUserSessions userId => [word "user", word "sessions", word userId]
  | findById id => [word "user", word "profile", word id]
  | findByEmail email => [word "user", word "email", word email]
  | getUserOrganizations userId => [word "user", word userId, word "organizations"]
  | checkUsernameAvailability username => [word "username", word "check", raw username]

/-- `CacheInterceptor.generateCacheKey` -/
def Request.key (r : Request) : String := template r.parts

/-- A method of a service that stores its result itself. -/
inductive ServiceRead where
  -- students.service.ts
  | getStudentById (id : String)
  | getStudentByUserId (userId : String)
  | getAcademicRecords (studentId : String)
  | getPromotionHistory (studentId : String)
  | getStudentVerifications (studentId : String)
  | getStudentDashboard (userId : String)
  | getAdminDashboard (institutionId : Option String)
  | getStudentStats (institutionId : Option String)
  -- promotion.service.ts, whose controller asks for the first ten
  | getPromotionPage (studentId : String)
  -- announcement.service.ts
  | getAnnouncementById (id : String)
  | getAnnouncementStats (organizationId : Option String)
  -- notification.service.ts
  | getPreferences (userId : String)
  -- organizations.service.ts
  | getOrganizationById (id : String)
  -- files.service.ts
  | getFileById (fileId : String)
  -- users.service.ts
  | findById (id : String)
  | findByEmail (email : String)
  | getUserStats
  | getUserSessions (userId : String)
  -- auth.service.ts
  | getCurrentUser (userId : String)
  | adminLogin (userId : String)
  | getSessions (userId : String)
  -- rbac.service.ts
  | getUserPermissions (userId : String)
  deriving DecidableEq

open Part in
def ServiceRead.parts : ServiceRead → List Part
  | getStudentById id => [word "student", word id]
  | getStudentByUserId userId => [word "student", word "user", word userId]
  | getAcademicRecords studentId => [word "student", word "academic-records", word studentId]
  | getPromotionHistory studentId => [word "student", word "promotions", word studentId]
  | getStudentVerifications studentId => [word "student", word "verifications", word studentId]
  | getStudentDashboard userId => [word "student", word "dashboard", word userId]
  | getAdminDashboard institutionId => [word "students", word "admin-dashboard", filter institutionId "all"]
  | getStudentStats institutionId => [word "students", word "stats", filter institutionId "all"]
  | getPromotionPage studentId => [word "student", word "promotions", word studentId, word "1", word "10"]
  | getAnnouncementById id => [word "announcement", word id]
  | getAnnouncementStats organizationId => [word "announcement", word "stats", filter organizationId "all"]
  | getPreferences userId => [word "notifications", word "preferences", word userId]
  | getOrganizationById id => [word "organization", word id]
  | getFileById fileId => [word "file", word fileId]
  | findById id => [word "user", word "profile", word id]
  | findByEmail email => [word "user", word "email", word email.toLower]
  | getUserStats => [word "users", word "stats"]
  | getUserSessions userId => [word "user", word "sessions", word userId]
  | getCurrentUser userId => [word "user", word "profile", word userId]
  | adminLogin userId => [word "user", word "profile", word userId]
  | getSessions userId => [word "user", word "sessions", word userId]
  | getUserPermissions userId => [word "user", word "permissions", word userId]

/-- `cacheKey` of the method. -/
def ServiceRead.key (s : ServiceRead) : String := template s.parts

end Heightt.Caching
