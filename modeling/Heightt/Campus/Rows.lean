import Heightt.Store.Table

/-!
# Organizations, students and sessions

The rows of an institution's academic side that the organization, approval and
promotion services read or write.
-/

namespace Heightt.Campus

open Store

inductive OrganizationType where
  | institution | faculty | department | level | association | club | religious | sports | special
  deriving DecidableEq, Repr

inductive OrganizationScope where
  | institution | faculty | department | level | crossDepartment | crossLevel | custom
  deriving DecidableEq, Repr

inductive OrganizationStatus where
  | draft | pendingActivation | active | inactive | suspended | archived
  deriving DecidableEq, Repr

inductive MembershipType where
  | member | student | admin | staff | alumni | honorary
  deriving DecidableEq, Repr

inductive MembershipStatus where
  | invited | pending | active | suspended | left | removed
  deriving DecidableEq, Repr

/-- The status of a join request and of an approval request. -/
inductive RequestStatus where
  | pending | approved | rejected
  deriving DecidableEq, Repr

inductive SessionStatus where
  | upcoming | active | completed | archived
  deriving DecidableEq, Repr

inductive SessionScope where
  | institution | faculty | department | level
  deriving DecidableEq, Repr

inductive OnboardingStep where
  | personalInfo | institution | interests | completed
  deriving DecidableEq, Repr

inductive AcademicStatus where
  | active | graduated | withdrawn | probation | suspended
  deriving DecidableEq, Repr

/-- The creation time of an organization is its place in the table. -/
structure Organization where
  id : String
  institutionId : Option String := none
  facultyId : Option String := none
  departmentId : Option String := none
  academicLevelId : Option String := none
  parentOrganizationId : Option String := none
  name : String
  slug : String
  description : Option String := none
  logo : Option String := none
  type : OrganizationType
  scope : OrganizationScope := .custom
  status : OrganizationStatus := .draft
  /-- `deletedAt` is set. -/
  isDeleted : Bool := false
  academicSessionId : Option String := none
  deriving DecidableEq

structure Membership where
  id : String
  organizationId : String
  userId : String
  membershipType : MembershipType
  status : MembershipStatus
  isPrimary : Bool := false
  joinedSessionId : Option String := none
  deriving DecidableEq

structure JoinRequest where
  id : String
  organizationId : String
  userId : String
  status : RequestStatus := .pending
  membershipType : MembershipType := .student
  deriving DecidableEq

structure ApprovalRequest where
  id : String
  entityId : String
  submittedBy : String
  status : RequestStatus := .pending
  rejectionReason : Option String := none
  deriving DecidableEq

/-- A day, and the time of it. -/
structure Date where
  year : Nat
  month : Nat
  day : Nat
  time : Nat := 0
  deriving DecidableEq

structure Institution where
  id : String
  name : String
  /-- The status is ACTIVE. -/
  isActive : Bool := true
  /-- `deletedAt` is set. -/
  isDeleted : Bool := false
  deriving DecidableEq

/-- The creation time of a session is its place in the table. -/
structure AcademicSession where
  id : String
  institutionId : String
  facultyId : Option String := none
  departmentId : Option String := none
  academicLevelId : Option String := none
  name : String
  startDate : Date
  endDate : Date
  status : SessionStatus
  scope : SessionScope := .institution
  isCurrent : Bool := false
  deriving DecidableEq

structure AcademicLevel where
  id : String
  departmentId : String
  name : String
  numericLevel : Int
  order : Int
  /-- The status is ACTIVE. -/
  isActive : Bool := true
  deriving DecidableEq

structure StudentProfile where
  id : String
  userId : String
  institutionId : String
  facultyId : String
  departmentId : String
  currentAcademicLevelId : Option String := none
  matricNumber : Option String := none
  isDirectEntry : Bool := false
  academicStatus : AcademicStatus := .active
  onboardingStep : OnboardingStep := .institution
  onboardingCompleted : Bool := false
  onboardingCompletedAt : Option Nat := none
  deriving DecidableEq

structure StudentPromotion where
  id : String
  studentId : String
  fromLevelId : String
  toLevelId : String
  sessionId : String
  promotedBy : String
  promotionDate : Nat
  notes : Option String := none
  deriving DecidableEq

structure StudentAcademicRecord where
  studentId : String
  sessionId : String
  departmentId : String
  academicLevelId : String
  status : AcademicStatus := .active
  deriving DecidableEq

/-- How many students were promoted, graduated, or left where they were. -/
structure PromotionSummary where
  promoted : Nat := 0
  graduated : Nat := 0
  skipped : Nat := 0
  deriving DecidableEq

/-- The activity log of the promotion of an institution. -/
structure InstitutionPromotionLog where
  institutionId : String
  fromSessionId : String
  toSessionId : String
  summary : PromotionSummary
  deriving DecidableEq

/-- What makes a user an operator of a promotion, or an admin of an organization. -/
structure Admin where
  userId : String
  /-- The type is PLATFORM_ADMIN. -/
  isPlatform : Bool := false
  /-- The institution of an INSTITUTION_ADMIN. -/
  institutionId : Option String := none
  organizationId : Option String := none
  isActive : Bool := true
  deriving DecidableEq

structure CampusDb where
  users : List String := []
  institutions : Table Institution String Institution.id := .empty
  organizations : Table Organization String Organization.id := .empty
  memberships : Table Membership String Membership.id := .empty
  joinRequests : Table JoinRequest String JoinRequest.id := .empty
  approvalRequests : Table ApprovalRequest String ApprovalRequest.id := .empty
  sessions : Table AcademicSession String AcademicSession.id := .empty
  levels : Table AcademicLevel String AcademicLevel.id := .empty
  students : Table StudentProfile String StudentProfile.id := .empty
  promotions : List StudentPromotion := []
  records : List StudentAcademicRecord := []
  promotionLogs : List InstitutionPromotionLog := []
  admins : List Admin := []
  /-- The user, permission key and resource that `checkPermission` answers yes to; the
  resource is empty where none is named. -/
  permissions : List (String × String × String) := []
  /-- The organizations with roles, dues, announcements or events. -/
  relatedOrganizations : List String := []
  /-- The time in milliseconds. -/
  now : Nat := 0

namespace CampusDb

def membershipOf (d : CampusDb) (organizationId userId : String) : Option Membership :=
  d.memberships.findFirst fun m => m.organizationId = organizationId ∧ m.userId = userId

def joinRequestOf (d : CampusDb) (organizationId userId : String) : Option JoinRequest :=
  d.joinRequests.findFirst fun r => r.organizationId = organizationId ∧ r.userId = userId

/-- The organization of an institution with the slug in the session. -/
def organizationBySlug (d : CampusDb) (institutionId slug academicSessionId : String) :
    Option Organization :=
  d.organizations.findFirst fun o => o.institutionId = some institutionId ∧ o.slug = slug ∧
    o.academicSessionId = some academicSessionId

end CampusDb

end Heightt.Campus
