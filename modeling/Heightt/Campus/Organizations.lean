import Heightt.Campus.SessionNames

/-!
# OrganizationsService and ApprovalsService

Memberships, join requests, the status of an organization and its approval. Every
check is a reading of its own before the write.
-/

namespace Heightt.Campus

open Store ReadCommitted Prog

def OrganizationType.toLowerCase : OrganizationType → String
  | .institution => "institution"
  | .faculty => "faculty"
  | .department => "department"
  | .level => "level"
  | .association => "association"
  | .club => "club"
  | .religious => "religious"
  | .sports => "sports"
  | .special => "special"

def OrganizationStatus.name : OrganizationStatus → String
  | .draft => "DRAFT"
  | .pendingActivation => "PENDING_ACTIVATION"
  | .active => "ACTIVE"
  | .inactive => "INACTIVE"
  | .suspended => "SUSPENDED"
  | .archived => "ARCHIVED"

def RequestStatus.toLowerCase : RequestStatus → String
  | .pending => "pending"
  | .approved => "approved"
  | .rejected => "rejected"

theorem find_updateOrganization (id j : String) (seen : Option Organization) (patch : OrganizationPatch) (d : CampusDb) :
    ((CampusStmt.updateOrganization id seen patch).apply d).organizations.find j =
      if j = id then (d.organizations.find j).map patch.apply else d.organizations.find j :=
  Table.find_modify d.organizations id patch.apply (fun _ => rfl) j

/-- A text that is there and not empty. -/
def truthy (o : Option String) : Option String := o.filter fun t => t ≠ ""

/-- The text without the white space around it. -/
def trim (t : String) : String := String.ofList (trimEnd (trimStart t.toList))

structure UpdateOrganizationDto where
  name : Option String := none
  slug : Option String := none
  description : Option String := none
  logo : Option String := none
  type : Option OrganizationType := none
  scope : Option OrganizationScope := none
  facultyId : Option String := none
  departmentId : Option String := none
  academicLevelId : Option String := none
  academicSessionId : Option String := none
  status : Option OrganizationStatus := none
  deriving DecidableEq

structure AddMemberDto where
  userId : String
  membershipType : MembershipType
  status : Option MembershipStatus := none
  isPrimary : Option Bool := none
  sessionId : Option String := none
  deriving DecidableEq

structure UpdateMemberDto where
  status : Option MembershipStatus := none
  membershipType : Option MembershipType := none
  isPrimary : Option Bool := none
  deriving DecidableEq

def PermissionService.checkPermission (userId permissionKey resourceId : String) : CampusAction Bool :=
  outside fun d => d.permissions.contains (userId, permissionKey, resourceId)

namespace CampusDb

/-- The number of ACTIVE members. -/
def memberCount (d : CampusDb) (organizationId : String) : Nat :=
  d.memberships.rows.countP fun m => m.organizationId = organizationId ∧ m.status = .active

/-- The join request with its organization. -/
def requestWithOrganization (d : CampusDb) (requestId : String) : Option (JoinRequest × Organization) :=
  (d.joinRequests.find requestId).bind fun r => (d.organizations.find r.organizationId).map fun o => (r, o)

/-- The organization has children, memberships or other rows of its own. -/
def hasRelated (d : CampusDb) (id : String) : Bool :=
  (d.organizations.rows.any fun o => o.parentOrganizationId = some id) ||
    (d.memberships.rows.any fun m => m.organizationId = id) || d.relatedOrganizations.contains id

end CampusDb

namespace OrganizationsService

def validTransitions : OrganizationStatus → List OrganizationStatus
  | .draft => [.pendingActivation, .inactive]
  | .pendingActivation => [.active, .inactive, .draft]
  | .active => [.inactive, .suspended, .archived]
  | .inactive => [.active, .archived]
  | .suspended => [.active, .archived]
  | .archived => []

def validateStatusTransition (currentStatus newStatus : OrganizationStatus) : CampusAction Unit :=
  ensure (newStatus ∈ validTransitions currentStatus)
    (.badRequest ("Cannot transition from " ++ currentStatus.name ++ " to " ++ newStatus.name))

def assertSingleAcademicOrganizationMembership (userId : String) (organization : Organization)
    (membershipType : MembershipType) : CampusAction MembershipCheck :=
  if membershipType ≠ .student ∨ ¬organization.type.isAcademic then pure { organization }
  else do
    let elsewhere ← outside fun d => d.activeElsewhere userId organization.id
    ensure (¬elsewhere.any fun a => a.type = organization.type)
      (.conflict ("A student can only have one active " ++ organization.type.toLowerCase ++
        " organization membership at a time"))
    pure { organization, elsewhere := some elsewhere }

/-- A student membership needs a student profile. -/
def ensureStudentProfile (userId : String) (membershipType : MembershipType) : CampusAction Unit :=
  when (membershipType = .student) do
    let studentProfile ← outside fun d => d.students.findFirst fun s => s.userId = userId
    ensure studentProfile.isSome (.badRequest "Student profile required for student membership")

/-- The first member takes the organization out of DRAFT. -/
def leaveDraft (organization : Organization) : CampusAction Unit := do
  let memberCount ← outside fun d => d.memberCount organization.id
  when (memberCount = 1 ∧ organization.status = .draft)
    (statement (.updateOrganization organization.id (some organization) { status := some .pendingActivation }))

def addMember (organizationId : String) (dto : AddMemberDto) (newId : String) : CampusAction Unit := do
  let organization ← outside fun d => d.organizations.find organizationId
  let organization ← orThrow organization (.notFound "Organization not found")
  let user ← outside fun d => d.users.find? fun u => u = dto.userId
  let _ ← orThrow user (.notFound "User not found")
  let sessionId := (truthy dto.sessionId).or organization.academicSessionId
  whenSome (truthy sessionId) fun id => do
    let session ← outside fun d => d.sessions.find id
    let session ← orThrow session (.notFound "Academic session not found")
    ensure (some session.institutionId = organization.institutionId)
      (.badRequest "Academic session must belong to the same institution as the organization")
  let existing ← outside fun d => d.membershipOf organizationId dto.userId
  ensure existing.isNone (.conflict "User is already a member of this organization")
  ensureStudentProfile dto.userId dto.membershipType
  let check ← assertSingleAcademicOrganizationMembership dto.userId organization dto.membershipType
  statement (.createMembership
    { id := newId, organizationId, userId := dto.userId, membershipType := dto.membershipType,
      status := dto.status.getD .pending, isPrimary := dto.isPrimary.getD false, joinedSessionId := sessionId }
    check)
  leaveDraft organization
  statement .createActivityLog
  CacheService.invalidate

def updateMember (organizationId membershipId : String) (dto : UpdateMemberDto) : CampusAction Unit := do
  let membership ← outside fun d => d.memberships.findFirst fun m =>
    m.id = membershipId ∧ m.organizationId = organizationId
  let membership ← orThrow membership (.notFound "Membership not found")
  let resultingStatus := dto.status.getD membership.status
  let resultingMembershipType := dto.membershipType.getD membership.membershipType
  let check ← if resultingStatus = .active ∧ resultingMembershipType = .student then do
      let organization ← outside fun d => d.organizations.find organizationId
      let organization ← orThrow organization (.notFound "Organization not found")
      let check ← assertSingleAcademicOrganizationMembership membership.userId organization
        resultingMembershipType
      pure (some check)
    else pure none
  statement (.updateMembership membership
    { status := dto.status, membershipType := dto.membershipType, isPrimary := dto.isPrimary } check)
  statement .createActivityLog
  CacheService.invalidate

def requestToJoin (userId organizationId : String) (membershipType : Option MembershipType)
    (newId newRequestId : String) : CampusAction Unit := do
  let organization ← outside fun d => d.organizations.find organizationId
  let organization ← orThrow organization (.notFound "Organization not found")
  let membershipType := membershipType.getD (if organization.institutionId.isSome then .student else .member)
  ensure (organization.status = .active ∨ organization.status = .draft)
    (.badRequest "Organization is not active and cannot accept new members")
  let user ← outside fun d => d.users.find? fun u => u = userId
  let _ ← orThrow user (.notFound "User not found")
  let existingMembership ← outside fun d => d.membershipOf organizationId userId
  ensure existingMembership.isNone (.conflict "User is already a member of this organization")
  let existingRequest ← outside fun d => d.joinRequestOf organizationId userId
  whenSome existingRequest fun r => do
    ensure (r.status ≠ .pending)
      (.conflict "You already have a pending join request for this organization")
    ensure (r.status ≠ .approved)
      (.conflict "You have already been approved to join this organization")
    statement (.deleteJoinRequest r.id)
  ensureStudentProfile userId membershipType
  let check ← assertSingleAcademicOrganizationMembership userId organization membershipType
  statement (.createMembership
    { id := newId, organizationId, userId, membershipType, status := .active,
      joinedSessionId := organization.academicSessionId } check)
  statement (.upsertJoinRequest
    { id := newRequestId, organizationId, userId, status := .approved, membershipType })
  when (organization.status = .draft) (leaveDraft organization)
  statement .createActivityLog
  CacheService.invalidate

/-- The member of an approved join request. -/
def addRequested (request : JoinRequest) (organization : Organization) (newId : String) :
    CampusAction Unit := do
  let check ← assertSingleAcademicOrganizationMembership request.userId organization
    request.membershipType
  statement (.createMembership
    { id := newId, organizationId := request.organizationId, userId := request.userId,
      membershipType := request.membershipType, status := .active,
      joinedSessionId := organization.academicSessionId } check)
  leaveDraft organization
  statement .createActivityLog

def reviewJoinRequest (requestId adminUserId : String) (status : RequestStatus) (newId : String) :
    CampusAction Unit := do
  let joinRequest ← outside fun d => d.requestWithOrganization requestId
  let joinRequest ← orThrow joinRequest (.notFound "Join request not found")
  ensure (joinRequest.1.status = .pending)
    (.badRequest ("Request has already been " ++ joinRequest.1.status.toLowerCase))
  let hasPermission ← PermissionService.checkPermission adminUserId "organization:manage_members"
    joinRequest.1.organizationId
  ensure hasPermission (.forbidden "You do not have permission to review join requests")
  statement (.updateJoinRequest requestId status)
  if status = .approved then
    onThrow (addRequested joinRequest.1 joinRequest.2 newId) fun e => do
      statement (.updateJoinRequest requestId .pending)
      Prog.throw (.failedToAdd e)
  else statement .createActivityLog
  CacheService.invalidate

def updateOrganization (id userId : String) (dto : UpdateOrganizationDto) : CampusAction Unit := do
  let organization ← outside fun d => d.organizations.find id
  let organization ← orThrow organization (.notFound "Organization not found")
  let canUpdate ← PermissionService.checkPermission userId "organization:update" id
  ensure canUpdate (.forbidden "You do not have permission to update this organization")
  whenSome (truthy dto.slug) fun slug => when (slug ≠ organization.slug) do
    let existingSlug ← outside fun d => d.organizations.findFirst fun o =>
      o.institutionId = organization.institutionId ∧ o.slug = slug ∧
        o.academicSessionId = (truthy dto.academicSessionId).or organization.academicSessionId ∧ o.id ≠ id
    ensure existingSlug.isNone (.conflict "Slug already exists in this institution for this session")
  whenSome (truthy dto.academicSessionId) fun sessionId =>
    when (some sessionId ≠ organization.academicSessionId) do
      let session ← outside fun d => d.sessions.find sessionId
      let session ← orThrow session (.notFound "Academic session not found")
      ensure (some session.institutionId = organization.institutionId)
        (.badRequest "Academic session must belong to the same institution")
  whenSome dto.status fun status => validateStatusTransition organization.status status
  statement (.updateOrganization id (some organization)
    { name := dto.name, slug := dto.slug, description := dto.description, logo := dto.logo, type := dto.type,
      scope := dto.scope, facultyId := dto.facultyId, departmentId := dto.departmentId,
      academicLevelId := dto.academicLevelId, academicSessionId := dto.academicSessionId,
      status := dto.status })
  CacheService.invalidate
  statement .createActivityLog

def activateOrganization (id : String) : CampusAction Unit := do
  let organization ← outside fun d => (d.organizations.find id).map fun o => (o, d.memberCount id)
  let organization ← orThrow organization (.notFound "Organization not found")
  ensure (organization.1.status ≠ .active) (.badRequest "Organization is already active")
  ensure (organization.2 ≠ 0) (.badRequest "Organization needs at least one active member to activate")
  statement (.updateOrganization id (some organization.1) { status := some .active })
  statement .createActivityLog
  CacheService.invalidate

def archiveOrganization (id : String) : CampusAction Unit := do
  let organization ← outside fun d => d.organizations.find id
  let organization ← orThrow organization (.notFound "Organization not found")
  ensure (organization.status ≠ .archived) (.badRequest "Organization is already archived")
  statement (.updateOrganization id (some organization) { status := some .archived })
  statement .createActivityLog
  CacheService.invalidate

def deleteOrganization (id userId : String) : CampusAction Unit := do
  let organization ← outside fun d => (d.organizations.find id).map fun o => (o, d.hasRelated id)
  let organization ← orThrow organization (.notFound "Organization not found")
  let isPlatformAdmin ← PermissionService.checkPermission userId "organization:delete" ""
  ensure isPlatformAdmin (.forbidden "Only platform admins can delete organizations")
  ensure (¬organization.2)
    (.badRequest "Cannot delete organization with existing related data. Archive instead.")
  statement (.deleteOrganization id)
  CacheService.invalidate
  statement .createActivityLog

end OrganizationsService

/-- The decision of a review. -/
inductive ReviewStatus where
  | approved | rejected
  deriving DecidableEq, Repr

def ReviewStatus.request : ReviewStatus → RequestStatus
  | .approved => .approved
  | .rejected => .rejected

namespace ApprovalsService

def approvedState : OrganizationPatch := { status := some .active }

def rejectedState : OrganizationPatch := { status := some .archived, isDeleted := some true }

/-- What the organization becomes. -/
def states : ReviewStatus → OrganizationPatch
  | .approved => approvedState
  | .rejected => rejectedState

def review (id : String) (status : ReviewStatus) (rejectionReason : Option String) : CampusAction Unit := do
  let request ← outside fun d => d.approvalRequests.find id
  let request ← orThrow request (.notFound "Approval request not found")
  ensure (request.status = .pending) (.badRequest "Approval request has already been reviewed")
  ensure (¬(status = .rejected ∧ trim (rejectionReason.getD "") = ""))
    (.badRequest "A rejection reason is required")
  transaction do
    exec (.updateOrganization request.entityId none (states status))
    exec (.updateAdmins request.entityId (status = .approved))
    exec (.updateApprovalRequest id status.request
      (if status = .rejected then rejectionReason.map trim else none))
  let creator ← outside fun d => d.users.find? fun u => u = request.submittedBy
  whenSome creator NotificationService.createNotification

end ApprovalsService

end Heightt.Campus
