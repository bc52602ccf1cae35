import Heightt.Campus.Rows
import Heightt.ReadCommitted.Statement
import Heightt.ReadCommitted.Run

/-!
# Statements on organizations, students and sessions

A statement that was decided on an earlier reading carries that reading (`seen`,
`check`): it is no part of what the database is told. An `updateMany` whose count the
code insists on is refused when its row is not there.
-/

namespace Heightt.Campus

open Store ReadCommitted

/-- INSTITUTION, FACULTY, DEPARTMENT or LEVEL. -/
def OrganizationType.isAcademic : OrganizationType → Bool
  | .institution | .faculty | .department | .level => true
  | _ => false

/-- An ACTIVE membership, with the type of its organization. -/
structure ActiveMembership where
  membershipId : String
  organizationId : String
  type : OrganizationType
  deriving DecidableEq

/-- What the check for a single academic membership has read: the organization and,
unless the type or the membership is none it is about, the user's active memberships in
others. -/
structure MembershipCheck where
  organization : Organization
  elsewhere : Option (List ActiveMembership) := none
  deriving DecidableEq

/-- `organization.update`: fields left out are not written. -/
structure OrganizationPatch where
  name : Option String := none
  slug : Option String := none
  description : Option String := none
  logo : Option String := none
  type : Option OrganizationType := none
  scope : Option OrganizationScope := none
  facultyId : Option String := none
  departmentId : Option String := none
  academicLevelId : Option String := none
  academicSessionId : Option String := none
  parentOrganizationId : Option String := none
  status : Option OrganizationStatus := none
  isDeleted : Option Bool := none
  deriving DecidableEq

def OrganizationPatch.apply (p : OrganizationPatch) (o : Organization) : Organization :=
  { o with
    name := p.name.getD o.name
    slug := p.slug.getD o.slug
    description := p.description.or o.description
    logo := p.logo.or o.logo
    type := p.type.getD o.type
    scope := p.scope.getD o.scope
    facultyId := p.facultyId.or o.facultyId
    departmentId := p.departmentId.or o.departmentId
    academicLevelId := p.academicLevelId.or o.academicLevelId
    academicSessionId := p.academicSessionId.or o.academicSessionId
    parentOrganizationId := p.parentOrganizationId.or o.parentOrganizationId
    status := p.status.getD o.status
    isDeleted := p.isDeleted.getD o.isDeleted }

structure MembershipPatch where
  status : Option MembershipStatus := none
  membershipType : Option MembershipType := none
  isPrimary : Option Bool := none
  joinedSessionId : Option String := none
  deriving DecidableEq

def MembershipPatch.apply (p : MembershipPatch) (m : Membership) : Membership :=
  { m with
    status := p.status.getD m.status
    membershipType := p.membershipType.getD m.membershipType
    isPrimary := p.isPrimary.getD m.isPrimary
    joinedSessionId := p.joinedSessionId.or m.joinedSessionId }

structure StudentPatch where
  currentAcademicLevelId : Option String := none
  isDirectEntry : Option Bool := none
  academicStatus : Option AcademicStatus := none
  deriving DecidableEq

def StudentPatch.apply (p : StudentPatch) (s : StudentProfile) : StudentProfile :=
  { s with
    currentAcademicLevelId := p.currentAcademicLevelId.or s.currentAcademicLevelId
    isDirectEntry := p.isDirectEntry.getD s.isDirectEntry
    academicStatus := p.academicStatus.getD s.academicStatus }

inductive CampusError where
  | notFound (message : String)
  | badRequest (message : String)
  | forbidden (message : String)
  | conflict (message : String)
  | uniqueConstraint
  | recordNotFound
  | foreignKeyConstraint
  /-- A null for a column that takes none. -/
  | nullValue
  /-- "Failed to add user to organization", with the message of the cause. -/
  | failedToAdd (cause : CampusError)
  /-- The database or the cache failed. -/
  | fault
  deriving DecidableEq

inductive CampusStmt where
  | updateOrganization (id : String) (seen : Option Organization) (patch : OrganizationPatch)
  | deleteOrganization (id : String)
  | createMembership (membership : Membership) (check : MembershipCheck)
  | updateMembership (seen : Membership) (patch : MembershipPatch) (check : Option MembershipCheck)
  /-- The request is created, or the one the user has there gets the status. -/
  | upsertJoinRequest (request : JoinRequest)
  | updateJoinRequest (id : String) (status : RequestStatus)
  | deleteJoinRequest (id : String)
  | updateApprovalRequest (id : String) (status : RequestStatus) (rejectionReason : Option String)
  /-- The admins of an organization become active or revoked. -/
  | updateAdmins (organizationId : String) (isActive : Bool)
  | createActivityLog
  | logInstitutionPromotion (log : InstitutionPromotionLog)
  /-- The current session of the institution is completed; it must be the current one. -/
  | claimSession (id institutionId : String)
  | resumeSession (id : String)
  | createSession (session : AcademicSession)
  /-- The other sessions of the institution are no longer current. -/
  | retireSessions (institutionId other : String)
  /-- Creates the organization unless its institution, slug and session are taken. -/
  | upsertOrganization (organization : Organization)
  | updateStudent (id : String) (patch : StudentPatch)
  | createPromotion (promotion : StudentPromotion)
  | upsertRecord (record : StudentAcademicRecord)
  /-- The user leaves the institution's organizations of the session. -/
  | leaveMemberships (userId institutionId academicSessionId : String)
  /-- The membership is created, or the one the user has there becomes active in the session. -/
  | upsertMembership (membership : Membership)
  deriving DecidableEq

inductive CampusRow where
  | organization (id : String)
  | membership (id : String)
  | joinRequest (id : String)
  | approvalRequest (id : String)
  | session (id : String)
  | student (id : String)
  deriving DecidableEq

def JoinRequest.decide (status : RequestStatus) (r : JoinRequest) : JoinRequest := { r with status }

def ApprovalRequest.decide (status : RequestStatus) (rejectionReason : Option String)
    (r : ApprovalRequest) : ApprovalRequest :=
  { r with status, rejectionReason }

def AcademicSession.complete (s : AcademicSession) : AcademicSession :=
  { s with isCurrent := false, status := .completed }

def AcademicSession.resume (s : AcademicSession) : AcademicSession :=
  { s with isCurrent := true, status := .active }

def AcademicSession.retire (institutionId other : String) (s : AcademicSession) : AcademicSession :=
  if s.institutionId = institutionId ∧ s.scope = .institution ∧ s.id ≠ other ∧ s.isCurrent then
    s.complete
  else s

theorem AcademicSession.retire_id (institutionId other : String) (s : AcademicSession) :
    (s.retire institutionId other).id = s.id := by
  unfold retire
  split <;> rfl

namespace CampusDb

/-- The organization of a membership belongs to the institution and the session. -/
def inSession (d : CampusDb) (institutionId academicSessionId : String) (m : Membership) : Prop :=
  ∃ o ∈ d.organizations.find m.organizationId, o.institutionId = some institutionId ∧
    o.academicSessionId = some academicSessionId

instance (d : CampusDb) (institutionId academicSessionId : String) (m : Membership) :
    Decidable (d.inSession institutionId academicSessionId m) :=
  inferInstanceAs (Decidable (∃ o ∈ d.organizations.find m.organizationId, _))

def leave (d : CampusDb) (userId institutionId academicSessionId : String) (m : Membership) :
    Membership :=
  if m.userId = userId ∧ m.status = .active ∧ d.inSession institutionId academicSessionId m then
    { m with status := .left }
  else m

theorem leave_id (d : CampusDb) (userId institutionId academicSessionId : String) (m : Membership) :
    (d.leave userId institutionId academicSessionId m).id = m.id := by
  unfold leave
  split <;> rfl

/-- The user's ACTIVE memberships in other organizations. -/
def activeElsewhere (d : CampusDb) (userId organizationId : String) : List ActiveMembership :=
  d.memberships.rows.filterMap fun m =>
    if m.userId = userId ∧ m.status = .active ∧ m.organizationId ≠ organizationId then
      (d.organizations.find m.organizationId).map fun o => ⟨m.id, o.id, o.type⟩
    else none

end CampusDb

/-- What an upsert of a membership leaves of one that is there. -/
def Membership.rejoin (joinedSessionId : Option String) (m : Membership) : Membership :=
  { m with status := .active, joinedSessionId }

namespace CampusStmt

def apply : CampusStmt → CampusDb → CampusDb
  | updateOrganization id _ patch, d =>
    { d with organizations := d.organizations.modify id patch.apply fun _ => rfl }
  | deleteOrganization id, d => { d with organizations := d.organizations.erase id }
  | createMembership m _, d => { d with memberships := d.memberships.insert m }
  | updateMembership seen patch _, d =>
    { d with memberships := d.memberships.modify seen.id patch.apply fun _ => rfl }
  | upsertJoinRequest r, d =>
    match d.joinRequestOf r.organizationId r.userId with
    | some old =>
      { d with joinRequests := d.joinRequests.modify old.id (JoinRequest.decide r.status) fun _ => rfl }
    | none => { d with joinRequests := d.joinRequests.insert r }
  | updateJoinRequest id status, d =>
    { d with joinRequests := d.joinRequests.modify id (JoinRequest.decide status) fun _ => rfl }
  | deleteJoinRequest id, d => { d with joinRequests := d.joinRequests.erase id }
  | updateApprovalRequest id status reason, d =>
    { d with
      approvalRequests := d.approvalRequests.modify id (ApprovalRequest.decide status reason) fun _ => rfl }
  | updateAdmins organizationId isActive, d =>
    { d with
      admins := d.admins.map fun a =>
        if a.organizationId = some organizationId then { a with isActive } else a }
  | createActivityLog, d => d
  | logInstitutionPromotion log, d => { d with promotionLogs := d.promotionLogs ++ [log] }
  | claimSession id _, d => { d with sessions := d.sessions.modify id AcademicSession.complete fun _ => rfl }
  | resumeSession id, d => { d with sessions := d.sessions.modify id AcademicSession.resume fun _ => rfl }
  | createSession s, d => { d with sessions := d.sessions.insert s }
  | retireSessions institutionId other, d =>
    { d with
      sessions := d.sessions.mapRows (AcademicSession.retire institutionId other)
        (AcademicSession.retire_id institutionId other) }
  | upsertOrganization o, d =>
    if d.organizations.rows.any fun r => r.institutionId = o.institutionId ∧ r.slug = o.slug ∧
        r.academicSessionId = o.academicSessionId then d
    else { d with organizations := d.organizations.insert o }
  | updateStudent id patch, d =>
    { d with students := d.students.modify id patch.apply fun _ => rfl }
  | createPromotion p, d => { d with promotions := d.promotions ++ [p] }
  | upsertRecord r, d =>
    { d with
      records := d.records.filter (fun s => ¬(s.studentId = r.studentId ∧ s.sessionId = r.sessionId)) ++ [r] }
  | leaveMemberships userId institutionId academicSessionId, d =>
    { d with
      memberships := d.memberships.mapRows (d.leave userId institutionId academicSessionId)
        (d.leave_id userId institutionId academicSessionId) }
  | upsertMembership m, d =>
    match d.membershipOf m.organizationId m.userId with
    | some r =>
      { d with memberships := d.memberships.modify r.id (Membership.rejoin m.joinedSessionId) fun _ => rfl }
    | none => { d with memberships := d.memberships.insert m }

def unique (taken : Prop) [Decidable taken] : Option CampusError :=
  if taken then some .uniqueConstraint else none

def existing (found : Bool) : Option CampusError := if found then none else some .recordNotFound

/-- The first constraint of two that is violated. -/
def first (a b : Option CampusError) : Option CampusError := a.or b

/-- Another organization has the same institution, slug and session; nulls are never the same. -/
def SlugTaken (d : CampusDb) (o : Organization) : Prop :=
  o.institutionId.isSome ∧ o.academicSessionId.isSome ∧ ∃ r ∈ d.organizations.rows, r.id ≠ o.id ∧
    r.institutionId = o.institutionId ∧ r.slug = o.slug ∧ r.academicSessionId = o.academicSessionId

instance (d : CampusDb) (o : Organization) : Decidable (SlugTaken d o) :=
  inferInstanceAs (Decidable (_ ∧ _ ∧ ∃ r ∈ d.organizations.rows, _))

/-- The constraint a statement violates. -/
def check : CampusStmt → CampusDb → Option CampusError
  | updateOrganization id _ patch, d =>
    match d.organizations.find id with
    | none => some .recordNotFound
    | some o => unique (SlugTaken d (patch.apply o))
  | deleteOrganization id, d => existing (d.organizations.find id).isSome
  | createMembership m _, d =>
    first (unique ((d.memberships.find m.id).isSome ∨ (d.membershipOf m.organizationId m.userId).isSome))
      (if (d.organizations.find m.organizationId).isSome then none else some .foreignKeyConstraint)
  | updateMembership seen _ _, d => existing (d.memberships.find seen.id).isSome
  | upsertJoinRequest r, d =>
    first (unique ((d.joinRequests.find r.id).isSome ∧ (d.joinRequestOf r.organizationId r.userId).isNone))
      (if (d.organizations.find r.organizationId).isSome then none else some .foreignKeyConstraint)
  | updateJoinRequest id _, d => existing (d.joinRequests.find id).isSome
  | deleteJoinRequest id, d => existing (d.joinRequests.find id).isSome
  | updateApprovalRequest id _ _, d => existing (d.approvalRequests.find id).isSome
  | claimSession id institutionId, d =>
    if (d.sessions.find id).any fun s => s.institutionId = institutionId ∧ s.scope = .institution ∧
        s.isCurrent then none
    else some (.badRequest
      "This institution has already been promoted. Refresh before trying again.")
  | resumeSession id, d => existing (d.sessions.find id).isSome
  | createSession s, d =>
    unique ((d.sessions.find s.id).isSome ∨
      d.sessions.rows.any fun r => r.institutionId = s.institutionId ∧ r.name = s.name)
  | upsertOrganization o, d => unique ((d.organizations.find o.id).isSome ∧ ¬d.organizations.rows.any
      fun r => r.institutionId = o.institutionId ∧ r.slug = o.slug ∧ r.academicSessionId = o.academicSessionId)
  | updateStudent id _, d => existing (d.students.find id).isSome
  | createPromotion p, d =>
    first (unique (d.promotions.any fun q => q.id = p.id))
      (if (d.students.find p.studentId).isSome ∧ (d.levels.find p.fromLevelId).isSome ∧
          (d.levels.find p.toLevelId).isSome ∧ (d.sessions.find p.sessionId).isSome then none
        else some .foreignKeyConstraint)
  | upsertMembership m, d =>
    first (unique ((d.memberships.find m.id).isSome ∧ (d.membershipOf m.organizationId m.userId).isNone))
      (if (d.organizations.find m.organizationId).isSome then none else some .foreignKeyConstraint)
  | updateAdmins .., _ | createActivityLog, _ | logInstitutionPromotion _, _ | retireSessions .., _ | upsertRecord _, _
  | leaveMemberships .., _ => none

/-- The rows that a statement locks. -/
def rows : CampusStmt → List CampusRow
  | updateOrganization id _ _ => [.organization id]
  | deleteOrganization id => [.organization id]
  | updateMembership seen _ _ => [.membership seen.id]
  | updateJoinRequest id _ | deleteJoinRequest id => [.joinRequest id]
  | updateApprovalRequest id _ _ => [.approvalRequest id]
  | claimSession id _ | resumeSession id => [.session id]
  | updateStudent id _ => [.student id]
  | createMembership .. | upsertJoinRequest _ | updateAdmins .. | createActivityLog | logInstitutionPromotion _
  | createSession _ | retireSessions .. | upsertOrganization _ | createPromotion _ | upsertRecord _ | leaveMemberships ..
  | upsertMembership _ => []

end CampusStmt

/-- No integer column is counted here. -/
instance : Database CampusDb CampusStmt CampusRow Empty CampusError where
  apply := CampusStmt.apply
  check := CampusStmt.check
  rows := CampusStmt.rows
  value _ c := c.elim
  change _ c := c.elim
  cols _ := []
  change_of_not_mem {_ c} := c.elim
  value_apply c := c.elim

/-! ## The cache and the notifications -/

/-- Keys are dropped from the cache or stored there, users are notified, and wallets are
opened; no modelled function reads what comes of it. -/
inductive CampusCall where
  | invalidate
  | store
  | notify (userId : String)
  | openWallet (ownerId : String)
  deriving DecidableEq

def CampusCall.Reply : CampusCall → Type
  | invalidate | store | notify _ | openWallet _ => Unit

structure Surroundings where

instance : External Surroundings CampusCall CampusCall.Reply Empty where
  handle
    | .invalidate, x => (x, ())
    | .store, x => (x, ())
    | .notify _, x => (x, ())
    | .openWallet _, x => (x, ())
  move m := m.elim

abbrev CampusAction (α : Type) := Prog CampusDb CampusStmt CampusCall CampusCall.Reply CampusError α

abbrev CampusSystem := Config CampusDb Surroundings CampusStmt CampusCall CampusCall.Reply CampusError

def CacheService.invalidate : CampusAction Unit := Prog.request (C := CampusCall) .invalidate

def NotificationService.createNotification (userId : String) : CampusAction Unit :=
  Prog.request (C := CampusCall) (.notify userId)

end Heightt.Campus
