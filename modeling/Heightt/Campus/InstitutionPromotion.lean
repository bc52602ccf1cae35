import Heightt.Campus.SessionNames
import Mathlib.Data.List.Sort
import Mathlib.Data.Prod.Lex
import Mathlib.Data.String.Basic

/-!
# PromotionService: a whole institution

`promoteInstitution` closes the current session, opens the next one, copies the
session's organizations into it and moves every student one level up, all in one
transaction. What it goes by was read before.
-/

namespace Heightt.Campus

open Store ReadCommitted Prog

structure PromoteInstitutionDto where
  currentSessionId : String
  notes : Option String := none
  deriving DecidableEq

/-- The identifiers of the rows that a run creates, each for what it is created for. -/
structure NewIds where
  session : String
  organization (oldId : String) : String
  promotion (studentId : String) : String
  membership (studentId destinationId : String) : String

/-- What the loops of a run go by. -/
structure InstitutionRun where
  institutionId : String
  userId : String
  notes : Option String
  currentSession : AcademicSession
  nextSession : AcademicSession
  /-- By department, and in the department by their order. -/
  levels : List AcademicLevel
  now : Nat
  ids : NewIds

structure PreviousMembership where
  membership : Membership
  organization : Organization
  deriving DecidableEq

/-- The new organizations by the identifiers of those they were copied from. -/
abbrev NewOrganizationsByOldId := List (String × Organization)

def PromotionSummary.promote (a : PromotionSummary) : PromotionSummary := { a with promoted := a.promoted + 1 }

def PromotionSummary.graduate (a : PromotionSummary) : PromotionSummary :=
  { a with graduated := a.graduated + 1 }

def PromotionSummary.skip (a : PromotionSummary) : PromotionSummary := { a with skipped := a.skipped + 1 }

/-- Where a membership of the student goes: from a LEVEL organization to one of the
next level, else to the copy. -/
def destination (orgs : NewOrganizationsByOldId) (s : StudentProfile) (nextLevelId : String)
    (p : PreviousMembership) : Option Organization :=
  if p.organization.type = .level then
    (orgs.map Prod.snd).find? fun o => o.type = .level ∧ o.academicLevelId = some nextLevelId ∧
      o.departmentId = some s.departmentId
  else orgs.lookup p.membership.organizationId

namespace InstitutionRun

variable (run : InstitutionRun)

/-- The levels of a department in their order. -/
def departmentLevels (departmentId : String) : List AcademicLevel :=
  run.levels.filter fun l => l.departmentId = departmentId

/-- The copy of an organization for the next session. -/
def copy (o : Organization) : Organization where
  id := run.ids.organization o.id
  institutionId := some run.institutionId
  facultyId := o.facultyId
  departmentId := o.departmentId
  academicLevelId := o.academicLevelId
  name := replaceFirst o.name run.currentSession.name run.nextSession.name
  slug := nextSlug run.currentSession.name run.nextSession.name o.slug
  description := o.description.map fun t => replaceFirst t run.currentSession.name run.nextSession.name
  logo := o.logo
  type := o.type
  scope := o.scope
  status := o.status
  academicSessionId := some run.nextSession.id

def promotion (s : StudentProfile) (fromLevelId toLevelId : String) : StudentPromotion where
  id := run.ids.promotion s.id
  studentId := s.id
  fromLevelId := fromLevelId
  toLevelId := toLevelId
  sessionId := run.nextSession.id
  promotedBy := run.userId
  promotionDate := run.now
  notes := if run.notes.getD "" = "" then some ("Institution promotion to " ++ run.nextSession.name)
    else run.notes

def record (s : StudentProfile) (levelId : String) : StudentAcademicRecord where
  studentId := s.id
  sessionId := run.nextSession.id
  departmentId := s.departmentId
  academicLevelId := levelId

/-- The membership in the destination, if the user has none there. -/
def joined (s : StudentProfile) (p : PreviousMembership) (destination : Organization) : Membership where
  id := run.ids.membership s.id destination.id
  organizationId := destination.id
  userId := s.userId
  membershipType := p.membership.membershipType
  status := .active
  isPrimary := p.membership.isPrimary
  joinedSessionId := some run.nextSession.id

end InstitutionRun

/-- The user's ACTIVE memberships in the organizations of a session. -/
def CampusDb.previousMemberships (d : CampusDb) (userId academicSessionId : String) :
    List PreviousMembership :=
  d.memberships.rows.filterMap fun m =>
    if m.userId = userId ∧ m.status = .active then
      ((d.organizations.find m.organizationId).filter fun o =>
        o.academicSessionId = some academicSessionId).map fun o => ⟨m, o⟩
    else none

/-- By department, and in the department by the order. -/
def AcademicLevel.le (a b : AcademicLevel) : Prop :=
  toLex (a.departmentId, a.order) ≤ toLex (b.departmentId, b.order)

instance (a b : AcademicLevel) : Decidable (a.le b) :=
  inferInstanceAs (Decidable (toLex (a.departmentId, a.order) ≤ toLex (b.departmentId, b.order)))

namespace PromotionService

/-- The row of the next session where there is none yet. -/
def newSession (institutionId name newId : String) (currentSession : AcademicSession) : AcademicSession where
  id := newId
  institutionId := institutionId
  name := name
  startDate := addYears currentSession.startDate 1
  endDate := addYears currentSession.endDate 1
  status := .active
  isCurrent := true

def openNextSession (existingNextSession : Option AcademicSession) (created : AcademicSession) :
    CampusAction AcademicSession :=
  match existingNextSession with
  | some existing => do
    exec (.resumeSession existing.id)
    let updated ← query fun d => d.sessions.find existing.id
    orThrow updated .recordNotFound
  | none => do
    exec (.createSession created)
    pure created

def cloneOrganization (run : InstitutionRun) (o : Organization) : CampusAction Organization := do
  exec (.upsertOrganization (run.copy o))
  let created ← query fun d =>
    d.organizationBySlug run.institutionId (run.copy o).slug run.nextSession.id
  orThrow created .recordNotFound

def cloneOrganizations (run : InstitutionRun) : List Organization → CampusAction NewOrganizationsByOldId
  | [] => pure []
  | o :: os => do
    let created ← cloneOrganization run o
    let rest ← cloneOrganizations run os
    pure ((o.id, created) :: rest)

def setParent (orgs : NewOrganizationsByOldId) (o : Organization) : CampusAction Unit :=
  whenSome o.parentOrganizationId fun parentId =>
    whenSome (orgs.lookup o.id) fun created =>
      whenSome (orgs.lookup parentId) fun parent =>
        exec (.updateOrganization created.id none { parentOrganizationId := some parent.id })

def moveMemberships (run : InstitutionRun) (orgs : NewOrganizationsByOldId) (s : StudentProfile)
    (nextLevelId : String) : CampusAction Unit := do
  let previousMemberships ← query fun d => d.previousMemberships s.userId run.currentSession.id
  exec (.leaveMemberships s.userId run.institutionId run.currentSession.id)
  forEach previousMemberships fun p =>
    whenSome (destination orgs s nextLevelId p) fun destination =>
      exec (.upsertMembership (run.joined s p destination))

/-- One student of the loop, with the counts so far. -/
def advanceStudent (run : InstitutionRun) (orgs : NewOrganizationsByOldId) (summary : PromotionSummary)
    (s : StudentProfile) : CampusAction PromotionSummary :=
  match s.currentAcademicLevelId with
  | none => pure summary.skip
  | some levelId =>
    match (run.departmentLevels s.departmentId).findIdx? fun l => l.id = levelId with
    | none => pure summary.skip
    | some currentIndex =>
      match (run.departmentLevels s.departmentId)[currentIndex + 1]? with
      | none => do
        exec (.updateStudent s.id { academicStatus := some .graduated })
        pure summary.graduate
      | some nextLevel => do
        exec (.createPromotion (run.promotion s levelId nextLevel.id))
        exec (.updateStudent s.id { currentAcademicLevelId := some nextLevel.id, isDirectEntry := some false })
        exec (.upsertRecord (run.record s nextLevel.id))
        moveMemberships run orgs s nextLevel.id
        pure summary.promote

def advanceStudents (run : InstitutionRun) (orgs : NewOrganizationsByOldId) :
    PromotionSummary → List StudentProfile → CampusAction PromotionSummary
  | summary, [] => pure summary
  | summary, s :: ss => do
    let summary ← advanceStudent run orgs summary s
    advanceStudents run orgs summary ss

/-- Who is told: the users of the students that were promoted or graduated. -/
def notificationTargets (run : InstitutionRun) (students : List StudentProfile) : List String :=
  (students.filter fun s => s.currentAcademicLevelId.any fun levelId =>
    (run.departmentLevels s.departmentId).any fun l => l.id = levelId).map StudentProfile.userId

/-- The transaction of a run. -/
def rollOver (run : AcademicSession → InstitutionRun) (current : AcademicSession)
    (existingNextSession : Option AcademicSession) (created : AcademicSession)
    (students : List StudentProfile) (organizations : List Organization) (institutionId : String) :
    CampusAction InstitutionRun := do
  exec (.claimSession current.id institutionId)
  let nextSession ← openNextSession existingNextSession created
  exec (.retireSessions institutionId nextSession.id)
  let newOrganizationsByOldId ← cloneOrganizations (run nextSession) organizations
  forEach organizations (setParent newOrganizationsByOldId)
  let summary ← advanceStudents (run nextSession) newOrganizationsByOldId {} students
  exec (.logInstitutionPromotion ⟨institutionId, current.id, nextSession.id, summary⟩)
  pure (run nextSession)

def promoteInstitution (institutionId userId : String) (dto : PromoteInstitutionDto) (ids : NewIds) :
    CampusAction Unit := do
  let institution ← outside fun d => d.institutions.find institutionId
  let currentSession ← outside fun d => d.sessions.findFirst fun s => s.id = dto.currentSessionId ∧
    s.institutionId = institutionId ∧ s.scope = .institution ∧ s.isCurrent
  let operator ← outside fun d => d.admins.find? fun a => a.userId = userId ∧ a.isActive ∧
    (a.isPlatform ∨ a.institutionId = some institutionId)
  let _ ← orThrow institution (.notFound "Institution not found")
  let _ ← orThrow operator
    (.forbidden "Only a platform admin or this institution admin can run promotion")
  let currentSession ← orThrow currentSession (.badRequest
    "The supplied session is not the institution current session. Refresh and try again.")
  let nextSessionName ← getNextSessionName currentSession.name
  let existingNextSession ← outside fun d => d.sessions.findFirst fun s =>
    s.institutionId = institutionId ∧ s.name = nextSessionName ∧ s.scope = .institution
  let students ← outside fun d => d.students.rows.filter fun s =>
    s.institutionId = institutionId ∧ s.academicStatus = .active
  let currentSessionOrganizations ← outside fun d => d.organizations.rows.filter fun o =>
    o.institutionId = some institutionId ∧ o.academicSessionId = some currentSession.id
  let levels ← outside fun d => (d.levels.rows.filter fun l =>
    l.departmentId ∈ students.map StudentProfile.departmentId ∧ l.isActive).insertionSort AcademicLevel.le
  let now ← query CampusDb.now
  let run ← transaction (rollOver
    (fun nextSession =>
      { institutionId, userId, notes := dto.notes, currentSession, nextSession, levels, now, ids })
    currentSession existingNextSession (newSession institutionId nextSessionName ids.session currentSession)
    students currentSessionOrganizations institutionId)
  CacheService.invalidate
  forEach (notificationTargets run students) fun studentUserId => attempt do
    CacheService.invalidate
    NotificationService.createNotification studentUserId

end PromotionService

end Heightt.Campus
