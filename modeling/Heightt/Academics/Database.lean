import Heightt.Campus.Database
import Heightt.ReadCommitted.Embedding

/-!
# Statements on sessions, students and academic units

The academic side of an institution around the campus: its faculties and departments,
and the profiles of users. The statements of the campus are statements here, so that a
program of the campus runs on this state as well (`embeds_campus`).
-/

namespace Heightt.Campus

open Store ReadCommitted

structure Faculty where
  id : String
  institutionId : String
  name : String
  code : String
  /-- The status is ACTIVE. -/
  isActive : Bool := true
  deriving DecidableEq

structure Department where
  id : String
  facultyId : String
  name : String
  code : String
  /-- The status is ACTIVE. -/
  isActive : Bool := true
  deriving DecidableEq

structure UserProfile where
  userId : String
  firstName : String
  lastName : String
  onboardingStep : OnboardingStep := .personalInfo
  onboardingCompleted : Bool := false
  onboardingCompletedAt : Option Nat := none
  deriving DecidableEq

structure AcademicsDb where
  campus : CampusDb := {}
  faculties : Table Faculty String Faculty.id := .empty
  departments : Table Department String Department.id := .empty
  userProfiles : Table UserProfile String UserProfile.userId := .empty

/-- A field of a partial request: left out, null, or given. -/
inductive Field (α : Type) where
  | absent
  | null
  | value (a : α)
  deriving DecidableEq

namespace Field

variable {α : Type}

/-- What an update leaves of a column that may be null. -/
def onto : Field α → Option α → Option α
  | absent, old => old
  | null, _ => none
  | value a, _ => some a

/-- What an update leaves of a column that may not. -/
def getD : Field α → α → α
  | value a, _ => a
  | _, old => old

def isNull : Field α → Bool
  | null => true
  | _ => false

def toOption : Field α → Option α
  | value a => some a
  | _ => none

end Field

/-- A text that counts as given: there and not empty. -/
def given (text : Option String) : Option String := text.filter fun t => t ≠ ""

/-- `Partial<CreateAcademicSessionDto>`. -/
structure PartialAcademicSessionDto where
  name : Option String := none
  institutionId : Option String := none
  facultyId : Field String := .absent
  departmentId : Field String := .absent
  academicLevelId : Field String := .absent
  scope : Field SessionScope := .absent
  startDate : Option Date := none
  endDate : Option Date := none
  status : Field SessionStatus := .absent
  isCurrent : Field Bool := .absent
  deriving DecidableEq

def PartialAcademicSessionDto.apply (dto : PartialAcademicSessionDto) (s : AcademicSession) :
    AcademicSession :=
  { s with
    name := dto.name.getD s.name
    institutionId := dto.institutionId.getD s.institutionId
    facultyId := dto.facultyId.onto s.facultyId
    departmentId := dto.departmentId.onto s.departmentId
    academicLevelId := dto.academicLevelId.onto s.academicLevelId
    scope := dto.scope.getD s.scope
    startDate := dto.startDate.getD s.startDate
    endDate := dto.endDate.getD s.endDate
    status := dto.status.getD s.status
    isCurrent := dto.isCurrent.getD s.isCurrent }

structure UpdateStudentDto where
  facultyId : Field String := .absent
  departmentId : Field String := .absent
  currentAcademicLevelId : Field String := .absent
  matricNumber : Field String := .absent
  academicStatus : Field AcademicStatus := .absent
  deriving DecidableEq

def UpdateStudentDto.apply (dto : UpdateStudentDto) (s : StudentProfile) : StudentProfile :=
  { s with
    facultyId := dto.facultyId.getD s.facultyId
    departmentId := dto.departmentId.getD s.departmentId
    currentAcademicLevelId := dto.currentAcademicLevelId.onto s.currentAcademicLevelId
    matricNumber := dto.matricNumber.onto s.matricNumber
    academicStatus := dto.academicStatus.getD s.academicStatus }

/-- `userProfile.update`: fields left out are not written. -/
structure UserProfilePatch where
  firstName : Option String := none
  lastName : Option String := none
  onboardingStep : Option OnboardingStep := none
  onboardingCompleted : Option Bool := none
  onboardingCompletedAt : Option Nat := none
  deriving DecidableEq

def UserProfilePatch.apply (p : UserProfilePatch) (u : UserProfile) : UserProfile :=
  { u with
    firstName := p.firstName.getD u.firstName
    lastName := p.lastName.getD u.lastName
    onboardingStep := p.onboardingStep.getD u.onboardingStep
    onboardingCompleted := p.onboardingCompleted.getD u.onboardingCompleted
    onboardingCompletedAt := p.onboardingCompletedAt.or u.onboardingCompletedAt }

/-- The sessions that lose `isCurrent` for another one: those of the institution, and of the
units where any are named. -/
structure CurrentWhere where
  institutionId : String
  facultyId : Option String
  departmentId : Option String
  academicLevelId : Option String
  /-- The session that stays as it is. -/
  except : Option String := none
  deriving DecidableEq

/-- The column has the value, if any is asked for. -/
def asked (wanted column : Option String) : Bool := wanted.isNone || column = wanted

namespace CurrentWhere

def covers (w : CurrentWhere) (s : AcademicSession) : Bool :=
  s.institutionId = w.institutionId && s.isCurrent && asked w.facultyId s.facultyId &&
    asked w.departmentId s.departmentId && asked w.academicLevelId s.academicLevelId &&
    w.except ≠ some s.id

def clear (w : CurrentWhere) (s : AcademicSession) : AcademicSession :=
  if w.covers s then { s with isCurrent := false } else s

theorem clear_id (w : CurrentWhere) (s : AcademicSession) : (w.clear s).id = s.id := by
  unfold clear
  split <;> rfl

end CurrentWhere

/-- What an onboarding leaves of a profile that is there. -/
def StudentProfile.place (placed s : StudentProfile) : StudentProfile :=
  { s with
    institutionId := placed.institutionId
    facultyId := placed.facultyId
    departmentId := placed.departmentId
    currentAcademicLevelId := placed.currentAcademicLevelId
    matricNumber := placed.matricNumber
    isDirectEntry := placed.isDirectEntry
    onboardingStep := placed.onboardingStep
    onboardingCompleted := placed.onboardingCompleted
    onboardingCompletedAt := placed.onboardingCompletedAt }

/-- What joining as a student leaves of a membership that is there. -/
def Membership.rejoinAsStudent (joinedSessionId : Option String) (m : Membership) : Membership :=
  { m with membershipType := .student, status := .active, joinedSessionId }

inductive AcademicsStmt where
  | campus (w : CampusStmt)
  /-- `session` is the one that becomes current instead. -/
  | clearCurrent (filter : CurrentWhere) (session : AcademicSession)
  | createSession (session : AcademicSession)
  | updateSession (seen : AcademicSession) (patch : PartialAcademicSessionDto)
  | createStudent (student : StudentProfile)
  | updateStudent (id : String) (patch : UpdateStudentDto)
  /-- The user's profile is created, or the one that is there gets the placement. -/
  | upsertStudent (student : StudentProfile)
  | stepStudent (userId : String) (step : OnboardingStep)
  | createRecord (record : StudentAcademicRecord)
  | updateUserProfile (userId : String) (patch : UserProfilePatch)
  /-- The user leaves the academic organizations joined as a student. -/
  | leaveAcademic (userId : String)
  /-- The membership is created, or the one the user has there becomes a student's. -/
  | joinAsStudent (membership : Membership)
  /-- The request is created, or the one the user has there is approved. -/
  | approveJoinRequest (request : JoinRequest)
  | createFaculty (faculty : Faculty)
  | createDepartment (department : Department)
  | createLevel (level : AcademicLevel)
  | createOrganization (organization : Organization)
  deriving DecidableEq

namespace CampusDb

def studentOf (d : CampusDb) (userId : String) : Option StudentProfile :=
  d.students.findFirst fun s => s.userId = userId

/-- The organization of the membership is of one of the academic types. -/
def inAcademic (d : CampusDb) (m : Membership) : Bool :=
  (d.organizations.find m.organizationId).any fun o => o.type.isAcademic

def leaveAcademic (d : CampusDb) (userId : String) (m : Membership) : Membership :=
  if m.userId = userId ∧ m.membershipType = .student ∧ m.status = .active ∧ d.inAcademic m then
    { m with status := .left }
  else m

theorem leaveAcademic_id (d : CampusDb) (userId : String) (m : Membership) :
    (d.leaveAcademic userId m).id = m.id := by
  unfold leaveAcademic
  split <;> rfl

end CampusDb

namespace AcademicsStmt

open CampusStmt (unique existing first)

def apply : AcademicsStmt → AcademicsDb → AcademicsDb
  | campus w, d => { d with campus := w.apply d.campus }
  | clearCurrent w _, d =>
    { d with campus.sessions := d.campus.sessions.mapRows w.clear w.clear_id }
  | createSession s, d => { d with campus.sessions := d.campus.sessions.insert s }
  | updateSession seen patch, d =>
    { d with campus.sessions := d.campus.sessions.modify seen.id patch.apply fun _ => rfl }
  | createStudent s, d => { d with campus.students := d.campus.students.insert s }
  | updateStudent id patch, d =>
    { d with campus.students := d.campus.students.modify id patch.apply fun _ => rfl }
  | upsertStudent s, d =>
    match d.campus.studentOf s.userId with
    | some old => { d with campus.students := d.campus.students.modify old.id s.place fun _ => rfl }
    | none => { d with campus.students := d.campus.students.insert s }
  | stepStudent userId step, d =>
    match d.campus.studentOf userId with
    | some s =>
      { d with
        campus.students := d.campus.students.modify s.id ({ · with onboardingStep := step }) fun _ => rfl }
    | none => d
  | createRecord r, d => { d with campus.records := d.campus.records ++ [r] }
  | updateUserProfile userId patch, d =>
    { d with userProfiles := d.userProfiles.modify userId patch.apply fun _ => rfl }
  | leaveAcademic userId, d =>
    { d with
      campus.memberships := d.campus.memberships.mapRows (d.campus.leaveAcademic userId)
        (d.campus.leaveAcademic_id userId) }
  | joinAsStudent m, d =>
    match d.campus.membershipOf m.organizationId m.userId with
    | some r =>
      { d with
        campus.memberships :=
          d.campus.memberships.modify r.id (Membership.rejoinAsStudent m.joinedSessionId) fun _ => rfl }
    | none => { d with campus.memberships := d.campus.memberships.insert m }
  | approveJoinRequest r, d =>
    match d.campus.joinRequestOf r.organizationId r.userId with
    | some old =>
      { d with
        campus.joinRequests := d.campus.joinRequests.modify old.id
          ({ · with membershipType := r.membershipType, status := r.status }) fun _ => rfl }
    | none => { d with campus.joinRequests := d.campus.joinRequests.insert r }
  | createFaculty f, d => { d with faculties := d.faculties.insert f }
  | createDepartment p, d => { d with departments := d.departments.insert p }
  | createLevel l, d => { d with campus.levels := d.campus.levels.insert l }
  | createOrganization o, d => { d with campus.organizations := d.campus.organizations.insert o }

/-- A unit that is named does not exist. -/
def UnitMissing (d : AcademicsDb) (facultyId departmentId academicLevelId : Option String) : Prop :=
  (∃ f ∈ facultyId, d.faculties.find f = none) ∨ (∃ p ∈ departmentId, d.departments.find p = none) ∨
    ∃ l ∈ academicLevelId, d.campus.levels.find l = none

instance (d : AcademicsDb) (facultyId departmentId academicLevelId : Option String) :
    Decidable (UnitMissing d facultyId departmentId academicLevelId) :=
  inferInstanceAs (Decidable ((∃ f ∈ facultyId, _) ∨ (∃ p ∈ departmentId, _) ∨ ∃ l ∈ academicLevelId, _))

/-- Another session of the institution has the name. -/
def NameTaken (d : AcademicsDb) (s : AcademicSession) : Prop :=
  ∃ r ∈ d.campus.sessions.rows, r.id ≠ s.id ∧ r.institutionId = s.institutionId ∧ r.name = s.name

instance (d : AcademicsDb) (s : AcademicSession) : Decidable (NameTaken d s) :=
  inferInstanceAs (Decidable (∃ r ∈ d.campus.sessions.rows, _))

def foreign (missing : Prop) [Decidable missing] : Option CampusError :=
  if missing then some .foreignKeyConstraint else none

/-- The constraints on a session that is written. -/
def checkSession (d : AcademicsDb) (s : AcademicSession) : Option CampusError :=
  first (unique (NameTaken d s))
    (foreign ((d.campus.institutions.find s.institutionId).isNone ∨
      UnitMissing d s.facultyId s.departmentId s.academicLevelId))

/-- A row that the profile refers to does not exist. -/
def StudentMissing (d : AcademicsDb) (s : StudentProfile) : Prop :=
  s.userId ∉ d.campus.users ∨ d.campus.institutions.find s.institutionId = none ∨
    UnitMissing d (some s.facultyId) (some s.departmentId) s.currentAcademicLevelId

instance (d : AcademicsDb) (s : StudentProfile) : Decidable (StudentMissing d s) :=
  inferInstanceAs (Decidable (_ ∨ _ ∨ UnitMissing d (some s.facultyId) (some s.departmentId)
    s.currentAcademicLevelId))

/-- A row that the record refers to does not exist. -/
def RecordMissing (d : AcademicsDb) (r : StudentAcademicRecord) : Prop :=
  d.campus.students.find r.studentId = none ∨ d.campus.sessions.find r.sessionId = none ∨
    UnitMissing d none (some r.departmentId) (some r.academicLevelId)

instance (d : AcademicsDb) (r : StudentAcademicRecord) : Decidable (RecordMissing d r) :=
  inferInstanceAs (Decidable (_ ∨ _ ∨ UnitMissing d none (some r.departmentId) (some r.academicLevelId)))

def nulls (isNull : Bool) : Option CampusError := if isNull then some .nullValue else none

/-- The constraint a statement violates. -/
def check : AcademicsStmt → AcademicsDb → Option CampusError
  | campus w, d => w.check d.campus
  | createSession s, d => first (unique (d.campus.sessions.find s.id).isSome) (checkSession d s)
  | updateSession seen patch, d =>
    first (nulls (patch.scope.isNull || patch.status.isNull || patch.isCurrent.isNull))
      (match d.campus.sessions.find seen.id with
      | none => some .recordNotFound
      | some s => checkSession d (patch.apply s))
  | createStudent s, d =>
    first (unique ((d.campus.students.find s.id).isSome ∨ (d.campus.studentOf s.userId).isSome))
      (foreign (StudentMissing d s))
  | updateStudent id patch, d =>
    first (nulls (patch.facultyId.isNull || patch.departmentId.isNull || patch.academicStatus.isNull))
      (match d.campus.students.find id with
      | none => some .recordNotFound
      | some s => foreign (StudentMissing d (patch.apply s)))
  | upsertStudent s, d =>
    first (unique ((d.campus.students.find s.id).isSome ∧ (d.campus.studentOf s.userId).isNone))
      (foreign (StudentMissing d s))
  | stepStudent userId _, d => existing (d.campus.studentOf userId).isSome
  | createRecord r, d =>
    first (unique (d.campus.records.any fun s => s.studentId = r.studentId ∧ s.sessionId = r.sessionId))
      (foreign (RecordMissing d r))
  | updateUserProfile userId _, d => existing (d.userProfiles.find userId).isSome
  | joinAsStudent m, d =>
    first (unique ((d.campus.memberships.find m.id).isSome ∧
        (d.campus.membershipOf m.organizationId m.userId).isNone))
      (foreign (d.campus.organizations.find m.organizationId = none))
  | approveJoinRequest r, d =>
    first (unique ((d.campus.joinRequests.find r.id).isSome ∧
        (d.campus.joinRequestOf r.organizationId r.userId).isNone))
      (foreign (d.campus.organizations.find r.organizationId = none))
  | createFaculty f, d => unique ((d.faculties.find f.id).isSome ∨
      d.faculties.rows.any fun r => r.institutionId = f.institutionId ∧ r.code = f.code)
  | createDepartment p, d => unique ((d.departments.find p.id).isSome ∨
      d.departments.rows.any fun r => r.facultyId = p.facultyId ∧ r.code = p.code)
  | createLevel l, d => unique ((d.campus.levels.find l.id).isSome ∨
      d.campus.levels.rows.any fun r => r.departmentId = l.departmentId ∧ r.name = l.name)
  | createOrganization o, d =>
    unique ((d.campus.organizations.find o.id).isSome ∨ CampusStmt.SlugTaken d.campus o)
  | clearCurrent .., _ | leaveAcademic _, _ => none

/-- The rows that a statement locks. -/
def rows : AcademicsStmt → List CampusRow
  | campus w => w.rows
  | updateSession seen _ => [.session seen.id]
  | updateStudent id _ => [.student id]
  | _ => []

end AcademicsStmt

/-- No integer column is counted here. -/
instance : Database AcademicsDb AcademicsStmt CampusRow Empty CampusError where
  apply := AcademicsStmt.apply
  check := AcademicsStmt.check
  rows := AcademicsStmt.rows
  value _ c := c.elim
  change _ c := c.elim
  cols _ := []
  change_of_not_mem {_ c} := c.elim
  value_apply c := c.elim

/-- The statements of the campus change the campus only, as they do there. -/
theorem embeds_campus : Embeds AcademicsDb.campus AcademicsStmt.campus := ⟨fun _ _ => rfl, fun _ _ => rfl⟩

abbrev AcademicsAction (α : Type) := Prog AcademicsDb AcademicsStmt CampusCall CampusCall.Reply CampusError α

abbrev AcademicsSystem := Config AcademicsDb Surroundings AcademicsStmt CampusCall CampusCall.Reply CampusError

/-- A program of the campus. -/
def onCampus {α : Type} (p : CampusAction α) : AcademicsAction α := p.embed AcademicsDb.campus AcademicsStmt.campus

def invalidateCache : AcademicsAction Unit := Prog.request (C := CampusCall) .invalidate

def storeInCache : AcademicsAction Unit := Prog.request (C := CampusCall) .store

/-- `WalletService.getOrCreateWallet`. -/
def getOrCreateWallet (ownerId : String) : AcademicsAction Unit :=
  Prog.request (C := CampusCall) (.openWallet ownerId)

def logActivity : AcademicsAction Unit := Prog.statement (.campus .createActivityLog)

end Heightt.Campus
