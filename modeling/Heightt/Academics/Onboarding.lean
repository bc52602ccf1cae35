import Heightt.Academics.Database

/-!
# OnboardingService

A user states a name and picks an institution, faculty, department and level: by their
names (`completeOnboarding`) or by their identifiers (`updateInstitutionInfo`). Both
enrol the student and join the organizations of the picked units.
-/

namespace Heightt.Campus

open Store ReadCommitted Prog

structure OnboardingPersonalInfoDto where
  firstName : String
  lastName : String
  deriving DecidableEq

structure OnboardingInstitutionDto where
  institutionId : String
  facultyId : String
  departmentId : String
  levelId : String
  matricNumber : String
  isFresher : Bool
  isDirectEntry : Option Bool := none
  sessionId : Option String := none
  deriving DecidableEq

structure CompleteOnboardingDto where
  firstName : Option String := none
  lastName : Option String := none
  matricNumber : Option String := none
  studentId : Option String := none
  institution : Option String := none
  faculty : Option String := none
  department : Option String := none
  academicLevelId : Option String := none
  sessionId : Option String := none
  isFresher : Bool
  isDirectEntry : Option Bool := none
  deriving DecidableEq

/-- The identifiers of the rows that an onboarding creates. -/
structure OnboardingIds where
  student : String
  membership (organizationId : String) : String
  joinRequest (organizationId : String) : String

/-- The units that a student is placed in. -/
structure Placement where
  institutionId : String
  facultyId : String
  departmentId : String
  academicLevelId : String
  matricNumber : String
  isDirectEntry : Bool
  deriving DecidableEq

def Placement.student (p : Placement) (userId newId : String) (now : Nat) : StudentProfile where
  id := newId
  userId := userId
  institutionId := p.institutionId
  facultyId := p.facultyId
  departmentId := p.departmentId
  currentAcademicLevelId := some p.academicLevelId
  matricNumber := some p.matricNumber
  isDirectEntry := p.isDirectEntry
  onboardingStep := .completed
  onboardingCompleted := true
  onboardingCompletedAt := some now

def Placement.record (p : Placement) (studentId sessionId : String) : StudentAcademicRecord where
  studentId := studentId
  sessionId := sessionId
  departmentId := p.departmentId
  academicLevelId := p.academicLevelId

/-- The names of the picked units, if all are given. -/
def CompleteOnboardingDto.picked (body : CompleteOnboardingDto) : Option (String × String × String) := do
  let institution ← given body.institution
  let faculty ← given body.faculty
  let department ← given body.department
  return (institution, faculty, department)

def OnboardingInstitutionDto.placement (dto : OnboardingInstitutionDto) : Placement where
  institutionId := dto.institutionId
  facultyId := dto.facultyId
  departmentId := dto.departmentId
  academicLevelId := dto.levelId
  matricNumber := dto.matricNumber
  isDirectEntry := dto.isDirectEntry.getD false

/-- A fresher's level is the 100 level, any other from the 200 level on. -/
def levelAllowed (isFresher : Bool) (level : AcademicLevel) : Bool :=
  if isFresher then level.numericLevel = 100 else 200 ≤ level.numericLevel

namespace OnboardingService

/-! ## Joining organizations -/

/-- The current ACTIVE session of the institution as a whole. -/
def institutionSession (d : AcademicsDb) (institutionId : String) : Option AcademicSession :=
  d.campus.sessions.findFirst fun s => s.institutionId = institutionId ∧ s.scope = .institution ∧
    s.isCurrent ∧ s.status = .active

/-- The organization is of one of the picked units. -/
def inScopes (facultyId departmentId academicLevelId : Option String) (o : Organization) : Bool :=
  o.type = .institution && o.scope = .institution ||
    (given facultyId).isSome && o.type = .faculty && o.scope = .faculty && o.facultyId = facultyId ||
    (given departmentId).isSome && o.type = .department && o.scope = .department &&
      o.departmentId = departmentId ||
    (given academicLevelId).isSome && o.type = .level && o.scope = .level &&
      o.academicLevelId = academicLevelId

/-- The ACTIVE organizations of the picked units, without a session or of the one given. -/
def matchingOrganizations (d : AcademicsDb) (institutionId : String)
    (facultyId departmentId academicLevelId sessionId : Option String) : List Organization :=
  d.campus.organizations.rows.filter fun o => o.institutionId = some institutionId ∧ o.status = .active ∧
    inScopes facultyId departmentId academicLevelId o ∧
    (o.academicSessionId = none ∨ o.academicSessionId = sessionId)

/-- One organization of each type, the last one of the session rather than any other. -/
def select (sessionId : Option String) (selected : List Organization) (o : Organization) : List Organization :=
  if selected.any fun s => s.type = o.type then
    selected.map fun s =>
      if s.type = o.type ∧ o.academicSessionId = sessionId ∧ s.academicSessionId ≠ sessionId then o else s
  else selected ++ [o]

def selectedOrganizations (sessionId : Option String) (matching : List Organization) : List Organization :=
  matching.foldl (select sessionId) []

def membership (userId : String) (sessionId : Option String) (new : OnboardingIds) (o : Organization) :
    Membership where
  id := new.membership o.id
  organizationId := o.id
  userId := userId
  membershipType := .student
  status := .active
  isPrimary := o.type = .institution
  joinedSessionId := (given o.academicSessionId).or (given sessionId)

def joinRequest (userId : String) (new : OnboardingIds) (o : Organization) : JoinRequest where
  id := new.joinRequest o.id
  organizationId := o.id
  userId := userId
  status := .approved
  membershipType := .student

/-- The session given, else the current one of the institution. -/
def joinSession (institutionId : String) (sessionId : Option String) : AcademicsAction (Option String) :=
  match given sessionId with
  | some id => pure (some id)
  | none => query fun d => (institutionSession d institutionId).map AcademicSession.id

def join (userId : String) (sessionId : Option String) (new : OnboardingIds) (o : Organization) :
    AcademicsAction Unit := do
  exec (.joinAsStudent (membership userId sessionId new o))
  exec (.approveJoinRequest (joinRequest userId new o))

def autoJoinInstitutionalOrganizationsInTransaction (userId institutionId : String)
    (facultyId departmentId academicLevelId sessionId : Option String) (new : OnboardingIds) :
    AcademicsAction Unit := do
  let sessionId ← joinSession institutionId sessionId
  let matchingOrgs ← query fun d =>
    matchingOrganizations d institutionId facultyId departmentId academicLevelId sessionId
  when (selectedOrganizations sessionId matchingOrgs ≠ []) (exec (.leaveAcademic userId))
  forEach (selectedOrganizations sessionId matchingOrgs) (join userId sessionId new)

/-! ## By names -/

/-- The newest current ACTIVE session of the institution, whatever its scope. -/
def currentSession (d : AcademicsDb) (institutionId : String) : Option AcademicSession :=
  (d.campus.sessions.rows.filter fun s => s.institutionId = institutionId ∧ s.status = .active ∧
    s.isCurrent).getLast?

def findSession (sessionId : Option String) : AcademicsAction (Option AcademicSession) :=
  match given sessionId with
  | none => pure none
  | some id => do
    let session ← outside fun d => d.campus.sessions.find id
    let session ← orThrow session (.badRequest "Academic session not found")
    pure (some session)

def chooseSession (session : Option AcademicSession) (institutionId : String) :
    AcademicsAction AcademicSession :=
  match session with
  | some session => do
    ensure (session.institutionId = institutionId)
      (.badRequest "Session does not belong to the selected institution")
    pure session
  | none => do
    let session ← query fun d => currentSession d institutionId
    orThrow session (.badRequest "No current active academic session found for the selected institution")

/-- The level given, else the 100 level for a fresher. -/
def chooseLevel (academicLevelId : Option String) (isFresher : Bool) (departmentId : String) :
    AcademicsAction AcademicLevel :=
  match given academicLevelId with
  | some id => do
    let level ← query fun d => d.campus.levels.findFirst fun l => l.id = id ∧ l.departmentId = departmentId ∧
      l.isActive
    orThrow level (.badRequest "Select an approved academic level for this department")
  | none => do
    ensure (isFresher = true) (.badRequest "Academic level is required for staylite students")
    let defaultLevel ← query fun d => d.campus.levels.findFirst fun l => l.departmentId = departmentId ∧
      l.numericLevel = 100 ∧ l.isActive
    orThrow defaultLevel (.badRequest "No approved 100 level exists for this department")

def levelMessage (isFresher : Bool) : String :=
  if isFresher then "Freshers must select 100 level" else "Staylite students must select 200 level or above"

def checkLevel (isFresher isDirectEntry : Bool) (level : AcademicLevel) : AcademicsAction Unit := do
  ensure (levelAllowed isFresher level) (.badRequest (levelMessage isFresher))
  ensure (isDirectEntry → 200 ≤ level.numericLevel)
    (.badRequest "Direct entry students must select 200 level or above")

/-- Another profile that has the number. -/
def otherWithMatric (d : AcademicsDb) (userId matricNumber : String) : Option StudentProfile :=
  d.campus.students.findFirst fun s => s.matricNumber = some matricNumber ∧ s.userId ≠ userId

/-- The profile and the record of the session. -/
def enrol (userId : String) (placement : Placement) (newId : String) : AcademicsAction StudentProfile := do
  let now ← query fun d => d.campus.now
  exec (.upsertStudent (placement.student userId newId now))
  let studentProfile ← query fun d => d.campus.studentOf userId
  orThrow studentProfile .recordNotFound

/-- Names are compared as `fold` leaves them. -/
def findInstitution (fold : String → String) (name : String) : AcademicsAction Institution := do
  let institution ← query fun d => d.campus.institutions.findFirst fun i => fold i.name = fold name ∧
    i.isActive ∧ !i.isDeleted
  orThrow institution (.badRequest "Select an approved institution from the directory")

def findFaculty (fold : String → String) (name institutionId : String) : AcademicsAction Faculty := do
  let faculty ← query fun d => d.faculties.findFirst fun f => fold f.name = fold name ∧
    f.institutionId = institutionId ∧ f.isActive
  orThrow faculty (.badRequest "Select an approved faculty from the directory")

def findDepartment (fold : String → String) (name facultyId : String) : AcademicsAction Department := do
  let department ← query fun d => d.departments.findFirst fun p => fold p.name = fold name ∧
    p.facultyId = facultyId ∧ p.isActive
  orThrow department (.badRequest "Select an approved department from the directory")

/-- The student is placed in the units of the names. -/
def placeByNames (fold : String → String) (userId : String) (body : CompleteOnboardingDto)
    (session : Option AcademicSession) (new : OnboardingIds) (names : String × String × String) :
    AcademicsAction Unit := do
  let matricNumber ← orThrow (given (body.matricNumber.or body.studentId))
    (.badRequest "Matric number is required")
  let institution ← findInstitution fold names.1
  let session ← chooseSession session institution.id
  let faculty ← findFaculty fold names.2.1 institution.id
  let department ← findDepartment fold names.2.2 faculty.id
  let chosen ← chooseLevel body.academicLevelId body.isFresher department.id
  let selectedLevel ← query fun d => d.campus.levels.find chosen.id
  let level ← orThrow selectedLevel (.badRequest (levelMessage body.isFresher))
  checkLevel body.isFresher (body.isDirectEntry.getD false) level
  let existingMatric ← query fun d => otherWithMatric d userId matricNumber
  ensure existingMatric.isNone (.conflict "Matric number already registered")
  let placement : Placement := ⟨institution.id, faculty.id, department.id, level.id, matricNumber,
    body.isDirectEntry.getD false⟩
  let studentProfile ← enrol userId placement new.student
  exec (.campus (.upsertRecord (placement.record studentProfile.id session.id)))
  autoJoinInstitutionalOrganizationsInTransaction userId institution.id (some faculty.id) (some department.id)
    (some level.id) (some session.id) new

def names (firstName lastName : Option String) : UserProfilePatch where
  firstName := firstName
  lastName := lastName
  onboardingStep := some .institution

def completed (now : Nat) : UserProfilePatch where
  onboardingStep := some .completed
  onboardingCompleted := some true
  onboardingCompletedAt := some now

/-- What every step of the onboarding drops from the cache. -/
def invalidateOnboardingCache : AcademicsAction Unit := attempt invalidateCache

def completeOnboarding (fold : String → String) (userId : String) (body : CompleteOnboardingDto)
    (new : OnboardingIds) : AcademicsAction Unit := do
  let session ← findSession body.sessionId
  transaction do
    exec (.updateUserProfile userId (names body.firstName body.lastName))
    whenSome body.picked (placeByNames fold userId body session new)
    let now ← query fun d => d.campus.now
    exec (.updateUserProfile userId (completed now))
    exec (.campus .createActivityLog)
  invalidateOnboardingCache

/-! ## By identifiers -/

def updatePersonalInfo (userId : String) (dto : OnboardingPersonalInfoDto) : AcademicsAction Unit := do
  let user ← outside fun d => (d.campus.users.find? fun u => u = userId, d.userProfiles.find userId,
    d.campus.studentOf userId)
  let _ ← orThrow user.1 (.notFound "User not found")
  let _ ← orThrow user.2.1 (.notFound "User profile not found")
  statement (.updateUserProfile userId (names (some dto.firstName) (some dto.lastName)))
  whenSome user.2.2 fun _ => statement (.stepStudent userId .institution)
  logActivity
  invalidateOnboardingCache

/-- The picked units, each checked against the one it belongs to. -/
def findUnits (dto : OnboardingInstitutionDto) : AcademicsAction AcademicLevel := do
  let institution ← outside fun d =>
    d.campus.institutions.findFirst fun i => i.id = dto.institutionId ∧ i.isActive ∧ !i.isDeleted
  let faculty ← outside fun d => d.faculties.findFirst fun f => f.id = dto.facultyId ∧ f.isActive
  let department ← outside fun d => d.departments.findFirst fun p => p.id = dto.departmentId ∧ p.isActive
  let level ← outside fun d => d.campus.levels.findFirst fun l => l.id = dto.levelId ∧ l.isActive
  let institution ← orThrow institution (.notFound "Institution not found")
  let faculty ← orThrow faculty (.notFound "Faculty not found")
  let department ← orThrow department (.notFound "Department not found")
  let level ← orThrow level (.notFound "Academic level not found")
  ensure (faculty.institutionId = institution.id)
    (.badRequest "Faculty does not belong to the selected institution")
  ensure (department.facultyId = faculty.id)
    (.badRequest "Department does not belong to the selected faculty")
  ensure (level.departmentId = department.id)
    (.badRequest "Academic level does not belong to the selected department")
  pure level

/-- Nobody else has the number, if one is given. -/
def checkMatricNumber (userId matricNumber : String) : AcademicsAction Unit :=
  when (matricNumber ≠ "") do
    let existing ← outside fun d => otherWithMatric d userId matricNumber
    ensure existing.isNone (.conflict "Matric number already registered")

def recordSession (dto : OnboardingInstitutionDto) : AcademicsAction AcademicSession := do
  let session ← query fun d =>
    match given dto.sessionId with
    | some id => d.campus.sessions.find id
    | none => currentSession d dto.institutionId
  let session ← orThrow session
    (.badRequest "No active academic session found for the selected institution")
  ensure (session.institutionId = dto.institutionId)
    (.badRequest "Session does not belong to the selected institution")
  pure session

/-- The student is placed in the units of the identifiers. -/
def placeByIds (userId : String) (dto : OnboardingInstitutionDto) (new : OnboardingIds) :
    AcademicsAction Unit := do
  let studentProfile ← enrol userId dto.placement new.student
  let session ← recordSession dto
  exec (.campus (.upsertRecord (dto.placement.record studentProfile.id session.id)))
  let now ← query fun d => d.campus.now
  exec (.updateUserProfile userId (completed now))
  autoJoinInstitutionalOrganizationsInTransaction userId dto.institutionId (some dto.facultyId)
    (some dto.departmentId) (some dto.levelId) none new
  exec (.campus .createActivityLog)

def updateInstitutionInfo (userId : String) (dto : OnboardingInstitutionDto) (new : OnboardingIds) :
    AcademicsAction Unit := do
  let user ← outside fun d => d.campus.users.find? fun u => u = userId
  let _ ← orThrow user (.notFound "User not found")
  let level ← findUnits dto
  checkLevel dto.isFresher (dto.isDirectEntry.getD false) level
  checkMatricNumber userId dto.matricNumber
  transaction (placeByIds userId dto new)
  invalidateOnboardingCache

/-! ## The status -/

/-- What one part of the onboarding asks for: whether it is there, and what is not. -/
structure Progress where
  completed : Bool
  missing : List String
  deriving DecidableEq

structure OnboardingStatus where
  onboardingStep : OnboardingStep
  onboardingCompleted : Bool
  personalInfo : Progress
  institutionInfo : Progress
  hasStudentProfile : Bool
  completedAt : Option Nat
  deriving DecidableEq

def getMissingPersonalFields (profile : UserProfile) : List String :=
  (if profile.firstName = "" then ["firstName"] else []) ++ if profile.lastName = "" then ["lastName"] else []

def getMissingInstitutionFields : Option StudentProfile → List String
  | none => ["institution", "faculty", "department", "level"]
  | some s =>
    (if s.institutionId = "" then ["institution"] else []) ++ (if s.facultyId = "" then ["faculty"] else []) ++
      (if s.departmentId = "" then ["department"] else []) ++
      (if (given s.currentAcademicLevelId).isNone then ["level"] else []) ++
      if (given s.matricNumber).isNone then ["matricNumber"] else []

def personalInfoCompleted (profile : UserProfile) : Bool := profile.firstName ≠ "" && profile.lastName ≠ ""

def institutionInfoCompleted (s : Option StudentProfile) : Bool :=
  s.any fun s => s.institutionId ≠ "" && s.facultyId ≠ "" && s.departmentId ≠ "" &&
    (given s.currentAcademicLevelId).isSome && (given s.matricNumber).isSome

def status (profile : UserProfile) (studentProfile : Option StudentProfile) : OnboardingStatus where
  onboardingStep := profile.onboardingStep
  onboardingCompleted := personalInfoCompleted profile && institutionInfoCompleted studentProfile
  personalInfo := ⟨personalInfoCompleted profile, getMissingPersonalFields profile⟩
  institutionInfo := ⟨institutionInfoCompleted studentProfile, getMissingInstitutionFields studentProfile⟩
  hasStudentProfile := studentProfile.isSome
  completedAt := profile.onboardingCompletedAt

/-- What a profile that claims too much is set back to. -/
def setBack : UserProfilePatch where
  onboardingCompleted := some false
  onboardingStep := some .institution

/-- A profile that is complete without the institution's part is set back. -/
def fixInconsistency (profile : UserProfile) (studentProfile : Option StudentProfile) :
    AcademicsAction UserProfile :=
  if profile.onboardingCompleted ∧ ¬institutionInfoCompleted studentProfile then do
    statement (.updateUserProfile profile.userId setBack)
    invalidateCache
    pure (setBack.apply profile)
  else pure profile

/-- The status that is not in the cache. -/
def getOnboardingStatus (userId : String) : AcademicsAction OnboardingStatus := do
  let user ← outside fun d => (d.campus.users.find? fun u => u = userId, d.userProfiles.find userId,
    d.campus.studentOf userId)
  let _ ← orThrow user.1 (.notFound "User or profile not found")
  let profile ← orThrow user.2.1 (.notFound "User or profile not found")
  let profile ← fixInconsistency profile user.2.2
  storeInCache
  pure (status profile user.2.2)

end OnboardingService

end Heightt.Campus
