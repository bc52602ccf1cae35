import Heightt.Academics.Sessions
import Heightt.ReadCommitted.Collect

/-!
# InstitutionsService: departments and levels

A department and a level each get an organization, unless one with its slug is there. The organizations of a
new department are of the institution's default session; that of a level that is added later is of none.
`generateOrganizationsForDepartment` creates what the open sessions lack.
-/

namespace Heightt.Campus

open Store ReadCommitted Prog

/-! ## Slugs -/

/-- White space is replaced by hyphens. -/
def hyphened (text : String) : String :=
  String.ofList (text.toList.map fun c => if isSpace c then '-' else c)

/-! ## Requests -/

structure CreateDepartmentDto where
  name : String
  code : String
  facultyId : String
  logo : Option String := none
  numberOfLevels : Option Nat := none
  customLevelNames : Option (List String) := none

def CreateDepartmentDto.department (dto : CreateDepartmentDto) (newId : String) : Department where
  id := newId
  facultyId := dto.facultyId
  name := dto.name
  code := dto.code

structure CreateAcademicLevelDto where
  name : String
  numericLevel : Int
  order : Int
  departmentId : String

structure LevelData where
  name : String
  numericLevel : Int
  order : Int
  deriving DecidableEq

def CreateAcademicLevelDto.data (dto : CreateAcademicLevelDto) : LevelData where
  name := dto.name
  numericLevel := dto.numericLevel
  order := dto.order

def LevelData.level (data : LevelData) (departmentId newId : String) : AcademicLevel where
  id := newId
  departmentId := departmentId
  name := data.name
  numericLevel := data.numericLevel
  order := data.order

/-- A department with its faculty and levels. -/
structure DepartmentWithLevels where
  department : Department
  faculty : Faculty
  academicLevels : List AcademicLevel

def DepartmentWithLevels.byOrder (p : DepartmentWithLevels) : DepartmentWithLevels :=
  { p with academicLevels := p.academicLevels.mergeSort fun a b => a.order ≤ b.order }

def AcademicsDb.levelsOf (d : AcademicsDb) (departmentId : String) : List AcademicLevel :=
  d.campus.levels.rows.filter fun l => l.departmentId = departmentId

/-- The department, if it is there. -/
def AcademicsDb.departmentWithLevels (d : AcademicsDb) (id : String) : Option DepartmentWithLevels := do
  let department ← d.departments.find id
  let faculty ← d.faculties.find department.facultyId
  pure ⟨department, faculty, d.levelsOf id⟩

/-- The other organization has the slug in the same session of the institution. -/
def Organization.sameSlugInSession (o other : Organization) : Bool :=
  other.slug = o.slug && other.institutionId = o.institutionId && other.academicSessionId = o.academicSessionId

/-- The other organization has the slug in the institution. -/
def Organization.sameSlug (o other : Organization) : Bool :=
  other.slug = o.slug && other.institutionId = o.institutionId

/-- The organization is created, with a wallet if that can be, unless there is one that satisfies `there`. -/
def createUnless (there : Organization → Bool) (o : Organization) : AcademicsAction (Option Organization) := do
  let existingOrg ← outside fun d => d.campus.organizations.findFirst there
  match existingOrg with
  | some _ => pure none
  | none => do
    statement (.createOrganization o)
    attempt (getOrCreateWallet o.id)
    pure (some o)

namespace InstitutionsService

section

-- the small letters of a text
variable (toLowerCase : String → String)

def levelSlug (code levelName : String) : String := toLowerCase code ++ "-" ++ hyphened (toLowerCase levelName)

/-! ## Departments -/

def getDefaultLevelCount (departmentName : String) : Nat :=
  let name := (toLowerCase departmentName).toList
  let fiveYearPrograms := ["engineering", "law", "architecture", "pharmacy", "veterinary", "agriculture"]
  let sixYearPrograms := ["medicine", "surgery", "dentistry"]
  if fiveYearPrograms.any fun program => includes program.toList name then 5
  else if sixYearPrograms.any fun program => includes program.toList name then 6
  else 4

def standardLevelNames : List String :=
  ["100 Level", "200 Level", "300 Level", "400 Level", "500 Level", "600 Level", "700 Level", "800 Level",
    "900 Level", "1000 Level"]

def generateAcademicLevels (numberOfLevels : Nat) (customLevelNames : Option (List String)) : List LevelData :=
  match customLevelNames.filter fun names => names.length = numberOfLevels with
  | some names => names.mapIdx fun i name => ⟨name, (i + 1) * 100, i + 1⟩
  | none => (List.range numberOfLevels).map fun i : Nat =>
    let levelNumber := (i + 1) * 100
    let name := (given (customLevelNames.bind fun names => names[i]?)).or (standardLevelNames[i]?)
    ⟨name.getD (toString levelNumber ++ " Level"), levelNumber, i + 1⟩

/-- The organization of a level in a session. -/
def levelOrganization (p : Department) (institutionId : String) (logo : Option String) (session : AcademicSession)
    (level : AcademicLevel) (newId : String) : Organization where
  id := newId
  name := p.name ++ " - " ++ level.name ++ " (" ++ session.name ++ ")"
  logo := logo
  slug := levelSlug toLowerCase p.code level.name ++ "-" ++ sessionSlug session.name
  description := some (level.name ++ " organization for " ++ p.name ++ " (" ++ session.name ++ ")")
  type := .level
  scope := .level
  institutionId := some institutionId
  facultyId := some p.facultyId
  departmentId := some p.id
  academicLevelId := some level.id
  academicSessionId := some session.id
  status := .active

/-- The organization of a department in a session. -/
def departmentOrganization (p : Department) (institutionId : String) (logo : Option String)
    (session : AcademicSession) (newId : String) : Organization where
  id := newId
  name := p.name ++ " Department (" ++ session.name ++ ")"
  logo := logo
  slug := toLowerCase p.code ++ "-department-" ++ sessionSlug session.name
  description := some ("Department organization for " ++ p.name ++ " (" ++ session.name ++ ")")
  type := .department
  scope := .department
  institutionId := some institutionId
  facultyId := some p.facultyId
  departmentId := some p.id
  academicSessionId := some session.id
  status := .active

/-- The level of the department with the name, which is created if there is none. -/
def createLevelUnless (departmentId : String) (data : LevelData) (newId : String) : AcademicsAction AcademicLevel := do
  let createdLevel ← outside fun d => d.campus.levels.findFirst fun l =>
    l.departmentId = departmentId ∧ l.name = data.name
  match createdLevel with
  | some level => pure level
  | none => do
    statement (.createLevel (data.level departmentId newId))
    pure (data.level departmentId newId)

/-- The identifiers of the rows that a new department comes with. -/
structure NewDepartment where
  id : String
  sessionId : String
  levelIds : LevelData → String
  /-- Of the organization of a level, or of the department. -/
  organizationIds : Option LevelData → String

/-- A level of a new department, with its organization. -/
def createLevelOf (department : Department) (institutionId : String) (logo : Option String) (session : AcademicSession)
    (new : NewDepartment) (data : LevelData) : AcademicsAction (Option Organization) := do
  let level ← createLevelUnless department.id data (new.levelIds data)
  let o := levelOrganization toLowerCase department institutionId logo session level (new.organizationIds (some data))
  createUnless o.sameSlugInSession o

def createDepartment (dto : CreateDepartmentDto) (currentYear : Nat) (new : NewDepartment) :
    AcademicsAction (Option DepartmentWithLevels) := do
  let faculty ← outside fun d => d.faculties.find dto.facultyId
  let faculty ← orThrow faculty (.notFound "Faculty not found")
  let existing ← outside fun d => d.departments.findFirst fun p => p.facultyId = dto.facultyId ∧ p.code = dto.code
  ensure existing.isNone (.conflict "Department code already exists in this faculty")
  let numberOfLevels := dto.numberOfLevels.getD (getDefaultLevelCount toLowerCase dto.name)
  ensure (4 ≤ numberOfLevels ∧ numberOfLevels ≤ 7)
    (.badRequest "A department must have between 4 and 7 academic levels")
  ensure (∀ names ∈ dto.customLevelNames, names.length = numberOfLevels)
    (.badRequest "customLevelNames must contain exactly numberOfLevels entries")
  let department := dto.department new.id
  statement (.createDepartment department)
  let levels := generateAcademicLevels numberOfLevels dto.customLevelNames
  let session ← getOrCreateDefaultSession faculty.institutionId currentYear new.sessionId
  let _ ← collect levels (createLevelOf toLowerCase department faculty.institutionId (given dto.logo) session new)
  let o := departmentOrganization toLowerCase department faculty.institutionId (given dto.logo) session
    (new.organizationIds none)
  let _ ← createUnless o.sameSlugInSession o
  attempt invalidateCache
  logActivity
  outside fun d => (d.departmentWithLevels department.id).map DepartmentWithLevels.byOrder

/-! ## Levels -/

/-- The organization of a level that is added to a department. -/
def addedOrganization (p : DepartmentWithLevels) (level : AcademicLevel) (newId : String) : Organization where
  id := newId
  name := p.department.name ++ " - " ++ level.name
  slug := levelSlug toLowerCase p.department.code level.name
  description := some (level.name ++ " organization for " ++ p.department.name)
  type := .level
  scope := .level
  institutionId := some p.faculty.institutionId
  facultyId := some p.department.facultyId
  departmentId := some p.department.id
  academicLevelId := some level.id
  status := .active

/-- A level that is added, with its organization. -/
def addLevel (p : DepartmentWithLevels) (data : LevelData) (newId newOrganizationId : String) :
    AcademicsAction AcademicLevel := do
  statement (.createLevel (data.level p.department.id newId))
  let o := addedOrganization toLowerCase p (data.level p.department.id newId) newOrganizationId
  let _ ← createUnless o.sameSlug o
  pure (data.level p.department.id newId)

def createAcademicLevel (dto : CreateAcademicLevelDto) (newId newOrganizationId : String) :
    AcademicsAction AcademicLevel := do
  let department ← outside fun d => d.departmentWithLevels dto.departmentId
  let department ← orThrow department (.notFound "Department not found")
  let existing ← outside fun d => d.campus.levels.findFirst fun l =>
    l.departmentId = dto.departmentId ∧ l.name = dto.name
  ensure existing.isNone (.conflict "Academic level already exists in this department")
  let level ← addLevel toLowerCase department dto.data newId newOrganizationId
  attempt invalidateCache
  logActivity
  pure level

def bulkCreateAcademicLevels (departmentId : String) (levels : List CreateAcademicLevelDto)
    (newIds : LevelData → String × String) : AcademicsAction (List AcademicLevel) := do
  let department ← outside fun d => d.departmentWithLevels departmentId
  let department ← orThrow department (.notFound "Department not found")
  let createdLevels ← collect levels fun level => do
    let existing ← outside fun d => d.campus.levels.findFirst fun l =>
      l.departmentId = departmentId ∧ l.name = level.name
    match existing with
    | some _ => pure none
    | none => do
      let created ← addLevel toLowerCase department level.data (newIds level.data).1 (newIds level.data).2
      pure (some created)
  attempt invalidateCache
  logActivity
  pure createdLevels

/-! ## The organizations of a department -/

/-- The organizations of the department in the session: one for each level, and its own. -/
def sessionOrganizations (p : DepartmentWithLevels) (newIds : AcademicSession → Option AcademicLevel → String)
    (session : AcademicSession) : List Organization :=
  (p.academicLevels.map fun level => levelOrganization toLowerCase p.department p.faculty.institutionId none session
    level (newIds session (some level))) ++
    [departmentOrganization toLowerCase p.department p.faculty.institutionId none session (newIds session none)]

/-- The open sessions, or a default session where there is none. -/
def sessionsOrDefault (institutionId : String) (currentYear : Nat) (newSessionId : String) :
    AcademicsAction (List AcademicSession) := do
  let sessions ← outside fun d => openSessions d institutionId
  if sessions = [] then do
    let defaultSession ← getOrCreateDefaultSession institutionId currentYear newSessionId
    pure [defaultSession]
  else pure sessions

def generateOrganizationsForDepartment (departmentId : String) (currentYear : Nat) (newSessionId : String)
    (newIds : AcademicSession → Option AcademicLevel → String) :
    AcademicsAction (DepartmentWithLevels × List Organization) := do
  let department ← outside fun d => d.departmentWithLevels departmentId
  let department ← orThrow department (.notFound "Department not found")
  let sessions ← sessionsOrDefault department.faculty.institutionId currentYear newSessionId
  let createdOrgs ← collect (sessions.flatMap (sessionOrganizations toLowerCase department newIds)) fun o =>
    createUnless o.sameSlugInSession o
  attempt invalidateCache
  pure (department, createdOrgs)

end

end InstitutionsService

end Heightt.Campus
