import Heightt.Academics.Database
import Heightt.Campus.SessionNames

/-!
# InstitutionsService: academic sessions

A session is attached to an institution, and to a faculty, a department or a level of it
when the request names one. Each statement is a transaction of its own.
-/

namespace Heightt.Campus

open Store ReadCommitted Prog

/-- The date is before the other one. -/
def Date.before (a b : Date) : Bool :=
  a.year < b.year || a.year = b.year && (a.month < b.month || a.month = b.month &&
    (a.day < b.day || a.day = b.day && a.time < b.time))

structure CreateAcademicSessionDto where
  name : String
  institutionId : String
  facultyId : Option String := none
  departmentId : Option String := none
  academicLevelId : Option String := none
  startDate : Date
  endDate : Date
  status : Option SessionStatus := none
  isCurrent : Bool := false
  deriving DecidableEq

namespace CreateAcademicSessionDto

variable (dto : CreateAcademicSessionDto)

/-- The faculty of the department, where the request gives none. -/
def withFaculty (facultyId : String) : CreateAcademicSessionDto :=
  if (given dto.facultyId).isSome then dto else { dto with facultyId := some facultyId }

/-- The department of the level, and its faculty if the department is there. -/
def withDepartment (departmentId : String) (department : Option Department) : CreateAcademicSessionDto :=
  { dto with
    departmentId := some departmentId
    facultyId := (department.map Department.facultyId).or dto.facultyId }

def scope : SessionScope :=
  if (given dto.academicLevelId).isSome then .level
  else if (given dto.departmentId).isSome then .department
  else if (given dto.facultyId).isSome then .faculty
  else .institution

/-- A session that has the name already, as far as the request names its units. -/
def sameName (s : AcademicSession) : Bool :=
  s.institutionId = dto.institutionId && s.name = dto.name && asked (given dto.facultyId) s.facultyId &&
    asked (given dto.departmentId) s.departmentId && asked (given dto.academicLevelId) s.academicLevelId

def currentWhere : CurrentWhere where
  institutionId := dto.institutionId
  facultyId := given dto.facultyId
  departmentId := given dto.departmentId
  academicLevelId := given dto.academicLevelId

def session (newId : String) : AcademicSession where
  id := newId
  institutionId := dto.institutionId
  facultyId := dto.facultyId
  departmentId := dto.departmentId
  academicLevelId := dto.academicLevelId
  name := dto.name
  startDate := dto.startDate
  endDate := dto.endDate
  status := dto.status.getD .upcoming
  scope := dto.scope
  isCurrent := dto.isCurrent

end CreateAcademicSessionDto

namespace PartialAcademicSessionDto

variable (dto : PartialAcademicSessionDto) (session : AcademicSession)

/-- The unit that the request gives, else that of the session. -/
def orElse (wanted : Field String) (column : Option String) : Option String :=
  (given wanted.toOption).or (given column)

def sameName (name : String) (s : AcademicSession) : Bool :=
  s.institutionId = session.institutionId && s.name = name && s.id ≠ session.id &&
    asked (orElse dto.facultyId session.facultyId) s.facultyId &&
    asked (orElse dto.departmentId session.departmentId) s.departmentId &&
    asked (orElse dto.academicLevelId session.academicLevelId) s.academicLevelId

def currentWhere : CurrentWhere where
  institutionId := session.institutionId
  facultyId := orElse dto.facultyId session.facultyId
  departmentId := orElse dto.departmentId session.departmentId
  academicLevelId := orElse dto.academicLevelId session.academicLevelId
  except := some session.id

end PartialAcademicSessionDto

/-- The one that starts last. -/
def latest : List AcademicSession → Option AcademicSession
  | [] => none
  | s :: ss =>
    match latest ss with
    | some t => if s.startDate.before t.startDate then some t else some s
    | none => some s

theorem latest_mem {ss : List AcademicSession} {s : AcademicSession} (h : latest ss = some s) : s ∈ ss := by
  induction ss generalizing s with
  | nil => cases h
  | cons t ss ih =>
    rw [latest] at h
    cases hl : latest ss with
    | none =>
      rw [hl] at h
      cases h
      exact List.mem_cons_self
    | some u =>
      rw [hl] at h
      dsimp only at h
      split at h
      · cases h
        exact List.mem_cons_of_mem _ (ih hl)
      · cases h
        exact List.mem_cons_self

namespace InstitutionsService

def defaultSession (institutionId newId : String) (currentYear : Nat) : AcademicSession where
  id := newId
  institutionId := institutionId
  name := sessionName currentYear (currentYear + 1)
  startDate := ⟨currentYear, 9, 1, 0⟩
  endDate := ⟨currentYear + 1, 8, 31, 0⟩
  status := .active
  isCurrent := true

/-- The sessions of the institution that are ACTIVE or UPCOMING. -/
def openSessions (d : AcademicsDb) (institutionId : String) : List AcademicSession :=
  d.campus.sessions.rows.filter fun s => s.institutionId = institutionId ∧
    (s.status = .active ∨ s.status = .upcoming)

def getOrCreateDefaultSession (institutionId : String) (currentYear : Nat) (newId : String) :
    AcademicsAction AcademicSession := do
  let existing ← outside fun d => latest (openSessions d institutionId)
  match existing with
  | some s => pure s
  | none => do
    statement (.createSession (defaultSession institutionId newId currentYear))
    pure (defaultSession institutionId newId currentYear)

/-- The faculty, if one is given, is of the institution. -/
def checkFaculty (facultyId : Option String) (institutionId message : String) : AcademicsAction Unit :=
  whenSome facultyId fun facultyId => do
    let faculty ← outside fun d => d.faculties.find facultyId
    let faculty ← orThrow faculty (.notFound "Faculty not found")
    ensure (faculty.institutionId = institutionId) (.badRequest message)

def findDepartment (departmentId : String) (facultyId : Option String) : AcademicsAction Department := do
  let department ← outside fun d => d.departments.find departmentId
  let department ← orThrow department (.notFound "Department not found")
  ensure (asked facultyId (some department.facultyId))
    (.badRequest "Department must belong to the selected faculty")
  pure department

def findLevel (academicLevelId : String) (departmentId : Option String) : AcademicsAction AcademicLevel := do
  let academicLevel ← outside fun d => d.campus.levels.find academicLevelId
  let academicLevel ← orThrow academicLevel (.notFound "Academic level not found")
  ensure (asked departmentId (some academicLevel.departmentId))
    (.badRequest "Academic level must belong to the selected department")
  pure academicLevel

def fillFaculty (dto : CreateAcademicSessionDto) : AcademicsAction CreateAcademicSessionDto :=
  match given dto.departmentId with
  | none => pure dto
  | some departmentId => do
    let department ← findDepartment departmentId (given dto.facultyId)
    pure (dto.withFaculty department.facultyId)

def fillDepartment (dto : CreateAcademicSessionDto) : AcademicsAction CreateAcademicSessionDto :=
  match given dto.academicLevelId with
  | none => pure dto
  | some academicLevelId => do
    let academicLevel ← findLevel academicLevelId (given dto.departmentId)
    if (given dto.departmentId).isSome then pure dto
    else do
      let dept ← outside fun d => d.departments.find academicLevel.departmentId
      pure (dto.withDepartment academicLevel.departmentId dept)

/-- The request with the parents of its units filled in. -/
def checkUnits (dto : CreateAcademicSessionDto) : AcademicsAction CreateAcademicSessionDto := do
  let institution ← outside fun d => d.campus.institutions.find dto.institutionId
  let _ ← orThrow institution (.notFound "Institution not found")
  checkFaculty (given dto.facultyId) dto.institutionId "Faculty must belong to the selected institution"
  let dto ← fillFaculty dto
  fillDepartment dto

def checkSessionName (dto : CreateAcademicSessionDto) : AcademicsAction Unit := do
  let existing ← outside fun d => d.campus.sessions.findFirst dto.sameName
  ensure existing.isNone
    (.conflict ("Academic session \"" ++ dto.name ++ "\" already exists at this level"))
  ensure (dto.startDate.before dto.endDate) (.badRequest "Start date must be before end date")

def afterSession (dto : CreateAcademicSessionDto) : AcademicsAction Unit := do
  attempt invalidateCache
  whenSome (given dto.facultyId) fun _ => invalidateCache
  whenSome (given dto.departmentId) fun _ => invalidateCache
  whenSome (given dto.academicLevelId) fun _ => invalidateCache
  logActivity

def createAcademicSession (dto : CreateAcademicSessionDto) (newId : String) : AcademicsAction Unit := do
  let dto ← checkUnits dto
  checkSessionName dto
  when (dto.isCurrent = true) (statement (.clearCurrent dto.currentWhere (dto.session newId)))
  statement (.createSession (dto.session newId))
  afterSession dto

/-- The units that the request gives, each checked against the next one if that is given as well. -/
def checkGiven (session : AcademicSession) (dto : PartialAcademicSessionDto) : AcademicsAction Unit := do
  checkFaculty (given dto.facultyId.toOption) session.institutionId "Faculty must belong to the same institution"
  whenSome (given dto.departmentId.toOption) fun departmentId => do
    let _ ← findDepartment departmentId (given dto.facultyId.toOption)
    pure ()
  whenSome (given dto.academicLevelId.toOption) fun academicLevelId => do
    let _ ← findLevel academicLevelId (given dto.departmentId.toOption)
    pure ()

def checkNewName (session : AcademicSession) (dto : PartialAcademicSessionDto) : AcademicsAction Unit :=
  whenSome ((given dto.name).filter fun name => name ≠ session.name) fun name => do
    let existing ← outside fun d => d.campus.sessions.findFirst (dto.sameName session name)
    ensure existing.isNone (.conflict "Academic session name already exists at this level")

def updateAcademicSession (id : String) (dto : PartialAcademicSessionDto) : AcademicsAction Unit := do
  let session ← outside fun d => d.campus.sessions.find id
  let session ← orThrow session (.notFound "Academic session not found")
  checkGiven session dto
  checkNewName session dto
  when (dto.isCurrent = .value true) (statement (.clearCurrent (dto.currentWhere session) (dto.apply session)))
  statement (.updateSession session dto)
  attempt invalidateCache
  invalidateCache
  invalidateCache
  logActivity

end InstitutionsService

end Heightt.Campus
