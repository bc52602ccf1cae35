import Heightt.Academics.Database

/-!
# StudentsService

The student profile of a user, written by an administrator, and the academic records.
-/

namespace Heightt.Campus

open Store ReadCommitted Prog

structure CreateStudentDto where
  userId : String
  institutionId : String
  facultyId : String
  departmentId : String
  currentAcademicLevelId : Option String := none
  matricNumber : Option String := none
  academicStatus : Option AcademicStatus := none
  deriving DecidableEq

def CreateStudentDto.student (dto : CreateStudentDto) (newId : String) (now : Nat) : StudentProfile where
  id := newId
  userId := dto.userId
  institutionId := dto.institutionId
  facultyId := dto.facultyId
  departmentId := dto.departmentId
  currentAcademicLevelId := dto.currentAcademicLevelId
  matricNumber := dto.matricNumber
  academicStatus := dto.academicStatus.getD .active
  onboardingStep := .completed
  onboardingCompleted := true
  onboardingCompletedAt := some now

structure AddAcademicRecordDto where
  sessionId : String
  departmentId : String
  academicLevelId : String
  status : Option AcademicStatus := none
  deriving DecidableEq

def AddAcademicRecordDto.record (dto : AddAcademicRecordDto) (studentId : String) : StudentAcademicRecord where
  studentId := studentId
  sessionId := dto.sessionId
  departmentId := dto.departmentId
  academicLevelId := dto.academicLevelId
  status := dto.status.getD .active

/-- The level of a new record becomes the student's. -/
def AddAcademicRecordDto.levelPatch (dto : AddAcademicRecordDto) : UpdateStudentDto where
  currentAcademicLevelId := .value dto.academicLevelId

namespace StudentsService

/-- The faculty is of the institution. -/
def findFaculty (facultyId institutionId : String) : AcademicsAction Unit := do
  let faculty ← outside fun d => d.faculties.find facultyId
  let faculty ← orThrow faculty (.notFound "Faculty not found")
  ensure (faculty.institutionId = institutionId)
    (.badRequest "Faculty must belong to the selected institution")

/-- The department is of the faculty. -/
def findDepartment (departmentId facultyId : String) : AcademicsAction Unit := do
  let department ← outside fun d => d.departments.find departmentId
  let department ← orThrow department (.notFound "Department not found")
  ensure (department.facultyId = facultyId)
    (.badRequest "Department must belong to the selected faculty")

/-- The level, if one is given, is of the department. -/
def findLevel (academicLevelId : Option String) (departmentId : String) : AcademicsAction Unit :=
  whenSome academicLevelId fun academicLevelId => do
    let level ← outside fun d => d.campus.levels.find academicLevelId
    let level ← orThrow level (.notFound "Academic level not found")
    ensure (level.departmentId = departmentId)
      (.badRequest "Academic level must belong to the selected department")

/-- No profile has the number, if one is given. -/
def checkMatricNumber (matricNumber : Option String) : AcademicsAction Unit :=
  whenSome matricNumber fun matricNumber => do
    let existingMatric ← outside fun d =>
      d.campus.students.findFirst fun s => s.matricNumber = some matricNumber
    ensure existingMatric.isNone (.conflict "Matric number already exists")

def createStudent (dto : CreateStudentDto) (newId : String) : AcademicsAction Unit := do
  let user ← outside fun d => d.campus.users.find? fun u => u = dto.userId
  let _ ← orThrow user (.notFound "User not found")
  let existing ← outside fun d => d.campus.studentOf dto.userId
  ensure existing.isNone (.conflict "User already has a student profile")
  let institution ← outside fun d => d.campus.institutions.find dto.institutionId
  let _ ← orThrow institution (.notFound "Institution not found")
  findFaculty dto.facultyId dto.institutionId
  findDepartment dto.departmentId dto.facultyId
  findLevel (given dto.currentAcademicLevelId) dto.departmentId
  checkMatricNumber (given dto.matricNumber)
  let now ← query fun d => d.campus.now
  statement (.createStudent (dto.student newId now))
  getOrCreateWallet dto.userId
  attempt invalidateCache
  logActivity

/-- The faculty, department and level that the request gives are there. -/
def checkThere (dto : UpdateStudentDto) : AcademicsAction Unit := do
  whenSome (given dto.facultyId.toOption) fun facultyId => do
    let faculty ← outside fun d => d.faculties.find facultyId
    ensure faculty.isSome (.notFound "Faculty not found")
  whenSome (given dto.departmentId.toOption) fun departmentId => do
    let department ← outside fun d => d.departments.find departmentId
    ensure department.isSome (.notFound "Department not found")
  whenSome (given dto.currentAcademicLevelId.toOption) fun academicLevelId => do
    let level ← outside fun d => d.campus.levels.find academicLevelId
    ensure level.isSome (.notFound "Academic level not found")

def updateStudent (id : String) (dto : UpdateStudentDto) : AcademicsAction Unit := do
  let student ← outside fun d => d.campus.students.find id
  let _ ← orThrow student (.notFound "Student not found")
  checkThere dto
  statement (.updateStudent id dto)
  attempt invalidateCache
  logActivity

def addAcademicRecord (studentId : String) (dto : AddAcademicRecordDto) : AcademicsAction Unit := do
  let student ← outside fun d => d.campus.students.find studentId
  let student ← orThrow student (.notFound "Student not found")
  let session ← outside fun d => d.campus.sessions.find dto.sessionId
  let _ ← orThrow session (.notFound "Academic session not found")
  let department ← outside fun d => d.departments.find dto.departmentId
  let _ ← orThrow department (.notFound "Department not found")
  let level ← outside fun d => d.campus.levels.find dto.academicLevelId
  let _ ← orThrow level (.notFound "Academic level not found")
  let existing ← outside fun d =>
    d.campus.records.find? fun r => r.studentId = studentId ∧ r.sessionId = dto.sessionId
  ensure existing.isNone (.conflict "Academic record already exists for this session")
  statement (.createRecord (dto.record studentId))
  when (student.currentAcademicLevelId ≠ some dto.academicLevelId)
    (statement (.updateStudent studentId dto.levelPatch))
  attempt invalidateCache
  logActivity

end StudentsService

end Heightt.Campus
