import Heightt.Campus.Database

/-!
# PromotionService: single students and lists of students

`promoteStudent` checks one student against the request; `bulkPromoteStudents`
checks the request once and goes through a list.
-/

namespace Heightt.Campus

open Store ReadCommitted Prog

structure PromoteStudentDto where
  fromLevelId : String
  toLevelId : String
  sessionId : String
  promotionDate : Option Nat := none
  notes : Option String := none
  deriving DecidableEq

structure BulkPromoteDto where
  fromLevelId : String
  toLevelId : String
  sessionId : String
  departmentId : Option String := none
  studentIds : List String := []
  promoteAll : Bool := false
  notes : Option String := none
  deriving DecidableEq

/-- What the list says about one student. -/
structure PromotionResult where
  studentId : String
  promotionId : Option String := none
  error : Option CampusError := none
  deriving DecidableEq

namespace PromotionService

/-- The row of a promotion. -/
def promotionRow (studentId userId newId : String) (dto : PromoteStudentDto) (now : Nat) :
    StudentPromotion where
  id := newId
  studentId := studentId
  fromLevelId := dto.fromLevelId
  toLevelId := dto.toLevelId
  sessionId := dto.sessionId
  promotedBy := userId
  promotionDate := dto.promotionDate.getD now
  notes := dto.notes

/-- The student is on the level, and no longer a direct entrant. -/
def levelPatch (toLevelId : String) : StudentPatch where
  currentAcademicLevelId := some toLevelId
  isDirectEntry := some false

def findLevels (fromLevelId toLevelId sessionId : String) : CampusAction Unit := do
  let fromLevel ← outside fun d => d.levels.find fromLevelId
  let fromLevel ← orThrow fromLevel (.notFound "From level not found")
  let toLevel ← outside fun d => d.levels.find toLevelId
  let toLevel ← orThrow toLevel (.notFound "To level not found")
  let session ← outside fun d => d.sessions.find sessionId
  let _ ← orThrow session (.notFound "Academic session not found")
  ensure (fromLevel.departmentId = toLevel.departmentId)
    (.badRequest "Levels must belong to the same department")

def promoteStudent (studentId userId : String) (dto : PromoteStudentDto) (newId : String) :
    CampusAction Unit := do
  let student ← outside fun d => d.students.find studentId
  let student ← orThrow student (.notFound "Student not found")
  findLevels dto.fromLevelId dto.toLevelId dto.sessionId
  ensure (student.currentAcademicLevelId ≠ some dto.toLevelId)
    (.badRequest "Student is already at this level")
  ensure (student.currentAcademicLevelId = some dto.fromLevelId)
    (.badRequest "Student is not currently in the specified from level")
  let existingPromotion ← outside fun d => d.promotions.find? fun p => p.studentId = studentId ∧
    p.sessionId = dto.sessionId ∧ p.fromLevelId = dto.fromLevelId ∧ p.toLevelId = dto.toLevelId
  ensure existingPromotion.isNone
    (.badRequest "Student already has a promotion record for this session")
  let now ← query CampusDb.now
  transaction do
    exec (.createPromotion (promotionRow studentId userId newId dto now))
    exec (.updateStudent studentId (levelPatch dto.toLevelId))
  CacheService.invalidate
  statement .createActivityLog
  NotificationService.createNotification student.userId

/-- The single promotion that stands for an entry of the list. -/
def entry (dto : BulkPromoteDto) : PromoteStudentDto where
  fromLevelId := dto.fromLevelId
  toLevelId := dto.toLevelId
  sessionId := dto.sessionId
  notes := if dto.notes.getD "" = "" then some "Bulk promotion" else dto.notes

def findStudents (dto : BulkPromoteDto) : CampusAction (List String) :=
  if dto.promoteAll ∨ dto.studentIds = [] then
    outside fun d => (d.students.rows.filter fun s =>
      s.currentAcademicLevelId = some dto.fromLevelId ∧
        (dto.departmentId.getD "" ≠ "" → dto.departmentId = some s.departmentId)).map StudentProfile.id
  else pure dto.studentIds

/-- One student of the list: an error ends up in the results. -/
def promoteEntry (userId : String) (dto : BulkPromoteDto) (newId studentId : String) :
    CampusAction (List PromotionResult) :=
  onThrow
    (do
      let now ← query CampusDb.now
      transaction do
        exec (.createPromotion (promotionRow studentId userId newId (entry dto) now))
        exec (.updateStudent studentId (levelPatch dto.toLevelId))
      notify)
    fun e => pure [{ studentId, error := some e }]
where
  success : PromotionResult := { studentId, promotionId := some newId }
  /-- A student who cannot be notified counts twice. -/
  notify : CampusAction (List PromotionResult) :=
    onThrow
      (do
        let student ← outside fun d => d.students.find studentId
        whenSome student fun s => NotificationService.createNotification s.userId
        pure [success])
      fun e => pure [success, { studentId, error := some e }]

def promoteEntries (userId : String) (dto : BulkPromoteDto) (newId : Nat → String) :
    Nat → List String → CampusAction (List PromotionResult)
  | _, [] => pure []
  | n, studentId :: studentIds => do
    let results ← promoteEntry userId dto (newId n) studentId
    let rest ← promoteEntries userId dto newId (n + 1) studentIds
    pure (results ++ rest)

/-- The student has a promotion record for the session. -/
def HasRecord (d : CampusDb) (dto : BulkPromoteDto) (studentId : String) : Prop :=
  ∃ p ∈ d.promotions, p.studentId = studentId ∧ p.sessionId = dto.sessionId ∧
    p.fromLevelId = dto.fromLevelId ∧ p.toLevelId = dto.toLevelId

instance (d : CampusDb) (dto : BulkPromoteDto) (studentId : String) :
    Decidable (HasRecord d dto studentId) :=
  inferInstanceAs (Decidable (∃ p ∈ d.promotions, _))

def bulkPromoteStudents (userId : String) (dto : BulkPromoteDto) (newId : Nat → String) :
    CampusAction (List PromotionResult) := do
  findLevels dto.fromLevelId dto.toLevelId dto.sessionId
  let studentIds ← findStudents dto
  ensure (studentIds ≠ []) (.badRequest "No students found to promote")
  let filteredStudentIds ← outside fun d => studentIds.filter fun id => ¬HasRecord d dto id
  ensure (filteredStudentIds ≠ [])
    (.badRequest "All selected students already have promotion records for this session")
  let results ← promoteEntries userId dto newId 0 filteredStudentIds
  CacheService.invalidate
  statement .createActivityLog
  pure results

end PromotionService

end Heightt.Campus
