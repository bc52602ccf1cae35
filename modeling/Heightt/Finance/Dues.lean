import Heightt.Finance.Payments
import Heightt.ReadCommitted.Alone

/-!
# FinanceService: dues

The dues a student is shown, the students a due is assigned to, and the
assignment that an external payment of a due is for. Which students a due is for
is written three times: as a filter of dues, as a filter of students, and as
`assertDueLevel`.
-/

namespace Heightt.FinanceService

open ReadCommitted Prog Store

/-! ## Due resolution -/

def isPaidFor (d : Db) (assignmentId : Id) : Bool :=
  d.duePayments.rows.any fun p => p.assignmentId = assignmentId

/-- The payment amount, if it is given, is the amount due. -/
def assertPaymentAmount (paymentAmount : Option Int) (amount : Int) : Action Unit :=
  ensure (∀ a ∈ paymentAmount, a = amount)
    (.badRequest ("Due payment amount must be exactly " ++ toString amount ++ " Kobo"))

/-- The payment names an assignment, which is read with its student, due and payments. -/
def resolveAssigned (userId dueAssignmentId : Id) (paymentAmount : Option Int) :
    Action (Option Id) := do
  let assignment ← outside fun d => d.dueAssignments.find dueAssignmentId
  let assignment ← orThrow assignment (.notFound "Due assignment not found")
  let student ← outside fun d => d.studentProfiles.find assignment.studentId
  let student ← orThrow student (.error "Inconsistent query result: Field student is required")
  let due ← outside fun d => d.dues.find assignment.dueId
  let due ← orThrow due (.error "Inconsistent query result: Field due is required")
  let paidFor ← outside fun d => isPaidFor d assignment.id
  ensure (student.userId = userId) (.forbidden "This due assignment does not belong to you")
  let _ ← assertDueLevel due student
  ensure (¬(assignment.isPaid ∨ paidFor)) (.badRequest "This due has already been paid")
  ensure (due.status = .active)
    (.badRequest "This due is visible for your records but is not open for payment")
  let _ ← assertPaymentAmount paymentAmount assignment.amount
  pure (some dueAssignmentId)

/-- A due of a session that has been closed creates no new obligations. -/
def assertSessionOpen (due : Due) : Action Unit :=
  whenSome due.sessionId fun sessionId => do
    let dueSession ← outside fun d => d.academicSessions.find sessionId
    ensure (dueSession.any fun s => s.isCurrent ∧ s.status = .active)
      (.badRequest "This due belongs to a previous academic session and cannot be newly assigned")

/-- The payment names a due, which is assigned on payment. -/
def resolveDue (userId dueId : Id) (paymentAmount : Option Int) (newId : Id) : Action (Option Id) := do
  let due ← outside fun d => d.dues.findFirst fun due => due.id = dueId ∧ due.deletedAt = none
  let due ← orThrow due (.notFound "Due not found")
  ensure (due.status = .active) (.badRequest "This due is not currently open for payment")
  let _ ← assertPaymentAmount paymentAmount due.amount
  let studentProfile ← outside fun d => d.studentProfiles.findFirst fun s => s.userId = userId
  let studentProfile ← orThrow studentProfile (.notFound
    "Student profile not found. Please complete your student profile first.")
  let _ ← assertDueLevel due studentProfile
  let existingAssignment ← outside fun d => d.dueAssignments.findFirst fun a =>
    a.dueId = due.id ∧ a.studentId = studentProfile.id
  match existingAssignment with
  | some a =>
    let paidFor ← outside fun d => isPaidFor d a.id
    ensure (¬(a.isPaid ∨ paidFor)) (.badRequest "This due has already been paid")
    pure (some a.id)
  | none =>
    let _ ← assertSessionOpen due
    let membership ← outside fun d => d.memberships.find? fun m =>
      m.userId = userId ∧ m.organizationId = due.organizationId
    let _ ← orThrow membership (.forbidden
      "You are not a member of this organization. Please join the organization first.")
    statement (.createDueAssignment
      { id := newId, dueId := due.id, studentId := studentProfile.id, amount := due.amount })
    pure (some newId)

/-- `resolveDueAssignment`; a new assignment gets the identifier `newId`. -/
def resolveDueAssignment (userId : Id) (dueId dueAssignmentId : Option Id)
    (paymentAmount : Option Int) (newId : Id) : Action (Option Id) :=
  match dueAssignmentId, dueId with
  | some dueAssignmentId, _ => resolveAssigned userId dueAssignmentId paymentAmount
  | none, some dueId => resolveDue userId dueId paymentAmount newId
  | none, none => pure none

/-! ## The dues of a student -/

/-- The levels that have dues. -/
def hasDues (level : Option Nat) : Bool := level.any fun l => l = 100 ∨ 200 ≤ l

/-- The filter of dues in `getMyDues`. -/
def dueAudience (student : StudentProfile) (due : Due) : Bool :=
  if student.isDirectEntry then due.isFresher && due.isDirectEntryEligible
  else due.isFresher = decide (student.numericLevel = some 100)

/-- The identifier of an entry: the assignment's, or `due_` and the due's. -/
inductive MyDueId where
  | assignment (id : Id)
  | due (id : Id)
  deriving DecidableEq

inductive SessionCategory where
  | allSessions | current | previous
  deriving DecidableEq, Repr

/-- An entry of `getMyDues`. -/
structure MyDue where
  id : MyDueId
  dueId : Id
  studentId : Id
  amount : Int
  isPaid : Bool
  createdAt : Nat
  due : Due
  sessionCategory : SessionCategory
  isOutstanding : Bool
  isArrear : Bool
  canPay : Bool
  isAutoAssigned : Bool
  deriving DecidableEq

/-- The identifier of the entry's assignment, if it has one. -/
def MyDue.dueAssignmentId (e : MyDue) : Option Id :=
  match e.id with
  | .assignment id => some id
  | .due _ => none

/-- `dueById.set` of a map that is the list of its values, in insertion order. -/
def setDue (dues : List Due) (due : Due) : List Due :=
  if dues.any fun other => other.id = due.id then
    dues.map fun other => if other.id = due.id then due else other
  else dues ++ [due]

def sessionCategory (currentSession : Option AcademicSession) (due : Due) : SessionCategory :=
  match due.sessionId with
  | none => .allSessions
  | some sessionId => if currentSession.map AcademicSession.id = some sessionId then .current else .previous

def myDue (student : StudentProfile) (currentSession : Option AcademicSession)
    (assignments : List (DueAssignment × Due)) (due : Due) : MyDue :=
  -- the last assignment that the map was given for the due
  let assignment := (assignments.reverse.find? fun a => a.1.dueId = due.id).map Prod.fst
  let isPaid := assignment.any DueAssignment.isPaid
  let sessionCategory := sessionCategory currentSession due
  { id := assignment.elim (.due due.id) fun a => .assignment a.id
    dueId := due.id
    studentId := student.id
    amount := assignment.elim due.amount DueAssignment.amount
    isPaid
    createdAt := assignment.elim due.createdAt DueAssignment.createdAt
    due
    sessionCategory
    isOutstanding := !isPaid
    isArrear := !isPaid && sessionCategory = .previous
    canPay := !isPaid && due.status = .active
    isAutoAssigned := assignment.isNone }

/-- Arrears first, then the newest. -/
def listedBefore (a b : MyDue) : Bool :=
  if a.isArrear ≠ b.isArrear then a.isArrear else b.createdAt ≤ a.createdAt

/-- The dues that can still be assigned to the student. -/
def availableDues (d : Db) (student : StudentProfile) (organizationIds : List Id)
    (currentSession : Option AcademicSession) : List Due :=
  (d.dues.rows.filter fun due => due.organizationId ∈ organizationIds ∧ due.deletedAt = none ∧
    dueAudience student due ∧ due.status = .active ∧
    (due.sessionId = none ∨ ∃ s ∈ currentSession, due.sessionId = some s.id)).mergeSort
      fun a b => b.createdAt ≤ a.createdAt

/-- The student's assignments, with their dues: those that are not paid and those
of the available dues. -/
def assignedDues (d : Db) (student : StudentProfile) (availableDueIds : List Id) :
    List (DueAssignment × Due) :=
  (d.dueAssignments.rows.filterMap fun a =>
    ((d.dues.find a.dueId).filter fun due => a.studentId = student.id ∧ dueAudience student due ∧
      (a.isPaid = false ∨ a.dueId ∈ availableDueIds)).map fun due => (a, due)).mergeSort
        fun a b => b.1.createdAt ≤ a.1.createdAt

def getMyDues (userId : Id) : Action (List MyDue) := do
  let studentProfile ← outside fun d => d.studentProfiles.findFirst fun s => s.userId = userId
  match studentProfile with
  | none => pure []
  | some student =>
    if hasDues student.numericLevel then do
      let organizationIds ← outside fun d =>
        (d.memberships.filter fun m => m.userId = userId).map Membership.organizationId
      let currentSession ← outside fun d => d.academicSessions.findFirst fun s =>
        s.institutionId = student.institutionId ∧ s.scope = .institution ∧ s.isCurrent
      let available ← outside fun d => availableDues d student organizationIds currentSession
      let assignments ← outside fun d => assignedDues d student (available.map Due.id)
      let dueById := assignments.foldl (fun dues a => setDue dues a.2) (available.foldl setDue [])
      pure ((dueById.map (myDue student currentSession assignments)).mergeSort listedBefore)
    else pure []

/-! ## The students of a due -/

structure AssignDueDto where
  studentIds : List Id := []
  departmentId : Option Id := none
  levelId : Option Id := none

/-- The filter of students in `assignDueToStudents`. -/
def studentAudience (due : Due) (student : StudentProfile) : Bool :=
  if due.isFresher then
    (!student.isDirectEntry && student.numericLevel = some 100) ||
      (due.isDirectEntryEligible && (student.isDirectEntry && student.numericLevel.any (200 ≤ ·)))
  else !student.isDirectEntry && student.numericLevel.any (200 ≤ ·)

/-- The students of a department or level, if one is given. -/
def studentsWith (given : Option Id) (column : StudentProfile → Option Id) : Action (List Id) :=
  match given with
  | none => pure []
  | some id => outside fun d =>
    (d.studentProfiles.rows.filter fun s => column s = some id).map StudentProfile.id

/-- `assignDueToStudents`, which returns the number of assignments that it created:
those of the students who had none yet. A new assignment gets its identifier from `newIds`. -/
def assignDueToStudents (dueId : Id) (dto : AssignDueDto) (newIds : Id → Id) : Action Nat := do
  let due ← outside fun d => d.dues.findFirst fun due => due.id = dueId ∧ due.deletedAt = none
  let due ← orThrow due (.notFound "Due not found")
  let ofDepartment ← studentsWith dto.departmentId fun s => some s.departmentId
  let ofLevel ← studentsWith dto.levelId StudentProfile.currentAcademicLevelId
  let studentIds ← outside fun d => (d.studentProfiles.rows.filter fun s =>
    s.id ∈ dto.studentIds ++ ofDepartment ++ ofLevel ∧ studentAudience due s).map StudentProfile.id
  ensure (studentIds ≠ []) (.badRequest "No students found to assign due")
  let created ← transaction do
    -- skipDuplicates: a student who has an assignment keeps it
    let studentIds ← query fun d => studentIds.filter fun id =>
      !d.dueAssignments.rows.any fun a => a.dueId = dueId ∧ a.studentId = id
    forEach studentIds fun id => exec (.createDueAssignment
      { id := newIds id, dueId, studentId := id, amount := due.amount })
    pure studentIds.length
  statement (.createRecord .activityLog)
  pure created

end Heightt.FinanceService
