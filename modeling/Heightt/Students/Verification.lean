import Heightt.Guards.PermissionService
import Heightt.ReadCommitted.Guarantee

/-!
# Student verification

The two endpoints with `StudentsService.requestVerification` and `verifyStudent`. The first
one declares a permission and has no guard that would ask for it; the second one is guarded by
`AdminGuard` for a permission that names no student.
-/

namespace Heightt.Students

open Store ReadCommitted Prog
open AdminGuard (Request Handler activeAdmins canActivate)
open PermissionService (PermissionDb)

inductive VerificationStatus where
  | unverified | verified | pending | rejected
  deriving DecidableEq, Repr

structure StudentProfile where
  id : String
  userId : String
  verificationStatus : VerificationStatus := .unverified
  verifiedAt : Option Nat := none
  deriving DecidableEq

structure StudentVerification where
  id : String
  studentId : String
  verifiedBy : Option String := none
  status : VerificationStatus := .pending
  documentUrl : Option String := none
  notes : Option String := none
  requestedAt : Nat
  verifiedAt : Option Nat := none
  deriving DecidableEq

structure StudentsDb where
  students : Table StudentProfile String StudentProfile.id := .empty
  verifications : Table StudentVerification String StudentVerification.id := .empty
  /-- What the guard and the permission service read. -/
  permissions : PermissionDb String := { organizations := .empty }
  now : Nat := 0

inductive StudentsError where
  | unauthorized
  | forbidden
  | notFound (message : String)
  | conflict (message : String)
  /-- A status that is none of the database's. -/
  | validation
  /-- `status.toUpperCase()` of `undefined`. -/
  | typeError
  | uniqueConstraint
  | recordNotFound
  | foreignKeyConstraint
  | fault
  deriving DecidableEq

/-- What `verifyStudent` writes to a request; a missing status is not written. -/
structure VerificationPatch where
  status : Option VerificationStatus
  verifiedBy : String
  verifiedAt : Nat
  notes : Option String
  deriving DecidableEq

def VerificationPatch.apply (p : VerificationPatch) (v : StudentVerification) : StudentVerification :=
  { v with
    status := p.status.getD v.status
    verifiedBy := some p.verifiedBy
    verifiedAt := some p.verifiedAt
    notes := p.notes.or v.notes }

def StudentProfile.verify (verifiedAt : Nat) (s : StudentProfile) : StudentProfile :=
  { s with verificationStatus := .verified, verifiedAt := some verifiedAt }

inductive StudentsStmt where
  | createVerification (verification : StudentVerification)
  | updateVerification (id : String) (patch : VerificationPatch)
  | verifyProfile (studentId : String) (verifiedAt : Nat)
  | createActivityLog (userId activity : String)
  deriving DecidableEq

inductive StudentsRow where
  | student (id : String)
  | verification (id : String)
  deriving DecidableEq

namespace StudentsStmt

def apply : StudentsStmt → StudentsDb → StudentsDb
  | createVerification v, d => { d with verifications := d.verifications.insert v }
  | updateVerification id patch, d =>
    { d with verifications := d.verifications.modify id patch.apply fun _ => rfl }
  | verifyProfile studentId verifiedAt, d =>
    { d with students := d.students.modify studentId (StudentProfile.verify verifiedAt) fun _ => rfl }
  | createActivityLog _ _, d => d

/-- The constraint a statement violates. -/
def check : StudentsStmt → StudentsDb → Option StudentsError
  | createVerification v, d =>
    if (d.verifications.find v.id).isSome then some .uniqueConstraint
    else if (d.students.find v.studentId).isSome then none else some .foreignKeyConstraint
  | updateVerification id _, d => if (d.verifications.find id).isSome then none else some .recordNotFound
  | verifyProfile studentId _, d => if (d.students.find studentId).isSome then none else some .recordNotFound
  | createActivityLog _ _, _ => none

/-- The rows that a statement locks. -/
def rows : StudentsStmt → List StudentsRow
  | createVerification _ | createActivityLog _ _ => []
  | updateVerification id _ => [.verification id]
  | verifyProfile studentId _ => [.student studentId]

end StudentsStmt

/-- No integer column is counted here. -/
instance : Database StudentsDb StudentsStmt StudentsRow Empty StudentsError where
  apply := StudentsStmt.apply
  check := StudentsStmt.check
  rows := StudentsStmt.rows
  value _ c := c.elim
  change _ c := c.elim
  cols _ := []
  change_of_not_mem {_ c} := c.elim
  value_apply c := c.elim

/-- Redis, which is only told to forget entries. -/
inductive StudentsCall where
  | invalidateStudentsCache (studentId : String)
  deriving DecidableEq

def StudentsCall.Reply : StudentsCall → Type := fun _ => Unit

/-- The cache, which no modelled function reads. -/
structure StudentsCache where

instance : External StudentsCache StudentsCall StudentsCall.Reply Empty where
  handle
    | .invalidateStudentsCache _, x => (x, ())
  move m := m.elim

abbrev StudentsAction (α : Type) :=
  Prog StudentsDb StudentsStmt StudentsCall StudentsCall.Reply StudentsError α

abbrev StudentsSystem :=
  Config StudentsDb StudentsCache StudentsStmt StudentsCall StudentsCall.Reply StudentsError

/-- `@RequirePermission('student:verify')` -/
def verifyHandler : Handler := { permission := some "student:verify" }

/-- The status of a request's body: a text that is no status is rejected. -/
def parseStatus : Option String → Option (Option VerificationStatus)
  | none => some none
  | some "UNVERIFIED" => some (some .unverified)
  | some "VERIFIED" => some (some .verified)
  | some "PENDING" => some (some .pending)
  | some "REJECTED" => some (some .rejected)
  | some _ => none

namespace StudentsService

/-- An error is logged and not thrown. -/
def invalidateStudentsCache (studentId : String) : StudentsAction Unit :=
  attempt (Prog.request (C := StudentsCall) (.invalidateStudentsCache studentId) : StudentsAction Unit)

/-- Any user may call the endpoint. -/
def requestVerification (studentId userId : String) (documentUrl : Option String) (newId : String) :
    StudentsAction Unit := do
  let student ← outside fun d => d.students.find studentId
  let _ ← orThrow student (.notFound "Student not found")
  let pending ← outside fun d => d.verifications.findFirst fun v => v.studentId = studentId ∧ v.status = .pending
  ensure pending.isNone (.conflict "There is already a pending verification request")
  let now ← query StudentsDb.now
  statement (.createVerification
    { id := newId, studentId := studentId, documentUrl := documentUrl, requestedAt := now })
  invalidateStudentsCache studentId
  statement (.createActivityLog userId "STUDENT_VERIFICATION_REQUESTED")

/-- The request, and the profile if it is verified. -/
def decideVerification (verificationId studentId : String) (patch : VerificationPatch) : StudentsAction Unit :=
  transaction do
    exec (.updateVerification verificationId patch)
    when (patch.status = some .verified) (exec (.verifyProfile studentId patch.verifiedAt))

/-- With the guard of its endpoint. -/
def verifyStudent (req : Request String) (verificationId : String) (status notes : Option String) :
    StudentsAction Unit := do
  let admitted ← outside fun d => (canActivate d.permissions.toGuardDb verifyHandler req).toOption
  let _ ← orThrow admitted .forbidden
  let userId ← orThrow req.user .unauthorized
  let verification ← outside fun d => d.verifications.find verificationId
  let verification ← orThrow verification (.notFound "Verification request not found")
  let parsed ← orThrow (parseStatus status) .validation
  let now ← query StudentsDb.now
  decideVerification verificationId verification.studentId
    { status := parsed, verifiedBy := userId, verifiedAt := now, notes := notes }
  invalidateStudentsCache verification.studentId
  let text ← orThrow status .typeError
  statement (.createActivityLog userId ("STUDENT_VERIFICATION_" ++ text))

end StudentsService

end Heightt.Students
