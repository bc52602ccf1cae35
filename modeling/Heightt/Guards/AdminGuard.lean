import Heightt.Schema.Rows

/-!
# AdminGuard

`admin.guard.ts`: which of a user's admin records a request is let in on. The
identifiers `K` are the non-empty texts: an empty or missing one is `none`. The
queries are answered from one state of the tables, and a query that the client
library rejects ends in the guard's catch-all error.
-/

namespace Heightt.AdminGuard

open Store

structure AdminPermission (K : Type) where
  permissionKey : String
  resourceId : Option K := none
  deriving DecidableEq

structure AdminRecord (K : Type) where
  id : K
  userId : K
  adminType : AdminType
  institutionId : Option K := none
  facultyId : Option K := none
  departmentId : Option K := none
  organizationId : Option K := none
  academicSessionId : Option K := none
  isActive : Bool := true
  permissions : List (AdminPermission K) := []
  deriving DecidableEq

structure OrganizationRow (K : Type) where
  id : K
  academicSessionId : Option K := none
  institutionId : Option K := none
  facultyId : Option K := none
  departmentId : Option K := none
  deriving DecidableEq

structure FacultyRow (K : Type) where
  id : K
  institutionId : K
  deriving DecidableEq

structure DepartmentRow (K : Type) where
  id : K
  facultyId : K
  deriving DecidableEq

/-- A membership or a due, with the session it belongs to, or an event or an announcement. -/
structure ResourceRow (K : Type) where
  id : K
  organizationId : Option K
  sessionId : Option K := none
  deriving DecidableEq

structure GuardDb (K : Type) where
  admins : List (AdminRecord K) := []
  organizations : Table (OrganizationRow K) K OrganizationRow.id
  faculties : List (FacultyRow K) := []
  departments : List (DepartmentRow K) := []
  memberships : List (ResourceRow K) := []
  dues : List (ResourceRow K) := []
  events : List (ResourceRow K) := []
  announcements : List (ResourceRow K) := []

/-- What the decorators of a handler require. -/
structure Handler where
  adminTypes : List AdminType := []
  permission : Option String := none
  resourceIdParam : Option String := none

structure Request (K : Type) where
  user : Option K
  params : String → Option K := fun _ => none
  query : String → Option K := fun _ => none
  body : String → Option K := fun _ => none

inductive GuardError where
  | unauthorized (message : String)
  | forbidden (message : String)
  deriving DecidableEq

/-- What the guard answers when a query fails. -/
def guardFailed : GuardError := .forbidden "Admin access required"

variable {K : Type} [DecidableEq K]

namespace Request

variable (request : Request K)

def organizationId : Option K :=
  (request.params "organizationId").or <| (request.query "organizationId").or <|
    request.body "organizationId"

def academicSessionId : Option K :=
  (request.params "academicSessionId").or <| (request.query "academicSessionId").or <|
  (request.body "academicSessionId").or <| (request.params "sessionId").or <|
  (request.query "sessionId").or <| request.body "sessionId"

def facultyId : Option K := (request.params "facultyId").or (request.query "facultyId")

def departmentId : Option K := (request.params "departmentId").or (request.query "departmentId")

def institutionId : Option K := (request.params "institutionId").or (request.query "institutionId")

def resourceId (handler : Handler) : Option K := handler.resourceIdParam.bind request.params

end Request

/-! ## The resource check -/

section Resource

variable (db : GuardDb K)

/-- A faculty's institution is never null, and a filter on null is rejected. -/
def isResourceInInstitution (institutionId : Option K) (resourceId : K) : Except GuardError Bool :=
  match institutionId with
  | none => .error guardFailed
  | some i => .ok (
      i = resourceId ||
      db.faculties.any (fun f => f.id = resourceId ∧ f.institutionId = i) ||
      db.departments.any (fun d => d.id = resourceId ∧
        db.faculties.any fun f => f.id = d.facultyId ∧ f.institutionId = i) ||
      db.organizations.rows.any (fun o => o.id = resourceId ∧ o.institutionId = some i))

/-- A department's faculty is never null, and a filter on null is rejected. -/
def isResourceInFaculty (facultyId : Option K) (resourceId : K) : Except GuardError Bool :=
  match facultyId with
  | none => .error guardFailed
  | some f => .ok (
      f = resourceId ||
      db.departments.any (fun d => d.id = resourceId ∧ d.facultyId = f) ||
      db.organizations.rows.any (fun o => o.id = resourceId ∧ o.facultyId = some f))

/-- A filter on null finds the organizations without a department. -/
def isResourceInDepartment (departmentId : Option K) (resourceId : K) : Bool :=
  departmentId = some resourceId ||
  db.organizations.rows.any fun o => o.id = resourceId ∧ o.departmentId = departmentId

def isResourceInOrganizationSession (admin : AdminRecord K) (resourceId : K) : Bool :=
  match admin.organizationId, admin.academicSessionId with
  | some organizationId, some academicSessionId =>
    if organizationId = resourceId then
      db.organizations.rows.any fun o => o.id = resourceId ∧ o.academicSessionId = some academicSessionId
    else
      let ownSession := db.organizations.rows.any fun o =>
        o.id = organizationId ∧ o.academicSessionId = some academicSessionId
      db.memberships.any (fun r => r.id = resourceId ∧ r.organizationId = some organizationId ∧
        r.sessionId = some academicSessionId) ||
      db.dues.any (fun r => r.id = resourceId ∧ r.organizationId = some organizationId ∧
        r.sessionId = some academicSessionId) ||
      db.events.any (fun r => r.id = resourceId ∧ r.organizationId = some organizationId ∧ ownSession) ||
      db.announcements.any
        (fun r => r.id = resourceId ∧ r.organizationId = some organizationId ∧ ownSession)
  | _, _ => false

def isResourceInAdminScope (admin : AdminRecord K) (resourceId : K) : Except GuardError Bool :=
  match admin.adminType with
  | .platformAdmin => .ok true
  | .institutionAdmin => isResourceInInstitution db admin.institutionId resourceId
  | .facultyAdmin => isResourceInFaculty db admin.facultyId resourceId
  | .departmentAdmin => .ok (isResourceInDepartment db admin.departmentId resourceId)
  | .organizationAdmin | .clubAdmin => .ok (isResourceInOrganizationSession db admin resourceId)

def checkPermissionForAdmin (admin : AdminRecord K) (permissionKey : String) (resourceId : Option K) :
    Except GuardError Bool :=
  if admin.adminType = .platformAdmin then .ok true
  else
    let hasPermission := admin.permissions.any fun perm =>
      perm.permissionKey = permissionKey ∧
        (resourceId.isSome → perm.resourceId = none ∨ perm.resourceId = resourceId)
    match hasPermission, resourceId with
    | false, _ => .ok false
    | true, none => .ok true
    | true, some r => isResourceInAdminScope db admin r

/-- The first of the records that has the permission. -/
def firstPermitted (permissionKey : String) (resourceId : Option K) :
    List (AdminRecord K) → Except GuardError (Option (AdminRecord K))
  | [] => .ok none
  | admin :: admins =>
    match checkPermissionForAdmin db admin permissionKey resourceId with
    | .ok true => .ok (some admin)
    | .ok false => firstPermitted permissionKey resourceId admins
    | .error e => .error e

end Resource

/-! ## The matching record -/

section Matching

variable (db : GuardDb K) (admins : List (AdminRecord K)) (request : Request K)

/-- The record for the organization and the session asked for, or else its current session. -/
def organizationMatch (academicSessionId : Option K) (organizationId : K) : Option (AdminRecord K) :=
  let organizationAdmins := admins.filter fun a => a.organizationId = some organizationId
  match academicSessionId with
  | some s => organizationAdmins.find? fun a => a.academicSessionId = some s
  | none => (db.organizations.find organizationId).bind fun o =>
    organizationAdmins.find? fun a => a.academicSessionId = o.academicSessionId

/-- The loop over the broader scopes compares every unit a record carries. -/
def includesOrganization (organization : Option (OrganizationRow K)) (a : AdminRecord K) : Bool :=
  a.adminType = .platformAdmin ||
  organization.any fun o =>
    (a.institutionId.isSome && o.institutionId = a.institutionId) ||
    (a.facultyId.isSome && o.facultyId = a.facultyId) ||
    (a.departmentId.isSome && o.departmentId = a.departmentId)

def matchingAdmin : Option (AdminRecord K) :=
  (request.organizationId.bind (organizationMatch db admins request.academicSessionId)).or <|
  (request.facultyId.bind fun id => admins.find? fun a => a.facultyId = some id).or <|
  (request.departmentId.bind fun id => admins.find? fun a => a.departmentId = some id).or <|
  (request.institutionId.bind fun id => admins.find? fun a => a.institutionId = some id).or <|
  (request.organizationId.bind fun id =>
    admins.find? (includesOrganization (db.organizations.find id))).or <|
  admins.find? fun a => a.adminType = .platformAdmin

/-- The records that count when the request names a session. -/
def eligibleAdmins : List (AdminRecord K) :=
  match request.academicSessionId with
  | some s => admins.filter fun a =>
    (a.adminType ≠ .organizationAdmin ∧ a.adminType ≠ .clubAdmin) ∨ a.academicSessionId = some s
  | none => admins

end Matching

/-- The active records of a user. -/
def activeAdmins (db : GuardDb K) (userId : K) : List (AdminRecord K) :=
  db.admins.filter fun a => a.userId = userId ∧ a.isActive

section Steps

variable (db : GuardDb K) (handler : Handler) (request : Request K) (admins : List (AdminRecord K))

/-- The matching record; a request that names nothing takes the first one. -/
def requireScope : Except GuardError (AdminRecord K) :=
  match matchingAdmin db admins request with
  | some a => .ok a
  | none =>
    if request.organizationId.isSome ∨ request.facultyId.isSome ∨ request.departmentId.isSome ∨
        request.institutionId.isSome then
      .error (.forbidden
        "This admin assignment does not include the requested scope or academic session")
    else match admins.head? with
      | some a => .ok a
      | none => .error guardFailed

def requireType : Except GuardError Unit :=
  if handler.adminTypes = [] ∨ ∃ a ∈ admins, a.adminType ∈ handler.adminTypes then .ok ()
  else .error (.forbidden "Insufficient admin privileges")

/-- With a resource, every eligible record is asked, and the one that has the
permission takes the place of the matching one. -/
def requirePermission (matching : AdminRecord K) : Except GuardError (AdminRecord K) :=
  match handler.permission with
  | none => .ok matching
  | some permission =>
    let resourceId := request.resourceId handler
    let checked := if resourceId.isSome then eligibleAdmins admins request else [matching]
    match firstPermitted db permission resourceId checked with
    | .ok (some a) => .ok a
    | .ok none => .error (.forbidden ("Missing required permission: " ++ permission))
    | .error e => .error e

end Steps

/-- The record that the request is let in on, which the guard attaches to the request. -/
def canActivate (db : GuardDb K) (handler : Handler) (request : Request K) :
    Except GuardError (AdminRecord K) :=
  match request.user with
  | none => .error (.unauthorized "Authentication required")
  | some userId =>
    let admins := activeAdmins db userId
    if admins = [] then .error guardFailed
    else do
      let matching ← requireScope db request admins
      requireType handler admins
      requirePermission db handler request admins matching

end Heightt.AdminGuard
