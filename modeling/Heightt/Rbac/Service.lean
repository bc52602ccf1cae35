import Heightt.Rbac.Database

/-!
# RbacService

The part of `rbac.service.ts` that changes the permissions of an admin, and that creates roles
and gives them to the members of an organization.
-/

namespace Heightt.Rbac

open Store ReadCommitted Prog Campus

/-- The cache; of its entries only the permissions of the admins are kept here. -/
structure RbacCache where
  admins : List (String × List AdminPermission) := []

inductive CacheCall where
  | get (adminId : String)
  | setWithTag (adminId : String) (value : List AdminPermission) (tags : List String)
  | invalidateByTag (tag : String)
  | delete (key : String)
  | invalidatePattern (pattern : String)
  deriving DecidableEq

def CacheCall.Reply : CacheCall → Type
  | get _ => Option (List AdminPermission)
  | _ => Unit

/-- An entry for an admin has the tags `rbac`, `admins` and `permissions`. -/
instance : External RbacCache CacheCall CacheCall.Reply Empty where
  handle
    | .get adminId, x => (x, (x.admins.find? fun e => e.1 = adminId).map Prod.snd)
    | .setWithTag adminId value _, x => (⟨(adminId, value) :: x.admins.filter fun e => e.1 ≠ adminId⟩, ())
    | .invalidateByTag tag, x => (if tag ∈ ["rbac", "admins", "permissions"] then {} else x, ())
    | .delete _, x => (x, ())
    | .invalidatePattern pattern, x => (if pattern = "admin:permissions:*" then {} else x, ())
  move m := m.elim

abbrev RbacAction (α : Type) := Prog RbacDb RbacStmt CacheCall CacheCall.Reply RbacError α

def CacheService.get (adminId : String) : RbacAction (Option (List AdminPermission)) :=
  request (C := CacheCall) (.get adminId)

def CacheService.call (c : CacheCall) : RbacAction Unit := (request (C := CacheCall) c).bind fun _ => ret ()

namespace RbacService

/-- A failure of the cache is only logged. -/
def invalidateRbacCache : RbacAction Unit :=
  attempt <| forEach
    [.invalidateByTag "rbac", .invalidateByTag "permissions", .invalidateByTag "roles",
      .invalidateByTag "admins", .invalidateByTag "user", .delete "permissions:all", .delete "admins:all",
      .invalidatePattern "permission:*", .invalidatePattern "roles:organization:*", .invalidatePattern "role:*",
      .invalidatePattern "user:permissions:*", .invalidatePattern "admin:permissions:*"]
    CacheService.call

def getAdminPermissions (adminId : String) : RbacAction (List AdminPermission) := do
  let cached ← CacheService.get adminId
  orElse cached do
    let admin ← outside fun d => (d.admins.find adminId).map fun _ => d.permissionsOf adminId
    let result ← orThrow admin (.notFound "Admin not found")
    CacheService.call (.setWithTag adminId result ["rbac", "admins", "permissions"])
    pure result

/-- The `action` of an update; `other` is any other text. -/
inductive UpdateAction where
  | ADD | REMOVE | SET | other
  deriving DecidableEq

/-- A `Set` keeps every key once, where it comes first. -/
def newKeys (existingKeys permissions : List String) : UpdateAction → Option (List String)
  | .ADD => some (existingKeys ++ permissions).eraseDups
  | .REMOVE => some (existingKeys.filter fun key => key ∉ permissions)
  | .SET => some permissions
  | .other => none

/-- The rows that are created for the keys. -/
def permissionData (adminId userId : String) (newId : Nat → String) (now : Nat) (keys : List String) :
    List AdminPermission :=
  keys.mapIdx fun i key =>
    { id := newId i, adminId, permissionKey := key, permissionCategory := .system, permissionAction := .manage,
      grantedBy := some userId, grantedAt := now }

def isPlatformAdmin (d : RbacDb) (userId : String) : Prop :=
  ∃ a ∈ d.admins.rows, a.userId = userId ∧ a.status = .active ∧ a.adminType = .platformAdmin

instance (d : RbacDb) (userId : String) : Decidable (isPlatformAdmin d userId) :=
  inferInstanceAs (Decidable (∃ a ∈ d.admins.rows, _))

def updateAdminPermissions (adminId : String) (permissions : List String) (action : UpdateAction)
    (userId : String) (newId : Nat → String) (now : Nat) : RbacAction (List AdminPermission) := do
  let admin ← outside fun d => d.admins.find adminId
  let _ ← orThrow admin (.notFound "Admin not found")
  let platformAdmin ← outside fun d => decide (isPlatformAdmin d userId)
  ensure platformAdmin (.forbidden "Only platform admins can update admin permissions")
  let existingPermissions ← outside fun d => d.permissionsOf adminId
  let existingKeys := existingPermissions.map AdminPermission.permissionKey
  let newKeys ← orThrow (newKeys existingKeys permissions action) (.badRequest "Invalid action")
  statement (.deleteAdminPermissions adminId)
  when (newKeys.length > 0)
    (statement (.createAdminPermissions (permissionData adminId userId newId now newKeys)))
  invalidateRbacCache
  getAdminPermissions adminId

structure CreateRoleDto where
  organizationId : String
  name : String
  description : Option String := none
  isSystem : Bool := false
  permissions : List String := []
  deriving DecidableEq

structure AssignRoleToUserDto where
  userId : String
  roleId : String
  organizationId : String
  deriving DecidableEq

/-- The user's ACTIVE membership as an ADMIN or STAFF of the organization. -/
def staffMembership (d : RbacDb) (userId organizationId : String) : Option OrganizationMembership :=
  d.memberships.findFirst fun m =>
    m.userId = userId ∧ m.organizationId = organizationId ∧
      (m.membershipType = .admin ∨ m.membershipType = .staff) ∧ m.status = .active

def roleRow (dto : CreateRoleDto) (newId : String) : Role where
  id := newId
  organizationId := dto.organizationId
  name := dto.name
  description := dto.description
  isSystem := dto.isSystem

def createRole (userId : String) (dto : CreateRoleDto) (newId : String) : RbacAction Unit := do
  let organization ← outside fun d => d.organizations.find dto.organizationId
  let _ ← orThrow organization (.notFound "Organization not found")
  let membership ← outside fun d => staffMembership d userId dto.organizationId
  let platformAdmin ← outside fun d => decide (isPlatformAdmin d userId)
  ensure (membership.isSome ∨ platformAdmin) (.forbidden "You do not have permission to create roles")
  let existing ← outside fun d =>
    d.roles.findFirst fun r => r.organizationId = dto.organizationId ∧ r.name = dto.name
  ensure existing.isNone (.conflict "Role with this name already exists in this organization")
  transaction do
    exec (.createRole (roleRow dto newId))
    when (dto.permissions.length > 0) do
      let permissions ← query fun d => d.permissions.filter fun p => p.key ∈ dto.permissions
      exec (.createRolePermissions (permissions.map fun p => ⟨newId, p.id⟩))
  invalidateRbacCache

/-- What `assignDefaultPermissions` gives an ORGANIZATION_ADMIN. -/
def organizationAdminPermissions : List String :=
  ["users:read", "organization:read", "organization:update", "organization:manage", "finance:read",
    "finance:due:create", "finance:due:assign", "finance:due:view", "finance:due:delete",
    "communication:create", "student:read"]

/-- The identifiers of the rows that an assignment may create. -/
structure NewIds where
  membership : String
  admin : String
  permission : Nat → String

def adminRow (assignerId userId newId : String) (organization : RbacOrganization) : Admin where
  id := newId
  userId := userId
  adminType := .organizationAdmin
  organizationId := some organization.id
  institutionId := organization.institutionId
  facultyId := organization.facultyId
  departmentId := organization.departmentId
  academicSessionId := organization.academicSessionId
  assignedBy := some assignerId

def adminMembership (userId newId : String) (organization : RbacOrganization) : OrganizationMembership where
  id := newId
  organizationId := organization.id
  userId := userId
  membershipType := .admin
  joinedSessionId := organization.academicSessionId

/-- The transaction that makes a user an admin of the organization. -/
def makeOrganizationAdmin (assignerId userId : String) (organization : RbacOrganization) (ids : NewIds) :
    RbacAction String := do
  exec (.upsertAdminMembership (adminMembership userId ids.membership organization))
  let existing ← query fun d => d.admins.findFirst fun a =>
    a.userId = userId ∧ a.adminType = .organizationAdmin ∧ a.organizationId = some organization.id ∧
      a.academicSessionId = organization.academicSessionId
  ensure (existing.all fun a => a.status ≠ .active) (.conflict "User is already an organization admin")
  exec (write existing)
  pure ((existing.map Admin.id).getD ids.admin)
where
  write : Option Admin → RbacStmt
    | some a => .reactivateAdmin a.id assignerId
    | none => .createAdmin (adminRow assignerId userId ids.admin organization)

def assignOrganizationAdmin (assignerId organizationId userId : String) (ids : NewIds) (now : Nat) :
    RbacAction Unit := do
  let assigner ← outside fun d => d.admins.findFirst fun a =>
    a.userId = assignerId ∧ a.organizationId = some organizationId ∧ a.adminType = .organizationAdmin ∧
      a.status = .active
  let _ ← orThrow assigner (.forbidden "Only an active admin of this organization can add administrators")
  let user ← outside fun d => decide (userId ∈ d.users)
  let organization ← outside fun d => d.organizations.find organizationId
  ensure user (.notFound "User not found")
  let organization ← orThrow organization (.notFound "Organization not found")
  ensure (organization.status = .active)
    (.badRequest "Administrators can only be added after the organization is approved")
  let adminId ← transaction (makeOrganizationAdmin assignerId userId organization ids)
  let permissionCount ← outside fun d => (d.permissionsOf adminId).length
  when (permissionCount = 0)
    (statement (.createAdminPermissions (permissionData adminId "system" ids.permission now organizationAdminPermissions)))
  invalidateRbacCache

def assignRoleToUser (assignerId : String) (dto : AssignRoleToUserDto) (newId : String) : RbacAction Unit := do
  let role ← outside fun d => d.roles.find dto.roleId
  let _ ← orThrow role (.notFound "Role not found")
  let user ← outside fun d => decide (dto.userId ∈ d.users)
  ensure user (.notFound "User not found")
  let membership ← outside fun d => d.memberships.findFirst fun m =>
    m.userId = dto.userId ∧ m.organizationId = dto.organizationId ∧ m.status = .active
  let membership ← orThrow membership (.badRequest "User is not a member of this organization")
  let platformAdmin ← outside fun d => decide (isPlatformAdmin d assignerId)
  let orgAdmin ← outside fun d => staffMembership d assignerId dto.organizationId
  ensure (platformAdmin ∨ orgAdmin.isSome) (.forbidden "You do not have permission to assign roles")
  let existing ← outside fun d => d.membershipRoles.findFirst fun a =>
    a.membershipId = membership.id ∧ a.roleId = dto.roleId
  ensure existing.isNone (.conflict "User already has this role")
  statement (.createMembershipRole ⟨newId, membership.id, dto.roleId, some assignerId⟩)
  invalidateRbacCache
  CacheService.call (.delete ("user:permissions:" ++ dto.userId))

end RbacService

end Heightt.Rbac
