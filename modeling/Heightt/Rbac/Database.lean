import Heightt.Schema.Rows
import Heightt.Campus.Rows
import Heightt.ReadCommitted.Statement
import Heightt.ReadCommitted.Run

/-!
# Roles, admins and their permissions

The tables that RbacService reads and writes. An admin's permissions are the rows of
`admin_permissions`, here in the order they were created.
-/

namespace Heightt.Rbac

open Store ReadCommitted Campus

inductive PermissionCategory where
  | user | institution | organization | finance | student | academic | communication | event
  | governance | system | analytics
  deriving DecidableEq, Repr

inductive PermissionAction where
  | create | read | update | delete | approve | reject | review | «export» | «import» | manage
  | assign | revoke
  deriving DecidableEq, Repr

inductive AdminStatus where
  | active | inactive | revoked
  deriving DecidableEq, Repr

structure AdminPermission where
  id : String
  adminId : String
  permissionKey : String
  permissionCategory : PermissionCategory
  permissionAction : PermissionAction
  resourceId : Option String := none
  grantedBy : Option String := none
  grantedAt : Nat
  deriving DecidableEq

structure Admin where
  id : String
  userId : String
  adminType : AdminType
  institutionId : Option String := none
  facultyId : Option String := none
  departmentId : Option String := none
  organizationId : Option String := none
  academicSessionId : Option String := none
  assignedBy : Option String := none
  status : AdminStatus := .active
  deriving DecidableEq

structure RbacOrganization where
  id : String
  status : OrganizationStatus := .active
  institutionId : Option String := none
  facultyId : Option String := none
  departmentId : Option String := none
  academicSessionId : Option String := none
  deriving DecidableEq

structure OrganizationMembership where
  id : String
  organizationId : String
  userId : String
  membershipType : MembershipType
  status : MembershipStatus := .active
  joinedSessionId : Option String := none
  deriving DecidableEq

structure Permission where
  id : String
  key : String
  deriving DecidableEq

structure Role where
  id : String
  organizationId : String
  name : String
  description : Option String := none
  isSystem : Bool := false
  deriving DecidableEq

structure RolePermission where
  roleId : String
  permissionId : String
  deriving DecidableEq

structure MembershipRole where
  id : String
  membershipId : String
  roleId : String
  assignedBy : Option String := none
  deriving DecidableEq

structure RbacDb where
  users : List String := []
  organizations : Table RbacOrganization String RbacOrganization.id := .empty
  memberships : Table OrganizationMembership String OrganizationMembership.id := .empty
  admins : Table Admin String Admin.id := .empty
  adminPermissions : List AdminPermission := []
  permissions : List Permission := []
  roles : Table Role String Role.id := .empty
  rolePermissions : List RolePermission := []
  membershipRoles : Table MembershipRole String MembershipRole.id := .empty

inductive RbacError where
  | notFound (message : String)
  | badRequest (message : String)
  | forbidden (message : String)
  | conflict (message : String)
  | uniqueConstraint
  | recordNotFound
  | foreignKeyConstraint
  /-- The database or the cache failed. -/
  | fault
  deriving DecidableEq

inductive RbacStmt where
  | deleteAdminPermissions (adminId : String)
  | createAdminPermissions (rows : List AdminPermission)
  /-- The membership of the user in the organization, as an ACTIVE one of an ADMIN. -/
  | upsertAdminMembership (new : OrganizationMembership)
  | reactivateAdmin (id assignedBy : String)
  | createAdmin (admin : Admin)
  | createRole (role : Role)
  /-- Rows that exist are skipped. -/
  | createRolePermissions (rows : List RolePermission)
  | createMembershipRole (assignment : MembershipRole)
  deriving DecidableEq

inductive RbacRow where
  | admin (id : String)
  | role (organizationId name : String)
  | membership (organizationId userId : String)
  | membershipRole (membershipId roleId : String)
  deriving DecidableEq

def Admin.reactivate (assignedBy : String) (a : Admin) : Admin :=
  { a with status := .active, assignedBy := some assignedBy }

def OrganizationMembership.toAdmin (m : OrganizationMembership) : OrganizationMembership :=
  { m with membershipType := .admin, status := .active }

namespace RbacDb

/-- The permissions of an admin. -/
def permissionsOf (d : RbacDb) (adminId : String) : List AdminPermission :=
  d.adminPermissions.filter fun p => p.adminId = adminId

def membershipOf (d : RbacDb) (organizationId userId : String) : Option OrganizationMembership :=
  d.memberships.findFirst fun m => m.organizationId = organizationId ∧ m.userId = userId

end RbacDb

namespace RbacStmt

def apply : RbacStmt → RbacDb → RbacDb
  | deleteAdminPermissions adminId, d =>
    { d with adminPermissions := d.adminPermissions.filter fun p => p.adminId ≠ adminId }
  | createAdminPermissions rows, d => { d with adminPermissions := d.adminPermissions ++ rows }
  | upsertAdminMembership new, d =>
    match d.membershipOf new.organizationId new.userId with
    | some m =>
      { d with
        memberships := d.memberships.modify m.id OrganizationMembership.toAdmin fun _ => rfl }
    | none => { d with memberships := d.memberships.insert new }
  | reactivateAdmin id assignedBy, d =>
    { d with admins := d.admins.modify id (Admin.reactivate assignedBy) fun _ => rfl }
  | createAdmin a, d => { d with admins := d.admins.insert a }
  | createRole r, d => { d with roles := d.roles.insert r }
  | createRolePermissions rows, d =>
    { d with rolePermissions := d.rolePermissions ++ rows.filter fun p => p ∉ d.rolePermissions }
  | createMembershipRole a, d => { d with membershipRoles := d.membershipRoles.insert a }

/-- Another row has the same admin, permission and resource; a null resource is never the same. -/
def Clashes (p q : AdminPermission) : Prop :=
  p.id = q.id ∨ p.adminId = q.adminId ∧ p.permissionKey = q.permissionKey ∧
    p.resourceId.isSome ∧ p.resourceId = q.resourceId

instance (p q : AdminPermission) : Decidable (Clashes p q) :=
  inferInstanceAs (Decidable (_ ∨ _))

/-- The same admin; a null scope is never the same. -/
def SameAdmin (a b : Admin) : Prop :=
  a.userId = b.userId ∧ a.adminType = b.adminType ∧
    (a.institutionId.isSome ∧ a.institutionId = b.institutionId) ∧
    (a.facultyId.isSome ∧ a.facultyId = b.facultyId) ∧
    (a.departmentId.isSome ∧ a.departmentId = b.departmentId) ∧
    (a.organizationId.isSome ∧ a.organizationId = b.organizationId) ∧
    (a.academicSessionId.isSome ∧ a.academicSessionId = b.academicSessionId)

instance (a b : Admin) : Decidable (SameAdmin a b) := inferInstanceAs (Decidable (_ ∧ _))

/-- The constraint a statement violates. -/
def check : RbacStmt → RbacDb → Option RbacError
  | createAdminPermissions rows, d =>
    if ∃ p ∈ rows, (d.admins.find p.adminId).isNone then some .foreignKeyConstraint
    else if ¬(d.adminPermissions ++ rows).Pairwise (fun p q => ¬Clashes p q) then some .uniqueConstraint
    else none
  | upsertAdminMembership new, d =>
    match d.membershipOf new.organizationId new.userId with
    | some _ => none
    | none =>
      if (d.memberships.find new.id).isSome then some .uniqueConstraint
      else if (d.organizations.find new.organizationId).isNone ∨ new.userId ∉ d.users then
        some .foreignKeyConstraint
      else none
  | reactivateAdmin id _, d => if (d.admins.find id).isNone then some .recordNotFound else none
  | createAdmin a, d =>
    if (d.admins.find a.id).isSome ∨ ∃ b ∈ d.admins.rows, SameAdmin a b then some .uniqueConstraint
    else if a.userId ∉ d.users then some .foreignKeyConstraint
    else none
  | createRole r, d =>
    if (d.roles.find r.id).isSome ∨ ∃ s ∈ d.roles.rows, s.organizationId = r.organizationId ∧ s.name = r.name then
      some .uniqueConstraint
    else if (d.organizations.find r.organizationId).isNone then some .foreignKeyConstraint
    else none
  | createRolePermissions rows, d =>
    if ∃ p ∈ rows, (d.roles.find p.roleId).isNone then some .foreignKeyConstraint else none
  | createMembershipRole a, d =>
    if (d.membershipRoles.find a.id).isSome ∨
        ∃ b ∈ d.membershipRoles.rows, b.membershipId = a.membershipId ∧ b.roleId = a.roleId then
      some .uniqueConstraint
    else if (d.memberships.find a.membershipId).isNone ∨ (d.roles.find a.roleId).isNone then
      some .foreignKeyConstraint
    else none
  | deleteAdminPermissions _, _ => none

/-- The rows that a statement locks. -/
def rows : RbacStmt → List RbacRow
  | reactivateAdmin id _ => [.admin id]
  | createAdmin a => [.admin a.id]
  | createRole r => [.role r.organizationId r.name]
  | upsertAdminMembership new => [.membership new.organizationId new.userId]
  | createMembershipRole a => [.membershipRole a.membershipId a.roleId]
  | deleteAdminPermissions _ | createAdminPermissions _ | createRolePermissions _ => []

end RbacStmt

/-- No integer column is counted here. -/
instance : Database RbacDb RbacStmt RbacRow Empty RbacError where
  apply := RbacStmt.apply
  check := RbacStmt.check
  rows := RbacStmt.rows
  value _ c := c.elim
  change _ c := c.elim
  cols _ := []
  change_of_not_mem {_ c} := c.elim
  value_apply c := c.elim

end Heightt.Rbac
