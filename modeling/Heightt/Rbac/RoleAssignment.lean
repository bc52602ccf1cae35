import Heightt.Rbac.Grants
import Heightt.ReadCommitted.Inside

/-!
# Roles inside their organization

A role belongs to an organization and is given to a membership of it. Assigning a role looks
the membership up by the organization that the request names and the role by its identifier,
and compares neither with the other.
-/

namespace Heightt.Rbac

open Store ReadCommitted Prog Database RbacService

/-- The calls that create roles and assign them. -/
inductive RoleOp where
  | createRole (userId : String) (dto : CreateRoleDto) (newId : String)
  | assignOrganizationAdmin (assignerId organizationId userId : String) (ids : NewIds) (now : Nat)
  | assignRoleToUser (assignerId : String) (dto : AssignRoleToUserDto) (newId : String)

def RoleOp.program : RoleOp → RbacAction Unit
  | createRole userId dto newId => RbacService.createRole userId dto newId
  | assignOrganizationAdmin assignerId organizationId userId ids now =>
    RbacService.assignOrganizationAdmin assignerId organizationId userId ids now
  | assignRoleToUser assignerId dto newId => RbacService.assignRoleToUser assignerId dto newId

/-- Every assigned role belongs to the organization of the membership that has it. -/
def RolesInside (d : RbacDb) : Prop :=
  ∀ a ∈ d.membershipRoles.rows, ∃ m role, d.memberships.find a.membershipId = some m ∧
    d.roles.find a.roleId = some role ∧ role.organizationId = m.organizationId

/-- The membership that an assignment finds. -/
def assignedMembership (d : RbacDb) (dto : AssignRoleToUserDto) : Option OrganizationMembership :=
  d.memberships.findFirst fun m => m.userId = dto.userId ∧ m.organizationId = dto.organizationId ∧ m.status = .active

/-- The assignment passes the checks of the service. -/
structure Assignable (d : RbacDb) (assignerId : String) (dto : AssignRoleToUserDto) : Prop where
  user : dto.userId ∈ d.users
  allowed : isPlatformAdmin d assignerId ∨ (staffMembership d assignerId dto.organizationId).isSome
  member : ∃ m, assignedMembership d dto = some m ∧
    d.membershipRoles.findFirst (fun a => a.membershipId = m.id ∧ a.roleId = dto.roleId) = none

/-- A role that is assigned is one of the organization that the request names. -/
def StaysInside (d : RbacDb) : RoleOp → Prop
  | .assignRoleToUser assignerId dto _ => ∀ role, d.roles.find dto.roleId = some role →
    Assignable d assignerId dto → role.organizationId = dto.organizationId
  | _ => True

/-- The states after any number of calls that all meet `C`. -/
inductive Assigns (C : RbacDb → RoleOp → Prop) (d₀ : RbacDb) : RbacDb → Prop where
  | start : Assigns C d₀ d₀
  | call {d : RbacDb} (before : Assigns C d₀ d) (op : RoleOp) (x : RbacCache)
      {o : Outcome RbacDb RbacCache RbacStmt RbacError Unit} (meets : C d op) (run : op.program.Ends [] d x o) :
      Assigns C d₀ o.db

section

variable {d : RbacDb} {x : RbacCache}

/-! ## What the statements keep -/

theorem rolesInside_createRole (h : RolesInside d) {r : Role} (free : d.roles.find r.id = none) :
    RolesInside (apply (.createRole r) d) := by
  intro a ha
  obtain ⟨m, role, hm, hrole, same⟩ := h a ha
  have other : r.id ≠ a.roleId := by
    intro key
    rw [← key, free] at hrole
    cases hrole
  exact ⟨m, role, hm, ((Table.find_insert free a.roleId).trans (if_neg other)).trans hrole, same⟩

/-- A new admin is a member of the organization that it is an admin of. -/
theorem rolesInside_upsert (h : RolesInside d) {new : OrganizationMembership}
    (valid : check (RbacStmt.upsertAdminMembership new) d = none) :
    RolesInside (apply (.upsertAdminMembership new) d) := by
  cases found : d.membershipOf new.organizationId new.userId with
  | some n =>
    have after : (apply (.upsertAdminMembership new) d : RbacDb) =
        { d with memberships := d.memberships.modify n.id OrganizationMembership.toAdmin fun _ => rfl } := by
      simp only [apply, RbacStmt.apply, found]
    intro a ha
    rw [after] at ha ⊢
    obtain ⟨m, role, hm, hrole, same⟩ := h a ha
    by_cases key : a.membershipId = n.id
    · refine ⟨m.toAdmin, role, ?_, hrole, same⟩
      refine (Table.find_modify d.memberships n.id OrganizationMembership.toAdmin (fun _ => rfl) _).trans ?_
      rw [if_pos key, hm, Option.map_some]
    · refine ⟨m, role, ?_, hrole, same⟩
      exact (Table.find_modify_ne key OrganizationMembership.toAdmin fun _ => rfl).trans hm
  | none =>
    have after : (apply (.upsertAdminMembership new) d : RbacDb) = { d with memberships := d.memberships.insert new } := by
      simp only [apply, RbacStmt.apply, found]
    have free : d.memberships.find new.id = none := by
      simp only [check, RbacStmt.check, found] at valid
      by_contra taken
      rw [if_pos (Option.ne_none_iff_isSome.1 taken)] at valid
      cases valid
    intro a ha
    rw [after] at ha ⊢
    obtain ⟨m, role, hm, hrole, same⟩ := h a ha
    have other : new.id ≠ a.membershipId := by
      intro key
      rw [← key, free] at hm
      cases hm
    exact ⟨m, role, ((Table.find_insert free a.membershipId).trans (if_neg other)).trans hm, hrole, same⟩

theorem membershipRoles_insert {a : MembershipRole} (valid : check (RbacStmt.createMembershipRole a) d = none) :
    (d.membershipRoles.insert a).rows = d.membershipRoles.rows ++ [a] := by
  refine Table.insert_rows ?_
  by_contra taken
  simp only [check, RbacStmt.check] at valid
  rw [if_pos (.inl (Option.ne_none_iff_isSome.1 taken))] at valid
  cases valid

theorem rolesInside_assign (h : RolesInside d) {a : MembershipRole}
    (valid : check (RbacStmt.createMembershipRole a) d = none) {m : OrganizationMembership} {role : Role}
    (hm : d.memberships.find a.membershipId = some m) (hrole : d.roles.find a.roleId = some role)
    (same : role.organizationId = m.organizationId) : RolesInside (apply (.createMembershipRole a) d) := by
  intro b hb
  obtain hb | hb := List.mem_append.1 (membershipRoles_insert valid ▸ hb)
  · exact h b hb
  · obtain rfl := List.mem_singleton.1 hb
    exact ⟨m, role, hm, hrole, same⟩

/-- A statement that writes none of the three tables. -/
theorem rolesInside_of_same (h : RolesInside d) {d' : RbacDb} (roles : d'.roles = d.roles)
    (memberships : d'.memberships = d.memberships) (assigned : d'.membershipRoles = d.membershipRoles) :
    RolesInside d' := by
  intro a ha
  rw [assigned] at ha
  rw [roles, memberships]
  exact h a ha

theorem rolesInside_write (h : RolesInside d) {assignerId userId : String} {organization : RbacOrganization}
    {ids : NewIds} (existing : Option Admin) :
    RolesInside (apply (makeOrganizationAdmin.write assignerId userId organization ids existing) d) := by
  cases existing with
  | some a => exact rolesInside_of_same h rfl rfl rfl
  | none => exact rolesInside_of_same h rfl rfl rfl

/-! ## What the calls keep -/

theorem turns_end (h : RolesInside d) :
    Turns invalidateRbacCache d x (fun _ d' _ => RolesInside d') (fun d' _ => RolesInside d') :=
  turns_invalidateRbacCache.mono (fun _ _ _ same => same ▸ h) fun _ _ same => same

theorem turns_createRole (h : RolesInside d) (userId : String) (dto : CreateRoleDto) (newId : String) :
    Turns (createRole userId dto newId) d x (fun _ d' _ => RolesInside d') (fun d' _ => RolesInside d') := by
  unfold createRole
  refine .outside_bind h (.orThrow_bind h fun organization _ => ?_)
  refine .outside_bind h (.outside_bind h (.ensure_bind h fun _ => ?_))
  refine .outside_bind h (.ensure_bind h fun _ => ?_)
  have created : Inside RbacCache ((exec (.createRole (roleRow dto newId))).bind fun _ =>
      when (dto.permissions.length > 0) ((query fun d => d.permissions.filter fun p => p.key ∈ dto.permissions).bind
        fun permissions => exec (.createRolePermissions (permissions.map fun p => ⟨newId, p.id⟩))) : RbacAction Unit) d
      fun _ s' => RolesInside s' := by
    refine .exec_bind fun valid => ?_
    have free : d.roles.find (roleRow dto newId).id = none := by
      by_contra taken
      simp only [check, RbacStmt.check] at valid
      rw [if_pos (.inl (Option.ne_none_iff_isSome.1 taken))] at valid
      cases valid
    have after := rolesInside_createRole h free
    exact .when (fun _ => .query_bind (.exec fun _ => rolesInside_of_same after rfl rfl rfl)) fun _ => after
  exact (created.turns (fun _ _ kept => kept) h).bind fun _ _ _ kept => turns_end kept

theorem turns_assignOrganizationAdmin (h : RolesInside d) (assignerId organizationId userId : String) (ids : NewIds)
    (now : Nat) : Turns (assignOrganizationAdmin assignerId organizationId userId ids now) d x
      (fun _ d' _ => RolesInside d') (fun d' _ => RolesInside d') := by
  unfold assignOrganizationAdmin
  refine .outside_bind h (.orThrow_bind h fun assigner _ => ?_)
  refine .outside_bind h (.outside_bind h (.ensure_bind h fun _ => ?_))
  refine .orThrow_bind h fun organization _ => .ensure_bind h fun _ => ?_
  have made : Inside RbacCache (makeOrganizationAdmin assignerId userId organization ids) d
      fun _ s' => RolesInside s' := by
    unfold makeOrganizationAdmin
    refine .exec_bind fun valid => .query_bind (.ensure_bind fun _ => .exec_bind fun _ => .ret ?_)
    have after := rolesInside_upsert h valid
    exact rolesInside_write after _
  refine (made.turns (fun _ _ kept => kept) h).bind fun adminId d₁ x₁ kept => .outside_bind kept ?_
  have given : Turns (when ((d₁.permissionsOf adminId).length = 0) (statement (.createAdminPermissions
      (permissionData adminId "system" ids.permission now organizationAdminPermissions))) : RbacAction Unit) d₁ x₁
      (fun _ d' _ => RolesInside d') (fun d' _ => RolesInside d') :=
    .when (fun _ => .statement (fun _ => rolesInside_of_same kept rfl rfl rfl) kept) fun _ => kept
  exact given.bind fun _ _ _ kept => turns_end kept

theorem turns_assignRoleToUser (h : RolesInside d) {assignerId : String} {dto : AssignRoleToUserDto} {newId : String}
    (stays : StaysInside d (.assignRoleToUser assignerId dto newId)) :
    Turns (assignRoleToUser assignerId dto newId) d x (fun _ d' _ => RolesInside d') (fun d' _ => RolesInside d') := by
  unfold assignRoleToUser
  refine .outside_bind h (.orThrow_bind h fun role found => ?_)
  refine .outside_bind h (.ensure_bind h fun user => ?_)
  refine .outside_bind h (.orThrow_bind h fun m member => ?_)
  refine .outside_bind h (.outside_bind h (.ensure_bind h fun allowed => ?_))
  refine .outside_bind h (.ensure_bind h fun new => ?_)
  have same : role.organizationId = dto.organizationId := by
    refine stays role found ⟨of_decide_eq_true user, ?_, m, member, Option.isNone_iff_eq_none.1 new⟩
    exact allowed.imp of_decide_eq_true id
  have own : m.organizationId = dto.organizationId := by
    have := List.find?_some member
    simp only [decide_eq_true_eq] at this
    exact this.2.1
  have stored := Table.find_of_mem (List.mem_of_find?_eq_some member)
  refine (Turns.statement (fun valid => ?_) h).bind fun _ _ _ kept => (turns_end kept).bind fun _ d₂ x₂ kept => ?_
  · exact rolesInside_assign h valid stored found (same.trans own.symm)
  · exact (turns_call _).mono (fun _ _ _ same => same ▸ kept) fun _ _ same => same ▸ kept

/-- A call keeps the roles inside, however it ends. -/
theorem turns_roleOp (h : RolesInside d) {op : RoleOp} (stays : StaysInside d op) :
    Turns op.program d x (fun _ d' _ => RolesInside d') (fun d' _ => RolesInside d') := by
  cases op with
  | createRole userId dto newId => exact turns_createRole h userId dto newId
  | assignOrganizationAdmin assignerId organizationId userId ids now =>
    exact turns_assignOrganizationAdmin h assignerId organizationId userId ids now
  | assignRoleToUser assignerId dto newId => exact turns_assignRoleToUser h stays

/-- An assignment of another organization's role that passes the checks is made. -/
theorem ends_assigned {assignerId newId : String} {dto : AssignRoleToUserDto} {role : Role}
    (found : d.roles.find dto.roleId = some role) (passes : Assignable d assignerId dto)
    (free : d.membershipRoles.find newId = none) : ∃ m x' e, assignedMembership d dto = some m ∧
      (assignRoleToUser assignerId dto newId).Ends [] d x
        ⟨e, [], apply (.createMembershipRole ⟨newId, m.id, dto.roleId, some assignerId⟩) d, x'⟩ := by
  obtain ⟨user, allowed, m, member, new⟩ := passes
  have stored := Table.find_of_mem (List.mem_of_find?_eq_some member)
  have valid : check (RbacStmt.createMembershipRole ⟨newId, m.id, dto.roleId, some assignerId⟩) d = none := by
    have apart : ¬∃ b ∈ d.membershipRoles.rows, b.membershipId = m.id ∧ b.roleId = dto.roleId := by
      rintro ⟨b, hb, same⟩
      exact List.find?_eq_none.1 new b hb (decide_eq_true same)
    simp only [check, RbacStmt.check, free, Option.isSome_none, Bool.false_eq_true, apart, or_self, if_false, stored,
      found, Option.isNone_some]
  have created : (statement (.createMembershipRole ⟨newId, m.id, dto.roleId, some assignerId⟩) :
      RbacAction Unit).alone [] d x =
        some ⟨.ok (), [], apply (.createMembershipRole ⟨newId, m.id, dto.roleId, some assignerId⟩) d, x⟩ := by
    rw [← Prog.bind_ret (statement _), alone_statement, valid]
    rfl
  obtain ⟨x', invalidated⟩ := alone_invalidateRbacCache (x := x)
    (d := apply (.createMembershipRole ⟨newId, m.id, dto.roleId, some assignerId⟩) d)
  refine ⟨m, x', .error .fault, member, ?_⟩
  unfold assignRoleToUser
  refine ends_outside_bind (ends_bind_of_alone (a := role) (by rw [found]; rfl) ?_)
  refine ends_outside_bind (ends_bind_of_alone (a := ()) (by rw [ensure, if_pos (decide_eq_true user)]; rfl) ?_)
  refine ends_outside_bind (ends_bind_of_alone (a := m) (congrArg (fun o => (orThrow o _).alone [] d x) member) ?_)
  have allowed' : decide (isPlatformAdmin d assignerId) = true ∨
      (staffMembership d assignerId dto.organizationId).isSome := allowed.imp (fun h => decide_eq_true h) id
  refine ends_outside_bind (ends_outside_bind (ends_bind_of_alone (a := ()) (by rw [ensure, if_pos allowed']; rfl) ?_))
  refine ends_outside_bind (ends_bind_of_alone (a := ())
    (by rw [ensure, if_pos (Option.isNone_iff_eq_none.2 new)]; rfl) ?_)
  exact ends_bind_of_alone created (ends_bind_of_alone invalidated (.inr (.inr ⟨.fault, rfl⟩)))

/-- A call keeps the roles inside where it does not assign another organization's role. -/
theorem rolesInside_iff (h : RolesInside d) {assignerId newId : String} {dto : AssignRoleToUserDto}
    (free : d.membershipRoles.find newId = none) :
    (∀ o, (assignRoleToUser assignerId dto newId).Ends [] d x o → RolesInside o.db) ↔
      StaysInside d (.assignRoleToUser assignerId dto newId) := by
  constructor
  · intro inside role found passes
    obtain ⟨m, x', e, member, ends⟩ := ends_assigned (x := x) found passes free
    have new : (d.membershipRoles.insert ⟨newId, m.id, dto.roleId, some assignerId⟩).rows =
        d.membershipRoles.rows ++ [⟨newId, m.id, dto.roleId, some assignerId⟩] := Table.insert_rows free
    have mem : ⟨newId, m.id, dto.roleId, some assignerId⟩ ∈
        (d.membershipRoles.insert ⟨newId, m.id, dto.roleId, some assignerId⟩).rows := by simp [new]
    obtain ⟨n, role', hn, hrole, same⟩ := inside _ ends _ mem
    have stored : d.memberships.find m.id = some m := Table.find_of_mem (List.mem_of_find?_eq_some member)
    have own := List.find?_some member
    simp only [decide_eq_true_eq] at own
    obtain rfl : role' = role := Option.some.inj (hrole.symm.trans found)
    obtain rfl : n = m := Option.some.inj (hn.symm.trans stored)
    exact same.trans own.2.1
  · intro stays o ends
    obtain ⟨-, post⟩ := turns_assignRoleToUser h stays o ends
    split at post <;> exact post

end

/-- Wherever no role was assigned before, the roles stay inside their organizations. -/
theorem rolesInside_of_assigns {d₀ d : RbacDb} (start : d₀.membershipRoles.rows = [])
    (run : Assigns StaysInside d₀ d) : RolesInside d := by
  induction run with
  | start =>
    intro a ha
    rw [start] at ha
    cases ha
  | call before op x stays run ih =>
    obtain ⟨-, post⟩ := turns_roleOp ih stays _ run
    split at post <;> exact post

/-- Two organizations, a member of the first, and a role of the second. -/
def twoOrganizations : RbacDb where
  users := ["root", "ada"]
  organizations := (Store.Table.empty.insert { id := "o1" }).insert { id := "o2" }
  memberships := Store.Table.empty.insert { id := "m1", organizationId := "o1", userId := "ada", membershipType := .student }
  admins := Store.Table.empty.insert { id := "a1", userId := "root", adminType := .platformAdmin }
  roles := (Store.Table.empty.insert { id := "r1", organizationId := "o1", name := "Treasurer" }).insert
    { id := "r2", organizationId := "o2", name := "President" }

/-- The role of the organization itself. -/
def ownRole : AssignRoleToUserDto := ⟨"ada", "r1", "o1"⟩

theorem assigns_ownRole : Assigns StaysInside twoOrganizations
    (apply (.createMembershipRole ⟨"mr1", "m1", "r1", some "root"⟩) twoOrganizations) := by
  refine .call (o := ⟨.ok (), [], _, {}⟩) .start (.assignRoleToUser "root" ownRole "mr1") {} ?_ (ends_of_alone rfl)
  intro role found _
  cases found
  rfl

theorem rolesInside_of_assigns_ownRole :
    RolesInside (apply (.createMembershipRole ⟨"mr1", "m1", "r1", some "root"⟩) twoOrganizations) :=
  rolesInside_of_assigns rfl assigns_ownRole

/-- The role of the other organization, with the member's own organization named. -/
def foreignRole : AssignRoleToUserDto := ⟨"ada", "r2", "o1"⟩

theorem foreign_role_assigned : ¬∀ d, Assigns (fun _ _ => True) twoOrganizations d → RolesInside d := by
  intro inside
  have run : (RoleOp.assignRoleToUser "root" foreignRole "mr1").program.alone [] twoOrganizations ({} : RbacCache) =
      some ⟨.ok (), [], apply (.createMembershipRole ⟨"mr1", "m1", "r2", some "root"⟩) twoOrganizations, {}⟩ := rfl
  obtain ⟨m, role, hm, hrole, same⟩ :=
    inside _ (.call .start _ {} trivial (ends_of_alone run)) _ (List.mem_singleton_self _)
  cases hm
  cases hrole
  exact absurd same (by decide)

end Heightt.Rbac
