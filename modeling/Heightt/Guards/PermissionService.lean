import Heightt.Guards.AdminGuard

/-!
# PermissionService against AdminGuard

`permission.service.ts`: the permission check the services make by themselves. It
goes through the active records in turn and answers no as soon as a query is
rejected, and it counts the student profiles of a unit, which the guard does not.
-/

namespace Heightt.PermissionService

open Store AdminGuard

structure StudentRow (K : Type) where
  id : K
  institutionId : K
  facultyId : K
  departmentId : K
  deriving DecidableEq

structure PermissionDb (K : Type) extends GuardDb K where
  students : List (StudentRow K) := []

variable {K : Type} [DecidableEq K]

section Service

variable (db : PermissionDb K)

/-! A check is `none` when the client library rejects one of its queries: a filter on
null for a column that is never null. -/

def isResourceInInstitution (institutionId : Option K) (resourceId : K) : Option Bool :=
  match institutionId with
  | none => none
  | some i => some (
      i = resourceId ||
      db.faculties.any (fun f => f.id = resourceId ∧ f.institutionId = i) ||
      db.departments.any (fun d => d.id = resourceId ∧
        db.faculties.any fun f => f.id = d.facultyId ∧ f.institutionId = i) ||
      db.organizations.rows.any (fun o => o.id = resourceId ∧ o.institutionId = some i) ||
      db.students.any (fun s => s.id = resourceId ∧ s.institutionId = i))

def isResourceInFaculty (facultyId : Option K) (resourceId : K) : Option Bool :=
  match facultyId with
  | none => none
  | some f => some (
      f = resourceId ||
      db.departments.any (fun d => d.id = resourceId ∧ d.facultyId = f) ||
      db.organizations.rows.any (fun o => o.id = resourceId ∧ o.facultyId = some f) ||
      db.students.any (fun s => s.id = resourceId ∧ s.facultyId = f))

/-- An organization may have no department, a student profile always has one. -/
def isResourceInDepartment (departmentId : Option K) (resourceId : K) : Option Bool :=
  if departmentId = some resourceId then some true
  else if db.organizations.rows.any fun o => o.id = resourceId ∧ o.departmentId = departmentId then
    some true
  else departmentId.map fun d => db.students.any fun s => s.id = resourceId ∧ s.departmentId = d

def isResourceInOrganizationSession (admin : AdminRecord K) (resourceId : K) : Bool :=
  match admin.organizationId, admin.academicSessionId with
  | some organizationId, some academicSessionId =>
    if organizationId = resourceId then
      db.organizations.rows.any fun o => o.id = resourceId ∧ o.academicSessionId = some academicSessionId
    else
      let ownSession := db.organizations.rows.any fun o =>
        o.id = organizationId ∧ o.academicSessionId = some academicSessionId
      db.memberships.any (fun r => r.id = resourceId ∧ r.organizationId = some organizationId ∧
        r.sessionId = some academicSessionId) ||
      db.dues.any (fun r => r.id = resourceId ∧ r.organizationId = some organizationId ∧
        r.sessionId = some academicSessionId) ||
      db.events.any (fun r => r.id = resourceId ∧ r.organizationId = some organizationId ∧ ownSession) ||
      db.announcements.any
        (fun r => r.id = resourceId ∧ r.organizationId = some organizationId ∧ ownSession)
  | _, _ => false

def isResourceInAdminScope (admin : AdminRecord K) (resourceId : K) : Option Bool :=
  match admin.adminType with
  | .platformAdmin => some true
  | .institutionAdmin => isResourceInInstitution db admin.institutionId resourceId
  | .facultyAdmin => isResourceInFaculty db admin.facultyId resourceId
  | .departmentAdmin => isResourceInDepartment db admin.departmentId resourceId
  | .organizationAdmin | .clubAdmin => some (isResourceInOrganizationSession db admin resourceId)

def hasPermission (admin : AdminRecord K) (permissionKey : String) (resourceId : Option K) : Bool :=
  admin.permissions.any fun perm =>
    perm.permissionKey = permissionKey ∧
      (resourceId.isSome → perm.resourceId = none ∨ perm.resourceId = resourceId)

/-- The loop over the records. -/
def checkAdmins (permissionKey : String) (resourceId : Option K) :
    List (AdminRecord K) → Option Bool
  | [] => some false
  | admin :: admins =>
    if hasPermission admin permissionKey resourceId then
      match resourceId with
      | none => some true
      | some r =>
        match isResourceInAdminScope db admin r with
        | none => none
        | some true => some true
        | some false => checkAdmins permissionKey resourceId admins
    else checkAdmins permissionKey resourceId admins

def checkPermission (userId : K) (permissionKey : String) (resourceId : Option K) : Bool :=
  let admins := activeAdmins db.toGuardDb userId
  if admins = [] then false
  else if admins.any fun a => a.adminType = .platformAdmin then true
  else (checkAdmins db permissionKey resourceId admins).getD false

end Service

/-! ## What a unit contains -/

section Units

variable (db : PermissionDb K)

/-- The resource belongs to the organization in the session. -/
def OfOrganization (o session r : K) : Prop :=
  let ownSession := ∃ x ∈ db.organizations.rows, x.id = o ∧ x.academicSessionId = some session
  if o = r then ownSession
  else
    (∃ x ∈ db.memberships ++ db.dues, x.id = r ∧ x.organizationId = some o ∧ x.sessionId = some session) ∨
    (∃ x ∈ db.events ++ db.announcements, x.id = r ∧ x.organizationId = some o) ∧ ownSession

/-- Both checks find the resource in the unit of the record. -/
inductive InUnit (a : AdminRecord K) (r : K) : Prop
  | platform (type : a.adminType = .platformAdmin)
  | institution (type : a.adminType = .institutionAdmin) {i : K} (own : a.institutionId = some i)
      (inside : i = r ∨ (∃ f ∈ db.faculties, f.id = r ∧ f.institutionId = i) ∨
        (∃ d ∈ db.departments, d.id = r ∧ ∃ f ∈ db.faculties, f.id = d.facultyId ∧ f.institutionId = i) ∨
        ∃ o ∈ db.organizations.rows, o.id = r ∧ o.institutionId = some i)
  | faculty (type : a.adminType = .facultyAdmin) {f : K} (own : a.facultyId = some f)
      (inside : f = r ∨ (∃ d ∈ db.departments, d.id = r ∧ d.facultyId = f) ∨
        ∃ o ∈ db.organizations.rows, o.id = r ∧ o.facultyId = some f)
  | department (type : a.adminType = .departmentAdmin)
      (inside : a.departmentId = some r ∨
        ∃ o ∈ db.organizations.rows, o.id = r ∧ o.departmentId = a.departmentId)
  | organization (type : a.adminType = .organizationAdmin ∨ a.adminType = .clubAdmin) {o session : K}
      (own : a.organizationId = some o) (ownSession : a.academicSessionId = some session)
      (inside : OfOrganization db o session r)

/-- The resource is a student profile of the unit of the record. -/
inductive StudentOfUnit (a : AdminRecord K) (r : K) : Prop
  | institution (type : a.adminType = .institutionAdmin) {s : StudentRow K} (student : s ∈ db.students)
      (id : s.id = r) (unit : a.institutionId = some s.institutionId)
  | faculty (type : a.adminType = .facultyAdmin) {s : StudentRow K} (student : s ∈ db.students)
      (id : s.id = r) (unit : a.facultyId = some s.facultyId)
  | department (type : a.adminType = .departmentAdmin) {s : StudentRow K} (student : s ∈ db.students)
      (id : s.id = r) (unit : a.departmentId = some s.departmentId)

/-- The record lacks the unit of its type, as after the unit's deletion. -/
inductive UnitMissing (a : AdminRecord K) (r : K) : Prop
  | institution (type : a.adminType = .institutionAdmin) (missing : a.institutionId = none)
  | faculty (type : a.adminType = .facultyAdmin) (missing : a.facultyId = none)
  | department (type : a.adminType = .departmentAdmin) (missing : a.departmentId = none)
      (elsewhere : ∀ o ∈ db.organizations.rows, o.id = r → o.departmentId ≠ none)

/-- The loop ends at the record, with a yes or with a rejected query. -/
def Ends (permissionKey : String) (r : K) (a : AdminRecord K) : Prop :=
  hasPermission a permissionKey (some r) ∧ (InUnit db a r ∨ StudentOfUnit db a r ∨ UnitMissing db a r)

open Classical in
/-- The record that the loop ends at. -/
noncomputable def deciding (userId : K) (permissionKey : String) (r : K) : Option (AdminRecord K) :=
  (activeAdmins db.toGuardDb userId).find? fun a => Ends db permissionKey r a

/-- A record with the permission has the resource in its unit. -/
def SomeUnitHolds (userId : K) (permissionKey : String) (r : K) : Prop :=
  ∃ a ∈ activeAdmins db.toGuardDb userId, hasPermission a permissionKey (some r) ∧ InUnit db a r

end Units

section Agreement

variable {db : PermissionDb K} {a : AdminRecord K} {r : K}

theorem ofOrganization_iff {o session : K} (own : a.organizationId = some o)
    (ownSession : a.academicSessionId = some session) :
    isResourceInOrganizationSession db a r = true ↔ OfOrganization db o session r := by
  unfold isResourceInOrganizationSession OfOrganization
  simp only [own, ownSession]
  by_cases h : o = r
  · simp [h]
  · simp only [h, if_false, Bool.or_eq_true, List.any_eq_true, decide_eq_true_eq, List.mem_append,
      or_and_right, exists_or]
    grind

theorem inOrganizationSession_iff
    (type : a.adminType = .organizationAdmin ∨ a.adminType = .clubAdmin) :
    isResourceInOrganizationSession db a r = true ↔ InUnit db a r := by
  constructor
  · intro h
    cases ho : a.organizationId with
    | none => simp [isResourceInOrganizationSession, ho] at h
    | some o =>
      cases hs : a.academicSessionId with
      | none => simp [isResourceInOrganizationSession, ho, hs] at h
      | some session =>
        exact .organization type ho hs ((ofOrganization_iff ho hs).1 h)
  · intro h
    cases h with
    | organization _ own ownSession inside => exact (ofOrganization_iff own ownSession).2 inside
    | platform other | institution other | faculty other | department other => simp [other] at type

theorem guard_scope_iff :
    AdminGuard.isResourceInAdminScope db.toGuardDb a r = .ok true ↔ InUnit db a r := by
  unfold AdminGuard.isResourceInAdminScope
  cases type : a.adminType with
  | platformAdmin => exact ⟨fun _ => .platform type, fun _ => rfl⟩
  | institutionAdmin =>
    constructor
    · intro h
      cases own : a.institutionId with
      | none => simp [AdminGuard.isResourceInInstitution, own] at h
      | some i =>
        refine .institution type own ?_
        simpa [AdminGuard.isResourceInInstitution, own, or_assoc] using h
    · intro h
      cases h with
      | institution _ own inside =>
        simpa [AdminGuard.isResourceInInstitution, own, or_assoc] using inside
      | platform other | faculty other | department other => simp [other] at type
      | organization other => simp [type] at other
  | facultyAdmin =>
    constructor
    · intro h
      cases own : a.facultyId with
      | none => simp [AdminGuard.isResourceInFaculty, own] at h
      | some f =>
        refine .faculty type own ?_
        simpa [AdminGuard.isResourceInFaculty, own, or_assoc] using h
    · intro h
      cases h with
      | faculty _ own inside => simpa [AdminGuard.isResourceInFaculty, own, or_assoc] using inside
      | platform other | institution other | department other => simp [other] at type
      | organization other => simp [type] at other
  | departmentAdmin =>
    constructor
    · intro h
      exact .department type (by simpa [AdminGuard.isResourceInDepartment] using h)
    · intro h
      cases h with
      | department _ inside => simpa [AdminGuard.isResourceInDepartment] using inside
      | platform other | institution other | faculty other => simp [other] at type
      | organization other => simp [type] at other
  | organizationAdmin =>
    rw [← inOrganizationSession_iff (.inl type)]
    exact ⟨fun h => Except.ok.inj h, fun h => congrArg Except.ok h⟩
  | clubAdmin =>
    rw [← inOrganizationSession_iff (.inr type)]
    exact ⟨fun h => Except.ok.inj h, fun h => congrArg Except.ok h⟩

/-- The guard says yes to a record that has the permission and the resource in its unit. -/
theorem guard_permits_iff {permissionKey : String} (other : a.adminType ≠ .platformAdmin) :
    checkPermissionForAdmin db.toGuardDb a permissionKey (some r) = .ok true ↔
      hasPermission a permissionKey (some r) ∧ InUnit db a r := by
  rw [← guard_scope_iff]
  unfold checkPermissionForAdmin hasPermission
  cases h : a.permissions.any fun perm => perm.permissionKey = permissionKey ∧
      ((some r).isSome → perm.resourceId = none ∨ perm.resourceId = some r) <;>
    simp [other]

/-- What the check of a record answers. -/
structure Answered (db : PermissionDb K) (a : AdminRecord K) (r : K) : Prop where
  rejected : isResourceInAdminScope db a r = none ↔ UnitMissing db a r
  yes : isResourceInAdminScope db a r = some true ↔ InUnit db a r ∨ StudentOfUnit db a r

theorem answered_institution (type : a.adminType = .institutionAdmin) : Answered db a r := by
  cases own : a.institutionId with
  | none =>
    have rejected : isResourceInAdminScope db a r = none := by
      simp [isResourceInAdminScope, isResourceInInstitution, type, own]
    constructor
    · simp [rejected, UnitMissing.institution type own]
    · rw [rejected]
      constructor
      · intro h
        cases h
      · rintro (h | h) <;> cases h <;> simp_all
  | some i =>
    have answer : isResourceInAdminScope db a r = isResourceInInstitution db (some i) r := by
      simp [isResourceInAdminScope, type, own]
    constructor
    · rw [answer]
      constructor
      · intro h
        simp [isResourceInInstitution] at h
      · intro h
        cases h <;> simp_all
    · rw [answer]
      simp only [isResourceInInstitution, Option.some.injEq, Bool.or_eq_true, List.any_eq_true,
        decide_eq_true_eq]
      constructor
      · rintro (h | ⟨s, student, id, unit⟩)
        · exact .inl (.institution type own (by simpa only [or_assoc] using h))
        · exact .inr (.institution type student id (by rw [own, unit]))
      · rintro (h | h)
        · cases h with
          | institution _ own' inside =>
            cases own.symm.trans own'
            exact .inl (by simpa only [or_assoc] using inside)
          | platform other | faculty other | department other => simp [other] at type
          | organization other => simp [type] at other
        · cases h with
          | institution _ student id unit =>
            cases own.symm.trans unit
            exact .inr ⟨_, student, id, rfl⟩
          | faculty other | department other => simp [other] at type

theorem answered_faculty (type : a.adminType = .facultyAdmin) : Answered db a r := by
  cases own : a.facultyId with
  | none =>
    have rejected : isResourceInAdminScope db a r = none := by
      simp [isResourceInAdminScope, isResourceInFaculty, type, own]
    constructor
    · simp [rejected, UnitMissing.faculty type own]
    · rw [rejected]
      constructor
      · intro h
        cases h
      · rintro (h | h) <;> cases h <;> simp_all
  | some f =>
    have answer : isResourceInAdminScope db a r = isResourceInFaculty db (some f) r := by
      simp [isResourceInAdminScope, type, own]
    constructor
    · rw [answer]
      constructor
      · intro h
        simp [isResourceInFaculty] at h
      · intro h
        cases h <;> simp_all
    · rw [answer]
      simp only [isResourceInFaculty, Option.some.injEq, Bool.or_eq_true, List.any_eq_true,
        decide_eq_true_eq]
      constructor
      · rintro (h | ⟨s, student, id, unit⟩)
        · exact .inl (.faculty type own (by simpa only [or_assoc] using h))
        · exact .inr (.faculty type student id (by rw [own, unit]))
      · rintro (h | h)
        · cases h with
          | faculty _ own' inside =>
            cases own.symm.trans own'
            exact .inl (by simpa only [or_assoc] using inside)
          | platform other | institution other | department other => simp [other] at type
          | organization other => simp [type] at other
        · cases h with
          | faculty _ student id unit =>
            cases own.symm.trans unit
            exact .inr ⟨_, student, id, rfl⟩
          | institution other | department other => simp [other] at type

/-- An organization without a department counts for a record without one. -/
theorem answered_department (type : a.adminType = .departmentAdmin) : Answered db a r := by
  have answer : isResourceInAdminScope db a r = isResourceInDepartment db a.departmentId r := by
    simp [isResourceInAdminScope, type]
  by_cases inside : a.departmentId = some r ∨
      ∃ o ∈ db.organizations.rows, o.id = r ∧ o.departmentId = a.departmentId
  · have yes : isResourceInAdminScope db a r = some true := by
      rw [answer, isResourceInDepartment]
      by_cases own : a.departmentId = some r
      · rw [if_pos own]
      · rw [if_neg own, if_pos (by simpa using inside.resolve_left own)]
    constructor
    · rw [yes]
      constructor
      · intro h
        cases h
      · intro h
        cases h with
        | department _ missing elsewhere =>
          obtain own | ⟨o, mem, id, unit⟩ := inside
          · rw [missing] at own
            cases own
          · exact (elsewhere o mem id (unit.trans missing)).elim
        | institution other | faculty other => simp [other] at type
    · simp [yes, InUnit.department type inside]
  · have rest : isResourceInAdminScope db a r =
        a.departmentId.map fun d => db.students.any fun s => s.id = r ∧ s.departmentId = d := by
      rw [answer, isResourceInDepartment, if_neg fun own => inside (.inl own),
        if_neg fun own => inside (.inr (by simpa using own))]
    constructor
    · rw [rest, Option.map_eq_none_iff]
      constructor
      · intro missing
        refine .department type missing fun o mem id unit => inside (.inr ⟨o, mem, id, ?_⟩)
        rw [unit, missing]
      · intro h
        cases h with
        | department _ missing => exact missing
        | institution other | faculty other => simp [other] at type
    · rw [rest]
      constructor
      · intro h
        obtain ⟨d, own, h⟩ := Option.map_eq_some_iff.1 h
        simp only [List.any_eq_true, decide_eq_true_eq] at h
        obtain ⟨s, student, id, unit⟩ := h
        exact .inr (.department type student id (by rw [own, unit]))
      · rintro (h | h)
        · cases h with
          | department _ own => exact (inside own).elim
          | platform other | institution other | faculty other => simp [other] at type
          | organization other => simp [type] at other
        · cases h with
          | department _ student id unit =>
            rw [unit, Option.map_some]
            simp only [Option.some.injEq, List.any_eq_true, decide_eq_true_eq]
            exact ⟨_, student, id, rfl⟩
          | institution other | faculty other => simp [other] at type

theorem answered_organization
    (type : a.adminType = .organizationAdmin ∨ a.adminType = .clubAdmin) : Answered db a r := by
  have answer : isResourceInAdminScope db a r = some (isResourceInOrganizationSession db a r) := by
    obtain type | type := type <;> simp [isResourceInAdminScope, type]
  constructor
  · rw [answer]
    constructor
    · intro h
      cases h
    · intro h
      cases h <;> simp_all
  · rw [answer, Option.some.injEq, inOrganizationSession_iff type]
    constructor
    · exact .inl
    · rintro (h | h)
      · exact h
      · cases h <;> simp_all

theorem answered (db : PermissionDb K) (a : AdminRecord K) (r : K) : Answered db a r := by
  cases type : a.adminType with
  | platformAdmin =>
    have yes : isResourceInAdminScope db a r = some true := by simp [isResourceInAdminScope, type]
    constructor
    · rw [yes]
      constructor
      · intro h
        cases h
      · intro h
        cases h <;> simp_all
    · simp [yes, InUnit.platform type]
  | institutionAdmin => exact answered_institution type
  | facultyAdmin => exact answered_faculty type
  | departmentAdmin => exact answered_department type
  | organizationAdmin => exact answered_organization (.inl type)
  | clubAdmin => exact answered_organization (.inr type)

variable {permissionKey : String} {userId : K}

/-- A record at which the loop does not end is passed over. -/
theorem checkAdmins_cons_of_not_ends {admins : List (AdminRecord K)} (h : ¬Ends db permissionKey r a) :
    checkAdmins db permissionKey (some r) (a :: admins) =
      checkAdmins db permissionKey (some r) admins := by
  rw [checkAdmins]
  by_cases has : hasPermission a permissionKey (some r) = true
  · have no : ¬(InUnit db a r ∨ StudentOfUnit db a r ∨ UnitMissing db a r) := fun ends => h ⟨has, ends⟩
    have kept : isResourceInAdminScope db a r = some false := by
      cases answer : isResourceInAdminScope db a r with
      | none => exact (no (.inr (.inr ((answered db a r).rejected.1 answer)))).elim
      | some b =>
        cases b with
        | false => rfl
        | true => exact (no (((answered db a r).yes.1 answer).imp_right .inl)).elim
    simp [has, kept]
  · simp [has]

theorem checkAdmins_cons_of_ends {admins : List (AdminRecord K)} (h : Ends db permissionKey r a) :
    checkAdmins db permissionKey (some r) (a :: admins) = some true ↔ ¬UnitMissing db a r := by
  rw [checkAdmins, if_pos h.1]
  rw [← (answered db a r).rejected]
  cases answer : isResourceInAdminScope db a r with
  | none => simp
  | some b =>
    cases b with
    | true => simp
    | false =>
      exfalso
      obtain inside | student | missing := h.2
      · cases answer.symm.trans ((answered db a r).yes.2 (.inl inside))
      · cases answer.symm.trans ((answered db a r).yes.2 (.inr student))
      · cases answer.symm.trans ((answered db a r).rejected.2 missing)

open Classical in
/-- The loop says yes when the record it ends at has its unit. -/
theorem checkAdmins_eq_true_iff {admins : List (AdminRecord K)} :
    checkAdmins db permissionKey (some r) admins = some true ↔
      ∃ a, (admins.find? fun a => Ends db permissionKey r a) = some a ∧ ¬UnitMissing db a r := by
  induction admins with
  | nil => simp [checkAdmins]
  | cons a admins ih =>
    by_cases ends : Ends db permissionKey r a
    · rw [checkAdmins_cons_of_ends ends, List.find?_cons_of_pos (by simpa using ends)]
      simp
    · rw [checkAdmins_cons_of_not_ends ends, List.find?_cons_of_neg (by simpa using ends), ih]

theorem checkPermission_of_platform
    (platform : ∃ a ∈ activeAdmins db.toGuardDb userId, a.adminType = .platformAdmin) :
    checkPermission db userId permissionKey (some r) = true := by
  obtain ⟨a, mem, type⟩ := platform
  have some : activeAdmins db.toGuardDb userId ≠ [] := List.ne_nil_of_mem mem
  rw [checkPermission, if_neg some, if_pos (List.any_eq_true.2 ⟨a, mem, by simpa using type⟩)]

theorem checkPermission_iff
    (other : ∀ a ∈ activeAdmins db.toGuardDb userId, a.adminType ≠ .platformAdmin) :
    checkPermission db userId permissionKey (some r) = true ↔
      ∃ a, deciding db userId permissionKey r = some a ∧ ¬UnitMissing db a r := by
  unfold deciding
  rw [← checkAdmins_eq_true_iff, checkPermission]
  have none : (activeAdmins db.toGuardDb userId).any (fun a => a.adminType = .platformAdmin) = false := by
    simpa using other
  by_cases empty : activeAdmins db.toGuardDb userId = []
  · simp [empty, checkAdmins]
  · simp only [empty, if_false, none, Bool.false_eq_true]
    cases checkAdmins db permissionKey (.some r) (activeAdmins db.toGuardDb userId) <;> simp

/-- A record whose unit holds the resource ends the loop, if no earlier one does. -/
theorem deciding_isSome (h : SomeUnitHolds db userId permissionKey r) :
    ∃ a, deciding db userId permissionKey r = some a := by
  obtain ⟨a, mem, has, inside⟩ := h
  rw [← Option.isSome_iff_exists, deciding, List.find?_isSome]
  exact ⟨a, mem, by simpa using ⟨has, .inl inside⟩⟩

/-- The two checks agree exactly for a platform admin and where the record that the
loop ends at lacks its unit just when no record with the permission has the resource
in its unit. -/
theorem checkPermission_agrees_iff (db : PermissionDb K) (userId : K) (permissionKey : String) (r : K) :
    (checkPermission db userId permissionKey (some r) = true ↔
      ∃ a ∈ activeAdmins db.toGuardDb userId,
        checkPermissionForAdmin db.toGuardDb a permissionKey (some r) = .ok true) ↔
    ((∃ a ∈ activeAdmins db.toGuardDb userId, a.adminType = .platformAdmin) ∨
      ∀ a, deciding db userId permissionKey r = some a →
        (UnitMissing db a r ↔ ¬SomeUnitHolds db userId permissionKey r)) := by
  by_cases platform : ∃ a ∈ activeAdmins db.toGuardDb userId, a.adminType = .platformAdmin
  · have yes : checkPermission db userId permissionKey (some r) = true :=
      checkPermission_of_platform platform
    obtain ⟨a, mem, type⟩ := platform
    refine ⟨fun _ => .inl ⟨a, mem, type⟩, fun _ => ⟨fun _ => ⟨a, mem, ?_⟩, fun _ => yes⟩⟩
    simp [checkPermissionForAdmin, type]
  · have other : ∀ a ∈ activeAdmins db.toGuardDb userId, a.adminType ≠ .platformAdmin :=
      fun a mem type => platform ⟨a, mem, type⟩
    have guard : (∃ a ∈ activeAdmins db.toGuardDb userId,
        checkPermissionForAdmin db.toGuardDb a permissionKey (some r) = .ok true) ↔
        SomeUnitHolds db userId permissionKey r :=
      exists_congr fun a => and_congr_right fun mem => guard_permits_iff (other a mem)
    rw [guard, checkPermission_iff other]
    constructor
    · intro agrees
      refine .inr fun a ha => ?_
      rw [← agrees]
      constructor
      · rintro missing ⟨b, hb, present⟩
        cases ha.symm.trans hb
        exact present missing
      · intro none
        by_contra present
        exact none ⟨a, ha, present⟩
    · rintro (h | h)
      · exact (platform h).elim
      · constructor
        · rintro ⟨a, ha, present⟩
          by_contra none
          exact present ((h a ha).2 none)
        · intro holds
          obtain ⟨a, ha⟩ := deciding_isSome holds
          exact ⟨a, ha, fun missing => (h a ha).1 missing holds⟩

end Agreement

/-- User 2 is the admin of institution 1, where 7 is a student. -/
def oneInstitution : PermissionDb Nat where
  admins := [
    { id := 1, userId := 2, adminType := .institutionAdmin, institutionId := some 1,
      permissions := [⟨"student:verify", none⟩] }]
  organizations := .empty
  students := [{ id := 7, institutionId := 1, facultyId := 3, departmentId := 4 }]

/-- The service lets the admin act on the student, and the guard does not. -/
theorem student_only_in_service :
    checkPermission oneInstitution 2 "student:verify" (some 7) = true ∧
    ¬∃ a ∈ activeAdmins oneInstitution.toGuardDb 2,
      checkPermissionForAdmin oneInstitution.toGuardDb a "student:verify" (some 7) = .ok true := by
  refine ⟨by decide, ?_⟩
  rintro ⟨a, mem, yes⟩
  have other : a.adminType ≠ .platformAdmin := by
    revert a
    decide
  have inside : InUnit oneInstitution a 7 := ((guard_permits_iff other).1 yes).2
  simp only [activeAdmins, oneInstitution, List.mem_filter, List.mem_singleton] at mem
  obtain ⟨rfl, -⟩ := mem
  rw [← guard_scope_iff] at inside
  revert inside
  decide

end Heightt.PermissionService
