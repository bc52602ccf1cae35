import Heightt.Guards.AdminGuard

/-!
# The scope of admin requests

A record covers an organization by its type: the organization's own record, or
the institution, faculty or department the organization belongs to. The guard
takes the first record that shares any identifier with the request, so a unit
that the client names, or that a record carries besides its type, lets a request
for another organization in.
-/

namespace Heightt.AdminGuard

open Store

variable {K : Type} [DecidableEq K]

/-- The scope of a record, as its type determines it, contains the organization. -/
def Covers (db : GuardDb K) (a : AdminRecord K) (organizationId : K) : Prop :=
  match a.adminType with
  | .platformAdmin => True
  | .institutionAdmin => ∃ o i, db.organizations.find organizationId = some o ∧
    o.institutionId = some i ∧ a.institutionId = some i
  | .facultyAdmin => ∃ o f, db.organizations.find organizationId = some o ∧
    o.facultyId = some f ∧ a.facultyId = some f
  | .departmentAdmin => ∃ o d, db.organizations.find organizationId = some o ∧
    o.departmentId = some d ∧ a.departmentId = some d
  | .organizationAdmin | .clubAdmin => a.organizationId = some organizationId

def HoldsPermission (a : AdminRecord K) (permissionKey : String) : Prop :=
  a.adminType = .platformAdmin ∨ ∃ perm ∈ a.permissions, perm.permissionKey = permissionKey

/-- Some active record of the user covers the organization and holds the permission. -/
def Entitled (db : GuardDb K) (handler : Handler) (userId organizationId : K) : Prop :=
  ∃ a ∈ activeAdmins db userId, Covers db a organizationId ∧
    ∀ p, handler.permission = some p → HoldsPermission a p

/-- The records that match a request for an organization, in the order in which
the guard looks for them. -/
def matchingRecords (db : GuardDb K) (request : Request K) (userId organizationId : K) :
    List (AdminRecord K) :=
  let admins := activeAdmins db userId
  let carrying (field : AdminRecord K → Option K) (id : Option K) :=
    admins.filter fun a => id.isSome ∧ field a = id
  (organizationMatch db admins request.academicSessionId organizationId).toList ++
  carrying AdminRecord.facultyId request.facultyId ++
  carrying AdminRecord.departmentId request.departmentId ++
  carrying AdminRecord.institutionId request.institutionId ++
  admins.filter (includesOrganization (db.organizations.find organizationId)) ++
  admins.filter fun a => a.adminType = .platformAdmin

/-- The first record that matches holds the permission; where the handler names a
resource, any eligible record has it on that resource instead. -/
def Permitted (db : GuardDb K) (handler : Handler) (request : Request K) (userId : K)
    (a : AdminRecord K) : Prop :=
  ∀ p, handler.permission = some p →
    match request.resourceId handler with
    | none => HoldsPermission a p
    | some r => ∃ b, firstPermitted db p (some r) (eligibleAdmins (activeAdmins db userId) request) =
      .ok (some b)

def TypesMet (db : GuardDb K) (handler : Handler) (userId : K) : Prop :=
  handler.adminTypes = [] ∨ ∃ a ∈ activeAdmins db userId, a.adminType ∈ handler.adminTypes

theorem find?_eq_head?_filter {α : Type} (p : α → Bool) (l : List α) :
    l.find? p = (l.filter p).head? := by
  rw [List.head?_filter]

theorem head?_matchingRecords {db : GuardDb K} {request : Request K} {userId organizationId : K}
    (h : request.organizationId = some organizationId) :
    (matchingRecords db request userId organizationId).head? =
      matchingAdmin db (activeAdmins db userId) request := by
  have carrying (field : AdminRecord K → Option K) (id : Option K) (l : List (AdminRecord K)) :
      (l.filter fun a => id.isSome ∧ field a = id).head? =
        id.bind fun id => l.find? fun a => field a = some id := by
    cases id <;> simp [List.head?_filter]
  simp only [matchingRecords, matchingAdmin, h, Option.bind_some, List.head?_append, carrying,
    List.head?_filter, Option.or_assoc, Option.head?_toList]

theorem checkPermissionForAdmin_none {db : GuardDb K} {p : String} {a : AdminRecord K} :
    ∃ b, checkPermissionForAdmin db a p none = .ok b ∧ (b = true ↔ HoldsPermission a p) := by
  unfold checkPermissionForAdmin HoldsPermission
  by_cases platform : a.adminType = .platformAdmin
  · exact ⟨true, by simp [platform]⟩
  · refine ⟨a.permissions.any fun perm => perm.permissionKey = p, ?_, by simp [platform]⟩
    cases h : a.permissions.any fun perm => perm.permissionKey = p <;> simp [platform, h]

theorem firstPermitted_singleton {db : GuardDb K} {p : String} {a : AdminRecord K} :
    (∃ b, firstPermitted db p none [a] = .ok (some b)) ↔ HoldsPermission a p := by
  obtain ⟨b, hb, holds⟩ := @checkPermissionForAdmin_none _ _ db p a
  rw [← holds]
  cases b <;> simp [firstPermitted, hb]

theorem requirePermission_ok_iff {db : GuardDb K} {handler : Handler} {request : Request K}
    {userId : K} {a : AdminRecord K} :
    (∃ b, requirePermission db handler request (activeAdmins db userId) a = .ok b) ↔
      Permitted db handler request userId a := by
  unfold requirePermission Permitted
  cases handler.permission with
  | none => simp
  | some p =>
    cases hr : request.resourceId handler with
    | none =>
      simp only [Option.isSome_none, Bool.false_eq_true, if_false, Option.some.injEq, forall_eq',
        ← @firstPermitted_singleton _ _ db]
      cases h : firstPermitted db p none [a] with
      | error e => simp
      | ok b => cases b <;> simp
    | some r =>
      simp only [Option.isSome_some, if_true, Option.some.injEq, forall_eq']
      cases h : firstPermitted db p (some r) (eligibleAdmins (activeAdmins db userId) request) with
      | error e => simp
      | ok b => cases b <;> simp

theorem mem_of_organizationMatch {db : GuardDb K} {admins : List (AdminRecord K)}
    {session : Option K} {organizationId : K} {a : AdminRecord K}
    (h : organizationMatch db admins session organizationId = some a) : a ∈ admins := by
  unfold organizationMatch at h
  cases session with
  | some s => exact (List.mem_filter.1 (List.mem_of_find?_eq_some h)).1
  | none =>
    simp only [Option.bind_eq_some_iff] at h
    obtain ⟨o, -, h⟩ := h
    exact (List.mem_filter.1 (List.mem_of_find?_eq_some h)).1

theorem mem_of_matchingAdmin {db : GuardDb K} {request : Request K} {admins : List (AdminRecord K)}
    {a : AdminRecord K} (h : matchingAdmin db admins request = some a) : a ∈ admins := by
  simp only [matchingAdmin, Option.or_eq_some_iff, Option.bind_eq_some_iff] at h
  rcases h with ⟨o, -, h⟩ | ⟨-, ⟨_, -, h⟩ | ⟨-, ⟨_, -, h⟩ | ⟨-, ⟨_, -, h⟩ | ⟨-, ⟨_, -, h⟩ | ⟨-, h⟩⟩⟩⟩⟩
  · exact mem_of_organizationMatch h
  all_goals exact List.mem_of_find?_eq_some h

/-- When the guard lets a request for an organization in. -/
theorem canActivate_ok_iff {db : GuardDb K} {handler : Handler} {request : Request K}
    {userId organizationId : K} (user : request.user = some userId)
    (named : request.organizationId = some organizationId) :
    (∃ a, canActivate db handler request = .ok a) ↔
      ∃ a, (matchingRecords db request userId organizationId).head? = some a ∧
        TypesMet db handler userId ∧ Permitted db handler request userId a := by
  rw [head?_matchingRecords named]
  simp only [canActivate, user, ← requirePermission_ok_iff]
  cases h : matchingAdmin db (activeAdmins db userId) request with
  | none =>
    have refused : requireScope db request (activeAdmins db userId) = .error (.forbidden
        "This admin assignment does not include the requested scope or academic session") := by
      simp [requireScope, h, named]
    simp only [refused, reduceCtorEq, false_and, exists_false, iff_false, not_exists]
    intro a
    split <;> simp [bind, Except.bind]
  | some a =>
    have nonempty : activeAdmins db userId ≠ [] := List.ne_nil_of_mem (mem_of_matchingAdmin h)
    have found : requireScope db request (activeAdmins db userId) = .ok a := by
      simp [requireScope, h]
    simp only [if_neg nonempty, found, Option.some.injEq, exists_eq_left']
    by_cases types : TypesMet db handler userId
    · have ok : requireType handler (activeAdmins db userId) = .ok () := if_pos types
      simp [bind, Except.bind, ok, types]
    · have refused : requireType handler (activeAdmins db userId) = .error _ := if_neg types
      simp [bind, Except.bind, refused, types]

/-- The request gets in although no record of the user covers the organization
and holds the permission: the first record that matches it is taken as it is. -/
def LetInOutside (db : GuardDb K) (handler : Handler) (request : Request K)
    (userId organizationId : K) : Prop :=
  ¬Entitled db handler userId organizationId ∧ TypesMet db handler userId ∧
    ∃ a, (matchingRecords db request userId organizationId).head? = some a ∧
      Permitted db handler request userId a

/-- A platform admin is entitled to everything. -/
theorem entitled_of_platformAdmin {db : GuardDb K} {handler : Handler} {userId organizationId : K}
    {a : AdminRecord K} (ha : a ∈ activeAdmins db userId) (platform : a.adminType = .platformAdmin) :
    Entitled db handler userId organizationId :=
  ⟨a, ha, by simp [Covers, platform], fun _ _ => .inl platform⟩

/-- The record is the user's first to carry the faculty, department or institution
that it carries, or the first for the organization in some session. -/
inductive Selectable (db : GuardDb K) (admins : List (AdminRecord K)) (organizationId : K)
    (a : AdminRecord K) : Prop where
  | faculty (id : K) (first : admins.find? (fun b => b.facultyId = some id) = some a)
  | department (id : K) (first : admins.find? (fun b => b.departmentId = some id) = some a)
  | institution (id : K) (first : admins.find? (fun b => b.institutionId = some id) = some a)
  | organization (session : Option K)
    (first : organizationMatch db admins session organizationId = some a)

/-- The first record with a unit of the organization is the first with that unit. -/
theorem selectable_of_includesOrganization {db : GuardDb K} {admins : List (AdminRecord K)}
    {organizationId : K} {a : AdminRecord K}
    (h : admins.find? (includesOrganization (db.organizations.find organizationId)) = some a)
    (notPlatform : a.adminType ≠ .platformAdmin) : Selectable db admins organizationId a := by
  obtain ⟨includes, before, after, rfl, earlier⟩ := List.find?_eq_some_iff_append.1 h
  cases ho : db.organizations.find organizationId with
  | none => simp [includesOrganization, ho, notPlatform] at includes
  | some o =>
    simp only [ho] at includes earlier
    have first (field : AdminRecord K → Option K) (id : K) (hid : field a = some id)
        (hinc : ∀ b, field b = some id → includesOrganization (some o) b = true) :
        (before ++ a :: after).find? (fun b => field b = some id) = some a := by
      refine List.find?_eq_some_iff_append.2 ⟨by simpa using hid, before, after, rfl, fun b hb => ?_⟩
      have := earlier b hb
      by_contra hfield
      rw [hinc b (by simpa using hfield)] at this
      cases this
    simp only [includesOrganization, notPlatform, decide_false, Bool.false_or, Option.any_some,
      Bool.or_eq_true, Bool.and_eq_true, decide_eq_true_eq, Option.isSome_iff_exists] at includes
    rcases includes with (⟨⟨i, hi⟩, heq⟩ | ⟨⟨f, hf⟩, heq⟩) | ⟨⟨d, hd⟩, heq⟩
    · exact .institution i (first AdminRecord.institutionId i hi fun b hb => by
        simp [includesOrganization, hb, heq, hi])
    · exact .faculty f (first AdminRecord.facultyId f hf fun b hb => by
        simp [includesOrganization, hb, heq, hf])
    · exact .department d (first AdminRecord.departmentId d hd fun b hb => by
        simp [includesOrganization, hb, heq, hd])

theorem selectable_of_matchingAdmin {db : GuardDb K} {request : Request K}
    {admins : List (AdminRecord K)} {organizationId : K} {a : AdminRecord K}
    (named : request.organizationId = some organizationId)
    (h : matchingAdmin db admins request = some a) (notPlatform : a.adminType ≠ .platformAdmin) :
    Selectable db admins organizationId a := by
  simp only [matchingAdmin, Option.or_eq_some_iff, Option.bind_eq_some_iff, named,
    Option.some.injEq, exists_eq_left'] at h
  rcases h with h | ⟨-, ⟨f, -, h⟩ | ⟨-, ⟨d, -, h⟩ | ⟨-, ⟨i, -, h⟩ | ⟨-, h | ⟨-, h⟩⟩⟩⟩⟩
  · exact .organization _ h
  · exact .faculty f h
  · exact .department d h
  · exact .institution i h
  · exact selectable_of_includesOrganization h notPlatform
  · exact absurd (by simpa using List.find?_some h) notPlatform

/-- A request for an organization that sends further identifiers along. -/
def Request.naming (userId organizationId : K) (session faculty department institution : Option K) :
    Request K where
  user := some userId
  query
    | "organizationId" => some organizationId
    | "academicSessionId" => session
    | "facultyId" => faculty
    | "departmentId" => department
    | "institutionId" => institution
    | _ => none

/-- Some identifiers select the record, if the client can name a session that no record has. -/
theorem exists_request_of_selectable {db : GuardDb K} {admins : List (AdminRecord K)}
    {userId organizationId unused : K} {a : AdminRecord K}
    (fresh : ∀ b ∈ admins, b.academicSessionId ≠ some unused)
    (h : Selectable db admins organizationId a) :
    ∃ session faculty department institution, matchingAdmin db admins
      (Request.naming userId organizationId session faculty department institution) = some a := by
  have none_matches : organizationMatch db admins (some unused) organizationId = none := by
    refine List.find?_eq_none.2 fun b hb => ?_
    simpa using fresh b (List.mem_filter.1 hb).1
  cases h with
  | faculty id first =>
    exact ⟨some unused, some id, none, none, by
      simp [matchingAdmin, Request.naming, Request.organizationId, Request.academicSessionId,
        Request.facultyId, Request.departmentId, Request.institutionId, none_matches, first]⟩
  | department id first =>
    exact ⟨some unused, none, some id, none, by
      simp [matchingAdmin, Request.naming, Request.organizationId, Request.academicSessionId,
        Request.facultyId, Request.departmentId, Request.institutionId, none_matches, first]⟩
  | institution id first =>
    exact ⟨some unused, none, none, some id, by
      simp [matchingAdmin, Request.naming, Request.organizationId, Request.academicSessionId,
        Request.facultyId, Request.departmentId, Request.institutionId, none_matches, first]⟩
  | organization session first =>
    exact ⟨session, none, none, none, by
      cases session <;>
      simp [matchingAdmin, Request.naming, Request.organizationId, Request.academicSessionId,
        Request.facultyId, Request.departmentId, Request.institutionId, first]⟩

theorem permitted_iff_of_no_resource {db : GuardDb K} {handler : Handler} {request : Request K}
    {userId : K} {a : AdminRecord K} (h : handler.resourceIdParam = none) :
    Permitted db handler request userId a ↔ ∀ p, handler.permission = some p → HoldsPermission a p := by
  simp [Permitted, Request.resourceId, h]

/-- User 1 is the admin of organization 10 in faculty 30; organization 20 is elsewhere. -/
def twoOrganizations : GuardDb Nat where
  admins := [
    { id := 1, userId := 1, adminType := .organizationAdmin, facultyId := some 30,
      organizationId := some 10, permissions := [⟨"finance:withdrawal:approve", none⟩] }]
  organizations := (Table.empty.insert { id := 10, facultyId := some 30 }).insert { id := 20 }

def approveWithdrawal : Handler := { permission := some "finance:withdrawal:approve" }

end Heightt.AdminGuard
