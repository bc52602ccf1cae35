import Heightt.Academics.OnboardingCompletion
import Heightt.Campus.Memberships
import Heightt.ReadCommitted.Inside

/-!
# The organizations an onboarding joins

An onboarding that places a student leaves the academic organizations the user was in as a student and
joins one organization of each picked unit.
-/

namespace Heightt.Campus

open Store ReadCommitted Prog Database OnboardingService

/-! ## One organization of each type -/

section

variable {sessionId : Option String} {selected : List Organization} {o : Organization}

theorem types_select : (select sessionId selected o).map Organization.type =
    if o.type ∈ selected.map Organization.type then selected.map Organization.type
    else selected.map Organization.type ++ [o.type] := by
  have any : (selected.any fun s => s.type = o.type) = true ↔ o.type ∈ selected.map Organization.type := by
    simp only [List.any_eq_true, decide_eq_true_eq, List.mem_map]
  unfold select
  by_cases taken : o.type ∈ selected.map Organization.type
  · rw [if_pos (any.2 taken), if_pos taken, List.map_map]
    refine List.map_congr_left fun s _ => ?_
    rw [Function.comp_apply]
    split
    · rename_i same
      exact same.1.symm
    · rfl
  · rw [if_neg (any.not.2 taken), if_neg taken, List.map_append, List.map_singleton]

theorem mem_select {s : Organization} (h : s ∈ select sessionId selected o) : s ∈ selected ∨ s = o := by
  unfold select at h
  split at h
  · obtain ⟨r, hr, rfl⟩ := List.mem_map.1 h
    split
    · exact .inr rfl
    · exact .inl hr
  · obtain h | h := List.mem_append.1 h
    · exact .inl h
    · exact .inr (List.mem_singleton.1 h)

theorem mem_foldl_select {matching : List Organization} {s : Organization}
    (h : s ∈ matching.foldl (select sessionId) selected) : s ∈ selected ∨ s ∈ matching := by
  induction matching generalizing selected with
  | nil => exact .inl h
  | cons o matching ih =>
    obtain h | h := ih h
    · obtain h | rfl := mem_select h
      · exact .inl h
      · exact .inr List.mem_cons_self
    · exact .inr (List.mem_cons_of_mem o h)

theorem nodup_foldl_select {matching : List Organization} (nodup : (selected.map Organization.type).Nodup) :
    ((matching.foldl (select sessionId) selected).map Organization.type).Nodup := by
  induction matching generalizing selected with
  | nil => exact nodup
  | cons o matching ih =>
    refine ih ?_
    rw [types_select]
    split
    · exact nodup
    · rename_i free
      rw [List.nodup_append]
      refine ⟨nodup, List.nodup_singleton _, fun a ha b hb same => ?_⟩
      rw [List.mem_singleton] at hb
      rw [hb] at same
      exact free (same ▸ ha)

theorem type_mem_foldl_select {matching : List Organization} {type : OrganizationType}
    (h : type ∈ selected.map Organization.type ∨ type ∈ matching.map Organization.type) :
    type ∈ (matching.foldl (select sessionId) selected).map Organization.type := by
  induction matching generalizing selected with
  | nil =>
    obtain h | h := h
    · exact h
    · cases h
  | cons o matching ih =>
    refine ih ?_
    rw [types_select]
    rw [List.map_cons, List.mem_cons] at h
    obtain h | rfl | h := h
    · left
      split
      · exact h
      · exact List.mem_append_left _ h
    · left
      split
      · rename_i taken
        exact taken
      · exact List.mem_append_right _ (List.mem_singleton.2 rfl)
    · exact .inr h

end

/-! ## Memberships by organization and user -/

section

variable {d : CampusDb} {organizationId userId : String} {m : Membership}

theorem membershipOf_iff (distinct : PairsDistinct d) : d.membershipOf organizationId userId = some m ↔
    m ∈ d.memberships.rows ∧ m.organizationId = organizationId ∧ m.userId = userId := by
  constructor
  · exact membershipOf_some
  · rintro ⟨mem, rfl, rfl⟩
    cases found : d.membershipOf m.organizationId m.userId with
    | none => exact absurd ⟨rfl, rfl⟩ (membershipOf_none found m mem)
    | some r =>
      obtain ⟨hr, organization, user⟩ := membershipOf_some found
      rw [List.inj_on_of_nodup_map distinct hr mem (by rw [organization, user])]

theorem pairsDistinct_of_map {d' : CampusDb} (distinct : PairsDistinct d) {f : Membership → Membership}
    (keeps : ∀ m, (f m).organizationId = m.organizationId ∧ (f m).userId = m.userId)
    (rows : d'.memberships.rows = d.memberships.rows.map f) : PairsDistinct d' := by
  unfold PairsDistinct at distinct ⊢
  have same : d.memberships.rows.map ((fun m : Membership => (m.organizationId, m.userId)) ∘ f) =
      d.memberships.rows.map fun m => (m.organizationId, m.userId) := by
    refine List.map_congr_left fun m _ => ?_
    rw [Function.comp_apply, (keeps m).1, (keeps m).2]
  rw [rows, List.map_map, same]
  exact distinct

theorem membershipOf_of_map {d' : CampusDb} {f : Membership → Membership}
    (keeps : ∀ m, (f m).organizationId = m.organizationId ∧ (f m).userId = m.userId)
    (rows : d'.memberships.rows = d.memberships.rows.map f) :
    d'.membershipOf organizationId userId = (d.membershipOf organizationId userId).map f := by
  unfold CampusDb.membershipOf Table.findFirst
  rw [rows, List.find?_map]
  have same : ((fun m : Membership => decide (m.organizationId = organizationId ∧ m.userId = userId)) ∘ f) =
      fun m => decide (m.organizationId = organizationId ∧ m.userId = userId) := by
    funext m
    rw [Function.comp_apply, (keeps m).1, (keeps m).2]
  rw [same]

theorem keeps_leaveAcademic (d : CampusDb) (userId : String) (m : Membership) :
    (d.leaveAcademic userId m).organizationId = m.organizationId ∧ (d.leaveAcademic userId m).userId = m.userId := by
  unfold CampusDb.leaveAcademic
  split <;> exact ⟨rfl, rfl⟩

end

/-- The membership that joining `o` leaves, given the one there was. -/
def joinedRow (userId : String) (sessionId : Option String) (new : OnboardingIds) (o : Organization)
    (old : Option Membership) : Membership :=
  match old with
  | some r => r.rejoinAsStudent (membership userId sessionId new o).joinedSessionId
  | none => membership userId sessionId new o

section

variable {s : AcademicsDb} {userId : String} {sessionId : Option String} {new : OnboardingIds} {o : Organization}

theorem join_rows (distinct : PairsDistinct s.campus)
    (valid : AcademicsStmt.check (.joinAsStudent (membership userId sessionId new o)) s = none) :
    PairsDistinct ((AcademicsStmt.joinAsStudent (membership userId sessionId new o)).apply s).campus ∧
      ∀ organizationId u,
        ((AcademicsStmt.joinAsStudent (membership userId sessionId new o)).apply s).campus.membershipOf organizationId u =
          if organizationId = o.id ∧ u = userId then some (joinedRow userId sessionId new o (s.campus.membershipOf o.id userId))
          else s.campus.membershipOf organizationId u := by
  simp only [AcademicsStmt.apply]
  cases found : s.campus.membershipOf (membership userId sessionId new o).organizationId
      (membership userId sessionId new o).userId with
  | some r =>
    obtain ⟨hr, organization, user⟩ := membershipOf_some found
    have keeps : ∀ m : Membership, (if m.id = r.id then
        m.rejoinAsStudent (membership userId sessionId new o).joinedSessionId else m).organizationId = m.organizationId ∧
        (if m.id = r.id then m.rejoinAsStudent (membership userId sessionId new o).joinedSessionId else m).userId =
          m.userId := by
      intro m
      split <;> exact ⟨rfl, rfl⟩
    constructor
    · exact pairsDistinct_of_map distinct keeps rfl
    · intro organizationId u
      rw [membershipOf_of_map (d := s.campus) keeps rfl]
      by_cases own : organizationId = o.id ∧ u = userId
      · obtain ⟨rfl, rfl⟩ := own
        have here : s.campus.membershipOf o.id u = some r := found
        rw [here, Option.map_some, if_pos rfl, if_pos ⟨rfl, rfl⟩]
        rfl
      · rw [if_neg own]
        cases other : s.campus.membershipOf organizationId u with
        | none => rfl
        | some x =>
          obtain ⟨hx, organization', user'⟩ := membershipOf_some other
          rw [Option.map_some, if_neg]
          intro same
          obtain rfl := Table.eq_of_key hx hr same
          exact own ⟨organization'.symm.trans organization, user'.symm.trans user⟩
  | none =>
    have free : s.campus.memberships.find (membership userId sessionId new o).id = none := by
      simp only [AcademicsStmt.check, CampusStmt.first, CampusStmt.unique, found, Option.or_eq_none_iff,
        Option.isNone_none, and_true, ite_eq_right_iff] at valid
      by_contra taken
      have := valid.1 (Option.isSome_iff_ne_none.2 taken)
      cases this
    have rows := Table.insert_rows free
    constructor
    · unfold PairsDistinct at distinct ⊢
      rw [rows, List.map_append, List.nodup_append]
      refine ⟨distinct, List.nodup_singleton _, fun a ha b hb same => ?_⟩
      obtain ⟨x, mem, rfl⟩ := List.mem_map.1 ha
      rw [List.map_singleton, List.mem_singleton] at hb
      rw [hb, Prod.mk.injEq] at same
      exact membershipOf_none found x mem same
    · intro organizationId u
      have inserted : (s.campus.memberships.insert (membership userId sessionId new o)).findFirst
          (fun m => m.organizationId = organizationId ∧ m.userId = u) =
            (s.campus.membershipOf organizationId u).or
              (if o.id = organizationId ∧ userId = u then some (membership userId sessionId new o) else none) := by
        rw [Table.findFirst_insert free]
        congr 1
        exact if_congr decide_eq_true_iff rfl rfl
      rw [CampusDb.membershipOf, inserted]
      by_cases own : organizationId = o.id ∧ u = userId
      · obtain ⟨rfl, rfl⟩ := own
        have here : s.campus.membershipOf o.id u = none := found
        rw [here, Option.none_or, if_pos ⟨rfl, rfl⟩, if_pos ⟨rfl, rfl⟩]
        rfl
      · rw [if_neg own, if_neg fun same => own ⟨same.1.symm, same.2.symm⟩, Option.or_none]

theorem approve_campus (r : JoinRequest) (s : AcademicsDb) :
    ((AcademicsStmt.approveJoinRequest r).apply s).campus.memberships = s.campus.memberships ∧
      ((AcademicsStmt.approveJoinRequest r).apply s).campus.organizations = s.campus.organizations ∧
      ((AcademicsStmt.approveJoinRequest r).apply s).campus.students = s.campus.students := by
  simp only [AcademicsStmt.apply]
  split <;> exact ⟨rfl, rfl, rfl⟩

theorem join_campus (m : Membership) (s : AcademicsDb) :
    ((AcademicsStmt.joinAsStudent m).apply s).campus.organizations = s.campus.organizations ∧
      ((AcademicsStmt.joinAsStudent m).apply s).campus.students = s.campus.students := by
  simp only [AcademicsStmt.apply]
  split <;> exact ⟨rfl, rfl⟩

theorem leave_rows (distinct : PairsDistinct s.campus) :
    PairsDistinct ((AcademicsStmt.leaveAcademic userId).apply s).campus ∧
      ∀ organizationId u, ((AcademicsStmt.leaveAcademic userId).apply s).campus.membershipOf organizationId u =
        (s.campus.membershipOf organizationId u).map (s.campus.leaveAcademic userId) :=
  ⟨pairsDistinct_of_map distinct (keeps_leaveAcademic s.campus userId) rfl, fun _ _ =>
    membershipOf_of_map (keeps_leaveAcademic s.campus userId) rfl⟩

end

/-! ## What is joined -/

/-- The organizations `joined` are joined, one after the other, since the state `s`. -/
structure Joining (userId : String) (sessionId : Option String) (new : OnboardingIds) (s : AcademicsDb)
    (joined : List Organization) (s' : AcademicsDb) : Prop where
  organizations : s'.campus.organizations = s.campus.organizations
  students : s'.campus.students = s.campus.students
  distinct : PairsDistinct s'.campus
  own : ∀ o ∈ joined, s'.campus.membershipOf o.id userId =
    some (joinedRow userId sessionId new o (s.campus.membershipOf o.id userId))
  other : ∀ organizationId u, (u = userId → ∀ o ∈ joined, o.id ≠ organizationId) →
    s'.campus.membershipOf organizationId u = s.campus.membershipOf organizationId u

section

variable {userId : String} {sessionId : Option String} {new : OnboardingIds} {s s' : AcademicsDb}
  {joined : List Organization} {o : Organization}

theorem Joining.join (h : Joining userId sessionId new s joined s') (fresh : ∀ r ∈ joined, r.id ≠ o.id)
    (valid : AcademicsStmt.check (.joinAsStudent (membership userId sessionId new o)) s' = none) :
    Joining userId sessionId new s (joined ++ [o]) ((AcademicsStmt.approveJoinRequest (joinRequest userId new o)).apply
      ((AcademicsStmt.joinAsStudent (membership userId sessionId new o)).apply s')) := by
  obtain ⟨distinct, rows⟩ := join_rows h.distinct valid
  obtain ⟨memberships, organizations, students⟩ := approve_campus (joinRequest userId new o)
    ((AcademicsStmt.joinAsStudent (membership userId sessionId new o)).apply s')
  have before : s'.campus.membershipOf o.id userId = s.campus.membershipOf o.id userId := h.other _ _ fun _ => fresh
  constructor
  · rw [organizations, (join_campus _ _).1, h.organizations]
  · rw [students, (join_campus _ _).2, h.students]
  · unfold PairsDistinct at distinct ⊢
    rw [memberships]
    exact distinct
  · intro r hr
    unfold CampusDb.membershipOf at rows ⊢
    rw [memberships, rows]
    obtain hr | hr := List.mem_append.1 hr
    · rw [if_neg fun same => fresh r hr same.1]
      exact h.own r hr
    · obtain rfl := List.mem_singleton.1 hr
      rw [if_pos ⟨rfl, rfl⟩]
      exact congrArg (fun old => some (joinedRow userId sessionId new r old)) before
  · intro organizationId u apart
    unfold CampusDb.membershipOf at rows ⊢
    rw [memberships, rows, if_neg]
    · exact h.other _ _ fun own r hr => apart own r (List.mem_append_left _ hr)
    · rintro ⟨rfl, own⟩
      exact apart own o (List.mem_append_right _ (List.mem_singleton.2 rfl)) rfl

theorem inside_joins {selected : List Organization}
    (distinct : PairsDistinct s.campus) (ids : (selected.map Organization.id).Nodup) :
    Inside Surroundings (forEach selected (join userId sessionId new)) s fun _ s' => Joining userId sessionId new s selected s' := by
  have start : Joining userId sessionId new s [] s :=
    ⟨rfl, rfl, distinct, fun _ h => absurd h List.not_mem_nil, fun _ _ _ => rfl⟩
  refine (Inside.forEach (I := fun left s' => ∃ done, done ++ left = selected ∧ Joining userId sessionId new s done s')
    ⟨[], rfl, start⟩ ?_).mono ?_
  · rintro o left s' ⟨done, rfl, joining⟩
    refine .exec_bind fun valid => .exec fun _ => ⟨done ++ [o], by simp, joining.join ?_ valid⟩
    intro r hr same
    rw [List.map_append, List.nodup_append] at ids
    exact ids.2.2 r.id (List.mem_map_of_mem hr) o.id (by simp) same
  · rintro _ s' ⟨done, rfl, joining⟩
    rw [List.append_nil]
    exact joining

end

/-- The units that a student is placed in, and the session used. -/
structure Units where
  institutionId : String
  facultyId : String
  departmentId : String
  academicLevelId : String
  sessionId : Option String

namespace Units

/-- The ACTIVE organizations of the units, without a session or of the one used. -/
def matching (u : Units) (d : AcademicsDb) : List Organization :=
  matchingOrganizations d u.institutionId (some u.facultyId) (some u.departmentId) (some u.academicLevelId) u.sessionId

def selected (u : Units) (d : AcademicsDb) : List Organization := selectedOrganizations u.sessionId (u.matching d)

/-- An academic organization of another unit. -/
def Elsewhere (u : Units) (o : Organization) : Prop :=
  match o.type with
  | .institution => o.institutionId ≠ some u.institutionId
  | .faculty => o.facultyId ≠ some u.facultyId
  | .department => o.departmentId ≠ some u.departmentId
  | .level => o.academicLevelId ≠ some u.academicLevelId
  | _ => False

variable {u : Units} {d : AcademicsDb} {o : Organization}

theorem mem_matching_of_selected (h : o ∈ u.selected d) : o ∈ u.matching d := by
  obtain h | h := mem_foldl_select h
  · cases h
  · exact h

theorem types_selected : ((u.selected d).map Organization.type).Nodup := nodup_foldl_select List.nodup_nil

theorem exists_selected (h : o ∈ u.matching d) : ∃ r ∈ u.selected d, r.type = o.type :=
  List.mem_map.1 (type_mem_foldl_select (.inr (List.mem_map_of_mem h)))

theorem eq_of_type {r : Organization} (ho : o ∈ u.selected d) (hr : r ∈ u.selected d) (type : o.type = r.type) : o = r :=
  List.inj_on_of_nodup_map types_selected ho hr type

theorem mem_organizations (h : o ∈ u.matching d) : o ∈ d.campus.organizations.rows := (List.mem_filter.1 h).1

theorem ids_selected : ((u.selected d).map Organization.id).Nodup := by
  refine List.Nodup.map_on (fun o ho r hr same => ?_) (List.Nodup.of_map _ types_selected)
  exact Table.eq_of_key (mem_organizations (mem_matching_of_selected ho)) (mem_organizations (mem_matching_of_selected hr)) same

/-- An organization of the units is academic and not of another unit. -/
theorem academic_of_matching (h : o ∈ u.matching d) : o.type.isAcademic = true ∧ ¬u.Elsewhere o := by
  have scopes := (List.mem_filter.1 h).2
  simp only [decide_eq_true_eq] at scopes
  obtain ⟨institution, -, inScope, -⟩ := scopes
  unfold inScopes at inScope
  unfold Elsewhere
  cases type : o.type <;> simp_all [OrganizationType.isAcademic]

/-- The state that the user has left the academic organizations in, if any is joined. -/
def left (u : Units) (d : AcademicsDb) (userId : String) : AcademicsDb :=
  if u.selected d ≠ [] then (AcademicsStmt.leaveAcademic userId).apply d else d

end Units

theorem inside_autoJoin {s : AcademicsDb} (distinct : PairsDistinct s.campus) (userId institutionId facultyId departmentId
    academicLevelId : String) (sessionId : Option String) (new : OnboardingIds) {u : Units}
    (hu : u = ⟨institutionId, facultyId, departmentId, academicLevelId,
      (given sessionId).or ((institutionSession s institutionId).map AcademicSession.id)⟩) :
    Inside Surroundings (autoJoinInstitutionalOrganizationsInTransaction userId institutionId (some facultyId)
      (some departmentId) (some academicLevelId) sessionId new) s
      fun _ s' => Joining userId u.sessionId new (u.left s userId) (u.selected s) s' := by
  have joins : Inside Surroundings ((Prog.when (u.selected s ≠ []) (exec (.leaveAcademic userId))).bind fun _ =>
      forEach (u.selected s) (join userId u.sessionId new)) s
      fun _ s' => Joining userId u.sessionId new (u.left s userId) (u.selected s) s' := by
    refine (Inside.when (G := fun _ s' => s' = u.left s userId) (fun some_ => .exec fun _ => ?_) fun none_ => ?_).bind ?_
    · rw [Units.left, if_pos some_]
      rfl
    · rw [Units.left, if_neg none_]
    · rintro _ _ rfl
      refine inside_joins ?_ Units.ids_selected
      unfold Units.left
      split
      · exact (leave_rows distinct).1
      · exact distinct
  unfold autoJoinInstitutionalOrganizationsInTransaction joinSession
  simp only [bind_eq]
  cases hs : given sessionId with
  | some id =>
    rw [hs, Option.some_or] at hu
    subst hu
    exact .query_bind joins
  | none =>
    rw [hs, Option.none_or] at hu
    subst hu
    exact .query_bind (.query_bind joins)

/-! ## What the user is a member of afterwards -/

/-- What an onboarding should leave: one ACTIVE membership for each type that has an organization, none as a student
elsewhere, and all others as they were. -/
structure AutoJoined (d d' : AcademicsDb) (userId : String) (u : Units) : Prop where
  one : ∀ type, (∃ o ∈ u.matching d, o.type = type) →
    ∃! m, (m ∈ d'.campus.memberships.rows ∧ m.userId = userId ∧ m.status = .active) ∧
      ∃ o ∈ u.matching d, o.type = type ∧ o.id = m.organizationId
  elsewhere : ∀ m ∈ d'.campus.memberships.rows, m.userId = userId → m.membershipType = .student → m.status = .active →
    ∀ o, d'.campus.organizations.find m.organizationId = some o → ¬u.Elsewhere o
  kept : ∀ m ∈ d.campus.memberships.rows, m.userId ≠ userId ∨ m.membershipType ≠ .student → m ∈ d'.campus.memberships.rows
  added : ∀ m ∈ d'.campus.memberships.rows, m.userId ≠ userId → m ∈ d.campus.memberships.rows

/-- The user is in none of the organizations in another role, and, where none is joined, nowhere else as a student. -/
structure OnlyStudent (d : AcademicsDb) (userId : String) (u : Units) : Prop where
  selected : ∀ m ∈ d.campus.memberships.rows, m.userId = userId → (∃ o ∈ u.selected d, o.id = m.organizationId) →
    m.membershipType = .student
  matching : ∀ m ∈ d.campus.memberships.rows, m.userId = userId → m.status = .active →
    (∃ o ∈ u.matching d, o ∉ u.selected d ∧ o.id = m.organizationId) → m.membershipType = .student
  elsewhere : u.selected d = [] → ∀ m ∈ d.campus.memberships.rows, m.userId = userId → m.membershipType = .student →
    m.status = .active → ∀ o, d.campus.organizations.find m.organizationId = some o → ¬u.Elsewhere o

section

variable {d d' : AcademicsDb} {userId : String} {u : Units} {new : OnboardingIds} {m : Membership} {o : Organization}

theorem joinedRow_student (userId : String) (sessionId : Option String) (new : OnboardingIds) (o : Organization)
    (old : Option Membership) :
    (joinedRow userId sessionId new o old).membershipType = .student ∧
      (joinedRow userId sessionId new o old).status = .active := by
  cases old <;> exact ⟨rfl, rfl⟩

/-- A membership that is not a student's in an academic organization is not left. -/
theorem leaveAcademic_of_not (h : ¬(m.userId = userId ∧ m.membershipType = .student)) :
    d.campus.leaveAcademic userId m = m :=
  if_neg fun left => h ⟨left.1, left.2.1⟩

/-- What is ACTIVE after the user has left was not left. -/
theorem eq_of_active {m₀ : Membership} (left : d.campus.leaveAcademic userId m₀ = m) (active : m.status = .active) :
    m₀ = m ∧ ¬(m.userId = userId ∧ m.membershipType = .student ∧ m.status = .active ∧ d.campus.inAcademic m) := by
  unfold CampusDb.leaveAcademic at left
  split at left
  · subst left
    cases active
  · subst left
    exact ⟨rfl, ‹_›⟩

theorem Units.membershipOf_left (distinct : PairsDistinct d.campus) (some_ : u.selected d ≠ []) (organizationId v : String) :
    (u.left d userId).campus.membershipOf organizationId v =
      (d.campus.membershipOf organizationId v).map (d.campus.leaveAcademic userId) := by
  rw [Units.left, if_pos some_]
  exact (leave_rows distinct).2 _ _

theorem Units.left_of_nil (none_ : u.selected d = []) : u.left d userId = d := if_neg fun some_ => some_ none_

theorem Units.campus_left : (u.left d userId).campus.organizations = d.campus.organizations ∧
    (u.left d userId).campus.students = d.campus.students := by
  unfold Units.left
  split <;> exact ⟨rfl, rfl⟩

/-- The organization of a membership is one that is joined, if any of these has its identifier. -/
theorem Units.find_selected (ho : o ∈ u.selected d) : d.campus.organizations.find o.id = some o :=
  Table.find_of_mem (mem_organizations (mem_matching_of_selected ho))

theorem inAcademic_of_find (found : d.campus.organizations.find m.organizationId = some o)
    (academic : o.type.isAcademic = true) : d.campus.inAcademic m = true := by
  rw [CampusDb.inAcademic, found]
  exact academic

theorem Units.academic_of_elsewhere (h : u.Elsewhere o) : o.type.isAcademic = true := by
  unfold Units.Elsewhere at h
  cases type : o.type <;> rw [type] at h <;> first | rfl | exact h.elim

/-- A membership that is not of the user in an organization that is joined comes from one that was there. -/
theorem Joining.before (h : Joining userId u.sessionId new (u.left d userId) (u.selected d) d') (distinct : PairsDistinct d.campus)
    (hm : m ∈ d'.campus.memberships.rows) (other : m.userId = userId → ∀ r ∈ u.selected d, r.id ≠ m.organizationId) :
    ∃ m₀ ∈ d.campus.memberships.rows, m₀.userId = m.userId ∧
      (u.selected d = [] ∧ m₀ = m ∨ u.selected d ≠ [] ∧ d.campus.leaveAcademic userId m₀ = m) := by
  have found := (membershipOf_iff h.distinct).2 ⟨hm, rfl, rfl⟩
  rw [h.other _ _ other] at found
  by_cases none_ : u.selected d = []
  · rw [Units.left_of_nil none_] at found
    exact ⟨m, ((membershipOf_iff distinct).1 found).1, rfl, .inl ⟨none_, rfl⟩⟩
  · rw [Units.membershipOf_left distinct none_, Option.map_eq_some_iff] at found
    obtain ⟨m₀, found, left⟩ := found
    obtain ⟨mem, -, user⟩ := (membershipOf_iff distinct).1 found
    exact ⟨m₀, mem, user, .inr ⟨none_, left⟩⟩

/-- A membership that is not a student's of the user in an organization that is joined stays. -/
theorem Joining.kept (h : Joining userId u.sessionId new (u.left d userId) (u.selected d) d') (distinct : PairsDistinct d.campus)
    (hm : m ∈ d.campus.memberships.rows) (other : m.userId = userId → ∀ r ∈ u.selected d, r.id ≠ m.organizationId)
    (still : ¬(m.userId = userId ∧ m.membershipType = .student)) : m ∈ d'.campus.memberships.rows := by
  have found := (membershipOf_iff distinct).2 ⟨hm, rfl, rfl⟩
  have after : d'.campus.membershipOf m.organizationId m.userId = some m := by
    rw [h.other _ _ other]
    by_cases none_ : u.selected d = []
    · rw [Units.left_of_nil none_]
      exact found
    · rw [Units.membershipOf_left distinct none_, found, Option.map_some, leaveAcademic_of_not still]
  exact ((membershipOf_iff h.distinct).1 after).1

theorem Joining.ownRow (h : Joining userId u.sessionId new (u.left d userId) (u.selected d) d') (ho : o ∈ u.selected d) :
    ∃ m ∈ d'.campus.memberships.rows, m.organizationId = o.id ∧ m.userId = userId ∧ m.membershipType = .student ∧
      m.status = .active ∧ ∀ m' ∈ d'.campus.memberships.rows, m'.organizationId = o.id → m'.userId = userId → m' = m := by
  have found := h.own o ho
  obtain ⟨mem, organization, user⟩ := (membershipOf_iff h.distinct).1 found
  obtain ⟨student, active⟩ := joinedRow_student userId u.sessionId new o
    ((u.left d userId).campus.membershipOf o.id userId)
  refine ⟨_, mem, organization, user, student, active, fun m' hm' organization' user' => ?_⟩
  have found' := (membershipOf_iff h.distinct).2 ⟨hm', organization', user'⟩
  rw [found] at found'
  exact (Option.some.inj found').symm

theorem Joining.autoJoined (h : Joining userId u.sessionId new (u.left d userId) (u.selected d) d')
    (distinct : PairsDistinct d.campus) (only : OnlyStudent d userId u) : AutoJoined d d' userId u := by
  have organizations : d'.campus.organizations = d.campus.organizations :=
    h.organizations.trans Units.campus_left.1
  constructor
  · rintro type ⟨o, ho, rfl⟩
    obtain ⟨r, hr, type⟩ := Units.exists_selected ho
    obtain ⟨m, mem, organization, user, -, active, unique⟩ := h.ownRow hr
    refine ⟨m, ⟨⟨mem, user, active⟩, r, Units.mem_matching_of_selected hr, type, organization.symm⟩, ?_⟩
    rintro m' ⟨⟨mem', user', active'⟩, o', ho', type', organization'⟩
    by_cases joined : o' ∈ u.selected d
    · obtain rfl := Units.eq_of_type joined hr (type'.trans type.symm)
      exact unique m' mem' organization'.symm user'
    · -- Another organization of the type: the user was there in another role.
      have other : m'.userId = userId → ∀ r ∈ u.selected d, r.id ≠ m'.organizationId := by
        intro _ r hr same
        rw [← organization'] at same
        rw [Table.eq_of_key (Units.mem_organizations (Units.mem_matching_of_selected hr)) (Units.mem_organizations ho') same]
          at hr
        exact joined hr
      obtain ⟨m₀, mem₀, -, ⟨none_, -⟩ | ⟨-, left⟩⟩ := h.before distinct mem' other
      · rw [none_] at hr
        cases hr
      · obtain ⟨rfl, still⟩ := eq_of_active left active'
        have found : d.campus.organizations.find m₀.organizationId = some o' := by
          rw [← organization']
          exact Table.find_of_mem (Units.mem_organizations ho')
        have student := only.matching m₀ mem₀ user' active' ⟨o', ho', joined, organization'⟩
        exact absurd ⟨user', student, active', inAcademic_of_find found (Units.academic_of_matching ho').1⟩ still
  · intro m mem user student active o found
    rw [organizations] at found
    by_cases joined : ∃ r ∈ u.selected d, r.id = m.organizationId
    · obtain ⟨r, hr, same⟩ := joined
      rw [← same, Units.find_selected hr] at found
      obtain rfl := Option.some.inj found
      exact (Units.academic_of_matching (Units.mem_matching_of_selected hr)).2
    · obtain ⟨m₀, mem₀, -, ⟨none_, rfl⟩ | ⟨-, left⟩⟩ := h.before distinct mem fun _ r hr same => joined ⟨r, hr, same⟩
      · exact only.elsewhere none_ m₀ mem₀ user student active o found
      · obtain ⟨rfl, still⟩ := eq_of_active left active
        intro elsewhere
        exact still ⟨user, student, active, inAcademic_of_find found (Units.academic_of_elsewhere elsewhere)⟩
  · intro m mem other
    have still : ¬(m.userId = userId ∧ m.membershipType = .student) := fun own => by
      obtain other | other := other
      · exact other own.1
      · exact other own.2
    refine h.kept distinct mem (fun own r hr same => ?_) still
    exact still ⟨own, only.selected m mem own ⟨r, hr, same⟩⟩
  · intro m mem other
    obtain ⟨m₀, mem₀, user, ⟨-, rfl⟩ | ⟨-, left⟩⟩ := h.before distinct mem fun own => absurd own other
    · exact mem₀
    · rw [leaveAcademic_of_not fun own => other (user.symm.trans own.1)] at left
      rw [← left]
      exact mem₀

theorem Joining.onlyStudent (h : Joining userId u.sessionId new (u.left d userId) (u.selected d) d')
    (distinct : PairsDistinct d.campus) (joined : AutoJoined d d' userId u) : OnlyStudent d userId u := by
  have organizations : d'.campus.organizations = d.campus.organizations :=
    h.organizations.trans Units.campus_left.1
  constructor
  · rintro m mem user ⟨r, hr, same⟩
    by_contra other
    obtain ⟨m', mem', -, -, student, -, unique⟩ := h.ownRow hr
    rw [← unique m (joined.kept m mem (.inr other)) same.symm user] at student
    exact other student
  · rintro m mem user active ⟨o, ho, notJoined, same⟩
    by_contra other
    obtain ⟨r, hr, type⟩ := Units.exists_selected ho
    obtain ⟨m', mem', organization', user', -, active', -⟩ := h.ownRow hr
    obtain ⟨m₁, -, unique⟩ := joined.one o.type ⟨o, ho, rfl⟩
    have first := unique m ⟨⟨joined.kept m mem (.inr other), user, active⟩, o, ho, rfl, same⟩
    have second := unique m' ⟨⟨mem', user', active'⟩, r, Units.mem_matching_of_selected hr, type, organization'.symm⟩
    rw [first, ← second, organization'] at same
    rw [← Table.eq_of_key (Units.mem_organizations ho) (Units.mem_organizations (Units.mem_matching_of_selected hr)) same]
      at hr
    exact notJoined hr
  · intro none_ m mem user student active o found
    have found' := (membershipOf_iff distinct).2 ⟨mem, rfl, rfl⟩
    have apart : m.userId = userId → ∀ r ∈ u.selected d, r.id ≠ m.organizationId := by
      intro _ r hr
      rw [none_] at hr
      cases hr
    have after : d'.campus.membershipOf m.organizationId m.userId = some m := by
      rw [h.other _ _ apart, Units.left_of_nil none_]
      exact found'
    rw [← organizations] at found
    exact joined.elsewhere m ((membershipOf_iff h.distinct).1 after).1 user student active o found

end

/-! ## The onboardings -/

/-- The organizations, the memberships and the sessions are the same. -/
structure SameCampus (d s : AcademicsDb) : Prop where
  organizations : s.campus.organizations = d.campus.organizations
  memberships : s.campus.memberships = d.campus.memberships
  sessions : s.campus.sessions = d.campus.sessions

/-- The user's profile is in these units. -/
def PlacedIn (d : AcademicsDb) (userId : String) (u : Units) : Prop :=
  ∃ s, d.campus.studentOf userId = some s ∧ s.institutionId = u.institutionId ∧ s.facultyId = u.facultyId ∧
    s.departmentId = u.departmentId ∧ s.currentAcademicLevelId = some u.academicLevelId

section

variable {d s : AcademicsDb} {userId : String}

theorem SameCampus.refl (d : AcademicsDb) : SameCampus d d := ⟨rfl, rfl, rfl⟩

theorem SameCampus.trans {s' : AcademicsDb} (h : SameCampus d s) (h' : SameCampus s s') : SameCampus d s' :=
  ⟨h'.organizations.trans h.organizations, h'.memberships.trans h.memberships, h'.sessions.trans h.sessions⟩

theorem sameCampus_upsertStudent (r : StudentProfile) (s : AcademicsDb) :
    SameCampus s ((AcademicsStmt.upsertStudent r).apply s) := by
  simp only [AcademicsStmt.apply]
  split <;> exact ⟨rfl, rfl, rfl⟩

theorem upsertRecord_campus (r : StudentAcademicRecord) (s : AcademicsDb) :
    SameCampus s ((AcademicsStmt.campus (.upsertRecord r)).apply s) ∧
      ((AcademicsStmt.campus (.upsertRecord r)).apply s).campus.students = s.campus.students :=
  ⟨⟨rfl, rfl, rfl⟩, rfl⟩

theorem SameCampus.matching (h : SameCampus d s) (u : Units) : u.matching s = u.matching d := by
  unfold Units.matching matchingOrganizations
  rw [h.organizations]

theorem SameCampus.selected (h : SameCampus d s) (u : Units) : u.selected s = u.selected d := by
  unfold Units.selected
  rw [h.matching]

theorem SameCampus.pairsDistinct (h : SameCampus d s) (distinct : PairsDistinct d.campus) : PairsDistinct s.campus := by
  unfold PairsDistinct at distinct ⊢
  rw [h.memberships]
  exact distinct

theorem SameCampus.onlyStudent_iff (h : SameCampus d s) {u : Units} : OnlyStudent s userId u ↔ OnlyStudent d userId u := by
  constructor
  · rintro ⟨selected, matching, elsewhere⟩
    rw [h.memberships, h.selected] at selected
    rw [h.memberships, h.matching, h.selected] at matching
    rw [h.memberships, h.organizations, h.selected] at elsewhere
    exact ⟨selected, matching, elsewhere⟩
  · rintro ⟨selected, matching, elsewhere⟩
    constructor
    · rw [h.memberships, h.selected]
      exact selected
    · rw [h.memberships, h.matching, h.selected]
      exact matching
    · rw [h.memberships, h.organizations, h.selected]
      exact elsewhere

theorem SameCampus.autoJoined_iff (h : SameCampus d s) {d' s' : AcademicsDb} (h' : SameCampus s' d') {u : Units} :
    AutoJoined s s' userId u ↔ AutoJoined d d' userId u := by
  constructor
  · rintro ⟨one, elsewhere, kept, added⟩
    rw [h.matching, ← h'.memberships] at one
    rw [← h'.memberships, ← h'.organizations] at elsewhere
    rw [h.memberships, ← h'.memberships] at kept added
    exact ⟨one, elsewhere, kept, added⟩
  · rintro ⟨one, elsewhere, kept, added⟩
    constructor
    · rw [h.matching, ← h'.memberships]
      exact one
    · rw [← h'.memberships, ← h'.organizations]
      exact elsewhere
    · rw [h.memberships, ← h'.memberships]
      exact kept
    · rw [h.memberships, ← h'.memberships]
      exact added

/-- What joining leaves, seen from before the placement and after all of the transaction. -/
theorem Joining.autoJoined_iff {u : Units} {new : OnboardingIds} {d' s' : AcademicsDb}
    (h : Joining userId u.sessionId new (u.left s userId) (u.selected s) s') (before : SameCampus d s)
    (after : SameCampus s' d') (distinct : PairsDistinct d.campus) : AutoJoined d d' userId u ↔ OnlyStudent d userId u := by
  have distinct' := before.pairsDistinct distinct
  rw [← before.autoJoined_iff after, ← before.onlyStudent_iff]
  exact ⟨h.onlyStudent distinct', h.autoJoined distinct'⟩

theorem inside_enrol (userId : String) (p : Placement) (newId : String) :
    Inside Surroundings (enrol userId p newId) s fun student s' => SameCampus s s' ∧
      s'.campus.studentOf userId = some student ∧ student.institutionId = p.institutionId ∧
        student.facultyId = p.facultyId ∧ student.departmentId = p.departmentId ∧
          student.currentAcademicLevelId = some p.academicLevelId := by
  unfold enrol
  simp only [bind_eq]
  refine .query_bind (.exec_bind fun valid => .query_bind ?_)
  have written := (studentOf_upsert (s := p.student userId newId s.campus.now) (free_of_upsert valid) userId).trans (if_pos rfl)
  cases found : ((AcademicsStmt.upsertStudent (p.student userId newId s.campus.now)).apply s).campus.studentOf userId with
  | none => exact .throw _
  | some student =>
    refine .ret ⟨sameCampus_upsertStudent _ s, found, ?_⟩
    rw [found] at written
    obtain rfl := Option.some.inj written
    cases s.campus.studentOf (p.student userId newId s.campus.now).userId <;> exact ⟨rfl, rfl, rfl, rfl⟩

theorem inside_orThrow {α : Type} (o : Option α) (e : CampusError) :
    Inside Surroundings (orThrow o e : AcademicsAction α) s fun a s' => o = some a ∧ s' = s := by
  cases o with
  | some a => exact .ret ⟨rfl, rfl⟩
  | none => exact .throw e

theorem inside_findInstitution (fold : String → String) (name : String) :
    Inside Surroundings (findInstitution fold name) s fun _ s' => s' = s :=
  .query_bind ((inside_orThrow _ _).mono fun _ _ h => h.2)

theorem inside_findFaculty (fold : String → String) (name institutionId : String) :
    Inside Surroundings (findFaculty fold name institutionId) s fun _ s' => s' = s :=
  .query_bind ((inside_orThrow _ _).mono fun _ _ h => h.2)

theorem inside_findDepartment (fold : String → String) (name facultyId : String) :
    Inside Surroundings (findDepartment fold name facultyId) s fun _ s' => s' = s :=
  .query_bind ((inside_orThrow _ _).mono fun _ _ h => h.2)

theorem inside_chooseLevel (academicLevelId : Option String) (isFresher : Bool) (departmentId : String) :
    Inside Surroundings (chooseLevel academicLevelId isFresher departmentId) s fun _ s' => s' = s := by
  unfold chooseLevel
  simp only [bind_eq]
  split
  · exact .query_bind ((inside_orThrow _ _).mono fun _ _ h => h.2)
  · exact .ensure_bind fun _ => .query_bind ((inside_orThrow _ _).mono fun _ _ h => h.2)

theorem inside_checkLevel {β : Type} {isFresher isDirectEntry : Bool} {level : AcademicLevel} {f : Unit → AcademicsAction β}
    {G : β → AcademicsDb → Prop} (hf : Inside Surroundings (f ()) s G) :
    Inside Surroundings ((checkLevel isFresher isDirectEntry level).bind f) s G := by
  unfold checkLevel
  simp only [bind_eq, Prog.bind_assoc]
  exact .ensure_bind fun _ => .ensure_bind fun _ => hf

theorem inside_chooseSession (session : Option AcademicSession) (institutionId : String) :
    Inside Surroundings (chooseSession session institutionId) s fun chosen s' =>
      session.or (currentSession s institutionId) = some chosen ∧ s' = s := by
  unfold chooseSession
  cases session with
  | some session => exact .ensure_bind fun _ => .ret ⟨rfl, rfl⟩
  | none => exact .query_bind (inside_orThrow _ _)

/-- What the placement of a request leaves: the joins, since a state with the same organizations. -/
def JoinedSince (d : AcademicsDb) (userId : String) (new : OnboardingIds) (sessionId : String → Option String)
    (s' : AcademicsDb) : Prop :=
  ∃ u s, SameCampus d s ∧ Joining userId u.sessionId new (u.left s userId) (u.selected s) s' ∧ PlacedIn s userId u ∧
    u.sessionId = (given (sessionId u.institutionId)).or ((institutionSession d u.institutionId).map AcademicSession.id)

theorem inside_placed {institutionId facultyId departmentId academicLevelId : String} {sessionId : Option String}
    {sessions : String → Option String} {new : OnboardingIds} (before : SameCampus d s) (distinct : PairsDistinct d.campus)
    (placed : PlacedIn s userId ⟨institutionId, facultyId, departmentId, academicLevelId, none⟩)
    (same : sessions institutionId = sessionId) :
    Inside Surroundings (autoJoinInstitutionalOrganizationsInTransaction userId institutionId (some facultyId)
      (some departmentId) (some academicLevelId) sessionId new) s fun _ s' => JoinedSince d userId new sessions s' := by
  refine (inside_autoJoin (before.pairsDistinct distinct) userId institutionId facultyId departmentId academicLevelId
    sessionId new rfl).mono fun _ s' joining => ⟨_, s, before, joining, placed, ?_⟩
  unfold institutionSession
  rw [same, before.sessions]

theorem inside_placeByNames {fold : String → String} {body : CompleteOnboardingDto} {session : Option AcademicSession}
    {new : OnboardingIds} {names : String × String × String} (before : SameCampus d s) (distinct : PairsDistinct d.campus) :
    Inside Surroundings (placeByNames fold userId body session new names) s fun _ s' =>
      JoinedSince d userId new (fun institutionId => (session.or (currentSession d institutionId)).map AcademicSession.id)
        s' := by
  unfold placeByNames
  simp only [bind_eq]
  refine .orThrow_bind fun matricNumber _ => (inside_findInstitution fold names.1).bind ?_
  rintro institution _ rfl
  refine (inside_chooseSession session institution.id).bind ?_
  rintro chosen _ ⟨session, rfl⟩
  refine (inside_findFaculty fold _ _).bind ?_
  rintro faculty _ rfl
  refine (inside_findDepartment fold _ _).bind ?_
  rintro department _ rfl
  refine (inside_chooseLevel _ _ _).bind ?_
  rintro chosenLevel _ rfl
  refine .query_bind (.orThrow_bind fun level _ => inside_checkLevel (.query_bind (.ensure_bind fun _ => ?_)))
  refine (inside_enrol userId _ new.student).bind ?_
  rintro student s' ⟨same, found, placed⟩
  refine .exec_bind fun _ => inside_placed ((before.trans same).trans (upsertRecord_campus _ s').1) distinct
    ⟨student, ?_, placed⟩ ?_
  · rw [CampusDb.studentOf]
    exact found
  · rw [currentSession, before.sessions] at session
    rw [currentSession, session]
    rfl

theorem inside_placeByIds {dto : OnboardingInstitutionDto} {new : OnboardingIds} (before : SameCampus d s)
    (distinct : PairsDistinct d.campus) :
    Inside Surroundings (placeByIds userId dto new) s fun _ s' => JoinedSince d userId new (fun _ => none) s' := by
  unfold placeByIds
  simp only [bind_eq]
  refine (inside_enrol userId dto.placement new.student).bind ?_
  rintro student s₁ ⟨same, found, placed⟩
  have reads : Inside Surroundings (recordSession dto) s₁ fun _ s' => s' = s₁ := by
    unfold recordSession
    simp only [bind_eq]
    exact .query_bind (.orThrow_bind fun _ _ => .ensure_bind fun _ => .ret rfl)
  refine reads.bind fun session s' hs => ?_
  rw [hs]
  refine .exec_bind fun _ => .query_bind (.exec_bind fun _ => ?_)
  have joins : ∀ s₂, SameCampus d s₂ → PlacedIn s₂ userId ⟨dto.institutionId, dto.facultyId, dto.departmentId, dto.levelId, none⟩ →
      Inside Surroundings (autoJoinInstitutionalOrganizationsInTransaction userId dto.institutionId (some dto.facultyId)
        (some dto.departmentId) (some dto.levelId) none new) s₂ fun _ s' => JoinedSince d userId new (fun _ => none) s' :=
    fun s₂ before placed => inside_placed before distinct placed rfl
  have written (now : Nat) : SameCampus d ((AcademicsStmt.updateUserProfile userId (completed now)).apply
      ((AcademicsStmt.campus (.upsertRecord (dto.placement.record student.id session.id))).apply s₁)) :=
    ((before.trans same).trans (upsertRecord_campus _ s₁).1).trans ⟨rfl, rfl, rfl⟩
  refine (joins _ (written _) ⟨student, ?_, placed⟩).bind fun _ s' joined => ?_
  · rw [CampusDb.studentOf]
    exact found
  · have logged : JoinedSince d userId new (fun _ => none) (Database.apply (AcademicsStmt.campus .createActivityLog) s') :=
      joined
    exact .exec fun _ => logged

theorem JoinedSince.concluded {new : OnboardingIds} {sessions : String → Option String} {s' : AcademicsDb} (d' : AcademicsDb)
    (h : JoinedSince d userId new sessions s') (distinct : PairsDistinct d.campus) (same : d'.campus = s'.campus) :
    ∃ u : Units, PlacedIn d' userId u ∧
      u.sessionId = (given (sessions u.institutionId)).or ((institutionSession d u.institutionId).map AcademicSession.id) ∧
        (AutoJoined d d' userId u ↔ OnlyStudent d userId u) := by
  obtain ⟨u, s, before, joining, placed, session⟩ := h
  have after : SameCampus s' d' := ⟨by rw [same], by rw [same], by rw [same]⟩
  refine ⟨u, ?_, session, joining.autoJoined_iff before after distinct⟩
  unfold PlacedIn CampusDb.studentOf at placed ⊢
  rw [same, joining.students, Units.campus_left.2]
  exact placed

theorem turns_invalidateOnboardingCache (d : AcademicsDb) (x : Surroundings) :
    Turns invalidateOnboardingCache d x (fun _ d' _ => d' = d) fun _ _ => True := by
  have asked : Turns invalidateCache d x (fun _ d' _ => d' = d) fun d' _ => d' = d := by
    unfold invalidateCache
    exact Turns.request (X := Surroundings) (R := CampusCall.Reply) (c := CampusCall.invalidate) (S := fun _ d' _ => d' = d) (T := fun d' _ => d' = d) rfl rfl rfl
  exact asked.attempt fun _ _ h => h

end

/-- An onboarding by the names of the units or by their identifiers. -/
inductive Onboarding where
  | byNames (body : CompleteOnboardingDto)
  | byIds (dto : OnboardingInstitutionDto)

namespace Onboarding

def program (fold : String → String) (userId : String) (new : OnboardingIds) : Onboarding → AcademicsAction Unit
  | byNames body => completeOnboarding fold userId body new
  | byIds dto => updateInstitutionInfo userId dto new

/-- A placement is chosen. -/
def places : Onboarding → Bool
  | byNames body => body.picked.isSome
  | byIds _ => true

/-- The session that is handed on to the joins. -/
def sessionId (d : AcademicsDb) (institutionId : String) : Onboarding → Option String
  | byNames body => (given body.sessionId).or ((currentSession d institutionId).map AcademicSession.id)
  | byIds _ => none

/-- The session used: the one handed on, else the current one of the institution as a whole. -/
def joinSession (o : Onboarding) (d : AcademicsDb) (institutionId : String) : Option String :=
  (given (o.sessionId d institutionId)).or ((institutionSession d institutionId).map AcademicSession.id)

/-- What an onboarding leaves that places the user. -/
def Leaves (o : Onboarding) (userId : String) (d d' : AcademicsDb) : Prop :=
  ∃ u : Units, PlacedIn d' userId u ∧ u.sessionId = o.joinSession d u.institutionId ∧
    (AutoJoined d d' userId u ↔ OnlyStudent d userId u)

variable {d : AcademicsDb} {x : Surroundings} {userId : String} {new : OnboardingIds}

theorem turns_findSession (d : AcademicsDb) (x : Surroundings) (sessionId : Option String) :
    Turns (findSession sessionId) d x (fun session d' x' => d' = d ∧ x' = x ∧
      session.map AcademicSession.id = given sessionId) fun _ _ => True := by
  unfold findSession
  cases hs : given sessionId with
  | none => exact .ret ⟨rfl, rfl, rfl⟩
  | some id =>
    refine .outside_bind trivial (.orThrow_bind trivial fun session found => .ret ⟨rfl, rfl, ?_⟩)
    rw [Option.map_some, Table.find_key found]

theorem turns_byNames (fold : String → String) (body : CompleteOnboardingDto) (distinct : PairsDistinct d.campus)
    (places : (byNames body).places = true) :
    Turns (completeOnboarding fold userId body new) d x (fun _ d' _ => (byNames body).Leaves userId d d') fun _ _ => True := by
  obtain ⟨names, picked⟩ := Option.isSome_iff_exists.1 places
  unfold completeOnboarding
  simp only [bind_eq]
  refine (turns_findSession d x body.sessionId).bind fun session d₁ x₁ same => ?_
  obtain ⟨hd, hx, given_⟩ := same
  rw [hd, hx]
  refine (Inside.turns (S := fun _ d' _ => (byNames body).Leaves userId d d')
    (G := fun _ d' => (byNames body).Leaves userId d d') ?_ (fun _ _ h => h) trivial).bind fun _ d' x' leaves => ?_
  · refine .exec_bind fun _ => ?_
    rw [picked]
    have placed (s : AcademicsDb) (before : SameCampus d s) : Inside Surroundings (placeByNames fold userId body session new names)
        s fun _ s' => JoinedSince d userId new
          (fun i => (session.or (currentSession d i)).map AcademicSession.id) s' := inside_placeByNames before distinct
    refine (placed (Database.apply (AcademicsStmt.updateUserProfile userId (OnboardingService.names body.firstName
      body.lastName)) d) ⟨rfl, rfl, rfl⟩).bind fun _ s' joined => ?_
    refine .query_bind (.exec_bind fun _ => .exec fun _ => ?_)
    obtain ⟨u, placed, used, iff⟩ := joined.concluded (Database.apply (AcademicsStmt.campus .createActivityLog)
      (Database.apply (AcademicsStmt.updateUserProfile userId (OnboardingService.completed s'.campus.now)) s')) distinct rfl
    refine ⟨u, placed, used.trans ?_, iff⟩
    show _ = (given ((given body.sessionId).or _)).or _
    rw [← given_]
    cases session <;> rfl
  · exact (turns_invalidateOnboardingCache d' x').mono (fun _ _ _ same => same ▸ leaves) fun _ _ h => h

theorem turns_outside_same {α β : Type} {g : AcademicsDb → α} {f : α → AcademicsAction β} {S : β → AcademicsDb → Surroundings → Prop}
    (hf : Turns (f (g d)) d x S fun _ _ => True) : Turns ((outside g).bind f) d x S fun _ _ => True :=
  .outside_bind trivial hf

/-- The checks of the units read only. -/
theorem turns_findUnits (d : AcademicsDb) (x : Surroundings) (dto : OnboardingInstitutionDto) :
    Turns (findUnits dto) d x (fun _ d' x' => d' = d ∧ x' = x) fun _ _ => True := by
  unfold findUnits
  simp only [bind_eq]
  refine turns_outside_same (turns_outside_same (turns_outside_same (turns_outside_same ?_)))
  refine .orThrow_bind trivial fun institution _ => .orThrow_bind trivial fun faculty _ => ?_
  refine .orThrow_bind trivial fun department _ => .orThrow_bind trivial fun level _ => ?_
  exact .ensure_bind trivial fun _ => .ensure_bind trivial fun _ => .ensure_bind trivial fun _ => .ret ⟨rfl, trivial⟩

theorem turns_checkMatricNumber (d : AcademicsDb) (x : Surroundings) (userId matricNumber : String) :
    Turns (checkMatricNumber userId matricNumber) d x (fun _ d' x' => d' = d ∧ x' = x) fun _ _ => True := by
  unfold checkMatricNumber
  refine .when (fun _ => ?_) fun _ => ⟨rfl, rfl⟩
  simp only [bind_eq]
  refine turns_outside_same ?_
  unfold ensure
  split
  · exact .ret ⟨rfl, trivial⟩
  · exact .throw trivial

theorem turns_byIds (dto : OnboardingInstitutionDto) (distinct : PairsDistinct d.campus) :
    Turns (updateInstitutionInfo userId dto new) d x (fun _ d' _ => (byIds dto).Leaves userId d d') fun _ _ => True := by
  unfold updateInstitutionInfo
  simp only [bind_eq]
  refine turns_outside_same (.orThrow_bind trivial fun _ _ => (turns_findUnits d x dto).bind fun level d₁ x₁ same => ?_)
  obtain ⟨hd, hx⟩ := same
  rw [hd, hx]
  unfold checkLevel
  simp only [bind_eq, Prog.bind_assoc]
  refine .ensure_bind trivial fun _ => .ensure_bind trivial fun _ => ?_
  refine (turns_checkMatricNumber d x userId dto.matricNumber).bind fun _ d₁ x₁ same => ?_
  obtain ⟨hd, hx⟩ := same
  rw [hd, hx]
  have body : Inside Surroundings (placeByIds userId dto new) d fun _ d' => (byIds dto).Leaves userId d d' := by
    refine (inside_placeByIds (.refl d) distinct).mono fun _ s' joined => ?_
    obtain ⟨u, placed, used, iff⟩ := joined.concluded s' distinct rfl
    exact ⟨u, placed, used, iff⟩
  refine (body.turns (S := fun _ d' _ => (byIds dto).Leaves userId d d') (fun _ _ h => h) trivial).bind fun _ d' x' leaves => ?_
  exact (turns_invalidateOnboardingCache d' x').mono (fun _ _ _ same => same ▸ leaves) fun _ _ h => h

/-- The college with an organization of itself, one of its department, and one of another department, where a user is a
student. -/
def joinableUnits : AcademicsDb where
  campus.users := collegeUnits.campus.users
  campus.institutions := collegeUnits.campus.institutions
  campus.sessions := collegeUnits.campus.sessions
  campus.levels := collegeUnits.campus.levels
  campus.organizations := ⟨[
    { id := "i", institutionId := some "inst", name := "College", slug := "college", type := .institution,
      scope := .institution, status := .active },
    { id := "m", institutionId := some "inst", departmentId := some "dept", name := "Mathematics", slug := "mth",
      type := .department, scope := .department, status := .active },
    { id := "p", institutionId := some "inst", departmentId := some "phy", name := "Physics", slug := "phy",
      type := .department, scope := .department, status := .active }], by decide⟩
  campus.memberships := ⟨[
    { id := "bp", organizationId := "p", userId := "bola", membershipType := .student, status := .active }], by decide⟩
  faculties := collegeUnits.faculties
  departments := collegeUnits.departments
  userProfiles := collegeUnits.userProfiles

end Onboarding

end Heightt.Campus
