import Heightt.Campus.Memberships
import Heightt.Campus.Organizations
import Heightt.ReadCommitted.Executes

/-!
# One academic organization of each type

A user is to be an ACTIVE STUDENT in one organization of an academic type at most. The
check for it is a reading before the write, and the operations that change the type of
an organization or move students into the next session do without it.
-/

namespace Heightt.Campus

open Store ReadCommitted Prog Database

namespace Membership

/-- An ACTIVE STUDENT membership. -/
def IsStudent (m : Membership) : Prop := m.status = .active ∧ m.membershipType = .student

instance (m : Membership) : Decidable m.IsStudent := inferInstanceAs (Decidable (_ ∧ _))

/-- What the check for an update goes by. -/
def standing (m : Membership) : String × String × MembershipType × MembershipStatus :=
  (m.organizationId, m.userId, m.membershipType, m.status)

end Membership

namespace CampusDb

/-- An ACTIVE STUDENT membership in an organization of the type. -/
def StudentOf (d : CampusDb) (t : OrganizationType) (m : Membership) : Prop :=
  m.IsStudent ∧ ∃ o ∈ d.organizations.find m.organizationId, o.type = t

instance (d : CampusDb) (t : OrganizationType) (m : Membership) : Decidable (d.StudentOf t m) :=
  inferInstanceAs (Decidable (_ ∧ ∃ o ∈ d.organizations.find m.organizationId, _))

/-- The user's ACTIVE STUDENT memberships in other organizations of the type. -/
def studentElsewhere (d : CampusDb) (t : OrganizationType) (userId organizationId : String) :
    List Membership :=
  d.memberships.rows.filter fun m => d.StudentOf t m ∧ m.userId = userId ∧ m.organizationId ≠ organizationId

end CampusDb

/-- A user has at most one ACTIVE STUDENT membership for each academic type. -/
def SingleAcademic (d : CampusDb) : Prop :=
  ∀ t : OrganizationType, t.isAcademic = true → ∀ m ∈ d.memberships.rows, ∀ m' ∈ d.memberships.rows,
    d.StudentOf t m → d.StudentOf t m' → m.userId = m'.userId → m = m'

/-- The organization of every membership is there. -/
def Linked (d : CampusDb) : Prop :=
  ∀ m ∈ d.memberships.rows, (d.organizations.find m.organizationId).isSome = true

/-- The memberships keep the constraints of the schema, and no user is a student of two
organizations of one academic type. -/
structure Enrolled (d : CampusDb) : Prop where
  single : SingleAcademic d
  pairs : PairsDistinct d
  linked : Linked d

namespace MembershipCheck

/-- The check lets a membership of the type pass. -/
def Passed (check : MembershipCheck) (membershipType : MembershipType) : Prop :=
  membershipType = .student → check.organization.type.isAcademic = true →
    ∃ l, check.elsewhere = some l ∧ ∀ a ∈ l, a.type ≠ check.organization.type

/-- What the check has read still tells of the membership: if the organization is
academic now, it is of the type that was read, and so is every ACTIVE STUDENT membership
of the user in another organization of the type. -/
def Covers (check : MembershipCheck) (m : Membership) (d : CampusDb) : Prop :=
  ∀ o ∈ d.organizations.find m.organizationId, o.type.isAcademic = true →
    o.type = check.organization.type ∧
      ∀ x ∈ d.studentElsewhere o.type m.userId m.organizationId,
        ∃ a ∈ check.elsewhere.getD [], a.membershipId = x.id ∧ a.type = o.type

instance (check : MembershipCheck) (m : Membership) (d : CampusDb) : Decidable (check.Covers m d) :=
  inferInstanceAs (Decidable (∀ o ∈ d.organizations.find m.organizationId, _))

theorem Covers.none_elsewhere {check : MembershipCheck} {m : Membership} {d : CampusDb} {o : Organization}
    (covers : check.Covers m d) (passed : check.Passed .student) (found : d.organizations.find m.organizationId = some o)
    (academic : o.type.isAcademic = true) : d.studentElsewhere o.type m.userId m.organizationId = [] := by
  obtain ⟨type, read⟩ := covers o found academic
  obtain ⟨l, elsewhere, none⟩ := passed rfl (type ▸ academic)
  rw [List.eq_nil_iff_forall_not_mem]
  intro x mem
  obtain ⟨a, ha, -, same⟩ := read x mem
  rw [elsewhere] at ha
  exact none a ha (same.trans type)

end MembershipCheck

namespace CampusStmt

/-- What is true of the statements of these operations whatever others do. -/
def Made : CampusStmt → Prop
  | createMembership m check => check.Passed m.membershipType
  | updateMembership seen patch check => (patch.apply seen).IsStudent → ∃ k, check = some k ∧ k.Passed .student
  | deleteOrganization _ => False
  | _ => True

/-- The membership that an upsert leaves. -/
def rejoined (d : CampusDb) (m : Membership) : Membership :=
  ((d.membershipOf m.organizationId m.userId).map (Membership.rejoin m.joinedSessionId)).getD m

/-- Executed in `d`, the statement gives no user a second membership of an academic
type: what a check has read still holds, or, where there is none, the user has no such
membership elsewhere. -/
def Settled : CampusStmt → CampusDb → Prop
  | createMembership m check, d => m.IsStudent → check.Covers m d
  | updateMembership seen patch check, d => ∀ r ∈ d.memberships.find seen.id, (patch.apply r).IsStudent →
    r.standing = seen.standing ∧ ∀ k ∈ check, k.Covers r d
  | updateOrganization id _ patch, d => ∀ t ∈ patch.type, t.isAcademic = true →
    ∀ m ∈ d.memberships.rows, m.organizationId = id → m.IsStudent → d.studentElsewhere t m.userId id = []
  | upsertMembership m, d => (rejoined d m).IsStudent → ∀ o ∈ d.organizations.find m.organizationId,
    o.type.isAcademic = true → d.studentElsewhere o.type m.userId m.organizationId = []
  | _, _ => True

instance : (w : CampusStmt) → (d : CampusDb) → Decidable (w.Settled d)
  | createMembership m check, d => inferInstanceAs (Decidable (m.IsStudent → check.Covers m d))
  | updateMembership seen patch check, d =>
    inferInstanceAs (Decidable (∀ r ∈ d.memberships.find seen.id, (patch.apply r).IsStudent →
      r.standing = seen.standing ∧ ∀ k ∈ check, k.Covers r d))
  | updateOrganization id _ patch, d =>
    inferInstanceAs (Decidable (∀ t ∈ patch.type, t.isAcademic = true →
      ∀ m ∈ d.memberships.rows, m.organizationId = id → m.IsStudent → d.studentElsewhere t m.userId id = []))
  | upsertMembership m, d =>
    inferInstanceAs (Decidable ((rejoined d m).IsStudent → ∀ o ∈ d.organizations.find m.organizationId,
      o.type.isAcademic = true → d.studentElsewhere o.type m.userId m.organizationId = []))
  | deleteOrganization _, _ | upsertJoinRequest _, _ | updateJoinRequest .., _ | deleteJoinRequest _, _
  | updateApprovalRequest .., _ | updateAdmins .., _ | createActivityLog, _ | logInstitutionPromotion _, _
  | claimSession .., _ | resumeSession _, _ | createSession _, _ | retireSessions .., _ | upsertOrganization _, _
  | updateStudent .., _ | createPromotion _, _ | upsertRecord _, _ | leaveMemberships .., _ =>
    inferInstanceAs (Decidable True)

/-- Each statement is settled in the state that those before it leave. -/
def AllSettled : List CampusStmt → CampusDb → Prop
  | [], _ => True
  | w :: F, d => w.Settled d ∧ AllSettled F (w.apply d)

instance : (F : List CampusStmt) → (d : CampusDb) → Decidable (AllSettled F d)
  | [], _ => inferInstanceAs (Decidable True)
  | w :: F, d =>
    have := instDecidableAllSettled F (w.apply d)
    inferInstanceAs (Decidable (w.Settled d ∧ AllSettled F (w.apply d)))

end CampusStmt

/-! ## What a statement keeps -/

section Keeps

variable {d d' : CampusDb} {t : OrganizationType}

theorem mem_studentElsewhere {userId organizationId : String} {x : Membership} :
    x ∈ d.studentElsewhere t userId organizationId ↔
      x ∈ d.memberships.rows ∧ d.StudentOf t x ∧ x.userId = userId ∧ x.organizationId ≠ organizationId := by
  simp [CampusDb.studentElsewhere]

/-- Where there is none elsewhere, it is in the organization itself. -/
theorem organizationId_of_nil {userId organizationId : String} {x : Membership}
    (none : d.studentElsewhere t userId organizationId = []) (mem : x ∈ d.memberships.rows)
    (student : d.StudentOf t x) (user : x.userId = userId) : x.organizationId = organizationId := by
  by_contra other
  have : x ∈ d.studentElsewhere t userId organizationId := mem_studentElsewhere.2 ⟨mem, student, user, other⟩
  rw [none] at this
  cases this

theorem studentOf_congr (same : d'.organizations = d.organizations) (m : Membership) :
    d'.StudentOf t m ↔ d.StudentOf t m := by
  unfold CampusDb.StudentOf
  rw [same]

theorem eq_of_pair (pairs : PairsDistinct d) {m m' : Membership} (hm : m ∈ d.memberships.rows)
    (hm' : m' ∈ d.memberships.rows) (organization : m.organizationId = m'.organizationId)
    (user : m.userId = m'.userId) : m = m' :=
  List.inj_on_of_nodup_map pairs hm hm' (by rw [organization, user])

/-- No membership becomes one that counts. -/
theorem SingleAcademic.mono (h : SingleAcademic d)
    (rows : ∀ t, ∀ x ∈ d'.memberships.rows, d'.StudentOf t x → x ∈ d.memberships.rows ∧ d.StudentOf t x) :
    SingleAcademic d' := by
  intro t academic m hm m' hm' student student' user
  obtain ⟨hm, student⟩ := rows t m hm student
  obtain ⟨hm', student'⟩ := rows t m' hm' student'
  exact h t academic m hm m' hm' student student' user

/-- One row is new or changed, and its user has no other that counts for the type. -/
theorem SingleAcademic.of_one (h : SingleAcademic d) {r : Membership}
    (same : d'.organizations = d.organizations)
    (rows : ∀ x ∈ d'.memberships.rows, x = r ∨ x ∈ d.memberships.rows)
    (alone : ∀ t : OrganizationType, t.isAcademic = true → d.StudentOf t r → ∀ x ∈ d'.memberships.rows,
      x ∈ d.memberships.rows → d.StudentOf t x → x.userId = r.userId → x = r) : SingleAcademic d' := by
  intro t academic m hm m' hm' student student' user
  rw [studentOf_congr same] at student student'
  obtain rfl | old := rows m hm
  · obtain rfl | old' := rows m' hm'
    · rfl
    · exact (alone t academic student m' hm' old' student' user.symm).symm
  · obtain rfl | old' := rows m' hm'
    · exact alone t academic student' m hm old student user
    · exact h t academic m old m' old' student student' user

/-- The organizations and the memberships stay as they are. -/
theorem Enrolled.of_same (h : Enrolled d) (organizations : d'.organizations = d.organizations)
    (memberships : d'.memberships = d.memberships) : Enrolled d' where
  single := h.single.mono fun t x mem student =>
    ⟨memberships ▸ mem, (studentOf_congr organizations x).1 student⟩
  pairs := by
    unfold PairsDistinct
    rw [memberships]
    exact h.pairs
  linked := by
    unfold Linked
    rw [memberships, organizations]
    exact h.linked

theorem Enrolled.createMembership (h : Enrolled d) {m : Membership} {check : MembershipCheck}
    (made : check.Passed m.membershipType) (settled : m.IsStudent → check.Covers m d)
    (allowed : (CampusStmt.createMembership m check).check d = none) :
    Enrolled ((CampusStmt.createMembership m check).apply d) := by
  simp only [CampusStmt.check, CampusStmt.first, CampusStmt.unique, Option.or_eq_none_iff,
    ite_eq_right_iff, reduceCtorEq, imp_false, not_or, Bool.not_eq_true, Option.isSome_eq_false_iff,
    Option.isNone_iff_eq_none, ite_eq_left_iff, ← Option.isSome_iff_ne_none] at allowed
  obtain ⟨⟨free, apart⟩, there⟩ := allowed
  have rows : ((CampusStmt.createMembership m check).apply d).memberships.rows = d.memberships.rows ++ [m] :=
    Table.insert_rows free
  have mem {x : Membership} (hx : x ∈ ((CampusStmt.createMembership m check).apply d).memberships.rows) :
      x = m ∨ x ∈ d.memberships.rows := by
    rw [rows, List.mem_append, List.mem_singleton] at hx
    exact hx.symm
  refine ⟨h.single.of_one rfl (fun x hx => mem hx) ?_, ?_, ?_⟩
  · intro t academic student x _ old counts user
    obtain ⟨isStudent, o, found, type⟩ := student
    rw [← type] at academic counts
    have none := MembershipCheck.Covers.none_elsewhere (settled isStudent) (isStudent.2 ▸ made) found academic
    exact absurd ⟨organizationId_of_nil none old counts user, user⟩ (membershipOf_none apart x old)
  · unfold PairsDistinct
    rw [rows, List.map_append, List.nodup_append]
    refine ⟨h.pairs, List.nodup_singleton _, fun a ha b hb same => ?_⟩
    obtain ⟨x, old, rfl⟩ := List.mem_map.1 ha
    rw [List.map_singleton, List.mem_singleton] at hb
    rw [hb, Prod.mk.injEq] at same
    exact membershipOf_none apart x old same
  · intro x hx
    obtain rfl | old := mem hx
    · exact there
    · exact h.linked x old

theorem Enrolled.updateMembership (h : Enrolled d) {seen : Membership} {patch : MembershipPatch}
    {check : Option MembershipCheck} (made : (CampusStmt.updateMembership seen patch check).Made)
    (settled : (CampusStmt.updateMembership seen patch check).Settled d)
    (allowed : (CampusStmt.updateMembership seen patch check).check d = none) :
    Enrolled ((CampusStmt.updateMembership seen patch check).apply d) := by
  have rows : ((CampusStmt.updateMembership seen patch check).apply d).memberships.rows =
      d.memberships.rows.map fun r => if r.id = seen.id then patch.apply r else r := rfl
  cases found : d.memberships.find seen.id with
  | none =>
    simp only [CampusStmt.check, CampusStmt.existing, found] at allowed
    cases allowed
  | some r =>
    have own : r.id = seen.id := Table.find_key found
    have row : r ∈ d.memberships.rows := Table.find_mem found
    have mem {x : Membership} (hx : x ∈ d.memberships.rows.map fun r => if r.id = seen.id then patch.apply r else r) :
        x = patch.apply r ∨ x ∈ d.memberships.rows ∧ x.id ≠ seen.id := by
      obtain ⟨y, hy, rfl⟩ := List.mem_map.1 hx
      split
      · rename_i same
        exact .inl (congrArg patch.apply (Table.eq_of_key hy row (same.trans own.symm)))
      · rename_i other
        exact .inr ⟨hy, other⟩
    refine ⟨h.single.of_one (r := patch.apply r) rfl (fun x hx => (mem hx).imp_right And.left) ?_, ?_, ?_⟩
    · intro t academic student x hx old counts user
      obtain rfl | ⟨-, other⟩ := mem hx
      · rfl
      · obtain ⟨isStudent, o, there, type⟩ := student
        rw [← type] at academic counts
        obtain ⟨same, covers⟩ := settled r found isStudent
        have isStudent : (patch.apply seen).IsStudent := by
          simp only [Membership.standing, Prod.mk.injEq] at same
          unfold Membership.IsStudent MembershipPatch.apply at isStudent ⊢
          rwa [← same.2.2.1, ← same.2.2.2]
        obtain ⟨k, hk, passed⟩ := made isStudent
        have none := MembershipCheck.Covers.none_elsewhere (covers k hk) passed there academic
        have together := organizationId_of_nil none old counts user
        exact absurd (congrArg Membership.id (eq_of_pair h.pairs old row together user)) (own ▸ other)
    · unfold PairsDistinct
      rw [rows, List.map_map]
      have pairs : (d.memberships.rows.map ((fun m : Membership => (m.organizationId, m.userId)) ∘
          fun r => if r.id = seen.id then patch.apply r else r)) =
          d.memberships.rows.map fun m => (m.organizationId, m.userId) := by
        refine List.map_congr_left fun x _ => ?_
        rw [Function.comp]
        split <;> rfl
      rw [pairs]
      exact h.pairs
    · intro x hx
      obtain rfl | ⟨old, -⟩ := mem hx
      · exact h.linked r row
      · exact h.linked x old

theorem Enrolled.updateOrganization (h : Enrolled d) {id : String} {seen : Option Organization}
    {patch : OrganizationPatch} (settled : (CampusStmt.updateOrganization id seen patch).Settled d) :
    Enrolled ((CampusStmt.updateOrganization id seen patch).apply d) := by
  have untouched {m : Membership} {t : OrganizationType} (other : m.organizationId ≠ id) :
      ((CampusStmt.updateOrganization id seen patch).apply d).StudentOf t m ↔ d.StudentOf t m := by
    unfold CampusDb.StudentOf
    rw [find_updateOrganization, if_neg other]
  -- a member of the organization counts for the new type, if there is one
  have touched {m : Membership} {t : OrganizationType} (own : m.organizationId = id)
      (student : ((CampusStmt.updateOrganization id seen patch).apply d).StudentOf t m) :
      m.IsStudent ∧ (patch.type = some t ∨ d.StudentOf t m) := by
    obtain ⟨isStudent, o, found, type⟩ := student
    rw [find_updateOrganization, if_pos own] at found
    obtain ⟨o, there, rfl⟩ := Option.map_eq_some_iff.1 found
    refine ⟨isStudent, ?_⟩
    cases new : patch.type with
    | some t' =>
      simp only [OrganizationPatch.apply, new, Option.getD_some] at type
      exact .inl (congrArg some type)
    | none =>
      simp only [OrganizationPatch.apply, new, Option.getD_none] at type
      exact .inr ⟨isStudent, o, there, type⟩
  -- a member of the organization and one of another
  have apart {m x : Membership} {t : OrganizationType} (academic : t.isAcademic = true)
      (hm : m ∈ d.memberships.rows) (hx : x ∈ d.memberships.rows) (own : m.organizationId = id)
      (other : x.organizationId ≠ id)
      (student : ((CampusStmt.updateOrganization id seen patch).apply d).StudentOf t m)
      (student' : ((CampusStmt.updateOrganization id seen patch).apply d).StudentOf t x)
      (user : x.userId = m.userId) : m = x := by
    rw [untouched other] at student'
    obtain ⟨isStudent, new | old⟩ := touched own student
    · exact absurd (organizationId_of_nil (settled t new academic m hm own isStudent) hx student' user) other
    · exact h.single t academic m hm x hx old student' user.symm
  refine ⟨?_, h.pairs, ?_⟩
  · intro t academic m hm m' hm' student student' user
    by_cases own : m.organizationId = id
    · by_cases own' : m'.organizationId = id
      · exact eq_of_pair h.pairs hm hm' (own.trans own'.symm) user
      · exact apart academic hm hm' own own' student student' user.symm
    · by_cases own' : m'.organizationId = id
      · exact (apart academic hm' hm own' own student' student user).symm
      · exact h.single t academic m hm m' hm' ((untouched own).1 student) ((untouched own').1 student') user
  · intro m hm
    rw [find_updateOrganization]
    split
    · rw [Option.isSome_map]
      exact h.linked m hm
    · exact h.linked m hm

theorem Enrolled.leaveMemberships (h : Enrolled d) (userId institutionId academicSessionId : String) :
    Enrolled ((CampusStmt.leaveMemberships userId institutionId academicSessionId).apply d) where
  single := by
    refine h.single.mono fun t x hx student => ?_
    obtain ⟨m, hm, rfl⟩ := List.mem_map.1 hx
    have stays : d.leave userId institutionId academicSessionId m = m := by
      have active : (d.leave userId institutionId academicSessionId m).status = .active := student.1.1
      unfold CampusDb.leave at active ⊢
      split at active
      · cases active
      · rename_i untouched
        exact if_neg untouched
    rw [stays] at student ⊢
    exact ⟨hm, student⟩
  pairs := pairsDistinct_leaveMemberships h.pairs
  linked := by
    intro x hx
    obtain ⟨m, hm, rfl⟩ := List.mem_map.1 hx
    rw [leave_organizationId]
    exact h.linked m hm

theorem Enrolled.upsertMembership (h : Enrolled d) {m : Membership}
    (settled : (CampusStmt.upsertMembership m).Settled d)
    (allowed : (CampusStmt.upsertMembership m).check d = none) :
    Enrolled ((CampusStmt.upsertMembership m).apply d) := by
  have organizations : ((CampusStmt.upsertMembership m).apply d).organizations = d.organizations := by
    simp only [CampusStmt.apply]
    split <;> rfl
  have there : (d.organizations.find m.organizationId).isSome = true := by
    simp only [CampusStmt.check, CampusStmt.first, Option.or_eq_none_iff, ite_eq_left_iff, reduceCtorEq,
      imp_false, Decidable.not_not] at allowed
    exact allowed.2
  -- the row that is there is the only one of the pair
  have rejoined : (CampusStmt.rejoined d m).organizationId = m.organizationId ∧
      (CampusStmt.rejoined d m).userId = m.userId := by
    unfold CampusStmt.rejoined
    cases found : d.membershipOf m.organizationId m.userId with
    | none => exact ⟨rfl, rfl⟩
    | some r => exact (membershipOf_some found).2
  have mem {x : Membership} (hx : x ∈ ((CampusStmt.upsertMembership m).apply d).memberships.rows) :
      x = CampusStmt.rejoined d m ∨ x ∈ d.memberships.rows ∧
        ¬(x.organizationId = m.organizationId ∧ x.userId = m.userId) := by
    unfold CampusStmt.rejoined
    obtain ⟨r, found, rows⟩ | ⟨none, inserted⟩ := rows_upsertMembership m d
    · obtain ⟨row, organization, user⟩ := membershipOf_some found
      rw [rows] at hx
      obtain ⟨y, hy, rfl⟩ := List.mem_map.1 hx
      rw [found]
      by_cases same : y.id = r.id
      · rw [if_pos same, Table.eq_of_key hy row same]
        exact .inl rfl
      · rw [if_neg same]
        refine .inr ⟨hy, fun pair => same ?_⟩
        exact congrArg Membership.id (eq_of_pair h.pairs hy row (pair.1.trans organization.symm)
          (pair.2.trans user.symm))
    · rw [none]
      rw [inserted] at hx
      unfold Table.insert at hx
      split at hx
      · exact .inr ⟨hx, membershipOf_none none x hx⟩
      · obtain old | new := List.mem_append.1 hx
        · exact .inr ⟨old, membershipOf_none none x old⟩
        · exact .inl (List.mem_singleton.1 new)
  refine ⟨h.single.of_one organizations (fun x hx => (mem hx).imp_right And.left) ?_,
    pairsDistinct_upsertMembership h.pairs, ?_⟩
  · intro t academic student x hx old counts user
    obtain rfl | ⟨-, other⟩ := mem hx
    · rfl
    · obtain ⟨isStudent, o, found, type⟩ := student
      rw [← type] at academic counts
      rw [rejoined.1] at found
      have none := settled isStudent o found academic
      have user : x.userId = m.userId := user.trans rejoined.2
      exact absurd ⟨organizationId_of_nil none old counts user, user⟩ other
  · intro x hx
    rw [organizations]
    obtain rfl | ⟨old, -⟩ := mem hx
    · rw [rejoined.1]
      exact there
    · exact h.linked x old

theorem Enrolled.upsertOrganization (h : Enrolled d) {o : Organization}
    (allowed : (CampusStmt.upsertOrganization o).check d = none) :
    Enrolled ((CampusStmt.upsertOrganization o).apply d) := by
  by_cases taken : (d.organizations.rows.any fun r => r.institutionId = o.institutionId ∧ r.slug = o.slug ∧
      r.academicSessionId = o.academicSessionId) = true
  · have same : (CampusStmt.upsertOrganization o).apply d = d := if_pos taken
    rw [same]
    exact h
  · have new : (CampusStmt.upsertOrganization o).apply d =
        { d with organizations := d.organizations.insert o } := if_neg taken
    have free : d.organizations.find o.id = none := by
      simp only [CampusStmt.check, CampusStmt.unique, taken, not_false_eq_true, and_true, ite_eq_right_iff,
        reduceCtorEq, imp_false, Bool.not_eq_true, Option.isSome_eq_false_iff,
        Option.isNone_iff_eq_none] at allowed
      exact allowed
    -- no membership is in the new organization
    have find (m : Membership) (hm : m ∈ d.memberships.rows) :
        (d.organizations.insert o).find m.organizationId = d.organizations.find m.organizationId := by
      rw [Table.find_insert free, if_neg]
      rintro same
      have := h.linked m hm
      rw [← same, free] at this
      cases this
    rw [new]
    refine ⟨h.single.mono fun t x hx student => ⟨hx, ?_⟩, h.pairs, fun m hm => ?_⟩
    · obtain ⟨isStudent, r, found, type⟩ := student
      exact ⟨isStudent, r, (find x hx).symm.trans found, type⟩
    · exact (congrArg Option.isSome (find m hm)).trans (h.linked m hm)

/-- Every statement that is settled keeps it. -/
theorem Enrolled.apply (h : Enrolled d) {w : CampusStmt} (made : w.Made) (settled : w.Settled d)
    (allowed : w.check d = none) : Enrolled (w.apply d) := by
  cases w with
  | updateOrganization id seen patch => exact h.updateOrganization settled
  | deleteOrganization id => exact made.elim
  | createMembership m check => exact h.createMembership made settled allowed
  | updateMembership seen patch check => exact h.updateMembership made settled allowed
  | upsertJoinRequest r =>
    refine h.of_same ?_ ?_ <;> simp only [CampusStmt.apply] <;> split <;> rfl
  | upsertOrganization o => exact h.upsertOrganization allowed
  | leaveMemberships userId institutionId academicSessionId => exact h.leaveMemberships _ _ _
  | upsertMembership m => exact h.upsertMembership settled allowed
  | _ => exact h.of_same rfl rfl

theorem Enrolled.applyAll (h : Enrolled d) {F : List CampusStmt} (made : ∀ w ∈ F, w.Made)
    (settled : CampusStmt.AllSettled F d) (valid : violation F d = none) : Enrolled (applyAll F d) := by
  induction F generalizing d with
  | nil => exact h
  | cons w F ih =>
    obtain ⟨allowed, valid⟩ := violation_cons.1 valid
    exact ih (h.apply (made w List.mem_cons_self) settled.1 allowed)
      (fun w hw => made w (List.mem_cons_of_mem _ hw)) settled.2 valid

end Keeps

/-! ## What the operations execute -/

inductive MembershipOp where
  | addMember (organizationId : String) (dto : AddMemberDto) (newId : String)
  | updateMember (organizationId membershipId : String) (dto : UpdateMemberDto)
  | requestToJoin (userId organizationId : String) (membershipType : Option MembershipType)
    (newId newRequestId : String)
  | reviewJoinRequest (requestId adminUserId : String) (status : RequestStatus) (newId : String)
  | updateOrganization (id userId : String) (dto : UpdateOrganizationDto)
  | promoteInstitution (op : PromoteInstitutionOp)

def MembershipOp.program : MembershipOp → CampusAction Unit
  | addMember organizationId dto newId => OrganizationsService.addMember organizationId dto newId
  | updateMember organizationId membershipId dto =>
    OrganizationsService.updateMember organizationId membershipId dto
  | requestToJoin userId organizationId membershipType newId newRequestId =>
    OrganizationsService.requestToJoin userId organizationId membershipType newId newRequestId
  | reviewJoinRequest requestId adminUserId status newId =>
    OrganizationsService.reviewJoinRequest requestId adminUserId status newId
  | updateOrganization id userId dto => OrganizationsService.updateOrganization id userId dto
  | promoteInstitution op => op.program

section Operations

open CampusStmt OrganizationsService

variable {α : Type}

theorem made_invalidate : Makes (Committing (Each Made)) CacheService.invalidate fun _ => True :=
  committing_request (C := CampusCall) .invalidate

/-- A reading, about which nothing is kept. -/
theorem made_outside (f : CampusDb → α) :
    Makes (Committing (Each Made)) (outside f : CampusAction α) fun _ => True :=
  committing_outside (fun _ => trivial) (each_nil _)

theorem made_orThrow (o : Option α) (e : CampusError) :
    Makes (Committing (Each Made)) (orThrow o e : CampusAction α) fun _ => True := .orThrow fun _ _ => trivial

theorem made_assert (userId : String) (organization : Organization) (membershipType : MembershipType) :
    Makes (Committing (Each Made)) (assertSingleAcademicOrganizationMembership userId organization membershipType)
      fun check => check.Passed membershipType := by
  unfold assertSingleAcademicOrganizationMembership
  split
  · rename_i free
    refine .ret fun student academic => ?_
    exact absurd academic (free.resolve_left fun other => other student)
  · refine (made_outside _).bind fun elsewhere _ => (Makes.ensure _).bind fun _ none => .ret ?_
    intro _ _
    refine ⟨elsewhere, rfl, fun a ha same => none ?_⟩
    exact List.any_eq_true.2 ⟨a, ha, decide_eq_true same⟩

theorem made_ensureStudentProfile (userId : String) (membershipType : MembershipType) :
    Makes (Committing (Each Made)) (ensureStudentProfile userId membershipType) fun _ => True :=
  .when fun _ => (made_outside _).bind fun _ _ => (Makes.ensure _).mono (fun _ h => h) fun _ _ => trivial

theorem made_leaveDraft (organization : Organization) :
    Makes (Committing (Each Made)) (leaveDraft organization) fun _ => True :=
  (made_outside _).bind fun _ _ => .when fun _ => committing_statement (each_singleton trivial)

theorem made_addMember (organizationId : String) (dto : AddMemberDto) (newId : String) :
    Makes (Committing (Each Made)) (addMember organizationId dto newId) fun _ => True := by
  unfold addMember
  refine (made_outside _).bind fun _ _ => (made_orThrow _ _).bind fun organization _ => ?_
  refine (made_outside _).bind fun _ _ => (made_orThrow _ _).bind fun _ _ => ?_
  refine Makes.bind (.whenSome fun _ _ => ?_) fun _ _ => ?_
  · refine (made_outside _).bind fun _ _ => (made_orThrow _ _).bind fun _ _ => ?_
    exact (Makes.ensure _).mono (fun _ h => h) fun _ _ => trivial
  refine (made_outside _).bind fun _ _ => (Makes.ensure _).bind fun _ _ => ?_
  refine (made_ensureStudentProfile _ _).bind fun _ _ => (made_assert _ _ _).bind fun check passed => ?_
  refine Makes.bind (committing_statement (each_singleton passed)) fun _ _ => (made_leaveDraft _).bind fun _ _ => ?_
  exact Makes.bind (committing_statement (each_singleton trivial)) fun _ _ => made_invalidate

theorem made_updateMember (organizationId membershipId : String) (dto : UpdateMemberDto) :
    Makes (Committing (Each Made)) (updateMember organizationId membershipId dto) fun _ => True := by
  unfold updateMember
  refine (made_outside _).bind fun _ _ => (made_orThrow _ _).bind fun membership _ => ?_
  extract_lets resultingStatus resultingMembershipType update
  have updated (check : Option MembershipCheck)
      (passed : resultingStatus = .active ∧ resultingMembershipType = .student →
        ∃ k, check = some k ∧ k.Passed .student) : Makes (Committing (Each Made)) (update check) fun _ => True := by
    refine Makes.bind (committing_statement (each_singleton ?_)) fun _ _ => ?_
    · exact passed
    · exact Makes.bind (committing_statement (each_singleton trivial)) fun _ _ => made_invalidate
  split
  · rename_i isStudent
    refine (made_outside _).bind fun _ _ => (made_orThrow _ _).bind fun _ _ => ?_
    refine (made_assert _ _ _).bind fun check passed => updated _ fun _ => ⟨check, rfl, ?_⟩
    rw [isStudent.2] at passed
    exact passed
  · rename_i other
    exact updated none fun isStudent => absurd isStudent other

theorem made_requestToJoin (userId organizationId : String) (membershipType : Option MembershipType)
    (newId newRequestId : String) :
    Makes (Committing (Each Made)) (requestToJoin userId organizationId membershipType newId newRequestId)
      fun _ => True := by
  unfold requestToJoin
  refine (made_outside _).bind fun _ _ => (made_orThrow _ _).bind fun organization _ => ?_
  refine (Makes.ensure _).bind fun _ _ => (made_outside _).bind fun _ _ => (made_orThrow _ _).bind fun _ _ => ?_
  refine (made_outside _).bind fun _ _ => (Makes.ensure _).bind fun _ _ => (made_outside _).bind fun _ _ => ?_
  refine Makes.bind (.whenSome fun _ _ => ?_) fun _ _ => ?_
  · exact (Makes.ensure _).bind fun _ _ => (Makes.ensure _).bind fun _ _ => committing_statement (each_singleton trivial)
  refine (made_ensureStudentProfile _ _).bind fun _ _ => (made_assert _ _ _).bind fun check passed => ?_
  refine Makes.bind (committing_statement (each_singleton passed)) fun _ _ => Makes.bind (committing_statement (each_singleton trivial)) fun _ _ => ?_
  refine Makes.bind (.when fun _ => made_leaveDraft _) fun _ _ => ?_
  exact Makes.bind (committing_statement (each_singleton trivial)) fun _ _ => made_invalidate

theorem made_reviewJoinRequest (requestId adminUserId : String) (status : RequestStatus) (newId : String) :
    Makes (Committing (Each Made)) (reviewJoinRequest requestId adminUserId status newId) fun _ => True := by
  unfold reviewJoinRequest
  refine (made_outside _).bind fun _ _ => (made_orThrow _ _).bind fun joinRequest _ => ?_
  refine (Makes.ensure _).bind fun _ _ => (made_outside _).bind fun _ _ => (Makes.ensure _).bind fun _ _ => ?_
  refine Makes.bind (committing_statement (each_singleton trivial)) fun _ _ => ?_
  split
  · refine Makes.bind (.onThrow (S := fun _ => True) ?_ fun _ => ?_) fun _ _ => made_invalidate
    · refine (made_assert _ _ _).bind fun check passed => Makes.bind (committing_statement (each_singleton passed)) fun _ _ => ?_
      exact (made_leaveDraft _).bind fun _ _ => committing_statement (each_singleton trivial)
    · exact Makes.bind (committing_statement (each_singleton trivial)) fun _ _ => .throw _
  · exact Makes.bind (committing_statement (each_singleton trivial)) fun _ _ => made_invalidate

theorem made_updateOrganization (id userId : String) (dto : UpdateOrganizationDto) :
    Makes (Committing (Each Made)) (OrganizationsService.updateOrganization id userId dto) fun _ => True := by
  unfold OrganizationsService.updateOrganization
  refine (made_outside _).bind fun _ _ => (made_orThrow _ _).bind fun organization _ => ?_
  refine (made_outside _).bind fun _ _ => (Makes.ensure _).bind fun _ _ => ?_
  refine Makes.bind (.whenSome fun _ _ => .when fun _ => ?_) fun _ _ => ?_
  · exact (made_outside _).bind fun _ _ => (Makes.ensure _).mono (fun _ h => h) fun _ _ => trivial
  refine Makes.bind (.whenSome fun _ _ => .when fun _ => ?_) fun _ _ => ?_
  · refine (made_outside _).bind fun _ _ => (made_orThrow _ _).bind fun _ _ => ?_
    exact (Makes.ensure _).mono (fun _ h => h) fun _ _ => trivial
  refine Makes.bind (.whenSome fun _ _ => ?_) fun _ _ => ?_
  · exact (Makes.ensure _).mono (fun _ h => h) fun _ _ => trivial
  refine Makes.bind (committing_statement (each_singleton trivial)) fun _ _ => made_invalidate.bind fun _ _ => ?_
  exact committing_statement (each_singleton trivial)

theorem made_openNextSession (existing : Option AcademicSession) (created : AcademicSession) :
    Fills Made (PromotionService.openNextSession existing created) := by
  cases existing with
  | some existing => exact (Fills.exec trivial).bind fun _ => (Fills.query _).bind fun _ => .orThrow _ _
  | none => exact (Fills.exec trivial).bind fun _ => .ret created

theorem made_cloneOrganizations (run : InstitutionRun) (os : List Organization) :
    Fills Made (PromotionService.cloneOrganizations run os) := by
  induction os with
  | nil => exact .ret []
  | cons o os ih =>
    refine Fills.bind ?_ fun created => ih.bind fun rest => .ret _
    exact (Fills.exec trivial).bind fun _ => (Fills.query _).bind fun _ => .orThrow _ _

theorem made_setParent (orgs : NewOrganizationsByOldId) (o : Organization) :
    Fills Made (PromotionService.setParent orgs o) :=
  .whenSome fun _ => .whenSome fun _ => .whenSome fun _ => .exec trivial

theorem made_advanceStudent (run : InstitutionRun) (orgs : NewOrganizationsByOldId)
    (summary : PromotionSummary) (s : StudentProfile) :
    Fills Made (PromotionService.advanceStudent run orgs summary s) := by
  unfold PromotionService.advanceStudent
  split
  · exact .ret _
  · split
    · exact .ret _
    · split
      · exact (Fills.exec trivial).bind fun _ => .ret _
      · refine (Fills.exec trivial).bind fun _ => (Fills.exec trivial).bind fun _ => ?_
        refine (Fills.exec trivial).bind fun _ => Fills.bind ?_ fun _ => .ret _
        refine (Fills.query _).bind fun _ => (Fills.exec trivial).bind fun _ => ?_
        exact .forEach fun _ => .whenSome fun _ => .exec trivial

theorem made_advanceStudents (run : InstitutionRun) (orgs : NewOrganizationsByOldId)
    (summary : PromotionSummary) (ss : List StudentProfile) :
    Fills Made (PromotionService.advanceStudents run orgs summary ss) := by
  induction ss generalizing summary with
  | nil => exact .ret summary
  | cons s ss ih => exact (made_advanceStudent run orgs summary s).bind fun summary => ih summary

theorem made_promoteInstitution (op : PromoteInstitutionOp) :
    Makes (Committing (Each Made)) op.program fun _ => True := by
  unfold PromoteInstitutionOp.program PromotionService.promoteInstitution
  refine (made_outside _).bind fun _ _ => (made_outside _).bind fun _ _ => (made_outside _).bind fun _ _ => ?_
  refine (made_orThrow _ _).bind fun _ _ => (made_orThrow _ _).bind fun _ _ => ?_
  refine (made_orThrow _ _).bind fun currentSession _ => Makes.bind (S := fun _ => True) ?_ fun name _ => ?_
  · refine (made_orThrow _ _).bind fun matched _ => Makes.bind (Makes.ensure _) fun _ _ => ?_
    exact .ret trivial
  refine (made_outside _).bind fun _ _ => (made_outside _).bind fun _ _ => (made_outside _).bind fun _ _ => ?_
  refine (made_outside _).bind fun _ _ => Makes.bind (S := fun _ => True) (.query fun _ => trivial) fun now _ => ?_
  refine Makes.bind (committing_transaction ?_) fun run _ => ?_
  · refine (Fills.exec trivial).bind fun _ => (made_openNextSession _ _).bind fun nextSession => ?_
    refine (Fills.exec trivial).bind fun _ => (made_cloneOrganizations _ _).bind fun orgs => ?_
    refine Fills.bind (.forEach fun o => made_setParent orgs o) fun _ => ?_
    refine (made_advanceStudents _ _ _ _).bind fun _ => (Fills.exec trivial).bind fun _ => .ret _
  · refine made_invalidate.bind fun _ _ => .forEach fun userId _ => .attempt ?_
    exact made_invalidate.bind fun _ _ => committing_request (C := CampusCall) (.notify userId)

theorem made_program (op : MembershipOp) : Makes (Committing (Each Made)) op.program fun _ => True := by
  cases op with
  | addMember organizationId dto newId => exact made_addMember organizationId dto newId
  | updateMember organizationId membershipId dto => exact made_updateMember organizationId membershipId dto
  | requestToJoin userId organizationId membershipType newId newRequestId =>
    exact made_requestToJoin userId organizationId membershipType newId newRequestId
  | reviewJoinRequest requestId adminUserId status newId =>
    exact made_reviewJoinRequest requestId adminUserId status newId
  | updateOrganization id userId dto => exact made_updateOrganization id userId dto
  | promoteInstitution op => exact made_promoteInstitution op

end Operations

/-! ## The runs -/

/-- What a step commits is settled. -/
def Settles (c : CampusSystem) : Effect CampusStmt CampusCall → Prop
  | .commit _ _ F => CampusStmt.AllSettled F c.db
  | _ => True

instance (c : CampusSystem) : (eff : Effect CampusStmt CampusCall) → Decidable (Settles c eff)
  | .commit _ _ F => inferInstanceAs (Decidable (CampusStmt.AllSettled F c.db))
  | .internal | .fault _ | .called .. | .unsent .. => inferInstanceAs (Decidable True)

/-- **One academic organization of each type**, in every state of a run whose commits
are settled. -/
theorem single_academic {db : CampusDb} {x : Surroundings} {ops : List MembershipOp} {c : CampusSystem}
    (enrolled : Enrolled db)
    (run : Reaches Settles (Config.start db x (ops.map MembershipOp.program)) c) : SingleAcademic c.db := by
  have made (i : Nat) (p : CampusAction Unit) (hi : (ops.map MembershipOp.program)[i]? = some p) :
      Makes (Committing (Each CampusStmt.Made)) p fun _ => True := by
    rw [List.getElem?_map, Option.map_eq_some_iff] at hi
    obtain ⟨op, -, rfl⟩ := hi
    exact made_program op
  have kept : Enrolled c.db := run.induct_of_committing (T := fun _ => Each CampusStmt.Made) made
    (fun d _ => Enrolled d) enrolled fun made valid settled h => h.applyAll made settled valid
  exact kept.single

/-- An institution with two faculties and a club. -/
def faculties : CampusDb where
  users := ["ada"]
  organizations := ⟨[
    { id := "sci", institutionId := some "inst", name := "Science", slug := "sci", type := .faculty,
      status := .active },
    { id := "art", institutionId := some "inst", name := "Arts", slug := "art", type := .faculty,
      status := .active },
    { id := "chess", institutionId := some "inst", name := "Chess", slug := "chess", type := .club,
      status := .active }], by decide⟩
  students := ⟨[⟨"s", "ada", "inst", "fac", "dept", some "100", none, false, .active, .completed, true, none⟩],
    by decide⟩
  permissions := [("dean", "organization:update", "chess")]

theorem enrolled_faculties : Enrolled faculties where
  single := fun _ _ _ mem => (List.not_mem_nil mem).elim
  pairs := List.nodup_nil
  linked := fun _ mem => (List.not_mem_nil mem).elim

def join (organizationId : String) : MembershipOp :=
  .requestToJoin "ada" organizationId none ("m" ++ organizationId) ("r" ++ organizationId)

/-- The user joins a faculty and the club, one after the other. -/
theorem faculties_single_academic : ∃ c : CampusSystem,
    Reaches Settles (Config.start faculties Surroundings.mk ([join "sci", join "chess"].map MembershipOp.program)) c ∧
    c.threads.map Thread.returned = [true, true] ∧ SingleAcademic c.db := by
  obtain ⟨c, run, returned⟩ := Reaches.of_replay_any Settles
    (Config.start faculties Surroundings.mk ([join "sci", join "chess"].map MembershipOp.program))
    (turns [(0, 28), (1, 25)]) (fun c : CampusSystem => c.threads.map Thread.returned = [true, true])
    (by decide +kernel)
  exact ⟨c, run, returned, single_academic enrolled_faculties run⟩

/-- The user is a student of two organizations of the type. -/
def TwiceIn (t : OrganizationType) (d : CampusDb) : Prop :=
  ∃ m ∈ d.memberships.rows, ∃ m' ∈ d.memberships.rows,
    d.StudentOf t m ∧ d.StudentOf t m' ∧ m.userId = m'.userId ∧ m ≠ m'

instance (t : OrganizationType) (d : CampusDb) : Decidable (TwiceIn t d) :=
  inferInstanceAs (Decidable (∃ m ∈ d.memberships.rows, _))

theorem not_single_of_twice {t : OrganizationType} {d : CampusDb} (academic : t.isAcademic = true)
    (twice : TwiceIn t d) : ¬SingleAcademic d := by
  obtain ⟨m, hm, m', hm', student, student', user, other⟩ := twice
  exact fun single => other (single t academic m hm m' hm' student student' user)

/-- Two requests have both passed the check before either is written; and a club that
the user has joined becomes a faculty, with nothing else going on. -/
theorem faculties_joined_twice : Enrolled faculties ∧
    (∃ c : CampusSystem, Reaches (fun _ _ => True)
      (Config.start faculties Surroundings.mk ([join "sci", join "art"].map MembershipOp.program)) c ∧
      ¬SingleAcademic c.db) ∧
    ∃ c : CampusSystem, Reaches (fun _ _ => True)
      (Config.start faculties Surroundings.mk ([join "sci", join "chess",
        .updateOrganization "chess" "dean" { type := some .faculty }].map MembershipOp.program)) c ∧
      ¬SingleAcademic c.db := by
  refine ⟨enrolled_faculties, ?_, ?_⟩
  · obtain ⟨c, run, twice⟩ := Reaches.of_replay_any (fun _ _ => True)
      (Config.start faculties Surroundings.mk ([join "sci", join "art"].map MembershipOp.program))
      (turns [(0, 18), (1, 28), (0, 10)]) (fun c : CampusSystem => TwiceIn .faculty c.db) (by decide +kernel)
    exact ⟨c, run, not_single_of_twice rfl twice⟩
  · obtain ⟨c, run, twice⟩ := Reaches.of_replay_any (fun _ _ => True)
      (Config.start faculties Surroundings.mk ([join "sci", join "chess",
        .updateOrganization "chess" "dean" { type := some .faculty }].map MembershipOp.program))
      (turns [(0, 28), (1, 25), (2, 13)]) (fun c : CampusSystem => TwiceIn .faculty c.db) (by decide +kernel)
    exact ⟨c, run, not_single_of_twice rfl twice⟩

end Heightt.Campus
