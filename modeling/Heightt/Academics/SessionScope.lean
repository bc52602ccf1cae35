import Heightt.Academics.SessionOps
import Heightt.Campus.Promoted

/-!
# The scope of a session and the units it names

A create request is checked against the units it gives, and the parents it leaves out are
filled in without another check; an update writes what it gives over the session and
leaves the scope alone. The units of every session belong together as long as what is
filled in is of the institution and no update takes a unit away from its parent.
-/

namespace Heightt.Campus

open Store ReadCommitted Prog

theorem given_eq_some {text : Option String} {t : String} : given text = some t ↔ text = some t ∧ t ≠ "" := by
  cases text <;> simp [given, Option.filter_eq_some_iff]

theorem asked_some {t : String} {column : Option String} : asked (some t) column = true ↔ column = some t := by
  simp [asked]

/-- The scope of the deepest unit that the session is attached to. -/
def AcademicSession.deepest (s : AcademicSession) : SessionScope :=
  if s.academicLevelId.isSome then .level
  else if s.departmentId.isSome then .department
  else if s.facultyId.isSome then .faculty
  else .institution

/-- The scope names the deepest unit of the session, and each unit belongs to the next. -/
structure ScopeConsistent (u : Directory) (s : AcademicSession) : Prop where
  scope : s.scope = s.deepest
  level : ∀ l ∈ s.academicLevelId, ∃ r ∈ u.levels.find l, s.departmentId = some r.departmentId
  department : ∀ p ∈ s.departmentId, ∃ r ∈ u.departments.find p, s.facultyId = some r.facultyId
  faculty : ∀ f ∈ s.facultyId, ∃ r ∈ u.faculties.find f, r.institutionId = s.institutionId

/-- No unit has the empty identifier. -/
structure Directory.Named (u : Directory) : Prop where
  faculties : u.faculties.find "" = none
  departments : u.departments.find "" = none
  levels : u.levels.find "" = none

/-! ## What the calls have to be asked for -/

namespace Directory

variable (u : Directory)

/-- The faculty that the checks fill in for a request. -/
def filledIn (dto : CreateAcademicSessionDto) : Option String :=
  match given dto.departmentId with
  | some p => if (given dto.facultyId).isSome then none else (u.departments.find p).map Department.facultyId
  | none => (given dto.academicLevelId).bind fun l => (u.levels.find l).bind fun r =>
    (u.departments.find r.departmentId).map Department.facultyId

/-- The faculty that is filled in is of the institution of the request. -/
def FillsWithin (dto : CreateAcademicSessionDto) : Prop :=
  ∀ f ∈ u.filledIn dto, ∀ r ∈ u.faculties.find f, r.institutionId = dto.institutionId

instance (dto : CreateAcademicSessionDto) : Decidable (u.FillsWithin dto) :=
  inferInstanceAs (Decidable (∀ f ∈ u.filledIn dto, ∀ r ∈ u.faculties.find f, _))

/-- The update of session `s` leaves its units together: a unit that is not given along with
the one it belongs to, and so not checked, belongs to the one that is kept, and the scope
is that of the deepest unit. -/
def KeepsTogether (seen : AcademicSession) (dto : PartialAcademicSessionDto) (s : AcademicSession) : Prop :=
  dto.scope.getD s.scope = (dto.apply s).deepest ∧
  (¬((given dto.facultyId.toOption).isSome ∧ dto.institutionId.getD s.institutionId = seen.institutionId) →
    ∀ f ∈ dto.facultyId.onto s.facultyId, ∃ r ∈ u.faculties.find f,
      r.institutionId = dto.institutionId.getD s.institutionId) ∧
  (¬((given dto.departmentId.toOption).isSome ∧ (given dto.facultyId.toOption).isSome) →
    ∀ p ∈ dto.departmentId.onto s.departmentId, ∃ r ∈ u.departments.find p,
      dto.facultyId.onto s.facultyId = some r.facultyId) ∧
  (¬((given dto.academicLevelId.toOption).isSome ∧ (given dto.departmentId.toOption).isSome) →
    ∀ l ∈ dto.academicLevelId.onto s.academicLevelId, ∃ r ∈ u.levels.find l,
      dto.departmentId.onto s.departmentId = some r.departmentId)

instance (seen : AcademicSession) (dto : PartialAcademicSessionDto) (s : AcademicSession) :
    Decidable (u.KeepsTogether seen dto s) :=
  inferInstanceAs (Decidable (_ ∧ (_ → ∀ f ∈ dto.facultyId.onto s.facultyId, ∃ r ∈ u.faculties.find f, _) ∧
    (_ → ∀ p ∈ dto.departmentId.onto s.departmentId, ∃ r ∈ u.departments.find p, _) ∧
    (_ → ∀ l ∈ dto.academicLevelId.onto s.academicLevelId, ∃ r ∈ u.levels.find l, _)))

end Directory

/-- The session that the statement of the call writes has its units together. -/
def SessionOp.Fits (op : SessionOp) (d : AcademicsDb) : AcademicsStmt → Prop
  | .createSession _ =>
    match op with
    | createAcademicSession dto _ => d.directory.FillsWithin dto
    | _ => True
  | .updateSession seen dto => ∀ s ∈ d.campus.sessions.find seen.id, d.directory.KeepsTogether seen dto s
  | _ => True

/-! ## What a call writes -/

theorem ScopeConsistent.of_eq {u : Directory} {s t : AcademicSession} (h : ScopeConsistent u s)
    (scope : t.scope = s.scope) (institution : t.institutionId = s.institutionId)
    (faculty : t.facultyId = s.facultyId) (department : t.departmentId = s.departmentId)
    (level : t.academicLevelId = s.academicLevelId) : ScopeConsistent u t := by
  refine ⟨?_, ?_, ?_, ?_⟩
  · rw [scope, h.scope, AcademicSession.deepest, AcademicSession.deepest, faculty, department, level]
  · rw [level, department]
    exact h.level
  · rw [department, faculty]
    exact h.department
  · rw [faculty, institution]
    exact h.faculty

/-- A session of the institution as a whole names no unit. -/
theorem ScopeConsistent.of_whole {u : Directory} {s : AcademicSession} (whole : s.Whole)
    (scope : s.scope = .institution) : ScopeConsistent u s := by
  obtain ⟨faculty, department, level⟩ := whole
  refine ⟨?_, ?_, ?_, ?_⟩
  · rw [scope, AcademicSession.deepest, faculty, department, level]
    rfl
  · simp [level]
  · simp [department]
  · simp [faculty]

section Creates

variable {u : Directory} {dto dto' : CreateAcademicSessionDto}

/-- A filled in department or a given one makes the faculty that of the department. -/
theorem Directory.fillFaculty_spec {p : String} (named : given dto.departmentId = some p)
    (filled : u.fillFaculty dto = some dto') : ∃ r, u.departments.find p = some r ∧
      dto'.facultyId = some r.facultyId ∧ dto'.departmentId = some p ∧
      dto'.academicLevelId = dto.academicLevelId ∧ dto'.institutionId = dto.institutionId ∧
      (given dto.facultyId = some r.facultyId ∨ u.filledIn dto = some r.facultyId) := by
  rw [Directory.fillFaculty, named] at filled
  simp only [Option.bind_eq_some_iff, Option.ite_none_right_eq_some, Option.some.injEq] at filled
  obtain ⟨r, found, own, rfl⟩ := filled
  refine ⟨r, found, ?_⟩
  rw [CreateAcademicSessionDto.withFaculty, Directory.filledIn, named]
  cases hf : given dto.facultyId with
  | none => exact ⟨by simp, (given_eq_some.1 named).1, rfl, rfl, .inr (by simp [found])⟩
  | some f =>
    rw [hf, asked_some, Option.some.injEq] at own
    subst own
    exact ⟨(given_eq_some.1 hf).1, (given_eq_some.1 named).1, rfl, rfl, .inl rfl⟩

/-- A department that is filled in for a level is that of the level. -/
theorem Directory.fillDepartment_spec {l : String} (named : given dto.academicLevelId = some l)
    (filled : u.fillDepartment dto = some dto') : ∃ r, u.levels.find l = some r ∧
      (given dto.departmentId = some r.departmentId ∧ dto' = dto ∨
        given dto.departmentId = none ∧
          dto' = dto.withDepartment r.departmentId (u.departments.find r.departmentId)) := by
  rw [Directory.fillDepartment, named] at filled
  simp only [Option.bind_eq_some_iff, Option.ite_none_right_eq_some, Option.some.injEq] at filled
  obtain ⟨r, found, own, rfl⟩ := filled
  refine ⟨r, found, ?_⟩
  cases hp : given dto.departmentId with
  | none => exact .inr ⟨rfl, by simp⟩
  | some p =>
    rw [hp, asked_some, Option.some.injEq] at own
    exact .inl ⟨by rw [own], by simp⟩

/-- A request that is accepted names its institution. -/
theorem Directory.resolve_spec (resolved : u.resolve dto = some dto') :
    u.hasFaculty (given dto.facultyId) dto.institutionId ∧
      ∃ dto₁, u.fillFaculty dto = some dto₁ ∧ u.fillDepartment dto₁ = some dto' := by
  rw [Directory.resolve] at resolved
  simp only [Option.ite_none_right_eq_some, Option.bind_eq_some_iff] at resolved
  exact ⟨resolved.1.2, resolved.2⟩

theorem Directory.hasFaculty_some {f institutionId : String} :
    u.hasFaculty (some f) institutionId ↔ ∃ r ∈ u.faculties.find f, r.institutionId = institutionId := by
  simp [Directory.hasFaculty, Option.any_eq_true]

end Creates

/-- A unit that a row may name. -/
theorem given_of_present {α : Type} {column : Option String} {f : String → Option α} (unnamed : f "" = none)
    (present : ∀ t ∈ column, f t ≠ none) : given column = column := by
  cases column with
  | none => rfl
  | some t =>
    refine given_eq_some.2 ⟨rfl, ?_⟩
    rintro rfl
    exact present "" rfl unnamed

/-- **A created session**: its units belong together if what is filled in is of the institution. -/
theorem scopeConsistent_created {d : AcademicsDb} {dto dto' : CreateAcademicSessionDto} (newId : String)
    (named : d.directory.Named) (resolved : d.directory.resolve dto = some dto')
    (within : d.directory.FillsWithin dto)
    (present : ¬AcademicsStmt.UnitMissing d dto'.facultyId dto'.departmentId dto'.academicLevelId) :
    ScopeConsistent d.directory (dto'.session newId) := by
  have present_f : ∀ f ∈ dto'.facultyId, d.directory.faculties.find f ≠ none :=
    fun f mem missing => present (.inl ⟨f, mem, missing⟩)
  have present_p : ∀ p ∈ dto'.departmentId, d.directory.departments.find p ≠ none :=
    fun p mem missing => present (.inr (.inl ⟨p, mem, missing⟩))
  have present_l : ∀ l ∈ dto'.academicLevelId, d.directory.levels.find l ≠ none :=
    fun l mem missing => present (.inr (.inr ⟨l, mem, missing⟩))
  have given_f := given_of_present named.faculties present_f
  have given_p := given_of_present named.departments present_p
  have given_l := given_of_present named.levels present_l
  -- What holds of the units, and then of the scope, which goes by the units that are given.
  suffices units : (∀ l ∈ dto'.academicLevelId, ∃ r ∈ d.directory.levels.find l,
        dto'.departmentId = some r.departmentId) ∧
      (∀ p ∈ dto'.departmentId, ∃ r ∈ d.directory.departments.find p, dto'.facultyId = some r.facultyId) ∧
      ∀ f ∈ dto'.facultyId, ∃ r ∈ d.directory.faculties.find f, r.institutionId = dto'.institutionId by
    refine ⟨?_, units.1, units.2.1, units.2.2⟩
    show dto'.scope = (dto'.session newId).deepest
    rw [CreateAcademicSessionDto.scope, given_f, given_p, given_l]
    rfl
  have filled {f : String} (filledIn : d.directory.filledIn dto = some f) (mem : f ∈ dto'.facultyId) :
      ∃ r ∈ d.directory.faculties.find f, r.institutionId = dto.institutionId := by
    obtain ⟨r, found⟩ := Option.ne_none_iff_exists'.1 (present_f f mem)
    exact ⟨r, found, within f filledIn r found⟩
  obtain ⟨faculty, dto₁, first, second⟩ := Directory.resolve_spec resolved
  cases hp : given dto.departmentId with
  | none =>
    obtain rfl : dto = dto₁ := by simpa [Directory.fillFaculty, hp] using first
    cases hl : given dto.academicLevelId with
    | none =>
      obtain rfl : dto = dto' := by simpa [Directory.fillDepartment, hl] using second
      rw [hl] at given_l
      rw [hp] at given_p
      rw [given_f] at faculty
      refine ⟨by simp [← given_l], by simp [← given_p], fun f mem => ?_⟩
      rw [Option.mem_def.1 mem] at faculty
      exact Directory.hasFaculty_some.1 faculty
    | some l =>
      obtain ⟨r, found, ⟨other, -⟩ | ⟨-, rfl⟩⟩ := Directory.fillDepartment_spec hl second
      · rw [hp] at other
        cases other
      obtain ⟨q, found_q⟩ := Option.ne_none_iff_exists'.1 (present_p r.departmentId rfl)
      have hf : (dto.withDepartment r.departmentId (d.directory.departments.find r.departmentId)).facultyId =
          some q.facultyId := by
        rw [found_q]
        rfl
      have hfill : d.directory.filledIn dto = some q.facultyId := by
        rw [Directory.filledIn, hp, hl]
        simp [found, found_q]
      refine ⟨fun l' mem => ?_, fun p' mem => ?_, fun f mem => ?_⟩
      · obtain rfl : l = l' := Option.some.inj ((given_eq_some.1 hl).1.symm.trans mem)
        exact ⟨r, found, rfl⟩
      · obtain rfl : r.departmentId = p' := Option.some.inj mem
        exact ⟨q, found_q, hf⟩
      · obtain rfl : q.facultyId = f := Option.some.inj (hf.symm.trans mem)
        exact filled hfill mem
  | some p =>
    obtain ⟨q, found_q, hf, hdep, hlev, hinst, facultyOr⟩ := Directory.fillFaculty_spec hp first
    obtain ⟨-, nonempty⟩ := given_eq_some.1 hp
    have same : dto' = dto₁ := by
      cases hl : given dto₁.academicLevelId with
      | none => exact (by simpa [Directory.fillDepartment, hl] using second : dto₁ = dto').symm
      | some l =>
        obtain ⟨r, found, ⟨-, same⟩ | ⟨other, -⟩⟩ := Directory.fillDepartment_spec hl second
        · exact same
        · rw [hdep, given_eq_some.2 ⟨rfl, nonempty⟩] at other
          cases other
    subst same
    refine ⟨fun l mem => ?_, fun p' mem => ?_, fun f mem => ?_⟩
    · have hl : given dto'.academicLevelId = some l := given_l.trans mem
      obtain ⟨r, found, ⟨own, -⟩ | ⟨other, -⟩⟩ := Directory.fillDepartment_spec hl second
      · exact ⟨r, found, (given_eq_some.1 own).1⟩
      · rw [hdep, given_eq_some.2 ⟨rfl, nonempty⟩] at other
        cases other
    · obtain rfl : p = p' := Option.some.inj (hdep.symm.trans mem)
      exact ⟨q, found_q, hf⟩
    · obtain rfl : q.facultyId = f := Option.some.inj (hf.symm.trans mem)
      rw [hinst]
      obtain gave | hfill := facultyOr
      · rw [gave] at faculty
        exact Directory.hasFaculty_some.1 faculty
      · exact filled hfill mem

/-- A unit that is given is what is left. -/
theorem onto_of_given {f : Field String} {t : String} (h : given f.toOption = some t) (old : Option String) :
    f.onto old = some t := by
  obtain ⟨h, -⟩ := given_eq_some.1 h
  cases f with
  | value a => exact h
  | absent => cases h
  | null => cases h

/-- **An updated session**: what the request gives together is checked, and the rest fits. -/
theorem scopeConsistent_updated {u : Directory} {dto : PartialAcademicSessionDto} {seen s : AcademicSession}
    (passes : u.Passes seen dto) (together : u.KeepsTogether seen dto s) :
    ScopeConsistent u (dto.apply s) := by
  obtain ⟨scope, faculty, department, level⟩ := together
  refine ⟨scope, fun l mem => ?_, fun p mem => ?_, fun f mem => ?_⟩
  · by_cases both : (given dto.academicLevelId.toOption).isSome ∧ (given dto.departmentId.toOption).isSome
    · obtain ⟨l', hl⟩ := Option.isSome_iff_exists.1 both.1
      obtain ⟨p, hp⟩ := Option.isSome_iff_exists.1 both.2
      obtain rfl : l' = l := Option.some.inj ((onto_of_given hl _).symm.trans mem)
      obtain ⟨r, found, own⟩ := passes.level l' hl
      rw [hp, asked_some] at own
      exact ⟨r, found, (onto_of_given hp _).trans own.symm⟩
    · exact level both l mem
  · by_cases both : (given dto.departmentId.toOption).isSome ∧ (given dto.facultyId.toOption).isSome
    · obtain ⟨p', hp⟩ := Option.isSome_iff_exists.1 both.1
      obtain ⟨f, hf⟩ := Option.isSome_iff_exists.1 both.2
      obtain rfl : p' = p := Option.some.inj ((onto_of_given hp _).symm.trans mem)
      obtain ⟨r, found, own⟩ := passes.department p' hp
      rw [hf, asked_some] at own
      exact ⟨r, found, (onto_of_given hf _).trans own.symm⟩
    · exact department both p mem
  · by_cases both : (given dto.facultyId.toOption).isSome ∧
        dto.institutionId.getD s.institutionId = seen.institutionId
    · obtain ⟨f', hf⟩ := Option.isSome_iff_exists.1 both.1
      obtain rfl : f' = f := Option.some.inj ((onto_of_given hf _).symm.trans mem)
      have own := passes.faculty
      rw [hf, Directory.hasFaculty_some] at own
      obtain ⟨r, found, own⟩ := own
      exact ⟨r, found, own.trans both.2.symm⟩
    · exact faculty both f mem

/-! ## The runs -/

/-- The units of every session belong together. -/
def AcademicsDb.ScopesConsistent (d : AcademicsDb) : Prop :=
  ∀ s ∈ d.campus.sessions.rows, ScopeConsistent d.directory s

/-- A statement of a promotion keeps the units of the sessions together. -/
theorem scopes_promotion {u : Directory} {levels : Table AcademicLevel String AcademicLevel.id}
    {institutionId : String} {Known : String → Prop} {F : List CampusStmt}
    (tx : PromotionTx levels institutionId Known F) {d : CampusDb}
    (h : ∀ s ∈ d.sessions.rows, ScopeConsistent u s) :
    ∀ s ∈ (Database.applyAll F d).sessions.rows, ScopeConsistent u s := by
  obtain ⟨opens, follows⟩ := tx
  rename_i currentId nextId opening rest
  rw [Database.applyAll_cons, Database.applyAll_cons, Database.applyAll_cons,
    Database.applyAll_keeps CampusDb.sessions fun w mem d => (follows w mem).leavesSessions d]
  have claimed : ∀ s ∈ ((CampusStmt.claimSession currentId institutionId).apply d).sessions.rows,
      ScopeConsistent u s :=
    Table.forall_modify (f := AcademicSession.complete) (fun _ => rfl) h fun s found =>
      (h s (Table.find_mem found)).of_eq rfl rfl rfl rfl rfl
  have opened : ∀ s ∈ (opening.apply ((CampusStmt.claimSession currentId institutionId).apply d)).sessions.rows,
      ScopeConsistent u s := by
    cases opens with
    | resumes => exact Table.forall_modify (f := AcademicSession.resume) (fun _ => rfl) claimed fun s found =>
        (claimed s (Table.find_mem found)).of_eq rfl rfl rfl rfl rfl
    | creates own whole scope _ => exact Table.forall_insert claimed (.of_whole whole scope)
  refine Table.forall_mapRows (AcademicSession.retire_id institutionId nextId) fun s mem => (opened s mem).of_eq ?_ ?_ ?_ ?_ ?_
  all_goals
    unfold AcademicSession.retire
    split <;> rfl

theorem scopes_clear {d : AcademicsDb} (h : d.ScopesConsistent) (w : CurrentWhere) :
    ∀ s ∈ (d.campus.sessions.mapRows w.clear w.clear_id).rows, ScopeConsistent d.directory s := by
  refine Table.forall_mapRows w.clear_id fun s mem => (h s mem).of_eq ?_ ?_ ?_ ?_ ?_
  all_goals
    unfold CurrentWhere.clear
    split <;> rfl

theorem present_of_checkSession {d : AcademicsDb} {s : AcademicSession}
    (passes : AcademicsStmt.checkSession d s = none) :
    ¬AcademicsStmt.UnitMissing d s.facultyId s.departmentId s.academicLevelId := by
  intro missing
  have refused : AcademicsStmt.foreign ((d.campus.institutions.find s.institutionId).isNone ∨
      AcademicsStmt.UnitMissing d s.facultyId s.departmentId s.academicLevelId) = none :=
    (Option.or_eq_none_iff.1 passes).2
  rw [AcademicsStmt.foreign, if_pos (.inr missing)] at refused
  cases refused

/-- What a call commits keeps the units together, if what it is asked for fits. -/
theorem scopesConsistent_commit {d : AcademicsDb} {op : SessionOp} {F : List AcademicsStmt}
    (named : d.directory.Named) (commits : SessionOp.Commits d op F) (valid : Database.violation F d = none)
    (fits : ∀ w ∈ F, op.Fits d w) (h : d.ScopesConsistent) : (Database.applyAll F d).ScopesConsistent := by
  intro s mem
  rw [commits.sameDirectory]
  revert s
  cases commits with
  | nothing => exact h
  | logs => exact h
  | clears => exact scopes_clear h _
  | clearsFor => exact scopes_clear h _
  | createsDefault => exact Table.forall_insert h (.of_whole ⟨rfl, rfl, rfl⟩ rfl)
  | creates resolved =>
    rename_i dto dto' newId
    have passes : AcademicsStmt.check (.createSession (dto'.session newId)) d = none :=
      (Database.violation_cons.1 valid).1
    simp only [AcademicsStmt.check, CampusStmt.first, Option.or_eq_none_iff] at passes
    exact Table.forall_insert h (scopeConsistent_created newId named resolved
      (fits _ List.mem_cons_self) (present_of_checkSession passes.2))
  | updates own passes =>
    rename_i id dto seen
    exact Table.forall_modify (f := dto.apply) (fun _ => rfl) h fun s found =>
      scopeConsistent_updated passes (fits _ List.mem_cons_self s found)
  | promotes tx =>
    rw [embeds_campus.applyAll]
    exact scopes_promotion tx h

instance (op : SessionOp) (d : AcademicsDb) (w : AcademicsStmt) : Decidable (op.Fits d w) :=
  match w, op with
  | .createSession _, .createAcademicSession dto _ => inferInstanceAs (Decidable (d.directory.FillsWithin dto))
  | .createSession _, .updateAcademicSession .. | .createSession _, .getOrCreateDefaultSession ..
  | .createSession _, .promoteInstitution _ => .isTrue trivial
  | .updateSession seen dto, _ =>
    inferInstanceAs (Decidable (∀ s ∈ d.campus.sessions.find seen.id, d.directory.KeepsTogether seen dto s))
  | .campus _, _ | .clearCurrent .., _ | .createStudent _, _ | .updateStudent .., _ | .upsertStudent _, _
  | .stepStudent .., _ | .createRecord _, _ | .updateUserProfile .., _ | .leaveAcademic _, _
  | .joinAsStudent _, _ | .approveJoinRequest _, _ | .createFaculty _, _ | .createDepartment _, _
  | .createLevel _, _ | .createOrganization _, _ => .isTrue trivial

/-- What a step commits leaves the units of a session together. -/
def SessionsFit (ops : List SessionOp) (c : AcademicsSystem) : Effect AcademicsStmt CampusCall → Prop
  | .commit i _ F => ∀ op ∈ ops[i]?, ∀ w ∈ F, op.Fits c.db w
  | _ => True

instance (ops : List SessionOp) (c : AcademicsSystem) (eff : Effect AcademicsStmt CampusCall) :
    Decidable (SessionsFit ops c eff) :=
  match eff with
  | .commit i _ F => inferInstanceAs (Decidable (∀ op ∈ ops[i]?, ∀ w ∈ F, op.Fits c.db w))
  | .internal | .fault _ | .called .. | .unsent .. => .isTrue trivial

/-- **The scope of a session and the units it names**: in every interleaving of calls in which
what the requests fill in is of their institutions and no update takes a unit away from the one it
belongs to, the scope of every session names its deepest unit, and each unit belongs to the next. -/
theorem session_scopes_consistent {db : AcademicsDb} {x : Surroundings} {ops : List SessionOp}
    {c : AcademicsSystem}
    (run : Reaches (SessionsFit ops) (Config.start db x (ops.map SessionOp.program)) c)
    (named : db.directory.Named) (consistent : db.ScopesConsistent) : c.db.ScopesConsistent := by
  refine (run.induct_of_calls guarded_directory (Ψ := fun op d => SessionOp.Commits d op)
    SessionOp.upholds_program (fun d _ => d.directory = db.directory ∧ d.ScopesConsistent)
    ⟨rfl, consistent⟩ ?_).2
  rintro c i nested F op hop commits valid fit ⟨same, consistent⟩
  refine ⟨commits.sameDirectory, SameDirectory.trans same commits.sameDirectory, ?_⟩
  exact scopesConsistent_commit (same ▸ named) commits valid (fit op hop) consistent

/-- An institution with two faculties, each with a department, and a faculty of another one. -/
def twoFaculties : AcademicsDb where
  campus.institutions := ⟨[⟨"inst", "College", true, false⟩, ⟨"poly", "Polytechnic", true, false⟩], by decide⟩
  campus.levels := ⟨[⟨"100", "maths", "100 Level", 100, 1, true⟩], by decide⟩
  faculties := ⟨[⟨"sci", "inst", "Science", "SCI", true⟩, ⟨"art", "inst", "Arts", "ART", true⟩,
    ⟨"eng", "poly", "Engineering", "ENG", true⟩], by decide⟩
  departments := ⟨[⟨"maths", "sci", "Mathematics", "MTH", true⟩, ⟨"civil", "eng", "Civil Engineering", "CVE", true⟩],
    by decide⟩

theorem named_twoFaculties : twoFaculties.directory.Named := ⟨by decide, by decide, by decide⟩

theorem consistent_twoFaculties : twoFaculties.ScopesConsistent := fun _ mem => (List.not_mem_nil mem).elim

/-- A session of the named units. -/
def yearOf (facultyId departmentId academicLevelId : Option String) (isCurrent : Bool) : CreateAcademicSessionDto where
  name := "2024/2025"
  institutionId := "inst"
  facultyId := facultyId
  departmentId := departmentId
  academicLevelId := academicLevelId
  startDate := ⟨2024, 9, 1, 0⟩
  endDate := ⟨2025, 8, 31, 0⟩
  status := some .active
  isCurrent := isCurrent

/-- A session of a level, whose department and faculty are filled in, is then given its department. -/
def levelYear : List SessionOp :=
  [.createAcademicSession (yearOf none none (some "100") true) "s1",
    .updateAcademicSession "s1" { departmentId := .value "maths", facultyId := .value "sci" }]

/-- The calls are made one after the other. -/
theorem levelYear_scopes_consistent : ∃ c : AcademicsSystem,
    Reaches (SessionsFit levelYear)
      (Config.start twoFaculties Surroundings.mk (levelYear.map SessionOp.program)) c ∧
    c.threads.map Thread.returned = [true, true] ∧ c.db.ScopesConsistent := by
  obtain ⟨c, run, returned⟩ := Reaches.of_replay_any (SessionsFit levelYear)
    (Config.start twoFaculties Surroundings.mk (levelYear.map SessionOp.program))
    (turns [(0, 25), (1, 18)]) (fun c : AcademicsSystem => c.threads.map Thread.returned = [true, true])
    (by decide +kernel)
  exact ⟨c, run, returned, session_scopes_consistent run named_twoFaculties consistent_twoFaculties⟩

/-- Some session has another scope than that of its deepest unit. -/
def AcademicsDb.Misnamed (d : AcademicsDb) : Prop := ∃ s ∈ d.campus.sessions.rows, s.scope ≠ s.deepest

/-- Some session is of a faculty of another institution. -/
def AcademicsDb.Astray (d : AcademicsDb) : Prop :=
  ∃ s ∈ d.campus.sessions.rows, ∃ f ∈ s.facultyId, ∀ r ∈ d.faculties.find f, r.institutionId ≠ s.institutionId

instance (d : AcademicsDb) : Decidable d.Misnamed :=
  inferInstanceAs (Decidable (∃ s ∈ d.campus.sessions.rows, _))

instance (d : AcademicsDb) : Decidable d.Astray :=
  inferInstanceAs (Decidable (∃ s ∈ d.campus.sessions.rows, ∃ f ∈ s.facultyId, ∀ r ∈ d.faculties.find f, _))

/-- The session of the institution is then given a faculty. -/
def moved : List SessionOp :=
  [.createAcademicSession (yearOf none none none false) "s1",
    .updateAcademicSession "s1" { facultyId := .value "sci" }]

/-- A department of another institution, whose faculty is filled in. -/
def foreignDepartment : List SessionOp :=
  [.createAcademicSession (yearOf none (some "civil") none false) "s1"]

/-- The update leaves the scope as it was, and the faculty that is filled in is not checked. -/
theorem scopes_not_consistent :
    (∃ c : AcademicsSystem, Reaches (fun _ _ => True)
      (Config.start twoFaculties Surroundings.mk (moved.map SessionOp.program)) c ∧
      c.threads.map Thread.returned = [true, true] ∧ ¬c.db.ScopesConsistent) ∧
    ∃ c : AcademicsSystem, Reaches (fun _ _ => True)
      (Config.start twoFaculties Surroundings.mk (foreignDepartment.map SessionOp.program)) c ∧
      c.threads.map Thread.returned = [true] ∧ ¬c.db.ScopesConsistent := by
  constructor
  · obtain ⟨c, run, returned, s, mem, other⟩ := Reaches.of_replay_any (fun _ _ => True)
      (Config.start twoFaculties Surroundings.mk (moved.map SessionOp.program)) (turns [(0, 13), (1, 15)])
      (fun c : AcademicsSystem => c.threads.map Thread.returned = [true, true] ∧ c.db.Misnamed)
      (by decide +kernel)
    exact ⟨c, run, returned, fun consistent => other (consistent s mem).scope⟩
  · obtain ⟨c, run, returned, s, mem, f, named, other⟩ := Reaches.of_replay_any (fun _ _ => True)
      (Config.start twoFaculties Surroundings.mk (foreignDepartment.map SessionOp.program)) (turns [(0, 18)])
      (fun c : AcademicsSystem => c.threads.map Thread.returned = [true] ∧ c.db.Astray) (by decide +kernel)
    refine ⟨c, run, returned, fun consistent => ?_⟩
    obtain ⟨r, found, own⟩ := (consistent s mem).faculty f named
    exact other r found own

end Heightt.Campus
