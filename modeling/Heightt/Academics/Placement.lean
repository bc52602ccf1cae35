import Heightt.Academics.SessionScope
import Heightt.Academics.StudentOps

/-!
# Where students are placed

A profile names an institution, a faculty, a department and a level, and a record a
department, a level and a session. Each of them has to belong to the one before.
-/

namespace Heightt.Campus

open Store ReadCommitted
open OnboardingService (names completed)

/-- Each unit of the profile is of the next one. -/
structure StudentProfile.Placed (s : StudentProfile) (u : Directory) : Prop where
  faculty : ∃ f ∈ u.faculties.find s.facultyId, f.institutionId = s.institutionId
  department : ∃ p ∈ u.departments.find s.departmentId, p.facultyId = s.facultyId
  level : ∀ l ∈ s.currentAcademicLevelId, ∃ r ∈ u.levels.find l, r.departmentId = s.departmentId

/-- The level of the record is of its department, and its session of the student's institution. -/
structure StudentAcademicRecord.Filed (r : StudentAcademicRecord) (d : AcademicsDb) : Prop where
  level : ∃ l ∈ d.directory.levels.find r.academicLevelId, l.departmentId = r.departmentId
  session : ∃ s ∈ d.campus.students.find r.studentId, SessionOf d r.sessionId s.institutionId

structure AcademicsDb.Placed (d : AcademicsDb) : Prop where
  students : ∀ s ∈ d.campus.students.rows, s.Placed d.directory
  records : ∀ r ∈ d.campus.records, r.Filed d

def AtInstitution (s t : StudentProfile) : Prop := t.institutionId = s.institutionId

theorem atInstitution_refl (s : StudentProfile) : AtInstitution s s := rfl

/-- A record stays filed while its session and the student's institution stay. -/
theorem StudentAcademicRecord.Filed.later {r : StudentAcademicRecord} {d d' : AcademicsDb} (h : r.Filed d)
    (stays : Stays d d') (students : d.campus.students.Grows AtInstitution d'.campus.students) : r.Filed d' := by
  obtain ⟨level, s, found, session⟩ := h
  obtain ⟨s', found', same⟩ := students r.studentId s found
  refine ⟨stays.directory.symm ▸ level, s', found', ?_⟩
  rw [show s'.institutionId = s.institutionId from same]
  exact session.stays stays

/-- What the statement writes belongs together. -/
def AcademicsStmt.Refers (d : AcademicsDb) : AcademicsStmt → Prop
  | createStudent s => s.Placed d.directory
  | upsertStudent s => s.Placed d.directory ∧ ∀ old ∈ d.campus.studentOf s.userId, ∀ r ∈ d.campus.records,
      r.studentId = old.id → SessionOf d r.sessionId s.institutionId
  | updateStudent id patch => ∀ s ∈ d.campus.students.find id, (patch.apply s).Placed d.directory
  | createRecord r | campus (.upsertRecord r) => r.Filed d
  | campus (.updateStudent id patch) => ∀ s ∈ d.campus.students.find id, (patch.apply s).Placed d.directory
  | _ => True

/-- The statement leaves the profiles and the records alone. -/
def AcademicsStmt.sparesStudents : AcademicsStmt → Bool
  | createStudent _ | upsertStudent _ | updateStudent .. | stepStudent .. | createRecord _
  | campus (.upsertRecord _) | campus (.updateStudent ..) => false
  | _ => true

theorem CampusStmt.spares {w : CampusStmt} (h : (AcademicsStmt.campus w).sparesStudents = true) (d : CampusDb) :
    (w.apply d).students = d.students ∧ (w.apply d).records = d.records := by
  cases w with
  | upsertRecord => cases h
  | updateStudent => cases h
  | _ =>
    unfold CampusStmt.apply
    dsimp only
    try split
    all_goals exact ⟨rfl, rfl⟩

theorem AcademicsStmt.spares {w : AcademicsStmt} (h : w.sparesStudents = true) (d : AcademicsDb) :
    (w.apply d).campus.students = d.campus.students ∧ (w.apply d).campus.records = d.campus.records := by
  cases w with
  | campus w => exact CampusStmt.spares h d.campus
  | createStudent => cases h
  | upsertStudent => cases h
  | updateStudent => cases h
  | stepStudent => cases h
  | createRecord => cases h
  | _ =>
    unfold apply
    dsimp only
    try split
    all_goals exact ⟨rfl, rfl⟩

namespace AcademicsDb.Placed

variable {d : AcademicsDb}

/-- The students are written and the records are not. -/
theorem of_students {d' : AcademicsDb} (h : d.Placed) (stays : Stays d d')
    (placed : ∀ s ∈ d'.campus.students.rows, s.Placed d.directory)
    (grows : d.campus.students.Grows AtInstitution d'.campus.students)
    (records : d'.campus.records = d.campus.records) : d'.Placed := by
  refine ⟨fun s mem => stays.directory.symm ▸ placed s mem, fun r mem => ?_⟩
  rw [records] at mem
  exact (h.records r mem).later stays grows

/-- A profile is changed where it is. -/
theorem modify {d' : AcademicsDb} (h : d.Placed) (stays : Stays d d') {id : String} {f : StudentProfile → StudentProfile}
    (hf : ∀ s, (f s).id = s.id) (students : d'.campus.students = d.campus.students.modify id f hf)
    (records : d'.campus.records = d.campus.records) (same : ∀ s, (f s).institutionId = s.institutionId)
    (placed : ∀ s ∈ d.campus.students.find id, (f s).Placed d.directory) : d'.Placed := by
  refine h.of_students stays ?_ ?_ records
  · rw [students]
    exact Table.forall_modify hf h.students placed
  · rw [students]
    exact Table.grows_modify hf atInstitution_refl fun s _ => same s

/-- A record is written. -/
theorem file {d' : AcademicsDb} (h : d.Placed) (stays : Stays d d') (students : d'.campus.students = d.campus.students)
    {r : StudentAcademicRecord} (records : ∀ t ∈ d'.campus.records, t ∈ d.campus.records ∨ t = r) (filed : r.Filed d) :
    d'.Placed := by
  have grows : d.campus.students.Grows AtInstitution d'.campus.students := students ▸ .refl atInstitution_refl _
  refine ⟨fun s mem => ?_, fun t mem => ?_⟩
  · rw [students] at mem
    exact stays.directory.symm ▸ h.students s mem
  · obtain old | rfl := records t mem
    · exact (h.records t old).later stays grows
    · exact filed.later stays grows

/-- A profile is moved, with the sessions of its records. -/
theorem move {s : StudentProfile} {id : String} (h : d.Placed) (placed : s.Placed d.directory)
    (others : ∀ r ∈ d.campus.records, r.studentId = id → SessionOf d r.sessionId s.institutionId) :
    AcademicsDb.Placed { d with campus.students := d.campus.students.modify id s.place fun _ => rfl } := by
  refine ⟨Table.forall_modify (f := s.place) (fun _ => rfl) h.students fun t _ => ?_, fun r mem => ?_⟩
  · exact ⟨placed.faculty, placed.department, placed.level⟩
  · obtain ⟨level, t, found, session⟩ := h.records r mem
    by_cases own : r.studentId = id
    · refine ⟨level, s.place t, ?_, others r mem own⟩
      rw [own] at found ⊢
      exact (Table.find_modify_self _ _ s.place fun _ => rfl).trans (congrArg (Option.map s.place) found)
    · exact ⟨level, t, (Table.find_modify_ne own s.place fun _ => rfl).trans found, session⟩

/-- **What belongs together stays together**, if what is written does. -/
theorem apply {w : AcademicsStmt} (h : d.Placed) (moves : w.movesSession = false) (refers : w.Refers d) :
    (w.apply d).Placed := by
  have stays := AcademicsStmt.stays moves d
  by_cases spares : w.sparesStudents = true
  · obtain ⟨students, records⟩ := AcademicsStmt.spares spares d
    refine h.of_students stays ?_ ?_ records
    · rw [students]
      exact h.students
    · rw [students]
      exact .refl atInstitution_refl _
  · cases w with
    | createStudent s =>
      exact h.of_students stays (Table.forall_insert h.students refers) (Table.grows_insert atInstitution_refl _ s) rfl
    | updateStudent id patch =>
      exact h.modify stays (f := patch.apply) (fun _ => rfl) rfl rfl (fun _ => rfl) refers
    | createRecord r =>
      refine h.file stays rfl (fun t mem => ?_) refers
      obtain mem | mem := List.mem_append.1 mem
      · exact .inl mem
      · exact .inr (List.mem_singleton.1 mem)
    | stepStudent userId step =>
      simp only [AcademicsStmt.apply] at stays ⊢
      split at stays
      · refine h.modify stays (f := ({ · with onboardingStep := step })) (fun _ => rfl) rfl rfl (fun _ => rfl) ?_
        intro t ht
        obtain ⟨faculty, department, level⟩ := h.students t (Table.find_mem ht)
        exact ⟨faculty, department, level⟩
      · exact h
    | upsertStudent s =>
      obtain ⟨placed, others⟩ := refers
      cases found : d.campus.studentOf s.userId with
      | none =>
        have same : (AcademicsStmt.upsertStudent s).apply d =
            { d with campus.students := d.campus.students.insert s } := by simp only [AcademicsStmt.apply, found]
        rw [same] at stays ⊢
        exact h.of_students stays (Table.forall_insert h.students placed) (Table.grows_insert atInstitution_refl _ s) rfl
      | some old =>
        have same : (AcademicsStmt.upsertStudent s).apply d =
            { d with campus.students := d.campus.students.modify old.id s.place fun _ => rfl } := by
          simp only [AcademicsStmt.apply, found]
        rw [same]
        exact h.move placed (others old found)
    | campus w =>
      cases w with
      | upsertRecord r =>
        refine h.file stays rfl (fun t mem => ?_) refers
        obtain mem | mem := List.mem_append.1 mem
        · exact .inl (List.mem_filter.1 mem).1
        · exact .inr (List.mem_singleton.1 mem)
      | updateStudent id patch =>
        exact h.modify stays (f := patch.apply) (fun _ => rfl) rfl rfl (fun _ => rfl) refers
      | _ => exact absurd rfl spares
    | _ => exact absurd rfl spares

/-- What leaves students, records and sessions alone. -/
theorem keeps {F : List AcademicsStmt} (h : d.Placed)
    (spares : ∀ w ∈ F, w.movesSession = false ∧ w.sparesStudents = true) : (Database.applyAll F d).Placed := by
  induction F generalizing d with
  | nil => exact h
  | cons w F ih =>
    obtain ⟨moves, sparing⟩ := spares w List.mem_cons_self
    have refers : w.Refers d := by
      cases w with
      | campus w =>
        cases w with
        | upsertRecord => cases sparing
        | updateStudent => cases sparing
        | _ => trivial
      | createStudent => cases sparing
      | upsertStudent => cases sparing
      | updateStudent => cases sparing
      | createRecord => cases sparing
      | _ => trivial
    exact ih (h.apply moves refers) fun w mem => spares w (List.mem_cons_of_mem _ mem)

end AcademicsDb.Placed

/-! ## What a call may write -/

/-- What the update gives fits what it leaves of the profile. -/
structure UpdateStudentDto.Fits (dto : UpdateStudentDto) (u : Directory) (s : StudentProfile) : Prop where
  faculty : ∀ f ∈ dto.facultyId.toOption, ∃ r ∈ u.faculties.find f, r.institutionId = s.institutionId
  department : dto.facultyId.toOption.isSome ∨ dto.departmentId.toOption.isSome →
    ∃ r ∈ u.departments.find (dto.departmentId.getD s.departmentId), r.facultyId = dto.facultyId.getD s.facultyId
  level : dto.departmentId.toOption.isSome ∨ dto.currentAcademicLevelId.toOption.isSome →
    ∀ l ∈ dto.currentAcademicLevelId.onto s.currentAcademicLevelId, ∃ r ∈ u.levels.find l,
      r.departmentId = dto.departmentId.getD s.departmentId

instance (dto : UpdateStudentDto) (u : Directory) (s : StudentProfile) : Decidable (dto.Fits u s) :=
  decidable_of_iff ((∀ f ∈ dto.facultyId.toOption, ∃ r ∈ u.faculties.find f, r.institutionId = s.institutionId) ∧
    (dto.facultyId.toOption.isSome ∨ dto.departmentId.toOption.isSome →
      ∃ r ∈ u.departments.find (dto.departmentId.getD s.departmentId),
        r.facultyId = dto.facultyId.getD s.facultyId) ∧
    (dto.departmentId.toOption.isSome ∨ dto.currentAcademicLevelId.toOption.isSome →
      ∀ l ∈ dto.currentAcademicLevelId.onto s.currentAcademicLevelId, ∃ r ∈ u.levels.find l,
        r.departmentId = dto.departmentId.getD s.departmentId))
    ⟨fun ⟨faculty, department, level⟩ => ⟨faculty, department, level⟩,
      fun ⟨faculty, department, level⟩ => ⟨faculty, department, level⟩⟩

theorem Field.getD_of_none {α : Type} {f : Field α} {old : α} (h : ¬f.toOption.isSome) : f.getD old = old := by
  cases f with
  | value => exact absurd rfl h
  | absent => rfl
  | null => rfl

theorem Field.onto_mem {α : Type} {f : Field α} {old : Option α} {a : α} (h : ¬f.toOption.isSome)
    (mem : a ∈ f.onto old) : a ∈ old := by
  cases f with
  | value => exact absurd rfl h
  | absent => exact mem
  | null => cases mem

theorem Field.getD_of_mem {α : Type} {f : Field α} {old a : α} (h : a ∈ f.toOption) : f.getD old = a := by
  cases f with
  | value => exact Option.some.inj h
  | absent => cases h
  | null => cases h

/-- The fit is what keeps the profile placed, no less. -/
theorem UpdateStudentDto.fits_iff {dto : UpdateStudentDto} {u : Directory} {s : StudentProfile} (placed : s.Placed u) :
    dto.Fits u s ↔ (dto.apply s).Placed u := by
  constructor
  · rintro ⟨faculty, department, level⟩
    refine ⟨?_, ?_, ?_⟩
    · show ∃ f ∈ u.faculties.find (dto.facultyId.getD s.facultyId), f.institutionId = s.institutionId
      by_cases gave : dto.facultyId.toOption.isSome
      · obtain ⟨f, hf⟩ := Option.isSome_iff_exists.1 gave
        rw [Field.getD_of_mem hf]
        exact faculty f hf
      · rw [Field.getD_of_none gave]
        exact placed.faculty
    · by_cases gave : dto.facultyId.toOption.isSome ∨ dto.departmentId.toOption.isSome
      · exact department gave
      · rw [not_or] at gave
        show ∃ p ∈ u.departments.find (dto.departmentId.getD s.departmentId), p.facultyId = dto.facultyId.getD s.facultyId
        rw [Field.getD_of_none gave.1, Field.getD_of_none gave.2]
        exact placed.department
    · by_cases gave : dto.departmentId.toOption.isSome ∨ dto.currentAcademicLevelId.toOption.isSome
      · exact level gave
      · rw [not_or] at gave
        intro l mem
        show ∃ r ∈ u.levels.find l, r.departmentId = dto.departmentId.getD s.departmentId
        rw [Field.getD_of_none gave.1]
        exact placed.level l (Field.onto_mem gave.2 mem)
  · rintro ⟨faculty, department, level⟩
    refine ⟨fun f hf => ?_, fun _ => department, fun _ => level⟩
    have faculty : ∃ r ∈ u.faculties.find (dto.facultyId.getD s.facultyId), r.institutionId = s.institutionId := faculty
    rwa [Field.getD_of_mem hf] at faculty

namespace StudentOp

/-- The record of a promotion is for a student of the institution, and that of an onboarding for the user's profile. -/
def FiledFor (d : AcademicsDb) (r : StudentAcademicRecord) : StudentOp → Prop
  | promoteInstitution op => ∃ s ∈ d.campus.students.find r.studentId, s.institutionId = op.institutionId
  | completeOnboarding _ userId _ new | updateInstitutionInfo userId _ new =>
    r.studentId = ((d.campus.studentOf userId).map StudentProfile.id).getD new.student
  | _ => True

/-- What a statement of the campus writes fits: a promotion's level is of the department of the student. -/
def FitsCampus (op : StudentOp) (d : AcademicsDb) : CampusStmt → Prop
  | .updateStudent id patch => ∃ s ∈ d.campus.students.find id, ∀ l ∈ patch.currentAcademicLevelId,
      ∃ r ∈ d.directory.levels.find l, r.departmentId = s.departmentId
  | .upsertRecord r => op.FiledFor d r
  | _ => True

/-- What the statement of the call writes fits the units, sessions and students that are there. -/
def Fits (op : StudentOp) (d : AcademicsDb) : AcademicsStmt → Prop
  | .campus w => op.FitsCampus d w
  | .updateStudent id patch => ∀ s ∈ d.campus.students.find id, patch.Fits d.directory s
  | .createRecord r => (∃ l ∈ d.directory.levels.find r.academicLevelId, l.departmentId = r.departmentId) ∧
      ∀ s ∈ d.campus.students.find r.studentId, SessionOf d r.sessionId s.institutionId
  | .upsertStudent s => ∀ old ∈ d.campus.studentOf s.userId, ∀ r ∈ d.campus.records, r.studentId = old.id →
      SessionOf d r.sessionId s.institutionId
  | _ => True

end StudentOp

/-- The institution and the department are the same. -/
def SamePlace (s t : StudentProfile) : Prop := t.institutionId = s.institutionId ∧ t.departmentId = s.departmentId

theorem samePlace_refl (s : StudentProfile) : SamePlace s s := ⟨rfl, rfl⟩

section Promotion

variable {nextId : String} {op : PromoteInstitutionOp} {d : AcademicsDb}

theorem Follows.students {levels : Table AcademicLevel String AcademicLevel.id} {w : CampusStmt}
    (h : Follows levels nextId w) (d : CampusDb) : d.students.Grows SamePlace (w.apply d).students := by
  cases w with
  | updateStudent id patch =>
    exact Table.grows_modify (f := patch.apply) (fun _ => rfl) samePlace_refl fun _ _ => ⟨rfl, rfl⟩
  | upsertRecord r => exact .refl samePlace_refl _
  | _ =>
    rw [(CampusStmt.spares rfl d).1]
    exact .refl samePlace_refl _

/-- What a statement of the promotion writes still fits after another one. -/
theorem fits_later {w w' : CampusStmt} (fits : (StudentOp.promoteInstitution op).Fits d (.campus w))
    (follows : Follows d.campus.levels nextId w') :
    (StudentOp.promoteInstitution op).Fits ((AcademicsStmt.campus w').apply d) (.campus w) := by
  have grows := follows.students d.campus
  have stays : Stays d ((AcademicsStmt.campus w').apply d) := AcademicsStmt.stays (w := .campus w') rfl d
  cases w with
  | updateStudent id patch =>
    obtain ⟨s, found, level⟩ := fits
    obtain ⟨s', found', same⟩ := grows id s found
    refine ⟨s', found', ?_⟩
    rw [stays.directory, same.2]
    exact level
  | upsertRecord r =>
    obtain ⟨s, found, own⟩ := fits
    obtain ⟨s', found', same⟩ := grows r.studentId s found
    exact ⟨s', found', same.1.trans own⟩
  | _ => trivial

theorem placed_follows {F : List CampusStmt} (h : d.Placed) (session : SessionOf d nextId op.institutionId)
    (follows : ∀ w ∈ F, Follows d.campus.levels nextId w)
    (fits : ∀ w ∈ F, (StudentOp.promoteInstitution op).Fits d (.campus w)) :
    (Database.applyAll (F.map AcademicsStmt.campus) d).Placed := by
  induction F generalizing d with
  | nil => exact h
  | cons w F ih =>
    have follow := follows w List.mem_cons_self
    have fit := fits w List.mem_cons_self
    have stays : Stays d ((AcademicsStmt.campus w).apply d) := AcademicsStmt.stays (w := .campus w) rfl d
    have refers : (AcademicsStmt.campus w).Refers d := by
      cases w with
      | updateStudent id patch =>
        obtain ⟨s, found, level⟩ := fit
        intro t ht
        obtain rfl : s = t := Option.some.inj (found.symm.trans ht)
        obtain ⟨faculty, department, old⟩ := h.students s (Table.find_mem found)
        refine ⟨faculty, department, fun l mem => ?_⟩
        obtain given | kept := Option.or_eq_some_iff.1 mem
        · exact level l given
        · exact old l kept.2
      | upsertRecord r =>
        obtain ⟨s, found, own⟩ := fit
        obtain ⟨ofNext, level⟩ := follow
        refine ⟨level, s, found, ?_⟩
        rw [ofNext, own]
        exact session
      | _ => trivial
    refine ih (h.apply rfl refers) (session.stays stays) (fun w' mem => ?_) fun w' mem => ?_
    · exact stays.campus.levels.symm ▸ follows w' (List.mem_cons_of_mem _ mem)
    · exact fits_later (fits w' (List.mem_cons_of_mem _ mem)) follow

/-- The next session is there once it is opened. -/
theorem sessionOf_opening {institutionId : String} {opening : CampusStmt}
    (opens : Opens institutionId (fun id => ∃ t ∈ d.campus.sessions.find id, t.institutionId = institutionId) opening nextId)
    (valid : AcademicsStmt.check (.campus opening) d = none) :
    SessionOf ((AcademicsStmt.campus opening).apply d) nextId institutionId := by
  cases opens with
  | resumes known =>
    exact SessionOf.stays known (AcademicsStmt.stays (w := .campus (.resumeSession nextId)) rfl d)
  | creates own whole scope current =>
    rename_i next
    have free : d.campus.sessions.find next.id = none := by
      by_contra taken
      have refused : CampusStmt.check (.createSession next) d.campus = some .uniqueConstraint :=
        if_pos (.inl (Option.isSome_iff_ne_none.2 taken))
      rw [show CampusStmt.check (.createSession next) d.campus = none from valid] at refused
      cases refused
    refine ⟨next, ?_, own⟩
    exact (Table.find_insert free next.id).trans (if_pos rfl)

theorem placed_promotion {F : List CampusStmt} (h : d.Placed)
    (tx : PromotionTx d.campus.levels op.institutionId
      (fun id => ∃ t ∈ d.campus.sessions.find id, t.institutionId = op.institutionId) F)
    (valid : Database.violation (F.map AcademicsStmt.campus) d = none)
    (fits : ∀ w ∈ F, (StudentOp.promoteInstitution op).Fits d (.campus w)) :
    (Database.applyAll (F.map AcademicsStmt.campus) d).Placed := by
  obtain ⟨opens, follows⟩ := tx
  rename_i currentId nextId opening rest
  have valid := (Database.violation_cons.1 (Database.violation_cons.1 valid).2).1
  have claimed : Stays d ((AcademicsStmt.campus (.claimSession currentId op.institutionId)).apply d) :=
    AcademicsStmt.stays (w := .campus _) rfl d
  have session := sessionOf_opening (opens.mono fun _ known => SessionOf.stays known claimed) valid
  -- the sessions are written first, and leave students and records alone
  have before (w : CampusStmt) (mem : w ∈ [.claimSession currentId op.institutionId, opening,
      .retireSessions op.institutionId nextId]) : (AcademicsStmt.campus w).sparesStudents = true := by
    simp only [List.mem_cons, List.not_mem_nil, or_false] at mem
    obtain rfl | rfl | rfl := mem
    · rfl
    · cases opens <;> rfl
    · rfl
  have sessions : (Database.applyAll ([CampusStmt.claimSession currentId op.institutionId, opening,
      .retireSessions op.institutionId nextId].map AcademicsStmt.campus) d).Placed := by
    refine h.keeps fun w mem => ?_
    obtain ⟨w', mem', rfl⟩ := List.mem_map.1 mem
    exact ⟨rfl, before w' mem'⟩
  show (Database.applyAll (rest.map AcademicsStmt.campus) (Database.applyAll ([CampusStmt.claimSession currentId
    op.institutionId, opening, .retireSessions op.institutionId nextId].map AcademicsStmt.campus) d)).Placed
  refine placed_follows sessions (session.stays (AcademicsStmt.stays (w := .campus _) rfl _)) ?_ fun w mem => ?_
  · cases opens <;> exact follows
  · have fit := fits w (List.mem_cons_of_mem _ (List.mem_cons_of_mem _ (List.mem_cons_of_mem _ mem)))
    cases opens <;> cases w <;> exact fit

end Promotion

section Commits

variable {d : AcademicsDb}

/-- The new profile of a user gets an identifier that is free. -/
theorem free_of_upsert {s : StudentProfile} (valid : AcademicsStmt.check (.upsertStudent s) d = none)
    (none : d.campus.studentOf s.userId = none) : d.campus.students.find s.id = Option.none := by
  by_contra taken
  have refused : CampusStmt.unique ((d.campus.students.find s.id).isSome ∧ (d.campus.studentOf s.userId).isNone) =
      some .uniqueConstraint := if_pos ⟨Option.isSome_iff_ne_none.2 taken, by rw [none]; rfl⟩
  have passes := (Option.or_eq_none_iff.1 valid).1
  rw [show CampusStmt.unique ((d.campus.students.find s.id).isSome ∧ (d.campus.studentOf s.userId).isNone) =
    Option.none from passes] at refused
  cases refused

theorem spares_joins {w : AcademicsStmt} (h : w.joins = true) : w.movesSession = false ∧ w.sparesStudents = true := by
  cases w with
  | leaveAcademic | joinAsStudent | approveJoinRequest => exact ⟨rfl, rfl⟩
  | _ => cases h

/-- The profile of the user and the record, when the record is of that profile. -/
theorem placed_enrolment {userId newId : String} {p : Placement} {F : List AcademicsStmt}
    (h : d.Placed) (enrols : Enrols d userId newId p F) (valid : Database.violation F d = none)
    (others : ∀ s, .upsertStudent s ∈ F → ∀ old ∈ d.campus.studentOf s.userId, ∀ r ∈ d.campus.records,
      r.studentId = old.id → SessionOf d r.sessionId s.institutionId)
    (own : ∀ r, .campus (.upsertRecord r) ∈ F →
      r.studentId = ((d.campus.studentOf userId).map StudentProfile.id).getD newId) :
    (Database.applyAll F d).Placed := by
  obtain ⟨belongs, session⟩ := enrols
  rename_i now studentId sessionId
  have placed : (p.student userId newId now).Placed d.directory := by
    refine ⟨belongs.faculty, belongs.department, fun l mem => ?_⟩
    obtain rfl : p.academicLevelId = l := Option.some.inj mem
    exact belongs.level
  have stays : Stays d ((AcademicsStmt.upsertStudent (p.student userId newId now)).apply d) := AcademicsStmt.stays rfl d
  have enrolled := h.apply (w := .upsertStudent (p.student userId newId now)) rfl
    ⟨placed, others _ List.mem_cons_self⟩
  have same : studentId = ((d.campus.studentOf userId).map StudentProfile.id).getD newId :=
    own _ (List.mem_cons_of_mem _ List.mem_cons_self)
  have there : ∃ s ∈ ((AcademicsStmt.upsertStudent (p.student userId newId now)).apply d).campus.students.find studentId,
      s.institutionId = p.institutionId := by
    cases found : d.campus.studentOf userId with
    | none =>
      have free : d.campus.students.find newId = none := free_of_upsert (Database.violation_cons.1 valid).1 found
      have written : (AcademicsStmt.upsertStudent (p.student userId newId now)).apply d =
          { d with campus.students := d.campus.students.insert (p.student userId newId now) } := by
        simp only [AcademicsStmt.apply, Placement.student, found]
      rw [written, same, found]
      exact ⟨p.student userId newId now, (Table.find_insert free newId).trans (if_pos rfl), rfl⟩
    | some old =>
      have written : (AcademicsStmt.upsertStudent (p.student userId newId now)).apply d = { d with
          campus.students := d.campus.students.modify old.id (p.student userId newId now).place fun _ => rfl } := by
        simp only [AcademicsStmt.apply, Placement.student, found]
      rw [written, same, found]
      have row : d.campus.students.find old.id = some old := Table.find_of_mem (List.mem_of_find?_eq_some found)
      refine ⟨(p.student userId newId now).place old, ?_, rfl⟩
      exact (Table.find_modify_self _ _ (p.student userId newId now).place fun _ => rfl).trans
        (congrArg (Option.map (p.student userId newId now).place) row)
  obtain ⟨s, found, atInstitution⟩ := there
  refine enrolled.apply (w := .campus (.upsertRecord (p.record studentId sessionId))) rfl ⟨?_, s, found, ?_⟩
  · rw [stays.directory]
    exact belongs.level
  · rw [atInstitution]
    exact session.stays stays

theorem present_of_foreign {missing : Prop} [Decidable missing] (passes : AcademicsStmt.foreign missing = none) :
    ¬missing := by
  intro holds
  rw [AcademicsStmt.foreign, if_pos holds] at passes
  cases passes

/-- What a call commits keeps the students placed, if what it writes fits. -/
theorem placed_commit {op : StudentOp} {F : List AcademicsStmt} (h : d.Placed) (named : d.directory.Named)
    (commits : StudentOp.Commits d op F) (valid : Database.violation F d = none) (fits : ∀ w ∈ F, op.Fits d w) :
    (Database.applyAll F d).Placed := by
  cases commits with
  | nothing => exact h
  | logs => exact h.keeps fun w mem => List.mem_singleton.1 mem ▸ ⟨rfl, rfl⟩
  | creates belongs =>
    rename_i dto newId now
    refine h.apply (w := .createStudent (dto.student newId now)) rfl ⟨belongs.faculty, belongs.department, fun l mem => ?_⟩
    refine belongs.level l (given_eq_some.2 ⟨mem, ?_⟩)
    rintro rfl
    have present := present_of_foreign (Option.or_eq_none_iff.1 (Database.violation_cons.1 valid).1).2
    exact present (.inr (.inr (.inr (.inr ⟨"", mem, named.levels⟩))))
  | updates =>
    rename_i id dto
    refine h.apply (w := .updateStudent id dto) rfl fun s found => ?_
    exact (UpdateStudentDto.fits_iff (h.students s (Table.find_mem found))).1 (fits _ List.mem_cons_self s found)
  | advances =>
    rename_i studentId dto
    refine h.apply (w := .updateStudent studentId dto.levelPatch) rfl fun s found => ?_
    exact (UpdateStudentDto.fits_iff (h.students s (Table.find_mem found))).1 (fits _ List.mem_cons_self s found)
  | records =>
    rename_i studentId dto
    obtain ⟨level, session⟩ := fits _ List.mem_cons_self
    have present := present_of_foreign (Option.or_eq_none_iff.1 (Database.violation_cons.1 valid).1).2
    cases found : d.campus.students.find studentId with
    | none => exact absurd (.inl found) present
    | some s => exact h.apply (w := .createRecord (dto.record studentId)) rfl ⟨level, s, found, session s found⟩
  | finishes unpicked =>
    refine h.keeps fun w mem => ?_
    simp only [List.mem_cons, List.not_mem_nil, or_false] at mem
    obtain rfl | rfl | rfl := mem
    all_goals exact ⟨rfl, rfl⟩
  | placesByNames matric enrols joins =>
    rename_i fold userId body new now p enrolment joined
    obtain ⟨-, valid⟩ := Database.violation_cons.1 valid
    have named := h.keeps (F := [.updateUserProfile userId (names body.firstName body.lastName)])
      fun w mem => List.mem_singleton.1 mem ▸ ⟨rfl, rfl⟩
    rw [Database.applyAll_cons, Database.applyAll_append]
    refine AcademicsDb.Placed.keeps (placed_enrolment named (enrols.later (AcademicsStmt.stays rfl d))
      (Database.violation_append.1 valid).1 (fun s mem => ?_) fun r mem => ?_) fun w mem => ?_
    · exact fits (.upsertStudent s) (List.mem_cons_of_mem _ (List.mem_append_left _ mem))
    · exact fits (.campus (.upsertRecord r)) (List.mem_cons_of_mem _ (List.mem_append_left _ mem))
    · simp only [List.mem_append, List.mem_cons, List.not_mem_nil, or_false] at mem
      obtain mem | rfl | rfl := mem
      · exact spares_joins (joins w mem)
      · exact ⟨rfl, rfl⟩
      · exact ⟨rfl, rfl⟩
  | placesByIds enrols joins =>
    rename_i userId dto new now enrolment joined
    rw [Database.applyAll_append]
    refine AcademicsDb.Placed.keeps (placed_enrolment h enrols (Database.violation_append.1 valid).1
      (fun s mem => ?_) fun r mem => ?_) fun w mem => ?_
    · exact fits (.upsertStudent s) (List.mem_append_left _ mem)
    · exact fits (.campus (.upsertRecord r)) (List.mem_append_left _ mem)
    · simp only [List.mem_append, List.mem_cons, List.not_mem_nil, or_false] at mem
      obtain rfl | mem | rfl := mem
      · exact ⟨rfl, rfl⟩
      · exact spares_joins (joins w mem)
      · exact ⟨rfl, rfl⟩
  | renames => exact h.keeps fun w mem => List.mem_singleton.1 mem ▸ ⟨rfl, rfl⟩
  | steps => exact h.apply (w := .stepStudent _ _) rfl trivial
  | setsBack => exact h.keeps fun w mem => List.mem_singleton.1 mem ▸ ⟨rfl, rfl⟩
  | promotes tx => exact placed_promotion h tx valid fun w mem => fits _ (List.mem_map_of_mem mem)

end Commits

/-! ## The runs -/

/-- What a step commits fits the units, sessions and students that are there. -/
def StudentsFit (ops : List StudentOp) (c : AcademicsSystem) : Effect AcademicsStmt CampusCall → Prop
  | .commit i _ F => ∀ op ∈ ops[i]?, ∀ w ∈ F, op.Fits c.db w
  | _ => True

instance (d : AcademicsDb) (sessionId institutionId : String) : Decidable (SessionOf d sessionId institutionId) :=
  inferInstanceAs (Decidable (∃ t ∈ d.campus.sessions.find sessionId, t.institutionId = institutionId))

instance (op : StudentOp) (d : AcademicsDb) (r : StudentAcademicRecord) : Decidable (op.FiledFor d r) :=
  match op with
  | .promoteInstitution op =>
    inferInstanceAs (Decidable (∃ s ∈ d.campus.students.find r.studentId, s.institutionId = op.institutionId))
  | .completeOnboarding _ userId _ new | .updateInstitutionInfo userId _ new =>
    inferInstanceAs (Decidable (r.studentId = ((d.campus.studentOf userId).map StudentProfile.id).getD new.student))
  | .createStudent .. | .updateStudent .. | .addAcademicRecord .. | .updatePersonalInfo .. | .getOnboardingStatus _ =>
    .isTrue trivial

instance (op : StudentOp) (d : AcademicsDb) (w : CampusStmt) : Decidable (op.FitsCampus d w) :=
  match w with
  | .updateStudent id patch =>
    inferInstanceAs (Decidable (∃ s ∈ d.campus.students.find id, ∀ l ∈ patch.currentAcademicLevelId,
      ∃ r ∈ d.directory.levels.find l, r.departmentId = s.departmentId))
  | .upsertRecord r => inferInstanceAs (Decidable (op.FiledFor d r))
  | .updateOrganization .. | .deleteOrganization _ | .createMembership .. | .updateMembership .. | .upsertJoinRequest _
  | .updateJoinRequest .. | .deleteJoinRequest _ | .updateApprovalRequest .. | .updateAdmins .. | .createActivityLog
  | .logInstitutionPromotion _ | .claimSession .. | .resumeSession _ | .createSession _ | .retireSessions ..
  | .upsertOrganization _ | .createPromotion _ | .leaveMemberships .. | .upsertMembership _ => .isTrue trivial

instance (op : StudentOp) (d : AcademicsDb) (w : AcademicsStmt) : Decidable (op.Fits d w) :=
  match w with
  | .campus w => inferInstanceAs (Decidable (op.FitsCampus d w))
  | .updateStudent id patch => inferInstanceAs (Decidable (∀ s ∈ d.campus.students.find id, patch.Fits d.directory s))
  | .createRecord r =>
    inferInstanceAs (Decidable ((∃ l ∈ d.directory.levels.find r.academicLevelId, l.departmentId = r.departmentId) ∧
      ∀ s ∈ d.campus.students.find r.studentId, SessionOf d r.sessionId s.institutionId))
  | .upsertStudent s =>
    inferInstanceAs (Decidable (∀ old ∈ d.campus.studentOf s.userId, ∀ r ∈ d.campus.records, r.studentId = old.id →
      SessionOf d r.sessionId s.institutionId))
  | .clearCurrent .. | .createSession _ | .updateSession .. | .createStudent _ | .stepStudent .. | .updateUserProfile ..
  | .leaveAcademic _ | .joinAsStudent _ | .approveJoinRequest _ | .createFaculty _ | .createDepartment _
  | .createLevel _ | .createOrganization _ => .isTrue trivial

instance (ops : List StudentOp) (c : AcademicsSystem) (eff : Effect AcademicsStmt CampusCall) :
    Decidable (StudentsFit ops c eff) :=
  match eff with
  | .commit i _ F => inferInstanceAs (Decidable (∀ op ∈ ops[i]?, ∀ w ∈ F, op.Fits c.db w))
  | .internal | .fault _ | .called .. | .unsent .. => .isTrue trivial

/-- **Where students are placed**: in every interleaving of calls in which an update gives units that fit those
it keeps, a record the level of its department and a session of the student's institution, and a placement
leaves no record behind, every profile and every record stays consistent. -/
theorem students_placed {db : AcademicsDb} {x : Surroundings} {ops : List StudentOp} {c : AcademicsSystem}
    (run : Reaches (StudentsFit ops) (Config.start db x (ops.map StudentOp.program)) c)
    (named : db.directory.Named) (placed : db.Placed) : c.db.Placed := by
  refine (run.induct_of_calls guarded_stays (Ψ := fun op d => StudentOp.Commits d op) StudentOp.upholds_program
    (fun d _ => d.directory = db.directory ∧ d.Placed) ⟨rfl, placed⟩ ?_).2
  rintro c i nested F op hop commits valid fit ⟨same, placed⟩
  refine ⟨commits.stays, commits.stays.directory.trans same, ?_⟩
  exact placed_commit placed (same ▸ named) commits valid (fit op hop)

/-- The college with its faculty and department, a faculty of another institution, and a new user. -/
def collegeUnits : AcademicsDb where
  campus.users := ["ada", "bola", "cid"]
  campus.institutions := ⟨[⟨"inst", "College", true, false⟩, ⟨"poly", "Technical College", true, false⟩], by decide⟩
  campus.sessions := college.sessions
  campus.levels := college.levels
  campus.students := college.students
  campus.admins := college.admins
  faculties := ⟨[⟨"fac", "inst", "Science", "SCI", true⟩, ⟨"eng", "poly", "Engineering", "ENG", true⟩], by decide⟩
  departments := ⟨[⟨"dept", "fac", "Mathematics", "MTH", true⟩], by decide⟩
  userProfiles := ⟨[{ userId := "ada", firstName := "Ada", lastName := "A" },
    { userId := "bola", firstName := "Bola", lastName := "B" }, { userId := "cid", firstName := "", lastName := "" }],
    by decide⟩

theorem named_collegeUnits : collegeUnits.directory.Named := ⟨by decide, by decide, by decide⟩

instance (s : StudentProfile) (u : Directory) : Decidable (s.Placed u) :=
  decidable_of_iff ((∃ f ∈ u.faculties.find s.facultyId, f.institutionId = s.institutionId) ∧
    (∃ p ∈ u.departments.find s.departmentId, p.facultyId = s.facultyId) ∧
    ∀ l ∈ s.currentAcademicLevelId, ∃ r ∈ u.levels.find l, r.departmentId = s.departmentId)
    ⟨fun ⟨faculty, department, level⟩ => ⟨faculty, department, level⟩,
      fun ⟨faculty, department, level⟩ => ⟨faculty, department, level⟩⟩

theorem placed_collegeUnits : collegeUnits.Placed := ⟨by decide, fun _ mem => (List.not_mem_nil mem).elim⟩

/-- The user picks the 100 level of the department. -/
def pickDepartment (matricNumber : String) (sessionId : Option String) : OnboardingInstitutionDto where
  institutionId := "inst"
  facultyId := "fac"
  departmentId := "dept"
  levelId := "100"
  matricNumber := matricNumber
  isFresher := true
  sessionId := sessionId

/-- Identifiers made of the user and the organization. -/
def userIds (userId : String) : OnboardingIds where
  student := userId
  membership organizationId := userId ++ organizationId
  joinRequest organizationId := userId ++ organizationId

/-- A user is placed, a student gets the record of the session, and the institution is promoted. -/
def collegeYear : List StudentOp :=
  [.updateInstitutionInfo "cid" (pickDepartment "M1" none) (userIds "cid"),
    .addAcademicRecord "ada" ⟨"s1", "dept", "100", none⟩, .promoteInstitution (promoteCollege "x")]

/-- The calls are made one after the other. -/
theorem collegeYear_placed : ∃ c : AcademicsSystem,
    Reaches (StudentsFit collegeYear)
      (Config.start collegeUnits Surroundings.mk (collegeYear.map StudentOp.program)) c ∧
    c.threads.map Thread.returned = [true, true, true] ∧ c.db.Placed := by
  obtain ⟨c, run, returned⟩ := Reaches.of_replay_any (StudentsFit collegeYear)
    (Config.start collegeUnits Surroundings.mk (collegeYear.map StudentOp.program))
    (turns [(0, 31), (1, 22), (2, 46)]) (fun c : AcademicsSystem => c.threads.map Thread.returned = [true, true, true])
    (by decide +kernel)
  exact ⟨c, run, returned, students_placed run named_collegeUnits placed_collegeUnits⟩

/-- The student gets a faculty of another institution. -/
def otherFaculty : List StudentOp := [.updateStudent "ada" { facultyId := .value "eng" }]

/-- That the faculty is there is all that is checked. -/
theorem students_not_placed : collegeUnits.Placed ∧ ∃ c : AcademicsSystem,
    Reaches (fun _ _ => True) (Config.start collegeUnits Surroundings.mk (otherFaculty.map StudentOp.program)) c ∧
    c.threads.map Thread.returned = [true] ∧ ¬c.db.Placed := by
  refine ⟨placed_collegeUnits, ?_⟩
  obtain ⟨c, run, returned, astray⟩ := Reaches.of_replay_any (fun _ _ => True)
    (Config.start collegeUnits Surroundings.mk (otherFaculty.map StudentOp.program)) (turns [(0, 13)])
    (fun c : AcademicsSystem => c.threads.map Thread.returned = [true] ∧
      ¬∀ s ∈ c.db.campus.students.rows, s.Placed c.db.directory) (by decide +kernel)
  exact ⟨c, run, returned, fun placed => astray placed.students⟩

end Heightt.Campus
