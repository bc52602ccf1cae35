import Heightt.Academics.Students
import Heightt.Academics.Onboarding
import Heightt.Academics.SessionOps

/-!
# What the student calls commit

The calls that write student profiles and records leave the units alone, and the
institution of every session, so what a call has read of them still holds when it
commits. `StudentOp.Commits` names every transaction that a call can commit, with what
is known of it then.
-/

namespace Heightt.Campus

open Store ReadCommitted Prog

def SameInstitution (s t : AcademicSession) : Prop := t.institutionId = s.institutionId

theorem sameInstitution_refl (s : AcademicSession) : SameInstitution s s := rfl

/-- The institutions and levels are the same, and every session is still of its institution. -/
structure CampusDb.Stays (s d : CampusDb) : Prop where
  institutions : d.institutions = s.institutions
  levels : d.levels = s.levels
  sessions : s.sessions.Grows SameInstitution d.sessions

namespace CampusDb.Stays

theorem refl (d : CampusDb) : d.Stays d := ⟨rfl, rfl, .refl sameInstitution_refl _⟩

theorem trans {a b c : CampusDb} (h : a.Stays b) (h' : b.Stays c) : a.Stays c :=
  ⟨h'.institutions.trans h.institutions, h'.levels.trans h.levels, h.sessions.trans (fun h h' => Eq.trans h' h) h'.sessions⟩

end CampusDb.Stays

theorem guarded_campus : Guarded (C := CampusCall) (R := CampusCall.Reply) CampusDb.Stays fun _ => False :=
  ⟨.refl, .trans, False.elim⟩

theorem CampusStmt.stays (w : CampusStmt) (d : CampusDb) : d.Stays (w.apply d) := by
  obtain ⟨institutions, levels⟩ := w.apply_directory d
  refine ⟨institutions, levels, ?_⟩
  cases w with
  | claimSession id institutionId =>
    exact Table.grows_modify (f := AcademicSession.complete) (fun _ => rfl) sameInstitution_refl fun _ _ => rfl
  | resumeSession id =>
    exact Table.grows_modify (f := AcademicSession.resume) (fun _ => rfl) sameInstitution_refl fun _ _ => rfl
  | createSession s => exact Table.grows_insert sameInstitution_refl _ s
  | retireSessions institutionId other =>
    refine Table.grows_mapRows (AcademicSession.retire_id institutionId other) fun r _ => ?_
    unfold AcademicSession.retire
    split <;> rfl
  | upsertOrganization o => exact (leavesSessions_upsertOrganization o d) ▸ .refl sameInstitution_refl _
  | upsertMembership m => exact (leavesSessions_upsertMembership m d) ▸ .refl sameInstitution_refl _
  | upsertJoinRequest r =>
    simp only [apply]
    split
    all_goals exact .refl sameInstitution_refl _
  | _ => exact .refl sameInstitution_refl _

theorem CampusStmt.stays_applyAll (F : List CampusStmt) (d : CampusDb) : d.Stays (Database.applyAll F d) := by
  induction F generalizing d with
  | nil => exact .refl d
  | cons w F ih => exact (w.stays d).trans (ih (w.apply d))

/-- What every call leaves alone. -/
structure Stays (s d : AcademicsDb) : Prop where
  campus : s.campus.Stays d.campus
  faculties : d.faculties = s.faculties
  departments : d.departments = s.departments

namespace Stays

theorem refl (d : AcademicsDb) : Stays d d := ⟨.refl _, rfl, rfl⟩

theorem trans {a b c : AcademicsDb} (h : Stays a b) (h' : Stays b c) : Stays a c :=
  ⟨h.campus.trans h'.campus, h'.faculties.trans h.faculties, h'.departments.trans h.departments⟩

theorem directory {s d : AcademicsDb} (h : Stays s d) : d.directory = s.directory := by
  rw [AcademicsDb.directory, AcademicsDb.directory, h.campus.institutions, h.campus.levels, h.faculties, h.departments]

end Stays

theorem guarded_stays : Guarded (C := CampusCall) (R := CampusCall.Reply) Stays fun _ => False :=
  ⟨.refl, .trans, False.elim⟩

/-- The statement may change a unit or the institution of a session. -/
def AcademicsStmt.movesSession : AcademicsStmt → Bool
  | updateSession .. | createFaculty _ | createDepartment _ | createLevel _ => true
  | _ => false

theorem AcademicsStmt.stays {w : AcademicsStmt} (h : w.movesSession = false) (d : AcademicsDb) :
    Stays d (w.apply d) := by
  cases w with
  | campus w => exact ⟨w.stays d.campus, rfl, rfl⟩
  | clearCurrent w s =>
    refine ⟨⟨rfl, rfl, Table.grows_mapRows w.clear_id fun r _ => ?_⟩, rfl, rfl⟩
    unfold CurrentWhere.clear
    split <;> rfl
  | createSession s => exact ⟨⟨rfl, rfl, Table.grows_insert sameInstitution_refl _ s⟩, rfl, rfl⟩
  | updateSession _ _ => cases h
  | createFaculty _ => cases h
  | createDepartment _ => cases h
  | createLevel _ => cases h
  | upsertStudent _ | stepStudent _ _ | joinAsStudent _ | approveJoinRequest _ =>
    simp only [apply]
    split
    all_goals exact ⟨⟨rfl, rfl, .refl sameInstitution_refl _⟩, rfl, rfl⟩
  | _ => exact ⟨⟨rfl, rfl, .refl sameInstitution_refl _⟩, rfl, rfl⟩

theorem stays_applyAll {F : List AcademicsStmt} (h : ∀ w ∈ F, w.movesSession = false) (d : AcademicsDb) :
    Stays d (Database.applyAll F d) := by
  induction F generalizing d with
  | nil => exact .refl d
  | cons w F ih =>
    exact (w.stays (h w List.mem_cons_self) d).trans (ih (fun w mem => h w (List.mem_cons_of_mem _ mem)) (w.apply d))

/-- The session is there and of the institution. -/
def SessionOf (d : AcademicsDb) (sessionId institutionId : String) : Prop :=
  ∃ t ∈ d.campus.sessions.find sessionId, t.institutionId = institutionId

theorem SessionOf.stays {s d : AcademicsDb} {sessionId institutionId : String} (h : SessionOf s sessionId institutionId)
    (later : Stays s d) : SessionOf d sessionId institutionId := by
  obtain ⟨t, found, own⟩ := h
  obtain ⟨t', found', same⟩ := later.campus.sessions sessionId t found
  exact ⟨t', found', same.trans own⟩

/-! ## The calls -/

/-- A call that writes the profile of a student, a record, or the onboarding of a user. -/
inductive StudentOp where
  | createStudent (dto : CreateStudentDto) (newId : String)
  | updateStudent (id : String) (dto : UpdateStudentDto)
  | addAcademicRecord (studentId : String) (dto : AddAcademicRecordDto)
  | completeOnboarding (fold : String → String) (userId : String) (body : CompleteOnboardingDto) (new : OnboardingIds)
  | updateInstitutionInfo (userId : String) (dto : OnboardingInstitutionDto) (new : OnboardingIds)
  | updatePersonalInfo (userId : String) (dto : OnboardingPersonalInfoDto)
  | getOnboardingStatus (userId : String)
  | promoteInstitution (op : PromoteInstitutionOp)

/-- Each unit of the placement is of the next one. -/
structure Placement.Belongs (p : Placement) (u : Directory) : Prop where
  institution : (u.institutions.find p.institutionId).isSome
  faculty : ∃ r ∈ u.faculties.find p.facultyId, r.institutionId = p.institutionId
  department : ∃ r ∈ u.departments.find p.departmentId, r.facultyId = p.facultyId
  level : ∃ r ∈ u.levels.find p.academicLevelId, r.departmentId = p.departmentId

/-- Each unit that the request gives is of the next one. -/
structure CreateStudentDto.Belongs (dto : CreateStudentDto) (u : Directory) : Prop where
  faculty : ∃ r ∈ u.faculties.find dto.facultyId, r.institutionId = dto.institutionId
  department : ∃ r ∈ u.departments.find dto.departmentId, r.facultyId = dto.facultyId
  level : ∀ l ∈ given dto.currentAcademicLevelId, ∃ r ∈ u.levels.find l, r.departmentId = dto.departmentId

/-- The statements that place a user: the profile, and the record of a session of the institution. -/
inductive Enrols (d : AcademicsDb) (userId newId : String) (p : Placement) : List AcademicsStmt → Prop where
  | mk {now : Nat} {studentId sessionId : String} (belongs : p.Belongs d.directory)
      (session : SessionOf d sessionId p.institutionId) :
    Enrols d userId newId p
      [.upsertStudent (p.student userId newId now), .campus (.upsertRecord (p.record studentId sessionId))]

theorem Enrols.belongs {d : AcademicsDb} {userId newId : String} {p : Placement} {F : List AcademicsStmt}
    (h : Enrols d userId newId p F) : p.Belongs d.directory := by
  obtain ⟨belongs, -⟩ := h
  exact belongs

theorem Enrols.later {d d' : AcademicsDb} {userId newId : String} {p : Placement} {F : List AcademicsStmt}
    (h : Enrols d userId newId p F) (later : Stays d d') : Enrols d' userId newId p F := by
  obtain ⟨belongs, session⟩ := h
  exact .mk (later.directory.symm ▸ belongs) (session.stays later)

/-- The statement leaves or joins an organization. -/
def AcademicsStmt.joins : AcademicsStmt → Bool
  | leaveAcademic _ | joinAsStudent _ | approveJoinRequest _ => true
  | _ => false

namespace StudentOp

open OnboardingService (names completed setBack)

def program : StudentOp → AcademicsAction Unit
  | createStudent dto newId => StudentsService.createStudent dto newId
  | updateStudent id dto => StudentsService.updateStudent id dto
  | addAcademicRecord studentId dto => StudentsService.addAcademicRecord studentId dto
  | completeOnboarding fold userId body new => OnboardingService.completeOnboarding fold userId body new
  | updateInstitutionInfo userId dto new => OnboardingService.updateInstitutionInfo userId dto new
  | updatePersonalInfo userId dto => OnboardingService.updatePersonalInfo userId dto
  | getOnboardingStatus userId => do
    let _ ← OnboardingService.getOnboardingStatus userId
    pure ()
  | promoteInstitution op => onCampus op.program

/-- A transaction that the call commits in state `d`. -/
inductive Commits (d : AcademicsDb) : StudentOp → List AcademicsStmt → Prop where
  | nothing (op : StudentOp) : Commits d op []
  | logs (op : StudentOp) : Commits d op [.campus .createActivityLog]
  | creates {dto : CreateStudentDto} {newId : String} {now : Nat} (belongs : dto.Belongs d.directory) :
    Commits d (createStudent dto newId) [.createStudent (dto.student newId now)]
  | updates {id : String} {dto : UpdateStudentDto} : Commits d (updateStudent id dto) [.updateStudent id dto]
  | records {studentId : String} {dto : AddAcademicRecordDto} :
    Commits d (addAcademicRecord studentId dto) [.createRecord (dto.record studentId)]
  | advances {studentId : String} {dto : AddAcademicRecordDto} :
    Commits d (addAcademicRecord studentId dto) [.updateStudent studentId dto.levelPatch]
  | finishes {fold : String → String} {userId : String} {body : CompleteOnboardingDto} {new : OnboardingIds}
      {now : Nat} (unpicked : body.picked = none) :
    Commits d (completeOnboarding fold userId body new)
      [.updateUserProfile userId (names body.firstName body.lastName), .updateUserProfile userId (completed now),
        .campus .createActivityLog]
  | placesByNames {fold : String → String} {userId : String} {body : CompleteOnboardingDto} {new : OnboardingIds}
      {now : Nat} {p : Placement} {enrolment joined : List AcademicsStmt}
      (matric : given (body.matricNumber.or body.studentId) = some p.matricNumber)
      (enrols : Enrols d userId new.student p enrolment) (joins : ∀ w ∈ joined, w.joins = true) :
    Commits d (completeOnboarding fold userId body new)
      (.updateUserProfile userId (names body.firstName body.lastName) :: (enrolment ++ (joined ++
        [.updateUserProfile userId (completed now), .campus .createActivityLog])))
  | placesByIds {userId : String} {dto : OnboardingInstitutionDto} {new : OnboardingIds} {now : Nat}
      {enrolment joined : List AcademicsStmt} (enrols : Enrols d userId new.student dto.placement enrolment)
      (joins : ∀ w ∈ joined, w.joins = true) :
    Commits d (updateInstitutionInfo userId dto new)
      (enrolment ++ (.updateUserProfile userId (completed now) :: (joined ++ [.campus .createActivityLog])))
  | renames {userId : String} {dto : OnboardingPersonalInfoDto} :
    Commits d (updatePersonalInfo userId dto)
      [.updateUserProfile userId (names (some dto.firstName) (some dto.lastName))]
  | steps {userId : String} {dto : OnboardingPersonalInfoDto} :
    Commits d (updatePersonalInfo userId dto) [.stepStudent userId .institution]
  | setsBack {userId : String} : Commits d (getOnboardingStatus userId) [.updateUserProfile userId setBack]
  | promotes {op : PromoteInstitutionOp} {F : List CampusStmt}
      (tx : PromotionTx d.campus.levels op.institutionId
        (fun id => ∃ t ∈ d.campus.sessions.find id, t.institutionId = op.institutionId) F) :
    Commits d (promoteInstitution op) (F.map .campus)

theorem Commits.stays {d : AcademicsDb} {op : StudentOp} {F : List AcademicsStmt} (h : Commits d op F) :
    Stays d (Database.applyAll F d) := by
  have joined_stays {w : AcademicsStmt} (h : w.joins = true) : w.movesSession = false := by
    cases w with
    | leaveAcademic | joinAsStudent | approveJoinRequest => rfl
    | _ => cases h
  have enrolment_stays {d : AcademicsDb} {userId newId : String} {p : Placement} {F : List AcademicsStmt}
      (h : Enrols d userId newId p F) : ∀ w ∈ F, w.movesSession = false := by
    obtain ⟨belongs, session⟩ := h
    intro w mem
    simp only [List.mem_cons, List.not_mem_nil, or_false] at mem
    obtain rfl | rfl := mem
    all_goals rfl
  refine stays_applyAll (fun w mem => ?_) d
  cases h with
  | nothing => cases mem
  | promotes tx =>
    obtain ⟨w, -, rfl⟩ := List.mem_map.1 mem
    rfl
  | placesByNames matric enrols joins =>
    simp only [List.mem_cons, List.mem_append, List.not_mem_nil, or_false] at mem
    obtain rfl | mem | mem | rfl | rfl := mem
    · rfl
    · exact enrolment_stays enrols w mem
    · exact joined_stays (joins w mem)
    · rfl
    · rfl
  | placesByIds enrols joins =>
    simp only [List.mem_cons, List.mem_append, List.not_mem_nil, or_false] at mem
    obtain mem | rfl | mem | rfl := mem
    · exact enrolment_stays enrols w mem
    · rfl
    · exact joined_stays (joins w mem)
    · rfl
  | finishes unpicked =>
    simp only [List.mem_cons, List.not_mem_nil, or_false] at mem
    obtain rfl | rfl | rfl := mem
    all_goals rfl
  | _ =>
    rw [List.mem_singleton.1 mem]
    rfl

/-- What a call commits now it may still commit later. -/
theorem Commits.later {d d' : AcademicsDb} {op : StudentOp} {F : List AcademicsStmt} (h : Commits d op F)
    (later : Stays d d') : Commits d' op F := by
  cases h with
  | nothing => exact .nothing op
  | logs => exact .logs op
  | creates belongs => exact .creates (later.directory.symm ▸ belongs)
  | updates => exact .updates
  | records => exact .records
  | advances => exact .advances
  | finishes unpicked => exact .finishes unpicked
  | placesByNames matric enrols joins => exact .placesByNames matric (enrols.later later) joins
  | placesByIds enrols joins => exact .placesByIds (enrols.later later) joins
  | renames => exact .renames
  | steps => exact .steps
  | setsBack => exact .setsBack
  | promotes tx =>
    refine .promotes (later.campus.levels.symm ▸ tx.mono fun id known => ?_)
    exact SessionOf.stays known later

section Upholds

variable {op : StudentOp} {s : AcademicsDb}

/-- A transaction of the call. -/
theorem upholds_transaction {α : Type} {body : AcademicsAction α}
    (hbody : Prepares Stays s [] body fun d _ F => Commits d op F) :
    Upholds Stays (fun d => Commits d op) s (transaction body) fun _ _ => True := by
  refine .transaction guarded_stays hbody fun d d' _ F _ later commits _ => ?_
  exact ⟨commits.later later, (commits.later later).stays, trivial⟩

theorem upholds_statement {w : AcademicsStmt} (h : Commits s op [w]) :
    Upholds Stays (fun d => Commits d op) s (statement w : AcademicsAction Unit) fun _ _ => True := by
  refine .statement guarded_stays fun d later _ => ?_
  exact ⟨h.later later, (h.later later).stays, trivial⟩

theorem upholds_logActivity : Upholds Stays (fun d => Commits d op) s logActivity fun _ _ => True :=
  upholds_statement (.logs op)

theorem upholds_invalidateCache : Upholds Stays (fun d => Commits d op) s invalidateCache fun _ _ => True :=
  .request guarded_stays fun _ _ _ => trivial

theorem upholds_attempt : Upholds Stays (fun d => Commits d op) s (attempt invalidateCache) fun _ _ => True :=
  .attempt guarded_stays upholds_invalidateCache fun _ _ => trivial

theorem nothing (op : StudentOp) (d : AcademicsDb) : Commits d op [] := .nothing op

/-- What comes after a student is written. -/
theorem upholds_after : Upholds Stays (fun d => Commits d op) s ((attempt invalidateCache).bind fun _ => logActivity)
    fun _ _ => True :=
  .bind guarded_stays upholds_attempt fun _ _ _ _ => upholds_logActivity

open StudentsService in
theorem upholds_createStudent (dto : CreateStudentDto) (newId : String) :
    Upholds Stays (fun d => Commits d (createStudent dto newId)) s (StudentsService.createStudent dto newId)
      fun _ _ => True := by
  have nothing := nothing (createStudent dto newId)
  refine .find_bind guarded_stays nothing fun _ s _ _ _ _ => .outside_bind guarded_stays nothing fun _ s _ _ => ?_
  refine .ensure_bind guarded_stays fun _ => .find_bind guarded_stays nothing fun _ s₀ _ _ _ _ => ?_
  refine .bind guarded_stays (S := fun d _ => ∃ r ∈ d.directory.faculties.find dto.facultyId,
    r.institutionId = dto.institutionId) ?_ fun s₁ _ _ faculty => ?_
  · refine .find_bind guarded_stays nothing fun d d' r _ hd found => .ensure guarded_stays fun own => ⟨r, ?_, own⟩
    rw [hd.directory]
    exact found
  refine .bind guarded_stays (S := fun d _ => ∃ r ∈ d.directory.departments.find dto.departmentId,
    r.facultyId = dto.facultyId) ?_ fun s₂ _ hd₂ department => ?_
  · refine .find_bind guarded_stays nothing fun d d' r _ hd found => .ensure guarded_stays fun own => ⟨r, ?_, own⟩
    rw [hd.directory]
    exact found
  refine .bind guarded_stays (S := fun d _ => ∀ l ∈ given dto.currentAcademicLevelId,
    ∃ r ∈ d.directory.levels.find l, r.departmentId = dto.departmentId) ?_ fun s₃ _ hd₃ level => ?_
  · refine .whenSome guarded_stays (fun l hl => ?_) fun none l hl => ?_
    · refine .find_bind guarded_stays nothing fun d d' r _ hd found => .ensure guarded_stays fun own l' hl' => ⟨r, ?_, own⟩
      obtain rfl : l = l' := Option.some.inj (hl.symm.trans hl')
      rw [hd.directory]
      exact found
    · rw [none] at hl
      cases hl
  refine .bind guarded_stays (S := fun _ _ => True) ?_ fun s₄ _ hd₄ _ => ?_
  · exact .whenSome guarded_stays (fun _ _ => .outside_bind guarded_stays nothing fun _ _ _ _ =>
      .ensure guarded_stays fun _ => trivial) fun _ => trivial
  refine .query_bind guarded_stays fun s₅ hd₅ => .bind guarded_stays (upholds_statement (.creates ⟨?_, ?_, ?_⟩))
    fun _ _ _ _ => .bind guarded_stays (.request guarded_stays (S := fun _ _ => True) fun _ _ _ => trivial)
      fun _ _ _ _ => upholds_after
  · rw [hd₅.directory, hd₄.directory, hd₃.directory, hd₂.directory]
    exact faculty
  · rw [hd₅.directory, hd₄.directory, hd₃.directory]
    exact department
  · rw [hd₅.directory, hd₄.directory]
    exact level

theorem upholds_updateStudent (id : String) (dto : UpdateStudentDto) :
    Upholds Stays (fun d => Commits d (updateStudent id dto)) s (StudentsService.updateStudent id dto)
      fun _ _ => True := by
  have nothing := nothing (updateStudent id dto)
  have there {α : Type} {o : Option String} {g : String → AcademicsDb → Option α} {e : CampusError} {s : AcademicsDb} :
      Upholds Stays (fun d => Commits d (updateStudent id dto)) s
        (whenSome o fun t => (outside (g t)).bind fun r => ensure (r.isSome) e) fun _ _ => True :=
    .whenSome guarded_stays (fun _ _ => .outside_bind guarded_stays nothing fun _ _ _ _ =>
      .ensure guarded_stays fun _ => trivial) fun _ => trivial
  refine .find_bind guarded_stays nothing fun _ s _ _ _ _ => .bind guarded_stays (S := fun _ _ => True) ?_
    fun _ _ _ _ => .bind guarded_stays (upholds_statement .updates) fun _ _ _ _ => upholds_after
  exact .bind guarded_stays there fun _ _ _ _ => .bind guarded_stays there fun _ _ _ _ => there

theorem upholds_addAcademicRecord (studentId : String) (dto : AddAcademicRecordDto) :
    Upholds Stays (fun d => Commits d (addAcademicRecord studentId dto)) s
      (StudentsService.addAcademicRecord studentId dto) fun _ _ => True := by
  have nothing := nothing (addAcademicRecord studentId dto)
  refine .find_bind guarded_stays nothing fun _ s student _ _ _ => .find_bind guarded_stays nothing fun _ s _ _ _ _ => ?_
  refine .find_bind guarded_stays nothing fun _ s _ _ _ _ => .find_bind guarded_stays nothing fun _ s _ _ _ _ => ?_
  refine .outside_bind guarded_stays nothing fun _ s _ _ => .ensure_bind guarded_stays fun _ => ?_
  refine .bind guarded_stays (upholds_statement .records) fun s _ _ _ => ?_
  refine .bind guarded_stays (S := fun _ _ => True) ?_ fun _ _ _ _ => upholds_after
  exact .when guarded_stays (fun _ => upholds_statement .advances) fun _ => trivial

/-! ### Onboarding -/

open OnboardingService

theorem adds_autoJoin {P : Event AcademicsStmt CampusCall CampusCall.Reply → Prop} (userId institutionId : String)
    (facultyId departmentId academicLevelId sessionId : Option String) (new : OnboardingIds) :
    Adds P (autoJoinInstitutionalOrganizationsInTransaction userId institutionId facultyId departmentId
      academicLevelId sessionId new) fun _ F => Each (fun w => w.joins = true) F := by
  refine .each_bind ?_ fun sessionId => .each_bind (.each_query _) fun matching => ?_
  · unfold joinSession
    split
    · exact .each_ret _
    · exact .each_query _
  · refine .each_bind (.each_when (.each_exec rfl)) fun _ => .each_forEach fun o => ?_
    exact .each_bind (.each_exec rfl) fun _ => .each_exec rfl

theorem findFirst_holds {α : Type} {key : α → String} {t : Table α String key} {p : α → Prop} [DecidablePred p] {a : α}
    (h : t.findFirst (fun a => decide (p a)) = some a) : p a :=
  of_decide_eq_true (List.find?_some (p := fun a => decide (p a)) h)

/-- The row that a search finds is the one of its key. -/
theorem find_of_findFirst {α : Type} {key : α → String} {t : Table α String key} {p : α → Bool} {a : α} {k : String}
    (h : t.findFirst p = some a) (own : key a = k) : t.find k = some a :=
  own ▸ Table.find_of_mem (List.mem_of_find?_eq_some h)

/-- The units are checked against each other. -/
theorem upholds_findUnits {dto : OnboardingInstitutionDto} (nothing : ∀ d, Commits d op []) :
    Upholds Stays (fun d => Commits d op) s (findUnits dto) fun d _ => dto.placement.Belongs d.directory := by
  refine .outside_bind guarded_stays nothing fun d₁ d₁' _ hd₁ => .outside_bind guarded_stays nothing fun d₂ d₂' h₂ hd₂ => ?_
  refine .outside_bind guarded_stays nothing fun d₃ d₃' h₃ hd₃ => .outside_bind guarded_stays nothing fun d₄ d₄' h₄ hd₄ => ?_
  refine .orThrow_bind guarded_stays fun institution hi => .orThrow_bind guarded_stays fun faculty hf => ?_
  refine .orThrow_bind guarded_stays fun department hp => .orThrow_bind guarded_stays fun level hl => ?_
  refine .ensure_bind guarded_stays fun ofInstitution => .ensure_bind guarded_stays fun ofFaculty => ?_
  refine .ensure_bind guarded_stays fun ofDepartment => .ret guarded_stays ?_
  have own_i : institution.id = dto.institutionId := (findFirst_holds hi).1
  have own_f : faculty.id = dto.facultyId := (findFirst_holds hf).1
  have own_p : department.id = dto.departmentId := (findFirst_holds hp).1
  have own_l : level.id = dto.levelId := (findFirst_holds hl).1
  have same₄ : d₄'.directory = d₄.directory := hd₄.directory
  have same₃ : d₄'.directory = d₃.directory := same₄.trans (h₄.directory.trans hd₃.directory)
  have same₂ : d₄'.directory = d₂.directory := same₃.trans (h₃.directory.trans hd₂.directory)
  have same₁ : d₄'.directory = d₁.directory := same₂.trans (h₂.directory.trans hd₁.directory)
  refine ⟨?_, ⟨faculty, ?_, ofInstitution.trans own_i⟩, ⟨department, ?_, ofFaculty.trans own_f⟩,
    ⟨level, ?_, ofDepartment.trans own_p⟩⟩
  · rw [same₁]
    exact Option.isSome_iff_exists.2 ⟨institution, find_of_findFirst hi own_i⟩
  · rw [same₂]
    exact find_of_findFirst hf own_f
  · rw [same₃]
    exact find_of_findFirst hp own_p
  · rw [same₄]
    exact find_of_findFirst hl own_l

theorem adds_enrol {P : Event AcademicsStmt CampusCall CampusCall.Reply → Prop} (userId : String) (p : Placement)
    (newId : String) :
    Adds P (enrol userId p newId) fun _ F => ∃ now, F = [.upsertStudent (p.student userId newId now)] := by
  refine .query_bind fun d => .exec_bind (.query_bind fun d => ?_)
  exact .of_makes (.orThrow (S := fun _ => True) fun _ _ => trivial) fun _ _ => ⟨_, rfl⟩

/-- Where the student is placed, the sessions stay. -/
theorem sessions_upsertStudent (student : StudentProfile) (d : AcademicsDb) :
    (AcademicsStmt.apply (.upsertStudent student) d).campus.sessions = d.campus.sessions := by
  simp only [AcademicsStmt.apply]
  split <;> rfl

theorem currentSession_mem {d : AcademicsDb} {institutionId : String} {t : AcademicSession}
    (h : currentSession d institutionId = some t) : t ∈ d.campus.sessions.rows ∧ t.institutionId = institutionId := by
  have mem := List.mem_filter.1 (List.mem_of_getLast? h)
  exact ⟨mem.1, (of_decide_eq_true mem.2).1⟩

/-- What a commit of the placement by identifiers is. -/
theorem prepares_placeByIds {userId : String} {dto : OnboardingInstitutionDto} {new : OnboardingIds}
    (belongs : dto.placement.Belongs s.directory) :
    Prepares Stays s [] (placeByIds userId dto new) fun d _ F => Commits d (.updateInstitutionInfo userId dto new) F := by
  refine .adds_bind guarded_stays (adds_enrol userId dto.placement new.student) ?_
  rintro d₁ student F hd₁ ⟨now, rfl⟩
  refine .bind guarded_stays (H := fun d (t : AcademicSession) F => SessionOf d t.id dto.institutionId ∧
    F = [.upsertStudent (dto.placement.student userId new.student now)]) ?_ ?_
  · refine .find_bind guarded_stays fun d t hd found => .ensure_bind guarded_stays fun own => .ret guarded_stays ⟨?_, rfl⟩
    have mem : t ∈ (AcademicsStmt.apply (.upsertStudent (dto.placement.student userId new.student now)) d).campus.sessions.rows := by
      cases hg : given dto.sessionId with
      | some id =>
        rw [hg] at found
        exact Table.find_mem found
      | none =>
        rw [hg] at found
        exact (currentSession_mem found).1
    rw [sessions_upsertStudent] at mem
    exact ⟨t, Table.find_of_mem mem, own⟩
  · rintro d₂ t F hd₂ ⟨session, rfl⟩
    refine .exec_bind guarded_stays (.query_bind guarded_stays fun d₃ hd₃ => .exec_bind guarded_stays ?_)
    refine .adds_bind guarded_stays (adds_autoJoin _ _ _ _ _ _ new) fun d₄ _ joined hd₄ joins => ?_
    rw [← Prog.bind_ret (exec _)]
    refine .exec_bind guarded_stays (.ret guarded_stays ?_)
    have enrols : Enrols d₄ userId new.student dto.placement
        [.upsertStudent (dto.placement.student userId new.student now),
          .campus (.upsertRecord (dto.placement.record student.id t.id))] := by
      refine .mk ?_ ((session.stays hd₃).stays hd₄)
      rw [hd₄.directory, hd₃.directory, hd₂.directory, hd₁.directory]
      exact belongs
    have commits (now' : Nat) : Commits d₄ (.updateInstitutionInfo userId dto new)
        ([.upsertStudent (dto.placement.student userId new.student now),
          .campus (.upsertRecord (dto.placement.record student.id t.id))] ++
            (.updateUserProfile userId (completed now') :: (joined ++ [.campus .createActivityLog]))) :=
      .placesByIds enrols joins
    simpa using commits _

theorem upholds_checkLevel {isFresher isDirectEntry : Bool} {level : AcademicLevel} :
    Upholds Stays (fun d => Commits d op) s (checkLevel isFresher isDirectEntry level) fun _ _ => True :=
  .ensure_bind guarded_stays fun _ => .ensure guarded_stays fun _ => trivial

theorem upholds_updateInstitutionInfo (userId : String) (dto : OnboardingInstitutionDto) (new : OnboardingIds) :
    Upholds Stays (fun d => Commits d (updateInstitutionInfo userId dto new)) s
      (OnboardingService.updateInstitutionInfo userId dto new) fun _ _ => True := by
  have nothing := nothing (updateInstitutionInfo userId dto new)
  refine .find_bind guarded_stays nothing fun _ s _ _ _ _ => .bind guarded_stays (upholds_findUnits nothing)
    fun s₁ level _ belongs => .bind guarded_stays upholds_checkLevel fun s₂ _ hd₂ _ => ?_
  refine .bind guarded_stays (S := fun _ _ => True) ?_ fun s₃ _ hd₃ _ => ?_
  · exact .when guarded_stays (fun _ => .outside_bind guarded_stays nothing fun _ _ _ _ =>
      .ensure guarded_stays fun _ => trivial) fun _ => trivial
  refine .bind guarded_stays (upholds_transaction (prepares_placeByIds ?_)) fun _ _ _ _ => upholds_attempt
  rw [hd₃.directory, hd₂.directory]
  exact belongs

/-- The session given is one that was there. -/
theorem upholds_findSession {sessionId : Option String} (nothing : ∀ d, Commits d op []) :
    Upholds Stays (fun d => Commits d op) s (findSession sessionId) fun d o =>
      ∀ t, o = some t → SessionOf d t.id t.institutionId := by
  unfold findSession
  split
  · exact .ret guarded_stays fun t none => by cases none
  · refine .find_bind guarded_stays nothing fun d d' t _ hd found => .ret guarded_stays fun t' same => ?_
    obtain rfl : t = t' := Option.some.inj same
    exact SessionOf.stays ⟨t, Table.find_of_mem (Table.find_mem found), rfl⟩ hd

/-- The statement writes the profile of a user. -/
def IsProfile (F : List AcademicsStmt) : Prop := ∃ userId patch, F = [.updateUserProfile userId patch]

theorem IsProfile.campus {F : List AcademicsStmt} (h : IsProfile F) (d : AcademicsDb) :
    (Database.applyAll F d).campus = d.campus := by
  obtain ⟨userId, patch, rfl⟩ := h
  rfl

theorem IsProfile.stays {F : List AcademicsStmt} (h : IsProfile F) (d : AcademicsDb) : Stays d (Database.applyAll F d) := by
  obtain ⟨userId, patch, rfl⟩ := h
  exact AcademicsStmt.stays (w := .updateUserProfile userId patch) rfl d

section Prepares

variable {F : List AcademicsStmt} (profile : IsProfile F)

include profile

theorem prepares_findInstitution (fold : String → String) (name : String) :
    Prepares Stays s F (findInstitution fold name) fun d i F' => F = F' ∧ (d.directory.institutions.find i.id).isSome := by
  refine .find guarded_stays fun d i _ found => ⟨rfl, ?_⟩
  rw [← (profile.stays d).directory]
  exact Option.isSome_iff_exists.2 ⟨i, find_of_findFirst found rfl⟩

theorem prepares_findFaculty (fold : String → String) (name institutionId : String) :
    Prepares Stays s F (findFaculty fold name institutionId) fun d f F' => F = F' ∧
      ∃ r ∈ d.directory.faculties.find f.id, r.institutionId = institutionId := by
  refine .find guarded_stays fun d f _ found => ⟨rfl, ?_⟩
  rw [← (profile.stays d).directory]
  exact ⟨f, find_of_findFirst found rfl, (findFirst_holds found).2.1⟩

theorem prepares_findDepartment (fold : String → String) (name facultyId : String) :
    Prepares Stays s F (findDepartment fold name facultyId) fun d p F' => F = F' ∧
      ∃ r ∈ d.directory.departments.find p.id, r.facultyId = facultyId := by
  refine .find guarded_stays fun d p _ found => ⟨rfl, ?_⟩
  rw [← (profile.stays d).directory]
  exact ⟨p, find_of_findFirst found rfl, (findFirst_holds found).2.1⟩

theorem prepares_chooseSession {session : Option AcademicSession} {institutionId : String}
    (given : ∀ t, session = some t → SessionOf s t.id t.institutionId) :
    Prepares Stays s F (chooseSession session institutionId) fun d t F' => F = F' ∧ SessionOf d t.id institutionId := by
  unfold chooseSession
  split
  · rename_i t
    exact .ensure_bind guarded_stays fun own => .ret guarded_stays ⟨rfl, own ▸ given t rfl⟩
  · refine .find guarded_stays fun d t _ found => ⟨rfl, t, ?_, (currentSession_mem found).2⟩
    have mem := (currentSession_mem found).1
    rw [profile.campus] at mem
    exact Table.find_of_mem mem

theorem prepares_chooseLevel (academicLevelId : Option String) (isFresher : Bool) (departmentId : String) :
    Prepares Stays s F (chooseLevel academicLevelId isFresher departmentId) fun d l F' => F = F' ∧
      d.directory.levels.find l.id = some l ∧ l.departmentId = departmentId := by
  unfold chooseLevel
  split
  · refine .find guarded_stays fun d l _ found => ⟨rfl, ?_, (findFirst_holds found).2.1⟩
    rw [← (profile.stays d).directory]
    exact find_of_findFirst found rfl
  · refine .ensure_bind guarded_stays fun _ => .find guarded_stays fun d l _ found => ⟨rfl, ?_, (findFirst_holds found).1⟩
    rw [← (profile.stays d).directory]
    exact find_of_findFirst found rfl

/-- What placing a user by names adds. -/
theorem prepares_placeByNames {fold : String → String} {userId : String} {body : CompleteOnboardingDto}
    {session : Option AcademicSession} {new : OnboardingIds} {picked : String × String × String}
    (given_session : ∀ t, session = some t → SessionOf s t.id t.institutionId) :
    Prepares Stays s F (placeByNames fold userId body session new picked) fun d _ F' => ∃ p enrolment joined,
      given (body.matricNumber.or body.studentId) = some p.matricNumber ∧ Enrols d userId new.student p enrolment ∧
        (∀ w ∈ joined, w.joins = true) ∧ F' = F ++ (enrolment ++ joined) := by
  refine .orThrow_bind guarded_stays fun matricNumber matric => ?_
  refine .bind guarded_stays (prepares_findInstitution profile _ _) ?_
  rintro s₁ i _ hd₁ ⟨rfl, institution⟩
  refine .bind guarded_stays (prepares_chooseSession profile fun t ht => (given_session t ht).stays hd₁) ?_
  rintro s₂ t _ hd₂ ⟨rfl, own⟩
  refine .bind guarded_stays (prepares_findFaculty profile _ _ _) ?_
  rintro s₃ f _ hd₃ ⟨rfl, faculty⟩
  refine .bind guarded_stays (prepares_findDepartment profile _ _ _) ?_
  rintro s₄ q _ hd₄ ⟨rfl, department⟩
  refine .bind guarded_stays (prepares_chooseLevel profile _ _ _) ?_
  rintro s₅ chosen _ hd₅ ⟨rfl, found, ofDepartment⟩
  refine .find_bind guarded_stays fun s₆ level hd₆ found' => ?_
  obtain rfl : level = chosen := by
    have same : (Database.applyAll F s₆).directory = s₅.directory := (profile.stays s₆).directory.trans hd₆.directory
    have found'' : (Database.applyAll F s₆).directory.levels.find chosen.id = some level := found'
    rw [same, found] at found''
    exact (Option.some.inj found'').symm
  refine .adds_bind guarded_stays (H := fun _ F' => F' = []) ?_ ?_
  · exact .of_makes ((Makes.ensure _).bind fun _ _ => .ensure _) fun _ _ => rfl
  rintro s₇ _ _ hd₇ rfl
  rw [List.append_nil]
  refine .query_bind guarded_stays fun s₈ hd₈ => .ensure_bind guarded_stays fun _ => ?_
  refine .adds_bind guarded_stays (adds_enrol userId _ new.student) ?_
  rintro s₉ student _ hd₉ ⟨now, rfl⟩
  refine .exec_bind guarded_stays (.of_adds guarded_stays (adds_autoJoin _ _ _ _ _ _ new) fun d _ joined hd joins => ?_)
  have same₄ : s₅.directory = s₄.directory := hd₅.directory
  have same : d.directory = s₅.directory := hd.directory.trans (hd₉.directory.trans (hd₈.directory.trans
    (hd₇.directory.trans hd₆.directory)))
  have later : Stays s₂ d := hd₃.trans (hd₄.trans (hd₅.trans (hd₆.trans (hd₇.trans (hd₈.trans (hd₉.trans hd))))))
  have belongs : Placement.Belongs ⟨i.id, f.id, q.id, level.id, matricNumber, body.isDirectEntry.getD false⟩ d.directory := by
    rw [same]
    refine ⟨?_, ?_, ?_, ⟨level, found, ofDepartment⟩⟩
    · rw [same₄, hd₄.directory, hd₃.directory, hd₂.directory]
      exact institution
    · rw [same₄, hd₄.directory]
      exact faculty
    · rw [same₄]
      exact department
  have enrols (p : Placement) (belongs : p.Belongs d.directory) (session : SessionOf d t.id p.institutionId) :
      Enrols d userId new.student p [.upsertStudent (p.student userId new.student now),
        .campus (.upsertRecord (p.record student.id t.id))] := .mk belongs session
  exact ⟨_, _, joined, matric, enrols _ belongs (own.stays later), joins, by rw [List.append_assoc, List.append_assoc]; rfl⟩

end Prepares

theorem prepares_completeOnboarding {fold : String → String} {userId : String} {body : CompleteOnboardingDto}
    {session : Option AcademicSession} {new : OnboardingIds}
    (given_session : ∀ t, session = some t → SessionOf s t.id t.institutionId) :
    Prepares Stays s [] (do
      exec (.updateUserProfile userId (names body.firstName body.lastName))
      whenSome body.picked (placeByNames fold userId body session new)
      let now ← query fun d => d.campus.now
      exec (.updateUserProfile userId (completed now))
      exec (.campus .createActivityLog)) fun d _ F => Commits d (completeOnboarding fold userId body new) F := by
  refine .exec_bind guarded_stays ?_
  cases hp : body.picked with
  | none =>
    refine .query_bind guarded_stays fun d hd => .exec_bind guarded_stays ?_
    rw [← Prog.bind_ret (exec _)]
    exact .exec_bind guarded_stays (.ret guarded_stays (.finishes hp))
  | some picked =>
    refine .bind guarded_stays (prepares_placeByNames ⟨userId, _, rfl⟩ given_session) ?_
    rintro d₁ _ F hd₁ ⟨p, enrolment, joined, matric, enrols, joins, rfl⟩
    refine .query_bind guarded_stays fun d hd => .exec_bind guarded_stays ?_
    rw [← Prog.bind_ret (exec _)]
    refine .exec_bind guarded_stays (.ret guarded_stays ?_)
    have commits (now : Nat) : Commits d (completeOnboarding fold userId body new)
        (.updateUserProfile userId (names body.firstName body.lastName) :: (enrolment ++ (joined ++
          [.updateUserProfile userId (completed now), .campus .createActivityLog]))) :=
      .placesByNames matric (enrols.later hd) joins
    simpa using commits _

theorem upholds_completeOnboarding (fold : String → String) (userId : String) (body : CompleteOnboardingDto)
    (new : OnboardingIds) :
    Upholds Stays (fun d => Commits d (completeOnboarding fold userId body new)) s
      (OnboardingService.completeOnboarding fold userId body new) fun _ _ => True :=
  .bind guarded_stays (upholds_findSession (nothing _)) fun _ _ _ given_session =>
    .bind guarded_stays (upholds_transaction (prepares_completeOnboarding given_session)) fun _ _ _ _ => upholds_attempt

theorem upholds_updatePersonalInfo (userId : String) (dto : OnboardingPersonalInfoDto) :
    Upholds Stays (fun d => Commits d (updatePersonalInfo userId dto)) s
      (OnboardingService.updatePersonalInfo userId dto) fun _ _ => True := by
  refine .outside_bind guarded_stays (nothing _) fun _ _ _ _ => .orThrow_bind guarded_stays fun _ _ => ?_
  refine .orThrow_bind guarded_stays fun _ _ => .bind guarded_stays (upholds_statement .renames) fun _ _ _ _ => ?_
  refine .bind guarded_stays (S := fun _ _ => True) ?_ fun _ _ _ _ => .bind guarded_stays upholds_logActivity
    fun _ _ _ _ => upholds_attempt
  exact .whenSome guarded_stays (fun _ _ => upholds_statement .steps) fun _ => trivial

theorem upholds_getOnboardingStatus (userId : String) :
    Upholds Stays (fun d => Commits d (getOnboardingStatus userId)) s (program (getOnboardingStatus userId))
      fun _ _ => True := by
  refine .bind guarded_stays (S := fun _ _ => True) ?_ fun _ _ _ _ => .ret guarded_stays trivial
  refine .outside_bind guarded_stays (nothing _) fun d _ _ _ => .orThrow_bind guarded_stays fun _ _ => ?_
  refine .orThrow_bind guarded_stays fun profile found => ?_
  have own : profile.userId = userId := Table.find_key found
  refine .bind guarded_stays (S := fun _ _ => True) ?_ fun _ _ _ _ => .bind guarded_stays (S := fun _ _ => True)
    (.request guarded_stays fun _ _ _ => trivial) fun _ _ _ _ => .ret guarded_stays trivial
  unfold fixInconsistency
  split
  · rw [own]
    exact .bind guarded_stays (upholds_statement .setsBack) fun _ _ _ _ =>
      .bind guarded_stays upholds_invalidateCache fun _ _ _ _ => .ret guarded_stays trivial
  · exact .ret guarded_stays trivial

theorem upholds_promote (op : PromoteInstitutionOp) :
    Upholds Stays (fun d => Commits d (promoteInstitution op)) s (onCampus op.program) fun _ _ => True := by
  have campus : Upholds CampusDb.Stays (Promotes op.institutionId fun d id =>
      ∃ t ∈ d.sessions.find id, t.institutionId = op.institutionId) s.campus op.program fun _ _ => True := by
    refine upholds_promoteInstitution guarded_campus (fun h => h.levels) CampusStmt.stays_applyAll op ?_
    intro d d' t hd mem own
    obtain ⟨t', found, same⟩ := hd.sessions t.id t (Table.find_of_mem mem)
    exact ⟨t', found, same.trans own⟩
  refine campus.embed embeds_campus Stays.refl Stays.trans (fun hd => hd.campus) (fun {d F} h => ?_)
    fun {F d} _ _ => stays_applyAll (fun w mem => ?_) d
  · obtain rfl | tx := h
    · exact .nothing _
    · exact .promotes tx
  · obtain ⟨w, -, rfl⟩ := List.mem_map.1 mem
    rfl

/-- Whatever the others do to students and sessions, a call commits only what it is said to. -/
theorem upholds_program (op : StudentOp) : Upholds Stays (fun d => Commits d op) s op.program fun _ _ => True := by
  cases op with
  | createStudent dto newId => exact upholds_createStudent dto newId
  | updateStudent id dto => exact upholds_updateStudent id dto
  | addAcademicRecord studentId dto => exact upholds_addAcademicRecord studentId dto
  | completeOnboarding fold userId body new => exact upholds_completeOnboarding fold userId body new
  | updateInstitutionInfo userId dto new => exact upholds_updateInstitutionInfo userId dto new
  | updatePersonalInfo userId dto => exact upholds_updatePersonalInfo userId dto
  | getOnboardingStatus userId => exact upholds_getOnboardingStatus userId
  | promoteInstitution op => exact upholds_promote op

end Upholds

end StudentOp

end Heightt.Campus
