import Heightt.Academics.Sessions
import Heightt.Academics.Promotions

/-!
# What the session calls commit

The institutions, faculties, departments and levels stay as they are while sessions are
written, so what a call has read of them still holds when it commits. `Directory.resolve`
says what the checks of a request come to on them, and `SessionOp.Commits` names every
transaction that a call can commit.
-/

namespace Heightt.Campus

open Store ReadCommitted Prog

/-- The institutions and their units. -/
structure Directory where
  institutions : Table Institution String Institution.id
  faculties : Table Faculty String Faculty.id
  departments : Table Department String Department.id
  levels : Table AcademicLevel String AcademicLevel.id

def AcademicsDb.directory (d : AcademicsDb) : Directory :=
  ⟨d.campus.institutions, d.faculties, d.departments, d.campus.levels⟩

def SameDirectory (s d : AcademicsDb) : Prop := d.directory = s.directory

theorem sameDirectory_refl (d : AcademicsDb) : SameDirectory d d := rfl

theorem SameDirectory.trans {a b c : AcademicsDb} (h : SameDirectory a b) (h' : SameDirectory b c) :
    SameDirectory a c := Eq.trans h' h

theorem guarded_directory :
    Guarded (C := CampusCall) (R := CampusCall.Reply) SameDirectory fun _ => False :=
  ⟨sameDirectory_refl, SameDirectory.trans, False.elim⟩

/-- The statement creates a faculty, a department or a level. -/
def AcademicsStmt.createsUnit : AcademicsStmt → Bool
  | createFaculty _ | createDepartment _ | createLevel _ => true
  | _ => false

theorem AcademicsStmt.directory_apply {w : AcademicsStmt} (h : w.createsUnit = false) (d : AcademicsDb) :
    (w.apply d).directory = d.directory := by
  cases w with
  | campus w =>
    obtain ⟨institutions, levels⟩ := w.apply_directory d.campus
    simp only [apply, AcademicsDb.directory, institutions, levels]
  | createFaculty _ => cases h
  | createDepartment _ => cases h
  | createLevel _ => cases h
  | _ =>
    unfold apply
    dsimp only
    try split
    all_goals rfl

theorem directory_applyAll {F : List AcademicsStmt} (h : ∀ w ∈ F, w.createsUnit = false) (d : AcademicsDb) :
    (Database.applyAll F d).directory = d.directory :=
  Database.applyAll_keeps AcademicsDb.directory (fun w mem d => w.directory_apply (h w mem) d) d

/-! ## What the checks come to -/

namespace Directory

variable (u : Directory)

/-- The faculty, if one is given, is of the institution. -/
def hasFaculty (facultyId : Option String) (institutionId : String) : Bool :=
  facultyId.all fun f => (u.faculties.find f).any fun r => r.institutionId = institutionId

def fillFaculty (dto : CreateAcademicSessionDto) : Option CreateAcademicSessionDto :=
  match given dto.departmentId with
  | none => some dto
  | some p => (u.departments.find p).bind fun r =>
    if asked (given dto.facultyId) (some r.facultyId) then some (dto.withFaculty r.facultyId) else none

def fillDepartment (dto : CreateAcademicSessionDto) : Option CreateAcademicSessionDto :=
  match given dto.academicLevelId with
  | none => some dto
  | some l => (u.levels.find l).bind fun r =>
    if asked (given dto.departmentId) (some r.departmentId) then
      some (if (given dto.departmentId).isSome then dto
        else dto.withDepartment r.departmentId (u.departments.find r.departmentId))
    else none

/-- The request with its units filled in, unless a check refuses it. -/
def resolve (dto : CreateAcademicSessionDto) : Option CreateAcademicSessionDto :=
  if (u.institutions.find dto.institutionId).isSome ∧ u.hasFaculty (given dto.facultyId) dto.institutionId then
    (u.fillFaculty dto).bind u.fillDepartment
  else none

/-- The units that the update of a session gives pass its checks. -/
structure Passes (session : AcademicSession) (dto : PartialAcademicSessionDto) : Prop where
  faculty : u.hasFaculty (given dto.facultyId.toOption) session.institutionId
  department : ∀ p ∈ given dto.departmentId.toOption, ∃ r ∈ u.departments.find p,
    asked (given dto.facultyId.toOption) (some r.facultyId)
  level : ∀ l ∈ given dto.academicLevelId.toOption, ∃ r ∈ u.levels.find l,
    asked (given dto.departmentId.toOption) (some r.departmentId)

end Directory

namespace InstitutionsService

variable {Ψ : AcademicsDb → List AcademicsStmt → Prop} (nothing : ∀ d, Ψ d []) {s : AcademicsDb}

include nothing

/-- A reading of the directory. -/
theorem upholds_outside {α : Type} {f : AcademicsDb → α} {S : AcademicsDb → α → Prop}
    (hS : ∀ d d', SameDirectory d d' → S d' (f d)) :
    Upholds SameDirectory Ψ s (outside f : AcademicsAction α) S :=
  .outside guarded_directory nothing fun d d' _ hd => hS d d' hd

/-- The row that a reading finds, or the error. -/
theorem upholds_find {α β : Type} {f : AcademicsDb → Option α} {e : CampusError}
    {k : α → AcademicsAction β} {S : AcademicsDb → β → Prop}
    (hf : ∀ d d', SameDirectory d d' → f d = f d')
    (hk : ∀ d a, SameDirectory s d → f d = some a → Upholds SameDirectory Ψ d (k a) S) :
    Upholds SameDirectory Ψ s ((outside f).bind fun o => (orThrow o e).bind k) S := by
  refine .bind guarded_directory (upholds_outside nothing (S := fun d o => f d = o)
    fun d d' hd => (hf d d' hd).symm) fun d o hd found => ?_
  exact .orThrow_bind guarded_directory fun a ha => hk d a hd (found.trans ha)

theorem upholds_checkFaculty {facultyId : Option String} {institutionId message : String} :
    Upholds SameDirectory Ψ s (checkFaculty facultyId institutionId message) fun d _ =>
      d.directory.hasFaculty facultyId institutionId := by
  refine .whenSome guarded_directory (fun facultyId given => ?_) fun none => ?_
  · subst given
    refine upholds_find nothing (fun d d' hd => congrArg (fun u => u.faculties.find facultyId) hd.symm)
      fun d faculty hd found => ?_
    exact .ensure guarded_directory fun own => by simp [Directory.hasFaculty, AcademicsDb.directory, found, own]
  · subst none
    rfl

theorem upholds_findDepartment {departmentId : String} {facultyId : Option String} :
    Upholds SameDirectory Ψ s (findDepartment departmentId facultyId) fun d r =>
      d.directory.departments.find departmentId = some r ∧ asked facultyId (some r.facultyId) := by
  refine upholds_find nothing (fun d d' hd => congrArg (fun u => u.departments.find departmentId) hd.symm)
    fun d department hd found => ?_
  exact .ensure_bind guarded_directory fun own => .ret guarded_directory ⟨found, own⟩

theorem upholds_findLevel {academicLevelId : String} {departmentId : Option String} :
    Upholds SameDirectory Ψ s (findLevel academicLevelId departmentId) fun d r =>
      d.directory.levels.find academicLevelId = some r ∧ asked departmentId (some r.departmentId) := by
  refine upholds_find nothing (fun d d' hd => congrArg (fun u => u.levels.find academicLevelId) hd.symm)
    fun d academicLevel hd found => ?_
  exact .ensure_bind guarded_directory fun own => .ret guarded_directory ⟨found, own⟩

theorem upholds_fillFaculty {dto : CreateAcademicSessionDto} :
    Upholds SameDirectory Ψ s (fillFaculty dto) fun d dto' => d.directory.fillFaculty dto = some dto' := by
  unfold fillFaculty Directory.fillFaculty
  cases given dto.departmentId with
  | none => exact .ret guarded_directory rfl
  | some departmentId =>
    refine .bind guarded_directory (upholds_findDepartment nothing) fun d department hd ⟨found, own⟩ => ?_
    exact .ret guarded_directory (by simp [found, own])

theorem upholds_fillDepartment {dto : CreateAcademicSessionDto} :
    Upholds SameDirectory Ψ s (fillDepartment dto) fun d dto' => d.directory.fillDepartment dto = some dto' := by
  unfold fillDepartment Directory.fillDepartment
  cases given dto.academicLevelId with
  | none => exact .ret guarded_directory rfl
  | some academicLevelId =>
    refine .bind guarded_directory (upholds_findLevel nothing) fun d academicLevel hd ⟨found, own⟩ => ?_
    split
    · exact .ret guarded_directory (by simp [found, own])
    · have same {d d' : AcademicsDb} (hd : SameDirectory d d') :
          d'.directory.levels.find academicLevelId = d.directory.levels.find academicLevelId :=
        congrArg (fun u => u.levels.find academicLevelId) hd
      refine .bind guarded_directory (upholds_outside nothing
        (S := fun d o => d.directory.departments.find academicLevel.departmentId = o)
        fun d d' hd => congrArg (fun u => u.departments.find academicLevel.departmentId) hd)
        fun d' dept hd' seen => .ret guarded_directory ?_
      simp [same hd', found, own, seen]

/-- What the checks of a request leave is what they come to on the directory. -/
theorem upholds_checkUnits {dto : CreateAcademicSessionDto} :
    Upholds SameDirectory Ψ s (checkUnits dto) fun d dto' => d.directory.resolve dto = some dto' := by
  refine upholds_find nothing (fun d d' hd => congrArg (fun u => u.institutions.find dto.institutionId) hd.symm)
    fun d institution hd found => ?_
  refine .bind guarded_directory (upholds_checkFaculty nothing) fun d₁ _ hd₁ faculty => ?_
  refine .bind guarded_directory (upholds_fillFaculty nothing) fun d₂ dto₂ hd₂ filled => ?_
  have last : Upholds SameDirectory Ψ d₂ ((fillDepartment dto₂).bind .ret)
      fun d dto' => d.directory.resolve dto = some dto' := by
    refine .bind guarded_directory (upholds_fillDepartment nothing) fun d₃ dto₃ hd₃ resolved =>
      .ret guarded_directory ?_
    have found' : d₃.directory.institutions.find dto.institutionId = some institution := by
      rw [hd₃, hd₂, hd₁]
      exact found
    have faculty' : d₃.directory.hasFaculty (given dto.facultyId) dto.institutionId := by
      rw [hd₃, hd₂]
      exact faculty
    have filled' : d₃.directory.fillFaculty dto = some dto₂ := by
      rw [hd₃]
      exact filled
    rw [Directory.resolve, if_pos ⟨by rw [found']; rfl, faculty'⟩, filled', Option.bind_some, resolved]
  rwa [Prog.bind_ret] at last

theorem upholds_checkGiven {session : AcademicSession} {dto : PartialAcademicSessionDto} :
    Upholds SameDirectory Ψ s (checkGiven session dto) fun d _ => d.directory.Passes session dto := by
  refine .bind guarded_directory (upholds_checkFaculty nothing) fun d₁ _ hd₁ faculty => ?_
  refine .bind guarded_directory (S := fun d _ => d.directory.hasFaculty (given dto.facultyId.toOption)
    session.institutionId ∧ ∀ p ∈ given dto.departmentId.toOption, ∃ r ∈ d.directory.departments.find p,
      asked (given dto.facultyId.toOption) (some r.facultyId)) ?_ fun d₂ _ hd₂ units => ?_
  · refine .whenSome guarded_directory (fun departmentId named => ?_) fun none => ⟨faculty, by simp [none]⟩
    refine .bind guarded_directory (upholds_findDepartment nothing) fun d r hd read =>
      .ret guarded_directory ⟨hd ▸ faculty, fun p hp => ?_⟩
    rw [named, Option.mem_some_iff] at hp
    exact ⟨r, hp ▸ read.1, read.2⟩
  · obtain ⟨faculty, department⟩ := units
    refine .whenSome guarded_directory (fun academicLevelId named => ?_)
      fun none => ⟨faculty, department, by simp [none]⟩
    refine .bind guarded_directory (upholds_findLevel nothing) fun d r hd read =>
      .ret guarded_directory ⟨hd ▸ faculty, hd ▸ department, fun l hl => ?_⟩
    rw [named, Option.mem_some_iff] at hl
    exact ⟨r, hl ▸ read.1, read.2⟩

/-- A check on what was read outside the directory. -/
theorem upholds_check {α β : Type} {f : AcademicsDb → α} {k : α → AcademicsAction β}
    (hk : ∀ d a, Upholds SameDirectory Ψ d (k a) fun _ _ => True) :
    Upholds SameDirectory Ψ s ((outside f).bind k) fun _ _ => True :=
  .bind guarded_directory (upholds_outside nothing (S := fun _ _ => True) fun _ _ _ => trivial)
    fun d a _ _ => hk d a

theorem upholds_checkSessionName (dto : CreateAcademicSessionDto) :
    Upholds SameDirectory Ψ s (checkSessionName dto) fun _ _ => True :=
  upholds_check nothing fun _ _ => .ensure_bind guarded_directory fun _ =>
    .ensure guarded_directory fun _ => trivial

theorem upholds_checkNewName (session : AcademicSession) (dto : PartialAcademicSessionDto) :
    Upholds SameDirectory Ψ s (checkNewName session dto) fun _ _ => True :=
  .whenSome guarded_directory (fun _ _ => upholds_check nothing fun _ _ => .ensure guarded_directory fun _ => trivial)
    fun _ => trivial

omit nothing

theorem upholds_invalidateCache : Upholds SameDirectory Ψ s invalidateCache fun _ _ => True :=
  .request guarded_directory fun _ _ _ => trivial

theorem upholds_logActivity (logged : ∀ d, Ψ d [.campus .createActivityLog]) :
    Upholds SameDirectory Ψ s logActivity fun _ _ => True :=
  .statement guarded_directory fun d _ _ => ⟨logged d, rfl, trivial⟩

/-- What comes after a session is written. -/
theorem upholds_afterSession (logged : ∀ d, Ψ d [.campus .createActivityLog]) (dto : CreateAcademicSessionDto) :
    Upholds SameDirectory Ψ s (afterSession dto) fun _ _ => True := by
  have some_of {o : Option String} {s : AcademicsDb} :
      Upholds SameDirectory Ψ s (whenSome o fun _ => invalidateCache) fun _ _ => True :=
    .whenSome guarded_directory (fun _ _ => upholds_invalidateCache) fun _ => trivial
  refine .bind guarded_directory (.attempt guarded_directory upholds_invalidateCache fun _ _ => trivial)
    fun _ _ _ _ => ?_
  refine .bind guarded_directory some_of fun _ _ _ _ => ?_
  refine .bind guarded_directory some_of fun _ _ _ _ => ?_
  refine .bind guarded_directory some_of fun _ _ _ _ => ?_
  exact upholds_logActivity logged

end InstitutionsService

/-! ## The calls -/

/-- A call that writes sessions. -/
inductive SessionOp where
  | createAcademicSession (dto : CreateAcademicSessionDto) (newId : String)
  | updateAcademicSession (id : String) (dto : PartialAcademicSessionDto)
  | getOrCreateDefaultSession (institutionId : String) (currentYear : Nat) (newId : String)
  | promoteInstitution (op : PromoteInstitutionOp)

namespace SessionOp

open InstitutionsService

def program : SessionOp → AcademicsAction Unit
  | createAcademicSession dto newId => InstitutionsService.createAcademicSession dto newId
  | updateAcademicSession id dto => InstitutionsService.updateAcademicSession id dto
  | getOrCreateDefaultSession institutionId currentYear newId => do
    let _ ← InstitutionsService.getOrCreateDefaultSession institutionId currentYear newId
    pure ()
  | promoteInstitution op => onCampus op.program

/-- A transaction that the call commits in state `d`. -/
inductive Commits (d : AcademicsDb) : SessionOp → List AcademicsStmt → Prop where
  | nothing (op : SessionOp) : Commits d op []
  | logs (op : SessionOp) : Commits d op [.campus .createActivityLog]
  | clears {dto dto' : CreateAcademicSessionDto} {newId : String}
      (resolved : d.directory.resolve dto = some dto') (current : dto'.isCurrent = true) :
      Commits d (createAcademicSession dto newId) [.clearCurrent dto'.currentWhere (dto'.session newId)]
  | creates {dto dto' : CreateAcademicSessionDto} {newId : String}
      (resolved : d.directory.resolve dto = some dto') :
      Commits d (createAcademicSession dto newId) [.createSession (dto'.session newId)]
  | clearsFor {id : String} {dto : PartialAcademicSessionDto} {seen : AcademicSession} (own : seen.id = id)
      (passes : d.directory.Passes seen dto) (current : dto.isCurrent = .value true) :
      Commits d (updateAcademicSession id dto) [.clearCurrent (dto.currentWhere seen) (dto.apply seen)]
  | updates {id : String} {dto : PartialAcademicSessionDto} {seen : AcademicSession} (own : seen.id = id)
      (passes : d.directory.Passes seen dto) :
      Commits d (updateAcademicSession id dto) [.updateSession seen dto]
  | createsDefault {institutionId newId : String} {currentYear : Nat} :
      Commits d (getOrCreateDefaultSession institutionId currentYear newId)
        [.createSession (defaultSession institutionId newId currentYear)]
  | promotes {op : PromoteInstitutionOp} {F : List CampusStmt}
      (tx : PromotionTx d.campus.levels op.institutionId (fun _ => True) F) :
      Commits d (promoteInstitution op) (F.map .campus)

theorem Commits.createsUnit {d : AcademicsDb} {op : SessionOp} {F : List AcademicsStmt} (h : Commits d op F) :
    ∀ w ∈ F, w.createsUnit = false := by
  intro w mem
  cases h with
  | nothing => cases mem
  | promotes tx =>
    obtain ⟨w, -, rfl⟩ := List.mem_map.1 mem
    rfl
  | _ =>
    rw [List.mem_singleton.1 mem]
    rfl

/-- The calls change no institution, faculty, department or level. -/
theorem Commits.sameDirectory {d : AcademicsDb} {op : SessionOp} {F : List AcademicsStmt} (h : Commits d op F) :
    SameDirectory d (Database.applyAll F d) :=
  directory_applyAll h.createsUnit d

variable {s : AcademicsDb}

theorem upholds_create (dto : CreateAcademicSessionDto) (newId : String) :
    Upholds SameDirectory (fun d => Commits d (createAcademicSession dto newId)) s
      (InstitutionsService.createAcademicSession dto newId) fun _ _ => True := by
  have nothing (d : AcademicsDb) : Commits d (createAcademicSession dto newId) [] := .nothing _
  refine .bind guarded_directory (upholds_checkUnits nothing) fun d dto' _ resolved => ?_
  refine .bind guarded_directory (upholds_checkSessionName nothing dto') fun d₁ _ hd₁ _ => ?_
  have resolved₁ : d₁.directory.resolve dto = some dto' := hd₁ ▸ resolved
  refine .bind guarded_directory (S := fun _ _ => True) ?_ fun d₂ _ hd₂ _ => ?_
  · refine .when guarded_directory (fun current => .statement guarded_directory fun d hd _ => ?_) fun _ => trivial
    exact ⟨.clears (hd ▸ resolved₁) current, rfl, trivial⟩
  refine .bind guarded_directory (S := fun _ _ => True) (.statement guarded_directory fun d hd _ => ?_)
    fun d₃ _ _ _ => upholds_afterSession (fun d => .logs _) dto'
  exact ⟨.creates (hd₂.trans hd ▸ resolved₁), rfl, trivial⟩

theorem upholds_update (id : String) (dto : PartialAcademicSessionDto) :
    Upholds SameDirectory (fun d => Commits d (updateAcademicSession id dto)) s
      (InstitutionsService.updateAcademicSession id dto) fun _ _ => True := by
  have nothing (d : AcademicsDb) : Commits d (updateAcademicSession id dto) [] := .nothing _
  have reading : Upholds SameDirectory (fun d => Commits d (updateAcademicSession id dto)) s
      (outside fun d => d.campus.sessions.find id : AcademicsAction (Option AcademicSession))
      fun _ o => ∀ seen, o = some seen → seen.id = id := by
    refine upholds_outside nothing fun d _ _ seen found => ?_
    exact Table.find_key found
  refine .bind guarded_directory reading fun d _ _ found => .orThrow_bind guarded_directory fun seen hseen => ?_
  have own := found seen hseen
  refine .bind guarded_directory (upholds_checkGiven nothing) fun d₁ _ _ passes => ?_
  refine .bind guarded_directory (upholds_checkNewName nothing seen dto) fun d₂ _ hd₂ _ => ?_
  have passes₂ : d₂.directory.Passes seen dto := hd₂ ▸ passes
  refine .bind guarded_directory (S := fun _ _ => True) ?_ fun d₃ _ hd₃ _ => ?_
  · refine .when guarded_directory (fun current => .statement guarded_directory fun d hd _ => ?_) fun _ => trivial
    exact ⟨.clearsFor own (hd ▸ passes₂) current, rfl, trivial⟩
  refine .bind guarded_directory (S := fun _ _ => True) (.statement guarded_directory fun d hd _ => ?_)
    fun d₄ _ _ _ => ?_
  · exact ⟨.updates own (hd₃.trans hd ▸ passes₂), rfl, trivial⟩
  refine .bind guarded_directory (.attempt guarded_directory upholds_invalidateCache fun _ _ => trivial)
    fun _ _ _ _ => ?_
  refine .bind guarded_directory upholds_invalidateCache fun _ _ _ _ => ?_
  exact .bind guarded_directory upholds_invalidateCache fun _ _ _ _ => upholds_logActivity fun d => .logs _

theorem upholds_default (institutionId : String) (currentYear : Nat) (newId : String) :
    Upholds SameDirectory (fun d => Commits d (getOrCreateDefaultSession institutionId currentYear newId)) s
      (InstitutionsService.getOrCreateDefaultSession institutionId currentYear newId) fun _ _ => True := by
  refine upholds_check (fun d => Commits.nothing _) fun d existing => ?_
  cases existing with
  | some s => exact .ret guarded_directory trivial
  | none =>
    refine .bind guarded_directory (S := fun _ _ => True) (.statement guarded_directory fun d _ _ => ?_)
      fun _ _ _ _ => .ret guarded_directory trivial
    exact ⟨.createsDefault, rfl, trivial⟩

/-- The levels are those that were there. -/
def SameLevels (s d : CampusDb) : Prop := d.levels = s.levels

theorem guarded_levels : Guarded (C := CampusCall) (R := CampusCall.Reply) SameLevels fun _ => False :=
  ⟨fun _ => rfl, fun h h' => Eq.trans h' h, False.elim⟩

theorem sameLevels_applyAll (F : List CampusStmt) (d : CampusDb) : SameLevels d (Database.applyAll F d) :=
  Database.applyAll_keeps CampusDb.levels (fun w _ d => (w.apply_directory d).2) d

/-- What a promotion upholds on the campus, it upholds here. -/
theorem upholds_onCampus (op : PromoteInstitutionOp) :
    Upholds SameDirectory (fun d => Commits d (promoteInstitution op)) s (onCampus op.program) fun _ _ => True := by
  have campus : Upholds SameLevels (Promotes op.institutionId fun _ _ => True) s.campus op.program fun _ _ => True :=
    upholds_promoteInstitution guarded_levels (fun h => h) sameLevels_applyAll op fun _ _ _ _ _ _ => trivial
  refine campus.embed embeds_campus sameDirectory_refl SameDirectory.trans
    (fun hd => congrArg Directory.levels hd) (fun {d F} h => ?_) fun {F d} _ _ => directory_applyAll (fun w mem => ?_) d
  · obtain rfl | tx := h
    · exact .nothing _
    · exact .promotes tx
  · obtain ⟨w, -, rfl⟩ := List.mem_map.1 mem
    rfl

/-- Whatever the others do to the sessions, a call commits only what it is said to. -/
theorem upholds_program (op : SessionOp) :
    Upholds SameDirectory (fun d => Commits d op) s op.program fun _ _ => True := by
  cases op with
  | createAcademicSession dto newId => exact upholds_create dto newId
  | updateAcademicSession id dto => exact upholds_update id dto
  | getOrCreateDefaultSession institutionId currentYear newId =>
    exact .bind guarded_directory (upholds_default institutionId currentYear newId)
      fun _ _ _ _ => .ret guarded_directory trivial
  | promoteInstitution op => exact upholds_onCampus op

end SessionOp

end Heightt.Campus
