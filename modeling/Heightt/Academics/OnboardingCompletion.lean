import Heightt.Academics.Placement
import Heightt.ReadCommitted.Alone

/-!
# Completed onboarding

The calls that complete an onboarding store so in the profile, and the status reads it off the
profile and the student's profile, and sets a profile back that claims more than there is.
-/

namespace Heightt.Campus

open Store ReadCommitted Prog
open OnboardingService (names completed setBack personalInfoCompleted institutionInfoCompleted status)

/-- The profile of the user says that the onboarding is completed, and what the status asks for is there. -/
def Onboarded (d : AcademicsDb) (userId : String) : Prop :=
  (∃ p ∈ d.userProfiles.find userId, p.onboardingCompleted = true ∧ personalInfoCompleted p = true) ∧
    institutionInfoCompleted (d.campus.studentOf userId) = true

/-- Placing a user leaves the other users' profiles, and completes the user's. -/
theorem studentOf_upsert {d : AcademicsDb} {s : StudentProfile} (free : d.campus.studentOf s.userId = none →
    d.campus.students.find s.id = none) (userId : String) :
    ((AcademicsStmt.upsertStudent s).apply d).campus.studentOf userId =
      if userId = s.userId then some (((d.campus.studentOf s.userId).map s.place).getD s)
      else d.campus.studentOf userId := by
  simp only [AcademicsStmt.apply]
  split
  · rename_i old found
    have own : old.userId = s.userId :=
      StudentOp.findFirst_holds (p := fun r : StudentProfile => r.userId = s.userId) found
    have moved : (d.campus.students.modify old.id s.place fun _ => rfl).findFirst (fun r => decide (r.userId = userId)) =
        (d.campus.studentOf userId).map fun r => if r.id = old.id then s.place r else r :=
      Table.findFirst_modify _ _ s.place (fun _ => rfl) fun _ => rfl
    refine moved.trans ?_
    split
    · rename_i same
      rw [same, found]
      exact congrArg some (if_pos rfl)
    · rename_i other
      cases there : d.campus.studentOf userId with
      | none => rfl
      | some r =>
        have ofUser : r.userId = userId :=
          StudentOp.findFirst_holds (p := fun r : StudentProfile => r.userId = userId) there
        refine congrArg some (if_neg fun same => other ?_)
        have row : r = old := Table.eq_of_key (List.mem_of_find?_eq_some there) (List.mem_of_find?_eq_some found) same
        rw [← ofUser, row, own]
  · rename_i none
    have inserted : (d.campus.students.insert s).findFirst (fun r => decide (r.userId = userId)) =
        (d.campus.studentOf userId).or (if decide (s.userId = userId) then some s else Option.none) :=
      Table.findFirst_insert (free none) _
    refine inserted.trans ?_
    by_cases same : userId = s.userId
    · rw [if_pos (decide_eq_true same.symm), if_pos same, same, none]
      rfl
    · rw [if_neg (by simpa using Ne.symm same), if_neg same, Option.or_none]

/-- What is there of another user is the same. -/
structure SparesOthers (userId : String) (s d : AcademicsDb) : Prop where
  profile : ∀ u, u ≠ userId → d.userProfiles.find u = s.userProfiles.find u
  student : ∀ u, u ≠ userId → d.campus.studentOf u = s.campus.studentOf u

namespace SparesOthers

variable {userId : String} {d : AcademicsDb}

theorem refl (d : AcademicsDb) : SparesOthers userId d d := ⟨fun _ _ => rfl, fun _ _ => rfl⟩

theorem trans {a b c : AcademicsDb} (h : SparesOthers userId a b) (h' : SparesOthers userId b c) : SparesOthers userId a c :=
  ⟨fun u other => (h'.profile u other).trans (h.profile u other),
    fun u other => (h'.student u other).trans (h.student u other)⟩

theorem onboarded {d' : AcademicsDb} (h : SparesOthers userId d d') {u : String} (other : u ≠ userId)
    (onboarded : Onboarded d u) : Onboarded d' u := by
  rw [Onboarded, h.profile u other, h.student u other]
  exact onboarded

end SparesOthers

/-- The statement leaves the profiles of users and students alone. -/
def AcademicsStmt.sparesProfiles : AcademicsStmt → Bool
  | leaveAcademic _ | joinAsStudent _ | approveJoinRequest _ | campus (.upsertRecord _) | campus .createActivityLog => true
  | _ => false

theorem AcademicsStmt.spares_profiles {w : AcademicsStmt} (h : w.sparesProfiles = true) (d : AcademicsDb) :
    (w.apply d).userProfiles = d.userProfiles ∧ (w.apply d).campus.students = d.campus.students := by
  cases w with
  | campus w =>
    cases w with
    | upsertRecord r => exact ⟨rfl, rfl⟩
    | createActivityLog => exact ⟨rfl, rfl⟩
    | _ => cases h
  | leaveAcademic userId => exact ⟨rfl, rfl⟩
  | joinAsStudent m =>
    simp only [apply]
    split <;> exact ⟨rfl, rfl⟩
  | approveJoinRequest r =>
    simp only [apply]
    split <;> exact ⟨rfl, rfl⟩
  | _ => cases h

theorem spares_profilesAll {F : List AcademicsStmt} (h : ∀ w ∈ F, w.sparesProfiles = true) (d : AcademicsDb) :
    (Database.applyAll F d).userProfiles = d.userProfiles ∧ (Database.applyAll F d).campus.students = d.campus.students :=
  ⟨Database.applyAll_keeps AcademicsDb.userProfiles (fun w mem d => (w.spares_profiles (h w mem) d).1) d,
    Database.applyAll_keeps (fun d => d.campus.students) (fun w mem d => (w.spares_profiles (h w mem) d).2) d⟩

theorem find_profile (d : AcademicsDb) (userId : String) (patch : UserProfilePatch) (u : String) :
    ((AcademicsStmt.updateUserProfile userId patch).apply d).userProfiles.find u =
      if u = userId then (d.userProfiles.find u).map patch.apply else d.userProfiles.find u := by
  have found := Table.find_modify d.userProfiles userId patch.apply (fun _ => rfl) u
  by_cases same : u = userId
  · rw [if_pos same]
    exact found.trans (if_pos same)
  · rw [if_neg same]
    exact found.trans (if_neg same)

section Writes

variable {d : AcademicsDb} {userId : String}

theorem sparesOthers_profile (patch : UserProfilePatch) :
    SparesOthers userId d ((AcademicsStmt.updateUserProfile userId patch).apply d) :=
  ⟨fun u other => (find_profile d userId patch u).trans (if_neg other), fun _ _ => rfl⟩

theorem sparesOthers_of_same {d' : AcademicsDb} (same : d'.userProfiles = d.userProfiles ∧
    d'.campus.students = d.campus.students) : SparesOthers userId d d' := by
  refine ⟨fun _ _ => by rw [same.1], fun u _ => ?_⟩
  rw [CampusDb.studentOf, CampusDb.studentOf, same.2]

theorem userProfiles_upsert (s : StudentProfile) (d : AcademicsDb) :
    ((AcademicsStmt.upsertStudent s).apply d).userProfiles = d.userProfiles := by
  simp only [AcademicsStmt.apply]
  split <;> rfl

theorem institutionInfo_place {p : Placement} (complete : p.institutionId ≠ "" ∧ p.facultyId ≠ "" ∧
    p.departmentId ≠ "" ∧ p.academicLevelId ≠ "" ∧ p.matricNumber ≠ "") (newId : String) (now : Nat)
    (old : Option StudentProfile) :
    institutionInfoCompleted (some ((old.map (p.student userId newId now).place).getD (p.student userId newId now))) =
      true := by
  obtain ⟨institution, faculty, department, level, matric⟩ := complete
  have there {t : String} (h : t ≠ "") : (given (some t)).isSome = true := by
    rw [given_eq_some.2 ⟨rfl, h⟩]
    rfl
  cases old with
  | none => simp [institutionInfoCompleted, Placement.student, institution, faculty, department, there level, there matric]
  | some old =>
    simp [institutionInfoCompleted, StudentProfile.place, Placement.student, institution, faculty, department,
      there level, there matric]

theorem institutionInfo_step (d : AcademicsDb) (userId : String) (step : OnboardingStep) (u : String) :
    institutionInfoCompleted (((AcademicsStmt.stepStudent userId step).apply d).campus.studentOf u) =
      institutionInfoCompleted (d.campus.studentOf u) := by
  simp only [AcademicsStmt.apply]
  split
  · rename_i s _
    have stepped := Table.findFirst_modify d.campus.students s.id ({ · with onboardingStep := step }) (fun _ => rfl)
      (p := fun r => decide (r.userId = u)) fun _ => rfl
    refine (congrArg (fun o => institutionInfoCompleted o) stepped).trans ?_
    show institutionInfoCompleted ((d.campus.studentOf u).map _) = _
    cases d.campus.studentOf u with
    | none => rfl
    | some r =>
      show institutionInfoCompleted (some (if r.id = s.id then { r with onboardingStep := step } else r)) = _
      split <;> rfl
  · rfl

/-- What a placement leaves of the profiles. -/
theorem enrols_written {newId : String} {p : Placement} {F G : List AcademicsStmt} (enrols : Enrols d userId newId p F)
    (valid : Database.violation (F ++ G) d = none) (spares : ∀ w ∈ G, w.sparesProfiles = true)
    (complete : p.institutionId ≠ "" ∧ p.facultyId ≠ "" ∧ p.departmentId ≠ "" ∧ p.academicLevelId ≠ "" ∧
      p.matricNumber ≠ "") :
    (Database.applyAll (F ++ G) d).userProfiles = d.userProfiles ∧
      institutionInfoCompleted ((Database.applyAll (F ++ G) d).campus.studentOf userId) = true ∧
      SparesOthers userId d (Database.applyAll (F ++ G) d) := by
  obtain ⟨-, -⟩ := enrols
  rename_i now studentId sessionId
  have free := free_of_upsert (Database.violation_cons.1 valid).1
  have student := studentOf_upsert (s := p.student userId newId now) free
  have rest := spares_profilesAll (F := .campus (.upsertRecord (p.record studentId sessionId)) :: G) (fun w mem => by
    obtain rfl | mem := List.mem_cons.1 mem
    · rfl
    · exact spares w mem) ((AcademicsStmt.upsertStudent (p.student userId newId now)).apply d)
  refine ⟨rest.1.trans (userProfiles_upsert _ d), ?_, ?_⟩
  · have same : (Database.applyAll (.campus (.upsertRecord (p.record studentId sessionId)) :: G)
        ((AcademicsStmt.upsertStudent (p.student userId newId now)).apply d)).campus.studentOf userId =
        ((AcademicsStmt.upsertStudent (p.student userId newId now)).apply d).campus.studentOf userId := by
      rw [CampusDb.studentOf, rest.2]
      rfl
    refine (congrArg (fun o => institutionInfoCompleted o) (same.trans ((student userId).trans (if_pos rfl)))).trans ?_
    exact institutionInfo_place complete newId now _
  · refine SparesOthers.trans ⟨fun u _ => by rw [userProfiles_upsert], fun u other => ?_⟩ (sparesOthers_of_same rest)
    exact (student u).trans (if_neg other)

end Writes

/-! ## The calls -/

def AcademicsStmt.writesProfile : AcademicsStmt → Bool
  | updateUserProfile .. => true
  | _ => false

namespace StudentOp

/-- A call of the onboarding. -/
def onboards : StudentOp → Bool
  | completeOnboarding .. | updateInstitutionInfo .. | updatePersonalInfo .. | getOnboardingStatus _ => true
  | _ => false

/-- What the call finds when it writes the profile makes up for what its request leaves out: the names, and
without picked units the student's profile. A profile is set back only while it is still incomplete. -/
def Rounds (d : AcademicsDb) : StudentOp → Prop
  | completeOnboarding _ userId body _ =>
    (∀ p ∈ d.userProfiles.find userId, personalInfoCompleted ((names body.firstName body.lastName).apply p) = true) ∧
      (body.picked = none → institutionInfoCompleted (d.campus.studentOf userId) = true)
  | updateInstitutionInfo userId dto _ =>
    (∀ p ∈ d.userProfiles.find userId, personalInfoCompleted p = true) ∧ dto.matricNumber ≠ ""
  | updatePersonalInfo userId dto =>
    ∀ p ∈ d.userProfiles.find userId, p.onboardingCompleted = true → dto.firstName ≠ "" ∧ dto.lastName ≠ ""
  | getOnboardingStatus userId => institutionInfoCompleted (d.campus.studentOf userId) = false
  | _ => True

end StudentOp

section Commits

variable {d : AcademicsDb} {op : StudentOp} {F : List AcademicsStmt}

/-- What was completed stays so, and what the commit completes is. -/
def KeepsOnboarded (d : AcademicsDb) (F : List AcademicsStmt) : Prop :=
  (∀ u, Onboarded d u → Onboarded (Database.applyAll F d) u) ∧
    ∀ u now, .updateUserProfile u (completed now) ∈ F → Onboarded (Database.applyAll F d) u

theorem keepsOnboarded_of (userId : String) (others : SparesOthers userId d (Database.applyAll F d))
    (own : Onboarded (Database.applyAll F d) userId) (only : ∀ u patch, .updateUserProfile u patch ∈ F → u = userId) :
    KeepsOnboarded d F := by
  refine ⟨fun u onboarded => ?_, fun u now mem => only u _ mem ▸ own⟩
  by_cases same : u = userId
  · exact same ▸ own
  · exact others.onboarded same onboarded

theorem find_of_valid {userId : String} {patch : UserProfilePatch}
    (valid : AcademicsStmt.check (.updateUserProfile userId patch) d = none) :
    ∃ p, d.userProfiles.find userId = some p := by
  cases found : d.userProfiles.find userId with
  | some p => exact ⟨p, rfl⟩
  | none =>
    have refused : AcademicsStmt.check (.updateUserProfile userId patch) d = some .recordNotFound := by
      simp [AcademicsStmt.check, CampusStmt.existing, found]
    rw [valid] at refused
    cases refused

theorem profile_written {userId : String} {p : UserProfile} (found : d.userProfiles.find userId = some p)
    (patch : UserProfilePatch) :
    ((AcademicsStmt.updateUserProfile userId patch).apply d).userProfiles.find userId = some (patch.apply p) := by
  rw [find_profile, if_pos rfl, found]
  rfl

theorem complete_of_belongs {p : Placement} (belongs : p.Belongs d.directory) (named : d.directory.Named)
    (institutions : d.directory.institutions.find "" = none) (matric : p.matricNumber ≠ "") :
    p.institutionId ≠ "" ∧ p.facultyId ≠ "" ∧ p.departmentId ≠ "" ∧ p.academicLevelId ≠ "" ∧ p.matricNumber ≠ "" := by
  obtain ⟨institution, ⟨f, faculty, -⟩, ⟨q, department, -⟩, ⟨l, level, -⟩⟩ := belongs
  refine ⟨fun empty => ?_, fun empty => ?_, fun empty => ?_, fun empty => ?_, matric⟩
  · rw [empty, institutions] at institution
    cases institution
  · rw [empty, named.faculties] at faculty
    cases faculty
  · rw [empty, named.departments] at department
    cases department
  · rw [empty, named.levels] at level
    cases level

theorem spares_joining {w : AcademicsStmt} (h : w.joins = true) : w.sparesProfiles = true := by
  cases w with
  | leaveAcademic | joinAsStudent | approveJoinRequest => rfl
  | _ => cases h

theorem no_profile_enrols {userId newId : String} {p : Placement} (enrols : Enrols d userId newId p F)
    (w : AcademicsStmt) (mem : w ∈ F) : w.writesProfile = false := by
  obtain ⟨-, -⟩ := enrols
  simp only [List.mem_cons, List.not_mem_nil, or_false] at mem
  obtain rfl | rfl := mem
  all_goals rfl

theorem keepsOnboarded_commit (commits : StudentOp.Commits d op F) (onboards : op.onboards = true)
    (valid : Database.violation F d = none) (rounds : (∃ w ∈ F, w.writesProfile = true) → op.Rounds d)
    (named : d.directory.Named) (institutions : d.directory.institutions.find "" = none) : KeepsOnboarded d F := by
  cases commits with
  | nothing => exact ⟨fun _ h => h, fun _ _ mem => (List.not_mem_nil mem).elim⟩
  | logs =>
    refine ⟨fun _ h => h, fun u now mem => ?_⟩
    cases List.mem_singleton.1 mem
  | creates => cases onboards
  | updates => cases onboards
  | records => cases onboards
  | advances => cases onboards
  | promotes => cases onboards
  | finishes unpicked =>
    rename_i fold userId body new now
    obtain ⟨personal, institution⟩ := rounds ⟨_, List.mem_cons_self, rfl⟩
    obtain ⟨p, found⟩ := find_of_valid (Database.violation_cons.1 valid).1
    have written := profile_written (profile_written found (names body.firstName body.lastName)) (completed now)
    refine keepsOnboarded_of userId ((sparesOthers_profile _).trans (sparesOthers_profile _))
      ⟨⟨_, written, rfl, personal p found⟩, institution unpicked⟩ fun u patch mem => ?_
    simp only [List.mem_cons, List.not_mem_nil, or_false, AcademicsStmt.updateUserProfile.injEq, reduceCtorEq] at mem
    obtain ⟨rfl, -⟩ | ⟨rfl, -⟩ := mem
    all_goals rfl
  | placesByNames matric enrols joins =>
    rename_i fold userId body new now p enrolment joined
    obtain ⟨personal, -⟩ := rounds ⟨_, List.mem_cons_self, rfl⟩
    obtain ⟨valid₁, valid₂⟩ := Database.violation_cons.1 valid
    obtain ⟨old, found⟩ := find_of_valid valid₁
    have enrols₁ := enrols.later
      (AcademicsStmt.stays (w := .updateUserProfile userId (names body.firstName body.lastName)) rfl d)
    have belongs : p.Belongs d.directory := enrols.belongs
    rw [← List.append_assoc] at valid₂
    obtain ⟨profiles, institution, others⟩ := enrols_written enrols₁ (Database.violation_append.1 valid₂).1
      (fun w mem => spares_joining (joins w mem))
      (complete_of_belongs belongs named institutions (given_eq_some.1 matric).2)
    have named₁ := profile_written found (names body.firstName body.lastName)
    rw [← profiles] at named₁
    have written := profile_written named₁ (completed now)
    have same : Database.applyAll (.updateUserProfile userId (names body.firstName body.lastName) :: (enrolment ++
        (joined ++ [.updateUserProfile userId (completed now), .campus .createActivityLog]))) d =
        (AcademicsStmt.updateUserProfile userId (completed now)).apply (Database.applyAll (enrolment ++ joined)
          ((AcademicsStmt.updateUserProfile userId (names body.firstName body.lastName)).apply d)) := by
      rw [← List.append_assoc, Database.applyAll_cons, Database.applyAll_append]
      rfl
    refine keepsOnboarded_of userId ?_ ?_ fun u patch mem => ?_
    · rw [same]
      exact (sparesOthers_profile _).trans (others.trans (sparesOthers_profile _))
    · rw [same]
      exact ⟨⟨_, written, rfl, personal old found⟩, institution⟩
    · simp only [List.mem_cons, List.mem_append, List.not_mem_nil, or_false, AcademicsStmt.updateUserProfile.injEq,
        reduceCtorEq] at mem
      obtain ⟨rfl, -⟩ | mem | mem | ⟨rfl, -⟩ := mem
      · rfl
      · exact absurd (no_profile_enrols enrols _ mem) Bool.noConfusion
      · exact absurd (joins _ mem) Bool.noConfusion
      · rfl
  | placesByIds enrols joins =>
    rename_i userId dto new now enrolment joined
    obtain ⟨personal, matric⟩ := rounds ⟨.updateUserProfile userId (completed now), by simp, rfl⟩
    obtain ⟨valid₁, valid₂⟩ := Database.violation_append.1 valid
    obtain ⟨profiles, institution, others⟩ := enrols_written (G := []) enrols (by rwa [List.append_nil])
      (fun w mem => (List.not_mem_nil mem).elim) (complete_of_belongs enrols.belongs named institutions matric)
    rw [List.append_nil] at profiles institution others
    obtain ⟨old, found⟩ := find_of_valid (Database.violation_cons.1 valid₂).1
    have written := profile_written found (completed now)
    rw [profiles] at found
    have rest := spares_profilesAll (F := joined ++ [.campus .createActivityLog]) (fun w mem => by
      obtain mem | mem := List.mem_append.1 mem
      · exact spares_joining (joins w mem)
      · rw [List.mem_singleton.1 mem]
        rfl) ((AcademicsStmt.updateUserProfile userId (completed now)).apply (Database.applyAll enrolment d))
    refine keepsOnboarded_of userId ?_ ?_ fun u patch mem => ?_
    · rw [Database.applyAll_append]
      exact others.trans ((sparesOthers_profile _).trans (sparesOthers_of_same rest))
    · rw [Database.applyAll_append]
      refine ⟨⟨(completed now).apply old, ?_, rfl, personal old found⟩, ?_⟩
      · exact (congrArg (fun t => t.find userId) rest.1).trans written
      · have same := congrArg (fun t => institutionInfoCompleted (t.findFirst fun s => s.userId = userId)) rest.2
        exact same.trans institution
    · simp only [List.mem_cons, List.mem_append, List.not_mem_nil, or_false, AcademicsStmt.updateUserProfile.injEq,
        reduceCtorEq] at mem
      obtain mem | ⟨rfl, -⟩ | mem := mem
      · exact absurd (no_profile_enrols enrols _ mem) Bool.noConfusion
      · rfl
      · exact absurd (joins _ mem) Bool.noConfusion
  | renames =>
    rename_i userId dto
    have names_kept := rounds ⟨_, List.mem_cons_self, rfl⟩
    refine ⟨fun u onboarded => ?_, fun u now mem => ?_⟩
    · by_cases same : u = userId
      · subst same
        obtain ⟨⟨p, found, done, -⟩, institution⟩ := onboarded
        obtain ⟨first, last⟩ := names_kept p found done
        refine ⟨⟨_, profile_written found (names (some dto.firstName) (some dto.lastName)), done, ?_⟩, institution⟩
        simp [personalInfoCompleted, UserProfilePatch.apply, names, first, last]
      · exact (sparesOthers_profile _).onboarded same onboarded
    · have same := List.mem_singleton.1 mem
      simp [completed, names] at same
  | steps =>
    rename_i userId dto
    refine ⟨fun u onboarded => ?_, fun u now mem => ?_⟩
    · obtain ⟨⟨p, found, rest⟩, institution⟩ := onboarded
      refine ⟨⟨p, ?_, rest⟩, (institutionInfo_step d userId .institution u).trans institution⟩
      show ((AcademicsStmt.stepStudent userId .institution).apply d).userProfiles.find u = some p
      simp only [AcademicsStmt.apply]
      split <;> exact found
    · cases List.mem_singleton.1 mem
  | setsBack =>
    rename_i userId
    have incomplete : institutionInfoCompleted (d.campus.studentOf userId) = false :=
      rounds ⟨_, List.mem_cons_self, rfl⟩
    refine ⟨fun u onboarded => ?_, fun u now mem => ?_⟩
    · refine (sparesOthers_profile setBack).onboarded (fun same => ?_) onboarded
      rw [same] at onboarded
      rw [onboarded.2] at incomplete
      cases incomplete
    · have same := List.mem_singleton.1 mem
      simp [completed, setBack] at same

end Commits

/-! ## The runs -/

/-- Every profile is of a user. -/
def ProfilesOwned (d : AcademicsDb) : Prop := ∀ p ∈ d.userProfiles.rows, p.userId ∈ d.campus.users

theorem CampusStmt.users_apply (w : CampusStmt) (d : CampusDb) : (w.apply d).users = d.users := by
  cases w <;> unfold CampusStmt.apply <;> dsimp only <;> try split
  all_goals rfl

theorem AcademicsStmt.users_apply (w : AcademicsStmt) (d : AcademicsDb) : (w.apply d).campus.users = d.campus.users := by
  cases w with
  | campus w => exact w.users_apply d.campus
  | _ =>
    unfold apply
    dsimp only
    try split
    all_goals rfl

theorem ProfilesOwned.applyAll {d : AcademicsDb} (h : ProfilesOwned d) (F : List AcademicsStmt) :
    ProfilesOwned (Database.applyAll F d) := by
  induction F generalizing d with
  | nil => exact h
  | cons w F ih =>
    refine ih fun p mem => ?_
    rw [show (Database.apply w d).campus.users = d.campus.users from w.users_apply d]
    revert p
    show ∀ p ∈ (w.apply d).userProfiles.rows, p.userId ∈ d.campus.users
    cases w with
    | updateUserProfile userId patch =>
      exact Table.forall_modify (f := patch.apply) (fun _ => rfl) h fun p found => h p (Table.find_mem found)
    | _ =>
      unfold AcademicsStmt.apply
      dsimp only
      try split
      all_goals exact h

/-- Asked for when no other call runs, the status of the user is completed, and nothing is written. -/
def ReportsCompleted (d : AcademicsDb) (x : Surroundings) (userId : String) : Prop :=
  ∃ st : OnboardingService.OnboardingStatus,
    (OnboardingService.getOnboardingStatus userId).alone [] d x = some ⟨.ok st, [], d, x⟩ ∧ st.onboardingCompleted = true

/-- **The status** is completed if the names are there and the student's profile is complete. -/
theorem reportsCompleted_iff {d : AcademicsDb} {userId : String} {p : UserProfile}
    (found : d.userProfiles.find userId = some p) (owned : ProfilesOwned d) (x : Surroundings) :
    ReportsCompleted d x userId ↔
      personalInfoCompleted p = true ∧ institutionInfoCompleted (d.campus.studentOf userId) = true := by
  have mem : userId ∈ d.campus.users := Table.find_key found ▸ owned p (Table.find_mem found)
  have user : ∃ u, (d.campus.users.find? fun u => u = userId) = some u :=
    Option.isSome_iff_exists.1 (List.find?_isSome.2 ⟨userId, mem, decide_eq_true rfl⟩)
  obtain ⟨u, user⟩ := user
  unfold ReportsCompleted
  simp only [OnboardingService.getOnboardingStatus, bind_eq, alone_outside, alone_orThrow, user, found,
    OnboardingService.fixInconsistency]
  by_cases institution : institutionInfoCompleted (d.campus.studentOf userId) = true
  · have kept : ¬(p.onboardingCompleted ∧ ¬institutionInfoCompleted (d.campus.studentOf userId)) :=
      fun both => both.2 institution
    simp only [if_neg kept]
    constructor
    · rintro ⟨st, outcome, done⟩
      have outcome : some (Outcome.mk (.ok (status p (d.campus.studentOf userId))) [] d x) =
          some ⟨Except.ok st, [], d, x⟩ := outcome
      rw [← Except.ok.inj (congrArg Outcome.result (Option.some.inj outcome))] at done
      exact ⟨(Bool.and_eq_true_iff.1 done).1, institution⟩
    · rintro ⟨personal, -⟩
      exact ⟨OnboardingService.status p (d.campus.studentOf userId), rfl, by simp [OnboardingService.status, personal, institution]⟩
  · refine ⟨?_, fun both => absurd both.2 institution⟩
    rintro ⟨st, outcome, done⟩
    -- whether or not the profile is set back, the answer goes by the student's profile
    have incomplete (p : UserProfile) : (status p (d.campus.studentOf userId)).onboardingCompleted = false := by
      simp [status, institution]
    by_cases fixes : p.onboardingCompleted ∧ ¬institutionInfoCompleted (d.campus.studentOf userId)
    · have valid : Database.check (AcademicsStmt.updateUserProfile p.userId setBack) d = none := by
        have own : p.userId = userId := Table.find_key found
        simp [Database.check, AcademicsStmt.check, CampusStmt.existing, own, found]
      simp only [if_pos fixes, Prog.bind_assoc, alone_statement, valid] at outcome
      have outcome : some (Outcome.mk (.ok (status (setBack.apply p) (d.campus.studentOf userId))) []
          ((AcademicsStmt.updateUserProfile p.userId setBack).apply d) x) = some ⟨Except.ok st, [], d, x⟩ := outcome
      rw [← Except.ok.inj (congrArg Outcome.result (Option.some.inj outcome)), incomplete] at done
      cases done
    · simp only [if_neg fixes] at outcome
      have outcome : some (Outcome.mk (.ok (status p (d.campus.studentOf userId))) [] d x) =
          some ⟨Except.ok st, [], d, x⟩ := outcome
      rw [← Except.ok.inj (congrArg Outcome.result (Option.some.inj outcome)), incomplete] at done
      cases done

/-- A step that writes a profile makes up for what the request leaves out. -/
def CompletionsRound (ops : List StudentOp) (c : AcademicsSystem) : Effect AcademicsStmt CampusCall → Prop
  | .commit i _ F => ∀ op ∈ ops[i]?, (∃ w ∈ F, w.writesProfile = true) → op.Rounds c.db
  | _ => True

/-- **A completed onboarding stays completed**: in every interleaving of the calls of the onboarding in which each
call that completes one finds the rest of it there, a user for whom it was stored is reported as completed, and
asking for the status writes nothing. -/
theorem onboarding_stays_completed {db : AcademicsDb} {x : Surroundings} {ops : List StudentOp} {c : AcademicsSystem}
    (onboarding : ∀ op ∈ ops, op.onboards = true)
    (run : Reaches (CompletionsRound ops) (Config.start db x (ops.map StudentOp.program)) c)
    (named : db.directory.Named) (institutions : db.directory.institutions.find "" = none) (owned : ProfilesOwned db) :
    ∀ k ∈ c.log, ∀ userId now, .updateUserProfile userId (completed now) ∈ k.writes →
      ReportsCompleted c.db c.ext userId := by
  have kept := run.induct_of_calls guarded_stays (Ψ := fun op d => StudentOp.Commits d op) StudentOp.upholds_program
    (fun d log => d.directory = db.directory ∧ ProfilesOwned d ∧
      ∀ k ∈ log, ∀ userId now, .updateUserProfile userId (completed now) ∈ k.writes → Onboarded d userId)
    ⟨rfl, owned, fun _ mem => (List.not_mem_nil mem).elim⟩ ?_
  · obtain ⟨-, owned, stored⟩ := kept
    intro k mem userId now wrote
    obtain ⟨⟨p, found, -, personal⟩, institution⟩ := stored k mem userId now wrote
    exact (reportsCompleted_iff found owned c.ext).2 ⟨personal, institution⟩
  · rintro c i nested F op hop commits valid rounds ⟨same, owned, stored⟩
    obtain ⟨stays, new⟩ := keepsOnboarded_commit commits (onboarding op (List.mem_of_getElem? hop)) valid
      (rounds op hop) (same ▸ named) (same ▸ institutions)
    refine ⟨commits.stays, commits.stays.directory.trans same, owned.applyAll F, fun k mem userId now wrote => ?_⟩
    obtain mem | mem := List.mem_append.1 mem
    · exact stays userId (stored k mem userId now wrote)
    · rw [List.mem_singleton.1 mem] at wrote
      exact new userId now wrote

/-- A user gives a name, picks a department by its identifier, finishes once more without picking any, and asks
for the status. -/
def onboardCid : List StudentOp :=
  [.updatePersonalInfo "cid" ⟨"Cid", "C"⟩, .updateInstitutionInfo "cid" (pickDepartment "M1" none) (userIds "cid"),
    .completeOnboarding id "cid" { isFresher := true } (userIds "cid"), .getOnboardingStatus "cid"]

/-- A user without a student's profile finishes with a name only. -/
def nameOnly : List StudentOp :=
  [.completeOnboarding id "cid" { firstName := some "Cid", lastName := some "C", isFresher := true } (userIds "cid")]

/-- Users who pick a department: one without a name, and one with an empty matric number. -/
def nameless : List StudentOp := [.updateInstitutionInfo "cid" (pickDepartment "M1" none) (userIds "cid")]

def matricless : List StudentOp := [.updateInstitutionInfo "ada" (pickDepartment "" none) (userIds "ada")]

/-- The user's profile was stored as completed. -/
def Stored (c : AcademicsSystem) (userId : String) : Prop :=
  ∃ k ∈ c.log, .updateUserProfile userId (completed 0) ∈ k.writes

instance (c : AcademicsSystem) (userId : String) : Decidable (Stored c userId) :=
  inferInstanceAs (Decidable (∃ k ∈ c.log, _))

instance (op : StudentOp) (d : AcademicsDb) : Decidable (op.Rounds d) :=
  match op with
  | .completeOnboarding _ userId body _ =>
    inferInstanceAs (Decidable ((∀ p ∈ d.userProfiles.find userId,
      personalInfoCompleted ((names body.firstName body.lastName).apply p) = true) ∧
        (body.picked = none → institutionInfoCompleted (d.campus.studentOf userId) = true)))
  | .updateInstitutionInfo userId dto _ =>
    inferInstanceAs (Decidable ((∀ p ∈ d.userProfiles.find userId, personalInfoCompleted p = true) ∧
      dto.matricNumber ≠ ""))
  | .updatePersonalInfo userId dto =>
    inferInstanceAs (Decidable (∀ p ∈ d.userProfiles.find userId, p.onboardingCompleted = true →
      dto.firstName ≠ "" ∧ dto.lastName ≠ ""))
  | .getOnboardingStatus userId =>
    inferInstanceAs (Decidable (institutionInfoCompleted (d.campus.studentOf userId) = false))
  | .createStudent .. | .updateStudent .. | .addAcademicRecord .. | .promoteInstitution _ => .isTrue trivial

instance (ops : List StudentOp) (c : AcademicsSystem) (eff : Effect AcademicsStmt CampusCall) :
    Decidable (CompletionsRound ops c eff) :=
  match eff with
  | .commit i _ F =>
    inferInstanceAs (Decidable (∀ op ∈ ops[i]?, (∃ w ∈ F, w.writesProfile = true) → op.Rounds c.db))
  | .internal | .fault _ | .called .. | .unsent .. => .isTrue trivial

instance (d : AcademicsDb) : Decidable (ProfilesOwned d) :=
  inferInstanceAs (Decidable (∀ p ∈ d.userProfiles.rows, p.userId ∈ d.campus.users))

theorem owned_collegeUnits : ProfilesOwned collegeUnits := by decide

/-- The calls are made one after the other. -/
theorem onboardCid_stays_completed : ∃ c : AcademicsSystem,
    Reaches (CompletionsRound onboardCid)
      (Config.start collegeUnits Surroundings.mk (onboardCid.map StudentOp.program)) c ∧
    c.threads.map Thread.returned = [true, true, true, true] ∧ ReportsCompleted c.db c.ext "cid" := by
  obtain ⟨c, run, returned, k, mem, wrote⟩ := Reaches.of_replay_any (CompletionsRound onboardCid)
    (Config.start collegeUnits Surroundings.mk (onboardCid.map StudentOp.program))
    (turns [(0, 10), (1, 31), (2, 7), (3, 4)])
    (fun c : AcademicsSystem => c.threads.map Thread.returned = [true, true, true, true] ∧ Stored c "cid")
    (by decide +kernel)
  have onboarding : ∀ op ∈ onboardCid, op.onboards = true := by
    intro op mem
    simp only [onboardCid, List.mem_cons, List.not_mem_nil, or_false] at mem
    obtain rfl | rfl | rfl | rfl := mem
    all_goals rfl
  exact ⟨c, run, returned, onboarding_stays_completed onboarding run named_collegeUnits (by decide)
    owned_collegeUnits k mem "cid" 0 wrote⟩

/-- The profile is there, and it or the student's profile lacks something. -/
def Lacks (d : AcademicsDb) (userId : String) : Prop :=
  ∃ p ∈ d.userProfiles.find userId, ¬(personalInfoCompleted p = true ∧
    institutionInfoCompleted (d.campus.studentOf userId) = true)

instance (d : AcademicsDb) (userId : String) : Decidable (Lacks d userId) :=
  inferInstanceAs (Decidable (∃ p ∈ d.userProfiles.find userId, _))

theorem not_reports_of_lacks {d : AcademicsDb} {userId : String} (lacks : Lacks d userId) (owned : ProfilesOwned d)
    (x : Surroundings) : ¬ReportsCompleted d x userId := by
  obtain ⟨p, found, lacks⟩ := lacks
  exact fun reports => lacks ((reportsCompleted_iff found owned x).1 reports)

/-- Without picked units, without a name, and with an empty matric number an onboarding is stored as completed,
and the status says otherwise. -/
theorem onboarding_not_completed :
    (∃ c : AcademicsSystem, Reaches (fun _ _ => True)
      (Config.start collegeUnits Surroundings.mk (nameOnly.map StudentOp.program)) c ∧
      c.threads.map Thread.returned = [true] ∧ Stored c "cid" ∧ ¬ReportsCompleted c.db c.ext "cid") ∧
    (∃ c : AcademicsSystem, Reaches (fun _ _ => True)
      (Config.start collegeUnits Surroundings.mk (nameless.map StudentOp.program)) c ∧
      c.threads.map Thread.returned = [true] ∧ Stored c "cid" ∧ ¬ReportsCompleted c.db c.ext "cid") ∧
    ∃ c : AcademicsSystem, Reaches (fun _ _ => True)
      (Config.start collegeUnits Surroundings.mk (matricless.map StudentOp.program)) c ∧
      c.threads.map Thread.returned = [true] ∧ Stored c "ada" ∧ ¬ReportsCompleted c.db c.ext "ada" := by
  refine ⟨?_, ?_, ?_⟩
  · obtain ⟨c, run, returned, stored, lacks, owned⟩ := Reaches.of_replay_any (fun _ _ => True)
      (Config.start collegeUnits Surroundings.mk (nameOnly.map StudentOp.program)) (turns [(0, 7)])
      (fun c : AcademicsSystem => c.threads.map Thread.returned = [true] ∧ Stored c "cid" ∧ Lacks c.db "cid" ∧
        ProfilesOwned c.db) (by decide +kernel)
    exact ⟨c, run, returned, stored, not_reports_of_lacks lacks owned c.ext⟩
  · obtain ⟨c, run, returned, stored, lacks, owned⟩ := Reaches.of_replay_any (fun _ _ => True)
      (Config.start collegeUnits Surroundings.mk (nameless.map StudentOp.program)) (turns [(0, 31)])
      (fun c : AcademicsSystem => c.threads.map Thread.returned = [true] ∧ Stored c "cid" ∧ Lacks c.db "cid" ∧
        ProfilesOwned c.db) (by decide +kernel)
    exact ⟨c, run, returned, stored, not_reports_of_lacks lacks owned c.ext⟩
  · obtain ⟨c, run, returned, stored, lacks, owned⟩ := Reaches.of_replay_any (fun _ _ => True)
      (Config.start collegeUnits Surroundings.mk (matricless.map StudentOp.program)) (turns [(0, 28)])
      (fun c : AcademicsSystem => c.threads.map Thread.returned = [true] ∧ Stored c "ada" ∧ Lacks c.db "ada" ∧
        ProfilesOwned c.db) (by decide +kernel)
    exact ⟨c, run, returned, stored, not_reports_of_lacks lacks owned c.ext⟩

end Heightt.Campus
