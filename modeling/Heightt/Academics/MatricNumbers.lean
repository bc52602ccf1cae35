import Heightt.Academics.Placement

/-!
# Matric numbers

No constraint of the database keeps two profiles from having one matric number. Most calls
look for another profile that has the number before they write it.
-/

namespace Heightt.Campus

open Store ReadCommitted Prog
open OnboardingService (names completed placeByIds placeByNames otherWithMatric)

/-- No two profiles have the same matric number, and no two are of the same user. -/
structure AcademicsDb.Numbered (d : AcademicsDb) : Prop where
  matrics : d.campus.students.UniqueBy StudentProfile.matricNumber
  users : d.campus.students.UniqueBy fun s => some s.userId

/-- The statement may give a profile a number. -/
def AcademicsStmt.numbers : AcademicsStmt → Bool
  | createStudent _ | upsertStudent _ | updateStudent .. => true
  | _ => false

/-- No profile of another user has the number that the statement gives. -/
def AcademicsStmt.MatricFree (d : AcademicsDb) : AcademicsStmt → Prop
  | createStudent s | upsertStudent s => ∀ m ∈ s.matricNumber, ∀ r ∈ d.campus.students.rows, r.userId ≠ s.userId →
      r.matricNumber ≠ some m
  | updateStudent id patch => ∀ m ∈ patch.matricNumber.toOption, ∀ r ∈ d.campus.students.rows, r.id ≠ id →
      r.matricNumber ≠ some m
  | _ => True

theorem AcademicsStmt.matricFree_of_quiet {w : AcademicsStmt} (quiet : w.numbers = false) (d : AcademicsDb) :
    w.MatricFree d := by
  cases w with
  | createStudent s => cases quiet
  | upsertStudent s => cases quiet
  | updateStudent id patch => cases quiet
  | _ => trivial

namespace AcademicsDb.Numbered

variable {d : AcademicsDb}

theorem of_students {d' : AcademicsDb} (h : d.Numbered) (same : d'.campus.students = d.campus.students) : d'.Numbered := by
  refine ⟨?_, ?_⟩
  · rw [same]
    exact h.matrics
  · rw [same]
    exact h.users

theorem quiet {w : AcademicsStmt} (h : d.Numbered) (quiet : w.numbers = false) : (w.apply d).Numbered := by
  by_cases spares : w.sparesStudents = true
  · exact h.of_students (AcademicsStmt.spares spares d).1
  · cases w with
    | campus w =>
      cases w with
      | upsertRecord r => exact h.of_students rfl
      | updateStudent id patch => exact
        ⟨h.matrics.modify_same (g := patch.apply) (fun _ => rfl) fun _ => rfl,
          h.users.modify_same (g := patch.apply) (fun _ => rfl) fun _ => rfl⟩
      | _ => exact absurd rfl spares
    | createRecord r => exact h.of_students rfl
    | stepStudent userId step =>
      simp only [AcademicsStmt.apply]
      split
      · exact ⟨h.matrics.modify_same (g := ({ · with onboardingStep := step })) (fun _ => rfl) fun _ => rfl,
          h.users.modify_same (g := ({ · with onboardingStep := step })) (fun _ => rfl) fun _ => rfl⟩
      · exact h
    | createStudent s => cases quiet
    | upsertStudent s => cases quiet
    | updateStudent id patch => cases quiet
    | _ => exact absurd rfl spares

theorem quietAll {F : List AcademicsStmt} (h : d.Numbered) (quiet : ∀ w ∈ F, w.numbers = false) :
    (Database.applyAll F d).Numbered := by
  induction F generalizing d with
  | nil => exact h
  | cons w F ih =>
    exact ih (h.quiet (quiet w List.mem_cons_self)) fun w mem => quiet w (List.mem_cons_of_mem _ mem)

/-- A user who has no profile gets one. -/
theorem insert {s : StudentProfile} (h : d.Numbered) (none : d.campus.studentOf s.userId = none)
    (free : (AcademicsStmt.createStudent s).MatricFree d) :
    AcademicsDb.Numbered { d with campus.students := d.campus.students.insert s } := by
  have others (r : StudentProfile) (mem : r ∈ d.campus.students.rows) : r.userId ≠ s.userId := by
    have other := List.find?_eq_none.1 none r mem
    exact fun same => other (decide_eq_true same)
  refine ⟨h.matrics.insert fun m given r mem => free m given r mem (others r mem), ?_⟩
  exact h.users.insert fun u own r mem same => others r mem (Option.some.inj (same.trans own.symm))

/-- **A number stays that of one profile**, if it is free when it is given. -/
theorem apply {w : AcademicsStmt} (h : d.Numbered) (valid : w.check d = none) (free : w.MatricFree d) :
    (w.apply d).Numbered := by
  cases w with
  | createStudent s =>
    refine h.insert ?_ free
    by_contra taken
    have refused : CampusStmt.unique ((d.campus.students.find s.id).isSome ∨ (d.campus.studentOf s.userId).isSome) =
        some .uniqueConstraint := if_pos (.inr (Option.isSome_iff_ne_none.2 taken))
    have passes := (Option.or_eq_none_iff.1 valid).1
    rw [show CampusStmt.unique ((d.campus.students.find s.id).isSome ∨ (d.campus.studentOf s.userId).isSome) = none
      from passes] at refused
    cases refused
  | upsertStudent s =>
    simp only [AcademicsStmt.apply]
    split
    · rename_i old found
      have own : old.userId = s.userId :=
        StudentOp.findFirst_holds (p := fun r : StudentProfile => r.userId = s.userId) found
      refine ⟨h.matrics.modify (g := s.place) (fun _ => rfl) fun r _ m given t mem other => ?_,
        h.users.modify_same (g := s.place) (fun _ => rfl) fun _ => rfl⟩
      refine free m given t mem fun same => other ?_
      exact h.users t mem old (List.mem_of_find?_eq_some found) s.userId (congrArg some same) (congrArg some own)
    · exact h.insert ‹_› free
  | updateStudent id patch =>
    refine ⟨h.matrics.modify (g := patch.apply) (fun _ => rfl) fun r found m given t mem other => ?_,
      h.users.modify_same (g := patch.apply) (fun _ => rfl) fun _ => rfl⟩
    have given : m ∈ patch.matricNumber.onto r.matricNumber := given
    cases gave : patch.matricNumber with
    | value m' =>
      rw [gave] at given
      obtain rfl : m' = m := Option.some.inj given
      exact free m' (by rw [gave]; rfl) t mem other
    | absent =>
      rw [gave] at given
      intro taken
      exact other ((h.matrics t mem r (Table.find_mem found) m taken given).trans (Table.find_key found))
    | null =>
      rw [gave] at given
      cases given
  | _ => exact h.quiet rfl

end AcademicsDb.Numbered

/-- What a call commits gives a number to one profile at most, and the number is free. -/
theorem numbered_commit {d : AcademicsDb} {op : StudentOp} {F : List AcademicsStmt} (h : d.Numbered)
    (commits : StudentOp.Commits d op F) (valid : Database.violation F d = none) (free : ∀ w ∈ F, w.MatricFree d) :
    (Database.applyAll F d).Numbered := by
  have joining {w : AcademicsStmt} (h : w.joins = true) : w.numbers = false := by
    cases w with
    | leaveAcademic | joinAsStudent | approveJoinRequest => rfl
    | _ => cases h
  have placing {d : AcademicsDb} {userId newId : String} {p : Placement} {F G : List AcademicsStmt} (h : d.Numbered)
      (enrols : Enrols d userId newId p F) (valid : Database.violation (F ++ G) d = none)
      (free : ∀ w ∈ F, w.MatricFree d) (quiet : ∀ w ∈ G, w.numbers = false) :
      (Database.applyAll (F ++ G) d).Numbered := by
    obtain ⟨-, -⟩ := enrols
    have placed := h.apply (Database.violation_cons.1 valid).1 (free _ List.mem_cons_self)
    refine placed.quietAll fun w mem => ?_
    obtain rfl | mem := List.mem_cons.1 mem
    · rfl
    · exact quiet w mem
  cases commits with
  | creates | updates | advances =>
    exact h.apply (Database.violation_cons.1 valid).1 (free _ List.mem_cons_self)
  | placesByNames matric enrols joins =>
    rename_i fold userId body new now p enrolment joined
    refine placing (h.quiet (w := .updateUserProfile userId _) rfl) (enrols.later (AcademicsStmt.stays rfl d))
      (Database.violation_cons.1 valid).2 (fun w mem => ?_) fun w mem => ?_
    · have free := free w (List.mem_cons_of_mem _ (List.mem_append_left _ mem))
      cases w <;> exact free
    · simp only [List.mem_append, List.mem_cons, List.not_mem_nil, or_false] at mem
      obtain mem | rfl | rfl := mem
      · exact joining (joins w mem)
      · rfl
      · rfl
  | placesByIds enrols joins =>
    refine placing h enrols valid (fun w mem => free w (List.mem_append_left _ mem)) fun w mem => ?_
    simp only [List.mem_append, List.mem_cons, List.not_mem_nil, or_false] at mem
    obtain rfl | mem | rfl := mem
    · rfl
    · exact joining (joins w mem)
    · rfl
  | promotes tx =>
    refine h.quietAll fun w mem => ?_
    obtain ⟨w, -, rfl⟩ := List.mem_map.1 mem
    rfl
  | nothing => exact h
  | finishes =>
    refine h.quietAll fun w mem => ?_
    simp only [List.mem_cons, List.not_mem_nil, or_false] at mem
    obtain rfl | rfl | rfl := mem
    all_goals rfl
  | _ =>
    refine h.quietAll fun w mem => ?_
    rw [List.mem_singleton.1 mem]
    rfl

/-! ## The calls that look for another profile -/

/-- Only the user has the number, if anybody. -/
def FreeFor (userId matricNumber : String) (d : AcademicsDb) : Prop :=
  ∀ r ∈ d.campus.students.rows, r.matricNumber = some matricNumber → r.userId = userId

/-- What others do while a call looks and writes: the number stays free for the user. -/
def KeepsFree (userId matricNumber : String) (s d : AcademicsDb) : Prop :=
  FreeFor userId matricNumber s → FreeFor userId matricNumber d

theorem guarded_keepsFree (userId matricNumber : String) :
    Guarded (C := CampusCall) (R := CampusCall.Reply) (KeepsFree userId matricNumber) fun _ => False :=
  ⟨fun _ free => free, fun h h' free => h' (h free), False.elim⟩

/-- The statement gives the number to the user, or none to anybody. -/
def Numbering (userId matricNumber : String) (w : AcademicsStmt) : Prop :=
  w.numbers = false ∨ ∃ s, (w = .createStudent s ∨ w = .upsertStudent s) ∧ s.userId = userId ∧
    s.matricNumber = some matricNumber

section Free

variable {userId matricNumber : String} {d : AcademicsDb}

theorem FreeFor.quiet {w : AcademicsStmt} (h : FreeFor userId matricNumber d) (quiet : w.numbers = false) :
    FreeFor userId matricNumber (w.apply d) := by
  by_cases spares : w.sparesStudents = true
  · unfold FreeFor
    rw [(AcademicsStmt.spares spares d).1]
    exact h
  · cases w with
    | campus w =>
      cases w with
      | upsertRecord r => exact h
      | updateStudent id patch =>
        exact Table.forall_modify (f := patch.apply) (fun _ => rfl) h fun r found => h r (Table.find_mem found)
      | _ => exact absurd rfl spares
    | createRecord r => exact h
    | stepStudent userId step =>
      simp only [AcademicsStmt.apply]
      split
      · exact Table.forall_modify (f := ({ · with onboardingStep := step })) (fun _ => rfl) h
          fun r found => h r (Table.find_mem found)
      · exact h
    | createStudent s => cases quiet
    | upsertStudent s => cases quiet
    | updateStudent id patch => cases quiet
    | _ => exact absurd rfl spares

theorem FreeFor.apply {w : AcademicsStmt} (h : FreeFor userId matricNumber d)
    (numbering : Numbering userId matricNumber w) : FreeFor userId matricNumber (w.apply d) := by
  obtain quiet | ⟨s, rfl | rfl, rfl, -⟩ := numbering
  · exact h.quiet quiet
  · exact Table.forall_insert h fun _ => rfl
  · simp only [AcademicsStmt.apply]
    split
    · rename_i old found
      have own : old.userId = s.userId :=
        StudentOp.findFirst_holds (p := fun r : StudentProfile => r.userId = s.userId) found
      have row : d.campus.students.find old.id = some old := Table.find_of_mem (List.mem_of_find?_eq_some found)
      refine Table.forall_modify (f := s.place) (fun _ => rfl) h fun r hr _ => ?_
      obtain rfl : old = r := Option.some.inj (row.symm.trans hr)
      exact own
    · exact Table.forall_insert h fun _ => rfl

theorem keepsFree_applyAll {F : List AcademicsStmt} (numbering : ∀ w ∈ F, Numbering userId matricNumber w) :
    KeepsFree userId matricNumber d (Database.applyAll F d) := by
  induction F generalizing d with
  | nil => exact fun h => h
  | cons w F ih =>
    intro h
    exact ih (fun w mem => numbering w (List.mem_cons_of_mem _ mem)) (h.apply (numbering w List.mem_cons_self))

theorem FreeFor.matricFree {w : AcademicsStmt} (h : FreeFor userId matricNumber d)
    (numbering : Numbering userId matricNumber w) : w.MatricFree d := by
  obtain quiet | ⟨s, rfl | rfl, rfl, number⟩ := numbering
  · exact AcademicsStmt.matricFree_of_quiet quiet d
  all_goals
    intro m given r mem other taken
    have given : s.matricNumber = some m := given
    rw [number] at given
    exact other (h r mem (taken.trans given.symm))

/-- No other profile has the number. -/
theorem freeFor_of_none (h : otherWithMatric d userId matricNumber = none) : FreeFor userId matricNumber d := by
  intro r mem own
  by_contra other
  exact List.find?_eq_none.1 h r mem (decide_eq_true ⟨own, other⟩)

end Free

namespace StudentOp

/-- The call looks for another profile with the number that it gives, or gives none. -/
def Looks : StudentOp → Prop
  | createStudent dto _ => dto.matricNumber ≠ some ""
  | updateStudent _ dto => dto.matricNumber.toOption = none
  | updateInstitutionInfo _ dto _ => dto.matricNumber ≠ ""
  | _ => True

/-- What the statements of a commit give is free, and the number stays free for the user. -/
def GivesFree (userId matricNumber : String) (d : AcademicsDb) (F : List AcademicsStmt) : Prop :=
  (∀ w ∈ F, w.MatricFree d) ∧ KeepsFree userId matricNumber d (Database.applyAll F d)

section Looks

variable {userId matricNumber : String} {s : AcademicsDb}

theorem givesFree_nil (d : AcademicsDb) : GivesFree userId matricNumber d [] :=
  ⟨fun _ mem => (List.not_mem_nil mem).elim, fun h => h⟩

/-- Statements that are made while the number is free. -/
theorem gives_of_free {d d' : AcademicsDb} {F : List AcademicsStmt} (free : FreeFor userId matricNumber d)
    (later : KeepsFree userId matricNumber d d') (numbering : ∀ w ∈ F, Numbering userId matricNumber w) :
    GivesFree userId matricNumber d' F :=
  ⟨fun w mem => (later free).matricFree (numbering w mem), keepsFree_applyAll numbering⟩

/-- Statements that give no number. -/
theorem gives_quiet {d : AcademicsDb} {F : List AcademicsStmt} (quiet : ∀ w ∈ F, w.numbers = false) :
    GivesFree userId matricNumber d F :=
  ⟨fun w mem => AcademicsStmt.matricFree_of_quiet (quiet w mem) d,
    keepsFree_applyAll fun w mem => .inl (quiet w mem)⟩

theorem gives_statement {w : AcademicsStmt} (quiet : w.numbers = false) :
    Upholds (KeepsFree userId matricNumber) (GivesFree userId matricNumber) s (statement w : AcademicsAction Unit)
      fun _ _ => True := by
  refine .statement (guarded_keepsFree userId matricNumber) fun d _ _ => ?_
  have gives : GivesFree userId matricNumber d [w] := gives_quiet fun w' mem => List.mem_singleton.1 mem ▸ quiet
  exact ⟨gives, gives.2, trivial⟩

theorem gives_invalidateCache :
    Upholds (KeepsFree userId matricNumber) (GivesFree userId matricNumber) s (attempt invalidateCache) fun _ _ => True := by
  have guarded := guarded_keepsFree userId matricNumber
  exact .attempt guarded (.request guarded fun _ _ _ => trivial) fun _ _ => trivial

theorem looks_createStudent {dto : CreateStudentDto} {newId m : String} (number : dto.matricNumber = some m)
    (nonempty : m ≠ "") :
    Upholds (KeepsFree dto.userId m) (GivesFree dto.userId m) s (StudentsService.createStudent dto newId) fun _ _ => True := by
  have guarded := guarded_keepsFree dto.userId m
  have nothing (d : AcademicsDb) : GivesFree dto.userId m d [] := givesFree_nil d
  have belonging {α : Type} {g : AcademicsDb → Option α} {p : α → Prop} [DecidablePred p] {e e' : CampusError}
      {s : AcademicsDb} : Upholds (KeepsFree dto.userId m) (GivesFree dto.userId m) s
        ((outside g).bind fun o => (orThrow o e).bind fun a => ensure (p a) e') fun _ _ => True :=
    .find_bind guarded nothing fun _ _ _ _ _ _ => .ensure guarded fun _ => trivial
  refine .find_bind guarded nothing fun _ s _ _ _ _ => .outside_bind guarded nothing fun _ s _ _ => ?_
  refine .ensure_bind guarded fun _ => .find_bind guarded nothing fun _ s _ _ _ _ => ?_
  refine .bind guarded belonging fun s _ _ _ => .bind guarded belonging fun s _ _ _ => ?_
  refine .bind guarded (S := fun _ _ => True) (.whenSome guarded (fun _ _ => belonging) fun _ => trivial) fun s _ _ _ => ?_
  refine .bind guarded (S := fun d _ => FreeFor dto.userId m d) ?_ fun s _ _ free => ?_
  · rw [number, show given (some m) = some m from given_eq_some.2 ⟨rfl, nonempty⟩]
    refine .outside_bind guarded nothing fun d d' _ later => .ensure guarded fun none => later fun r mem own => ?_
    exact absurd (decide_eq_true own) (List.find?_eq_none.1 (Option.isNone_iff_eq_none.1 none) r mem)
  refine .query_bind guarded fun d hd => .bind guarded (S := fun _ _ => True) ?_ fun _ _ _ _ => ?_
  · refine .statement guarded fun d' later _ => ?_
    have gives := gives_of_free (F := [.createStudent (dto.student newId d.campus.now)]) (hd free) later
      fun w mem => .inr ⟨_, .inl (List.mem_singleton.1 mem), rfl, number⟩
    exact ⟨gives, gives.2, trivial⟩
  · refine .bind guarded (S := fun _ _ => True) (.request guarded fun _ _ _ => trivial) fun _ _ _ _ => ?_
    exact .bind guarded gives_invalidateCache fun _ _ _ _ => gives_statement rfl

theorem numbering_enrol (userId : String) (p : Placement) (newId : String) :
    Adds (fun _ => False) (OnboardingService.enrol userId p newId) fun _ F => Each (Numbering userId p.matricNumber) F := by
  refine .mono (adds_enrol userId p newId) fun _ F adds w mem => ?_
  obtain ⟨now, rfl⟩ := adds
  exact .inr ⟨_, .inr (List.mem_singleton.1 mem), rfl, rfl⟩

theorem numbering_autoJoin (userId institutionId : String)
    (facultyId departmentId academicLevelId sessionId : Option String) (new : OnboardingIds) :
    Adds (fun _ => False) (OnboardingService.autoJoinInstitutionalOrganizationsInTransaction userId institutionId
      facultyId departmentId academicLevelId sessionId new) fun _ F => Each (Numbering userId matricNumber) F := by
  refine .mono (adds_autoJoin _ _ _ _ _ _ _) fun _ F joins w mem => .inl ?_
  have joins := joins w mem
  cases w with
  | leaveAcademic | joinAsStudent | approveJoinRequest => rfl
  | _ => cases joins

/-- Placing a user gives the number to nobody else. -/
theorem numbering_placeByIds (userId : String) (dto : OnboardingInstitutionDto) (new : OnboardingIds) :
    Adds (fun _ => False) (placeByIds userId dto new) fun _ F =>
      Each (Numbering userId dto.matricNumber) F := by
  refine .each_bind (numbering_enrol userId dto.placement new.student) fun _ => .each_bind ?_ fun _ => ?_
  · refine .each_bind (.each_query _) fun _ => .each_bind (.each_orThrow _ _) fun _ => ?_
    exact .each_bind (.each_ensure _ _) fun _ => .each_ret _
  refine .each_bind (.each_exec (.inl rfl)) fun _ => .each_bind (.each_query _) fun _ => ?_
  refine .each_bind (.each_exec (.inl rfl)) fun _ => .each_bind (numbering_autoJoin _ _ _ _ _ _ new) fun _ => ?_
  exact .each_exec (.inl rfl)

theorem looks_updateInstitutionInfo {userId : String} {dto : OnboardingInstitutionDto} {new : OnboardingIds}
    (nonempty : dto.matricNumber ≠ "") :
    Upholds (KeepsFree userId dto.matricNumber) (GivesFree userId dto.matricNumber) s
      (OnboardingService.updateInstitutionInfo userId dto new) fun _ _ => True := by
  have guarded := guarded_keepsFree userId dto.matricNumber
  have nothing (d : AcademicsDb) : GivesFree userId dto.matricNumber d [] := givesFree_nil d
  refine .find_bind guarded nothing fun _ s _ _ _ _ => .bind guarded (S := fun _ _ => True) ?_ fun s _ _ _ => ?_
  · refine .outside_bind guarded nothing fun _ _ _ _ => .outside_bind guarded nothing fun _ _ _ _ => ?_
    refine .outside_bind guarded nothing fun _ _ _ _ => .outside_bind guarded nothing fun _ _ _ _ => ?_
    refine .orThrow_bind guarded fun _ _ => .orThrow_bind guarded fun _ _ => .orThrow_bind guarded fun _ _ => ?_
    refine .orThrow_bind guarded fun _ _ => .ensure_bind guarded fun _ => .ensure_bind guarded fun _ => ?_
    exact .ensure_bind guarded fun _ => .ret guarded trivial
  refine .bind guarded (S := fun _ _ => True) ?_ fun s _ _ _ => ?_
  · exact .ensure_bind guarded fun _ => .ensure guarded fun _ => trivial
  refine .bind guarded (S := fun d _ => FreeFor userId dto.matricNumber d) ?_ fun s _ _ free => ?_
  · refine .when guarded (fun _ => ?_) fun empty => absurd nonempty empty
    exact .outside_bind guarded nothing fun d d' _ later => .ensure guarded fun none =>
      later (freeFor_of_none (Option.isNone_iff_eq_none.1 none))
  refine .bind guarded (S := fun _ _ => True) ?_ fun _ _ _ _ => gives_invalidateCache
  refine .transaction guarded (G := fun _ _ F => ∀ w ∈ F, Numbering userId dto.matricNumber w)
    (.of_adds guarded (numbering_placeByIds userId dto new) fun _ _ _ _ numbering => numbering)
    fun d d' _ F hd later numbering _ => ?_
  have gives := gives_of_free (hd free) later numbering
  exact ⟨gives, gives.2, trivial⟩

/-- The number that the names of an onboarding come with. -/
def matricOf (body : CompleteOnboardingDto) : String := (given (body.matricNumber.or body.studentId)).getD ""

/-- A part that only looks things up. -/
theorem prepares_lookup {α β : Type} {F : List AcademicsStmt} {p : AcademicsAction α} {T : α → Prop}
    {f : α → AcademicsAction β} {G : AcademicsDb → β → List AcademicsStmt → Prop}
    (hp : Makes (fun _ => False) p T) (hf : ∀ d a, Prepares (KeepsFree userId matricNumber) d F (f a) G) :
    Prepares (KeepsFree userId matricNumber) s F (p.bind f) G := by
  have guarded := guarded_keepsFree userId matricNumber
  refine .adds_bind guarded (H := fun _ F' => F' = []) (.of_makes hp fun _ _ => rfl) fun d a F' _ none => ?_
  rw [none, List.append_nil]
  exact hf d a

theorem prepares_placeByNames_free {fold : String → String} {body : CompleteOnboardingDto} {userId : String}
    {session : Option AcademicSession} {new : OnboardingIds} {picked : String × String × String} :
    Prepares (KeepsFree userId (matricOf body)) s [.updateUserProfile userId (names body.firstName body.lastName)]
      (placeByNames fold userId body session new picked) fun d _ F => FreeFor userId (matricOf body) d ∧
        ∀ w ∈ F, Numbering userId (matricOf body) w := by
  have guarded := guarded_keepsFree userId (matricOf body)
  have finds {α : Type} {g : AcademicsDb → Option α} {e : CampusError} : Makes (fun _ => False)
      ((query g).bind fun o => orThrow o e : AcademicsAction α) fun _ => True :=
    .bind (S := fun _ => True) (.query fun _ => trivial) fun _ _ => .orThrow fun _ _ => trivial
  refine .orThrow_bind guarded fun matricNumber number => ?_
  have own : matricOf body = matricNumber := by rw [matricOf, number]; rfl
  refine prepares_lookup finds fun s i => prepares_lookup (T := fun _ => True) ?_ fun s t => ?_
  · unfold OnboardingService.chooseSession
    split
    · exact .bind (.ensure _) fun _ _ => .ret trivial
    · exact finds
  refine prepares_lookup finds fun s f => prepares_lookup finds fun s p => ?_
  refine prepares_lookup (T := fun _ => True) ?_ fun s chosen => ?_
  · unfold OnboardingService.chooseLevel
    split
    · exact finds
    · exact .bind (.ensure _) fun _ _ => finds
  refine prepares_lookup (T := fun _ => True) (.query fun _ => trivial) fun s _ => .orThrow_bind guarded fun level _ => ?_
  refine prepares_lookup (T := fun _ => True) (.bind (.ensure _) fun _ _ => .mono (.ensure _) (fun _ h => h) fun _ _ => trivial)
    fun s _ => .query_bind guarded fun d _ => .ensure_bind guarded fun none => ?_
  have free : FreeFor userId (matricOf body) d := own ▸ freeFor_of_none (Option.isNone_iff_eq_none.1 none)
  have placing : Adds (fun _ => False) (do
      let studentProfile ← OnboardingService.enrol userId (⟨i.id, f.id, p.id, level.id, matricNumber,
        body.isDirectEntry.getD false⟩ : Placement) new.student
      exec (.campus (.upsertRecord (Placement.record ⟨i.id, f.id, p.id, level.id, matricNumber,
        body.isDirectEntry.getD false⟩ studentProfile.id t.id)))
      OnboardingService.autoJoinInstitutionalOrganizationsInTransaction userId i.id (some f.id) (some p.id)
        (some level.id) (some t.id) new : AcademicsAction Unit) fun _ F => Each (Numbering userId (matricOf body)) F := by
    rw [own]
    refine .each_bind (numbering_enrol userId _ new.student) fun _ => .each_bind (.each_exec (.inl rfl)) fun _ => ?_
    exact numbering_autoJoin _ _ _ _ _ _ new
  refine .of_adds guarded placing fun d' _ F later numbering => ⟨later free, fun w mem => ?_⟩
  obtain mem | mem := List.mem_append.1 mem
  · rw [List.mem_singleton.1 mem]
    exact .inl rfl
  · exact numbering w mem

theorem looks_completeOnboarding {fold : String → String} {userId : String} {body : CompleteOnboardingDto}
    {new : OnboardingIds} :
    Upholds (KeepsFree userId (matricOf body)) (GivesFree userId (matricOf body)) s
      (OnboardingService.completeOnboarding fold userId body new) fun _ _ => True := by
  have guarded := guarded_keepsFree userId (matricOf body)
  have nothing (d : AcademicsDb) : GivesFree userId (matricOf body) d [] := givesFree_nil d
  refine .bind guarded (S := fun _ _ => True) ?_ fun s session _ _ => .bind guarded (S := fun _ _ => True) ?_
    fun _ _ _ _ => gives_invalidateCache
  · unfold OnboardingService.findSession
    split
    · exact .ret guarded trivial
    · exact .find_bind guarded nothing fun _ _ _ _ _ _ => .ret guarded trivial
  refine .transaction guarded (G := fun d _ F => (∀ w ∈ F, w.numbers = false) ∨ FreeFor userId (matricOf body) d ∧
    ∀ w ∈ F, Numbering userId (matricOf body) w) ?_ fun d d' _ F _ later prepared _ => ?_
  · refine .exec_bind guarded ?_
    have finish (now : Nat) :
        Adds (fun _ => False) ((exec (.updateUserProfile userId (completed now))).bind fun _ =>
          exec (.campus .createActivityLog) : AcademicsAction Unit) fun _ F => Each (fun w => w.numbers = false) F :=
      .each_bind (.each_exec rfl) fun _ => .each_exec rfl
    cases body.picked with
    | none =>
      refine .query_bind guarded fun d _ => .of_adds guarded (finish _) fun _ _ F _ quiet => .inl fun w mem => ?_
      obtain mem | mem := List.mem_append.1 mem
      · rw [List.mem_singleton.1 mem]
        rfl
      · exact quiet w mem
    | some picked =>
      refine .bind guarded prepares_placeByNames_free ?_
      rintro d _ F - ⟨free, numbering⟩
      refine .query_bind guarded fun d' later => .of_adds guarded (finish _) fun _ _ F' later' quiet => .inr ?_
      refine ⟨later' (later free), fun w mem => ?_⟩
      obtain mem | mem := List.mem_append.1 mem
      · exact numbering w mem
      · exact .inl (quiet w mem)
  · obtain quiet | ⟨free, numbering⟩ := prepared
    · exact ⟨gives_quiet quiet, (gives_quiet quiet).2, trivial⟩
    · have gives := gives_of_free free later numbering
      exact ⟨gives, gives.2, trivial⟩

end Looks

/-- A call that looks finds what it gives free, when it runs on its own. -/
theorem Looks.matricFree {op : StudentOp} (looks : op.Looks) {db : AcademicsDb} {x : Surroundings} {c : AcademicsSystem}
    (run : Reaches (fun _ _ => True) (Config.start db x [op.program]) c) :
    ∀ k ∈ c.log, ∀ w ∈ k.writes, w.MatricFree k.before := by
  have gives {userId matricNumber : String} (upholds : Upholds (KeepsFree userId matricNumber)
      (GivesFree userId matricNumber) db op.program fun _ _ => True) :
      ∀ k ∈ c.log, ∀ w ∈ k.writes, w.MatricFree k.before := fun k mem =>
    (run.log_of_upholds (guarded_keepsFree userId matricNumber) upholds (fun _ _ gives => gives.2) k mem).1
  have general (quiet : ∀ d F, Commits d op F → ∀ w ∈ F, w.MatricFree d) :
      ∀ k ∈ c.log, ∀ w ∈ k.writes, w.MatricFree k.before := fun k mem =>
    quiet k.before k.writes
      (run.log_of_upholds guarded_stays (upholds_program op) (fun _ _ commits => commits.stays) k mem)
  cases op with
  | createStudent dto newId =>
    cases number : dto.matricNumber with
    | some m => exact gives (looks_createStudent number fun empty => looks (number.trans (congrArg some empty)))
    | none =>
      refine general fun d F commits w mem => ?_
      cases commits with
      | nothing => cases mem
      | logs => rw [List.mem_singleton.1 mem]; trivial
      | creates =>
        rw [List.mem_singleton.1 mem]
        intro m given
        rw [show (dto.student newId _).matricNumber = none from number] at given
        cases given
  | updateStudent id dto =>
    refine general fun d F commits w mem => ?_
    cases commits with
    | nothing => cases mem
    | logs => rw [List.mem_singleton.1 mem]; trivial
    | updates =>
      rw [List.mem_singleton.1 mem]
      intro m given
      rw [show dto.matricNumber.toOption = none from looks] at given
      cases given
  | addAcademicRecord studentId dto =>
    refine general fun d F commits w mem => ?_
    cases commits with
    | nothing => cases mem
    | advances =>
      rw [List.mem_singleton.1 mem]
      intro m given
      cases given
    | _ => rw [List.mem_singleton.1 mem]; trivial
  | completeOnboarding fold userId body new => exact gives looks_completeOnboarding
  | updateInstitutionInfo userId dto new => exact gives (looks_updateInstitutionInfo looks)
  | updatePersonalInfo userId dto =>
    refine general fun d F commits w mem => ?_
    cases commits with
    | nothing => cases mem
    | _ => rw [List.mem_singleton.1 mem]; trivial
  | getOnboardingStatus userId =>
    refine general fun d F commits w mem => ?_
    cases commits with
    | nothing => cases mem
    | _ => rw [List.mem_singleton.1 mem]; trivial
  | promoteInstitution op =>
    refine general fun d F commits w mem => AcademicsStmt.matricFree_of_quiet ?_ d
    cases commits with
    | nothing => cases mem
    | logs => rw [List.mem_singleton.1 mem]; rfl
    | promotes tx =>
      obtain ⟨w, -, rfl⟩ := List.mem_map.1 mem
      rfl

end StudentOp

/-! ## The runs -/

instance (d : AcademicsDb) (w : AcademicsStmt) : Decidable (w.MatricFree d) :=
  match w with
  | .createStudent s | .upsertStudent s =>
    inferInstanceAs (Decidable (∀ m ∈ s.matricNumber, ∀ r ∈ d.campus.students.rows, r.userId ≠ s.userId →
      r.matricNumber ≠ some m))
  | .updateStudent id patch =>
    inferInstanceAs (Decidable (∀ m ∈ patch.matricNumber.toOption, ∀ r ∈ d.campus.students.rows, r.id ≠ id →
      r.matricNumber ≠ some m))
  | .campus _ | .clearCurrent .. | .createSession _ | .updateSession .. | .stepStudent .. | .createRecord _
  | .updateUserProfile .. | .leaveAcademic _ | .joinAsStudent _ | .approveJoinRequest _ | .createFaculty _
  | .createDepartment _ | .createLevel _ | .createOrganization _ => .isTrue trivial

/-- A number that a step gives is free when it is given. -/
def NumbersFree (c : AcademicsSystem) : Effect AcademicsStmt CampusCall → Prop
  | .commit _ _ F => ∀ w ∈ F, w.MatricFree c.db
  | _ => True

instance (c : AcademicsSystem) (eff : Effect AcademicsStmt CampusCall) : Decidable (NumbersFree c eff) :=
  match eff with
  | .commit _ _ F => inferInstanceAs (Decidable (∀ w ∈ F, w.MatricFree c.db))
  | .internal | .fault _ | .called .. | .unsent .. => .isTrue trivial

/-- **Matric numbers identify students** in every interleaving in which each number is free when it is
given; and so it is whenever a call that looks for it, which an update of a student and an empty number
do not, runs without others. -/
theorem matric_numbers_unique (db : AcademicsDb) (x : Surroundings) :
    (∀ {ops : List StudentOp} {c : AcademicsSystem},
      Reaches NumbersFree (Config.start db x (ops.map StudentOp.program)) c → db.Numbered → c.db.Numbered) ∧
    ∀ {op : StudentOp} {c : AcademicsSystem}, op.Looks →
      Reaches (fun _ _ => True) (Config.start db x [op.program]) c →
      ∀ k ∈ c.log, ∀ w ∈ k.writes, w.MatricFree k.before := by
  refine ⟨fun {ops c} run numbered => ?_, fun looks run => looks.matricFree run⟩
  refine run.induct_of_calls guarded_stays (Ψ := fun op d => StudentOp.Commits d op) StudentOp.upholds_program
    (fun d _ => d.Numbered) numbered fun _ commits valid free numbered => ?_
  exact ⟨commits.stays, numbered_commit numbered commits valid free⟩

/-- Two users ask for one number, and a student gets another one. -/
def numberedYear : List StudentOp :=
  [.updateInstitutionInfo "cid" (pickDepartment "M1" none) (userIds "cid"),
    .updateInstitutionInfo "bola" (pickDepartment "M1" none) (userIds "bola"),
    .updateStudent "ada" { matricNumber := .value "M2" }]

/-- The second user is refused, and the first one's call, on its own, gives a free number. -/
theorem numberedYear_unique :
    (∃ c : AcademicsSystem,
      Reaches NumbersFree (Config.start collegeUnits Surroundings.mk (numberedYear.map StudentOp.program)) c ∧
      c.threads.map Thread.returned = [true, false, true] ∧ c.db.Numbered) ∧
    ∃ c : AcademicsSystem, Reaches (fun _ _ => True) (Config.start collegeUnits Surroundings.mk
      [(StudentOp.updateInstitutionInfo "cid" (pickDepartment "M1" none) (userIds "cid")).program]) c ∧
      c.threads.map Thread.returned = [true] ∧ ∀ k ∈ c.log, ∀ w ∈ k.writes, w.MatricFree k.before := by
  constructor
  · obtain ⟨c, run, returned⟩ := Reaches.of_replay_any NumbersFree
      (Config.start collegeUnits Surroundings.mk (numberedYear.map StudentOp.program))
      (turns [(0, 31), (1, 18), (2, 10)]) (fun c : AcademicsSystem => c.threads.map Thread.returned = [true, false, true])
      (by decide +kernel)
    exact ⟨c, run, returned, (matric_numbers_unique _ _).1 run ⟨by decide, by decide⟩⟩
  · obtain ⟨c, run, returned⟩ := Reaches.of_replay_any (fun _ _ => True) (Config.start collegeUnits Surroundings.mk
      [(StudentOp.updateInstitutionInfo "cid" (pickDepartment "M1" none) (userIds "cid")).program])
      (turns [(0, 31)]) (fun c : AcademicsSystem => c.threads.map Thread.returned = [true]) (by decide +kernel)
    have looks : (StudentOp.updateInstitutionInfo "cid" (pickDepartment "M1" none) (userIds "cid")).Looks :=
      show "M1" ≠ "" by decide
    exact ⟨c, run, returned, (matric_numbers_unique _ _).2 looks run⟩

/-- Two users onboard with a number, which may be empty. -/
def bothWith (matricNumber : String) : List StudentOp :=
  [.updateInstitutionInfo "ada" (pickDepartment matricNumber none) (userIds "ada"),
    .updateInstitutionInfo "bola" (pickDepartment matricNumber none) (userIds "bola")]

/-- A student gets the number that another one has. -/
def secondM1 : List StudentOp :=
  [.updateInstitutionInfo "cid" (pickDepartment "M1" none) (userIds "cid"),
    .updateStudent "ada" { matricNumber := .value "M1" }]

/-- An update does not look; an empty number is not looked for; and two onboardings that both look before
either writes both find the number free. -/
theorem matric_numbers_not_unique : collegeUnits.Numbered ∧
    (∃ c : AcademicsSystem, Reaches (fun _ _ => True)
      (Config.start collegeUnits Surroundings.mk (secondM1.map StudentOp.program)) c ∧
      c.threads.map Thread.returned = [true, true] ∧ ¬c.db.Numbered) ∧
    (∃ c : AcademicsSystem, Reaches (fun _ _ => True)
      (Config.start collegeUnits Surroundings.mk ((bothWith "").map StudentOp.program)) c ∧
      c.threads.map Thread.returned = [true, true] ∧ ¬c.db.Numbered) ∧
    ∃ c : AcademicsSystem, Reaches (fun _ _ => True)
      (Config.start collegeUnits Surroundings.mk ((bothWith "M1").map StudentOp.program)) c ∧
      c.threads.map Thread.returned = [true, true] ∧ ¬c.db.Numbered := by
  have twice {c : AcademicsSystem} (h : ¬c.db.campus.students.UniqueBy StudentProfile.matricNumber) : ¬c.db.Numbered :=
    fun numbered => h numbered.matrics
  refine ⟨⟨by decide, by decide⟩, ?_, ?_, ?_⟩
  · obtain ⟨c, run, returned, same⟩ := Reaches.of_replay_any (fun _ _ => True)
      (Config.start collegeUnits Surroundings.mk (secondM1.map StudentOp.program)) (turns [(0, 31), (1, 10)])
      (fun c : AcademicsSystem => c.threads.map Thread.returned = [true, true] ∧
        ¬c.db.campus.students.UniqueBy StudentProfile.matricNumber) (by decide +kernel)
    exact ⟨c, run, returned, twice same⟩
  · obtain ⟨c, run, returned, same⟩ := Reaches.of_replay_any (fun _ _ => True)
      (Config.start collegeUnits Surroundings.mk ((bothWith "").map StudentOp.program)) (turns [(0, 28), (1, 28)])
      (fun c : AcademicsSystem => c.threads.map Thread.returned = [true, true] ∧
        ¬c.db.campus.students.UniqueBy StudentProfile.matricNumber) (by decide +kernel)
    exact ⟨c, run, returned, twice same⟩
  · obtain ⟨c, run, returned, same⟩ := Reaches.of_replay_any (fun _ _ => True)
      (Config.start collegeUnits Surroundings.mk ((bothWith "M1").map StudentOp.program))
      (turns [(0, 20), (1, 31), (0, 11)]) (fun c : AcademicsSystem => c.threads.map Thread.returned = [true, true] ∧
        ¬c.db.campus.students.UniqueBy StudentProfile.matricNumber) (by decide +kernel)
    exact ⟨c, run, returned, twice same⟩

end Heightt.Campus
