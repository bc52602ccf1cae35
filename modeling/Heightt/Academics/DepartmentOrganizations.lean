import Heightt.Academics.Hierarchy
import Heightt.Store.Added

/-!
# The organizations of a department

The organizations that a department should have in a session are told by their slugs. Those that are not
there are added, so a department has all of them once they have been generated, and generating them again adds
none. What a new department comes with has the slugs that are generated for the session it is of.
-/

namespace Heightt.Campus

open Store ReadCommitted Prog Database InstitutionsService

/-- What the slug of an organization is unique for. -/
def Organization.slot (o : Organization) : Option String × String × Option String :=
  (o.institutionId, o.slug, o.academicSessionId)

theorem sameSlugInSession_iff {o r : Organization} : o.sameSlugInSession r = true ↔ r.slot = o.slot := by
  unfold Organization.sameSlugInSession Organization.slot
  simp only [Bool.and_eq_true, decide_eq_true_eq, Prod.mk.injEq]
  tauto

/-! ## Organizations that are added -/

/-- The organizations `os` were added since the state `d`, and nothing else was changed. -/
structure Grown (d : AcademicsDb) (os : List Organization) (d' : AcademicsDb) : Prop where
  rows : d'.campus.organizations.rows = d.campus.organizations.rows ++ os
  rest : d' = { d with campus.organizations := d'.campus.organizations }

section

variable {d d' : AcademicsDb} {x : Surroundings} {o : Organization} {os : List Organization}

theorem Grown.refl (d : AcademicsDb) : Grown d [] d := ⟨(List.append_nil _).symm, rfl⟩

theorem Grown.sessions (h : Grown d os d') : d'.campus.sessions = d.campus.sessions := by rw [h.rest]

theorem Grown.levels (h : Grown d os d') : d'.campus.levels = d.campus.levels := by rw [h.rest]

theorem Grown.departmentWithLevels (h : Grown d os d') (id : String) :
    d'.departmentWithLevels id = d.departmentWithLevels id := by
  rw [h.rest]
  rfl

theorem Grown.trans {d₁ : AcademicsDb} {os' : List Organization} (h : Grown d os d₁) (h' : Grown d₁ os' d') :
    Grown d (os ++ os') d' := by
  constructor
  · rw [h'.rows, h.rows, List.append_assoc]
  · rw [h'.rest, h.rest]

theorem Grown.create (d : AcademicsDb) (valid : (AcademicsStmt.createOrganization o).check d = none) :
    Grown d [o] ((AcademicsStmt.createOrganization o).apply d) := by
  refine ⟨Table.insert_rows ?_, rfl⟩
  simp only [AcademicsStmt.check, CampusStmt.unique, ite_eq_right_iff, reduceCtorEq, imp_false, not_or] at valid
  exact Option.not_isSome_iff_eq_none.1 valid.1

/-- Whether a wallet can be opened makes no difference. -/
theorem turns_openWallet {T : AcademicsDb → Surroundings → Prop} (ownerId : String) (d : AcademicsDb) (x : Surroundings) :
    Turns (attempt (getOrCreateWallet ownerId)) d x (fun _ d' _ => d' = d) T := by
  have opened : Turns (getOrCreateWallet ownerId) d x (fun _ d' _ => d' = d) fun d' _ => d' = d :=
    Turns.request (c := CampusCall.openWallet ownerId) (S := fun _ d' _ => d' = d) (T := fun d' _ => d' = d) rfl rfl rfl
  exact opened.attempt fun _ _ h => h

theorem turns_createUnless (o : Organization) (d : AcademicsDb) (x : Surroundings) :
    Turns (createUnless o.sameSlugInSession o) d x
      (fun r d' _ => r.toList = added Organization.slot d.campus.organizations.rows [o] ∧ Grown d r.toList d')
      fun _ _ => True := by
  unfold createUnless
  refine .outside_bind trivial ?_
  cases found : d.campus.organizations.findFirst o.sameSlugInSession with
  | some r =>
    have taken : o.slot ∈ d.campus.organizations.rows.map Organization.slot := by
      rw [← sameSlugInSession_iff.1 (List.find?_some found)]
      exact List.mem_map_of_mem (List.mem_of_find?_eq_some found)
    refine .ret ⟨?_, .refl d⟩
    rw [added_taken taken]
    rfl
  | none =>
    have free : o.slot ∉ d.campus.organizations.rows.map Organization.slot := by
      intro taken
      obtain ⟨r, mem, same⟩ := List.mem_map.1 taken
      exact List.find?_eq_none.1 found r mem (sameSlugInSession_iff.2 same)
    refine (Turns.statement (S := fun _ d' _ => Grown d [o] d') (Grown.create d) trivial).bind ?_
    intro _ d' x' grown
    refine (turns_openWallet o.id d' x').bind ?_
    rintro _ _ _ rfl
    refine .ret ⟨?_, grown⟩
    rw [added_free free]
    rfl

theorem there_of_added {r : Option Organization} (hr : r.toList = added Organization.slot d.campus.organizations.rows [o])
    (grown : Grown d r.toList d') : o.slot ∈ d'.campus.organizations.rows.map Organization.slot := by
  have there : o.slot ∈ (d.campus.organizations.rows ++
      added Organization.slot d.campus.organizations.rows [o]).map Organization.slot :=
    key_mem_added (List.mem_singleton_self o)
  rwa [← hr, ← grown.rows] at there

theorem turns_createAll (os : List Organization) (d : AcademicsDb) (x : Surroundings) :
    Turns (collect os fun o => createUnless o.sameSlugInSession o) d x
      (fun created d' _ => created = added Organization.slot d.campus.organizations.rows os ∧ Grown d created d')
      fun _ _ => True := by
  have loop := Turns.collect (f := fun o : Organization => createUnless o.sameSlugInSession o)
    (I := fun left acc d' _ => Grown d acc d' ∧
      acc ++ added Organization.slot (d.campus.organizations.rows ++ acc) left =
        added Organization.slot d.campus.organizations.rows os)
    (T := fun _ _ => True) (d := d) (x := x) [] ⟨.refl d, by rw [List.append_nil]; rfl⟩ ?_
  · refine loop.mono (fun created d' _ h => ?_) fun _ _ _ => trivial
    obtain ⟨grown, all⟩ := h
    rw [List.nil_append] at grown all
    exact ⟨by rwa [added, List.append_nil] at all, grown⟩
  · rintro o left acc d' x' ⟨grown, all⟩
    refine (turns_createUnless o d' x').mono (fun r d'' _ h => ?_) fun _ _ _ => trivial
    obtain ⟨hr, grown'⟩ := h
    refine ⟨grown.trans grown', ?_⟩
    rw [← all, hr, grown.rows, ← List.append_assoc, List.append_assoc acc]
    congr 1
    exact (added_append [o] left).symm

end

/-! ## The sessions -/

section

variable {institutionId : String} {d d' : AcademicsDb} {s : AcademicSession}

/-- The session is open, and it was before or it is all that is open. -/
structure OpenedSession (institutionId : String) (d : AcademicsDb) (s : AcademicSession) (d' : AcademicsDb) : Prop where
  isOpen : s ∈ openSessions d' institutionId
  sessions : d' = d ∨ openSessions d institutionId = [] ∧ openSessions d' institutionId = [s] ∧
    d' = { d with campus.sessions := d'.campus.sessions }

theorem OpenedSession.rest (h : OpenedSession institutionId d s d') : d' = { d with campus.sessions := d'.campus.sessions } := by
  obtain rfl | ⟨-, -, rest⟩ := h.sessions
  · rfl
  · exact rest

theorem latest_eq_none {ss : List AcademicSession} : latest ss = none ↔ ss = [] := by
  cases ss with
  | nil => exact ⟨fun _ => rfl, fun _ => rfl⟩
  | cons s ss =>
    rw [latest]
    cases latest ss with
    | none => simp
    | some t =>
      dsimp only
      split <;> simp

theorem openSessions_create {newId : String} {currentYear : Nat}
    (valid : (AcademicsStmt.createSession (defaultSession institutionId newId currentYear)).check d = none) :
    openSessions ((AcademicsStmt.createSession (defaultSession institutionId newId currentYear)).apply d) institutionId =
      openSessions d institutionId ++ [defaultSession institutionId newId currentYear] := by
  have free : d.campus.sessions.find newId = none := by
    simp only [AcademicsStmt.check, CampusStmt.first, CampusStmt.unique, Option.or_eq_none_iff, ite_eq_right_iff,
      reduceCtorEq, imp_false] at valid
    exact Option.not_isSome_iff_eq_none.1 valid.1
  unfold openSessions
  simp only [AcademicsStmt.apply]
  rw [Table.insert_rows free, List.filter_append]
  congr 1
  simp [defaultSession]

theorem turns_defaultSession (institutionId : String) (currentYear : Nat) (newId : String) (d : AcademicsDb)
    (x : Surroundings) :
    Turns (getOrCreateDefaultSession institutionId currentYear newId) d x (fun s d' _ => OpenedSession institutionId d s d')
      fun _ _ => True := by
  unfold getOrCreateDefaultSession
  refine .outside_bind trivial ?_
  cases found : latest (openSessions d institutionId) with
  | some s => exact .ret ⟨latest_mem found, .inl rfl⟩
  | none =>
    have closed := latest_eq_none.1 found
    refine (Turns.statement (S := fun _ d' _ => OpenedSession institutionId d (defaultSession institutionId newId currentYear) d')
      (fun valid => ?_) trivial).bind fun _ _ _ h => .ret h
    have opened := openSessions_create valid
    rw [closed, List.nil_append] at opened
    exact ⟨opened ▸ List.mem_singleton_self _, .inr ⟨closed, opened, rfl⟩⟩

end

/-! ## What a department should have -/

section

variable (toLowerCase : String → String)

/-- The slot of the organization of a level in a session. -/
def levelSlot (p : DepartmentWithLevels) (session : AcademicSession) (level : AcademicLevel) :
    Option String × String × Option String :=
  (some p.faculty.institutionId, levelSlug toLowerCase p.department.code level.name ++ "-" ++ sessionSlug session.name,
    some session.id)

/-- The slot of the department's own organization in a session. -/
def departmentSlot (p : DepartmentWithLevels) (session : AcademicSession) : Option String × String × Option String :=
  (some p.faculty.institutionId, toLowerCase p.department.code ++ "-department-" ++ sessionSlug session.name,
    some session.id)

/-- The department has its organizations in the session. -/
structure HasOrganizations (p : DepartmentWithLevels) (session : AcademicSession) (d : AcademicsDb) : Prop where
  levels : ∀ l ∈ p.academicLevels, ∃ o ∈ d.campus.organizations.rows, o.slot = levelSlot toLowerCase p session l
  department : ∃ o ∈ d.campus.organizations.rows, o.slot = departmentSlot toLowerCase p session

variable {toLowerCase} {p : DepartmentWithLevels} {newIds : AcademicSession → Option AcademicLevel → String}
  {session : AcademicSession} {d d' : AcademicsDb} {o : Organization}

theorem mem_sessionOrganizations (h : o ∈ sessionOrganizations toLowerCase p newIds session) :
    o.academicSessionId = some session.id ∧
      ((∃ l ∈ p.academicLevels, o.slot = levelSlot toLowerCase p session l) ∨
        o.slot = departmentSlot toLowerCase p session) := by
  obtain h | h := List.mem_append.1 h
  · obtain ⟨l, hl, rfl⟩ := List.mem_map.1 h
    exact ⟨rfl, .inl ⟨l, hl, rfl⟩⟩
  · obtain rfl := List.mem_singleton.1 h
    exact ⟨rfl, .inr rfl⟩

theorem hasOrganizations_iff (newIds : AcademicSession → Option AcademicLevel → String) :
    HasOrganizations toLowerCase p session d ↔
    ∀ o ∈ sessionOrganizations toLowerCase p newIds session,
      o.slot ∈ d.campus.organizations.rows.map Organization.slot := by
  constructor
  · intro h o ho
    obtain ⟨l, hl, same⟩ | same := (mem_sessionOrganizations ho).2
    · obtain ⟨r, hr, slot⟩ := h.levels l hl
      rw [same, ← slot]
      exact List.mem_map_of_mem hr
    · obtain ⟨r, hr, slot⟩ := h.department
      rw [same, ← slot]
      exact List.mem_map_of_mem hr
  · intro h
    constructor
    · intro l hl
      exact List.mem_map.1 (h (levelOrganization toLowerCase p.department p.faculty.institutionId none session l
        (newIds session (some l))) (List.mem_append_left _ (List.mem_map_of_mem hl)))
    · exact List.mem_map.1 (h (departmentOrganization toLowerCase p.department p.faculty.institutionId none session
        (newIds session none)) (List.mem_append_right _ (List.mem_singleton_self _)))

end

/-! ## Generating the organizations -/

/-- The organizations `created` were generated for the department. -/
structure Generated (toLowerCase : String → String) (departmentId : String)
    (newIds : AcademicSession → Option AcademicLevel → String) (p : DepartmentWithLevels) (d d' : AcademicsDb)
    (created : List Organization) : Prop where
  found : d.departmentWithLevels departmentId = some p
  opened : openSessions d' p.faculty.institutionId ≠ []
  /-- The open sessions are those that were, or a default session where none was. -/
  sessions : openSessions d' p.faculty.institutionId = openSessions d p.faculty.institutionId ∨
    openSessions d p.faculty.institutionId = []
  /-- The rest of the state stays. -/
  rest : d' = { d with campus.sessions := d'.campus.sessions, campus.organizations := d'.campus.organizations }
  rows : d'.campus.organizations.rows = d.campus.organizations.rows ++ created
  created : created = added Organization.slot d.campus.organizations.rows
    ((openSessions d' p.faculty.institutionId).flatMap (sessionOrganizations toLowerCase p newIds))

section

variable {toLowerCase : String → String} {departmentId : String}
  {newIds newIds' : AcademicSession → Option AcademicLevel → String} {p p' : DepartmentWithLevels}
  {d d' d'' : AcademicsDb} {created created' : List Organization}

theorem Generated.still (h : Generated toLowerCase departmentId newIds p d d' created) :
    d'.departmentWithLevels departmentId = some p := by
  rw [← h.found, h.rest]
  rfl

/-- **Complete**: in every open session. -/
theorem Generated.complete (h : Generated toLowerCase departmentId newIds p d d' created) {s : AcademicSession}
    (hs : s ∈ openSessions d' p.faculty.institutionId) : HasOrganizations toLowerCase p s d' := by
  refine (hasOrganizations_iff newIds).2 fun o ho => ?_
  rw [h.rows, h.created]
  exact key_mem_added (List.mem_flatMap.2 ⟨s, hs, ho⟩)

/-- Where the department has all its organizations already, none is created. -/
theorem Generated.created_of_complete (h : Generated toLowerCase departmentId newIds p d d' created)
    (complete : ∀ s ∈ openSessions d' p.faculty.institutionId, HasOrganizations toLowerCase p s d) : created = [] := by
  rw [h.created]
  refine added_eq_nil fun o ho => ?_
  obtain ⟨s, hs, ho⟩ := List.mem_flatMap.1 ho
  exact (hasOrganizations_iff newIds).1 (complete s hs) o ho

/-- What is generated once more. -/
theorem Generated.again (h : Generated toLowerCase departmentId newIds p d d' created)
    (h' : Generated toLowerCase departmentId newIds' p' d' d'' created') : p' = p ∧ created' = [] := by
  obtain rfl := Option.some.inj (h'.found.symm.trans h.still)
  refine ⟨rfl, h'.created_of_complete fun s hs => h.complete ?_⟩
  obtain same | closed := h'.sessions
  · rwa [same] at hs
  · exact absurd closed h.opened

theorem turns_invalidate {T : AcademicsDb → Surroundings → Prop} (d : AcademicsDb) (x : Surroundings) :
    Turns (attempt invalidateCache) d x (fun _ d' _ => d' = d) T := by
  have opened : Turns invalidateCache d x (fun _ d' _ => d' = d) fun d' _ => d' = d :=
    Turns.request (c := CampusCall.invalidate) (S := fun _ d' _ => d' = d) (T := fun d' _ => d' = d) rfl rfl rfl
  exact opened.attempt fun _ _ h => h

theorem turns_sessions (institutionId : String) (currentYear : Nat) (newSessionId : String) (d : AcademicsDb)
    (x : Surroundings) :
    Turns (sessionsOrDefault institutionId currentYear newSessionId) d x
      (fun sessions d' _ => sessions ≠ [] ∧ openSessions d' institutionId = sessions ∧
        (openSessions d' institutionId = openSessions d institutionId ∨ openSessions d institutionId = []) ∧
        d' = { d with campus.sessions := d'.campus.sessions })
      fun _ _ => True := by
  unfold sessionsOrDefault
  refine .outside_bind trivial ?_
  split
  · rename_i closed
    refine (turns_defaultSession institutionId currentYear newSessionId d x).bind fun s d' _ opened => .ret ?_
    obtain rfl | ⟨-, alone, rest⟩ := opened.sessions
    · have := opened.isOpen
      rw [closed] at this
      cases this
    · exact ⟨List.cons_ne_nil _ _, alone, .inr closed, rest⟩
  · rename_i some_
    exact .ret ⟨some_, rfl, .inl rfl, rfl⟩

theorem turns_generate (toLowerCase : String → String) (departmentId : String) (currentYear : Nat) (newSessionId : String)
    (newIds : AcademicSession → Option AcademicLevel → String) (d : AcademicsDb) (x : Surroundings) :
    Turns (generateOrganizationsForDepartment toLowerCase departmentId currentYear newSessionId newIds) d x
      (fun r d' _ => Generated toLowerCase departmentId newIds r.1 d d' r.2) fun _ _ => True := by
  unfold generateOrganizationsForDepartment
  refine .outside_bind trivial (.orThrow_bind trivial fun p found => ?_)
  refine (turns_sessions p.faculty.institutionId currentYear newSessionId d x).bind ?_
  rintro _ d₁ x₁ ⟨some_, rfl, sessions, rest⟩
  refine (turns_createAll _ d₁ x₁).bind ?_
  rintro created d' x' ⟨rfl, grown⟩
  refine (turns_invalidate d' x').bind ?_
  rintro _ d₂ _ rfl
  have organizations : d₁.campus.organizations = d.campus.organizations := by rw [rest]
  have same : openSessions d₂ p.faculty.institutionId = openSessions d₁ p.faculty.institutionId := by
    unfold openSessions
    rw [grown.sessions]
  refine .ret ⟨found, by rwa [same], by rwa [same], ?_, ?_, ?_⟩
  · rw [grown.rest, rest]
  · rw [grown.rows, organizations]
  · rw [same, organizations]

end

/-! ## A new department -/

/-- What the name of a level is unique for. -/
def levelKey (l : AcademicLevel) : String × String := (l.departmentId, l.name)

theorem mem_generateAcademicLevels {n : Nat} {custom : Option (List String)} {data : LevelData}
    (h : data ∈ generateAcademicLevels n custom) : data.numericLevel = 100 * data.order ∧ 1 ≤ data.order ∧ data.order ≤ n := by
  unfold generateAcademicLevels at h
  split at h
  · rename_i names given
    have length := (Option.filter_eq_some_iff.1 given).2
    rw [decide_eq_true_eq] at length
    obtain ⟨i, hi, rfl⟩ := List.mem_mapIdx.1 h
    dsimp only
    omega
  · obtain ⟨i, hi, rfl⟩ := List.mem_map.1 h
    rw [List.mem_range] at hi
    dsimp only
    omega

section

variable {toLowerCase : String → String} {p : DepartmentWithLevels} {session : AcademicSession} {d d' : AcademicsDb}
  {x : Surroundings} {new : NewDepartment}

/-- The levels `done` of the department have been created with their organizations, since the state `d`. -/
structure LevelsCreated (toLowerCase : String → String) (p : DepartmentWithLevels) (session : AcademicSession)
    (new : NewDepartment) (done : List LevelData) (d d' : AcademicsDb) : Prop where
  levels : d'.campus.levels.rows = d.campus.levels.rows ++
    added levelKey d.campus.levels.rows (done.map fun data => data.level p.department.id (new.levelIds data))
  organizations : ∃ os, d'.campus.organizations.rows = d.campus.organizations.rows ++ os ∧
    ∀ o ∈ os, o.departmentId = some p.department.id ∧ o.academicSessionId = some session.id
  own : ∀ data ∈ done, ∃ o ∈ d'.campus.organizations.rows,
    o.slot = levelSlot toLowerCase p session (data.level p.department.id (new.levelIds data))
  rest : d' = { d with campus.levels := d'.campus.levels, campus.organizations := d'.campus.organizations }

theorem turns_createLevelUnless (departmentId : String) (data : LevelData) (newId : String) (d : AcademicsDb)
    (x : Surroundings) :
    Turns (createLevelUnless departmentId data newId) d x
      (fun level d' _ => level.name = data.name ∧ d'.campus.levels.rows = d.campus.levels.rows ++
        added levelKey d.campus.levels.rows [data.level departmentId newId] ∧
        d' = { d with campus.levels := d'.campus.levels })
      fun _ _ => True := by
  unfold createLevelUnless
  refine .outside_bind trivial ?_
  cases found : d.campus.levels.findFirst fun l => l.departmentId = departmentId ∧ l.name = data.name with
  | some level =>
    have named := List.find?_some found
    rw [decide_eq_true_eq] at named
    have taken : levelKey (data.level departmentId newId) ∈ d.campus.levels.rows.map levelKey := by
      refine List.mem_map.2 ⟨level, List.mem_of_find?_eq_some found, ?_⟩
      exact Prod.ext named.1 named.2
    refine .ret ⟨named.2, ?_, rfl⟩
    rw [added_taken taken, added, List.append_nil]
  | none =>
    have free : levelKey (data.level departmentId newId) ∉ d.campus.levels.rows.map levelKey := by
      intro taken
      obtain ⟨l, mem, same⟩ := List.mem_map.1 taken
      refine List.find?_eq_none.1 found l mem ?_
      rw [decide_eq_true_eq]
      exact Prod.mk.inj same
    refine (Turns.statement (S := fun _ d' _ => d'.campus.levels.rows = d.campus.levels.rows ++
      [data.level departmentId newId] ∧ d' = { d with campus.levels := d'.campus.levels }) (fun valid => ?_)
      trivial).bind fun _ _ _ h => .ret ⟨rfl, ?_, h.2⟩
    · refine ⟨Table.insert_rows ?_, rfl⟩
      have unused : (AcademicsStmt.createLevel (data.level departmentId newId)).check d = none := valid
      simp only [AcademicsStmt.check, CampusStmt.unique, ite_eq_right_iff, reduceCtorEq, imp_false, not_or] at unused
      exact Option.not_isSome_iff_eq_none.1 unused.1
    · rw [added_free free, added]
      exact h.1

theorem LevelsCreated.next {done : List LevelData} {d₁ d₂ : AcademicsDb} {data : LevelData} {level : AcademicLevel}
    {r : Option Organization} {logo : Option String} {newId : String}
    (h : LevelsCreated toLowerCase p session new done d d') (name : level.name = data.name)
    (levels : d₁.campus.levels.rows = d'.campus.levels.rows ++
      added levelKey d'.campus.levels.rows [data.level p.department.id (new.levelIds data)])
    (rest : d₁ = { d' with campus.levels := d₁.campus.levels })
    (hr : r.toList = added Organization.slot d₁.campus.organizations.rows
      [levelOrganization toLowerCase p.department p.faculty.institutionId logo session level newId])
    (grown : Grown d₁ r.toList d₂) : LevelsCreated toLowerCase p session new (done ++ [data]) d d₂ := by
  have organizations : d₁.campus.organizations = d'.campus.organizations := by rw [rest]
  have kept {o : Organization} (mem : o ∈ d'.campus.organizations.rows) : o ∈ d₂.campus.organizations.rows := by
    rw [grown.rows, organizations]
    exact List.mem_append_left _ mem
  constructor
  · rw [grown.levels, levels, h.levels, List.map_append, added_append, List.append_assoc]
    rfl
  · obtain ⟨os, rows, ofDepartment⟩ := h.organizations
    refine ⟨os ++ r.toList, ?_, fun o mem => ?_⟩
    · rw [grown.rows, organizations, rows, List.append_assoc]
    · obtain mem | mem := List.mem_append.1 mem
      · exact ofDepartment o mem
      · rw [hr] at mem
        rw [List.mem_singleton.1 (mem_added mem).1]
        exact ⟨rfl, rfl⟩
  · intro data' mem
    obtain mem | mem := List.mem_append.1 mem
    · obtain ⟨o, ho, slot⟩ := h.own data' mem
      exact ⟨o, kept ho, slot⟩
    · rw [List.mem_singleton.1 mem]
      obtain ⟨o, ho, slot⟩ := List.mem_map.1 (there_of_added hr grown)
      refine ⟨o, ho, slot.trans ?_⟩
      show (_, levelSlug toLowerCase p.department.code level.name ++ _ ++ _, _) = _
      rw [name]
      rfl
  · rw [grown.rest, rest, h.rest]

theorem turns_createLevels (p : DepartmentWithLevels) (session : AcademicSession) (new : NewDepartment)
    (logo : Option String) (levels : List LevelData) (d : AcademicsDb) (x : Surroundings) :
    Turns (collect levels (createLevelOf toLowerCase p.department p.faculty.institutionId logo session new)) d x
      (fun _ d' _ => LevelsCreated toLowerCase p session new levels d d') fun _ _ => True := by
  have loop := Turns.collect
    (f := createLevelOf toLowerCase p.department p.faculty.institutionId logo session new)
    (I := fun left _ d' _ => ∃ done, done ++ left = levels ∧
      LevelsCreated toLowerCase p session new done d d') (T := fun _ _ => True) (d := d) (x := x) []
    ⟨[], rfl, ⟨(List.append_nil _).symm, ⟨[], (List.append_nil _).symm, fun _ h => absurd h List.not_mem_nil⟩,
      fun _ h => absurd h List.not_mem_nil, rfl⟩⟩ fun data left acc d' x' h => ?_
  · refine loop.mono (fun created d' _ h => ?_) fun _ _ _ => trivial
    obtain ⟨done, rfl, created⟩ := h
    rw [List.append_nil]
    exact created
  · obtain ⟨done, rfl, created⟩ := h
    refine (turns_createLevelUnless p.department.id data (new.levelIds data) d' x').bind ?_
    rintro level d₁ x₁ ⟨name, rows, rest⟩
    refine (turns_createUnless _ d₁ x₁).mono (fun r d₂ _ h => ?_) fun _ _ _ => trivial
    exact ⟨done ++ [data], by simp, created.next name rows rest h.1 h.2⟩

theorem Grown.mem_slot {os : List Organization} (h : Grown d os d') {slot : Option String × String × Option String}
    (there : ∃ o ∈ d.campus.organizations.rows, o.slot = slot) : ∃ o ∈ d'.campus.organizations.rows, o.slot = slot := by
  obtain ⟨o, mem, same⟩ := there
  rw [h.rows]
  exact ⟨o, List.mem_append_left _ mem, same⟩

theorem turns_logActivity {T : AcademicsDb → Surroundings → Prop} (d : AcademicsDb) (x : Surroundings) (he : T d x) :
    Turns logActivity d x (fun _ d' _ => d' = d) T :=
  Turns.statement (S := fun _ d' _ => d' = d) (fun _ => rfl) he

/-- The department of a request, with the levels it has come with since the state `d` and an organization for
each of them and for itself in an open session. -/
structure DepartmentCreated (toLowerCase : String → String) (dto : CreateDepartmentDto) (new : NewDepartment)
    (p : DepartmentWithLevels) (session : AcademicSession) (d d' : AcademicsDb) : Prop where
  department : p.department = dto.department new.id
  found : d'.departmentWithLevels new.id = some p
  /-- Of the levels generated, the first of each name. -/
  levels : p.academicLevels = added levelKey d.campus.levels.rows
    ((generateAcademicLevels (dto.numberOfLevels.getD (getDefaultLevelCount toLowerCase dto.name)) dto.customLevelNames).map
      fun data => data.level new.id (new.levelIds data))
  graded : ∀ l ∈ p.academicLevels, l.numericLevel = 100 * l.order ∧ 1 ≤ l.order ∧ l.order ≤ 7
  isOpen : session ∈ openSessions d' p.faculty.institutionId
  organizations : HasOrganizations toLowerCase p session d'

theorem levelsOf_created {id : String} {datas : List LevelData} {newIds : LevelData → String}
    (fresh : ∀ l ∈ d.campus.levels.rows, l.departmentId ≠ id)
    (rows : d'.campus.levels.rows = d.campus.levels.rows ++
      added levelKey d.campus.levels.rows (datas.map fun data => data.level id (newIds data))) :
    d'.levelsOf id = added levelKey d.campus.levels.rows (datas.map fun data => data.level id (newIds data)) := by
  have none_ : (d.campus.levels.rows.filter fun l => l.departmentId = id) = [] := by
    rw [List.filter_eq_nil_iff]
    intro l hl
    rw [decide_eq_true_eq]
    exact fresh l hl
  unfold AcademicsDb.levelsOf
  rw [rows, List.filter_append, none_, List.nil_append, List.filter_eq_self]
  intro l hl
  obtain ⟨data, -, rfl⟩ := List.mem_map.1 (mem_added hl).1
  exact decide_eq_true rfl

theorem turns_createDepartment (toLowerCase : String → String) (dto : CreateDepartmentDto) (currentYear : Nat)
    (new : NewDepartment) (d : AcademicsDb) (x : Surroundings)
    (fresh : ∀ l ∈ d.campus.levels.rows, l.departmentId ≠ new.id) :
    Turns (createDepartment toLowerCase dto currentYear new) d x (fun r d' _ => ∃ p session,
        r = some p.byOrder ∧ DepartmentCreated toLowerCase dto new p session d d') fun _ _ => True := by
  unfold createDepartment
  refine .outside_bind trivial (.orThrow_bind trivial fun faculty hfaculty => .outside_bind trivial ?_)
  refine .ensure_bind trivial fun _ => .ensure_bind trivial fun count => .ensure_bind trivial fun _ => ?_
  refine (Turns.statement (S := fun _ d' _ => d'.departments.find new.id =
    some (dto.department new.id) ∧
      d' = { d with departments := d'.departments }) (fun valid => ?_) trivial).bind ?_
  · refine ⟨?_, rfl⟩
    have free : d.departments.find new.id = none := by
      simp only [check, AcademicsStmt.check, CampusStmt.unique, ite_eq_right_iff, reduceCtorEq, imp_false, not_or] at valid
      exact Option.not_isSome_iff_eq_none.1 valid.1
    exact (Table.find_insert free new.id).trans (if_pos rfl)
  rintro _ d₁ x₁ ⟨found, rest₁⟩
  refine (turns_defaultSession faculty.institutionId currentYear new.sessionId d₁ x₁).bind ?_
  intro session d₂ x₂ opened
  refine (turns_createLevels ⟨dto.department new.id, faculty, []⟩
    session new (given dto.logo) _ d₂ x₂).bind ?_
  intro _ d₃ x₃ created
  refine (turns_createUnless _ d₃ x₃).bind ?_
  rintro r d₄ x₄ ⟨hr, grown⟩
  refine (turns_invalidate d₄ x₄).bind ?_
  rintro _ d₅ x₅ rfl
  refine (turns_logActivity d₅ x₅ trivial).bind ?_
  rintro _ d₆ x₆ rfl
  refine .outside ?_ trivial
  have before : d₂.campus.levels = d.campus.levels := by rw [opened.rest, rest₁]
  have departments : d₆.departments = d₁.departments := by rw [grown.rest, created.rest, opened.rest]
  have faculties : d₆.faculties = d.faculties := by rw [grown.rest, created.rest, opened.rest, rest₁]
  have sessions : d₆.campus.sessions = d₂.campus.sessions := by rw [grown.rest, created.rest]
  have rows := created.levels
  rw [before, ← grown.levels] at rows
  have levels := levelsOf_created fresh rows
  have there : d₆.departmentWithLevels new.id = some ⟨dto.department new.id, faculty, d₆.levelsOf new.id⟩ := by
    have here : d.faculties.find (dto.department new.id).facultyId = some faculty := hfaculty
    unfold AcademicsDb.departmentWithLevels
    rw [departments, found, faculties]
    simp [here]
  refine ⟨_, session, congrArg (Option.map DepartmentWithLevels.byOrder) there, rfl, there, levels, fun l hl => ?_, ?_, ?_, ?_⟩
  · rw [levels] at hl
    obtain ⟨data, mem, rfl⟩ := List.mem_map.1 (mem_added hl).1
    obtain ⟨numeric, first, last⟩ := mem_generateAcademicLevels mem
    have := count.2
    exact ⟨numeric, first, by show data.order ≤ 7; omega⟩
  · unfold openSessions
    rw [sessions]
    exact opened.isOpen
  · intro l hl
    dsimp only at hl
    rw [levels] at hl
    obtain ⟨data, mem, rfl⟩ := List.mem_map.1 (mem_added hl).1
    exact grown.mem_slot (created.own data mem)
  · exact List.mem_map.1 (there_of_added hr grown)

end

/-! ## The results -/

/-- Generate the organizations of a department, and once more. -/
def generateTwice (toLowerCase : String → String) (departmentId : String) (currentYear : Nat)
    (newSessionId newSessionId' : String) (newIds newIds' : AcademicSession → Option AcademicLevel → String) :
    AcademicsAction ((DepartmentWithLevels × List Organization) × (DepartmentWithLevels × List Organization)) := do
  let r ← generateOrganizationsForDepartment toLowerCase departmentId currentYear newSessionId newIds
  let r' ← generateOrganizationsForDepartment toLowerCase departmentId currentYear newSessionId' newIds'
  pure (r, r')

/-- The organizations that are generated are all there afterwards, and only those that were not are created. -/
structure GeneratedOnce (toLowerCase : String → String) (newIds : AcademicSession → Option AcademicLevel → String)
    (p : DepartmentWithLevels) (d d' : AcademicsDb) (created : List Organization) : Prop where
  rows : d'.campus.organizations.rows = d.campus.organizations.rows ++ created
  /-- Every level and the department itself, in every open session, of which there is one. -/
  complete : ∀ s ∈ openSessions d' p.faculty.institutionId, HasOrganizations toLowerCase p s d'
  opened : openSessions d' p.faculty.institutionId ≠ []
  /-- What is created is of the units, and its slug was free. -/
  lacked : ∀ o ∈ created, (∃ s ∈ openSessions d' p.faculty.institutionId,
    o ∈ sessionOrganizations toLowerCase p newIds s) ∧ o.slot ∉ d.campus.organizations.rows.map Organization.slot
  one : (d.campus.organizations.rows.map Organization.slot).Nodup →
    (d'.campus.organizations.rows.map Organization.slot).Nodup

theorem Generated.once {toLowerCase : String → String} {departmentId : String}
    {newIds : AcademicSession → Option AcademicLevel → String} {p : DepartmentWithLevels} {d d' : AcademicsDb}
    {created : List Organization} (h : Generated toLowerCase departmentId newIds p d d' created) :
    GeneratedOnce toLowerCase newIds p d d' created where
  rows := h.rows
  complete := fun _ hs => h.complete hs
  opened := h.opened
  lacked := by
    intro o ho
    rw [h.created] at ho
    obtain ⟨mem, free⟩ := mem_added ho
    exact ⟨List.mem_flatMap.1 mem, free⟩
  one := by
    intro nodup
    rw [h.rows, h.created]
    exact nodup_added nodup

/-- **Generating is complete, and idempotent**: a second request creates nothing. -/
theorem generating_is_idempotent (toLowerCase : String → String) (departmentId : String) (currentYear : Nat)
    (newSessionId newSessionId' : String) (newIds newIds' : AcademicSession → Option AcademicLevel → String)
    (d : AcademicsDb) (x : Surroundings) :
    Turns (generateTwice toLowerCase departmentId currentYear newSessionId newSessionId' newIds newIds') d x
      (fun r d' _ => GeneratedOnce toLowerCase newIds r.1.1 d d' r.1.2 ∧ r.2 = (r.1.1, []))
      fun _ _ => True := by
  unfold generateTwice
  refine (turns_generate toLowerCase departmentId currentYear newSessionId newIds d x).bind ?_
  rintro ⟨p, created⟩ d₁ x₁ first
  refine (turns_generate toLowerCase departmentId currentYear newSessionId' newIds' d₁ x₁).bind ?_
  rintro ⟨p', created'⟩ d₂ x₂ second
  obtain ⟨rfl, rfl⟩ := first.again second
  have sessions : openSessions d₂ p'.faculty.institutionId = openSessions d₁ p'.faculty.institutionId :=
    second.sessions.resolve_right first.opened
  have rows : d₂.campus.organizations.rows = d₁.campus.organizations.rows := by rw [second.rows, List.append_nil]
  have once := first.once
  refine .ret ⟨⟨?_, fun s hs => ?_, ?_, ?_, ?_⟩, rfl⟩
  · exact rows.trans once.rows
  · exact second.complete hs
  · exact second.opened
  · rw [sessions]
    exact once.lacked
  · rw [rows]
    exact once.one

/-- A department is created, and its organizations are generated. -/
def createThenGenerate (toLowerCase : String → String) (dto : CreateDepartmentDto) (currentYear : Nat) (new : NewDepartment)
    (newSessionId : String) (newIds : AcademicSession → Option AcademicLevel → String) :
    AcademicsAction (Option DepartmentWithLevels × DepartmentWithLevels × List Organization) := do
  let department ← createDepartment toLowerCase dto currentYear new
  let r ← generateOrganizationsForDepartment toLowerCase new.id currentYear newSessionId newIds
  pure (department, r)

/-- What is generated for a new department is of the other sessions. -/
theorem DepartmentCreated.generated {toLowerCase : String → String} {dto : CreateDepartmentDto} {new : NewDepartment}
    {newIds : AcademicSession → Option AcademicLevel → String} {p p' : DepartmentWithLevels} {session : AcademicSession}
    {d d₁ d₂ : AcademicsDb} {created : List Organization} (h : DepartmentCreated toLowerCase dto new p session d d₁)
    (g : Generated toLowerCase new.id newIds p' d₁ d₂ created) :
    p' = p ∧ DepartmentCreated toLowerCase dto new p session d d₂ ∧
      ∀ o ∈ created, o.academicSessionId ≠ some session.id := by
  obtain rfl := Option.some.inj (g.found.symm.trans h.found)
  have opened : openSessions d₁ p'.faculty.institutionId ≠ [] := List.ne_nil_of_mem h.isOpen
  have isOpen : session ∈ openSessions d₂ p'.faculty.institutionId := by
    rw [g.sessions.resolve_right opened]
    exact h.isOpen
  refine ⟨rfl, ⟨h.department, g.still, h.levels, h.graded, isOpen, g.complete isOpen⟩, fun o ho same => ?_⟩
  obtain ⟨⟨s, hs, mem⟩, free⟩ := g.once.lacked o ho
  have own : s.id = session.id := Option.some.inj ((mem_sessionOrganizations mem).1.symm.trans same)
  obtain rfl : s = session := Table.eq_of_key (List.mem_filter.1 hs).1 (List.mem_filter.1 isOpen).1 own
  exact free ((hasOrganizations_iff newIds).1 h.organizations o mem)

/-- **A new department has its levels**, each with an organization, and what is generated for it is what the
sessions lack other than the one it was created in. -/
theorem new_department_is_complete (toLowerCase : String → String) (dto : CreateDepartmentDto) (currentYear : Nat)
    (new : NewDepartment) (newSessionId : String) (newIds : AcademicSession → Option AcademicLevel → String)
    (d : AcademicsDb) (x : Surroundings) (fresh : ∀ l ∈ d.campus.levels.rows, l.departmentId ≠ new.id) :
    Turns (createThenGenerate toLowerCase dto currentYear new newSessionId newIds) d x
      (fun r d' _ => ∃ p session, r.1 = some p.byOrder ∧ r.2.1 = p ∧
        DepartmentCreated toLowerCase dto new p session d d' ∧
        (∀ s ∈ openSessions d' p.faculty.institutionId, HasOrganizations toLowerCase p s d') ∧
        ∀ o ∈ r.2.2, o.academicSessionId ≠ some session.id)
      fun _ _ => True := by
  unfold createThenGenerate
  refine (turns_createDepartment toLowerCase dto currentYear new d x fresh).bind ?_
  rintro _ d₁ x₁ ⟨p, session, rfl, created⟩
  refine (turns_generate toLowerCase new.id currentYear newSessionId newIds d₁ x₁).bind ?_
  rintro ⟨p', organizations⟩ d₂ x₂ generated
  obtain ⟨rfl, still, others⟩ := created.generated generated
  exact .ret ⟨p', session, rfl, rfl, still, fun s hs => generated.complete hs, others⟩

/-- A faculty of an institution with two open sessions. -/
def twoSessions : AcademicsDb where
  campus := {
    institutions := ⟨[⟨"uni", "University", true, false⟩], by decide⟩
    sessions := ⟨[
      { id := "s1", institutionId := "uni", name := "2024/2025", startDate := ⟨2024, 9, 1, 0⟩, endDate := ⟨2025, 8, 31, 0⟩,
        status := .active },
      { id := "s2", institutionId := "uni", name := "2025/2026", startDate := ⟨2025, 9, 1, 0⟩, endDate := ⟨2026, 8, 31, 0⟩,
        status := .upcoming }], by decide⟩ }
  faculties := ⟨[{ id := "sci", institutionId := "uni", name := "Science", code := "sci" }], by decide⟩

/-- Physics with four levels, two of which have one name. -/
def physics : CreateDepartmentDto where
  name := "physics"
  code := "phy"
  facultyId := "sci"
  customLevelNames := some ["one", "two", "two", "four"]

def newPhysics : NewDepartment where
  id := "p"
  sessionId := "s3"
  levelIds := fun data => "level-" ++ data.name
  organizationIds := fun data => "new-" ++ (data.map LevelData.name).getD ""

theorem physics_is_complete : ∃ o ∈ (createThenGenerate id physics 2024 newPhysics "s4" fun session level =>
      session.id ++ (level.map AcademicLevel.name).getD "").alone [] twoSessions ({} : Surroundings),
    (o.result.toOption.map fun r => r.2.2.map Organization.slug) =
      some ["phy-one-2024-2025", "phy-two-2024-2025", "phy-four-2024-2025", "phy-department-2024-2025"] ∧
    ∃ r, o.result = .ok r ∧ ∃ p session, r.1 = some p.byOrder ∧ r.2.1 = p ∧
      DepartmentCreated id physics newPhysics p session twoSessions o.db ∧
      (∀ s ∈ openSessions o.db p.faculty.institutionId, HasOrganizations id p s o.db) ∧
      ∀ c ∈ r.2.2, c.academicSessionId ≠ some session.id := by
  have run : ∃ o ∈ (createThenGenerate id physics 2024 newPhysics "s4" fun session level =>
      session.id ++ (level.map AcademicLevel.name).getD "").alone [] twoSessions ({} : Surroundings),
      (o.result.toOption.map fun r => r.2.2.map Organization.slug) =
        some ["phy-one-2024-2025", "phy-two-2024-2025", "phy-four-2024-2025", "phy-department-2024-2025"] := by
    decide +kernel
  obtain ⟨o, ho, slugs⟩ := run
  have post := new_department_is_complete id physics 2024 newPhysics "s4"
    (fun session level => session.id ++ (level.map AcademicLevel.name).getD "") twoSessions {} (by decide) o
    (ends_of_alone ho)
  obtain ⟨result, frames, db, ext⟩ := o
  cases result with
  | error e => cases slugs
  | ok r => exact ⟨_, ho, slugs, r, rfl, post.2⟩

end Heightt.Campus
