import Heightt.Academics.DepartmentOrganizations
import Heightt.ReadCommitted.ServedInTurn

/-!
# Levels that are added to departments

Levels are added one at a time or in bulk. A request in bulk passes over the names that the department has.
So over any sequence of requests, each of which may fail, a level is added at most once, and a level that a
request has returned has an organization with its slug in the institution.
-/

namespace Heightt.Campus

open Store ReadCommitted Prog Database InstitutionsService

/-! ## One level -/

/-- Only levels and organizations were added, no level twice. -/
structure LevelsGrown (d d' : AcademicsDb) : Prop where
  levels : d.campus.levels.rows <+: d'.campus.levels.rows
  organizations : d.campus.organizations.rows <+: d'.campus.organizations.rows
  one : (d.campus.levels.rows.map levelKey).Nodup → (d'.campus.levels.rows.map levelKey).Nodup
  rest : d' = { d with campus.levels := d'.campus.levels, campus.organizations := d'.campus.organizations }

/-- The level is there, and the institution has an organization with its slug. -/
structure LevelAdded (toLowerCase : String → String) (p : DepartmentWithLevels) (l : AcademicLevel) (d : AcademicsDb) :
    Prop where
  there : l ∈ d.campus.levels.rows
  own : l.departmentId = p.department.id
  organization : ∃ o ∈ d.campus.organizations.rows, o.institutionId = some p.faculty.institutionId ∧
    o.slug = levelSlug toLowerCase p.department.code l.name

section

variable {toLowerCase : String → String} {p : DepartmentWithLevels} {l : AcademicLevel} {d d' d'' : AcademicsDb}
  {x : Surroundings} {o : Organization} {there : Organization → Bool}

theorem LevelsGrown.refl (d : AcademicsDb) : LevelsGrown d d :=
  ⟨List.prefix_refl _, List.prefix_refl _, id, rfl⟩

theorem LevelsGrown.trans (h : LevelsGrown d d') (h' : LevelsGrown d' d'') : LevelsGrown d d'' := by
  refine ⟨h.levels.trans h'.levels, h.organizations.trans h'.organizations, fun nodup => h'.one (h.one nodup), ?_⟩
  rw [h'.rest, h.rest]

theorem Grown.levelsGrown {os : List Organization} (h : Grown d os d') : LevelsGrown d d' := by
  refine ⟨?_, h.rows ▸ List.prefix_append _ _, ?_, ?_⟩
  · exact ⟨[], (List.append_nil _).trans (congrArg Table.rows h.levels.symm)⟩
  · rw [h.levels]
    exact id
  · rw [h.rest]

theorem LevelAdded.mono (h : LevelAdded toLowerCase p l d) (grown : LevelsGrown d d') :
    LevelAdded toLowerCase p l d' := by
  obtain ⟨o, mem, same⟩ := h.organization
  exact ⟨grown.levels.subset h.there, h.own, o, grown.organizations.subset mem, same⟩

theorem LevelsGrown.create (valid : (AcademicsStmt.createLevel l).check d = none) :
    LevelsGrown d ((AcademicsStmt.createLevel l).apply d) ∧
      l ∈ ((AcademicsStmt.createLevel l).apply d).campus.levels.rows := by
  simp only [AcademicsStmt.check, CampusStmt.unique, ite_eq_right_iff, reduceCtorEq, imp_false, not_or] at valid
  have rows : ((AcademicsStmt.createLevel l).apply d).campus.levels.rows = d.campus.levels.rows ++ [l] :=
    Table.insert_rows (Option.not_isSome_iff_eq_none.1 valid.1)
  have free : levelKey l ∉ d.campus.levels.rows.map levelKey := by
    intro taken
    obtain ⟨r, mem, same⟩ := List.mem_map.1 taken
    refine valid.2 (List.any_eq_true.2 ⟨r, mem, ?_⟩)
    rw [decide_eq_true_eq]
    exact Prod.mk.inj same
  refine ⟨⟨rows ▸ List.prefix_append _ _, List.prefix_refl _, fun nodup => ?_, rfl⟩, ?_⟩
  · have one : ((d.campus.levels.rows ++ added levelKey d.campus.levels.rows [l]).map levelKey).Nodup := nodup_added nodup
    rwa [added_free free, added, ← rows] at one
  · rw [rows]
    exact List.mem_append_right _ (List.mem_singleton_self l)

/-- What `there` looks for is there in the end. -/
theorem turns_createUnless_there (own : there o = true) (d : AcademicsDb) (x : Surroundings) :
    Turns (createUnless there o) d x
      (fun _ d' _ => LevelsGrown d d' ∧ ∃ r ∈ d'.campus.organizations.rows, there r = true)
      fun d' _ => LevelsGrown d d' := by
  unfold createUnless
  refine .outside_bind (.refl d) ?_
  cases found : d.campus.organizations.findFirst there with
  | some r => exact .ret ⟨.refl d, r, List.mem_of_find?_eq_some found, List.find?_some found⟩
  | none =>
    refine (Turns.statement (S := fun _ d' _ => Grown d [o] d') (Grown.create d) (.refl d)).bind ?_
    intro _ d' x' grown
    refine (turns_openWallet o.id d' x').bind ?_
    rintro _ d₂ _ rfl
    refine .ret ⟨grown.levelsGrown, o, ?_, own⟩
    rw [grown.rows]
    exact List.mem_append_right _ (List.mem_singleton_self o)

theorem turns_addLevel (p : DepartmentWithLevels) (data : LevelData) (newId newOrganizationId : String) (d : AcademicsDb)
    (x : Surroundings) :
    Turns (addLevel toLowerCase p data newId newOrganizationId) d x
      (fun l d' _ => LevelsGrown d d' ∧ l = data.level p.department.id newId ∧ LevelAdded toLowerCase p l d' ∧
        d.campus.levels.find newId = none)
      fun d' _ => LevelsGrown d d' := by
  unfold addLevel
  refine (Turns.statement (S := fun _ d' _ => (LevelsGrown d d' ∧ data.level p.department.id newId ∈ d'.campus.levels.rows) ∧
    d.campus.levels.find newId = none) (fun valid => ⟨LevelsGrown.create valid, ?_⟩) (.refl d)).bind ?_
  · have unused : (AcademicsStmt.createLevel (data.level p.department.id newId)).check d = none := valid
    simp only [AcademicsStmt.check, CampusStmt.unique, ite_eq_right_iff, reduceCtorEq, imp_false, not_or] at unused
    exact Option.not_isSome_iff_eq_none.1 unused.1
  rintro _ d₁ x₁ ⟨⟨grown, there⟩, free⟩
  have own : (addedOrganization toLowerCase p (data.level p.department.id newId) newOrganizationId).sameSlug
      (addedOrganization toLowerCase p (data.level p.department.id newId) newOrganizationId) = true := by
    unfold Organization.sameSlug
    simp
  refine ((turns_createUnless_there own d₁ x₁).mono (fun _ _ _ h => h) fun _ _ h => grown.trans h).bind ?_
  rintro _ d₂ x₂ ⟨grown₂, r, mem, same⟩
  unfold Organization.sameSlug at same
  rw [Bool.and_eq_true, decide_eq_true_eq, decide_eq_true_eq] at same
  exact .ret ⟨grown.trans grown₂, rfl, ⟨grown₂.levels.subset there, rfl, r, mem, same.2, same.1⟩, free⟩

end

/-! ## The requests -/

/-- A request to add levels. -/
inductive LevelRequest where
  | createAcademicLevel (dto : CreateAcademicLevelDto) (newId newOrganizationId : String)
  | bulkCreateAcademicLevels (departmentId : String) (levels : List CreateAcademicLevelDto)
      (newIds : LevelData → String × String)

namespace LevelRequest

/-- The levels that the request returns. -/
def program (toLowerCase : String → String) : LevelRequest → AcademicsAction (List AcademicLevel)
  | createAcademicLevel dto newId newOrganizationId =>
    (InstitutionsService.createAcademicLevel toLowerCase dto newId newOrganizationId).bind fun l => ret [l]
  | bulkCreateAcademicLevels departmentId levels newIds =>
    InstitutionsService.bulkCreateAcademicLevels toLowerCase departmentId levels newIds

def departmentId : LevelRequest → String
  | createAcademicLevel dto _ _ => dto.departmentId
  | bulkCreateAcademicLevels departmentId _ _ => departmentId

/-- The levels that the request names. -/
def levels : LevelRequest → List CreateAcademicLevelDto
  | createAcademicLevel dto _ _ => [dto]
  | bulkCreateAcademicLevels _ levels _ => levels

end LevelRequest

/-- What a request that returned the levels `ls` has done. -/
structure LevelsReturned (toLowerCase : String → String) (q : LevelRequest) (ls : List AcademicLevel) (d d' : AcademicsDb) :
    Prop where
  grown : LevelsGrown d d'
  found : ∃ p, d.departmentWithLevels q.departmentId = some p ∧ ∀ l ∈ ls, LevelAdded toLowerCase p l d'
  /-- What it returned was not there before. -/
  new : ∀ l ∈ ls, d.campus.levels.find l.id = none
  /-- What it named is there afterwards. -/
  named : ∀ dto ∈ q.levels, ∃ l ∈ d'.campus.levels.rows, l.departmentId = q.departmentId ∧ l.name = dto.name

section

variable {toLowerCase : String → String} {p : DepartmentWithLevels} {d d' : AcademicsDb} {id : String}

theorem departmentWithLevels_some (found : d.departmentWithLevels id = some p) :
    d.departments.find id = some p.department ∧ d.faculties.find p.department.facultyId = some p.faculty := by
  unfold AcademicsDb.departmentWithLevels at found
  simp only [Option.bind_eq_bind, Option.bind_eq_some_iff] at found
  obtain ⟨department, hdepartment, faculty, hfaculty, same⟩ := found
  obtain rfl := Option.some.inj same
  exact ⟨hdepartment, hfaculty⟩

theorem departmentWithLevels_id (found : d.departmentWithLevels id = some p) : p.department.id = id :=
  Table.find_key (departmentWithLevels_some found).1

theorem free_of_grown (grown : LevelsGrown d d') (free : d'.campus.levels.find id = none) :
    d.campus.levels.find id = none := by
  rw [Table.find_eq_none] at free ⊢
  intro taken
  obtain ⟨l, mem, rfl⟩ := List.mem_map.1 taken
  exact free (List.mem_map_of_mem (grown.levels.subset mem))

theorem turns_createAcademicLevel (dto : CreateAcademicLevelDto) (newId newOrganizationId : String) (d : AcademicsDb)
    (x : Surroundings) :
    Turns ((LevelRequest.createAcademicLevel dto newId newOrganizationId).program toLowerCase) d x
      (fun ls d' _ => LevelsReturned toLowerCase (.createAcademicLevel dto newId newOrganizationId) ls d d')
      fun d' _ => LevelsGrown d d' := by
  have created : Turns (InstitutionsService.createAcademicLevel toLowerCase dto newId newOrganizationId) d x
      (fun l d' _ => LevelsReturned toLowerCase (.createAcademicLevel dto newId newOrganizationId) [l] d d')
      fun d' _ => LevelsGrown d d' := by
    unfold InstitutionsService.createAcademicLevel
    refine .outside_bind (.refl d) (.orThrow_bind (.refl d) fun p found => .outside_bind (.refl d) ?_)
    refine .ensure_bind (.refl d) fun _ => ?_
    refine (turns_addLevel p dto.data newId newOrganizationId d x).bind ?_
    rintro _ d₁ x₁ ⟨grown, rfl, added, free⟩
    refine (turns_invalidate d₁ x₁).bind ?_
    rintro _ d₂ x₂ rfl
    refine (turns_logActivity d₂ x₂ grown).bind ?_
    rintro _ d₃ x₃ rfl
    refine .ret ⟨grown, ⟨p, found, ?_⟩, ?_, ?_⟩
    · intro l hl
      rw [List.mem_singleton.1 hl]
      exact added
    · intro l hl
      rw [List.mem_singleton.1 hl]
      exact free
    · intro dto' mem
      rw [List.mem_singleton.1 mem]
      exact ⟨_, added.there, added.own.trans (departmentWithLevels_id found), rfl⟩
  exact created.bind fun l d' _ h => .ret h

/-- The levels `ls` have been added in bulk, and `done` are the names gone through. -/
structure Bulk (toLowerCase : String → String) (p : DepartmentWithLevels) (done : List CreateAcademicLevelDto)
    (ls : List AcademicLevel) (d d' : AcademicsDb) : Prop where
  grown : LevelsGrown d d'
  added : ∀ l ∈ ls, LevelAdded toLowerCase p l d' ∧ d.campus.levels.find l.id = none
  named : ∀ dto ∈ done, ∃ l ∈ d'.campus.levels.rows, l.departmentId = p.department.id ∧ l.name = dto.name

theorem Bulk.next {done : List CreateAcademicLevelDto} {ls ls' : List AcademicLevel} {d₁ : AcademicsDb}
    {dto : CreateAcademicLevelDto} (h : Bulk toLowerCase p done ls d d') (grown : LevelsGrown d' d₁)
    (added : ∀ l ∈ ls', LevelAdded toLowerCase p l d₁ ∧ d'.campus.levels.find l.id = none)
    (named : ∃ l ∈ d₁.campus.levels.rows, l.departmentId = p.department.id ∧ l.name = dto.name) :
    Bulk toLowerCase p (done ++ [dto]) (ls ++ ls') d d₁ := by
  refine ⟨h.grown.trans grown, fun l hl => ?_, fun dto' mem => ?_⟩
  · obtain hl | hl := List.mem_append.1 hl
    · exact ⟨(h.added l hl).1.mono grown, (h.added l hl).2⟩
    · exact ⟨(added l hl).1, free_of_grown h.grown (added l hl).2⟩
  · obtain mem | mem := List.mem_append.1 mem
    · obtain ⟨l, there, same⟩ := h.named dto' mem
      exact ⟨l, grown.levels.subset there, same⟩
    · rw [List.mem_singleton.1 mem]
      exact named

theorem turns_bulkCreateAcademicLevels (departmentId : String) (levels : List CreateAcademicLevelDto)
    (newIds : LevelData → String × String) (d : AcademicsDb) (x : Surroundings) :
    Turns ((LevelRequest.bulkCreateAcademicLevels departmentId levels newIds).program toLowerCase) d x
      (fun ls d' _ => LevelsReturned toLowerCase (.bulkCreateAcademicLevels departmentId levels newIds) ls d d')
      fun d' _ => LevelsGrown d d' := by
  unfold LevelRequest.program InstitutionsService.bulkCreateAcademicLevels
  refine .outside_bind (.refl d) (.orThrow_bind (.refl d) fun p found => ?_)
  have id := departmentWithLevels_id found
  refine (Turns.collect (I := fun left acc d' _ => ∃ done, done ++ left = levels ∧ Bulk toLowerCase p done acc d d') []
    ⟨[], rfl, .refl d, fun _ h => absurd h List.not_mem_nil, fun _ h => absurd h List.not_mem_nil⟩ ?_).bind ?_
  · rintro dto left acc d' x' ⟨done, rfl, bulk⟩
    refine .outside_bind bulk.grown ?_
    cases there : d'.campus.levels.findFirst fun l => l.departmentId = departmentId ∧ l.name = dto.name with
    | some l =>
      have same := List.find?_some there
      rw [decide_eq_true_eq] at same
      refine .ret ⟨done ++ [dto], by simp, bulk.next (.refl d') (fun _ h => absurd h List.not_mem_nil) ?_⟩
      exact ⟨l, List.mem_of_find?_eq_some there, same.1.trans id.symm, same.2⟩
    | none =>
      refine ((turns_addLevel p dto.data (newIds dto.data).1 (newIds dto.data).2 d' x').mono (fun _ _ _ h => h)
        fun _ _ h => bulk.grown.trans h).bind ?_
      rintro _ d₁ x₁ ⟨grown, rfl, added, free⟩
      refine .ret ⟨done ++ [dto], by simp, bulk.next grown (fun l hl => ?_) ⟨_, added.there, added.own, rfl⟩⟩
      rw [List.mem_singleton.1 hl]
      exact ⟨added, free⟩
  · rintro ls d₁ x₁ ⟨done, same, bulk⟩
    rw [List.append_nil] at same
    obtain rfl := same
    refine (turns_invalidate d₁ x₁).bind ?_
    rintro _ d₂ x₂ rfl
    refine (turns_logActivity d₂ x₂ bulk.grown).bind ?_
    rintro _ d₃ x₃ rfl
    refine .ret ⟨bulk.grown, ⟨p, found, fun l hl => (bulk.added l hl).1⟩, fun l hl => (bulk.added l hl).2, fun dto mem => ?_⟩
    obtain ⟨l, there, own, name⟩ := bulk.named dto mem
    exact ⟨l, there, own.trans id, name⟩

theorem LevelRequest.turns (q : LevelRequest) (d : AcademicsDb) (x : Surroundings) :
    Turns (q.program toLowerCase) d x (fun ls d' _ => LevelsReturned toLowerCase q ls d d')
      fun d' _ => LevelsGrown d d' := by
  cases q with
  | createAcademicLevel dto newId newOrganizationId => exact turns_createAcademicLevel dto newId newOrganizationId d x
  | bulkCreateAcademicLevels departmentId levels newIds => exact turns_bulkCreateAcademicLevels departmentId levels newIds d x

end

/-! ## Requests in turn -/

/-- What the requests served since the state `d` have left. -/
structure LevelsServed (toLowerCase : String → String) (d : AcademicsDb)
    (log : List (LevelRequest × Except CampusError (List AcademicLevel))) (d' : AcademicsDb) : Prop where
  grown : LevelsGrown d d'
  /-- What was returned is there, with an organization, and was not there before. -/
  returned : ∀ e ∈ log, ∀ ls, e.2 = .ok ls → ∃ p : DepartmentWithLevels,
    d.departments.find e.1.departmentId = some p.department ∧ d.faculties.find p.department.facultyId = some p.faculty ∧
    ∀ l ∈ ls, LevelAdded toLowerCase p l d' ∧ d.campus.levels.find l.id = none
  /-- What the requests that returned named is there. -/
  named : ∀ e ∈ log, ∀ ls, e.2 = .ok ls → ∀ dto ∈ e.1.levels,
    ∃ l ∈ d'.campus.levels.rows, l.departmentId = e.1.departmentId ∧ l.name = dto.name
  /-- No level was returned by two requests. -/
  once : log.Pairwise fun e e' => ∀ ls ls', e.2 = .ok ls → e'.2 = .ok ls' → ∀ l ∈ ls, ∀ l' ∈ ls', l.id ≠ l'.id

section

variable {toLowerCase : String → String} {d d' d'' : AcademicsDb}
  {log : List (LevelRequest × Except CampusError (List AcademicLevel))}

theorem LevelsServed.start (d : AcademicsDb) : LevelsServed toLowerCase d [] d :=
  ⟨.refl d, fun _ h => absurd h List.not_mem_nil, fun _ h => absurd h List.not_mem_nil, List.Pairwise.nil⟩

theorem LevelsServed.mono (h : LevelsServed toLowerCase d log d') (grown : LevelsGrown d' d'') :
    LevelsServed toLowerCase d log d'' := by
  refine ⟨h.grown.trans grown, fun e he ls ok => ?_, fun e he ls ok dto mem => ?_, h.once⟩
  · obtain ⟨p, department, faculty, added⟩ := h.returned e he ls ok
    exact ⟨p, department, faculty, fun l hl => ⟨(added l hl).1.mono grown, (added l hl).2⟩⟩
  · obtain ⟨l, there, same⟩ := h.named e he ls ok dto mem
    exact ⟨l, grown.levels.subset there, same⟩

theorem LevelsServed.fail (h : LevelsServed toLowerCase d log d') (q : LevelRequest) (error : CampusError) :
    LevelsServed toLowerCase d (log ++ [(q, .error error)]) d' := by
  refine ⟨h.grown, fun e he ls ok => ?_, fun e he ls ok => ?_, ?_⟩
  · obtain he | he := List.mem_append.1 he
    · exact h.returned e he ls ok
    · rw [List.mem_singleton.1 he] at ok
      cases ok
  · obtain he | he := List.mem_append.1 he
    · exact h.named e he ls ok
    · rw [List.mem_singleton.1 he] at ok
      cases ok
  · refine List.pairwise_append.2 ⟨h.once, List.pairwise_singleton _ _, fun _ _ e' he' _ _ _ ok => ?_⟩
    rw [List.mem_singleton.1 he'] at ok
    cases ok

theorem LevelsServed.serve {q : LevelRequest} {ls : List AcademicLevel} (h : LevelsServed toLowerCase d log d')
    (returned : LevelsReturned toLowerCase q ls d' d'') : LevelsServed toLowerCase d (log ++ [(q, .ok ls)]) d'' := by
  have before := h.mono returned.grown
  have rest := h.grown.rest
  refine ⟨before.grown, fun e he ls' ok => ?_, fun e he ls' ok => ?_, ?_⟩
  · obtain he | he := List.mem_append.1 he
    · exact before.returned e he ls' ok
    · obtain rfl := List.mem_singleton.1 he
      obtain rfl := Except.ok.inj ok
      obtain ⟨p, found, added⟩ := returned.found
      obtain ⟨department, faculty⟩ := departmentWithLevels_some found
      rw [rest] at department faculty
      exact ⟨p, department, faculty, fun l hl => ⟨added l hl, free_of_grown h.grown (returned.new l hl)⟩⟩
  · obtain he | he := List.mem_append.1 he
    · exact before.named e he ls' ok
    · obtain rfl := List.mem_singleton.1 he
      exact returned.named
  · refine List.pairwise_append.2 ⟨h.once, List.pairwise_singleton _ _, fun e he e' he' ls₁ ls₂ ok ok' l hl l' hl' => ?_⟩
    obtain rfl := List.mem_singleton.1 he'
    obtain rfl := Except.ok.inj ok'
    obtain ⟨p, -, -, added⟩ := h.returned e he ls₁ ok
    have free := Table.find_eq_none.1 (returned.new l' hl')
    exact fun same => free (same ▸ List.mem_map_of_mem (added l hl).1.there)

end

/-- **Levels are added once**, each with an organization, by any requests that are served in turn. -/
theorem levels_added_once {toLowerCase : String → String} {d d' : AcademicsDb} {x x' : Surroundings}
    {log : List (LevelRequest × Except CampusError (List AcademicLevel))}
    (served : ServedInTurn (LevelRequest.program toLowerCase) d x log d' x') : LevelsServed toLowerCase d log d' := by
  refine served.induct (I := fun log d' _ => LevelsServed toLowerCase d log d') (.start d) fun log d' x' q before => ?_
  refine (q.turns d' x').mono (fun ls d'' _ returned => before.serve returned) fun d'' _ grown e => ?_
  exact (before.mono grown).fail q e

/-- The first level of physics. -/
def firstLevel : LevelRequest := .createAcademicLevel ⟨"One", 100, 1, "phy"⟩ "l1" "o1"

/-- The first level once more, and the second. -/
def bothLevels : LevelRequest :=
  .bulkCreateAcademicLevels "phy" [⟨"One", 100, 1, "phy"⟩, ⟨"Two", 200, 2, "phy"⟩] fun data => (data.name, "new-" ++ data.name)

def physicsAlone : AcademicsDb where
  faculties := .insert .empty { id := "sci", institutionId := "uni", name := "Science", code := "sci" }
  departments := .insert .empty { id := "phy", facultyId := "sci", name := "Physics", code := "phy" }

theorem bothLevels_added_once : ∃ log d' x',
    ServedInTurn (LevelRequest.program id) physicsAlone ({} : Surroundings) log d' x' ∧
    log.map Prod.fst = [firstLevel, bothLevels] ∧
    d'.campus.levels.rows.map AcademicLevel.name = ["One", "Two"] ∧
    d'.campus.organizations.rows.map Organization.slug = ["phy-One", "phy-Two"] ∧
    LevelsServed id physicsAlone log d' := by
  have run : ∃ o ∈ (firstLevel.program id).alone [] physicsAlone ({} : Surroundings),
      ∃ o' ∈ (bothLevels.program id).alone [] o.db o.ext,
        o'.db.campus.levels.rows.map AcademicLevel.name = ["One", "Two"] ∧
        o'.db.campus.organizations.rows.map Organization.slug = ["phy-One", "phy-Two"] := by decide +kernel
  obtain ⟨o, ho, o', ho', names, slugs⟩ := run
  have served := ((ServedInTurn.start (D := AcademicsDb)).next firstLevel o (ends_of_alone ho)).next bothLevels o'
    (ends_of_alone ho')
  exact ⟨_, _, _, served, rfl, names, slugs, levels_added_once served⟩

end Heightt.Campus
