import Heightt.Campus.Promotion
import Heightt.ReadCommitted.Alone
import Heightt.ReadCommitted.Guarantee

/-!
# A list of promotions against single ones

The list is promoted on the word of the request: whoever is on it and has no record
for the session yet goes to the new level, from whatever level and as often as the
list says. It does what single promotions would do where every student on it is on
the level the request names.
-/

namespace Heightt.Campus

open Store ReadCommitted Prog Database PromotionService

variable {d : CampusDb} {x : Surroundings} {β : Type}

/-- The request names two levels of a department, and a session. -/
def Valid (d : CampusDb) (fromLevelId toLevelId sessionId : String) : Prop :=
  ∃ f t s, d.levels.find fromLevelId = some f ∧ d.levels.find toLevelId = some t ∧
    d.sessions.find sessionId = some s ∧ f.departmentId = t.departmentId

/-- A program that ends in an error and leaves the state alone. -/
def Fails {α : Type} (p : CampusAction α) (d : CampusDb) (x : Surroundings) : Prop :=
  ∃ e, p.alone [] d x = some ⟨.error e, [], d, x⟩

/-- A program that returns `a` and leaves `d'`. -/
def Ends {α : Type} (p : CampusAction α) (d : CampusDb) (x : Surroundings) (a : α) (d' : CampusDb) : Prop :=
  p.alone [] d x = some ⟨.ok a, [], d', x⟩

theorem findLevels_of_valid {f t s : String} (valid : Valid d f t s) (g : Unit → CampusAction β) :
    ((findLevels f t s).bind g).alone [] d x = (g ()).alone [] d x := by
  obtain ⟨from_, to_, session, hf, ht, hs, same⟩ := valid
  simp only [findLevels, bind_eq, Prog.bind_assoc, alone_outside, alone_orThrow, hf, ht, hs, alone_ensure,
    same, if_true]

theorem findLevels_of_not_valid {f t s : String} (invalid : ¬Valid d f t s)
    (g : Unit → CampusAction β) : Fails ((findLevels f t s).bind g) d x := by
  unfold Fails
  simp only [findLevels, bind_eq, Prog.bind_assoc, alone_outside, alone_orThrow]
  cases hf : d.levels.find f with
  | none => exact ⟨_, rfl⟩
  | some from_ =>
    cases ht : d.levels.find t with
    | none => exact ⟨_, rfl⟩
    | some to_ =>
      cases hs : d.sessions.find s with
      | none => exact ⟨_, rfl⟩
      | some session =>
        refine ⟨.badRequest "Levels must belong to the same department", ?_⟩
        simp only [alone_ensure, if_neg fun same => invalid ⟨from_, to_, session, hf, ht, hs, same⟩]

/-- The state after the promotion of a student. -/
def promote (d : CampusDb) (row : StudentPromotion) : CampusDb :=
  (CampusStmt.updateStudent row.studentId (levelPatch row.toLevelId)).apply
    ((CampusStmt.createPromotion row).apply d)

/-- The identifier is no promotion's. -/
def Unused (d : CampusDb) (newId : String) : Prop := ∀ p ∈ d.promotions, p.id ≠ newId

/-- The transaction of a promotion, where the request is valid. -/
def promotionBody (row : StudentPromotion) : CampusAction Unit :=
  (exec (.createPromotion row)).bind fun _ =>
    exec (.updateStudent row.studentId (levelPatch row.toLevelId))

theorem check_createPromotion {row : StudentPromotion} (unused : Unused d row.id)
    (valid : Valid d row.fromLevelId row.toLevelId row.sessionId) :
    (CampusStmt.createPromotion row).check d =
      if (d.students.find row.studentId).isSome then none else some .foreignKeyConstraint := by
  obtain ⟨f, t, s, hf, ht, hs, -⟩ := valid
  have free : ¬(d.promotions.any fun q => q.id = row.id) = true := by
    simpa [Unused] using unused
  simp only [CampusStmt.check, CampusStmt.first, CampusStmt.unique, free, hf, ht, hs]
  cases d.students.find row.studentId <;> rfl

theorem promotes_student (row : StudentPromotion) (unused : Unused d row.id)
    (valid : Valid d row.fromLevelId row.toLevelId row.sessionId)
    (student : (d.students.find row.studentId).isSome) (g : Unit → CampusAction β) :
    ((transaction (promotionBody row)).bind g).alone [] d x = (g ()).alone [] (promote d row) x := by
  have created : check (CampusStmt.createPromotion row) d = none := by
    show (CampusStmt.createPromotion row).check d = none
    rw [check_createPromotion unused valid, if_pos student]
  have updated : check (CampusStmt.updateStudent row.studentId (levelPatch row.toLevelId))
      (apply (CampusStmt.createPromotion row) d) = none := by
    show CampusStmt.existing (d.students.find row.studentId).isSome = none
    rw [student]
    rfl
  have body : (promotionBody row).alone [{}] d x = some ⟨.ok (), [⟨[.createPromotion row,
      .updateStudent row.studentId (levelPatch row.toLevelId)], true⟩], d, x⟩ := by
    rw [promotionBody, alone_exec]
    simp only [applyAll_nil, created, List.nil_append]
    rw [← Prog.bind_ret (exec _), alone_exec]
    simp only [applyAll_cons, applyAll_nil, updated, alone_ret]
    rfl
  exact alone_transaction body (by simp [violation, created, updated]) g

theorem refuses_stranger (row : StudentPromotion) (unused : Unused d row.id)
    (valid : Valid d row.fromLevelId row.toLevelId row.sessionId)
    (stranger : d.students.find row.studentId = none) (g : Unit → CampusAction β) :
    ((transaction (promotionBody row)).bind g).alone [] d x =
      some ⟨.error .foreignKeyConstraint, [], d, x⟩ := by
  have refused : check (CampusStmt.createPromotion row) d = some .foreignKeyConstraint := by
    show (CampusStmt.createPromotion row).check d = _
    rw [check_createPromotion unused valid, stranger]
    rfl
  have body : (promotionBody row).alone [{}] d x =
      some ⟨.error .foreignKeyConstraint, [⟨[], false⟩], d, x⟩ := by
    rw [promotionBody, alone_exec]
    simp only [applyAll_nil, refused]
  exact alone_transaction_error body g

/-! ## One student -/

/-- What `promoteStudent` asks for. -/
structure Accepts (d : CampusDb) (studentId : String) (dto : PromoteStudentDto) (s : StudentProfile) :
    Prop where
  found : d.students.find studentId = some s
  valid : Valid d dto.fromLevelId dto.toLevelId dto.sessionId
  elsewhere : s.currentAcademicLevelId ≠ some dto.toLevelId
  onLevel : s.currentAcademicLevelId = some dto.fromLevelId
  unrecorded : (d.promotions.find? fun p => p.studentId = studentId ∧ p.sessionId = dto.sessionId ∧
    p.fromLevelId = dto.fromLevelId ∧ p.toLevelId = dto.toLevelId) = none

theorem alone_invalidate (g : Unit → CampusAction β) :
    (CacheService.invalidate.bind g).alone [] d x = (g ()).alone [] d x := alone_request _ _

theorem alone_createActivityLog (g : Unit → CampusAction β) :
    ((statement CampusStmt.createActivityLog).bind g).alone [] d x = (g ()).alone [] d x :=
  alone_statement _ _

theorem promoteStudent_of_accepts {studentId userId newId : String} {dto : PromoteStudentDto}
    {s : StudentProfile} (accepts : Accepts d studentId dto s) (unused : Unused d newId) :
    Ends (promoteStudent studentId userId dto newId) d x ()
      (promote d (promotionRow studentId userId newId dto d.now)) := by
  have student : (d.students.find studentId).isSome := by rw [accepts.found]; rfl
  unfold Ends
  simp only [promoteStudent, bind_eq, alone_outside, alone_orThrow, accepts.found]
  rw [findLevels_of_valid accepts.valid]
  simp only [alone_ensure, accepts.onLevel, alone_outside, accepts.unrecorded, if_true,
    Option.isNone_none, alone_query, ne_eq]
  rw [if_pos fun same => accepts.elsewhere (accepts.onLevel.trans same)]
  refine (promotes_student (promotionRow studentId userId newId dto d.now) unused accepts.valid
    student _).trans ?_
  rw [alone_invalidate, alone_createActivityLog]
  rfl

theorem promoteStudent_of_not_accepts {studentId userId newId : String} {dto : PromoteStudentDto}
    (refused : ∀ s, ¬Accepts d studentId dto s) :
    Fails (promoteStudent studentId userId dto newId) d x := by
  unfold Fails
  simp only [promoteStudent, bind_eq, alone_outside, alone_orThrow]
  cases found : d.students.find studentId with
  | none => exact ⟨_, rfl⟩
  | some s =>
    by_cases valid : Valid d dto.fromLevelId dto.toLevelId dto.sessionId
    · simp only [findLevels_of_valid valid, alone_ensure, alone_outside]
      by_cases elsewhere : s.currentAcademicLevelId = some dto.toLevelId
      · exact ⟨_, by rw [if_neg (not_not.2 elsewhere)]⟩
      · rw [if_pos elsewhere]
        by_cases onLevel : s.currentAcademicLevelId = some dto.fromLevelId
        · rw [if_pos onLevel, if_neg fun unrecorded => refused s
            ⟨found, valid, elsewhere, onLevel, Option.isNone_iff_eq_none.1 unrecorded⟩]
          exact ⟨_, rfl⟩
        · exact ⟨_, by rw [if_neg onLevel]⟩
    · exact findLevels_of_not_valid valid _

/-! ## The list -/

section List

variable (userId : String) (dto : BulkPromoteDto) (newId : Nat → String)

/-- The row of the `n`-th entry. -/
def entryRow (n : Nat) (studentId : String) (now : Nat) : StudentPromotion :=
  promotionRow studentId userId (newId n) (entry dto) now

/-- The state after the entries from the `n`-th on: strangers are passed over. -/
def promoteAll : Nat → List String → CampusDb → CampusDb
  | _, [], d => d
  | n, id :: ids, d => promoteAll (n + 1) ids
    (if (d.students.find id).isSome then promote d (entryRow userId dto newId n id d.now) else d)

/-- The promotions that the entries add. -/
def addedRows (d : CampusDb) : Nat → List String → List StudentPromotion
  | _, [] => []
  | n, id :: ids =>
    (if (d.students.find id).isSome then [entryRow userId dto newId n id d.now] else []) ++
      addedRows d (n + 1) ids

end List

/-- What the entries leave as it is. -/
structure Alike (d d' : CampusDb) : Prop where
  levels : d'.levels = d.levels
  sessions : d'.sessions = d.sessions
  memberships : d'.memberships = d.memberships
  now : d'.now = d.now
  students : ∀ id, (d'.students.find id).isSome = (d.students.find id).isSome

theorem Alike.refl (d : CampusDb) : Alike d d := ⟨rfl, rfl, rfl, rfl, fun _ => rfl⟩

theorem Alike.trans {d d' d'' : CampusDb} (h : Alike d d') (h' : Alike d' d'') : Alike d d'' :=
  ⟨h'.levels.trans h.levels, h'.sessions.trans h.sessions, h'.memberships.trans h.memberships,
    h'.now.trans h.now, fun id => (h'.students id).trans (h.students id)⟩

theorem alike_promote (d : CampusDb) (row : StudentPromotion) : Alike d (promote d row) :=
  ⟨rfl, rfl, rfl, rfl, fun id => Table.isSome_find_modify d.students row.studentId
    (levelPatch row.toLevelId).apply (fun _ => rfl) id⟩

theorem Alike.valid {d d' : CampusDb} (h : Alike d d') {f t s : String} (valid : Valid d f t s) :
    Valid d' f t s := by
  unfold Valid
  rw [h.levels, h.sessions]
  exact valid

section Entries

variable {userId : String} {dto : BulkPromoteDto} {newId : Nat → String}

/-- The state after one entry. -/
theorem promoteAll_cons (userId : String) (dto : BulkPromoteDto) (newId : Nat → String) (n : Nat) (id : String)
    (ids : List String) (d : CampusDb) :
    ∃ d₁, promoteAll userId dto newId n (id :: ids) d = promoteAll userId dto newId (n + 1) ids d₁ ∧
      Alike d d₁ ∧
      ((d.students.find id).isSome = true ∧ d₁ = promote d (entryRow userId dto newId n id d.now) ∨
        (d.students.find id) = none ∧ d₁ = d) := by
  cases student : d.students.find id with
  | none => exact ⟨d, by simp [promoteAll, student], .refl d, .inr ⟨rfl, rfl⟩⟩
  | some s => exact ⟨_, by simp only [promoteAll, student, Option.isSome_some, if_true],
      alike_promote d _, .inl ⟨rfl, rfl⟩⟩

theorem promoteEntry_of_student {n : Nat} {id : String} (unused : Unused d (newId n))
    (valid : Valid d dto.fromLevelId dto.toLevelId dto.sessionId)
    (student : (d.students.find id).isSome) :
    ∃ results, Ends (promoteEntry userId dto (newId n) id) d x results
      (promote d (entryRow userId dto newId n id d.now)) := by
  refine ⟨[promoteEntry.success (newId n) id], ?_⟩
  unfold Ends promoteEntry
  rw [alone_onThrow]
  simp only [bind_eq, alone_query]
  have promoted := promotes_student (x := x) (entryRow userId dto newId n id d.now) unused valid student
    fun _ => promoteEntry.notify (newId n) id
  obtain ⟨s, found⟩ := Option.isSome_iff_exists.1
    (((alike_promote d (entryRow userId dto newId n id d.now)).students id).trans student)
  refine (congrArg (fun o => Option.bind o _) promoted).trans ?_
  unfold promoteEntry.notify
  rw [alone_onThrow]
  simp only [bind_eq, alone_outside, found, whenSome, pure_eq]
  rfl

theorem promoteEntry_of_stranger {n : Nat} {id : String} (unused : Unused d (newId n))
    (valid : Valid d dto.fromLevelId dto.toLevelId dto.sessionId)
    (stranger : d.students.find id = none) :
    ∃ results, Ends (promoteEntry userId dto (newId n) id) d x results d := by
  refine ⟨[{ studentId := id, error := some .foreignKeyConstraint }], ?_⟩
  unfold Ends promoteEntry
  rw [alone_onThrow]
  simp only [bind_eq, alone_query]
  have refused := refuses_stranger (x := x) (entryRow userId dto newId n id d.now) unused valid stranger
    fun _ => promoteEntry.notify (newId n) id
  exact congrArg (fun o => Option.bind o _) refused

/-- Identifiers that are all different, and no promotion's. -/
structure Fresh (d : CampusDb) (newId : Nat → String) : Prop where
  unused : ∀ n, Unused d (newId n)
  different : Function.Injective newId

/-- The identifiers from the `n`-th on are no promotion's. -/
def UnusedFrom (d : CampusDb) (newId : Nat → String) (n : Nat) : Prop := ∀ k ≥ n, Unused d (newId k)

theorem unusedFrom_promote {n : Nat} {id : String} {now : Nat} (unused : UnusedFrom d newId n)
    (different : Function.Injective newId) :
    UnusedFrom (promote d (entryRow userId dto newId n id now)) newId (n + 1) := by
  intro k hk p mem
  change p ∈ d.promotions ++ [_] at mem
  obtain mem | mem := List.mem_append.1 mem
  · exact unused k (by omega) p mem
  · rw [List.mem_singleton.1 mem]
    intro same
    have : n = k := different same
    omega

theorem promoteEntries_ends {n : Nat} {ids : List String} (unused : UnusedFrom d newId n)
    (different : Function.Injective newId) (valid : Valid d dto.fromLevelId dto.toLevelId dto.sessionId) :
    ∃ results, Ends (promoteEntries userId dto newId n ids) d x results
      (promoteAll userId dto newId n ids d) := by
  induction ids generalizing n d with
  | nil => exact ⟨[], alone_ret _⟩
  | cons id ids ih =>
    obtain ⟨d₁, same, alike, step⟩ := promoteAll_cons userId dto newId n id ids d
    have first : ∃ results, Ends (promoteEntry userId dto (newId n) id) d x results d₁ := by
      obtain ⟨student, rfl⟩ | ⟨stranger, rfl⟩ := step
      · exact promoteEntry_of_student (unused n (Nat.le_refl n)) valid student
      · exact promoteEntry_of_stranger (unused n (Nat.le_refl n)) valid stranger
    have unused₁ : UnusedFrom d₁ newId (n + 1) := by
      obtain ⟨-, rfl⟩ | ⟨-, rfl⟩ := step
      · exact unusedFrom_promote unused different
      · exact fun k hk => unused k (by omega)
    obtain ⟨results, first⟩ := first
    obtain ⟨rest, others⟩ := ih unused₁ (alike.valid valid)
    refine ⟨results ++ rest, ?_⟩
    unfold Ends at first others ⊢
    rw [promoteEntries, same]
    simp only [bind_eq]
    rw [alone_bind, first]
    simp only [Option.bind_some, Outcome.next]
    rw [alone_bind, others]
    rfl

theorem find_promote (row : StudentPromotion) (id : String) :
    (promote d row).students.find id = if id = row.studentId then
      (d.students.find id).map (levelPatch row.toLevelId).apply else d.students.find id :=
  Table.find_modify d.students row.studentId (levelPatch row.toLevelId).apply (fun _ => rfl) id

/-- Who is on the list is on the new level. -/
theorem find_promoteAll (n : Nat) (ids : List String) (id : String) :
    (promoteAll userId dto newId n ids d).students.find id = if id ∈ ids then
      (d.students.find id).map (levelPatch dto.toLevelId).apply else d.students.find id := by
  induction ids generalizing n d with
  | nil => rfl
  | cons id' ids ih =>
    obtain ⟨d₁, same, -, step⟩ := promoteAll_cons userId dto newId n id' ids d
    have first : d₁.students.find id = if id = id' then
        (d.students.find id).map (levelPatch dto.toLevelId).apply else d.students.find id := by
      obtain ⟨-, rfl⟩ | ⟨stranger, rfl⟩ := step
      · exact find_promote _ id
      · by_cases own : id = id'
        · rw [if_pos own, own, stranger]
          rfl
        · rw [if_neg own]
    rw [same, ih, first]
    by_cases own : id = id'
    · subst own
      rw [if_pos rfl, if_pos List.mem_cons_self]
      cases d.students.find id with
      | none => split <;> rfl
      | some s => split <;> rfl
    · rw [if_neg own]
      simp [own]

theorem addedRows_of_alike {d₁ : CampusDb} (alike : Alike d d₁) (n : Nat) (ids : List String) :
    addedRows userId dto newId d₁ n ids = addedRows userId dto newId d n ids := by
  induction ids generalizing n with
  | nil => rfl
  | cons id ids ih => rw [addedRows, addedRows, ih, alike.students, alike.now]

theorem promotions_promoteAll (n : Nat) (ids : List String) :
    (promoteAll userId dto newId n ids d).promotions =
      d.promotions ++ addedRows userId dto newId d n ids := by
  induction ids generalizing n d with
  | nil => exact (List.append_nil _).symm
  | cons id ids ih =>
    obtain ⟨d₁, same, alike, step⟩ := promoteAll_cons userId dto newId n id ids d
    rw [same, ih, addedRows_of_alike alike, addedRows]
    obtain ⟨student, rfl⟩ | ⟨stranger, rfl⟩ := step
    · rw [if_pos student]
      exact List.append_assoc _ _ _
    · rw [stranger]
      rfl

theorem memberships_promoteAll (n : Nat) (ids : List String) :
    (promoteAll userId dto newId n ids d).memberships = d.memberships := by
  induction ids generalizing n d with
  | nil => rfl
  | cons id ids ih =>
    obtain ⟨d₁, same, alike, -⟩ := promoteAll_cons userId dto newId n id ids d
    rw [same, ih, alike.memberships]

end Entries

/-! ## The list and single promotions -/

/-- A promotion but for its identifier. -/
def StudentPromotion.content (p : StudentPromotion) : StudentPromotion := { p with id := "" }

/-- The promotions of a student that `d'` has and `d` had not. -/
def addedFor (d d' : CampusDb) (studentId : String) : List StudentPromotion :=
  ((d'.promotions.drop d.promotions.length).filter fun p => p.studentId = studentId).map
    StudentPromotion.content

/-- The student is as before, and has no new promotion. -/
def Untouched (d d' : CampusDb) (studentId : String) : Prop :=
  d'.students.find studentId = d.students.find studentId ∧ addedFor d d' studentId = []

/-- The students that the request selects. -/
def selected (d : CampusDb) (dto : BulkPromoteDto) : List String :=
  if dto.promoteAll ∨ dto.studentIds = [] then
    (d.students.rows.filter fun s => s.currentAcademicLevelId = some dto.fromLevelId ∧
      (dto.departmentId.getD "" ≠ "" → dto.departmentId = some s.departmentId)).map StudentProfile.id
  else dto.studentIds

/-- The list has done in `d` what single promotions do with its students. -/
structure AsSingle (d : CampusDb) (x : Surroundings) (userId : String) (dto : BulkPromoteDto)
    (newId : Nat → String) (d' : CampusDb) : Prop where
  accepted : ∀ id ∈ selected d dto, ∀ n d₁,
    Ends (promoteStudent id userId (entry dto) (newId n)) d x () d₁ →
      d'.students.find id = d₁.students.find id ∧ addedFor d d' id = addedFor d d₁ id
  refused : ∀ id ∈ selected d dto, ∀ n,
    Fails (promoteStudent id userId (entry dto) (newId n)) d x → Untouched d d' id
  others : ∀ id ∉ selected d dto, Untouched d d' id
  memberships : d'.memberships = d.memberships

/-- Every student that is selected and has no record for the session yet is on the
level that the request names, which is not the new one, and is selected once. -/
def OnLevel (d : CampusDb) (dto : BulkPromoteDto) : Prop :=
  Valid d dto.fromLevelId dto.toLevelId dto.sessionId → ∀ id ∈ selected d dto, ¬HasRecord d dto id →
    ∀ s, d.students.find id = some s → s.currentAcademicLevelId = some dto.fromLevelId ∧
      dto.fromLevelId ≠ dto.toLevelId ∧ (selected d dto).count id = 1

section Refines

variable {userId : String} {dto : BulkPromoteDto} {newId : Nat → String}

theorem unrecorded_iff {id : String} : (d.promotions.find? fun p => p.studentId = id ∧
    p.sessionId = (entry dto).sessionId ∧ p.fromLevelId = (entry dto).fromLevelId ∧
      p.toLevelId = (entry dto).toLevelId) = none ↔ ¬HasRecord d dto id := by
  rw [List.find?_eq_none]
  constructor
  · rintro none ⟨p, mem, same⟩
    exact none p mem (decide_eq_true same)
  · intro unrecorded p mem same
    exact unrecorded ⟨p, mem, of_decide_eq_true same⟩

/-- The promotions of one student that the entries add. -/
theorem addedRows_for (d : CampusDb) (n : Nat) (ids : List String) (id : String) :
    ((addedRows userId dto newId d n ids).filter fun p => p.studentId = id).map
        StudentPromotion.content =
      if (d.students.find id).isSome then
        List.replicate (ids.count id) (entryRow userId dto newId 0 id d.now).content else [] := by
  induction ids generalizing n with
  | nil => simp [addedRows]
  | cons id' ids ih =>
    rw [addedRows, List.filter_append, List.map_append, ih]
    by_cases own : id' = id
    · subst own
      by_cases student : (d.students.find id').isSome = true
      · simp [student, List.replicate_succ, entryRow, promotionRow, StudentPromotion.content]
      · simp [student]
    · have other : (if (d.students.find id').isSome then [entryRow userId dto newId n id' d.now] else []).filter
          (fun p => p.studentId = id) = [] := by
        split <;> simp [entryRow, promotionRow, own]
      rw [other, List.map_nil, List.nil_append, List.count_cons_of_ne own]

theorem addedFor_promoteAll (ids : List String) (id : String) :
    addedFor d (promoteAll userId dto newId 0 ids d) id =
      if (d.students.find id).isSome then
        List.replicate (ids.count id) (entryRow userId dto newId 0 id d.now).content else [] := by
  rw [addedFor, promotions_promoteAll, List.drop_left]
  exact addedRows_for d 0 ids id

theorem addedFor_promote (n : Nat) (id : String) :
    addedFor d (promote d (entryRow userId dto newId n id d.now)) id =
      [(entryRow userId dto newId 0 id d.now).content] := by
  show (((d.promotions ++ [_]).drop d.promotions.length).filter _).map _ = _
  rw [List.drop_left]
  simp [entryRow, promotionRow, StudentPromotion.content]

/-- The students that the list promotes. -/
def unrecorded (d : CampusDb) (dto : BulkPromoteDto) : List String :=
  (selected d dto).filter fun id => ¬HasRecord d dto id

theorem mem_unrecorded {id : String} :
    id ∈ unrecorded d dto ↔ id ∈ selected d dto ∧ ¬HasRecord d dto id := by
  simp [unrecorded]

theorem count_unrecorded {id : String} (fresh : ¬HasRecord d dto id) :
    (unrecorded d dto).count id = (selected d dto).count id :=
  List.count_filter (decide_eq_true fresh)

theorem alone_findStudents (g : List String → CampusAction β) :
    ((findStudents dto).bind g).alone [] d x = (g (selected d dto)).alone [] d x := by
  unfold findStudents selected
  split
  · exact alone_outside _ _
  · rfl

theorem bulk_fails_of_not_valid (invalid : ¬Valid d dto.fromLevelId dto.toLevelId dto.sessionId) :
    Fails (bulkPromoteStudents userId dto newId) d x :=
  findLevels_of_not_valid invalid _

/-- On a valid request the list ends with its students promoted; an empty list is
refused. -/
theorem bulk_of_valid (fresh : Fresh d newId)
    (valid : Valid d dto.fromLevelId dto.toLevelId dto.sessionId) :
    ∃ r, (bulkPromoteStudents userId dto newId).alone [] d x =
      some ⟨r, [], promoteAll userId dto newId 0 (unrecorded d dto) d, x⟩ := by
  simp only [bulkPromoteStudents, bind_eq]
  rw [findLevels_of_valid valid, alone_findStudents]
  simp only [alone_ensure, alone_outside]
  by_cases none_selected : selected d dto = []
  · have : unrecorded d dto = [] := by rw [unrecorded, none_selected]; rfl
    exact ⟨_, by rw [if_neg (not_not.2 none_selected), this]; rfl⟩
  · rw [if_pos none_selected]
    by_cases none_left : unrecorded d dto = []
    · refine ⟨.error (.badRequest
        "All selected students already have promotion records for this session"), ?_⟩
      rw [none_left]
      exact if_neg (not_not.2 none_left)
    · obtain ⟨results, entries⟩ := promoteEntries_ends (x := x) (n := 0) (fun k _ => fresh.unused k) fresh.different valid
      refine ⟨.ok results, (if_pos none_left).trans ?_⟩
      rw [alone_bind]
      refine (congrArg (fun o => Option.bind o _) entries).trans ?_
      simp only [Option.bind_some, Outcome.next, alone_invalidate, alone_createActivityLog]
      exact alone_ret _

/-- A program does not end both ways. -/
theorem Fails.not_ends {α : Type} {p : CampusAction α} {a : α} {d' : CampusDb} (fails : Fails p d x) :
    ¬Ends p d x a d' := by
  obtain ⟨e, fails⟩ := fails
  intro ends
  cases fails.symm.trans ends

theorem Ends.unique {α : Type} {p : CampusAction α} {a a' : α} {d₁ d₂ : CampusDb}
    (ends : Ends p d x a d₁) (ends' : Ends p d x a' d₂) : d₁ = d₂ := by
  cases ends.symm.trans ends'
  rfl

/-- What `promoteStudent` asks for, of a student on a valid list. -/
theorem accepts_entry {id : String} {s : StudentProfile} (found : d.students.find id = some s)
    (valid : Valid d dto.fromLevelId dto.toLevelId dto.sessionId) (fresh : ¬HasRecord d dto id)
    (onLevel : s.currentAcademicLevelId = some dto.fromLevelId)
    (other : dto.fromLevelId ≠ dto.toLevelId) : Accepts d id (entry dto) s where
  found := found
  valid := valid
  elsewhere := fun same => other (Option.some.inj (onLevel.symm.trans same))
  onLevel := onLevel
  unrecorded := unrecorded_iff.2 fresh

theorem ends_entry {id : String} {s : StudentProfile} (fresh : Fresh d newId) (n : Nat)
    (accepts : Accepts d id (entry dto) s) :
    Ends (promoteStudent id userId (entry dto) (newId n)) d x ()
      (promote d (entryRow userId dto newId n id d.now)) :=
  promoteStudent_of_accepts accepts (fresh.unused n)

theorem untouched_promoteAll {id : String} (out : id ∉ unrecorded d dto) :
    Untouched d (promoteAll userId dto newId 0 (unrecorded d dto) d) id := by
  constructor
  · rw [find_promoteAll, if_neg out]
  · rw [addedFor_promoteAll, List.count_eq_zero_of_not_mem out]
    split <;> rfl

/-- Where the list has done what single promotions do, its students were on the level. -/
theorem onLevel_of_asSingle (fresh : Fresh d newId)
    (same : AsSingle d x userId dto newId (promoteAll userId dto newId 0 (unrecorded d dto) d)) :
    OnLevel d dto := by
  intro valid id mem new s found
  have listed : id ∈ unrecorded d dto := mem_unrecorded.2 ⟨mem, new⟩
  have added : addedFor d (promoteAll userId dto newId 0 (unrecorded d dto) d) id =
      List.replicate ((selected d dto).count id) (entryRow userId dto newId 0 id d.now).content := by
    rw [addedFor_promoteAll, found, count_unrecorded new]
    rfl
  by_cases accepts : ∃ s, Accepts d id (entry dto) s
  · obtain ⟨s', accepts⟩ := accepts
    have : s' = s := Option.some.inj (accepts.found.symm.trans found)
    subst this
    have single := (same.accepted id mem 0 _ (ends_entry fresh 0 accepts)).2
    rw [added, addedFor_promote] at single
    refine ⟨accepts.onLevel, ?_, ?_⟩
    · intro levels
      exact accepts.elsewhere (accepts.onLevel.trans (congrArg some levels))
    · simpa using congrArg List.length single
  · have none_added := (same.refused id mem 0
      (promoteStudent_of_not_accepts fun s' h => accepts ⟨s', h⟩)).2
    have : 0 < (selected d dto).count id := List.count_pos_iff.2 mem
    rw [added, List.replicate_eq_nil_iff] at none_added
    omega

theorem asSingle_of_onLevel (fresh : Fresh d newId)
    (valid : Valid d dto.fromLevelId dto.toLevelId dto.sessionId) (onLevel : OnLevel d dto) :
    AsSingle d x userId dto newId (promoteAll userId dto newId 0 (unrecorded d dto) d) where
  accepted := by
    intro id mem n d₁ ends
    by_cases accepts : ∃ s, Accepts d id (entry dto) s
    · obtain ⟨s, accepts⟩ := accepts
      rw [ends.unique (ends_entry fresh n accepts)]
      have new : ¬HasRecord d dto id := unrecorded_iff.1 accepts.unrecorded
      have once := (onLevel valid id mem new s accepts.found).2.2
      constructor
      · rw [find_promoteAll, if_pos (mem_unrecorded.2 ⟨mem, new⟩), find_promote]
        exact (if_pos rfl).symm
      · rw [addedFor_promoteAll, addedFor_promote, count_unrecorded new, once, accepts.found]
        rfl
    · exact absurd ends
        (Fails.not_ends (promoteStudent_of_not_accepts fun s h => accepts ⟨s, h⟩))
  refused := by
    intro id mem n fails
    by_cases recorded : HasRecord d dto id
    · exact untouched_promoteAll fun listed => (mem_unrecorded.1 listed).2 recorded
    · cases found : d.students.find id with
      | none =>
        constructor
        · rw [find_promoteAll, found]
          split <;> rfl
        · rw [addedFor_promoteAll, found]
          rfl
      | some s =>
        obtain ⟨level, other, -⟩ := onLevel valid id mem recorded s found
        exact absurd (ends_entry fresh n (accepts_entry found valid recorded level other))
          fails.not_ends
  others := fun id out => untouched_promoteAll fun listed => out (mem_unrecorded.1 listed).1
  memberships := memberships_promoteAll 0 _

/-- The list does what single promotions would do if and only if its students are on
the level. -/
theorem bulk_refines_single_iff (d : CampusDb) (x : Surroundings) (userId : String)
    (dto : BulkPromoteDto) (newId : Nat → String) (fresh : Fresh d newId) :
    ∃ r d', (bulkPromoteStudents userId dto newId).alone [] d x = some ⟨r, [], d', x⟩ ∧
      (AsSingle d x userId dto newId d' ↔ OnLevel d dto) := by
  by_cases valid : Valid d dto.fromLevelId dto.toLevelId dto.sessionId
  · obtain ⟨r, ends⟩ := bulk_of_valid (x := x) fresh valid
    exact ⟨r, _, ends, onLevel_of_asSingle fresh, asSingle_of_onLevel fresh valid⟩
  · obtain ⟨e, fails⟩ := bulk_fails_of_not_valid (x := x) valid
    refine ⟨.error e, d, fails, fun _ holds => absurd holds valid, fun _ => ?_⟩
    have untouched : ∀ id, Untouched d d id := fun id => ⟨rfl, by simp [addedFor]⟩
    refine ⟨fun id _ n d₁ ends => ?_, fun id _ _ _ => untouched id, fun id _ => untouched id, rfl⟩
    exact absurd ends (Fails.not_ends (promoteStudent_of_not_accepts fun s h => valid h.valid))

end Refines

/-- A student of the third level, and the levels around it. -/
def strayed : CampusDb where
  sessions := ⟨[⟨"2024", "inst", none, none, none, "2024/2025", ⟨2024, 9, 1, 0⟩, ⟨2025, 8, 31, 0⟩, .active,
    .institution, true⟩], by decide⟩
  levels := ⟨[⟨"100", "dept", "100 Level", 100, 1, true⟩, ⟨"200", "dept", "200 Level", 200, 2, true⟩,
    ⟨"300", "dept", "300 Level", 300, 3, true⟩], by decide⟩
  students := ⟨[⟨"ada", "ada", "inst", "fac", "dept", some "300", none, false, .active, .completed, true, none⟩],
    by decide⟩

/-- The list of that student, from the first to the second level. -/
def strayedList : BulkPromoteDto where
  fromLevelId := "100"
  toLevelId := "200"
  sessionId := "2024"
  studentIds := ["ada"]

def promotionId (n : Nat) : String := String.ofList (List.replicate n 'p')

theorem fresh_promotionId : Fresh strayed promotionId where
  unused := fun n p mem => by cases mem
  different := by
    intro m n same
    have := congrArg String.toList same
    simpa [promotionId] using this

/-- The list takes the student from the third level down to the second; alone she is
refused. -/
theorem list_promotes_from_elsewhere :
    ∃ r d', (bulkPromoteStudents "admin" strayedList promotionId).alone [] strayed Surroundings.mk =
        some ⟨r, [], d', .mk⟩ ∧
      Fails (promoteStudent "ada" "admin" (entry strayedList) (promotionId 0)) strayed .mk ∧
      (d'.students.find "ada").bind StudentProfile.currentAcademicLevelId = some "200" :=
  ⟨_, _, rfl, ⟨_, rfl⟩, rfl⟩

theorem list_of_strayed :
    ∃ r d', (bulkPromoteStudents "admin" strayedList promotionId).alone [] strayed Surroundings.mk =
        some ⟨r, [], d', .mk⟩ ∧
      (AsSingle strayed .mk "admin" strayedList promotionId d' ↔ OnLevel strayed strayedList) :=
  bulk_refines_single_iff strayed .mk "admin" strayedList promotionId fresh_promotionId

end Heightt.Campus
