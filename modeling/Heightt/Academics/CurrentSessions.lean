import Heightt.Academics.SessionOps
import Heightt.Campus.Promoted
import Heightt.ReadCommitted.Executes
import Heightt.ReadCommitted.PostCommit

/-!
# The current session of a node

A session is attached to one node of the hierarchy, the deepest unit that it names. A
call that makes a session current first clears the flag of others, by a filter on the
units that it knows, in a transaction of its own. `Rotation` is what any transaction
does to the flag; `Orderly` says when that is right, and `SparesCurrent` when a call
that has cleared a flag goes through.
-/

namespace Heightt.Campus

open Store ReadCommitted Prog

/-- A node of the hierarchy of an institution. -/
inductive Node where
  | institution (id : String)
  | faculty (id : String)
  | department (id : String)
  | level (id : String)
  deriving DecidableEq

/-- The deepest unit that the session names. -/
def AcademicSession.node (s : AcademicSession) : Node :=
  match s.academicLevelId, s.departmentId, s.facultyId with
  | some l, _, _ => .level l
  | none, some p, _ => .department p
  | none, none, some f => .faculty f
  | none, none, none => .institution s.institutionId

/-- No two current sessions are attached to one node. -/
def AcademicsDb.OneCurrent (d : AcademicsDb) : Prop :=
  ∀ s ∈ d.campus.sessions.rows, ∀ t ∈ d.campus.sessions.rows, s.isCurrent = true → t.isCurrent = true →
    s.node = t.node → s.id = t.id

instance (d : AcademicsDb) : Decidable d.OneCurrent :=
  inferInstanceAs (Decidable (∀ s ∈ d.campus.sessions.rows, ∀ t ∈ d.campus.sessions.rows, _))

namespace AcademicsStmt

/-- The row that the statement writes. -/
def written : AcademicsStmt → Option String
  | createSession s => some s.id
  | updateSession seen _ => some seen.id
  | campus (.createSession s) => some s.id
  | campus (.resumeSession id) => some id
  | _ => none

/-- The session that the statement leaves current. -/
def opens (d : AcademicsDb) : AcademicsStmt → Option AcademicSession
  | createSession s => if s.isCurrent then some s else none
  | updateSession seen dto => ((d.campus.sessions.find seen.id).map dto.apply).filter AcademicSession.isCurrent
  | campus (.createSession s) => if s.isCurrent then some s else none
  | campus (.resumeSession id) => (d.campus.sessions.find id).map AcademicSession.resume
  | _ => none

/-- The session that the statement makes current, now or with the next statement of the call. -/
def madeCurrent (d : AcademicsDb) : AcademicsStmt → Option AcademicSession
  | clearCurrent _ s => some s
  | w => w.opens d

/-- The session loses the flag. -/
def unsets : AcademicsStmt → AcademicSession → Bool
  | clearCurrent w _, r => w.covers r
  | campus (.claimSession id _), r => r.id = id
  | campus (.retireSessions institutionId other), r =>
    r.institutionId = institutionId && r.scope = .institution && r.id ≠ other && r.isCurrent
  | _, _ => false

end AcademicsStmt

def Unsets (F : List AcademicsStmt) (r : AcademicSession) : Bool := F.any fun w => w.unsets r

/-- The sessions that lose the flag are on the node of the session that is made current, and no
other session on that node keeps it. -/
def Orderly (d : AcademicsDb) (F : List AcademicsStmt) : Prop :=
  (∀ w ∈ F, ∀ s ∈ w.madeCurrent d, ∀ r ∈ d.campus.sessions.rows, r.isCurrent = true → Unsets F r = true →
    r.node = s.node) ∧
  ∀ w ∈ F, ∀ s ∈ w.opens d, ∀ r ∈ d.campus.sessions.rows, r.id ≠ s.id → r.isCurrent = true →
    r.node = s.node → Unsets F r = true

instance decidableOrderlyFlags (d : AcademicsDb) (F : List AcademicsStmt) : Decidable (Orderly d F) :=
  inferInstanceAs (Decidable ((∀ w ∈ F, ∀ s ∈ w.madeCurrent d, ∀ r ∈ d.campus.sessions.rows, _) ∧
    ∀ w ∈ F, ∀ s ∈ w.opens d, ∀ r ∈ d.campus.sessions.rows, _))

/-- What the commit leaves of the flags of other sessions than the one it writes: those that
change are on the node of the session that is made current. -/
def KeepsToNode (k : Commit AcademicsDb AcademicsStmt) : Prop :=
  ∀ r ∈ k.before.campus.sessions.rows, ∀ t ∈ (Database.applyAll k.writes k.before).campus.sessions.find r.id,
    t.isCurrent ≠ r.isCurrent → (∃ w ∈ k.writes, w.written = some r.id) ∨
      ∃ w ∈ k.writes, ∃ s ∈ w.madeCurrent k.before, r.node = s.node

instance (k : Commit AcademicsDb AcademicsStmt) : Decidable (KeepsToNode k) :=
  inferInstanceAs (Decidable (∀ r ∈ k.before.campus.sessions.rows,
    ∀ t ∈ (Database.applyAll k.writes k.before).campus.sessions.find r.id, _ → _ ∨
      ∃ w ∈ k.writes, ∃ s ∈ w.madeCurrent k.before, _))

/-! ## What a transaction does to the flag -/

/-- The rows after the transaction: the one that is written, and those that were there, on their
nodes and with their flags unless they lose them. -/
structure Rotation (d : AcademicsDb) (F : List AcademicsStmt) : Prop where
  rows : ∀ t ∈ (Database.applyAll F d).campus.sessions.rows,
    (∃ w ∈ F, w.written = some t.id ∧ (t.isCurrent = true → w.opens d = some t)) ∨
    ∃ r ∈ d.campus.sessions.rows, r.id = t.id ∧ t.node = r.node ∧ t.isCurrent = (r.isCurrent && !Unsets F r)
  single : ∀ w ∈ F, ∀ w' ∈ F, w.written.isSome → w'.written.isSome → w.written = w'.written
  made : ∀ r, Unsets F r = true → ∃ w ∈ F, (w.madeCurrent d).isSome

namespace Rotation

variable {d : AcademicsDb} {F : List AcademicsStmt}

theorem oneCurrent (rotation : Rotation d F) (orderly : Orderly d F) (one : d.OneCurrent) :
    (Database.applyAll F d).OneCurrent := by
  have opened_apart {w : AcademicsStmt} {s t r : AcademicSession} (hw : w ∈ F) (hs : w.opens d = some s)
      (hr : r ∈ d.campus.sessions.rows) (id : r.id = t.id) (node : t.node = r.node)
      (flag : t.isCurrent = (r.isCurrent && !Unsets F r)) (current : t.isCurrent = true)
      (same : t.node = s.node) : t.id = s.id := by
    rw [current, Eq.comm, Bool.and_eq_true, Bool.not_eq_true'] at flag
    by_contra other
    rw [orderly.2 w hw s hs r hr (id ▸ other) flag.1 (node ▸ same)] at flag
    cases flag.2
  intro s hs t ht current_s current_t same
  obtain ⟨w, hw, own, opens⟩ | ⟨r, hr, id, node, flag⟩ := rotation.rows s hs
  · obtain ⟨w', hw', own', -⟩ | ⟨r', hr', id', node', flag'⟩ := rotation.rows t ht
    · have single := rotation.single w hw w' hw' (by rw [own]; rfl) (by rw [own']; rfl)
      rw [own, own'] at single
      exact Option.some.inj single
    · exact (opened_apart hw (opens current_s) hr' id' node' flag' current_t same.symm).symm
  · obtain ⟨w', hw', -, opens'⟩ | ⟨r', hr', id', node', flag'⟩ := rotation.rows t ht
    · exact opened_apart hw' (opens' current_t) hr id node flag current_s same
    · rw [current_s, Eq.comm, Bool.and_eq_true] at flag
      rw [current_t, Eq.comm, Bool.and_eq_true] at flag'
      rw [← id, ← id']
      exact one r hr r' hr' flag.1 flag'.1 (node ▸ node' ▸ same)

theorem keepsToNode (rotation : Rotation d F) (orderly : Orderly d F) (i : Nat) : KeepsToNode ⟨i, F, d⟩ := by
  intro r hr t found changed
  have ht := Table.find_mem found
  have id : t.id = r.id := Table.find_key found
  obtain ⟨w, hw, own, -⟩ | ⟨r', hr', id', -, flag⟩ := rotation.rows t ht
  · exact .inl ⟨w, hw, id ▸ own⟩
  · obtain rfl : r' = r := Table.eq_of_key hr' hr (id'.trans id)
    refine .inr ?_
    have unset : r'.isCurrent = true ∧ Unsets F r' = true := by
      rw [flag] at changed
      cases hc : r'.isCurrent <;> cases hu : Unsets F r' <;> simp_all
    obtain ⟨w, hw, made⟩ := rotation.made r' unset.2
    obtain ⟨s, hs⟩ := Option.isSome_iff_exists.1 made
    exact ⟨w, hw, s, hs, orderly.1 w hw s hs r' hr unset.1 unset.2⟩

end Rotation

theorem AcademicSession.node_eq {s t : AcademicSession} (institution : t.institutionId = s.institutionId)
    (faculty : t.facultyId = s.facultyId) (department : t.departmentId = s.departmentId)
    (level : t.academicLevelId = s.academicLevelId) : t.node = s.node := by
  rw [node, node, institution, faculty, department, level]

/-- A transaction that leaves the sessions alone. -/
theorem rotation_of_same {d : AcademicsDb} {F : List AcademicsStmt}
    (same : (Database.applyAll F d).campus.sessions = d.campus.sessions)
    (silent : ∀ w ∈ F, w.written = none ∧ ∀ r, w.unsets r = false) : Rotation d F := by
  have unset (r : AcademicSession) : Unsets F r = false :=
    List.any_eq_false.2 fun w hw => Bool.eq_false_iff.1 ((silent w hw).2 r)
  refine ⟨fun t ht => .inr ⟨t, same ▸ ht, rfl, rfl, ?_⟩, fun w hw _ _ some => ?_, fun r h => ?_⟩
  · rw [unset, Bool.not_false, Bool.and_true]
  · rw [(silent w hw).1] at some
    cases some
  · rw [unset] at h
    cases h

theorem rotation_clear (d : AcademicsDb) (w : CurrentWhere) (s : AcademicSession) :
    Rotation d [.clearCurrent w s] where
  rows t ht := by
    obtain ⟨r, hr, rfl⟩ := List.mem_map.1 (ht : t ∈ d.campus.sessions.rows.map w.clear)
    have unsets : Unsets [.clearCurrent w s] r = w.covers r := Bool.or_false _
    refine .inr ⟨r, hr, (w.clear_id r).symm, ?_, ?_⟩
    · unfold CurrentWhere.clear
      split <;> rfl
    · rw [unsets]
      unfold CurrentWhere.clear
      split <;> simp [*]
  single w hw _ _ some := by
    rw [List.mem_singleton.1 hw] at some
    cases some
  made _ _ := ⟨_, List.mem_singleton_self _, rfl⟩

theorem rotation_create {d : AcademicsDb} {s : AcademicSession} (free : d.campus.sessions.find s.id = none) :
    Rotation d [.createSession s] where
  rows t ht := by
    have rows : (d.campus.sessions.insert s).rows = d.campus.sessions.rows ++ [s] := Table.insert_rows free
    rcases List.mem_append.1 (rows ▸ (ht : t ∈ (d.campus.sessions.insert s).rows)) with ht | ht
    · exact .inr ⟨t, ht, rfl, rfl, (Bool.and_true _).symm⟩
    · obtain rfl := List.mem_singleton.1 ht
      exact .inl ⟨_, List.mem_singleton_self _, rfl, fun current => if_pos current⟩
  single w hw w' hw' _ _ := by rw [List.mem_singleton.1 hw, List.mem_singleton.1 hw']
  made _ h := by cases h

theorem rotation_update (d : AcademicsDb) (seen : AcademicSession) (dto : PartialAcademicSessionDto) :
    Rotation d [.updateSession seen dto] where
  rows t ht := by
    have rows := Table.modify_rows d.campus.sessions seen.id dto.apply fun _ => rfl
    obtain ⟨r, hr, rfl⟩ := List.mem_map.1 (rows ▸
      (ht : t ∈ (d.campus.sessions.modify seen.id dto.apply fun _ => rfl).rows))
    by_cases own : r.id = seen.id
    · rw [if_pos own]
      refine .inl ⟨_, List.mem_singleton_self _, congrArg some own.symm, fun current => ?_⟩
      rw [AcademicsStmt.opens, ← own, Table.find_of_mem hr, Option.map_some, Option.filter_some, if_pos current]
    · rw [if_neg own]
      exact .inr ⟨r, hr, rfl, rfl, (Bool.and_true _).symm⟩
  single w hw w' hw' _ _ := by rw [List.mem_singleton.1 hw, List.mem_singleton.1 hw']
  made _ h := by cases h

section Promotion

variable {levels : Table AcademicLevel String AcademicLevel.id} {Known : String → Prop}
  {institutionId currentId nextId : String}
  {opening : CampusStmt} {rest : List CampusStmt}

theorem Follows.silent {w : CampusStmt} (h : Follows levels nextId w) :
    (AcademicsStmt.campus w).written = none ∧ ∀ r, (AcademicsStmt.campus w).unsets r = false := by
  cases w with
  | claimSession | resumeSession | createSession | retireSessions => exact h.elim
  | _ => exact ⟨rfl, fun _ => rfl⟩

theorem Opens.unsets (opens : Opens institutionId Known opening nextId) (r : AcademicSession) :
    (AcademicsStmt.campus opening).unsets r = false := by
  cases opens <;> rfl

/-- The sessions that a promotion takes the flag from. -/
theorem unsets_promotion (opens : Opens institutionId Known opening nextId) (follows : ∀ w ∈ rest, Follows levels nextId w)
    (r : AcademicSession) :
    Unsets ((.claimSession currentId institutionId :: opening :: .retireSessions institutionId nextId :: rest).map
      .campus) r = (decide (r.id = currentId) || (r.institutionId = institutionId && r.scope = .institution &&
        r.id ≠ nextId && r.isCurrent)) := by
  have later : (rest.map AcademicsStmt.campus).any (fun w => w.unsets r) = false := by
    refine List.any_eq_false.2 fun w hw => ?_
    obtain ⟨w', hw', rfl⟩ := List.mem_map.1 hw
    rw [(follows w' hw').silent.2 r]
    exact Bool.false_ne_true
  rw [Unsets, List.map_cons, List.map_cons, List.map_cons, List.any_cons, List.any_cons, List.any_cons, later,
    opens.unsets, Bool.or_false, Bool.false_or]
  rfl

/-- A session that was there, after the promotion has claimed the current one and retired the others. -/
theorem retire_claimed (r : AcademicSession) :
    let t := (if r.id = currentId then r.complete else r).retire institutionId nextId
    t.id = r.id ∧ t.node = r.node ∧ t.isCurrent = (r.isCurrent && !(decide (r.id = currentId) ||
      (r.institutionId = institutionId && r.scope = .institution && r.id ≠ nextId && r.isCurrent))) := by
  unfold AcademicSession.retire AcademicSession.complete
  refine ⟨?_, ?_, ?_⟩
  · split <;> split <;> rfl
  · split <;> split <;> rfl
  · by_cases claimed : r.id = currentId
    · simp [claimed]
    · rw [if_neg claimed]
      by_cases others : r.institutionId = institutionId ∧ r.scope = .institution ∧ r.id ≠ nextId ∧ r.isCurrent = true
      · rw [if_pos others]
        simp [claimed, others.1, others.2.1, others.2.2.1, others.2.2.2]
      · rw [if_neg others]
        cases current : r.isCurrent with
        | false => rfl
        | true =>
          rw [current] at others
          simpa [claimed, imp_iff_not_or, or_assoc] using others

theorem retire_next {t : AcademicSession} (own : t.id = nextId) : t.retire institutionId nextId = t := by
  rw [AcademicSession.retire, if_neg]
  exact fun h => h.2.2.1 own

/-- The sessions once the next one is opened: it, and those that were there. -/
theorem rows_opened {d : CampusDb} (opens : Opens institutionId Known opening nextId)
    (passes : opening.check ((CampusStmt.claimSession currentId institutionId).apply d) = none)
    {t : AcademicSession}
    (ht : t ∈ (opening.apply ((CampusStmt.claimSession currentId institutionId).apply d)).sessions.rows) :
    (t.id = nextId ∧ ∀ a : AcademicsDb, a.campus = d → (AcademicsStmt.campus opening).opens a = some t) ∨
      ∃ r ∈ d.sessions.rows, t = if r.id = currentId then r.complete else r := by
  have claimed_row {u : AcademicSession}
      (hu : u ∈ ((CampusStmt.claimSession currentId institutionId).apply d).sessions.rows) :
      ∃ r ∈ d.sessions.rows, u = if r.id = currentId then r.complete else r := by
    obtain ⟨r, hr, rfl⟩ := List.mem_map.1 hu
    exact ⟨r, hr, rfl⟩
  cases opens with
  | resumes =>
    obtain ⟨u, hu, rfl⟩ := List.mem_map.1 ht
    obtain ⟨r, hr, rfl⟩ := claimed_row hu
    have id : (if r.id = currentId then r.complete else r).id = r.id := by split <;> rfl
    by_cases own : r.id = nextId
    · rw [if_pos (id.trans own)]
      refine .inl ⟨id.trans own, fun a same => ?_⟩
      rw [AcademicsStmt.opens, same, ← own, Table.find_of_mem hr, Option.map_some]
      split <;> rfl
    · rw [if_neg fun h => own (id.symm.trans h)]
      exact .inr ⟨r, hr, rfl⟩
  | creates own whole scope current =>
    rename_i next
    have free : ((CampusStmt.claimSession currentId institutionId).apply d).sessions.find next.id = none := by
      simp only [CampusStmt.check, CampusStmt.unique, ite_eq_right_iff, reduceCtorEq, imp_false, not_or,
        Option.not_isSome_iff_eq_none] at passes
      exact passes.1
    rcases List.mem_append.1 (Table.insert_rows free ▸
      (ht : t ∈ (Table.insert ((CampusStmt.claimSession currentId institutionId).apply d).sessions next).rows))
      with ht | ht
    · exact .inr (claimed_row ht)
    · rw [List.mem_singleton.1 ht]
      exact .inl ⟨rfl, fun a _ => if_pos current⟩

/-- The opening statement makes a session current. -/
theorem Opens.made {d : AcademicsDb} (opens : Opens institutionId Known opening nextId)
    (passes : opening.check ((CampusStmt.claimSession currentId institutionId).apply d.campus) = none) :
    ((AcademicsStmt.campus opening).madeCurrent d).isSome := by
  cases opens with
  | resumes =>
    show ((d.campus.sessions.find nextId).map AcademicSession.resume).isSome = true
    rw [Option.isSome_map, ← Table.isSome_find_modify d.campus.sessions currentId AcademicSession.complete
      fun _ => rfl]
    by_contra missing
    have refused : CampusStmt.existing false = none := by
      rw [← Bool.eq_false_iff.2 missing]
      exact passes
    cases refused
  | creates own whole scope current =>
    rw [AcademicsStmt.madeCurrent, AcademicsStmt.opens, if_pos current]
    · rfl
    · exact fun _ _ h => by cases h

theorem rotation_promotion {d : AcademicsDb} {F : List CampusStmt} (tx : PromotionTx levels institutionId Known F)
    (valid : Database.violation (F.map AcademicsStmt.campus) d = none) : Rotation d (F.map .campus) := by
  obtain ⟨opens, follows⟩ := tx
  rename_i currentId nextId opening rest
  rw [embeds_campus.violation, Database.violation_cons, Database.violation_cons] at valid
  have own : (AcademicsStmt.campus opening).written = some nextId := by cases opens <;> rfl
  have wrote {w : AcademicsStmt} (hw : w ∈ (CampusStmt.claimSession currentId institutionId :: opening ::
      .retireSessions institutionId nextId :: rest).map .campus) (some : w.written.isSome) :
      w.written = .some nextId := by
    obtain ⟨w', hw', rfl⟩ := List.mem_map.1 hw
    simp only [List.mem_cons] at hw'
    obtain rfl | rfl | rfl | hw' := hw'
    · cases some
    · exact own
    · cases some
    · rw [(follows w' hw').silent.1] at some
      cases some
  refine ⟨fun t ht => ?_, ?_, ?_⟩
  · rw [embeds_campus.applyAll, Database.applyAll_cons, Database.applyAll_cons, Database.applyAll_cons,
      Database.applyAll_keeps CampusDb.sessions fun w mem d => (follows w mem).leavesSessions d] at ht
    obtain ⟨u, hu, rfl⟩ := List.mem_map.1 ht
    obtain ⟨id, opened⟩ | ⟨r, hr, rfl⟩ := rows_opened opens valid.2.1 hu
    · rw [retire_next id]
      refine .inl ⟨.campus opening, by simp, by rw [own, id], fun _ => opened d rfl⟩
    · obtain ⟨id, node, flag⟩ := retire_claimed r
      exact .inr ⟨r, hr, id.symm, node, by rw [unsets_promotion opens follows]; exact flag⟩
  · intro w hw w' hw' some some'
    rw [wrote hw some, wrote hw' some']
  · exact fun r _ => ⟨.campus opening, by simp, opens.made valid.2.1⟩

end Promotion

theorem free_of_createSession {d : AcademicsDb} {s : AcademicSession}
    (valid : Database.violation [AcademicsStmt.createSession s] d = none) : d.campus.sessions.find s.id = none := by
  have passes : AcademicsStmt.check (.createSession s) d = none := (Database.violation_cons.1 valid).1
  simp only [AcademicsStmt.check, CampusStmt.first, CampusStmt.unique, Option.or_eq_none_iff, ite_eq_right_iff,
    reduceCtorEq, imp_false, Option.not_isSome_iff_eq_none] at passes
  exact passes.1

theorem rotation_of_commits {d : AcademicsDb} {op : SessionOp} {F : List AcademicsStmt}
    (commits : op.Commits d F) (valid : Database.violation F d = none) : Rotation d F := by
  cases commits with
  | nothing => exact rotation_of_same rfl fun _ mem => (List.not_mem_nil mem).elim
  | logs =>
    refine rotation_of_same rfl fun w mem => ?_
    rw [List.mem_singleton.1 mem]
    exact ⟨rfl, fun _ => rfl⟩
  | clears => exact rotation_clear d _ _
  | clearsFor => exact rotation_clear d _ _
  | creates => exact rotation_create (free_of_createSession valid)
  | createsDefault => exact rotation_create (free_of_createSession valid)
  | updates => exact rotation_update d _ _
  | promotes tx => exact rotation_promotion tx valid

/-! ## A call that has changed a session -/

/-- The call creates or updates a session. -/
def SessionOp.isEdit : SessionOp → Bool
  | createAcademicSession .. | updateAcademicSession .. => true
  | _ => false

/-- The statement that comes after the flag is cleared. -/
def SessionOp.pending : SessionOp → List AcademicsStmt → Option AcademicsStmt
  | createAcademicSession .., [.clearCurrent _ s] => some (.createSession s)
  | updateAcademicSession _ dto, [.clearCurrent _ s] => some (.updateSession s dto)
  | _, _ => none

/-- The call creates or updates a session, and the transaction changes some. -/
def ChangesSessions (ops : List SessionOp) (i : Nat) (d : AcademicsDb) (F : List AcademicsStmt) : Prop :=
  (∃ op ∈ ops[i]?, op.isEdit = true) ∧ (Database.applyAll F d).campus.sessions.rows ≠ d.campus.sessions.rows

/-- The database takes the row that the call writes next. -/
def TakesPending (ops : List SessionOp) (i : Nat) (F : List AcademicsStmt) (d : AcademicsDb) : Prop :=
  ∀ op ∈ ops[i]?, ∀ w ∈ op.pending F, AcademicsStmt.check w d = none

instance (ops : List SessionOp) (i : Nat) (d : AcademicsDb) (F : List AcademicsStmt) :
    Decidable (ChangesSessions ops i d F) :=
  inferInstanceAs (Decidable ((∃ op ∈ ops[i]?, op.isEdit = true) ∧
    (Database.applyAll F d).campus.sessions.rows ≠ d.campus.sessions.rows))

instance (ops : List SessionOp) (i : Nat) (F : List AcademicsStmt) (d : AcademicsDb) :
    Decidable (TakesPending ops i F d) :=
  inferInstanceAs (Decidable (∀ op ∈ ops[i]?, ∀ w ∈ op.pending F, AcademicsStmt.check w d = none))

namespace InstitutionsService

/-- What a part of a call commits that leaves the sessions alone. -/
abbrev Logging : AcademicsStmt → Prop := fun w => w = .campus .createActivityLog

section Logging

variable {α β : Type}

theorem logging_outside (f : AcademicsDb → α) :
    Makes (Committing (Each Logging)) (outside f : AcademicsAction α) fun _ => True :=
  committing_outside (fun _ => trivial) (each_nil _)

theorem logging_orThrow (o : Option α) (e : CampusError) :
    Makes (Committing (Each Logging)) (orThrow o e : AcademicsAction α) fun _ => True := .orThrow fun _ _ => trivial

theorem logging_ensure (p : Prop) [Decidable p] (e : CampusError) :
    Makes (Committing (Each Logging)) (ensure p e : AcademicsAction Unit) fun _ => True :=
  (Makes.ensure e).mono (fun _ h => h) fun _ _ => trivial

theorem logging_checkFaculty (facultyId : Option String) (institutionId message : String) :
    Makes (Committing (Each Logging)) (checkFaculty facultyId institutionId message) fun _ => True :=
  .whenSome fun _ _ => (logging_outside _).bind fun _ _ => (logging_orThrow _ _).bind fun _ _ => logging_ensure _ _

theorem logging_findDepartment (departmentId : String) (facultyId : Option String) :
    Makes (Committing (Each Logging)) (findDepartment departmentId facultyId) fun _ => True :=
  (logging_outside _).bind fun _ _ => (logging_orThrow _ _).bind fun _ _ => (logging_ensure _ _).bind fun _ _ =>
    .ret trivial

theorem logging_findLevel (academicLevelId : String) (departmentId : Option String) :
    Makes (Committing (Each Logging)) (findLevel academicLevelId departmentId) fun _ => True :=
  (logging_outside _).bind fun _ _ => (logging_orThrow _ _).bind fun _ _ => (logging_ensure _ _).bind fun _ _ =>
    .ret trivial

theorem logging_checkUnits (dto : CreateAcademicSessionDto) :
    Makes (Committing (Each Logging)) (checkUnits dto) fun _ => True := by
  refine (logging_outside _).bind fun _ _ => (logging_orThrow _ _).bind fun _ _ => ?_
  refine (logging_checkFaculty _ _ _).bind fun _ _ => Makes.bind (S := fun _ => True) ?_ fun dto _ => ?_
  · unfold fillFaculty
    split
    · exact .ret trivial
    · exact (logging_findDepartment _ _).bind fun _ _ => .ret trivial
  · rw [← Prog.bind_ret (fillDepartment dto)]
    refine Makes.bind (S := fun _ => True) ?_ fun _ _ => .ret trivial
    unfold fillDepartment
    split
    · exact .ret trivial
    · refine (logging_findLevel _ _).bind fun _ _ => ?_
      split
      · exact .ret trivial
      · exact (logging_outside _).bind fun _ _ => .ret trivial

theorem logging_checkSessionName (dto : CreateAcademicSessionDto) :
    Makes (Committing (Each Logging)) (checkSessionName dto) fun _ => True :=
  (logging_outside _).bind fun _ _ => (logging_ensure _ _).bind fun _ _ => logging_ensure _ _

theorem logging_checkGiven (session : AcademicSession) (dto : PartialAcademicSessionDto) :
    Makes (Committing (Each Logging)) (checkGiven session dto) fun _ => True := by
  refine (logging_checkFaculty _ _ _).bind fun _ _ => Makes.bind (S := fun _ => True) ?_ fun _ _ => ?_
  · exact .whenSome fun _ _ => (logging_findDepartment _ _).bind fun _ _ => .ret trivial
  · exact .whenSome fun _ _ => (logging_findLevel _ _).bind fun _ _ => .ret trivial

theorem logging_checkNewName (session : AcademicSession) (dto : PartialAcademicSessionDto) :
    Makes (Committing (Each Logging)) (checkNewName session dto) fun _ => True :=
  .whenSome fun _ _ => (logging_outside _).bind fun _ _ => logging_ensure _ _

end Logging

section Completes

variable {ops : List SessionOp} {i : Nat} {β : Type}

/-- A transaction that only logs changes no session. -/
theorem not_changesSessions_of_logging {F : List AcademicsStmt} (h : Each Logging F) (d : AcademicsDb) :
    ¬ChangesSessions ops i d F := by
  intro changes
  refine changes.2 (congrArg Table.rows (Database.applyAll_keeps (fun d => d.campus.sessions) (fun w mem d => ?_) d))
  rw [h w mem]
  rfl

theorem completes_of_logging {α : Type} {p : AcademicsAction α} {f : α → AcademicsAction β}
    (hp : Makes (Committing (Each Logging)) p fun _ => True)
    (hf : ∀ a, Completes (ChangesSessions ops i) (TakesPending ops i) (f a) []) :
    Completes (ChangesSessions ops i) (TakesPending ops i) (p.bind f) [] :=
  .bind hp (fun _ _ h d => not_changesSessions_of_logging h d) (fun a _ => hf a) {}

theorem completes_of_logging_last {p : AcademicsAction Unit} (hp : Makes (Committing (Each Logging)) p fun _ => True) :
    Completes (ChangesSessions ops i) (TakesPending ops i) p [] := by
  rw [← Prog.bind_ret p]
  exact completes_of_logging hp fun _ => trivial

theorem logging_logActivity : Makes (Committing (Each Logging)) logActivity fun _ => True :=
  committing_statement (each_singleton rfl)

theorem logging_invalidateCache : Makes (Committing (Each Logging)) invalidateCache fun _ => True :=
  committing_request (C := CampusCall) .invalidate

theorem logging_afterSession (dto : CreateAcademicSessionDto) :
    Makes (Committing (Each Logging)) (afterSession dto) fun _ => True := by
  have some_of (o : Option String) : Makes (Committing (Each Logging)) (whenSome o fun _ => invalidateCache)
      fun _ => True := .whenSome fun _ _ => logging_invalidateCache
  refine Makes.bind (.attempt logging_invalidateCache) fun _ _ => (some_of _).bind fun _ _ => ?_
  exact (some_of _).bind fun _ _ => (some_of _).bind fun _ _ => logging_logActivity

/-- What comes after the row is written does not fail by itself. -/
theorem succeeds_logging {rest : AcademicsDb → Prop} {d : AcademicsDb} :
    Succeeds (.keeping rest) logActivity d [] fun _ _ fs => fs = [] := by
  unfold logActivity
  rw [← Prog.bind_ret (statement _)]
  exact .statement_bind (fun _ _ _ _ => rfl) fun _ _ _ _ => rfl

theorem succeeds_invalidateCache {rest : AcademicsDb → Prop} {d : AcademicsDb} {f : Unit → AcademicsAction β}
    {Q : β → AcademicsDb → List (List AcademicsStmt) → Prop} (hf : ∀ d, Succeeds (.keeping rest) (f ()) d [] Q) :
    Succeeds (.keeping rest) (invalidateCache.bind f) d [] Q :=
  .request_bind (c := CampusCall.invalidate) fun d _ _ _ _ => hf d

theorem succeeds_whenSome {rest : AcademicsDb → Prop} {d : AcademicsDb} {f : Unit → AcademicsAction β}
    {o : Option String} {Q : β → AcademicsDb → List (List AcademicsStmt) → Prop}
    (hf : ∀ d, Succeeds (.keeping rest) (f ()) d [] Q) :
    Succeeds (.keeping rest) ((whenSome o fun _ => invalidateCache).bind f) d [] Q := by
  cases o with
  | none => exact hf d
  | some _ => exact succeeds_invalidateCache hf

theorem succeeds_attempt {rest : AcademicsDb → Prop} {d : AcademicsDb} {f : Unit → AcademicsAction β}
    {Q : β → AcademicsDb → List (List AcademicsStmt) → Prop} (hf : ∀ d, Succeeds (.keeping rest) (f ()) d [] Q) :
    Succeeds (.keeping rest) ((attempt invalidateCache).bind f) d [] Q :=
  .bind (.onThrow fun d _ _ _ _ => hf d)

theorem succeeds_afterSession {rest : AcademicsDb → Prop} {d : AcademicsDb} (dto : CreateAcademicSessionDto) :
    Succeeds (.keeping rest) (afterSession dto) d [] fun _ _ fs => fs = [] :=
  succeeds_attempt fun _ => succeeds_whenSome fun _ => succeeds_whenSome fun _ => succeeds_whenSome fun _ =>
    succeeds_logging

/-- The row is written, and the rest follows. -/
theorem completes_written {w : AcademicsStmt} {f : Unit → AcademicsAction Unit}
    (hp : Makes (Committing (Each Logging)) (f ()) fun _ => True)
    (hf : ∀ {rest : AcademicsDb → Prop} (d : AcademicsDb), Succeeds (.keeping rest) (f ()) d [] fun _ _ fs => fs = []) :
    Completes (ChangesSessions ops i) (TakesPending ops i) ((statement w).bind f) [] :=
  .statement_bind (fun _ _ _ _ => hf _) (completes_of_logging_last hp)

/-- The flag is cleared first, and then the row is written that the database takes. -/
theorem completes_cleared (current : Prop) [Decidable current] {filter : CurrentWhere} {s : AcademicSession}
    {op : SessionOp} (hop : ops[i]? = some op) {w w' : AcademicsStmt}
    (pending : op.pending [.clearCurrent filter s] = some w') (same : ∀ d, AcademicsStmt.check w d = AcademicsStmt.check w' d)
    {f : Unit → AcademicsAction Unit} (hp : Makes (Committing (Each Logging)) (f ()) fun _ => True)
    (hf : ∀ {rest : AcademicsDb → Prop} (d : AcademicsDb), Succeeds (.keeping rest) (f ()) d [] fun _ _ fs => fs = []) :
    Completes (ChangesSessions ops i) (TakesPending ops i)
      ((when current (statement (.clearCurrent filter s))).bind fun _ => (statement w).bind f) [] := by
  unfold when
  split
  · refine .statement_bind (fun d _ _ kept => ?_) (completes_written hp hf)
    refine .statement_bind (fun d' later _ _ => ?_) fun _ _ _ _ => hf _
    exact (same d').trans (later kept op hop w' pending)
  · exact completes_written hp hf

theorem completes_create {dto : CreateAcademicSessionDto} {newId : String}
    (hop : ops[i]? = some (.createAcademicSession dto newId)) :
    Completes (ChangesSessions ops i) (TakesPending ops i) (createAcademicSession dto newId) [] := by
  refine completes_of_logging (logging_checkUnits dto) fun dto' => ?_
  refine completes_of_logging (logging_checkSessionName dto') fun _ => ?_
  exact completes_cleared (dto'.isCurrent = true) hop rfl (fun _ => rfl) (logging_afterSession dto') fun d => succeeds_afterSession dto'

theorem completes_update {id : String} {dto : PartialAcademicSessionDto}
    (hop : ops[i]? = some (.updateAcademicSession id dto)) :
    Completes (ChangesSessions ops i) (TakesPending ops i) (updateAcademicSession id dto) [] := by
  refine completes_of_logging (logging_outside _) fun o => completes_of_logging (logging_orThrow o _) fun session => ?_
  refine completes_of_logging (logging_checkGiven session dto) fun _ => ?_
  refine completes_of_logging (logging_checkNewName session dto) fun _ => ?_
  have same (d : AcademicsDb) : AcademicsStmt.check (.updateSession session dto) d =
      AcademicsStmt.check (.updateSession (dto.apply session) dto) d := rfl
  refine completes_cleared (dto.isCurrent = .value true) hop rfl same ?_ fun d => ?_
  · refine Makes.bind (.attempt logging_invalidateCache) fun _ _ => logging_invalidateCache.bind fun _ _ => ?_
    exact logging_invalidateCache.bind fun _ _ => logging_logActivity
  · exact succeeds_attempt fun _ => succeeds_invalidateCache fun _ => succeeds_invalidateCache fun _ => succeeds_logging

end Completes

end InstitutionsService

theorem SessionOp.completes {ops : List SessionOp} {i : Nat} {op : SessionOp} (hop : ops[i]? = some op) :
    Completes (ChangesSessions ops i) (TakesPending ops i) op.program [] := by
  have other (quiet : op.isEdit = false) : Completes (ChangesSessions ops i) (TakesPending ops i) op.program [] := by
    refine .of_unmarked (fun d F changes => ?_) op.program []
    obtain ⟨op', hop', edit⟩ := changes.1
    rw [hop] at hop'
    cases hop'
    rw [quiet] at edit
    cases edit
  cases op with
  | createAcademicSession dto newId => exact InstitutionsService.completes_create hop
  | updateAcademicSession id dto => exact InstitutionsService.completes_update hop
  | getOrCreateDefaultSession institutionId currentYear newId => exact other rfl
  | promoteInstitution op => exact other rfl

/-! ## The runs -/

def OrderlyStep (c : AcademicsSystem) : Effect AcademicsStmt CampusCall → Prop
  | .commit _ _ F => Orderly c.db F
  | _ => True

instance (c : AcademicsSystem) (eff : Effect AcademicsStmt CampusCall) : Decidable (OrderlyStep c eff) :=
  match eff with
  | .commit _ _ F => inferInstanceAs (Decidable (Orderly c.db F))
  | .internal | .fault _ | .called .. | .unsent .. => .isTrue trivial

/-- The step is orderly, and a call that has changed a session goes through. -/
def CurrentDisciplined (ops : List SessionOp) (c : AcademicsSystem) (eff : Effect AcademicsStmt CampusCall) : Prop :=
  OrderlyStep c eff ∧ c.Spared (ChangesSessions ops) (TakesPending ops) eff

instance (ops : List SessionOp) (c : AcademicsSystem) (eff : Effect AcademicsStmt CampusCall) :
    Decidable (CurrentDisciplined ops c eff) :=
  inferInstanceAs (Decidable (OrderlyStep c eff ∧ c.Spared (ChangesSessions ops) (TakesPending ops) eff))

/-- **The current session of a node**: in every interleaving of calls in which each transaction takes
the flag from sessions on the node of the session that is made current, and from all others there, a
node has at most one current session, no other node's sessions change, and a create or update call that
ends in an error has changed no session. -/
theorem current_session_discipline {db : AcademicsDb} {x : Surroundings} {ops : List SessionOp}
    {c : AcademicsSystem}
    (run : Reaches (CurrentDisciplined ops) (Config.start db x (ops.map SessionOp.program)) c)
    (one : db.OneCurrent) :
    c.db.OneCurrent ∧ (∀ k ∈ c.log, KeepsToNode k) ∧
      ∀ i t, c.threads[i]? = some t → t.threw = true → ∀ k ∈ c.log, k.thread = i →
        ¬ChangesSessions ops i k.before k.writes := by
  have kept : c.db.OneCurrent ∧ ∀ k ∈ c.log, KeepsToNode k := by
    refine run.induct_of_calls guarded_directory (Ψ := fun op d => SessionOp.Commits d op)
      SessionOp.upholds_program (fun d log => d.OneCurrent ∧ ∀ k ∈ log, KeepsToNode k)
      ⟨one, fun _ mem => (List.not_mem_nil mem).elim⟩ ?_
    rintro c i nested F op - commits valid ⟨orderly, -⟩ ⟨one, kept⟩
    have rotation := rotation_of_commits commits valid
    have orderly : Orderly c.db F := orderly
    refine ⟨commits.sameDirectory, rotation.oneCurrent orderly one, fun k mem => ?_⟩
    rcases List.mem_append.1 mem with mem | mem
    · exact kept k mem
    · rw [List.mem_singleton.1 mem]
      exact rotation.keepsToNode orderly i
  refine ⟨kept.1, kept.2, fun i t ht threw => ?_⟩
  have spared {c : AcademicsSystem} {eff : Effect AcademicsStmt CampusCall} (allowed : CurrentDisciplined ops c eff) :
      c.Spared (ChangesSessions ops) (TakesPending ops) eff := allowed.2
  refine run.unmarked_of_threw spared (fun i p hp => ?_) ht threw
  rw [List.getElem?_map, Option.map_eq_some_iff] at hp
  obtain ⟨op, hop, rfl⟩ := hp
  exact SessionOp.completes hop

/-- An institution and a faculty of it, each with its current session. -/
def twoCurrent : AcademicsDb where
  campus.institutions := ⟨[⟨"inst", "University", true, false⟩], by decide⟩
  campus.sessions := ⟨[⟨"s0", "inst", none, none, none, "2023/2024", ⟨2023, 9, 1, 0⟩, ⟨2024, 8, 31, 0⟩, .active,
    .institution, true⟩, ⟨"f0", "inst", some "sci", none, none, "2023/2024 SCI", ⟨2023, 9, 1, 0⟩,
    ⟨2024, 8, 31, 0⟩, .active, .faculty, true⟩], by decide⟩
  faculties := ⟨[⟨"sci", "inst", "Science", "SCI", true⟩], by decide⟩

/-- A current session of the institution or the faculty. -/
def nextYear (facultyId : Option String) (name : String) : CreateAcademicSessionDto where
  name := name
  institutionId := "inst"
  facultyId := facultyId
  startDate := ⟨2024, 9, 1, 0⟩
  endDate := ⟨2025, 8, 31, 0⟩
  isCurrent := true

/-- The faculty gets a new current session, and then the old one back. -/
def facultyTurns : List SessionOp :=
  [.createAcademicSession (nextYear (some "sci") "2024/2025 SCI") "f1",
    .updateAcademicSession "f0" { isCurrent := .value true }]

/-- A current session of the institution; one of the faculty under the name of the institution's; and
the faculty's session moved to the institution. -/
def institutionTurn : List SessionOp := [.createAcademicSession (nextYear none "2024/2025") "s1"]

def sameNameTurn : List SessionOp := [.createAcademicSession (nextYear (some "sci") "2023/2024") "f1"]

def detached : List SessionOp := [.updateAcademicSession "f0" { facultyId := .null }]

/-- The calls of the faculty, one after the other. -/
theorem facultyTurns_discipline : ∃ c : AcademicsSystem,
    Reaches (CurrentDisciplined facultyTurns)
      (Config.start twoCurrent Surroundings.mk (facultyTurns.map SessionOp.program)) c ∧
    c.threads.map Thread.returned = [true, true] ∧ c.db.OneCurrent ∧ (∀ k ∈ c.log, KeepsToNode k) ∧
    ∀ i t, c.threads[i]? = some t → t.threw = true → ∀ k ∈ c.log, k.thread = i →
      ¬ChangesSessions facultyTurns i k.before k.writes := by
  obtain ⟨c, run, returned⟩ := Reaches.of_replay_any (CurrentDisciplined facultyTurns)
    (Config.start twoCurrent Surroundings.mk (facultyTurns.map SessionOp.program))
    (turns [(0, 20), (1, 15)]) (fun c : AcademicsSystem => c.threads.map Thread.returned = [true, true])
    (by decide +kernel)
  exact ⟨c, run, returned, current_session_discipline run (by decide)⟩

/-- The institution's new session clears the flag of the faculty's; a call that is refused for its name
has cleared it as well; and a session that is moved to the institution is a second one there. -/
theorem current_sessions_not_disciplined : twoCurrent.OneCurrent ∧
    (∃ c : AcademicsSystem, Reaches (fun _ _ => True)
      (Config.start twoCurrent Surroundings.mk (institutionTurn.map SessionOp.program)) c ∧
      ∃ k ∈ c.log, ¬KeepsToNode k) ∧
    (∃ c : AcademicsSystem, Reaches (fun _ _ => True)
      (Config.start twoCurrent Surroundings.mk (sameNameTurn.map SessionOp.program)) c ∧
      c.threads.map Thread.threw = [true] ∧
      ∃ k ∈ c.log, k.thread = 0 ∧ ChangesSessions sameNameTurn 0 k.before k.writes) ∧
    ∃ c : AcademicsSystem, Reaches (fun _ _ => True)
      (Config.start twoCurrent Surroundings.mk (detached.map SessionOp.program)) c ∧ ¬c.db.OneCurrent := by
  refine ⟨by decide, ?_, ?_, ?_⟩
  · exact Reaches.of_replay_any (fun _ _ => True)
      (Config.start twoCurrent Surroundings.mk (institutionTurn.map SessionOp.program)) (turns [(0, 16)])
      (fun c : AcademicsSystem => ∃ k ∈ c.log, ¬KeepsToNode k) (by decide +kernel)
  · exact Reaches.of_replay_any (fun _ _ => True)
      (Config.start twoCurrent Surroundings.mk (sameNameTurn.map SessionOp.program)) (turns [(0, 15)])
      (fun c : AcademicsSystem => c.threads.map Thread.threw = [true] ∧
        ∃ k ∈ c.log, k.thread = 0 ∧ ChangesSessions sameNameTurn 0 k.before k.writes) (by decide +kernel)
  · exact Reaches.of_replay_any (fun _ _ => True)
      (Config.start twoCurrent Surroundings.mk (detached.map SessionOp.program)) (turns [(0, 12)])
      (fun c : AcademicsSystem => ¬c.db.OneCurrent) (by decide +kernel)

end Heightt.Campus
