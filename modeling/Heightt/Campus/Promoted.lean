import Heightt.Campus.Rollover
import Mathlib.Order.RelIso.Basic

/-!
# What the promotion of an institution does to its students

Every student that is considered goes one level up in the order of the department,
graduates from the last level, or stays where the department has no such level; the
counts add up. One session is current afterwards.
-/

namespace Heightt.Campus

open Store ReadCommitted Prog Database PromotionService

/-! ## Levels in order -/

/-- The ACTIVE levels of a department, each once, by their order. -/
structure InOrder (d : CampusDb) (departmentId : String) (levels : List AcademicLevel) : Prop where
  sorted : levels.Pairwise fun a b => a.order ≤ b.order
  nodup : (levels.map AcademicLevel.id).Nodup
  mem : ∀ l, l ∈ levels ↔ l ∈ d.levels.rows ∧ l.departmentId = departmentId ∧ l.isActive = true

/-- What becomes of a student, by the place of the level in the list. -/
inductive Becomes (levels : List AcademicLevel) (s : StudentProfile) : Fate → Prop where
  | promoted {before after : List AcademicLevel} {fromLevel toLevel : AcademicLevel} :
    levels = before ++ fromLevel :: toLevel :: after → s.currentAcademicLevelId = some fromLevel.id →
    Becomes levels s (.promoted fromLevel.id toLevel.id)
  | graduated {before : List AcademicLevel} {last : AcademicLevel} :
    levels = before ++ [last] → s.currentAcademicLevelId = some last.id → Becomes levels s .graduated
  | skipped : (∀ l ∈ levels, s.currentAcademicLevelId ≠ some l.id) → Becomes levels s .skipped

theorem becomes_fate (levels : List AcademicLevel) (s : StudentProfile) : Becomes levels s (fate levels s) := by
  unfold fate
  cases level : s.currentAcademicLevelId with
  | none => exact .skipped fun l _ same => by rw [level] at same; cases same
  | some levelId =>
    dsimp only
    cases found : levels.findIdx? fun l => l.id = levelId with
    | none =>
      refine .skipped fun l mem same => ?_
      rw [level, Option.some.injEq] at same
      have := List.findIdx?_eq_none_iff.1 found l mem
      exact of_decide_eq_false this same.symm
    | some i =>
      obtain ⟨inside, own, -⟩ := List.findIdx?_eq_some_iff_getElem.1 found
      have own : levels[i].id = levelId := of_decide_eq_true own
      subst own
      dsimp only
      have split : levels = levels.take i ++ levels[i] :: levels.drop (i + 1) := by
        rw [← List.drop_eq_getElem_cons inside, List.take_append_drop]
      cases next : levels[i + 1]? with
      | none =>
        have : levels.length ≤ i + 1 := List.getElem?_eq_none_iff.1 next
        rw [List.drop_eq_nil_of_le this] at split
        exact .graduated split level
      | some nextLevel =>
        obtain ⟨within, rfl⟩ := List.getElem?_eq_some_iff.1 next
        rw [List.drop_eq_getElem_cons within] at split
        exact .promoted split level

instance : Std.Total AcademicLevel.le := ⟨fun _ _ => le_total _ _⟩

instance : IsTrans AcademicLevel AcademicLevel.le := ⟨fun _ _ _ => le_trans⟩

section Levels

variable {d : CampusDb} {institutionId : String}

theorem mem_consideredLevels {l : AcademicLevel} : l ∈ consideredLevels d institutionId ↔
    l ∈ d.levels.rows ∧ (∃ s ∈ considered d institutionId, s.departmentId = l.departmentId) ∧
      l.isActive = true := by
  simp [consideredLevels, List.mem_insertionSort]

/-- The levels that a run goes by, of a department that has a student. -/
theorem inOrder_consideredLevels {s : StudentProfile} (mem : s ∈ considered d institutionId) :
    InOrder d s.departmentId
      ((consideredLevels d institutionId).filter fun l => l.departmentId = s.departmentId) where
  sorted := by
    have sorted := List.pairwise_insertionSort AcademicLevel.le (d.levels.rows.filter fun l =>
      l.departmentId ∈ (considered d institutionId).map StudentProfile.departmentId ∧ l.isActive)
    refine (sorted.filter _).imp_of_mem ?_
    intro a b ha hb h
    have ha : a.departmentId = s.departmentId := of_decide_eq_true (List.mem_filter.1 ha).2
    have hb : b.departmentId = s.departmentId := of_decide_eq_true (List.mem_filter.1 hb).2
    obtain lower | ⟨-, h⟩ := Prod.Lex.toLex_le_toLex.1 h
    · rw [ha, hb] at lower
      exact absurd lower (lt_irrefl _)
    · exact h
  nodup := by
    refine List.Nodup.sublist (List.filter_sublist.map _) ?_
    refine ((List.perm_insertionSort AcademicLevel.le _).map AcademicLevel.id).nodup_iff.2 ?_
    exact d.levels.nodup.sublist (List.filter_sublist.map _)
  mem := by
    intro l
    rw [List.mem_filter, mem_consideredLevels, decide_eq_true_eq]
    constructor
    · rintro ⟨⟨row, -, active⟩, department⟩
      exact ⟨row, department, active⟩
    · rintro ⟨row, department, active⟩
      exact ⟨⟨row, ⟨s, mem, department.symm⟩, active⟩, department⟩

end Levels

/-! ## The students a run leaves -/

namespace Fate

def apply (f : Fate) (s : StudentProfile) : StudentProfile :=
  match f with
  | skipped => s
  | graduated => { s with academicStatus := .graduated }
  | promoted _ toLevelId => { s with currentAcademicLevelId := some toLevelId, isDirectEntry := false }

/-- Whom a promotion is of, and from where to where. -/
def promotion (f : Fate) (studentId : String) : List (String × String × String) :=
  match f with
  | promoted fromLevelId toLevelId => [(studentId, fromLevelId, toLevelId)]
  | _ => []

def isPromoted : Fate → Bool
  | promoted .. => true
  | _ => false

@[simp] theorem isPromoted_skipped : skipped.isPromoted = false := rfl
@[simp] theorem isPromoted_graduated : graduated.isPromoted = false := rfl
@[simp] theorem isPromoted_promoted (fromLevelId toLevelId : String) :
    (promoted fromLevelId toLevelId).isPromoted = true := rfl

theorem patch_apply (f : Fate) (s : StudentProfile) : f.patch.apply s = f.apply s := by
  cases f <;> rfl

end Fate

def StudentPromotion.essence (p : StudentPromotion) : String × String × String :=
  (p.studentId, p.fromLevelId, p.toLevelId)

/-- The students, their promotions and the logs of promotions. -/
def CampusDb.academic (d : CampusDb) :
    Table StudentProfile String StudentProfile.id × List StudentPromotion × List InstitutionPromotionLog :=
  (d.students, d.promotions, d.promotionLogs)

def CampusStmt.LeavesAcademic (w : CampusStmt) : Prop := ∀ d, (w.apply d).academic = d.academic

theorem academic_applyAll {F : List CampusStmt} (h : ∀ w ∈ F, w.LeavesAcademic) (d : CampusDb) :
    (applyAll F d).academic = d.academic :=
  applyAll_keeps CampusDb.academic h d

section Students

variable {d : CampusDb} {op : PromoteInstitutionOp} {run : InstitutionRun} {orgs : NewOrganizationsByOldId}
  {opening : CampusStmt}

theorem leavesAcademic_moves {s : StudentProfile} {nextLevelId : String} {w : CampusStmt}
    (mem : w ∈ run.moves orgs s nextLevelId d) : w.LeavesAcademic := by
  obtain rfl | ⟨p, -, o, -, rfl⟩ := InstitutionRun.mem_moves mem
  · exact fun _ => rfl
  · intro d
    simp only [CampusStmt.apply]
    split <;> rfl

theorem find_updateStudent (id j : String) (f : Fate) (d : CampusDb) :
    ((CampusStmt.updateStudent id f.patch).apply d).students.find j =
      if j = id then (d.students.find j).map f.apply else d.students.find j := by
  rw [show f.apply = f.patch.apply from funext fun s => (f.patch_apply s).symm]
  exact Table.find_modify d.students id f.patch.apply (fun _ => rfl) j

/-- What the statements for students do to the students, and what they add to the
promotions. -/
structure Advanced (run : InstitutionRun) (ss : List StudentProfile) (d d' : CampusDb) : Prop where
  moved : ∀ s ∈ ss, d.students.find s.id = some s → d'.students.find s.id = some ((run.fate s).apply s)
  others : ∀ id, (∀ s ∈ ss, s.id ≠ id) → d'.students.find id = d.students.find id
  promotions : d'.promotions.map StudentPromotion.essence = d.promotions.map StudentPromotion.essence ++
    ss.flatMap fun s => (run.fate s).promotion s.id
  logs : d'.promotionLogs = d.promotionLogs

theorem Advanced.of_academic {ss : List StudentProfile} {d d₁ d₂ : CampusDb} (h : Advanced run ss d d₁)
    (same : d₂.academic = d₁.academic) : Advanced run ss d d₂ := by
  have students : d₂.students = d₁.students := congrArg Prod.fst same
  have promotions : d₂.promotions = d₁.promotions := congrArg (fun a => a.2.1) same
  have logs : d₂.promotionLogs = d₁.promotionLogs := congrArg (fun a => a.2.2) same
  constructor
  · rw [students]; exact h.moved
  · rw [students]; exact h.others
  · rw [promotions]; exact h.promotions
  · rw [logs]; exact h.logs

/-- The update of the student is what the other statements leave of it. -/
theorem advanced_one {s : StudentProfile} {f : Fate} {d d₁ : CampusDb} (own : run.fate s = f)
    (students : d₁.students = ((CampusStmt.updateStudent s.id f.patch).apply d).students)
    (promotions : d₁.promotions.map StudentPromotion.essence =
      d.promotions.map StudentPromotion.essence ++ f.promotion s.id)
    (logs : d₁.promotionLogs = d.promotionLogs) : Advanced run [s] d d₁ where
  moved := by
    intro s' mem found
    obtain rfl := List.mem_singleton.1 mem
    rw [students, find_updateStudent, if_pos rfl, found, own]
    rfl
  others := by
    intro id other
    rw [students, find_updateStudent, if_neg (Ne.symm (other s List.mem_cons_self))]
  promotions := by
    rw [promotions, List.flatMap_singleton, own]
  logs := logs

theorem advanced_advance (s : StudentProfile) (d : CampusDb) :
    Advanced run [s] d (applyAll (run.advance orgs s d) d) := by
  unfold InstitutionRun.advance
  cases own : run.fate s with
  | skipped =>
    have unmoved : (Fate.skipped).apply = id := rfl
    refine ⟨fun s' mem found => ?_, fun id _ => rfl, ?_, rfl⟩
    · obtain rfl := List.mem_singleton.1 mem
      rw [own]
      exact found
    · rw [List.flatMap_singleton, own]
      exact (List.append_nil _).symm
  | graduated => exact advanced_one own rfl (List.append_nil _).symm rfl
  | promoted fromLevelId toLevelId =>
    dsimp only
    rw [applyAll_append]
    refine Advanced.of_academic ?_ (academic_applyAll (fun w mem => leavesAcademic_moves mem) _)
    refine advanced_one own rfl ?_ rfl
    exact List.map_append

theorem advanced_advanceAll (ss : List StudentProfile) (distinct : (ss.map StudentProfile.id).Nodup)
    (d : CampusDb) : Advanced run ss d (applyAll (run.advanceAll orgs ss d) d) := by
  induction ss generalizing d with
  | nil =>
    refine ⟨fun s mem _ => ?_, fun _ _ => rfl, (List.append_nil _).symm, rfl⟩
    cases mem
  | cons s ss ih =>
    rw [List.map_cons, List.nodup_cons] at distinct
    have first : Advanced run [s] d (applyAll (run.advance orgs s d) d) := advanced_advance s d
    have rest := ih distinct.2 (applyAll (run.advance orgs s d) d)
    rw [InstitutionRun.advanceAll, applyAll_append]
    have ne (s' : StudentProfile) (mem : s' ∈ ss) : s'.id ≠ s.id :=
      fun same => distinct.1 (same ▸ List.mem_map_of_mem mem)
    refine ⟨?_, ?_, ?_, rest.logs.trans first.logs⟩
    · intro s' mem found
      obtain rfl | mem := List.mem_cons.1 mem
      · rw [rest.others _ fun r hr => ne r hr]
        exact first.moved _ List.mem_cons_self found
      · refine rest.moved s' mem ?_
        rw [first.others s'.id fun r hr => (List.mem_singleton.1 hr ▸ (ne s' mem).symm), found]
    · intro id other
      rw [rest.others id fun r hr => other r (List.mem_cons_of_mem s hr)]
      exact first.others id fun r hr => List.mem_singleton.1 hr ▸ other s List.mem_cons_self
    · rw [rest.promotions, first.promotions]
      simp only [List.flatMap_cons, List.flatMap_nil, List.append_nil, List.append_assoc]

/-- The counts of a run. -/
theorem foldl_count (fateOf : StudentProfile → Fate) (ss : List StudentProfile) (a : PromotionSummary) :
    ss.foldl (fun a s => (fateOf s).count a) a =
      ⟨a.promoted + ss.countP fun s => (fateOf s).isPromoted,
        a.graduated + ss.countP fun s => fateOf s = .graduated,
        a.skipped + ss.countP fun s => fateOf s = .skipped⟩ := by
  induction ss generalizing a with
  | nil => rfl
  | cons s ss ih =>
    rw [List.foldl_cons, ih]
    cases own : fateOf s <;>
      simp [own, Fate.count, PromotionSummary.skip, PromotionSummary.graduate,
        PromotionSummary.promote] <;> omega

theorem count_total (fateOf : StudentProfile → Fate) (ss : List StudentProfile) :
    (ss.countP fun s => (fateOf s).isPromoted) + (ss.countP fun s => fateOf s = .graduated) +
      (ss.countP fun s => fateOf s = .skipped) = ss.length := by
  induction ss with
  | nil => rfl
  | cons s ss ih =>
    cases own : fateOf s <;> simp [own] <;> omega

end Students

/-! ## The institution a run leaves -/

/-- The institution is promoted: `levels` are the levels of its departments in order,
and `fateOf` says what became of each student that was considered. -/
structure Promoted (d : CampusDb) (institutionId : String) (d' : CampusDb)
    (levels : String → List AcademicLevel) (fateOf : StudentProfile → Fate) : Prop where
  session : ∃ s ∈ d'.sessions.rows, OpenFor institutionId s ∧
    ∀ r ∈ d'.sessions.rows, OpenFor institutionId r → r = s
  inOrder : ∀ s ∈ considered d institutionId, InOrder d s.departmentId (levels s.departmentId)
  becomes : ∀ s ∈ considered d institutionId, Becomes (levels s.departmentId) s (fateOf s)
  moved : ∀ s ∈ considered d institutionId, d'.students.find s.id = some ((fateOf s).apply s)
  others : ∀ id, (∀ s ∈ considered d institutionId, s.id ≠ id) →
    d'.students.find id = d.students.find id
  promotions : d'.promotions.map StudentPromotion.essence = d.promotions.map StudentPromotion.essence ++
    (considered d institutionId).flatMap fun s => (fateOf s).promotion s.id
  counts : ∃ log, d'.promotionLogs = d.promotionLogs ++ [log] ∧
    log.summary.promoted = ((considered d institutionId).countP fun s => (fateOf s).isPromoted) ∧
    log.summary.graduated = ((considered d institutionId).countP fun s => fateOf s = .graduated) ∧
    log.summary.skipped = ((considered d institutionId).countP fun s => fateOf s = .skipped) ∧
    log.summary.promoted + log.summary.graduated + log.summary.skipped =
      (considered d institutionId).length

section Institution

variable {d : CampusDb} {op : PromoteInstitutionOp} {run : InstitutionRun} {orgs : NewOrganizationsByOldId}
  {opening : CampusStmt}

theorem Opened.leavesAcademic {created next : AcademicSession} {existing : Option AcademicSession}
    {w : CampusStmt} (opened : Opened d created existing next w) : w.LeavesAcademic := by
  cases opened with
  | resumed => exact fun _ => rfl
  | created => exact fun _ => rfl

theorem leavesAcademic_opening (h : RolledOver d op run orgs opening) : opening.LeavesAcademic := by
  obtain ⟨a, e, -, opened⟩ := h.named
  exact opened.leavesAcademic

/-- Before the students are gone through, they are as they were. -/
theorem academic_copied (h : RolledOver d op run orgs opening) (os : List Organization) :
    (applyAll ([.claimSession run.currentSession.id run.institutionId, opening,
      .retireSessions run.institutionId run.nextSession.id] ++
        (cloneStmts run os ++ os.flatMap fun o => (parentStmt orgs o).toList)) d).academic = d.academic := by
  refine academic_applyAll (fun w mem => ?_) d
  rw [List.mem_append, List.mem_append] at mem
  obtain mem | mem | mem := mem
  · simp only [List.mem_cons, List.not_mem_nil, or_false] at mem
    obtain rfl | rfl | rfl := mem
    · exact fun _ => rfl
    · exact leavesAcademic_opening h
    · exact fun _ => rfl
  · obtain ⟨o, -, rfl⟩ := List.mem_map.1 mem
    intro d
    simp only [CampusStmt.apply]
    split <;> rfl
  · obtain ⟨o, -, mem⟩ := List.mem_flatMap.1 mem
    obtain ⟨parentId, created, parent, -, -, -, rfl⟩ := mem_parentStmt mem
    exact fun _ => rfl

/-- **A run promotes the institution.** -/
theorem RolledOver.promoted (h : RolledOver d op run orgs opening)
    (valid : violation (rollOverStmts d run orgs opening) d = none) :
    Promoted d op.institutionId (applyAll (rollOverStmts d run orgs opening) d) run.departmentLevels run.fate := by
  obtain ⟨-, next, isOpen, only⟩ := h.sessions valid
  have row (s : StudentProfile) (mem : s ∈ considered d run.institutionId) : d.students.find s.id = some s :=
    Table.find_of_mem (List.mem_filter.1 mem).1
  let os := sources d run.institutionId run.currentSession.id
  have copied := academic_copied h os
  generalize hd₁ : applyAll ([.claimSession run.currentSession.id run.institutionId, opening,
      .retireSessions run.institutionId run.nextSession.id] ++
        (cloneStmts run os ++ os.flatMap fun o => (parentStmt orgs o).toList)) d = d₁ at copied
  have students : d₁.students = d.students := congrArg Prod.fst copied
  have promotions : d₁.promotions = d.promotions := congrArg (fun a => a.2.1) copied
  have logs : d₁.promotionLogs = d.promotionLogs := congrArg (fun a => a.2.2) copied
  have advanced : Advanced run (considered d run.institutionId) d₁
      (applyAll (run.advanceAll orgs (considered d run.institutionId) d₁) d₁) :=
    advanced_advanceAll _ (d.students.nodup.sublist (List.filter_sublist.map _)) d₁
  generalize hd₂ : applyAll (run.advanceAll orgs (considered d run.institutionId) d₁) d₁ = d₂ at advanced
  let summary := (considered d run.institutionId).foldl (fun a s => (run.fate s).count a) {}
  have final : applyAll (rollOverStmts d run orgs opening) d =
      (CampusStmt.logInstitutionPromotion
        ⟨run.institutionId, run.currentSession.id, run.nextSession.id, summary⟩).apply d₂ := by
    unfold rollOverStmts
    dsimp only
    rw [applyAll_append, applyAll_append, hd₁, hd₂]
    rfl
  have counted : summary = _ := foldl_count run.fate (considered d run.institutionId) {}
  have total := count_total run.fate (considered d run.institutionId)
  rw [final] at next only ⊢
  rw [← h.institutionId] at isOpen only ⊢
  constructor
  · exact ⟨run.nextSession, next, isOpen, only⟩
  · intro s mem
    have := inOrder_consideredLevels mem
    rw [h.institutionId, ← h.levels] at this
    exact this
  · exact fun s _ => becomes_fate _ s
  · intro s mem
    exact advanced.moved s mem (students ▸ row s mem)
  · intro id other
    exact (advanced.others id other).trans (congrArg (fun t => t.find id) students)
  · rw [← promotions]
    exact advanced.promotions
  · refine ⟨_, by rw [← logs, ← advanced.logs]; rfl, ?_⟩
    simp only [counted, Nat.zero_add]
    exact ⟨trivial, trivial, trivial, total⟩

end Institution

/-- **At most one run promotes the institution**, however many runs on one session are
interleaved: it considers the students as they were before all of them, and no other
run returns. -/
theorem promotes_institution_once {db : CampusDb} {x : Surroundings} {ops : List PromoteInstitutionOp}
    {sessionId : String} {c : CampusSystem}
    (run : Reaches (fun _ _ => True) (Config.start db x (ops.map PromoteInstitutionOp.program)) c)
    (same : ∀ op ∈ ops, op.dto.currentSessionId = sessionId) :
    c.db = db ∧ (∀ i, ¬c.Returned i) ∨
      ∃ (i : Nat) (op : PromoteInstitutionOp) (levels : String → List AcademicLevel)
        (fateOf : StudentProfile → Fate), ops[i]? = some op ∧
        Promoted db op.institutionId c.db levels fateOf ∧ ∀ j, c.Returned j → j = i := by
  obtain none | ⟨i, op, hop, ⟨r, orgs, opening, rolled, valid, left⟩, only⟩ := Reaches.rolledOver run same
  · exact .inl none
  · refine .inr ⟨i, op, r.departmentLevels, r.fate, hop, ?_, only⟩
    rw [left]
    exact rolled.promoted valid

/-- The threads take turns: each pair is a thread and how many operations it completes. -/
def turns (ts : List (Nat × Nat)) : List (Action Empty CampusError) :=
  ts.flatMap fun t => List.replicate t.2 (.thread t.1 .ok)

/-- An institution with a student on each of the two levels of a department. -/
def college : CampusDb where
  institutions := ⟨[⟨"inst", "College", true, false⟩], by decide⟩
  sessions := ⟨[⟨"s1", "inst", none, none, none, "2023/2024", ⟨2023, 9, 1, 0⟩, ⟨2024, 8, 31, 0⟩, .active,
    .institution, true⟩], by decide⟩
  levels := ⟨[⟨"200", "dept", "200 Level", 200, 2, true⟩, ⟨"100", "dept", "100 Level", 100, 1, true⟩],
    by decide⟩
  students := ⟨[⟨"ada", "ada", "inst", "fac", "dept", some "100", none, true, .active, .completed, true, none⟩,
    ⟨"bola", "bola", "inst", "fac", "dept", some "200", none, false, .active, .completed, true, none⟩],
    by decide⟩
  admins := [{ userId := "root", isPlatform := true }]

/-- Identifiers that start with a tag of the run. -/
def taggedIds (tag : String) : NewIds where
  session := tag
  organization oldId := tag ++ oldId
  promotion studentId := tag ++ studentId
  membership studentId destinationId := tag ++ studentId ++ destinationId

def promoteCollege (tag : String) : PromoteInstitutionOp :=
  ⟨"inst", "root", { currentSessionId := "s1" }, taggedIds tag⟩

/-- Both runs have read the session when the first one commits. -/
theorem college_promotes_once : ∃ c : CampusSystem,
    Reaches (fun _ _ => True) (Config.start college Surroundings.mk
      ([promoteCollege "x", promoteCollege "y"].map PromoteInstitutionOp.program)) c ∧
    c.threads.map Thread.returned = [true, false] ∧
    (c.db = college ∧ (∀ i, ¬c.Returned i) ∨
      ∃ (i : Nat) (op : PromoteInstitutionOp) (levels : String → List AcademicLevel)
        (fateOf : StudentProfile → Fate), [promoteCollege "x", promoteCollege "y"][i]? = some op ∧
        Promoted college op.institutionId c.db levels fateOf ∧ ∀ j, c.Returned j → j = i) := by
  obtain ⟨c, run, returned⟩ := Reaches.of_replay_any (fun _ _ => True)
    (Config.start college Surroundings.mk
      ([promoteCollege "x", promoteCollege "y"].map PromoteInstitutionOp.program))
    (turns [(1, 20), (0, 39)])
    (fun c : CampusSystem => c.threads.map Thread.returned = [true, false]) (by decide +kernel)
  have same : ∀ op ∈ [promoteCollege "x", promoteCollege "y"], op.dto.currentSessionId = "s1" := by
    intro op mem
    simp only [List.mem_cons, List.not_mem_nil, or_false] at mem
    obtain rfl | rfl := mem <;> rfl
  exact ⟨c, run, returned, promotes_institution_once run same⟩

end Heightt.Campus
