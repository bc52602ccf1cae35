import Heightt.Campus.Rollover
import Heightt.ReadCommitted.Embedding
import Heightt.ReadCommitted.Executes

/-!
# What the promotion of an institution commits

The transaction claims the current session, opens the next one and retires the others,
and then writes organizations, students and records. The levels that a student and a
record are put on are rows of the table of levels, which nothing here changes.
-/

namespace Heightt.Campus

open Store ReadCommitted Prog PromotionService

/-- The session is attached to the institution as a whole. -/
def AcademicSession.Whole (s : AcademicSession) : Prop :=
  s.facultyId = none ∧ s.departmentId = none ∧ s.academicLevelId = none

/-- The statement opens the next session of the institution; `Known` holds of one that was there. -/
inductive Opens (institutionId : String) (Known : String → Prop) : CampusStmt → String → Prop where
  | resumes {id : String} (known : Known id) : Opens institutionId Known (.resumeSession id) id
  | creates {next : AcademicSession} (own : next.institutionId = institutionId) (whole : next.Whole)
      (scope : next.scope = .institution) (current : next.isCurrent = true) :
    Opens institutionId Known (.createSession next) next.id

/-- A statement that comes after the sessions: a record is of the next session, and its level of
its department. -/
def Follows (levels : Table AcademicLevel String AcademicLevel.id) (nextId : String) : CampusStmt → Prop
  | .upsertRecord r => r.sessionId = nextId ∧ ∃ l, levels.find r.academicLevelId = some l ∧
      l.departmentId = r.departmentId
  | .upsertOrganization _ | .updateStudent .. | .createPromotion _ | .leaveMemberships ..
  | .upsertMembership _ | .logInstitutionPromotion _ => True
  | .updateOrganization _ _ patch => patch = { parentOrganizationId := patch.parentOrganizationId }
  | _ => False

theorem Follows.leavesSessions {levels : Table AcademicLevel String AcademicLevel.id} {nextId : String}
    {w : CampusStmt} (h : Follows levels nextId w) : w.LeavesSessions := by
  cases w with
  | upsertOrganization o => exact leavesSessions_upsertOrganization o
  | upsertMembership m => exact leavesSessions_upsertMembership m
  | updateStudent id patch => exact fun _ => rfl
  | createPromotion p => exact fun _ => rfl
  | leaveMemberships userId institutionId sessionId => exact fun _ => rfl
  | logInstitutionPromotion log => exact fun _ => rfl
  | upsertRecord r => exact fun _ => rfl
  | updateOrganization id seen patch => exact fun _ => rfl
  | _ => exact h.elim

/-- The transaction of a promotion. -/
inductive PromotionTx (levels : Table AcademicLevel String AcademicLevel.id) (institutionId : String)
    (Known : String → Prop) : List CampusStmt → Prop where
  | mk {currentId nextId : String} {opening : CampusStmt} {rest : List CampusStmt}
      (opens : Opens institutionId Known opening nextId) (follows : ∀ w ∈ rest, Follows levels nextId w) :
      PromotionTx levels institutionId Known
        (.claimSession currentId institutionId :: opening :: .retireSessions institutionId nextId :: rest)

variable {levels : Table AcademicLevel String AcademicLevel.id}

section Adds

variable {P : Event CampusStmt CampusCall CampusCall.Reply → Prop} {run : InstitutionRun}
  {orgs : NewOrganizationsByOldId}

theorem follows_cloneOrganizations (nextId : String) (os : List Organization) :
    Adds P (cloneOrganizations run os) fun _ F => Each (Follows levels nextId) F := by
  induction os with
  | nil => exact .each_ret []
  | cons o os ih =>
    refine .each_bind ?_ fun created => ih.each_bind fun rest => .each_ret _
    exact .each_bind (.each_exec trivial) fun _ => .each_bind (.each_query _) fun _ => .each_orThrow _ _

theorem follows_setParent (nextId : String) (o : Organization) :
    Adds P (setParent orgs o) fun _ F => Each (Follows levels nextId) F :=
  .each_whenSome fun _ _ => .each_whenSome fun _ _ => .each_whenSome fun _ _ => .each_exec rfl

theorem follows_moveMemberships (nextId : String) (s : StudentProfile) (levelId : String) :
    Adds P (moveMemberships run orgs s levelId) fun _ F => Each (Follows levels nextId) F := by
  refine .each_bind (.each_query _) fun _ => .each_bind (.each_exec trivial) fun _ => ?_
  exact .each_forEach fun _ => .each_whenSome fun _ _ => .each_exec trivial

theorem follows_advanceStudent (rows : ∀ l ∈ run.levels, levels.find l.id = some l)
    (summary : PromotionSummary) (s : StudentProfile) :
    Adds P (advanceStudent run orgs summary s) fun _ F => Each (Follows levels run.nextSession.id) F := by
  unfold advanceStudent
  split
  · exact .each_ret _
  · split
    · exact .each_ret _
    · rename_i currentIndex _
      cases next : (run.departmentLevels s.departmentId)[currentIndex + 1]? with
      | none => exact .each_bind (.each_exec trivial) fun _ => .each_ret _
      | some nextLevel =>
        have mem := List.mem_filter.1 (List.mem_of_getElem? next)
        refine .each_bind (.each_exec trivial) fun _ => .each_bind (.each_exec trivial) fun _ => ?_
        refine .each_bind (.each_exec ?_) fun _ => ?_
        · exact ⟨rfl, nextLevel, rows nextLevel mem.1, of_decide_eq_true mem.2⟩
        · exact .each_bind (follows_moveMemberships _ s nextLevel.id) fun _ => .each_ret _

theorem follows_advanceStudents (rows : ∀ l ∈ run.levels, levels.find l.id = some l)
    (summary : PromotionSummary) (ss : List StudentProfile) :
    Adds P (advanceStudents run orgs summary ss) fun _ F => Each (Follows levels run.nextSession.id) F := by
  induction ss generalizing summary with
  | nil => exact .each_ret summary
  | cons s ss ih => exact .each_bind (follows_advanceStudent rows summary s) fun summary => ih summary

/-- Opening the next session adds one statement that opens it. -/
theorem adds_opens {institutionId : String} {Known : String → Prop}
    {existing : Option AcademicSession} {created : AcademicSession}
    (own : created.institutionId = institutionId) (whole : created.Whole) (scope : created.scope = .institution)
    (current : created.isCurrent = true) (known : ∀ t, existing = some t → Known t.id) :
    Adds P (openNextSession existing created) fun next F => ∃ opening, F = [opening] ∧
      Opens institutionId Known opening next.id := by
  cases existing with
  | none => exact .exec_bind (.ret ⟨_, rfl, .creates own whole scope current⟩)
  | some existing =>
    refine .exec_bind (.query_bind fun d => ?_)
    refine .of_makes (.orThrow (S := fun next => next.id = existing.id) ?_) ?_
    · exact fun next found => Table.find_key found
    · rintro next same
      exact ⟨_, rfl, by rw [same]; exact .resumes (known existing rfl)⟩

theorem adds_promotionTx {make : AcademicSession → InstitutionRun} {current created : AcademicSession}
    {existing : Option AcademicSession} {ss : List StudentProfile} {os : List Organization} {institutionId : String}
    {Known : String → Prop}
    (own : created.institutionId = institutionId) (whole : created.Whole) (scope : created.scope = .institution)
    (current_next : created.isCurrent = true) (known : ∀ t, existing = some t → Known t.id)
    (rows : ∀ next, (make next).nextSession = next ∧ ∀ l ∈ (make next).levels, levels.find l.id = some l) :
    Adds P (rollOver make current existing created ss os institutionId) fun _ F =>
      PromotionTx levels institutionId Known F := by
  refine .exec_bind ((adds_opens own whole scope current_next known).bind ?_)
  rintro next F ⟨opening, rfl, opens⟩
  obtain ⟨hnext, hrows⟩ := rows next
  have students (orgs : NewOrganizationsByOldId) : Adds P (advanceStudents (make next) orgs {} ss) _ :=
    follows_advanceStudents hrows {} ss
  rw [hnext] at students
  refine .exec_bind (.mono (G := fun _ F => Each (Follows levels next.id) F) ?_ fun _ F follows =>
    .mk opens follows)
  refine .each_bind (follows_cloneOrganizations next.id os) fun orgs => ?_
  refine .each_bind (.each_forEach fun o => follows_setParent next.id o) fun _ => ?_
  exact .each_bind (students orgs) fun _ => .each_bind (.each_exec trivial) fun _ => .each_ret _

end Adds

theorem Opens.mono {institutionId nextId : String} {Known Known' : String → Prop} {opening : CampusStmt}
    (opens : Opens institutionId Known opening nextId) (h : ∀ id, Known id → Known' id) :
    Opens institutionId Known' opening nextId := by
  cases opens with
  | resumes known => exact .resumes (h _ known)
  | creates own whole scope current => exact .creates own whole scope current

theorem PromotionTx.mono {institutionId : String} {Known Known' : String → Prop} {F : List CampusStmt}
    (tx : PromotionTx levels institutionId Known F) (h : ∀ id, Known id → Known' id) :
    PromotionTx levels institutionId Known' F := by
  obtain ⟨opens, follows⟩ := tx
  exact .mk (opens.mono h) follows

/-! ## The call -/

/-- No statement of the campus changes the institutions and the levels. -/
theorem CampusStmt.apply_directory (w : CampusStmt) (d : CampusDb) :
    (w.apply d).institutions = d.institutions ∧ (w.apply d).levels = d.levels := by
  cases w <;> unfold CampusStmt.apply <;> dsimp only <;> try split
  all_goals exact ⟨rfl, rfl⟩

/-- What the call commits in a state, when `Known` holds of the sessions it may resume. -/
def Promotes (institutionId : String) (Known : CampusDb → String → Prop) (d : CampusDb) (F : List CampusStmt) : Prop :=
  F = [] ∨ PromotionTx d.levels institutionId (Known d) F

theorem find_sortedLevel {d : CampusDb} {departments : List String} {l : AcademicLevel}
    (mem : l ∈ (d.levels.rows.filter fun l => l.departmentId ∈ departments ∧ l.isActive).insertionSort
      AcademicLevel.le) : d.levels.find l.id = some l :=
  Table.find_of_mem (List.mem_filter.1 ((List.perm_insertionSort _ _).mem_iff.1 mem)).1

section Upholds

variable {rely : CampusDb → CampusDb → Prop}
  (guarded : Guarded (C := CampusCall) (R := CampusCall.Reply) rely fun _ => False)
  (sameLevels : ∀ {s d}, rely s d → d.levels = s.levels) (keeps : ∀ F d, rely d (Database.applyAll F d))
  {Known : CampusDb → String → Prop}

include guarded sameLevels keeps

/-- Others leave the levels alone, and what is known of a session of the institution. -/
theorem upholds_promoteInstitution {s : CampusDb} (op : PromoteInstitutionOp)
    (known : ∀ d d' t, rely d d' → t ∈ d.sessions.rows → t.institutionId = op.institutionId → Known d' t.id) :
    Upholds rely (Promotes op.institutionId Known) s op.program fun _ _ => True := by
  have nothing (d : CampusDb) : Promotes op.institutionId Known d [] := .inl rfl
  have plain {α : Type} {f : CampusDb → α} {s : CampusDb} : Upholds rely (Promotes op.institutionId Known) s
      (outside f : CampusAction α) fun _ _ => True :=
    .outside guarded nothing fun _ _ _ _ => trivial
  unfold PromoteInstitutionOp.program promoteInstitution
  refine .bind guarded plain fun _ institution _ _ => .bind guarded plain fun _ current _ _ => ?_
  refine .bind guarded plain fun _ operator _ _ => .orThrow_bind guarded fun _ _ => ?_
  refine .orThrow_bind guarded fun _ _ => .orThrow_bind guarded fun current _ => ?_
  refine .bind guarded (S := fun _ _ => True) ?_ fun _ name _ _ => ?_
  · exact .orThrow_bind guarded fun matched _ =>
      .ensure_bind guarded fun _ => .ret guarded trivial
  refine .bind guarded (S := fun d o => ∀ t, o = some t → ∃ d₀, rely d₀ d ∧ t ∈ d₀.sessions.rows ∧
    t.institutionId = op.institutionId) ?_ fun d₀ existing _ found => ?_
  · refine .outside guarded nothing fun d d' _ hd t ht => ⟨d, hd, List.mem_of_find?_eq_some ht, ?_⟩
    have chosen := List.find?_some ht
    simp only [Bool.decide_and, Bool.and_eq_true, decide_eq_true_eq] at chosen
    exact chosen.1
  refine .bind guarded plain fun d₁ students hd₁ _ => .bind guarded plain fun d₂ organizations hd₂ _ => ?_
  refine .bind guarded (S := fun d levels => ∀ l ∈ levels, d.levels.find l.id = some l) ?_
    fun d₃ levels' hd₃ rows => ?_
  · refine .outside guarded nothing fun d d' _ hd l mem => ?_
    rw [sameLevels hd]
    exact find_sortedLevel mem
  refine .query_bind guarded fun d₄ hd₄ => .bind guarded (S := fun _ _ => True) ?_ fun _ run _ _ => ?_
  · have known' (d d' : CampusDb) (hd : rely d₄ d) (hd' : rely d d') (t : AcademicSession)
        (ht : existing = some t) : Known d' t.id := by
      obtain ⟨d₅, hd₅, mem, own⟩ := found t ht
      refine known d₅ d' t ?_ mem own
      exact guarded.trans hd₅ (guarded.trans hd₁ (guarded.trans hd₂ (guarded.trans hd₃ (guarded.trans hd₄
        (guarded.trans hd hd')))))
    refine .transaction guarded (G := fun d _ F => rely d₄ d ∧
      PromotionTx d.levels op.institutionId (fun id => ∃ t, existing = some t ∧ t.id = id) F) ?_ ?_
    · refine .of_adds guarded
        (H := fun _ F => PromotionTx d₄.levels op.institutionId (fun id => ∃ t, existing = some t ∧ t.id = id) F)
        (adds_promotionTx rfl ⟨rfl, rfl, rfl⟩ rfl rfl (fun t ht => ⟨t, ht, rfl⟩) fun next =>
          ⟨rfl, fun l mem => ?_⟩) fun d _ F hd tx => ⟨hd, ?_⟩
      · rw [sameLevels hd₄]
        exact rows l mem
      · rw [sameLevels hd]
        exact tx
    · intro d d' _ F _ hd' ⟨hd, tx⟩ _
      rw [← sameLevels hd'] at tx
      refine ⟨.inr (tx.mono fun id ⟨t, ht, same⟩ => ?_), keeps F d', trivial⟩
      exact same ▸ known' d d' hd hd' t ht
  · refine .bind guarded (.request guarded (S := fun _ _ => True) fun _ _ _ => trivial)
      fun d _ _ _ => ?_
    refine .of_makes (P := fun ev => Calls ev) (.forEach fun userId _ => .attempt ?_)
      ⟨guarded.refl, guarded.trans, False.elim⟩ fun _ _ _ h => h.elim
    exact makes_invalidate.bind fun _ _ => makes_createNotification userId

end Upholds

end Heightt.Campus
