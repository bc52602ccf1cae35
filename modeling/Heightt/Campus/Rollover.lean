import Heightt.Campus.InstitutionPromotion
import Heightt.ReadCommitted.Claim

/-!
# What the promotion of an institution commits

The transaction claims the current session. So of any number of runs on one session
at most one commits, and it commits what it would have committed alone
(`Reaches.rolledOver`): `RolledOver` lists the statements, each loop with the state
that it sees.
-/

namespace Heightt.Campus

open Store ReadCommitted Prog Database PromotionService

/-- What becomes of a student. -/
inductive Fate where
  | skipped
  | graduated
  | promoted (fromLevelId toLevelId : String)
  deriving DecidableEq

/-- What becomes of a student of a department with the given levels. -/
def fate (levels : List AcademicLevel) (s : StudentProfile) : Fate :=
  match s.currentAcademicLevelId with
  | none => .skipped
  | some levelId =>
    match levels.findIdx? fun l => l.id = levelId with
    | none => .skipped
    | some currentIndex =>
      match levels[currentIndex + 1]? with
      | none => .graduated
      | some nextLevel => .promoted levelId nextLevel.id

namespace Fate

def patch : Fate → StudentPatch
  | skipped => {}
  | graduated => { academicStatus := some .graduated }
  | promoted _ toLevelId => { currentAcademicLevelId := some toLevelId, isDirectEntry := some false }

def count (summary : PromotionSummary) : Fate → PromotionSummary
  | skipped => summary.skip
  | graduated => summary.graduate
  | promoted .. => summary.promote

end Fate

namespace InstitutionRun

variable (run : InstitutionRun)

def fate (s : StudentProfile) : Fate := Campus.fate (run.departmentLevels s.departmentId) s

/-- The statements that move the memberships of a promoted student. -/
def moves (orgs : NewOrganizationsByOldId) (s : StudentProfile) (nextLevelId : String) (d : CampusDb) :
    List CampusStmt :=
  .leaveMemberships s.userId run.institutionId run.currentSession.id ::
    (d.previousMemberships s.userId run.currentSession.id).flatMap fun p =>
      ((destination orgs s nextLevelId p).map fun o => CampusStmt.upsertMembership (run.joined s p o)).toList

/-- The statements for one student, whose transaction sees `d`. -/
def advance (orgs : NewOrganizationsByOldId) (s : StudentProfile) (d : CampusDb) : List CampusStmt :=
  match run.fate s with
  | .skipped => []
  | .graduated => [.updateStudent s.id Fate.graduated.patch]
  | .promoted fromLevelId toLevelId =>
    let F := [.createPromotion (run.promotion s fromLevelId toLevelId),
      .updateStudent s.id (Fate.promoted fromLevelId toLevelId).patch,
      .upsertRecord (run.record s toLevelId)]
    F ++ run.moves orgs s toLevelId (applyAll F d)

def advanceAll (orgs : NewOrganizationsByOldId) : List StudentProfile → CampusDb → List CampusStmt
  | [], _ => []
  | s :: ss, d => run.advance orgs s d ++ advanceAll orgs ss (applyAll (run.advance orgs s d) d)

end InstitutionRun

/-- The statement that sets the parent of a copy. -/
def parentStmt (orgs : NewOrganizationsByOldId) (o : Organization) : Option CampusStmt := do
  let parentId ← o.parentOrganizationId
  let created ← orgs.lookup o.id
  let parent ← orgs.lookup parentId
  return .updateOrganization created.id none { parentOrganizationId := some parent.id }

/-- The copies of the organizations, as the statements that make them find them. -/
inductive Cloned (run : InstitutionRun) : CampusDb → List Organization → NewOrganizationsByOldId → Prop where
  | nil (d : CampusDb) : Cloned run d [] []
  | cons {d : CampusDb} {o created : Organization} {os : List Organization} {orgs : NewOrganizationsByOldId} :
    (apply (CampusStmt.upsertOrganization (run.copy o)) d).organizationBySlug run.institutionId
      (run.copy o).slug run.nextSession.id = some created →
    Cloned run (apply (CampusStmt.upsertOrganization (run.copy o)) d) os orgs →
    Cloned run d (o :: os) ((o.id, created) :: orgs)

def cloneStmts (run : InstitutionRun) (os : List Organization) : List CampusStmt :=
  os.map fun o => .upsertOrganization (run.copy o)

/-- How the next session is opened. -/
inductive Opened (d : CampusDb) (created : AcademicSession) : Option AcademicSession → AcademicSession →
    CampusStmt → Prop where
  | resumed {existing next : AcademicSession} :
    (apply (CampusStmt.resumeSession existing.id) d).sessions.find existing.id = some next →
    Opened d created (some existing) next (.resumeSession existing.id)
  | created : Opened d created none created (.createSession created)

section Undisturbed

variable {run : InstitutionRun} {orgs : NewOrganizationsByOldId} {d : CampusDb}

theorem undisturbed_openNextSession (existing : Option AcademicSession) (created : AcademicSession) :
    Undisturbed (openNextSession existing created) d fun next F =>
      ∃ w, F = [w] ∧ Opened d created existing next w := by
  cases existing with
  | none => exact .exec_bind (.ret ⟨_, rfl, .created⟩)
  | some existing =>
    refine .exec_bind (.query_bind ?_)
    rw [← Prog.bind_ret (orThrow _ _)]
    exact .orThrow_bind fun next found => .ret ⟨_, rfl, .resumed found⟩

theorem undisturbed_cloneOrganization (o : Organization) :
    Undisturbed (cloneOrganization run o) d fun created F =>
      F = [.upsertOrganization (run.copy o)] ∧
        (applyAll F d).organizationBySlug run.institutionId (run.copy o).slug run.nextSession.id =
          some created := by
  refine .exec_bind (.query_bind ?_)
  rw [← Prog.bind_ret (orThrow _ _)]
  exact .orThrow_bind fun created found => .ret ⟨rfl, found⟩

theorem undisturbed_cloneOrganizations (os : List Organization) :
    Undisturbed (cloneOrganizations run os) d fun orgs F =>
      F = cloneStmts run os ∧ Cloned run d os orgs := by
  induction os generalizing d with
  | nil => exact .ret ⟨rfl, .nil d⟩
  | cons o os ih =>
    refine (undisturbed_cloneOrganization o).bind fun created F ⟨hF, found⟩ => ?_
    subst hF
    refine ih.bind fun rest F' ⟨hF', cloned⟩ => .ret ⟨?_, .cons found cloned⟩
    rw [hF', List.append_nil]
    rfl

theorem undisturbed_setParent (o : Organization) :
    Undisturbed (setParent orgs o) d fun _ F => F = (parentStmt orgs o).toList := by
  unfold setParent parentStmt
  refine .whenSome (fun parentId hp => ?_) fun none => by rw [none]; rfl
  refine .whenSome (fun created hc => ?_) fun none => by rw [hp, none]; rfl
  refine .whenSome (fun parent hq => .exec ?_) fun none => by rw [hp, hc]; simp [none]
  rw [hp, hc]
  simp [hq]

theorem undisturbed_moveMemberships (s : StudentProfile) (nextLevelId : String) :
    Undisturbed (moveMemberships run orgs s nextLevelId) d fun _ F =>
      F = run.moves orgs s nextLevelId d := by
  have round (p : PreviousMembership) (d : CampusDb) : Undisturbed (whenSome (destination orgs s nextLevelId p)
      fun o => (exec (.upsertMembership (run.joined s p o)) : CampusAction Unit)) d fun _ F =>
      F = ((destination orgs s nextLevelId p).map fun o =>
        CampusStmt.upsertMembership (run.joined s p o)).toList :=
    .whenSome (fun o found => .exec (by rw [found]; rfl)) fun none => by rw [none]; rfl
  refine .query_bind (.exec_bind ((Undisturbed.forEach round).mono fun _ F hF => ?_))
  rw [hF]
  rfl

theorem undisturbed_advanceStudent (summary : PromotionSummary) (s : StudentProfile) :
    Undisturbed (advanceStudent run orgs summary s) d fun after F =>
      after = (run.fate s).count summary ∧ F = run.advance orgs s d := by
  simp only [advanceStudent, InstitutionRun.advance, InstitutionRun.fate, fate]
  cases s.currentAcademicLevelId with
  | none => exact .ret ⟨rfl, rfl⟩
  | some levelId =>
    dsimp only
    cases (run.departmentLevels s.departmentId).findIdx? fun l => l.id = levelId with
    | none => exact .ret ⟨rfl, rfl⟩
    | some currentIndex =>
      dsimp only
      cases (run.departmentLevels s.departmentId)[currentIndex + 1]? with
      | none => exact .exec_bind (.ret ⟨rfl, rfl⟩)
      | some nextLevel =>
        refine .exec_bind (.exec_bind (.exec_bind ?_))
        refine (undisturbed_moveMemberships s nextLevel.id).bind fun _ F hF => .ret ⟨rfl, ?_⟩
        rw [hF, List.append_nil]
        rfl

theorem undisturbed_advanceStudents (summary : PromotionSummary) (ss : List StudentProfile) :
    Undisturbed (advanceStudents run orgs summary ss) d fun after F =>
      after = ss.foldl (fun summary s => (run.fate s).count summary) summary ∧
        F = run.advanceAll orgs ss d := by
  induction ss generalizing summary d with
  | nil => exact .ret ⟨rfl, rfl⟩
  | cons s ss ih =>
    refine (undisturbed_advanceStudent summary s).bind fun after F ⟨hafter, hF⟩ => ?_
    subst hafter hF
    exact (ih _).mono fun _ F' ⟨hafter, hF'⟩ => ⟨hafter, by rw [hF']; rfl⟩

end Undisturbed

/-! ## The transaction -/

/-- A run that is asked for. -/
structure PromoteInstitutionOp where
  institutionId : String
  userId : String
  dto : PromoteInstitutionDto
  ids : NewIds

def PromoteInstitutionOp.program (op : PromoteInstitutionOp) : CampusAction Unit :=
  promoteInstitution op.institutionId op.userId op.dto op.ids

/-- The students that a run considers. -/
def considered (d : CampusDb) (institutionId : String) : List StudentProfile :=
  d.students.rows.filter fun s => s.institutionId = institutionId ∧ s.academicStatus = .active

/-- The organizations that a run copies. -/
def sources (d : CampusDb) (institutionId sessionId : String) : List Organization :=
  d.organizations.rows.filter fun o => o.institutionId = some institutionId ∧
    o.academicSessionId = some sessionId

/-- The levels that a run goes by. -/
def consideredLevels (d : CampusDb) (institutionId : String) : List AcademicLevel :=
  (d.levels.rows.filter fun l => l.departmentId ∈ (considered d institutionId).map StudentProfile.departmentId ∧
    l.isActive).insertionSort AcademicLevel.le

/-- The state in which the next session is open. -/
def sessionsOpened (institutionId : String) (current next : AcademicSession) (opening : CampusStmt)
    (d : CampusDb) : CampusDb :=
  applyAll [.claimSession current.id institutionId, opening, .retireSessions institutionId next.id] d

/-- What a run has read in `d`, and what it has opened and copied. -/
structure RolledOver (d : CampusDb) (op : PromoteInstitutionOp) (run : InstitutionRun)
    (orgs : NewOrganizationsByOldId) (opening : CampusStmt) : Prop where
  institutionId : run.institutionId = op.institutionId
  current : d.sessions.findFirst (fun s => s.id = op.dto.currentSessionId ∧
    s.institutionId = op.institutionId ∧ s.scope = .institution ∧ s.isCurrent) = some run.currentSession
  named : ∃ s e, years run.currentSession.name = some (s, e) ∧
    Opened (apply (CampusStmt.claimSession run.currentSession.id op.institutionId) d)
      (newSession op.institutionId (sessionName (s + 1) (e + 1)) op.ids.session run.currentSession)
      (d.sessions.findFirst fun r => r.institutionId = op.institutionId ∧
        r.name = sessionName (s + 1) (e + 1) ∧ r.scope = .institution) run.nextSession opening
  levels : run.levels = consideredLevels d op.institutionId
  ids : run.ids = op.ids
  cloned : Cloned run (sessionsOpened op.institutionId run.currentSession run.nextSession opening d)
    (sources d op.institutionId run.currentSession.id) orgs

/-- The statements of a run. -/
def rollOverStmts (d : CampusDb) (run : InstitutionRun) (orgs : NewOrganizationsByOldId)
    (opening : CampusStmt) : List CampusStmt :=
  let heads := [.claimSession run.currentSession.id run.institutionId, opening,
    .retireSessions run.institutionId run.nextSession.id]
  let organizations := sources d run.institutionId run.currentSession.id
  let copies := cloneStmts run organizations ++ organizations.flatMap fun o => (parentStmt orgs o).toList
  let students := run.advanceAll orgs (considered d run.institutionId) (applyAll (heads ++ copies) d)
  let summary := (considered d run.institutionId).foldl (fun summary s => (run.fate s).count summary) {}
  heads ++ copies ++ students ++ [.logInstitutionPromotion
    ⟨run.institutionId, run.currentSession.id, run.nextSession.id, summary⟩]

/-- The state that a run leaves in place of `d`. -/
def Leaves (d : CampusDb) (op : PromoteInstitutionOp) (d' : CampusDb) : Prop :=
  ∃ run orgs opening, RolledOver d op run orgs opening ∧
    violation (rollOverStmts d run orgs opening) d = none ∧
    d' = applyAll (rollOverStmts d run orgs opening) d

/-- The transaction of a run adds the statements of a run. -/
theorem undisturbed_rollOver {d : CampusDb} {make : AcademicSession → InstitutionRun} {current created : AcademicSession}
    {existing : Option AcademicSession} {institutionId : String}
    (same : ∀ next, (make next).currentSession = current ∧ (make next).institutionId = institutionId ∧
      (make next).nextSession = next) :
    Undisturbed (rollOver make current existing created (considered d institutionId)
        (sources d institutionId current.id) institutionId) d fun run F =>
      ∃ next opening orgs, run = make next ∧
        Opened (apply (CampusStmt.claimSession current.id institutionId) d) created existing next opening ∧
        Cloned run (sessionsOpened institutionId current next opening d)
          (sources d institutionId current.id) orgs ∧
        F = rollOverStmts d run orgs opening := by
  refine .exec_bind ((undisturbed_openNextSession existing created).bind ?_)
  rintro next F ⟨opening, rfl, opened⟩
  refine .exec_bind ((undisturbed_cloneOrganizations _).bind ?_)
  rintro orgs F ⟨rfl, cloned⟩
  refine (Undisturbed.forEach fun o _ => undisturbed_setParent o).bind ?_
  rintro - F rfl
  refine (undisturbed_advanceStudents {} _).bind ?_
  rintro summary F ⟨rfl, rfl⟩
  refine .exec_bind (.ret ⟨next, opening, orgs, rfl, opened, cloned, ?_⟩)
  obtain ⟨hcurrent, hinstitution, hnext⟩ := same next
  simp only [rollOverStmts, hcurrent, hinstitution, hnext, applyAll_append, applyAll_cons, applyAll_nil,
    List.cons_append, List.nil_append, List.append_assoc]

/-! ## The run around it -/

/-- The session is not the current session of an institution. -/
def NotCurrent (sessionId : String) (d : CampusDb) : Prop :=
  ∀ s, d.sessions.find sessionId = some s → ¬(s.scope = .institution ∧ s.isCurrent)

section Commits

variable {α : Type} {rely : CampusDb → CampusDb → Prop}
  {Ψ : CampusDb → List CampusStmt → List CampusStmt → Prop} {Q : List CampusStmt → Prop}
  {s : CampusDb} {l : List CampusStmt}

theorem commits_getNextSessionName {name : String} {f : String → CampusAction α}
    (hf : ∀ a e, years name = some (a, e) → Commits rely Ψ Q s l (f (sessionName (a + 1) (e + 1)))) :
    Commits rely Ψ Q s l ((getNextSessionName name).bind f) := by
  unfold getNextSessionName
  simp only [bind_eq, Prog.bind_assoc]
  refine .orThrow_bind fun matched found => .ensure_bind fun _ => ?_
  exact hf matched.1 matched.2 found

theorem makes_createNotification (userId : String) :
    Makes Calls (NotificationService.createNotification userId) fun _ => True :=
  .request (fun _ => trivial) trivial

theorem makes_invalidate : Makes Calls CacheService.invalidate fun _ => True :=
  .request (fun _ => trivial) trivial

/-- What comes after the transaction writes nothing. -/
theorem commits_notifications (refl : ∀ d, rely d d) (trans : ∀ {a b c}, rely a b → rely b c → rely a c)
    (targets : List String) (hQ : Q l) :
    Commits rely Ψ Q s l (CacheService.invalidate.bind fun _ =>
      forEach targets fun userId => attempt do
        CacheService.invalidate
        NotificationService.createNotification userId) := by
  refine .makes_bind refl trans makes_invalidate fun d _ _ _ => ?_
  rw [← Prog.bind_ret (forEach _ _)]
  refine .makes_bind refl trans (.forEach fun userId _ => .attempt ?_) fun _ _ _ _ => .ret hQ
  exact makes_invalidate.bind fun _ _ => makes_createNotification userId

end Commits

theorem refused_of_notCurrent {d : CampusDb} {id institutionId : String} {F : List CampusStmt}
    (valid : violation (.claimSession id institutionId :: F) d = none) : ¬NotCurrent id d := by
  intro gone
  have claim : (CampusStmt.claimSession id institutionId).check d = none := (violation_cons.1 valid).1
  simp only [CampusStmt.check] at claim
  split at claim
  · rename_i current
    cases found : d.sessions.find id with
    | none => simp [found] at current
    | some s =>
      simp only [found, Option.any_some, decide_eq_true_eq] at current
      exact gone s found ⟨current.2.1, current.2.2⟩
  · cases claim

section Adds

variable {run : InstitutionRun} {orgs : NewOrganizationsByOldId} {P : Event CampusStmt CampusCall CampusCall.Reply → Prop}

theorem adds_exec (w : CampusStmt) : Adds P (exec w : CampusAction Unit) fun _ _ => True := .exec trivial

theorem adds_openNextSession (existing : Option AcademicSession) (created : AcademicSession) :
    Adds P (openNextSession existing created) fun _ _ => True := by
  cases existing with
  | none => exact (adds_exec _).bind fun _ _ _ => .ret trivial
  | some existing =>
    refine (adds_exec _).bind fun _ _ _ => .query_bind fun _ => ?_
    exact .of_makes (.orThrow (S := fun _ => True) fun _ _ => trivial) fun _ _ => trivial

theorem adds_cloneOrganizations (os : List Organization) :
    Adds P (cloneOrganizations run os) fun _ _ => True := by
  induction os with
  | nil => exact .ret trivial
  | cons o os ih =>
    have first : Adds P (cloneOrganization run o) fun _ _ => True := by
      refine (adds_exec _).bind fun _ _ _ => .query_bind fun _ => ?_
      exact .of_makes (.orThrow (S := fun _ => True) fun _ _ => trivial) fun _ _ => trivial
    exact first.bind fun _ _ _ => ih.bind fun _ _ _ => .ret trivial

theorem adds_whenSome {α : Type} {o : Option α} {f : α → CampusAction Unit}
    (hf : ∀ a, Adds P (f a) fun _ _ => True) : Adds P (whenSome o f) fun _ _ => True := by
  cases o with
  | none => exact .ret trivial
  | some a => exact hf a

theorem adds_setParent (o : Organization) : Adds P (setParent orgs o) fun _ _ => True :=
  adds_whenSome fun _ => adds_whenSome fun _ => adds_whenSome fun _ => adds_exec _

theorem adds_advanceStudent (summary : PromotionSummary) (s : StudentProfile) :
    Adds P (advanceStudent run orgs summary s) fun _ _ => True := by
  unfold advanceStudent
  split
  · exact .ret trivial
  · split
    · exact .ret trivial
    · split
      · exact (adds_exec _).bind fun _ _ _ => .ret trivial
      · refine (adds_exec _).bind fun _ _ _ => (adds_exec _).bind fun _ _ _ => (adds_exec _).bind fun _ _ _ => ?_
        have moved (nextLevelId : String) : Adds P (moveMemberships run orgs s nextLevelId) fun _ _ => True :=
          .query_bind fun _ => (adds_exec _).bind fun _ _ _ => .forEach fun _ _ => adds_whenSome fun _ => adds_exec _
        exact (moved _).bind fun _ _ _ => .ret trivial

theorem adds_advanceStudents (summary : PromotionSummary) (ss : List StudentProfile) :
    Adds P (advanceStudents run orgs summary ss) fun _ _ => True := by
  induction ss generalizing summary with
  | nil => exact .ret trivial
  | cons s ss ih => exact (adds_advanceStudent summary s).bind fun _ _ _ => ih _

theorem adds_rollOver {make : AcademicSession → InstitutionRun} {current created : AcademicSession}
    {existing : Option AcademicSession} {ss : List StudentProfile} {os : List Organization}
    {institutionId : String} :
    Adds P (rollOver make current existing created ss os institutionId) fun _ F =>
      ∃ rest, F = .claimSession current.id institutionId :: rest := by
  refine .exec_bind ?_
  refine Adds.mono (G := fun _ _ => True) ?_ fun _ F _ => ⟨F, rfl⟩
  refine (adds_openNextSession _ _).bind fun _ _ _ => (adds_exec _).bind fun _ _ _ => ?_
  refine (adds_cloneOrganizations _).bind fun _ _ _ => ?_
  refine (Adds.forEach fun _ _ => adds_setParent _).bind fun _ _ _ => ?_
  exact (adds_advanceStudents _ _).bind fun _ _ _ => (adds_exec _).bind fun _ _ _ => .ret trivial

end Adds

theorem claims_promoteInstitution (op : PromoteInstitutionOp) (db : CampusDb) :
    Claims (NotCurrent op.dto.currentSessionId) (Leaves db op) db op.program where
  alone := by
    unfold PromoteInstitutionOp.program promoteInstitution
    simp only [bind_eq]
    refine .outside_bind ?_
    rintro _ _ rfl rfl
    refine .outside_bind ?_
    rintro _ _ rfl rfl
    refine .outside_bind ?_
    rintro _ _ rfl rfl
    refine .orThrow_bind fun _ _ => .orThrow_bind fun _ _ => .orThrow_bind fun current found => ?_
    refine commits_getNextSessionName fun a e named => .outside_bind ?_
    rintro _ _ rfl rfl
    refine .outside_bind ?_
    rintro _ _ rfl rfl
    refine .outside_bind ?_
    rintro _ _ rfl rfl
    refine .outside_bind ?_
    rintro _ _ rfl rfl
    refine .query_bind ?_
    rintro _ rfl
    refine .undisturbed_bind (undisturbed_rollOver fun _ => ⟨rfl, rfl, rfl⟩) ?_
    rintro run F ⟨next, opening, orgs, rfl, opened, cloned, rfl⟩ valid
    refine ⟨.inr ⟨rfl, _, orgs, opening, ?_, valid, rfl⟩, ?_⟩
    · exact ⟨rfl, found, ⟨a, e, named, opened⟩, rfl, rfl, cloned⟩
    · exact commits_notifications (fun _ => rfl) Eq.trans _ trivial
  claims := by
    have free := guarded_anything (D := CampusDb) fun _ : Event CampusStmt CampusCall CampusCall.Reply => False
    unfold PromoteInstitutionOp.program promoteInstitution
    simp only [bind_eq]
    refine .outside_bind fun _ _ _ _ => .outside_bind fun d _ _ _ => .outside_bind fun _ _ _ _ => ?_
    refine .orThrow_bind fun _ _ => .orThrow_bind fun _ _ => .orThrow_bind fun current found => ?_
    refine commits_getNextSessionName fun a e named => .outside_bind fun _ _ _ _ => ?_
    refine .outside_bind fun _ _ _ _ => .outside_bind fun _ _ _ _ => .outside_bind fun _ _ _ _ => ?_
    refine .query_bind fun _ _ => .transaction_bind free adds_rollOver ?_
    rintro d run F - ⟨rest, rfl⟩ valid
    have own : current.id = op.dto.currentSessionId := by
      have := List.find?_some found
      simp only [decide_eq_true_eq] at this
      exact this.1
    refine ⟨.inr (own ▸ refused_of_notCurrent valid), ?_⟩
    exact commits_notifications (fun _ => trivial) (fun _ _ => trivial) _ (List.cons_ne_nil _ _)

/-! ## The sessions it leaves -/

/-- A statement on organizations, students and what belongs to them. -/
def CampusStmt.LeavesSessions (w : CampusStmt) : Prop := ∀ d, (w.apply d).sessions = d.sessions

theorem leavesSessions_upsertOrganization (o : Organization) :
    (CampusStmt.upsertOrganization o).LeavesSessions := by
  intro d
  simp only [CampusStmt.apply]
  split <;> rfl

theorem leavesSessions_upsertMembership (m : Membership) : (CampusStmt.upsertMembership m).LeavesSessions := by
  intro d
  simp only [CampusStmt.apply]
  split <;> rfl

namespace InstitutionRun

variable {run : InstitutionRun} {orgs : NewOrganizationsByOldId}

theorem mem_moves {s : StudentProfile} {nextLevelId : String} {d : CampusDb} {w : CampusStmt}
    (mem : w ∈ run.moves orgs s nextLevelId d) :
    w = .leaveMemberships s.userId run.institutionId run.currentSession.id ∨
      ∃ p ∈ d.previousMemberships s.userId run.currentSession.id, ∃ o,
        destination orgs s nextLevelId p = some o ∧ w = .upsertMembership (run.joined s p o) := by
  obtain rfl | mem := List.mem_cons.1 mem
  · exact .inl rfl
  · obtain ⟨p, hp, mem⟩ := List.mem_flatMap.1 mem
    rw [Option.mem_toList, Option.map_eq_some_iff] at mem
    obtain ⟨o, ho, rfl⟩ := mem
    exact .inr ⟨p, hp, o, ho, rfl⟩

theorem leavesSessions_advance {s : StudentProfile} {d : CampusDb} {w : CampusStmt}
    (mem : w ∈ run.advance orgs s d) : w.LeavesSessions := by
  unfold advance at mem
  split at mem
  · cases mem
  · rw [List.mem_singleton.1 mem]
    exact fun _ => rfl
  · obtain mem | mem := List.mem_append.1 mem
    · simp only [List.mem_cons, List.not_mem_nil, or_false] at mem
      obtain rfl | rfl | rfl := mem <;> exact fun _ => rfl
    · obtain rfl | ⟨p, -, o, -, rfl⟩ := mem_moves mem
      · exact fun _ => rfl
      · exact leavesSessions_upsertMembership _

theorem leavesSessions_advanceAll {ss : List StudentProfile} {d : CampusDb} {w : CampusStmt}
    (mem : w ∈ run.advanceAll orgs ss d) : w.LeavesSessions := by
  induction ss generalizing d with
  | nil => cases mem
  | cons s ss ih =>
    obtain mem | mem := List.mem_append.1 mem
    · exact leavesSessions_advance mem
    · exact ih mem

end InstitutionRun

theorem mem_parentStmt {orgs : NewOrganizationsByOldId} {o : Organization} {w : CampusStmt}
    (mem : w ∈ (parentStmt orgs o).toList) :
    ∃ parentId created parent, o.parentOrganizationId = some parentId ∧ orgs.lookup o.id = some created ∧
      orgs.lookup parentId = some parent ∧
      w = .updateOrganization created.id none { parentOrganizationId := some parent.id } := by
  rw [Option.mem_toList] at mem
  simp only [parentStmt, Option.bind_eq_bind, Option.bind_eq_some_iff] at mem
  obtain ⟨parentId, hp, created, hc, parent, hq, same⟩ := mem
  exact ⟨parentId, created, parent, hp, hc, hq, (Option.some.inj same).symm⟩

section Sessions

variable {d : CampusDb} {op : PromoteInstitutionOp} {run : InstitutionRun} {orgs : NewOrganizationsByOldId}
  {opening : CampusStmt}

/-- Only the head of the statements concerns the sessions. -/
theorem sessions_rollOverStmts (d' : CampusDb) :
    (applyAll (rollOverStmts d run orgs opening) d').sessions =
      (sessionsOpened run.institutionId run.currentSession run.nextSession opening d').sessions := by
  have rest {F : List CampusStmt} (h : ∀ w ∈ F, w.LeavesSessions) (d : CampusDb) :
      (applyAll F d).sessions = d.sessions := applyAll_keeps CampusDb.sessions h d
  unfold rollOverStmts
  simp only [applyAll_append, List.append_assoc]
  rw [rest fun w mem => by rw [List.mem_singleton.1 mem]; exact fun _ => rfl]
  rw [rest fun w mem => InstitutionRun.leavesSessions_advanceAll mem]
  rw [rest fun w mem => ?_, rest fun w mem => ?_]
  · rfl
  · obtain ⟨o, -, rfl⟩ := List.mem_map.1 mem
    exact leavesSessions_upsertOrganization _
  · obtain ⟨o, -, mem⟩ := List.mem_flatMap.1 mem
    obtain ⟨parentId, created, parent, -, -, -, rfl⟩ := mem_parentStmt mem
    exact fun _ => rfl

theorem RolledOver.current_row (h : RolledOver d op run orgs opening) :
    d.sessions.find run.currentSession.id = some run.currentSession ∧
      run.currentSession.id = op.dto.currentSessionId ∧
      run.currentSession.institutionId = op.institutionId ∧ run.currentSession.scope = .institution ∧
      run.currentSession.isCurrent = true := by
  have current := List.find?_some h.current
  simp only [decide_eq_true_eq] at current
  exact ⟨Table.find_of_mem (List.mem_of_find?_eq_some h.current), current⟩

theorem find_claimSession (id institutionId j : String) (d : CampusDb) :
    ((CampusStmt.claimSession id institutionId).apply d).sessions.find j =
      if j = id then (d.sessions.find j).map AcademicSession.complete else d.sessions.find j :=
  Table.find_modify d.sessions id AcademicSession.complete (fun _ => rfl) j

theorem find_resumeSession (id j : String) (d : CampusDb) :
    ((CampusStmt.resumeSession id).apply d).sessions.find j =
      if j = id then (d.sessions.find j).map AcademicSession.resume else d.sessions.find j :=
  Table.find_modify d.sessions id AcademicSession.resume (fun _ => rfl) j

theorem find_createSession {s : AcademicSession} {d : CampusDb} (free : d.sessions.find s.id = none) (j : String) :
    ((CampusStmt.createSession s).apply d).sessions.find j =
      if s.id = j then some s else d.sessions.find j :=
  Table.find_insert free j

/-- The session is open, and it is one of the institution as a whole. -/
def OpenFor (institutionId : String) (s : AcademicSession) : Prop :=
  s.institutionId = institutionId ∧ s.scope = .institution ∧ s.isCurrent = true

/-- The next session is open, and the current one is closed. -/
structure Changed (institutionId : String) (current next : AcademicSession) (d : CampusDb) : Prop where
  found : d.sessions.find next.id = some next
  closed : d.sessions.find current.id = some current.complete
  other : next.id ≠ current.id
  isOpen : OpenFor institutionId next

theorem Opened.changed {d₁ : CampusDb} {institutionId : String} {current created next : AcademicSession}
    {existing : Option AcademicSession} {w : CampusStmt} (opened : Opened d₁ created existing next w)
    (allowed : w.check d₁ = none) (closed : d₁.sessions.find current.id = some current.complete)
    (resumable : ∀ s ∈ existing, d₁.sessions.find s.id = some s ∧ s.id ≠ current.id ∧
      s.institutionId = institutionId ∧ s.scope = .institution)
    (creatable : OpenFor institutionId created) : Changed institutionId current next (w.apply d₁) := by
  cases opened with
  | @resumed existing next found =>
    obtain ⟨row, other, institution, scope⟩ := resumable existing rfl
    have resumed : some existing.resume = some next := by
      rw [← found]
      show _ = ((CampusStmt.resumeSession existing.id).apply d₁).sessions.find existing.id
      rw [find_resumeSession, if_pos rfl, row]
      rfl
    obtain rfl := Option.some.inj resumed
    refine ⟨found, ?_, other, institution, scope, rfl⟩
    rw [find_resumeSession, if_neg other.symm, closed]
  | created =>
    have free : d₁.sessions.find created.id = none := by
      simp only [CampusStmt.check, CampusStmt.unique] at allowed
      split at allowed
      · cases allowed
      · rename_i free
        exact Option.not_isSome_iff_eq_none.1 fun taken => free (.inl taken)
    have other : created.id ≠ current.id := by
      intro same
      rw [same, closed] at free
      cases free
    refine ⟨?_, ?_, other, creatable⟩
    · rw [find_createSession free, if_pos rfl]
    · rw [find_createSession free, if_neg other, closed]

theorem RolledOver.changed (h : RolledOver d op run orgs opening)
    (valid : violation (rollOverStmts d run orgs opening) d = none) :
    Changed op.institutionId run.currentSession run.nextSession
      (opening.apply ((CampusStmt.claimSession run.currentSession.id op.institutionId).apply d)) := by
  obtain ⟨current, -⟩ := h.current_row
  obtain ⟨a, e, named, opened⟩ := h.named
  refine opened.changed ?_ ?_ ?_ ⟨rfl, rfl, rfl⟩
  · rw [← h.institutionId]
    exact (violation_cons.1 (violation_cons.1 valid).2).1
  · show ((CampusStmt.claimSession run.currentSession.id op.institutionId).apply d).sessions.find _ = _
    rw [find_claimSession, if_pos rfl, current]
    rfl
  · intro s found
    have same := List.find?_some found
    simp only [decide_eq_true_eq] at same
    obtain ⟨institution, name, scope⟩ := same
    have row : d.sessions.find s.id = some s := Table.find_of_mem (List.mem_of_find?_eq_some found)
    -- the next session has another name, so it is another row
    have other : s.id ≠ run.currentSession.id := by
      intro same
      rw [same, current] at row
      rw [← Option.some.inj row] at name
      exact sessionName_ne named name.symm
    refine ⟨?_, other, institution, scope⟩
    show ((CampusStmt.claimSession run.currentSession.id op.institutionId).apply d).sessions.find _ = _
    rw [find_claimSession, if_neg other, row]

/-- Once the others are retired, the next session is the only one that is open. -/
theorem Changed.retired {institutionId : String} {current next : AcademicSession} {d : CampusDb}
    (h : Changed institutionId current next d) :
    let d' := (CampusStmt.retireSessions institutionId next.id).apply d
    NotCurrent current.id d' ∧ d'.sessions.find next.id = some next ∧
      ∀ s ∈ d'.sessions.rows, OpenFor institutionId s → s = next := by
  have find (id : String) : ((CampusStmt.retireSessions institutionId next.id).apply d).sessions.find id =
      (d.sessions.find id).map (AcademicSession.retire institutionId next.id) :=
    Table.find_mapRows d.sessions _ (AcademicSession.retire_id institutionId next.id) id
  have kept : next.retire institutionId next.id = next := if_neg fun h => h.2.2.1 rfl
  have next_row : ((CampusStmt.retireSessions institutionId next.id).apply d).sessions.find next.id = some next := by
    rw [find, h.found, Option.map_some, kept]
  refine ⟨?_, next_row, ?_⟩
  · intro s found
    rw [find, h.closed, Option.map_some, Option.some.injEq] at found
    subst found
    rintro ⟨-, isCurrent⟩
    unfold AcademicSession.retire at isCurrent
    split at isCurrent <;> cases isCurrent
  · intro s mem isOpen
    obtain ⟨r, -, rfl⟩ := List.mem_map.1 mem
    have same : (r.retire institutionId next.id).id = next.id := by
      obtain ⟨institution, scope, isCurrent⟩ := isOpen
      unfold AcademicSession.retire at institution scope isCurrent ⊢
      split at isCurrent
      · cases isCurrent
      · rename_i untouched
        rw [if_neg untouched] at institution scope ⊢
        by_contra other
        exact untouched ⟨institution, scope, other, isCurrent⟩
    exact Table.eq_of_key mem (Table.find_mem next_row) same

/-- **One current session**: a run leaves the next session as the only one that is
open for the institution. -/
theorem RolledOver.sessions (h : RolledOver d op run orgs opening)
    (valid : violation (rollOverStmts d run orgs opening) d = none) :
    let d' := applyAll (rollOverStmts d run orgs opening) d
    NotCurrent op.dto.currentSessionId d' ∧ run.nextSession ∈ d'.sessions.rows ∧
      OpenFor op.institutionId run.nextSession ∧
      ∀ s ∈ d'.sessions.rows, OpenFor op.institutionId s → s = run.nextSession := by
  have changed := h.changed valid
  obtain ⟨closed, next, only⟩ := changed.retired
  have same : (applyAll (rollOverStmts d run orgs opening) d).sessions = _ :=
    sessions_rollOverStmts d
  rw [h.institutionId] at same
  obtain ⟨-, own, -⟩ := h.current_row
  intro d'
  refine ⟨fun s found => ?_, ?_, changed.isOpen, ?_⟩
  · rw [same, ← own] at found
    exact closed s found
  · rw [same]
    exact Table.find_mem next
  · rw [same]
    exact only

end Sessions

/-- **At most one run**: of any number of runs on one session at most one commits, and
it leaves what it would have left alone; no other returns. -/
theorem Reaches.rolledOver {db : CampusDb} {x : Surroundings} {ops : List PromoteInstitutionOp}
    {sessionId : String} {c : CampusSystem} {P : CampusSystem → Effect CampusStmt CampusCall → Prop}
    (run : Reaches P (Config.start db x (ops.map PromoteInstitutionOp.program)) c)
    (same : ∀ op ∈ ops, op.dto.currentSessionId = sessionId) :
    c.db = db ∧ (∀ i, ¬c.Returned i) ∨
      ∃ (i : Nat) (op : PromoteInstitutionOp), ops[i]? = some op ∧ Leaves db op c.db ∧
        ∀ j, c.Returned j → j = i := by
  have claims (i : Nat) (p : CampusAction Unit) (hi : (ops.map PromoteInstitutionOp.program)[i]? = some p) :
      Claims (NotCurrent sessionId) (fun d => ∃ op, ops[i]? = some op ∧ Leaves db op d) db p := by
    rw [List.getElem?_map, Option.map_eq_some_iff] at hi
    obtain ⟨op, hop, rfl⟩ := hi
    have claims := claims_promoteInstitution op db
    rw [same op (List.mem_of_getElem? hop)] at claims
    exact ⟨fun past hl => (claims.alone.mono (fun d => ⟨d, rfl⟩)
      (fun _ _ _ h => ⟨h.1, op, hop, h.2⟩) fun _ h => h) past hl, claims.claims⟩
  have off (i : Nat) (d : CampusDb) (left : ∃ op, ops[i]? = some op ∧ Leaves db op d) :
      NotCurrent sessionId d := by
    obtain ⟨op, hop, run, orgs, opening, rolled, valid, rfl⟩ := left
    rw [← same op (List.mem_of_getElem? hop)]
    exact (rolled.sessions valid).1
  obtain none | ⟨i, -, ⟨op, hop, left⟩, only⟩ := run.of_claim claims off
  · exact .inl none
  · exact .inr ⟨i, op, hop, left, only⟩

end Heightt.Campus
