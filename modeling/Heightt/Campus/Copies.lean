import Heightt.Campus.Memberships

/-!
# The organizations of the next session

A run finds or creates the copy of an organization under a slug that it derives from
the organization's own. Two organizations whose derived slugs are the same share a
copy (`organizations_follow_iff`).
-/

namespace Heightt.Campus

open Store ReadCommitted Prog Database PromotionService

/-! ## Finding or creating a copy -/

namespace InstitutionRun

/-- The organization of the next session with the slug. -/
def bySlug (run : InstitutionRun) (d : CampusDb) (slug : String) : Option Organization :=
  d.organizationBySlug run.institutionId slug run.nextSession.id

/-- What the copy of an organization will be: one that is there already, or a new row. -/
def twin (run : InstitutionRun) (d : CampusDb) (o : Organization) : Organization :=
  (run.bySlug d (run.copy o).slug).getD (run.copy o)

end InstitutionRun

section Clone

variable {run : InstitutionRun} {d : CampusDb} {o : Organization} {orgs : NewOrganizationsByOldId}

theorem bySlug_some {slug : String} {c : Organization} (found : run.bySlug d slug = some c) :
    d.organizations.find c.id = some c ∧ c.slug = slug ∧ c.academicSessionId = some run.nextSession.id := by
  have own := List.find?_some found
  simp only [decide_eq_true_eq] at own
  exact ⟨Table.find_of_mem (List.mem_of_find?_eq_some found), own.2⟩

/-- A copy is there already, or it is created. -/
theorem upsert_copy (allowed : (CampusStmt.upsertOrganization (run.copy o)).check d = none) :
    (run.bySlug d (run.copy o).slug).isSome ∧ (CampusStmt.upsertOrganization (run.copy o)).apply d = d ∨
      run.bySlug d (run.copy o).slug = none ∧ d.organizations.find (run.copy o).id = none ∧
      ((CampusStmt.upsertOrganization (run.copy o)).apply d).organizations =
        d.organizations.insert (run.copy o) := by
  have same : (run.bySlug d (run.copy o).slug).isSome = d.organizations.rows.any fun r =>
      r.institutionId = (run.copy o).institutionId ∧ r.slug = (run.copy o).slug ∧
        r.academicSessionId = (run.copy o).academicSessionId := by
    rw [Bool.eq_iff_iff, List.any_eq_true]
    exact List.find?_isSome
  simp only [CampusStmt.apply, CampusStmt.check, CampusStmt.unique] at allowed ⊢
  rw [← same] at allowed ⊢
  cases found : run.bySlug d (run.copy o).slug with
  | some c => exact .inl ⟨rfl, by rw [Option.isSome_some, if_pos rfl]⟩
  | none =>
    refine .inr ⟨rfl, ?_, by rw [Option.isSome_none, if_neg (by simp)]⟩
    cases taken : d.organizations.find (run.copy o).id with
    | none => rfl
    | some r => simp [found, taken] at allowed

theorem bySlug_upsert (allowed : (CampusStmt.upsertOrganization (run.copy o)).check d = none) (slug : String) :
    run.bySlug ((CampusStmt.upsertOrganization (run.copy o)).apply d) slug =
      (run.bySlug d slug).or (if slug = (run.copy o).slug then some (run.copy o) else none) := by
  obtain ⟨found, same⟩ | ⟨none, free, inserted⟩ := upsert_copy allowed
  · rw [same]
    by_cases own : slug = (run.copy o).slug
    · subst own
      obtain ⟨c, found⟩ := Option.isSome_iff_exists.1 found
      rw [found]
      rfl
    · rw [if_neg own, Option.or_none]
  · show ((CampusStmt.upsertOrganization (run.copy o)).apply d).organizations.findFirst _ = _
    rw [inserted, Table.findFirst_insert free]
    refine congrArg (Option.or _) ?_
    by_cases own : slug = (run.copy o).slug
    · rw [if_pos own, if_pos]
      simp [InstitutionRun.copy, own]
    · rw [if_neg own, if_neg]
      simpa [InstitutionRun.copy] using Ne.symm own

theorem bySlug_stays {os : List Organization} {slug : String} {c : Organization}
    (valid : violation (cloneStmts run os) d = none) (found : run.bySlug d slug = some c) :
    run.bySlug (applyAll (cloneStmts run os) d) slug = some c := by
  induction os generalizing d with
  | nil => exact found
  | cons o os ih =>
    obtain ⟨allowed, valid⟩ := violation_cons.1 valid
    refine ih valid ?_
    have := bySlug_upsert allowed slug
    rw [found] at this
    exact this

/-- The copies that are found are those that the last of the statements leaves. -/
theorem Cloned.found {os : List Organization} (cloned : Cloned run d os orgs)
    (valid : violation (cloneStmts run os) d = none) :
    List.Forall₂ (fun o e => e.1 = o.id ∧
      run.bySlug (applyAll (cloneStmts run os) d) (run.copy o).slug = some e.2) os orgs := by
  induction cloned with
  | nil d => exact .nil
  | @cons d o created os orgs found cloned ih =>
    obtain ⟨-, valid⟩ := violation_cons.1 valid
    have stays : run.bySlug (applyAll (cloneStmts run os)
        ((CampusStmt.upsertOrganization (run.copy o)).apply d)) (run.copy o).slug = some created :=
      bySlug_stays valid found
    exact .cons ⟨rfl, stays⟩ (ih valid)

/-- Where the slugs are all different, each copy is the twin of its source. -/
theorem bySlug_twin {os : List Organization} (valid : violation (cloneStmts run os) d = none)
    (distinct : (os.map fun o => (run.copy o).slug).Nodup) (mem : o ∈ os) :
    run.bySlug (applyAll (cloneStmts run os) d) (run.copy o).slug = some (run.twin d o) := by
  induction os generalizing d with
  | nil => cases mem
  | cons first os ih =>
    obtain ⟨allowed, valid⟩ := violation_cons.1 valid
    rw [List.map_cons, List.nodup_cons] at distinct
    have step := bySlug_upsert allowed (run.copy o).slug
    obtain rfl | mem := List.mem_cons.1 mem
    · have own : run.bySlug ((CampusStmt.upsertOrganization (run.copy o)).apply d) (run.copy o).slug =
          some (run.twin d o) := by
        rw [step, if_pos rfl, InstitutionRun.twin]
        cases run.bySlug d (run.copy o).slug <;> rfl
      have stays : run.bySlug (applyAll (cloneStmts run os)
          ((CampusStmt.upsertOrganization (run.copy o)).apply d)) (run.copy o).slug = some (run.twin d o) :=
        bySlug_stays valid own
      exact stays
    · have other : (run.copy o).slug ≠ (run.copy first).slug := by
        intro same
        exact distinct.1 (same ▸ List.mem_map_of_mem mem)
      rw [if_neg other, Option.or_none] at step
      have rest := ih valid distinct.2 mem
      unfold InstitutionRun.twin at rest ⊢
      rw [← step]
      exact rest

theorem find_cloneStmts {os : List Organization} {id : String} {r : Organization}
    (valid : violation (cloneStmts run os) d = none) (found : d.organizations.find id = some r) :
    (applyAll (cloneStmts run os) d).organizations.find id = some r := by
  induction os generalizing d with
  | nil => exact found
  | cons first os ih =>
    obtain ⟨allowed, valid⟩ := violation_cons.1 valid
    refine ih valid ?_
    obtain ⟨-, same⟩ | ⟨-, free, inserted⟩ := upsert_copy allowed
    · show ((CampusStmt.upsertOrganization (run.copy first)).apply d).organizations.find id = _
      rw [same, found]
    · show ((CampusStmt.upsertOrganization (run.copy first)).apply d).organizations.find id = _
      rw [inserted, Table.find_insert free]
      by_cases own : (run.copy first).id = id
      · rw [own, found] at free
        cases free
      · rw [if_neg own, found]

end Clone

/-! ## The parents -/

/-- An organization but for its parent. -/
def Organization.orphaned (o : Organization) : Organization := { o with parentOrganizationId := none }

section Parents

variable {d : CampusDb} {orgs : NewOrganizationsByOldId} {os : List Organization}

theorem find_setParent (created : Organization) (parentId id : String) (d : CampusDb) :
    ((CampusStmt.updateOrganization created.id none { parentOrganizationId := some parentId }).apply d).organizations.find id =
      if id = created.id then
        (d.organizations.find id).map
          (OrganizationPatch.apply { parentOrganizationId := some parentId })
      else d.organizations.find id :=
  Table.find_modify d.organizations created.id
    (OrganizationPatch.apply { parentOrganizationId := some parentId }) (fun _ => rfl) id

/-- Nothing but parents changes. -/
theorem orphaned_parentStmts (id : String) (d : CampusDb) :
    ((applyAll (os.flatMap fun o => (parentStmt orgs o).toList) d).organizations.find id).map
        Organization.orphaned =
      (d.organizations.find id).map Organization.orphaned := by
  refine applyAll_keeps (fun d => (d.organizations.find id).map Organization.orphaned) (fun w mem d => ?_) d
  obtain ⟨o, -, mem⟩ := List.mem_flatMap.1 mem
  obtain ⟨parentId, created, parent, -, -, -, rfl⟩ := mem_parentStmt mem
  refine (congrArg (Option.map Organization.orphaned) (find_setParent created parent.id id d)).trans ?_
  split
  · rw [Option.map_map]
    rfl
  · rfl

/-- The parent of a row that no statement concerns. -/
theorem find_parentStmts {id : String} (other : ∀ o ∈ os, ∀ c, orgs.lookup o.id = some c → c.id ≠ id)
    (d : CampusDb) : (applyAll (os.flatMap fun o => (parentStmt orgs o).toList) d).organizations.find id =
      d.organizations.find id := by
  refine applyAll_keeps (fun d => d.organizations.find id) (fun w mem d => ?_) d
  obtain ⟨o, ho, mem⟩ := List.mem_flatMap.1 mem
  obtain ⟨parentId, created, parent, -, found, -, rfl⟩ := mem_parentStmt mem
  exact (find_setParent created parent.id id d).trans (if_neg (other o ho created found).symm)

/-- Where no two sources share a copy, the copy of an organization gets the copy of its parent. -/
theorem parent_parentStmts {o : Organization} {parentId : String} {c q r : Organization}
    (ids : (os.map Organization.id).Nodup) (mem : o ∈ os)
    (own : ∀ o' ∈ os, o'.id ≠ o.id → ∀ c', orgs.lookup o'.id = some c' → c'.id ≠ c.id)
    (parent : o.parentOrganizationId = some parentId) (hc : orgs.lookup o.id = some c)
    (hq : orgs.lookup parentId = some q) (hr : d.organizations.find c.id = some r) :
    (applyAll (os.flatMap fun o => (parentStmt orgs o).toList) d).organizations.find c.id =
      some { r with parentOrganizationId := some q.id } := by
  obtain ⟨before, after, rfl⟩ := List.append_of_mem mem
  rw [List.map_append, List.map_cons, List.nodup_append, List.nodup_cons] at ids
  have stmt : parentStmt orgs o = some (.updateOrganization c.id none { parentOrganizationId := some q.id }) := by
    simp [parentStmt, parent, hc, hq]
  rw [List.flatMap_append, List.flatMap_cons, stmt, applyAll_append, applyAll_append,
    find_parentStmts]
  · refine (find_setParent c q.id c.id _).trans ?_
    rw [if_pos rfl, find_parentStmts, hr]
    · rfl
    · intro o' ho'
      exact own o' (List.mem_append_left _ ho') fun same =>
        ids.2.2 _ (List.mem_map_of_mem ho') _ List.mem_cons_self same
  · intro o' ho'
    exact own o' (List.mem_append_right _ (List.mem_cons_of_mem _ ho')) fun same =>
      ids.2.1.1 (same ▸ List.mem_map_of_mem ho')

end Parents

/-! ## What a run makes of the organizations -/

/-- Where a run has put a source. -/
def target (orgs : NewOrganizationsByOldId) (oldId : String) : Option String :=
  (orgs.lookup oldId).map Organization.id

theorem lookup_of_forall₂ {os : List Organization} {orgs : NewOrganizationsByOldId}
    {R : Organization → Organization → Prop}
    (h : List.Forall₂ (fun o e => e.1 = o.id ∧ R o e.2) os orgs) (ids : (os.map Organization.id).Nodup) :
    (∀ o ∈ os, ∃ c, orgs.lookup o.id = some c ∧ R o c) ∧
      ∀ c ∈ orgs.map Prod.snd, ∃ o ∈ os, orgs.lookup o.id = some c ∧ R o c := by
  induction h with
  | nil => exact ⟨fun _ mem => (List.not_mem_nil mem).elim, fun _ mem => (List.not_mem_nil mem).elim⟩
  | @cons o e os orgs first rest ih =>
    rw [List.map_cons, List.nodup_cons] at ids
    obtain ⟨copies, sources⟩ := ih ids.2
    obtain ⟨oldId, c⟩ := e
    obtain ⟨rfl, own⟩ := first
    have head : ((o.id, c) :: orgs).lookup o.id = some c := List.lookup_cons_self
    have tail (o' : Organization) (mem : o' ∈ os) : ((o.id, c) :: orgs).lookup o'.id = orgs.lookup o'.id := by
      have other : (o'.id == o.id) = false := beq_eq_false_iff_ne.2 fun same =>
        ids.1 (same ▸ List.mem_map_of_mem mem)
      rw [List.lookup_cons, other]
    constructor
    · intro o' mem
      obtain rfl | mem := List.mem_cons.1 mem
      · exact ⟨c, head, own⟩
      · rw [tail o' mem]
        exact copies o' mem
    · intro c' mem
      obtain rfl | mem := List.mem_cons.1 mem
      · exact ⟨o, List.mem_cons_self, head, own⟩
      · obtain ⟨o', mem, found⟩ := sources c' mem
        refine ⟨o', List.mem_cons_of_mem o mem, ?_⟩
        rw [tail o' mem]
        exact found

/-- What a run has done to the organizations and the memberships of `d`; `d₂` has the
copies, but not their parents yet. -/
structure Copied (d : CampusDb) (run : InstitutionRun) (orgs : NewOrganizationsByOldId) (d₂ d' : CampusDb) :
    Prop where
  later : run.nextSession.id ≠ run.currentSession.id
  kept : ∀ id r, d.organizations.find id = some r → d₂.organizations.find id = some r
  copies : List.Forall₂ (fun o e => e.1 = o.id ∧ run.bySlug d₂ (run.copy o).slug = some e.2)
    (sources d run.institutionId run.currentSession.id) orgs
  twins : ((sources d run.institutionId run.currentSession.id).map fun o => (run.copy o).slug).Nodup →
    ∀ o ∈ sources d run.institutionId run.currentSession.id,
      run.bySlug d₂ (run.copy o).slug = some (run.twin d o)
  memberships : d₂.memberships = d.memberships
  moved : MovedAll run orgs (considered d run.institutionId)
    (applyAll ((sources d run.institutionId run.currentSession.id).flatMap fun o =>
      (parentStmt orgs o).toList) d₂) d'

/-- The organizations and the memberships. -/
def CampusDb.social (d : CampusDb) :
    Table Organization String Organization.id × Table Membership String Membership.id :=
  (d.organizations, d.memberships)

theorem Opened.social {d : CampusDb} {created next : AcademicSession} {existing : Option AcademicSession}
    {w : CampusStmt} (opened : Opened d created existing next w) (d' : CampusDb) :
    (w.apply d').social = d'.social := by
  cases opened with
  | resumed => rfl
  | created => rfl

theorem RolledOver.copied {d : CampusDb} {op : PromoteInstitutionOp} {run : InstitutionRun}
    {orgs : NewOrganizationsByOldId} {opening : CampusStmt} (h : RolledOver d op run orgs opening)
    (users : (d.students.rows.map StudentProfile.userId).Nodup)
    (valid : violation (rollOverStmts d run orgs opening) d = none) :
    ∃ d₂, Copied d run orgs d₂ (applyAll (rollOverStmts d run orgs opening) d) := by
  obtain ⟨a, e, -, opened⟩ := h.named
  have later := (h.changed valid).other
  let os := sources d run.institutionId run.currentSession.id
  have cloned := h.cloned
  rw [← h.institutionId] at cloned
  generalize hd₁ : sessionsOpened run.institutionId run.currentSession run.nextSession opening d = d₁ at cloned
  have social : d₁.social = d.social := by
    rw [← hd₁]
    exact opened.social _
  have organizations : d₁.organizations = d.organizations := congrArg Prod.fst social
  have split : rollOverStmts d run orgs opening = [.claimSession run.currentSession.id run.institutionId,
      opening, .retireSessions run.institutionId run.nextSession.id] ++ (cloneStmts run os ++
        ((os.flatMap fun o => (parentStmt orgs o).toList) ++
          (run.advanceAll orgs (considered d run.institutionId)
              (applyAll (os.flatMap fun o => (parentStmt orgs o).toList) (applyAll (cloneStmts run os) d₁)) ++
            [.logInstitutionPromotion ⟨run.institutionId, run.currentSession.id, run.nextSession.id,
              (considered d run.institutionId).foldl (fun summary s => (run.fate s).count summary) {}⟩]))) := by
    simp only [rollOverStmts, applyAll_append, List.append_assoc]
    rw [← hd₁]
    rfl
  rw [split] at valid ⊢
  have heads : applyAll [.claimSession run.currentSession.id run.institutionId, opening,
    .retireSessions run.institutionId run.nextSession.id] d = d₁ := hd₁
  simp only [violation_append, applyAll_append, heads] at valid ⊢
  obtain ⟨-, clones, -, students, -⟩ := valid
  have sameSlug (slug : String) : run.bySlug d₁ slug = run.bySlug d slug :=
    congrArg (fun t : Table Organization String Organization.id => t.findFirst _) organizations
  have considered_users : ((considered d run.institutionId).map StudentProfile.userId).Nodup :=
    users.sublist (List.filter_sublist.map _)
  have moved := movedAll_advanceAll (considered d run.institutionId) considered_users _ students
  refine ⟨applyAll (cloneStmts run os) d₁, later, ?_, cloned.found clones, ?_, ?_, ?_⟩
  · intro id r found
    exact find_cloneStmts clones (organizations ▸ found)
  · intro distinct o mem
    rw [bySlug_twin clones distinct mem, InstitutionRun.twin, sameSlug, InstitutionRun.twin]
  · refine (applyAll_keeps CampusDb.memberships (fun w mem d => ?_) d₁).trans (congrArg Prod.snd social)
    obtain ⟨o, -, rfl⟩ := List.mem_map.1 mem
    show ((CampusStmt.upsertOrganization _).apply d).memberships = _
    simp only [CampusStmt.apply]
    split <;> rfl
  · exact ⟨fun s mem f t own => ⟨(moved.moved s mem f t own).joined, (moved.moved s mem f t own).left⟩,
      moved.others, moved.distinct, moved.organizations⟩

/-! ## Following the organizations -/

/-- The organization `t` of the next session corresponds to the source `o`, for a student
who goes to the level: a LEVEL organization to one of that level, any other to its copy. -/
def Corresponds (d d' : CampusDb) (run : InstitutionRun) (orgs : NewOrganizationsByOldId)
    (s : StudentProfile) (toLevelId : String) (o : Organization) (t : String) : Prop :=
  if o.type = .level then
    ∃ o' ∈ sources d run.institutionId run.currentSession.id, target orgs o'.id = some t ∧
      ∃ r, d'.organizations.find t = some r ∧ r.type = .level ∧ r.academicLevelId = some toLevelId ∧
        r.departmentId = some s.departmentId
  else target orgs o.id = some t

/-- The user's ACTIVE memberships in the organization. -/
def activeIn (d : CampusDb) (organizationId userId : String) : List Membership :=
  (userRows d userId).filter fun m => m.organizationId = organizationId ∧ m.status = .active

/-- The organizations are carried over to the next session, and the members follow. -/
structure CarriesOver (d d' : CampusDb) (run : InstitutionRun) (orgs : NewOrganizationsByOldId) : Prop where
  mapped : ∀ o ∈ sources d run.institutionId run.currentSession.id, (target orgs o.id).isSome
  injective : ∀ o ∈ sources d run.institutionId run.currentSession.id,
    ∀ o' ∈ sources d run.institutionId run.currentSession.id, target orgs o.id = target orgs o'.id → o = o'
  parents : ∀ o ∈ sources d run.institutionId run.currentSession.id,
    ∀ p ∈ sources d run.institutionId run.currentSession.id, o.parentOrganizationId = some p.id →
      ∃ t r, target orgs o.id = some t ∧ d'.organizations.find t = some r ∧
        r.parentOrganizationId = target orgs p.id
  moved : ∀ s ∈ considered d run.institutionId, ∀ fromLevelId toLevelId,
    run.fate s = .promoted fromLevelId toLevelId → ∀ m ∈ userRows d s.userId, m.status = .active →
      ∀ o ∈ sources d run.institutionId run.currentSession.id, o.id = m.organizationId →
        { m with status := .left } ∈ userRows d' s.userId ∧
          ∃ t, Corresponds d d' run orgs s toLevelId o t ∧ (activeIn d' t s.userId).length = 1
  others : ∀ u, (∀ s ∈ considered d run.institutionId, (run.fate s).isPromoted = true → s.userId ≠ u) →
    userRows d' u = userRows d u

/-- The slugs derived from the sources are all different, and where a promoted student
is a member of a LEVEL organization there will be one of the next level. -/
structure Separate (d : CampusDb) (run : InstitutionRun) : Prop where
  slugs : ∀ o ∈ sources d run.institutionId run.currentSession.id,
    ∀ o' ∈ sources d run.institutionId run.currentSession.id,
      nextSlug run.currentSession.name run.nextSession.name o.slug =
        nextSlug run.currentSession.name run.nextSession.name o'.slug → o = o'
  levels : ∀ s ∈ considered d run.institutionId, ∀ fromLevelId toLevelId,
    run.fate s = .promoted fromLevelId toLevelId → ∀ m ∈ userRows d s.userId, m.status = .active →
      ∀ o ∈ sources d run.institutionId run.currentSession.id, o.id = m.organizationId → o.type = .level →
        ∃ o' ∈ sources d run.institutionId run.currentSession.id, (run.twin d o').type = .level ∧
          (run.twin d o').academicLevelId = some toLevelId ∧
          (run.twin d o').departmentId = some s.departmentId

theorem length_activeIn {d : CampusDb} {t u : String} (distinct : PairsDistinct d) (h : HasActive d t u) :
    (activeIn d t u).length = 1 := by
  obtain ⟨m, mem, own⟩ := h
  have some_member : m ∈ activeIn d t u := List.mem_filter.2 ⟨mem, decide_eq_true own⟩
  have nodup : ((activeIn d t u).map fun m => (m.organizationId, m.userId)).Nodup :=
    distinct.sublist ((List.filter_sublist.trans List.filter_sublist).map _)
  have same (r : Membership) (hr : r ∈ activeIn d t u) : (r.organizationId, r.userId) = (t, u) := by
    obtain ⟨mem, own⟩ := List.mem_filter.1 hr
    have own := of_decide_eq_true own
    rw [own.1, (mem_userRows.1 mem).2]
  generalize activeIn d t u = l at some_member nodup same
  cases l with
  | nil => cases some_member
  | cons a l =>
    cases l with
    | nil => rfl
    | cons b l =>
      have ha := same a List.mem_cons_self
      have hb := same b (List.mem_cons_of_mem a List.mem_cons_self)
      rw [List.map_cons, List.map_cons, ha, hb, List.nodup_cons] at nodup
      exact absurd List.mem_cons_self nodup.1

section Follows

variable {d d₂ d' : CampusDb} {run : InstitutionRun} {orgs : NewOrganizationsByOldId}

namespace Copied

theorem ids (d : CampusDb) (run : InstitutionRun) :
    ((sources d run.institutionId run.currentSession.id).map Organization.id).Nodup :=
  d.organizations.nodup.sublist (List.filter_sublist.map _)

theorem copy_of (h : Copied d run orgs d₂ d') {o : Organization}
    (mem : o ∈ sources d run.institutionId run.currentSession.id) :
    ∃ c, orgs.lookup o.id = some c ∧ run.bySlug d₂ (run.copy o).slug = some c :=
  (lookup_of_forall₂ (R := fun o c => run.bySlug d₂ (run.copy o).slug = some c) h.copies (ids d run)).1 o mem

theorem source_of (h : Copied d run orgs d₂ d') {c : Organization} (mem : c ∈ orgs.map Prod.snd) :
    ∃ o ∈ sources d run.institutionId run.currentSession.id, orgs.lookup o.id = some c ∧
      run.bySlug d₂ (run.copy o).slug = some c :=
  (lookup_of_forall₂ (R := fun o c => run.bySlug d₂ (run.copy o).slug = some c) h.copies (ids d run)).2 c mem

/-- A copy is none of the sources. -/
theorem copy_ne_source (h : Copied d run orgs d₂ d') {o c : Organization}
    (mem : o ∈ sources d run.institutionId run.currentSession.id) {slug : String}
    (found : run.bySlug d₂ slug = some c) : c.id ≠ o.id := by
  intro same
  obtain ⟨row, session⟩ := List.mem_filter.1 mem
  have session := of_decide_eq_true session
  obtain ⟨hc, -, next⟩ := bySlug_some found
  have ho := h.kept o.id o (Table.find_of_mem row)
  rw [← same, hc, Option.some.injEq] at ho
  rw [ho, session.2, Option.some.injEq] at next
  exact h.later next.symm

/-- Two sources share a copy if and only if their slugs become the same. -/
theorem target_eq_iff (h : Copied d run orgs d₂ d') {o o' : Organization}
    (mem : o ∈ sources d run.institutionId run.currentSession.id)
    (mem' : o' ∈ sources d run.institutionId run.currentSession.id) :
    target orgs o.id = target orgs o'.id ↔ (run.copy o).slug = (run.copy o').slug := by
  obtain ⟨c, hc, found⟩ := h.copy_of mem
  obtain ⟨c', hc', found'⟩ := h.copy_of mem'
  obtain ⟨row, slug, -⟩ := bySlug_some found
  obtain ⟨row', slug', -⟩ := bySlug_some found'
  unfold target
  rw [hc, hc', Option.map_some, Option.map_some, Option.some.injEq]
  constructor
  · intro same
    rw [same, row', Option.some.injEq] at row
    rw [← slug, ← slug', row]
  · intro same
    rw [same, found', Option.some.injEq] at found
    rw [found]

/-- The statements that set the parents leave the sources alone. -/
theorem find_source (h : Copied d run orgs d₂ d') {o : Organization}
    (mem : o ∈ sources d run.institutionId run.currentSession.id) :
    (applyAll ((sources d run.institutionId run.currentSession.id).flatMap fun o =>
      (parentStmt orgs o).toList) d₂).organizations.find o.id = some o := by
  rw [find_parentStmts]
  · exact h.kept o.id o (Table.find_of_mem (List.mem_filter.1 mem).1)
  · intro o' mem' c hc
    obtain ⟨c', hc', found⟩ := h.copy_of mem'
    rw [hc, Option.some.injEq] at hc'
    subst hc'
    exact h.copy_ne_source mem found

/-- A copy is as it was found or created, but for its parent. -/
theorem find_copy (h : Copied d run orgs d₂ d') {slug : String} {c : Organization}
    (found : run.bySlug d₂ slug = some c) :
    ∃ r, d'.organizations.find c.id = some r ∧ r.orphaned = c.orphaned := by
  let os := sources d run.institutionId run.currentSession.id
  have same : ((applyAll (os.flatMap fun o => (parentStmt orgs o).toList) d₂).organizations.find c.id).map
      Organization.orphaned = _ := orphaned_parentStmts c.id d₂
  rw [← h.moved.organizations, (bySlug_some found).1, Option.map_some, Option.map_eq_some_iff] at same
  exact same

theorem userRows_start (h : Copied d run orgs d₂ d') (u : String) :
    userRows (applyAll ((sources d run.institutionId run.currentSession.id).flatMap fun o =>
      (parentStmt orgs o).toList) d₂) u = userRows d u := by
  unfold userRows
  rw [applyAll_keeps CampusDb.memberships (fun w mem d => ?_) d₂, h.memberships]
  obtain ⟨o, -, mem⟩ := List.mem_flatMap.1 mem
  obtain ⟨parentId, created, parent, -, -, -, rfl⟩ := mem_parentStmt mem
  rfl

theorem pairsDistinct_end (h : Copied d run orgs d₂ d') (distinct : PairsDistinct d) : PairsDistinct d' := by
  refine h.moved.distinct ?_
  unfold PairsDistinct
  rw [applyAll_keeps CampusDb.memberships (fun w mem d => ?_) d₂, h.memberships]
  · exact distinct
  · obtain ⟨o, -, mem⟩ := List.mem_flatMap.1 mem
    obtain ⟨parentId, created, parent, -, -, -, rfl⟩ := mem_parentStmt mem
    rfl

theorem parents (h : Copied d run orgs d₂ d') (separate : Separate d run) {o p : Organization}
    (ho : o ∈ sources d run.institutionId run.currentSession.id)
    (hp : p ∈ sources d run.institutionId run.currentSession.id)
    (parent : o.parentOrganizationId = some p.id) :
    ∃ t r, target orgs o.id = some t ∧ d'.organizations.find t = some r ∧
      r.parentOrganizationId = target orgs p.id := by
  obtain ⟨c, hc, found⟩ := h.copy_of ho
  obtain ⟨q, hq, -⟩ := h.copy_of hp
  refine ⟨c.id, { c with parentOrganizationId := some q.id }, by rw [target, hc]; rfl, ?_, ?_⟩
  · rw [h.moved.organizations]
    refine parent_parentStmts (ids d run) ho (fun o' ho' other c' hc' same => ?_) parent hc hq (bySlug_some found).1
    have targets : target orgs o'.id = target orgs o.id := by
      rw [target, target, hc, hc', Option.map_some, Option.map_some, same]
    exact other (congrArg Organization.id (separate.slugs o' ho' o ho ((h.target_eq_iff ho' ho).1 targets)))
  · rw [target, hq]
    rfl

/-- The membership in a source is one that the student's move starts from. -/
theorem previous (h : Copied d run orgs d₂ d') {s : StudentProfile} {m : Membership} {o : Organization}
    (mem : m ∈ userRows d s.userId) (active : m.status = .active)
    (ho : o ∈ sources d run.institutionId run.currentSession.id) (own : o.id = m.organizationId) :
    ⟨m, o⟩ ∈ (applyAll ((sources d run.institutionId run.currentSession.id).flatMap fun o =>
      (parentStmt orgs o).toList) d₂).previousMemberships s.userId run.currentSession.id := by
  rw [previousMemberships_eq, h.userRows_start]
  refine List.mem_filterMap.2 ⟨m, mem, ?_⟩
  have session := (of_decide_eq_true (List.mem_filter.1 ho).2).2
  rw [if_pos active, ← own, h.find_source ho]
  simp [Option.filter, session]

theorem moves (h : Copied d run orgs d₂ d') (distinct : PairsDistinct d) (separate : Separate d run)
    {s : StudentProfile} (hs : s ∈ considered d run.institutionId) {fromLevelId toLevelId : String}
    (promoted : run.fate s = .promoted fromLevelId toLevelId) {m : Membership}
    (mem : m ∈ userRows d s.userId) (active : m.status = .active) {o : Organization}
    (ho : o ∈ sources d run.institutionId run.currentSession.id) (own : o.id = m.organizationId) :
    { m with status := .left } ∈ userRows d' s.userId ∧
      ∃ t, Corresponds d d' run orgs s toLevelId o t ∧ (activeIn d' t s.userId).length = 1 := by
  have moved := h.moved.moved s hs fromLevelId toLevelId promoted
  constructor
  · refine moved.left m (by rw [h.userRows_start]; exact mem) active ?_ ?_
    · refine ⟨o, ?_, of_decide_eq_true (List.mem_filter.1 ho).2⟩
      rw [← own]
      exact h.find_source ho
    · intro c hc
      obtain ⟨o', -, -, found⟩ := h.source_of hc
      rw [← own]
      exact (h.copy_ne_source ho found).symm
  · have arrives := moved.joined ⟨m, o⟩ (h.previous mem active ho own)
    by_cases level : o.type = .level
    · obtain ⟨o', ho', type, academicLevel, department⟩ :=
        separate.levels s hs fromLevelId toLevelId promoted m mem active o ho own level
      have slugs : ((sources d run.institutionId run.currentSession.id).map fun o =>
          (run.copy o).slug).Nodup :=
        (List.Nodup.of_map _ (ids d run)).map_on fun a ha b hb same => separate.slugs a ha b hb same
      have twin := h.twins slugs o' ho'
      obtain ⟨c', hc', found'⟩ := h.copy_of ho'
      have same : c' = run.twin d o' := Option.some.inj (found'.symm.trans twin)
      have listed : c' ∈ orgs.map Prod.snd := by
        obtain ⟨before, after, rfl, -⟩ := List.lookup_eq_some_iff.1 hc'
        simp
      rw [← same] at type academicLevel department
      have some_level : (destination orgs s toLevelId ⟨m, o⟩).isSome := by
        rw [destination, if_pos level, List.find?_isSome]
        exact ⟨c', listed, decide_eq_true ⟨type, academicLevel, department⟩⟩
      obtain ⟨c, hc⟩ := Option.isSome_iff_exists.1 some_level
      refine ⟨c.id, ?_, length_activeIn (h.pairsDistinct_end distinct) (arrives c hc)⟩
      obtain ⟨source, hsource, lookup, found⟩ := h.source_of (mem_of_destination hc)
      obtain ⟨r, hr, orphaned⟩ := h.find_copy found
      rw [destination, if_pos level] at hc
      have own := List.find?_some hc
      rw [decide_eq_true_eq] at own
      rw [Corresponds, if_pos level]
      refine ⟨source, hsource, by rw [target, lookup]; rfl, r, hr, ?_, ?_, ?_⟩
      · exact (congrArg Organization.type orphaned).trans own.1
      · exact (congrArg Organization.academicLevelId orphaned).trans own.2.1
      · exact (congrArg Organization.departmentId orphaned).trans own.2.2
    · obtain ⟨c, hc, -⟩ := h.copy_of ho
      have found : destination orgs s toLevelId ⟨m, o⟩ = some c := by
        rw [destination, if_neg level]
        show orgs.lookup m.organizationId = some c
        rw [← own, hc]
      refine ⟨c.id, ?_, length_activeIn (h.pairsDistinct_end distinct) (arrives c found)⟩
      rw [Corresponds, if_neg level, target, hc]
      rfl

/-- **The members follow** if and only if the slugs stay different and the levels have
organizations to go to. -/
theorem carriesOver_iff (h : Copied d run orgs d₂ d') (distinct : PairsDistinct d) :
    CarriesOver d d' run orgs ↔ Separate d run := by
  constructor
  · intro carries
    have slugs : ∀ o ∈ sources d run.institutionId run.currentSession.id,
        ∀ o' ∈ sources d run.institutionId run.currentSession.id,
          (run.copy o).slug = (run.copy o').slug → o = o' :=
      fun o ho o' ho' same => carries.injective o ho o' ho' ((h.target_eq_iff ho ho').2 same)
    refine ⟨slugs, fun s hs f t promoted m mem active o ho own level => ?_⟩
    obtain ⟨-, arrived, corresponds, -⟩ := carries.moved s hs f t promoted m mem active o ho own
    rw [Corresponds, if_pos level] at corresponds
    obtain ⟨o', ho', targeted, r, hr, type, academicLevel, department⟩ := corresponds
    obtain ⟨c', hc', found'⟩ := h.copy_of ho'
    have twin := h.twins ((List.Nodup.of_map _ (ids d run)).map_on fun a ha b hb same =>
      slugs a ha b hb same) o' ho'
    have same : c' = run.twin d o' := Option.some.inj (found'.symm.trans twin)
    rw [target, hc', Option.map_some, Option.some.injEq] at targeted
    obtain ⟨r', hr', orphaned⟩ := h.find_copy found'
    rw [targeted, hr, Option.some.injEq] at hr'
    subst hr'
    refine ⟨o', ho', ?_, ?_, ?_⟩
    · rw [← same, ← type]
      exact (congrArg Organization.type orphaned).symm
    · rw [← same, ← academicLevel]
      exact (congrArg Organization.academicLevelId orphaned).symm
    · rw [← same, ← department]
      exact (congrArg Organization.departmentId orphaned).symm
  · intro separate
    refine ⟨fun o ho => ?_, fun o ho o' ho' same => ?_, fun o ho p hp parent => h.parents separate ho hp parent,
      fun s hs f t promoted m mem active o ho own => h.moves distinct separate hs promoted mem active ho own,
      fun u other => (h.moved.others u other).trans (h.userRows_start u)⟩
    · obtain ⟨c, hc, -⟩ := h.copy_of ho
      rw [target, hc]
      rfl
    · exact separate.slugs o ho o' ho' ((h.target_eq_iff ho ho').1 same)

end Copied

end Follows

/-- The unique columns of the students and the memberships. -/
structure Unique (d : CampusDb) : Prop where
  users : (d.students.rows.map StudentProfile.userId).Nodup
  memberships : PairsDistinct d

/-- **The organizations are carried over**, by the one run on a session that commits, if
and only if the slugs derived from them are all different and the LEVEL memberships
have somewhere to go. -/
theorem organizations_follow_iff {db : CampusDb} {x : Surroundings} {ops : List PromoteInstitutionOp}
    {sessionId : String} {c : CampusSystem} (unique : Unique db)
    (runs : Reaches (fun _ _ => True) (Config.start db x (ops.map PromoteInstitutionOp.program)) c)
    (same : ∀ op ∈ ops, op.dto.currentSessionId = sessionId) :
    c.db = db ∧ (∀ i, ¬c.Returned i) ∨
      ∃ (i : Nat) (op : PromoteInstitutionOp) (run : InstitutionRun) (orgs : NewOrganizationsByOldId)
        (opening : CampusStmt), ops[i]? = some op ∧ RolledOver db op run orgs opening ∧
        (CarriesOver db c.db run orgs ↔ Separate db run) ∧ ∀ j, c.Returned j → j = i := by
  obtain none | ⟨i, op, hop, ⟨run, orgs, opening, rolled, valid, left⟩, only⟩ := Reaches.rolledOver runs same
  · exact .inl none
  · refine .inr ⟨i, op, run, orgs, opening, hop, rolled, ?_, only⟩
    obtain ⟨d₂, copied⟩ := rolled.copied unique.users valid
    rw [left]
    exact copied.carriesOver_iff unique.memberships

/-- A college with two societies, one of which has the session in its slug. -/
def societies : CampusDb :=
  { college with
    organizations := ⟨[
      { id := "a", institutionId := some "inst", name := "Computing", slug := "css", type := .association,
        status := .active, academicSessionId := some "s1" },
      { id := "b", institutionId := some "inst", name := "Cyber Security", slug := "css-2023-2024",
        type := .association, status := .active, academicSessionId := some "s1" }], by decide⟩
    memberships := ⟨[⟨"m", "a", "ada", .student, .active, true, none⟩,
      ⟨"n", "b", "ada", .student, .active, false, none⟩], by decide⟩ }

theorem unique_societies : Unique societies where
  users := by decide
  memberships := by unfold PairsDistinct; decide

/-- The societies end up in one organization, and the memberships in both in one
membership. -/
theorem societies_share_copy : ∃ c : CampusSystem,
    Reaches (fun _ _ => True) (Config.start societies Surroundings.mk
      ([promoteCollege "x"].map PromoteInstitutionOp.program)) c ∧
    c.threads.map Thread.returned = [true] ∧
    (userRows societies "ada").map Membership.status = [.active, .active] ∧
    ((userRows c.db "ada").filter fun m => m.status = .active).length = 1 ∧
    ∀ f : String → String, (∀ o ∈ sources societies "inst" "s1", ∃ r ∈ c.db.organizations.rows,
        r.id = f o.id ∧ r.academicSessionId = some "x") →
      ∃ o ∈ sources societies "inst" "s1", ∃ o' ∈ sources societies "inst" "s1", f o.id = f o'.id ∧ o ≠ o' := by
  obtain ⟨c, run, returned, members, copies⟩ := Reaches.of_replay_any (fun _ _ => True)
    (Config.start societies Surroundings.mk ([promoteCollege "x"].map PromoteInstitutionOp.program))
    (turns [(0, 45)])
    (fun c : CampusSystem => c.threads.map Thread.returned = [true] ∧
      ((userRows c.db "ada").filter fun m => m.status = .active).length = 1 ∧
      ∀ r ∈ c.db.organizations.rows, r.academicSessionId = some "x" → r.id = "xa") (by decide +kernel)
  refine ⟨c, run, returned, by decide, members, fun f into => ?_⟩
  have all : ∀ o ∈ sources societies "inst" "s1", f o.id = "xa" := by
    intro o ho
    obtain ⟨r, mem, same, session⟩ := into o ho
    rw [← same]
    exact copies r mem session
  have two : ∃ o ∈ sources societies "inst" "s1", ∃ o' ∈ sources societies "inst" "s1", o ≠ o' := by decide
  obtain ⟨o, ho, o', ho', other⟩ := two
  exact ⟨o, ho, o', ho', (all o ho).trans (all o' ho').symm, other⟩

theorem societies_follow_iff : ∃ c : CampusSystem,
    Reaches (fun _ _ => True) (Config.start societies Surroundings.mk
      ([promoteCollege "x"].map PromoteInstitutionOp.program)) c ∧
    c.threads.map Thread.returned = [true] ∧
    (c.db = societies ∧ (∀ i, ¬c.Returned i) ∨
      ∃ (i : Nat) (op : PromoteInstitutionOp) (run : InstitutionRun) (orgs : NewOrganizationsByOldId)
        (opening : CampusStmt), [promoteCollege "x"][i]? = some op ∧
        RolledOver societies op run orgs opening ∧
        (CarriesOver societies c.db run orgs ↔ Separate societies run) ∧ ∀ j, c.Returned j → j = i) := by
  obtain ⟨c, run, returned⟩ := Reaches.of_replay_any (fun _ _ => True)
    (Config.start societies Surroundings.mk ([promoteCollege "x"].map PromoteInstitutionOp.program))
    (turns [(0, 45)]) (fun c : CampusSystem => c.threads.map Thread.returned = [true]) (by decide +kernel)
  have same : ∀ op ∈ [promoteCollege "x"], op.dto.currentSessionId = "s1" := by
    intro op mem
    rw [List.mem_singleton.1 mem]
    rfl
  exact ⟨c, run, returned, organizations_follow_iff unique_societies run same⟩

end Heightt.Campus
