import Heightt.Campus.Promoted

/-!
# The memberships of promoted students

A promoted student leaves the organizations of the session and joins those that
correspond in the next one. The statements for one student concern the memberships of
that user only.
-/

namespace Heightt.Campus

open Store ReadCommitted Prog Database PromotionService

/-- The memberships of a user. -/
def userRows (d : CampusDb) (userId : String) : List Membership :=
  d.memberships.rows.filter fun m => m.userId = userId

/-- A user has one membership in an organization. -/
def PairsDistinct (d : CampusDb) : Prop :=
  (d.memberships.rows.map fun m => (m.organizationId, m.userId)).Nodup

/-- The user has an ACTIVE membership in the organization. -/
def HasActive (d : CampusDb) (organizationId userId : String) : Prop :=
  ∃ m ∈ userRows d userId, m.organizationId = organizationId ∧ m.status = .active

theorem mem_userRows {d : CampusDb} {userId : String} {m : Membership} :
    m ∈ userRows d userId ↔ m ∈ d.memberships.rows ∧ m.userId = userId := by
  simp [userRows]

theorem previousMemberships_eq (d : CampusDb) (userId sessionId : String) :
    d.previousMemberships userId sessionId = (userRows d userId).filterMap fun m =>
      if m.status = .active then
        ((d.organizations.find m.organizationId).filter fun o =>
          o.academicSessionId = some sessionId).map fun o => ⟨m, o⟩
      else none := by
  unfold CampusDb.previousMemberships userRows
  rw [List.filterMap_filter]
  congr 1
  funext m
  by_cases own : m.userId = userId <;> simp [own]

/-- The memberships of a user that a change does not concern. -/
theorem filter_map_of_untouched {l : List Membership} {f : Membership → Membership} {userId : String}
    (user : ∀ m ∈ l, (f m).userId = m.userId) (untouched : ∀ m ∈ l, m.userId = userId → f m = m) :
    (l.map f).filter (fun m => m.userId = userId) = l.filter fun m => m.userId = userId := by
  induction l with
  | nil => rfl
  | cons m l ih =>
    have rest := ih (fun r hr => user r (List.mem_cons_of_mem m hr))
      fun r hr => untouched r (List.mem_cons_of_mem m hr)
    have same := user m List.mem_cons_self
    rw [List.map_cons, List.filter_cons, List.filter_cons, rest, same]
    by_cases own : m.userId = userId
    · rw [untouched m List.mem_cons_self own]
    · simp [own]

section Leave

variable {d : CampusDb} {userId institutionId sessionId : String}

theorem leave_userId (m : Membership) : (d.leave userId institutionId sessionId m).userId = m.userId := by
  unfold CampusDb.leave
  split <;> rfl

theorem leave_organizationId (m : Membership) :
    (d.leave userId institutionId sessionId m).organizationId = m.organizationId := by
  unfold CampusDb.leave
  split <;> rfl

theorem userRows_leaveMemberships {u : String} (other : userId ≠ u) :
    userRows ((CampusStmt.leaveMemberships userId institutionId sessionId).apply d) u = userRows d u :=
  filter_map_of_untouched (fun m _ => leave_userId m) fun _ _ own => if_neg fun h => other (h.1.symm.trans own)

theorem pairsDistinct_leaveMemberships (h : PairsDistinct d) :
    PairsDistinct ((CampusStmt.leaveMemberships userId institutionId sessionId).apply d) := by
  unfold PairsDistinct at h ⊢
  have same : ((d.memberships.rows.map (d.leave userId institutionId sessionId)).map fun m =>
      (m.organizationId, m.userId)) = d.memberships.rows.map fun m => (m.organizationId, m.userId) := by
    rw [List.map_map]
    refine List.map_congr_left fun m _ => ?_
    rw [Function.comp, leave_organizationId, leave_userId]
  exact same ▸ h

end Leave

section Upsert

variable {d : CampusDb} {m : Membership}

/-- What an upsert does to the rows. -/
theorem rows_upsertMembership (m : Membership) (d : CampusDb) :
    (∃ r, d.membershipOf m.organizationId m.userId = some r ∧
      ((CampusStmt.upsertMembership m).apply d).memberships.rows =
        d.memberships.rows.map fun x => if x.id = r.id then x.rejoin m.joinedSessionId else x) ∨
    d.membershipOf m.organizationId m.userId = none ∧
      ((CampusStmt.upsertMembership m).apply d).memberships = d.memberships.insert m := by
  simp only [CampusStmt.apply]
  cases found : d.membershipOf m.organizationId m.userId with
  | some r => exact .inl ⟨r, rfl, rfl⟩
  | none => exact .inr ⟨rfl, rfl⟩

theorem membershipOf_some {organizationId userId : String} {r : Membership}
    (found : d.membershipOf organizationId userId = some r) :
    r ∈ d.memberships.rows ∧ r.organizationId = organizationId ∧ r.userId = userId := by
  have own := List.find?_some found
  simp only [decide_eq_true_eq] at own
  exact ⟨List.mem_of_find?_eq_some found, own⟩

theorem membershipOf_none {organizationId userId : String}
    (none : d.membershipOf organizationId userId = none) (r : Membership) (mem : r ∈ d.memberships.rows) :
    ¬(r.organizationId = organizationId ∧ r.userId = userId) :=
  of_decide_eq_false (by simpa using List.find?_eq_none.1 none r mem)

/-- Only the row that is found is touched. -/
theorem untouched_rejoin {r x : Membership} {session : Option String} (mem : x ∈ d.memberships.rows)
    (hr : r ∈ d.memberships.rows) (other : x ≠ r) :
    (if x.id = r.id then x.rejoin session else x) = x :=
  if_neg fun same => other (Table.eq_of_key mem hr same)

theorem userRows_upsertMembership {u : String} (other : m.userId ≠ u) :
    userRows ((CampusStmt.upsertMembership m).apply d) u = userRows d u := by
  obtain ⟨r, found, rows⟩ | ⟨-, inserted⟩ := rows_upsertMembership m d
  · obtain ⟨hr, -, user⟩ := membershipOf_some found
    unfold userRows
    rw [rows]
    refine filter_map_of_untouched (fun x _ => by split <;> rfl) fun x mem own => ?_
    exact untouched_rejoin mem hr fun same => other (user.symm.trans (same ▸ own))
  · unfold userRows
    rw [inserted]
    unfold Table.insert
    split
    · rfl
    · rw [List.filter_append]
      simp [other]

theorem pairsDistinct_upsertMembership (h : PairsDistinct d) :
    PairsDistinct ((CampusStmt.upsertMembership m).apply d) := by
  unfold PairsDistinct at h ⊢
  obtain ⟨r, -, rows⟩ | ⟨none, inserted⟩ := rows_upsertMembership m d
  · rw [rows, List.map_map]
    have same : (d.memberships.rows.map ((fun m : Membership => (m.organizationId, m.userId)) ∘
        fun x => if x.id = r.id then x.rejoin m.joinedSessionId else x)) =
        d.memberships.rows.map fun m => (m.organizationId, m.userId) := by
      refine List.map_congr_left fun x _ => ?_
      rw [Function.comp]
      split <;> rfl
    rw [same]
    exact h
  · rw [inserted]
    unfold Table.insert
    split
    · exact h
    · rw [List.map_append, List.nodup_append]
      refine ⟨h, List.nodup_singleton _, fun a ha b hb same => ?_⟩
      obtain ⟨x, mem, rfl⟩ := List.mem_map.1 ha
      rw [List.map_singleton, List.mem_singleton] at hb
      rw [hb, Prod.mk.injEq] at same
      exact membershipOf_none none x mem same

/-- A membership of another organization stays as it is. -/
theorem mem_upsertMembership {x : Membership} (mem : x ∈ d.memberships.rows)
    (other : x.organizationId ≠ m.organizationId) :
    x ∈ ((CampusStmt.upsertMembership m).apply d).memberships.rows := by
  obtain ⟨r, found, rows⟩ | ⟨-, inserted⟩ := rows_upsertMembership m d
  · obtain ⟨hr, organization, -⟩ := membershipOf_some found
    rw [rows]
    refine List.mem_map.2 ⟨x, mem, untouched_rejoin mem hr ?_⟩
    rintro rfl
    exact other organization
  · rw [inserted]
    unfold Table.insert
    split
    · exact mem
    · exact List.mem_append_left _ mem

theorem hasActive_upsertMembership_self (allowed : (CampusStmt.upsertMembership m).check d = none)
    (active : m.status = .active) :
    HasActive ((CampusStmt.upsertMembership m).apply d) m.organizationId m.userId := by
  obtain ⟨r, found, rows⟩ | ⟨none, inserted⟩ := rows_upsertMembership m d
  · obtain ⟨hr, organization, user⟩ := membershipOf_some found
    refine ⟨r.rejoin m.joinedSessionId, mem_userRows.2 ⟨?_, user⟩, organization, rfl⟩
    rw [rows]
    exact List.mem_map.2 ⟨r, hr, if_pos rfl⟩
  · have free : d.memberships.find m.id = .none := by
      simp only [CampusStmt.check, CampusStmt.first, CampusStmt.unique, none, Option.or_eq_none_iff,
        Option.isNone_none, and_true, ite_eq_right_iff] at allowed
      cases taken : d.memberships.find m.id with
      | none => rfl
      | some r =>
        have := allowed.1 (by rw [taken]; rfl)
        cases this
    refine ⟨m, mem_userRows.2 ⟨?_, rfl⟩, rfl, active⟩
    rw [inserted, Table.insert_rows free]
    exact List.mem_append_right _ List.mem_cons_self

theorem hasActive_upsertMembership {organizationId userId : String} (h : HasActive d organizationId userId) :
    HasActive ((CampusStmt.upsertMembership m).apply d) organizationId userId := by
  obtain ⟨x, hx, organization, active⟩ := h
  obtain ⟨mem, user⟩ := mem_userRows.1 hx
  obtain ⟨r, -, rows⟩ | ⟨-, inserted⟩ := rows_upsertMembership m d
  · refine ⟨if x.id = r.id then x.rejoin m.joinedSessionId else x, mem_userRows.2 ⟨?_, ?_⟩, ?_, ?_⟩
    · rw [rows]
      exact List.mem_map_of_mem mem
    · split
      · exact user
      · exact user
    · split
      · exact organization
      · exact organization
    · split
      · rfl
      · exact active
  · refine ⟨x, mem_userRows.2 ⟨?_, user⟩, organization, active⟩
    rw [inserted]
    unfold Table.insert
    split
    · exact mem
    · exact List.mem_append_left _ mem

end Upsert

/-! ## One student -/

section Moves

variable {run : InstitutionRun} {orgs : NewOrganizationsByOldId} {d : CampusDb} {s : StudentProfile}
  {nextLevelId : String}

theorem mem_of_destination {p : PreviousMembership} {o : Organization}
    (found : destination orgs s nextLevelId p = some o) : o ∈ orgs.map Prod.snd := by
  unfold destination at found
  split at found
  · exact List.mem_of_find?_eq_some found
  · obtain ⟨before, after, rfl, -⟩ := List.lookup_eq_some_iff.1 found
    simp

/-- The statements that join the destinations. -/
def joins (run : InstitutionRun) (orgs : NewOrganizationsByOldId) (s : StudentProfile) (nextLevelId : String)
    (ps : List PreviousMembership) : List CampusStmt :=
  ps.flatMap fun p => ((destination orgs s nextLevelId p).map fun o =>
    CampusStmt.upsertMembership (run.joined s p o)).toList

/-- What joining the destinations leaves. -/
structure Joined (orgs : NewOrganizationsByOldId) (s : StudentProfile) (nextLevelId : String)
    (ps : List PreviousMembership) (d d' : CampusDb) : Prop where
  active : ∀ p ∈ ps, ∀ o, destination orgs s nextLevelId p = some o → HasActive d' o.id s.userId
  stays : ∀ organizationId userId, HasActive d organizationId userId → HasActive d' organizationId userId
  elsewhere : ∀ x ∈ d.memberships.rows, (∀ o ∈ orgs.map Prod.snd, x.organizationId ≠ o.id) →
    x ∈ d'.memberships.rows

theorem joined_joins (ps : List PreviousMembership) (d : CampusDb)
    (valid : violation (joins run orgs s nextLevelId ps) d = none) :
    Joined orgs s nextLevelId ps d (applyAll (joins run orgs s nextLevelId ps) d) := by
  induction ps generalizing d with
  | nil => exact ⟨fun _ mem => (List.not_mem_nil mem).elim, fun _ _ h => h, fun _ mem _ => mem⟩
  | cons p ps ih =>
    have split : joins run orgs s nextLevelId (p :: ps) = ((destination orgs s nextLevelId p).map fun o =>
        CampusStmt.upsertMembership (run.joined s p o)).toList ++ joins run orgs s nextLevelId ps := rfl
    rw [split] at valid ⊢
    cases found : destination orgs s nextLevelId p with
    | none =>
      rw [found] at valid
      have rest := ih d valid
      refine ⟨fun q mem o ho => ?_, rest.stays, rest.elsewhere⟩
      obtain rfl | mem := List.mem_cons.1 mem
      · rw [found] at ho
        cases ho
      · exact rest.active q mem o ho
    | some o =>
      rw [found] at valid
      obtain ⟨allowed, valid⟩ := violation_cons.1 valid
      have rest := ih _ valid
      refine ⟨fun q mem o' ho => ?_, fun t u h => rest.stays t u (hasActive_upsertMembership h),
        fun x mem other => rest.elsewhere x (mem_upsertMembership mem (other o (mem_of_destination found))) other⟩
      obtain rfl | mem := List.mem_cons.1 mem
      · rw [found, Option.some.injEq] at ho
        subst ho
        exact rest.stays _ _ (hasActive_upsertMembership_self allowed rfl)
      · exact rest.active q mem o' ho

/-- A promoted student has joined the destinations, and left where they are not. -/
structure Moved (run : InstitutionRun) (orgs : NewOrganizationsByOldId) (s : StudentProfile)
    (nextLevelId : String) (d d' : CampusDb) : Prop where
  joined : ∀ p ∈ d.previousMemberships s.userId run.currentSession.id, ∀ o,
    destination orgs s nextLevelId p = some o → HasActive d' o.id s.userId
  left : ∀ m ∈ userRows d s.userId, m.status = .active →
    d.inSession run.institutionId run.currentSession.id m →
    (∀ o ∈ orgs.map Prod.snd, m.organizationId ≠ o.id) →
    { m with status := .left } ∈ userRows d' s.userId

theorem moved_moves (valid : violation (run.moves orgs s nextLevelId d) d = none) :
    Moved run orgs s nextLevelId d (applyAll (run.moves orgs s nextLevelId d) d) := by
  obtain ⟨-, valid⟩ := violation_cons.1 valid
  have joined := joined_joins (d.previousMemberships s.userId run.currentSession.id) _ valid
  refine ⟨joined.active, fun m hm active inSession other => ?_⟩
  obtain ⟨mem, user⟩ := mem_userRows.1 hm
  refine mem_userRows.2 ⟨joined.elsewhere _ ?_ other, user⟩
  refine List.mem_map.2 ⟨m, mem, ?_⟩
  unfold CampusDb.leave
  exact if_pos ⟨user, active, inSession⟩

/-- Only the student's own memberships are concerned. -/
theorem userRows_moves {u : String} (other : s.userId ≠ u) (d' : CampusDb) :
    userRows (applyAll (run.moves orgs s nextLevelId d) d') u = userRows d' u := by
  refine applyAll_keeps (fun d => userRows d u) (fun w mem d => ?_) d'
  obtain rfl | ⟨p, -, o, -, rfl⟩ := InstitutionRun.mem_moves mem
  · exact userRows_leaveMemberships other
  · exact userRows_upsertMembership other

theorem pairsDistinct_applyAll {F : List CampusStmt} (h : ∀ w ∈ F, ∀ d, PairsDistinct d → PairsDistinct (w.apply d))
    (start : PairsDistinct d) : PairsDistinct (applyAll F d) := by
  induction F generalizing d with
  | nil => exact start
  | cons w F ih =>
    exact ih (fun w hw => h w (List.mem_cons_of_mem _ hw)) (h w List.mem_cons_self d start)

/-- What the statements for one student leave alone. -/
theorem userRows_advance {u : String} (other : (run.fate s).isPromoted = true → s.userId ≠ u) :
    userRows (applyAll (run.advance orgs s d) d) u = userRows d u := by
  unfold InstitutionRun.advance
  cases own : run.fate s with
  | skipped => rfl
  | graduated => rfl
  | promoted fromLevelId toLevelId =>
    dsimp only
    rw [applyAll_append]
    exact userRows_moves (other (by rw [own]; rfl)) _

theorem pairsDistinct_advance (start : PairsDistinct d) :
    PairsDistinct (applyAll (run.advance orgs s d) d) := by
  unfold InstitutionRun.advance
  cases own : run.fate s with
  | skipped => exact start
  | graduated => exact start
  | promoted fromLevelId toLevelId =>
    dsimp only
    rw [applyAll_append]
    refine pairsDistinct_applyAll (fun w mem d h => ?_) start
    obtain rfl | ⟨p, -, o, -, rfl⟩ := InstitutionRun.mem_moves mem
    · exact pairsDistinct_leaveMemberships h
    · exact pairsDistinct_upsertMembership h

theorem organizations_advance : (applyAll (run.advance orgs s d) d).organizations = d.organizations := by
  refine applyAll_keeps CampusDb.organizations (fun w mem d => ?_) d
  unfold InstitutionRun.advance at mem
  split at mem
  · cases mem
  · rw [List.mem_singleton.1 mem]
    rfl
  · obtain mem | mem := List.mem_append.1 mem
    · simp only [List.mem_cons, List.not_mem_nil, or_false] at mem
      obtain rfl | rfl | rfl := mem <;> rfl
    · obtain rfl | ⟨p, -, o, -, rfl⟩ := InstitutionRun.mem_moves mem
      · rfl
      · show ((CampusStmt.upsertMembership _).apply d).organizations = _
        simp only [CampusStmt.apply]
        split <;> rfl

theorem moved_advance {fromLevelId : String} (own : run.fate s = .promoted fromLevelId nextLevelId)
    (valid : violation (run.advance orgs s d) d = none) :
    Moved run orgs s nextLevelId d (applyAll (run.advance orgs s d) d) := by
  unfold InstitutionRun.advance at valid ⊢
  rw [own] at valid ⊢
  dsimp only at valid ⊢
  rw [applyAll_append]
  have moved := moved_moves (violation_append.1 valid).2
  exact ⟨moved.joined, moved.left⟩

end Moves

/-! ## The loop -/

section Loop

variable {run : InstitutionRun} {orgs : NewOrganizationsByOldId} {s : StudentProfile} {nextLevelId : String}

/-- `Moved` is about the organizations and the memberships of the student. -/
theorem Moved.of_eq {d₁ d₂ d₁' d₂' : CampusDb} (h : Moved run orgs s nextLevelId d₁ d₁')
    (organizations : d₂.organizations = d₁.organizations)
    (before : userRows d₂ s.userId = userRows d₁ s.userId)
    (after : userRows d₂' s.userId = userRows d₁' s.userId) : Moved run orgs s nextLevelId d₂ d₂' where
  joined := by
    intro p mem o found
    rw [previousMemberships_eq, organizations, before, ← previousMemberships_eq] at mem
    unfold HasActive
    rw [after]
    exact h.joined p mem o found
  left := by
    intro m mem active inSession other
    rw [before] at mem
    rw [after]
    unfold CampusDb.inSession at inSession
    rw [organizations] at inSession
    exact h.left m mem active inSession other

/-- What the loop does to the memberships. -/
structure MovedAll (run : InstitutionRun) (orgs : NewOrganizationsByOldId) (ss : List StudentProfile)
    (d d' : CampusDb) : Prop where
  moved : ∀ s ∈ ss, ∀ fromLevelId toLevelId, run.fate s = .promoted fromLevelId toLevelId →
    Moved run orgs s toLevelId d d'
  others : ∀ u, (∀ s ∈ ss, (run.fate s).isPromoted = true → s.userId ≠ u) → userRows d' u = userRows d u
  distinct : PairsDistinct d → PairsDistinct d'
  organizations : d'.organizations = d.organizations

theorem movedAll_advanceAll (ss : List StudentProfile) (users : (ss.map StudentProfile.userId).Nodup)
    (d : CampusDb) (valid : violation (run.advanceAll orgs ss d) d = none) :
    MovedAll run orgs ss d (applyAll (run.advanceAll orgs ss d) d) := by
  induction ss generalizing d with
  | nil => exact ⟨fun _ mem => (List.not_mem_nil mem).elim, fun _ _ => rfl, fun h => h, rfl⟩
  | cons s ss ih =>
    rw [List.map_cons, List.nodup_cons] at users
    rw [InstitutionRun.advanceAll] at valid ⊢
    obtain ⟨first, valid⟩ := violation_append.1 valid
    have rest := ih users.2 _ valid
    rw [applyAll_append]
    have ne (s' : StudentProfile) (mem : s' ∈ ss) : s'.userId ≠ s.userId :=
      fun same => users.1 (same ▸ List.mem_map_of_mem mem)
    refine ⟨?_, fun u other => ?_, fun h => rest.distinct (pairsDistinct_advance h),
      rest.organizations.trans organizations_advance⟩
    · intro s' mem fromLevelId toLevelId own
      obtain rfl | mem := List.mem_cons.1 mem
      · exact (moved_advance own first).of_eq rfl rfl (rest.others _ fun r hr _ => ne r hr)
      · refine (rest.moved s' mem fromLevelId toLevelId own).of_eq organizations_advance.symm ?_ rfl
        exact (userRows_advance fun _ => (ne s' mem).symm).symm
    · rw [rest.others u fun r hr => other r (List.mem_cons_of_mem s hr)]
      exact userRows_advance (other s List.mem_cons_self)

end Loop

end Heightt.Campus
