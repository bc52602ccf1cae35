import Heightt.Campus.Organizations
import Heightt.Campus.Promoted
import Heightt.ReadCommitted.Upholds

/-!
# Requests to join an organization

A request to join is approved when it is made, and a member who is removed keeps the row with the status
LEFT. So no request waits for a review, and nobody who was ever a member is added again.
-/

namespace Heightt.Campus

open Store ReadCommitted Prog

namespace OrganizationsService

def removeMember (organizationId membershipId : String) : CampusAction Unit := do
  let membership ← outside fun d => d.memberships.findFirst fun m =>
    m.id = membershipId ∧ m.organizationId = organizationId
  let membership ← orThrow membership (.notFound "Membership not found")
  statement (.updateMembership membership { status := some .left } none)
  statement .createActivityLog
  CacheService.invalidate

def cancelJoinRequest (userId requestId : String) : CampusAction Unit := do
  let joinRequest ← outside fun d => d.joinRequests.find requestId
  let joinRequest ← orThrow joinRequest (.notFound "Join request not found")
  ensure (joinRequest.userId = userId) (.forbidden "You can only cancel your own join requests")
  ensure (joinRequest.status = .pending)
    (.badRequest ("Cannot cancel a request that is " ++ joinRequest.status.toLowerCase))
  statement (.deleteJoinRequest requestId)
  statement .createActivityLog

end OrganizationsService

inductive JoinOp where
  | addMember (organizationId : String) (dto : AddMemberDto) (newId : String)
  | updateMember (organizationId membershipId : String) (dto : UpdateMemberDto)
  | removeMember (organizationId membershipId : String)
  | requestToJoin (userId organizationId : String) (membershipType : Option MembershipType)
    (newId newRequestId : String)
  | reviewJoinRequest (requestId adminUserId : String) (status : RequestStatus) (newId : String)
  | cancelJoinRequest (userId requestId : String)
  deriving DecidableEq

def JoinOp.program : JoinOp → CampusAction Unit
  | addMember organizationId dto newId => OrganizationsService.addMember organizationId dto newId
  | updateMember organizationId membershipId dto =>
    OrganizationsService.updateMember organizationId membershipId dto
  | removeMember organizationId membershipId => OrganizationsService.removeMember organizationId membershipId
  | requestToJoin userId organizationId membershipType newId newRequestId =>
    OrganizationsService.requestToJoin userId organizationId membershipType newId newRequestId
  | reviewJoinRequest requestId adminUserId status newId =>
    OrganizationsService.reviewJoinRequest requestId adminUserId status newId
  | cancelJoinRequest userId requestId => OrganizationsService.cancelJoinRequest userId requestId

/-- The user has a membership in the organization, whatever its status. -/
def CampusDb.IsMember (d : CampusDb) (organizationId userId : String) : Prop :=
  ∃ m ∈ d.memberships.rows, m.organizationId = organizationId ∧ m.userId = userId

instance (d : CampusDb) (organizationId userId : String) : Decidable (d.IsMember organizationId userId) :=
  inferInstanceAs (Decidable (∃ m ∈ d.memberships.rows, _))

/-- The request is decided; the user of an approved one has a membership. -/
structure JoinRequest.Answered (d : CampusDb) (r : JoinRequest) : Prop where
  decided : r.status ≠ .pending
  joined : r.status = .approved → d.IsMember r.organizationId r.userId

/-- Every join request is answered. -/
def CampusDb.Answered (d : CampusDb) : Prop := ∀ r ∈ d.joinRequests.rows, r.Answered d

/-- What the operation does was done before: it adds somebody who is a member, or looks for a request that waits. -/
def JoinOp.Idle (d : CampusDb) : JoinOp → Prop
  | addMember organizationId dto _ => d.IsMember organizationId dto.userId
  | requestToJoin userId organizationId _ _ _ => d.IsMember organizationId userId
  | reviewJoinRequest .. | cancelJoinRequest .. => True
  | updateMember .. | removeMember .. => False

/-! ## What a statement does to the requests -/

namespace CampusStmt

/-- The statement answers the requests that it writes. -/
def Answers (d : CampusDb) : CampusStmt → Prop
  | upsertJoinRequest r => r.Answered d
  | updateJoinRequest .. => False
  | _ => True

end CampusStmt

/-- The membership is of the same user in the same organization. -/
def SamePair (m m' : Membership) : Prop := m'.organizationId = m.organizationId ∧ m'.userId = m.userId

theorem samePair_refl (m : Membership) : SamePair m m := ⟨rfl, rfl⟩

/-- Every membership is still there, and so the requests stay answered. -/
structure Later (d d' : CampusDb) : Prop where
  members : Table.Grows SamePair d.memberships d'.memberships
  answered : d.Answered → d'.Answered

section Later

variable {d d' : CampusDb} {organizationId userId : String} {w : CampusStmt}

theorem isMember_iff : d.IsMember organizationId userId ↔ (d.membershipOf organizationId userId).isSome := by
  unfold CampusDb.IsMember CampusDb.membershipOf Table.findFirst
  rw [List.find?_isSome]
  simp

theorem isMember_of_grows (grows : Table.Grows SamePair d.memberships d'.memberships)
    (h : d.IsMember organizationId userId) : d'.IsMember organizationId userId := by
  obtain ⟨m, mem, organization, user⟩ := h
  obtain ⟨m', found, sameOrganization, sameUser⟩ := grows m.id m (Table.find_of_mem mem)
  exact ⟨m', Table.find_mem found, sameOrganization.trans organization, sameUser.trans user⟩

theorem JoinRequest.Answered.later {r : JoinRequest} (h : r.Answered d)
    (grows : Table.Grows SamePair d.memberships d'.memberships) : r.Answered d' :=
  ⟨h.decided, fun approved => isMember_of_grows grows (h.joined approved)⟩

theorem Later.refl (d : CampusDb) : Later d d := ⟨Table.Grows.refl samePair_refl _, fun h => h⟩

theorem Later.trans {d'' : CampusDb} (h : Later d d') (h' : Later d' d'') : Later d d'' :=
  ⟨Table.Grows.trans (fun a b => ⟨b.1.trans a.1, b.2.trans a.2⟩) h.members h'.members,
    fun answered => h'.answered (h.answered answered)⟩

theorem guarded_later : Guarded (C := CampusCall) (R := CampusCall.Reply) Later fun _ => False :=
  ⟨Later.refl, Later.trans, fun h => h.elim⟩

theorem grows_apply (w : CampusStmt) (d : CampusDb) :
    Table.Grows SamePair d.memberships (w.apply d).memberships := by
  have same : Table.Grows SamePair d.memberships d.memberships := Table.Grows.refl samePair_refl _
  cases w with
  | createMembership m check => exact Table.grows_insert samePair_refl d.memberships m
  | updateMembership seen patch check =>
    exact Table.grows_modify (f := patch.apply) (fun _ => rfl) samePair_refl fun _ _ => ⟨rfl, rfl⟩
  | upsertMembership m =>
    simp only [CampusStmt.apply]
    split
    · exact Table.grows_modify (t := d.memberships) (f := Membership.rejoin m.joinedSessionId) (fun _ => rfl)
        samePair_refl fun _ _ => ⟨rfl, rfl⟩
    · exact Table.grows_insert samePair_refl d.memberships m
  | leaveMemberships user institutionId sessionId =>
    refine Table.grows_mapRows (d.leave_id user institutionId sessionId) fun m _ => ?_
    unfold CampusDb.leave
    split <;> exact ⟨rfl, rfl⟩
  | upsertJoinRequest r =>
    simp only [CampusStmt.apply]
    split <;> exact same
  | upsertOrganization o =>
    simp only [CampusStmt.apply]
    split <;> exact same
  | _ => exact same

/-- A request after the statement was there before, or is one that the statement answers. -/
theorem answered_apply (answered : d.Answered) (answers : w.Answers d) :
    ∀ r ∈ (w.apply d).joinRequests.rows, r.Answered d := by
  cases w with
  | upsertJoinRequest new =>
    simp only [CampusStmt.apply]
    split
    · rename_i old found
      refine Table.forall_modify (f := JoinRequest.decide new.status) (fun _ => rfl) answered fun r hr => ?_
      obtain rfl : r = old := by
        have mem := List.mem_of_find?_eq_some found
        exact Table.eq_of_key (Table.find_mem hr) mem (Table.find_key hr)
      have pair := List.find?_some found
      simp only [decide_eq_true_eq] at pair
      refine ⟨answers.decided, fun approved => ?_⟩
      show d.IsMember r.organizationId r.userId
      rw [pair.1, pair.2]
      exact answers.joined approved
    · exact Table.forall_insert answered answers
  | updateJoinRequest id status => exact answers.elim
  | deleteJoinRequest id => exact fun r mem => answered r (List.mem_filter.1 mem).1
  | upsertMembership m =>
    simp only [CampusStmt.apply]
    split <;> exact answered
  | upsertOrganization o =>
    simp only [CampusStmt.apply]
    split <;> exact answered
  | _ => exact answered

theorem later_apply (answers : w.Answers d) : Later d (w.apply d) :=
  ⟨grows_apply w d, fun answered r mem => (answered_apply answered answers r mem).later (grows_apply w d)⟩

theorem CampusStmt.Answers.later (answers : w.Answers d) (h : Later d d') : w.Answers d' := by
  cases w with
  | upsertJoinRequest r => exact JoinRequest.Answered.later answers h.members
  | updateJoinRequest id status => exact answers.elim
  | _ => trivial

theorem later_applyAll {F : List CampusStmt} (answers : ∀ w ∈ F, w.Answers d) :
    Later d (Database.applyAll F d) := by
  induction F generalizing d with
  | nil => exact Later.refl d
  | cons w F ih =>
    have first : Later d (w.apply d) := later_apply (answers w List.mem_cons_self)
    refine first.trans (ih fun x mem => ?_)
    exact (answers x (List.mem_cons_of_mem w mem)).later first

/-- A membership that is created is there. -/
theorem isMember_createMembership {m : Membership} {check : MembershipCheck}
    (allowed : (CampusStmt.createMembership m check).check d = none) :
    ((CampusStmt.createMembership m check).apply d).IsMember m.organizationId m.userId := by
  have free : d.memberships.find m.id = none := by
    simp only [CampusStmt.check, CampusStmt.first, CampusStmt.unique, Option.or_eq_none_iff, ite_eq_right_iff,
      reduceCtorEq, imp_false, not_or] at allowed
    exact Option.not_isSome_iff_eq_none.1 allowed.1.1
  refine ⟨m, ?_, rfl, rfl⟩
  show m ∈ (d.memberships.insert m).rows
  rw [Table.insert_rows free]
  exact List.mem_append_right _ (List.mem_singleton_self m)

end Later

/-! ## What the operations commit -/

/-- The statements answer the requests; an operation that is idle executes none. -/
def Admitted (idle : Prop) (d : CampusDb) (F : List CampusStmt) : Prop := ∀ w ∈ F, ¬idle ∧ w.Answers d

/-- From state `s`, the program adds no member twice and leaves no request to a review. -/
abbrev Joins (idle : Prop) (s : CampusDb) (p : CampusAction Unit) : Prop :=
  Upholds Later (Admitted idle) s p fun _ _ => True

section Operations

open OrganizationsService

variable {idle : Prop} {s : CampusDb}

theorem admitted_nil (d : CampusDb) : Admitted idle d [] := fun _ mem => (List.not_mem_nil mem).elim

theorem upholds_statement {w : CampusStmt} {S : CampusDb → Unit → Prop} (busy : ¬idle) (answers : w.Answers s)
    (after : ∀ d, Later s d → w.check d = none → S (w.apply d) ()) :
    Upholds Later (Admitted idle) s (statement w : CampusAction Unit) S := by
  refine .statement guarded_later fun d hd allowed => ?_
  have fits : w.Answers d := answers.later hd
  refine ⟨fun x mem => ?_, later_apply fits, after d hd allowed⟩
  rw [List.mem_singleton.1 mem]
  exact ⟨busy, fits⟩

theorem joins_invalidate : Joins idle s CacheService.invalidate :=
  .request guarded_later (c := CampusCall.invalidate) fun _ _ _ => trivial

theorem joins_statement {w : CampusStmt} (busy : ¬idle) (answers : w.Answers s) : Joins idle s (statement w) :=
  upholds_statement busy answers fun _ _ _ => trivial

/-- What is written is logged, and the cache dropped. -/
theorem joins_recorded (busy : ¬idle) :
    Joins idle s ((statement .createActivityLog).bind fun _ => CacheService.invalidate) :=
  .bind guarded_later (joins_statement busy trivial) fun _ _ _ _ => joins_invalidate

theorem joins_ensureStudentProfile (userId : String) (membershipType : MembershipType) :
    Joins idle s (ensureStudentProfile userId membershipType) := by
  refine .when guarded_later (fun _ => ?_) fun _ => trivial
  exact .outside_bind guarded_later admitted_nil fun d d' _ _ => .ensure guarded_later fun _ => trivial

theorem upholds_assert (userId : String) (organization : Organization) (membershipType : MembershipType) :
    Upholds Later (Admitted idle) s (assertSingleAcademicOrganizationMembership userId organization membershipType)
      fun _ _ => True := by
  unfold assertSingleAcademicOrganizationMembership
  split
  · exact .ret guarded_later trivial
  · refine .outside_bind guarded_later admitted_nil fun d d' _ _ => ?_
    exact .ensure_bind guarded_later fun _ => .ret guarded_later trivial

theorem joins_leaveDraft (busy : ¬idle) (organization : Organization) : Joins idle s (leaveDraft organization) := by
  refine .outside_bind guarded_later admitted_nil fun d d' _ _ => ?_
  refine .when guarded_later (fun _ => ?_) fun _ => trivial
  exact joins_statement busy trivial

/-- A user who has no membership was no member before. -/
theorem busy_of_none {d : CampusDb} {organizationId userId : String} (later : Later s d)
    (none : (d.membershipOf organizationId userId).isNone) : ¬s.IsMember organizationId userId := by
  intro member
  have found := isMember_iff.1 (isMember_of_grows later.members member)
  rw [Option.isNone_iff_eq_none.1 none] at found
  cases found

theorem joins_addMember (organizationId : String) (dto : AddMemberDto) (newId : String) :
    Joins (s.IsMember organizationId dto.userId) s (addMember organizationId dto newId) := by
  unfold addMember
  refine .find_bind guarded_later admitted_nil fun d₁ d₂ organization h₁ h₂ _ => ?_
  refine .find_bind guarded_later admitted_nil fun d₃ d₄ _ h₃ h₄ _ => ?_
  refine .bind guarded_later (S := fun _ _ => True) ?_ fun d₅ _ h₅ _ => ?_
  · refine .whenSome guarded_later (fun id _ => ?_) fun _ => trivial
    refine .find_bind guarded_later admitted_nil fun _ _ session _ _ _ => ?_
    exact .ensure guarded_later fun _ => trivial
  refine .outside_bind guarded_later admitted_nil fun d₆ d₇ h₆ h₇ => .ensure_bind guarded_later fun none => ?_
  have seen : Later s d₆ := (((h₁.trans h₂).trans (h₃.trans h₄)).trans h₅).trans h₆
  have busy : ¬s.IsMember organizationId dto.userId := busy_of_none seen none
  refine .bind guarded_later (joins_ensureStudentProfile _ _) fun _ _ _ _ => ?_
  refine .bind guarded_later (upholds_assert _ _ _) fun _ check _ _ => ?_
  refine .bind guarded_later (joins_statement busy trivial) fun _ _ _ _ => ?_
  refine .bind guarded_later (joins_leaveDraft busy _) fun _ _ _ _ => ?_
  exact joins_recorded busy

theorem joins_updateMember (organizationId membershipId : String) (dto : UpdateMemberDto) :
    Joins False s (updateMember organizationId membershipId dto) := by
  unfold updateMember
  refine .find_bind guarded_later admitted_nil fun _ _ membership _ _ _ => ?_
  extract_lets resultingStatus resultingMembershipType update
  have updated (check : Option MembershipCheck) (d : CampusDb) : Joins False d (update check) := by
    refine .bind guarded_later (joins_statement id trivial) fun _ _ _ _ => ?_
    exact joins_recorded id
  split
  · refine .find_bind guarded_later admitted_nil fun _ _ organization _ _ _ => ?_
    exact .bind guarded_later (upholds_assert _ _ _) fun _ check _ _ => updated _ _
  · exact updated none _

theorem joins_removeMember (organizationId membershipId : String) :
    Joins False s (removeMember organizationId membershipId) := by
  refine .find_bind guarded_later admitted_nil fun _ _ membership _ _ _ => ?_
  refine .bind guarded_later (joins_statement id trivial) fun _ _ _ _ => ?_
  exact joins_recorded id

theorem joins_requestToJoin (userId organizationId : String) (membershipType : Option MembershipType)
    (newId newRequestId : String) : Joins (s.IsMember organizationId userId) s
      (requestToJoin userId organizationId membershipType newId newRequestId) := by
  unfold requestToJoin
  refine .find_bind guarded_later admitted_nil fun d₁ d₂ organization h₁ h₂ _ => ?_
  refine .ensure_bind guarded_later fun _ => ?_
  refine .find_bind guarded_later admitted_nil fun d₃ d₄ _ h₃ h₄ _ => ?_
  refine .outside_bind guarded_later admitted_nil fun d₅ d₆ h₅ h₆ => .ensure_bind guarded_later fun none => ?_
  have seen : Later s d₅ := ((h₁.trans h₂).trans (h₃.trans h₄)).trans h₅
  have busy : ¬s.IsMember organizationId userId := busy_of_none seen none
  refine .outside_bind guarded_later admitted_nil fun _ _ _ _ => ?_
  refine .bind guarded_later (S := fun _ _ => True) ?_ fun _ _ _ _ => ?_
  · refine .whenSome guarded_later (fun r _ => ?_) fun _ => trivial
    refine .ensure_bind guarded_later fun _ => .ensure_bind guarded_later fun _ => ?_
    exact joins_statement busy trivial
  refine .bind guarded_later (joins_ensureStudentProfile _ _) fun _ _ _ _ => ?_
  refine .bind guarded_later (upholds_assert _ _ _) fun _ check _ _ => ?_
  -- the request is approved after the membership is there
  refine .bind guarded_later (S := fun d _ => d.IsMember organizationId userId)
    (upholds_statement busy trivial fun _ _ allowed => isMember_createMembership allowed) fun _ _ _ member => ?_
  refine .bind guarded_later (joins_statement busy ?_) fun _ _ _ _ => ?_
  · exact ⟨fun pending => RequestStatus.noConfusion pending, fun _ => member⟩
  refine .bind guarded_later (S := fun _ _ => True) ?_ fun _ _ _ _ => ?_
  · exact .when guarded_later (fun _ => joins_leaveDraft busy _) fun _ => trivial
  exact joins_recorded busy

/-- A request that is found is not pending. -/
theorem not_pending {d : CampusDb} (answered : s.Answered) (later : Later s d) {id : String} {r : JoinRequest}
    (found : d.joinRequests.find id = some r) : r.status ≠ .pending :=
  (later.answered answered r (Table.find_mem found)).decided

theorem joins_reviewJoinRequest (answered : s.Answered) (requestId adminUserId : String) (status : RequestStatus)
    (newId : String) : Joins True s (reviewJoinRequest requestId adminUserId status newId) := by
  unfold reviewJoinRequest
  refine .find_bind guarded_later admitted_nil fun d d' joinRequest hd _ found => ?_
  refine .ensure_bind guarded_later fun pending => ?_
  obtain ⟨r, hr, organization⟩ := Option.bind_eq_some_iff.1 found
  obtain ⟨o, -, rfl⟩ := Option.map_eq_some_iff.1 organization
  exact (not_pending answered hd hr pending).elim

theorem joins_cancelJoinRequest (answered : s.Answered) (userId requestId : String) :
    Joins True s (cancelJoinRequest userId requestId) := by
  refine .find_bind guarded_later admitted_nil fun d d' joinRequest hd _ found => ?_
  refine .ensure_bind guarded_later fun _ => .ensure_bind guarded_later fun pending => ?_
  exact (not_pending answered hd found pending).elim

theorem JoinOp.joins (answered : s.Answered) (op : JoinOp) : Joins (op.Idle s) s op.program := by
  cases op with
  | addMember organizationId dto newId => exact joins_addMember organizationId dto newId
  | updateMember organizationId membershipId dto => exact joins_updateMember organizationId membershipId dto
  | removeMember organizationId membershipId => exact joins_removeMember organizationId membershipId
  | requestToJoin userId organizationId membershipType newId newRequestId =>
    exact joins_requestToJoin userId organizationId membershipType newId newRequestId
  | reviewJoinRequest requestId adminUserId status newId =>
    exact joins_reviewJoinRequest answered requestId adminUserId status newId
  | cancelJoinRequest userId requestId => exact joins_cancelJoinRequest answered userId requestId

end Operations

/-- What the operations have done since the state `db`. -/
structure Kept (db : CampusDb) (ops : List JoinOp) (d : CampusDb)
    (log : List (Commit CampusDb CampusStmt)) : Prop where
  later : Later db d
  idle : ∀ e ∈ log, ∀ op, ops[e.thread]? = some op → op.Idle db → e.writes = []

/-- **Requests are answered when they are made**: in every interleaving, from a state in which every request is
answered, every request is answered in every state reached. So no review and no cancellation writes anything, and
nothing is written to add a user who has a membership, not even one that was left. -/
theorem requests_answered_at_once {db : CampusDb} {x : Surroundings} {ops : List JoinOp} {c : CampusSystem}
    (answered : db.Answered)
    (run : Reaches (fun _ _ => True) (Config.start db x (ops.map JoinOp.program)) c) :
    c.db.Answered ∧
      (∀ organizationId userId, db.IsMember organizationId userId → c.db.IsMember organizationId userId) ∧
      ∀ e ∈ c.log, ∀ op, ops[e.thread]? = some op → op.Idle db → e.writes = [] := by
  have kept : Kept db ops c.db c.log := by
    refine run.induct_of_calls guarded_later (Ψ := fun op => Admitted (op.Idle db)) (JoinOp.joins answered)
      (Kept db ops) ⟨Later.refl db, fun e mem => (List.not_mem_nil mem).elim⟩ ?_
    intro c i nested F op hop admitted _ _ h
    have later : Later c.db (Database.applyAll F c.db) := later_applyAll fun w mem => (admitted w mem).2
    refine ⟨later, h.later.trans later, fun e mem op' hop' idle => ?_⟩
    obtain old | new := List.mem_append.1 mem
    · exact h.idle e old op' hop' idle
    · rw [List.mem_singleton.1 new] at hop' ⊢
      obtain rfl := Option.some.inj (hop.symm.trans hop')
      exact List.eq_nil_iff_forall_not_mem.2 fun w hw => (admitted w hw).1 idle
  exact ⟨kept.later.answered answered, fun _ _ => isMember_of_grows kept.later.members, kept.idle⟩

/-- A club that bola has left. -/
def chessClub : CampusDb where
  users := ["ada", "bola", "dean"]
  organizations := ⟨[
    { id := "chess", institutionId := some "inst", name := "Chess", slug := "chess", type := .club,
      status := .active }], by decide⟩
  memberships := ⟨[
    { id := "m1", organizationId := "chess", userId := "bola", membershipType := .member,
      status := .left }], by decide⟩
  joinRequests := ⟨[{ id := "r1", organizationId := "chess", userId := "bola", status := .approved }], by decide⟩
  permissions := [("dean", "organization:manage_members", "chess")]

/-- Ada and bola ask to join, and the dean reviews the request of bola. -/
def chessRequests : List JoinOp :=
  [.requestToJoin "ada" "chess" (some .member) "m2" "r2", .requestToJoin "bola" "chess" (some .member) "m3" "r3",
    .reviewJoinRequest "r1" "dean" .approved "m4"]

/-- Only ada joins. -/
theorem chessRequests_answered : ∃ c : CampusSystem,
    Reaches (fun _ _ => True) (Config.start chessClub Surroundings.mk (chessRequests.map JoinOp.program)) c ∧
    c.threads.map Thread.returned = [true, false, false] ∧
    c.db.memberships.rows.map Membership.userId = ["bola", "ada"] ∧
    c.db.Answered ∧
    (∀ organizationId userId, chessClub.IsMember organizationId userId → c.db.IsMember organizationId userId) ∧
    ∀ e ∈ c.log, ∀ op, chessRequests[e.thread]? = some op → op.Idle chessClub → e.writes = [] := by
  have answered : chessClub.Answered := by
    intro r mem
    obtain rfl := List.mem_singleton.1 mem
    exact ⟨by decide, fun _ => by decide⟩
  obtain ⟨c, run, returned, members⟩ := Reaches.of_replay_any (fun _ _ => True)
    (Config.start chessClub Surroundings.mk (chessRequests.map JoinOp.program))
    (turns [(1, 3), (0, 22), (2, 3), (1, 6)])
    (fun c : CampusSystem => c.threads.map Thread.returned = [true, false, false] ∧
      c.db.memberships.rows.map Membership.userId = ["bola", "ada"]) (by decide +kernel)
  exact ⟨c, run, returned, members, requests_answered_at_once answered run⟩

end Heightt.Campus
