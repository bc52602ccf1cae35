import Heightt.Campus.Organizations
import Heightt.ReadCommitted.Executes

/-!
# The status of an organization

`updateOrganization` validates a new status against the one it has read; activation,
archiving and the review of an approval request write theirs whatever the table says.
A review finds the request pending before its transaction, not in it.
-/

namespace Heightt.Campus

open Store ReadCommitted Prog Database OrganizationsService ApprovalsService

inductive StatusOp where
  | updateOrganization (id userId : String) (dto : UpdateOrganizationDto)
  | activateOrganization (id : String)
  | archiveOrganization (id : String)
  | deleteOrganization (id userId : String)
  | review (id : String) (status : ReviewStatus) (rejectionReason : Option String)
  deriving DecidableEq

def StatusOp.program : StatusOp → CampusAction Unit
  | updateOrganization id userId dto => OrganizationsService.updateOrganization id userId dto
  | activateOrganization id => OrganizationsService.activateOrganization id
  | archiveOrganization id => OrganizationsService.archiveOrganization id
  | deleteOrganization id userId => OrganizationsService.deleteOrganization id userId
  | review id status rejectionReason => ApprovalsService.review id status rejectionReason

/-! ## The discipline -/

namespace CampusStmt

/-- The statement decides the approval request. -/
def decides (id : String) : CampusStmt → Bool
  | updateApprovalRequest i _ _ => i = id
  | _ => false

def approves : CampusStmt → Bool
  | updateApprovalRequest _ status _ => status = .approved
  | _ => false

end CampusStmt

/-- The commits that decide the approval request. -/
def decisions (log : List (Commit CampusDb CampusStmt)) (id : String) : Nat :=
  log.countP fun e => e.writes.any (CampusStmt.decides id)

/-- Every organization was there before, and its status stays or changes as the table allows. -/
def Allowed (d d' : CampusDb) : Prop :=
  ∀ id o', d'.organizations.find id = some o' → ∃ o, d.organizations.find id = some o ∧
    (o'.status = o.status ∨ o'.status ∈ validTransitions o.status)

/-- Organizations that are ARCHIVED stay so. -/
def StaysArchived (d d' : CampusDb) : Prop :=
  ∀ id o o', d.organizations.find id = some o → o.status = .archived → d'.organizations.find id = some o' →
    o'.status = .archived

/-- An organization that `F` approves is neither archived nor deleted. -/
def RevivesNone (F : List CampusStmt) (d : CampusDb) : Prop :=
  F.any CampusStmt.approves = true → ∀ id seen patch, CampusStmt.updateOrganization id seen patch ∈ F →
    ∀ o ∈ d.organizations.find id, o.status ≠ .archived ∧ o.isDeleted = false

/-- What the commits so far have done to the statuses, up to the state `d`. -/
structure Disciplined (d : CampusDb) (log : List (Commit CampusDb CampusStmt)) : Prop where
  transitions : ∀ e ∈ log, Allowed e.before (applyAll e.writes e.before)
  terminal : ∀ e ∈ log, StaysArchived e.before d
  once : ∀ id, decisions log id ≤ 1
  revives : ∀ e ∈ log, RevivesNone e.writes e.before

/-! ## What the operations commit -/

def UpdateOrganizationDto.patch (dto : UpdateOrganizationDto) : OrganizationPatch :=
  { name := dto.name, slug := dto.slug, description := dto.description, logo := dto.logo, type := dto.type,
    scope := dto.scope, facultyId := dto.facultyId, departmentId := dto.departmentId,
    academicLevelId := dto.academicLevelId, academicSessionId := dto.academicSessionId,
    status := dto.status }

/-- The transaction that an operation is about, besides the activity log. -/
inductive StatusOp.Writes : StatusOp → List CampusStmt → Prop where
  | updateOrganization {id userId : String} {dto : UpdateOrganizationDto} {seen : Organization} :
    (∀ status ∈ dto.status, status ∈ validTransitions seen.status) →
    Writes (.updateOrganization id userId dto) [.updateOrganization id (some seen) dto.patch]
  | activateOrganization {id : String} {seen : Organization} :
    Writes (.activateOrganization id) [.updateOrganization id (some seen) { status := some .active }]
  | archiveOrganization {id : String} {seen : Organization} :
    Writes (.archiveOrganization id) [.updateOrganization id (some seen) { status := some .archived }]
  | deleteOrganization {id userId : String} : Writes (.deleteOrganization id userId) [.deleteOrganization id]
  | review {id : String} {status : ReviewStatus} {rejectionReason reason : Option String} {entityId : String}
    {isActive : Bool} :
    Writes (.review id status rejectionReason)
      [.updateOrganization entityId none (states status), .updateAdmins entityId isActive,
        .updateApprovalRequest id status.request reason]

/-- Every transaction of an operation. -/
def StatusOp.Commits (op : StatusOp) (F : List CampusStmt) : Prop :=
  F = [] ∨ F = [.createActivityLog] ∨ op.Writes F

section Operations

variable {op : StatusOp} {α : Type}

theorem commits_outside (f : CampusDb → α) :
    Makes (Committing op.Commits) (outside f : CampusAction α) fun _ => True :=
  committing_outside (fun _ => trivial) (.inl rfl)

theorem commits_orThrow (o : Option α) (e : CampusError) :
    Makes (Committing op.Commits) (orThrow o e : CampusAction α) fun _ => True := .orThrow fun _ _ => trivial

theorem commits_log : Makes (Committing op.Commits) (statement .createActivityLog : CampusAction Unit) fun _ => True :=
  committing_statement (.inr (.inl rfl))

theorem commits_invalidate : Makes (Committing op.Commits) CacheService.invalidate fun _ => True :=
  committing_request (C := CampusCall) .invalidate

theorem commits_own {w : CampusStmt} (hw : op.Writes [w]) :
    Makes (Committing op.Commits) (statement w : CampusAction Unit) fun _ => True :=
  committing_statement (.inr (.inr hw))

theorem commits_updateOrganization (id userId : String) (dto : UpdateOrganizationDto) :
    Makes (Committing (StatusOp.updateOrganization id userId dto).Commits)
      (OrganizationsService.updateOrganization id userId dto) fun _ => True := by
  unfold OrganizationsService.updateOrganization
  refine (commits_outside _).bind fun _ _ => (commits_orThrow _ _).bind fun organization _ => ?_
  refine (commits_outside _).bind fun _ _ => (Makes.ensure _).bind fun _ _ => ?_
  refine Makes.bind (.whenSome fun _ _ => .when fun _ => ?_) fun _ _ => ?_
  · exact (commits_outside _).bind fun _ _ => (Makes.ensure _).mono (fun _ h => h) fun _ _ => trivial
  refine Makes.bind (.whenSome fun _ _ => .when fun _ => ?_) fun _ _ => ?_
  · refine (commits_outside _).bind fun _ _ => (commits_orThrow _ _).bind fun _ _ => ?_
    exact (Makes.ensure _).mono (fun _ h => h) fun _ _ => trivial
  have validated : Makes (Committing (StatusOp.updateOrganization id userId dto).Commits)
      (whenSome dto.status fun status => validateStatusTransition organization.status status)
      fun _ => ∀ status ∈ dto.status, status ∈ validTransitions organization.status := by
    cases new : dto.status with
    | none => exact .ret fun _ mem => by cases mem
    | some status =>
      refine (Makes.ensure _).mono (fun _ h => h) fun _ allowed s mem => ?_
      rw [← Option.some.inj mem]
      exact allowed
  refine validated.bind fun _ allowed => Makes.bind (commits_own (.updateOrganization allowed)) fun _ _ => ?_
  exact commits_invalidate.bind fun _ _ => commits_log

theorem commits_activateOrganization (id : String) :
    Makes (Committing (StatusOp.activateOrganization id).Commits) (OrganizationsService.activateOrganization id)
      fun _ => True := by
  unfold OrganizationsService.activateOrganization
  refine (commits_outside _).bind fun _ _ => (commits_orThrow _ _).bind fun organization _ => ?_
  refine (Makes.ensure _).bind fun _ _ => (Makes.ensure _).bind fun _ _ => ?_
  exact Makes.bind (commits_own .activateOrganization) fun _ _ => commits_log.bind fun _ _ => commits_invalidate

theorem commits_archiveOrganization (id : String) :
    Makes (Committing (StatusOp.archiveOrganization id).Commits) (OrganizationsService.archiveOrganization id)
      fun _ => True := by
  unfold OrganizationsService.archiveOrganization
  refine (commits_outside _).bind fun _ _ => (commits_orThrow _ _).bind fun organization _ => ?_
  refine (Makes.ensure _).bind fun _ _ => ?_
  exact Makes.bind (commits_own .archiveOrganization) fun _ _ => commits_log.bind fun _ _ => commits_invalidate

theorem commits_deleteOrganization (id userId : String) :
    Makes (Committing (StatusOp.deleteOrganization id userId).Commits)
      (OrganizationsService.deleteOrganization id userId) fun _ => True := by
  unfold OrganizationsService.deleteOrganization
  refine (commits_outside _).bind fun _ _ => (commits_orThrow _ _).bind fun organization _ => ?_
  refine (commits_outside _).bind fun _ _ => (Makes.ensure _).bind fun _ _ => (Makes.ensure _).bind fun _ _ => ?_
  exact Makes.bind (commits_own .deleteOrganization) fun _ _ => commits_invalidate.bind fun _ _ => commits_log

theorem commits_review (id : String) (status : ReviewStatus) (rejectionReason : Option String) :
    Makes (Committing (StatusOp.review id status rejectionReason).Commits)
      (ApprovalsService.review id status rejectionReason) fun _ => True := by
  unfold ApprovalsService.review
  refine (commits_outside _).bind fun _ _ => (commits_orThrow _ _).bind fun request _ => ?_
  refine (Makes.ensure _).bind fun _ _ => (Makes.ensure _).bind fun _ _ => ?_
  refine Makes.bind (S := fun _ => True) (.transaction (G := fun _ F =>
    (StatusOp.review id status rejectionReason).Writes F) (.exec_bind (.exec_bind (.exec .review))) ?_)
    fun _ _ => ?_
  · exact fun _ _ F writes => ⟨.inr (.inr writes), trivial⟩
  · refine (commits_outside _).bind fun creator _ => .whenSome fun userId _ => ?_
    exact committing_request (C := CampusCall) (.notify userId)

theorem commits_program (op : StatusOp) : Makes (Committing op.Commits) op.program fun _ => True := by
  cases op with
  | updateOrganization id userId dto => exact commits_updateOrganization id userId dto
  | activateOrganization id => exact commits_activateOrganization id
  | archiveOrganization id => exact commits_archiveOrganization id
  | deleteOrganization id userId => exact commits_deleteOrganization id userId
  | review id status rejectionReason => exact commits_review id status rejectionReason

end Operations

/-! ## What a commit keeps -/

/-- The statuses that the table lets become ACTIVE, and ACTIVE itself. -/
def activatable : List OrganizationStatus := [.pendingActivation, .active, .inactive, .suspended]

/-- The statuses that the table lets become ARCHIVED, and ARCHIVED itself. -/
def archivable : List OrganizationStatus := [.active, .inactive, .suspended, .archived]

namespace StatusOp

/-- How the operation, which has read `seen`, has to find the organization. -/
def Expects (op : StatusOp) (seen : Option Organization) (patch : OrganizationPatch) (o : Organization) : Prop :=
  match op with
  | updateOrganization .. => patch.status = none ∨ seen.map Organization.status = some o.status
  | activateOrganization _ => o.status ∈ activatable
  | archiveOrganization _ => o.status ∈ archivable
  | deleteOrganization .. => True
  | review _ .approved _ => o.status ∈ activatable ∧ o.isDeleted = false
  | review _ .rejected _ => o.status ∈ archivable

instance : (op : StatusOp) → (seen : Option Organization) → (patch : OrganizationPatch) → (o : Organization) →
    Decidable (op.Expects seen patch o)
  | updateOrganization .., seen, patch, o =>
    inferInstanceAs (Decidable (patch.status = none ∨ seen.map Organization.status = some o.status))
  | activateOrganization _, _, _, o => inferInstanceAs (Decidable (o.status ∈ activatable))
  | archiveOrganization _, _, _, o => inferInstanceAs (Decidable (o.status ∈ archivable))
  | deleteOrganization .., _, _, _ => inferInstanceAs (Decidable True)
  | review _ .approved _, _, _, o => inferInstanceAs (Decidable (o.status ∈ activatable ∧ o.isDeleted = false))
  | review _ .rejected _, _, _, o => inferInstanceAs (Decidable (o.status ∈ archivable))

/-- The statement finds the organization as the operation expects it, and a request that
it decides pending. -/
def Orderly (op : StatusOp) (d : CampusDb) : CampusStmt → Prop
  | .updateOrganization id seen patch => ∀ o ∈ d.organizations.find id, op.Expects seen patch o
  | .updateApprovalRequest id _ _ => ∀ r ∈ d.approvalRequests.find id, r.status = .pending
  | _ => True

end StatusOp

instance (op : StatusOp) (d : CampusDb) : (w : CampusStmt) → Decidable (op.Orderly d w)
  | .updateOrganization id seen patch =>
    inferInstanceAs (Decidable (∀ o ∈ d.organizations.find id, op.Expects seen patch o))
  | .updateApprovalRequest id _ _ =>
    inferInstanceAs (Decidable (∀ r ∈ d.approvalRequests.find id, r.status = .pending))
  | .deleteOrganization _ | .createMembership .. | .updateMembership .. | .upsertJoinRequest _
  | .updateJoinRequest .. | .deleteJoinRequest _ | .updateAdmins .. | .createActivityLog
  | .logInstitutionPromotion _ | .claimSession .. | .resumeSession _ | .createSession _ | .retireSessions ..
  | .upsertOrganization _ | .updateStudent .. | .createPromotion _ | .upsertRecord _ | .leaveMemberships ..
  | .upsertMembership _ => inferInstanceAs (Decidable True)

/-- What a commit does to statuses and requests. -/
structure Keeps (F : List CampusStmt) (d : CampusDb) : Prop where
  allowed : Allowed d (applyAll F d)
  revives : RevivesNone F d
  undecided : ∀ id, F.any (CampusStmt.decides id) = true →
    ∃ r, d.approvalRequests.find id = some r ∧ r.status = .pending
  decided : ∀ id r, (applyAll F d).approvalRequests.find id = some r → r.status = .pending →
    F.any (CampusStmt.decides id) = false ∧ ∃ r, d.approvalRequests.find id = some r ∧ r.status = .pending

section Keeps

variable {d : CampusDb} {F : List CampusStmt}

/-- Neither statuses nor requests change. -/
theorem keeps_of_same (organizations : (applyAll F d).organizations = d.organizations)
    (requests : (applyAll F d).approvalRequests = d.approvalRequests)
    (none : ∀ id, F.any (CampusStmt.decides id) = false) (approves : F.any CampusStmt.approves = false) :
    Keeps F d where
  allowed := by
    intro id o found
    rw [organizations] at found
    exact ⟨o, found, .inl rfl⟩
  revives := fun approved => by rw [approves] at approved; cases approved
  undecided := fun id decides => by rw [none] at decides; cases decides
  decided := fun id r found pending => ⟨none id, r, requests ▸ found, pending⟩

theorem allowed_updateOrganization {id : String} (seen : Option Organization) {patch : OrganizationPatch}
    (h : ∀ o ∈ d.organizations.find id, ∀ status ∈ patch.status,
      status = o.status ∨ status ∈ validTransitions o.status) :
    Allowed d ((CampusStmt.updateOrganization id seen patch).apply d) := by
  intro j o' found
  rw [find_updateOrganization] at found
  by_cases own : j = id
  · subst own
    rw [if_pos rfl] at found
    obtain ⟨o, there, rfl⟩ := Option.map_eq_some_iff.1 found
    refine ⟨o, there, ?_⟩
    cases new : patch.status with
    | none => exact .inl (by simp [OrganizationPatch.apply, new])
    | some status =>
      simp only [OrganizationPatch.apply, new, Option.getD_some]
      exact h o there status new
  · rw [if_neg own] at found
    exact ⟨o', found, .inl rfl⟩

/-- An update of an organization on its own. -/
theorem keeps_updateOrganization {id : String} {seen : Option Organization} {patch : OrganizationPatch}
    (h : ∀ o ∈ d.organizations.find id, ∀ status ∈ patch.status,
      status = o.status ∨ status ∈ validTransitions o.status) :
    Keeps [.updateOrganization id seen patch] d where
  allowed := allowed_updateOrganization seen h
  revives := fun approved => by cases approved
  undecided := fun _ decides => by cases decides
  decided := fun _ r found pending => ⟨rfl, r, found, pending⟩

theorem active_of_activatable {status : OrganizationStatus} (h : status ∈ activatable) :
    .active = status ∨ .active ∈ validTransitions status := by
  cases status <;> simp [activatable, validTransitions] at h ⊢

theorem archived_of_archivable {status : OrganizationStatus} (h : status ∈ archivable) :
    .archived = status ∨ .archived ∈ validTransitions status := by
  cases status <;> simp [archivable, validTransitions] at h ⊢

theorem find_updateApprovalRequest (id j : String) (status : RequestStatus) (reason : Option String) (d : CampusDb) :
    ((CampusStmt.updateApprovalRequest id status reason).apply d).approvalRequests.find j =
      if j = id then (d.approvalRequests.find j).map (ApprovalRequest.decide status reason)
      else d.approvalRequests.find j :=
  Table.find_modify d.approvalRequests id (ApprovalRequest.decide status reason) (fun _ => rfl) j

theorem keeps_review {id entityId : String} {status : ReviewStatus} {reason rejectionReason : Option String}
    {isActive : Bool}
    (orderly : ∀ o ∈ d.organizations.find entityId,
      (StatusOp.review id status rejectionReason).Expects none (states status) o)
    (pending : ∀ r ∈ d.approvalRequests.find id, r.status = .pending)
    (there : (d.approvalRequests.find id).isSome = true) :
    Keeps [.updateOrganization entityId none (states status), .updateAdmins entityId isActive,
      .updateApprovalRequest id status.request reason] d where
  allowed := by
    refine allowed_updateOrganization none fun o found new mem => ?_
    have expected := orderly o found
    cases status with
    | approved =>
      rw [← Option.some.inj mem]
      exact active_of_activatable expected.1
    | rejected =>
      rw [← Option.some.inj mem]
      exact archived_of_archivable expected
  revives := by
    intro approved j seen patch mem o found
    simp only [List.mem_cons, CampusStmt.updateOrganization.injEq, reduceCtorEq, List.not_mem_nil,
      or_false] at mem
    rw [mem.1] at found
    cases status with
    | approved =>
      obtain ⟨activates, present⟩ := orderly o found
      refine ⟨fun archived => ?_, present⟩
      rw [archived] at activates
      simp [activatable] at activates
    | rejected => cases approved
  undecided := by
    intro j decides
    simp only [List.any_cons, CampusStmt.decides, List.any_nil, Bool.or_false, Bool.false_or,
      decide_eq_true_eq] at decides
    obtain ⟨r, found⟩ := Option.isSome_iff_exists.1 there
    rw [← decides]
    exact ⟨r, found, pending r found⟩
  decided := by
    intro j r found still
    have found : ((CampusStmt.updateApprovalRequest id status.request reason).apply d).approvalRequests.find j =
      some r := found
    rw [find_updateApprovalRequest] at found
    by_cases own : j = id
    · rw [if_pos own] at found
      obtain ⟨r, -, rfl⟩ := Option.map_eq_some_iff.1 found
      cases status <;> cases still
    · rw [if_neg own] at found
      refine ⟨?_, r, found, still⟩
      simp [CampusStmt.decides, Ne.symm own]

theorem keeps_of_orderly {op : StatusOp} (commits : op.Commits F) (orderly : ∀ w ∈ F, op.Orderly d w)
    (valid : violation F d = none) : Keeps F d := by
  obtain rfl | rfl | writes := commits
  · exact keeps_of_same rfl rfl (fun _ => rfl) rfl
  · exact keeps_of_same rfl rfl (fun _ => rfl) rfl
  · cases writes with
    | @updateOrganization id userId dto seen validated =>
      refine keeps_updateOrganization fun o found status new => ?_
      obtain none | same := orderly _ List.mem_cons_self o found
      · rw [none] at new
        cases new
      · rw [← Option.some.inj same]
        exact .inr (validated status new)
    | @activateOrganization id seen =>
      refine keeps_updateOrganization fun o found status new => ?_
      rw [← Option.some.inj new]
      exact active_of_activatable (orderly _ List.mem_cons_self o found)
    | @archiveOrganization id seen =>
      refine keeps_updateOrganization fun o found status new => ?_
      rw [← Option.some.inj new]
      exact archived_of_archivable (orderly _ List.mem_cons_self o found)
    | @deleteOrganization id userId =>
      refine ⟨fun j o found => ?_, fun approved => ?_, fun _ decides => ?_,
        fun _ r found pending => ⟨rfl, r, found, pending⟩⟩
      · have found : (d.organizations.erase id).find j = some o := found
        rw [Table.find_erase] at found
        split at found
        · cases found
        · exact ⟨o, found, .inl rfl⟩
      · cases approved
      · cases decides
    | @review id status rejectionReason reason entityId isActive =>
      have there : (d.approvalRequests.find id).isSome = true := by
        have allowed := (violation_cons.1 (violation_cons.1 (violation_cons.1 valid).2).2).1
        have allowed : CampusStmt.existing (d.approvalRequests.find id).isSome = none := allowed
        unfold CampusStmt.existing at allowed
        split at allowed
        · assumption
        · cases allowed
      exact keeps_review (orderly _ List.mem_cons_self)
        (orderly _ (List.mem_cons_of_mem _ (List.mem_cons_of_mem _ List.mem_cons_self))) there

end Keeps

/-! ## The runs -/

/-- The operations find what they expect when they commit. -/
def Orders (ops : List StatusOp) (c : CampusSystem) : Effect CampusStmt CampusCall → Prop
  | .commit i _ F => ∀ op ∈ ops[i]?, ∀ w ∈ F, op.Orderly c.db w
  | _ => True

instance (ops : List StatusOp) (c : CampusSystem) :
    (eff : Effect CampusStmt CampusCall) → Decidable (Orders ops c eff)
  | .commit i _ F => inferInstanceAs (Decidable (∀ op ∈ ops[i]?, ∀ w ∈ F, op.Orderly c.db w))
  | .internal | .fault _ | .called .. | .unsent .. => inferInstanceAs (Decidable True)

section Runs

variable {d : CampusDb} {log : List (Commit CampusDb CampusStmt)} {F : List CampusStmt}

theorem decisions_append (e : Commit CampusDb CampusStmt) (id : String) :
    decisions (log ++ [e]) id =
      decisions log id + if e.writes.any (CampusStmt.decides id) = true then 1 else 0 := by
  unfold decisions
  rw [List.countP_append, List.countP_singleton]

/-- A request that is decided is not pending. -/
def Settled (d : CampusDb) (log : List (Commit CampusDb CampusStmt)) : Prop :=
  ∀ id r, d.approvalRequests.find id = some r → r.status = .pending → decisions log id = 0

theorem settled_step (settled : Settled d log) (keeps : Keeps F d) (i : Nat) :
    Settled (applyAll F d) (log ++ [⟨i, F, d⟩]) := by
  intro id r found pending
  obtain ⟨leaves, r, before, pending⟩ := keeps.decided id r found pending
  rw [decisions_append, settled id r before pending, if_neg]
  dsimp only
  rw [leaves]
  exact Bool.false_ne_true

theorem Disciplined.step (h : Disciplined d log) (settled : Settled d log) (keeps : Keeps F d) (i : Nat) :
    Disciplined (applyAll F d) (log ++ [⟨i, F, d⟩]) := by
  have stays {id : String} {o o' : Organization} (before : d.organizations.find id = some o)
      (archived : o.status = .archived) (after : (applyAll F d).organizations.find id = some o') :
      o'.status = .archived := by
    obtain ⟨o, found, allowed⟩ := keeps.allowed id o' after
    rw [before, Option.some.injEq] at found
    rw [← found, archived] at allowed
    obtain same | allowed := allowed
    · exact same
    · cases allowed
  refine ⟨fun e mem => ?_, fun e mem => ?_, fun id => ?_, fun e mem => ?_⟩
  · obtain mem | mem := List.mem_append.1 mem
    · exact h.transitions e mem
    · rw [List.mem_singleton.1 mem]
      exact keeps.allowed
  · obtain mem | mem := List.mem_append.1 mem
    · intro id o o' found archived found'
      obtain ⟨r, there, -⟩ := keeps.allowed id o' found'
      exact stays there (h.terminal e mem id o r found archived there) found'
    · rw [List.mem_singleton.1 mem]
      exact fun id o o' found archived found' => stays found archived found'
  · rw [decisions_append]
    split
    · rename_i decides
      obtain ⟨r, found, pending⟩ := keeps.undecided id decides
      rw [settled id r found pending]
    · exact h.once id
  · obtain mem | mem := List.mem_append.1 mem
    · exact h.revives e mem
    · rw [List.mem_singleton.1 mem]
      exact keeps.revives

/-- **The discipline of the statuses**, in every state of a run whose operations find
what they expect when they commit. -/
theorem disciplined {db : CampusDb} {x : Surroundings} {ops : List StatusOp} {c : CampusSystem}
    (run : Reaches (Orders ops) (Config.start db x (ops.map StatusOp.program)) c) : Disciplined c.db c.log := by
  have commits (i : Nat) (p : CampusAction Unit) (hi : (ops.map StatusOp.program)[i]? = some p) :
      Makes (Committing fun F => ∃ op, ops[i]? = some op ∧ op.Commits F) p fun _ => True := by
    rw [List.getElem?_map, Option.map_eq_some_iff] at hi
    obtain ⟨op, hop, rfl⟩ := hi
    refine (commits_program op).mono (fun ev within => ?_) fun _ h => h
    cases ev with
    | committed nested F => exact ⟨op, hop, within⟩
    | answered call r => trivial
    | failed call => trivial
  have kept : Disciplined c.db c.log ∧ Settled c.db c.log := by
    refine run.induct_of_committing (T := fun i F => ∃ op, ops[i]? = some op ∧ op.Commits F) commits
      (fun d log => Disciplined d log ∧ Settled d log) ?_ ?_
    · refine ⟨⟨fun _ mem => ?_, fun _ mem => ?_, fun _ => Nat.zero_le 1, fun _ mem => ?_⟩, fun _ _ _ _ => rfl⟩
      all_goals cases mem
    · rintro c i nested F ⟨op, hop, commits⟩ valid orders ⟨disciplined, settled⟩
      have keeps := keeps_of_orderly commits (orders op hop) valid
      exact ⟨disciplined.step settled keeps i, settled_step settled keeps i⟩
  exact kept.1

end Runs

/-- An ACTIVE choir that waits for the review of its approval request. -/
def choir : CampusDb where
  users := ["ada"]
  organizations := ⟨[{ id := "choir", name := "Choir", slug := "choir", type := .club, status := .active }],
    by decide⟩
  memberships := ⟨[⟨"m", "choir", "ada", .member, .active, true, none⟩], by decide⟩
  approvalRequests := ⟨[{ id := "q", entityId := "choir", submittedBy := "ada" }], by decide⟩
  permissions := [("ada", "organization:update", "choir")]

/-- The choir is suspended, activated again and approved. -/
theorem choir_disciplined : ∃ c : CampusSystem,
    Reaches (Orders [.updateOrganization "choir" "ada" { status := some .suspended },
        .activateOrganization "choir", .review "q" .approved none])
      (Config.start choir Surroundings.mk ([.updateOrganization "choir" "ada" { status := some .suspended },
        .activateOrganization "choir", .review "q" .approved none].map StatusOp.program)) c ∧
    c.threads.map Thread.returned = [true, true, true] ∧ Disciplined c.db c.log := by
  obtain ⟨c, run, returned⟩ := Reaches.of_replay_any (Orders [.updateOrganization "choir" "ada"
      { status := some .suspended }, .activateOrganization "choir", .review "q" .approved none])
    (Config.start choir Surroundings.mk ([.updateOrganization "choir" "ada" { status := some .suspended },
      .activateOrganization "choir", .review "q" .approved none].map StatusOp.program))
    (takeTurns Empty CampusError [(0, 13), (1, 10), (2, 12)])
    (fun c : CampusSystem => c.threads.map Thread.returned = [true, true, true]) (by decide +kernel)
  exact ⟨c, run, returned, disciplined run⟩

/-- A commit takes the organization from ARCHIVED to ACTIVE. -/
def Revived (id : String) (e : Commit CampusDb CampusStmt) : Prop :=
  (e.before.organizations.find id).map Organization.status = some .archived ∧
    ((applyAll e.writes e.before).organizations.find id).map Organization.status = some .active

instance (id : String) (e : Commit CampusDb CampusStmt) : Decidable (Revived id e) :=
  inferInstanceAs (Decidable (_ ∧ _))

theorem not_allowed_of_revived {id : String} {e : Commit CampusDb CampusStmt} (revived : Revived id e) :
    ¬Allowed e.before (applyAll e.writes e.before) := by
  obtain ⟨before, after⟩ := revived
  obtain ⟨o', found', active⟩ := Option.map_eq_some_iff.1 after
  intro allowed
  obtain ⟨o, found, step⟩ := allowed id o' found'
  rw [found, Option.map_some, Option.some.injEq] at before
  rw [before, active] at step
  simp [validTransitions] at step

/-- An archived choir is activated, with nothing else going on; and of two reviews that
have both found the request pending, the first rejects the choir and the second approves it. -/
theorem choir_revived :
    (∃ c : CampusSystem, Reaches (fun _ _ => True)
      (Config.start choir Surroundings.mk
        ([.archiveOrganization "choir", .activateOrganization "choir"].map StatusOp.program)) c ∧
      (∃ e ∈ c.log, ¬Allowed e.before (applyAll e.writes e.before)) ∧ ¬Disciplined c.db c.log) ∧
    ∃ c : CampusSystem, Reaches (fun _ _ => True)
      (Config.start choir Surroundings.mk
        ([.review "q" .approved none, .review "q" .rejected (some "no")].map StatusOp.program)) c ∧
      decisions c.log "q" = 2 ∧ (∃ e ∈ c.log, ¬RevivesNone e.writes e.before) ∧ ¬Disciplined c.db c.log := by
  constructor
  · obtain ⟨c, run, e, mem, revived⟩ := Reaches.of_replay_any (fun _ _ => True)
      (Config.start choir Surroundings.mk
        ([.archiveOrganization "choir", .activateOrganization "choir"].map StatusOp.program))
      (takeTurns Empty CampusError [(0, 10), (1, 10)])
      (fun c : CampusSystem => ∃ e ∈ c.log, Revived "choir" e) (by decide +kernel)
    have violated := not_allowed_of_revived revived
    exact ⟨c, run, ⟨e, mem, violated⟩, fun h => violated (h.transitions e mem)⟩
  · obtain ⟨c, run, twice, e, mem, approves, writes, archived⟩ := Reaches.of_replay_any (fun _ _ => True)
      (Config.start choir Surroundings.mk
        ([.review "q" .approved none, .review "q" .rejected (some "no")].map StatusOp.program))
      (takeTurns Empty CampusError [(0, 3), (1, 12), (0, 9)])
      (fun c : CampusSystem => decisions c.log "q" = 2 ∧ ∃ e ∈ c.log, e.writes.any CampusStmt.approves = true ∧
        .updateOrganization "choir" none (states .approved) ∈ e.writes ∧
        (e.before.organizations.find "choir").map Organization.status = some .archived) (by decide +kernel)
    obtain ⟨o, found, archived⟩ := Option.map_eq_some_iff.1 archived
    have violated : ¬RevivesNone e.writes e.before :=
      fun h => (h approves "choir" none (states .approved) writes o found).1 archived
    exact ⟨c, run, twice, ⟨e, mem, violated⟩, fun h => violated (h.revives e mem)⟩

end Heightt.Campus
