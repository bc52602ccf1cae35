import Heightt.Students.Verification

/-!
# The life of a verification request

Nothing asks who requests, the pending request is looked for before the new one is written, and
a decision looks neither at the request's state nor at the profile's. `Regular` says what the
endpoints miss; then requests are decided once, and the profile tells the last decision.
-/

namespace Heightt.Students

open Store ReadCommitted Prog Database StudentsService
open AdminGuard (Request activeAdmins)

inductive VerificationOp where
  | requestVerification (studentId userId : String) (documentUrl : Option String) (newId : String)
  | verifyStudent (req : Request String) (verificationId : String) (status notes : Option String)

namespace VerificationOp

def program : VerificationOp → StudentsAction Unit
  | requestVerification studentId userId documentUrl newId =>
    StudentsService.requestVerification studentId userId documentUrl newId
  | verifyStudent req verificationId status notes =>
    StudentsService.verifyStudent req verificationId status notes

/-- The user who calls. -/
def user : VerificationOp → Option String
  | requestVerification _ userId _ _ => some userId
  | verifyStudent req _ _ _ => req.user

end VerificationOp

abbrev StudentsLog := List (Commit StudentsDb StudentsStmt)

def begins (db : StudentsDb) (ops : List VerificationOp) : StudentsSystem :=
  Config.start db {} (ops.map VerificationOp.program)

/-! ## What the requests of a run should be -/

/-- The user is the student, or an admin in whose scope the student is. -/
def MayRequest (d : StudentsDb) (user : Option String) (studentId : String) : Prop :=
  ∃ userId ∈ user, (∃ s ∈ d.students.find studentId, s.userId = userId) ∨
    ∃ a ∈ activeAdmins d.permissions.toGuardDb userId,
      PermissionService.isResourceInAdminScope d.permissions a studentId = some true

instance (d : StudentsDb) (user : Option String) (studentId : String) : Decidable (MayRequest d user studentId) :=
  inferInstanceAs (Decidable (∃ userId ∈ user, (∃ s ∈ d.students.find studentId, s.userId = userId) ∨
    ∃ a ∈ activeAdmins d.permissions.toGuardDb userId,
      PermissionService.isResourceInAdminScope d.permissions a studentId = some true))

/-- A decision of a request, and the student it was of. -/
structure Decision where
  requestId : String
  studentId : String
  status : Option VerificationStatus
  deriving DecidableEq

/-- The decision that a statement makes in state `d`. -/
def StudentsStmt.decision (d : StudentsDb) : StudentsStmt → Option Decision
  | updateVerification id patch =>
    (d.verifications.find id).map fun v => ⟨id, v.studentId, patch.status⟩
  | createVerification _ | verifyProfile _ _ | createActivityLog _ _ => none

def decisions (log : StudentsLog) : List Decision :=
  log.flatMap fun e => e.writes.filterMap (StudentsStmt.decision e.before)

/-- How the last decision of a request of the student was. -/
def lastDecision (log : StudentsLog) (studentId : String) : Option (Option VerificationStatus) :=
  ((decisions log).filter fun k => k.studentId = studentId).getLast?.map Decision.status

/-- No student has two pending requests. -/
def OnePending (d : StudentsDb) : Prop :=
  ∀ v ∈ d.verifications.rows, ∀ w ∈ d.verifications.rows, v.studentId = w.studentId →
    v.status = .pending → w.status = .pending → v.id = w.id

structure VerificationLifecycle (ops : List VerificationOp) (d : StudentsDb) (log : StudentsLog) : Prop where
  pending : OnePending d
  once : ((decisions log).map Decision.requestId).Nodup
  fromPending : ∀ e ∈ log, ∀ id patch, .updateVerification id patch ∈ e.writes →
    ∃ v, e.before.verifications.find id = some v ∧ v.status = .pending
  verified : ∀ s ∈ d.students.rows,
    s.verificationStatus = .verified ↔ lastDecision log s.id = some (some .verified)
  requested : ∀ e ∈ log, ∀ v, .createVerification v ∈ e.writes →
    ∃ op, ops[e.thread]? = some op ∧ MayRequest e.before op.user v.studentId

/-! ## What the endpoints miss -/

/-- A request is made by a user who may, while none is pending; one that is pending and was not
decided is decided, and a verified profile stays verified. -/
def StudentsStmt.Regular (user : Option String) (d : StudentsDb) : StudentsStmt → Prop
  | createVerification v => MayRequest d user v.studentId ∧
      ∀ w ∈ d.verifications.rows, w.studentId = v.studentId → w.status ≠ .pending
  | updateVerification id patch => ∃ v ∈ d.verifications.find id, v.status = .pending ∧ v.verifiedAt = none ∧
      (patch.status ≠ some .verified → ∀ s ∈ d.students.find v.studentId, s.verificationStatus ≠ .verified)
  | verifyProfile _ _ | createActivityLog _ _ => True

instance (user : Option String) (d : StudentsDb) : (w : StudentsStmt) → Decidable (w.Regular user d)
  | .createVerification v => inferInstanceAs (Decidable (MayRequest d user v.studentId ∧
      ∀ w ∈ d.verifications.rows, w.studentId = v.studentId → w.status ≠ .pending))
  | .updateVerification id patch => inferInstanceAs (Decidable (∃ v ∈ d.verifications.find id,
      v.status = .pending ∧ v.verifiedAt = none ∧
        (patch.status ≠ some .verified → ∀ s ∈ d.students.find v.studentId, s.verificationStatus ≠ .verified)))
  | .verifyProfile _ _ | .createActivityLog _ _ => isTrue trivial

/-- Every commit is regular. -/
def Regular (ops : List VerificationOp) (c : StudentsSystem) : Effect StudentsStmt StudentsCall → Prop
  | .commit i _ F => ∀ op ∈ ops[i]?, ∀ w ∈ F, w.Regular op.user c.db
  | .internal | .fault _ | .called .. | .unsent .. => True

instance (ops : List VerificationOp) (c : StudentsSystem) :
    (eff : Effect StudentsStmt StudentsCall) → Decidable (Regular ops c eff)
  | .commit i _ F => inferInstanceAs (Decidable (∀ op ∈ ops[i]?, ∀ w ∈ F, w.Regular op.user c.db))
  | .internal | .fault _ | .called .. | .unsent .. => isTrue trivial

/-- No request yet, and nobody verified. -/
structure BeforeRequests (d : StudentsDb) : Prop where
  verifications : d.verifications.rows = []
  students : ∀ s ∈ d.students.rows, s.verificationStatus ≠ .verified

/-! ## What a call commits -/

/-- No request is deleted or moved to another student. -/
structure Grows (d d' : StudentsDb) : Prop where
  verifications : d.verifications.Grows (fun v v' => v'.studentId = v.studentId) d'.verifications

theorem Grows.refl (d : StudentsDb) : Grows d d :=
  ⟨.refl (R := fun v v' : StudentVerification => v'.studentId = v.studentId) (fun _ => rfl) _⟩

theorem Grows.trans {d d' d'' : StudentsDb} (h : Grows d d') (h' : Grows d' d'') : Grows d d'' :=
  ⟨h.verifications.trans (fun hab hbc => Eq.trans hbc hab) h'.verifications⟩

theorem grows_apply (w : StudentsStmt) (d : StudentsDb) : Grows d (w.apply d) := by
  cases w with
  | createVerification v =>
    exact ⟨Table.grows_insert (R := fun v v' : StudentVerification => v'.studentId = v.studentId)
      (fun _ => rfl) _ v⟩
  | updateVerification id patch =>
    exact ⟨Table.grows_modify (f := patch.apply) (fun _ => rfl) (fun _ => rfl) fun _ _ => rfl⟩
  | verifyProfile studentId verifiedAt => exact ⟨(Grows.refl d).verifications⟩
  | createActivityLog userId activity => exact .refl d

theorem grows_applyAll (F : List StudentsStmt) (d : StudentsDb) : Grows d (applyAll F d) := by
  induction F generalizing d with
  | nil => exact .refl d
  | cons w F ih => exact (grows_apply w d).trans (ih _)

theorem guarded_grows : Guarded (D := StudentsDb) (C := StudentsCall) (R := StudentsCall.Reply) Grows
    fun _ => False :=
  ⟨Grows.refl, Grows.trans, fun h => h.elim⟩

/-- The statements of a decision. -/
def decisionStatements (verificationId studentId : String) (patch : VerificationPatch) : List StudentsStmt :=
  .updateVerification verificationId patch ::
    if patch.status = some .verified then [.verifyProfile studentId patch.verifiedAt] else []

/-- What a call commits in state `d`; the student was read with the request. -/
inductive VerificationOp.Writes (op : VerificationOp) (d : StudentsDb) : List StudentsStmt → Prop
  | request (v : StudentVerification) (fresh : v.status = .pending) : Writes op d [.createVerification v]
  | decision (s : StudentsDb) (id : String) (v : StudentVerification) (patch : VerificationPatch)
    (read : s.verifications.find id = some v) (grows : Grows s d) :
    Writes op d (decisionStatements id v.studentId patch)
  | activity (userId activity : String) : Writes op d [.createActivityLog userId activity]

section Specs

variable {d : StudentsDb} {l : List StudentsStmt} {Q : List StudentsStmt → Prop} {op : VerificationOp}

theorem commits_invalidateStudentsCache {studentId : String} {f : Unit → StudentsAction Unit}
    (hf : ∀ d', Grows d d' → Commits Grows (fun d _ => op.Writes d) Q d' l (f ())) :
    Commits Grows (fun d _ => op.Writes d) Q d l ((invalidateStudentsCache studentId).bind f) := by
  refine .makes_bind Grows.refl Grows.trans (S := fun _ => True) (.attempt (.request (fun _ => trivial) trivial)) ?_
  exact fun d' _ hd' _ => hf d' hd'

theorem commits_createActivityLog (userId activity : String) :
    Commits Grows (fun d _ => op.Writes d) (fun _ => True) d l
      (statement (.createActivityLog userId activity) : StudentsAction Unit) := by
  rw [← Prog.bind_ret (statement _)]
  exact .statement_bind guarded_grows fun d _ _ => ⟨.activity userId activity, .ret trivial⟩

theorem adds_decideVerification (verificationId studentId : String) (patch : VerificationPatch) :
    Adds (fun _ => False)
      ((exec (.updateVerification verificationId patch) : StudentsAction Unit).bind fun _ =>
        when (patch.status = some .verified) (exec (.verifyProfile studentId patch.verifiedAt)))
      fun _ F => F = decisionStatements verificationId studentId patch := by
  refine .exec_bind ?_
  unfold decisionStatements when
  split
  · exact .exec rfl
  · exact .ret rfl

theorem commits_requestVerification (studentId userId : String) (documentUrl : Option String) (newId : String) :
    Commits Grows (fun d _ => op.Writes d) (fun _ => True) d []
      (StudentsService.requestVerification studentId userId documentUrl newId) := by
  unfold StudentsService.requestVerification
  simp only [bind_eq]
  refine .outside_bind fun _ d _ _ => .orThrow_bind fun _ _ => .outside_bind fun _ d _ _ => ?_
  refine .ensure_bind fun _ => .query_bind fun d _ => .statement_bind guarded_grows fun d _ _ => ?_
  refine ⟨.request _ rfl, commits_invalidateStudentsCache fun d _ => ?_⟩
  exact commits_createActivityLog _ _

theorem commits_verifyStudent (req : Request String) (verificationId : String) (status notes : Option String) :
    Commits Grows (fun d _ => op.Writes d) (fun _ => True) d []
      (StudentsService.verifyStudent req verificationId status notes) := by
  unfold StudentsService.verifyStudent
  simp only [bind_eq]
  refine .outside_bind fun _ d _ _ => .orThrow_bind fun _ _ => .orThrow_bind fun userId _ => ?_
  refine .outside_bind fun s d _ hs => .orThrow_bind fun v found => .orThrow_bind fun parsed _ => ?_
  refine .query_bind fun d₁ hd₁ => .transaction_bind guarded_grows (adds_decideVerification _ _ _) ?_
  rintro d₂ - F hd₂ rfl -
  refine ⟨.inr (.decision s verificationId v _ found ((hs.trans hd₁).trans hd₂)), ?_⟩
  refine commits_invalidateStudentsCache fun d _ => .orThrow_bind fun text _ => ?_
  exact commits_createActivityLog _ _

theorem VerificationOp.commits (op : VerificationOp) :
    Commits Grows (fun d _ => op.Writes d) (fun _ => True) d [] op.program := by
  cases op with
  | requestVerification studentId userId documentUrl newId => exact commits_requestVerification _ _ _ _
  | verifyStudent req verificationId status notes => exact commits_verifyStudent _ _ _ _

end Specs

/-! ## What every commit keeps -/

/-- Besides, a decided request says when it was decided. -/
structure Kept (ops : List VerificationOp) (d : StudentsDb) (log : StudentsLog) : Prop where
  lifecycle : VerificationLifecycle ops d log
  decided : ∀ k ∈ decisions log, ∃ v, d.verifications.find k.requestId = some v ∧ v.verifiedAt ≠ none

theorem decisions_append (log : StudentsLog) (e : Commit StudentsDb StudentsStmt) :
    decisions (log ++ [e]) = decisions log ++ e.writes.filterMap (StudentsStmt.decision e.before) := by
  rw [decisions, List.flatMap_append, List.flatMap_singleton]
  rfl

theorem lastDecision_append (log : StudentsLog) (e : Commit StudentsDb StudentsStmt) (k : Decision)
    (own : e.writes.filterMap (StudentsStmt.decision e.before) = [k]) (studentId : String) :
    lastDecision (log ++ [e]) studentId =
      if k.studentId = studentId then some k.status else lastDecision log studentId := by
  rw [lastDecision, decisions_append, own, List.filter_append]
  by_cases same : k.studentId = studentId
  · rw [if_pos same, List.filter_singleton, decide_eq_true same, cond_true, List.getLast?_append]
    rfl
  · rw [if_neg same, List.filter_singleton, decide_eq_false same, cond_false, List.append_nil]
    rfl

/-- Nothing is decided, and the requests with their students are kept or joined by a pending one. -/
theorem Kept.of_undecided {ops : List VerificationOp} {d d' : StudentsDb} {log : StudentsLog} {i : Nat}
    {F : List StudentsStmt} (h : Kept ops d log) (none_ : F.filterMap (StudentsStmt.decision d) = [])
    (updates : ∀ id patch, .updateVerification id patch ∉ F)
    (requested : ∀ v, .createVerification v ∈ F →
      ∃ op, ops[i]? = some op ∧ MayRequest d op.user v.studentId)
    (students : d'.students = d.students) (pending : OnePending d')
    (found : ∀ id v, d.verifications.find id = some v → d'.verifications.find id = some v) :
    Kept ops d' (log ++ [⟨i, F, d⟩]) := by
  have same : decisions (log ++ [⟨i, F, d⟩]) = decisions log := by
    rw [decisions_append, none_, List.append_nil]
  refine ⟨⟨pending, by rw [same]; exact h.lifecycle.once, fun e he id patch hw => ?_, fun s hs => ?_,
    fun e he v hv => ?_⟩, fun k hk => ?_⟩
  · obtain he | he := List.mem_append.1 he
    · exact h.lifecycle.fromPending e he id patch hw
    · rw [List.mem_singleton.1 he] at hw
      exact absurd hw (updates id patch)
  · rw [lastDecision, same]
    rw [students] at hs
    exact h.lifecycle.verified s hs
  · obtain he | he := List.mem_append.1 he
    · exact h.lifecycle.requested e he v hv
    · obtain rfl := List.mem_singleton.1 he
      exact requested v hv
  · rw [same] at hk
    obtain ⟨v, hv, at_⟩ := h.decided k hk
    exact ⟨v, found _ v hv, at_⟩

theorem Kept.silent {ops : List VerificationOp} {d : StudentsDb} {log : StudentsLog} (i : Nat)
    (h : Kept ops d log) : Kept ops d (log ++ [⟨i, [], d⟩]) :=
  h.of_undecided rfl (fun _ _ => List.not_mem_nil) (fun _ hv => absurd hv List.not_mem_nil) rfl
    h.lifecycle.pending fun _ _ hv => hv

/-- A regular request is the student's only pending one. -/
theorem Kept.request {ops : List VerificationOp} {d : StudentsDb} {log : StudentsLog} {i : Nat}
    {op : VerificationOp} (h : Kept ops d log) (hop : ops[i]? = some op) {v : StudentVerification}
    (regular : (StudentsStmt.createVerification v).Regular op.user d)
    (valid : (StudentsStmt.createVerification v).check d = none) :
    Kept ops ((StudentsStmt.createVerification v).apply d) (log ++ [⟨i, [.createVerification v], d⟩]) := by
  obtain ⟨may, first⟩ := regular
  have free : d.verifications.find v.id = none := by
    rw [← Option.not_isSome_iff_eq_none]
    intro taken
    simp [StudentsStmt.check, taken] at valid
  have rows {w : StudentVerification} (hw : w ∈ (d.verifications.insert v).rows) :
      w ∈ d.verifications.rows ∨ w = v := by
    rw [Table.insert_rows free] at hw
    exact (List.mem_append.1 hw).imp_right List.mem_singleton.1
  refine h.of_undecided rfl (fun _ _ hw => by simp at hw) (fun v' hv' => ?_) rfl ?_ fun id w hw => ?_
  · rw [List.mem_singleton] at hv'
    cases hv'
    exact ⟨op, hop, may⟩
  · intro w hw w' hw' same pending pending'
    obtain old | new := rows hw
    · obtain old' | new' := rows hw'
      · exact h.lifecycle.pending w old w' old' same pending pending'
      · exact absurd pending (first w old (new' ▸ same))
    · obtain old' | new' := rows hw'
      · exact absurd pending' (first w' old' (new ▸ same.symm))
      · rw [new, new']
  · show (d.verifications.insert v).find id = some w
    rw [Table.find_insert free, if_neg, hw]
    rintro rfl
    rw [free] at hw
    cases hw

/-- The decision that the statements make. -/
theorem decision_decisionStatements {d : StudentsDb} {id studentId : String} {v : StudentVerification}
    (found : d.verifications.find id = some v) (patch : VerificationPatch) :
    (decisionStatements id studentId patch).filterMap (StudentsStmt.decision d) =
      [⟨id, v.studentId, patch.status⟩] := by
  have one : StudentsStmt.decision d (.updateVerification id patch) = some ⟨id, v.studentId, patch.status⟩ := by
    rw [StudentsStmt.decision, found]
    rfl
  unfold decisionStatements
  rw [List.filterMap_cons_some one]
  split
  · rfl
  · rfl

/-- What the statements of a decision leave. -/
theorem applyAll_decisionStatements (id studentId : String) (patch : VerificationPatch) (d : StudentsDb) :
    applyAll (decisionStatements id studentId patch) d =
      { d with
        verifications := d.verifications.modify id patch.apply fun _ => rfl
        students := if patch.status = some .verified then
            d.students.modify studentId (StudentProfile.verify patch.verifiedAt) fun _ => rfl
          else d.students } := by
  unfold decisionStatements
  split
  · rfl
  · rfl

/-- A pending request that is changed may stay pending. -/
theorem onePending_modify {d : StudentsDb} (h : OnePending d) {id : String} {v : StudentVerification}
    (found : d.verifications.find id = some v) (pending : v.status = .pending) (patch : VerificationPatch)
    (students : Table StudentProfile String StudentProfile.id) :
    OnePending { d with verifications := d.verifications.modify id patch.apply fun _ => rfl, students := students } := by
  -- Each row comes from one of the same id and student, which was pending if the new one is.
  have before {w : StudentVerification} (hw : w ∈ (d.verifications.modify id patch.apply fun _ => rfl).rows)
      (now : w.status = .pending) :
      ∃ w₀ ∈ d.verifications.rows, w₀.id = w.id ∧ w₀.studentId = w.studentId ∧ w₀.status = .pending := by
    obtain ⟨w₀, hw₀, rfl⟩ := List.mem_map.1 hw
    by_cases own : w₀.id = id
    · have same : w₀ = v := by
        rw [← own, Table.find_of_mem hw₀] at found
        exact Option.some.inj found
      refine ⟨w₀, hw₀, ?_⟩
      rw [if_pos own]
      exact ⟨rfl, rfl, same ▸ pending⟩
    · rw [if_neg own] at now ⊢
      exact ⟨w₀, hw₀, rfl, rfl, now⟩
  intro w hw w' hw' same now now'
  obtain ⟨w₀, hw₀, id₀, student₀, was⟩ := before hw now
  obtain ⟨w₁, hw₁, id₁, student₁, was'⟩ := before hw' now'
  rw [← id₀, ← id₁]
  exact h w₀ hw₀ w₁ hw₁ (student₀.trans (same.trans student₁.symm)) was was'

/-- After a decision every profile tells the last one. -/
theorem verified_iff_of_decision {ops : List VerificationOp} {d : StudentsDb} {log : StudentsLog}
    (h : Kept ops d log) {studentId : String} {patch : VerificationPatch} {v : StudentVerification}
    (settled : patch.status ≠ some .verified →
      ∀ s ∈ d.students.find v.studentId, s.verificationStatus ≠ .verified)
    (student : v.studentId = studentId) {s : StudentProfile}
    (hs : s ∈ (if patch.status = some .verified then
      d.students.modify studentId (StudentProfile.verify patch.verifiedAt) fun _ => rfl else d.students).rows) :
    s.verificationStatus = .verified ↔
      (if v.studentId = s.id then some patch.status else lastDecision log s.id) = some (some .verified) := by
  by_cases verified : patch.status = some .verified
  · rw [if_pos verified] at hs
    obtain ⟨s₀, hs₀, rfl⟩ := List.mem_map.1 hs
    by_cases own : s₀.id = studentId
    · have id : v.studentId = (if s₀.id = studentId then s₀.verify patch.verifiedAt else s₀).id := by
        rw [if_pos own]
        exact student.trans own.symm
      rw [if_pos id, verified, if_pos own]
      exact iff_of_true rfl rfl
    · rw [if_neg own, if_neg fun eq => own (eq.symm.trans student)]
      exact h.lifecycle.verified s₀ hs₀
  · rw [if_neg verified] at hs
    by_cases own : v.studentId = s.id
    · rw [if_pos own]
      refine iff_of_false ?_ fun eq => verified (Option.some.inj eq)
      rw [own] at settled
      exact settled verified s (Table.find_of_mem hs)
    · rw [if_neg own]
      exact h.lifecycle.verified s hs

/-- A regular decision is the request's first one, and leaves the profile as it says. -/
theorem Kept.decide {ops : List VerificationOp} {d : StudentsDb} {log : StudentsLog} {i : Nat}
    (h : Kept ops d log) {id studentId : String} {patch : VerificationPatch} {v : StudentVerification}
    (found : d.verifications.find id = some v) (pending : v.status = .pending) (undecided : v.verifiedAt = none)
    (settled : patch.status ≠ some .verified →
      ∀ s ∈ d.students.find v.studentId, s.verificationStatus ≠ .verified)
    (student : v.studentId = studentId) :
    Kept ops (applyAll (decisionStatements id studentId patch) d)
      (log ++ [⟨i, decisionStatements id studentId patch, d⟩]) := by
  have own : (decisionStatements id studentId patch).filterMap (StudentsStmt.decision d) = [⟨id, v.studentId, patch.status⟩] :=
    decision_decisionStatements found patch
  have same : decisions (log ++ [⟨i, decisionStatements id studentId patch, d⟩]) =
      decisions log ++ [⟨id, v.studentId, patch.status⟩] := by
    rw [decisions_append, own]
  have written {w : StudentsStmt} (hw : w ∈ decisionStatements id studentId patch) :
      w = .updateVerification id patch ∨ w = .verifyProfile studentId patch.verifiedAt := by
    unfold decisionStatements at hw
    obtain rfl | hw := List.mem_cons.1 hw
    · exact .inl rfl
    · split at hw
      · exact .inr (List.mem_singleton.1 hw)
      · cases hw
  rw [applyAll_decisionStatements]
  refine ⟨⟨onePending_modify h.lifecycle.pending found pending patch _, ?_, fun e he id' patch' hw => ?_,
    fun s hs => ?_, fun e he v' hv' => ?_⟩, fun k hk => ?_⟩
  · rw [same, List.map_append, List.nodup_append]
    refine ⟨h.lifecycle.once, List.nodup_singleton _, fun a ha b hb eq => ?_⟩
    obtain ⟨k, hk, rfl⟩ := List.mem_map.1 ha
    obtain ⟨w, hw, at_⟩ := h.decided k hk
    rw [eq, List.mem_singleton.1 hb, found] at hw
    exact at_ (Option.some.inj hw ▸ undecided)
  · obtain he | he := List.mem_append.1 he
    · exact h.lifecycle.fromPending e he id' patch' hw
    · obtain rfl := List.mem_singleton.1 he
      obtain eq | eq := written hw
      · cases eq
        exact ⟨v, found, pending⟩
      · cases eq
  · rw [lastDecision_append log _ _ own]
    exact verified_iff_of_decision h settled student hs
  · obtain he | he := List.mem_append.1 he
    · exact h.lifecycle.requested e he v' hv'
    · obtain rfl := List.mem_singleton.1 he
      obtain eq | eq := written hv'
      · cases eq
      · cases eq
  · rw [same] at hk
    have modified := Table.find_modify d.verifications id patch.apply (fun _ => rfl) k.requestId
    by_cases this : k.requestId = id
    · refine ⟨patch.apply v, ?_, fun none_ => by cases none_⟩
      rw [this] at modified ⊢
      rw [modified, if_pos rfl, found]
      rfl
    · obtain hk | hk := List.mem_append.1 hk
      · obtain ⟨w, hw, at_⟩ := h.decided k hk
        exact ⟨w, by rw [modified, if_neg this, hw], at_⟩
      · rw [List.mem_singleton.1 hk] at this
        exact absurd rfl this

theorem BeforeRequests.kept {d : StudentsDb} (h : BeforeRequests d) (ops : List VerificationOp) :
    Kept ops d [] where
  lifecycle :=
    { pending := fun v hv => by rw [h.verifications] at hv; cases hv
      once := .nil
      fromPending := fun e he => absurd he List.not_mem_nil
      verified := fun s hs => iff_of_false (h.students s hs) fun eq => by cases eq
      requested := fun e he => absurd he List.not_mem_nil }
  decided := fun k hk => absurd hk List.not_mem_nil

/-- **The step lemma.** -/
theorem Kept.step {ops : List VerificationOp} {d : StudentsDb} {log : StudentsLog} {i : Nat}
    {op : VerificationOp} {F : List StudentsStmt} (h : Kept ops d log) (hop : ops[i]? = some op)
    (writes : op.Writes d F) (valid : violation F d = none) (regular : ∀ w ∈ F, w.Regular op.user d) :
    Kept ops (applyAll F d) (log ++ [⟨i, F, d⟩]) := by
  cases writes with
  | request v fresh =>
    exact h.request hop (regular _ List.mem_cons_self) (violation_cons.1 valid).1
  | decision s id v patch read grows =>
    obtain ⟨v', found, pending, undecided, settled⟩ := regular _ List.mem_cons_self
    obtain ⟨v'', found', same⟩ := grows.verifications id v read
    obtain rfl : v'' = v' := Option.some.inj (found'.symm.trans found)
    exact h.decide found pending undecided settled same
  | activity userId activity =>
    exact h.of_undecided rfl (fun _ _ hw => by simp at hw) (fun _ hw => by simp at hw) rfl
      h.lifecycle.pending fun _ _ hv => hv

/-- In a run of regular commits a student has one pending request at most, each request is
decided once and from PENDING, the profile tells the last decision, and requests are made by
the student or an admin of theirs. -/
theorem verification_lifecycle {db : StudentsDb} {ops : List VerificationOp} {c : StudentsSystem}
    (before : BeforeRequests db) (run : Reaches (Regular ops) (begins db ops) c) :
    VerificationLifecycle ops c.db c.log := by
  have commits (i : Nat) (p : StudentsAction Unit) (hp : (ops.map VerificationOp.program)[i]? = some p) :
      Commits Grows (fun d _ F => ∃ op, ops[i]? = some op ∧ op.Writes d F) (fun _ => True) db [] p := by
    rw [List.getElem?_map, Option.map_eq_some_iff] at hp
    obtain ⟨op, hop, rfl⟩ := hp
    exact op.commits.mono (fun s => ⟨s, .refl s⟩) (fun _ _ _ hF => ⟨op, hop, hF⟩) fun _ hQ => hQ
  refine (run.induct_of_commits Grows.refl Grows.trans commits (Kept ops) (before.kept ops)
    (fun {c i F} ⟨op, hop, writes⟩ valid regular h => ?_) fun i h => h.silent i).1.lifecycle
  exact ⟨grows_applyAll F c.db, h.step hop writes valid (regular op hop)⟩

/-! ## One student -/

/-- A student, a stranger and an admin of the platform. -/
def oneStudent : StudentsDb where
  students := Table.empty.insert { id := "s", userId := "u" }
  permissions :=
    { organizations := .empty
      admins := [{ id := "a", userId := "p", adminType := .platformAdmin }] }

theorem beforeRequests_oneStudent : BeforeRequests oneStudent := ⟨rfl, by decide⟩

/-- The admin of the platform decides. -/
def decides (id status : String) : VerificationOp :=
  .verifyStudent { user := some "p" } id (some status) none

/-- The student requests and is verified. -/
theorem student_verified : ∃ c, Reaches (Regular [.requestVerification "s" "u" none "v", decides "v" "VERIFIED"])
      (begins oneStudent [.requestVerification "s" "u" none "v", decides "v" "VERIFIED"]) c ∧
    c.threads.map Thread.returned = [true, true] ∧
    VerificationLifecycle [.requestVerification "s" "u" none "v", decides "v" "VERIFIED"] c.db c.log := by
  obtain ⟨c, run, returned⟩ := Reaches.of_replay_any
    (Regular [.requestVerification "s" "u" none "v", decides "v" "VERIFIED"])
    (begins oneStudent [.requestVerification "s" "u" none "v", decides "v" "VERIFIED"])
    (takeTurns Empty StudentsError [(0, 14), (1, 15)])
    (fun c : StudentsSystem => c.threads.map Thread.returned = [true, true]) (by decide +kernel)
  exact ⟨c, run, returned, verification_lifecycle beforeRequests_oneStudent run⟩

/-- A stranger requests, and the admin verifies and then rejects. -/
def overruled : List VerificationOp :=
  [.requestVerification "s" "x" none "v", decides "v" "VERIFIED", decides "v" "REJECTED"]

/-- The student requests twice at the same time. -/
def twice : List VerificationOp := [.requestVerification "s" "u" none "v", .requestVerification "s" "u" none "w"]

/-- The rejected student stays verified; the two requests are both pending. -/
theorem profile_keeps_verdict :
    (∃ c, Reaches (fun _ _ => True) (begins oneStudent overruled) c ∧
      c.threads.map Thread.returned = [true, true, true] ∧ ¬MayRequest oneStudent (some "x") "s" ∧
      (decisions c.log).map Decision.requestId = ["v", "v"] ∧ lastDecision c.log "s" = some (some .rejected) ∧
      c.db.students.rows.map StudentProfile.verificationStatus = [.verified] ∧
      ¬VerificationLifecycle overruled c.db c.log) ∧
    ∃ c, Reaches (fun _ _ => True) (begins oneStudent twice) c ∧
      c.threads.map Thread.returned = [true, true] ∧
      c.db.verifications.rows.map StudentVerification.status = [.pending, .pending] ∧
      ¬VerificationLifecycle twice c.db c.log := by
  constructor
  · obtain ⟨c, run, returned, may, decided, last, profile⟩ := Reaches.of_replay_any (fun _ _ => True)
      (begins oneStudent overruled) (takeTurns Empty StudentsError [(0, 14), (1, 15), (2, 14)])
      (fun c : StudentsSystem => c.threads.map Thread.returned = [true, true, true] ∧
        ¬MayRequest oneStudent (some "x") "s" ∧ (decisions c.log).map Decision.requestId = ["v", "v"] ∧
        lastDecision c.log "s" = some (some .rejected) ∧
        c.db.students.rows.map StudentProfile.verificationStatus = [.verified]) (by decide +kernel)
    refine ⟨c, run, returned, may, decided, last, profile, fun lifecycle => ?_⟩
    have once := lifecycle.once
    rw [decided] at once
    exact absurd once (by decide)
  · obtain ⟨c, run, returned, statuses, both⟩ := Reaches.of_replay_any (fun _ _ => True)
      (begins oneStudent twice) (takeTurns Empty StudentsError [(0, 6), (1, 14), (0, 8)])
      (fun c : StudentsSystem => c.threads.map Thread.returned = [true, true] ∧
        c.db.verifications.rows.map StudentVerification.status = [.pending, .pending] ∧
        ∃ v ∈ c.db.verifications.rows, ∃ w ∈ c.db.verifications.rows, v.studentId = w.studentId ∧
          v.status = .pending ∧ w.status = .pending ∧ v.id ≠ w.id) (by decide +kernel)
    refine ⟨c, run, returned, statuses, fun lifecycle => ?_⟩
    obtain ⟨v, hv, w, hw, same, pending, pending', differ⟩ := both
    exact differ (lifecycle.pending v hv w hw same pending pending')

end Heightt.Students
