import Heightt.Governance.Service
import Heightt.ReadCommitted.Guarantee

/-!
# The governance calls and their runs

`GovernanceOp` lists the calls and the passing of time, and `GovernanceOp.Writes`
says what each may commit, with what it has read. Elections, positions, candidates and votes are
never deleted, so what a call has read of them besides a status still holds when it commits.
-/

namespace Heightt.Governance

open Store ReadCommitted Prog Database GovernanceService

/-- No statement moves an election to another organisation. -/
def Election.SameOrganization (e e' : Election) : Prop := e'.organizationId = e.organizationId

/-- What the others can have done in the meantime. -/
structure Grows (d d' : GovernanceDb) : Prop where
  now : d.now ≤ d'.now
  elections : d.elections.Grows Election.SameOrganization d'.elections
  positions : d.positions.Grows Eq d'.positions
  candidates : d.candidates.Grows
    (fun c c' => c'.electionId = c.electionId ∧ c'.positionId = c.positionId) d'.candidates
  memberships : d'.memberships = d.memberships

theorem Grows.refl (d : GovernanceDb) : Grows d d :=
  ⟨Nat.le_refl _, .refl (R := Election.SameOrganization) (fun _ => rfl) _, .refl (fun _ => rfl) _, .refl (fun _ => ⟨rfl, rfl⟩) _, rfl⟩

theorem Grows.trans {d d' d'' : GovernanceDb} (h : Grows d d') (h' : Grows d' d'') : Grows d d'' where
  now := Nat.le_trans h.now h'.now
  elections := h.elections.trans (fun hab hbc => Eq.trans hbc hab) h'.elections
  positions := h.positions.trans Eq.trans h'.positions
  candidates := h.candidates.trans
    (fun hab hbc => ⟨hbc.1.trans hab.1, hbc.2.trans hab.2⟩) h'.candidates
  memberships := h'.memberships.trans h.memberships

theorem grows_foldl_insert (ps : List ElectionPosition) (t : Table ElectionPosition String ElectionPosition.id) :
    t.Grows Eq (ps.foldl Table.insert t) := by
  induction ps generalizing t with
  | nil => exact .refl (fun _ => rfl) t
  | cons p ps ih => exact (Table.grows_insert (fun _ => rfl) t p).trans Eq.trans (ih _)

theorem grows_apply (w : GovernanceStmt) (d : GovernanceDb) : Grows d (w.apply d) := by
  have same : Grows d d := .refl d
  cases w with
  | createElection e => exact { same with
      elections := Table.grows_insert (R := Election.SameOrganization) (fun _ => rfl) _ e }
  | createPositions ps => exact { same with positions := grows_foldl_insert ps _ }
  | updateElection seen patch =>
    exact { same with
      elections := Table.grows_modify (R := Election.SameOrganization) (f := patch.apply)
        (fun _ => rfl) (fun _ => rfl) fun _ _ => rfl }
  | createCandidate c seen count =>
    exact { same with candidates := Table.grows_insert (fun _ => ⟨rfl, rfl⟩) _ c }
  | approveCandidate id =>
    exact { same with
      candidates := Table.grows_modify (f := Candidate.approve) (fun _ => rfl) (fun _ => ⟨rfl, rfl⟩)
        fun _ _ => ⟨rfl, rfl⟩ }
  | tick ms => exact { same with now := Nat.le_add_right _ _ }
  | createVote v seen => exact { same with }
  | createActivityLog => exact same

theorem grows_applyAll (F : List GovernanceStmt) (d : GovernanceDb) : Grows d (applyAll F d) := by
  induction F generalizing d with
  | nil => exact .refl d
  | cons w F ih => exact (grows_apply w d).trans (ih _)

theorem guarded_grows : Guarded (D := GovernanceDb) (C := CacheCall) (R := CacheCall.Reply) Grows
    fun _ => False :=
  ⟨Grows.refl, Grows.trans, fun h => h.elim⟩

theorem Grows.positionOf {d d' : GovernanceDb} (h : Grows d d') {v : Vote} {positionId : String}
    (hv : d.positionOf v = some positionId) : d'.positionOf v = some positionId := by
  obtain ⟨c, hc, rfl⟩ := Option.map_eq_some_iff.1 hv
  obtain ⟨c', hc', -, same⟩ := h.candidates _ c hc
  exact Option.map_eq_some_iff.2 ⟨c', hc', same⟩

/-! ## What each call commits -/

/-- The votes are for listed candidates of different positions, as `s` has them. -/
structure Ballot (s : GovernanceDb) (seen : Election) (userId : String) (votes : List Vote) : Prop where
  own : ∀ v ∈ votes, v.electionId = seen.id ∧ v.voterId = userId
  listed : ∀ v ∈ votes, ∃ c p, s.candidates.find v.candidateId = some c ∧
    s.positions.find c.positionId = some p ∧ p.electionId = seen.id ∧ 1 ≤ p.maxVotes
  once : votes.Pairwise fun v w => s.positionOf v ≠ s.positionOf w

def voteStatements (seen : Election) (votes : List Vote) : List GovernanceStmt :=
  votes.map fun v => .createVote v seen

/-- A call, with the identifiers it is given, or time passing. -/
inductive GovernanceOp where
  | createElection (userId : String) (dto : CreateElectionDto) (new : NewElection)
  | updateElection (id userId : String) (dto : ElectionPatch)
  | startElection (id userId : String)
  | endElection (id userId : String)
  | nominateCandidate (dto : NominateCandidateDto) (newId : String)
  | approveCandidate (candidateId userId : String)
  | castVote (userId : String) (dto : CastVoteDto) (newId : Nat → String)
  | tick (ms : Nat)

namespace GovernanceOp

/-- The program of a call. -/
def program : GovernanceOp → GovernanceAction Unit
  | createElection userId dto new => GovernanceService.createElection userId dto new
  | updateElection id userId dto => GovernanceService.updateElection id userId dto
  | startElection id userId => GovernanceService.startElection id userId
  | endElection id userId => GovernanceService.endElection id userId
  | nominateCandidate dto newId => GovernanceService.nominateCandidate dto newId
  | approveCandidate candidateId userId => GovernanceService.approveCandidate candidateId userId
  | castVote userId dto newId => GovernanceService.castVote userId dto newId
  | tick ms => statement (.tick ms)

/-- What a call may commit in state `d` besides its activity log. -/
inductive Decides : GovernanceOp → GovernanceDb → List GovernanceStmt → Prop where
  | create (userId : String) (dto : CreateElectionDto) (new : NewElection) (d : GovernanceDb) :
    Decides (createElection userId dto new) d
      [.createElection (electionRow dto new), .createPositions (positionRows dto new)]
  | update (id userId : String) (dto : ElectionPatch) (d : GovernanceDb) (seen : Election)
    (open_ : seen.status ≠ .active ∧ seen.status ≠ .completed) :
    Decides (updateElection id userId dto) d [.updateElection seen dto]
  | «start» (id userId : String) (d s : GovernanceDb) (seen : Election) (now : Nat) (grows : Grows s d)
    (open_ : seen.status ≠ .active ∧ seen.status ≠ .completed)
    (candidate : ∃ c ∈ s.candidates.rows, c.electionId = seen.id) :
    Decides (startElection id userId) d
      [.updateElection seen { startDate := some now, status := some .active }]
  | «end» (id userId : String) (d : GovernanceDb) (seen : Election) (now : Nat)
    (open_ : seen.status ≠ .completed) :
    Decides (endElection id userId) d
      [.updateElection seen { endDate := some now, status := some .completed }]
  | nominate (dto : NominateCandidateDto) (newId : String) (d s : GovernanceDb) (seen : Election)
    (position : ElectionPosition) (count : Nat) (grows : Grows s d)
    (found : s.positions.find dto.positionId = some position) (own : position.electionId = seen.id)
    (open_ : seen.status = .draft ∨ seen.status = .nomination) (free : count < position.maxCandidates) :
    Decides (nominateCandidate dto newId) d
      [.createCandidate
        { id := newId, electionId := seen.id, positionId := dto.positionId, userId := dto.userId }
        seen count]
  | approve (candidateId userId : String) (d : GovernanceDb) :
    Decides (approveCandidate candidateId userId) d [.approveCandidate candidateId]
  | vote (userId : String) (dto : CastVoteDto) (newId : Nat → String) (d s : GovernanceDb) (seen : Election)
    (votes : List Vote) (grows : Grows s d) (read : s.elections.find seen.id = some seen)
    (active : seen.status = .active)
    (member : ∃ m ∈ s.memberships, m.userId = userId ∧ m.organizationId = seen.organizationId)
    (ballot : Ballot s seen userId votes) :
    Decides (castVote userId dto newId) d (voteStatements seen votes)
  | tick (ms : Nat) (d : GovernanceDb) : Decides (tick ms) d [.tick ms]

/-- What a call may commit in state `d`. -/
def Writes (op : GovernanceOp) (d : GovernanceDb) (F : List GovernanceStmt) : Prop :=
  F = [.createActivityLog] ∨ op.Decides d F

end GovernanceOp

/-! ## Candidates stand for positions of their election -/

/-- Every candidate stands for a position of its own election. -/
def Sited (d : GovernanceDb) : Prop :=
  ∀ c ∈ d.candidates.rows, ∃ p, d.positions.find c.positionId = some p ∧ p.electionId = c.electionId

/-- The statement adds candidates only to positions of their own election. -/
def GovernanceStmt.Sites (d : GovernanceDb) : GovernanceStmt → Prop
  | createCandidate c _ _ => ∃ p, d.positions.find c.positionId = some p ∧ p.electionId = c.electionId
  | _ => True

theorem sites_of_grows {d d' : GovernanceDb} {w : GovernanceStmt} (h : w.Sites d) (grows : Grows d d') :
    w.Sites d' := by
  cases w with
  | createCandidate c seen count =>
    obtain ⟨p, hp, own⟩ := h
    obtain ⟨p', hp', rfl⟩ := grows.positions _ p hp
    exact ⟨p, hp', own⟩
  | _ => trivial

theorem sited_apply {w : GovernanceStmt} {d : GovernanceDb} (h : Sited d) (sites : w.Sites d) :
    Sited (w.apply d) := by
  have kept {c : Candidate} (hc : c ∈ d.candidates.rows) :
      ∃ p, (w.apply d).positions.find c.positionId = some p ∧ p.electionId = c.electionId := by
    obtain ⟨p, hp, own⟩ := h c hc
    obtain ⟨p', hp', rfl⟩ := (grows_apply w d).positions _ p hp
    exact ⟨p, hp', own⟩
  cases w with
  | createCandidate c seen count =>
    intro c' hc'
    by_cases free : d.candidates.find c.id = none
    · rw [show (GovernanceStmt.createCandidate c seen count).apply d =
        { d with candidates := d.candidates.insert c } from rfl, Table.insert_rows free] at hc'
      rcases List.mem_append.1 hc' with hc' | hc'
      · exact h c' hc'
      · exact List.mem_singleton.1 hc' ▸ sites
    · rw [show (GovernanceStmt.createCandidate c seen count).apply d =
        { d with candidates := d.candidates.insert c } from rfl, Table.insert,
        dif_pos (by rwa [Table.find_eq_none, not_not] at free)] at hc'
      exact h c' hc'
  | approveCandidate id =>
    intro c' hc'
    obtain ⟨c, hc, rfl⟩ := List.mem_map.1 hc'
    split
    · exact kept (c := c) hc
    · exact kept hc
  | _ => exact fun c hc => kept hc

theorem sited_applyAll {F : List GovernanceStmt} {d : GovernanceDb} (h : Sited d)
    (sites : ∀ w ∈ F, w.Sites d) : Sited (applyAll F d) := by
  induction F generalizing d with
  | nil => exact h
  | cons w F ih =>
    refine ih (sited_apply h (sites w List.mem_cons_self)) fun w' hw' => ?_
    exact sites_of_grows (sites w' (List.mem_cons_of_mem _ hw')) (grows_apply w d)

theorem sites_of_writes {op : GovernanceOp} {d : GovernanceDb} {F : List GovernanceStmt}
    (writes : op.Writes d F) : ∀ w ∈ F, w.Sites d := by
  rcases writes with rfl | decides
  · simp [GovernanceStmt.Sites]
  cases decides with
  | nominate dto newId _ s seen position count grows found own open_ free =>
    refine fun w hw => List.mem_singleton.1 hw ▸ ?_
    obtain ⟨p, hp, rfl⟩ := grows.positions _ position found
    exact ⟨position, hp, own⟩
  | vote userId dto newId _ s seen votes grows read active member ballot =>
    intro w hw
    obtain ⟨v, -, rfl⟩ := List.mem_map.1 hw
    trivial
  | _ => simp [GovernanceStmt.Sites]

/-! ## The ballot -/

theorem voteStatements_append (seen : Election) (votes : List Vote) (v : Vote) :
    voteStatements seen votes ++ [.createVote v seen] = voteStatements seen (votes ++ [v]) := by
  rw [voteStatements, voteStatements, List.map_append]
  rfl

theorem applyAll_voteStatements (seen : Election) (votes : List Vote) (d : GovernanceDb) :
    applyAll (voteStatements seen votes) d = { d with votes := d.votes ++ votes } := by
  induction votes generalizing d with
  | nil =>
    rw [List.append_nil]
    rfl
  | cons v votes ih =>
    rw [voteStatements, List.map_cons, applyAll_cons]
    refine (ih _).trans ?_
    show ({ d with votes := d.votes ++ [v] ++ votes } : GovernanceDb) = _
    rw [List.append_assoc]
    rfl

/-- What an election that was read with its positions and their candidates says. -/
theorem of_readElection {s : GovernanceDb} {id : String} {seen : ElectionRead}
    (read : s.readElection id = some seen) :
    s.elections.find id = some seen.election ∧
      ∀ p ∈ seen.positions, p.1 ∈ s.positions.rows ∧ p.1.electionId = seen.election.id ∧
        p.2 = s.candidatesFor p.1.id := by
  obtain ⟨e, he, rfl⟩ := Option.map_eq_some_iff.1 read
  refine ⟨he, fun p hp => ?_⟩
  obtain ⟨position, hposition, rfl⟩ := List.mem_map.1 hp
  obtain ⟨mem, own⟩ := List.mem_filter.1 hposition
  exact ⟨mem, (of_decide_eq_true own).trans (Table.find_key he).symm, rfl⟩

theorem Ballot.empty (s : GovernanceDb) (seen : Election) (userId : String) : Ballot s seen userId [] where
  own := by simp
  listed := by simp
  once := .nil

/-- A vote for a position that the ballot has no vote for yet. -/
theorem Ballot.add {s : GovernanceDb} {seen : Election} {userId : String} {votes : List Vote}
    (ballot : Ballot s seen userId votes) {v : Vote} {c : Candidate} {p : ElectionPosition}
    (own : v.electionId = seen.id ∧ v.voterId = userId) (candidate : s.candidates.find v.candidateId = some c)
    (position : s.positions.find c.positionId = some p) (listed : p.electionId = seen.id)
    (votable : 1 ≤ p.maxVotes) (other : ∀ w ∈ votes, s.positionOf w ≠ some c.positionId) :
    Ballot s seen userId (votes ++ [v]) where
  own := by
    intro w hw
    rcases List.mem_append.1 hw with hw | hw
    · exact ballot.own w hw
    · exact List.mem_singleton.1 hw ▸ own
  listed := by
    intro w hw
    rcases List.mem_append.1 hw with hw | hw
    · exact ballot.listed w hw
    · exact List.mem_singleton.1 hw ▸ ⟨c, p, candidate, position, listed, votable⟩
  once := by
    refine List.pairwise_append.2 ⟨ballot.once, List.pairwise_singleton _ _, fun w hw u hu => ?_⟩
    have hv : s.positionOf v = some c.positionId := Option.map_eq_some_iff.2 ⟨c, candidate, rfl⟩
    rw [List.mem_singleton.1 hu, hv]
    exact other w hw

/-- The transaction of `castVote` leaves a ballot: it sees the votes it has
created, so that it refuses a second vote for a position. -/
theorem builds_createVotes {s₀ : GovernanceDb} {id : String} {seen : ElectionRead}
    (read : s₀.readElection id = some seen) (userId : String) (newId : Nat → String)
    (dtos : List VoteDto) (n : Nat) (votes : List Vote) (s : GovernanceDb) (grows : Grows s₀ s)
    (ballot : Ballot s₀ seen.election userId votes) :
    Builds Grows s (voteStatements seen.election votes) (createVotes seen userId newId n dtos)
      fun _ F => ∃ votes', F = voteStatements seen.election votes' ∧
        Ballot s₀ seen.election userId votes' := by
  induction dtos generalizing n votes s with
  | nil => exact .ret guarded_grows ⟨votes, rfl, ballot⟩
  | cons dto dtos ih =>
    unfold createVotes
    simp only [bind_eq]
    refine .orThrow_bind guarded_grows fun p hp => ?_
    refine .orThrow_bind guarded_grows fun c hc => ?_
    refine .query_bind guarded_grows fun d hd => .ensure_bind guarded_grows fun fresh => ?_
    refine .query_bind guarded_grows fun d' hd' => .ensure_bind guarded_grows fun room => ?_
    refine .exec_bind guarded_grows ?_
    rw [voteStatements_append]
    refine ih (n + 1) _ d' ((grows.trans hd).trans hd') ?_
    obtain ⟨position, own, candidates⟩ := (of_readElection read).2 p (List.mem_of_find?_eq_some hp)
    have mem : c ∈ s₀.candidatesFor p.1.id := candidates ▸ List.mem_of_find?_eq_some hc
    obtain ⟨listed, for_⟩ := List.mem_filter.1 mem
    have hposition : c.positionId = p.1.id := of_decide_eq_true for_
    refine ballot.add (c := c) (p := p.1) ⟨rfl, rfl⟩ (Table.find_of_mem listed)
      (hposition ▸ Table.find_of_mem position) own (by omega) fun w hw same => ?_
    -- The earlier vote would have been found.
    have found : w ∈ (applyAll (voteStatements seen.election votes) d).votesFor seen.election.id userId
        dto.positionId := by
      have hdto : p.1.id = dto.positionId := by simpa using List.find?_some hp
      refine List.mem_filter.2 ⟨?_, decide_eq_true ⟨(ballot.own w hw).1, (ballot.own w hw).2, ?_⟩⟩
      · rw [applyAll_voteStatements]
        exact List.mem_append_right _ hw
      · rw [← hdto, ← hposition]
        exact ((grows.trans hd).trans (grows_applyAll _ d)).positionOf same
    rw [Option.isNone_iff_eq_none, List.head?_eq_none_iff] at fresh
    rw [fresh] at found
    cases found

/-! ## What each call commits is as `GovernanceOp.Writes` says -/

section Specs

variable {Q : List GovernanceStmt → Prop} {Ψ : GovernanceDb → List GovernanceStmt → List GovernanceStmt → Prop}
  {d : GovernanceDb} {l : List GovernanceStmt} {α β : Type}

theorem commits_ensurePermission {userId organizationId message : String} {f : Unit → GovernanceAction β}
    (hf : ∀ d', Grows d d' → Commits Grows Ψ Q d' l (f ())) :
    Commits Grows Ψ Q d l ((ensurePermission userId organizationId message).bind f) := by
  unfold ensurePermission
  simp only [bind_eq, Prog.bind_assoc]
  refine .outside_bind fun _ d₁ hd hd₁ => .outside_bind fun _ d₂ hd₂ hd₃ => .ensure_bind fun _ => ?_
  exact hf d₂ (((hd.trans hd₁).trans hd₂).trans hd₃)

/-- The last statement of a call. -/
theorem commits_createActivityLog {op : GovernanceOp} :
    Commits Grows (fun d _ => op.Writes d) (fun _ => True) d l
      (statement .createActivityLog : GovernanceAction Unit) := by
  rw [← Prog.bind_ret (statement _)]
  exact .statement_bind guarded_grows fun _ _ _ => ⟨.inl rfl, .ret trivial⟩

theorem commits_findElection {id : String} {f : Election → GovernanceAction β}
    (hf : ∀ d' e, e.id = id → Commits Grows Ψ Q d' l (f e)) :
    Commits Grows Ψ Q d l ((findElection id).bind f) := by
  unfold findElection
  simp only [bind_eq, Prog.bind_assoc]
  exact .outside_bind fun s d' _ _ => .orThrow_bind fun e he => hf d' e (Table.find_key he)

theorem commits_writeElection {op : GovernanceOp} {e : Election} {patch : ElectionPatch}
    (decided : ∀ d', Grows d d' → op.Decides d' [.updateElection e patch]) :
    Commits Grows (fun d _ => op.Writes d) (fun _ => True) d l (writeElection e patch) := by
  unfold writeElection
  simp only [bind_eq]
  refine .statement_bind guarded_grows fun d' hd _ => ⟨.inr (decided d' hd), ?_⟩
  exact .request_bind fun _ _ _ => commits_createActivityLog

theorem commits_createElection (userId : String) (dto : CreateElectionDto) (new : NewElection) :
    Commits Grows (fun d _ => (GovernanceOp.createElection userId dto new).Writes d) (fun _ => True)
      d [] (GovernanceService.createElection userId dto new) := by
  unfold GovernanceService.createElection
  simp only [bind_eq]
  refine .outside_bind fun _ d _ _ => .orThrow_bind fun _ _ => commits_ensurePermission fun d _ => ?_
  refine .transaction_bind guarded_grows (G := fun _ F => F = _) (.exec_bind (.exec rfl)) ?_
  rintro d' - F - rfl -
  exact ⟨.inr (.inr (.create userId dto new d')), commits_createActivityLog⟩

theorem commits_updateElection (id userId : String) (dto : ElectionPatch) :
    Commits Grows (fun d _ => (GovernanceOp.updateElection id userId dto).Writes d) (fun _ => True)
      d [] (GovernanceService.updateElection id userId dto) := by
  unfold GovernanceService.updateElection
  simp only [bind_eq]
  refine commits_findElection fun d e _ => commits_ensurePermission fun d _ => ?_
  refine .ensure_bind fun open_ => commits_writeElection fun d' _ => ?_
  exact .update id userId dto d' e open_

theorem commits_startElection (id userId : String) :
    Commits Grows (fun d _ => (GovernanceOp.startElection id userId).Writes d) (fun _ => True)
      d [] (GovernanceService.startElection id userId) := by
  unfold GovernanceService.startElection
  simp only [bind_eq]
  refine commits_findElection fun d e he => commits_ensurePermission fun d _ => ?_
  refine .ensure_bind fun inactive => .ensure_bind fun uncompleted => ?_
  refine .outside_bind fun s d' _ hs => .ensure_bind fun some_ => .query_bind fun d'' hd => ?_
  obtain ⟨c, hc⟩ := List.exists_mem_of_length_pos (Nat.pos_of_ne_zero some_)
  obtain ⟨mem, own⟩ := List.mem_filter.1 hc
  refine commits_writeElection fun d₃ hd₃ => ?_
  exact .start id userId d₃ s e d''.now ((hs.trans hd).trans hd₃) ⟨inactive, uncompleted⟩
    ⟨c, mem, (of_decide_eq_true own).trans he.symm⟩

theorem commits_endElection (id userId : String) :
    Commits Grows (fun d _ => (GovernanceOp.endElection id userId).Writes d) (fun _ => True)
      d [] (GovernanceService.endElection id userId) := by
  unfold GovernanceService.endElection
  simp only [bind_eq]
  refine commits_findElection fun d e _ => commits_ensurePermission fun d _ => ?_
  refine .ensure_bind fun uncompleted => .query_bind fun d' _ => commits_writeElection fun d₂ _ => ?_
  exact .end id userId d₂ e d'.now uncompleted

theorem commits_nominateCandidate (dto : NominateCandidateDto) (newId : String) :
    Commits Grows (fun d _ => (GovernanceOp.nominateCandidate dto newId).Writes d) (fun _ => True)
      d [] (GovernanceService.nominateCandidate dto newId) := by
  unfold GovernanceService.nominateCandidate
  simp only [bind_eq]
  refine .outside_bind fun s d _ hs => .orThrow_bind fun found hfound => ?_
  simp only [Option.bind_eq_bind, Option.bind_eq_some_iff, Option.pure_def, Option.some.injEq] at hfound
  obtain ⟨position, hposition, election, helection, rfl⟩ := hfound
  refine .ensure_bind fun open_ => .outside_bind fun _ d₁ hd hd₁ => .ensure_bind fun _ => ?_
  refine .outside_bind fun s₂ d₂ hd₂ hd₃ => .ensure_bind fun free => ?_
  refine .outside_bind fun _ d₃ hd₄ hd₅ => .ensure_bind fun _ => ?_
  refine .statement_bind guarded_grows fun d₆ hd₆ _ => ⟨.inr ?_, commits_createActivityLog⟩
  refine .nominate dto newId d₆ s election position _ ?_ hposition (Table.find_key helection).symm open_ free
  exact (((((hs.trans hd).trans hd₁).trans (hd₂.trans hd₃)).trans hd₄).trans hd₅).trans hd₆

theorem commits_approveCandidate (candidateId userId : String) :
    Commits Grows (fun d _ => (GovernanceOp.approveCandidate candidateId userId).Writes d) (fun _ => True)
      d [] (GovernanceService.approveCandidate candidateId userId) := by
  unfold GovernanceService.approveCandidate
  simp only [bind_eq]
  refine .outside_bind fun _ d _ _ => .orThrow_bind fun _ _ => commits_ensurePermission fun d _ => ?_
  refine .statement_bind guarded_grows fun d' _ _ => ⟨.inr (.approve _ _ d'), ?_⟩
  exact commits_createActivityLog

theorem commits_castVote (userId : String) (dto : CastVoteDto) (newId : Nat → String) :
    Commits Grows (fun d _ => (GovernanceOp.castVote userId dto newId).Writes d) (fun _ => True)
      d [] (GovernanceService.castVote userId dto newId) := by
  unfold GovernanceService.castVote
  simp only [bind_eq]
  refine .outside_bind fun s d _ hs => .orThrow_bind fun seen read => .ensure_bind fun active => ?_
  refine .query_bind fun d₁ hd₁ => .ensure_bind fun _ => ?_
  refine .outside_bind fun s₂ d₂ hd₂ hd₃ => .ensure_bind fun member => ?_
  refine .outside_bind fun _ d₄ hd₄ hd₅ => .ensure_bind fun _ => ?_
  have grows : Grows s d₄ := (((hs.trans hd₁).trans (hd₂.trans hd₃)).trans hd₄).trans hd₅
  refine .build_bind guarded_grows
    (builds_createVotes read userId newId dto.votes 0 [] d₄ grows (.empty _ _ _)) ?_
  rintro d₆ - F hd₆ ⟨votes, rfl, ballot⟩ -
  refine ⟨.inr (.inr ?_), commits_createActivityLog⟩
  refine .vote userId dto newId d₆ s seen.election votes (grows.trans hd₆) ?_ active ?_ ballot
  · obtain ⟨found, -⟩ := of_readElection read
    rwa [Table.find_key found]
  obtain ⟨m, hm⟩ := Option.isSome_iff_exists.1 member
  refine ⟨m, ?_, by simpa using List.find?_some hm⟩
  rw [← (hs.trans (hd₁.trans hd₂)).memberships]
  exact List.mem_of_find?_eq_some hm

/-- A call commits only what `GovernanceOp.Writes` says. -/
theorem GovernanceOp.commits (op : GovernanceOp) :
    Commits Grows (fun d _ => op.Writes d) (fun _ => True) d [] op.program := by
  cases op with
  | createElection userId dto new => exact commits_createElection userId dto new
  | updateElection id userId dto => exact commits_updateElection id userId dto
  | startElection id userId => exact commits_startElection id userId
  | endElection id userId => exact commits_endElection id userId
  | nominateCandidate dto newId => exact commits_nominateCandidate dto newId
  | approveCandidate candidateId userId => exact commits_approveCandidate candidateId userId
  | castVote userId dto newId => exact commits_castVote userId dto newId
  | tick ms =>
    rw [GovernanceOp.program, ← Prog.bind_ret (statement _)]
    exact .statement_bind guarded_grows fun d _ _ => ⟨.inr (.tick ms d), .ret trivial⟩

end Specs

/-! ## Runs -/

/-- The committed transactions of a run. -/
abbrev GovernanceLog := List (Commit GovernanceDb GovernanceStmt)

/-- The calls at their start. -/
def begins (db : GovernanceDb) (ops : List GovernanceOp) : GovernanceSystem :=
  Config.start db {} (ops.map GovernanceOp.program)

/-- **The run rule**: what every commit keeps holds in every state a run reaches. -/
theorem induct_of_run {P : GovernanceSystem → Effect GovernanceStmt CacheCall → Prop} {db : GovernanceDb}
    {ops : List GovernanceOp} {c : GovernanceSystem} (run : Reaches P (begins db ops) c)
    (J : GovernanceDb → GovernanceLog → Prop) (init : J db [])
    (step : ∀ {c : GovernanceSystem} {i : Nat} {op : GovernanceOp} {F : List GovernanceStmt},
      ops[i]? = some op → op.Writes c.db F → violation F c.db = none → P c (.commit i false F) →
      J c.db c.log → J (applyAll F c.db) (c.log ++ [⟨i, F, c.db⟩]))
    (silent : ∀ {d : GovernanceDb} {log : GovernanceLog} (i : Nat), J d log → J d (log ++ [⟨i, [], d⟩])) :
    J c.db c.log := by
  have commits (i : Nat) (p : GovernanceAction Unit) (hp : (ops.map GovernanceOp.program)[i]? = some p) :
      Commits Grows (fun d _ F => ∃ op, ops[i]? = some op ∧ op.Writes d F) (fun _ => True) db [] p := by
    rw [List.getElem?_map, Option.map_eq_some_iff] at hp
    obtain ⟨op, hop, rfl⟩ := hp
    exact op.commits.mono (fun s => ⟨s, .refl s⟩) (fun _ _ _ hF => ⟨op, hop, hF⟩) fun _ hQ => hQ
  exact (run.induct_of_commits Grows.refl Grows.trans commits J init
    (fun {c i F} ⟨op, hop, writes⟩ valid hP hJ =>
      ⟨grows_applyAll F c.db, step hop writes valid hP hJ⟩) silent).1

/-- The threads take turns: each pair is a thread and how many operations it completes. -/
def turns (ts : List (Nat × Nat)) : List (Action Empty GovernanceError) :=
  ts.flatMap fun t => List.replicate t.2 (.thread t.1 .ok)

end Heightt.Governance
