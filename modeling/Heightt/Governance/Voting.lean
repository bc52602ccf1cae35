import Heightt.Governance.Operations

/-!
# Ballots

A ballot is decided on what `castVote` has read before its transaction, and the
only constraint on votes is per candidate. `Undisturbed` says that what was read
still holds when the ballot commits, and that the candidates are approved, which
no reading asks; then each voter has one ballot in an election.
-/

namespace Heightt.Governance

open Store ReadCommitted Database

/-- The votes that the statements create. -/
def ballotOf (F : List GovernanceStmt) : List Vote :=
  F.filterMap fun
    | .createVote v _ => some v
    | _ => none

/-- The vote's election has the status that was read and has not ended, the voter
has still no vote in it, and the candidate is approved. -/
def GovernanceStmt.Undisturbed (d : GovernanceDb) : GovernanceStmt → Prop
  | createVote v seen => (∀ e ∈ d.elections.find seen.id, e.status = seen.status ∧ d.now ≤ e.endDate) ∧
      (∀ w ∈ d.votes, w.electionId = v.electionId → w.voterId ≠ v.voterId) ∧
      ∀ c ∈ d.candidates.find v.candidateId, c.status = .approved
  | _ => True

instance (d : GovernanceDb) : (w : GovernanceStmt) → Decidable (w.Undisturbed d)
  | .createVote v seen => inferInstanceAs (Decidable ((∀ e ∈ d.elections.find seen.id, _ ∧ _) ∧
      (∀ w ∈ d.votes, _ → _) ∧ ∀ c ∈ d.candidates.find v.candidateId, c.status = .approved))
  | .createElection _ | .createPositions _ | .updateElection .. | .createCandidate ..
  | .approveCandidate _ | .createActivityLog | .tick _ => isTrue trivial

/-- Every ballot commits undisturbed. -/
def Undisturbed (c : GovernanceSystem) : Effect GovernanceStmt CacheCall → Prop
  | .commit _ _ F => ∀ w ∈ F, w.Undisturbed c.db
  | _ => True

instance (c : GovernanceSystem) : (eff : Effect GovernanceStmt CacheCall) → Decidable (Undisturbed c eff)
  | .commit _ _ F => inferInstanceAs (Decidable (∀ w ∈ F, w.Undisturbed c.db))
  | .internal | .fault _ | .called .. | .unsent .. => isTrue trivial

/-- The vote may be cast in state `d`: by a member of the organisation, for an
approved candidate of the election, while that is active and has not ended. -/
structure Votable (d : GovernanceDb) (v : Vote) : Prop where
  election : ∃ e, d.elections.find v.electionId = some e ∧ e.status = .active ∧ d.now ≤ e.endDate ∧
    ∃ m ∈ d.memberships, m.userId = v.voterId ∧ m.organizationId = e.organizationId
  candidate : ∃ c, d.candidates.find v.candidateId = some c ∧ c.status = .approved ∧
    c.electionId = v.electionId

/-- Commit `e` is the ballot of a call of the voter, and every vote of the voter
in the election is on it. -/
def SoleBallot (ops : List GovernanceOp) (d : GovernanceDb) (electionId voterId : String)
    (e : Commit GovernanceDb GovernanceStmt) : Prop :=
  (∃ dto newId, ops[e.thread]? = some (.castVote voterId dto newId)) ∧
    ∀ v ∈ d.votes, v.electionId = electionId → v.voterId = voterId → v ∈ ballotOf e.writes

/-- What the votes of a run should be. -/
structure VotingIntegrity (ops : List GovernanceOp) (d : GovernanceDb) (log : GovernanceLog) : Prop where
  limit : ∀ p ∈ d.positions.rows, ∀ electionId voterId,
    (d.votesFor electionId voterId p.id).length ≤ p.maxVotes.toNat
  single : ∀ v ∈ d.votes, ∃ e ∈ log, SoleBallot ops d v.electionId v.voterId e
  cast : ∀ v ∈ d.votes, ∃ e ∈ log, v ∈ ballotOf e.writes ∧ Votable e.before v

/-- A state before any vote. -/
structure BeforeVotes (d : GovernanceDb) : Prop where
  votes : d.votes = []
  sited : Sited d

/-! ## What the statements do to votes -/

theorem ballotOf_append (F G : List GovernanceStmt) : ballotOf (F ++ G) = ballotOf F ++ ballotOf G :=
  List.filterMap_append

@[simp] theorem ballotOf_voteStatements (seen : Election) (votes : List Vote) :
    ballotOf (voteStatements seen votes) = votes := by
  rw [ballotOf, voteStatements, List.filterMap_map]
  exact List.filterMap_some

theorem votes_applyAll (F : List GovernanceStmt) (d : GovernanceDb) :
    (applyAll F d).votes = d.votes ++ ballotOf F := by
  induction F generalizing d with
  | nil => exact (List.append_nil _).symm
  | cons w F ih =>
    rw [applyAll_cons, ih]
    cases w with
    | createVote v seen => exact List.append_assoc d.votes [v] (ballotOf F)
    | _ => rfl

/-- A call commits no votes or a ballot. -/
theorem writes_cases {op : GovernanceOp} {d : GovernanceDb} {F : List GovernanceStmt}
    (writes : op.Writes d F) : ballotOf F = [] ∨
      ∃ userId dto newId s seen votes, op = .castVote userId dto newId ∧
        F = voteStatements seen votes ∧ Grows s d ∧ s.elections.find seen.id = some seen ∧
        seen.status = .active ∧
        (∃ m ∈ s.memberships, m.userId = userId ∧ m.organizationId = seen.organizationId) ∧
        Ballot s seen userId votes := by
  rcases writes with rfl | decides
  · exact .inl rfl
  cases decides with
  | vote userId dto newId _ s seen votes grows read active member ballot =>
    exact .inr ⟨userId, dto, newId, s, seen, votes, rfl, rfl, grows, read, active, member, ballot⟩
  | _ => exact .inl rfl

/-! ## What every commit keeps -/

/-- Besides their integrity, the votes are for candidates there are. -/
structure Polls (ops : List GovernanceOp) (d : GovernanceDb) (log : GovernanceLog) : Prop where
  integrity : VotingIntegrity ops d log
  sited : Sited d
  standing : ∀ v ∈ d.votes, ∃ c, d.candidates.find v.candidateId = some c

/-- Those of the votes that a user cast for a position of an election. -/
def votesAmong (d : GovernanceDb) (votes : List Vote) (electionId voterId positionId : String) : List Vote :=
  votes.filter fun v =>
    v.electionId = electionId ∧ v.voterId = voterId ∧ d.positionOf v = some positionId

theorem votesFor_eq (d : GovernanceDb) (electionId voterId positionId : String) :
    d.votesFor electionId voterId positionId = votesAmong d d.votes electionId voterId positionId := rfl

theorem mem_votesAmong {d : GovernanceDb} {votes : List Vote} {electionId voterId positionId : String}
    {v : Vote} : v ∈ votesAmong d votes electionId voterId positionId ↔
      v ∈ votes ∧ v.electionId = electionId ∧ v.voterId = voterId ∧ d.positionOf v = some positionId := by
  simp [votesAmong]

theorem votesAmong_append (d : GovernanceDb) (votes votes' : List Vote)
    (electionId voterId positionId : String) :
    votesAmong d (votes ++ votes') electionId voterId positionId =
      votesAmong d votes electionId voterId positionId ++
        votesAmong d votes' electionId voterId positionId :=
  List.filter_append votes votes'

theorem votesAmong_of_grows {d d' : GovernanceDb} (grows : Grows d d') {votes : List Vote}
    (standing : ∀ v ∈ votes, ∃ c, d.candidates.find v.candidateId = some c)
    (electionId voterId positionId : String) :
    votesAmong d' votes electionId voterId positionId =
      votesAmong d votes electionId voterId positionId := by
  refine List.filter_congr fun v hv => ?_
  obtain ⟨c, hc⟩ := standing v hv
  have old : d.positionOf v = some c.positionId := Option.map_eq_some_iff.2 ⟨c, hc, rfl⟩
  rw [old, grows.positionOf old]

/-- A position that was not there has no votes. -/
theorem votesFor_of_absent {ops : List GovernanceOp} {d : GovernanceDb} {log : GovernanceLog}
    (h : Polls ops d log) {positionId : String} (absent : d.positions.find positionId = none)
    (electionId voterId : String) : d.votesFor electionId voterId positionId = [] := by
  refine List.eq_nil_iff_forall_not_mem.2 fun v hv => ?_
  obtain ⟨-, -, -, hpos⟩ := mem_votesAmong.1 hv
  obtain ⟨c, hc, rfl⟩ := Option.map_eq_some_iff.1 hpos
  obtain ⟨p, hp, -⟩ := h.sited c (Table.find_mem hc)
  rw [absent] at hp
  cases hp

/-- Before the new votes, the limits still hold. -/
theorem limit_of_grows {ops : List GovernanceOp} {d d' : GovernanceDb} {log : GovernanceLog}
    (h : Polls ops d log) (grows : Grows d d') {p : ElectionPosition} (hp : p ∈ d'.positions.rows)
    (electionId voterId : String) :
    (d.votesFor electionId voterId p.id).length ≤ p.maxVotes.toNat := by
  cases hold : d.positions.find p.id with
  | none =>
    rw [votesFor_of_absent h hold]
    exact Nat.zero_le _
  | some p₀ =>
    obtain ⟨p', hp', rfl⟩ := grows.positions _ p₀ hold
    rw [Table.find_of_mem hp] at hp'
    obtain rfl := Option.some.inj hp'
    exact h.integrity.limit p (Table.find_mem hold) electionId voterId

/-- A ballot has at most one vote for a position. -/
theorem Ballot.length_votesAmong_le {s : GovernanceDb} {seen : Election} {userId : String}
    {votes : List Vote} (ballot : Ballot s seen userId votes) (electionId voterId positionId : String) :
    (votesAmong s votes electionId voterId positionId).length ≤ 1 := by
  have once : (votesAmong s votes electionId voterId positionId).Pairwise _ := ballot.once.filter _
  have same : ∀ v ∈ votesAmong s votes electionId voterId positionId, s.positionOf v = some positionId :=
    fun v hv => (mem_votesAmong.1 hv).2.2.2
  match h : votesAmong s votes electionId voterId positionId with
  | [] => exact Nat.zero_le _
  | [_] => exact Nat.le_refl _
  | v :: w :: _ =>
    rw [h] at once same
    refine absurd ?_ ((List.pairwise_cons.1 once).1 w List.mem_cons_self)
    rw [same v List.mem_cons_self, same w (List.mem_cons_of_mem _ List.mem_cons_self)]

/-- A ballot of a voter without votes keeps the limits. -/
theorem limit_of_ballot {ops : List GovernanceOp} {d s : GovernanceDb} {log : GovernanceLog}
    (h : Polls ops d log) (grows : Grows s d) {seen : Election} {userId : String} {votes : List Vote}
    (ballot : Ballot s seen userId votes)
    (first : ∀ v ∈ votes, ∀ w ∈ d.votes, w.electionId = v.electionId → w.voterId ≠ v.voterId)
    {p : ElectionPosition} (hp : p ∈ d.positions.rows) (electionId voterId : String) :
    (votesAmong d (d.votes ++ votes) electionId voterId p.id).length ≤ p.maxVotes.toNat := by
  rw [votesAmong_append, List.length_append]
  by_cases voted : ∃ v, v ∈ votesAmong d votes electionId voterId p.id
  · obtain ⟨v, hv⟩ := voted
    obtain ⟨mem, rfl, rfl, hposition⟩ := mem_votesAmong.1 hv
    have none_ : votesAmong d d.votes v.electionId v.voterId p.id = [] := by
      refine List.eq_nil_iff_forall_not_mem.2 fun w hw => ?_
      obtain ⟨hw, helection, hvoter, -⟩ := mem_votesAmong.1 hw
      exact first v mem w hw helection hvoter
    have one : (votesAmong d votes v.electionId v.voterId p.id).length ≤ 1 := by
      rw [votesAmong_of_grows grows fun v hv => (ballot.listed v hv).imp fun c hc => hc.choose_spec.1]
      exact ballot.length_votesAmong_le _ _ _
    obtain ⟨c, p', hc, hp', -, room⟩ := ballot.listed v mem
    obtain ⟨p'', hp'', rfl⟩ := grows.positions _ p' hp'
    rw [grows.positionOf (Option.map_eq_some_iff.2 ⟨c, hc, rfl⟩)] at hposition
    rw [Option.some.inj hposition, Table.find_of_mem hp] at hp''
    obtain rfl := Option.some.inj hp''
    rw [none_, List.length_nil]
    omega
  · have none_ : votesAmong d votes electionId voterId p.id = [] :=
      List.eq_nil_iff_forall_not_mem.2 fun v hv => voted ⟨v, hv⟩
    rw [none_, List.length_nil, Nat.add_zero]
    exact limit_of_grows h (Grows.refl d) hp electionId voterId

/-- Nothing is voted: every commit without votes keeps the integrity. -/
theorem polls_of_quiet {ops : List GovernanceOp} {d d' : GovernanceDb} {log : GovernanceLog}
    (h : Polls ops d log) (grows : Grows d d') (sited : Sited d') (votes : d'.votes = d.votes)
    (e : Commit GovernanceDb GovernanceStmt) : Polls ops d' (log ++ [e]) where
  integrity :=
    { limit := fun p hp electionId voterId => by
        rw [votesFor_eq, votes, votesAmong_of_grows grows h.standing]
        exact limit_of_grows h grows hp electionId voterId
      single := fun v hv => by
        obtain ⟨e', he', call, sole⟩ := h.integrity.single v (votes ▸ hv)
        exact ⟨e', List.mem_append_left _ he', call, fun w hw => sole w (votes ▸ hw)⟩
      cast := fun v hv => by
        obtain ⟨e', he', hcast⟩ := h.integrity.cast v (votes ▸ hv)
        exact ⟨e', List.mem_append_left _ he', hcast⟩ }
  sited := sited
  standing := fun v hv => by
    obtain ⟨c, hc⟩ := h.standing v (votes ▸ hv)
    obtain ⟨c', hc', -⟩ := grows.candidates _ c hc
    exact ⟨c', hc'⟩

/-- An undisturbed ballot keeps the integrity: the voter had no votes in the
election, and gets at most one for each position. -/
theorem polls_of_ballot {ops : List GovernanceOp} {d s : GovernanceDb} {log : GovernanceLog} {i : Nat}
    (h : Polls ops d log) {userId : String} {dto : CastVoteDto} {newId : Nat → String} {seen : Election}
    {votes : List Vote} (hop : ops[i]? = some (.castVote userId dto newId)) (grows : Grows s d)
    (read : s.elections.find seen.id = some seen) (active : seen.status = .active)
    (member : ∃ m ∈ s.memberships, m.userId = userId ∧ m.organizationId = seen.organizationId)
    (ballot : Ballot s seen userId votes)
    (undisturbed : ∀ v ∈ votes, (GovernanceStmt.createVote v seen).Undisturbed d) :
    Polls ops { d with votes := d.votes ++ votes } (log ++ [⟨i, voteStatements seen votes, d⟩]) := by
  have votable : ∀ v ∈ votes, Votable d v := by
    intro v hv
    obtain ⟨current, -, approved⟩ := undisturbed v hv
    obtain ⟨own, voter⟩ := ballot.own v hv
    obtain ⟨c, p, hc, hp, listed, -⟩ := ballot.listed v hv
    obtain ⟨c', hc', -, position⟩ := grows.candidates _ c hc
    obtain ⟨p', hp', rfl⟩ := grows.positions _ p hp
    obtain ⟨p', hp'', site⟩ := h.sited c' (Table.find_mem hc')
    rw [position, hp'] at hp''
    obtain rfl := Option.some.inj hp''
    obtain ⟨e, he, organization⟩ := grows.elections _ seen read
    obtain ⟨status, timely⟩ := current e he
    rw [← grows.memberships, ← voter, ← organization] at member
    exact ⟨⟨e, own ▸ he, status.trans active, timely, member⟩,
      ⟨c', hc', approved c' hc', site.symm.trans (listed.trans own.symm)⟩⟩
  have first : ∀ v ∈ votes, ∀ w ∈ d.votes, w.electionId = v.electionId → w.voterId ≠ v.voterId :=
    fun v hv => (undisturbed v hv).2.1
  refine ⟨⟨fun p hp electionId voterId => ?_, fun v hv => ?_, fun v hv => ?_⟩, h.sited, fun v hv => ?_⟩
  · exact limit_of_ballot h grows ballot first hp electionId voterId
  · by_cases mine : ∃ w ∈ votes, w.electionId = v.electionId ∧ w.voterId = v.voterId
    · refine ⟨_, List.mem_append_right _ (List.mem_singleton_self _), ⟨dto, newId, ?_⟩, fun w hw he hu => ?_⟩
      · obtain ⟨w, hw, -, hu⟩ := mine
        rw [← hu, (ballot.own w hw).2]
        exact hop
      · rw [ballotOf_voteStatements]
        rcases List.mem_append.1 hw with hw | hw
        · obtain ⟨w', hw', he', hu'⟩ := mine
          exact absurd (hu.trans hu'.symm) (first w' hw' w hw (he.trans he'.symm))
        · exact hw
    · rcases List.mem_append.1 hv with hv | hv
      · obtain ⟨e, he, call, sole⟩ := h.integrity.single v hv
        refine ⟨e, List.mem_append_left _ he, call, fun w hw helection hu => ?_⟩
        rcases List.mem_append.1 hw with hw | hw
        · exact sole w hw helection hu
        · exact absurd ⟨w, hw, helection, hu⟩ mine
      · exact absurd ⟨v, hv, rfl, rfl⟩ mine
  · rcases List.mem_append.1 hv with hv | hv
    · obtain ⟨e, he, hcast⟩ := h.integrity.cast v hv
      exact ⟨e, List.mem_append_left _ he, hcast⟩
    · refine ⟨_, List.mem_append_right _ (List.mem_singleton_self _), ?_, votable v hv⟩
      rwa [ballotOf_voteStatements]
  · rcases List.mem_append.1 hv with hv | hv
    · exact h.standing v hv
    · obtain ⟨c, hc, -⟩ := (votable v hv).candidate
      exact ⟨c, hc⟩

/-! ## Runs -/

theorem BeforeVotes.polls {db : GovernanceDb} (h : BeforeVotes db) (ops : List GovernanceOp) :
    Polls ops db [] := by
  have none_ (v : Vote) : v ∉ db.votes := by
    rw [h.votes]
    exact List.not_mem_nil
  refine ⟨⟨fun p _ electionId voterId => ?_, fun v hv => absurd hv (none_ v),
    fun v hv => absurd hv (none_ v)⟩, h.sited, fun v hv => absurd hv (none_ v)⟩
  rw [votesFor_eq, h.votes]
  exact Nat.zero_le _

theorem polls_of_writes {c : GovernanceSystem} {ops : List GovernanceOp} {i : Nat} {op : GovernanceOp}
    {F : List GovernanceStmt} (hop : ops[i]? = some op) (writes : op.Writes c.db F)
    (undisturbed : Undisturbed c (.commit i false F)) (h : Polls ops c.db c.log) :
    Polls ops (applyAll F c.db) (c.log ++ [⟨i, F, c.db⟩]) := by
  have sited := sited_applyAll h.sited (sites_of_writes writes)
  obtain quiet | ⟨userId, dto, newId, s, seen, votes, rfl, rfl, grows, read, active, member, ballot⟩ :=
    writes_cases writes
  · refine polls_of_quiet h (grows_applyAll F c.db) sited ?_ _
    rw [votes_applyAll, quiet, List.append_nil]
  · rw [applyAll_voteStatements]
    refine polls_of_ballot h hop grows read active member ballot fun v hv => ?_
    exact undisturbed _ (List.mem_map_of_mem hv)

/-- **Voting integrity.** In a run whose ballots commit undisturbed, from a state
without votes, no voter has more votes for a position than it allows, all votes of
a voter in an election are on one ballot, and every vote was one that may be cast. -/
theorem votes_keep_integrity {db : GovernanceDb} {ops : List GovernanceOp} {c : GovernanceSystem}
    (before : BeforeVotes db) (run : Reaches Undisturbed (begins db ops) c) :
    VotingIntegrity ops c.db c.log := by
  refine (induct_of_run run (Polls ops) (before.polls ops) ?_ fun {d log} i h => ?_).integrity
  · exact fun hop writes _ undisturbed h => polls_of_writes hop writes undisturbed h
  · exact polls_of_quiet h (.refl d) h.sited rfl _

/-- An active election for one position, with two approved candidates and one voter. -/
def oneElection : GovernanceDb where
  elections := Table.empty.insert
    { id := "e", organizationId := "o", startDate := 0, endDate := 1000, status := .active }
  positions := Table.empty.insert
    { id := "p", electionId := "e", title := "President", maxCandidates := 3, maxVotes := 1 }
  candidates := (Table.empty.insert
    { id := "a", electionId := "e", positionId := "p", userId := "x", status := .approved }).insert
    { id := "b", electionId := "e", positionId := "p", userId := "y", status := .approved }
  organizations := ["o"]
  memberships := [⟨"v", "o", false⟩]

theorem beforeVotes_oneElection : BeforeVotes oneElection := by
  have both : ∀ c ∈ oneElection.candidates.rows, c.positionId = "p" ∧ c.electionId = "e" := by
    decide +kernel
  refine ⟨rfl, fun c hc => ?_⟩
  obtain ⟨position, election⟩ := both c hc
  rw [position, election]
  exact ⟨_, rfl, rfl⟩

/-- The voter submits a ballot for each candidate. -/
def twoBallots : List GovernanceOp :=
  [.castVote "v" ⟨"e", [⟨"p", "a"⟩]⟩ fun _ => "v1", .castVote "v" ⟨"e", [⟨"p", "b"⟩]⟩ fun _ => "v2"]

/-- One after the other, the second is refused. -/
theorem second_ballot_refused : ∃ c, Reaches Undisturbed (begins oneElection twoBallots) c ∧
    c.threads.map Thread.returned = [true, false] ∧ c.db.votes.map Vote.candidateId = ["a"] ∧
    VotingIntegrity twoBallots c.db c.log := by
  obtain ⟨c, run, hc⟩ := Reaches.of_replay_any Undisturbed (begins oneElection twoBallots)
    (turns [(0, 18), (1, 10)])
    (fun c : GovernanceSystem => c.threads.map Thread.returned = [true, false] ∧
      c.db.votes.map Vote.candidateId = ["a"]) (by decide +kernel)
  exact ⟨c, run, hc.1, hc.2, votes_keep_integrity beforeVotes_oneElection run⟩

/-- At the same time, both count. -/
theorem both_ballots_count : ∃ c, Reaches (fun _ _ => True) (begins oneElection twoBallots) c ∧
    c.threads.all Thread.returned = true ∧ (c.db.votesFor "e" "v" "p").length = 2 ∧
    ¬VotingIntegrity twoBallots c.db c.log := by
  obtain ⟨c, run, returned, two, position⟩ := Reaches.of_replay_any (fun _ _ => True)
    (begins oneElection twoBallots) (turns [(0, 14), (1, 14), (0, 4), (1, 4)])
    (fun c : GovernanceSystem => c.threads.all Thread.returned = true ∧
      (c.db.votesFor "e" "v" "p").length = 2 ∧ ∃ p ∈ c.db.positions.rows, p.id = "p" ∧ p.maxVotes = 1)
    (by decide +kernel)
  refine ⟨c, run, returned, two, fun integrity => ?_⟩
  obtain ⟨p, hp, hid, one⟩ := position
  have limit := integrity.limit p hp "e" "v"
  rw [hid, two, one] at limit
  exact absurd limit (by decide)

end Heightt.Governance
