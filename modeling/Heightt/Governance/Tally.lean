import Heightt.Governance.Secrecy
import Heightt.Governance.Voting
import Mathlib.Tactic.Ring

/-!
# The results count the ballots

A vote is for a candidate of a position of its own election, and nothing that a vote refers to is
ever deleted or moved. So the results of an election, read in any state of a run, count every vote of
the committed ballots for exactly one candidate, and each voter once.
-/

namespace Heightt.Governance

open Store ReadCommitted Database

/-! ## Counting by key -/

section Counting

variable {α κ : Type} [DecidableEq κ]

/-- Counted key by key, every element whose key is listed is counted once. -/
theorem sum_length_filter {keys : List κ} (nodup : keys.Nodup) (f : α → κ) (l : List α) :
    (keys.map fun k => (l.filter fun a => f a = k).length).sum = (l.filter fun a => f a ∈ keys).length := by
  induction keys with
  | nil => simp
  | cons k keys ih =>
    obtain ⟨fresh, nodup⟩ := List.nodup_cons.1 nodup
    rw [List.map_cons, List.sum_cons, ih nodup]
    clear ih
    induction l with
    | nil => rfl
    | cons a l ih =>
      by_cases here : f a = k
      · have apart : f a ∉ keys := here ▸ fresh
        simp only [List.filter_cons, here, decide_true, if_true, List.mem_cons, true_or, List.length_cons]
        simp only [← here, apart, decide_false, Bool.false_eq_true, if_false]
        rw [here]
        simp only [List.mem_cons] at ih
        omega
      · simp only [List.mem_cons] at ih
        by_cases later : f a ∈ keys
        · simp only [List.filter_cons, here, later, decide_true, decide_false, Bool.false_eq_true, if_true, if_false,
            List.mem_cons, or_true, List.length_cons]
          omega
        · simp only [List.filter_cons, here, later, decide_false, Bool.false_eq_true, if_false, List.mem_cons,
            or_false]
          omega

/-- Shares of a total in percent. -/
theorem sum_percent (l : List α) (n : α → ℕ) (t : ℚ) :
    (l.map fun a => (n a : ℚ) / t * 100).sum = ((l.map n).sum : ℚ) / t * 100 := by
  induction l with
  | nil => simp
  | cons a l ih =>
    rw [List.map_cons, List.sum_cons, ih, List.map_cons, List.sum_cons]
    push_cast
    ring

end Counting

/-! ## Where votes belong -/

/-- The vote is for a candidate of a position of its election. -/
def Placed (d : GovernanceDb) (v : Vote) : Prop :=
  ∃ c p, d.candidates.find v.candidateId = some c ∧ d.positions.find c.positionId = some p ∧
    p.electionId = v.electionId

theorem Placed.grows {d d' : GovernanceDb} {v : Vote} (h : Placed d v) (grows : Grows d d') : Placed d' v := by
  obtain ⟨c, p, hc, hp, own⟩ := h
  obtain ⟨c', hc', -, position⟩ := grows.candidates _ c hc
  obtain ⟨p', hp', rfl⟩ := grows.positions _ p hp
  exact ⟨c', p, hc', position ▸ hp', own⟩

/-- The votes of the ballots that were committed. -/
def GovernanceLog.ballots (log : GovernanceLog) : List Vote := log.flatMap fun e => ballotOf e.writes

/-- Every vote is of a committed ballot, and belongs to its election. -/
structure Polled (d : GovernanceDb) (log : GovernanceLog) : Prop where
  votes : d.votes = GovernanceLog.ballots log
  placed : ∀ v ∈ d.votes, Placed d v

theorem ballots_append (log : GovernanceLog) (e : Commit GovernanceDb GovernanceStmt) :
    GovernanceLog.ballots (log ++ [e]) = GovernanceLog.ballots log ++ ballotOf e.writes := by
  unfold GovernanceLog.ballots
  rw [List.flatMap_append, List.flatMap_singleton]

theorem Polled.step {d : GovernanceDb} {log : GovernanceLog} (h : Polled d log) {op : GovernanceOp}
    {F : List GovernanceStmt} (writes : op.Writes d F) (i : Nat) : Polled (applyAll F d) (log ++ [⟨i, F, d⟩]) where
  votes := by rw [votes_applyAll, ballots_append, h.votes]
  placed v mem := by
    rw [votes_applyAll] at mem
    obtain old | new := List.mem_append.1 mem
    · exact (h.placed v old).grows (grows_applyAll F d)
    · obtain quiet | ⟨userId, dto, newId, s, seen, votes, rfl, rfl, grows, -, -, -, ballot⟩ := writes_cases writes
      · rw [quiet] at new
        cases new
      · rw [ballotOf_voteStatements] at new
        obtain ⟨c, p, hc, hp, listed, -⟩ := ballot.listed v new
        have placed : Placed s v := ⟨c, p, hc, hp, listed.trans (ballot.own v new).1.symm⟩
        exact placed.grows (grows.trans (grows_applyAll _ d))

/-! ## The results -/

/-- The results of an election show the committed votes: each for one candidate. -/
structure Tallied (log : GovernanceLog) (electionId : String) (results : ElectionResults) : Prop where
  /-- A candidate has the votes that were cast for them. -/
  candidates : ∀ p ∈ results.positions, ∀ c ∈ p.candidates,
    c.votes = ((GovernanceLog.ballots log).filter fun v => v.candidateId = c.candidateId).length
  /-- No vote in the election is lost, and none is counted twice. -/
  total : (results.positions.map PositionResult.totalVotes).sum =
    ((GovernanceLog.ballots log).filter fun v => v.electionId = electionId).length
  voters : results.totalVoters =
    (((GovernanceLog.ballots log).filter fun v => v.electionId = electionId).map Vote.voterId).toFinset.card
  /-- The shares of a position with votes add up. -/
  shares : ∀ p ∈ results.positions, p.totalVotes ≠ 0 → (p.candidates.map CandidateResult.percentage).sum = 100

section Results

variable {r : Register} {d : GovernanceDb} {log : GovernanceLog} {id : String} {results : ElectionResults}

/-- The candidates whose votes the results of an election count. -/
def candidateIds (d : GovernanceDb) (id : String) : List String :=
  (d.positionsOf id).flatMap fun p => (d.candidatesFor p.id).map Candidate.id

theorem mem_candidateIds {candidateId : String} : candidateId ∈ candidateIds d id ↔
    ∃ c p, d.candidates.find candidateId = some c ∧ d.positions.find c.positionId = some p ∧ p.electionId = id := by
  unfold candidateIds GovernanceDb.positionsOf GovernanceDb.candidatesFor
  simp only [List.mem_flatMap, List.mem_map, List.mem_filter, decide_eq_true_eq]
  constructor
  · rintro ⟨p, ⟨hp, own⟩, c, ⟨hc, position⟩, rfl⟩
    exact ⟨c, p, Table.find_of_mem hc, position ▸ Table.find_of_mem hp, own⟩
  · rintro ⟨c, p, hc, hp, own⟩
    exact ⟨p, ⟨Table.find_mem hp, own⟩, c, ⟨Table.find_mem hc, (Table.find_key hp).symm⟩, Table.find_key hc⟩

/-- No candidate is counted for two positions. -/
theorem nodup_candidateIds (d : GovernanceDb) (id : String) : (candidateIds d id).Nodup := by
  refine List.nodup_flatMap.2 ⟨fun p _ => ?_, ?_⟩
  · exact d.candidates.nodup.sublist (List.filter_sublist.map Candidate.id)
  · have apart : ((d.positionsOf id).map ElectionPosition.id).Nodup :=
      d.positions.nodup.sublist (List.filter_sublist.map ElectionPosition.id)
    refine (List.pairwise_map.1 apart).imp fun {p q} ne => List.disjoint_left.2 fun k hp hq => ne ?_
    obtain ⟨c, hc, rfl⟩ := List.mem_map.1 hp
    obtain ⟨c', hc', same⟩ := List.mem_map.1 hq
    obtain ⟨row, position⟩ := List.mem_filter.1 hc
    obtain ⟨row', position'⟩ := List.mem_filter.1 hc'
    have one : c' = c := Table.eq_of_key row' row same
    rw [one] at position'
    rw [← of_decide_eq_true position, ← of_decide_eq_true position']

theorem totalVotes_position (p : ElectionPosition) :
    (GovernanceService.positionResult (d.viewPosition r p)).totalVotes =
      ((d.candidatesFor p.id).map fun c => (d.votesOf c.id).length).sum := by
  unfold GovernanceService.positionResult GovernanceDb.viewPosition
  rw [List.map_map]
  rfl

/-- The votes of the positions are those for their candidates. -/
theorem sum_totalVotes (d : GovernanceDb) (r : Register) (id : String) :
    (((d.positionsOf id).map (d.viewPosition r)).map fun p =>
      (GovernanceService.positionResult p).totalVotes).sum =
      (d.votes.filter fun v => v.candidateId ∈ candidateIds d id).length := by
  rw [← sum_length_filter (nodup_candidateIds d id) Vote.candidateId d.votes, List.map_map]
  unfold candidateIds
  induction d.positionsOf id with
  | nil => rfl
  | cons p positions ih =>
    rw [List.map_cons, List.sum_cons, ih, List.flatMap_cons, List.map_append, List.sum_append, List.map_map]
    congr 1
    exact totalVotes_position p

theorem Polled.tallied (h : Polled d log) (ok : GovernanceService.getElectionResults r d id = .ok results) :
    Tallied log id results := by
  unfold GovernanceService.getElectionResults at ok
  cases found : d.elections.find id with
  | none =>
    rw [found] at ok
    cases ok
  | some e =>
    rw [found] at ok
    obtain rfl := Except.ok.inj ok
    have key : e.id = id := Table.find_key found
    rw [key]
    refine ⟨fun p hp c hc => ?_, ?_, ?_, fun p hp votes => ?_⟩
    · obtain ⟨view, hview, rfl⟩ := List.mem_map.1 hp
      obtain ⟨position, -, rfl⟩ := List.mem_map.1 hview
      obtain ⟨shown, hshown, rfl⟩ := List.mem_map.1 hc
      obtain ⟨candidate, -, rfl⟩ := List.mem_map.1 hshown
      rw [← h.votes]
      rfl
    · have own : (d.votes.filter fun v => v.candidateId ∈ candidateIds d id) =
          d.votes.filter fun v => v.electionId = id := by
        refine List.filter_congr fun v mem => decide_eq_decide.2 ?_
        obtain ⟨c, p, hc, hp, same⟩ := h.placed v mem
        rw [mem_candidateIds]
        constructor
        · rintro ⟨c', p', hc', hp', rfl⟩
          rw [hc, Option.some.injEq] at hc'
          rw [← hc', hp, Option.some.injEq] at hp'
          rw [← hp', same]
        · rintro rfl
          exact ⟨c, p, hc, hp, same⟩
      have counted := sum_totalVotes d r id
      rw [own, h.votes] at counted
      rw [← counted]
      show (((((d.positionsOf id).map (d.viewPosition r)).map GovernanceService.positionResult).map _).sum) = _
      rw [List.map_map]
      rfl
    · show (((d.votesIn e.id).map Vote.voterId).toFinset).card = _
      rw [key, ← h.votes]
      rfl
    · obtain ⟨view, -, rfl⟩ := List.mem_map.1 hp
      have pos : 0 < ((view.candidates.map fun c => c.votes.length).sum) := Nat.pos_of_ne_zero votes
      show ((view.candidates.map (GovernanceService.resultOf _)).map CandidateResult.percentage).sum = 100
      have shares : (view.candidates.map (GovernanceService.resultOf (view.candidates.map fun c => c.votes.length).sum)).map
          CandidateResult.percentage = view.candidates.map fun c =>
            (c.votes.length : ℚ) / ((view.candidates.map fun c => c.votes.length).sum : ℕ) * 100 := by
        rw [List.map_map]
        refine List.map_congr_left fun c _ => ?_
        exact if_pos pos
      rw [shares, sum_percent, div_self (Nat.cast_ne_zero.2 pos.ne'), one_mul]

end Results

end Heightt.Governance
