import Heightt.Governance.Operations
import Heightt.ReadCommitted.Alone
import Heightt.ReadCommitted.Guarantee

/-!
# Which ballots are accepted

`castVote` decides a ballot entry by entry, in a transaction that sees the votes for the
entries before. An entry is taken if its candidate stands for its position, the position
allows a vote at all, and no entry before was for the position. So a position that allows
several votes never gets more than one.
-/

namespace Heightt.Governance

open Store ReadCommitted Database Prog GovernanceService

/-- The entry names a candidate for a position of the election. -/
def Names (d : GovernanceDb) (electionId : String) (v : VoteDto) : Prop :=
  ∃ p ∈ d.positions.rows, p.id = v.positionId ∧ p.electionId = electionId ∧
    ∃ c ∈ d.candidates.rows, c.id = v.candidateId ∧ c.positionId = p.id

/-- For each position the ballot names at most `maxVotes` distinct candidates. -/
structure ValidBallot (d : GovernanceDb) (dto : CastVoteDto) : Prop where
  candidates : ∀ v ∈ dto.votes, Names d dto.electionId v
  distinct : dto.votes.Nodup
  limit : ∀ p ∈ d.positions.rows, p.electionId = dto.electionId →
    (dto.votes.filter fun v => v.positionId = p.id).length ≤ p.maxVotes.toNat

/-- The election is active, and the user is a member who has not voted in it. -/
structure Eligible (d : GovernanceDb) (userId electionId : String) : Prop where
  election : ∃ e, d.elections.find electionId = some e ∧ e.status = .active ∧ d.now ≤ e.endDate ∧
    ∃ m ∈ d.memberships, m.userId = userId ∧ m.organizationId = e.organizationId
  unvoted : ∀ w ∈ d.votes, w.electionId = electionId → w.voterId ≠ userId

/-- The identifiers of the new votes are not in use. -/
structure Unused (d : GovernanceDb) (newId : Nat → String) : Prop where
  injective : newId.Injective
  unused : ∀ w ∈ d.votes, ∀ n, w.id ≠ newId n

/-- The vote for the `i`-th entry. -/
def voteOf (userId electionId : String) (newId : Nat → String) (i : Nat) (v : VoteDto) : Vote where
  id := newId i
  electionId := electionId
  candidateId := v.candidateId
  voterId := userId

/-- One vote for each entry. -/
def votesOf (userId electionId : String) (newId : Nat → String) (entries : List VoteDto) : List Vote :=
  entries.mapIdx (voteOf userId electionId newId)

/-- Valid ballots are accepted and recorded, one vote for each entry; others are refused, and
leave nothing. -/
structure DecidesBallot (d : GovernanceDb) (x : Cache) (userId : String) (dto : CastVoteDto)
    (newId : Nat → String) : Prop where
  accepts : ValidBallot d dto → (castVote userId dto newId).alone [] d x = some ⟨.ok (), [],
    { d with votes := d.votes ++ votesOf userId dto.electionId newId dto.votes }, x⟩
  rejects : ¬ValidBallot d dto → ∃ e, (castVote userId dto newId).alone [] d x = some ⟨.error e, [], d, x⟩

/-! ## What is looked up -/

/-- The position and the candidate of an entry, as the loop finds them. -/
def entry (d : GovernanceDb) (electionId : String) (v : VoteDto) : Option (ElectionPosition × Candidate) := do
  let p ← (d.positions.find v.positionId).filter fun p => p.electionId = electionId
  let c ← (d.candidates.find v.candidateId).filter fun c => c.positionId = p.id
  pure (p, c)

theorem entry_eq_some {d : GovernanceDb} {electionId : String} {v : VoteDto} {p : ElectionPosition}
    {c : Candidate} : entry d electionId v = some (p, c) ↔
      d.positions.find v.positionId = some p ∧ p.electionId = electionId ∧
        d.candidates.find v.candidateId = some c ∧ c.positionId = v.positionId := by
  constructor
  · intro h
    obtain ⟨p', hp, h⟩ := Option.bind_eq_some_iff.1 h
    obtain ⟨c', hc, h⟩ := Option.bind_eq_some_iff.1 h
    cases h
    obtain ⟨hp, own⟩ := Option.filter_eq_some_iff.1 hp
    obtain ⟨hc, stands⟩ := Option.filter_eq_some_iff.1 hc
    rw [← Table.find_key hp]
    exact ⟨Table.find_key hp ▸ hp, of_decide_eq_true own, hc, of_decide_eq_true stands⟩
  · rintro ⟨hp, own, hc, stands⟩
    have id := Table.find_key hp
    simp [entry, hp, hc, own, stands, id, Option.filter]

/-- Entries that are found are those that name a candidate. -/
theorem names_iff {d : GovernanceDb} {electionId : String} {v : VoteDto} :
    Names d electionId v ↔ ∃ p c, entry d electionId v = some (p, c) := by
  simp only [entry_eq_some, Table.find_eq_some]
  constructor
  · rintro ⟨p, hp, id, own, c, hc, candidate, stands⟩
    exact ⟨p, c, ⟨hp, id⟩, own, ⟨hc, candidate⟩, stands.trans id⟩
  · rintro ⟨p, c, ⟨hp, id⟩, own, ⟨hc, candidate⟩, stands⟩
    exact ⟨p, hp, id, own, c, hc, candidate, stands.trans id.symm⟩

theorem find_positions {d : GovernanceDb} {electionId : String} {seen : ElectionRead}
    (read : d.readElection electionId = some seen) (positionId : String) :
    (seen.positions.find? fun p => p.1.id = positionId) =
      ((d.positions.find positionId).filter fun p => p.electionId = electionId).map fun p =>
        (p, d.candidatesFor p.id) := by
  obtain ⟨e, -, rfl⟩ := Option.map_eq_some_iff.1 read
  rw [List.find?_map, ← Table.find_filter]
  rfl

theorem find_candidates (d : GovernanceDb) (positionId candidateId : String) :
    ((d.candidatesFor positionId).find? fun c => c.id = candidateId) =
      (d.candidates.find candidateId).filter fun c => c.positionId = positionId :=
  Table.find_filter _ _ _

/-! ## Votes that are on the ballot already -/

section

variable {d : GovernanceDb} {userId electionId : String} {newId : Nat → String} {done : List VoteDto}

theorem votesOf_append (v : VoteDto) : votesOf userId electionId newId (done ++ [v]) =
    votesOf userId electionId newId done ++ [voteOf userId electionId newId done.length v] := by
  rw [votesOf, List.mapIdx_append]
  simp [votesOf]

theorem mem_votesOf {w : Vote} : w ∈ votesOf userId electionId newId done ↔
    ∃ i v, done[i]? = some v ∧ voteOf userId electionId newId i v = w := by
  simp only [votesOf, List.mem_iff_getElem?, List.getElem?_mapIdx, Option.map_eq_some_iff]

/-- The state that the transaction sees after the entries `done`. -/
def cast (d : GovernanceDb) (userId electionId : String) (newId : Nat → String) (done : List VoteDto) :
    GovernanceDb :=
  { d with votes := d.votes ++ votesOf userId electionId newId done }

theorem positionOf_voteOf (named : ∀ v ∈ done, Names d electionId v) {i : Nat} {v : VoteDto}
    (hv : done[i]? = some v) :
    d.positionOf (voteOf userId electionId newId i v) = some v.positionId := by
  obtain ⟨p, c, found⟩ := names_iff.1 (named v (List.mem_of_getElem? hv))
  obtain ⟨-, -, hc, stands⟩ := entry_eq_some.1 found
  show (d.candidates.find v.candidateId).map Candidate.positionId = _
  rw [hc, Option.map_some, stands]

/-- The voter has a vote for a position if and only if an entry before was for it. -/
theorem votesFor_cast (unvoted : ∀ w ∈ d.votes, w.electionId = electionId → w.voterId ≠ userId)
    (named : ∀ v ∈ done, Names d electionId v) (positionId : String) :
    (cast d userId electionId newId done).votesFor electionId userId positionId = [] ↔
      positionId ∉ done.map VoteDto.positionId := by
  rw [GovernanceDb.votesFor, List.filter_eq_nil_iff]
  constructor
  · intro none_ mem
    obtain ⟨v, hv, rfl⟩ := List.mem_map.1 mem
    obtain ⟨i, hi⟩ := List.mem_iff_getElem?.1 hv
    refine none_ _ (List.mem_append_right _ (mem_votesOf.2 ⟨i, v, hi, rfl⟩)) (decide_eq_true ⟨rfl, rfl, ?_⟩)
    exact positionOf_voteOf named hi
  · intro absent w hw h
    obtain ⟨election, voter, position⟩ := of_decide_eq_true h
    obtain hw | hw := List.mem_append.1 hw
    · exact unvoted w hw election voter
    · obtain ⟨i, v, hi, rfl⟩ := mem_votesOf.1 hw
      have own := (positionOf_voteOf named hi).symm.trans position
      exact absent (Option.some.inj own ▸ List.mem_map_of_mem (List.mem_of_getElem? hi))

/-- The database has no objection to a vote for a new position. -/
theorem check_vote {e : Election} {v : VoteDto} {p : ElectionPosition} {c : Candidate}
    (election : d.elections.find electionId = some e) (fresh : Unused d newId)
    (unvoted : ∀ w ∈ d.votes, w.electionId = electionId → w.voterId ≠ userId)
    (named : ∀ v ∈ done, Names d electionId v) (found : entry d electionId v = some (p, c))
    (once : v.positionId ∉ done.map VoteDto.positionId) :
    check (GovernanceStmt.createVote (voteOf userId electionId newId done.length v) e)
      (cast d userId electionId newId done) = none := by
  obtain ⟨-, -, hc, stands⟩ := entry_eq_some.1 found
  have free : ¬(cast d userId electionId newId done).votes.any (fun r =>
      r.id = (voteOf userId electionId newId done.length v).id ∨ r.electionId = electionId ∧
        r.voterId = userId ∧ r.candidateId = v.candidateId) := by
    rw [List.any_eq_true]
    rintro ⟨w, hw, same⟩
    obtain hw | hw := List.mem_append.1 hw
    · obtain same | ⟨own, voter, -⟩ := of_decide_eq_true same
      · exact fresh.unused w hw _ same
      · exact unvoted w hw own voter
    · obtain ⟨i, u, hi, rfl⟩ := mem_votesOf.1 hw
      obtain same | ⟨-, -, candidate⟩ := of_decide_eq_true same
      · have := fresh.injective same
        have := (List.getElem?_eq_some_iff.1 hi).1
        omega
      · -- an entry before for the same candidate was for the same position
        have own : d.positionOf (voteOf userId electionId newId i u) = some u.positionId := positionOf_voteOf named hi
        have position : d.positionOf (voteOf userId electionId newId i u) = some v.positionId := by
          show (d.candidates.find u.candidateId).map Candidate.positionId = _
          rw [show u.candidateId = v.candidateId from candidate, hc, Option.map_some, stands]
        rw [own] at position
        exact once (Option.some.inj position ▸ List.mem_map_of_mem (List.mem_of_getElem? hi))
  refine (if_neg free).trans (if_pos ⟨?_, ?_⟩)
  · show (d.candidates.find v.candidateId).isSome
    rw [hc]
    rfl
  · show (d.elections.find electionId).isSome
    rw [election]
    rfl

/-! ## The loop -/

/-- What the loop asks of an entry, after the entries `done`. -/
def Castable (d : GovernanceDb) (electionId : String) (done : List VoteDto) (v : VoteDto) : Prop :=
  v.positionId ∉ done.map VoteDto.positionId ∧ ∃ p c, entry d electionId v = some (p, c) ∧ 0 < p.maxVotes

variable {seen : ElectionRead} {x : Cache}

/-- The transaction after the entries `done`. -/
def voting (seen : ElectionRead) (userId electionId : String) (newId : Nat → String) (done : List VoteDto) :
    Frame GovernanceStmt :=
  ⟨voteStatements seen.election (votesOf userId electionId newId done), true⟩

/-- The entry ends the transaction with an error. -/
def Refused (p : GovernanceAction Unit) (f : Frame GovernanceStmt) (d : GovernanceDb) (x : Cache) : Prop :=
  ∃ e f', p.alone [f] d x = some ⟨.error e, [f'], d, x⟩

/-- **One entry**: if it can be cast, its vote is added to the transaction, and else all is over. -/
theorem alone_createVotes_cons (read : d.readElection electionId = some seen) (fresh : Unused d newId)
    (unvoted : ∀ w ∈ d.votes, w.electionId = electionId → w.voterId ≠ userId)
    (named : ∀ v ∈ done, Names d electionId v)
    (valid : violation (voting seen userId electionId newId done).writes d = none) (v : VoteDto)
    (votes : List VoteDto) :
    (Castable d electionId done v ∧
      violation (voting seen userId electionId newId (done ++ [v])).writes d = none ∧
      (createVotes seen userId newId done.length (v :: votes)).alone
          [voting seen userId electionId newId done] d x =
        (createVotes seen userId newId (done ++ [v]).length votes).alone
          [voting seen userId electionId newId (done ++ [v])] d x) ∨
      (¬Castable d electionId done v ∧ Refused (createVotes seen userId newId done.length (v :: votes))
        (voting seen userId electionId newId done) d x) := by
  obtain ⟨stored, -⟩ := of_readElection read
  have election : seen.election.id = electionId := Table.find_key stored
  have sees : applyAll (voteStatements seen.election (votesOf userId electionId newId done)) d =
      cast d userId electionId newId done := applyAll_voteStatements _ _ d
  have cast_iff : (cast d userId electionId newId done).votesFor electionId userId v.positionId = [] ↔
      v.positionId ∉ done.map VoteDto.positionId := votesFor_cast unvoted named v.positionId
  generalize after_ : (createVotes seen userId newId (done ++ [v]).length votes).alone
    [voting seen userId electionId newId (done ++ [v])] d x = after
  unfold Refused createVotes voting
  simp only [bind_eq, alone_orThrow, find_positions read]
  cases hp : (d.positions.find v.positionId).filter fun p => p.electionId = electionId with
  | none =>
    refine .inr ⟨?_, _, _, rfl⟩
    rintro ⟨-, p, c, found, -⟩
    obtain ⟨hp', own, -⟩ := entry_eq_some.1 found
    simp [hp', own, Option.filter] at hp
  | some p =>
    simp only [Option.map_some, find_candidates]
    cases hc : (d.candidates.find v.candidateId).filter fun c => c.positionId = p.id with
    | none =>
      refine .inr ⟨?_, _, _, rfl⟩
      rintro ⟨-, p', c, found, -⟩
      obtain ⟨hp', -, hc', stands⟩ := entry_eq_some.1 found
      obtain rfl : p' = p := Option.some.inj (hp'.symm.trans (Option.filter_eq_some_iff.1 hp).1)
      have position := Table.find_key hp'
      simp [hc', stands, position, Option.filter] at hc
    | some c =>
      have found : entry d electionId v = some (p, c) := by
        unfold entry
        rw [hp, Option.bind_eq_bind, Option.bind_some, hc]
        rfl
      have candidate : c.id = v.candidateId := Table.find_key (Option.filter_eq_some_iff.1 hc).1
      simp only [alone_query_open, sees, election, alone_ensure]
      by_cases once : v.positionId ∈ done.map VoteDto.positionId
      · -- the vote of an entry before is found
        have some_ : ((cast d userId electionId newId done).votesFor electionId userId v.positionId).head? ≠
            none := by
          rw [Ne, List.head?_eq_none_iff, cast_iff]
          exact not_not_intro once
        rw [if_neg (by rwa [Option.isNone_iff_eq_none])]
        exact .inr ⟨fun h => h.1 once, _, _, rfl⟩
      · simp only [cast_iff.2 once, List.head?_nil, Option.isNone_none, if_true]
        by_cases room : 0 < p.maxVotes
        · left
          have ok := check_vote stored fresh unvoted named found once
          refine ⟨⟨once, p, c, found, room⟩, ?_, ?_⟩
          · unfold voting at valid
            rw [votesOf_append, ← voteStatements_append, violation_append, sees]
            exact ⟨valid, violation_cons.2 ⟨ok, rfl⟩⟩
          · rw [if_pos (by simpa using room), alone_exec, sees, candidate, ← after_]
            unfold voting
            rw [votesOf_append, ← voteStatements_append]
            simp only [voteOf] at ok ⊢
            rw [ok]
            simp
        · rw [if_neg (by simpa using room)]
          refine .inr ⟨?_, _, _, rfl⟩
          rintro ⟨-, p', c', found', room'⟩
          rw [found] at found'
          cases found'
          exact room room'

/-- Each entry can be cast after those before it. -/
def AllCastable (d : GovernanceDb) (electionId : String) : List VoteDto → List VoteDto → Prop
  | _, [] => True
  | done, v :: votes => Castable d electionId done v ∧ AllCastable d electionId (done ++ [v]) votes

theorem Castable.names {v : VoteDto} (h : Castable d electionId done v) : Names d electionId v := by
  obtain ⟨-, p, c, found, -⟩ := h
  exact names_iff.2 ⟨p, c, found⟩

theorem allCastable_iff (votes : List VoteDto) : AllCastable d electionId done votes ↔
    (∀ v ∈ votes, ∃ p c, entry d electionId v = some (p, c) ∧ 0 < p.maxVotes) ∧
      (votes.map VoteDto.positionId).Nodup ∧ ∀ v ∈ votes, v.positionId ∉ done.map VoteDto.positionId := by
  induction votes generalizing done with
  | nil => simp [AllCastable]
  | cons v votes ih =>
    simp only [AllCastable, Castable, ih, List.forall_mem_cons, List.map_cons, List.nodup_cons, List.map_append,
      List.map_nil, List.mem_append, List.mem_singleton, not_or, List.mem_map]
    constructor
    · rintro ⟨⟨once, found⟩, all, nodup, disjoint⟩
      refine ⟨⟨found, all⟩, ⟨?_, nodup⟩, once, fun u hu => (disjoint u hu).1⟩
      rintro ⟨u, hu, same⟩
      exact (disjoint u hu).2 same
    · rintro ⟨⟨found, all⟩, ⟨new, nodup⟩, once, disjoint⟩
      exact ⟨⟨once, found⟩, all, nodup, fun u hu => ⟨disjoint u hu, fun same => new ⟨u, hu, same⟩⟩⟩

/-- **The whole ballot**, by induction over its entries. -/
theorem alone_createVotes (read : d.readElection electionId = some seen) (fresh : Unused d newId)
    (unvoted : ∀ w ∈ d.votes, w.electionId = electionId → w.voterId ≠ userId) (votes : List VoteDto)
    (named : ∀ v ∈ done, Names d electionId v)
    (valid : violation (voting seen userId electionId newId done).writes d = none) :
    (AllCastable d electionId done votes ∧
      violation (voting seen userId electionId newId (done ++ votes)).writes d = none ∧
      (createVotes seen userId newId done.length votes).alone [voting seen userId electionId newId done] d x =
        some ⟨.ok (), [voting seen userId electionId newId (done ++ votes)], d, x⟩) ∨
      (¬AllCastable d electionId done votes ∧ Refused (createVotes seen userId newId done.length votes)
        (voting seen userId electionId newId done) d x) := by
  induction votes generalizing done with
  | nil =>
    rw [List.append_nil]
    exact .inl ⟨trivial, valid, rfl⟩
  | cons v votes ih =>
    obtain ⟨castable, valid', step⟩ | ⟨not_, refused⟩ :=
      alone_createVotes_cons (x := x) read fresh unvoted named valid v votes
    · have named' : ∀ u ∈ done ++ [v], Names d electionId u := by
        intro u hu
        obtain hu | hu := List.mem_append.1 hu
        · exact named u hu
        · exact List.mem_singleton.1 hu ▸ castable.names
      unfold Refused at ih ⊢
      rw [step, List.append_cons]
      obtain ⟨all, rest⟩ | ⟨not_, refused⟩ := ih named' valid'
      · exact .inl ⟨⟨castable, all⟩, rest⟩
      · exact .inr ⟨fun h => not_ h.2, refused⟩
    · exact .inr ⟨fun h => not_ h.1, refused⟩

end

/-! ## The call -/

theorem allCastable_valid {d : GovernanceDb} {dto : CastVoteDto}
    (h : AllCastable d dto.electionId [] dto.votes) : ValidBallot d dto := by
  obtain ⟨all, nodup, -⟩ := (allCastable_iff dto.votes).1 h
  refine ⟨fun v hv => ?_, nodup.of_map, fun p hp own => ?_⟩
  · obtain ⟨p, c, found, -⟩ := all v hv
    exact names_iff.2 ⟨p, c, found⟩
  · have once : (dto.votes.filter fun v => v.positionId = p.id).length ≤ 1 := by
      have count := List.nodup_iff_count_le_one.1 nodup p.id
      rw [List.count_eq_countP, List.countP_map, List.countP_eq_length_filter] at count
      exact count
    cases named : dto.votes.filter fun v => v.positionId = p.id with
    | nil => exact Nat.zero_le _
    | cons v rest =>
      rw [named] at once
      obtain ⟨hv, for_⟩ := List.mem_filter.1 (named ▸ List.mem_cons_self (a := v) (l := rest))
      obtain ⟨p', c, found, room⟩ := all v hv
      obtain ⟨hp', -⟩ := entry_eq_some.1 found
      rw [of_decide_eq_true for_, Table.find_of_mem hp] at hp'
      obtain rfl := Option.some.inj hp'
      omega

theorem allCastable_of_valid {d : GovernanceDb} {dto : CastVoteDto} (h : ValidBallot d dto)
    (once : (dto.votes.map VoteDto.positionId).Nodup) : AllCastable d dto.electionId [] dto.votes := by
  refine (allCastable_iff dto.votes).2 ⟨fun v hv => ?_, once, fun _ _ => List.not_mem_nil⟩
  obtain ⟨p, c, found⟩ := names_iff.1 (h.candidates v hv)
  obtain ⟨hp, own, -⟩ := entry_eq_some.1 found
  refine ⟨p, c, found, ?_⟩
  have limit := h.limit p (Table.find_mem hp) own
  have named : 0 < (dto.votes.filter fun v => v.positionId = p.id).length :=
    List.length_pos_of_mem (List.mem_filter.2 ⟨hv, decide_eq_true (Table.find_key hp).symm⟩)
  omega

/-- `castVote` accepts the ballots whose entries can all be cast. -/
theorem alone_castVote {d : GovernanceDb} {x : Cache} {userId : String} {dto : CastVoteDto}
    {newId : Nat → String} (eligible : Eligible d userId dto.electionId) (fresh : Unused d newId) :
    (AllCastable d dto.electionId [] dto.votes ∧ (castVote userId dto newId).alone [] d x = some ⟨.ok (), [],
      { d with votes := d.votes ++ votesOf userId dto.electionId newId dto.votes }, x⟩) ∨
      (¬AllCastable d dto.electionId [] dto.votes ∧
        ∃ e, (castVote userId dto newId).alone [] d x = some ⟨.error e, [], d, x⟩) := by
  obtain ⟨e, stored, active, timely, member⟩ := eligible.election
  obtain ⟨seen, read⟩ : ∃ seen, d.readElection dto.electionId = some seen := by
    unfold GovernanceDb.readElection
    rw [stored]
    exact ⟨_, rfl⟩
  obtain rfl : e = seen.election := Option.some.inj (stored.symm.trans (of_readElection read).1)
  have belongs : (d.memberships.find? fun m => m.userId = userId ∧
      m.organizationId = seen.election.organizationId).isSome := by
    simpa [List.find?_isSome] using member
  have first : (d.votes.find? fun v => v.electionId = dto.electionId ∧ v.voterId = userId) = none := by
    simpa [List.find?_eq_none] using eligible.unvoted
  have checks : (castVote userId dto newId).alone [] d x = ((transaction (createVotes seen userId newId 0
      dto.votes)).bind fun _ => statement .createActivityLog).alone [] d x := by
    unfold castVote
    simp only [bind_eq, alone_outside, alone_query, alone_ensure, read, alone_orThrow, active, timely, belongs,
      first, if_true, Option.isNone_none]
  rw [checks]
  obtain ⟨all, valid, body⟩ | ⟨not_, e, f, body⟩ :=
    alone_createVotes (x := x) read fresh eligible.unvoted dto.votes (fun v hv => absurd hv List.not_mem_nil) rfl
  · refine .inl ⟨all, ?_⟩
    rw [alone_transaction body valid, ← bind_ret (statement _), alone_statement]
    show some _ = _
    rw [applyAll_voteStatements, List.nil_append]
    rfl
  · exact .inr ⟨not_, e, alone_transaction_error body _⟩

/-- **Ballots are accepted** as they should be if and only if this one, where it is valid, names no
position twice. -/
theorem decidesBallot_iff (d : GovernanceDb) (x : Cache) (userId : String) (dto : CastVoteDto)
    (newId : Nat → String) (eligible : Eligible d userId dto.electionId) (fresh : Unused d newId) :
    DecidesBallot d x userId dto newId ↔
      (ValidBallot d dto → (dto.votes.map VoteDto.positionId).Nodup) := by
  obtain ⟨all, accepted⟩ | ⟨not_, e, refused⟩ := alone_castVote (x := x) eligible fresh
  · refine ⟨fun _ _ => ((allCastable_iff dto.votes).1 all).2.1, fun _ => ⟨fun _ => accepted, fun invalid => ?_⟩⟩
    exact absurd (allCastable_valid all) invalid
  · constructor
    · intro decides valid
      have accepted := decides.accepts valid
      rw [refused] at accepted
      cases accepted
    · intro once
      exact ⟨fun valid => absurd (allCastable_of_valid valid (once valid)) not_, fun _ => ⟨e, refused⟩⟩

/-- An active election for two seats on a board, with two candidates and one voter. -/
def boardElection : GovernanceDb where
  elections := Table.empty.insert
    { id := "e", organizationId := "o", startDate := 0, endDate := 1000, status := .active }
  positions := Table.empty.insert
    { id := "p", electionId := "e", title := "Board", maxCandidates := 3, maxVotes := 2 }
  candidates := (Table.empty.insert
    { id := "a", electionId := "e", positionId := "p", userId := "x", status := .approved }).insert
    { id := "b", electionId := "e", positionId := "p", userId := "y", status := .approved }
  organizations := ["o"]
  memberships := [⟨"v", "o", false⟩]

/-- The voter's ballot for both of them. -/
def bothCandidates : CastVoteDto := ⟨"e", [⟨"p", "a"⟩, ⟨"p", "b"⟩]⟩

def ballotId (n : Nat) : String := String.ofList (List.replicate n '0')

theorem eligible_boardElection : Eligible boardElection "v" "e" where
  election := ⟨_, rfl, rfl, by decide, _, List.mem_singleton_self _, rfl, rfl⟩
  unvoted := fun _ h => absurd h List.not_mem_nil

theorem unused_ballotId : Unused boardElection ballotId where
  injective := fun m n h => by
    have same := congrArg (fun s => s.toList.length) h
    simpa [ballotId] using same
  unused := fun _ h => absurd h List.not_mem_nil

theorem decidesBallot_iff_board : DecidesBallot boardElection {} "v" bothCandidates ballotId ↔
    (ValidBallot boardElection bothCandidates → (bothCandidates.votes.map VoteDto.positionId).Nodup) :=
  decidesBallot_iff boardElection {} "v" bothCandidates ballotId eligible_boardElection unused_ballotId

/-- The ballot is valid, since two votes are allowed, and it is refused. -/
theorem two_seats_refused : Eligible boardElection "v" "e" ∧ ValidBallot boardElection bothCandidates ∧
    (castVote "v" bothCandidates ballotId).alone [] boardElection ({} : Cache) =
      some ⟨.error (.conflict "You have already voted for position Board"), [], boardElection, {}⟩ ∧
    ¬DecidesBallot boardElection {} "v" bothCandidates ballotId := by
  have valid : ValidBallot boardElection bothCandidates :=
    ⟨by unfold Names; decide +kernel, by decide, by decide +kernel⟩
  have refused : (castVote "v" bothCandidates ballotId).alone [] boardElection ({} : Cache) =
      some ⟨.error (.conflict "You have already voted for position Board"), [], boardElection, {}⟩ := by
    rfl
  refine ⟨eligible_boardElection, valid, refused, fun decides => ?_⟩
  have accepted := decides.accepts valid
  rw [refused] at accepted
  cases accepted

end Heightt.Governance
