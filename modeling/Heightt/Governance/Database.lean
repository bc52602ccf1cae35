import Heightt.ReadCommitted.Statement
import Heightt.ReadCommitted.Run
import Heightt.Store.Table

/-!
# Elections, candidates and votes

The rows that the governance service reads or writes, and its statements. A
statement that was decided on an earlier reading carries that reading (`seen`):
it is no part of what the database is told.
-/

namespace Heightt.Governance

open Store ReadCommitted

inductive ElectionStatus where
  | draft | nomination | active | completed | cancelled
  deriving DecidableEq, Repr

inductive CandidateStatus where
  | nominated | approved | rejected | withdrawn
  deriving DecidableEq, Repr

structure Election where
  id : String
  organizationId : String
  startDate : Nat
  endDate : Nat
  status : ElectionStatus := .draft
  deriving DecidableEq

structure ElectionPosition where
  id : String
  electionId : String
  title : String
  maxCandidates : Int
  maxVotes : Int
  deriving DecidableEq

structure Candidate where
  id : String
  electionId : String
  positionId : String
  userId : String
  status : CandidateStatus := .nominated
  deriving DecidableEq

structure Vote where
  id : String
  electionId : String
  candidateId : String
  voterId : String
  deriving DecidableEq

/-- An ACTIVE membership. -/
structure Membership where
  userId : String
  organizationId : String
  /-- `membershipType` is ADMIN or STAFF. -/
  isStaff : Bool := false
  deriving DecidableEq

structure GovernanceDb where
  elections : Table Election String Election.id := .empty
  positions : Table ElectionPosition String ElectionPosition.id := .empty
  candidates : Table Candidate String Candidate.id := .empty
  votes : List Vote := []
  organizations : List String := []
  memberships : List Membership := []
  /-- The users with an ACTIVE PLATFORM_ADMIN record. -/
  platformAdmins : List String := []
  /-- The time in milliseconds. -/
  now : Nat := 0

/-- `election.update`: fields left out are not written. -/
structure ElectionPatch where
  startDate : Option Nat := none
  endDate : Option Nat := none
  status : Option ElectionStatus := none
  deriving DecidableEq

def ElectionPatch.apply (p : ElectionPatch) (e : Election) : Election :=
  { e with
    startDate := p.startDate.getD e.startDate
    endDate := p.endDate.getD e.endDate
    status := p.status.getD e.status }

inductive GovernanceError where
  | notFound (message : String)
  | badRequest (message : String)
  | forbidden (message : String)
  | conflict (message : String)
  | uniqueConstraint
  | recordNotFound
  | foreignKeyConstraint
  /-- The database or the cache failed. -/
  | fault
  deriving DecidableEq

inductive GovernanceStmt where
  | createElection (election : Election)
  | createPositions (positions : List ElectionPosition)
  | updateElection (seen : Election) (patch : ElectionPatch)
  /-- The position had `count` candidates, in the election `seen`. -/
  | createCandidate (candidate : Candidate) (seen : Election) (count : Nat)
  | approveCandidate (id : String)
  | createVote (vote : Vote) (seen : Election)
  | createActivityLog
  /-- Time passes. -/
  | tick (ms : Nat)
  deriving DecidableEq

inductive GovernanceRow where
  | election (id : String)
  | candidate (id : String)
  | nomination (electionId positionId userId : String)
  | vote (electionId voterId candidateId : String)
  deriving DecidableEq

def Candidate.approve (c : Candidate) : Candidate := { c with status := .approved }

namespace GovernanceDb

/-- The position a vote is for. -/
def positionOf (d : GovernanceDb) (v : Vote) : Option String :=
  (d.candidates.find v.candidateId).map Candidate.positionId

/-- The votes of a user for a position of an election. -/
def votesFor (d : GovernanceDb) (electionId voterId positionId : String) : List Vote :=
  d.votes.filter fun v =>
    v.electionId = electionId ∧ v.voterId = voterId ∧ d.positionOf v = some positionId

def candidatesFor (d : GovernanceDb) (positionId : String) : List Candidate :=
  d.candidates.rows.filter fun c => c.positionId = positionId

end GovernanceDb

namespace GovernanceStmt

def apply : GovernanceStmt → GovernanceDb → GovernanceDb
  | createElection e, d => { d with elections := d.elections.insert e }
  | createPositions ps, d => { d with positions := ps.foldl Table.insert d.positions }
  | updateElection seen patch, d =>
    { d with elections := d.elections.modify seen.id patch.apply fun _ => rfl }
  | createCandidate c _ _, d => { d with candidates := d.candidates.insert c }
  | approveCandidate id, d =>
    { d with candidates := d.candidates.modify id Candidate.approve fun _ => rfl }
  | createVote v _, d => { d with votes := d.votes ++ [v] }
  | createActivityLog, d => d
  | tick ms, d => { d with now := d.now + ms }

/-- The constraint a statement violates. -/
def check : GovernanceStmt → GovernanceDb → Option GovernanceError
  | createElection e, d =>
    if (d.elections.find e.id).isSome then some .uniqueConstraint
    else if e.organizationId ∈ d.organizations then none else some .foreignKeyConstraint
  | createPositions ps, d =>
    if (ps.map ElectionPosition.id).Nodup ∧ ∀ p ∈ ps, d.positions.find p.id = none then
      if ∀ p ∈ ps, (d.elections.find p.electionId).isSome then none else some .foreignKeyConstraint
    else some .uniqueConstraint
  | updateElection seen _, d => if (d.elections.find seen.id).isSome then none else some .recordNotFound
  | createCandidate c _ _, d =>
    if (d.candidates.find c.id).isSome ∨ d.candidates.rows.any (fun r => r.electionId = c.electionId ∧
        r.positionId = c.positionId ∧ r.userId = c.userId) then some .uniqueConstraint
    else if (d.elections.find c.electionId).isSome ∧ (d.positions.find c.positionId).isSome then none
    else some .foreignKeyConstraint
  | approveCandidate id, d => if (d.candidates.find id).isSome then none else some .recordNotFound
  | createVote v _, d =>
    if d.votes.any (fun r => r.id = v.id ∨ r.electionId = v.electionId ∧ r.voterId = v.voterId ∧
        r.candidateId = v.candidateId) then some .uniqueConstraint
    else if (d.candidates.find v.candidateId).isSome ∧ (d.elections.find v.electionId).isSome then none
    else some .foreignKeyConstraint
  | createActivityLog, _ | tick _, _ => none

/-- The rows and unique-index entries that a statement locks. -/
def rows : GovernanceStmt → List GovernanceRow
  | updateElection seen _ => [.election seen.id]
  | createCandidate c _ _ => [.nomination c.electionId c.positionId c.userId]
  | approveCandidate id => [.candidate id]
  | createVote v _ => [.vote v.electionId v.voterId v.candidateId]
  | createElection _ | createPositions _ | createActivityLog | tick _ => []

end GovernanceStmt

/-- No integer column is counted here. -/
instance : Database GovernanceDb GovernanceStmt GovernanceRow Empty GovernanceError where
  apply := GovernanceStmt.apply
  check := GovernanceStmt.check
  rows := GovernanceStmt.rows
  value _ c := c.elim
  change _ c := c.elim
  cols _ := []
  change_of_not_mem {_ c} := c.elim
  value_apply c := c.elim

end Heightt.Governance
