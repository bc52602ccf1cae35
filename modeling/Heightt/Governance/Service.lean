import Heightt.Governance.Database

/-!
# GovernanceService

Elections, their candidates and the ballots. A call checks what it needs one
reading after the other, outside any transaction, and then writes.
-/

namespace Heightt.Governance

open Store ReadCommitted Prog

/-- `cacheService.delete` of the cached election. -/
inductive CacheCall where
  | delete (electionId : String)
  deriving DecidableEq

def CacheCall.Reply : CacheCall → Type
  | delete _ => Unit

/-- The cache, which no modelled function reads. -/
structure Cache where

instance : External Cache CacheCall CacheCall.Reply Empty where
  handle
    | .delete _, x => (x, ())
  move m := m.elim

abbrev GovernanceAction (α : Type) :=
  Prog GovernanceDb GovernanceStmt CacheCall CacheCall.Reply GovernanceError α

abbrev GovernanceSystem :=
  Config GovernanceDb Cache GovernanceStmt CacheCall CacheCall.Reply GovernanceError

structure PositionDto where
  title : String
  maxCandidates : Option Int := none
  maxVotes : Option Int := none
  deriving DecidableEq

structure CreateElectionDto where
  organizationId : String
  startDate : Nat
  endDate : Nat
  status : Option ElectionStatus := none
  positions : List PositionDto
  deriving DecidableEq

structure NominateCandidateDto where
  positionId : String
  userId : String
  deriving DecidableEq

structure VoteDto where
  positionId : String
  candidateId : String
  deriving DecidableEq

structure CastVoteDto where
  electionId : String
  votes : List VoteDto
  deriving DecidableEq

/-- The identifiers a new election and its positions get. -/
structure NewElection where
  id : String
  positionId : Nat → String

/-- An election as `castVote` reads it, with its positions and their candidates. -/
structure ElectionRead where
  election : Election
  positions : List (ElectionPosition × List Candidate)
  deriving DecidableEq

def GovernanceDb.readElection (d : GovernanceDb) (id : String) : Option ElectionRead :=
  (d.elections.find id).map fun e =>
    ⟨e, (d.positions.rows.filter fun p => p.electionId = id).map fun p => (p, d.candidatesFor p.id)⟩

namespace GovernanceService

/-- The user is ADMIN or STAFF of the organization, or an admin of the platform. -/
def ensurePermission (userId organizationId message : String) : GovernanceAction Unit := do
  let membership ← outside fun d => d.memberships.find? fun m =>
    m.userId = userId ∧ m.organizationId = organizationId ∧ m.isStaff = true
  let isPlatformAdmin ← outside fun d => d.platformAdmins.find? (· = userId)
  ensure (membership.isSome ∨ isPlatformAdmin.isSome) (.forbidden message)

/-- `limit || other` -/
def orLimit (limit : Option Int) (other : Int) : Int := if limit.getD 0 = 0 then other else limit.getD 0

def electionRow (dto : CreateElectionDto) (new : NewElection) : Election where
  id := new.id
  organizationId := dto.organizationId
  startDate := dto.startDate
  endDate := dto.endDate
  status := dto.status.getD .draft

def positionRows (dto : CreateElectionDto) (new : NewElection) : List ElectionPosition :=
  dto.positions.mapIdx fun i pos =>
    { id := new.positionId i, electionId := new.id, title := pos.title
      maxCandidates := orLimit pos.maxCandidates 3, maxVotes := orLimit pos.maxVotes 1 }

def createElection (userId : String) (dto : CreateElectionDto) (new : NewElection) :
    GovernanceAction Unit := do
  let organization ← outside fun d => d.organizations.find? (· = dto.organizationId)
  let _ ← orThrow organization (.notFound "Organization not found")
  ensurePermission userId dto.organizationId "You do not have permission to create elections"
  transaction do
    exec (.createElection (electionRow dto new))
    exec (.createPositions (positionRows dto new))
  statement .createActivityLog

def findElection (id : String) : GovernanceAction Election := do
  let election ← outside fun d => d.elections.find id
  orThrow election (.notFound "Election not found")

/-- Write the election, drop it from the cache and log the activity. -/
def writeElection (election : Election) (patch : ElectionPatch) : GovernanceAction Unit := do
  statement (.updateElection election patch)
  request (C := CacheCall) (.delete election.id)
  statement .createActivityLog

def updateElection (id userId : String) (dto : ElectionPatch) : GovernanceAction Unit := do
  let election ← findElection id
  ensurePermission userId election.organizationId "You do not have permission to update this election"
  ensure (election.status ≠ .active ∧ election.status ≠ .completed)
    (.badRequest "Cannot update an active or completed election")
  writeElection election dto

def startElection (id userId : String) : GovernanceAction Unit := do
  let election ← findElection id
  ensurePermission userId election.organizationId "You do not have permission to start this election"
  ensure (election.status ≠ .active) (.badRequest "Election is already active")
  ensure (election.status ≠ .completed) (.badRequest "Election is already completed")
  let candidates ← outside fun d => (d.candidates.rows.filter fun c => c.electionId = id).length
  ensure (candidates ≠ 0) (.badRequest "Cannot start election with no candidates")
  let now ← query GovernanceDb.now
  writeElection election { startDate := some now, status := some .active }

def endElection (id userId : String) : GovernanceAction Unit := do
  let election ← findElection id
  ensurePermission userId election.organizationId "You do not have permission to end this election"
  ensure (election.status ≠ .completed) (.badRequest "Election is already completed")
  let now ← query GovernanceDb.now
  writeElection election { endDate := some now, status := some .completed }

def nominateCandidate (dto : NominateCandidateDto) (newId : String) : GovernanceAction Unit := do
  let found ← outside fun d => do
    let position ← d.positions.find dto.positionId
    let election ← d.elections.find position.electionId
    pure (position, election)
  let (position, election) ← orThrow found (.notFound "Position not found")
  ensure (election.status = .draft ∨ election.status = .nomination)
    (.badRequest "Nominations are not open for this election")
  let existing ← outside fun d => d.candidates.findFirst fun c =>
    c.positionId = dto.positionId ∧ c.userId = dto.userId
  ensure existing.isNone (.conflict "Candidate already nominated for this position")
  let candidateCount ← outside fun d => (d.candidatesFor dto.positionId).length
  ensure (candidateCount < position.maxCandidates)
    (.badRequest "Maximum number of candidates reached for this position")
  let membership ← outside fun d => d.memberships.find? fun m =>
    m.userId = dto.userId ∧ m.organizationId = election.organizationId
  ensure membership.isSome (.forbidden "Candidate must be a member of the organization")
  statement (.createCandidate
    { id := newId, electionId := election.id, positionId := dto.positionId, userId := dto.userId }
    election candidateCount)
  statement .createActivityLog

def approveCandidate (candidateId userId : String) : GovernanceAction Unit := do
  let found ← outside fun d => do
    let candidate ← d.candidates.find candidateId
    d.elections.find candidate.electionId
  let election ← orThrow found (.notFound "Candidate not found")
  ensurePermission userId election.organizationId "You do not have permission to approve candidates"
  statement (.approveCandidate candidateId)
  statement .createActivityLog

/-- The votes of a ballot, one after the other, from the `n`-th on. -/
def createVotes (seen : ElectionRead) (userId : String) (newId : Nat → String) :
    Nat → List VoteDto → GovernanceAction Unit
  | _, [] => pure ()
  | n, vote :: votes => do
    let (position, candidates) ← orThrow (seen.positions.find? fun p => p.1.id = vote.positionId)
      (.badRequest ("Position " ++ vote.positionId ++ " not found in this election"))
    let candidate ← orThrow (candidates.find? fun c => c.id = vote.candidateId)
      (.badRequest ("Candidate " ++ vote.candidateId ++ " not found for position " ++ position.id))
    let existingPositionVote ← query fun d =>
      (d.votesFor seen.election.id userId vote.positionId).head?
    ensure existingPositionVote.isNone
      (.conflict ("You have already voted for position " ++ position.title))
    let votesForPosition ← query fun d => (d.votesFor seen.election.id userId vote.positionId).length
    ensure (votesForPosition < position.maxVotes)
      (.badRequest ("You have reached the maximum votes for position " ++ position.title))
    exec (.createVote
      { id := newId n, electionId := seen.election.id, candidateId := candidate.id, voterId := userId }
      seen.election)
    createVotes seen userId newId (n + 1) votes

def castVote (userId : String) (dto : CastVoteDto) (newId : Nat → String) : GovernanceAction Unit := do
  let found ← outside fun d => d.readElection dto.electionId
  let seen ← orThrow found (.notFound "Election not found")
  ensure (seen.election.status = .active) (.badRequest "Election is not active")
  let now ← query GovernanceDb.now
  ensure (now ≤ seen.election.endDate) (.badRequest "Election has ended")
  let membership ← outside fun d => d.memberships.find? fun m =>
    m.userId = userId ∧ m.organizationId = seen.election.organizationId
  ensure membership.isSome (.forbidden "You must be a member of the organization to vote")
  let existingVote ← outside fun d => d.votes.find? fun v =>
    v.electionId = dto.electionId ∧ v.voterId = userId
  ensure existingVote.isNone (.conflict "You have already voted in this election")
  transaction (createVotes seen userId newId 0 dto.votes)
  statement .createActivityLog

end GovernanceService

end Heightt.Governance
