import Heightt.Governance.Operations
import Heightt.Store.Pages
import Mathlib.Algebra.Field.Rat
import Mathlib.Data.Finset.Card
import Mathlib.Data.List.Sort
import Mathlib.Data.Multiset.Filter

/-!
# What readers see of the votes

The three functions that show elections. Two of them include the rows of the votes, each with
its voter and its candidate; the results are counts. `respond_eq_iff` says when two vote tables
with the same outcome can be told apart.
-/

namespace Heightt.Governance

open Store ReadCommitted

structure OrganizationRef where
  id : String
  name : String
  slug : String
  deriving DecidableEq

structure UserRef where
  id : String
  email : String
  username : String
  /-- The first and the last name of the profile. -/
  profile : Option (String × String)
  deriving DecidableEq

/-- The columns that only the readers use, by the key of their row. -/
structure Register where
  title : String → String
  organization : String → OrganizationRef
  order : String → Int
  manifesto : String → Option String
  user : String → UserRef

/-- A candidate with the votes, in the form `V`. -/
structure CandidateView (V : Type) where
  candidate : Candidate
  manifesto : Option String
  user : UserRef
  votes : V
  deriving DecidableEq

structure PositionView (V : Type) where
  position : ElectionPosition
  candidates : List (CandidateView V)
  deriving DecidableEq

structure ElectionView (V : Type) where
  election : Election
  title : String
  organization : OrganizationRef
  positions : List (PositionView V)
  votes : V
  deriving DecidableEq

structure ElectionsPage (V : Type) where
  data : List (ElectionView V)
  info : PageMeta
  deriving DecidableEq

structure CandidateResult where
  candidateId : String
  userId : String
  username : String
  votes : Nat
  percentage : ℚ
  manifesto : Option String
  status : CandidateStatus
  deriving DecidableEq

structure PositionResult where
  positionId : String
  positionTitle : String
  candidates : List CandidateResult
  totalVotes : Nat
  deriving DecidableEq

structure ElectionResults where
  electionId : String
  title : String
  organization : String × String
  status : ElectionStatus
  startDate : Nat
  endDate : Nat
  totalVoters : Nat
  positions : List PositionResult
  deriving DecidableEq

namespace GovernanceDb

def positionsOf (d : GovernanceDb) (electionId : String) : List ElectionPosition :=
  d.positions.rows.filter fun p => p.electionId = electionId

def votesIn (d : GovernanceDb) (electionId : String) : List Vote :=
  d.votes.filter fun v => v.electionId = electionId

def votesOf (d : GovernanceDb) (candidateId : String) : List Vote :=
  d.votes.filter fun v => v.candidateId = candidateId

/-- The users who voted in an election. -/
def voters (d : GovernanceDb) (electionId : String) : Finset String :=
  ((d.votesIn electionId).map Vote.voterId).toFinset

variable (r : Register) (d : GovernanceDb)

def viewCandidate (c : Candidate) : CandidateView (List Vote) where
  candidate := c
  manifesto := r.manifesto c.id
  user := r.user c.userId
  votes := d.votesOf c.id

def viewPosition (p : ElectionPosition) : PositionView (List Vote) where
  position := p
  candidates := (d.candidatesFor p.id).map (d.viewCandidate r)

/-- The election with its `positions`, their candidates and the votes. -/
def viewElection (positions : List ElectionPosition) (e : Election) : ElectionView (List Vote) where
  election := e
  title := r.title e.id
  organization := r.organization e.organizationId
  positions := positions.map (d.viewPosition r)
  votes := d.votesIn e.id

end GovernanceDb

/-- The cached elections. -/
abbrev ElectionCache := String → Option (ElectionView (List Vote))

namespace GovernanceService

variable (r : Register) (d : GovernanceDb)

/-- `where`: an empty text is no filter. -/
def listed (organizationId : Option String) (status : Option ElectionStatus) (e : Election) : Bool :=
  (organizationId.filter (· ≠ "")).all (fun o => e.organizationId = o) &&
    status.all fun s => e.status = s

/-- The elections of a page, and how many there are. -/
def pageOf (organizationId : Option String) (page limit : Int) (status : Option ElectionStatus) :
    Option (List Election) :=
  paginate ((page - 1) * limit) limit
    ((d.elections.rows.filter (listed organizationId status)).insertionSort
      fun e e' => e.startDate ≤ e'.startDate)

def getElections (organizationId : Option String) (page limit : Int) (status : Option ElectionStatus) :
    Except GovernanceError (ElectionsPage (List Vote)) :=
  let total := (d.elections.rows.filter (listed organizationId status)).length
  match pageOf d organizationId page limit status with
  | none => .error .fault
  | some elections => .ok ⟨elections.map fun e => d.viewElection r (d.positionsOf e.id) e,
      page, limit, total, if limit = 0 then none else some (-(Int.fdiv (-total) limit))⟩

/-- The election as the database has it, the positions in their order. -/
def readById (id : String) : Option (ElectionView (List Vote)) :=
  (d.elections.find id).map fun e => d.viewElection r
    ((d.positionsOf e.id).insertionSort fun p q => r.order p.id ≤ r.order q.id) e

/-- The cached election, or else the one of the database, which is then cached. -/
def getElectionById (id : String) (cache : ElectionCache) :
    Except GovernanceError (ElectionView (List Vote)) × ElectionCache :=
  match cache id, readById r d id with
  | some cached, _ => (.ok cached, cache)
  | none, none => (.error (.notFound "Election not found"), cache)
  | none, some election => (.ok election, Function.update cache id (some election))

def resultOf (totalVotes : Nat) (c : CandidateView (List Vote)) : CandidateResult where
  candidateId := c.candidate.id
  userId := c.candidate.userId
  username := if c.user.username = "" then "Unknown" else c.user.username
  votes := c.votes.length
  percentage := if 0 < totalVotes then (c.votes.length : ℚ) / totalVotes * 100 else 0
  manifesto := c.manifesto
  status := c.candidate.status

def positionResult (p : PositionView (List Vote)) : PositionResult :=
  let totalVotes := (p.candidates.map fun c => c.votes.length).sum
  ⟨p.position.id, p.position.title, p.candidates.map (resultOf totalVotes), totalVotes⟩

def electionResults (view : ElectionView (List Vote)) : ElectionResults where
  electionId := view.election.id
  title := view.title
  organization := (view.organization.id, view.organization.name)
  status := view.election.status
  startDate := view.election.startDate
  endDate := view.election.endDate
  totalVoters := (view.votes.map Vote.voterId).toFinset.card
  positions := view.positions.map positionResult

def getElectionResults (electionId : String) : Except GovernanceError ElectionResults :=
  match d.elections.find electionId with
  | none => .error (.notFound "Election not found")
  | some e => .ok (electionResults (d.viewElection r (d.positionsOf e.id) e))

end GovernanceService

/-! ## Requests and what may be told apart -/

/-- A call of one of the readers; who calls is not looked at. -/
inductive ReadRequest where
  | getElections (organizationId : Option String) (page limit : Int) (status : Option ElectionStatus)
  | getElectionById (id : String)
  | getElectionResults (electionId : String)
  deriving DecidableEq

inductive ReadResponse (V : Type) where
  | elections (page : ElectionsPage V)
  | election (view : ElectionView V)
  | results (figures : ElectionResults)
  deriving DecidableEq

/-- The response to a request. -/
def respond (r : Register) (cache : ElectionCache) (d : GovernanceDb) :
    ReadRequest → Except GovernanceError (ReadResponse (List Vote))
  | .getElections organizationId page limit status =>
    (GovernanceService.getElections r d organizationId page limit status).map .elections
  | .getElectionById id => (GovernanceService.getElectionById r d id cache).1.map .election
  | .getElectionResults id => (GovernanceService.getElectionResults r d id).map .results

/-- The vote without its row id. -/
def Vote.blind (v : Vote) : Vote := { v with id := "" }

/-- The votes in no order and without row ids. -/
def blindVotes (votes : List Vote) : Multiset Vote := (votes.map Vote.blind : Multiset Vote)

def CandidateView.blind (c : CandidateView (List Vote)) : CandidateView (Multiset Vote) where
  candidate := c.candidate
  manifesto := c.manifesto
  user := c.user
  votes := blindVotes c.votes

def PositionView.blind (p : PositionView (List Vote)) : PositionView (Multiset Vote) where
  position := p.position
  candidates := p.candidates.map CandidateView.blind

def ElectionView.blind (e : ElectionView (List Vote)) : ElectionView (Multiset Vote) where
  election := e.election
  title := e.title
  organization := e.organization
  positions := e.positions.map PositionView.blind
  votes := blindVotes e.votes

/-- The response up to the row ids and the order of votes. -/
def ReadResponse.blind : ReadResponse (List Vote) → ReadResponse (Multiset Vote)
  | .elections page => .elections ⟨page.data.map ElectionView.blind, page.info⟩
  | .election view => .election view.blind
  | .results figures => .results figures

/-- The elections whose votes a request takes from the database. -/
def ReadRequest.shown (cache : ElectionCache) (d : GovernanceDb) : ReadRequest → List Election
  | getElections organizationId page limit status =>
    (GovernanceService.pageOf d organizationId page limit status).getD []
  | getElectionById id => if (cache id).isSome then [] else (d.elections.find id).toList
  | getElectionResults _ => []

/-- The vote is in the election, or for a candidate for one of its positions. -/
def GovernanceDb.Concerns (d : GovernanceDb) (e : Election) (v : Vote) : Prop :=
  v.electionId = e.id ∨ ∃ p ∈ d.positionsOf e.id, ∃ c ∈ d.candidatesFor p.id, v.candidateId = c.id

instance (d : GovernanceDb) (e : Election) (v : Vote) : Decidable (d.Concerns e v) :=
  inferInstanceAs (Decidable (v.electionId = e.id ∨
    ∃ p ∈ d.positionsOf e.id, ∃ c ∈ d.candidatesFor p.id, v.candidateId = c.id))

/-- Who voted for whom in an election. -/
def GovernanceDb.choices (d : GovernanceDb) (e : Election) : Multiset Vote :=
  blindVotes (d.votes.filter fun v => d.Concerns e v)

/-- The tables differ in votes only, and every candidate has the same number of votes and
every election the same voters in both. -/
structure SameOutcome (d d' : GovernanceDb) : Prop where
  elections : d.elections.rows = d'.elections.rows
  positions : d.positions.rows = d'.positions.rows
  candidates : d.candidates.rows = d'.candidates.rows
  counts : ∀ c ∈ d.candidates.rows, (d.votesOf c.id).length = (d'.votesOf c.id).length
  voters : ∀ e ∈ d.elections.rows, d.voters e.id = d'.voters e.id

instance (d d' : GovernanceDb) : Decidable (SameOutcome d d') :=
  decidable_of_iff (d.elections.rows = d'.elections.rows ∧ d.positions.rows = d'.positions.rows ∧
      d.candidates.rows = d'.candidates.rows ∧
      (∀ c ∈ d.candidates.rows, (d.votesOf c.id).length = (d'.votesOf c.id).length) ∧
      ∀ e ∈ d.elections.rows, d.voters e.id = d'.voters e.id)
    ⟨fun ⟨elections, positions, candidates, counts, voters⟩ =>
      ⟨elections, positions, candidates, counts, voters⟩,
    fun h => ⟨h.elections, h.positions, h.candidates, h.counts, h.voters⟩⟩

/-! ## Multisets of votes -/

/-- Filtered multisets are equal if what the filter keeps occurs equally often. -/
theorem filter_eq_filter_iff {α : Type} [DecidableEq α] {p : α → Prop} [DecidablePred p] {s t : Multiset α} :
    s.filter p = t.filter p ↔ ∀ a, p a → s.count a = t.count a := by
  simp only [Multiset.ext, Multiset.count_filter]
  refine forall_congr' fun a => ?_
  by_cases h : p a
  · simp [h]
  · simp [h]

theorem blindVotes_filter {p : Vote → Prop} [DecidablePred p] (blind : ∀ v : Vote, p v.blind ↔ p v)
    (votes : List Vote) : blindVotes (votes.filter fun v => p v) = (blindVotes votes).filter p := by
  have same : (fun v => decide (p v)) ∘ Vote.blind = fun v => decide (p v) :=
    funext fun v => decide_eq_decide.2 (blind v)
  rw [blindVotes, blindVotes, Multiset.filter_coe, List.filter_map, same]

/-- Filters that look at no row id. -/
theorem blindVotes_filter_eq_iff {p : Vote → Prop} [DecidablePred p] (blind : ∀ v : Vote, p v.blind ↔ p v)
    {votes votes' : List Vote} :
    blindVotes (votes.filter fun v => p v) = blindVotes (votes'.filter fun v => p v) ↔
      ∀ v, p v → (blindVotes votes).count v = (blindVotes votes').count v := by
  rw [blindVotes_filter blind, blindVotes_filter blind, filter_eq_filter_iff]

/-! ## What the views tell -/

section Views

variable (r : Register) {d d' : GovernanceDb}

theorem SameOutcome.candidatesFor (same : SameOutcome d d') (positionId : String) :
    d'.candidatesFor positionId = d.candidatesFor positionId := by
  unfold GovernanceDb.candidatesFor
  rw [same.candidates]

theorem SameOutcome.positionsOf (same : SameOutcome d d') (electionId : String) :
    d'.positionsOf electionId = d.positionsOf electionId := by
  unfold GovernanceDb.positionsOf
  rw [same.positions]

theorem SameOutcome.find (same : SameOutcome d d') (id : String) :
    d'.elections.find id = d.elections.find id := by
  unfold Table.find
  rw [same.elections]

theorem SameOutcome.concerns (same : SameOutcome d d') (e : Election) (v : Vote) :
    d'.Concerns e v ↔ d.Concerns e v := by
  unfold GovernanceDb.Concerns
  simp only [same.positionsOf, same.candidatesFor]

theorem SameOutcome.pageOf (same : SameOutcome d d') (organizationId : Option String) (page limit : Int)
    (status : Option ElectionStatus) : GovernanceService.pageOf d' organizationId page limit status =
      GovernanceService.pageOf d organizationId page limit status := by
  unfold GovernanceService.pageOf
  rw [same.elections]

theorem choices_eq_iff (same : SameOutcome d d') (e : Election) : d.choices e = d'.choices e ↔
    ∀ v, d.Concerns e v → (blindVotes d.votes).count v = (blindVotes d'.votes).count v := by
  unfold GovernanceDb.choices
  simp only [same.concerns]
  exact blindVotes_filter_eq_iff fun v => Iff.rfl

theorem viewPosition_blind_eq_iff (same : SameOutcome d d') (p : ElectionPosition) :
    (d.viewPosition r p).blind = (d'.viewPosition r p).blind ↔
      ∀ c ∈ d.candidatesFor p.id, ∀ v, v.candidateId = c.id →
        (blindVotes d.votes).count v = (blindVotes d'.votes).count v := by
  unfold GovernanceDb.viewPosition PositionView.blind
  simp only [same.candidatesFor, PositionView.mk.injEq, true_and, List.map_map, List.map_inj_left,
    Function.comp_apply, GovernanceDb.viewCandidate, CandidateView.blind, CandidateView.mk.injEq]
  exact forall₂_congr fun c _ => blindVotes_filter_eq_iff fun v => Iff.rfl

/-- The view of an election tells who voted for whom, and nothing else of the votes. -/
theorem viewElection_blind_eq_iff (same : SameOutcome d d') {positions : List ElectionPosition} {e : Election}
    (all : ∀ p, p ∈ positions ↔ p ∈ d.positionsOf e.id) :
    (d.viewElection r positions e).blind = (d'.viewElection r positions e).blind ↔
      d.choices e = d'.choices e := by
  have inElection : blindVotes (d.votesIn e.id) = blindVotes (d'.votesIn e.id) ↔
      ∀ v, v.electionId = e.id → (blindVotes d.votes).count v = (blindVotes d'.votes).count v :=
    blindVotes_filter_eq_iff fun v => Iff.rfl
  unfold GovernanceDb.viewElection ElectionView.blind
  simp only [ElectionView.mk.injEq, true_and, List.map_map, List.map_inj_left, Function.comp_apply,
    viewPosition_blind_eq_iff r same, inElection, choices_eq_iff same, all]
  constructor
  · rintro ⟨below, listed⟩ v (own | ⟨p, hp, c, hc, stands⟩)
    · exact listed v own
    · exact below p hp c hc v stands
  · intro h
    exact ⟨fun p hp c hc v stands => h v (.inr ⟨p, hp, c, hc, stands⟩), fun v own => h v (.inl own)⟩

/-- The figures of a position are counts. -/
theorem positionResult_eq (same : SameOutcome d d') (p : ElectionPosition) :
    GovernanceService.positionResult (d'.viewPosition r p) =
      GovernanceService.positionResult (d.viewPosition r p) := by
  have counts (c : Candidate) (hc : c ∈ d.candidatesFor p.id) :
      (d'.votesOf c.id).length = (d.votesOf c.id).length :=
    (same.counts c (List.mem_of_mem_filter hc)).symm
  have total : ((d'.candidatesFor p.id).map fun c => (d'.votesOf c.id).length).sum =
      ((d.candidatesFor p.id).map fun c => (d.votesOf c.id).length).sum := by
    rw [same.candidatesFor]
    exact congrArg List.sum (List.map_congr_left counts)
  unfold GovernanceService.positionResult GovernanceDb.viewPosition
  simp only [List.map_map, Function.comp_def, GovernanceDb.viewCandidate, total, PositionResult.mk.injEq,
    true_and, and_true, GovernanceService.resultOf]
  rw [same.candidatesFor]
  refine List.map_congr_left fun c hc => ?_
  simp only [counts c hc]
  rfl

theorem electionResults_eq (same : SameOutcome d d') {e : Election} (he : e ∈ d.elections.rows) :
    GovernanceService.electionResults (d'.viewElection r (d'.positionsOf e.id) e) =
      GovernanceService.electionResults (d.viewElection r (d.positionsOf e.id) e) := by
  have voters : (((d'.votesIn e.id).map Vote.voterId).toFinset) = ((d.votesIn e.id).map Vote.voterId).toFinset :=
    (same.voters e he).symm
  unfold GovernanceService.electionResults GovernanceDb.viewElection
  simp only [List.map_map, same.positionsOf, voters, ElectionResults.mk.injEq, true_and]
  exact List.map_congr_left fun p _ => positionResult_eq r same p

end Views

/-! ## Responses -/

section Responses

variable (r : Register) (cache : ElectionCache) {d d' : GovernanceDb}

/-- Two responses are the same for a reader. -/
def Alike (d d' : GovernanceDb) (request : ReadRequest) : Prop :=
  (respond r cache d request).map ReadResponse.blind = (respond r cache d' request).map ReadResponse.blind

theorem map_ok {ε α β : Type} (f : α → β) (a : α) : (Except.ok a : Except ε α).map f = .ok (f a) := rfl

theorem alike_getElections (same : SameOutcome d d') (organizationId : Option String) (page limit : Int)
    (status : Option ElectionStatus) :
    Alike r cache d d' (.getElections organizationId page limit status) ↔
      ∀ e ∈ (GovernanceService.pageOf d organizationId page limit status).getD [], d.choices e = d'.choices e := by
  simp only [Alike, respond, GovernanceService.getElections, same.pageOf, ← same.elections]
  cases GovernanceService.pageOf d organizationId page limit status with
  | none => exact ⟨fun _ e he => (List.not_mem_nil he).elim, fun _ => rfl⟩
  | some elections =>
    simp only [map_ok, ReadResponse.blind, Except.ok.injEq, ReadResponse.elections.injEq,
      ElectionsPage.mk.injEq, and_true, List.map_map, List.map_inj_left, Function.comp_apply,
      Option.getD_some, same.positionsOf]
    exact forall₂_congr fun e _ => viewElection_blind_eq_iff r same fun _ => Iff.rfl

theorem alike_getElectionById (same : SameOutcome d d') (id : String) :
    Alike r cache d d' (.getElectionById id) ↔
      ∀ e ∈ (ReadRequest.getElectionById id).shown cache d, d.choices e = d'.choices e := by
  simp only [Alike, respond, GovernanceService.getElectionById, GovernanceService.readById,
    ReadRequest.shown, same.find]
  cases cache id with
  | some cached => exact ⟨fun _ e he => (List.not_mem_nil he).elim, fun _ => rfl⟩
  | none =>
    cases d.elections.find id with
    | none => exact ⟨fun _ e he => (List.not_mem_nil he).elim, fun _ => rfl⟩
    | some e =>
      have sorted (p : ElectionPosition) :
          p ∈ (d.positionsOf e.id).insertionSort (fun p q => r.order p.id ≤ r.order q.id) ↔ p ∈ d.positionsOf e.id :=
        List.mem_insertionSort _
      have told := viewElection_blind_eq_iff r same sorted
      simpa [map_ok, ReadResponse.blind, same.positionsOf] using told

theorem alike_getElectionResults (same : SameOutcome d d') (id : String) :
    Alike r cache d d' (.getElectionResults id) := by
  simp only [Alike, respond, GovernanceService.getElectionResults, same.find]
  cases found : d.elections.find id with
  | none => rfl
  | some e => simp only [electionResults_eq r same (Table.find_mem found)]

/-- Two vote tables with the same outcome get the same response exactly if no election whose
votes the request shows has other choices in one of them; the results never tell them apart. -/
theorem alike_iff_choices (same : SameOutcome d d') (request : ReadRequest) :
    Alike r cache d d' request ↔ ∀ e ∈ request.shown cache d, d.choices e = d'.choices e := by
  cases request with
  | getElections organizationId page limit status =>
    exact alike_getElections r cache same organizationId page limit status
  | getElectionById id => exact alike_getElectionById r cache same id
  | getElectionResults id =>
    exact ⟨fun _ e he => (List.not_mem_nil he).elim, fun _ => alike_getElectionResults r cache same id⟩

instance (d d' : GovernanceDb) (request : ReadRequest) : Decidable (Alike r cache d d' request) :=
  inferInstanceAs (Decidable ((respond r cache d request).map ReadResponse.blind =
    (respond r cache d' request).map ReadResponse.blind))

end Responses

/-! ## Two voters who swap their choices -/

def someRegister : Register where
  title id := id
  organization id := ⟨id, "Union", "union"⟩
  order _ := 0
  manifesto _ := none
  user id := ⟨id, "", id, none⟩

/-- An election between two candidates in which two members may vote. -/
def twoVoters : GovernanceDb where
  elections := Table.empty.insert
    { id := "e", organizationId := "o", startDate := 0, endDate := 2000, status := .active }
  positions := Table.empty.insert
    { id := "p", electionId := "e", title := "Treasurer", maxCandidates := 2, maxVotes := 1 }
  candidates := (Table.empty.insert
    { id := "a", electionId := "e", positionId := "p", userId := "x", status := .approved }).insert
    { id := "b", electionId := "e", positionId := "p", userId := "y", status := .approved }
  organizations := ["o"]
  memberships := [⟨"u", "o", false⟩, ⟨"v", "o", false⟩]

/-- One of the voters chooses `first`, the other one `second`. -/
def choosing (first second : String) : List GovernanceOp :=
  [.castVote "u" ⟨"e", [⟨"p", first⟩]⟩ fun _ => "v1", .castVote "v" ⟨"e", [⟨"p", second⟩]⟩ fun _ => "v2"]

/-- The state after both have voted, one after the other. -/
def afterVotes (first second : String) : Option GovernanceSystem :=
  (begins twoVoters (choosing first second)).replay (fun _ _ => True) (turns [(0, 18), (1, 18)])

theorem reaches_afterVotes {first second : String} {c : GovernanceSystem}
    (h : afterVotes first second = some c) :
    Reaches (fun _ _ => True) (begins twoVoters (choosing first second)) c := Reaches.of_replay h

/-- Both tables are reached, the results are the same and the elections are not: the list and
the single election name the candidate of each voter. -/
theorem choices_shown : ∃ c c', Reaches (fun _ _ => True) (begins twoVoters (choosing "a" "b")) c ∧
    Reaches (fun _ _ => True) (begins twoVoters (choosing "b" "a")) c' ∧ SameOutcome c.db c'.db ∧
    ¬Alike someRegister (fun _ => none) c.db c'.db (.getElections none 1 10 none) ∧
    ¬Alike someRegister (fun _ => none) c.db c'.db (.getElectionById "e") := by
  have both : (afterVotes "a" "b").any (fun c => (afterVotes "b" "a").any fun c' =>
      SameOutcome c.db c'.db ∧
      ¬Alike someRegister (fun _ => none) c.db c'.db (.getElections none 1 10 none) ∧
      ¬Alike someRegister (fun _ => none) c.db c'.db (.getElectionById "e")) = true := by
    decide +kernel
  obtain ⟨c, reached, both⟩ := (Option.any_eq_true _ _).1 both
  obtain ⟨c', reached', both⟩ := (Option.any_eq_true _ _).1 both
  exact ⟨c, c', reaches_afterVotes reached, reaches_afterVotes reached', of_decide_eq_true both⟩

/-- Tables in which the two have and have not swapped their votes. -/
def votesCast (first second : String) : GovernanceDb :=
  { twoVoters with votes := [⟨"v1", "e", first, "u"⟩, ⟨"v2", "e", second, "v"⟩] }

theorem results_alike : (votesCast "a" "b").votes ≠ (votesCast "b" "a").votes ∧
    Alike someRegister (fun _ => none) (votesCast "a" "b") (votesCast "b" "a") (.getElectionResults "e") :=
  ⟨by decide, (alike_iff_choices someRegister _ (by decide +kernel) (.getElectionResults "e")).2
    (List.forall_mem_nil _)⟩

end Heightt.Governance
