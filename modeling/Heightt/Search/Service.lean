import Heightt.Search.Database
import Mathlib.Algebra.Order.Ring.Nat

/-!
# SearchService

`search` and the nine searches it makes, and `autocomplete`, of `search.service.ts`. Each search cuts
its page out of the rows it finds, and `search` cuts the page out of what they give together.
-/

namespace Heightt.Search

open Text

inductive SearchEntityType where
  | users | organizations | students | institutions | transactions | payments | dues | events | announcements | all
  deriving DecidableEq

inductive SortBy where
  | relevance | date | name
  deriving DecidableEq

inductive SortOrder where
  | asc | desc
  deriving DecidableEq

structure SearchQueryDto where
  q : Text
  entityType : Option SearchEntityType := none
  page : Option Nat := none
  limit : Option Nat := none
  institutionId : Option Text := none
  organizationId : Option Text := none
  dateFrom : Option Int := none
  dateTo : Option Int := none
  sortBy : Option SortBy := none
  sortOrder : Option SortOrder := none

structure SearchResult where
  id : Text
  type : SearchEntityType
  title : Text
  createdAt : Int
  deriving DecidableEq

/-- What one of the searches gives. -/
structure Found where
  data : List SearchResult
  total : Nat
  deriving DecidableEq

/-! ## The searches -/

section

variable (locale : Locale)

/-- One of the columns contains the query. -/
def anyContains (query : Text) (columns : List (Option Text)) : Bool :=
  columns.any fun column => column.any fun text => locale.contains text query

/-- A filter that an absent or empty identifier does not make. -/
def filtered (id column : Option Text) : Bool :=
  match id with
  | none | some [] => true
  | some id => column = some id

def within (dateFrom dateTo : Option Int) (t : Int) : Bool := dateFrom.all (· ≤ t) && dateTo.all (t ≤ ·)

/-- `skip` and `take` of the rows that match, and their number. -/
def paged {α : Type} (rows : List α) (matching : α → Bool) (result : α → SearchResult) (page limit : Nat) : Found where
  data := (((rows.filter matching).drop ((page - 1) * limit)).take limit).map result
  total := (rows.filter matching).length

/-- `${firstName} ${lastName || ''}`, or the username where there is no first name. -/
def displayName (profile : Option UserProfile) (username : Text) : Text :=
  match profile with
  | some ⟨u :: firstName, lastName⟩ => (u :: firstName) ++ units " " ++ lastName
  | _ => username

def searchUsers (db : Tables) (query : Text) (institutionId : Option Text) (page limit : Nat) : Found :=
  paged db.users
    (fun u => filtered institutionId u.institutionId &&
      anyContains locale query [u.email, u.username, u.profile.map UserProfile.firstName, u.profile.map UserProfile.lastName])
    (fun u => ⟨u.id, .users, displayName u.profile u.username, u.createdAt⟩) page limit

def searchOrganizations (db : Tables) (query : Text) (institutionId organizationId : Option Text) (page limit : Nat) :
    Found :=
  paged db.organizations
    (fun o => filtered institutionId o.institutionId && filtered organizationId o.id &&
      anyContains locale query [o.name, o.description, o.slug])
    (fun o => ⟨o.id, .organizations, o.name, o.createdAt⟩) page limit

def searchStudents (db : Tables) (query : Text) (institutionId : Option Text) (page limit : Nat) : Found :=
  paged db.students
    (fun s => filtered institutionId s.institutionId && anyContains locale query
      [s.email, s.username, s.profile.map UserProfile.firstName, s.profile.map UserProfile.lastName, s.matricNumber])
    (fun s => ⟨s.id, .students, displayName s.profile (if s.username = [] then units "Unknown" else s.username), s.createdAt⟩)
    page limit

def searchInstitutions (db : Tables) (query : Text) (page limit : Nat) : Found :=
  paged db.institutions
    (fun i => anyContains locale query [i.name, i.shortName, i.code, i.city, i.state, i.country])
    (fun i => ⟨i.id, .institutions, i.name, i.createdAt⟩) page limit

def searchTransactions (db : Tables) (query : Text) (dateFrom dateTo : Option Int) (page limit : Nat) : Found :=
  paged db.transactions
    (fun t => within dateFrom dateTo t.createdAt && anyContains locale query [t.reference, t.description])
    (fun t => ⟨t.id, .transactions, units "Transaction " ++ t.reference, t.createdAt⟩) page limit

def searchPayments (db : Tables) (query : Text) (dateFrom dateTo : Option Int) (page limit : Nat) : Found :=
  paged db.payments
    (fun p => within dateFrom dateTo p.createdAt && anyContains locale query [p.reference, p.description])
    (fun p => ⟨p.id, .payments, units "Payment " ++ p.reference, p.createdAt⟩) page limit

def searchDues (db : Tables) (query : Text) (organizationId : Option Text) (page limit : Nat) : Found :=
  paged db.dues
    (fun d => filtered organizationId d.organizationId && anyContains locale query [d.name, d.description])
    (fun d => ⟨d.id, .dues, d.name, d.createdAt⟩) page limit

/-- By the start of the event. -/
def searchEvents (db : Tables) (query : Text) (dateFrom dateTo : Option Int) (page limit : Nat) : Found :=
  paged db.events
    (fun e => within dateFrom dateTo e.startDate && anyContains locale query [e.title, e.description, e.location])
    (fun e => ⟨e.id, .events, e.title, e.createdAt⟩) page limit

def searchAnnouncements (db : Tables) (query : Text) (organizationId : Option Text) (page limit : Nat) : Found :=
  paged db.announcements
    (fun a => filtered organizationId a.organizationId && a.isPublished && anyContains locale query [a.title, a.content])
    (fun a => ⟨a.id, .announcements, a.title, a.createdAt⟩) page limit

/-- The branches of the `switch`; there is none for `all`. -/
def searchEntity (db : Tables) (dto : SearchQueryDto) (page limit : Nat) : SearchEntityType → Found
  | .users => searchUsers locale db dto.q dto.institutionId page limit
  | .organizations => searchOrganizations locale db dto.q dto.institutionId dto.organizationId page limit
  | .students => searchStudents locale db dto.q dto.institutionId page limit
  | .institutions => searchInstitutions locale db dto.q page limit
  | .transactions => searchTransactions locale db dto.q dto.dateFrom dto.dateTo page limit
  | .payments => searchPayments locale db dto.q dto.dateFrom dto.dateTo page limit
  | .dues => searchDues locale db dto.q dto.organizationId page limit
  | .events => searchEvents locale db dto.q dto.dateFrom dto.dateTo page limit
  | .announcements => searchAnnouncements locale db dto.q dto.organizationId page limit
  | .all => ⟨[], 0⟩

/-! ## Search -/

def nineTypes : List SearchEntityType :=
  [.users, .organizations, .students, .institutions, .transactions, .payments, .dues, .events, .announcements]

/-- Without a type there is nothing to search. -/
def entityTypes (dto : SearchQueryDto) : List SearchEntityType :=
  match dto.entityType with
  | some .all => nineTypes
  | some type => [type]
  | none => []

def compareDates (order : Option SortOrder) (a b : SearchResult) : Int :=
  if order = some .desc then b.createdAt - a.createdAt else a.createdAt - b.createdAt

def compareNames (order : Option SortOrder) (a b : SearchResult) : Int :=
  if order = some .desc then locale.localeCompare (locale.toLowerCase b.title) (locale.toLowerCase a.title)
  else locale.localeCompare (locale.toLowerCase a.title) (locale.toLowerCase b.title)

/-- `results.sort`, which is stable. -/
def sorted (dto : SearchQueryDto) (results : List SearchResult) : List SearchResult :=
  match dto.sortBy with
  | some .date => results.mergeSort fun a b => compareDates dto.sortOrder a b ≤ 0
  | some .name => results.mergeSort fun a b => compareNames locale dto.sortOrder a b ≤ 0
  | some .relevance | none => results

structure SearchResponse where
  data : List SearchResult
  total : Nat
  totalPages : Nat
  facets : List (SearchEntityType × Nat)
  deriving DecidableEq

def SearchQueryDto.pageNumber (dto : SearchQueryDto) : Nat := dto.page.getD 1

def SearchQueryDto.pageSize (dto : SearchQueryDto) : Nat := dto.limit.getD 10

/-- The uncached answer; `arrival` are the types in the order their searches end in. -/
def search (db : Tables) (dto : SearchQueryDto) (arrival : List SearchEntityType) : SearchResponse :=
  let found := searchEntity locale db dto dto.pageNumber dto.pageSize
  let results := arrival.flatMap fun type => (found type).data
  let total := (arrival.map fun type => (found type).total).sum
  let start := (dto.pageNumber - 1) * dto.pageSize
  { data := ((sorted locale dto results).drop start).take dto.pageSize
    total
    totalPages := (total + dto.pageSize - 1) / dto.pageSize
    facets := nineTypes.map fun type => (type, if type ∈ arrival then (found type).total else 0) }

/-! ## Autocomplete -/

structure AutoCompleteDto where
  q : Text
  limit : Option Nat := none
  institutionId : Option Text := none

structure Suggestion where
  id : Text
  label : Text
  deriving DecidableEq

structure Suggestions where
  users : List Suggestion
  organizations : List Suggestion
  institutions : List Suggestion
  deriving DecidableEq

def autocomplete (db : Tables) (dto : AutoCompleteDto) : Suggestions :=
  let limit := dto.limit.getD 5
  { users := ((db.users.filter fun u => anyContains locale dto.q
        [u.username, u.profile.map UserProfile.firstName, u.profile.map UserProfile.lastName]).take limit).map
      fun u => ⟨u.id, displayName u.profile u.username⟩
    organizations := ((db.organizations.filter fun o => filtered dto.institutionId o.institutionId &&
        anyContains locale dto.q [o.name]).take limit).map fun o => ⟨o.id, o.name⟩
    institutions := ((db.institutions.filter fun i => anyContains locale dto.q [i.name, i.code]).take limit).map
      fun i => ⟨i.id, i.name ++ units " (" ++ i.code ++ units ")"⟩ }

end

end Heightt.Search
