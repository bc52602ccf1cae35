import Heightt.Numbers.DecimalTexts
import Heightt.Search.Pagination

/-!
# Cached searches

The keys under which `search` and `autocomplete` keep their answers. The key of a search has the query,
the type, the page, the limit and the identifiers in it, but no dates and no order, and the same
text for all types as for none; the key of `autocomplete` has no limit.
-/

namespace Heightt.Search

open Text

/-! ## The keys -/

def colon : UInt16 := 58

def SearchEntityType.text : SearchEntityType → Text
  | users => units "users"
  | organizations => units "organizations"
  | students => units "students"
  | institutions => units "institutions"
  | transactions => units "transactions"
  | payments => units "payments"
  | dues => units "dues"
  | events => units "events"
  | announcements => units "announcements"
  | all => units "all"

def numberText (n : Nat) : Text := characters (Nat.toDigits 10 n)

/-- `${id || 'all'}` -/
def idText (id : Option Text) : Text :=
  match id with
  | none | some [] => units "all"
  | some id => id

def searchKey (dto : SearchQueryDto) : Text :=
  units "search:" ++ dto.q ++ colon :: dto.entityType.elim (units "all") SearchEntityType.text ++
    colon :: numberText dto.pageNumber ++ colon :: numberText dto.pageSize ++ colon :: idText dto.institutionId ++
    colon :: idText dto.organizationId

def autocompleteKey (dto : AutoCompleteDto) : Text :=
  units "autocomplete:" ++ dto.q ++ colon :: idText dto.institutionId

section

variable (locale : Locale) (schedule : List SearchEntityType → List SearchEntityType) (db : Tables)

/-- What a request is answered with, and the entries after it. -/
def searchCached (entries : List (Text × SearchResponse)) (dto : SearchQueryDto) :
    SearchResponse × List (Text × SearchResponse) :=
  match entries.lookup (searchKey dto) with
  | some cached => (cached, entries)
  | none =>
    let response := search locale db dto (schedule (entityTypes dto))
    (response, (searchKey dto, response) :: entries)

def autocompleteCached (entries : List (Text × Suggestions)) (dto : AutoCompleteDto) :
    Suggestions × List (Text × Suggestions) :=
  match entries.lookup (autocompleteKey dto) with
  | some cached => (cached, entries)
  | none => (autocomplete locale db dto, (autocompleteKey dto, autocomplete locale db dto) :: entries)

/-- The second request is answered as it would be without the entry of the first. -/
def SearchTransparent (dto dto' : SearchQueryDto) : Prop :=
  (searchCached locale schedule db (searchCached locale schedule db [] dto).2 dto').1 =
    search locale db dto' (schedule (entityTypes dto'))

def AutocompleteTransparent (dto dto' : AutoCompleteDto) : Prop :=
  (autocompleteCached locale db (autocompleteCached locale db [] dto).2 dto').1 = autocomplete locale db dto'

end

/-! ## Requests that validate -/

/-- 36 characters, hexadecimal digits and hyphens. -/
def isUuid (id : Text) : Bool := id.length = 36 ∧ id.all fun u => hexDigit u || u = 45

def IdValid (id : Option Text) : Prop := ∀ text, id = some text → isUuid text = true

/-- What the validation pipe lets through. -/
structure SearchQueryDto.Valid (dto : SearchQueryDto) : Prop where
  page : 1 ≤ dto.pageNumber
  limit : 1 ≤ dto.pageSize
  institution : IdValid dto.institutionId
  organization : IdValid dto.organizationId

/-! ## What a key determines -/

theorem append_colon_inj {a b a' b' : Text} (hb : colon ∉ b) (hb' : colon ∉ b')
    (same : a ++ colon :: b = a' ++ colon :: b') : a = a' ∧ b = b' := by
  obtain ⟨c, h, h'⟩ | ⟨c, h, h'⟩ := List.append_eq_append_iff.1 same
  · cases c with
    | nil =>
      rw [List.append_nil] at h
      exact ⟨h.symm, (List.cons.inj h').2⟩
    | cons u c =>
      obtain ⟨-, rest⟩ := List.cons.inj h'
      exact absurd (rest ▸ List.mem_append_right c List.mem_cons_self) hb
  · cases c with
    | nil =>
      rw [List.append_nil] at h
      exact ⟨h, (List.cons.inj h').2.symm⟩
    | cons u c =>
      obtain ⟨-, rest⟩ := List.cons.inj h'
      exact absurd (rest ▸ List.mem_append_right c List.mem_cons_self) hb'

theorem isDigit_toDigits (n : Nat) : ∀ c ∈ Nat.toDigits 10 n, c.isDigit :=
  fun _ hc => Nat.isDigit_of_mem_toDigits (by omega) (by omega) hc

theorem colon_notMem_numberText (n : Nat) : colon ∉ numberText n := by
  intro mem
  cases digits_characters (isDigit_toDigits n) colon mem

theorem numberText_injective : Function.Injective numberText := by
  intro m n same
  have read (k : Nat) : value (numberText k) = k := by
    rw [numberText, value_characters (isDigit_toDigits k), Numerals.value, Nat.ofDigitChars_ten_toDigits]
  rw [← read m, same, read]

theorem colon_notMem_idText {id : Option Text} (valid : IdValid id) : colon ∉ idText id := by
  unfold idText
  split
  · decide
  · decide
  · rename_i text _
    intro mem
    have form := (of_decide_eq_true (valid text rfl)).2
    rw [List.all_eq_true] at form
    have := form colon mem
    revert this
    decide

theorem idText_inj {id id' : Option Text} (valid : IdValid id) (valid' : IdValid id') (same : idText id = idText id') :
    id = id' := by
  have long {text : Text} (h : isUuid text = true) : text.length = 36 := (of_decide_eq_true h).1
  have given {id : Option Text} (valid : IdValid id) : (id = none ∧ idText id = units "all") ∨
      ∃ text, id = some text ∧ idText id = text ∧ text.length = 36 := by
    cases id with
    | none => exact .inl ⟨rfl, rfl⟩
    | some text =>
      cases text with
      | nil => exact absurd (long (valid [] rfl)) (by decide)
      | cons u text => exact .inr ⟨_, rfl, rfl, long (valid _ rfl)⟩
  obtain ⟨rfl, all⟩ | ⟨text, rfl, is, length⟩ := given valid <;>
    obtain ⟨rfl, all'⟩ | ⟨text', rfl, is', length'⟩ := given valid'
  · rfl
  · rw [all, is'] at same
    rw [← same] at length'
    cases length'
  · rw [all', is] at same
    rw [same] at length
    cases length
  · rw [is, is'] at same
    rw [same]

/-- The type of a request, where no type counts as all. -/
def typeOf (dto : SearchQueryDto) : SearchEntityType := dto.entityType.getD .all

theorem typeText_eq (dto : SearchQueryDto) :
    dto.entityType.elim (units "all") SearchEntityType.text = (typeOf dto).text := by
  unfold typeOf
  cases dto.entityType <;> rfl

theorem text_injective : Function.Injective SearchEntityType.text := by
  intro t t' same
  cases t <;> cases t' <;> first | rfl | exact absurd same (by decide)

theorem colon_notMem_text (t : SearchEntityType) : colon ∉ t.text := by
  cases t <;> decide

/-- The key of a search says all but the dates and the order, and does not tell all types from none. -/
theorem searchKey_eq {dto dto' : SearchQueryDto} (valid : dto.Valid) (valid' : dto'.Valid)
    (same : searchKey dto = searchKey dto') :
    dto.q = dto'.q ∧ typeOf dto = typeOf dto' ∧ dto.pageNumber = dto'.pageNumber ∧ dto.pageSize = dto'.pageSize ∧
      dto.institutionId = dto'.institutionId ∧ dto.organizationId = dto'.organizationId := by
  unfold searchKey at same
  rw [typeText_eq, typeText_eq] at same
  obtain ⟨same, organization⟩ :=
    append_colon_inj (colon_notMem_idText valid.organization) (colon_notMem_idText valid'.organization) same
  obtain ⟨same, institution⟩ :=
    append_colon_inj (colon_notMem_idText valid.institution) (colon_notMem_idText valid'.institution) same
  obtain ⟨same, limit⟩ := append_colon_inj (colon_notMem_numberText _) (colon_notMem_numberText _) same
  obtain ⟨same, page⟩ := append_colon_inj (colon_notMem_numberText _) (colon_notMem_numberText _) same
  obtain ⟨same, type⟩ := append_colon_inj (colon_notMem_text _) (colon_notMem_text _) same
  exact ⟨List.append_cancel_left same, text_injective type, numberText_injective page, numberText_injective limit,
    idText_inj valid.institution valid'.institution institution,
    idText_inj valid.organization valid'.organization organization⟩

/-! ## What the answers depend on -/

def dated (t : SearchEntityType) : Bool := t ∈ [.transactions, .payments, .events]

/-- How the results are ordered: by the date or the name, and whether downwards. -/
def SearchQueryDto.order (dto : SearchQueryDto) : Option (SortBy × Bool) :=
  match dto.sortBy with
  | some .date => some (.date, dto.sortOrder = some .desc)
  | some .name => some (.name, dto.sortOrder = some .desc)
  | some .relevance | none => none

def arranged (locale : Locale) (order : Option (SortBy × Bool)) (results : List SearchResult) : List SearchResult :=
  match order with
  | some (.date, down) => results.mergeSort fun a b => compareDates (if down then some .desc else none) a b ≤ 0
  | some (.name, down) => results.mergeSort fun a b => compareNames locale (if down then some .desc else none) a b ≤ 0
  | some (.relevance, _) | none => results

/-- A page of one type shows its order if it is the first one and has room for two results; of all nine
types together a page shows nothing from the tenth on. -/
def SearchQueryDto.ShowsOrder (dto : SearchQueryDto) : Prop :=
  if dto.entityType = some .all then dto.pageNumber ≤ 9 else dto.pageNumber = 1 ∧ 2 ≤ dto.pageSize

/-- The requests agree in what is not in the key. -/
structure Agree (dto dto' : SearchQueryDto) : Prop where
  types : dto.entityType = dto'.entityType
  dates : (∃ t ∈ entityTypes dto, dated t = true) → ∀ t, within dto.dateFrom dto.dateTo t = within dto'.dateFrom dto'.dateTo t
  order : dto.ShowsOrder → dto.order = dto'.order

section

variable {locale : Locale} {schedule : List SearchEntityType → List SearchEntityType} {db : Tables}
  {dto dto' : SearchQueryDto}

theorem sorted_eq (results : List SearchResult) : sorted locale dto results = arranged locale dto.order results := by
  unfold sorted arranged SearchQueryDto.order compareDates compareNames
  cases dto.sortBy with
  | none => rfl
  | some by_ => cases by_ <;> simp

/-- The ranges that a query of the type compares with are the same. -/
theorem searchEntity_congr (q : dto.q = dto'.q) (institution : dto.institutionId = dto'.institutionId)
    (organization : dto.organizationId = dto'.organizationId) {t : SearchEntityType}
    (dates : dated t = true → ∀ d, within dto.dateFrom dto.dateTo d = within dto'.dateFrom dto'.dateTo d) (page limit : Nat) :
    searchEntity locale db dto page limit t = searchEntity locale db dto' page limit t := by
  cases t <;> simp only [searchEntity, searchUsers, searchOrganizations, searchStudents, searchInstitutions,
    searchTransactions, searchPayments, searchDues, searchEvents, searchAnnouncements, q, institution, organization] <;>
    simp only [dates rfl]

/-! ## Answers from the cache -/

theorem searchTransparent_iff : SearchTransparent locale schedule db dto dto' ↔ (searchKey dto = searchKey dto' →
    search locale db dto (schedule (entityTypes dto)) = search locale db dto' (schedule (entityTypes dto'))) := by
  unfold SearchTransparent searchCached
  simp only [List.lookup_nil, List.lookup_cons]
  by_cases same : searchKey dto = searchKey dto'
  · simp [same]
  · have other : (searchKey dto' == searchKey dto) = false := beq_eq_false_iff_ne.2 fun h => same h.symm
    simp [same, other]

theorem length_results (locale : Locale) (db : Tables) (dto : SearchQueryDto) (page limit : Nat) (arrival : List SearchEntityType) :
    (arrival.flatMap fun t => (searchEntity locale db dto page limit t).data).length ≤ arrival.length * limit := by
  induction arrival with
  | nil => simp
  | cons t arrival ih =>
    have first : (searchEntity locale db dto page limit t).data.length ≤ limit := by
      rw [searchEntity_eq]
      exact List.length_take_le _ _
    rw [List.flatMap_cons, List.length_append, List.length_cons, Nat.succ_mul]
    omega

theorem eq_of_perm_of_short {l l' : List SearchResult} (perm : l.Perm l') (short : l'.length ≤ 1) : l = l' := by
  match l' with
  | [] => exact perm.eq_nil
  | [a] => exact List.perm_singleton.1 perm

/-- Where a page does not show the order, it shows what it would unsorted. -/
theorem page_of_hidden (locale : Locale) (valid : dto.Valid) (hidden : ¬dto.ShowsOrder) {results : List SearchResult}
    (short : results.length ≤ (entityTypes dto).length * dto.pageSize) :
    ((sorted locale dto results).drop ((dto.pageNumber - 1) * dto.pageSize)).take dto.pageSize =
      (results.drop ((dto.pageNumber - 1) * dto.pageSize)).take dto.pageSize := by
  have beyond (skipped : results.length ≤ (dto.pageNumber - 1) * dto.pageSize) :
      (sorted locale dto results).drop ((dto.pageNumber - 1) * dto.pageSize) =
        results.drop ((dto.pageNumber - 1) * dto.pageSize) := by
    rw [List.drop_of_length_le skipped, List.drop_of_length_le]
    rw [(sorted_perm locale dto results).length_eq]
    exact skipped
  have first := valid.page
  unfold SearchQueryDto.ShowsOrder at hidden
  split at hidden
  · rename_i all
    have nine : (entityTypes dto).length = 9 := by
      rw [entityTypes, all]
      rfl
    rw [nine] at short
    rw [beyond (Nat.le_trans short (Nat.mul_le_mul_right _ (by omega)))]
  · rename_i other
    have one : (entityTypes dto).length ≤ 1 := by
      unfold entityTypes
      split
      · rename_i all
        exact absurd all other
      · exact Nat.le_refl 1
      · exact Nat.zero_le 1
    have fits : results.length ≤ dto.pageSize :=
      Nat.le_trans short (Nat.le_trans (Nat.mul_le_mul_right _ one) (Nat.le_of_eq (Nat.one_mul _)))
    by_cases start : dto.pageNumber = 1
    · have single : dto.pageSize ≤ 1 := by
        by_contra more
        exact hidden ⟨start, by omega⟩
      rw [eq_of_perm_of_short (sorted_perm locale dto results) (Nat.le_trans fits single)]
    · rw [beyond (Nat.le_trans fits (Nat.le_mul_of_pos_left _ (by omega)))]

/-- Requests with one key that agree in the rest are answered alike. -/
theorem search_congr (order : ∀ types, (schedule types).Perm types) (valid : dto.Valid) (valid' : dto'.Valid)
    (same : searchKey dto = searchKey dto') (agree : Agree dto dto') :
    search locale db dto (schedule (entityTypes dto)) = search locale db dto' (schedule (entityTypes dto')) := by
  obtain ⟨q, -, page, limit, institution, organization⟩ := searchKey_eq valid valid' same
  have types : entityTypes dto = entityTypes dto' := by
    unfold entityTypes
    rw [agree.types]
  have found : ∀ t ∈ schedule (entityTypes dto),
      searchEntity locale db dto dto.pageNumber dto.pageSize t = searchEntity locale db dto' dto'.pageNumber dto'.pageSize t := by
    intro t ht
    rw [← page, ← limit]
    exact searchEntity_congr q institution organization (fun isDated => agree.dates ⟨t, (order _).mem_iff.1 ht, isDated⟩) _ _
  have results := List.flatMap_congr fun t ht => congrArg Found.data (found t ht)
  have totals := List.map_congr_left fun t ht => congrArg Found.total (found t ht)
  have facets : (nineTypes.map fun t => (t, if t ∈ schedule (entityTypes dto) then
        (searchEntity locale db dto dto.pageNumber dto.pageSize t).total else 0)) =
      nineTypes.map fun t => (t, if t ∈ schedule (entityTypes dto) then
        (searchEntity locale db dto' dto'.pageNumber dto'.pageSize t).total else 0) := by
    refine List.map_congr_left fun t _ => ?_
    split
    · rename_i among
      rw [found t among]
    · rfl
  have short := length_results locale db dto dto.pageNumber dto.pageSize (schedule (entityTypes dto))
  rw [(order _).length_eq] at short
  have shown : ((sorted locale dto ((schedule (entityTypes dto)).flatMap fun t =>
        (searchEntity locale db dto dto.pageNumber dto.pageSize t).data)).drop ((dto.pageNumber - 1) * dto.pageSize)).take
          dto.pageSize =
      ((sorted locale dto' ((schedule (entityTypes dto)).flatMap fun t =>
        (searchEntity locale db dto dto.pageNumber dto.pageSize t).data)).drop ((dto.pageNumber - 1) * dto.pageSize)).take
          dto.pageSize := by
    by_cases shows : dto.ShowsOrder
    · rw [sorted_eq, sorted_eq, agree.order shows]
    · have shows' : ¬dto'.ShowsOrder := by
        unfold SearchQueryDto.ShowsOrder at shows ⊢
        rw [← agree.types, ← page, ← limit]
        exact shows
      have short' := short
      rw [types, limit] at short'
      have hidden' := page_of_hidden locale valid' shows' short'
      rw [← page, ← limit, ← types] at hidden'
      rw [page_of_hidden locale valid shows short, hidden']
  unfold search
  rw [← types]
  simp only [shown, facets]
  rw [results, totals, page, limit]

/-! ## What the keys leave out is needed -/

/-- A transaction, a payment and an event of a date, and nothing else. -/
def datedRows (text : Text) (d : Int) : Tables where
  transactions := [⟨units "t", text, none, d⟩]
  payments := [⟨units "p", text, none, d⟩]
  events := [⟨units "e", text, none, none, d, d⟩]

def institutionRow (text : Text) : InstitutionRow := ⟨units "i", text, text, text, none, none, none, 0⟩

theorem total_datedRows {text : Text} (matched : locale.contains text dto.q = true) (d : Int) :
    total locale (datedRows text d) dto =
      if within dto.dateFrom dto.dateTo d then (entityTypes dto).countP dated else 0 := by
  have each (t : SearchEntityType) : (matching locale (datedRows text d) dto t).length =
      if within dto.dateFrom dto.dateTo d then (if dated t then 1 else 0) else 0 := by
    cases t <;> cases inRange : within dto.dateFrom dto.dateTo d <;>
      simp [matching, searchEntity, searchUsers, searchOrganizations, searchStudents, searchInstitutions,
        searchTransactions, searchPayments, searchDues, searchEvents, searchAnnouncements, paged, datedRows, dated,
        anyContains, inRange, matched]
  have count (types : List SearchEntityType) : (types.map fun t => if dated t then 1 else 0).sum = types.countP dated := by
    induction types with
    | nil => rfl
    | cons t types ih =>
      rw [List.map_cons, List.sum_cons, ih, List.countP_cons, Nat.add_comm]
  unfold total
  simp only [each]
  split
  · exact count _
  · simp

theorem total_institution {text : Text} (matched : locale.contains text dto.q = true) :
    total locale { institutions := [institutionRow text] } dto = (entityTypes dto).count .institutions := by
  have each (t : SearchEntityType) : (matching locale { institutions := [institutionRow text] } dto t).length =
      if t = .institutions then 1 else 0 := by
    cases t <;> simp [matching, searchEntity, searchUsers, searchOrganizations, searchStudents, searchInstitutions,
      searchTransactions, searchPayments, searchDues, searchEvents, searchAnnouncements, paged, institutionRow,
      anyContains, matched]
  unfold total
  simp only [each]
  induction entityTypes dto with
  | nil => rfl
  | cons t types ih =>
    rw [List.map_cons, List.sum_cons, ih, List.count_cons, Nat.add_comm]
    simp

/-- If the entries are of use in every database, the requests have the same type and the same range. -/
theorem agree_of_transparent (order : ∀ types, (schedule types).Perm types) (valid : dto.Valid) (valid' : dto'.Valid)
    {text : Text} (matched : locale.contains text dto.q = true) (same : searchKey dto = searchKey dto')
    (transparent : ∀ db, SearchTransparent locale schedule db dto dto') :
    dto.entityType = dto'.entityType ∧ ((∃ t ∈ entityTypes dto, dated t = true) →
      ∀ d, within dto.dateFrom dto.dateTo d = within dto'.dateFrom dto'.dateTo d) := by
  obtain ⟨q, type, -⟩ := searchKey_eq valid valid' same
  have totals (db : Tables) : total locale db dto = total locale db dto' := by
    rw [← search_total (order _), ← search_total (order _), searchTransparent_iff.1 (transparent db) same]
  have matched' : locale.contains text dto'.q = true := q ▸ matched
  have types : dto.entityType = dto'.entityType := by
    have count := totals { institutions := [institutionRow text] }
    rw [total_institution matched, total_institution matched'] at count
    unfold typeOf at type
    cases given : dto.entityType with
    | none =>
      cases given' : dto'.entityType with
      | none => rfl
      | some t' =>
        rw [given, given'] at type
        obtain rfl : SearchEntityType.all = t' := type
        unfold entityTypes at count
        rw [given, given'] at count
        cases count
    | some t =>
      cases given' : dto'.entityType with
      | some t' =>
        rw [given, given'] at type
        exact congrArg some type
      | none =>
        rw [given, given'] at type
        obtain rfl : t = SearchEntityType.all := type
        unfold entityTypes at count
        rw [given, given'] at count
        cases count
  refine ⟨types, fun ⟨t, among, isDated⟩ d => ?_⟩
  have count := totals (datedRows text d)
  have same_ : entityTypes dto' = entityTypes dto := by
    unfold entityTypes
    rw [types]
  rw [total_datedRows matched, total_datedRows matched', same_] at count
  have some_ : 0 < (entityTypes dto).countP dated := List.countP_pos_iff.2 ⟨t, among, isDated⟩
  cases inRange : within dto.dateFrom dto.dateTo d <;> cases inRange' : within dto'.dateFrom dto'.dateTo d <;>
    rw [inRange, inRange'] at count
  · simp only [Bool.false_eq_true, if_false, if_true] at count
    omega
  · simp only [Bool.false_eq_true, if_false, if_true] at count
    omega

end

/-! ## Suggestions from the cache -/

section

variable {locale : Locale} {dto dto' : AutoCompleteDto}

theorem autocompleteTransparent_iff {db : Tables} : AutocompleteTransparent locale db dto dto' ↔
    (autocompleteKey dto = autocompleteKey dto' → autocomplete locale db dto = autocomplete locale db dto') := by
  unfold AutocompleteTransparent autocompleteCached
  simp only [List.lookup_nil, List.lookup_cons]
  by_cases same : autocompleteKey dto = autocompleteKey dto'
  · simp [same]
  · have other : (autocompleteKey dto' == autocompleteKey dto) = false := beq_eq_false_iff_ne.2 fun h => same h.symm
    simp [same, other]

theorem autocompleteKey_eq (valid : IdValid dto.institutionId) (valid' : IdValid dto'.institutionId)
    (same : autocompleteKey dto = autocompleteKey dto') : dto.q = dto'.q ∧ dto.institutionId = dto'.institutionId := by
  obtain ⟨same, id⟩ := append_colon_inj (colon_notMem_idText valid) (colon_notMem_idText valid') same
  exact ⟨List.append_cancel_left same, idText_inj valid valid' id⟩

/-- In a database of institutions enough the number of suggestions is the limit. -/
theorem length_institutions {text : Text} (matched : locale.contains text dto.q = true) (n : Nat) :
    (autocomplete locale { institutions := .replicate n (institutionRow text) } dto).institutions.length =
      min (dto.limit.getD 5) n := by
  have all : (List.replicate n (institutionRow text)).filter (fun i => anyContains locale dto.q [i.name, i.code]) =
      .replicate n (institutionRow text) := by
    refine List.filter_eq_self.2 fun i hi => ?_
    rw [List.eq_of_mem_replicate hi]
    simp [anyContains, institutionRow, matched]
  rw [autocomplete, all, List.length_map, List.length_take, List.length_replicate]

theorem autocomplete_transparent_iff (valid : IdValid dto.institutionId) (valid' : IdValid dto'.institutionId)
    {text : Text} (matched : locale.contains text dto.q = true) :
    (∀ db, AutocompleteTransparent locale db dto dto') ↔
      (autocompleteKey dto = autocompleteKey dto' → dto.limit.getD 5 = dto'.limit.getD 5) := by
  constructor
  · intro transparent same
    have matched' : locale.contains text dto'.q = true := (autocompleteKey_eq valid valid' same).1 ▸ matched
    have alike := autocompleteTransparent_iff.1 (transparent
      { institutions := .replicate (dto.limit.getD 5 + dto'.limit.getD 5) (institutionRow text) }) same
    have lengths := congrArg List.length (congrArg Suggestions.institutions alike)
    rw [length_institutions matched, length_institutions matched'] at lengths
    omega
  · intro limits db
    refine autocompleteTransparent_iff.2 fun same => ?_
    obtain ⟨q, id⟩ := autocompleteKey_eq valid valid' same
    unfold autocomplete
    rw [q, id, limits same]

end

/-- **What the cache of searches needs.** The entry of a search answers another request with its key as the
search itself would if both agree in the type, the range of dates and, where the page shows it, the
order; without the same type and range it does not in every database. The entry of an
autocompletion does so, for every database, just if the limits are the same. -/
theorem cache_transparent (locale : Locale) (schedule : List SearchEntityType → List SearchEntityType)
    (order : ∀ types, (schedule types).Perm types) (matched : ∀ q, ∃ text, locale.contains text q = true) :
    (∀ dto dto' : SearchQueryDto, dto.Valid → dto'.Valid →
      ((searchKey dto = searchKey dto' → Agree dto dto') → ∀ db, SearchTransparent locale schedule db dto dto') ∧
      ((∀ db, SearchTransparent locale schedule db dto dto') → searchKey dto = searchKey dto' →
        dto.entityType = dto'.entityType ∧ ((∃ t ∈ entityTypes dto, dated t = true) →
          ∀ d, within dto.dateFrom dto.dateTo d = within dto'.dateFrom dto'.dateTo d))) ∧
    ∀ dto dto' : AutoCompleteDto, IdValid dto.institutionId → IdValid dto'.institutionId →
      ((∀ db, AutocompleteTransparent locale db dto dto') ↔
        (autocompleteKey dto = autocompleteKey dto' → dto.limit.getD 5 = dto'.limit.getD 5)) := by
  refine ⟨fun dto dto' valid valid' => ⟨fun agree db => ?_, fun transparent same => ?_⟩, fun dto dto' valid valid' => ?_⟩
  · exact searchTransparent_iff.2 fun same => search_congr order valid valid' same (agree same)
  · obtain ⟨text, found⟩ := matched dto.q
    exact agree_of_transparent order valid valid' found same transparent
  · obtain ⟨text, found⟩ := matched dto.q
    exact autocomplete_transparent_iff valid valid' found

/-- With room for one result the order does not show. -/
theorem cache_transparent_one :
    SearchTransparent plainLocale id twoUsers (usersNamedAda 1) { usersNamedAda 1 with sortBy := some .date } ∧
      AutocompleteTransparent plainLocale twoUsers ⟨units "ada", none, none⟩ ⟨units "ada", some 5, none⟩ := by
  obtain ⟨searches, suggestions⟩ := cache_transparent plainLocale id (fun _ => .refl _)
    fun q => ⟨q, decide_eq_true (List.infix_refl q)⟩
  have absent : IdValid none := fun _ h => by cases h
  constructor
  · refine (searches (usersNamedAda 1) { usersNamedAda 1 with sortBy := some .date } ⟨by decide, by decide, absent, absent⟩
      ⟨by decide, by decide, absent, absent⟩).1 (fun _ => ⟨rfl, fun _ _ => rfl, fun shows => ?_⟩) twoUsers
    obtain ⟨-, room⟩ : 1 = 1 ∧ 2 ≤ 1 := shows
    omega
  · refine (suggestions ⟨units "ada", none, none⟩ ⟨units "ada", some 5, none⟩ absent absent).2 (fun _ => ?_) twoUsers
    rfl

/-- A range of dates is answered with the transactions of all dates. -/
theorem dates_not_in_key : ¬∀ (locale : Locale) (db : Tables) (dto dto' : SearchQueryDto), dto.Valid → dto'.Valid →
    SearchTransparent locale id db dto dto' := by
  intro transparent
  have absent : IdValid none := fun _ h => by cases h
  have alike := transparent plainLocale (datedRows (units "fee") 0) { q := units "fee", entityType := some .transactions }
    { q := units "fee", entityType := some .transactions, dateFrom := some 1 } ⟨by decide, by decide, absent, absent⟩
    ⟨by decide, by decide, absent, absent⟩
  have totals := congrArg SearchResponse.total (searchTransparent_iff.1 alike rfl)
  revert totals
  decide

end Heightt.Search
