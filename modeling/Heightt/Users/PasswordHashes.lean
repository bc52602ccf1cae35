import Heightt.ReadCommitted.Alone
import Heightt.ReadCommitted.Guarantee
import Heightt.Users.Service

/-!
# Where password hashes go

The users service includes profiles where it should select columns, so what it returns and
what it caches are whole rows. Two databases that differ only in the hashes are told apart by
exactly those calls that take a row with another hash from the database.
-/

namespace Heightt.Users

open Store ReadCommitted Prog Database AuthService UsersService
open Auth (UserStatus toLowerCase)

inductive UsersOp where
  | findAll (page limit : Int) (filters : UserFilters)
  | findById (id : Id)
  | findByEmail (email : List Char)
  | findByUsername (username : List Char)
  | searchUsers (query : List Char) (limit : Int)
  | getUsersWithRoles (organizationId : Option Id)
  | updateProfile (userId : Id) (dto : UpdateUserDto)
  | updateStatus (userId : Id) (status : UserStatus)
  deriving DecidableEq

inductive UsersReply where
  | page (page : Page)
  | cached (value : Entry)
  | user (view : UserView)
  | users (views : List UserView)
  | withRoles (views : List UserWithRoles)
  | profileUpdated (updated : Updated Entry)
  | statusUpdated (updated : Updated UserView)
  deriving DecidableEq

def UsersOp.program : UsersOp → UsersAction UsersReply
  | findAll page limit filters => do
    let result ← UsersService.findAll page limit filters
    pure (.page result)
  | findById id => do
    let value ← UsersService.findById id
    pure (.cached value)
  | findByEmail email => do
    let value ← UsersService.findByEmail email
    pure (.cached value)
  | findByUsername username => do
    let view ← UsersService.findByUsername username
    pure (.user view)
  | searchUsers query limit => do
    let views ← UsersService.searchUsers query limit
    pure (.users views)
  | getUsersWithRoles organizationId => do
    let views ← UsersService.getUsersWithRoles organizationId
    pure (.withRoles views)
  | updateProfile userId dto => do
    let updated ← UsersService.updateProfile userId dto
    pure (.profileUpdated updated)
  | updateStatus userId status => do
    let updated ← UsersService.updateStatus userId status
    pure (.statusUpdated updated)

/-- What a call returns, and what the cache holds after it. -/
def UsersOp.observe (op : UsersOp) (d : UsersDb) (x : UsersServices) :
    Option (Except UsersError UsersReply × List CacheEntry) :=
  (op.program.alone [] d x).map fun o => (o.result, o.ext.cache)

/-! ## Databases without hashes -/

/-- The row without its hash. -/
def User.erase (u : User) : User := { u with passwordHash := "" }

def UsersDb.erase (d : UsersDb) : UsersDb := { d with users := d.users.mapRows User.erase fun _ => rfl }

/-- The databases differ only in password hashes. -/
def SameButHashes (d₁ d₂ : UsersDb) : Prop := d₁.erase = d₂.erase

/-- The rows that `findMany` of the three lists returns, or none if Prisma refuses. -/
def listed (d : UsersDb) : UsersOp → Option (List User)
  | .findAll page limit filters =>
    paginate ((page - 1) * limit) limit (latestFirst User.createdAt (d.users.rows.filter filters.holds))
  | .searchUsers query limit =>
    paginate 0 limit (latestFirst User.createdAt (d.users.rows.filter (searched d query)))
  | .getUsersWithRoles organizationId =>
    some (latestFirst User.createdAt (d.users.rows.filter fun u => organizationId.all fun o =>
      d.memberships.any fun m => m.userId = u.id && m.organizationId = o))
  | _ => none

/-- The transaction of `updateProfile`. -/
def updateStatements (userId : Id) (dto : UpdateUserDto) : List UsersStmt :=
  .updateUser userId ((given dto.username).map toLowerCase) ((given dto.email).map toLowerCase) ::
    if dto.touchesProfile = true then [.updateProfile userId dto.patch] else []

/-- Why `updateProfile` refuses. -/
def updateRefusal (d : UsersDb) (userId : Id) (dto : UpdateUserDto) : Option UsersError :=
  if (d.users.find userId).isNone then some (.notFound "User not found")
  else if (given dto.username).any fun username => !decide (d.findByUsername username = none) then
    some (.conflict "Username is already taken")
  else if (given dto.email).any fun email => !decide (emailTaken d email userId = false) then
    some (.conflict "Email is already registered")
  else violation (updateStatements userId dto) d

/-- The users whose rows a call takes from the database for its answer or for the cache. -/
def UsersOp.shown (d : UsersDb) (x : UsersServices) : UsersOp → List User
  | findById id => if (x.cached (.profile id)).isSome then [] else (d.users.find id).toList
  | findByEmail email =>
    if (x.cached (.email (toLowerCase email))).isSome then [] else (d.findByEmail (toLowerCase email)).toList
  | findByUsername username => (d.findByUsername (toLowerCase username)).toList
  | updateProfile userId dto => if (updateRefusal d userId dto).isSome then [] else (d.users.find userId).toList
  | updateStatus userId status => (d.users.find userId).toList.filter fun u => u.status ≠ status
  | op => (listed d op).getD []

/-! ## What the calls do alone -/

section Alone

variable {α β : Type} {d : UsersDb} {x : UsersServices} {fs : List (Frame UsersStmt)}

theorem alone_attempt {p : UsersAction Unit} {x' : UsersServices} (h : p.alone fs d x = some ⟨.ok (), fs, d, x'⟩)
    (g : Unit → UsersAction β) : ((attempt p).bind g).alone fs d x = (g ()).alone fs d x' := by
  rw [alone_bind, attempt, alone_onThrow, h]
  rfl

theorem alone_invalidateByTag (tag : String) (g : Unit → UsersAction β) :
    ((invalidateByTag tag).bind g).alone fs d x =
      (g ()).alone fs d { x with cache := x.cache.filter fun e => tag ∉ e.tags } := by
  refine alone_attempt ?_ g
  cases fs <;> rfl

theorem alone_cacheDelete (key : CacheKey) (g : Unit → UsersAction β) :
    ((cacheDelete key).bind g).alone fs d x = (g ()).alone fs d (x.delete key) := by
  cases fs <;> rfl

/-- Nothing of the users is left in the cache. -/
theorem alone_invalidateUsersCache (userId : Id) (g : Unit → UsersAction β) :
    ((invalidateUsersCache userId).bind g).alone [] d x = (g ()).alone [] d { x with cache := [] } := by
  refine alone_attempt ?_ g
  simp only [bind_eq, alone_invalidateByTag, alone_cacheDelete, invalidateUserCache, alone_outside]
  cases d.users.find userId with
  | none => rfl
  | some u => rfl

theorem alone_cacheGet (key : CacheKey) (g : Option Entry → UsersAction β) :
    ((cacheGet key).bind g).alone fs d x = (g (x.cached key)).alone fs d x := by
  cases fs <;> rfl

/-- What a lookup through the cache does. -/
def lookedUp (d : UsersDb) (x : UsersServices) (key : CacheKey) (found : Option User) :
    Except UsersError Entry × UsersServices :=
  match x.cached key, found with
  | some value, _ => (.ok value, x)
  | none, some u => (.ok (.user (d.view u)), x.store ⟨key, .user (d.view u), ["users", "user"]⟩)
  | none, none => (.error (.notFound "User not found"), x)

theorem alone_cachedUser (key : CacheKey) (find : UsersDb → Option User) :
    (cachedUser key find).alone [] d x =
      some ⟨(lookedUp d x key (find d)).1, [], d, (lookedUp d x key (find d)).2⟩ := by
  unfold cachedUser lookedUp
  rw [bind_eq, alone_cacheGet]
  cases x.cached key with
  | some value => rfl
  | none =>
    dsimp only
    rw [bind_eq, alone_outside, bind_eq, alone_orThrow]
    cases find d <;> rfl

theorem alone_findAll (page limit : Int) (filters : UserFilters) :
    (findAll page limit filters).alone [] d x = match listed d (.findAll page limit filters) with
      | none => some ⟨.error .fault, [], d, x⟩
      | some rows => some ⟨.ok ⟨rows.map d.view, page, limit, (d.users.rows.filter filters.holds).length,
          if limit = 0 then none
          else some (-(Int.fdiv (-(d.users.rows.filter filters.holds).length) limit))⟩, [], d, x⟩ := by
  unfold findAll
  simp only [bind_eq, alone_outside, alone_orThrow]
  rw [listed]
  cases paginate ((page - 1) * limit) limit (latestFirst User.createdAt (d.users.rows.filter filters.holds)) <;> rfl

theorem alone_searchUsers (query : List Char) (limit : Int) :
    (searchUsers query limit).alone [] d x = match listed d (.searchUsers query limit) with
      | none => some ⟨.error .fault, [], d, x⟩
      | some rows => some ⟨.ok (rows.map d.view), [], d, x⟩ := by
  unfold searchUsers
  rw [bind_eq, alone_outside, listed]
  cases paginate 0 limit (latestFirst User.createdAt (d.users.rows.filter (searched d query))) <;> rfl

/-- A check of `updateProfile` on a field that is given. -/
theorem alone_refuse {γ δ : Type} {o : Option γ} {f : γ → UsersDb → δ} {p : δ → Prop} [DecidablePred p]
    {e : UsersError} (g : Unit → UsersAction β) :
    ((whenSome o fun a => (outside (f a)).bind fun b => ensure (p b) e).bind g).alone [] d x =
      if o.any fun a => !decide (p (f a d)) then some ⟨.error e, [], d, x⟩ else (g ()).alone [] d x := by
  cases o with
  | none => rfl
  | some a =>
    rw [whenSome, Prog.bind_assoc, alone_outside, alone_ensure, Option.any_some]
    by_cases h : p (f a d) <;> simp [h]

/-- The transaction of `updateProfile` commits unless one of its statements is refused. -/
theorem alone_updateTransaction (userId : Id) (dto : UpdateUserDto) (g : Unit → UsersAction β) :
    ((transaction ((exec (.updateUser userId ((given dto.username).map toLowerCase)
        ((given dto.email).map toLowerCase))).bind fun _ =>
          when (dto.touchesProfile = true) (exec (.updateProfile userId dto.patch)))).bind g).alone
      [] d x = match violation (updateStatements userId dto) d with
        | none => (g ()).alone [] (applyAll (updateStatements userId dto) d) x
        | some e => some ⟨.error e, [], d, x⟩ := by
  unfold updateStatements
  generalize UsersStmt.updateUser userId ((given dto.username).map toLowerCase)
    ((given dto.email).map toLowerCase) = first
  generalize UsersStmt.updateProfile userId dto.patch = second
  cases refused : check first d with
  | some e =>
    have invalid : violation (first :: if dto.touchesProfile = true then [second] else []) d = some e := by
      rw [violation, refused]
    rw [invalid]
    refine alone_transaction_error (f := ⟨[], false⟩) ?_ g
    rw [alone_exec, applyAll_nil, refused]
  | none =>
    by_cases touches : dto.touchesProfile = true
    · rw [if_pos touches]
      cases refused' : check second (apply first d) with
      | some e =>
        have invalid : violation [first, second] d = some e := by
          rw [violation, refused]
          dsimp only
          rw [violation, refused']
        rw [invalid]
        refine alone_transaction_error (f := ⟨[first], false⟩) ?_ g
        rw [alone_exec, applyAll_nil, refused, when, if_pos touches, ← Prog.bind_ret (exec second)]
        dsimp only
        rw [alone_exec, List.nil_append, applyAll_cons, applyAll_nil, refused']
      | none =>
        have valid : violation [first, second] d = none :=
          violation_cons.2 ⟨refused, violation_cons.2 ⟨refused', rfl⟩⟩
        rw [valid]
        refine alone_transaction (F := [first, second]) ?_ valid g
        rw [alone_exec, applyAll_nil, refused, when, if_pos touches, ← Prog.bind_ret (exec second)]
        dsimp only
        rw [alone_exec, List.nil_append, applyAll_cons, applyAll_nil, refused']
        rfl
    · have valid : violation [first] d = none := violation_cons.2 ⟨refused, rfl⟩
      rw [if_neg touches, valid]
      refine alone_transaction (F := [first]) ?_ valid g
      rw [alone_exec, applyAll_nil, refused, when, if_neg touches]
      rfl

/-- What `updateProfile` leaves and returns. -/
def profileUpdated (d : UsersDb) (x : UsersServices) (userId : Id) (dto : UpdateUserDto) :
    Outcome UsersDb UsersServices UsersStmt UsersError (Updated Entry) :=
  match updateRefusal d userId dto with
  | some e => ⟨.error e, [], d, x⟩
  | none =>
    let d' := applyAll (updateStatements userId dto) d
    let found := lookedUp d' { x with cache := [] } (.profile userId) (d'.users.find userId)
    ⟨found.1.map (Updated.mk "Profile updated successfully"), [], d', found.2⟩

theorem alone_updateProfile (userId : Id) (dto : UpdateUserDto) :
    (updateProfile userId dto).alone [] d x = some (profileUpdated d x userId dto) := by
  unfold updateProfile profileUpdated updateRefusal
  simp only [bind_eq, alone_outside, alone_orThrow, alone_refuse]
  cases d.users.find userId with
  | none => rfl
  | some u =>
    simp only [Option.isNone_some, Bool.false_eq_true, if_false]
    split
    · rfl
    · split
      · rfl
      · rw [alone_updateTransaction]
        cases violation (updateStatements userId dto) d with
        | some e => rfl
        | none =>
          dsimp only
          rw [alone_invalidateUsersCache, alone_bind, findById, alone_cachedUser, Option.bind_some]
          rcases lookedUp _ _ _ _ with ⟨e | value, x'⟩ <;> rfl

/-- What `updateStatus` leaves and returns. -/
def statusUpdated (d : UsersDb) (x : UsersServices) (userId : Id) (status : UserStatus) :
    Outcome UsersDb UsersServices UsersStmt UsersError (Updated UserView) :=
  match d.users.find userId with
  | none => ⟨.error (.notFound "User not found"), [], d, x⟩
  | some u =>
    if u.status = status then ⟨.error (.badRequest ("User is already " ++ statusText status)), [], d, x⟩
    else ⟨.ok ⟨"User status updated to " ++ statusText status, d.view { u with status }⟩, [],
      (UsersStmt.updateStatus userId status).apply d, { x with cache := [] }⟩

theorem alone_updateStatus (userId : Id) (status : UserStatus) :
    (updateStatus userId status).alone [] d x = some (statusUpdated d x userId status) := by
  unfold updateStatus statusUpdated updateUserStatus
  simp only [bind_eq, alone_outside, alone_orThrow]
  cases found : d.users.find userId with
  | none => rfl
  | some u =>
    dsimp only
    rw [alone_ensure]
    by_cases same : u.status = status
    · rw [if_neg (not_not.2 same), if_pos same]
    · rw [if_pos same, if_neg same]
      have present : UsersStmt.check (.updateStatus userId status) d = none := by
        rw [UsersStmt.check, found]
        rfl
      have updated : ((UsersStmt.updateStatus userId status).apply d).users.find userId =
          some { u with status } := by
        have kept := Table.find_modify_self d.users userId (fun u => { u with status }) fun _ => rfl
        rw [found] at kept
        exact kept
      have body : ((exec (UsersStmt.updateStatus userId status)).bind fun _ =>
          (query fun d => (d.users.find userId).map d.view).bind fun user =>
            orThrow user UsersError.recordNotFound : UsersAction UserView).alone [{}] d x =
          some ⟨.ok (d.view { u with status }), [⟨[.updateStatus userId status], true⟩], d, x⟩ := by
        have free : check (UsersStmt.updateStatus userId status) d = none := present
        rw [alone_exec, applyAll_nil, free]
        dsimp only
        rw [List.nil_append, alone_query_open, applyAll_cons, applyAll_nil]
        have row : (apply (UsersStmt.updateStatus userId status) d).users.find userId = some { u with status } := updated
        rw [row, Option.map_some]
        rfl
      rw [alone_transaction body (violation_cons.2 ⟨present, rfl⟩)]
      by_cases deleted : status = .deleted
      · rw [when, if_pos deleted, alone_statement]
        exact alone_invalidateUsersCache userId _
      · rw [when, if_neg deleted]
        exact alone_invalidateUsersCache userId _

end Alone

/-! ## Rows with and without their hashes -/

theorem latestFirst_erase (l : List User) :
    latestFirst User.createdAt (l.map User.erase) = (latestFirst User.createdAt l).map User.erase := by
  unfold latestFirst
  refine (List.map_insertionSort (r := fun a b : User => b.createdAt ≤ a.createdAt)
    (s := fun a b : User => b.createdAt ≤ a.createdAt) User.erase l fun a _ b _ => ?_).symm
  exact Iff.rfl

theorem filter_erase {p : User → Bool} (hp : ∀ u, p u.erase = p u) (l : List User) :
    (l.map User.erase).filter p = (l.filter p).map User.erase := by
  rw [List.filter_map]
  exact congrArg (fun q => (l.filter q).map User.erase) (funext hp)

/-- The lists are of the same users, whatever the hashes. -/
theorem listed_erase (d : UsersDb) (op : UsersOp) : listed d.erase op = (listed d op).map (List.map User.erase) := by
  cases op with
  | findAll page limit filters =>
    unfold listed
    rw [← paginate_map, ← latestFirst_erase, ← filter_erase fun u => rfl]
    rfl
  | searchUsers query limit =>
    unfold listed
    rw [← paginate_map, ← latestFirst_erase, ← filter_erase fun u => rfl]
    rfl
  | getUsersWithRoles organizationId =>
    unfold listed
    rw [Option.map_some, ← latestFirst_erase, ← filter_erase fun u => rfl]
    rfl
  | _ => rfl

/-- Rows that are the same without their hashes are the same with them if the hashes are. -/
theorem rows_eq_iff {l₁ l₂ : List User} (erased : l₁.map User.erase = l₂.map User.erase) :
    l₁ = l₂ ↔ l₁.map User.passwordHash = l₂.map User.passwordHash := by
  refine ⟨fun same => same ▸ rfl, fun hashes => ?_⟩
  have pairs (l : List User) : l.map (fun u => (u.erase, u.passwordHash)) =
      (l.map User.erase).zip (l.map User.passwordHash) := by
    induction l with
    | nil => rfl
    | cons u l ih => rw [List.map_cons, ih]; rfl
  have injective : Function.Injective fun u : User => (u.erase, u.passwordHash) := by
    intro u v h
    obtain ⟨erased, hash⟩ := Prod.mk.injEq .. ▸ h
    cases u
    cases v
    simp only [User.erase, User.mk.injEq] at erased
    simp_all
  refine List.map_injective_iff.2 injective ?_
  rw [pairs, pairs, erased, hashes]

/-- A view tells its row. -/
theorem map_eq_iff {β : Type} {f : User → β} {g : β → User} (hg : ∀ u, g (f u) = u) {l₁ l₂ : List User}
    (erased : l₁.map User.erase = l₂.map User.erase) :
    l₁.map f = l₂.map f ↔ l₁.map User.passwordHash = l₂.map User.passwordHash := by
  have injective : Function.Injective f := fun u v h => by rw [← hg u, ← hg v, h]
  rw [(List.map_injective_iff.2 injective).eq_iff, rows_eq_iff erased]

/-- The statements of `updateProfile`. -/
def UsersStmt.Updates : UsersStmt → Prop
  | updateUser .. | updateProfile .. => True
  | _ => False

theorem updates (userId : Id) (dto : UpdateUserDto) : ∀ w ∈ updateStatements userId dto, w.Updates := by
  intro w mem
  unfold updateStatements at mem
  split at mem
  · simp only [List.mem_cons, List.not_mem_nil, or_false] at mem
    obtain rfl | rfl := mem <;> trivial
  · rw [List.mem_singleton.1 mem]
    trivial

theorem apply_erase {w : UsersStmt} (hw : w.Updates) (d : UsersDb) : w.apply d.erase = (w.apply d).erase := by
  cases w with
  | updateUser userId username email =>
    have users := Table.modify_mapRows d.users (f := User.erase) (g := User.rename username email) (fun _ => rfl)
      (fun _ => rfl) (fun _ => rfl) userId
    exact congrArg (fun t => { d with users := t : UsersDb }) users
  | updateProfile userId patch => rfl
  | _ => exact hw.elim

theorem taken_erase (d : UsersDb) (userId : Id) {column : User → List Char}
    (hc : ∀ u, column u.erase = column u) (value : Option (List Char)) :
    UsersStmt.taken d.erase userId column value = UsersStmt.taken d userId column value := by
  refine Eq.trans List.any_map ?_
  refine congrArg (fun q => d.users.rows.any q) (funext fun u => ?_)
  rw [Function.comp_apply, hc]
  rfl

theorem find_erase (d : UsersDb) (id : Id) : d.erase.users.find id = (d.users.find id).map User.erase :=
  Table.find_mapRows d.users User.erase (fun _ => rfl) id

theorem check_erase {w : UsersStmt} (hw : w.Updates) (d : UsersDb) : w.check d.erase = w.check d := by
  cases w with
  | updateUser userId username email =>
    simp only [UsersStmt.check]
    rw [find_erase, taken_erase d userId fun _ => rfl, taken_erase d userId fun _ => rfl]
    cases d.users.find userId <;> rfl
  | updateProfile userId patch => rfl
  | _ => exact hw.elim

theorem applyAll_erase {F : List UsersStmt} (hF : ∀ w ∈ F, w.Updates) (d : UsersDb) :
    applyAll F d.erase = (applyAll F d).erase := by
  induction F generalizing d with
  | nil => rfl
  | cons w F ih =>
    have step : apply w d.erase = (apply w d).erase := apply_erase (hF w List.mem_cons_self) d
    rw [applyAll_cons, step, ih fun w mem => hF w (List.mem_cons_of_mem _ mem)]
    rfl

theorem violation_erase {F : List UsersStmt} (hF : ∀ w ∈ F, w.Updates) (d : UsersDb) :
    violation F d.erase = violation F d := by
  induction F generalizing d with
  | nil => rfl
  | cons w F ih =>
    have step : apply w d.erase = (apply w d).erase := apply_erase (hF w List.mem_cons_self) d
    have refused : check w d.erase = check w d := check_erase (hF w List.mem_cons_self) d
    rw [violation, violation, refused, step, ih fun w mem => hF w (List.mem_cons_of_mem _ mem)]

theorem findFirst_erase (d : UsersDb) {p : User → Bool} (hp : ∀ u, p u.erase = p u) :
    d.erase.users.findFirst p = (d.users.findFirst p).map User.erase := by
  refine Eq.trans List.find?_map ?_
  exact congrArg (fun q => (d.users.rows.find? q).map User.erase) (funext hp)

theorem updateRefusal_erase (d : UsersDb) (userId : Id) (dto : UpdateUserDto) :
    updateRefusal d.erase userId dto = updateRefusal d userId dto := by
  have username (name : List Char) : (d.erase.findByUsername name = none) = (d.findByUsername name = none) := by
    unfold UsersDb.findByUsername
    rw [findFirst_erase d fun _ => rfl, Option.map_eq_none_iff]
  have email (address : List Char) : emailTaken d.erase address userId = emailTaken d address userId := by
    unfold emailTaken
    rw [findFirst_erase d fun _ => rfl, Option.isSome_map]
  unfold updateRefusal
  simp only [find_erase, Option.isNone_map, username, email, violation_erase (updates userId dto)]

namespace SameButHashes

variable {d₁ d₂ : UsersDb} (same : SameButHashes d₁ d₂)

include same

theorem view (u : User) : d₁.view u = d₂.view u := by
  have profiles : d₁.erase.profiles = d₂.erase.profiles := congrArg UsersDb.profiles same
  have students : d₁.erase.studentProfiles = d₂.erase.studentProfiles := congrArg UsersDb.studentProfiles same
  change d₁.profiles = d₂.profiles at profiles
  change d₁.studentProfiles = d₂.studentProfiles at students
  unfold UsersDb.view
  rw [profiles, students]

theorem find (id : Id) : (d₁.users.find id).map User.erase = (d₂.users.find id).map User.erase := by
  rw [← find_erase, ← find_erase, same]

theorem findFirst {p : User → Bool} (hp : ∀ u, p u.erase = p u) :
    (d₁.users.findFirst p).map User.erase = (d₂.users.findFirst p).map User.erase := by
  rw [← findFirst_erase d₁ hp, ← findFirst_erase d₂ hp, same]

theorem listed (op : UsersOp) :
    (Users.listed d₁ op).map (List.map User.erase) = (Users.listed d₂ op).map (List.map User.erase) := by
  rw [← listed_erase, ← listed_erase, same]

theorem refusal (userId : Id) (dto : UpdateUserDto) :
    updateRefusal d₁ userId dto = updateRefusal d₂ userId dto := by
  rw [← updateRefusal_erase d₁, ← updateRefusal_erase d₂, same]

theorem updated (userId : Id) (dto : UpdateUserDto) :
    SameButHashes (applyAll (updateStatements userId dto) d₁) (applyAll (updateStatements userId dto) d₂) := by
  unfold SameButHashes
  rw [← applyAll_erase (updates userId dto), ← applyAll_erase (updates userId dto), same]

/-- An updated row is shown with its hash. -/
theorem view_status_iff {u v : User} (erased : u.erase = v.erase) (status : UserStatus) :
    d₁.view { u with status } = d₂.view { v with status } ↔ u.passwordHash = v.passwordHash := by
  have updated : ({ u with status } : User).erase = ({ v with status } : User).erase :=
    congrArg (fun r : User => { r with status }) erased
  have listed : [{ u with status }].map User.erase = [{ v with status }].map User.erase := by
    rw [List.map_singleton, List.map_singleton, updated]
  have rows := rows_eq_iff listed
  rw [same.view]
  constructor
  · intro shown
    exact congrArg (fun view : UserView => view.user.passwordHash) shown
  · intro hash
    rw [List.singleton_inj.1 (rows.2 (congrArg (fun h => [h]) hash))]

end SameButHashes

section Observations

variable {d₁ d₂ : UsersDb} {x : UsersServices}

theorem except_map_inj {α β : Type} {f : α → β} (hf : Function.Injective f) {a b : Except UsersError α} :
    a.map f = b.map f ↔ a = b := by
  cases a <;> cases b <;> simp [Except.map, hf.eq_iff]

theorem lookedUp_iff (same : SameButHashes d₁ d₂) (key : CacheKey) {o₁ o₂ : Option User}
    (found : o₁.map User.erase = o₂.map User.erase) :
    ((lookedUp d₁ x key o₁).1 = (lookedUp d₂ x key o₂).1 ∧
        (lookedUp d₁ x key o₁).2.cache = (lookedUp d₂ x key o₂).2.cache) ↔
      ((if (x.cached key).isSome then [] else o₁.toList).map User.passwordHash =
        (if (x.cached key).isSome then [] else o₂.toList).map User.passwordHash) := by
  unfold lookedUp
  cases x.cached key with
  | some value => simp
  | none =>
    cases o₁ with
    | none =>
      cases o₂ with
      | none => simp
      | some v => cases found
    | some u =>
      cases o₂ with
      | none => cases found
      | some v =>
        have erased : [u].map User.erase = [v].map User.erase := by
          rw [List.map_singleton, List.map_singleton, Option.some.inj found]
        have rows := rows_eq_iff erased
        simp only [Option.isSome_none, Bool.false_eq_true, if_false, Option.toList_some, ← rows]
        constructor
        · rintro ⟨shown, -⟩
          have row : u = v := congrArg UserView.user (Entry.user.inj (Except.ok.inj shown))
          rw [row]
        · intro row
          rw [List.singleton_inj.1 row, same.view]
          exact ⟨rfl, rfl⟩

/-- A profile update changes no hash. -/
theorem hash_updated (d : UsersDb) (userId : Id) (dto : UpdateUserDto) :
    ((applyAll (updateStatements userId dto) d).users.find userId).toList.map User.passwordHash =
      (d.users.find userId).toList.map User.passwordHash := by
  have found : (applyAll (updateStatements userId dto) d).users.find userId = (d.users.find userId).map
      (User.rename ((given dto.username).map toLowerCase) ((given dto.email).map toLowerCase)) := by
    unfold updateStatements
    split <;> exact Table.find_modify_self d.users userId (User.rename _ _) fun _ => rfl
  rw [found]
  cases d.users.find userId <;> rfl

/-- What is shown of one row that both databases have. -/
theorem single_iff {β : Type} {f : User → β} {g : β → User} (hg : ∀ u, g (f u) = u) {o₁ o₂ : Option User}
    (found : o₁.map User.erase = o₂.map User.erase) :
    o₁.map f = o₂.map f ↔ o₁.toList.map User.passwordHash = o₂.toList.map User.passwordHash := by
  have erased : o₁.toList.map User.erase = o₂.toList.map User.erase := by
    rw [← Option.toList_map, ← Option.toList_map, found]
  rw [← map_eq_iff hg erased, ← Option.toList_map, ← Option.toList_map]
  cases o₁ <;> cases o₂ <;> simp

/-- The answer of a list, or Prisma's refusal. -/
def listAnswer {β : Type} (reply : List β → UsersReply) (cache : List CacheEntry) (o : Option (List β)) :
    Option (Except UsersError UsersReply × List CacheEntry) :=
  some (match o with
    | none => (.error .fault, cache)
    | some views => (.ok (reply views), cache))

/-- What a list shows. -/
theorem listAnswer_iff {β : Type} {f : User → β} {g : β → User} (hg : ∀ u, g (f u) = u)
    {o₁ o₂ : Option (List User)} (found : o₁.map (List.map User.erase) = o₂.map (List.map User.erase))
    {reply : List β → UsersReply} (tells : Function.Injective reply) (cache : List CacheEntry) :
    listAnswer reply cache (o₁.map (List.map f)) = listAnswer reply cache (o₂.map (List.map f)) ↔
      (o₁.getD []).map User.passwordHash = (o₂.getD []).map User.passwordHash := by
  cases o₁ with
  | none =>
    cases o₂ with
    | none => simp
    | some l => cases found
  | some l =>
    cases o₂ with
    | none => cases found
    | some l' =>
      have rows := map_eq_iff hg (Option.some.inj found)
      simp only [listAnswer, Option.map_some, Option.some_inj, Prod.mk.injEq, Except.ok.injEq, and_true,
        tells.eq_iff, Option.getD_some, rows]

/-- What is seen of a call whose program ends in the outcome. -/
theorem observe_of_alone {α : Type} {d : UsersDb} {op : UsersOp} {p : UsersAction α} {reply : α → UsersReply}
    {o : Outcome UsersDb UsersServices UsersStmt UsersError α}
    (program : op.program = p.bind fun a => .ret (reply a)) (ends : p.alone [] d x = some o) :
    op.observe d x = some (o.result.map reply, o.ext.cache) := by
  unfold UsersOp.observe
  rw [program, alone_bind, ends]
  obtain ⟨result, frames, db, ext⟩ := o
  cases result with
  | error e => rfl
  | ok a =>
    rw [Option.bind_some, Outcome.next]
    dsimp only
    rw [alone_ret]
    rfl

theorem observe_findAll (d : UsersDb) (page limit : Int) (filters : UserFilters) :
    (UsersOp.findAll page limit filters).observe d x =
      listAnswer (fun views => .page ⟨views, page, limit, (d.users.rows.filter filters.holds).length,
          if limit = 0 then none else some (-(Int.fdiv (-(d.users.rows.filter filters.holds).length) limit))⟩)
        x.cache ((listed d (.findAll page limit filters)).map (List.map d.view)) := by
  have ends := alone_findAll (d := d) (x := x) page limit filters
  cases rows : listed d (.findAll page limit filters) with
  | none =>
    rw [rows] at ends
    exact observe_of_alone rfl ends
  | some l =>
    rw [rows] at ends
    exact observe_of_alone rfl ends

theorem observe_searchUsers (d : UsersDb) (query : List Char) (limit : Int) :
    (UsersOp.searchUsers query limit).observe d x =
      listAnswer .users x.cache ((listed d (.searchUsers query limit)).map (List.map d.view)) := by
  have ends := alone_searchUsers (d := d) (x := x) query limit
  cases rows : listed d (.searchUsers query limit) with
  | none =>
    rw [rows] at ends
    exact observe_of_alone rfl ends
  | some l =>
    rw [rows] at ends
    exact observe_of_alone rfl ends

/-- A user with the memberships. -/
def UsersDb.viewRoles (d : UsersDb) (u : User) : UserWithRoles := ⟨u, d.profiles.find u.id, membershipsOf d u⟩

theorem observe_getUsersWithRoles (d : UsersDb) (organizationId : Option Id) :
    (UsersOp.getUsersWithRoles organizationId).observe d x =
      listAnswer .withRoles x.cache ((listed d (.getUsersWithRoles organizationId)).map (List.map d.viewRoles)) :=
  rfl

theorem observe_cachedUser {op : UsersOp} (key : CacheKey) {find : UsersDb → Option User}
    (program : op.program = (cachedUser key find).bind fun value => .ret (.cached value)) (d : UsersDb) :
    op.observe d x = some ((lookedUp d x key (find d)).1.map .cached, (lookedUp d x key (find d)).2.cache) :=
  observe_of_alone program (alone_cachedUser key find)

theorem observe_findByUsername (d : UsersDb) (username : List Char) :
    (UsersOp.findByUsername username).observe d x =
      some (match (d.findByUsername (toLowerCase username)).map d.view with
        | none => .error (.notFound "User not found")
        | some view => .ok (.user view), x.cache) := by
  have ends : (UsersService.findByUsername username).alone [] d x =
      match (d.findByUsername (toLowerCase username)).map d.view with
        | none => some ⟨.error (.notFound "User not found"), [], d, x⟩
        | some view => some ⟨.ok view, [], d, x⟩ := by
    unfold UsersService.findByUsername
    rw [bind_eq, alone_outside]
    cases d.findByUsername (toLowerCase username) <;> rfl
  cases found : (d.findByUsername (toLowerCase username)).map d.view with
  | none =>
    rw [found] at ends
    exact observe_of_alone rfl ends
  | some view =>
    rw [found] at ends
    exact observe_of_alone rfl ends

/-- **Whose hashes a call gives away**: two databases that differ only in password hashes get
different answers, or leave different caches, exactly if a row that the call takes from the
database has different hashes in the two. -/
theorem observe_eq_iff (same : SameButHashes d₁ d₂) (op : UsersOp) :
    op.observe d₁ x = op.observe d₂ x ↔
      (op.shown d₁ x).map User.passwordHash = (op.shown d₂ x).map User.passwordHash := by
  have views : d₁.view = d₂.view := funext same.view
  cases op with
  | findAll page limit filters =>
    have total (d : UsersDb) : (d.users.rows.filter filters.holds).length =
        (d.erase.users.rows.filter filters.holds).length := by
      have erased := filter_erase (p := filters.holds) (fun _ => rfl) d.users.rows
      rw [show d.erase.users.rows = d.users.rows.map User.erase from rfl, erased, List.length_map]
    have total : (d₁.users.rows.filter filters.holds).length = (d₂.users.rows.filter filters.holds).length := by
      rw [total d₁, total d₂, same]
    rw [observe_findAll, observe_findAll, total, views]
    refine listAnswer_iff (g := UserView.user) (fun u => rfl) (same.listed _) ?_ x.cache
    intro l l' h
    exact congrArg Page.data (UsersReply.page.inj h)
  | searchUsers query limit =>
    rw [observe_searchUsers, observe_searchUsers, views]
    exact listAnswer_iff (g := UserView.user) (fun u => rfl) (same.listed _) (fun l l' => UsersReply.users.inj) x.cache
  | getUsersWithRoles organizationId =>
    have roles : d₁.erase.viewRoles = d₂.erase.viewRoles := congrArg UsersDb.viewRoles same
    change d₁.viewRoles = d₂.viewRoles at roles
    rw [observe_getUsersWithRoles, observe_getUsersWithRoles, roles]
    exact listAnswer_iff (g := UserWithRoles.user) (fun u => rfl) (same.listed _)
      (fun l l' => UsersReply.withRoles.inj) x.cache
  | findById id =>
    rw [observe_cachedUser (.profile id) rfl, observe_cachedUser (.profile id) rfl, Option.some_inj, Prod.mk.injEq,
      except_map_inj fun _ _ => UsersReply.cached.inj]
    exact lookedUp_iff same _ (same.find id)
  | findByEmail email =>
    rw [observe_cachedUser (.email (toLowerCase email)) rfl, observe_cachedUser (.email (toLowerCase email)) rfl,
      Option.some_inj, Prod.mk.injEq, except_map_inj fun _ _ => UsersReply.cached.inj]
    exact lookedUp_iff same _ (same.findFirst fun _ => rfl)
  | findByUsername username =>
    have found : (d₁.findByUsername (toLowerCase username)).map User.erase =
        (d₂.findByUsername (toLowerCase username)).map User.erase := same.findFirst fun _ => rfl
    have rows := single_iff (f := d₂.view) (g := UserView.user) (fun _ => rfl) found
    rw [observe_findByUsername, observe_findByUsername, views]
    refine Iff.trans ?_ rows
    cases d₁.findByUsername (toLowerCase username) <;> cases d₂.findByUsername (toLowerCase username) <;> simp
  | updateProfile userId dto =>
    rw [observe_of_alone rfl (alone_updateProfile userId dto), observe_of_alone rfl (alone_updateProfile userId dto)]
    simp only [profileUpdated, UsersOp.shown, same.refusal]
    cases updateRefusal d₂ userId dto with
    | some e => simp
    | none =>
      have shown := lookedUp_iff (x := { x with cache := [] }) (same.updated userId dto) (.profile userId)
        ((same.updated userId dto).find userId)
      dsimp only
      rw [Option.some_inj, Prod.mk.injEq, except_map_inj fun _ _ => UsersReply.profileUpdated.inj,
        except_map_inj (f := Updated.mk "Profile updated successfully") fun _ _ h => congrArg Updated.user h, shown]
      have uncached : ({ x with cache := [] } : UsersServices).cached (.profile userId) = none := rfl
      simp only [uncached, Option.isSome_none, Bool.false_eq_true, if_false, hash_updated]
  | updateStatus userId status =>
    have found := same.find userId
    rw [observe_of_alone rfl (alone_updateStatus userId status), observe_of_alone rfl (alone_updateStatus userId status)]
    simp only [statusUpdated, UsersOp.shown]
    cases h₁ : d₁.users.find userId with
    | none =>
      cases h₂ : d₂.users.find userId with
      | none => simp
      | some v => rw [h₁, h₂] at found; cases found
    | some u =>
      cases h₂ : d₂.users.find userId with
      | none => rw [h₁, h₂] at found; cases found
      | some v =>
        rw [h₁, h₂] at found
        have erased : u.erase = v.erase := Option.some.inj found
        have state : u.erase.status = v.erase.status := by rw [erased]
        change u.status = v.status at state
        dsimp only
        by_cases now : v.status = status
        · simp [now, state]
        · rw [if_neg now, if_neg (state ▸ now), Option.some_inj, Prod.mk.injEq,
            except_map_inj fun _ _ => UsersReply.statusUpdated.inj, Except.ok.injEq, Updated.mk.injEq,
            same.view_status_iff erased]
          simp [now, state]

end Observations

/-- One user, with the given hash. -/
def oneUser (passwordHash : String) : UsersDb where
  users := ⟨[{ id := .ofNat 1, email := "ada@unilag.edu.ng".toList, username := "ada".toList, passwordHash }],
    List.nodup_singleton _⟩
  profiles := ⟨[{ userId := .ofNat 1, firstName := "Ada".toList }], by decide⟩

/-- One call of each kind about the user. -/
def callsAboutAda : List UsersOp :=
  [.findAll 1 10 {}, .findById (.ofNat 1), .findByEmail "ada@unilag.edu.ng".toList, .findByUsername "ada".toList,
    .searchUsers "ada".toList 10, .getUsersWithRoles none, .updateProfile (.ofNat 1) { country := some "NG" },
    .updateStatus (.ofNat 1) .suspended]

/-- Every one of the calls tells the hashes apart. -/
theorem hashes_flow : SameButHashes (oneUser "$2b$10$a") (oneUser "$2b$10$b") ∧ ∀ op ∈ callsAboutAda,
    op.observe (oneUser "$2b$10$a") ({} : UsersServices) ≠ op.observe (oneUser "$2b$10$b") ({} : UsersServices) :=
  ⟨rfl, by decide +kernel⟩

/-- A user who is in the cache is not taken from the database. -/
theorem cached_hash_stays : (UsersOp.findById (.ofNat 1)).observe (oneUser "$2b$10$a")
      { cache := [⟨.profile (.ofNat 1), .other "Ada", []⟩] } =
    (UsersOp.findById (.ofNat 1)).observe (oneUser "$2b$10$b")
      { cache := [⟨.profile (.ofNat 1), .other "Ada", []⟩] } :=
  (observe_eq_iff rfl _).2 rfl

end Heightt.Users
