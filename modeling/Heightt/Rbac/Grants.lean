import Heightt.Rbac.Service
import Heightt.ReadCommitted.InTurn
import Heightt.ReadCommitted.Guarantee

/-!
# Updates of an admin's permissions

An update deletes all permissions of the admin and creates a row for every key that is left, in
a statement of its own. So a permission that the update does not name comes back without its
resource and with another grantor, and what fails after the deletion leaves the admin without
the old ones.
-/

namespace Heightt.Rbac

open Store ReadCommitted Prog Database RbacService

structure PermissionUpdate where
  adminId : String
  permissions : List String
  action : UpdateAction
  userId : String

/-- The unique indexes hold, and the new identifiers are not in use. -/
structure Creatable (d : RbacDb) (newId : Nat → String) : Prop where
  unique : d.adminPermissions.Pairwise fun p q => ¬RbacStmt.Clashes p q
  distinct : newId.Injective
  unused : ∀ p ∈ d.adminPermissions, ∀ i, p.id ≠ newId i

namespace PermissionUpdate

variable (r : PermissionUpdate) (d : RbacDb)

def program (newId : Nat → String) (now : Nat) : RbacAction (List AdminPermission) :=
  updateAdminPermissions r.adminId r.permissions r.action r.userId newId now

/-- The permission keys that the admin has. -/
def existingKeys : List String := (d.permissionsOf r.adminId).map AdminPermission.permissionKey

/-- The update changes what it names: it adds the missing keys, removes the named ones, or leaves
the named ones. -/
def ChangesNamed (d' : RbacDb) : Prop :=
  match r.action with
  | .ADD => ∃ added, (d'.permissionsOf r.adminId).Perm (d.permissionsOf r.adminId ++ added) ∧
      (added.map AdminPermission.permissionKey).Nodup ∧
      ∀ key, key ∈ added.map AdminPermission.permissionKey ↔ key ∈ r.permissions ∧ key ∉ r.existingKeys d
  | .REMOVE => (d'.permissionsOf r.adminId).Perm
      ((d.permissionsOf r.adminId).filter fun p => p.permissionKey ∉ r.permissions)
  | .SET => ∀ key, key ∈ r.existingKeys d' ↔ key ∈ r.permissions
  | .other => d'.adminPermissions = d.adminPermissions

/-- A call that returns changes what it names and nothing of other admins, one that fails changes
nothing. -/
def TouchesNamed (o : Outcome RbacDb RbacCache RbacStmt RbacError (List AdminPermission)) : Prop :=
  match o.result with
  | .ok _ => r.ChangesNamed d o.db ∧
      ∀ p, p.adminId ≠ r.adminId → (p ∈ o.db.adminPermissions ↔ p ∈ d.adminPermissions)
  | .error _ => o.db.adminPermissions = d.adminPermissions

/-- The admin is not there, the caller is no platform admin, or the action is none. -/
def Refused : Prop :=
  d.admins.find r.adminId = none ∨ ¬isPlatformAdmin d r.userId ∨ r.action = .other

/-- The admin has no permissions and gets none. -/
def Idle : Prop := d.permissionsOf r.adminId = [] ∧ (r.action = .REMOVE ∨ r.permissions = [])

/-- The state after the deletion, and after the creation. -/
def cleared : RbacDb := RbacStmt.apply (.deleteAdminPermissions r.adminId) d

def rewritten (newId : Nat → String) (now : Nat) (keys : List String) : RbacDb :=
  RbacStmt.apply (.createAdminPermissions (permissionData r.adminId r.userId newId now keys)) (r.cleared d)

end PermissionUpdate

section

variable {r : PermissionUpdate} {d : RbacDb} {x : RbacCache} {newId : Nat → String} {now : Nat} {keys : List String}

/-! ## The rows that are created -/

theorem mem_permissionData {adminId userId : String} {p : AdminPermission}
    (h : p ∈ permissionData adminId userId newId now keys) :
    p.adminId = adminId ∧ p.resourceId = none ∧ ∃ i, p.id = newId i := by
  obtain ⟨i, -, rfl⟩ := List.mem_mapIdx.1 h
  exact ⟨rfl, rfl, i, rfl⟩

theorem pairwise_permissionData {adminId userId : String} (distinct : newId.Injective) :
    (permissionData adminId userId newId now keys).Pairwise fun p q => ¬RbacStmt.Clashes p q := by
  rw [List.pairwise_iff_getElem]
  intro i j hi hj lt clash
  simp only [permissionData, List.getElem_mapIdx] at clash
  obtain same | ⟨-, -, some_, -⟩ := clash
  · exact absurd (distinct same) (by omega)
  · cases some_

/-- The rows are let through after the deletion. -/
theorem check_create (h : Creatable d newId) (admin : (d.admins.find r.adminId).isSome) :
    check (RbacStmt.createAdminPermissions (permissionData r.adminId r.userId newId now keys)) (r.cleared d) = none := by
  have there : ¬∃ p ∈ permissionData r.adminId r.userId newId now keys, ((r.cleared d).admins.find p.adminId).isNone := by
    rintro ⟨p, hp, gone⟩
    rw [(mem_permissionData hp).1] at gone
    rw [Option.isNone_iff_eq_none] at gone
    rw [show (r.cleared d).admins = d.admins from rfl] at gone
    rw [gone] at admin
    cases admin
  have apart : ((r.cleared d).adminPermissions ++ permissionData r.adminId r.userId newId now keys).Pairwise
      fun p q => ¬RbacStmt.Clashes p q := by
    refine List.pairwise_append.2 ⟨h.unique.sublist List.filter_sublist, pairwise_permissionData h.distinct, ?_⟩
    intro p hp q hq clash
    obtain ⟨-, none_, i, key⟩ := mem_permissionData hq
    obtain same | ⟨-, -, some_, same⟩ := clash
    · exact h.unused p (List.mem_of_mem_filter hp) i (same.trans key)
    · rw [same, none_] at some_
      cases some_
  exact (if_neg there).trans (if_neg (not_not.2 apart))

theorem rewritten_nil (r : PermissionUpdate) (d : RbacDb) : r.rewritten d newId now [] = r.cleared d := by
  simp [PermissionUpdate.rewritten, RbacStmt.apply, permissionData]

/-! ## What a call leaves -/

theorem turns_call (c : CacheCall) :
    Turns (CacheService.call c) d x (fun _ d' _ => d' = d) (fun d' _ => d' = d) :=
  (Turns.request (S := fun _ d' _ => d' = d) (T := fun d' _ => d' = d) rfl rfl rfl).bind
    fun _ _ _ same => .ret same

theorem turns_calls (cs : List CacheCall) :
    Turns (forEach cs CacheService.call) d x (fun _ d' _ => d' = d) (fun d' _ => d' = d) := by
  induction cs generalizing x with
  | nil => exact .ret rfl
  | cons c cs ih =>
    refine (turns_call c).bind fun _ d' x' same => ?_
    subst same
    exact ih

theorem turns_invalidateRbacCache {T : RbacDb → RbacCache → Prop} :
    Turns invalidateRbacCache d x (fun _ d' _ => d' = d) T :=
  (turns_calls _).attempt fun _ _ same => same

theorem turns_getAdminPermissions (adminId : String) :
    Turns (getAdminPermissions adminId) d x (fun _ d' _ => d' = d) (fun d' _ => d' = d) := by
  unfold getAdminPermissions
  have got : Turns (CacheService.get adminId) d x (fun _ d' _ => d' = d) (fun d' _ => d' = d) :=
    Turns.request (R := CacheCall.Reply) (c := .get adminId) (S := fun _ d' _ => d' = d) (T := fun d' _ => d' = d)
      rfl rfl rfl
  refine got.bind fun cached d' x' same => ?_
  subst same
  cases cached with
  | some a => exact .ret rfl
  | none =>
    refine .outside_bind rfl (.orThrow_bind rfl fun a _ => ?_)
    exact (turns_call _).bind fun _ _ _ same => .ret same

/-- A call that is let through leaves the rows that it creates, or has not come that far. -/
theorem turns_program (known : newKeys (r.existingKeys d) r.permissions r.action = some keys) :
    Turns (r.program newId now) d x (fun _ d' _ => d' = r.rewritten d newId now keys)
      (fun d' _ => d' = d ∨ d' = r.cleared d ∨ d' = r.rewritten d newId now keys) := by
  unfold PermissionUpdate.program updateAdminPermissions
  refine .outside_bind (.inl rfl) (.orThrow_bind (.inl rfl) fun admin _ => ?_)
  refine .outside_bind (.inl rfl) (.ensure_bind (.inl rfl) fun _ => ?_)
  refine .outside_bind (.inl rfl) (.orThrow_bind (.inl rfl) fun keys' same => ?_)
  obtain rfl : keys' = keys := Option.some.inj (same.symm.trans known)
  have deleted : Turns (statement (.deleteAdminPermissions r.adminId) : RbacAction Unit) d x
      (fun _ d' _ => d' = r.cleared d) (fun d' _ => d' = d ∨ d' = r.cleared d ∨ d' = r.rewritten d newId now keys') :=
    .statement (fun _ => rfl) (.inl rfl)
  refine deleted.bind fun _ d₁ x₁ same₁ => ?_
  subst same₁
  have created : Turns (when (keys'.length > 0) (statement (.createAdminPermissions
      (permissionData r.adminId r.userId newId now keys'))) : RbacAction Unit) (r.cleared d) x₁
      (fun _ d' _ => d' = r.rewritten d newId now keys')
      (fun d' _ => d' = d ∨ d' = r.cleared d ∨ d' = r.rewritten d newId now keys') := by
    refine .when (fun _ => .statement (fun _ => rfl) (.inr (.inl rfl))) fun none_ => ?_
    obtain rfl : keys' = [] := by simpa using none_
    exact (rewritten_nil r d).symm
  refine created.bind fun _ d₂ x₂ same₂ => ?_
  subst same₂
  refine turns_invalidateRbacCache.bind fun _ d₃ x₃ same₃ => ?_
  subst same₃
  exact (turns_getAdminPermissions r.adminId).mono (fun _ _ _ same => same) fun _ _ same => .inr (.inr same)

/-- A call that is refused changes nothing and does not return. -/
theorem turns_refused (h : r.Refused d) :
    Turns (r.program newId now) d x (fun _ _ _ => False) (fun d' _ => d' = d) := by
  unfold PermissionUpdate.program updateAdminPermissions
  refine .outside_bind rfl (.orThrow_bind rfl fun admin found => ?_)
  refine .outside_bind rfl (.ensure_bind rfl fun platform => ?_)
  refine .outside_bind rfl (.orThrow_bind rfl fun keys known => ?_)
  obtain gone | other | other := h
  · rw [gone] at found
    cases found
  · exact absurd (of_decide_eq_true platform) other
  · rw [other] at known
    cases known

/-- The cache answers every call. -/
theorem alone_calls (cs : List CacheCall) :
    ∃ x', (forEach cs CacheService.call).alone [] d x = some ⟨.ok (), [], d, x'⟩ := by
  induction cs generalizing x with
  | nil => exact ⟨x, rfl⟩
  | cons c cs ih =>
    obtain ⟨x', rest⟩ := ih (x := (External.handle c x).1)
    exact ⟨x', rest⟩

theorem alone_invalidateRbacCache : ∃ x', invalidateRbacCache.alone [] d x = some ⟨.ok (), [], d, x'⟩ := by
  obtain ⟨x', rest⟩ := alone_calls (d := d) (x := x) _
  refine ⟨x', ?_⟩
  rw [invalidateRbacCache, attempt, alone_onThrow, rest]
  rfl

/-- A call that is let through may fail after it has written everything. -/
theorem ends_late (h : Creatable d newId) (allowed : ¬r.Refused d)
    (known : newKeys (r.existingKeys d) r.permissions r.action = some keys) :
    ∃ x', (r.program newId now).Ends [] d x ⟨.error .fault, [], r.rewritten d newId now keys, x'⟩ := by
  unfold PermissionUpdate.Refused at allowed
  push Not at allowed
  obtain ⟨found, platform, -⟩ := allowed
  obtain ⟨a, ha⟩ := Option.ne_none_iff_exists'.1 found
  have deleted : (statement (.deleteAdminPermissions r.adminId) : RbacAction Unit).alone [] d x =
      some ⟨.ok (), [], r.cleared d, x⟩ := by
    rw [← Prog.bind_ret (statement _), alone_statement]
    rfl
  have created : (when (keys.length > 0) (statement (.createAdminPermissions
      (permissionData r.adminId r.userId newId now keys))) : RbacAction Unit).alone [] (r.cleared d) x =
        some ⟨.ok (), [], r.rewritten d newId now keys, x⟩ := by
    unfold when
    split
    · rw [← Prog.bind_ret (statement _), alone_statement, check_create h (by rw [ha]; rfl)]
      rfl
    · rename_i none_
      obtain rfl : keys = [] := by simpa using none_
      rw [rewritten_nil]
      rfl
  obtain ⟨x', invalidated⟩ := alone_invalidateRbacCache (d := r.rewritten d newId now keys) (x := x)
  refine ⟨x', ?_⟩
  unfold PermissionUpdate.program updateAdminPermissions
  refine ends_outside_bind (ends_bind_of_alone (a := a) (by rw [ha]; rfl) ?_)
  refine ends_outside_bind (ends_bind_of_alone (a := ()) (by rw [ensure, if_pos (decide_eq_true platform)]; rfl) ?_)
  refine ends_outside_bind (ends_bind_of_alone (a := keys) (congrArg (fun o => (orThrow o _).alone [] d x) known) ?_)
  refine ends_bind_of_alone deleted (ends_bind_of_alone created (ends_bind_of_alone invalidated ?_))
  -- the cache does not answer
  exact .inr (.inr ⟨.fault, rfl⟩)

/-! ## When an update touches only what it names -/

/-- Where the admin has no permissions, there is nothing to delete. -/
theorem cleared_of_none (none_ : d.permissionsOf r.adminId = []) :
    (r.cleared d).adminPermissions = d.adminPermissions := by
  refine List.filter_eq_self.2 fun p hp => ?_
  simpa using List.filter_eq_nil_iff.1 none_ p hp

/-- No keys are left for an idle update. -/
theorem newKeys_of_idle (h : r.Idle d) (allowed : r.action ≠ .other) :
    newKeys (r.existingKeys d) r.permissions r.action = some [] := by
  obtain ⟨none_, nothing⟩ := h
  have existing : r.existingKeys d = [] := by rw [PermissionUpdate.existingKeys, none_, List.map_nil]
  rw [existing]
  cases action : r.action with
  | ADD =>
    obtain remove | empty := nothing
    · rw [action] at remove
      cases remove
    · rw [empty]
      rfl
  | REMOVE => rfl
  | SET =>
    obtain remove | empty := nothing
    · rw [action] at remove
      cases remove
    · rw [empty]
      rfl
  | other => exact absurd action allowed

/-- Only an idle update leaves the rows as they were. -/
theorem idle_of_same (h : Creatable d newId)
    (known : newKeys (r.existingKeys d) r.permissions r.action = some keys)
    (same : (r.rewritten d newId now keys).adminPermissions = d.adminPermissions) : r.Idle d := by
  have rows : d.adminPermissions.filter (fun p => p.adminId ≠ r.adminId) ++
      permissionData r.adminId r.userId newId now keys = d.adminPermissions := same
  have none_ : keys = [] := by
    by_contra some_
    obtain ⟨p, hp⟩ := List.exists_mem_of_ne_nil (permissionData r.adminId r.userId newId now keys)
      (by simpa [permissionData] using some_)
    obtain ⟨-, -, i, key⟩ := mem_permissionData hp
    exact h.unused p (rows ▸ List.mem_append_right _ hp) i key
  subst none_
  have nothing : d.permissionsOf r.adminId = [] := by
    refine List.filter_eq_nil_iff.2 fun p hp => ?_
    rw [← rows, permissionData, List.mapIdx_nil, List.append_nil] at hp
    simpa using (List.mem_filter.1 hp).2
  refine ⟨nothing, ?_⟩
  have existing : r.existingKeys d = [] := by rw [PermissionUpdate.existingKeys, nothing, List.map_nil]
  rw [existing] at known
  cases action : r.action with
  | ADD =>
    rw [action] at known
    refine .inr (List.eq_nil_iff_forall_not_mem.2 fun key hk => ?_)
    have empty := Option.some.inj known
    have mem : key ∈ ([] ++ r.permissions).eraseDups := List.mem_eraseDups.2 hk
    rw [empty] at mem
    cases mem
  | REMOVE => exact .inl rfl
  | SET =>
    rw [action] at known
    exact .inr (Option.some.inj known)
  | other =>
    rw [action] at known
    cases known

/-- What an idle update leaves is what it names. -/
theorem changesNamed_of_idle (h : r.Idle d) {d' : RbacDb} (same : d'.adminPermissions = d.adminPermissions) :
    r.ChangesNamed d d' := by
  have none_ := h.1
  have none' : d'.permissionsOf r.adminId = [] := by rw [RbacDb.permissionsOf, same]; exact none_
  unfold PermissionUpdate.ChangesNamed
  cases action : r.action with
  | ADD =>
    have empty : r.permissions = [] := h.2.resolve_left (by simp [action])
    exact ⟨[], by rw [none', none_]; exact .refl _, List.nodup_nil, fun key => by simp [empty]⟩
  | REMOVE => simp [none', none_]
  | SET =>
    have empty : r.permissions = [] := h.2.resolve_left (by simp [action])
    simp [PermissionUpdate.existingKeys, none', empty]
  | other => exact same

/-- An update touches only what it names, whatever fails, where it is refused or idle. -/
theorem touchesNamed_iff (h : Creatable d newId) :
    (∀ o, (r.program newId now).Ends [] d x o → r.TouchesNamed d o) ↔ r.Refused d ∨ r.Idle d := by
  constructor
  · intro touches
    by_cases refused : r.Refused d
    · exact .inl refused
    · have allowed : r.action ≠ .other := fun other => refused (.inr (.inr other))
      obtain ⟨keys, known⟩ : ∃ keys, newKeys (r.existingKeys d) r.permissions r.action = some keys := by
        cases action : r.action with
        | ADD | REMOVE | SET => exact ⟨_, rfl⟩
        | other => exact absurd action allowed
      have late : ∃ x', (r.program newId now).Ends [] d x ⟨.error .fault, [], r.rewritten d newId now keys, x'⟩ :=
        ends_late h refused known
      obtain ⟨x', late⟩ := late
      exact .inr (idle_of_same h known (touches _ late))
  · intro holds o ends
    unfold PermissionUpdate.TouchesNamed
    by_cases refused : r.Refused d
    · obtain ⟨-, post⟩ := turns_refused refused o ends
      split
      · rename_i a returned
        rw [returned] at post
        exact post.elim
      · rename_i e failed
        rw [failed] at post
        exact congrArg RbacDb.adminPermissions post
    · have idle := holds.resolve_left refused
      have known := newKeys_of_idle idle fun other => refused (.inr (.inr other))
      have same := cleared_of_none idle.1
      obtain ⟨-, post⟩ := turns_program known o ends
      rw [rewritten_nil] at post
      split
      · rename_i a returned
        rw [returned] at post
        have left : o.db.adminPermissions = d.adminPermissions := (congrArg RbacDb.adminPermissions post).trans same
        exact ⟨changesNamed_of_idle idle left, fun p _ => by rw [left]⟩
      · rename_i e failed
        rw [failed] at post
        obtain before | after | after := post
        · rw [before]
        · rw [after, same]
        · rw [after, same]

/-- The keys after an update that returns. -/
theorem existingKeys_rewritten : r.existingKeys (r.rewritten d newId now keys) = keys := by
  have gone : (d.adminPermissions.filter fun p => p.adminId ≠ r.adminId).filter (fun p => p.adminId = r.adminId) = [] := by
    refine List.filter_eq_nil_iff.2 fun p hp => ?_
    simpa using (List.mem_filter.1 hp).2
  have own : (permissionData r.adminId r.userId newId now keys).filter (fun p => p.adminId = r.adminId) =
      permissionData r.adminId r.userId newId now keys :=
    List.filter_eq_self.2 fun p hp => by simp [(mem_permissionData hp).1]
  have rows : (r.rewritten d newId now keys).permissionsOf r.adminId =
      permissionData r.adminId r.userId newId now keys := by
    refine (List.filter_append ..).trans ?_
    rw [own]
    exact congrArg (· ++ permissionData r.adminId r.userId newId now keys) gone
  rw [PermissionUpdate.existingKeys, rows, permissionData]
  refine List.ext_getElem (by simp) fun i hi _ => ?_
  simp

end

/-! ## An update that loses a resource -/

/-- A platform admin, and a treasurer who may read the finances of one organization. -/
def treasury : RbacDb where
  users := ["root", "ada"]
  admins := (Store.Table.empty.insert { id := "a1", userId := "root", adminType := .platformAdmin }).insert
    { id := "a2", userId := "ada", adminType := .organizationAdmin, organizationId := some "o1" }
  adminPermissions := [
    { id := "p1", adminId := "a2", permissionKey := "finance:read", permissionCategory := .finance,
      permissionAction := .read, resourceId := some "o1", grantedBy := some "dean", grantedAt := 1 }]

/-- A permission that the treasurer does not have is removed. -/
def removal : PermissionUpdate where
  adminId := "a2"
  permissions := ["student:read"]
  action := .REMOVE
  userId := "root"

def newRowId (i : Nat) : String := String.ofList ('n' :: List.replicate i '0')

theorem creatable_treasury : Creatable treasury newRowId where
  unique := List.pairwise_singleton _ _
  distinct i j same := by
    have := congrArg String.length same
    simpa [newRowId] using this
  unused p hp i same := by
    rw [List.mem_singleton.1 hp] at same
    have := congrArg (fun s => s.toList.head?) same
    simp [newRowId] at this

theorem touchesNamed_treasury : (∀ o, (removal.program newRowId 2).Ends [] treasury {} o →
    removal.TouchesNamed treasury o) ↔ removal.Refused treasury ∨ removal.Idle treasury :=
  touchesNamed_iff creatable_treasury

/-- What the removal leaves. -/
def unscoped : AdminPermission where
  id := "n"
  adminId := "a2"
  permissionKey := "finance:read"
  permissionCategory := .system
  permissionAction := .manage
  grantedBy := some "root"
  grantedAt := 2

/-- The permission comes back without its resource. -/
theorem resource_lost :
    ¬∀ o, (removal.program newRowId 2).Ends [] treasury {} o → removal.TouchesNamed treasury o := by
  intro touches
  have run : (removal.program newRowId 2).alone [] treasury ({} : RbacCache) =
      some ⟨.ok [unscoped], [], { treasury with adminPermissions := [unscoped] }, ⟨[("a2", [unscoped])]⟩⟩ := rfl
  have named : removal.ChangesNamed treasury { treasury with adminPermissions := [unscoped] } :=
    (touches _ (ends_of_alone run)).1
  have same := List.perm_singleton.1 (show List.Perm [unscoped] _ from named).symm
  exact absurd same (by decide)

end Heightt.Rbac
