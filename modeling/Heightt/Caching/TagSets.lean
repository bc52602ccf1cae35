import Heightt.Machines

/-!
# Tags of cached values

`setWithTag` and `invalidateByTag` of `cache.service.ts`, command by command, on a Redis that
other calls use at the same time. A value and its entries in the sets of its tags are written by
different commands, and an invalidation reads a set, unlinks the values and drops the set.
`DropsIdle` leaves out the moment at which it drops a set that lists a value stored after the
unlinking: such a value stays, and no later invalidation finds it.
-/

namespace Heightt.TagCache

open Machines

/-- A stored value, with the call that stored it and the tags of that call. -/
structure Entry where
  key : String
  value : String
  call : Nat
  tags : List String
  deriving DecidableEq

structure Redis where
  values : List Entry := []
  /-- The keys in the set of each tag. -/
  tagSets : List (String × String) := []
  /-- The tags in the set of each key. -/
  tagKeys : List (String × String) := []

inductive CacheOp where
  | setWithTag (key value : String) (tags : List String)
  | delete (key : String)
  | invalidateByTag (tag : String)
  deriving DecidableEq

/-- The command that a call sends next. -/
inductive Phase where
  | setting (key value : String) (tags : List String)
  | taggingKey (key : String) (tags : List String)
  | tagging (key : String) (tags : List String)
  | deleting (key : String)
  | reading (tag : String)
  | unlinking (tag : String) (keys : List String)
  | unlinkingTagKeys (tag : String) (keys : List String)
  | dropping (tag : String)
  | done
  | failed
  deriving DecidableEq

/-- A call, with the calls that were done when it began. -/
structure Call where
  op : CacheOp
  phase : Phase
  seen : List Nat
  deriving DecidableEq

structure Cache extends Redis where
  calls : List Call := []

inductive Action where
  | begin (op : CacheOp)
  | command (i : Nat)
  | expire (key : String)

namespace Redis

variable (r : Redis)

def set (e : Entry) : Redis := { r with values := e :: r.values.filter fun e' => e'.key ≠ e.key }

def unlink (keys : List String) : Redis := { r with values := r.values.filter fun e => e.key ∉ keys }

def addTag (tag key : String) : Redis := { r with tagSets := (tag, key) :: r.tagSets }

def addTagKeys (key : String) (tags : List String) : Redis :=
  { r with tagKeys := (tags.map fun tag => (key, tag)) ++ r.tagKeys }

def unlinkTagKey (key : String) : Redis := { r with tagKeys := r.tagKeys.filter fun p => p.1 ≠ key }

def dropTagSet (tag : String) : Redis := { r with tagSets := r.tagSets.filter fun p => p.1 ≠ tag }

def members (tag : String) : List String := (r.tagSets.filter fun p => p.1 = tag).map Prod.snd

end Redis

def CacheOp.first : CacheOp → Phase
  | setWithTag key value tags => .setting key value tags
  | delete key => .deleting key
  | invalidateByTag tag => .reading tag

def Phase.tagNext (key : String) : List String → Phase
  | [] => .done
  | tags => .tagging key tags

def Phase.unlinkNext (tag : String) : List String → Phase
  | [] => .dropping tag
  | keys => .unlinkingTagKeys tag keys

/-- The command of call `i`, and what it sends then. `SADD` without members is an error. -/
def command (i : Nat) : Phase → Redis → Option (Redis × Phase)
  | .setting key value tags, r => some (r.set ⟨key, value, i, tags⟩, .taggingKey key tags)
  | .taggingKey _ [], r => some (r, .failed)
  | .taggingKey key (tag :: tags), r => some (r.addTagKeys key (tag :: tags), .tagging key (tag :: tags))
  | .tagging _ [], _ => none
  | .tagging key (tag :: tags), r => some (r.addTag tag key, .tagNext key tags)
  | .deleting key, r => some (r.unlink [key], .done)
  | .reading tag, r =>
    some (r, if r.members tag = [] then .dropping tag else .unlinking tag (r.members tag))
  | .unlinking tag keys, r => some (r.unlink keys, .unlinkNext tag keys)
  | .unlinkingTagKeys _ [], _ => none
  | .unlinkingTagKeys tag (key :: keys), r => some (r.unlinkTagKey key, .unlinkNext tag keys)
  | .dropping tag, r => some (r.dropTagSet tag, .done)
  | .done, _ | .failed, _ => none

namespace Cache

variable (s : Cache)

/-- The calls that are done. -/
def completed : List Nat := (List.range s.calls.length).filter fun i => s.calls[i]?.any fun c => c.phase = .done

def step : Action → Cache → Option Cache
  | .begin op, s => some { s with calls := s.calls ++ [⟨op, op.first, s.completed⟩] }
  | .command i, s => do
    let c ← s.calls[i]?
    let (redis, phase) ← command i c.phase s.toRedis
    some { toRedis := redis, calls := s.calls.set i { c with phase } }
  | .expire key, s => some { s with toRedis := s.unlink [key] }

/-- No call is in progress. -/
def Quiet : Prop := ∀ c ∈ s.calls, c.phase = .done ∨ c.phase = .failed

instance : Decidable s.Quiet := inferInstanceAs (Decidable (∀ c ∈ s.calls, _))

/-- When no call is in progress the tag sets list every value, and what was stored with a tag
before an invalidation began is gone when it has ended. -/
structure Tagged : Prop where
  listed : s.Quiet → ∀ e ∈ s.values, ∀ tag ∈ e.tags, (tag, e.key) ∈ s.tagSets
  invalidated : ∀ c ∈ s.calls, ∀ tag, c.op = .invalidateByTag tag → c.phase = .done →
    ∀ e ∈ s.values, tag ∈ e.tags → e.call ∉ c.seen

/-- A set that an invalidation drops lists no value that is stored with its tag. -/
def DropsIdle : Action → Prop
  | .command i => match s.calls[i]?.map Call.phase with
    | some (.dropping tag) => ∀ e ∈ s.values, tag ∈ e.tags → (tag, e.key) ∉ s.tagSets
    | _ => True
  | _ => True

instance (a : Action) : Decidable (s.DropsIdle a) := by
  unfold DropsIdle
  cases a with
  | command i =>
    dsimp only
    split
    · rename_i tag _
      exact decidable_of_iff (∀ e ∈ s.values, e.tags.contains tag → s.tagSets.contains (tag, e.key) = false) (by simp)
    · infer_instance
  | «begin» | expire => exact inferInstanceAs (Decidable True)

end Cache

/-! ## What every step keeps -/

/-- The entries of tag sets that a call is still to write. -/
def Phase.pending : Phase → List (String × String)
  | .taggingKey key tags | .tagging key tags => tags.map fun tag => (tag, key)
  | _ => []

/-- What is still stored of the values that an invalidation has to remove. -/
def Phase.Leaves (key : String) : Phase → Prop
  | .reading _ => True
  | .unlinking _ keys => key ∈ keys
  | _ => False

/-- An invalidation leaves of the values with its tag, stored before it began, only those it is
still to unlink. -/
def Call.Removes (c : Call) (values : List Entry) : Prop :=
  ∀ tag, c.op = .invalidateByTag tag → ∀ e ∈ values, tag ∈ e.tags → e.call ∈ c.seen → c.phase.Leaves e.key

structure Kept (s : Cache) : Prop where
  listed : ∀ e ∈ s.values, ∀ tag ∈ e.tags, (tag, e.key) ∈ s.tagSets ∨
    ∃ c, s.calls[e.call]? = some c ∧ (tag, e.key) ∈ c.phase.pending
  seen : ∀ c ∈ s.calls, ∀ j ∈ c.seen, ∃ c', s.calls[j]? = some c' ∧ c'.phase = .done
  reads : ∀ c ∈ s.calls, ∀ tag tag', c.op = .invalidateByTag tag → c.phase = .reading tag' → tag' = tag
  removes : ∀ c ∈ s.calls, c.Removes s.values

/-- A value that was stored before an invalidation began is listed. -/
theorem Kept.listed_of_seen {s : Cache} (h : Kept s) {c : Call} (hc : c ∈ s.calls) {e : Entry} (he : e ∈ s.values)
    (before : e.call ∈ c.seen) {tag : String} (ht : tag ∈ e.tags) : (tag, e.key) ∈ s.tagSets := by
  obtain listed | ⟨c', hc', pending⟩ := h.listed e he tag ht
  · exact listed
  · obtain ⟨c'', hc'', done⟩ := h.seen c hc e.call before
    obtain rfl : c' = c'' := Option.some.inj (hc'.symm.trans hc'')
    rw [done] at pending
    cases pending

/-- The command of a call that is not done. -/
theorem Kept.advance {s : Cache} (h : Kept s) {i : Nat} {c : Call} (hc : s.calls[i]? = some c)
    (running : c.phase ≠ .done) {r : Redis} {phase : Phase}
    (values : ∀ e ∈ r.values, e ∈ s.values ∨ e.call = i ∧ ∀ tag ∈ e.tags, (tag, e.key) ∈ phase.pending)
    (tagSets : ∀ e ∈ s.values, ∀ tag ∈ e.tags, (tag, e.key) ∈ s.tagSets → (tag, e.key) ∈ r.tagSets)
    (pending : ∀ p ∈ c.phase.pending, p ∈ r.tagSets ∨ p ∈ phase.pending)
    (reads : ∀ tag, phase ≠ .reading tag)
    (removes : ∀ tag, c.op = .invalidateByTag tag → ∀ e ∈ r.values, e ∈ s.values → tag ∈ e.tags →
      e.call ∈ c.seen → phase.Leaves e.key) :
    Kept { toRedis := r, calls := s.calls.set i { c with phase } } := by
  have mem := List.mem_of_getElem? hc
  have here : (s.calls.set i { c with phase })[i]? = some { c with phase } :=
    List.getElem?_set_self (List.getElem?_eq_some_iff.1 hc).1
  have there {j : Nat} (own : j = i) : (s.calls.set i { c with phase })[j]? = some { c with phase } := by
    rw [own]
    exact here
  have elsewhere {j : Nat} (other : j ≠ i) : (s.calls.set i { c with phase })[j]? = s.calls[j]? :=
    List.getElem?_set_ne (Ne.symm other)
  have unfinished {c' : Call} (hc' : c' ∈ s.calls) : i ∉ c'.seen := by
    intro before
    obtain ⟨c'', hc'', done⟩ := h.seen c' hc' i before
    obtain rfl : c = c'' := Option.some.inj (hc.symm.trans hc'')
    exact running done
  -- a call after the step is the one that advances, or was there before
  have calls {c' : Call} (hc' : c' ∈ s.calls.set i { c with phase }) : c' ∈ s.calls ∨ c' = { c with phase } :=
    List.mem_or_eq_of_mem_set hc'
  constructor
  · intro e he tag ht
    obtain old | ⟨own, all⟩ := values e he
    · obtain listed | ⟨c', hc', waits⟩ := h.listed e old tag ht
      · exact .inl (tagSets e old tag ht listed)
      · by_cases own : e.call = i
        · rw [own] at hc'
          obtain rfl : c = c' := Option.some.inj (hc.symm.trans hc')
          exact (pending _ waits).imp id fun waits => ⟨{ c with phase }, there own, waits⟩
        · exact .inr ⟨c', (elsewhere own).trans hc', waits⟩
    · exact .inr ⟨{ c with phase }, there own, all tag ht⟩
  · intro c' hc' j hj
    have before : ∃ c₀ ∈ s.calls, c₀.seen = c'.seen := by
      obtain old | rfl := calls hc'
      · exact ⟨c', old, rfl⟩
      · exact ⟨c, mem, rfl⟩
    obtain ⟨c₀, hc₀, same⟩ := before
    obtain ⟨c₁, hc₁, done⟩ := h.seen c₀ hc₀ j (same ▸ hj)
    have other : j ≠ i := fun same' => unfinished hc₀ (same' ▸ same ▸ hj)
    exact ⟨c₁, (elsewhere other).trans hc₁, done⟩
  · intro c' hc' tag tag' op reading
    obtain old | rfl := calls hc'
    · exact h.reads c' old tag tag' op reading
    · exact absurd reading (reads tag')
  · intro c' hc' tag op e he ht before
    obtain old | rfl := calls hc'
    · obtain stored | ⟨own, -⟩ := values e he
      · exact h.removes c' old tag op e stored ht before
      · exact absurd (own ▸ before) (unfinished old)
    · obtain stored | ⟨own, -⟩ := values e he
      · exact removes tag op e he stored ht before
      · exact absurd (own ▸ before) (unfinished mem)

theorem mem_members {r : Redis} {tag key : String} : key ∈ r.members tag ↔ (tag, key) ∈ r.tagSets := by
  rw [Redis.members, List.mem_map]
  constructor
  · rintro ⟨⟨tag', key'⟩, hp, rfl⟩
    obtain ⟨mem, same⟩ := List.mem_filter.1 hp
    rw [← of_decide_eq_true same]
    exact mem
  · intro mem
    exact ⟨(tag, key), List.mem_filter.2 ⟨mem, decide_eq_true rfl⟩, rfl⟩

theorem pending_tagNext (key : String) (tags : List String) :
    (Phase.tagNext key tags).pending = tags.map fun tag => (tag, key) := by
  cases tags <;> rfl

theorem Kept.command {s : Cache} (h : Kept s) {i : Nat} {c : Call} (hc : s.calls[i]? = some c)
    (idle : s.DropsIdle (.command i)) {r : Redis} {phase : Phase}
    (sent : TagCache.command i c.phase s.toRedis = some (r, phase)) :
    Kept { toRedis := r, calls := s.calls.set i { c with phase } } := by
  have mem := List.mem_of_getElem? hc
  have left := h.removes c mem
  have running : c.phase ≠ .done := by
    intro done
    rw [done] at sent
    cases sent
  unfold Call.Removes at left
  cases now : c.phase with
  | setting key value tags =>
    rw [now] at sent left
    cases sent
    refine h.advance hc running (fun e he => ?_) (fun _ _ _ _ listed => listed) (by simp [now, Phase.pending])
      (fun _ => Phase.noConfusion) fun tag op e _ stored => left tag op e stored
    obtain rfl | he := List.mem_cons.1 he
    · exact .inr ⟨rfl, fun tag ht => List.mem_map_of_mem ht⟩
    · exact .inl (List.mem_filter.1 he).1
  | taggingKey key tags =>
    rw [now] at sent left
    cases tags with
    | nil =>
      cases sent
      exact h.advance hc running (fun _ he => .inl he) (fun _ _ _ _ listed => listed) (by simp [now, Phase.pending])
        (fun _ => Phase.noConfusion) fun tag op e _ stored => left tag op e stored
    | cons tag tags =>
      cases sent
      refine h.advance hc running (fun _ he => .inl he) (fun _ _ _ _ listed => listed) (fun p hp => ?_)
        (fun _ => Phase.noConfusion) fun tag op e _ stored => left tag op e stored
      rw [now] at hp
      exact .inr hp
  | tagging key tags =>
    rw [now] at sent left
    cases tags with
    | nil => cases sent
    | cons tag tags =>
      cases sent
      refine h.advance hc running (fun _ he => .inl he) (fun _ _ _ _ listed => List.mem_cons_of_mem _ listed)
        (fun p hp => ?_) (fun tag' => ?_) fun tag op e _ stored ht before => (left tag op e stored ht before).elim
      · rw [now] at hp
        rw [pending_tagNext]
        obtain rfl | hp := List.mem_cons.1 hp
        · exact .inl List.mem_cons_self
        · exact .inr hp
      · cases tags <;> exact Phase.noConfusion
  | deleting key =>
    rw [now] at sent left
    cases sent
    exact h.advance hc running (fun _ he => .inl (List.mem_filter.1 he).1) (fun _ _ _ _ listed => listed)
      (by simp [now, Phase.pending]) (fun _ => Phase.noConfusion) fun tag op e _ stored => left tag op e stored
  | reading tag =>
    rw [now] at sent
    cases sent
    refine h.advance hc running (fun _ he => .inl he) (fun _ _ _ _ listed => listed) (by simp [now, Phase.pending])
      (fun tag' => ?_) fun tag' op e _ stored ht before => ?_
    · split <;> exact Phase.noConfusion
    · obtain rfl := h.reads c mem tag' tag op now
      have listed := mem_members.2 (h.listed_of_seen mem stored before ht)
      split
      · rename_i none_
        rw [none_] at listed
        cases listed
      · exact listed
  | unlinking tag keys =>
    rw [now] at sent left
    cases sent
    refine h.advance hc running (fun _ he => .inl (List.mem_filter.1 he).1) (fun _ _ _ _ listed => listed)
      (by simp [now, Phase.pending]) (fun tag' => ?_) fun tag op e he stored ht before => ?_
    · cases keys <;> exact Phase.noConfusion
    · have other : e.key ∉ keys := of_decide_eq_true (List.mem_filter.1 he).2
      exact absurd (left tag op e stored ht before) other
  | unlinkingTagKeys tag keys =>
    rw [now] at sent left
    cases keys with
    | nil => cases sent
    | cons key keys =>
      cases sent
      refine h.advance hc running (fun _ he => .inl he) (fun _ _ _ _ listed => listed) (by simp [now, Phase.pending])
        (fun tag' => ?_) fun tag op e _ stored ht before => (left tag op e stored ht before).elim
      cases keys <;> exact Phase.noConfusion
  | dropping tag =>
    rw [now] at sent left
    cases sent
    refine h.advance hc running (fun _ he => .inl he) (fun e he tag' ht listed => ?_) (by simp [now, Phase.pending])
      (fun _ => Phase.noConfusion) fun tag op e _ stored => left tag op e stored
    refine List.mem_filter.2 ⟨listed, decide_eq_true fun same => ?_⟩
    obtain rfl : tag' = tag := same
    simp only [Cache.DropsIdle, hc, Option.map_some, now] at idle
    exact idle e he ht listed
  | done | failed =>
    rw [now] at sent
    cases sent

theorem mem_completed {s : Cache} {i : Nat} (h : i ∈ s.completed) : ∃ c, s.calls[i]? = some c ∧ c.phase = .done := by
  obtain ⟨c, hc, done⟩ := (Option.any_eq_true _ _).1 (List.mem_filter.1 h).2
  exact ⟨c, hc, of_decide_eq_true done⟩

theorem Kept.begin {s : Cache} (h : Kept s) (op : CacheOp) :
    Kept { s with calls := s.calls ++ [⟨op, op.first, s.completed⟩] } := by
  have still {j : Nat} {c : Call} (hc : s.calls[j]? = some c) :
      (s.calls ++ [⟨op, op.first, s.completed⟩])[j]? = some c :=
    (List.getElem?_append_left (List.getElem?_eq_some_iff.1 hc).1).trans hc
  constructor
  · intro e he tag ht
    exact (h.listed e he tag ht).imp id fun waits => by
      obtain ⟨c, hc, waits⟩ := waits
      exact ⟨c, still hc, waits⟩
  · intro c hc j hj
    have before : ∃ c', s.calls[j]? = some c' ∧ c'.phase = .done := by
      obtain old | new := List.mem_append.1 hc
      · exact h.seen c old j hj
      · rw [List.mem_singleton.1 new] at hj
        exact mem_completed hj
    obtain ⟨c', hc', done⟩ := before
    exact ⟨c', still hc', done⟩
  · intro c hc tag tag' op' reading
    obtain old | new := List.mem_append.1 hc
    · exact h.reads c old tag tag' op' reading
    · rw [List.mem_singleton.1 new] at op' reading
      obtain rfl : op = .invalidateByTag tag := op'
      cases reading
      rfl
  · intro c hc tag op' e he ht before
    obtain old | new := List.mem_append.1 hc
    · exact h.removes c old tag op' e he ht before
    · rw [List.mem_singleton.1 new] at op' ⊢
      obtain rfl : op = .invalidateByTag tag := op'
      exact trivial

theorem Kept.expire {s : Cache} (h : Kept s) (key : String) : Kept { s with toRedis := s.unlink [key] } where
  listed e he := h.listed e (List.mem_filter.1 he).1
  seen := h.seen
  reads := h.reads
  removes c hc tag op e he := h.removes c hc tag op e (List.mem_filter.1 he).1

/-- A step keeps the entries of the tag sets unless it drops a set that is in use. -/
theorem Kept.step {s s' : Cache} {a : Action} (h : Kept s) (idle : s.DropsIdle a) (stepped : Cache.step a s = some s') :
    Kept s' := by
  cases a with
  | «begin» op =>
    cases stepped
    exact h.begin op
  | command i =>
    simp only [Cache.step, Option.bind_eq_bind, Option.bind_eq_some_iff] at stepped
    obtain ⟨c, hc, ⟨r, phase⟩, sent, same⟩ := stepped
    cases same
    exact h.command hc idle sent
  | expire key =>
    cases stepped
    exact h.expire key

/-- What the steps keep says that the tag sets are right and the invalidations thorough. -/
theorem Kept.tagged {s : Cache} (h : Kept s) : s.Tagged where
  listed := by
    intro quiet e he tag ht
    obtain listed | ⟨c, hc, waits⟩ := h.listed e he tag ht
    · exact listed
    · obtain done | failed := quiet c (List.mem_of_getElem? hc)
      · rw [done] at waits
        cases waits
      · rw [failed] at waits
        cases waits
  invalidated := by
    intro c hc tag op done e he ht before
    have left := h.removes c hc tag op e he ht before
    rw [done] at left
    exact left

theorem kept_empty : Kept {} where
  listed _ he := absurd he List.not_mem_nil
  seen _ hc := absurd hc List.not_mem_nil
  reads _ hc := absurd hc List.not_mem_nil
  removes _ hc := absurd hc List.not_mem_nil

/-- A value is stored with a tag and the tag invalidated. -/
def storedAndInvalidated : List Action :=
  [.begin (.setWithTag "events:all" "[]" ["events"]), .command 0, .command 0, .command 0,
    .begin (.invalidateByTag "events"), .command 1, .command 1, .command 1, .command 1]

/-- The value is stored again after the invalidation has unlinked it and before it drops the set. -/
def storedAgain : List Action :=
  [.begin (.setWithTag "events:all" "[]" ["events"]), .command 0, .command 0, .command 0,
    .begin (.invalidateByTag "events"), .command 1, .command 1, .command 1,
    .begin (.setWithTag "events:all" "[1]" ["events"]), .command 2, .command 2, .command 2, .command 1]

end Heightt.TagCache
