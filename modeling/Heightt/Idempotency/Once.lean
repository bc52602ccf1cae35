import Heightt.Idempotency.Service

/-!
# One processing for each key

What a caller did so far puts it in one of five phases, and a result is computed
in one of them and kept in the next. A caller looks for a stored result before it
takes the lock and not again after, and it deletes the lock whoever holds it. The
processor completes once when neither matters: the lock is granted only while
nothing is stored, and does not expire under its holder before a result is.
-/

namespace Heightt.Idempotency

open ReadCommitted

variable {V : Type}

/-- What a caller did, as others can see it. -/
abbrev Past (V : Type) := List (Event Empty (IdempotencyCall V) IdempotencyCall.Reply)

/-- How far a caller is. -/
inductive Phase (V : Type) where
  | idle
  | locked
  /-- The processor has returned. -/
  | ran (result : V)
  /-- The result was sent to Redis. -/
  | kept (result : V)
  /-- The lock was released, after the processor returned or failed. -/
  | left (result : Option V)

namespace Phase

def holding : Phase V → Bool
  | idle | left _ => false
  | locked | ran _ | kept _ => true

def result : Phase V → Option V
  | idle | locked => none
  | ran v | kept v => some v
  | left v => v

def next : Phase V → Event Empty (IdempotencyCall V) IdempotencyCall.Reply → Phase V
  | idle, .answered (.acquireLock _) granted => bif granted then locked else idle
  | locked, .answered .processor v => ran v
  | ran v, .answered (.storeResponse _) _ | ran v, .failed (.storeResponse _) => kept v
  | locked, .answered (.releaseLock _) _ | locked, .failed (.releaseLock _) => left none
  | kept v, .answered (.releaseLock _) _ | kept v, .failed (.releaseLock _) => left (some v)
  | p, _ => p

end Phase

namespace Past

def phase (h : Past V) : Phase V := h.foldl Phase.next .idle

/-- The results of the processor's successful runs. -/
def completions (h : Past V) : List V :=
  h.filterMap fun
    | .answered .processor v => some v
    | _ => none

/-- The responses that were found stored. -/
def found (h : Past V) : List V :=
  h.filterMap fun
    | .answered .getCachedResponse v => v
    | _ => none

/-- The results the call returned. -/
def returned (h : Past V) : List V :=
  h.filterMap fun
    | .answered (.returned v) _ => some v
    | _ => none

@[simp] theorem phase_append (h : Past V) (ev : Event Empty (IdempotencyCall V) IdempotencyCall.Reply) :
    phase (h ++ [ev]) = (phase h).next ev := by
  simp [phase]

end Past

/-- When the `i`-th operation makes a call. -/
def Calls (i : Nat) (h : Past V) : IdempotencyCall V → Prop
  | .acquireLock caller => caller = i ∧ h.phase = .idle
  | .processor => h.phase = .locked
  | .storeResponse v => h.phase = .ran v
  | .releaseLock caller => caller = i ∧ (h.phase = .locked ∨ ∃ v, h.phase = .kept v)
  | .returned v => h.phase = .left (some v) ∨ v ∈ h.found
  | .getCachedResponse | .lockExpires | .responseExpires | .computes _ => True

def Admits (i : Nat) (_ : NoTables) (h : Past V) :
    Event Empty (IdempotencyCall V) IdempotencyCall.Reply → Prop
  | .committed .. => False
  | .answered c _ | .failed c => Calls i h c

theorem wp_await {i : Nat} {h : Past V} {c : IdempotencyCall V}
    {Q : c.Reply → View NoTables Empty (IdempotencyCall V) IdempotencyCall.Reply → Prop}
    {Qe : IdempotencyError → View NoTables Empty (IdempotencyCall V) IdempotencyCall.Reply → Prop} :
    wp (fun _ _ => True) (Admits i) (await c) ⟨{}, [], h⟩ Q Qe ↔
      Calls i h c ∧ (∀ r, Q r ⟨{}, [], h ++ [.answered c r]⟩) ∧
        ∀ e, Qe e ⟨{}, [], h ++ [.failed c]⟩ := by
  constructor
  · rintro ⟨answered, failed, err⟩
    exact ⟨failed {} trivial, fun r => (answered {} r trivial).2, err⟩
  · rintro ⟨calls, answered, err⟩
    exact ⟨fun _ r _ => ⟨calls, answered r⟩, fun _ _ => calls, err⟩

/-- An operation makes its calls in the phases they belong to, and ends without the lock. -/
theorem wp_program (i : Nat) (op : IdempotencyOp V) :
    wp (fun _ _ => True) (Admits i) (op.program i) ⟨{}, [], []⟩
      (fun _ v => (Past.phase v.past).holding = false)
      fun _ v => (Past.phase v.past).holding = false := by
  cases op with
  | call =>
    refine (wp_bind _ _ _ _).2 ?_
    refine (wp_bind _ _ _ _).2 (wp_await.2 ⟨trivial, fun cached => ?_, fun _ => rfl⟩)
    cases cached with
    | some v => exact wp_await.2 ⟨.inr (by simp [Past.found]), fun _ => rfl, fun _ => rfl⟩
    | none =>
      refine (wp_bind _ _ _ _).2 (wp_await.2 ⟨⟨rfl, rfl⟩, fun locked => ?_, fun _ => rfl⟩)
      cases locked with
      | false =>
        refine (wp_bind _ _ _ _).2 (wp_await.2 ⟨trivial, fun retryResult => ?_, fun _ => rfl⟩)
        cases retryResult with
        | some v => exact wp_await.2 ⟨.inr (by simp [Past.found]), fun _ => rfl, fun _ => rfl⟩
        | none => exact rfl
      | true =>
        refine (wp_bind _ _ _ _).2 ((wp_onThrow _ _ _ _).2 ?_)
        -- The lock is released whether the processor and the store succeed or not.
        refine (wp_bind _ _ _ _).2 (wp_await.2 ⟨rfl, fun v => ?_, fun e => ?_⟩)
        · refine (wp_bind _ _ _ _).2 (wp_await.2 ⟨rfl, fun _ => ?_, fun e => ?_⟩)
          · refine (wp_bind _ _ _ _).2 (wp_await.2 ⟨⟨rfl, .inr ⟨v, rfl⟩⟩, fun _ => ?_, fun _ => rfl⟩)
            exact wp_await.2 ⟨.inl rfl, fun _ => rfl, fun _ => rfl⟩
          · exact (wp_bind _ _ _ _).2
              (wp_await.2 ⟨⟨rfl, .inr ⟨v, rfl⟩⟩, fun _ => rfl, fun _ => rfl⟩)
        · exact (wp_bind _ _ _ _).2 (wp_await.2 ⟨⟨rfl, .inl rfl⟩, fun _ => rfl, fun _ => rfl⟩)
  | lockExpires => exact wp_await.2 ⟨trivial, fun _ => rfl, fun _ => rfl⟩
  | responseExpires => exact wp_await.2 ⟨trivial, fun _ => rfl, fun _ => rfl⟩
  | computes v => exact wp_await.2 ⟨trivial, fun _ => rfl, fun _ => rfl⟩

/-- The program has returned or ended in an error. -/
def ended (c : IdempotencySystem V) (i : Nat) : Bool :=
  c.threads[i]?.any fun t => t.returned || t.threw

variable [Stored V]

/-- The condition under which a key is processed once. The lock is granted only
while nothing is stored, does not expire under its holder before a result is stored,
and a result reads back as it was, reaches Redis and does not expire. -/
def Safe (c : IdempotencySystem V) : Effect Empty (IdempotencyCall V) → Prop
  | .called _ (.acquireLock _) true => c.ext.lock = none → c.ext.cached = none
  | .called _ .processor _ => readBack c.ext.nextResult = some c.ext.nextResult
  | .called _ .lockExpires _ =>
    c.ext.cached.isSome = true ∨ ∀ i ∈ c.ext.lock, ended c i = true
  | .called _ .responseExpires _ => c.ext.response = none
  | .unsent _ (.storeResponse _) => False
  | _ => True

instance [DecidableEq V] (c : IdempotencySystem V) (eff : Effect Empty (IdempotencyCall V)) :
    Decidable (Safe c eff) := by
  unfold Safe
  split <;> infer_instance

/-- What every step of a safe run keeps. -/
structure Inv (past : Nat → Past V) (r : Redis V) : Prop where
  exclusive : ∀ i, (past i).phase.holding = true → r.cached = none → r.lock = some i
  locked : ∀ i, (past i).phase = .locked → r.cached = none
  ran : ∀ i v, (past i).phase = .ran v → r.cached = none ∧ readBack v = some v
  kept : ∀ i v, (past i).phase = .kept v ∨ (past i).phase = .left (some v) → r.cached = some v
  source : ∀ v, r.cached = some v → ∃ i, (past i).phase.result = some v
  unique : ∀ i j, (past i).phase.result.isSome = true → (past j).phase.result.isSome = true → i = j
  completions : ∀ i, (past i).completions = (past i).phase.result.toList
  found : ∀ i, ∀ v ∈ (past i).found, ∃ j, (past j).phase.result = some v
  returned : ∀ i, ∀ v ∈ (past i).returned, ∃ j, (past j).phase.result = some v

namespace Inv

variable {past : Nat → Past V} {r r' : Redis V} {i : Nat}

/-- A caller whose result is not stored holds the lock alone. -/
theorem alone (inv : Inv past r) (empty : r.cached = none) {j : Nat}
    (hi : (past i).phase.holding = true) (hj : (past j).phase.holding = true) : i = j := by
  have := (inv.exclusive i hi empty).symm.trans (inv.exclusive j hj empty)
  exact Option.some.inj this

/-- A step after which every caller is in the phase it was in, and that finds and
returns only the result. -/
theorem of_phase {past' : Nat → Past V} (inv : Inv past r)
    (phase : ∀ j, (past' j).phase = (past j).phase)
    (completions : ∀ j, (past' j).completions = (past j).completions)
    (found : ∀ j, ∀ v ∈ (past' j).found, v ∈ (past j).found ∨ r.cached = some v)
    (returned : ∀ j, ∀ v ∈ (past' j).returned,
      v ∈ (past j).returned ∨ ∃ k, (past k).phase.result = some v)
    (cached : r'.cached = r.cached)
    (lock : ∀ j, (past j).phase.holding = true → r.cached = none → r.lock = some j → r'.lock = some j) :
    Inv past' r' where
  exclusive j hj empty := by
    rw [phase] at hj
    rw [cached] at empty
    exact lock j hj empty (inv.exclusive j hj empty)
  locked j hj := by rw [cached]; exact inv.locked j (phase j ▸ hj)
  ran j v hj := by rw [cached]; exact inv.ran j v (phase j ▸ hj)
  kept j v hj := by rw [cached]; exact inv.kept j v (phase j ▸ hj)
  source v hv := by
    simp only [phase]
    exact inv.source v (cached ▸ hv)
  unique j k hj hk := inv.unique j k (phase j ▸ hj) (phase k ▸ hk)
  completions j := by rw [completions, phase]; exact inv.completions j
  found j v hv := by
    simp only [phase]
    rcases found j v hv with hv | hv
    · exact inv.found j v hv
    · exact inv.source v hv
  returned j v hv := by
    simp only [phase]
    rcases returned j v hv with hv | hv
    · exact inv.returned j v hv
    · exact hv

/-- A step of one caller to the phase `p` that neither finds nor returns anything. -/
theorem advance (inv : Inv past r) {p : Phase V} {h : Past V} (phase : h.phase = p)
    (completions : h.completions = p.result.toList) (found : h.found = (past i).found)
    (returned : h.returned = (past i).returned)
    (exclusive : ∀ j, (if j = i then p else (past j).phase).holding = true → r'.cached = none →
      r'.lock = some j)
    (locked : ∀ j, (if j = i then p else (past j).phase) = .locked → r'.cached = none)
    (ran : ∀ j v, (if j = i then p else (past j).phase) = .ran v →
      r'.cached = none ∧ readBack v = some v)
    (kept : ∀ j v, (if j = i then p else (past j).phase) = .kept v ∨
      (if j = i then p else (past j).phase) = .left (some v) → r'.cached = some v)
    (grows : ∀ v, (past i).phase.result = some v → p.result = some v)
    (source : ∀ v, r'.cached = some v → p.result = some v ∨ r.cached = some v)
    (only : p.result.isSome = true → (past i).phase.result.isSome = true ∨
      ∀ j, (past j).phase.result = none) :
    Inv (Function.update past i h) r' := by
  have phase' (j : Nat) : Past.phase (Function.update past i h j) =
      if j = i then p else (past j).phase := by
    by_cases hj : j = i <;> simp [hj, phase]
  have mono (j : Nat) (v : V) (hj : (past j).phase.result = some v) :
      (Past.phase (Function.update past i h j)).result = some v := by
    rw [phase']
    by_cases hji : j = i
    · rw [if_pos hji]
      exact grows v (hji ▸ hj)
    · rwa [if_neg hji]
  have atCaller : (Past.phase (Function.update past i h i)).result = p.result := by
    rw [phase', if_pos rfl]
  refine ⟨?_, ?_, ?_, ?_, ?_, ?_, ?_, ?_, ?_⟩
  · simpa only [phase'] using exclusive
  · simpa only [phase'] using locked
  · simpa only [phase'] using ran
  · simpa only [phase'] using kept
  · intro v hv
    rcases source v hv with hp | hr
    · exact ⟨i, atCaller.trans hp⟩
    · obtain ⟨j, hj⟩ := inv.source v hr
      exact ⟨j, mono j v hj⟩
  · have others (j k : Nat) (hj : ((if j = i then p else (past j).phase).result).isSome = true)
        (hk : ((if k = i then p else (past k).phase).result).isSome = true) (hji : j = i) : j = k := by
      by_contra hjk
      have hki : k ≠ i := fun e => hjk (hji.trans e.symm)
      rw [if_pos hji] at hj
      rw [if_neg hki] at hk
      rcases only hj with hi | hnone
      · exact hki (inv.unique k i hk hi)
      · rw [hnone k] at hk
        cases hk
    intro j k hj hk
    rw [phase'] at hj hk
    by_cases hji : j = i
    · exact others j k hj hk hji
    · by_cases hki : k = i
      · exact (others k j hk hj hki).symm
      · rw [if_neg hji] at hj
        rw [if_neg hki] at hk
        exact inv.unique j k hj hk
  · intro j
    rw [phase']
    by_cases hj : j = i
    · simp [hj, completions]
    · simpa [Function.update_apply, hj] using inv.completions j
  · intro j v hv
    have : v ∈ (past j).found := by
      by_cases hj : j = i
      · simpa [Function.update_apply, hj, found] using hv
      · simpa [Function.update_apply, hj] using hv
    obtain ⟨k, hk⟩ := inv.found j v this
    exact ⟨k, mono k v hk⟩
  · intro j v hv
    have : v ∈ (past j).returned := by
      by_cases hj : j = i
      · simpa [Function.update_apply, hj, returned] using hv
      · simpa [Function.update_apply, hj] using hv
    obtain ⟨k, hk⟩ := inv.returned j v this
    exact ⟨k, mono k v hk⟩

/-- The lock is granted to an idle caller while nothing is stored. -/
theorem acquire (inv : Inv past r) (idle : (past i).phase = .idle) (free : r.lock = none)
    (empty : r.cached = none) :
    Inv (Function.update past i (past i ++ [.answered (.acquireLock i) true])) { r with lock := some i } := by
  have nobody (j : Nat) : (past j).phase.holding = false := by
    by_contra h
    have := inv.exclusive j (by simpa using h) empty
    rw [free] at this
    cases this
  refine inv.advance (p := .locked) (by simp [idle, Phase.next])
    (by simp [Past.completions]; simpa [idle, Phase.result, Past.completions] using inv.completions i)
    (by simp [Past.found]) (by simp [Past.returned]) ?_ ?_ ?_ ?_ ?_ ?_ ?_
  · intro j hj _
    by_cases hji : j = i
    · rw [hji]
    · rw [if_neg hji, nobody j] at hj
      cases hj
  · exact fun _ _ => empty
  · intro j v hj
    split at hj
    · cases hj
    · exact inv.ran j v hj
  · intro j v hj
    split at hj
    · rcases hj with hj | hj <;> cases hj
    · exact inv.kept j v hj
  · intro v hv
    rw [idle] at hv
    cases hv
  · exact fun v hv => .inr hv
  · intro h
    cases h

/-- The processor returns a result that reads back as it is. -/
theorem run (inv : Inv past r) (locked : (past i).phase = .locked) {v : V}
    (readable : readBack v = some v) :
    Inv (Function.update past i (past i ++ [.answered .processor v])) r := by
  have empty := inv.locked i locked
  have holds : (past i).phase.holding = true := by rw [locked]; rfl
  refine inv.advance (p := .ran v) (by simp [locked, Phase.next])
    (by simpa [locked, Phase.result, Past.completions] using inv.completions i)
    (by simp [Past.found]) (by simp [Past.returned]) ?_ ?_ ?_ ?_ ?_ ?_ ?_
  · intro j hj _
    by_cases hji : j = i
    · exact hji ▸ inv.exclusive i holds empty
    · exact inv.exclusive j (by rwa [if_neg hji] at hj) empty
  · exact fun _ _ => empty
  · intro j w hj
    split at hj
    · cases hj
      exact ⟨empty, readable⟩
    · exact inv.ran j w hj
  · intro j w hj
    split at hj
    · rcases hj with hj | hj <;> cases hj
    · exact inv.kept j w hj
  · intro w hw
    rw [locked] at hw
    cases hw
  · exact fun w hw => .inr hw
  · intro _
    refine .inr fun j => ?_
    cases hj : (past j).phase with
    | idle | locked => rfl
    | ran w =>
      have := inv.alone empty holds (j := j) (by rw [hj]; rfl)
      rw [← this, locked] at hj
      cases hj
    | kept w => simp [inv.kept j w (.inl hj)] at empty
    | left w =>
      cases w with
      | none => rfl
      | some w => simp [inv.kept j w (.inr hj)] at empty

/-- The result is stored, whether or not Redis confirms it. -/
theorem store (inv : Inv past r) {v : V} (ran : (past i).phase = .ran v)
    {ev : Event Empty (IdempotencyCall V) IdempotencyCall.Reply}
    (next : ev = .answered (.storeResponse v) () ∨ ev = .failed (.storeResponse v)) :
    Inv (Function.update past i (past i ++ [ev])) { r with response := some v } := by
  obtain ⟨empty, readable⟩ := inv.ran i v ran
  have holds : (past i).phase.holding = true := by rw [ran]; rfl
  have stored : ({ r with response := some v } : Redis V).cached = some v := by
    simpa [Redis.cached] using readable
  refine inv.advance (p := .kept v) (by rcases next with rfl | rfl <;> simp [ran, Phase.next])
    (by
      have := inv.completions i
      rcases next with rfl | rfl <;> simpa [ran, Phase.result, Past.completions] using this)
    (by rcases next with rfl | rfl <;> simp [Past.found])
    (by rcases next with rfl | rfl <;> simp [Past.returned]) ?_ ?_ ?_ ?_ ?_ ?_ ?_
  · intro j _ h
    rw [stored] at h
    cases h
  · intro j hj
    split at hj
    · cases hj
    · have := inv.alone empty holds (j := j) (by rw [hj]; rfl)
      exact absurd this.symm ‹_›
  · intro j w hj
    split at hj
    · cases hj
    · have := inv.alone empty holds (j := j) (by rw [hj]; rfl)
      exact absurd this.symm ‹_›
  · intro j w hj
    split at hj
    · rcases hj with hj | hj <;> cases hj
      exact stored
    · have := inv.kept j w hj
      rw [empty] at this
      cases this
  · intro w hw
    rwa [ran] at hw
  · intro w hw
    rw [stored] at hw
    exact .inl hw
  · exact fun _ => .inl (by rw [ran]; rfl)

/-- The holder releases the lock, or fails to. -/
theorem release (inv : Inv past r) {p : Phase V}
    (holds : (past i).phase = .locked ∧ p = .left none ∨
      ∃ v, (past i).phase = .kept v ∧ p = .left (some v))
    {ev : Event Empty (IdempotencyCall V) IdempotencyCall.Reply}
    (next : ev = .answered (.releaseLock i) () ∨ ev = .failed (.releaseLock i))
    (cached : r'.cached = r.cached) : Inv (Function.update past i (past i ++ [ev])) r' := by
  have phase : Past.phase (past i ++ [ev]) = p := by
    rcases holds with ⟨h, rfl⟩ | ⟨v, h, rfl⟩ <;> rcases next with rfl | rfl <;>
      simp [h, Phase.next]
  have result : (past i).phase.result = p.result := by
    rcases holds with ⟨h, rfl⟩ | ⟨v, h, rfl⟩ <;> rw [h] <;> rfl
  have free : p.holding = false := by
    rcases holds with ⟨h, rfl⟩ | ⟨v, h, rfl⟩ <;> rfl
  refine inv.advance phase
    (by
      rw [← result, ← inv.completions i]
      rcases next with rfl | rfl <;> simp [Past.completions])
    (by rcases next with rfl | rfl <;> simp [Past.found])
    (by rcases next with rfl | rfl <;> simp [Past.returned]) ?_ ?_ ?_ ?_ ?_ ?_ ?_
  · intro j hj empty
    split at hj
    · rw [free] at hj
      cases hj
    · rename_i hji
      rw [cached] at empty
      rcases holds with ⟨h, -⟩ | ⟨v, h, -⟩
      · exact absurd (inv.alone empty (i := i) (by rw [h]; rfl) hj).symm hji
      · simp [inv.kept i v (.inl h)] at empty
  · intro j hj
    split at hj
    · subst hj
      cases free
    · exact cached ▸ inv.locked j hj
  · intro j v hj
    split at hj
    · subst hj
      cases free
    · exact cached ▸ inv.ran j v hj
  · intro j v hj
    rw [cached]
    split at hj
    · rcases holds with ⟨h, rfl⟩ | ⟨w, h, rfl⟩
      · rcases hj with hj | hj <;> cases hj
      · rcases hj with hj | hj <;> cases hj
        exact inv.kept i v (.inl h)
    · exact inv.kept j v hj
  · exact fun v hv => result ▸ hv
  · exact fun v hv => .inr (cached ▸ hv)
  · exact fun h => .inl (result ▸ h)

/-- A step that leaves its caller in its phase. -/
theorem idle (inv : Inv past r) {ev : Event Empty (IdempotencyCall V) IdempotencyCall.Reply}
    (phase : (past i).phase.next ev = (past i).phase) (completions : Past.completions [ev] = [])
    (found : ∀ v ∈ Past.found [ev], r.cached = some v)
    (returned : ∀ v ∈ Past.returned [ev], ∃ k, (past k).phase.result = some v)
    (cached : r'.cached = r.cached)
    (lock : ∀ j, (past j).phase.holding = true → r.cached = none → r.lock = some j → r'.lock = some j) :
    Inv (Function.update past i (past i ++ [ev])) r' := by
  refine inv.of_phase (fun j => ?_) (fun j => ?_) (fun j v hv => ?_) (fun j v hv => ?_) cached lock
  all_goals by_cases hj : j = i
  · simp [hj, phase]
  · simp [hj]
  · rw [hj, Function.update_self, Past.completions, List.filterMap_append]
    exact (congrArg _ completions).trans (List.append_nil _)
  · simp [hj]
  · rw [hj, Function.update_self, Past.found, List.filterMap_append, List.mem_append] at hv
    exact hj ▸ hv.imp_right (found v)
  · exact .inl (by simpa [hj] using hv)
  · rw [hj, Function.update_self, Past.returned, List.filterMap_append, List.mem_append] at hv
    exact hj ▸ hv.imp_right (returned v)
  · exact .inl (by simpa [hj] using hv)

end Inv

/-- The threads of a run, each in the phase its program is in. -/
abbrev Good (c : IdempotencySystem V) : Prop :=
  c.Good (fun _ _ => True) Admits (fun _ h => (Past.phase h).holding = false)
    fun _ _ h => (Past.phase h).holding = false

omit [Stored V] in
theorem not_holding_of_ended {c : IdempotencySystem V} (good : Good c) {i : Nat}
    (h : ended c i = true) : (Past.phase (c.past i)).holding = false := by
  obtain ⟨t, ht, hended⟩ := (Option.any_eq_true _ _).1 h
  obtain ⟨s, -, hwp⟩ := good i t ht
  have hpast : c.past i = t.past := by simp [Config.past, ht]
  rw [hpast]
  cases hp : t.prog with
  | ret a =>
    rw [hp] at hwp
    exact hwp
  | throw e =>
    rw [hp] at hwp
    exact hwp
  | _ => simp [Thread.returned, Thread.threw, hp] at hended

/-- A call that reached Redis or the processor keeps the invariant. -/
theorem inv_called {c : IdempotencySystem V} (good : Good c) (inv : Inv c.past c.ext) {i : Nat}
    {call : IdempotencyCall V} {answered : Bool}
    (admitted : Admits i c.db (c.past i) (reply call c.ext answered))
    (safe : Safe c (.called i call answered)) :
    Inv (Function.update c.past i (c.past i ++ [reply call c.ext answered]))
      (External.handle call c.ext).1 := by
  have calls : Calls i (c.past i) call := by cases answered <;> exact admitted
  have keeps : ∀ j, (Past.phase (c.past j)).holding = true → c.ext.cached = none →
      c.ext.lock = some j → c.ext.lock = some j := fun _ _ _ h => h
  cases call with
  | getCachedResponse =>
    refine inv.idle (by cases answered <;> cases Past.phase (c.past i) <;> rfl)
      (by cases answered <;> rfl) (fun v hv => ?_) (by cases answered <;> simp [Past.returned, reply])
      rfl keeps
    cases answered with
    | true => simpa [Past.found, reply, External.handle] using hv
    | false => simp [Past.found, reply] at hv
  | acquireLock caller =>
    obtain ⟨rfl, idle⟩ := calls
    by_cases free : c.ext.lock = none
    · have nobody (j : Nat) (hj : (Past.phase (c.past j)).holding = true)
          (empty : c.ext.cached = none) : False := by
        have := inv.exclusive j hj empty
        rw [free] at this
        cases this
      cases answered with
      | true => simpa [reply, External.handle, free] using inv.acquire idle free (safe free)
      | false =>
        exact inv.idle (by rw [idle]; rfl) rfl (by simp [Past.found, reply])
          (by simp [Past.returned, reply]) (by simp [External.handle, free, Redis.cached])
          fun j hj empty _ => (nobody j hj empty).elim
    · have refused : External.handle (.acquireLock caller) c.ext = (c.ext, false) := if_neg free
      rw [refused]
      exact inv.idle (by rw [idle]; cases answered <;> simp [reply, refused, Phase.next])
        (by cases answered <;> rfl) (by cases answered <;> simp [Past.found, reply])
        (by cases answered <;> simp [Past.returned, reply]) rfl keeps
  | processor =>
    cases answered with
    | true => exact inv.run calls safe
    | false =>
      exact inv.idle (by rw [show Past.phase (c.past i) = .locked from calls]; rfl) rfl
        (by simp [Past.found, reply]) (by simp [Past.returned, reply]) rfl keeps
  | storeResponse v =>
    refine inv.store calls ?_
    cases answered with
    | true => exact .inl rfl
    | false => exact .inr rfl
  | releaseLock caller =>
    obtain ⟨rfl, holds⟩ := calls
    rcases holds with locked | ⟨v, kept⟩
    · refine inv.release (.inl ⟨locked, rfl⟩) ?_ rfl
      cases answered with
      | true => exact .inl rfl
      | false => exact .inr rfl
    · refine inv.release (.inr ⟨v, kept, rfl⟩) ?_ rfl
      cases answered with
      | true => exact .inl rfl
      | false => exact .inr rfl
  | returned v =>
    refine inv.idle (by cases answered <;> cases Past.phase (c.past i) <;> rfl)
      (by cases answered <;> rfl) (by cases answered <;> simp [Past.found, reply]) (fun w hw => ?_)
      rfl keeps
    obtain rfl : w = v := by
      cases answered with
      | true => simpa [Past.returned, reply] using hw
      | false => simp [Past.returned, reply] at hw
    rcases calls with left | found
    · exact ⟨i, by rw [left]; rfl⟩
    · exact inv.found i w found
  | lockExpires =>
    refine inv.idle (by cases answered <;> cases Past.phase (c.past i) <;> rfl)
      (by cases answered <;> rfl) (by cases answered <;> simp [Past.found, reply])
      (by cases answered <;> simp [Past.returned, reply]) rfl fun j hj empty hlock => ?_
    -- The holder has not stored a result, so by the condition it has ended.
    rcases safe with stored | hended
    · simp [empty] at stored
    · have := not_holding_of_ended good (hended j hlock)
      rw [hj] at this
      cases this
  | responseExpires =>
    have same : (External.handle (.responseExpires : IdempotencyCall V) c.ext).1.cached = c.ext.cached := by
      simp [External.handle, Redis.cached, show c.ext.response = none from safe]
    exact inv.idle (by cases answered <;> cases Past.phase (c.past i) <;> rfl)
      (by cases answered <;> rfl) (by cases answered <;> simp [Past.found, reply])
      (by cases answered <;> simp [Past.returned, reply]) same keeps
  | computes v =>
    exact inv.idle (by cases answered <;> cases Past.phase (c.past i) <;> rfl)
      (by cases answered <;> rfl) (by cases answered <;> simp [Past.found, reply])
      (by cases answered <;> simp [Past.returned, reply]) rfl keeps

/-- A call that did not reach Redis keeps the invariant, unless it is a store. -/
theorem inv_unsent {c : IdempotencySystem V} (inv : Inv c.past c.ext) {i : Nat}
    {call : IdempotencyCall V} (calls : Calls i (c.past i) call) (safe : Safe c (.unsent i call)) :
    Inv (Function.update c.past i (c.past i ++ [.failed call])) c.ext := by
  cases call with
  | storeResponse v => exact safe.elim
  | releaseLock caller =>
    obtain ⟨rfl, locked | ⟨v, kept⟩⟩ := calls
    · exact inv.release (.inl ⟨locked, rfl⟩) (.inr rfl) rfl
    · exact inv.release (.inr ⟨v, kept, rfl⟩) (.inr rfl) rfl
  | _ =>
    exact inv.idle (by cases Past.phase (c.past i) <;> rfl) rfl (by simp [Past.found])
      (by simp [Past.returned]) rfl fun _ _ _ h => h

omit [Stored V] in
theorem past_start (nextResult : V) (ops : List (IdempotencyOp V)) (i : Nat) :
    (start nextResult ops).past i = [] := by
  simp only [Config.past, start, Config.start, List.getElem?_map]
  cases (ops.mapIdx IdempotencyOp.program)[i]? <;> rfl

/-- What every step keeps, along a safe run. -/
theorem inv_of_reaches {nextResult : V} {ops : List (IdempotencyOp V)} {c : IdempotencySystem V}
    (run : Reaches Safe (start nextResult ops) c) : Good c ∧ Inv c.past c.ext := by
  refine run.invariant (fun c => Inv c.past c.ext) (fun _ => trivial) (fun _ _ => trivial)
    (Config.good_start (fun _ => trivial) fun i p hp => ?_) ?_ fun {c c' eff} good hmoves safe inv => ?_
  · rw [List.getElem?_mapIdx, Option.map_eq_some_iff] at hp
    obtain ⟨op, -, rfl⟩ := hp
    exact wp_program i op
  · have nothing : (start nextResult ops).past = fun _ => [] := funext (past_start nextResult ops)
    show Inv _ { nextResult }
    rw [nothing]
    constructor <;> simp [Past.phase, Phase.holding, Phase.result, Past.completions, Past.found,
      Past.returned, Redis.cached]
  · refine ⟨trivial, ?_⟩
    cases hmoves with
    | internal silent db ext past log =>
      rcases ext with ext | ⟨m, -⟩
      · rwa [past, ext]
      · exact m.elim
    | commit i nested F admitted => exact admitted.elim
    | called i call answered admitted db ext past log =>
      rw [past, ext]
      exact inv_called good inv admitted safe
    | unsent i call admitted db ext past log =>
      rw [past, ext]
      exact inv_unsent inv admitted safe

/-- The results of the processor's successful runs, over all callers. -/
def completions (c : IdempotencySystem V) : List V := c.threads.flatMap fun t => Past.completions t.past

/-- At most one list of several is not empty, and has one entry. -/
theorem length_flatMap_le_one {α β : Type} (l : List α) (f : α → List β)
    (short : ∀ a ∈ l, (f a).length ≤ 1) (apart : l.Pairwise fun a b => f a = [] ∨ f b = []) :
    (l.flatMap f).length ≤ 1 := by
  induction l with
  | nil => simp
  | cons a l ih =>
    rw [List.pairwise_cons] at apart
    rw [List.flatMap_cons, List.length_append]
    rcases eq_or_ne (f a) [] with ha | ha
    · have := ih (fun b hb => short b (List.mem_cons_of_mem a hb)) apart.2
      rw [ha, List.length_nil]
      omega
    · have rest : l.flatMap f = [] := List.flatMap_eq_nil_iff.2 fun b hb =>
        (apart.1 b hb).resolve_left ha
      have := short a List.mem_cons_self
      rw [rest, List.length_nil]
      omega

/-- Numbers as results: zero is falsy and reads as a miss. -/
instance : Stored Nat := ⟨fun n => if n = 0 then none else some n⟩

/-- The threads take turns: each pair is a thread and how many operations it completes. -/
def turns (ts : List (Nat × Nat)) : List (ReadCommitted.Action Empty IdempotencyError) :=
  ts.flatMap fun t => List.replicate t.2 (.thread t.1 .ok)

/-- The caller of the release that an effect is. -/
def releaser : Effect Empty (IdempotencyCall V) → Option Nat
  | .called i (.releaseLock _) _ => some i
  | _ => none

end Heightt.Idempotency
