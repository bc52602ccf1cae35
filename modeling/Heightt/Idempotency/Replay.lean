import Heightt.Idempotency.Once
import Heightt.Idempotency.PaymentKeys
import Heightt.ReadCommitted.Rules

/-!
# A key pays once

A payment with a key marks the key as used before its result is stored, and a key
that is used or has expired is refused. So the stored result is never returned to
a call that comes later: the key is spent, and stays so unless it is issued again.
-/

namespace Heightt.PaymentKeys

open ReadCommitted Prog Idempotency FinanceService IdempotencyService

variable {B Dto V : Type}

/-- What a call did, as others can see it. -/
abbrev Past (Dto V : Type) := List (Event Empty (PaymentCall Dto V) PaymentCall.Reply)

/-- The key a payment is made with. -/
def PaymentOp.keyed : PaymentOp Dto → Option String
  | processInternalPayment _ _ idempotencyKey | processManualPayment _ _ idempotencyKey =>
    idempotencyKey.filter (· ≠ "")
  | generateIdempotencyKey .. | tick _ => none

/-- The results the call returned. -/
def returns (past : Past Dto V) : List V :=
  past.filterMap fun
    | .answered (.returned v) _ => some v
    | _ => none

/-- The call only looks a key up. -/
def PaymentCall.readsKey : PaymentCall Dto V → Bool
  | getKey _ => true
  | _ => false

def badKey : PaymentError :=
  .badRequest "Invalid or expired idempotency key. Please generate a new one."

/-- The call has done nothing but look its key up: it has not returned, and if it
has ended and no lookup failed, then in the error that its key is refused. -/
structure Refused (t : Thread NoTables Empty (PaymentCall Dto V) PaymentCall.Reply PaymentError) : Prop where
  unreturned : t.returned = false
  reads : ∀ ev ∈ t.past, ∃ c : PaymentCall Dto V, c.readsKey = true ∧ (ev = .failed c ∨ ∃ r, ev = .answered c r)
  error : ∀ e, t.prog = .throw e → (∀ c, Event.failed c ∉ t.past) → e = badKey

/-! ## What a call has seen -/

/-- An event of the past satisfies `p`. -/
def Saw (p : Event Empty (PaymentCall Dto V) PaymentCall.Reply → Prop) (past : Past Dto V) : Prop :=
  ∃ ev ∈ past, p ev

theorem Saw.append {p : Event Empty (PaymentCall Dto V) PaymentCall.Reply → Prop} {past : Past Dto V}
    (h : Saw p past) (ev : Event Empty (PaymentCall Dto V) PaymentCall.Reply) : Saw p (past ++ [ev]) := by
  obtain ⟨ev', hev', hp⟩ := h
  exact ⟨ev', List.mem_append_left _ hev', hp⟩

theorem saw_last {p : Event Empty (PaymentCall Dto V) PaymentCall.Reply → Prop} (past : Past Dto V)
    {ev : Event Empty (PaymentCall Dto V) PaymentCall.Reply} (h : p ev) : Saw p (past ++ [ev]) :=
  ⟨ev, List.mem_append_right _ (List.mem_singleton_self _), h⟩

/-- The key was there and unused. -/
def SeesUnused (key : String) : Event Empty (PaymentCall Dto V) PaymentCall.Reply → Prop
  | .answered (.getKey k) data => k = key ∧ ∃ d : KeyData, data = some d ∧ d.used = false
  | _ => False

/-- The key was marked as used, or had expired. -/
def Spends (key : String) : Event Empty (PaymentCall Dto V) PaymentCall.Reply → Prop
  | .answered (.getKey k) data => k = key ∧ data = (none : Option KeyData)
  | .answered (.setKey k data) _ => k = key ∧ data.used = true
  | _ => False

/-- The key was spent, or a response was found under it. -/
def Settles (key : String) : Event Empty (PaymentCall Dto V) PaymentCall.Reply → Prop
  | .answered (.getCachedResponse k _) response => k = key ∧ response ≠ (none : Option V)
  | ev => Spends key ev

/-- When an operation makes a call. -/
def Calls (op : PaymentOp Dto) (past : Past Dto V) (c : PaymentCall Dto V) : Prop :=
  (∀ key ∈ op.keyed, c.readsKey = true ∨ Saw (SeesUnused key) past) ∧
    match c with
    | .setKey key data => data.used = true ∨ ∃ userId, op = .generateIdempotencyKey userId key
    | .storeResponse key _ _ => Saw (Spends key) past
    | .returned _ => ∀ key ∈ op.keyed, Saw (Settles key) past
    | _ => True

def Admits (op : PaymentOp Dto) (_ : NoTables) (past : Past Dto V) :
    Event Empty (PaymentCall Dto V) PaymentCall.Reply → Prop
  | .committed .. => False
  | .answered c _ | .failed c => Calls op past c

/-- How a payment with a key ends in an error. -/
def Fails (op : PaymentOp Dto) (e : PaymentError) (past : Past Dto V) : Prop :=
  ∀ key ∈ op.keyed, e = badKey ∨ Saw (SeesUnused key) past ∨ ∃ c, Event.failed c ∈ past

theorem wp_await {op : PaymentOp Dto} {past : Past Dto V} {c : PaymentCall Dto V}
    {Q : c.Reply → View NoTables Empty (PaymentCall Dto V) PaymentCall.Reply → Prop}
    {Qe : PaymentError → View NoTables Empty (PaymentCall Dto V) PaymentCall.Reply → Prop}
    (calls : Calls op past c) (answered : ∀ r, Q r ⟨{}, [], past ++ [.answered c r]⟩)
    (failed : ∀ e, Qe e ⟨{}, [], past ++ [.failed c]⟩) :
    wp (fun _ _ => True) (Admits op) (await c) ⟨{}, [], past⟩ Q Qe :=
  ⟨fun _ r _ => ⟨calls, answered r⟩, fun _ _ => calls, failed⟩

theorem fails_failed (op : PaymentOp Dto) (e : PaymentError) (past : Past Dto V) (c : PaymentCall Dto V) :
    Fails op e (past ++ [.failed c]) :=
  fun _ _ => .inr (.inr ⟨c, List.mem_append_right _ (List.mem_singleton_self _)⟩)

section Keyed

variable {op : PaymentOp Dto} {key : String} {past : Past Dto V}

/-- After the key was seen unused, any call may be made that needs nothing else. -/
theorem calls_of_seen (keyed : op.keyed = some key) (seen : Saw (SeesUnused key) past)
    {c : PaymentCall Dto V} (rest : match c with
      | .setKey key data => data.used = true ∨ ∃ userId, op = .generateIdempotencyKey userId key
      | .storeResponse key _ _ => Saw (Spends key) past
      | .returned _ => ∀ key ∈ op.keyed, Saw (Settles key) past
      | _ => True) : Calls op past c := by
  refine ⟨fun key' hkey' => .inr ?_, rest⟩
  rw [keyed] at hkey'
  obtain rfl := Option.some.inj hkey'
  exact seen

/-- What holds when the processor returns: the key is spent. -/
def Processed (key : String) (v : View NoTables Empty (PaymentCall Dto V) PaymentCall.Reply) : Prop :=
  v.frames = [] ∧ Saw (SeesUnused key) v.past ∧ Saw (Spends key) v.past

/-- What holds when it ends in an error. -/
def StillSeen (key : String) (v : View NoTables Empty (PaymentCall Dto V) PaymentCall.Reply) : Prop :=
  v.frames = [] ∧ Saw (SeesUnused key) v.past

theorem wp_execute (keyed : op.keyed = some key) (seen : Saw (SeesUnused key) past) (kind : PaymentKind)
    (userId : String) (dto : Dto) (idempotencyKey : Option String) :
    wp (fun _ _ => True) (Admits op) (FinanceService.execute kind userId dto idempotencyKey)
      ⟨{}, [], past⟩ (fun _ v => StillSeen key v) fun _ v => StillSeen key v := by
  refine (wp_bind _ _ _ _).2 (wp_await (calls_of_seen keyed seen trivial) (fun result => ?_) fun e => ?_)
  · cases result with
    | some result => exact ⟨rfl, seen.append _⟩
    | none => exact ⟨rfl, seen.append _⟩
  · exact ⟨rfl, seen.append _⟩

theorem wp_markIdempotencyKeyAsUsed (keyed : op.keyed = some key) (seen : Saw (SeesUnused key) past) :
    wp (fun _ _ => True) (Admits op) (markIdempotencyKeyAsUsed key : PaymentAction Dto V Unit) ⟨{}, [], past⟩
      (fun _ v => Processed key v) fun _ v => StillSeen key v := by
  refine (wp_bind _ _ _ _).2 (wp_await (calls_of_seen keyed seen trivial) (fun data => ?_) fun e => ?_)
  · cases data with
    | none => exact ⟨rfl, seen.append _, saw_last _ ⟨rfl, rfl⟩⟩
    | some data =>
      refine wp_await (calls_of_seen keyed (seen.append _) (.inl rfl)) (fun _ => ?_) fun e => ?_
      · exact ⟨rfl, (seen.append _).append _, saw_last _ ⟨rfl, rfl⟩⟩
      · exact ⟨rfl, (seen.append _).append _⟩
  · exact ⟨rfl, seen.append _⟩

/-- Whatever ends in this way has seen the key unused. -/
theorem wp_tryFinally {userId : String} {p : PaymentAction Dto V V} (keyed : op.keyed = some key)
    (hp : wp (fun _ _ => True) (Admits op) p ⟨{}, [], past⟩ (fun _ v => Processed key v)
      fun _ v => StillSeen key v) :
    wp (fun _ _ => True) (Admits op) (tryFinally p (releaseLock key userId)) ⟨{}, [], past⟩
      (fun _ v => Processed key v) fun _ v => StillSeen key v := by
  refine (wp_bind _ _ _ _).2 ((wp_onThrow _ _ _ _).2 (wp_mono hp ?_ ?_))
  · rintro result ⟨s, frames, past⟩ ⟨rfl, seen, spent⟩
    refine (wp_bind _ _ _ _).2 (wp_await (calls_of_seen keyed seen trivial) (fun _ => ?_) fun e => ?_)
    · exact ⟨rfl, seen.append _, spent.append _⟩
    · exact ⟨rfl, seen.append _⟩
  · rintro e ⟨s, frames, past⟩ ⟨rfl, seen⟩
    refine (wp_bind _ _ _ _).2 (wp_await (calls_of_seen keyed seen trivial) (fun _ => ?_) fun e => ?_)
    · exact ⟨rfl, seen.append _⟩
    · exact ⟨rfl, seen.append _⟩

theorem wp_processor (keyed : op.keyed = some key) (seen : Saw (SeesUnused key) past) (kind : PaymentKind)
    (userId : String) (dto : Dto) (idempotencyKey : Option String) :
    wp (fun _ _ => True) (Admits op) (do
      let result ← (do
        let result ← FinanceService.execute kind userId dto idempotencyKey
        markIdempotencyKeyAsUsed key
        pure result)
      storeResponse key userId result
      pure result) ⟨{}, [], past⟩ (fun _ v => Processed key v) fun _ v => StillSeen key v := by
  refine (wp_bind _ _ _ _).2 ((wp_bind _ _ _ _).2 (wp_mono (wp_execute keyed seen _ _ _ _) ?_ fun _ _ h => h))
  rintro result ⟨s, frames, past⟩ ⟨rfl, seen⟩
  refine (wp_bind _ _ _ _).2 (wp_mono (wp_markIdempotencyKeyAsUsed keyed seen) ?_ fun _ _ h => h)
  rintro _ ⟨s, frames, past⟩ ⟨rfl, seen, spent⟩
  refine (wp_bind _ _ _ _).2 (wp_await (calls_of_seen keyed seen spent) (fun _ => ?_) fun e => ?_)
  · exact ⟨rfl, seen.append _, spent.append _⟩
  · exact ⟨rfl, seen.append _⟩

theorem settles_of_spends {ev : Event Empty (PaymentCall Dto V) PaymentCall.Reply} (h : Spends key ev) :
    Settles key ev := by
  cases ev with
  | committed => exact h
  | failed => exact h
  | answered c r =>
    cases c with
    | getCachedResponse => exact h.elim
    | _ => exact h

/-- A payment with a key that was seen unused returns only when the key is settled. -/
theorem wp_processWithIdempotency (keyed : op.keyed = some key) (seen : Saw (SeesUnused key) past)
    (kind : PaymentKind) (userId : String) (dto : Dto) (idempotencyKey : Option String) :
    wp (fun _ _ => True) (Admits op) (processWithIdempotency key userId do
      let result ← FinanceService.execute kind userId dto idempotencyKey
      markIdempotencyKeyAsUsed key
      pure result) ⟨{}, [], past⟩
      (fun _ v => StillSeen key v ∧ Saw (Settles key) v.past) fun _ v => StillSeen key v := by
  have found (past : Past Dto V) (seen : Saw (SeesUnused key) past) (response : V) :
      StillSeen key ⟨{}, [], past ++ [.answered (.getCachedResponse key userId) (some response)]⟩ ∧
        Saw (Settles key) (past ++ [.answered (.getCachedResponse key userId) (some response)]) :=
    ⟨⟨rfl, seen.append _⟩, saw_last _ ⟨rfl, Option.some_ne_none response⟩⟩
  refine (wp_bind _ _ _ _).2 (wp_await (calls_of_seen keyed seen trivial) (fun cached => ?_) fun e => ?_)
  · cases cached with
    | some response => exact found past seen response
    | none =>
      have seen := seen.append (.answered (.getCachedResponse key userId) none)
      refine (wp_bind _ _ _ _).2 (wp_await (calls_of_seen keyed seen trivial) (fun locked => ?_) fun e => ?_)
      · have seen := seen.append (.answered (.acquireLock key userId) locked)
        cases locked with
        | true =>
          refine wp_mono (wp_tryFinally keyed (wp_processor keyed seen kind userId dto idempotencyKey)) ?_
            fun _ _ h => h
          rintro result v ⟨frames, seen, ev, hev, spends⟩
          exact ⟨⟨frames, seen⟩, ev, hev, settles_of_spends spends⟩
        | false =>
          refine (wp_bind _ _ _ _).2 (wp_await (calls_of_seen keyed seen trivial) (fun retryResult => ?_)
            fun e => ?_)
          · cases retryResult with
            | some response => exact found _ seen response
            | none => exact ⟨rfl, seen.append _⟩
          · exact ⟨rfl, seen.append _⟩
      · exact ⟨rfl, seen.append _⟩
  · exact ⟨rfl, seen.append _⟩

end Keyed

/-- A payment that has returned has reported it. -/
def Reported (op : PaymentOp Dto) (past : Past Dto V) : Prop := ∀ key ∈ op.keyed, Saw (SeesUnused key) past

theorem fails_of_seen {op : PaymentOp Dto} {key : String} {past : Past Dto V} (keyed : op.keyed = some key)
    (seen : Saw (SeesUnused key) past) (e : PaymentError) : Fails op e past := by
  intro key' hkey'
  rw [keyed] at hkey'
  obtain rfl := Option.some.inj hkey'
  exact .inr (.inl seen)

theorem wp_processPayment {op : PaymentOp Dto} {idempotencyKey : Option String}
    (keyed : op.keyed = idempotencyKey.filter (· ≠ "")) (kind : PaymentKind) (userId : String) (dto : Dto) :
    wp (fun _ _ => True) (Admits op)
      (returning (processPayment kind userId dto idempotencyKey) : PaymentAction Dto V Unit)
      ⟨{}, [], []⟩ (fun _ v => Reported op v.past) fun e v => Fails op e v.past := by
  refine (wp_bind _ _ _ _).2 ?_
  unfold processPayment
  cases hkey : idempotencyKey.filter (· ≠ "") with
  | none =>
    have unkeyed {p : String → Prop} (key : String) (hk : key ∈ op.keyed) : p key := by
      rw [keyed, hkey] at hk
      cases hk
    refine (wp_bind _ _ _ _).2 (wp_await ⟨unkeyed, trivial⟩ (fun result => ?_) fun e => unkeyed)
    cases result with
    | some result => exact wp_await ⟨unkeyed, unkeyed⟩ (fun _ => unkeyed) fun e => unkeyed
    | none => exact unkeyed
  | some key =>
    have keyed : op.keyed = some key := keyed.trans hkey
    refine (wp_bind _ _ _ _).2 ((wp_bind _ _ _ _).2 (wp_await ⟨fun _ _ => .inl rfl, trivial⟩ (fun data => ?_)
      fun e => fails_failed op e _ _))
    have refused (e : PaymentError) (he : e = badKey) (past : Past Dto V) : Fails op e past :=
      fun _ _ => .inl he
    cases data with
    | none =>
      refine (wp_bind _ _ _ _).2 ((wp_ensure _).2 ⟨fun valid => ?_, fun _ => refused _ rfl _⟩)
      cases valid
    | some data =>
      refine (wp_bind _ _ _ _).2 ((wp_ensure _).2 ⟨fun valid => ?_, fun _ => refused _ rfl _⟩)
      have seen : Saw (SeesUnused key) ([] ++ [.answered (.getKey key) (some data)] : Past Dto V) :=
        saw_last _ ⟨rfl, data, rfl, (of_decide_eq_true valid).2⟩
      refine wp_mono (wp_processWithIdempotency keyed seen kind userId dto idempotencyKey) ?_ ?_
      · rintro result ⟨s, frames, past⟩ ⟨⟨rfl, seen⟩, settled⟩
        refine wp_await (calls_of_seen keyed seen ?_) (fun _ => ?_) fun e => fails_failed op e _ _
        · intro key' hkey'
          rw [keyed] at hkey'
          obtain rfl := Option.some.inj hkey'
          exact settled
        · intro key' hkey'
          rw [keyed] at hkey'
          obtain rfl := Option.some.inj hkey'
          exact seen.append _
      · rintro e v ⟨-, seen⟩
        exact fails_of_seen keyed seen e

theorem wp_program (op : PaymentOp Dto) :
    wp (fun _ _ => True) (Admits op) (op.program : PaymentAction Dto V Unit) ⟨{}, [], []⟩
      (fun _ v => Reported op v.past)
      fun e v => Fails op e v.past := by
  cases op with
  | generateIdempotencyKey userId newKey =>
    refine wp_await ⟨fun _ hk => (by cases hk), .inr ⟨userId, rfl⟩⟩ (fun _ _ hk => ?_) fun e _ hk => ?_
    · cases hk
    · cases hk
  | processInternalPayment userId dto idempotencyKey => exact wp_processPayment rfl .internal userId dto
  | processManualPayment userId dto idempotencyKey => exact wp_processPayment rfl .manual userId dto
  | tick seconds =>
    refine wp_await ⟨fun _ hk => (by cases hk), trivial⟩ (fun _ _ hk => ?_) fun e _ hk => ?_
    · cases hk
    · cases hk

/-! ## A spent key stays spent -/

/-- The key is marked as used, or is not there. -/
def Spent (x : Outside B V) (key : String) : Prop :=
  ∀ data ∈ live x.now (x.keys key), data.used = true

/-- Nothing expires back to life. -/
theorem live_of_later {α : Type} {now seconds : Nat} {entry : Option (Entry α)} {a : α}
    (h : live (now + seconds) entry = some a) : live now entry = some a := by
  obtain ⟨e, he, rfl⟩ := Option.map_eq_some_iff.1 h
  obtain ⟨he, later⟩ := Option.filter_eq_some_iff.1 he
  refine Option.map_eq_some_iff.2 ⟨e, Option.filter_eq_some_iff.2 ⟨he, ?_⟩, rfl⟩
  have := of_decide_eq_true later
  exact decide_eq_true (by omega)

/-- The operations at their start. -/
def begins (ext : Outside B V) (ops : List (PaymentOp Dto)) : PaymentSystem B Dto V :=
  Config.start {} ext (ops.map PaymentOp.program)

/-- The events of the operations of a run. -/
def Admitted (ops : List (PaymentOp Dto)) (i : Nat) (d : NoTables) (past : Past Dto V)
    (ev : Event Empty (PaymentCall Dto V) PaymentCall.Reply) : Prop :=
  ∃ op ∈ ops[i]?, Admits op d past ev

/-- Every thread goes on as its operation does. -/
abbrev Good (ops : List (PaymentOp Dto)) (c : PaymentSystem B Dto V) : Prop :=
  c.Good (fun _ _ => True) (Admitted ops) (fun i past => ∀ op ∈ ops[i]?, Reported op past)
    fun i e past => ∀ op ∈ ops[i]?, Fails op e past

theorem good_begins (ext : Outside B V) (ops : List (PaymentOp Dto)) : Good ops (begins ext ops) := by
  refine Config.good_start (fun _ => trivial) fun i p hp => ?_
  rw [List.getElem?_map, Option.map_eq_some_iff] at hp
  obtain ⟨op, hop, rfl⟩ := hp
  have only {q : PaymentOp Dto → Prop} (hq : q op) : ∀ op' ∈ ops[i]?, q op' := by
    intro op' hop'
    rw [hop] at hop'
    obtain rfl := Option.some.inj hop'
    exact hq
  refine wp_mono (wp_carry (I := fun _ => True) (wp_program op)
    (fun d past ev _ hev => ⟨⟨op, hop, hev⟩, trivial⟩) trivial fun s => ⟨s, trivial⟩)
    (fun _ _ h => only h.1) fun _ _ h => only h.1

theorem past_begins (ext : Outside B V) (ops : List (PaymentOp Dto)) (i : Nat) :
    (begins ext ops).past i = [] := by
  simp only [Config.past, begins, Config.start, List.getElem?_map]
  cases ops[i]? <;> rfl

variable [Bank B Dto V] [Stored V]

/-- No call brings a spent key back, except that the key is issued again. -/
theorem spent_handle {x : Outside B V} {key : String} (spent : Spent x key) {op : PaymentOp Dto}
    (other : ∀ userId, op ≠ .generateIdempotencyKey userId key) {past : Past Dto V} {c : PaymentCall Dto V}
    (calls : Calls op past c) : Spent (External.handle c x).1 key := by
  cases c with
  | setKey key' data =>
    by_cases same : key = key'
    · subst same
      have used : data.used = true := calls.2.resolve_right fun ⟨userId, issued⟩ => other userId issued
      intro data' found
      obtain ⟨e, he, rfl⟩ := Option.map_eq_some_iff.1 found
      obtain ⟨he, -⟩ := Option.filter_eq_some_iff.1 he
      obtain rfl : _ = e := Option.some.inj ((if_pos rfl).symm.trans he)
      exact used
    · have kept : live x.now (put x.keys key' (some ⟨data, x.now + 3600⟩) key) = live x.now (x.keys key) :=
        congrArg (live x.now) (if_neg same)
      exact fun data' found => spent data' (kept.symm.trans found)
  | acquireLock key' userId =>
    intro data found
    simp only [External.handle] at found
    split at found
    · exact spent data found
    · exact spent data found
  | tick seconds => exact fun data found => spent data (live_of_later found)
  | _ => exact spent

/-- What a call that was answered tells about the key, and still holds. -/
theorem spent_of_spends {x : Outside B V} {key : String} {c : PaymentCall Dto V}
    (h : Spends key (.answered c (External.handle c x).2)) : Spent (External.handle c x).1 key := by
  cases c with
  | getKey k =>
    obtain ⟨rfl, gone⟩ := h
    intro data found
    have found : live x.now (x.keys k) = some data := found
    rw [show live x.now (x.keys k) = none from gone] at found
    cases found
  | setKey k data =>
    obtain ⟨rfl, used⟩ := h
    intro data' found
    obtain ⟨e, he, rfl⟩ := Option.map_eq_some_iff.1 found
    obtain ⟨he, -⟩ := Option.filter_eq_some_iff.1 he
    obtain rfl : _ = e := Option.some.inj ((if_pos rfl).symm.trans he)
    exact used
  | _ => exact h.elim

/-- Whoever has settled the key, or returned a payment with it, finds it spent. -/
structure Settled (ops : List (PaymentOp Dto)) (key : String) (past : Nat → Past Dto V) (x : Outside B V) :
    Prop where
  settled : ∀ i, Saw (Settles key) (past i) → Spent x key
  stored : ∀ userId, x.responses key userId ≠ none → Spent x key
  returned : ∀ i, ∀ op ∈ ops[i]?, op.keyed = some key → returns (past i) ≠ [] → Spent x key

section Runs

variable {ops : List (PaymentOp Dto)} {key : String} {past : Nat → Past Dto V} {x : Outside B V} {i : Nat}
  {op : PaymentOp Dto} {c : PaymentCall Dto V}

theorem responses_handle {c : PaymentCall Dto V} {userId : String}
    (h : (External.handle c x).1.responses key userId ≠ none) :
    x.responses key userId ≠ none ∨ ∃ response, c = .storeResponse key userId response := by
  cases c with
  | storeResponse key' userId' response =>
    by_cases same : key = key' ∧ userId = userId'
    · obtain ⟨rfl, rfl⟩ := same
      exact .inr ⟨response, rfl⟩
    · refine .inl fun nothing => h ?_
      exact (if_neg same).trans nothing
  | acquireLock key' userId' =>
    refine .inl fun nothing => h ?_
    simp only [External.handle]
    split <;> exact nothing
  | _ => exact .inl h

/-- A call that an operation makes keeps `Settled`. -/
theorem Settled.called (h : Settled ops key past x) (hop : op ∈ ops[i]?)
    (other : ∀ userId, op ≠ .generateIdempotencyKey userId key) (calls : Calls op (past i) c)
    {ev : Event Empty (PaymentCall Dto V) PaymentCall.Reply}
    (hev : ev = .failed c ∨ ev = .answered c (External.handle c x).2) :
    Settled ops key (Function.update past i (past i ++ [ev])) (External.handle c x).1 := by
  have keeps (spent : Spent x key) : Spent (External.handle c x).1 key := spent_handle spent other calls
  have now (j : Nat) (saw : Saw (Settles key) (Function.update past i (past i ++ [ev]) j)) :
      Spent (External.handle c x).1 key := by
    by_cases hj : j = i
    · subst hj
      rw [Function.update_self] at saw
      obtain ⟨ev', hev', settles⟩ := saw
      rcases List.mem_append.1 hev' with hev' | hev'
      · exact keeps (h.settled j ⟨ev', hev', settles⟩)
      · obtain rfl := List.mem_singleton.1 hev'
        rcases hev with rfl | rfl
        · exact settles.elim
        · cases c with
          | getCachedResponse k userId =>
            obtain ⟨rfl, found⟩ := settles
            refine h.stored userId fun nothing => found ?_
            show (live x.now (x.responses k userId)).bind readBack = none
            rw [nothing]
            rfl
          | _ => exact spent_of_spends settles
    · rw [Function.update_of_ne hj] at saw
      exact keeps (h.settled j saw)
  refine ⟨now, fun userId stored => ?_, fun j op' hop' keyed reported => ?_⟩
  · rcases responses_handle stored with stored | ⟨response, rfl⟩
    · exact keeps (h.stored userId stored)
    · obtain ⟨ev', hev', spends⟩ : Saw (Spends key) (past i) := calls.2
      exact keeps (h.settled i ⟨ev', hev', settles_of_spends spends⟩)
  · by_cases hj : j = i
    · subst hj
      rw [Function.update_self, returns, List.filterMap_append] at reported
      by_cases before : returns (past j) = []
      · have last : returns [ev] ≠ [] := fun nothing => reported (by
          rw [show List.filterMap _ (past j) = [] from before, show List.filterMap _ [ev] = [] from nothing]
          rfl)
        rcases hev with rfl | rfl
        · exact absurd rfl last
        · cases c with
          | returned v =>
            obtain rfl := Option.some.inj (hop.symm.trans hop')
            exact keeps (h.settled j (calls.2 key keyed))
          | _ => exact absurd rfl last
      · exact keeps (h.returned j op' hop' keyed before)
    · rw [Function.update_of_ne hj] at reported
      exact keeps (h.returned j op' hop' keyed reported)

omit [Bank B Dto V] [Stored V] in
/-- A call that did not reach the other system keeps `Settled`. -/
theorem Settled.unsent (h : Settled ops key past x) :
    Settled ops key (Function.update past i (past i ++ [.failed c])) x := by
  refine ⟨fun j saw => ?_, h.stored, fun j op' hop' keyed reported => ?_⟩
  · by_cases hj : j = i
    · subst hj
      rw [Function.update_self] at saw
      obtain ⟨ev', hev', settles⟩ := saw
      rcases List.mem_append.1 hev' with hev' | hev'
      · exact h.settled j ⟨ev', hev', settles⟩
      · obtain rfl := List.mem_singleton.1 hev'
        exact settles.elim
    · rw [Function.update_of_ne hj] at saw
      exact h.settled j saw
  · by_cases hj : j = i
    · subst hj
      rw [Function.update_self, returns, List.filterMap_append] at reported
      exact h.returned j op' hop' keyed fun before => reported (by
        rw [show List.filterMap _ (past j) = [] from before]
        rfl)
    · rw [Function.update_of_ne hj] at reported
      exact h.returned j op' hop' keyed reported

end Runs

/-- What every step of a run keeps, if the key is not issued again. -/
theorem settled_of_reaches {ext : Outside B V} {ops : List (PaymentOp Dto)} {key : String}
    (unused : ∀ userId, ext.responses key userId = none)
    (once : ∀ userId, .generateIdempotencyKey userId key ∉ ops) {c : PaymentSystem B Dto V}
    (run : Reaches (fun _ _ => True) (begins ext ops) c) : Good ops c ∧ Settled ops key c.past c.ext := by
  refine run.invariant (fun c => Settled ops key c.past c.ext) (fun _ => trivial) (fun _ _ => trivial)
    (good_begins ext ops) ?_ fun {c c' eff} good moves _ settled => ⟨trivial, ?_⟩
  · have nothing : (begins ext ops).past = fun _ => [] := funext (past_begins ext ops)
    rw [nothing]
    refine ⟨fun i saw => ?_, fun userId stored => absurd (unused userId) stored,
      fun i op _ _ reported => absurd rfl reported⟩
    obtain ⟨ev, hev, -⟩ := saw
    cases hev
  · cases moves with
    | internal silent db ext past log =>
      rw [past, ext.resolve_right fun ⟨m, _⟩ => m.elim]
      exact settled
    | commit i nested F admitted =>
      obtain ⟨op, -, never⟩ := admitted
      exact never.elim
    | called i call answered admitted db ext past log =>
      obtain ⟨op, hop, admits⟩ := admitted
      have other (userId : String) : op ≠ .generateIdempotencyKey userId key := by
        rintro rfl
        exact once userId (List.mem_of_getElem? hop)
      rw [past, ext]
      cases answered with
      | true => exact settled.called hop other admits (.inr rfl)
      | false => exact settled.called hop other admits (.inl rfl)
    | unsent i call admitted db ext past log =>
      rw [past, ext]
      exact settled.unsent

/-- The key is spent, and thread `j` has done nothing but look keys up. -/
structure Quiet (key : String) (past : Past Dto V) (x : Outside B V) : Prop where
  spent : Spent x key
  reads : ∀ ev ∈ past, ∃ c : PaymentCall Dto V, c.readsKey = true ∧ (ev = .failed c ∨ ∃ r, ev = .answered c r)
  unseen : ¬Saw (SeesUnused key) past

/-- A spent key is not seen unused. -/
theorem not_seesUnused {x : Outside B V} {key : String} (spent : Spent x key) (c : PaymentCall Dto V) :
    ¬SeesUnused key (.answered c (External.handle c x).2) := by
  intro sees
  cases c with
  | getKey k =>
    obtain ⟨rfl, data, found, unused⟩ := sees
    rw [spent data found] at unused
    cases unused
  | _ => exact sees

theorem Quiet.step {key : String} {past : Past Dto V} {x x' : Outside B V} (h : Quiet key past x)
    {op : PaymentOp Dto} (keyed : op.keyed = some key) {c : PaymentCall Dto V} (calls : Calls op past c)
    {ev : Event Empty (PaymentCall Dto V) PaymentCall.Reply}
    (hev : ev = .failed c ∨ ev = .answered c (External.handle c x).2) (spent : Spent x' key) :
    Quiet key (past ++ [ev]) x' := by
  refine ⟨spent, fun ev' hev' => ?_, fun saw => ?_⟩
  · rcases List.mem_append.1 hev' with hev' | hev'
    · exact h.reads ev' hev'
    · obtain rfl := List.mem_singleton.1 hev'
      exact ⟨c, (calls.1 key keyed).resolve_right h.unseen, hev.imp_right fun answered => ⟨_, answered⟩⟩
  · obtain ⟨ev', hev', sees⟩ := saw
    rcases List.mem_append.1 hev' with hev' | hev'
    · exact h.unseen ⟨ev', hev', sees⟩
    · obtain rfl := List.mem_singleton.1 hev'
      rcases hev with rfl | rfl
      · exact sees
      · exact not_seesUnused h.spent c sees

theorem quiet_of_reaches {ops : List (PaymentOp Dto)} {key : String}
    (once : ∀ userId, .generateIdempotencyKey userId key ∉ ops) {c₁ c₂ : PaymentSystem B Dto V}
    (good : Good ops c₁) (run : Reaches (fun _ _ => True) c₁ c₂) {j : Nat} {later : PaymentOp Dto}
    (hj : ops[j]? = some later) (keyed : later.keyed = some key) (quiet : Quiet key (c₁.past j) c₁.ext) :
    Good ops c₂ ∧ Quiet key (c₂.past j) c₂.ext := by
  refine run.invariant (fun c => Quiet key (c.past j) c.ext) (fun _ => trivial) (fun _ _ => trivial)
    good quiet fun {c c' eff} good moves _ quiet => ⟨trivial, ?_⟩
  cases moves with
  | internal silent db ext past log =>
    rw [past, ext.resolve_right fun ⟨m, _⟩ => m.elim]
    exact quiet
  | commit i nested F admitted =>
    obtain ⟨op, -, never⟩ := admitted
    exact never.elim
  | called i call answered admitted db ext past log =>
    obtain ⟨op, hop, admits⟩ := admitted
    have calls : Calls op (c.past i) call := by cases answered <;> exact admits
    have other (userId : String) : op ≠ .generateIdempotencyKey userId key := by
      rintro rfl
      exact once userId (List.mem_of_getElem? hop)
    have spent : Spent c'.ext key := ext ▸ spent_handle quiet.spent other calls
    rw [past]
    by_cases own : j = i
    · subst own
      obtain rfl := Option.some.inj (hj.symm.trans hop)
      rw [Function.update_self]
      refine quiet.step keyed calls ?_ spent
      cases answered with
      | true => exact .inr rfl
      | false => exact .inl rfl
    · rw [Function.update_of_ne own]
      exact ⟨spent, quiet.reads, quiet.unseen⟩
  | unsent i call admitted db ext past log =>
    obtain ⟨op, hop, calls⟩ := admitted
    rw [past, ext]
    by_cases own : j = i
    · subst own
      obtain rfl := Option.some.inj (hj.symm.trans hop)
      rw [Function.update_self]
      exact quiet.step keyed calls (.inl rfl) quiet.spent
    · rw [Function.update_of_ne own]
      exact quiet

omit [Bank B Dto V] [Stored V] in
theorem refused_of_quiet {ops : List (PaymentOp Dto)} {key : String} {c : PaymentSystem B Dto V}
    (good : Good ops c) {j : Nat} {later : PaymentOp Dto} (hj : ops[j]? = some later)
    (keyed : later.keyed = some key) (quiet : Quiet key (c.past j) c.ext)
    {t : Thread NoTables Empty (PaymentCall Dto V) PaymentCall.Reply PaymentError}
    (ht : c.threads[j]? = some t) : Refused t := by
  have past : c.past j = t.past := by simp [Config.past, ht]
  rw [past] at quiet
  obtain ⟨s, -, spec⟩ := good j t ht
  refine ⟨?_, quiet.reads, fun e ended unfailed => ?_⟩
  · obtain ⟨prog, frames, past⟩ := t
    cases prog with
    | ret a => exact absurd (spec later hj key keyed) quiet.unseen
    | _ => rfl
  · rw [ended] at spec
    refine (spec later hj key keyed).resolve_right ?_
    rintro (seen | ⟨c', failed⟩)
    · exact quiet.unseen seen
    · exact unfailed c' failed

/-- **A key pays once.** When a payment with a key has returned, every call with the
key that starts later is refused, whatever else runs, and does nothing but look
the key up. -/
theorem replay_refused {ext : Outside B V} {ops : List (PaymentOp Dto)} {key : String}
    (unused : ∀ userId, ext.responses key userId = none)
    (once : ∀ userId, .generateIdempotencyKey userId key ∉ ops) {c₁ c₂ : PaymentSystem B Dto V}
    (before : Reaches (fun _ _ => True) (begins ext ops) c₁) (after : Reaches (fun _ _ => True) c₁ c₂)
    {i j : Nat} {first later : PaymentOp Dto} (hi : ops[i]? = some first) (hj : ops[j]? = some later)
    (firstKey : first.keyed = some key) (laterKey : later.keyed = some key)
    (succeeded : returns (c₁.past i) ≠ []) (starts : c₁.past j = []) :
    ∀ t ∈ c₂.threads[j]?, Refused t := by
  obtain ⟨good, settled⟩ := settled_of_reaches unused once before
  have spent := settled.returned i first hi firstKey succeeded
  have quiet : Quiet key (c₁.past j) c₁.ext := by
    rw [starts]
    refine ⟨spent, fun ev hev => (by cases hev), ?_⟩
    rintro ⟨ev, hev, -⟩
    cases hev
  obtain ⟨good, quiet⟩ := quiet_of_reaches once good after hj laterKey quiet
  exact fun t ht => refused_of_quiet good hj laterKey quiet ht

/-- What has been paid. -/
structure Till where
  taken : Nat := 0

/-- Every payment is taken, and its amount is the result. -/
instance : Bank Till Nat Nat := ⟨fun _ _ amount _ till => (⟨till.taken + amount⟩, some amount)⟩

/-- An hour's key of the user. -/
def oneKey : Outside Till Nat where
  bank := {}
  keys := put (fun _ => none) "k" (some ⟨{ userId := "u" }, 3600⟩)

/-- The payment is sent twice, with its key. -/
def sentTwice : List (PaymentOp Nat) :=
  List.replicate 2 (.processInternalPayment "u" 500 (some "k"))

/-- The first payment has returned and the second has not begun; then the second is sent. -/
theorem sent_in_turn : ∃ c₁ c₂, Reaches (fun _ _ => True) (begins oneKey sentTwice) c₁ ∧
    Reaches (fun _ _ => True) c₁ c₂ ∧ returns (c₁.past 0) = [500] ∧ c₁.past 1 = [] ∧
    c₂.threads.map Thread.threw = [false, true] ∧ c₂.ext.bank.taken = 500 ∧
    live c₂.ext.now (c₂.ext.responses "k" "u") = some 500 := by
  obtain ⟨c₁, hc₁, first, second, c₂, hc₂, threw, taken, stored⟩ :
      ∃ c₁ ∈ (begins oneKey sentTwice).replay (fun _ _ => True) (takeTurns Empty PaymentError [(0, 9)]),
        returns (c₁.past 0) = [500] ∧ (c₁.past 1).isEmpty = true ∧
        ∃ c₂ ∈ c₁.replay (fun _ _ => True) (takeTurns Empty PaymentError [(1, 1)]),
          c₂.threads.map Thread.threw = [false, true] ∧ c₂.ext.bank.taken = 500 ∧
          live c₂.ext.now (c₂.ext.responses "k" "u") = some 500 := by
    decide +kernel
  exact ⟨c₁, c₂, .of_replay hc₁, .of_replay hc₂, first, List.isEmpty_iff.1 second, threw, taken, stored⟩

/-- The second payment is refused. -/
theorem second_refused : ∃ c₁ c₂, Reaches (fun _ _ => True) (begins oneKey sentTwice) c₁ ∧
    Reaches (fun _ _ => True) c₁ c₂ ∧ returns (c₁.past 0) = [500] ∧ c₂.ext.bank.taken = 500 ∧
    ∀ t ∈ c₂.threads[1]?, Refused t := by
  obtain ⟨c₁, c₂, before, after, first, second, -, taken, -⟩ := sent_in_turn
  have once (userId : String) : .generateIdempotencyKey userId "k" ∉ sentTwice := by simp [sentTwice]
  refine ⟨c₁, c₂, before, after, first, taken, ?_⟩
  refine replay_refused (fun _ => rfl) once before after (i := 0) (j := 1) rfl rfl rfl rfl ?_ second
  rw [first]
  exact List.cons_ne_nil _ _

/-- Its result is stored, and not returned. -/
theorem stored_result_withheld : ∃ c₁ c₂, Reaches (fun _ _ => True) (begins oneKey sentTwice) c₁ ∧
    Reaches (fun _ _ => True) c₁ c₂ ∧ returns (c₁.past 0) = [500] ∧ c₁.past 1 = [] ∧
    (∀ t ∈ c₂.threads[1]?, t.threw = true) ∧ live c₂.ext.now (c₂.ext.responses "k" "u") = some 500 := by
  obtain ⟨c₁, c₂, before, after, first, second, threw, -, stored⟩ := sent_in_turn
  refine ⟨c₁, c₂, before, after, first, second, fun t ht => ?_, stored⟩
  have mapped : (c₂.threads.map Thread.threw)[1]? = some t.threw := by
    rw [List.getElem?_map, show c₂.threads[1]? = some t from ht]
    rfl
  rw [threw] at mapped
  exact (Option.some.inj mapped).symm

end Heightt.PaymentKeys
