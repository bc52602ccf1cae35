import Heightt.Activities.Service
import Heightt.ReadCommitted.Guarantee
import Heightt.ReadCommitted.InTurn
import Mathlib.Tactic.Linarith
import Mathlib.Tactic.NormNum

/-!
# Places and registrations

The capacity is checked on one of the two ways to a confirmed registration, by
counting rows, and a cancelled row still takes its user's only registration.
`Accounted` says when a run does not meet this: the count stands for the places
taken, a registration is confirmed only when there is room, and none is cancelled
while its user could register again.
-/

namespace Heightt.Activities

open Store ReadCommitted Prog Database ActivitiesService

/-- What the others can have done in the meantime. -/
structure Grows (d d' : ActivityDb) : Prop where
  now : d.now ≤ d'.now
  events : d'.events = d.events

theorem Grows.refl (d : ActivityDb) : Grows d d := ⟨Nat.le_refl _, rfl⟩

theorem Grows.trans {d d' d'' : ActivityDb} (h : Grows d d') (h' : Grows d' d'') : Grows d d'' :=
  ⟨Nat.le_trans h.now h'.now, h'.events.trans h.events⟩

theorem grows_apply (w : ActivityStmt) (d : ActivityDb) : Grows d (w.apply d) := by
  cases w with
  | tick ms => exact ⟨Nat.le_add_right _ _, rfl⟩
  | _ => exact ⟨Nat.le_refl _, rfl⟩

theorem grows_applyAll (F : List ActivityStmt) (d : ActivityDb) : Grows d (applyAll F d) := by
  induction F generalizing d with
  | nil => exact .refl d
  | cons w F ih => exact (grows_apply w d).trans (ih _)

theorem guarded_grows : Guarded (D := ActivityDb) (C := ActivityCall) (R := ActivityCall.Reply) Grows
    fun _ => False :=
  ⟨Grows.refl, Grows.trans, fun h => h.elim⟩

theorem Grows.findEvent {d d' : ActivityDb} (h : Grows d d') (id : String) :
    d'.findEvent id = d.findEvent id := by
  rw [ActivityDb.findEvent, h.events, ActivityDb.findEvent]

/-- The statement leaves the registrations alone. -/
def ActivityStmt.sellsTickets : ActivityStmt → Bool
  | createTickets _ | createTicketPurchase _ => true
  | _ => false

/-- A call, with the identifiers it is given, or time passing. -/
inductive ActivityOp where
  | registerForActivity (userId activityId : String) (dto : RegisterActivityDto) (new : NewRegistration)
  | confirmRegistration (registrationId userId : String)
  | cancelRegistration (registrationId userId : String)
  | tick (ms : Nat)

namespace ActivityOp

/-- The program of a call. -/
def program : ActivityOp → ActivityAction Unit
  | registerForActivity userId activityId dto new =>
    ActivitiesService.registerForActivity userId activityId dto new
  | confirmRegistration registrationId userId =>
    ActivitiesService.confirmRegistration registrationId userId
  | cancelRegistration registrationId userId =>
    ActivitiesService.cancelRegistration registrationId userId
  | tick ms => statement (.tick ms)

/-- What a call may commit in state `d`. -/
inductive Writes : ActivityOp → ActivityDb → List ActivityStmt → Prop where
  | register (userId activityId : String) (dto : RegisterActivityDto) (new : NewRegistration)
    (d : ActivityDb) (activity : Event) (counted : Option Nat) (sales : List ActivityStmt)
    (found : d.findEvent activityId = some activity)
    (room : ∀ (capacity : Int) (n : Nat), activity.capacity = some capacity → counted = some n →
      n + quantity dto ≤ capacity)
    (sells : ∀ w ∈ sales, w.sellsTickets = true) :
    Writes (registerForActivity userId activityId dto new) d
      (.createRegistration (registrationRow activity userId dto new) counted :: sales)
  | confirm (registrationId userId : String) (d : ActivityDb) :
    Writes (confirmRegistration registrationId userId) d [.updateRegistration registrationId .confirmed]
  | cancel (registrationId userId : String) (d : ActivityDb) :
    Writes (cancelRegistration registrationId userId) d [.updateRegistration registrationId .cancelled]
  | tick (ms : Nat) (d : ActivityDb) : Writes (tick ms) d [.tick ms]

end ActivityOp

section Specs

variable {Q : List ActivityStmt → Prop} {Ψ : ActivityDb → List ActivityStmt → List ActivityStmt → Prop}
  {d : ActivityDb} {l : List ActivityStmt} {β : Type}

theorem calls_invalidateRegistrationCaches (activityId : String) :
    Makes Calls (invalidateRegistrationCaches activityId) fun _ => True :=
  .attempt (.bind (.request (fun _ => trivial) trivial) fun _ _ =>
    .bind (.request (fun _ => trivial) trivial) fun _ _ => .request (fun _ => trivial) trivial)

/-- After its transaction a call only tells others. -/
theorem commits_notified {activityId : String} {p : ActivityAction Unit} (hp : Makes Calls p fun _ => True) :
    Commits Grows Ψ (fun _ => True) d l ((invalidateRegistrationCaches activityId).bind fun _ => p) := by
  refine .makes_bind Grows.refl Grows.trans (calls_invalidateRegistrationCaches activityId) fun d' _ _ _ => ?_
  rw [← Prog.bind_ret p]
  exact .makes_bind Grows.refl Grows.trans hp fun _ _ _ _ => .ret trivial

theorem calls_createNotification (userId title : String) :
    Makes Calls (createNotification userId title) fun _ => True := .request (fun _ => trivial) trivial

theorem commits_checkCapacity {activity : Event} {dto : RegisterActivityDto}
    {f : Option Nat → ActivityAction β}
    (hf : ∀ d' counted, Grows d d' → (∀ (capacity : Int) (n : Nat),
      activity.capacity = some capacity → counted = some n → n + quantity dto ≤ capacity) → Commits Grows Ψ Q d' l (f counted)) :
    Commits Grows Ψ Q d l ((checkCapacity activity dto).bind f) := by
  unfold checkCapacity
  split
  · rename_i capacity hcapacity
    simp only [bind_eq, Prog.bind_assoc]
    refine .outside_bind fun s d' hs hd => .ensure_bind fun room => hf d' _ (hs.trans hd) ?_
    rintro c n hc ⟨⟩
    obtain ⟨hcapacity, -⟩ := Option.filter_eq_some_iff.1 hcapacity
    rw [hc] at hcapacity
    exact Option.some.inj hcapacity ▸ room
  · exact hf d none (.refl d) (by simp)

theorem adds_createTickets (activity : Event) (userId : String) (dto : RegisterActivityDto)
    (new : NewRegistration) : Adds (fun _ => False) (createTickets activity userId dto new)
      fun _ F => ∀ w ∈ F, w.sellsTickets = true := by
  refine .exec_bind (Adds.whenSome_exec.mono fun _ F hF w hw => ?_)
  subst hF
  rcases List.mem_cons.1 hw with rfl | hw
  · rfl
  · obtain ⟨ticket, -, rfl⟩ := List.mem_map.1 hw
    rfl

theorem commits_registerForActivity (userId activityId : String) (dto : RegisterActivityDto)
    (new : NewRegistration) :
    Commits Grows (fun d _ => (ActivityOp.registerForActivity userId activityId dto new).Writes d)
      (fun _ => True) d [] (ActivitiesService.registerForActivity userId activityId dto new) := by
  unfold ActivitiesService.registerForActivity
  simp only [bind_eq]
  refine .outside_bind fun s d hs hd => .orThrow_bind fun activity found => .ensure_bind fun _ => ?_
  refine .query_bind fun d₁ hd₁ => .ensure_bind fun _ => ?_
  refine commits_checkCapacity fun d₂ counted hd₂ room => ?_
  refine .outside_bind fun _ d₃ hd₃ hd₄ => .ensure_bind fun _ => ?_
  refine .transaction_bind guarded_grows (G := fun _ F => ∃ sales, (∀ w ∈ sales, w.sellsTickets = true) ∧
    F = .createRegistration (registrationRow activity userId dto new) counted :: sales) ?_ ?_
  · refine .exec_bind ?_
    unfold Prog.when
    split
    · exact (adds_createTickets activity userId dto new).mono fun _ F hF => ⟨F, hF, rfl⟩
    · exact .ret ⟨[], by simp, rfl⟩
  · rintro d₄ - F hd₅ ⟨sales, sells, rfl⟩ -
    have grows : Grows s d₄ := ((((hd.trans hd₁).trans hd₂).trans hd₃).trans hd₄).trans hd₅
    refine ⟨.inr (.register userId activityId dto new d₄ activity counted sales ?_ room sells), ?_⟩
    · rw [grows.findEvent, found]
    · exact commits_notified (calls_createNotification _ _)

theorem commits_findRegistration {registrationId : String}
    {f : EventRegistration × Event → ActivityAction β}
    (hf : ∀ d' found, Commits Grows Ψ Q d' l (f found)) :
    Commits Grows Ψ Q d l ((findRegistration registrationId).bind f) := by
  unfold findRegistration
  simp only [bind_eq, Prog.bind_assoc]
  exact .outside_bind fun _ d' _ _ => .orThrow_bind fun found _ => hf d' found

theorem commits_manages {userId : String} {activity : Event} {f : Bool → ActivityAction β}
    (hf : ∀ d' permitted, Commits Grows Ψ Q d' l (f permitted)) :
    Commits Grows Ψ Q d l ((manages userId activity).bind f) := by
  unfold manages
  simp only [bind_eq, Prog.bind_assoc]
  exact .outside_bind fun _ _ _ _ => .outside_bind fun _ d' _ _ => hf d' _

theorem commits_confirmRegistration (registrationId userId : String) :
    Commits Grows (fun d _ => (ActivityOp.confirmRegistration registrationId userId).Writes d)
      (fun _ => True) d [] (ActivitiesService.confirmRegistration registrationId userId) := by
  unfold ActivitiesService.confirmRegistration
  simp only [bind_eq]
  refine commits_findRegistration fun d found => commits_manages fun d permitted => ?_
  refine .ensure_bind fun _ => .ensure_bind fun _ => ?_
  refine .statement_bind guarded_grows fun d' _ _ => ⟨.confirm _ _ d', ?_⟩
  exact commits_notified (calls_createNotification _ _)

theorem commits_cancelRegistration (registrationId userId : String) :
    Commits Grows (fun d _ => (ActivityOp.cancelRegistration registrationId userId).Writes d)
      (fun _ => True) d [] (ActivitiesService.cancelRegistration registrationId userId) := by
  have rest (d : ActivityDb) (registration : EventRegistration) :
      Commits Grows (fun d _ => (ActivityOp.cancelRegistration registrationId userId).Writes d)
        (fun _ => True) d [] ((ensure (registration.status ≠ .cancelled)
          (.badRequest "Registration is already cancelled")).bind fun _ =>
            (statement (.updateRegistration registrationId .cancelled)).bind fun _ =>
              invalidateRegistrationCaches registration.eventId) := by
    refine .ensure_bind fun _ => ?_
    refine .statement_bind guarded_grows fun d' _ _ => ⟨.cancel _ _ d', ?_⟩
    rw [← Prog.bind_ret (invalidateRegistrationCaches _)]
    exact commits_notified (.ret trivial)
  unfold ActivitiesService.cancelRegistration
  simp only [bind_eq]
  refine commits_findRegistration fun d found => ?_
  obtain ⟨registration, event⟩ := found
  unfold Prog.when
  split
  · rw [Prog.bind_assoc]
    exact commits_manages fun d permitted => .ensure_bind fun _ => rest d registration
  · exact rest d registration

/-- A call commits only what `ActivityOp.Writes` says. -/
theorem ActivityOp.commits (op : ActivityOp) :
    Commits Grows (fun d _ => op.Writes d) (fun _ => True) d [] op.program := by
  cases op with
  | registerForActivity userId activityId dto new =>
    exact commits_registerForActivity userId activityId dto new
  | confirmRegistration registrationId userId => exact commits_confirmRegistration registrationId userId
  | cancelRegistration registrationId userId => exact commits_cancelRegistration registrationId userId
  | tick ms =>
    rw [ActivityOp.program, ← Prog.bind_ret (statement _)]
    exact .statement_bind guarded_grows fun d _ _ => ⟨.tick ms d, .ret trivial⟩

end Specs

/-! ## What registrations should be -/

/-- Some registration of the user, in turn with others, succeeds. -/
def CanRegister (d : ActivityDb) (userId activityId : String) (dto : RegisterActivityDto) : Prop :=
  ∃ new o, (registerForActivity userId activityId dto new).Ends [] d ({} : Outside) o ∧ o.result = .ok ()

/-- The event is PUBLISHED and has not started. -/
def Event.isOpen (e : Event) (now : Nat) : Prop := e.status = .published ∧ now ≤ e.startDate

instance (e : Event) (now : Nat) : Decidable (e.isOpen now) := inferInstanceAs (Decidable (_ ∧ _))

/-- What the registrations of every state should be. -/
structure RegistrationsHold (d : ActivityDb) : Prop where
  capacity : ∀ id e, d.findEvent id = some e → ∀ capacity, e.capacity = some capacity →
    d.placesTaken id ≤ capacity
  one : ∀ r ∈ d.registrations.rows, ∀ s ∈ d.registrations.rows, r.eventId = s.eventId →
    r.userId = s.userId → r.status ≠ .cancelled → s.status ≠ .cancelled → r = s
  again : ∀ r ∈ d.registrations.rows, r.status = .cancelled →
    ∀ e, d.findEvent r.eventId = some e → e.isOpen d.now → ∀ dto,
      (∀ capacity, e.capacity = some capacity → d.placesTaken r.eventId + quantity dto ≤ capacity) →
        CanRegister d r.userId r.eventId dto

/-- The count of a registration is the number of places taken, a registration is
confirmed when there is room, and cancelled when its event is no longer open. -/
def ActivityStmt.Accounted (d : ActivityDb) : ActivityStmt → Prop
  | createRegistration r counted => r.status = .confirmed → ∀ e ∈ d.findEvent r.eventId,
      e.capacity = none ∨ counted.map (fun n : Nat => (n : ℚ)) = some (d.placesTaken r.eventId)
  | updateRegistration id status => ∀ r ∈ d.registrations.find id, ∀ e ∈ d.findEvent r.eventId,
      (status = .confirmed → r.status ≠ .confirmed →
        ∀ capacity ∈ e.capacity, d.placesTaken r.eventId + r.places ≤ capacity) ∧
      (status = .cancelled → ¬e.isOpen d.now)
  | _ => True

instance (d : ActivityDb) : (w : ActivityStmt) → Decidable (w.Accounted d)
  | .createRegistration r _ => inferInstanceAs (Decidable (_ → ∀ e ∈ d.findEvent r.eventId, _ ∨ _))
  | .updateRegistration id _ => inferInstanceAs (Decidable (∀ r ∈ d.registrations.find id,
      ∀ e ∈ d.findEvent r.eventId, (_ → _ → ∀ capacity ∈ e.capacity, _) ∧ (_ → ¬_)))
  | .createTickets _ | .createTicketPurchase _ | .createAttendance _ | .updateAttendance _ _ | .tick _ =>
    isTrue trivial

/-- Every commit is accounted for. -/
def Accounted (c : ActivitySystem) : Effect ActivityStmt ActivityCall → Prop
  | .commit _ _ F => ∀ w ∈ F, w.Accounted c.db
  | _ => True

instance (c : ActivitySystem) : (eff : Effect ActivityStmt ActivityCall) → Decidable (Accounted c eff)
  | .commit _ _ F => inferInstanceAs (Decidable (∀ w ∈ F, w.Accounted c.db))
  | .internal | .fault _ | .called .. | .unsent .. => isTrue trivial

/-! ## What a commit keeps -/

/-- An accounted run keeps more: a row is the only one of its user at the event,
also a cancelled one, and those stand for events that are no longer open. -/
structure Accounts (d : ActivityDb) : Prop where
  capacity : ∀ id e, d.findEvent id = some e → ∀ capacity, e.capacity = some capacity →
    d.placesTaken id ≤ capacity
  unique : ∀ r ∈ d.registrations.rows, ∀ s ∈ d.registrations.rows, r.eventId = s.eventId →
    r.userId = s.userId → r = s
  places : ∀ r ∈ d.registrations.rows, 0 ≤ r.places
  closed : ∀ r ∈ d.registrations.rows, r.status = .cancelled → ∀ e, d.findEvent r.eventId = some e →
    ¬e.isOpen d.now

theorem Accounts.hold {d : ActivityDb} (h : Accounts d) : RegistrationsHold d where
  capacity := h.capacity
  one := fun r hr s hs event user _ _ => h.unique r hr s hs event user
  again := fun r hr cancelled e he isOpen => absurd isOpen (h.closed r hr cancelled e he)

theorem placesTaken_insert {d : ActivityDb} {r : EventRegistration}
    (free : d.registrations.find r.id = none) (id : String) :
    ({ d with registrations := d.registrations.insert r } : ActivityDb).placesTaken id =
      d.placesTaken id + ActivityDb.placesAt id r := by
  show ((d.registrations.insert r).rows.map _).sum = _
  rw [Table.insert_rows free, List.map_append, List.sum_append, List.map_singleton, List.sum_singleton]
  rfl

theorem placesTaken_update {d : ActivityDb} {r : EventRegistration} {id : String}
    (found : d.registrations.find id = some r) (status : RegistrationStatus) (eventId : String) :
    ((ActivityStmt.updateRegistration id status).apply d).placesTaken eventId =
      d.placesTaken eventId +
        (ActivityDb.placesAt eventId (r.withStatus status) - ActivityDb.placesAt eventId r) :=
  Table.sum_map_modify found (.withStatus status) (fun _ => rfl) (ActivityDb.placesAt eventId)

theorem free_of_createRegistration {d : ActivityDb} {r : EventRegistration} {counted : Option Nat}
    (valid : (ActivityStmt.createRegistration r counted).check d = none) :
    d.registrations.find r.id = none ∧
      ∀ s ∈ d.registrations.rows, s.eventId = r.eventId → s.userId ≠ r.userId := by
  refine ⟨?_, fun s hs event user => ?_⟩
  · rw [← Option.not_isSome_iff_eq_none]
    intro taken
    simp [ActivityStmt.check, taken] at valid
  · have taken : (d.registrations.rows.any fun s => s.eventId = r.eventId ∧ s.userId = r.userId) = true :=
      List.any_eq_true.2 ⟨s, hs, decide_eq_true ⟨event, user⟩⟩
    simp only [ActivityStmt.check, taken, or_true, if_true] at valid
    cases valid

theorem find_of_updateRegistration {d : ActivityDb} {id : String} {status : RegistrationStatus}
    (valid : (ActivityStmt.updateRegistration id status).check d = none) :
    ∃ r, d.registrations.find id = some r := by
  rw [← Option.isSome_iff_exists]
  by_contra missing
  simp [ActivityStmt.check, missing] at valid

/-- A registration that finds its user without one, and room for its places. -/
theorem accounts_createRegistration {d : ActivityDb} (h : Accounts d) {r : EventRegistration}
    {counted : Option Nat} (valid : (ActivityStmt.createRegistration r counted).check d = none)
    (places : 0 ≤ r.places) (kept : r.status ≠ .cancelled)
    (room : r.status = .confirmed → ∀ e, d.findEvent r.eventId = some e → ∀ capacity,
      e.capacity = some capacity → d.placesTaken r.eventId + r.places ≤ capacity) :
    Accounts ((ActivityStmt.createRegistration r counted).apply d) := by
  obtain ⟨free, other⟩ := free_of_createRegistration valid
  have rows : (d.registrations.insert r).rows = d.registrations.rows ++ [r] := Table.insert_rows free
  have cases_ {s : EventRegistration} (hs : s ∈ (d.registrations.insert r).rows) :
      s ∈ d.registrations.rows ∨ s = r := by
    rw [rows, List.mem_append, List.mem_singleton] at hs
    exact hs
  refine ⟨fun id e he capacity hc => ?_, fun s hs t ht event user => ?_, fun s hs => ?_,
    fun s hs cancelled e he => ?_⟩
  · have taken := placesTaken_insert free id
    refine taken.trans_le ?_
    have old := h.capacity id e he capacity hc
    unfold ActivityDb.placesAt
    split
    · rename_i counts
      obtain ⟨rfl, confirmed⟩ := counts
      exact room confirmed e he capacity hc
    · rw [add_zero]
      exact old
  · rcases cases_ hs with old | rfl <;> rcases cases_ ht with old' | rfl
    · exact h.unique s old t old' event user
    · exact absurd user (other s old event)
    · exact absurd user.symm (other t old' event.symm)
    · rfl
  · rcases cases_ hs with hs | rfl
    · exact h.places s hs
    · exact places
  · rcases cases_ hs with hs | rfl
    · exact h.closed s hs cancelled e he
    · exact absurd cancelled kept

/-- A change of status that is accounted for. -/
theorem accounts_updateRegistration {d : ActivityDb} (h : Accounts d) {id : String}
    {status : RegistrationStatus} (accounted : (ActivityStmt.updateRegistration id status).Accounted d)
    (valid : (ActivityStmt.updateRegistration id status).check d = none) :
    Accounts ((ActivityStmt.updateRegistration id status).apply d) := by
  obtain ⟨r, found⟩ := find_of_updateRegistration valid
  have mem := Table.find_mem found
  have key := Table.find_key found
  -- Every row is an old one, but for the status of one.
  have cases_ {s : EventRegistration}
      (hs : s ∈ ((ActivityStmt.updateRegistration id status).apply d).registrations.rows) :
      (s ∈ d.registrations.rows ∧ s.id ≠ id) ∨ s = r.withStatus status := by
    obtain ⟨s₀, hs₀, rfl⟩ := List.mem_map.1 hs
    split
    · rename_i hid
      have := Table.find_of_mem hs₀
      rw [hid, found] at this
      exact .inr (by rw [Option.some.inj this])
    · rename_i hid
      exact .inl ⟨hs₀, hid⟩
  refine ⟨fun eventId e he capacity hc => ?_, fun s hs t ht event user => ?_, fun s hs => ?_,
    fun s hs cancelled e he => ?_⟩
  · rw [placesTaken_update found]
    have he : d.findEvent eventId = some e := he
    have old := h.capacity eventId e he capacity hc
    have nonneg := h.places r mem
    unfold ActivityDb.placesAt
    by_cases event : r.eventId = eventId
    · subst event
      by_cases before : r.status = .confirmed <;> by_cases after : status = .confirmed <;>
        simp only [EventRegistration.withStatus, before, after, and_self, and_false, if_true, if_false]
      · linarith
      · linarith
      · have room := (accounted r found e he).1 after before capacity hc
        linarith
      · linarith
    · simp only [EventRegistration.withStatus, event, false_and, if_false]
      linarith
  · rcases cases_ hs with ⟨hs, hsid⟩ | rfl <;> rcases cases_ ht with ⟨ht, htid⟩ | rfl
    · exact h.unique s hs t ht event user
    · exact absurd ((congrArg EventRegistration.id (h.unique s hs r mem event user)).trans key) hsid
    · exact absurd ((congrArg EventRegistration.id (h.unique r mem t ht event user)).symm.trans key) htid
    · rfl
  · rcases cases_ hs with ⟨hs, -⟩ | rfl
    · exact h.places s hs
    · exact h.places r mem
  · rcases cases_ hs with ⟨hs, -⟩ | rfl
    · exact h.closed s hs cancelled e he
    · exact (accounted r found e he).2 cancelled

theorem accounts_of_sales {sales : List ActivityStmt} (sells : ∀ w ∈ sales, w.sellsTickets = true)
    {d : ActivityDb} (h : Accounts d) : Accounts (applyAll sales d) := by
  induction sales generalizing d with
  | nil => exact h
  | cons w sales ih =>
    refine ih (fun w hw => sells w (List.mem_cons_of_mem _ hw)) ?_
    have := sells w List.mem_cons_self
    cases w with
    | createTickets ts => exact ⟨h.capacity, h.unique, h.places, h.closed⟩
    | createTicketPurchase p => exact ⟨h.capacity, h.unique, h.places, h.closed⟩
    | _ => cases this

theorem one_le_quantity (dto : RegisterActivityDto) : 1 ≤ quantity dto := by
  unfold quantity
  cases hq : dto.quantity with
  | none => simp
  | some q =>
    have := dto.min q hq
    split
    · exact le_refl _
    · exact this

theorem accounts_of_writes {d : ActivityDb} {op : ActivityOp} {F : List ActivityStmt} (h : Accounts d)
    (writes : op.Writes d F) (valid : violation F d = none) (accounted : ∀ w ∈ F, w.Accounted d) :
    Accounts (applyAll F d) := by
  cases writes with
  | register userId activityId dto new _ activity counted sales found room sells =>
    have key : activity.id = activityId := by simpa using List.find?_some found
    rw [applyAll_cons]
    refine accounts_of_sales sells (accounts_createRegistration h (violation_cons.1 valid).1 ?_ ?_ ?_)
    · exact zero_le_one.trans (one_le_quantity dto)
    · show (if activity.isFree then _ else _) ≠ _
      split <;> simp
    · intro confirmed e he capacity hc
      obtain rfl : activity = e := by
        rw [show (registrationRow activity userId dto new).eventId = activityId from key, found] at he
        exact Option.some.inj he
      rcases accounted _ List.mem_cons_self confirmed activity he with none_ | count
      · rw [none_] at hc
        cases hc
      · obtain ⟨n, hn, taken⟩ := Option.map_eq_some_iff.1 count
        rw [← taken]
        exact room capacity _ hc hn
  | confirm registrationId userId =>
    exact accounts_updateRegistration h (accounted _ List.mem_cons_self) (violation_cons.1 valid).1
  | cancel registrationId userId =>
    exact accounts_updateRegistration h (accounted _ List.mem_cons_self) (violation_cons.1 valid).1
  | tick ms =>
    refine ⟨h.capacity, h.unique, h.places, fun r hr cancelled e he isOpen => ?_⟩
    exact h.closed r hr cancelled e he ⟨isOpen.1, (Nat.le_add_right _ _).trans isOpen.2⟩

/-! ## Runs -/

/-- The calls at their start. -/
def begins (db : ActivityDb) (ops : List ActivityOp) : ActivitySystem :=
  Config.start db {} (ops.map ActivityOp.program)

/-- **Capacity and registrations.** In a run whose commits are accounted for, the
confirmed registrations of an event never take more than its capacity, a user has
one registration that is not cancelled, and can register again after that. -/
theorem registrations_hold {db : ActivityDb} {ops : List ActivityOp} {c : ActivitySystem}
    (accounts : Accounts db) (run : Reaches Accounted (begins db ops) c) : RegistrationsHold c.db := by
  have commits (i : Nat) (p : ActivityAction Unit) (hp : (ops.map ActivityOp.program)[i]? = some p) :
      Commits Grows (fun d _ F => ∃ op ∈ ops, op.Writes d F) (fun _ => True) db [] p := by
    rw [List.getElem?_map, Option.map_eq_some_iff] at hp
    obtain ⟨op, hop, rfl⟩ := hp
    exact op.commits.mono (fun s => ⟨s, .refl s⟩) (fun _ _ _ hF => ⟨op, List.mem_of_getElem? hop, hF⟩)
      fun _ hQ => hQ
  refine (run.induct_of_commits Grows.refl Grows.trans commits (fun d _ => Accounts d) accounts ?_
    fun _ h => h).1.hold
  exact fun {c i F} ⟨op, _, writes⟩ valid accounted h =>
    ⟨grows_applyAll F c.db, accounts_of_writes h writes valid accounted⟩

/-- The threads take turns: each pair is a thread and how many operations it completes. -/
def turns (ts : List (Nat × Nat)) : List (Action Empty ActivityError) :=
  ts.flatMap fun t => List.replicate t.2 (.thread t.1 .ok)

/-- One free activity, without registrations. -/
def oneActivity (capacity : Int) : ActivityDb where
  events := [{ id := "e", startDate := 1000, capacity := some capacity, status := .published }]

theorem accounts_oneActivity {capacity : Int} (nonneg : 0 ≤ capacity) : Accounts (oneActivity capacity) where
  capacity := fun id e he c hc => by
    obtain rfl := List.mem_singleton.1 (List.mem_of_find?_eq_some he)
    obtain rfl := Option.some.inj hc
    exact Int.cast_nonneg nonneg
  unique := fun _ hr => absurd hr List.not_mem_nil
  places := fun _ hr => absurd hr List.not_mem_nil
  closed := fun _ hr => absurd hr List.not_mem_nil

def newRegistration (id : String) : NewRegistration := ⟨id, fun _ => "", fun _ => "", ""⟩

/-- Two users register, the first for as many places as given. -/
def twoRegistrations (places : RegisterActivityDto) : List ActivityOp :=
  [.registerForActivity "u" "e" places (newRegistration "r"),
    .registerForActivity "v" "e" {} (newRegistration "s")]

theorem second_registration_refused : ∃ c,
    Reaches Accounted (begins (oneActivity 1) (twoRegistrations {})) c ∧
      c.threads.map Thread.threw = [false, true] ∧ c.db.placesTaken "e" = 1 ∧ RegistrationsHold c.db := by
  obtain ⟨c, run, hc⟩ := Reaches.of_replay_any Accounted (begins (oneActivity 1) (twoRegistrations {}))
    (turns [(0, 17), (1, 7)])
    (fun c : ActivitySystem => c.threads.map Thread.threw = [false, true] ∧ c.db.placesTaken "e" = 1)
    (by decide +kernel)
  exact ⟨c, run, hc.1, hc.2, registrations_hold (accounts_oneActivity (by decide)) run⟩

/-- Two places and one are three, where the second registration counts one row. -/
theorem capacity_exceeded : ∃ c,
    Reaches (fun _ _ => True) (begins (oneActivity 2) (twoRegistrations { quantity := some 2 })) c ∧
      c.threads.all Thread.returned = true ∧ c.db.placesTaken "e" = 3 ∧ ¬RegistrationsHold c.db := by
  obtain ⟨c, run, returned, taken, found⟩ := Reaches.of_replay_any (fun _ _ => True)
    (begins (oneActivity 2) (twoRegistrations { quantity := some 2 })) (turns [(0, 17), (1, 17)])
    (fun c : ActivitySystem => c.threads.all Thread.returned = true ∧ c.db.placesTaken "e" = 3 ∧
      (c.db.findEvent "e").map Event.capacity = some (some 2)) (by decide +kernel)
  refine ⟨c, run, returned, taken, fun hold => ?_⟩
  obtain ⟨e, he, capacity⟩ := Option.map_eq_some_iff.1 found
  have limit := hold.capacity "e" e he 2 capacity
  rw [taken] at limit
  norm_num at limit

theorem turns_checkCapacity {d : ActivityDb} {x : Outside} {activity : Event} {dto : RegisterActivityDto}
    {f : Option Nat → ActivityAction Unit} {S : Unit → ActivityDb → Outside → Prop}
    (hf : ∀ counted, Turns (f counted) d x S fun _ _ => True) :
    Turns ((checkCapacity activity dto).bind f) d x S fun _ _ => True := by
  unfold checkCapacity
  split
  · simp only [bind_eq, Prog.bind_assoc]
    exact .outside_bind trivial (.ensure_bind trivial fun _ => hf _)
  · exact hf none

/-- In any state, a user with a cancelled registration is refused: the cancelled
row keeps the new one out. -/
theorem not_canRegister_of_cancelled {d : ActivityDb} {r : EventRegistration} (hr : r ∈ d.registrations.rows)
    (dto : RegisterActivityDto) : ¬CanRegister d r.userId r.eventId dto := by
  rintro ⟨new, o, ho, ok⟩
  have refused : Turns (registerForActivity r.userId r.eventId dto new) d ({} : Outside)
      (fun _ _ _ => False) fun _ _ => True := by
    unfold registerForActivity
    simp only [bind_eq]
    refine .outside_bind trivial (.orThrow_bind trivial fun activity found => .ensure_bind trivial fun _ => ?_)
    have key : activity.id = r.eventId := by simpa using List.find?_some found
    refine .query_bind trivial (.ensure_bind trivial fun _ => turns_checkCapacity fun counted => ?_)
    refine .outside_bind trivial (.ensure_bind trivial fun _ => .bind (S := fun _ _ _ => False)
      (.transaction (G := fun _ _ => False) (.exec_bind fun valid => ?_) (fun _ _ h => h.elim) trivial)
      fun _ _ _ h => h.elim)
    exact absurd rfl ((free_of_createRegistration valid).2 r hr key.symm)
  have := (refused o ho).2
  rw [ok] at this
  exact this

end Heightt.Activities
