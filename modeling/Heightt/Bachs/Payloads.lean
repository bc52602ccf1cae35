import Heightt.Schema.Cuid
import Heightt.Schema.JsonText
import Heightt.Schema.Rows
import Heightt.Store.Table

/-!
# Payloads of the collection webhooks

The handlers of failed, underpaid and expired collections in `bachs-webhook.controller.ts`, over every value
that JSON can carry. They read the checkout id from one field of the payload, where the handler of
collections that succeed looks in several.
-/

namespace Heightt.BachsPayloads

open Text JsonText Store

/-- A value of the payload; `none` is `undefined`. -/
abbrev Js (N : Type) := Option (Value N)

structure Runtime (N : Type) where
  isZero : N → Bool
  /-- The text of a value in a template; `none` where that throws. -/
  text : Js N → Option Text
  /-- What Prisma makes of an object in a where clause; `none` where it refuses it. -/
  objectFilter : List (Text × Value N) → Option (Option Text → Bool)
  /-- `toISOString` -/
  isoString : Nat → Text

structure PendingPayment (N : Type) where
  id : Id
  bachsCheckoutId : Option Text := none
  status : PendingPaymentStatus := .pending
  metadata : Option (List (Text × Value N)) := none
  updatedAt : Nat := 0

abbrev PendingPayments (N : Type) := Table (PendingPayment N) Id PendingPayment.id

section

variable {N : Type}

/-- `v.name`; `none` is the `TypeError` of `undefined` and `null`. -/
def property : Js N → String → Option (Js N)
  | none, _ | some .null, _ => none
  | some (.object fields), name => some (fields.lookup (units name))
  | some _, _ => some none

/-- `v?.name` -/
def read (v : Js N) (name : String) : Js N := (property v name).join

/-- The fields with one of them set; an `undefined` one is not stored. -/
def assign (fields : List (Text × Value N)) (entry : String × Js N) : List (Text × Value N) :=
  match entry.2 with
  | none => fields.filter fun f => f.1 ≠ units entry.1
  | some v =>
    if fields.any fun f => f.1 = units entry.1 then fields.map fun f => if f.1 = units entry.1 then (f.1, v) else f
    else fields ++ [(units entry.1, v)]

variable (runtime : Runtime N)

def truthy : Js N → Bool
  | none | some .null => false
  | some (.bool b) => b
  | some (.number n) => !runtime.isZero n
  | some (.string s) => s ≠ []
  | some _ => true

/-- `a || b` -/
def either (a b : Js N) : Js N := if truthy runtime a then a else b

/-- Where `handleCollectionSucceeded` finds the checkout id. -/
def checkoutIdOf (payload : Js N) : Js N :=
  let data := either runtime (either runtime (read (read payload "data") "object") (read payload "data")) payload
  let metadata := either runtime (either runtime (read data "metadata") (read payload "metadata")) (some (.object []))
  either runtime (read data "checkout_id") (either runtime (read data "checkout_session_id")
    (either runtime (read data "checkoutId") (either runtime (read metadata "checkoutId")
      (either runtime (read metadata "bachsCheckoutId") (read payload "checkout_id")))))

/-! ## The handlers -/

/-- `where: { bachsCheckoutId: checkoutId }`; `none` is a validation error. -/
def checkoutFilter : Js N → Option (Option Text → Bool)
  | none => some fun _ => true
  | some .null => some fun column => column = none
  | some (.string s) => some fun column => column = some s
  | some (.object fields) => runtime.objectFilter fields
  | some _ => none

structure Marking (N : Type) where
  checkoutId : Js N
  status : PendingPaymentStatus
  entries : List (String × Js N)

/-- The pending payment that a handler finds. -/
def found (payments : PendingPayments N) (checkoutId : Js N) : Option (PendingPayment N) :=
  (checkoutFilter runtime checkoutId).bind fun f => payments.findFirst fun p => f p.bachsCheckoutId

def marked (m : Marking N) (now : Nat) (p : PendingPayment N) : PendingPayment N :=
  { p with status := m.status, metadata := some (m.entries.foldl assign (p.metadata.getD [])), updatedAt := now }

/-- Errors of Prisma are logged. -/
def markPendingPayment (payments : PendingPayments N) (now : Nat) (m : Marking N) : PendingPayments N :=
  match found runtime payments m.checkoutId with
  | none => payments
  | some p => payments.modify p.id (marked m now) fun _ => rfl

/-- `none` is an error before the payment is looked up. -/
def handleCollectionFailed (payload : Js N) (now : Nat) : Option (Marking N) := do
  let data := read payload "data"
  let chargeId ← property data "charge_id"
  let checkoutId ← property data "checkout_id"
  let reason ← property data "reason"
  let _ ← runtime.text chargeId
  let _ ← runtime.text reason
  some ⟨checkoutId, .failed, [("failureReason", reason), ("failedAt", some (.string (runtime.isoString now)))]⟩

def handleCollectionUnderpaid (payload : Js N) (now : Nat) : Option (Marking N) := do
  let data := read payload "data"
  let chargeId ← property data "charge_id"
  let checkoutId ← property data "checkout_id"
  let amountPaid ← property data "amount_paid"
  let amountExpected ← property data "amount_expected"
  let _ ← runtime.text chargeId
  let paid ← runtime.text amountPaid
  let expected ← runtime.text amountExpected
  some ⟨checkoutId, .failed,
    [("underpaid", some (.bool true)), ("amountPaid", amountPaid), ("amountExpected", amountExpected),
      ("failedAt", some (.string (runtime.isoString now))),
      ("failureReason", some (.string (units "Underpaid: received " ++ paid ++ units " but expected " ++ expected)))]⟩

def handleCheckoutExpired (payload : Js N) (now : Nat) : Option (Marking N) := do
  let data := read payload "data"
  let checkoutId ← property data "checkout_id"
  let _ ← runtime.text checkoutId
  some ⟨checkoutId, .expired, [("expiredAt", some (.string (runtime.isoString now)))]⟩

inductive Event where
  | collectionFailed
  | collectionUnderpaid
  | checkoutExpired
  deriving DecidableEq

def Event.marking (event : Event) (payload : Js N) (now : Nat) : Option (Marking N) :=
  match event with
  | .collectionFailed => handleCollectionFailed runtime payload now
  | .collectionUnderpaid => handleCollectionUnderpaid runtime payload now
  | .checkoutExpired => handleCheckoutExpired runtime payload now

/-- The pending payments after a webhook whose signature is right. -/
def handle (payments : PendingPayments N) (event : Event) (payload : Js N) (now : Nat) : PendingPayments N :=
  match event.marking runtime payload now with
  | none => payments
  | some m => markPendingPayment runtime payments now m

/-! ## The frame -/

/-- The payment of the checkout that the event carries. -/
def Carries (payload : Js N) (p : PendingPayment N) : Prop :=
  ∃ s, s ≠ [] ∧ p.bachsCheckoutId = some s ∧ checkoutIdOf runtime payload = some (.string s)

/-- At most one payment changes, the one of the checkout that the event carries. -/
structure Framed (payload : Js N) (before after : PendingPayments N) : Prop where
  carried : ∀ id, after.find id ≠ before.find id → ∃ p, before.find id = some p ∧ Carries runtime payload p
  one : ∀ id id', after.find id ≠ before.find id → after.find id' ≠ before.find id' → id = id'

/-- With this checkout id no other payment is found than the one of the checkout that the event carries. -/
def Harmless (payments : PendingPayments N) (payload : Js N) : Js N → Prop
  | none => ∀ p ∈ payments.rows.head?, Carries runtime payload p
  | some .null => ∀ p ∈ payments.rows, p.bachsCheckoutId ≠ none
  | some (.string s) =>
    s ≠ [] ∧ checkoutIdOf runtime payload = some (.string s) ∨ ∀ p ∈ payments.rows, p.bachsCheckoutId ≠ some s
  | some (.object fields) =>
    ∀ f, runtime.objectFilter fields = some f → ∀ p, payments.findFirst (fun p => f p.bachsCheckoutId) = some p →
      Carries runtime payload p
  | some _ => True

end

section

variable {N : Type} {runtime : Runtime N} {payments : PendingPayments N} {payload : Js N} {now : Nat}

theorem found_mem {checkoutId : Js N} {p : PendingPayment N} (h : found runtime payments checkoutId = some p) :
    p ∈ payments.rows := by
  obtain ⟨f, -, first⟩ := Option.bind_eq_some_iff.1 h
  exact List.mem_of_find?_eq_some first

theorem holds_of_findFirst {f : Option Text → Bool} {p : PendingPayment N}
    (h : payments.findFirst (fun p => f p.bachsCheckoutId) = some p) : f p.bachsCheckoutId = true :=
  List.find?_some (p := fun p : PendingPayment N => f p.bachsCheckoutId) h

theorem exists_findFirst {f : Option Text → Bool} {p : PendingPayment N} (hp : p ∈ payments.rows)
    (hf : f p.bachsCheckoutId = true) : ∃ q, payments.findFirst (fun p => f p.bachsCheckoutId) = some q :=
  Option.isSome_iff_exists.1 (List.find?_isSome.2 ⟨p, hp, hf⟩)

theorem harmless_iff (checkoutId : Js N) : Harmless runtime payments payload checkoutId ↔
    ∀ p, found runtime payments checkoutId = some p → Carries runtime payload p := by
  unfold Harmless found
  split
  · -- No filter: the first payment of all.
    have first : payments.findFirst (fun _ => true) = payments.rows.head? := by
      rw [Table.findFirst]
      cases payments.rows <;> rfl
    simp only [checkoutFilter, Option.bind_some, first, Option.mem_def]
  · simp only [checkoutFilter, Option.bind_some]
    constructor
    · intro none_ p h
      exact absurd (of_decide_eq_true (holds_of_findFirst (f := fun column => decide (column = none)) h)) (none_ p (List.mem_of_find?_eq_some h))
    · intro carries p hp without
      obtain ⟨q, hq⟩ := exists_findFirst (f := fun column => decide (column = none)) hp (decide_eq_true without)
      obtain ⟨s, -, column, -⟩ := carries q hq
      rw [of_decide_eq_true (holds_of_findFirst (f := fun column => decide (column = none)) hq)] at column
      cases column
  · rename_i s
    simp only [checkoutFilter, Option.bind_some]
    constructor
    · intro safe p h
      have column := of_decide_eq_true (holds_of_findFirst (f := fun column => decide (column = some s)) h)
      obtain ⟨some_, same⟩ | none_ := safe
      · exact ⟨s, some_, column, same⟩
      · exact absurd column (none_ p (List.mem_of_find?_eq_some h))
    · intro carries
      by_cases any : ∃ p ∈ payments.rows, p.bachsCheckoutId = some s
      · obtain ⟨p, hp, with_⟩ := any
        obtain ⟨q, hq⟩ := exists_findFirst (f := fun column => decide (column = some s)) hp (decide_eq_true with_)
        obtain ⟨s', some_, column, same⟩ := carries q hq
        rw [of_decide_eq_true (holds_of_findFirst (f := fun column => decide (column = some s)) hq)] at column
        cases column
        exact .inl ⟨some_, same⟩
      · exact .inr fun p hp with_ => any ⟨p, hp, with_⟩
  · simp only [checkoutFilter, Option.bind_eq_some_iff]
    constructor
    · rintro safe p ⟨f, hf, h⟩
      exact safe f hf p h
    · intro carries f hf p h
      exact carries p ⟨f, hf, h⟩
  · -- Prisma refuses every other value.
    rename_i v null string object
    cases v with
    | null => exact absurd rfl null
    | string s => exact absurd rfl (string s)
    | object fields => exact absurd rfl (object fields)
    | bool b => simp [checkoutFilter]
    | number n => simp [checkoutFilter]
    | array items => simp [checkoutFilter]

theorem find_markPendingPayment (m : Marking N) (id : Id) :
    (markPendingPayment runtime payments now m).find id =
      match found runtime payments m.checkoutId with
      | none => payments.find id
      | some p => if id = p.id then (payments.find id).map (marked m now) else payments.find id := by
  unfold markPendingPayment
  split
  · rfl
  · exact Table.find_modify _ _ _ _ _

/-- A handler changes the payment that it finds and no other. -/
theorem framed_markPendingPayment (m : Marking N) :
    ((∀ p, found runtime payments m.checkoutId = some p → Carries runtime payload p) →
      Framed runtime payload payments (markPendingPayment runtime payments now m)) ∧
    ((∀ p ∈ payments.rows, p.updatedAt < now) →
      Framed runtime payload payments (markPendingPayment runtime payments now m) →
      ∀ p, found runtime payments m.checkoutId = some p → Carries runtime payload p) := by
  have changed : ∀ id, (markPendingPayment runtime payments now m).find id ≠ payments.find id →
      ∃ p, found runtime payments m.checkoutId = some p ∧ id = p.id := by
    intro id change
    rw [find_markPendingPayment] at change
    split at change
    · exact absurd rfl change
    · rename_i p hp
      refine ⟨p, hp, ?_⟩
      by_contra other
      exact change (if_neg other)
  constructor
  · intro carries
    constructor
    · intro id change
      obtain ⟨p, hp, rfl⟩ := changed id change
      exact ⟨p, Table.find_of_mem (found_mem hp), carries p hp⟩
    · intro id id' change change'
      obtain ⟨p, hp, rfl⟩ := changed id change
      obtain ⟨p', hp', rfl⟩ := changed id' change'
      rw [hp] at hp'
      rw [Option.some.inj hp']
  · intro before framed p hp
    have kept := Table.find_of_mem (found_mem hp)
    have change : (markPendingPayment runtime payments now m).find p.id ≠ payments.find p.id := by
      rw [find_markPendingPayment, hp]
      simp only [if_true, kept, Option.map_some]
      intro same
      have time : now = p.updatedAt := congrArg PendingPayment.updatedAt (Option.some.inj same)
      have := before p (found_mem hp)
      omega
    obtain ⟨q, hq, carries⟩ := framed.carried p.id change
    rw [kept] at hq
    rw [Option.some.inj hq]
    exact carries

/-- All handlers read the checkout id from the same field. -/
theorem checkoutId_of_marking {event : Event} {m : Marking N} (h : event.marking runtime payload now = some m) :
    m.checkoutId = read (read payload "data") "checkout_id" := by
  unfold Event.marking at h
  cases event with
  | collectionFailed =>
    simp only [handleCollectionFailed, Option.bind_eq_bind, Option.bind_eq_some_iff, Option.some.injEq] at h
    obtain ⟨_, -, checkoutId, read_, _, -, _, -, _, -, rfl⟩ := h
    rw [read, read_, Option.join_some]
  | collectionUnderpaid =>
    simp only [handleCollectionUnderpaid, Option.bind_eq_bind, Option.bind_eq_some_iff, Option.some.injEq] at h
    obtain ⟨_, -, checkoutId, read_, _, -, _, -, _, -, _, -, _, -, rfl⟩ := h
    rw [read, read_, Option.join_some]
  | checkoutExpired =>
    simp only [handleCheckoutExpired, Option.bind_eq_bind, Option.bind_eq_some_iff, Option.some.injEq] at h
    obtain ⟨checkoutId, read_, _, -, rfl⟩ := h
    rw [read, read_, Option.join_some]

/-- **The frame of the handlers.** A webhook that is handled changes at most the payment of the checkout that it
carries, if the value in `data.checkout_id` finds no other payment. Where it does, that one changes, unless it was
written at the very same time. -/
theorem framed_handle {N : Type} (runtime : Runtime N) (payments : PendingPayments N) (event : Event) (payload : Js N)
    (now : Nat) :
    (((event.marking runtime payload now).isSome = true →
        Harmless runtime payments payload (read (read payload "data") "checkout_id")) →
      Framed runtime payload payments (handle runtime payments event payload now)) ∧
    ((∀ p ∈ payments.rows, p.updatedAt < now) →
      Framed runtime payload payments (handle runtime payments event payload now) →
      (event.marking runtime payload now).isSome = true →
        Harmless runtime payments payload (read (read payload "data") "checkout_id")) := by
  unfold handle
  split
  · rename_i none_
    rw [none_]
    constructor
    · intro _
      exact ⟨fun _ change => absurd rfl change, fun _ _ change => absurd rfl change⟩
    · intro _ _ handled
      cases handled
  · rename_i m hm
    obtain ⟨enough, needed⟩ := @framed_markPendingPayment _ runtime payments payload now m
    rw [hm, ← checkoutId_of_marking hm, harmless_iff]
    constructor
    · intro carries
      exact enough (carries rfl)
    · intro before framed _
      exact needed before framed

end

/-- Numbers are naturals here; no object is a where clause. -/
def plainRuntime : Runtime Nat where
  isZero n := n = 0
  text
    | none => some (units "undefined")
    | some (.string s) => some s
    | _ => some []
  objectFilter _ := none
  isoString _ := units "2026-01-01T00:00:00.000Z"

/-- One payment, of the checkout `cs_1`. -/
def onePayment : PendingPayments Nat := Table.empty.insert { id := .ofNat 1, bachsCheckoutId := some (units "cs_1") }

/-- The body of a webhook with these fields in `data`. -/
def payloadOf (data : List (Text × Value Nat)) : Js Nat := some (.object [(units "data", .object data)])

theorem framed_handle_cs_1 : Framed plainRuntime (payloadOf [(units "checkout_id", .string (units "cs_1"))]) onePayment
    (handle plainRuntime onePayment .checkoutExpired (payloadOf [(units "checkout_id", .string (units "cs_1"))]) 1) := by
  refine (framed_handle plainRuntime onePayment .checkoutExpired _ 1).1 fun _ => .inl ⟨by decide, rfl⟩

/-- The first payment of all is marked for a webhook that names no checkout. -/
theorem first_payment_marked : ¬∀ (payments : PendingPayments Nat) (event : Event) (payload : Js Nat) (now : Nat),
    Framed plainRuntime payload payments (handle plainRuntime payments event payload now) := by
  intro framed
  obtain ⟨p, -, s, -, -, carried⟩ := (framed onePayment .collectionFailed (payloadOf []) 1).carried (.ofNat 1) (by
    intro same
    have time := congrArg (Option.map PendingPayment.updatedAt) same
    revert time
    decide)
  have none_ : checkoutIdOf plainRuntime (payloadOf []) = none := rfl
  rw [none_] at carried
  cases carried

end Heightt.BachsPayloads
