import Heightt.ReadCommitted.Statement

/-!
# Programs that talk to a database and to other systems

A program reads committed data, opens transactions, writes statements inside
them, and calls other systems (a cache, a provider). Every operation may fail,
and the program says what it does then. A transaction is opened on a connection
of its own: a transaction opened inside another one does not see the outer
one's statements and commits separately.

`wp` is the weakest precondition of a program run among others that change the
state only as `rely` allows. Every commit and call has to be admitted by a
condition on the state it is made in and on the program's own past.
-/

namespace Heightt.ReadCommitted

/-- A program over states `D`, statements `W`, calls `C` with replies `R`, and errors `E`. -/
inductive Prog (D W C : Type) (R : C → Type) (E α : Type) : Type where
  /-- The program has returned. -/
  | ret (a : α)
  /-- The program has ended in an error. -/
  | throw (e : E)
  /-- Read the state, as the innermost open transaction sees it. -/
  | read (k : D → Prog D W C R E α) (err : E → Prog D W C R E α)
  /-- Execute a statement in the innermost open transaction. -/
  | write (w : W) (k : Prog D W C R E α) (err : E → Prog D W C R E α)
  /-- Open a transaction. -/
  | begin (k : Prog D W C R E α) (err : E → Prog D W C R E α)
  /-- Commit the innermost open transaction. -/
  | commit (k : Prog D W C R E α) (err : E → Prog D W C R E α)
  /-- Roll the innermost open transaction back. -/
  | rollback (k : Prog D W C R E α)
  /-- Call another system. -/
  | call (c : C) (k : R c → Prog D W C R E α) (err : E → Prog D W C R E α)

namespace Prog

variable {D W C : Type} {R : C → Type} {E α β : Type}

/-- Run `p`, then `f` on what it returns. -/
def bind : Prog D W C R E α → (α → Prog D W C R E β) → Prog D W C R E β
  | ret a, f => f a
  | throw e, _ => throw e
  | read k err, f => read (fun d => (k d).bind f) fun e => (err e).bind f
  | write w k err, f => write w (k.bind f) fun e => (err e).bind f
  | begin k err, f => begin (k.bind f) fun e => (err e).bind f
  | commit k err, f => commit (k.bind f) fun e => (err e).bind f
  | rollback k, f => rollback (k.bind f)
  | call c k err, f => call c (fun r => (k r).bind f) fun e => (err e).bind f

instance : Monad (Prog D W C R E) where
  pure := ret
  bind := bind

/-- Run `p`; if it ends in an error, run the handler on the error. -/
def onThrow : Prog D W C R E α → (E → Prog D W C R E α) → Prog D W C R E α
  | ret a, _ => ret a
  | throw e, h => h e
  | read k err, h => read (fun d => (k d).onThrow h) fun e => (err e).onThrow h
  | write w k err, h => write w (k.onThrow h) fun e => (err e).onThrow h
  | begin k err, h => begin (k.onThrow h) fun e => (err e).onThrow h
  | commit k err, h => commit (k.onThrow h) fun e => (err e).onThrow h
  | rollback k, h => rollback (k.onThrow h)
  | call c k err, h => call c (fun r => (k r).onThrow h) fun e => (err e).onThrow h

/-- Read `f` of the state. -/
def query (f : D → α) : Prog D W C R E α := read (fun d => ret (f d)) throw

/-- Execute one statement in the open transaction. -/
def exec (w : W) : Prog D W C R E Unit := write w (ret ()) throw

/-- Call another system and wait for its reply. -/
def request (c : C) : Prog D W C R E (R c) := call c ret throw

/-- End in error `e` unless `p` holds. -/
def ensure (p : Prop) [Decidable p] (e : E) : Prog D W C R E Unit := if p then ret () else throw e

/-- The value, or error `e` if there is none. -/
def orThrow (o : Option α) (e : E) : Prog D W C R E α :=
  match o with
  | some a => ret a
  | none => throw e

/-- Run `body` in a transaction of its own: commit if it returns, roll back if
it ends in an error. -/
def transaction (body : Prog D W C R E α) : Prog D W C R E α :=
  begin
    ((body.onThrow fun e => rollback (throw e)).bind fun a => commit (ret a) throw)
    throw

/-- Execute one statement in a transaction of its own. -/
def statement (w : W) : Prog D W C R E Unit := transaction (exec w)

/-- Read `f` of the committed state, on a connection of its own. -/
def outside (f : D → α) : Prog D W C R E α := transaction (query f)

/-- Run `p` if the condition holds. -/
def when (c : Prop) [Decidable c] (p : Prog D W C R E Unit) : Prog D W C R E Unit :=
  if c then p else ret ()

/-- Run `f` on the value if there is one. -/
def whenSome (o : Option α) (f : α → Prog D W C R E Unit) : Prog D W C R E Unit :=
  match o with
  | some a => f a
  | none => ret ()

/-- The value, or what `p` returns if there is none. -/
def orElse (o : Option α) (p : Prog D W C R E α) : Prog D W C R E α :=
  match o with
  | some a => ret a
  | none => p

/-- Run `f` on each element in turn. -/
def forEach : List α → (α → Prog D W C R E Unit) → Prog D W C R E Unit
  | [], _ => ret ()
  | a :: as, f => (f a).bind fun _ => forEach as f

/-- Run `p` and go on whether or not it ended in an error. -/
def attempt (p : Prog D W C R E Unit) : Prog D W C R E Unit := p.onThrow fun _ => ret ()

@[simp] theorem pure_eq (a : α) : (pure a : Prog D W C R E α) = ret a := rfl

@[simp] theorem bind_eq (p : Prog D W C R E α) (f : α → Prog D W C R E β) :
    (p >>= f) = p.bind f := rfl

end Prog

/-- What a program did that others can see. -/
inductive Event (W C : Type) (R : C → Type) : Type where
  /-- It committed the statements; `nested` tells that another of its
  transactions was open at that time. -/
  | committed (nested : Bool) (writes : List W)
  /-- It made a call and got the reply. -/
  | answered (c : C) (r : R c)
  /-- It made a call that failed as far as it can tell. -/
  | failed (c : C)

open Database

variable {D W C : Type} {R : C → Type} {E α β Row Col : Type} [Database D W Row Col E]

/-- The state `d` as the innermost of the open transactions `fs` sees it. -/
def visible (fs : List (List W)) (d : D) : D :=
  match fs with
  | [] => d
  | F :: _ => applyAll F d

/-- Where a program stands: the committed state it last saw, its open
transactions, and what it did. -/
structure View (D W C : Type) (R : C → Type) where
  seen : D
  frames : List (List W) := []
  past : List (Event W C R) := []

/-- The program, started at view `v`, makes only events that `Φ` admits in the
state it makes them and after the events before them, and ends with `Q` or `Qe`.
Between two operations the others may change the state `s` to any `d` with
`rely s d`. -/
def wp (rely : D → D → Prop) (Φ : D → List (Event W C R) → Event W C R → Prop) :
    Prog D W C R E α → View D W C R → (α → View D W C R → Prop) → (E → View D W C R → Prop) → Prop
  | .ret a, v, Q, _ => Q a v
  | .throw e, v, _, Qe => Qe e v
  | .read k err, v, Q, Qe =>
    (∀ d, rely v.seen d → wp rely Φ (k (visible v.frames d)) { v with seen := d } Q Qe) ∧
      ∀ e, wp rely Φ (err e) v Q Qe
  | .write w k err, v, Q, Qe =>
    match v.frames with
    | [] => False
    | F :: fs => wp rely Φ k { v with frames := (F ++ [w]) :: fs } Q Qe ∧ ∀ e, wp rely Φ (err e) v Q Qe
  | .begin k err, v, Q, Qe =>
    wp rely Φ k { v with frames := [] :: v.frames } Q Qe ∧ ∀ e, wp rely Φ (err e) v Q Qe
  | .commit k err, v, Q, Qe =>
    match v.frames with
    | [] => False
    | F :: fs =>
      (∀ d, rely v.seen d → violation F d = none →
        Φ d v.past (.committed (!fs.isEmpty) F) ∧
        wp rely Φ k ⟨applyAll F d, fs, v.past ++ [.committed (!fs.isEmpty) F]⟩ Q Qe) ∧
      ∀ e, wp rely Φ (err e) { v with frames := fs } Q Qe
  | .rollback k, v, Q, Qe =>
    match v.frames with
    | [] => False
    | _ :: fs => wp rely Φ k { v with frames := fs } Q Qe
  | .call c k err, v, Q, Qe =>
    (∀ d r, rely v.seen d → Φ d v.past (.answered c r) ∧
      wp rely Φ (k r) { v with seen := d, past := v.past ++ [.answered c r] } Q Qe) ∧
    (∀ d, rely v.seen d → Φ d v.past (.failed c)) ∧
    ∀ e, wp rely Φ (err e) { v with past := v.past ++ [.failed c] } Q Qe

end Heightt.ReadCommitted
