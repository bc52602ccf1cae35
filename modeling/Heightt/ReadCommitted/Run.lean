import Heightt.ReadCommitted.Rules

/-!
# Interleaved runs at READ COMMITTED

Threads run their programs against one database and one environment of other
systems, one operation at a time and in any order. A read sees the committed
state and the thread's own open statements; a statement waits for the row locks
of every other open transaction, is checked against the constraints, and takes
effect when its transaction commits. Any operation may fail; a failed statement
aborts its transaction, the server may close a transaction that took too long,
and the reply to a call may be lost. The environment moves by itself.

`Moves` says once what a step can do, and every invariant is derived from it.
-/

namespace Heightt.ReadCommitted

/-- Systems outside the database: `handle` is what a call does to them and its
reply, `move` what they do by themselves. -/
class External (X : Type) (C : outParam Type) (R : outParam (C → Type)) (M : outParam Type) where
  handle : (c : C) → X → X × R c
  move : M → X → Option X

/-- A transaction in progress. -/
structure Frame (W : Type) where
  writes : List W := []
  isOpen : Bool := true

/-- A program in progress. -/
structure Thread (D W C : Type) (R : C → Type) (E : Type) where
  prog : Prog D W C R E Unit
  frames : List (Frame W) := []
  past : List (Event W C R) := []

/-- How the next operation of a thread turns out. -/
inductive Choice (E : Type) where
  | ok
  | fail (e : E)
  /-- The call reached the other system and its reply was lost. -/
  | lost (e : E)
  /-- The server closes the thread's `n`-th innermost transaction. -/
  | expire (n : Nat)

inductive Action (M E : Type) where
  | thread (i : Nat) (choice : Choice E)
  | move (m : M)

/-- A committed transaction and the state it found. -/
structure Commit (D W : Type) where
  thread : Nat
  writes : List W
  before : D

structure Config (D X W C : Type) (R : C → Type) (E : Type) where
  db : D
  ext : X
  threads : List (Thread D W C R E)
  log : List (Commit D W) := []

/-- What a step does outside its thread. -/
inductive Effect (W C : Type) where
  | internal
  /-- An operation of the thread failed, or one of its transactions was closed. -/
  | fault (i : Nat)
  | commit (i : Nat) (nested : Bool) (writes : List W)
  /-- A call that reached the other system; `answered` tells whether the reply came back. -/
  | called (i : Nat) (c : C) (answered : Bool)
  /-- A call that did not reach the other system. -/
  | unsent (i : Nat) (c : C)

/-- The step changes nothing outside its thread. -/
def Effect.silent {W C : Type} : Effect W C → Bool
  | internal | fault _ => true
  | _ => false

open Database

variable {D X W C M Row Col E : Type} {R : C → Type} [Database D W Row Col E] [External X C R M]

/-- The row locks a transaction holds. -/
def Frame.held (D : Type) {W Row Col E : Type} [Database D W Row Col E] (f : Frame W) : List Row :=
  if f.isOpen then f.writes.flatMap (rows D) else []

def Frame.close (f : Frame W) : Frame W := { f with isOpen := false }

/-- The row locks a thread holds. -/
def Thread.held (t : Thread D W C R E) : List Row := t.frames.flatMap (Frame.held D)

/-- Close the `n`-th frame. -/
def expireFrame (fs : List (Frame W)) (n : Nat) : List (Frame W) := fs.modify n Frame.close

/-- Close the innermost frame. -/
def abort : List (Frame W) → List (Frame W)
  | [] => []
  | f :: fs => f.close :: fs

namespace Thread

/-- The program has returned. -/
def returned (t : Thread D W C R E) : Bool :=
  match t.prog with
  | .ret _ => true
  | _ => false

/-- The program has ended in an error. -/
def threw (t : Thread D W C R E) : Bool :=
  match t.prog with
  | .throw _ => true
  | _ => false

/-- The next step of thread `i`, when other threads hold the locks `locked`. -/
def step [DecidableEq Row] (i : Nat) (db : D) (ext : X) (locked : List Row)
    (t : Thread D W C R E) (choice : Choice E) : Option (Thread D W C R E × Effect W C) :=
  match choice with
  | .expire n => some ({ t with frames := expireFrame t.frames n }, .fault i)
  | .ok => match t.prog, t.frames with
    | .read k _, [] => some ({ t with prog := k db }, .internal)
    | .read k _, f :: _ =>
      if f.isOpen then some ({ t with prog := k (applyAll f.writes db) }, .internal) else none
    | .write w k err, f :: fs =>
      if f.isOpen ∧ ∀ r ∈ rows D w, r ∉ locked ++ fs.flatMap (Frame.held D) then
        match check w (applyAll f.writes db) with
        | none => some ({ t with prog := k,
                                 frames := { f with writes := f.writes ++ [w] } :: fs }, .internal)
        | some e => some ({ t with prog := err e, frames := f.close :: fs }, .internal)
      else none
    | .begin k _, fs => some ({ t with prog := k, frames := {} :: fs }, .internal)
    | .commit k err, f :: fs =>
      if f.isOpen then
        match violation f.writes db with
        | none => some ({ prog := k, frames := fs,
                          past := t.past ++ [.committed (!fs.isEmpty) f.writes] },
                        .commit i (!fs.isEmpty) f.writes)
        | some e => some ({ t with prog := err e, frames := fs }, .internal)
      else none
    | .rollback k, _ :: fs => some ({ t with prog := k, frames := fs }, .internal)
    | .call c k _, _ =>
      let r := (External.handle c ext).2
      some ({ t with prog := k r, past := t.past ++ [.answered c r] }, .called i c true)
    | _, _ => none
  | .fail e => match t.prog, t.frames with
    | .read _ err, fs => some ({ t with prog := err e, frames := abort fs }, .fault i)
    | .write _ _ err, f :: fs => some ({ t with prog := err e, frames := f.close :: fs }, .fault i)
    | .begin _ err, _ => some ({ t with prog := err e }, .fault i)
    | .commit _ err, _ :: fs => some ({ t with prog := err e, frames := fs }, .fault i)
    | .call c _ err, _ =>
      some ({ t with prog := err e, past := t.past ++ [.failed c] }, .unsent i c)
    | _, _ => none
  | .lost e => match t.prog with
    | .call c _ err =>
      some ({ t with prog := err e, past := t.past ++ [.failed c] }, .called i c false)
    | _ => none

end Thread

namespace Config

/-- The configuration after thread `i` has become `t` with effect `eff`. -/
def update (c : Config D X W C R E) (i : Nat) (t : Thread D W C R E) (eff : Effect W C) :
    Config D X W C R E :=
  let threads := c.threads.set i t
  match eff with
  | .commit _ _ F => { c with db := applyAll F c.db, threads, log := c.log ++ [⟨i, F, c.db⟩] }
  | .called _ call _ => { c with ext := (External.handle call c.ext).1, threads }
  | _ => { c with threads }

/-- The locks held by the threads other than `i`. -/
def locked (c : Config D X W C R E) (i : Nat) : List Row := (c.threads.eraseIdx i).flatMap Thread.held

/-- One step, with its effect. -/
def act [DecidableEq Row] (c : Config D X W C R E) :
    Action M E → Option (Effect W C × Config D X W C R E)
  | .thread i choice => do
    let t ← c.threads[i]?
    let (t', eff) ← t.step i c.db c.ext (c.locked i) choice
    return (eff, c.update i t' eff)
  | .move m => do
    let ext ← External.move m c.ext
    return (.internal, { c with ext })

/-- What thread `i` did so far. -/
def past (c : Config D X W C R E) (i : Nat) : List (Event W C R) :=
  match c.threads[i]? with
  | some t => t.past
  | none => []

/-- Threads at their start. -/
def start (db : D) (ext : X) (progs : List (Prog D W C R E Unit)) : Config D X W C R E :=
  { db, ext, threads := progs.map fun prog => { prog } }

end Config

/-- The configurations a run from `c₀` reaches when every step meets the condition `P`. -/
inductive Reaches [DecidableEq Row] (P : Config D X W C R E → Effect W C → Prop)
    (c₀ : Config D X W C R E) : Config D X W C R E → Prop where
  | refl : Reaches P c₀ c₀
  | step {c c' : Config D X W C R E} {eff : Effect W C} (a : Action M E) :
    Reaches P c₀ c → c.act a = some (eff, c') → P c eff → Reaches P c₀ c'

/-- The configuration a list of steps leads to, if every step meets the condition `P`. -/
def Config.replay [DecidableEq Row] (P : Config D X W C R E → Effect W C → Prop)
    [∀ c eff, Decidable (P c eff)] (c : Config D X W C R E) :
    List (Action M E) → Option (Config D X W C R E)
  | [] => some c
  | a :: as => do
    let (eff, c') ← c.act a
    if P c eff then c'.replay P as else none

end Heightt.ReadCommitted
