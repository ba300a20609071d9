import PartitionHost.Cluster.State

/-!
# Routines: programs that act on a cluster and wait

A routine acts on the state of its cluster, which takes no time, or waits. What it waits for is a moment
that may depend on the state: a time, or the moment somebody else makes room. Between two waits nobody
interferes.

Like a task, a routine makes finitely many steps on each path: running it is a recursion on the routine.
-/

namespace PartitionHost

structure Wait where
  /-- The moment at which the wait ends as things stand, if it ends at all. -/
  due : Cluster → Option Nat
  /-- What is to be done if nobody waits any longer. -/
  abandon : Cluster → Cluster := id

def Wait.isOver (w : Wait) (c : Cluster) : Bool := (w.due c).any (· ≤ c.elapsed)

inductive Routine (α : Type) : Type where
  | done (value : α)
  /-- Changes the state at once, and goes on with what was read from it before. -/
  | act (change : Cluster → Cluster) (resume : Cluster → Routine α)
  | wait (w : Wait) (resume : Routine α)

namespace Routine

variable {α β : Type}

def bind : Routine α → (α → Routine β) → Routine β
  | .done a, f => f a
  | .act change resume, f => .act change fun c => (resume c).bind f
  | .wait w resume, f => .wait w (resume.bind f)

instance : Monad Routine where
  pure := done
  bind := bind

def read (f : Cluster → α) : Routine α := .act id fun c => .done (f c)

def update (f : Cluster → α × Cluster) : Routine α :=
  .act (fun c => (f c).2) fun c => .done (f c).1

def change (f : Cluster → Cluster) : Routine Unit := .act f fun _ => .done ()

def waitUntil (moment : Nat) : Routine Unit := .wait { due := fun _ => some moment } (.done ())

def ofTask {I : Interface} (answer : (r : I.Request) → Routine (I.Answer r)) :
    Task I α → Routine α
  | .done a => .done a
  | .ask r resume => (answer r).bind fun x => ofTask answer (resume x)

/-! ## Running one routine -/

/-- Runs a routine to the end; it has no value if it would wait for ever. -/
def run (c : Cluster) : Routine α → Option α × Cluster
  | .done a => (some a, c)
  | .act change resume => (resume c).run (change c)
  | .wait w resume =>
    match w.due c with
    | some moment => resume.run (c.wakeAt moment)
    | none => (none, w.abandon c)

def earlier : Option Nat → Option Nat → Option Nat
  | some m, some n => some (min m n)
  | some m, none => some m
  | none, n => n

/-- Runs a routine until a moment; if it is not done then, it is dropped where it waits. -/
def within (limit : Nat) : Routine α → Routine (Option α)
  | .done a => .done (some a)
  | .act change resume => .act change fun c => (resume c).within limit
  | .wait w resume =>
    .wait { w with due := fun c => earlier (w.due c) (some limit) } <|
      .act (fun c => if w.isOver c then c else w.abandon c) fun c =>
        if w.isOver c then resume.within limit else .done none

/-! ## Laws -/

@[simp] theorem done_bind (a : α) (f : α → Routine β) : (done a).bind f = f a := rfl

@[simp] theorem bind_done (t : Routine α) : t.bind done = t := by
  induction t with
  | done => rfl
  | act change resume ih => simp only [bind, ih]
  | wait w resume ih => simp only [bind, ih]

theorem bind_assoc {γ : Type} (t : Routine α) (f : α → Routine β) (g : β → Routine γ) :
    (t.bind f).bind g = t.bind fun a => (f a).bind g := by
  induction t with
  | done => rfl
  | act change resume ih => simp only [bind, ih]
  | wait w resume ih => simp only [bind, ih]

instance : LawfulMonad Routine :=
  LawfulMonad.mk' _ (fun t => bind_done t) (fun _ _ => rfl) bind_assoc

end Routine

end PartitionHost
