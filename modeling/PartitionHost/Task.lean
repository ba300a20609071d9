/-!
# Tasks: programs that talk to their surroundings

A task is a tree: it is done, or it has made a request and goes on from whatever the answer is.
What a request does, how long it takes and who else acts meanwhile is left to whoever answers it, so
one and the same task can be run step by step on a virtual clock, answered by an engine that is
itself a task, or studied under every possible interleaving.

A task has finitely many requests on each path: whoever answers them one at a time comes to an end.
-/

namespace PartitionHost

/-- What may be asked, and the type of the answer to each request. -/
structure Interface where
  Request : Type
  Answer : Request → Type

/-- A program that asks requests of an interface and ends in a value. -/
inductive Task (I : Interface) (α : Type) : Type where
  | done (value : α)
  | ask (request : I.Request) (resume : I.Answer request → Task I α)

namespace Task

variable {I J : Interface} {α β : Type}

def bind : Task I α → (α → Task I β) → Task I β
  | .done a, f => f a
  | .ask r resume, f => .ask r fun x => (resume x).bind f

instance : Monad (Task I) where
  pure := done
  bind := bind

def request (r : I.Request) : Task I (I.Answer r) := .ask r .done

def serve (answer : (r : I.Request) → Task J (I.Answer r)) : Task I α → Task J α
  | .done a => .done a
  | .ask r resume => (answer r).bind fun x => serve answer (resume x)

/-! ## Laws -/

@[simp] theorem done_bind (a : α) (f : α → Task I β) : (done a).bind f = f a := rfl

@[simp] theorem ask_bind (r : I.Request) (resume : I.Answer r → Task I α) (f : α → Task I β) :
    (ask r resume).bind f = ask r fun x => (resume x).bind f := rfl

@[simp] theorem bind_done (t : Task I α) : t.bind done = t := by
  induction t with
  | done => rfl
  | ask r resume ih => simp only [ask_bind, ih]

theorem bind_assoc {γ : Type} (t : Task I α) (f : α → Task I β) (g : β → Task I γ) :
    (t.bind f).bind g = t.bind fun a => (f a).bind g := by
  induction t with
  | done => rfl
  | ask r resume ih => simp only [ask_bind, ih]

instance : LawfulMonad (Task I) :=
  LawfulMonad.mk' _ (fun t => bind_done t) (fun _ _ => rfl) bind_assoc

end Task

end PartitionHost
