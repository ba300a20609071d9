import PartitionHost.Cluster.Routine

/-!
# Crews: routines that run side by side

The routines of a crew take turns. One goes on until it has to wait; then comes the next in line that does
not have to, and when all have to, the one whose wait is over first. Whenever time passes, the line begins
anew with the first routine.

`Crew.Step` is the step of one routine of a crew. It is well-founded, for every routine makes finitely
many steps, so a crew comes to an end whatever the order of turns.
-/

namespace PartitionHost

namespace Routine

variable {α : Type}

/-! ## Steps -/

inductive Next : Routine α → Routine α → Prop where
  | act (change : Cluster → Cluster) (resume : Cluster → Routine α) (c : Cluster) :
      Next (resume c) (act change resume)
  | wait (w : Wait) (resume : Routine α) : Next resume (wait w resume)

theorem next_wf : WellFounded (Next (α := α)) := by
  constructor
  intro t
  induction t with
  | done a => exact ⟨_, fun _ h => nomatch h⟩
  | act change resume ih => exact ⟨_, fun _ h => by cases h; exact ih _⟩
  | wait w resume ih => exact ⟨_, fun _ h => by cases h; exact ih⟩

def next? (c : Cluster) : (t : Routine α) → Option { u : Routine α // Next u t }
  | .done _ => none
  | .act change resume => some ⟨resume c, .act change resume c⟩
  | .wait w resume => some ⟨resume, .wait w resume⟩

/-- The state after the step of a routine. -/
def effect (c : Cluster) : Routine α → Cluster
  | .act change _ => change c
  | _ => c

/-- The moment at which a routine can make a step, unless it is done or waits for ever. -/
def moment? (c : Cluster) : Routine α → Option Nat
  | .done _ => none
  | .act _ _ => some c.elapsed
  | .wait w _ => (w.due c).map (max c.elapsed)

def value? : Routine α → Option α
  | .done a => some a
  | _ => none

/-- The state after a routine is dropped. -/
def drop (c : Cluster) : Routine α → Cluster
  | .wait w _ => w.abandon c
  | _ => c

end Routine

abbrev Crew (α : Type) := List (Routine α)

namespace Crew

variable {α : Type}

inductive Step : Crew α → Crew α → Prop where
  | here {u t : Routine α} (h : Routine.Next u t) (ts : Crew α) : Step (u :: ts) (t :: ts)
  | later (t : Routine α) {us ts : Crew α} (h : Step us ts) : Step (t :: us) (t :: ts)

theorem acc_cons {t : Routine α} (ht : Acc Routine.Next t) :
    ∀ {ts : Crew α}, Acc Step ts → Acc Step (t :: ts) := by
  induction ht with
  | intro t _ iht =>
    intro ts hts
    induction hts with
    | intro ts hts ihts =>
      refine ⟨_, fun us h => ?_⟩
      cases h with
      | here h => exact iht _ h ⟨_, hts⟩
      | later _ h => exact ihts _ h

theorem step_wf : WellFounded (Step (α := α)) := by
  constructor
  intro ts
  induction ts with
  | nil => exact ⟨_, fun _ h => nomatch h⟩
  | cons t ts ih => exact acc_cons (Routine.next_wf.apply t) ih

instance : WellFoundedRelation (Crew α) := ⟨Step, step_wf⟩

/-- The crew after the step of the routine at a place, if that can make one. -/
def step? (c : Cluster) : Nat → (ts : Crew α) → Option { us : Crew α // Step us ts }
  | _, [] => none
  | 0, t :: ts => (t.next? c).map fun u => ⟨u.1 :: ts, .here u.2 ts⟩
  | place + 1, t :: ts => (step? c place ts).map fun us => ⟨t :: us.1, .later t us.2⟩

/-- The state after the step of the routine at a place. -/
def effect (c : Cluster) (place : Nat) (ts : Crew α) : Cluster :=
  ((ts[place]?).map (·.effect c)).getD c

/-! ## Turns -/

def moment? (c : Cluster) (ts : Crew α) : Option Nat :=
  ts.foldl (fun m t => Routine.earlier m (t.moment? c)) none

def ready (c : Cluster) (ts : Crew α) : List Nat :=
  (List.range ts.length).filter fun place =>
    let m := (ts[place]?).bind (·.moment? c)
    m.isSome && m == moment? c ts

/-- Whose turn it is; `place` had the last one, at the moment `since`. -/
def turn (c : Cluster) (place since : Nat) (ts : Crew α) : Nat :=
  let line := ready c ts
  if since < c.elapsed then line.headD 0
  else ((line.find? (place ≤ ·)).or line.head?).getD 0

/-- Runs a crew to the end, the routine at `place` first; the values in the order of the routines. -/
def run (place since : Nat) (ts : Crew α) : Routine (List α) :=
  if ts.all (·.value?.isSome) then .done (ts.filterMap (·.value?))
  else
    .wait { due := fun c => moment? c ts, abandon := fun c => ts.foldl (fun c t => t.drop c) c } <|
    .act (fun c => effect c (turn c place since ts) ts) fun c =>
      match step? c (turn c place since ts) ts with
      | some ⟨us, _⟩ => run (turn c place since ts) c.elapsed us
      | none => .done (ts.filterMap (·.value?))
termination_by ts

end Crew

def Routine.together {α : Type} (ts : List (Routine α)) : Routine (List α) :=
  (Routine.read (·.elapsed)).bind fun now => Crew.run 0 now ts

end PartitionHost
