import PartitionHost.Cancellation
import PartitionHost.Checkpoint.Operation
import PartitionHost.Hub
import PartitionHost.Lease.Operation
import PartitionHost.Log.Note
import PartitionHost.Task

/-!
# The surroundings of a host

A host works with a lease store, a checkpoint store and a management node, reads the clock, keeps the
leases that it believes it holds, and announces to its consumers which partitions it comes to own and
loses. Here are the requests by which it does all this. Whoever answers them may be any stores and any
management node, in any state and with any failures.
-/

namespace PartitionHost.Host

inductive Event where
  /-- The partition may be consumed from the checkpoint on. -/
  | acquired (lease : Lease) (checkpoint : Checkpoint)
  /-- The partition must not be consumed any more. -/
  | lost (partition : String)
deriving DecidableEq

inductive Request where
  | lease (cancel : Cancellation) (op : Lease.Operation)
  | checkpoint (cancel : Cancellation) (op : Checkpoint.Operation)
  | hub (cancel : Cancellation)
  | range (cancel : Cancellation) (partition : String)
  /-- The clock that leases are measured by. -/
  | now
  /-- The milliseconds on the clock that only goes forward. -/
  | elapsed
  /-- Waits until so many nanoseconds on the clock that only goes forward. -/
  | wait (cancel : Cancellation) (due : Nat)
  /-- The leases that the host believes it holds. -/
  | owned
  /-- Believes that it holds a lease. -/
  | own (partition : String) (lease : Lease)
  /-- Believes that it does not hold a lease; whether it did until now. -/
  | disown (partition : String)
  /-- Announces an event, as soon as there is room for it. -/
  | announce (e : Event)
  | note (n : Note)

abbrev Request.Answer : Request → Type
  | .lease _ op => Except Error op.Reply
  | .checkpoint _ op => Except Error op.Reply
  | .hub _ => Except Error Hub
  | .range _ _ => Except Error PartitionRange
  | .now => Timestamp
  | .elapsed => Nat
  | .wait _ _ => Wake
  | .owned => Table Lease
  | .own _ _ => Unit
  | .disown _ => Bool
  | .announce _ => Unit
  | .note _ => Unit

abbrev Surroundings : Interface := ⟨Request, Request.Answer⟩

abbrev Program (α : Type) := ExceptT Error (Task Surroundings) α

def ask (r : Request) : Program r.Answer := ExceptT.lift (Task.request (I := Surroundings) r)

def lease (cancel : Cancellation) (op : Lease.Operation) : Program op.Reply :=
  ExceptT.mk (Task.request (I := Surroundings) (.lease cancel op))

def checkpoint (cancel : Cancellation) (op : Checkpoint.Operation) : Program op.Reply :=
  ExceptT.mk (Task.request (I := Surroundings) (.checkpoint cancel op))

/-- Asks the management node for the hub; its error ends the program. -/
def hub (cancel : Cancellation) : Program Hub :=
  ExceptT.mk (Task.request (I := Surroundings) (.hub cancel))

/-- Asks the management node for a partition; its error ends the program. -/
def range (cancel : Cancellation) (partition : String) : Program PartitionRange :=
  ExceptT.mk (Task.request (I := Surroundings) (.range cancel partition))

/-- Runs a program and goes on with its outcome, also if that is an error. -/
def outcome {α : Type} (p : Program α) : Program (Except Error α) := ExceptT.lift p.run

end PartitionHost.Host
