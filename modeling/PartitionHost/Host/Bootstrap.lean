import PartitionHost.Host.Surroundings

/-!
# Bootstrap

Before anything else a host sets up both stores and sees to it that every partition of the hub has a
lease and a checkpoint. Bootstrap only adds: what another host has stored stays, except that a host which
is to start at the latest position moves the partitions that were never processed to theirs.
-/

namespace PartitionHost.Host

def latestPosition (partition : String) (r : PartitionRange) : Checkpoint :=
  ⟨partition, r.lastSequenceNumber, r.lastOffset, r.lastEnqueuedAt⟩

def seedLatest (cancel : Cancellation) (partition : String) : Program Unit := do
  let position := latestPosition partition (← range cancel partition)
  checkpoint cancel (.update partition position)
  ask (.note (.seeded partition position.sequenceNumber))

def prepare (start : Position) (cancel : Cancellation) (partition : String) : Program Unit := do
  let _ ← lease cancel (.ensure partition)
  let stored ← checkpoint cancel (.ensure partition)
  if start = .latest ∧ stored.isStartOfStream then
    seedLatest cancel partition

def prepareAll (start : Position) (cancel : Cancellation) : List String → Program Unit
  | [] => return ()
  | partition :: rest => do
    prepare start cancel partition
    prepareAll start cancel rest

/-- Sets up the stores and prepares all partitions of the hub, which are the answer. -/
def bootstrap (owner : String) (start : Position) (cancel : Cancellation) :
    Program (List String) := do
  lease cancel .ensureStore
  checkpoint cancel .ensureStore
  let hub ← hub cancel
  prepareAll start cancel hub.partitions
  ask (.note (.bootstrapped hub.path hub.partitions.length owner))
  return hub.partitions

end PartitionHost.Host
