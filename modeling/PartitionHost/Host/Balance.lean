import PartitionHost.Host.Surroundings

/-!
# Balance: one scan of the leases

A scan renews the leases that the host holds, then takes available ones until it holds its fair share,
which is the number of partitions divided by the number of hosts, rounded up. The hosts are the owners
of live leases and the scanning host itself. Live leases of others are left alone, so partitions move
only when their owner gives them back or lets them expire.
-/

namespace PartitionHost.Host

/-! ## Losing a partition -/

/-- Gives up the belief in a lease, and announces the loss if there was one. -/
def lose (partition : String) : Program Unit := do
  if ← ask (.disown partition) then
    ask (.announce (.lost partition))

/-! ## Renewing -/

/--
Renews the leases of these partitions. A partition is lost if its lease is not held any more or is gone;
other errors leave it, for the next scan may come in time.
-/
def renewAll (cancel : Cancellation) : List String → Program Unit
  | [] => return ()
  | partition :: rest => do
    match ← outcome (lease cancel (.renew partition)) with
    | .ok (renewed, true) => ask (.own partition renewed)
    | .ok (_, false) => lose partition
    | .error (.notFound _) => lose partition
    | .error .cancelled => throw .cancelled
    | .error _ => pure ()
    renewAll cancel rest

/-! ## The fair share -/

/-- The owners of live leases and the host itself, each once. -/
def liveHosts (owner : String) (leases : List Lease) (now : Timestamp) : List String :=
  (owner :: (leases.filter (!·.isAvailable now)).map (·.owner)).eraseDups

def fairShare (partitions hosts : Nat) : Nat := (partitions + hosts - 1) / hosts

/-- The partitions whose leases may be taken, in ascending order. -/
def availablePartitions (leases : List Lease) (now : Timestamp) : List String :=
  ((leases.filter (·.isAvailable now)).map (·.partition)).mergeSort (· ≤ ·)

/-! ## Acquiring -/

/--
Takes the lease of a partition if it still can be taken. A lease without a checkpoint to start from is
of no use to anybody, so it is given back.
-/
def tryAcquire (cancel : Cancellation) (partition : String) : Program Unit := do
  let (taken, success) ← lease cancel (.acquire partition)
  if success then
    match ← outcome (checkpoint cancel (.ensure partition)) with
    | .ok position =>
      ask (.own partition taken)
      ask (.announce (.acquired taken position))
    | .error e =>
      let _ ← outcome (lease cancel (.release partition))
      throw e

def acquireUpTo (share : Nat) (cancel : Cancellation) : List String → Program Unit
  | [] => return ()
  | partition :: rest => do
    if share ≤ (← ask .owned).size then return ()
    match ← outcome (tryAcquire cancel partition) with
    | .error .cancelled => throw .cancelled
    | _ => pure ()
    acquireUpTo share cancel rest

def scan (owner : String) (cancel : Cancellation) : Program Unit := do
  renewAll cancel (← ask .owned).names
  let leases ← lease cancel .list
  let now ← ask .now
  let hosts := (liveHosts owner leases now).length
  let share := fairShare leases.length hosts
  acquireUpTo share cancel (availablePartitions leases now)
  ask (.note (.scanned owner (← ask .owned).size share hosts))

end PartitionHost.Host
