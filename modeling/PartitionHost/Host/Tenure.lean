import PartitionHost.Host.Balance
import PartitionHost.Host.Bootstrap

/-!
# Tenure: from bootstrap to shutdown

A host that runs bootstraps once, then scans at regular intervals until it is cancelled, and gives back
all it holds on the way out. Meanwhile its consumers report their progress through it, so that only the
owner of a partition moves its checkpoint.
-/

namespace PartitionHost.Host

/-! ## Progress -/

/--
Records progress in a partition. The lease is updated first, which fails if it was lost and otherwise
starts a new epoch.
-/
def recordProgress (cancel : Cancellation) (partition : String) (position : Checkpoint) :
    Program Unit := do
  let (updated, held) ← lease cancel (.update partition)
  if held then
    ask (.own partition updated)
    checkpoint cancel (.update partition position)
  else
    lose partition
    throw (.leaseLost partition)

/-! ## Shutdown -/

/-- Gives back the leases of these partitions; the consumers lose them in any case. -/
def releaseAll : List String → Program Unit
  | [] => return ()
  | partition :: rest => do
    let _ ← outcome (lease .never (.release partition))
    lose partition
    releaseAll rest

/-- Gives back all leases. Nothing cancels this, for a host shuts down because it was cancelled. -/
def shutdown : Program Unit := do
  releaseAll (← ask .owned).names

/-! ## Running -/

/-- How late a scan may begin, in nanoseconds, without moving the ones after it. -/
def lateness : Nat := 5000000

/-- When the next scan is due, after one that was due at `due` and begun at `begun`. -/
def nextDue (interval : Duration) (due begun : Nat) : Nat :=
  if due + lateness < begun then begun + interval.nanos else due + interval.nanos

/--
Scans at regular intervals until cancelled, at most `rounds` times; whether it was cancelled. The
outcome of a scan changes nothing, unless the scan itself was cancelled.
-/
def scanUntilCancelled (owner : String) (interval : Duration) (cancel : Cancellation) :
    (rounds due : Nat) → Program Bool
  | 0, _ => return false
  | rounds + 1, due => do
    match ← ask (.wait cancel due) with
    | .cancelled => return true
    | .due =>
      let begun := (← ask .elapsed) * Duration.nanosPerMilli
      match ← outcome (scan owner cancel) with
      | .error .cancelled => return true
      | _ => scanUntilCancelled owner interval cancel rounds (nextDue interval due begun)

/--
Runs a host with these settings until it is cancelled, then shuts it down. The answer is `none` if the
host has scanned `rounds` times and is still running.
-/
def run (owner : String) (settings : Settings) (cancel : Cancellation) (rounds : Nat) :
    Program (Option Unit) := do
  match settings.validate with
  | .error fault => throw fault.toError
  | .ok () => pure ()
  let _ ← bootstrap owner settings.initialPosition cancel
  let start := (← ask .elapsed) * Duration.nanosPerMilli
  if ← scanUntilCancelled owner settings.scanInterval cancel rounds start then
    ask (.note (.shuttingDown owner))
    shutdown
    return some ()
  else
    return none

end PartitionHost.Host
