import PartitionHost.Bucket.Client
import PartitionHost.Lease.Operation

/-!
# Leases in a bucket

A lease store shared by processes: each lease is a record in a bucket, under the name of its partition.
A transition reads the lease, decides on it and writes the outcome on condition that nobody has written
since. If somebody has, it reads again, so that a decision is always one on the latest lease.
-/

namespace PartitionHost.Lease.Bucketed

open Bucket Bucket.Client

def read (partition : String) : Program (Lease × Nat) := do
  match ← call (.entry partition) with
  | some e => return (← decode e, e.revision)
  | none => throw (.notFound partition)

/--
Applies a transition: the lease as it was written and `true`, or the latest lease and `false` where the
transition is not allowed on it. A lease that keeps changing is a conflict.
-/
def transition (partition : String) (next : Lease → Timestamp → Option Lease) :
    Nat → Program (Lease × Bool)
  | 0 => throw (.conflict partition)
  | attempts + 1 => do
    let (lease, revision) ← read partition
    match next lease (← now) with
    | none => return (lease, false)
    | some changed =>
      match ← call (.update partition (Record.encode changed) revision) with
      | some _ => return (changed, true)
      | none => transition partition next attempts

/-- Takes a lease. One that keeps changing is simply not taken this time. -/
def acquire (me : Claimant) (partition : String) : Program (Lease × Bool) :=
  tryCatch (transition partition (·.acquire me.owner me.term ·) maxAttempts) fun
    | .conflict _ => do return ((← read partition).1, false)
    | e => throw e

/-- The leases under these keys, without those deleted meanwhile. -/
def readAll : List String → Program (List Lease)
  | [] => return []
  | key :: keys => do
    match ← read? Lease key with
    | some lease => return lease :: (← readAll keys)
    | none => readAll keys

def perform (me : Claimant) : (op : Operation) → Program op.Reply
  | .storeExists => call .exists?
  | .ensureStore => call .ensure
  | .deleteStore => call .drop
  | .list => do readAll (← call .keys)
  | .ensure partition => ensure partition (.unowned partition) maxAttempts
  | .delete partition => call (.delete partition)
  | .acquire partition => acquire me partition
  | .renew partition => transition partition (·.renew me.owner me.term ·) maxAttempts
  | .release partition => do
    return (← transition partition (·.release me.owner ·) maxAttempts).2
  | .update partition => transition partition (·.update me.owner me.term ·) maxAttempts

end PartitionHost.Lease.Bucketed
