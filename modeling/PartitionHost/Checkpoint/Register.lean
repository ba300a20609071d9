import PartitionHost.Checkpoint.Operation
import PartitionHost.Register

/-!
# Checkpoints in a register

A checkpoint store inside one process.
-/

namespace PartitionHost.Checkpoint.Register

def storeName : String := "checkpoint"

def perform (r : Register Checkpoint) :
    (op : Operation) → Except Error op.Reply × Register Checkpoint
  | .storeExists => (.ok r.isSome, r)
  | .ensureStore => (.ok (), r.setUp)
  | .deleteStore => (.ok (), none)
  | .get partition => r.withTable storeName fun t => (.ok (t.get? partition), t)
  | .ensure partition =>
    r.withTable storeName fun t =>
      let (c, t) := PartitionHost.Register.ensure t partition (.startOfStream partition)
      (.ok c, t)
  | .update partition position =>
    r.withTable storeName fun t =>
      if t.contains partition then (.ok (), t.insert partition (position.forPartition partition))
      else (.error (.notFound partition), t)
  | .delete partition => r.withTable storeName fun t => (.ok (), t.erase partition)

end PartitionHost.Checkpoint.Register
