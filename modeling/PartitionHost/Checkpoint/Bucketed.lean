import PartitionHost.Bucket.Client
import PartitionHost.Checkpoint.Operation

/-!
# Checkpoints in a bucket

A checkpoint store shared by processes: each checkpoint is a record in a bucket, under the name of its
partition. A position is written only over one that is there, so a checkpoint that was deleted is not
brought back.
-/

namespace PartitionHost.Checkpoint.Bucketed

open Bucket Bucket.Client

def replace (key : String) (value : Bytes) : Nat → Program Unit
  | 0 => throw (.conflict key)
  | attempts + 1 => do
    match ← call (.entry key) with
    | none => throw (.notFound key)
    | some e =>
      match ← call (.update key value e.revision) with
      | some _ => return ()
      | none => replace key value attempts

def perform : (op : Operation) → Program op.Reply
  | .storeExists => call .exists?
  | .ensureStore => call .ensure
  | .deleteStore => call .drop
  | .get partition => read? Checkpoint partition
  | .ensure partition => ensure partition (.startOfStream partition) maxAttempts
  | .update partition position =>
    replace partition (Record.encode (position.forPartition partition)) maxAttempts
  | .delete partition => call (.delete partition)

end PartitionHost.Checkpoint.Bucketed
