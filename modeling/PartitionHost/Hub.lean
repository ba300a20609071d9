import PartitionHost.Record

/-!
# Hubs and their partitions

What the management node of a stream reports: the partitions of a hub, and the range of the messages
in one partition.
-/

namespace PartitionHost

structure Hub where
  path : String
  createdAt : Timestamp
  partitionCount : Nat
  partitions : List String
deriving DecidableEq, Inhabited

structure PartitionRange where
  hubPath : String
  partition : String
  firstSequenceNumber : Int
  lastSequenceNumber : Int
  lastOffset : String
  lastEnqueuedAt : Timestamp
deriving DecidableEq, Inhabited

instance : Record Hub where
  schema :=
    [("name", .text), ("created_at", .timestamp), ("partition_count", .natural),
      ("partition_ids", .texts)]
  contents h := (h.path, h.createdAt, h.partitionCount, h.partitions, ())
  ofContents := fun (path, createdAt, partitionCount, partitions, _) =>
    ⟨path, createdAt, partitionCount, partitions⟩

instance : Record PartitionRange where
  schema :=
    [("name", .text), ("partition", .text), ("begin_sequence_number", .integer),
      ("last_enqueued_sequence_number", .integer), ("last_enqueued_offset", .text),
      ("last_enqueued_time_utc", .timestamp)]
  contents p :=
    (p.hubPath, p.partition, p.firstSequenceNumber, p.lastSequenceNumber, p.lastOffset,
      p.lastEnqueuedAt, ())
  ofContents := fun (hubPath, partition, first, last, offset, enqueuedAt, _) =>
    ⟨hubPath, partition, first, last, offset, enqueuedAt⟩

def PartitionRange.empty (hubPath partition : String) : PartitionRange :=
  ⟨hubPath, partition, 0, 0, "", .epoch⟩

end PartitionHost
