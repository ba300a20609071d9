import PartitionHost.Record

/-!
# Checkpoints

A checkpoint is the position in a partition up to which its owner has processed it.
-/

namespace PartitionHost

structure Checkpoint where
  partition : String
  sequenceNumber : Int
  /-- The place in the stream, empty at its beginning. -/
  offset : String
  enqueuedAt : Timestamp
deriving DecidableEq, Inhabited

namespace Checkpoint

/-- The checkpoint of a partition that has never been processed. -/
def startOfStream (partition : String) : Checkpoint := ⟨partition, 0, "", .epoch⟩

def isStartOfStream (c : Checkpoint) : Bool := c.sequenceNumber == 0 && c.offset.isEmpty

/-- The position as that of `partition`, whatever partition it names itself. -/
def forPartition (c : Checkpoint) (partition : String) : Checkpoint :=
  { c with partition := partition }

instance : Record Checkpoint where
  schema :=
    [("partition_id", .text), ("sequence_number", .integer), ("offset", .text),
      ("enqueued_time_utc", .timestamp)]
  contents c := (c.partition, c.sequenceNumber, c.offset, c.enqueuedAt, ())
  ofContents := fun (partition, sequenceNumber, offset, enqueuedAt, _) =>
    ⟨partition, sequenceNumber, offset, enqueuedAt⟩

end Checkpoint

end PartitionHost
