import PartitionHost.Error
import PartitionHost.Hub
import PartitionHost.Table

/-!
# Snapshots of a hub

A snapshot answers the questions to a management node from what was true once. It is made from a document
that holds the hub and, for some of its partitions, their ranges; partitions without one are empty. The
document must be consistent: the hub lists as many partitions as it says, and every range is one of a
listed partition.
-/

namespace PartitionHost

structure Snapshot where
  hub : Hub
  ranges : Table PartitionRange
deriving DecidableEq

instance : Inhabited Snapshot := ⟨⟨default, .empty⟩⟩

namespace Snapshot

/-! ## Faults -/

/-- Why a snapshot cannot be made. -/
inductive Fault where
  /-- The text is not a document. -/
  | malformed
  /-- The file cannot be read. -/
  | unreadable (path reason : String)
  | wrongCount (hub : String) (declared listed : Nat)
  | unlisted (partition hub : String)
deriving DecidableEq, Repr

def Fault.message : Fault → String
  | .malformed => s!"Invalid runtime snapshot: {unspecified}"
  | .unreadable path reason => s!"Failed to read runtime snapshot {path}: {reason}"
  | .wrongCount hub declared listed => s!"Hub {hub} declares {declared} partitions but lists {listed}"
  | .unlisted partition hub => s!"Partition {partition} is not listed by hub {hub}"

def Fault.toError (f : Fault) : Error := .management f.message

/-! ## Making a snapshot -/

/-- The snapshot of a hub and ranges; of two ranges of one partition the later counts. -/
def ofParts (hub : Hub) (ranges : List PartitionRange) : Snapshot :=
  ⟨hub, .ofList (ranges.map fun r => (r.partition, r))⟩

def ofPartitions (path : String) (partitions : List String) (now : Timestamp) : Snapshot :=
  ofParts ⟨path, now, partitions.length, partitions⟩ []

/-- A hub and the ranges of some of its partitions, as a document gives them. -/
structure Document where
  hub : Hub
  ranges : List PartitionRange
deriving DecidableEq

open Json

def ranges? : Value → Option (List PartitionRange)
  | .array items => items.mapM Record.ofJson?
  | _ => none

/-- The document that a value spells; a document without ranges has none. -/
def Document.ofJson? : Value → Option Document
  | .array [hub] => do return ⟨← Record.ofJson? hub, []⟩
  | .array [hub, ranges] => do return ⟨← Record.ofJson? hub, ← ranges? ranges⟩
  | .object ms => do
    let ms ← Value.members? ms
    let hub ← Value.only? "hub" ms
    let ranges ← match Value.valuesOf "partitions" ms with
      | [] => some []
      | [v] => ranges? v
      | _ => none
    return ⟨← Record.ofJson? hub, ranges⟩
  | _ => none

def Document.validate (d : Document) : Except Fault Unit :=
  if d.hub.partitionCount ≠ d.hub.partitions.length then
    .error (.wrongCount d.hub.path d.hub.partitionCount d.hub.partitions.length)
  else
    match d.ranges.find? fun r => !d.hub.partitions.contains r.partition with
    | some r => .error (.unlisted r.partition d.hub.path)
    | none => .ok ()

def ofText (text : Bytes) : Except Fault Snapshot := do
  match (Value.ofBytes? text).bind Document.ofJson? with
  | none => .error .malformed
  | some d =>
    d.validate
    return ofParts d.hub d.ranges

/-- The snapshot that the contents of a file give, which must be UTF-8. -/
def ofFile (path : String) (contents : Except String Bytes) : Except Fault Snapshot :=
  match contents with
  | .error reason => .error (.unreadable path reason)
  | .ok bytes =>
    match ofUtf8? bytes with
    | none => .error (.unreadable path "stream did not contain valid UTF-8")
    | some _ => ofText bytes

/-- Puts a range in the place of the one that is known of its partition. -/
def withRange (s : Snapshot) (r : PartitionRange) : Snapshot :=
  { s with ranges := s.ranges.insert r.partition r }

/-! ## Answers -/

/-- The range of a partition, if it is known or the hub lists the partition. -/
def range (s : Snapshot) (partition : String) : Except Error PartitionRange :=
  match s.ranges.get? partition with
  | some r => .ok r
  | none =>
    if s.hub.partitions.contains partition then .ok (.empty s.hub.path partition)
    else .error (.notFound partition)

end Snapshot

end PartitionHost
