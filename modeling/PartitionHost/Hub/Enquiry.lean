import PartitionHost.Hub.Snapshot
import PartitionHost.Time.Duration

/-!
# Enquiries at a management node

The two questions that a management node answers. A `ManagementNode` answers from a snapshot; it counts
the questions, takes its time and can be told to fail some of them.
-/

namespace PartitionHost

inductive Enquiry where
  | hub
  | range (partition : String)
deriving DecidableEq, Repr

abbrev Enquiry.Reply : Enquiry → Type
  | .hub => Hub
  | .range _ => PartitionRange

namespace Enquiry

/-- Whether it is worth asking again after an error. -/
def isRetryable : Error → Bool
  | .cancelled | .notFound _ => false
  | _ => true

/-- How often and at which intervals a question that failed is asked again. -/
structure Patience where
  interval : Duration := .ofMillis 1000
  retries : Nat := 3
deriving DecidableEq, Repr, Inhabited

end Enquiry

def Snapshot.answer (s : Snapshot) : (q : Enquiry) → Except Error q.Reply
  | .hub => .ok s.hub
  | .range partition => s.range partition

structure ManagementNode where
  snapshot : Snapshot
  /-- How many questions it was asked. -/
  asked : Nat := 0
  /-- How many of the next questions fail. -/
  failures : Nat := 0
  /-- How they fail. -/
  failure : Error := .management "injected"
  /-- How many milliseconds each answer takes. -/
  latency : Nat := 0
deriving DecidableEq, Inhabited

namespace ManagementNode

def takeQuestion (n : ManagementNode) : Option Error × ManagementNode :=
  let n := { n with asked := n.asked + 1 }
  if 0 < n.failures then (some n.failure, { n with failures := n.failures - 1 }) else (none, n)

end ManagementNode

end PartitionHost
