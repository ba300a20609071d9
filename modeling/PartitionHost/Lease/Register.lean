import PartitionHost.Lease.Operation
import PartitionHost.Register

/-!
# Leases in a register

A lease store inside one process: every operation is one change of a table. It never fails but for a
store that was not set up or a partition without a lease.
-/

namespace PartitionHost.Lease.Register

def storeName : String := "lease"

/-- Applies a transition to a lease: the new lease and `true`, or the lease as it is and `false`. -/
def transition (t : Table Lease) (partition : String) (next : Lease → Option Lease) :
    Except Error (Lease × Bool) × Table Lease :=
  match t.get? partition with
  | none => (.error (.notFound partition), t)
  | some lease =>
    match next lease with
    | some changed => (.ok (changed, true), t.insert partition changed)
    | none => (.ok (lease, false), t)

def perform (me : Claimant) (now : Timestamp) (r : Register Lease) :
    (op : Operation) → Except Error op.Reply × Register Lease
  | .storeExists => (.ok r.isSome, r)
  | .ensureStore => (.ok (), r.setUp)
  | .deleteStore => (.ok (), none)
  | .list => r.withTable storeName fun t => (.ok t.values, t)
  | .ensure partition =>
    r.withTable storeName fun t =>
      let (lease, t) := PartitionHost.Register.ensure t partition (.unowned partition)
      (.ok lease, t)
  | .delete partition => r.withTable storeName fun t => (.ok (), t.erase partition)
  | .acquire partition =>
    r.withTable storeName fun t => transition t partition (·.acquire me.owner me.term now)
  | .renew partition =>
    r.withTable storeName fun t => transition t partition (·.renew me.owner me.term now)
  | .release partition =>
    r.withTable storeName fun t =>
      let (answer, t) := transition t partition (·.release me.owner now)
      (answer.map (·.2), t)
  | .update partition =>
    r.withTable storeName fun t => transition t partition (·.update me.owner me.term now)

end PartitionHost.Lease.Register
