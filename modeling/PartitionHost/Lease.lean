import PartitionHost.Record

/-!
# Leases

A lease says who owns a partition and until when. It belongs to nobody while its owner is empty and
to nobody any more once its expiry has passed. The epoch grows with every acquisition and every
update, so that whoever saw a later epoch can refuse the work of an earlier owner.
-/

namespace PartitionHost

structure Lease where
  partition : String
  /-- The host that owns the partition; empty while nobody does. -/
  owner : String
  expiresAt : Timestamp
  epoch : Nat
deriving DecidableEq, Inhabited

namespace Lease

def unowned (partition : String) : Lease := ⟨partition, "", .epoch, 0⟩

instance : Record Lease where
  schema :=
    [("partition_id", .text), ("owner", .text), ("expires_at", .timestamp), ("epoch", .natural)]
  contents l := (l.partition, l.owner, l.expiresAt, l.epoch, ())
  ofContents := fun (partition, owner, expiresAt, epoch, _) => ⟨partition, owner, expiresAt, epoch⟩

/-! ## Transitions

Each transition takes the current lease and the time of the decision. It gives the next lease, or
nothing where it is not allowed.
-/

/-- A lease is available when nobody owns it or its owner let it expire. -/
def isAvailable (l : Lease) (now : Timestamp) : Bool := l.owner.isEmpty || l.expiresAt < now

/-- Whether `owner` holds the lease. -/
def isHeldBy (l : Lease) (owner : String) (now : Timestamp) : Bool :=
  !l.isAvailable now && l.owner == owner

/-- An available lease goes to `owner` for `term`, in a new epoch. -/
def acquire (l : Lease) (owner : String) (term : Duration) (now : Timestamp) : Option Lease :=
  if l.isAvailable now then
    some { l with owner := owner, expiresAt := now.plus term, epoch := l.epoch + 1 }
  else none

/-- A lease that `owner` holds goes on for `term`. -/
def renew (l : Lease) (owner : String) (term : Duration) (now : Timestamp) : Option Lease :=
  if l.isHeldBy owner now then some { l with expiresAt := now.plus term } else none

/-- A lease that `owner` holds goes on for `term`, in a new epoch. -/
def update (l : Lease) (owner : String) (term : Duration) (now : Timestamp) : Option Lease :=
  (l.renew owner term now).map fun next => { next with epoch := next.epoch + 1 }

/-- A lease that `owner` holds goes back; it has been expired for a second. -/
def release (l : Lease) (owner : String) (now : Timestamp) : Option Lease :=
  if l.isHeldBy owner now then
    some { l with owner := "", expiresAt := now.minus (.ofSeconds 1) }
  else none

end Lease

end PartitionHost
