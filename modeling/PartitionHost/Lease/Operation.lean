import PartitionHost.Error
import PartitionHost.Lease

/-!
# Operations on leases

What a host may ask of a lease store. The store knows on whose behalf it is asked: a claimant, who
acquires leases for itself and always for the same term.
-/

namespace PartitionHost.Lease

structure Claimant where
  owner : String
  term : Duration
deriving DecidableEq

inductive Operation where
  /-- Whether the store is set up. -/
  | storeExists
  /-- Sets the store up, if it is not. -/
  | ensureStore
  /-- Deletes the store with all leases. -/
  | deleteStore
  /-- All leases. -/
  | list
  /-- The lease of a partition, which is unowned if it was not there. -/
  | ensure (partition : String)
  /-- Removes a lease, if it is there. -/
  | delete (partition : String)
  /-- Takes a lease if it is available; the lease and whether it was taken. -/
  | acquire (partition : String)
  /-- Goes on with a lease if it is held; the lease and whether it was. -/
  | renew (partition : String)
  /-- Gives a lease back if it is held; whether it was. -/
  | release (partition : String)
  /-- Goes on with a lease in a new epoch if it is held; the lease and whether it was. -/
  | update (partition : String)
deriving DecidableEq, Repr

abbrev Operation.Reply : Operation → Type
  | .storeExists => Bool
  | .ensureStore => Unit
  | .deleteStore => Unit
  | .list => List Lease
  | .ensure _ => Lease
  | .delete _ => Unit
  | .acquire _ => Lease × Bool
  | .renew _ => Lease × Bool
  | .release _ => Bool
  | .update _ => Lease × Bool

end PartitionHost.Lease
