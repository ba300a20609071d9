import PartitionHost.Text.Quoted

/-!
# Errors

What can go wrong in the lease and checkpoint stores and around them. To lose a lease, or not to get
one, is no error: those operations say so in their answer.
-/

namespace PartitionHost

inductive ClientError where
  | connection (detail : String)
  | config (detail : String)
deriving DecidableEq, Repr

inductive Error where
  /-- The partition was never ensured in the store, or was deleted. -/
  | notFound (partition : String)
  /-- The store was never set up, or was deleted. -/
  | storeNotInitialized (store : String)
  /-- The cancellation of the operation fired. -/
  | cancelled
  /-- The host does not own the partition any more. -/
  | leaseLost (partition : String)
  /-- Other writers were faster each time. -/
  | conflict (partition : String)
  | store (detail : String)
  | record (detail : String)
  | management (detail : String)
  | config (detail : String)
  | client (cause : ClientError)
deriving DecidableEq, Repr, Inhabited

def ClientError.message : ClientError → String
  | .connection detail => s!"Connection Error - {detail}"
  | .config detail => s!"Config Error - {detail}"

def Error.message : Error → String
  | .notFound partition => s!"Partition {partition} is not in the store"
  | .storeNotInitialized name => s!"{name} store is not initialized"
  | .cancelled => "CancellationToken Cancelled"
  | .leaseLost partition => s!"Lease for partition {partition} is lost"
  | .conflict partition => s!"Conflicting concurrent update of partition {partition}"
  | .store detail => s!"KV Error - {detail}"
  | .record detail => s!"Serde Error - {detail}"
  | .management detail => s!"Management Error - {detail}"
  | .config detail => s!"Config Error - {detail}"
  | .client cause => s!"Error in Shared - {cause.message}"

/-- A client error as a log shows it: its kind, with the detail quoted. -/
def ClientError.tagged : ClientError → String
  | .connection detail => s!"Connection({Text.quoted detail})"
  | .config detail => s!"Config({Text.quoted detail})"

/-- An error as a log shows it: its kind, with the detail quoted. -/
def Error.tagged : Error → String
  | .notFound partition => s!"NotFound({Text.quoted partition})"
  | .storeNotInitialized name => s!"StoreNotInitialized({Text.quoted name})"
  | .cancelled => "Cancelled"
  | .leaseLost partition => s!"LeaseLost({Text.quoted partition})"
  | .conflict partition => s!"Conflict({Text.quoted partition})"
  | .store detail => s!"KV({Text.quoted detail})"
  | .record detail => s!"Serde({Text.quoted detail})"
  | .management detail => s!"Management({Text.quoted detail})"
  | .config detail => s!"Config({Text.quoted detail})"
  | .client cause => s!"Shared({cause.tagged})"

/-- Stands in a message where the words of whoever failed are not passed on. -/
def unspecified : String := "<detail>"

def Error.undecodable (key : String) (revision : Nat) : Error :=
  .record s!"Failed to decode key {key} at revision {revision}{unspecified}"

end PartitionHost
