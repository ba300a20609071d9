import PartitionHost.Checkpoint
import PartitionHost.Error

/-!
# Operations on checkpoints

What a host may ask of a checkpoint store.
-/

namespace PartitionHost.Checkpoint

inductive Operation where
  /-- Whether the store is set up. -/
  | storeExists
  /-- Sets the store up, if it is not. -/
  | ensureStore
  /-- Deletes the store with all checkpoints. -/
  | deleteStore
  /-- The checkpoint of a partition, if there is one. -/
  | get (partition : String)
  /-- The checkpoint of a partition, which is the start of the stream if it was not there. -/
  | ensure (partition : String)
  /-- Puts a new position in the place of the one that is there. -/
  | update (partition : String) (position : Checkpoint)
  /-- Removes a checkpoint, if it is there. -/
  | delete (partition : String)
deriving DecidableEq

abbrev Operation.Reply : Operation → Type
  | .storeExists => Bool
  | .ensureStore => Unit
  | .deleteStore => Unit
  | .get _ => Option Checkpoint
  | .ensure _ => Checkpoint
  | .update _ _ => Unit
  | .delete _ => Unit

end PartitionHost.Checkpoint
