import PartitionHost.Error
import PartitionHost.Table

/-!
# Registers: stores of records inside one process

A register does not exist until it is set up. From then on it is a table of records, one for each
partition, until it is deleted.
-/

namespace PartitionHost

abbrev Register (α : Type) := Option (Table α)

namespace Register

variable {α β : Type}

/-- Answers from the table, which `act` may change; an error if there is none. -/
def withTable (r : Register α) (store : String) (act : Table α → Except Error β × Table α) :
    Except Error β × Register α :=
  match r with
  | none => (.error (.storeNotInitialized store), none)
  | some t =>
    let (answer, t) := act t
    (answer, some t)

/-- The register once it is set up. -/
def setUp (r : Register α) : Register α := some (r.getD .empty)

/-- The record of a partition, which is put there first if there is none. -/
def ensure (t : Table α) (partition : String) (fresh : α) : α × Table α :=
  match t.get? partition with
  | some a => (a, t)
  | none => (fresh, t.insert partition fresh)

end Register

end PartitionHost
