import PartitionHost.Cluster.Mailbox
import PartitionHost.Cluster.Site

/-!
# Clusters: what hosts share and what each has of its own

The hosts of a cluster share a lease store and a checkpoint store. Each store can be kept as a register, or
as a bucket on a server, if there is one. Each host has the leases that it believes in, a mailbox for its
events and a management node.

There are two clocks. One only goes forward, and everything that takes time moves it on. The other one, by
which leases are measured, goes along with it but can be set.
-/

namespace PartitionHost

structure Vault (α : Type) where
  register : Register α := none
  /-- The server of the bucket; `none` if it cannot be reached. -/
  server : Option Bucket.Server := none
deriving DecidableEq

instance {α : Type} : Inhabited (Vault α) := ⟨{}⟩

namespace Vault

variable {α : Type}

/-- How many milliseconds a call on the bucket takes. -/
def latency (v : Vault α) (c : Bucket.Call) : Nat := (v.server.map (·.latency c)).getD 0

def call (v : Vault α) (c : Bucket.Call) : Except Bucket.Failure c.Reply × Vault α :=
  match v.server with
  | none => (.error .unreachable, v)
  | some s =>
    let (answer, s) := s.answer c
    (answer, { v with server := some s })

def setFaults (v : Vault α) (f : Bucket.Faults → Bucket.Faults) : Vault α :=
  { v with server := v.server.map fun s => { s with faults := f s.faults } }

end Vault

inductive StoreName where
  | leases
  | checkpoints
deriving DecidableEq, Repr

structure Member where
  /-- The leases that the host believes it holds. -/
  owned : Table Lease := .empty
  mailbox : Mailbox := default
  node : ManagementNode := default
deriving DecidableEq, Inhabited

structure Cluster where
  leases : Vault Lease := {}
  checkpoints : Vault Checkpoint := {}
  members : Table Member := .empty
  /-- The milliseconds that have passed. -/
  elapsed : Nat := 0
  /-- What the clock for leases showed when nothing had passed, in nanoseconds after 1970 began. -/
  origin : Int := 0
  /-- What the hosts noted, the latest first. -/
  notes : List Note := []
deriving DecidableEq, Inhabited

namespace Cluster

/-! ## Clocks -/

def now (c : Cluster) : Timestamp :=
  .ofNanos (c.origin + (c.elapsed * Duration.nanosPerMilli : Nat))

def advance (c : Cluster) (d : Duration) : Cluster := { c with origin := c.origin + d.nanos }

def setNow (c : Cluster) (t : Timestamp) : Cluster :=
  { c with origin := t.toNanos - (c.elapsed * Duration.nanosPerMilli : Nat) }

def wakeAt (c : Cluster) (moment : Nat) : Cluster := { c with elapsed := max c.elapsed moment }

/-! ## Buckets -/

/-- How many milliseconds a call on the bucket of a store takes. -/
def latency (c : Cluster) (store : StoreName) (call : Bucket.Call) : Nat :=
  match store with
  | .leases => c.leases.latency call
  | .checkpoints => c.checkpoints.latency call

def call (c : Cluster) (store : StoreName) (call : Bucket.Call) :
    Except Bucket.Failure call.Reply × Cluster :=
  match store with
  | .leases =>
    let (answer, v) := c.leases.call call
    (answer, { c with leases := v })
  | .checkpoints =>
    let (answer, v) := c.checkpoints.call call
    (answer, { c with checkpoints := v })

def server? (c : Cluster) : StoreName → Option Bucket.Server
  | .leases => c.leases.server
  | .checkpoints => c.checkpoints.server

def setFaults (c : Cluster) (store : StoreName) (f : Bucket.Faults → Bucket.Faults) : Cluster :=
  match store with
  | .leases => { c with leases := c.leases.setFaults f }
  | .checkpoints => { c with checkpoints := c.checkpoints.setFaults f }

/-! ## Members -/

def member (c : Cluster) (host : String) : Member := (c.members.get? host).getD default

def setMember (c : Cluster) (host : String) (m : Member) : Cluster :=
  { c with members := c.members.insert host m }

def join (c : Cluster) (host : String) (fresh : Member) : Cluster :=
  if c.members.contains host then c else c.setMember host fresh

def setMailbox (c : Cluster) (host : String) (m : Mailbox) : Cluster :=
  c.setMember host { c.member host with mailbox := m }

def setNode (c : Cluster) (host : String) (n : ManagementNode) : Cluster :=
  c.setMember host { c.member host with node := n }

def own (c : Cluster) (host partition : String) (lease : Lease) : Cluster :=
  let m := c.member host
  c.setMember host { m with owned := m.owned.insert partition lease }

/-- Believes that a host does not hold a lease; whether it did until now. -/
def disown (c : Cluster) (host partition : String) : Bool × Cluster :=
  let m := c.member host
  (m.owned.contains partition, c.setMember host { m with owned := m.owned.erase partition })

end Cluster

end PartitionHost
