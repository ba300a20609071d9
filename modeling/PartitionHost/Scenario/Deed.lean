import PartitionHost.Bucket.Text
import PartitionHost.Cluster.Service

/-!
# Deeds: what can be done to a cluster

A deed is one operation: of a host, of one of its stores, on a bucket behind the back of its clients, on the
clocks or on the faults that are to happen. A host joins the cluster when a deed first names it.
-/

namespace PartitionHost

structure Blueprint where
  snapshot : Snapshot
  settings : Settings := {}
  leases : Site.StoreKind := .register
  checkpoints : Site.StoreKind := .register
deriving Inhabited

namespace Blueprint

def freshMember (b : Blueprint) : Member where
  mailbox := .ofBuffer b.settings.eventBuffer
  node := { snapshot := b.snapshot }

def equipment (b : Blueprint) (host : String) : Equipment where
  me := ⟨host, b.settings.leaseTerm⟩
  leases := b.leases
  checkpoints := b.checkpoints

end Blueprint

inductive FaultKind where
  | failKeys | failEntries | failCreates | failUpdates | failDeletes
  | conflictUpdates | readLatency | writeLatency
deriving DecidableEq, Repr

def Bucket.Faults.set (f : Bucket.Faults) (kind : FaultKind) (count : Nat) : Bucket.Faults :=
  match kind with
  | .failKeys => { f with failKeys := count }
  | .failEntries => { f with failEntries := count }
  | .failCreates => { f with failCreates := count }
  | .failUpdates => { f with failUpdates := count }
  | .failDeletes => { f with failDeletes := count }
  | .conflictUpdates => { f with conflictUpdates := count }
  | .readLatency => { f with readLatency := count }
  | .writeLatency => { f with writeLatency := count }

inductive Errand where
  /-- Tells its name. -/
  | owner
  /-- Tells which partitions it believes it owns. -/
  | owned
  | bootstrap
  | scan
  | run
  | shutdown
  | recordProgress (partition : String) (position : Checkpoint)
  | lease (op : Lease.Operation)
  | checkpoint (op : Checkpoint.Operation)
  /-- Closes a store, which both can stand. -/
  | close
deriving DecidableEq

abbrev Errand.Reply : Errand → Type
  | .owner => String
  | .owned => List String
  | .bootstrap => Except Error (List String)
  | .scan => Except Error Unit
  | .run => Except Error Unit
  | .shutdown => Except Error Unit
  | .recordProgress _ _ => Except Error Unit
  | .lease op => Except Error op.Reply
  | .checkpoint op => Except Error op.Reply
  | .close => Except Error Unit

inductive Deed where
  | advance (d : Duration)
  | setNow (t : Timestamp)
  | sleep (ms : Nat)
  | inject (store : StoreName) (kind : FaultKind) (count : Nat)
  /-- Lets the next questions of a host fail, and take their time. -/
  | failQuestions (host : String) (count : Nat) (failure : Error) (latency : Nat)
  | bucketName (store : StoreName)
  | bucketText (store : StoreName)
  | call (store : StoreName) (c : Bucket.Call)
  /-- Sends a host on an errand, which may be cancelled after so many milliseconds. -/
  | send (host : String) (cancelAfter : Option Nat) (errand : Errand)
  /-- Takes out the events in the mailbox of a host. -/
  | events (host : String)
  /-- Takes the consumer of a host's events away. -/
  | dropEvents (host : String)
  /-- How many questions a host asked. -/
  | questions (host : String)

abbrev Deed.Outcome : Deed → Type
  | .advance _ => Unit
  | .setNow _ => Unit
  | .sleep _ => Unit
  | .inject _ _ _ => Unit
  | .failQuestions _ _ _ _ => Unit
  | .bucketName _ => String
  | .bucketText _ => String
  | .call _ c => Except Bucket.Failure c.Reply
  | .send _ _ errand => errand.Reply
  | .events _ => List Host.Event
  | .dropEvents _ => Unit
  | .questions _ => Nat

namespace Errand

open Routine

/-- More scans than a host can begin within so many milliseconds. -/
def roundsWithin (interval : Duration) (limit : Nat) : Nat :=
  limit * Duration.nanosPerMilli / interval.nanos + 2

/-- The leases in ascending order of their partitions. -/
def inOrder : (op : Lease.Operation) → op.Reply → op.Reply
  | .list, leases => leases.mergeSort (·.partition ≤ ·.partition)
  | _, answer => answer

def hosted {α : Type} (b : Blueprint) (host : String) (p : Host.Program α) :
    Routine (Except Error α) :=
  ofSite host ((b.equipment host).run p)

def stay {α : Type} (a : α) : Routine α := .wait { due := fun _ => none } (.done a)

/-- Runs an errand that has so many milliseconds. -/
def perform (b : Blueprint) (host : String) (cancel : Cancellation) (limit : Nat) :
    (errand : Errand) → Routine errand.Reply
  | .owner => return host
  | .owned => read fun c => (c.member host).owned.names
  | .bootstrap => hosted b host (Host.bootstrap host b.settings.initialPosition cancel)
  | .scan => hosted b host (Host.scan host cancel)
  | .run => do
    let rounds := roundsWithin b.settings.scanInterval limit
    match ← hosted b host (Host.run host b.settings cancel rounds) with
    | .ok (some ()) => return .ok ()
    | .ok none => stay (.ok ())
    | .error e => return .error e
  | .shutdown => hosted b host Host.shutdown
  | .recordProgress partition position =>
    hosted b host (Host.recordProgress cancel partition position)
  | .lease op =>
    (Except.map (inOrder op)) <$> ofSite host ((b.equipment host).lease cancel op)
  | .checkpoint op => ofSite host ((b.equipment host).checkpoint cancel op)
  | .close => return .ok ()

end Errand

namespace Deed

open Routine

def host? : Deed → Option String
  | .failQuestions host _ _ _ => some host
  | .send host _ _ => some host
  | .events host => some host
  | .dropEvents host => some host
  | .questions host => some host
  | _ => none

/-- Does a deed that has so many milliseconds, all hosts being members. -/
def act (b : Blueprint) (limit : Nat) : (d : Deed) → Routine d.Outcome
  | .advance d => change (·.advance d)
  | .setNow t => change (·.setNow t)
  | .sleep ms => do waitUntil (← read (·.elapsed + ms))
  | .inject store kind count => change (·.setFaults store (·.set kind count))
  | .failQuestions host count failure latency =>
    change fun c =>
      c.setNode host { (c.member host).node with failures := count, failure, latency }
  | .bucketName store => read fun c => ((c.server? store).map (·.name)).getD ""
  | .bucketText store => read fun c => ((c.server? store).map (·.text)).getD ""
  | .call store c => do return (← Routine.call store .never c).getD (.error .unreachable)
  | .send host cancelAfter errand => do
    let now ← read (·.elapsed)
    let cancel := (cancelAfter.map fun ms => Cancellation.firesAt (now + ms)).getD .never
    errand.perform b host cancel limit
  | .events host =>
    update fun c =>
      let (taken, m) := (c.member host).mailbox.drain
      (taken, c.setMailbox host m)
  | .dropEvents host => change fun c => c.setMailbox host (c.member host).mailbox.forsake
  | .questions host => read fun c => (c.member host).node.asked

/-- Does a deed within so many milliseconds; the outcome is `none` if they were not enough. -/
def run (b : Blueprint) (limit : Nat) (d : Deed) : Routine (Option d.Outcome) := do
  if let some host := d.host? then
    change (·.join host b.freshMember)
  let now ← read (·.elapsed)
  (d.act b limit).within (now + limit)

end Deed

end PartitionHost
