import PartitionHost.Error
import PartitionHost.Json.Token
import PartitionHost.Table

/-!
# Buckets: revisioned stores of keys and values

A bucket counts its writes. The count is the revision that a written entry carries, so an entry that
still carries the revision at which it was read has not been written since. Conditional writes use this:
`create` writes only where there is no entry, `update` only over an entry of the given revision. Of
several writers that read one revision, one succeeds; the others write nothing and learn so.

A `Server` answers calls on one bucket. It can be told to fail calls, to let updates lose against a
competing writer and to take its time, for trying out what its clients do then.
-/

namespace PartitionHost

structure Stamped where
  value : Bytes
  revision : Nat
deriving DecidableEq, Repr, Inhabited

structure Entry where
  key : String
  value : Bytes
  revision : Nat
deriving DecidableEq, Repr

structure Bucket where
  created : Bool := false
  entries : Table Stamped := .empty
  /-- The number of writes so far; it stays when the bucket is deleted. -/
  revision : Nat := 0
deriving DecidableEq

instance : Inhabited Bucket := ⟨{}⟩

namespace Bucket

/-! ## Calls and their answers -/

inductive Access where
  | keys | entry | create | update | delete
deriving DecidableEq, Repr

inductive Call where
  | exists?
  | ensure
  | drop
  | keys
  | entry (key : String)
  | create (key : String) (value : Bytes)
  | update (key : String) (value : Bytes) (revision : Nat)
  | delete (key : String)

abbrev Call.Reply : Call → Type
  | .exists? => Bool
  | .ensure => Unit
  | .drop => Unit
  | .keys => List String
  | .entry _ => Option Entry
  | .create _ _ => Option Nat
  | .update _ _ _ => Option Nat
  | .delete _ => Unit

inductive Failure where
  /-- The bucket was not created, or was deleted. -/
  | noBucket (name : String)
  /-- The server failed. -/
  | backend (access : Access) (detail : String)
  /-- The server could not be reached. -/
  | unreachable
deriving DecidableEq, Repr

def Access.failed : Access → String
  | .keys => "Failed to get keys"
  | .entry => "Failed to get entry"
  | .create => "Failed to create key"
  | .update => "Failed to update key"
  | .delete => "Failed to delete key"

def Failure.detail : Failure → String
  | .noBucket name => name
  | .backend access detail => s!"{access.failed}: {detail}"
  | .unreachable => unspecified

def Failure.message : Failure → String
  | .noBucket name => s!"KV bucket {name} does not exist"
  | f => s!"KV backend error - {f.detail}"

/-- What a failed call means to the store that is kept in the bucket. -/
def Failure.toError : Failure → Error
  | .noBucket name => .storeNotInitialized name
  | f => .store f.detail

/-! ## The bucket itself -/

def entry? (b : Bucket) (key : String) : Option Entry :=
  (b.entries.get? key).map fun s => ⟨key, s.value, s.revision⟩

/-- The bucket after a write of `value` under `key`. -/
def write (b : Bucket) (key : String) (value : Bytes) : Bucket :=
  { b with
    entries := b.entries.insert key ⟨value, b.revision + 1⟩
    revision := b.revision + 1 }

def create (b : Bucket) (key : String) (value : Bytes) : Option Nat × Bucket :=
  if b.entries.contains key then (none, b) else (some (b.revision + 1), b.write key value)

def update (b : Bucket) (key : String) (value : Bytes) (revision : Nat) : Option Nat × Bucket :=
  if (b.entries.get? key).map (·.revision) = some revision then
    (some (b.revision + 1), b.write key value)
  else (none, b)

/-- The bucket after a competing writer put the value of `key` there once more, if there is one. -/
def touch (b : Bucket) (key : String) : Bucket :=
  match b.entries.get? key with
  | some s => b.write key s.value
  | none => { b with revision := b.revision + 1 }

def delete (b : Bucket) (key : String) : Bucket :=
  if b.entries.contains key then
    { b with entries := b.entries.erase key, revision := b.revision + 1 }
  else b

/-! ## The server -/

structure Faults where
  failKeys : Nat := 0
  failEntries : Nat := 0
  failCreates : Nat := 0
  failUpdates : Nat := 0
  failDeletes : Nat := 0
  /-- How many updates find that a competing writer was there first. -/
  conflictUpdates : Nat := 0
  /-- How many milliseconds `keys` and `entry` take. -/
  readLatency : Nat := 0
  /-- How many milliseconds `create`, `update` and `delete` take. -/
  writeLatency : Nat := 0
deriving DecidableEq, Repr, Inhabited

structure Server where
  name : String
  bucket : Bucket := {}
  faults : Faults := {}
deriving DecidableEq, Inhabited

namespace Server

/-- How many milliseconds a call takes before it does anything. -/
def latency (s : Server) : Call → Nat
  | .keys | .entry _ => s.faults.readLatency
  | .create _ _ | .update _ _ _ | .delete _ => s.faults.writeLatency
  | .exists? | .ensure | .drop => 0

/-- Uses up one failure of a kind of access; none if there is none left. -/
def takeFailure (f : Faults) : Access → Option Faults
  | .keys => if 0 < f.failKeys then some { f with failKeys := f.failKeys - 1 } else none
  | .entry => if 0 < f.failEntries then some { f with failEntries := f.failEntries - 1 } else none
  | .create => if 0 < f.failCreates then some { f with failCreates := f.failCreates - 1 } else none
  | .update => if 0 < f.failUpdates then some { f with failUpdates := f.failUpdates - 1 } else none
  | .delete => if 0 < f.failDeletes then some { f with failDeletes := f.failDeletes - 1 } else none

/-- Answers a call by `act` unless it is made to fail or there is no bucket. -/
def access {α : Type} (s : Server) (kind : Access) (act : Server → α × Server) :
    Except Failure α × Server :=
  match takeFailure s.faults kind with
  | some faults => (.error (.backend kind "injected failure"), { s with faults := faults })
  | none =>
    if s.bucket.created then
      let (a, s) := act s
      (.ok a, s)
    else (.error (.noBucket s.name), s)

def update (s : Server) (key : String) (value : Bytes) (revision : Nat) : Option Nat × Server :=
  if 0 < s.faults.conflictUpdates then
    (none,
      { s with
        bucket := s.bucket.touch key
        faults := { s.faults with conflictUpdates := s.faults.conflictUpdates - 1 } })
  else
    let (r, b) := s.bucket.update key value revision
    (r, { s with bucket := b })

def answer (s : Server) : (c : Call) → Except Failure c.Reply × Server
  | .exists? => (.ok s.bucket.created, s)
  | .ensure => (.ok (), { s with bucket := { s.bucket with created := true } })
  | .drop => (.ok (), { s with bucket := { s.bucket with created := false, entries := .empty } })
  | .keys => s.access .keys fun s => (s.bucket.entries.names, s)
  | .entry key => s.access .entry fun s => (s.bucket.entry? key, s)
  | .create key value =>
    s.access .create fun s =>
      let (r, b) := s.bucket.create key value
      (r, { s with bucket := b })
  | .update key value revision => s.access .update fun s => s.update key value revision
  | .delete key => s.access .delete fun s => ((), { s with bucket := s.bucket.delete key })

end Server

end Bucket

end PartitionHost
