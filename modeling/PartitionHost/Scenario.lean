import PartitionHost.Scenario.Deed

/-!
# Scenarios: a cluster put through a series of steps

A step is a deed, or several series of steps side by side. It has a time limit, past which it is dropped
where it waits; what it did until then stays. After every step the scenario tells what has changed in the
stores and in what the hosts believe they own.
-/

namespace PartitionHost

/-- A step of a scenario, with its limit in milliseconds. -/
inductive Step where
  | deed (limit : Nat) (d : Deed)
  | together (limit : Nat) (branches : List (List Step))

/-- The outcome of a step, `none` if it was dropped, and the milliseconds that it took. -/
inductive Report where
  | deed (d : Deed) (outcome : Option d.Outcome) (took : Nat)
  | together (branches : Option (List (List Report))) (took : Nat)

namespace Step

open Routine

/-- Runs a routine; its value and the milliseconds that it took. -/
def timed {α : Type} (t : Routine α) : Routine (α × Nat) := do
  let start ← read (·.elapsed)
  let a ← t
  return (a, (← read (·.elapsed)) - start)

/-- Runs a routine within so many milliseconds. -/
def limited {α : Type} (limit : Nat) (t : Routine α) : Routine (Option α) := do
  t.within ((← read (·.elapsed)) + limit)

mutual

def run (b : Blueprint) : Step → Routine Report
  | .deed limit d => do
    let (outcome, took) ← timed (d.run b limit)
    return .deed d outcome took
  | .together limit branches => do
    let (reports, took) ← timed (limited limit (Routine.together (runBranches b branches)))
    return .together reports took

/-- Makes steps one after the other. -/
def runAll (b : Blueprint) : List Step → Routine (List Report)
  | [] => return []
  | s :: steps => do return (← run b s) :: (← runAll b steps)

def runBranches (b : Blueprint) : List (List Step) → List (Routine (List Report))
  | [] => []
  | steps :: branches => runAll b steps :: runBranches b branches

end

end Step

/-! ## Views -/

inductive StoreView (α : Type) where
  /-- The records of a register, if it is set up. -/
  | register (records : Option (List α))
  | bucket (created : Bool) (revision : Nat) (values : List (String × Bytes))
deriving DecidableEq

def Vault.view {α : Type} (v : Vault α) : Site.StoreKind → StoreView α
  | .register => .register (v.register.map (·.values))
  | .bucket =>
    let b := (v.server.map (·.bucket)).getD {}
    .bucket b.created b.revision (b.entries.entries.map fun e => (e.1, e.2.value))

/-- What the stores hold and which partitions the hosts believe they own. -/
structure View where
  leases : StoreView Lease
  checkpoints : StoreView Checkpoint
  owned : List (String × List String)
deriving DecidableEq

def Cluster.view (c : Cluster) (b : Blueprint) : View where
  leases := c.leases.view b.leases
  checkpoints := c.checkpoints.view b.checkpoints
  owned := c.members.entries.map fun e => (e.1, e.2.owned.names)

structure Change where
  leases : Option (StoreView Lease)
  checkpoints : Option (StoreView Checkpoint)
  owned : Option (List (String × List String))

/-- The value, unless it is what it was before. -/
def unlessSame {α : Type} [DecidableEq α] (before : Option α) (now : α) : Option α :=
  if before = some now then none else some now

/-- What has changed since an earlier view; everything if there was none. -/
def View.since (v : View) (before : Option View) : Change where
  leases := unlessSame (before.map (·.leases)) v.leases
  checkpoints := unlessSame (before.map (·.checkpoints)) v.checkpoints
  owned := unlessSame (before.map (·.owned)) v.owned

/-! ## Scenarios -/

structure Scenario where
  blueprint : Blueprint
  start : Timestamp
  /-- Whether the buckets exist from the start. -/
  bucketsCreated : Bool
  /-- The hosts that are members from the start. -/
  hosts : List String
  steps : List Step

namespace Scenario

def vault {α : Type} (s : Scenario) (name : String) : Vault α where
  server := some { name, bucket := { created := s.bucketsCreated } }

def cluster (s : Scenario) : Cluster where
  leases := s.vault "leases"
  checkpoints := s.vault "checkpoints"
  members := .ofList (s.hosts.map (·, s.blueprint.freshMember))
  origin := s.start.toNanos

/-- Makes steps and tells after each what has changed. -/
def play (b : Blueprint) (before : Option View) (c : Cluster) : List Step → List (Report × Change)
  | [] => []
  | s :: steps =>
    let (report, c) := (s.run b).run c
    let view := c.view b
    match report with
    | some report => (report, view.since before) :: play b (some view) c steps
    | none => play b (some view) c steps

def run (s : Scenario) : List (Report × Change) := play s.blueprint none s.cluster s.steps

end Scenario

end PartitionHost
