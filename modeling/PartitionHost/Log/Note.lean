import PartitionHost.Checkpoint
import PartitionHost.Lease
import PartitionHost.Settings

/-!
# Notes: what a log records

A note is something worth telling about a host or the process around it. Each kind of note has a level
of detail, comes from one part of the program, and is told in one sentence and some named values.
-/

namespace PartitionHost

namespace Log

/-- How much detail a log goes into, from errors only to everything. -/
inductive Level where
  | error | warn | info | debug | trace
deriving DecidableEq, Repr

/-- The place of a level among the levels; 0 is left for no log at all. -/
def Level.rank : Level → Nat
  | .error => 1
  | .warn => 2
  | .info => 3
  | .debug => 4
  | .trace => 5

def Level.name : Level → String
  | .error => "ERROR"
  | .warn => "WARN"
  | .info => "INFO"
  | .debug => "DEBUG"
  | .trace => "TRACE"

inductive Field where
  /-- A text that lines of text quote. -/
  | quoted (s : String)
  /-- A text that lines of text show as it is. -/
  | bare (s : String)
  | number (n : Int)
deriving DecidableEq, Repr

end Log

inductive Signal where
  | interrupt
  | terminate
deriving DecidableEq, Repr

inductive Note where
  | starting (owner : String) (settings : Settings)
  | partitionAcquired (lease : Lease) (checkpoint : Checkpoint)
  | partitionLost (partition : String)
  | signalled (s : Signal)
  | exiting
  | nothingToReset
  | failed (report : String)
  | unreadableEnvironment
  | seeded (partition : String) (sequenceNumber : Int)
  | bootstrapped (hub : String) (partitions : Nat) (owner : String)
  | scanned (owner : String) (owned fairShare hosts : Nat)
  | shuttingDown (owner : String)
  | checkpointUpdated (partition owner : String) (position : Checkpoint)
  | leaseAcquired (owner : String) (lease : Lease)
  | leaseReleased (partition owner : String)
deriving DecidableEq

namespace Note

open Log

def level : Note → Level
  | .failed _ | .unreadableEnvironment => .error
  | .seeded _ _ | .scanned _ _ _ _ | .checkpointUpdated _ _ _ => .debug
  | _ => .info

def target : Note → String
  | .unreadableEnvironment => "eventhost::setup_tracing"
  | .seeded _ _ | .bootstrapped _ _ _ | .scanned _ _ _ _ | .shuttingDown _ => "eventhost_core::host"
  | .checkpointUpdated _ _ _ => "eventhost_core::checkpoint::memory"
  | .leaseAcquired _ _ | .leaseReleased _ _ => "eventhost_core::lease::memory"
  | _ => "eventhost"

def message : Note → String
  | .starting _ _ => "Starting processor host"
  | .partitionAcquired _ _ => "Partition acquired"
  | .partitionLost _ => "Partition lost"
  | .signalled .interrupt => "Received Ctrl+C signal"
  | .signalled .terminate => "Received terminate signal"
  | .exiting => "Exiting..."
  | .nothingToReset => "In-memory stores live only as long as the host, nothing to reset"
  | .failed report => report
  | .unreadableEnvironment => "<panic>"
  | .seeded _ _ => "Seeded checkpoint at the latest position"
  | .bootstrapped _ _ _ => "Bootstrapped lease and checkpoint stores"
  | .scanned _ _ _ _ => "Finished lease scan"
  | .shuttingDown _ => "Shutting down processor host"
  | .checkpointUpdated _ _ _ => "Updated checkpoint"
  | .leaseAcquired _ _ => "Acquired lease"
  | .leaseReleased _ _ => "Released lease"

def fields : Note → List (String × Field)
  | .starting owner settings => [("owner", .bare owner), ("config", .bare settings.text)]
  | .partitionAcquired lease checkpoint =>
    [("partition_id", .bare lease.partition), ("epoch", .number lease.epoch),
      ("sequence_number", .number checkpoint.sequenceNumber), ("offset", .bare checkpoint.offset)]
  | .partitionLost partition => [("partition_id", .bare partition)]
  | .seeded partition sequenceNumber =>
    [("partition_id", .quoted partition), ("sequence_number", .number sequenceNumber)]
  | .bootstrapped hub partitions owner =>
    [("hub", .bare hub), ("partitions", .number partitions), ("owner", .bare owner)]
  | .scanned owner owned fairShare hosts =>
    [("owner", .bare owner), ("owned", .number owned), ("fair_share", .number fairShare),
      ("hosts", .number hosts)]
  | .shuttingDown owner => [("owner", .bare owner)]
  | .checkpointUpdated partition owner position =>
    [("partition_id", .quoted partition), ("owner", .bare owner),
      ("sequence_number", .number position.sequenceNumber), ("offset", .bare position.offset)]
  | .leaseAcquired owner lease =>
    [("partition_id", .quoted lease.partition), ("owner", .bare owner),
      ("epoch", .number lease.epoch)]
  | .leaseReleased partition owner => [("partition_id", .quoted partition), ("owner", .bare owner)]
  | _ => []

end Note

end PartitionHost
