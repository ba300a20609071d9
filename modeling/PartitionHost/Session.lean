import PartitionHost.Broker
import PartitionHost.Cluster.Site
import PartitionHost.CommandLine
import PartitionHost.Log

/-!
# Sessions: the program from its command line to its end

A session reads its command line, then its settings, and does what it was told. A host that it runs goes on
until the process gets a signal. Everything worth telling is noted, and at the end there is an exit code.
-/

namespace PartitionHost

structure Desk where
  environment : Environment
  /-- Whether all of the environment is text. -/
  isReadable : Bool := true
  /-- The contents of a file, or why it cannot be read. -/
  file : String → Except String Bytes
  /-- The name of a host that was not given one. -/
  newOwner : String
  /-- The signal that is going to end the session. -/
  signal : Signal

namespace Session

inductive Fault where
  | host (e : Error)
  | client (e : ClientError)
deriving DecidableEq, Repr

def Fault.message : Fault → String
  | .host e => e.message
  | .client e => e.message

def Fault.tagged : Fault → String
  | .host e => e.tagged
  | .client e => e.tagged

abbrev Program (α : Type) := ExceptT Fault (Task Site) α

def note (n : Note) : Program Unit := ExceptT.lift (Site.ask (.note n))

def orFail {ε α : Type} (fault : ε → Fault) : Except ε α → Program α
  | .ok a => return a
  | .error e => throw (fault e)

/-! ## Hosts -/

def eventNote : Host.Event → Note
  | .acquired lease checkpoint => .partitionAcquired lease checkpoint
  | .lost partition => .partitionLost partition

/--
What a host asks of its site, in a session: questions are answered from the snapshot, and events noted. A
host shuts down because a signal came, so that is noted before.
-/
def serve (d : Desk) (snapshot : Snapshot) : (r : Site.Request) → Task Site r.Answer
  | .enquire cancel q => do
    if cancel.fired (← Site.ask .elapsed) then return none else return some (snapshot.answer q)
  | .announce e => Site.ask (.note (eventNote e))
  | .note (.shuttingDown owner) => do
    Site.ask (.note (.signalled d.signal))
    Site.ask (.note (.shuttingDown owner))
  | r => Site.ask r

def storeKind : CommandLine.Backing → Site.StoreKind
  | .memory => .register
  | .jetstream => .bucket

def equipment (backing : CommandLine.Backing) (owner : String) (settings : Settings) : Equipment where
  me := ⟨owner, settings.leaseTerm⟩
  leases := storeKind backing
  checkpoints := storeKind backing

def snapshot (d : Desk) (hub : String) : CommandLine.Source → Program Snapshot
  | .file path => orFail (.host ·.toError) (Snapshot.ofFile path (d.file path))
  | .listed partitions => do
    let now ← ExceptT.lift (Site.ask .now)
    return .ofPartitions hub partitions now

/-- Sets up the client of the broker, if the stores are kept there. -/
def connect (d : Desk) : CommandLine.Backing → Program Unit
  | .memory => return ()
  | .jetstream => do
    let settings ← orFail .client (ClientSettings.load d.environment)
    let _ ← orFail .client (Broker.connect settings)

def loadSettings (d : Desk) : Program Settings :=
  orFail (.host ·.toError) (Settings.load d.environment)

/-! ## Commands -/

/-- Carries out a command; the answer is `none` if a host has scanned `rounds` times and still runs. -/
def carryOut (d : Desk) (cancel : Cancellation) (rounds : Nat) :
    CommandLine.Command → Program (Option Unit)
  | .run backing _ owner hub source => do
    let settings ← loadSettings d
    let owner := owner.getD d.newOwner
    let snapshot ← snapshot d hub source
    note (.starting owner settings)
    connect d backing
    let host := (equipment backing owner settings).run (Host.run owner settings cancel rounds)
    orFail .host (← ExceptT.lift (Task.serve (I := Site) (serve d snapshot) host))
  | .reset .memory _ => do
    note .nothingToReset
    return some ()
  | .reset .jetstream _ => do
    let settings ← loadSettings d
    connect d .jetstream
    let e := equipment .jetstream "reset" settings
    orFail .host (← ExceptT.lift (e.lease .never .deleteStore))
    orFail .host (← ExceptT.lift (e.checkpoint .never .deleteStore))
    return some ()

/-! ## Endings -/

inductive Ending where
  /-- The command line could not be read, or asked for help. -/
  | misread (f : CommandLine.Fault)
  /-- The environment could not be read. -/
  | unreadable
  | ended (result : Except Fault Unit)

def Ending.exitCode : Ending → Nat
  | .misread .help => 0
  | .misread _ => 2
  | .unreadable => 101
  | .ended (.ok ()) => 0
  | .ended (.error _) => 1

def Ending.report? : Ending → Option String
  | .ended (.error f) => some s!"Error: {f.tagged}"
  | _ => none

def lastNote : Except Fault Unit → Note
  | .ok () => .exiting
  | .error f => .failed f.tagged

/-- Runs a session; the answer is `none` if a host has scanned `rounds` times and still runs. -/
def run (d : Desk) (args : List String) (cancel : Cancellation) (rounds : Nat) :
    Task Site (Option Ending) :=
  match CommandLine.read args with
  | .error f => return some (.misread f)
  | .ok command =>
    if d.isReadable then do
      match ← (carryOut d cancel rounds command).run with
      | .ok none => return none
      | .ok (some ()) =>
        Site.ask (.note (lastNote (.ok ())))
        return some (.ended (.ok ()))
      | .error f =>
        Site.ask (.note (lastNote (.error f)))
        return some (.ended (.error f))
    else do
      Site.ask (.note .unreadableEnvironment)
      return some .unreadable

end Session

end PartitionHost
