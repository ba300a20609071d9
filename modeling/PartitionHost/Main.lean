import PartitionHost.Cluster.Service
import PartitionHost.Session
import Std.Async.Signal
import Std.Time

/-!
# The program

A session on the clocks, files and signals of the process that it runs in. What the session does is told in
`PartitionHost.Session`; here its requests are answered one by one.
-/

namespace PartitionHost.Program

def variableNames : List String :=
  [Settings.leaseVariable, Settings.scanVariable, Settings.positionVariable,
    ClientSettings.urlVariable, ClientSettings.userVariable, ClientSettings.passwordVariable,
    ClientSettings.tlsVariable, Log.debugVariable, Log.filterVariable]

def readEnvironment : IO Environment :=
  variableNames.foldlM
    (fun env name => do
      match ← IO.getEnv name with
      | some value => return env.insert name value
      | none => return env)
    .empty

def systemTime : IO Timestamp := do
  return .ofNanos (← Std.Time.Timestamp.now).toNanosecondsSinceUnixEpoch.val

/-- The contents of a file, or why it cannot be read. -/
def readFile (path : String) : IO (Except String Bytes) := do
  try
    return .ok (← IO.FS.readBinFile path).toList
  catch
    | .noFileOrDirectory _ _ _ => return .error "No such file or directory (os error 2)"
    | e => return .error (toString e)

def randomName : IO String := do
  let octets := (← IO.getRandomBytes 16).toList
  return String.ofList (octets.flatMap fun b => [Nat.digitChar (b.toNat / 16), Nat.digitChar (b.toNat % 16)])

structure Process where
  log : Log
  owner : String
  cluster : IO.Ref Cluster
  /-- The reading of the forward clock when the session began. -/
  start : Nat
  /-- The signals that end the session, once they have come. -/
  interrupted : IO Bool
  terminated : IO Bool

/-- The milliseconds since the session began. -/
def Process.elapsed (p : Process) : IO Nat := do return (← IO.monoMsNow) - p.start

def Process.signal? (p : Process) : IO (Option PartitionHost.Signal) := do
  if ← p.interrupted then return some .interrupt
  if ← p.terminated then return some .terminate
  return none

def Process.tell (p : Process) (n : Note) : IO Unit := do
  if let some line := p.log.line? n then
    let out ← IO.getStdout
    out.write ⟨(line.bytes (← systemTime) ++ [0x0A]).toArray⟩
    out.flush

/-- How many milliseconds pass between two looks at the signals. -/
def vigilance : Nat := 20

/-- Waits until a moment or a signal, looking at most so many times. -/
def Process.sleep (p : Process) (due : Nat) : Nat → IO Wake
  | 0 => return .due
  | looks + 1 => do
    if (← p.signal?).isSome then return .cancelled
    let now ← p.elapsed
    if due ≤ now then return .due
    IO.sleep (min vigilance (due - now)).toUInt32
    p.sleep due looks

def Process.answer (p : Process) : (r : Site.Request) → IO r.Answer
  | .wait _ due => do
    let due := Routine.millisAfter due
    p.sleep due (due + 1)
  | .note (.signalled s) => do p.tell (.signalled ((← p.signal?).getD s))
  | .note n => p.tell n
  | r => do
    let time ← systemTime
    let elapsed ← p.elapsed
    let c := { (← p.cluster.get) with elapsed := elapsed }.setNow time
    match (Routine.answer p.owner r).run c with
    | (some x, c) => do
      p.cluster.set c
      return x
    | (none, _) => throw (IO.userError "nobody answers")

def Process.perform {α : Type} (p : Process) : Task Site α → IO α
  | .done a => return a
  | .ask r resume => do p.perform (resume (← p.answer r))

def sourcePath? (args : List String) : Option String :=
  match CommandLine.read args with
  | .ok (.run _ _ _ _ (.file path)) => some path
  | _ => none

def forever : Nat := 1 <<< 62

def usage : String :=
  "Partition lease and checkpoint coordination for event stream processors\n\n" ++
  "Usage: eventhost run [--store memory|jetstream] [--bucket-prefix NAME] [--owner NAME]\n" ++
  "                     (--runtime-info FILE | [--hub NAME] --partitions ID...)\n" ++
  "       eventhost reset [--store memory|jetstream] [--bucket-prefix NAME]\n"

def watch (s : Std.Async.Signal) : IO (IO Bool) := do
  let waiter ← Std.Async.Signal.Waiter.mk s false
  let signal ← waiter.wait
  return IO.hasFinished signal

def runSession (args : List String) : IO (Option Session.Ending) := do
  let environment ← readEnvironment
  let path? := sourcePath? args
  let contents ← readFile (path?.getD "")
  let owner ← randomName
  let p : Process :=
    { log := .ofEnvironment environment, owner, cluster := ← IO.mkRef default,
      start := ← IO.monoMsNow, interrupted := ← watch .sigint, terminated := ← watch .sigterm }
  let desk : Desk :=
    { environment, file := fun _ => contents, newOwner := owner, signal := .terminate }
  p.perform (Session.run desk args .never forever)

end PartitionHost.Program

open PartitionHost in
def main (args : List String) : IO UInt32 := do
  match ← Program.runSession args with
  | none => return 0
  | some ending =>
    match ending with
    | .misread .help => IO.println Program.usage
    | .misread _ => IO.eprintln Program.usage
    | _ => pure ()
    if let some report := ending.report? then IO.eprintln report
    return ending.exitCode.toUInt32
