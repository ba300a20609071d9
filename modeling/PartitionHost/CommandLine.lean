import PartitionHost.CommandLine.Options

/-!
# Command lines

There are two commands: to run a host until it is told to stop, and to delete its stores. A host is told its
partitions by a file with a snapshot of the hub, or one by one; one of the two must be given and not
both.
-/

namespace PartitionHost.CommandLine

inductive Backing where
  /-- Inside the process. -/
  | memory
  /-- With a message broker. -/
  | jetstream
deriving DecidableEq, Repr

namespace Backing

def text : Backing → String
  | .memory => "memory"
  | .jetstream => "jetstream"

def ofText (s : String) : Backing := if s = "jetstream" then .jetstream else .memory

end Backing

inductive Source where
  /-- From the snapshot in a file. -/
  | file (path : String)
  /-- From the command line. -/
  | listed (partitions : List String)
deriving DecidableEq, Repr

inductive Command where
  | run (backing : Backing) (bucketPrefix : String) (owner : Option String) (hub : String)
      (source : Source)
  | reset (backing : Backing) (bucketPrefix : String)
deriving DecidableEq, Repr

/-- The name of the hub and of the buckets where none is given. -/
def defaultName : String := "eventhost"

def runOptions : List OptionName :=
  [.store, .bucketPrefix, .owner, .runtimeInfo, .hub, .partitions]

def resetOptions : List OptionName := [.store, .bucketPrefix]

def backing (given : List Occurrence) : Backing :=
  ((value? .store given).map Backing.ofText).getD .memory

def bucketPrefix (given : List Occurrence) : String :=
  (value? .bucketPrefix given).getD defaultName

/-- The source of the partitions, which must be given in one way. -/
def source (given : List Occurrence) : Except Fault Source :=
  match value? .runtimeInfo given, valuesOf .partitions given with
  | some _, _ :: _ => .error .conflict
  | some path, [] => .ok (.file path)
  | none, p :: ps => .ok (.listed (p :: ps))
  | none, [] => .error .missingArgument

def readRun (args : List String) : Except Fault Command := do
  let given ← readOptions runOptions [] .betweenOptions args
  let hub := (value? .hub given).getD defaultName
  return .run (backing given) (bucketPrefix given) (value? .owner given) hub (← source given)

def readReset (args : List String) : Except Fault Command := do
  let given ← readOptions resetOptions [] .betweenOptions args
  return .reset (backing given) (bucketPrefix given)

def commandNames : List String := ["run", "reset", "help"]

/-- What is wrong with a command line whose first word is no command. -/
def faultOfFirst (arg : String) : Fault :=
  match Word.ofArgument arg with
  | .long "help" none => .help
  | .long "help" (some _) => .tooManyValues
  | .long _ _ => .unknownArgument
  | .short ('h' :: _) => .help
  | .short _ => .unknownArgument
  | _ => .unknownCommand

def read : List String → Except Fault Command
  | [] => .error .helpOnMissingCommand
  | ["--"] => .error .helpOnMissingCommand
  | "--" :: name :: _ =>
    .error (if commandNames.contains name then .unknownArgument else .unknownCommand)
  | "run" :: args => readRun args
  | "reset" :: args => readReset args
  | "help" :: names =>
    match names with
    | [] => .error .help
    | [name] => .error (if commandNames.contains name then .help else .unknownCommand)
    | _ => .error .unknownCommand
  | arg :: _ => .error (faultOfFirst arg)

end PartitionHost.CommandLine
