import PartitionHost.CommandLine.Word

/-!
# Options of a command

The arguments of a command are options with their values. An option takes the value attached to it, or else
the arguments behind it: one, or for the partitions all up to the next that looks like an option. Values
are looked at only when their option is complete, which is when the next option or the end comes; so an
argument that fits nowhere is reported first, though it comes later.
-/

namespace PartitionHost.CommandLine

/-- Why a command line cannot be run, or that it asks for help. -/
inductive Fault where
  | missingArgument
  | unknownCommand
  | unknownArgument
  | invalidValue
  | tooManyValues
  | conflict
  | help
  | helpOnMissingCommand
deriving DecidableEq, Repr

inductive OptionName where
  | store
  | bucketPrefix
  | owner
  | runtimeInfo
  | hub
  | partitions
deriving DecidableEq, Repr

namespace OptionName

def text : OptionName → String
  | .store => "store"
  | .bucketPrefix => "bucket-prefix"
  | .owner => "owner"
  | .runtimeInfo => "runtime-info"
  | .hub => "hub"
  | .partitions => "partitions"

/-- Whether the option may be given again, and takes as many values as follow. -/
def isList : OptionName → Bool
  | .partitions => true
  | _ => false

def accepts : OptionName → String → Bool
  | .store, s => s == "memory" || s == "jetstream"
  | .runtimeInfo, s => !s.isEmpty
  | _, _ => true

end OptionName

structure Occurrence where
  name : OptionName
  values : List String
deriving DecidableEq, Repr

def complete (given : List Occurrence) (o : Occurrence) : Except Fault (List Occurrence) :=
  if o.values.isEmpty then .error .invalidValue
  else if !o.name.isList && given.any (·.name == o.name) then .error .conflict
  else if o.values.all o.name.accepts then .ok (given ++ [o])
  else .error .invalidValue

inductive Reading where
  /-- The next argument must be an option. -/
  | betweenOptions
  /-- The option has taken values from the arguments behind it; whether it takes more. -/
  | taking (o : Occurrence) (more : Bool)
deriving DecidableEq, Repr

def Reading.finish (given : List Occurrence) : Reading → Except Fault (List Occurrence)
  | .betweenOptions => .ok given
  | .taking o _ => complete given o

def readOptions (known : List OptionName) (given : List Occurrence) (now : Reading) :
    List String → Except Fault (List Occurrence)
  | [] => now.finish given
  | arg :: args =>
    match Word.ofArgument arg with
    | .ender => if args.isEmpty then now.finish given else .error .unknownArgument
    | .short letters =>
      if letters.head? = some 'h' then do
        let _ ← now.finish given
        .error .help
      else .error .unknownArgument
    | .long name attached =>
      match known.find? (·.text == name), attached with
      | some o, some value => do
        let given ← complete (← now.finish given) ⟨o, [value]⟩
        readOptions known given .betweenOptions args
      | some o, none => do
        readOptions known (← now.finish given) (.taking ⟨o, []⟩ true) args
      | none, attached =>
        if name = "help" then
          if attached.isSome then .error .tooManyValues
          else do
            let _ ← now.finish given
            .error .help
        else .error .unknownArgument
    | .plain value =>
      match now with
      | .taking o true =>
        readOptions known given (.taking { o with values := o.values ++ [value] } o.name.isList) args
      | _ => .error .unknownArgument

/-! ## What was given -/

def valuesOf (name : OptionName) (given : List Occurrence) : List String :=
  (given.filter (·.name == name)).flatMap (·.values)

def value? (name : OptionName) (given : List Occurrence) : Option String :=
  (valuesOf name given).head?

end PartitionHost.CommandLine
