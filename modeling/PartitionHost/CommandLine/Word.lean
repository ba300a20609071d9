/-!
# Words: how an argument looks

Whether an argument is an option, and with what value attached, can be seen from the argument alone. An
option begins with two dashes and ends at the first equals sign, behind which a value may be attached.
-/

namespace PartitionHost.CommandLine

inductive Word where
  /-- Two dashes: what follows is no option, whatever it looks like. -/
  | ender
  /-- An option by its name. -/
  | long (name : String) (attached : Option String)
  /-- Options by their letters. -/
  | short (letters : List Char)
  /-- Anything else, a dash by itself included. -/
  | plain (s : String)
deriving DecidableEq, Repr

namespace Word

def ofLong (cs : List Char) : Word :=
  let name := String.ofList (cs.takeWhile (· != '='))
  match cs.dropWhile (· != '=') with
  | [] => .long name none
  | _ :: value => .long name (some (String.ofList value))

def ofArgument (arg : String) : Word :=
  match arg.toList with
  | ['-', '-'] => .ender
  | '-' :: '-' :: cs => ofLong cs
  | '-' :: c :: cs => .short (c :: cs)
  | _ => .plain arg

end Word

end PartitionHost.CommandLine
