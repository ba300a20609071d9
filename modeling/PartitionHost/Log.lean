import PartitionHost.Log.Filter
import PartitionHost.Log.Line

/-!
# Logs

Which notes a process logs and how it writes them, as its environment tells.
-/

namespace PartitionHost

structure Log where
  filter : Log.Filter
  style : Log.Style
deriving DecidableEq, Repr

namespace Log

def debugVariable : String := "EVENTHOST_DEBUG"

def filterVariable : String := "RUST_LOG"

/-- The log that an environment asks for: for debugging, lines of text with more detail. -/
def ofEnvironment (env : Environment) : Log :=
  let debug := (env.get? debugVariable).any fun value => value.toLower == "true"
  { filter := .ofText (if debug then .debug else .info) ((env.get? filterVariable).getD "")
    style := if debug then .text else .fields }

def line? (l : Log) (n : Note) : Option Line :=
  if l.filter.keeps n then some (.ofNote l.style n) else none

/-- The lines for notes, without those that the log does not keep. -/
def lines (l : Log) (notes : List Note) : List Line := notes.filterMap l.line?

end Log

end PartitionHost
