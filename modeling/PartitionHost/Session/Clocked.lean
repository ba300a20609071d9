import PartitionHost.Cluster.Service
import PartitionHost.Session

/-!
# Sessions on a virtual clock

A session that takes no more time than its waits, and gets its signal after so many milliseconds or never.
-/

namespace PartitionHost.Session

/--
Runs a session from an instant on: its ending, if it comes to one, and its notes in order. Settings that
come from the environment let a host scan at most once in a millisecond.
-/
def runClocked (d : Desk) (args : List String) (start : Timestamp) (signalAfter : Option Nat) :
    Option Ending × List Note :=
  let cancel := (signalAfter.map Cancellation.firesAt).getD .never
  let rounds := (signalAfter.map (· + 2)).getD 0
  let session := Routine.ofSite d.newOwner (run d args cancel rounds)
  let (ending, c) := session.run { origin := start.toNanos }
  (ending.join, c.notes.reverse)

end PartitionHost.Session
