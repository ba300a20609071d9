import PartitionHost.Cancellation
import PartitionHost.Task
import PartitionHost.Time.Duration

/-!
# Retrying

An operation that fails is tried again after a delay, as long as its error is worth it and there are
delays left. A cancellation ends the whole at once, whether an attempt is running or the next one is
being waited for.

An attempt is made in two steps: it is begun, and then it is awaited. The first one is begun when the
retry is set up, before anybody looks at the cancellation.
-/

namespace PartitionHost

def Retry.fixedDelays (interval : Duration) (count : Nat) : List Duration :=
  List.replicate count interval

structure Retry (I : Interface) (ε α : Type) where
  /-- Begins the attempt of a number, from 0; to await it may be cut short by the cancellation. -/
  begin : Nat → Task I (Task I (Option (Except ε α)))
  /-- Waits between attempts. -/
  pause : Duration → Task I Wake
  /-- Whether the cancellation has fired. -/
  isCancelled : Task I Bool
  /-- Whether an error is worth another attempt. -/
  retryable : ε → Bool

namespace Retry

variable {I : Interface} {ε α : Type}

/--
Awaits the attempt of number `n`, and tries again after each of the delays in turn. The answer is that
of the last attempt, or `none` if the cancellation fired.
-/
def goOn (r : Retry I ε α) (n : Nat) (attempt : Task I (Option (Except ε α))) :
    List Duration → Task I (Option (Except ε α))
  | [] => attempt
  | delay :: delays => do
    match ← attempt with
    | some (.error e) =>
      if r.retryable e then
        match ← r.pause delay with
        | .cancelled => return none
        | .due => r.goOn (n + 1) (← r.begin (n + 1)) delays
      else return some (.error e)
    | answer => return answer

/-- Tries an operation until it succeeds, its error is not worth it or the delays run out. -/
def run (r : Retry I ε α) (delays : List Duration) : Task I (Option (Except ε α)) := do
  let first ← r.begin 0
  if ← r.isCancelled then return none else r.goOn 0 first delays

end Retry

end PartitionHost
