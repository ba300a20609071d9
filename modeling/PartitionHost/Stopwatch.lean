import PartitionHost.Retry

/-!
# Retrying against a stopwatch

Attempts that take a known time and have a known outcome, retried against a stopwatch that shows whole
milliseconds. A wait that is not a whole number of them ends at the next whole one.
-/

namespace PartitionHost

namespace Stopwatch

inductive Request where
  /-- Takes down the time at which an attempt is begun. -/
  | mark
  /-- Waits so many nanoseconds. -/
  | wait (length : Nat)
  | isCancelled

abbrev Request.Answer : Request → Type
  | .mark => Unit
  | .wait _ => Wake
  | .isCancelled => Bool

end Stopwatch

def Stopwatch : Interface := ⟨Stopwatch.Request, Stopwatch.Request.Answer⟩

namespace Stopwatch

/-- What the stopwatch shows at the end, and the times taken down, in order. -/
structure Reading (α : Type) where
  value : α
  elapsed : Nat
  marks : List Nat
deriving Repr

/-- The first whole millisecond at which a wait of so many nanoseconds is over. -/
def wakeTime (now length : Nat) : Nat :=
  now + (length + (Duration.nanosPerMilli - 1)) / Duration.nanosPerMilli

/-- Runs a task from a time on, under a cancellation that wins where both would end a wait. -/
def time {α : Type} (cancel : Cancellation) (now : Nat) : Task Stopwatch α → Reading α
  | .done a => ⟨a, now, []⟩
  | .ask .mark resume =>
    let r := time cancel now (resume ())
    { r with marks := now :: r.marks }
  | .ask .isCancelled resume => time cancel now (resume (cancel.fired now))
  | .ask (.wait length) resume =>
    let due := wakeTime now length
    match cancel with
    | .never => time .never due (resume .due)
    | .firesAt moment =>
      if moment ≤ due then
        time (.firesAt moment) (max now moment) (resume .cancelled)
      else time (.firesAt moment) due (resume .due)

end Stopwatch

/-- An attempt: how long it takes, in milliseconds, and how it ends. -/
structure Attempt (ε α : Type) where
  takes : Nat := 0
  outcome : Except ε α

namespace Attempt

variable {ε α : Type}

def wait (length : Nat) : Task Stopwatch Wake := Task.request (I := Stopwatch) (.wait length)

def await (a : Attempt ε α) : Task Stopwatch (Option (Except ε α)) := do
  match ← wait (a.takes * Duration.nanosPerMilli) with
  | .due => return some a.outcome
  | .cancelled => return none

def retrying (attempts : Nat → Attempt ε α) (retryable : ε → Bool) : Retry Stopwatch ε α where
  begin n := do
    Task.request (I := Stopwatch) .mark
    return (attempts n).await
  pause d := wait d.nanos
  isCancelled := Task.request (I := Stopwatch) .isCancelled
  retryable := retryable

/-- Retries attempts from time 0 on; the times taken down are those at which attempts were begun. -/
def retry (attempts : Nat → Attempt ε α) (retryable : ε → Bool) (delays : List Duration)
    (cancel : Cancellation) : Stopwatch.Reading (Option (Except ε α)) :=
  Stopwatch.time cancel 0 ((retrying attempts retryable).run delays)

end Attempt

end PartitionHost
