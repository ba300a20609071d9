import PartitionHost.Bucket
import PartitionHost.Record
import PartitionHost.Task

/-!
# Clients of a bucket

A client makes calls on one bucket and reads the clock. A call is answered by its reply or by an error,
which may also be that the client was cancelled before the call was made or while it waited for the
answer; then nothing has been written.
-/

namespace PartitionHost.Bucket

namespace Client

inductive Request where
  | call (c : Call)
  | now

abbrev Request.Answer : Request → Type
  | .call c => Except Error c.Reply
  | .now => Timestamp

end Client

abbrev Client : Interface := ⟨Client.Request, Client.Request.Answer⟩

namespace Client

abbrev Program (α : Type) := ExceptT Error (Task Client) α

def call (c : Call) : Program c.Reply := ExceptT.mk (Task.request (I := Client) (.call c))

def now : Program Timestamp := ExceptT.lift (Task.request (I := Client) .now)

/-- How many times a key that keeps changing is read again before the client gives up. -/
def maxAttempts : Nat := 3

def decode {α : Type} [Record α] (e : Entry) : Program α :=
  match Record.decode? e.value with
  | some a => pure a
  | none => throw (.undecodable e.key e.revision)

def read? (α : Type) [Record α] (key : String) : Program (Option α) := do
  match ← call (.entry key) with
  | some e => return some (← decode e)
  | none => return none

/--
The record under a key; where there is none, `fresh` is put there. A record that another client puts
there first counts as well.
-/
def ensure {α : Type} [Record α] (key : String) (fresh : α) : Nat → Program α
  | 0 => throw (.conflict key)
  | attempts + 1 => do
    match ← read? α key with
    | some a => return a
    | none =>
      match ← call (.create key (Record.encode fresh)) with
      | some _ => return fresh
      | none => ensure key fresh attempts

end Client

end PartitionHost.Bucket
