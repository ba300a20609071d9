import PartitionHost.Cluster.Crew

/-!
# Service: how a cluster answers its hosts

Every request that a host makes of its site is answered by a routine. A call on a bucket and a question to a
management node first take their time; while they do, the request can be cancelled, and then the call is not
made and the answer to the question not given. Where a wait and a cancellation end together, it is cancelled.
-/

namespace PartitionHost.Routine

/-! ## Waiting -/

def sleep (cancel : Cancellation) (due : Nat) : Routine Wake := do
  let due := max due (← read (·.elapsed))
  if cancel.fired due then
    waitUntil (cancel.moment?.getD due)
    return .cancelled
  else
    waitUntil due
    return .due

/-- The first whole millisecond at or after a number of nanoseconds. -/
def millisAfter (nanos : Nat) : Nat := (nanos + (Duration.nanosPerMilli - 1)) / Duration.nanosPerMilli

/-! ## Buckets -/

/-- Makes a call on a bucket; `none` if it was cancelled. -/
def call (store : StoreName) (cancel : Cancellation) (c : Bucket.Call) :
    Routine (Option (Except Bucket.Failure c.Reply)) := do
  match ← sleep cancel (← read fun s => s.elapsed + s.latency store c) with
  | .cancelled => return none
  | .due => return some (← update (·.call store c))

def callResult {α : Type} : Option (Except Bucket.Failure α) → Except Error α
  | none => .error .cancelled
  | some answer => answer.mapError Bucket.Failure.toError

/-! ## Registers -/

def leaseTable (me : Lease.Claimant) (op : Lease.Operation) : Routine (Except Error op.Reply) :=
  update fun c =>
    let (answer, r) := Lease.Register.perform me c.now c.leases.register op
    (answer, { c with leases := { c.leases with register := r } })

def checkpointTable (op : Checkpoint.Operation) : Routine (Except Error op.Reply) :=
  update fun c =>
    let (answer, r) := Checkpoint.Register.perform c.checkpoints.register op
    (answer, { c with checkpoints := { c.checkpoints with register := r } })

/-! ## Management nodes -/

/-- Puts a question to the management node of a host; `none` if it was cancelled. -/
def enquire (host : String) (cancel : Cancellation) (q : Enquiry) :
    Routine (Option (Except Error q.Reply)) := do
  if cancel.fired (← read (·.elapsed)) then return none
  let failure ← update fun c =>
    let (failure, node) := (c.member host).node.takeQuestion
    (failure, c.setNode host node)
  match ← sleep cancel (← read fun c => c.elapsed + (c.member host).node.latency) with
  | .cancelled => return none
  | .due =>
    match failure with
    | some e => return some (.error e)
    | none => return some (← read fun c => (c.member host).node.snapshot.answer q)

/-! ## Mailboxes -/

/-- Puts an event into the mailbox of a host, as soon as there is room for it. -/
def announce (host : String) (e : Host.Event) : Routine Unit := do
  let refused ← update fun c =>
    let (refused, m) := (c.member host).mailbox.post e
    (refused, c.setMailbox host m)
  match refused with
  | none => return ()
  | some ticket =>
    wait
      { due := fun c => if (c.member host).mailbox.isTurn ticket then some c.elapsed else none
        abandon := fun c => c.setMailbox host ((c.member host).mailbox.handBack ticket) }
      (change fun c => c.setMailbox host (((c.member host).mailbox.handBack ticket).put e))

/-! ## All requests -/

def answer (host : String) : (r : Site.Request) → Routine r.Answer
  | .leaseTable me op => leaseTable me op
  | .checkpointTable op => checkpointTable op
  | .leaseBucket cancel c => callResult <$> call .leases cancel c
  | .checkpointBucket cancel c => callResult <$> call .checkpoints cancel c
  | .enquire cancel q => enquire host cancel q
  | .now => read (·.now)
  | .elapsed => read (·.elapsed)
  | .wait cancel due => sleep cancel (millisAfter due)
  | .owned => read fun c => (c.member host).owned
  | .own partition lease => change (·.own host partition lease)
  | .disown partition => update (·.disown host partition)
  | .announce e => announce host e
  | .note n => change fun c => { c with notes := n :: c.notes }

def ofSite {α : Type} (host : String) (t : Task Site α) : Routine α :=
  ofTask (I := Site) (answer host) t

end PartitionHost.Routine
