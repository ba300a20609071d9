import PartitionHost.Checkpoint.Bucketed
import PartitionHost.Checkpoint.Register
import PartitionHost.Host.Tenure
import PartitionHost.Hub.Enquiry
import PartitionHost.Lease.Bucketed
import PartitionHost.Lease.Register
import PartitionHost.Retry

/-!
# Sites: where hosts run

A site has the two stores, each as a register or as a bucket, a management node that is asked one question
at a time, and for each host the leases that it believes in and the events on the way to its consumers.
`Equipment.serve` answers the requests of a host by requests to its site: an operation on a store that is
kept in a bucket becomes calls on the bucket, and a question becomes attempts to have it answered.
-/

namespace PartitionHost

namespace Site

inductive Request where
  | leaseTable (me : Lease.Claimant) (op : Lease.Operation)
  | checkpointTable (op : Checkpoint.Operation)
  | leaseBucket (cancel : Cancellation) (c : Bucket.Call)
  | checkpointBucket (cancel : Cancellation) (c : Bucket.Call)
  /-- Puts one question; the answer is `none` if the cancellation fired. -/
  | enquire (cancel : Cancellation) (q : Enquiry)
  | now
  | elapsed
  | wait (cancel : Cancellation) (due : Nat)
  | owned
  | own (partition : String) (lease : Lease)
  | disown (partition : String)
  | announce (e : Host.Event)
  | note (n : Note)

abbrev Request.Answer : Request → Type
  | .leaseTable _ op => Except Error op.Reply
  | .checkpointTable op => Except Error op.Reply
  | .leaseBucket _ c => Except Error c.Reply
  | .checkpointBucket _ c => Except Error c.Reply
  | .enquire _ q => Option (Except Error q.Reply)
  | .now => Timestamp
  | .elapsed => Nat
  | .wait _ _ => Wake
  | .owned => Table Lease
  | .own _ _ => Unit
  | .disown _ => Bool
  | .announce _ => Unit
  | .note _ => Unit

end Site

abbrev Site : Interface := ⟨Site.Request, Site.Request.Answer⟩

namespace Site

def ask (r : Request) : Task Site r.Answer := Task.request (I := Site) r

/-! ## Stores -/

def leaseNote? (me : Lease.Claimant) :
    (op : Lease.Operation) → Except Error op.Reply → Option Note
  | .acquire _, .ok (lease, true) => some (.leaseAcquired me.owner lease)
  | .release partition, .ok true => some (.leaseReleased partition me.owner)
  | _, _ => none

/-- The note that a register takes of an operation on checkpoints. -/
def checkpointNote? (owner : String) :
    (op : Checkpoint.Operation) → Except Error op.Reply → Option Note
  | .update partition position, .ok () => some (.checkpointUpdated partition owner position)
  | _, _ => none

def noteIfAny : Option Note → Task Site Unit
  | some n => ask (.note n)
  | none => return ()

def leaseInTable (me : Lease.Claimant) (op : Lease.Operation) :
    Task Site (Except Error op.Reply) := do
  let answer ← ask (.leaseTable me op)
  noteIfAny (leaseNote? me op answer)
  return answer

def checkpointInTable (owner : String) (op : Checkpoint.Operation) :
    Task Site (Except Error op.Reply) := do
  let answer ← ask (.checkpointTable op)
  noteIfAny (checkpointNote? owner op answer)
  return answer

def leaseInBucket (cancel : Cancellation) (me : Lease.Claimant) (op : Lease.Operation) :
    Task Site (Except Error op.Reply) :=
  Task.serve (I := Bucket.Client)
    (fun
      | .call c => ask (.leaseBucket cancel c)
      | .now => ask .now)
    (Lease.Bucketed.perform me op).run

def checkpointInBucket (cancel : Cancellation) (op : Checkpoint.Operation) :
    Task Site (Except Error op.Reply) :=
  Task.serve (I := Bucket.Client)
    (fun
      | .call c => ask (.checkpointBucket cancel c)
      | .now => ask .now)
    (Checkpoint.Bucketed.perform op).run

/-! ## Questions -/

def pause (cancel : Cancellation) (d : Duration) : Task Site Wake := do
  let now ← ask .elapsed
  ask (.wait cancel (now * Duration.nanosPerMilli + d.nanos))

def asking (cancel : Cancellation) (q : Enquiry) : Retry Site Error q.Reply where
  begin _ := return ask (.enquire cancel q)
  pause d := pause cancel d
  isCancelled := do return cancel.fired (← ask .elapsed)
  retryable := Enquiry.isRetryable

def enquire (patience : Enquiry.Patience) (cancel : Cancellation) (q : Enquiry) :
    Task Site (Except Error q.Reply) := do
  match ← (asking cancel q).run (Retry.fixedDelays patience.interval patience.retries) with
  | some answer => return answer
  | none => return .error .cancelled

/-! ## Hosts -/

inductive StoreKind where
  | register
  | bucket
deriving DecidableEq, Repr

end Site

structure Equipment where
  me : Lease.Claimant
  leases : Site.StoreKind
  checkpoints : Site.StoreKind
  patience : Enquiry.Patience := {}

namespace Equipment

open Site

def lease (e : Equipment) (cancel : Cancellation) (op : Lease.Operation) :
    Task Site (Except Error op.Reply) :=
  match e.leases with
  | .register => leaseInTable e.me op
  | .bucket => leaseInBucket cancel e.me op

def checkpoint (e : Equipment) (cancel : Cancellation) (op : Checkpoint.Operation) :
    Task Site (Except Error op.Reply) :=
  match e.checkpoints with
  | .register => checkpointInTable e.me.owner op
  | .bucket => checkpointInBucket cancel op

def serve (e : Equipment) : (r : Host.Request) → Task Site r.Answer
  | .lease cancel op => e.lease cancel op
  | .checkpoint cancel op => e.checkpoint cancel op
  | .hub cancel => enquire e.patience cancel .hub
  | .range cancel partition => enquire e.patience cancel (.range partition)
  | .now => ask .now
  | .elapsed => ask .elapsed
  | .wait cancel due => ask (.wait cancel due)
  | .owned => ask .owned
  | .own partition lease => ask (.own partition lease)
  | .disown partition => ask (.disown partition)
  | .announce e => ask (.announce e)
  | .note n => ask (.note n)

def run {α : Type} (e : Equipment) (p : Host.Program α) : Task Site (Except Error α) :=
  Task.serve (I := Host.Surroundings) e.serve p.run

end Equipment

end PartitionHost
