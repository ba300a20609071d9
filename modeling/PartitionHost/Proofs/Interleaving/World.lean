import PartitionHost.Cluster.Service

/-!
# Worlds: a cluster and what was asked of it

Hosts and clients of the stores work side by side, and nothing is said of who goes on when. Each of them
runs the tasks of its actions; a world is the state of the cluster with all exchanges so far, the latest first.
A request is answered by what the cluster can do at that moment (`Answers`): a call on a bucket reads and
changes the bucket at once, whatever time it took until then, or is given up where it may be cancelled; its keys
may be listed in any order (`Bucket.Call.Alike`). What the management nodes say, how long waits last and how
they end is left open. Between two exchanges the clock may go forward and the buckets may come to fail in any
way (`Drifts`).
-/

namespace PartitionHost

/-! ## Actions -/

/-- What a host, or a client of its stores, can be asked to do. -/
inductive Action where
  | bootstrap (start : Position) (cancel : Cancellation)
  | scan (cancel : Cancellation)
  | recordProgress (cancel : Cancellation) (partition : String) (position : Checkpoint)
  | shutdown
  | lease (cancel : Cancellation) (op : Lease.Operation)
  | checkpoint (cancel : Cancellation) (op : Checkpoint.Operation)

namespace Action

abbrev Reply : Action → Type
  | .bootstrap _ _ => List String
  | .scan _ => Unit
  | .recordProgress _ _ _ => Unit
  | .shutdown => Unit
  | .lease _ op => op.Reply
  | .checkpoint _ op => op.Reply

def program (owner : String) : (a : Action) → Host.Program a.Reply
  | .bootstrap start cancel => Host.bootstrap owner start cancel
  | .scan cancel => Host.scan owner cancel
  | .recordProgress cancel partition position => Host.recordProgress cancel partition position
  | .shutdown => Host.shutdown
  | .lease cancel op => Host.lease cancel op
  | .checkpoint cancel op => Host.checkpoint cancel op

def IsOfHost : Action → Prop
  | .lease _ _ | .checkpoint _ _ => False
  | _ => True

end Action

/-- What an action asks of the site, with this equipment. -/
def Equipment.task (e : Equipment) (a : Action) : Task Site (Except Error a.Reply) :=
  e.run (a.program e.me.owner)

/-! ## Exchanges -/

structure Exchange (I : Interface) where
  request : I.Request
  answer : I.Answer request

variable {ι : Type}

/-- An action that somebody has begun, as the so manieth of all. -/
structure Engagement (ι : Type) where
  who : ι
  number : Nat
  action : Action

/-- An exchange in the course of an action, with the state of the cluster before it. -/
structure Event (ι : Type) extends Engagement ι, Exchange Site where
  before : Cluster

/-- A cluster with all that was asked of it, the latest first. -/
structure World (ι : Type) where
  cluster : Cluster
  history : List (Event ι)

namespace World

def record (w : World ι) (g : Engagement ι) (x : Exchange Site) (c : Cluster) : World ι :=
  ⟨c, ⟨g, x, w.cluster⟩ :: w.history⟩

end World

/-- The exchanges of the engagement with this number, the latest first. -/
def traceOf (number : Nat) (history : List (Event ι)) : List (Exchange Site) :=
  (history.filter (·.number == number)).map (·.toExchange)

theorem traceOf_cons_self (ev : Event ι) (history : List (Event ι)) :
    traceOf ev.number (ev :: history) = ev.toExchange :: traceOf ev.number history := by
  simp [traceOf]

theorem traceOf_cons_of_ne {number : Nat} {ev : Event ι} (h : ev.number ≠ number)
    (history : List (Event ι)) : traceOf number (ev :: history) = traceOf number history := by
  simp [traceOf, h]

theorem traceOf_eq_nil {number : Nat} {history : List (Event ι)}
    (h : ∀ ev ∈ history, ev.number ≠ number) : traceOf number history = [] := by
  simpa [traceOf] using h

theorem traceOf_append (number : Nat) (newer older : List (Event ι)) :
    traceOf number (newer ++ older) = traceOf number newer ++ traceOf number older := by
  simp [traceOf]

theorem exists_of_traceOf_eq_append {number : Nat} {history : List (Event ι)} {x : Exchange Site}
    {newer older : List (Exchange Site)} (h : traceOf number history = newer ++ x :: older) :
    ∃ newer' ev older', history = newer' ++ ev :: older' ∧ ev.number = number ∧ ev.toExchange = x ∧
      traceOf number newer' = newer ∧ traceOf number older' = older := by
  obtain ⟨evs, rest, hfilter, rfl, hrest⟩ := List.map_eq_append_iff.1 h
  obtain ⟨ev, older', rfl, rfl, rfl⟩ := List.map_eq_cons_iff.1 hrest
  obtain ⟨newer', rest', rfl, rfl, hcons⟩ := List.filter_eq_append_iff.1 hfilter
  obtain ⟨between, older'', rfl, hbetween, hnumber, rfl⟩ := List.filter_eq_cons_iff.1 hcons
  have hnone : traceOf number between = [] := traceOf_eq_nil (by simpa using hbetween)
  refine ⟨newer' ++ between, ev, older'', by simp, by simpa using hnumber, rfl, ?_, rfl⟩
  rw [traceOf_append, hnone, List.append_nil, traceOf]

theorem exists_of_traceOf_eq_cons {number : Nat} {history : List (Event ι)} {x : Exchange Site}
    {past : List (Exchange Site)} (h : traceOf number history = x :: past) :
    ∃ newer ev older, history = newer ++ ev :: older ∧ ev.number = number ∧ ev.toExchange = x ∧
      traceOf number older = past := by
  obtain ⟨ev, evs, hfilter, hx, hpast⟩ := List.map_eq_cons_iff.1 h
  obtain ⟨newer, older, hhistory, -, hnumber, holder⟩ := List.filter_eq_cons_iff.1 hfilter
  exact ⟨newer, ev, older, hhistory, by simpa using hnumber, hx, by rw [traceOf, holder, hpast]⟩

theorem mem_traceOf {number : Nat} {history : List (Event ι)} {x : Exchange Site} :
    x ∈ traceOf number history ↔ ∃ ev ∈ history, ev.number = number ∧ ev.toExchange = x := by
  simp [traceOf, and_assoc]

/-! ## What a cluster answers -/

/-- Two answers to a call, which may list keys in different orders. -/
inductive Bucket.Call.Alike : (call : Call) → Except Error call.Reply → Except Error call.Reply → Prop where
  | same {call : Call} (x : Except Error call.Reply) : Alike call x x
  | keys {names names' : List String} (h : names.Perm names') : Alike .keys (.ok names) (.ok names')

theorem Bucket.Call.Alike.eq_error {call : Call} {x : Except Error call.Reply} {e : Error}
    (h : call.Alike x (.error e)) : x = .error e := by
  cases h with
  | same => rfl

theorem Bucket.Call.Alike.eq {call : Call} {x y : Except Error call.Reply} (h : call.Alike x y)
    (hcall : call ≠ .keys) : y = x := by
  cases h with
  | same => rfl
  | keys => exact absurd rfl hcall

/-- Whether a request is not answered at once, but takes time in which others go on. -/
def Site.Request.TakesTime : Site.Request → Prop
  | .now | .elapsed | .owned | .own _ _ | .disown _ | .note _ => False
  | _ => True

namespace Cluster

def bucket (c : Cluster) (store : StoreName) : Bucket := ((c.server? store).map (·.bucket)).getD {}

def leaseTable (c : Cluster) (me : Lease.Claimant) (op : Lease.Operation) :
    Except Error op.Reply × Cluster :=
  let (answer, r) := Lease.Register.perform me c.now c.leases.register op
  (answer, { c with leases := { c.leases with register := r } })

def checkpointTable (c : Cluster) (op : Checkpoint.Operation) : Except Error op.Reply × Cluster :=
  let (answer, r) := Checkpoint.Register.perform c.checkpoints.register op
  (answer, { c with checkpoints := { c.checkpoints with register := r } })

/-- A call on a bucket is answered, or given up without effect where it may be cancelled. -/
inductive Called (store : StoreName) (cancel : Cancellation) (call : Bucket.Call) (c : Cluster) :
    Except Error call.Reply → Cluster → Prop where
  | served {x : Except Error call.Reply}
      (h : call.Alike ((c.call store call).1.mapError Bucket.Failure.toError) x) :
      Called store cancel call c x (c.call store call).2
  | cancelled (h : cancel ≠ .never) : Called store cancel call c (.error .cancelled) c

/-- What a cluster answers to a request of a host at once, and its state after that. -/
def promptly? (host : String) (c : Cluster) : (r : Site.Request) → Option (r.Answer × Cluster)
  | .now => some (c.now, c)
  | .elapsed => some (c.elapsed, c)
  | .owned => some ((c.member host).owned, c)
  | .own partition lease => some ((), c.own host partition lease)
  | .disown partition => some (c.disown host partition)
  | .note n => some ((), { c with notes := n :: c.notes })
  | _ => none

/-- What a cluster may answer to a request of a host, and its state after that. -/
def Answers (host : String) (c : Cluster) : (r : Site.Request) → r.Answer → Cluster → Prop
  | .leaseTable me op, x, c' => (x, c') = c.leaseTable me op
  | .checkpointTable op, x, c' => (x, c') = c.checkpointTable op
  | .leaseBucket cancel call, x, c' => Called .leases cancel call c x c'
  | .checkpointBucket cancel call, x, c' => Called .checkpoints cancel call c x c'
  | .enquire _ _, _, c' => c' = c
  | .wait _ _, _, c' => c' = c
  | .announce _, _, c' => c' = c
  | .now, x, c' => (x, c') = (c.now, c)
  | .elapsed, x, c' => (x, c') = (c.elapsed, c)
  | .owned, x, c' => (x, c') = ((c.member host).owned, c)
  | .own partition lease, _, c' => c' = c.own host partition lease
  | .disown partition, x, c' => (x, c') = c.disown host partition
  | .note n, _, c' => c' = { c with notes := n :: c.notes }

theorem answers_of_promptly? {host : String} {c c' : Cluster} {r : Site.Request} {x : r.Answer}
    (h : c.promptly? host r = some (x, c')) : Answers host c r x c' := by
  cases r with
  | now => cases h; rfl
  | elapsed => cases h; rfl
  | owned => cases h; rfl
  | own partition lease => cases h; rfl
  | disown partition => exact (Option.some.inj h).symm
  | note n => cases h; rfl
  | _ => cases h

theorem takesTime_of_promptly? {host : String} {c : Cluster} {r : Site.Request}
    (h : c.promptly? host r = none) : r.TakesTime := by
  cases r with
  | now => cases h
  | elapsed => cases h
  | owned => cases h
  | own partition lease => cases h
  | disown partition => cases h
  | note n => cases h
  | _ => trivial

/-- The clock goes forward, and servers, mailboxes and nodes may change in what is not recorded. -/
structure Drifts (c c' : Cluster) : Prop where
  now_le : c.now ≤ c'.now
  leaseRegister : c'.leases.register = c.leases.register
  checkpointRegister : c'.checkpoints.register = c.checkpoints.register
  bucket : ∀ store, c'.bucket store = c.bucket store
  owned : ∀ host, (c'.member host).owned = (c.member host).owned

end Cluster

/-! ## How worlds come about -/

/-- Those who work side by side, with what each works with. -/
abbrev Fleet (ι : Type) := ι → Equipment

open Cluster

/-- The worlds that can come about from a cluster, whatever is asked of it. -/
inductive World.Grows (fleet : Fleet ι) (init : Cluster) : World ι → Prop where
  | start : Grows fleet init ⟨init, []⟩
  | drift {w : World ι} (hw : Grows fleet init w) {c : Cluster} (h : Drifts w.cluster c) :
      Grows fleet init ⟨c, w.history⟩
  | exchange {w : World ι} (hw : Grows fleet init w) (g : Engagement ι) {r : Site.Request}
      {x : r.Answer} {c : Cluster} (h : Answers (fleet g.who).me.owner w.cluster r x c) :
      Grows fleet init (w.record g ⟨r, x⟩ c)

end PartitionHost
