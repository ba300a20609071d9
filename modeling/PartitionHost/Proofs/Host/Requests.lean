import PartitionHost.Proofs.Bucket.Programs
import PartitionHost.Proofs.Interleaving.Law

/-!
# What actions ask of the stores

`Action.asks_program`: an action of a host asks only for those operations that it has a use for. Scans never
update leases, and only progress and bootstrap move checkpoints.
-/

namespace PartitionHost

namespace Action

def UsesLease : Action → Lease.Operation → Prop
  | .bootstrap _ _, .ensureStore | .bootstrap _ _, .ensure _ => True
  | .scan _, .list | .scan _, .renew _ | .scan _, .acquire _ | .scan _, .release _ => True
  | .recordProgress _ p _, .update q => p = q
  | .shutdown, .release _ => True
  | .lease _ op, op' => op = op'
  | _, _ => False

def UsesCheckpoint : Action → Checkpoint.Operation → Prop
  | .bootstrap _ _, .ensureStore | .bootstrap _ _, .ensure _ | .bootstrap _ _, .update _ _ => True
  | .scan _, .ensure _ => True
  | .recordProgress _ p position, .update q position' => p = q ∧ position = position'
  | .checkpoint _ op, op' => op = op'
  | _, _ => False

def UsesBeliefs : Action → Prop
  | .scan _ | .recordProgress _ _ _ | .shutdown => True
  | _ => False

def Uses (a : Action) : Host.Request → Prop
  | .lease _ op => a.UsesLease op
  | .checkpoint _ op => a.UsesCheckpoint op
  | .own _ _ | .disown _ => a.UsesBeliefs
  | _ => True

end Action

namespace Task

variable {I : Interface} {α β : Type} {ok : I.Request → Prop}

theorem asks_run_bind {p : ExceptT Error (Task I) α} {f : α → ExceptT Error (Task I) β}
    (hp : p.run.Asks ok) (hf : ∀ a, (f a).run.Asks ok) : (p >>= f).run.Asks ok := by
  rw [run_bind]
  refine hp.bind ?_
  rintro (e | a)
  · trivial
  · exact hf a

theorem Along.run_bind {J : Interface} {law : List (Exchange J) → J.Request → Prop}
    {answer : (r : I.Request) → Task J (I.Answer r)} {p : ExceptT Error (Task I) α}
    {f : α → ExceptT Error (Task I) β} {mid : Except Error α → List (Exchange J) → Prop}
    {post : Except Error β → List (Exchange J) → Prop} {past : List (Exchange J)}
    (hp : (p.run.serve answer).Along law mid past)
    (herror : ∀ e past, mid (.error e) past → post (.error e) past)
    (hok : ∀ a past, mid (.ok a) past → ((f a).run.serve answer).Along law post past) :
    ((p >>= f).run.serve answer).Along law post past := by
  rw [Task.run_bind, serve_bind, along_bind]
  refine hp.mono (fun _ _ => id) fun x past hx => ?_
  rcases x with e | a
  · exact herror e past hx
  · exact hok a past hx

end Task

namespace Host

/-- What is asked of the checkpoint store is for these operations. -/
def Request.Within (uses : Checkpoint.Operation → Prop) : Request → Prop
  | .checkpoint _ op => uses op
  | _ => True

variable {ok : Request → Prop}

theorem asks_ask {r : Request} (h : ok r) : (ask r).run.Asks ok := ⟨h, fun _ => trivial⟩

theorem asks_outcome {α : Type} {p : Program α} (h : p.run.Asks ok) : (outcome p).run.Asks ok :=
  Task.Asks.bind h fun _ => trivial

variable {cancel : Cancellation}

theorem asks_lease {op : Lease.Operation} (h : ok (.lease cancel op)) :
    (lease cancel op).run.Asks ok := ⟨h, fun _ => trivial⟩

theorem asks_checkpoint {op : Checkpoint.Operation} (h : ok (.checkpoint cancel op)) :
    (checkpoint cancel op).run.Asks ok := ⟨h, fun _ => trivial⟩

theorem asks_hub (h : ok (.hub cancel)) : (hub cancel).run.Asks ok := ⟨h, fun _ => trivial⟩

theorem asks_range {p : String} (h : ok (.range cancel p)) : (range cancel p).run.Asks ok :=
  ⟨h, fun _ => trivial⟩

theorem asks_lose {p : String} (hdisown : ok (.disown p)) (hannounce : ok (.announce (.lost p))) :
    (lose p).run.Asks ok := by
  refine Task.asks_run_bind (asks_ask hdisown) fun held => ?_
  split
  · exact asks_ask hannounce
  · trivial

/-- Whether this is asked to renew what is believed in, or to give it up. -/
def Request.IsOfRenewing : Request → Prop
  | .lease _ (.renew _) | .own _ _ | .disown _ | .announce (.lost _) => True
  | _ => False

/-- Whether this is asked to take what is not believed in yet. -/
def Request.IsOfAcquiring : Request → Prop
  | .lease _ (.acquire _) | .lease _ (.release _) | .checkpoint _ (.ensure _) => True
  | .owned | .own _ _ | .announce (.acquired _ _) => True
  | _ => False

theorem asks_renewAll (ps : List String) : (renewAll cancel ps).run.Asks Request.IsOfRenewing := by
  induction ps with
  | nil => trivial
  | cons p ps ih =>
      refine Task.asks_run_bind (asks_outcome (asks_lease trivial)) fun answer => ?_
      split
      · exact Task.asks_run_bind (asks_ask trivial) fun _ => ih
      · exact Task.asks_run_bind (asks_lose trivial trivial) fun _ => ih
      · exact Task.asks_run_bind (asks_lose trivial trivial) fun _ => ih
      · trivial
      · exact ih

theorem asks_tryAcquire (p : String) : (tryAcquire cancel p).run.Asks Request.IsOfAcquiring := by
  refine Task.asks_run_bind (asks_lease trivial) fun ⟨taken, success⟩ => ?_
  cases success with
  | false => trivial
  | true =>
      refine Task.asks_run_bind (asks_outcome (asks_checkpoint trivial)) fun position => ?_
      cases position with
      | ok position =>
          have hannounce : (ask (.announce (.acquired taken position))).run.Asks
              Request.IsOfAcquiring := asks_ask trivial
          exact Task.asks_run_bind (asks_ask trivial) fun _ => hannounce
      | error e => exact Task.asks_run_bind (asks_outcome (asks_lease trivial)) fun _ => trivial

theorem asks_acquireUpTo (share : Nat) (ps : List String) :
    (acquireUpTo share cancel ps).run.Asks Request.IsOfAcquiring := by
  induction ps with
  | nil => trivial
  | cons p ps ih =>
      refine Task.asks_run_bind (asks_ask trivial) fun owned => ?_
      split
      · trivial
      · refine Task.asks_run_bind (asks_outcome (asks_tryAcquire p)) fun answer => ?_
        split
        · trivial
        · exact ih

theorem Request.IsOfRenewing.uses {r : Request} (h : r.IsOfRenewing) : (Action.scan cancel).Uses r := by
  unfold IsOfRenewing at h
  split at h <;> trivial

theorem Request.IsOfAcquiring.uses {r : Request} (h : r.IsOfAcquiring) :
    (Action.scan cancel).Uses r := by
  unfold IsOfAcquiring at h
  split at h <;> trivial

theorem asks_scan (owner : String) :
    (scan owner cancel).run.Asks (Action.scan cancel).Uses := by
  refine Task.asks_run_bind (asks_ask trivial) fun owned => ?_
  refine Task.asks_run_bind ((asks_renewAll _).mono fun _ h => h.uses) fun _ => ?_
  refine Task.asks_run_bind (asks_lease trivial) fun leases => ?_
  refine Task.asks_run_bind (asks_ask trivial) fun now => ?_
  refine Task.asks_run_bind ((asks_acquireUpTo _ _).mono fun _ h => h.uses) fun _ => ?_
  exact Task.asks_run_bind (asks_ask trivial) fun _ => asks_ask trivial

theorem asks_prepareAll (start : Position) (ps : List String) :
    (prepareAll start cancel ps).run.Asks (Action.bootstrap start cancel).Uses := by
  induction ps with
  | nil => trivial
  | cons p ps ih =>
      refine Task.asks_run_bind ?_ fun _ => ih
      refine Task.asks_run_bind (asks_lease trivial) fun _ => ?_
      refine Task.asks_run_bind (asks_checkpoint trivial) fun stored => ?_
      split
      · refine Task.asks_run_bind (asks_range trivial) fun range => ?_
        exact Task.asks_run_bind (asks_checkpoint trivial) fun _ => asks_ask trivial
      · trivial

theorem asks_bootstrap (owner : String) (start : Position) :
    (bootstrap owner start cancel).run.Asks (Action.bootstrap start cancel).Uses := by
  refine Task.asks_run_bind (asks_lease trivial) fun _ => ?_
  refine Task.asks_run_bind (asks_checkpoint trivial) fun _ => ?_
  refine Task.asks_run_bind (asks_hub trivial) fun hub => ?_
  refine Task.asks_run_bind (asks_prepareAll start _) fun _ => ?_
  exact Task.asks_run_bind (asks_ask trivial) fun _ => trivial

theorem asks_recordProgress (partition : String) (position : Checkpoint) :
    (recordProgress cancel partition position).run.Asks
      (Action.recordProgress cancel partition position).Uses := by
  refine Task.asks_run_bind (asks_lease rfl) fun ⟨updated, held⟩ => ?_
  cases held with
  | true =>
      exact Task.asks_run_bind (asks_ask trivial) fun _ =>
        asks_checkpoint ⟨rfl, rfl⟩
  | false => exact Task.asks_run_bind (asks_lose trivial trivial) fun _ => trivial

theorem asks_releaseAll (ps : List String) : (releaseAll ps).run.Asks Action.shutdown.Uses := by
  induction ps with
  | nil => trivial
  | cons p ps ih =>
      refine Task.asks_run_bind (asks_outcome (asks_lease trivial)) fun _ => ?_
      exact Task.asks_run_bind (asks_lose trivial trivial) fun _ => ih

theorem asks_shutdown : shutdown.run.Asks Action.shutdown.Uses :=
  Task.asks_run_bind (asks_ask trivial) fun _ => asks_releaseAll _

end Host

theorem Action.asks_program (owner : String) (a : Action) : (a.program owner).run.Asks a.Uses := by
  cases a with
  | bootstrap start cancel => exact Host.asks_bootstrap owner start
  | scan cancel => exact Host.asks_scan owner
  | recordProgress cancel partition position => exact Host.asks_recordProgress partition position
  | shutdown => exact Host.asks_shutdown
  | lease cancel op => exact Host.asks_lease rfl
  | checkpoint cancel op => exact Host.asks_checkpoint rfl

/-! ## Requests made of the site -/

namespace Site

def Request.IsOfLeases : Request → Prop
  | .leaseBucket _ _ | .leaseTable _ _ => True
  | _ => False

def Request.IsOfCheckpoints : Request → Prop
  | .checkpointBucket _ _ | .checkpointTable _ => True
  | _ => False

def Request.IsOfBeliefs : Request → Prop
  | .own _ _ | .disown _ => True
  | _ => False

/-- Whether a request is made of neither store, nor about beliefs. -/
def Request.IsIdle (r : Request) : Prop := ¬ r.IsOfLeases ∧ ¬ r.IsOfCheckpoints ∧ ¬ r.IsOfBeliefs

theorem asks_pause (cancel : Cancellation) (d : Duration) : (pause cancel d).Asks Request.IsIdle :=
  ⟨⟨id, id, id⟩, fun _ => ⟨⟨id, id, id⟩, fun _ => trivial⟩⟩

theorem asks_goOn (cancel : Cancellation) (q : Enquiry) (n : Nat) (delays : List Duration) :
    ((asking cancel q).goOn n (ask (.enquire cancel q)) delays).Asks Request.IsIdle := by
  have hask : (ask (.enquire cancel q)).Asks Request.IsIdle := ⟨⟨id, id, id⟩, fun _ => trivial⟩
  induction delays generalizing n with
  | nil => exact hask
  | cons delay delays ih =>
      refine hask.bind fun answer => ?_
      rcases answer with _ | e | x
      · trivial
      · simp only
        split
        · refine (asks_pause cancel delay).bind fun wake => ?_
          cases wake with
          | cancelled => trivial
          | due => exact ih (n + 1)
        · trivial
      · trivial

theorem asks_enquire (patience : Enquiry.Patience) (cancel : Cancellation) (q : Enquiry) :
    (enquire patience cancel q).Asks Request.IsIdle := by
  refine Task.Asks.bind ?_ fun answer => ?_
  · have hfired : (asking cancel q).isCancelled.Asks Request.IsIdle :=
      ⟨⟨id, id, id⟩, fun _ => trivial⟩
    refine hfired.bind fun fired => ?_
    cases fired with
    | true => trivial
    | false => exact asks_goOn cancel q 0 _
  · cases answer <;> trivial

theorem asks_noteIfAny {ok : Request → Prop} (hnote : ∀ n, ok (.note n)) (n : Option Note) :
    (noteIfAny n).Asks ok := by
  cases n with
  | none => trivial
  | some n => exact ⟨hnote n, fun _ => trivial⟩

end Site

namespace Equipment

open Site

variable (e : Equipment)

theorem asks_of_lease {ok : Site.Request → Prop} (cancel : Cancellation) (op : Lease.Operation)
    (htable : ok (.leaseTable e.me op)) (hcall : ∀ c, ok (.leaseBucket cancel c)) (hnow : ok .now)
    (hnote : ∀ n, ok (.note n)) : (e.lease cancel op).Asks ok := by
  unfold lease
  split
  · exact Task.Asks.bind ⟨htable, fun _ => trivial⟩ fun _ =>
      (asks_noteIfAny hnote _).bind fun _ => trivial
  · refine (Task.asks_true _).serve ?_
    rintro (c | _) -
    · exact ⟨hcall c, fun _ => trivial⟩
    · exact ⟨hnow, fun _ => trivial⟩

theorem asks_of_checkpoint {ok : Site.Request → Prop} (cancel : Cancellation) (op : Checkpoint.Operation)
    (htable : ok (.checkpointTable op)) (hcall : ∀ c, ok (.checkpointBucket cancel c)) (hnow : ok .now)
    (hnote : ∀ n, ok (.note n)) : (e.checkpoint cancel op).Asks ok := by
  unfold checkpoint
  split
  · exact Task.Asks.bind ⟨htable, fun _ => trivial⟩ fun _ =>
      (asks_noteIfAny hnote _).bind fun _ => trivial
  · refine (Task.asks_true _).serve ?_
    rintro (c | _) -
    · exact ⟨hcall c, fun _ => trivial⟩
    · exact ⟨hnow, fun _ => trivial⟩

theorem serve_lease (cancel : Cancellation) (op : Lease.Operation) :
    (Host.lease cancel op).run.serve e.serve = e.lease cancel op := Task.bind_done _

theorem serve_checkpoint (cancel : Cancellation) (op : Checkpoint.Operation) :
    (Host.checkpoint cancel op).run.serve e.serve = e.checkpoint cancel op := Task.bind_done _

theorem asks_checkpoint (cancel : Cancellation) (op : Checkpoint.Operation) :
    (e.checkpoint cancel op).Asks fun r : Site.Request => ¬ r.IsOfLeases ∧ ¬ r.IsOfBeliefs :=
  e.asks_of_checkpoint cancel op ⟨id, id⟩ (fun _ => ⟨id, id⟩) ⟨id, id⟩ fun _ => ⟨id, id⟩

theorem asks_lease (cancel : Cancellation) (op : Lease.Operation) :
    (e.lease cancel op).Asks fun r : Site.Request => ¬ r.IsOfCheckpoints ∧ ¬ r.IsOfBeliefs :=
  e.asks_of_lease cancel op ⟨id, id⟩ (fun _ => ⟨id, id⟩) ⟨id, id⟩ fun _ => ⟨id, id⟩

end Equipment

end PartitionHost
