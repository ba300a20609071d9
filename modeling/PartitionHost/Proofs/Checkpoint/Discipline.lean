import PartitionHost.Proofs.Host.Requests

/-!
# How checkpoints are written

Of the operations on checkpoints only an update puts a position over another one, and it is that of the
operation, in the name of the partition. `Equipment.asks_allowed` says so of every action, on either kind
of store.
-/

namespace PartitionHost

open Record

namespace Checkpoint

/-- What may be asked of the checkpoint store for these operations. -/
def Allowed (uses : Operation → Prop) : Site.Request → Prop
  | .checkpointBucket _ (.update key value _) =>
    ∃ position, uses (.update key position) ∧ value = encode (position.forPartition key)
  | .checkpointBucket _ (.create key value) => uses (.ensure key) ∧ value = encode (startOfStream key)
  | .checkpointBucket _ (.delete key) => uses (.delete key)
  | .checkpointBucket _ .drop => uses .deleteStore
  | .checkpointTable op => uses op
  | _ => True

variable {uses : Operation → Prop}

theorem allowed_of_not {r : Site.Request} (h : ¬ r.IsOfCheckpoints) : Allowed uses r := by
  cases r with
  | checkpointBucket cancel c => exact absurd trivial h
  | checkpointTable op => exact absurd trivial h
  | _ => trivial

def client (cancel : Cancellation) : (r : Bucket.Client.Request) → Task Site r.Answer
  | .call c => Site.ask (.checkpointBucket cancel c)
  | .now => Site.ask .now

@[simp] theorem serve_client_call {α : Type} (cancel : Cancellation) (c : Bucket.Call)
    (resume : Except Error c.Reply → Task Bucket.Client α) :
    (Task.ask (I := Bucket.Client) (.call c) resume).serve (client cancel) =
      .ask (I := Site) (.checkpointBucket cancel c) fun x => (resume x).serve (client cancel) := rfl

end Checkpoint

namespace Checkpoint.Bucketed

variable {uses : Operation → Prop} {cancel : Cancellation}

theorem asks_replace {key : String} {position : Checkpoint} (huses : uses (.update key position))
    (attempts : Nat) :
    ((replace key (encode (position.forPartition key)) attempts).run.serve (client cancel)).Asks
      (Allowed uses) := by
  induction attempts with
  | zero => trivial
  | succ attempts ih =>
      rw [run_replace_succ, serve_client_call]
      refine ⟨trivial, ?_⟩
      rintro (e | _ | e)
      · trivial
      · trivial
      · refine ⟨⟨position, huses, rfl⟩, ?_⟩
        rintro (e | _ | n)
        · trivial
        · exact ih
        · trivial

theorem asks_ensure {key : String} (huses : uses (.ensure key)) (attempts : Nat) :
    ((Bucket.Client.ensure key (startOfStream key) attempts).run.serve (client cancel)).Asks
      (Allowed uses) := by
  refine (Bucket.Client.asks_ensure key _ attempts).serve ?_
  rintro r (rfl | rfl)
  · exact ⟨trivial, fun _ => trivial⟩
  · exact ⟨⟨huses, rfl⟩, fun _ => trivial⟩

theorem asks_perform {op : Operation} (huses : uses op) :
    ((perform op).run.serve (client cancel)).Asks (Allowed uses) := by
  cases op with
  | storeExists => exact ⟨trivial, fun _ => trivial⟩
  | ensureStore => exact ⟨trivial, fun _ => trivial⟩
  | deleteStore => exact ⟨huses, fun _ => trivial⟩
  | get key =>
      rw [perform, Bucket.Client.run_read?, serve_client_call]
      refine ⟨trivial, ?_⟩
      rintro (e | _ | e)
      · trivial
      · trivial
      · simp only
        cases decode? (α := Checkpoint) e.value <;> trivial
  | ensure key => exact asks_ensure huses _
  | update key position => exact asks_replace huses _
  | delete key => exact ⟨huses, fun _ => trivial⟩

end Checkpoint.Bucketed

/-! ## Actions -/

namespace Equipment

open Checkpoint (Allowed)

variable (e : Equipment) {uses : Checkpoint.Operation → Prop}

theorem asks_allowed_checkpoint {cancel : Cancellation} {op : Checkpoint.Operation} (h : uses op) :
    (e.checkpoint cancel op).Asks (Allowed uses) := by
  unfold checkpoint
  split
  · exact Task.Asks.bind ⟨h, fun _ => trivial⟩ fun _ =>
      (Site.asks_noteIfAny (fun _ => trivial) _).bind fun _ => trivial
  · exact Checkpoint.Bucketed.asks_perform h

theorem asks_allowed_serve (r : Host.Request) (hr : r.Within uses) : (e.serve r).Asks (Allowed uses) := by
  cases r with
  | checkpoint cancel op => exact e.asks_allowed_checkpoint hr
  | lease cancel op =>
      exact (e.asks_lease cancel op).mono fun _ h => Checkpoint.allowed_of_not h.1
  | hub cancel =>
      exact (Site.asks_enquire e.patience cancel _).mono fun _ h => Checkpoint.allowed_of_not h.2.1
  | range cancel partition =>
      exact (Site.asks_enquire e.patience cancel _).mono fun _ h => Checkpoint.allowed_of_not h.2.1
  | _ => exact ⟨trivial, fun _ => trivial⟩

theorem asks_allowed (a : Action) : (e.task a).Asks (Allowed a.UsesCheckpoint) := by
  refine (a.asks_program e.me.owner).serve fun r hr => e.asks_allowed_serve r ?_
  cases r with
  | checkpoint cancel op => exact hr
  | _ => trivial

end Equipment

end PartitionHost
