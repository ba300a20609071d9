import PartitionHost.Proofs.Bucket.Alone
import PartitionHost.Proofs.Lease.Undisturbed

/-!
# Updates that come too late

A server can be told that its next updates find a competing writer to have been there first
(`Server.contended`). Each costs a client one attempt, and leaves the value that it would have replaced. A
transition or a new position gets over as many of them as it has attempts to spare, and comes to the same as if
there had been none; with more it gives up, and nothing is stored (`Absorbs`). One statement says so of both
stores (`contention_is_absorbed`).
-/

namespace PartitionHost

open Record

namespace Bucket

/-! ## Servers with conflicts to come -/

namespace Server

/-- A server that takes no time and fails nothing, but lets so many updates lose against a competing writer. -/
def contended (name : String) (b : Bucket) (conflicts : Nat) : Server :=
  ⟨name, b, { conflictUpdates := conflicts }⟩

variable {name key : String} {b : Bucket} {conflicts : Nat} {v value : Bytes}

theorem isPrompt_contended : (contended name b conflicts).IsPrompt := ⟨rfl, rfl⟩

theorem answer_entry_contended (hcreated : b.created = true) :
    (contended name b conflicts).answer (.entry key) = (.ok (b.entry? key), contended name b conflicts) := by
  obtain ⟨created, entries, count⟩ := b
  obtain rfl : created = true := hcreated
  rfl

/-- An update that is to lose finds that somebody put the old value there once more. -/
theorem answer_update_contended_succ (hcreated : b.created = true) (revision : Nat) :
    (contended name b (conflicts + 1)).answer (.update key value revision) =
      (.ok none, contended name (b.touch key) conflicts) := by
  obtain ⟨created, entries, count⟩ := b
  obtain rfl : created = true := hcreated
  rfl

theorem answer_update_contended_zero (hcreated : b.created = true) {s : Stamped}
    (hs : b.entries.get? key = some s) : (contended name b 0).answer (.update key value s.revision) =
      (.ok (some (b.revision + 1)), contended name (b.write key value) 0) := by
  have hupdate : b.update key value s.revision = (some (b.revision + 1), b.write key value) := by
    simp [Bucket.update, hs]
  have hanswer : (contended name b 0).answer (.update key value s.revision) =
      (.ok (b.update key value s.revision).1, contended name (b.update key value s.revision).2 0) := by
    obtain ⟨created, entries, count⟩ := b
    obtain rfl : created = true := hcreated
    rfl
  rw [hanswer, hupdate]

end Server

/-! ## What is under the keys -/

variable {b : Bucket} {key : String} {value v : Bytes}

theorem created_touch : (b.touch key).created = b.created := by
  unfold touch
  split <;> rfl

theorem value?_touch (b : Bucket) (key : String) : (b.touch key).value? = b.value? :=
  funext (value_touch b key)

theorem exists_entry_of_value? (h : b.value? key = some v) :
    ∃ revision, b.entry? key = some ⟨key, v, revision⟩ ∧ b.entries.get? key = some ⟨v, revision⟩ := by
  obtain ⟨⟨v', revision⟩, hs, rfl⟩ := Option.map_eq_some_iff.1 h
  exact ⟨revision, by rw [Bucket.entry?, hs]; rfl, hs⟩

/-! ## So many conflicts, and so many attempts -/

/--
What a program that may try so many times comes to on a server with so many conflicts to come. Within its
attempts it has replaced the value of a key, and no conflict is left; otherwise it has left all values as they
are and met one conflict with each attempt.
-/
def Absorbs {α : Type} (name : String) (b : Bucket) (key : String) (value : Bytes) (done refused : α)
    (attempts conflicts : Nat) (x : α × Server) : Prop :=
  ∃ b', b'.created = true ∧
    if conflicts < attempts then
      x = (done, .contended name b' 0) ∧ b'.value? = Function.update b.value? key (some value)
    else x = (refused, .contended name b' (conflicts - attempts)) ∧ b'.value? = b.value?

section Absorbs

variable {α : Type} {name : String} {done refused : α} {attempts conflicts : Nat} {x : α × Server}

theorem absorbs_zero (hcreated : b.created = true) :
    Absorbs name b key value done refused 0 conflicts (refused, .contended name b conflicts) :=
  ⟨b, hcreated, rfl, rfl⟩

theorem absorbs_write (hcreated : b.created = true) :
    Absorbs name b key value done refused (attempts + 1) 0 (done, .contended name (b.write key value) 0) :=
  ⟨b.write key value, hcreated, rfl, value?_write b key value⟩

theorem Absorbs.map {β : Type} (f : α → β)
    (h : Absorbs name b key value done refused attempts conflicts x) :
    Absorbs name b key value (f done) (f refused) attempts conflicts (f x.1, x.2) := by
  obtain ⟨b', hcreated, h⟩ := h
  refine ⟨b', hcreated, ?_⟩
  split at h
  · rename_i hlt
    rw [if_pos hlt, h.1]
    exact ⟨rfl, h.2⟩
  · rename_i hge
    rw [if_neg hge, h.1]
    exact ⟨rfl, h.2⟩

theorem Absorbs.of_touch (h : Absorbs name (b.touch key) key value done refused attempts conflicts x) :
    Absorbs name b key value done refused (attempts + 1) (conflicts + 1) x := by
  obtain ⟨b', hcreated, h⟩ := h
  rw [value?_touch] at h
  refine ⟨b', hcreated, ?_⟩
  simpa only [Nat.add_lt_add_iff_right, Nat.add_sub_add_right] using h

end Absorbs

end Bucket

/-! ## Leases -/

namespace Lease.Bucketed

open Bucket Bucket.Client Bucket.Server

variable {name p : String} {now : Timestamp} {next : Lease → Timestamp → Option Lease} {l l' : Lease}
  {v : Bytes} {b : Bucket} {me : Claimant} {op : Operation}

theorem carryOut_transition_of_refused (hcreated : b.created = true) (hv : b.value? p = some v)
    (hl : decode? v = some l) (hnext : next l now = none) (attempts conflicts : Nat) :
    carryOut now (transition p next (attempts + 1)).run (contended name b conflicts) =
      (.ok (l, false), contended name b conflicts) := by
  obtain ⟨revision, hentry, -⟩ := exists_entry_of_value? hv
  simp only [run_transition_succ, carryOut, answer_entry_contended hcreated, hentry, Except.mapError, hl,
    hnext]

theorem absorbs_transition (hcreated : b.created = true) (hv : b.value? p = some v)
    (hl : decode? v = some l) (hnext : next l now = some l') (attempts conflicts : Nat) :
    Absorbs name b p (encode l') (.ok (l', true)) (.error (.conflict p)) attempts conflicts
      (carryOut now (transition p next attempts).run (contended name b conflicts)) := by
  induction attempts generalizing b conflicts with
  | zero => exact absorbs_zero hcreated
  | succ attempts ih =>
      obtain ⟨revision, hentry, hs⟩ := exists_entry_of_value? hv
      simp only [run_transition_succ, carryOut, answer_entry_contended hcreated, hentry, Except.mapError, hl,
        hnext]
      cases conflicts with
      | zero =>
          rw [answer_update_contended_zero hcreated hs]
          exact absorbs_write hcreated
      | succ conflicts =>
          rw [answer_update_contended_succ hcreated]
          exact .of_touch (ih (by rw [created_touch, hcreated]) (by rw [value?_touch, hv]) conflicts)

/-- Whoever does not come through to take a lease looks at it once more, and finds it as it was. -/
theorem absorbs_acquire (hcreated : b.created = true) (hv : b.value? p = some v) (hl : decode? v = some l)
    (hnext : l.acquire me.owner me.term now = some l') (conflicts : Nat) :
    Absorbs name b p (encode l') (.ok (l', true)) (.ok (l, false)) maxAttempts conflicts
      (carryOut now (acquire me p).run (contended name b conflicts)) := by
  have habsorbs : Absorbs name b p (encode l') (.ok (l', true)) (.error (.conflict p)) maxAttempts conflicts
      (carryOut now (transition p (·.acquire me.owner me.term ·) maxAttempts).run
        (contended name b conflicts)) :=
    absorbs_transition hcreated hv hl hnext maxAttempts conflicts
  obtain ⟨b', hcreated', h⟩ := habsorbs
  refine ⟨b', hcreated', ?_⟩
  rw [run_acquire, carryOut_bind]
  split at h
  · rename_i hlt
    obtain ⟨hx, hvalue⟩ := h
    rw [if_pos hlt, hx]
    exact ⟨rfl, hvalue⟩
  · rename_i hge
    obtain ⟨hx, hvalue⟩ := h
    obtain ⟨revision, hentry, -⟩ := exists_entry_of_value? (hvalue ▸ hv)
    rw [if_neg hge, hx]
    simp only [run_read, Task.ask_bind, carryOut, answer_entry_contended hcreated', hentry,
      Except.mapError, hl, Task.done_bind]
    exact ⟨trivial, hvalue⟩

theorem carryOut_acquire_of_refused (hcreated : b.created = true) (hv : b.value? p = some v)
    (hl : decode? v = some l) (hnext : l.acquire me.owner me.term now = none) (conflicts : Nat) :
    carryOut now (acquire me p).run (contended name b conflicts) =
      (.ok (l, false), contended name b conflicts) := by
  have hrefused : carryOut now (transition p (·.acquire me.owner me.term ·) maxAttempts).run
      (contended name b conflicts) = (.ok (l, false), contended name b conflicts) :=
    carryOut_transition_of_refused hcreated hv hl hnext 2 conflicts
  rw [run_acquire, carryOut_bind, hrefused]
  rfl

theorem carryOut_release (now : Timestamp) (s : Server) : carryOut now (perform me (.release p)).run s =
    ((carryOut now (transition p (·.release me.owner ·) maxAttempts).run s).1.map (·.2),
      (carryOut now (transition p (·.release me.owner ·) maxAttempts).run s).2) := by
  rw [perform, Task.run_bind, carryOut_bind]
  cases (carryOut now (transition p (·.release me.owner ·) maxAttempts).run s).1 <;> rfl

theorem carryOut_perform_of_refused (name : String) (hop : op.transition? me = some (p, next)) (hcreated : b.created = true)
    (hv : b.value? p = some v) (hl : decode? v = some l) (hnext : next l now = none) :
    ∃ x, op.Reports (.ok (l, false)) x ∧ ∀ conflicts,
      carryOut now (perform me op).run (contended name b conflicts) = (x, contended name b conflicts) := by
  have hrefused (conflicts : Nat) : carryOut now (transition p next maxAttempts).run
      (contended name b conflicts) = (.ok (l, false), contended name b conflicts) :=
    carryOut_transition_of_refused hcreated hv hl hnext 2 conflicts
  cases op with
  | acquire q =>
      cases hop
      exact ⟨_, rfl, carryOut_acquire_of_refused hcreated hv hl hnext⟩
  | renew q | update q =>
      cases hop
      exact ⟨_, rfl, hrefused⟩
  | release q =>
      cases hop
      refine ⟨_, rfl, fun conflicts => ?_⟩
      rw [carryOut_release, hrefused]
  | _ => cases hop

theorem absorbs_perform (hop : op.transition? me = some (p, next)) (hcreated : b.created = true)
    (hv : b.value? p = some v) (hl : decode? v = some l) (hnext : next l now = some l') :
    ∃ done refused, op.Reports (.ok (l', true)) done ∧
      op.Reports (if op = .acquire p then .ok (l, false) else .error (.conflict p)) refused ∧
      ∀ conflicts, Absorbs name b p (encode l') done refused maxAttempts conflicts
        (carryOut now (perform me op).run (contended name b conflicts)) := by
  have habsorbs (conflicts : Nat) : Absorbs name b p (encode l') (.ok (l', true)) (.error (.conflict p))
      maxAttempts conflicts (carryOut now (transition p next maxAttempts).run (contended name b conflicts)) :=
    absorbs_transition hcreated hv hl hnext maxAttempts conflicts
  cases op with
  | acquire q =>
      cases hop
      rw [if_pos rfl]
      exact ⟨_, _, rfl, rfl, absorbs_acquire hcreated hv hl hnext⟩
  | renew q | update q =>
      cases hop
      rw [if_neg (by simp)]
      exact ⟨_, _, rfl, rfl, habsorbs⟩
  | release q =>
      cases hop
      rw [if_neg (by simp)]
      refine ⟨_, _, rfl, rfl, fun conflicts => ?_⟩
      rw [carryOut_release]
      exact (habsorbs conflicts).map _
  | _ => cases hop

end Lease.Bucketed

/-! ## Checkpoints -/

namespace Checkpoint.Bucketed

open Bucket Bucket.Client Bucket.Server

theorem absorbs_replace {name key : String} {value v : Bytes} {b : Bucket} (now : Timestamp)
    (hcreated : b.created = true) (hv : b.value? key = some v) (attempts conflicts : Nat) :
    Absorbs name b key value (.ok ()) (.error (.conflict key)) attempts conflicts
      (carryOut now (replace key value attempts).run (contended name b conflicts)) := by
  induction attempts generalizing b conflicts with
  | zero => exact absorbs_zero hcreated
  | succ attempts ih =>
      obtain ⟨revision, hentry, hs⟩ := exists_entry_of_value? hv
      simp only [run_replace_succ, carryOut, answer_entry_contended hcreated, hentry, Except.mapError]
      cases conflicts with
      | zero =>
          rw [answer_update_contended_zero hcreated hs]
          exact absorbs_write hcreated
      | succ conflicts =>
          rw [answer_update_contended_succ hcreated]
          exact .of_touch (ih (by rw [created_touch, hcreated]) (by rw [value?_touch, hv]) conflicts)

end Checkpoint.Bucketed

/-! ## Both stores -/

open Bucket (Server)
open Bucket.Client (maxAttempts)

/--
What an operation comes to on a cluster, for each number of conflicts to come on the server of a store. If it has
attempts to spare, it is answered and leaves the same as without conflicts, and none is left; otherwise it is
refused, no value has changed, and one conflict is gone for each attempt.
-/
def Cluster.Absorbs {α : Type} (c : Cluster) (store : StoreName) (name : String) (b : Bucket) (key : String)
    (value : Bytes) (done refused : α) (run : Nat → Option α × Cluster) : Prop :=
  (∀ conflicts < maxAttempts, ∃ b', run conflicts = (some done, c.setServer store (.contended name b' 0)) ∧
    b'.value? = Function.update b.value? key (some value)) ∧
  ∀ conflicts, maxAttempts ≤ conflicts → ∃ b',
    run conflicts = (some refused, c.setServer store (.contended name b' (conflicts - maxAttempts))) ∧
    b'.value? = b.value?

variable {c : Cluster} {store : StoreName} {name key : String} {b : Bucket} {value : Bytes}

theorem Routine.run_client_contended {α : Type} {cancel : Cancellation}
    (hcancel : cancel.fired c.elapsed = false) (host : String) (store : StoreName) (t : Task Bucket.Client α)
    (s : Server) (hs : s.IsPrompt) : (Routine.ofSite host (t.serve (store.client cancel))).run (c.setServer store s) =
      (some (Server.carryOut c.now t s).1, c.setServer store (Server.carryOut c.now t s).2) := by
  rw [run_client_of_prompt host (Cluster.server?_setServer s) hs (by simpa using hcancel)]
  simp

theorem Cluster.absorbs_of_carryOut {α : Type} {done refused : α} {carried : Nat → α × Server}
    (h : ∀ conflicts, Bucket.Absorbs name b key value done refused maxAttempts conflicts
      (carried conflicts)) :
    c.Absorbs store name b key value done refused fun conflicts =>
      (some (carried conflicts).1, c.setServer store (carried conflicts).2) := by
  constructor
  · intro conflicts hlt
    obtain ⟨b', -, h⟩ := h conflicts
    rw [if_pos hlt] at h
    exact ⟨b', by simp only [h.1], h.2⟩
  · intro conflicts hge
    obtain ⟨b', -, h⟩ := h conflicts
    rw [if_neg (Nat.not_lt.2 hge)] at h
    exact ⟨b', by simp only [h.1], h.2⟩

/--
On a bucket that nothing else goes wrong with: a transition that is not allowed on the lease that is stored
answers that lease and uses up no conflict. One that is allowed gets over fewer conflicts than it has attempts
and comes to what it comes to without any; with more, an acquisition answers the lease that is stored and every
other transition a conflict, and nothing is stored. A new position for a checkpoint that is stored gets over
conflicts alike.
-/
theorem contention_is_absorbed (c : Cluster) (host name : String) (b : Bucket) (cancel : Cancellation)
    (hcreated : b.created = true) (hcancel : cancel.fired c.elapsed = false) :
    (∀ (me : Lease.Claimant) (op : Lease.Operation) (p : String) (next : Lease → Timestamp → Option Lease)
        (v : Bytes) (l : Lease),
      op.transition? me = some (p, next) → b.value? p = some v → decode? v = some l →
      let run (conflicts : Nat) := (Routine.ofSite host (Site.leaseInBucket cancel me op)).run
        (c.setServer .leases (.contended name b conflicts))
      (next l c.now = none → ∃ x, op.Reports (.ok (l, false)) x ∧
        ∀ conflicts, run conflicts = (some x, c.setServer .leases (.contended name b conflicts))) ∧
      ∀ l', next l c.now = some l' → ∃ done refused, op.Reports (.ok (l', true)) done ∧
        op.Reports (if op = .acquire p then .ok (l, false) else .error (.conflict p)) refused ∧
        c.Absorbs .leases name b p (encode l') done refused run) ∧
    (∀ (p : String) (position : Checkpoint) (v : Bytes), b.value? p = some v →
      c.Absorbs .checkpoints name b p (encode (position.forPartition p)) (.ok ()) (.error (.conflict p))
        fun conflicts =>
          (Routine.ofSite host (Site.checkpointInBucket cancel (.update p position))).run
            (c.setServer .checkpoints (.contended name b conflicts))) := by
  constructor
  · intro me op p next v l hop hv hl run
    have hrun : run = fun conflicts =>
        (some (Server.carryOut c.now (Lease.Bucketed.perform me op).run (.contended name b conflicts)).1,
          c.setServer .leases
            (Server.carryOut c.now (Lease.Bucketed.perform me op).run (.contended name b conflicts)).2) :=
      funext fun conflicts =>
        Routine.run_client_contended hcancel host .leases _ _ Server.isPrompt_contended
    rw [hrun]
    constructor
    · intro hnext
      obtain ⟨x, hx, hcarry⟩ := Lease.Bucketed.carryOut_perform_of_refused name hop hcreated hv hl hnext
      exact ⟨x, hx, fun conflicts => by simp only [hcarry]⟩
    · intro l' hnext
      obtain ⟨done, refused, hdone, hrefused, habsorbs⟩ :=
        Lease.Bucketed.absorbs_perform hop hcreated hv hl hnext
      exact ⟨done, refused, hdone, hrefused, Cluster.absorbs_of_carryOut habsorbs⟩
  · intro p position v hv
    have hrun : (fun conflicts => (Routine.ofSite host (Site.checkpointInBucket cancel
        (.update p position))).run (c.setServer .checkpoints (.contended name b conflicts))) = _ :=
      funext fun conflicts =>
        Routine.run_client_contended hcancel host .checkpoints _ _ Server.isPrompt_contended
    rw [hrun]
    exact Cluster.absorbs_of_carryOut (Checkpoint.Bucketed.absorbs_replace c.now hcreated hv maxAttempts)

/-- Two conflicts do not keep host a from a lease that nobody owns, and three do. -/
theorem contention_is_absorbed_twice :
    let c := Cluster.ofPartition "0"
    let b := c.bucket .leases
    let run (conflicts : Nat) := (Routine.ofSite "a" (Site.leaseInBucket .never ⟨"a", .ofSeconds 30⟩
      (.acquire "0"))).run (c.setServer .leases (.contended "leases" b conflicts))
    let l : Lease := { Lease.unowned "0" with
      owner := "a", expiresAt := c.now.plus (.ofSeconds 30), epoch := 1 }
    (∃ b', run 2 = (some (.ok (l, true)), c.setServer .leases (.contended "leases" b' 0)) ∧
      b'.value? "0" = some (encode l)) ∧
    ∃ b', run 3 = (some (.ok (.unowned "0", false)), c.setServer .leases (.contended "leases" b' 0)) ∧
      b'.value? "0" = b.value? "0" := by
  intro c b run l
  have hnext : (Lease.unowned "0").acquire "a" (.ofSeconds 30) c.now = some l := by decide +kernel
  have hdecode : decode? (encode (Lease.unowned "0")) = some (Lease.unowned "0") := by decide +kernel
  obtain ⟨done, refused, hdone, hrefused, habsorbed, hbeaten⟩ :=
    ((contention_is_absorbed c "a" "leases" b .never rfl rfl).1 ⟨"a", .ofSeconds 30⟩ (.acquire "0") "0" _ _ _
      rfl rfl hdecode).2 l hnext
  rw [if_pos rfl] at hrefused
  obtain rfl : done = .ok (l, true) := hdone
  obtain rfl : refused = .ok (Lease.unowned "0", false) := hrefused
  obtain ⟨b₂, hrun₂, hvalue₂⟩ := habsorbed 2 (by decide)
  obtain ⟨b₃, hrun₃, hvalue₃⟩ := hbeaten 3 (by decide)
  exact ⟨⟨b₂, hrun₂, by rw [hvalue₂, Function.update_self]⟩, b₃, hrun₃, by rw [hvalue₃]⟩

end PartitionHost
