import PartitionHost.Proofs.Bucket.Mirror
import PartitionHost.Proofs.Lease.Registered
import PartitionHost.Proofs.RecordText

/-!
# Registers and buckets of leases are alike

A lease store tells the same, whether it is kept as a register or in a bucket that nothing goes wrong with:
the bucket is a mirror of the register, in which every lease is written as a record, and every operation keeps
it so and is answered alike (`result_perform`). A series of operations, each on behalf of anybody and at any
time, is therefore answered alike from first to last (`engines_agree`).
-/

namespace PartitionHost.Lease

open Record Bucket Bucket.Client

variable {name : String} {now : Timestamp} {b : Bucket} {r : Register Lease} {t : Table Lease}
  {me : Claimant} {p : String}

theorem decode?_encode_of_room {l : Lease} (h : l.epoch < 1 <<< 64) : decode? (encode l) = some l := by
  rw [decode?_encode, if_pos h]

theorem Register.transition_answer (t : Table Lease) (p : String) (next : Lease → Option Lease) :
    (transition t p next).1 = .error (.notFound p) ∨ ∃ a, (transition t p next).1 = .ok a := by
  unfold transition
  split
  · exact .inl rfl
  · split <;> exact .inr ⟨_, rfl⟩

theorem Register.mapError_transition (t : Table Lease) (p : String) (next : Lease → Option Lease) :
    (transition t p next).1.mapError (.ofStore name) = (transition t p next).1 := by
  rcases transition_answer t p next with he | ⟨a, ha⟩
  · rw [he]
    rfl
  · rw [ha]
    rfl

/-! ## One operation -/

theorem result_transition (h : Mirrors b (some t)) {next : Lease → Timestamp → Option Lease}
    (hnext : ∀ l l', t.get? p = some l → next l now = some l' → l'.epoch < 1 <<< 64) (attempts : Nat) :
    (result name now (Bucketed.transition p next (attempts + 1)).run b).1 =
        (Register.transition t p (next · now)).1 ∧
      Mirrors (result name now (Bucketed.transition p next (attempts + 1)).run b).2
        (some (Register.transition t p (next · now)).2) := by
  have hcreated := (mirrors_some_iff.1 h).1
  rw [Bucketed.run_transition_succ]
  simp only [result, reply_of_created hcreated, Register.transition, Bucket.entry?]
  cases hl : t.get? p with
  | none =>
      rw [h.get?_eq_none.2 hl]
      exact ⟨rfl, h⟩
  | some l =>
      obtain ⟨s, hs, hdecode⟩ := h.exists_of_get? hl
      simp only [hs, Option.map_some, Except.mapError, hdecode, result]
      cases hl' : next l now with
      | none => exact ⟨rfl, h⟩
      | some l' =>
          -- Nobody has written since the entry was read, so it is still of that revision.
          have hupdate : b.update p (encode l') s.revision =
              (some (b.revision + 1), b.write p (encode l')) := by
            simp [Bucket.update, hs]
          simp only [result, reply_of_created hcreated, hupdate, Except.mapError]
          exact ⟨trivial, h.write (decode?_encode_of_room (hnext l l' hl hl'))⟩

theorem result_readAll (h : Mirrors b (some t)) (keys : List String) :
    result name now (Bucketed.readAll keys).run b = (.ok (keys.filterMap t.get?), b) := by
  induction keys with
  | nil => rfl
  | cons key keys ih =>
      rw [Bucketed.readAll, Task.run_bind, result_bind, h.result_read?, List.filterMap_cons]
      cases t.get? key with
      | none => exact ih
      | some l =>
          simp only [Task.run_bind, result_bind, ih]
          rfl

theorem result_of_none (h : Mirrors b (none : Register Lease)) : ∀ op : Operation,
    (result name now (Bucketed.perform me op).run b).1 =
        (Register.perform me now none op).1.mapError (.ofStore name) ∧
      Mirrors (result name now (Bucketed.perform me op).run b).2
        (Register.perform me now none op).2 := by
  obtain ⟨hcreated, hempty⟩ := mirrors_none_iff.1 h
  obtain ⟨created, entries, revision⟩ := b
  obtain rfl : created = false := hcreated
  obtain rfl : entries = .empty := hempty
  intro op
  cases op with
  | ensureStore => exact ⟨rfl, mirrors_some_iff.2 ⟨rfl, rfl⟩⟩
  | deleteStore => exact ⟨rfl, mirrors_none_iff.2 ⟨rfl, rfl⟩⟩
  | _ => exact ⟨rfl, h⟩

/-- An operation is answered alike by a register and a bucket, which are alike after it as well. -/
theorem result_perform (h : Mirrors b (some t))
    (hepoch : ∀ p l, t.get? p = some l → l.epoch + 1 < 1 <<< 64) (op : Operation) :
    (result name now (Bucketed.perform me op).run b).1 =
        (Register.perform me now (some t) op).1.mapError (.ofStore name) ∧
      Mirrors (result name now (Bucketed.perform me op).run b).2
        (Register.perform me now (some t) op).2 := by
  have hcreated := (mirrors_some_iff.1 h).1
  -- Each transition is the same program, and makes no epoch grow by more than one.
  have htransition : ∀ (op : Operation) {p : String} {next : Lease → Timestamp → Option Lease},
      op.transition? me = some (p, next) →
      (result name now (Bucketed.transition p next maxAttempts).run b).1 =
          (Register.transition t p (next · now)).1.mapError (.ofStore name) ∧
        Mirrors (result name now (Bucketed.transition p next maxAttempts).run b).2
          (some (Register.transition t p (next · now)).2) := by
    intro op p next hop
    rw [Register.mapError_transition]
    refine result_transition h (fun l l' hl hl' => ?_) _
    exact Nat.lt_of_le_of_lt (Operation.turns_of_transition? hop hl').epoch_le_succ (hepoch p l hl)
  cases op with
  | storeExists =>
      rw [Bucketed.perform, result_call, reply_of_created hcreated]
      exact ⟨rfl, h⟩
  | ensureStore =>
      rw [Bucketed.perform, result_call, reply_of_created hcreated]
      exact ⟨rfl, h⟩
  | deleteStore =>
      rw [Bucketed.perform, result_call, reply_of_created hcreated]
      exact ⟨rfl, mirrors_none_iff.2 ⟨rfl, rfl⟩⟩
  | list =>
      rw [Bucketed.perform, Task.run_bind, result_bind, result_call, reply_of_created hcreated]
      simp only [Except.mapError, result_readAll h, h.names_eq, Table.filterMap_names]
      exact ⟨rfl, h⟩
  | ensure p => exact h.result_ensure (decode?_encode_of_room (show 0 < 1 <<< 64 by decide)) _
  | delete p =>
      rw [Bucketed.perform, result_call, reply_of_created hcreated]
      exact ⟨rfl, h.delete⟩
  | acquire p =>
      obtain ⟨hanswer, hmirrors⟩ := htransition (.acquire p) rfl
      rw [Register.mapError_transition] at hanswer
      rw [Bucketed.perform, Bucketed.run_acquire, result_bind, hanswer]
      change _ = (Register.transition t p _).1.mapError _ ∧
        Mirrors _ (some (Register.transition t p _).2)
      -- A register never answers a conflict, so neither does the bucket, and nothing is read again.
      rcases Register.transition_answer t p (·.acquire me.owner me.term now) with he | ⟨a, ha⟩
      · simp only [he]
        exact ⟨rfl, hmirrors⟩
      · simp only [ha]
        exact ⟨rfl, hmirrors⟩
  | renew p => exact htransition (.renew p) rfl
  | release p =>
      obtain ⟨hanswer, hmirrors⟩ := htransition (.release p) rfl
      rw [Register.mapError_transition] at hanswer
      rw [Bucketed.perform, Task.run_bind, result_bind, hanswer]
      change _ = ((Register.transition t p _).1.map _).mapError _ ∧
        Mirrors _ (some (Register.transition t p _).2)
      rcases Register.transition_answer t p (·.release me.owner now) with he | ⟨a, ha⟩
      · simp only [he]
        exact ⟨rfl, hmirrors⟩
      · simp only [ha]
        exact ⟨rfl, hmirrors⟩
  | update p => exact htransition (.update p) rfl

theorem mirrors_perform (h : Mirrors b r) (name : String) (now : Timestamp) (me : Claimant)
    (hroom : ∀ t p l, r = some t → t.get? p = some l → l.epoch < (1 <<< 64) - 1) (op : Operation) :
    (result name now (Bucketed.perform me op).run b).1 =
        (Register.perform me now r op).1.mapError (.ofStore name) ∧
      Mirrors (result name now (Bucketed.perform me op).run b).2 (Register.perform me now r op).2 := by
  cases r with
  | none => exact result_of_none h op
  | some t =>
      refine result_perform h (fun p l hl => ?_) op
      have := hroom t p l rfl hl
      omega

/-! ## One operation after the other -/

/-- An operation on a lease store: on whose behalf, at which time and with which cancellation. -/
structure Visit where
  me : Claimant
  clock : Timestamp
  cancel : Cancellation
  op : Operation

namespace Visit

open Visiting (after after_append_singleton)

/-- What a cluster with a lease store of this kind comes to when a visit is made, and the answer. -/
def run (kind : Site.StoreKind) (v : Visit) (c : Cluster) :
    Option (Except Error v.op.Reply) × Cluster :=
  let e : Equipment := { me := v.me, leases := kind, checkpoints := kind }
  (Routine.ofSite v.me.owner (e.lease v.cancel v.op)).run (c.setNow v.clock)

instance : Visiting Visit := ⟨_, run⟩

theorem now_setNow (c : Cluster) (t : Timestamp) : (c.setNow t).now = .ofNanos t.toNanos := by
  simp [Cluster.now, Cluster.setNow]

theorem run_register (v : Visit) (c : Cluster) :
    (v.run .register c).1 =
        some (Register.perform v.me (.ofNanos v.clock.toNanos) c.leases.register v.op).1 ∧
      (v.run .register c).2.leases.register =
        (Register.perform v.me (.ofNanos v.clock.toNanos) c.leases.register v.op).2 ∧
      (v.run .register c).2.elapsed = c.elapsed := by
  have hrun : v.run .register c = ((Routine.leaseTable v.me v.op).bind fun answer =>
      Routine.ofSite v.me.owner ((Site.noteIfAny (Site.leaseNote? v.me v.op answer)).bind
        fun _ => .done answer)).run (c.setNow v.clock) := rfl
  have htable : (Routine.leaseTable v.me v.op).run (c.setNow v.clock) =
      (some (Register.perform v.me (c.setNow v.clock).now c.leases.register v.op).1,
        { c.setNow v.clock with leases := { c.leases with
            register := (Register.perform v.me (c.setNow v.clock).now c.leases.register v.op).2 } }) := rfl
  rw [hrun, Routine.run_bind_of_eq htable, now_setNow]
  cases Site.leaseNote? v.me v.op
    (Register.perform v.me (.ofNanos v.clock.toNanos) c.leases.register v.op).1 <;>
    exact ⟨rfl, rfl, rfl⟩

theorem run_bucket (v : Visit) {c : Cluster} {name : String} {b : Bucket}
    (hserver : c.leases.server = some ⟨name, b, {}⟩) (hcancel : v.cancel.fired c.elapsed = false) :
    let result := result name (.ofNanos v.clock.toNanos) (Bucketed.perform v.me v.op).run b
    (v.run .bucket c).1 = some result.1 ∧ (v.run .bucket c).2.leases.server = some ⟨name, result.2, {}⟩ ∧
      (v.run .bucket c).2.elapsed = c.elapsed := by
  have hrun : v.run .bucket c = (Routine.ofSite v.me.owner ((Bucketed.perform v.me v.op).run.serve
      (StoreName.leases.client v.cancel))).run (c.setNow v.clock) := rfl
  have hserver' : (c.setNow v.clock).server? .leases = some ⟨name, b, {}⟩ := hserver
  rw [hrun, Routine.run_client _ hserver' hcancel, now_setNow]
  exact ⟨rfl, rfl, rfl⟩

/-- The bucket of the second cluster mirrors the register of the first, and both clocks show the same. -/
structure Alike (name : String) (elapsed : Nat) (c₁ c₂ : Cluster) : Prop where
  mirrors : ∃ b, c₂.leases.server = some ⟨name, b, {}⟩ ∧ Mirrors b c₁.leases.register
  elapsed₁ : c₁.elapsed = elapsed
  elapsed₂ : c₂.elapsed = elapsed

variable {elapsed : Nat} {c₁ c₂ : Cluster}

/-- No lease in the register is in its last epoch. -/
def HasRoom (c : Cluster) : Prop :=
  ∀ t p l, c.leases.register = some t → t.get? p = some l → l.epoch < (1 <<< 64) - 1

theorem Register.epoch_le_of_perform {me : Claimant} {now : Timestamp} {r : Register Lease}
    {op : Operation} {n : Nat} (h : ∀ t p l, r = some t → t.get? p = some l → l.epoch ≤ n) :
    ∀ t p l, (Register.perform me now r op).2 = some t → t.get? p = some l → l.epoch ≤ n + 1 := by
  intro t p l hr hl
  cases Register.left_of_perform hr hl with
  | kept hr hl => exact Nat.le_succ_of_le (h _ _ _ hr hl)
  | created hop => exact Nat.zero_le _
  | turned hr hl hop hnext =>
      have := (Operation.turns_of_transition? hop hnext).epoch_le_succ
      have := h _ _ _ hr hl
      omega

/-- Each visit lets an epoch grow by one at most, so epochs have room unless there are too many visits. -/
theorem hasRoom_after {c : Cluster} (hregister : c.leases.register = none) {vs : List Visit}
    (hlength : vs.length < (1 <<< 64) - 1) : HasRoom (after .register vs c) := by
  have hle : ∀ vs : List Visit, ∀ t p l, (after .register vs c).leases.register = some t →
      t.get? p = some l → l.epoch ≤ vs.length := by
    intro vs
    induction vs using List.reverseRecOn with
    | nil =>
        intro t p l ht
        rw [show after .register [] c = c from rfl, hregister] at ht
        cases ht
    | append_singleton vs v ih =>
        intro t p l ht hl
        rw [after_append_singleton] at ht
        rw [List.length_append]
        have hregister := (v.run_register (after .register vs c)).2.1
        exact Register.epoch_le_of_perform ih t p l (hregister.symm.trans ht) hl
  exact fun t p l ht hl => Nat.lt_of_le_of_lt (hle vs t p l ht hl) hlength

theorem Alike.run (h : Alike name elapsed c₁ c₂) (v : Visit)
    (hcancel : v.cancel.fired elapsed = false) (hroom : HasRoom c₁) :
    (∃ answer, (v.run .register c₁).1 = some answer ∧
        (v.run .bucket c₂).1 = some (answer.mapError (.ofStore name))) ∧
      Alike name elapsed (v.run .register c₁).2 (v.run .bucket c₂).2 := by
  obtain ⟨b, hserver, hmirrors⟩ := h.mirrors
  obtain ⟨hanswer₁, hregister, helapsed₁⟩ := v.run_register c₁
  obtain ⟨hanswer₂, hserver', helapsed₂⟩ := v.run_bucket hserver (h.elapsed₂ ▸ hcancel)
  have hperform := mirrors_perform hmirrors name (.ofNanos v.clock.toNanos) v.me hroom v.op
  refine ⟨⟨_, hanswer₁, ?_⟩, ⟨_, hserver', ?_⟩, helapsed₁.trans h.elapsed₁, helapsed₂.trans h.elapsed₂⟩
  · rw [hanswer₂, hperform.1]
  · rw [hregister]
    exact hperform.2

end Visit

open Visit Visiting

/--
Stores that are not set up to begin with, one in a register and one in a bucket that does not fail, take no
time and are reached by clients that are not cancelled: after any series of visits the next visit is answered
alike, but for the name that an error gives to the store, and after it the bucket has as records exactly
the leases of the register.
-/
theorem engines_agree {c : Cluster} (hregister : c.leases.register = none)
    (hserver : c.leases.server = some ⟨name, b, {}⟩) (hcreated : b.created = false)
    (hempty : b.entries = .empty) (vs : List Visit) (v : Visit)
    (hcancel : ∀ u ∈ v :: vs, u.cancel.fired c.elapsed = false)
    (hroom : ∀ us, us <+: vs → HasRoom (after .register us c)) :
    (∃ answer, (v.run .register (after .register vs c)).1 = some answer ∧
      (v.run .bucket (after .bucket vs c)).1 = some (answer.mapError (.ofStore name))) ∧
    ((after .bucket (vs ++ [v]) c).bucket .leases).decoded =
      (after .register (vs ++ [v]) c).leases.register.map (·.map some) := by
  obtain ⟨hcancel, hcancels⟩ := List.forall_mem_cons.1 hcancel
  have hstart : Alike name c.elapsed c c :=
    ⟨⟨b, hserver, hregister ▸ mirrors_none_iff.2 ⟨hcreated, hempty⟩⟩, rfl, rfl⟩
  have halike : Alike name c.elapsed (after .register vs c) (after .bucket vs c) := by
    refine alike_after hstart fun us u hus h => (h.run u (hcancels u ?_) (hroom us ?_)).2
    · exact hus.subset (List.mem_append_right us (List.mem_singleton_self u))
    · exact (List.prefix_append us [u]).trans hus
  obtain ⟨hanswer, hnext⟩ := halike.run v hcancel (hroom vs (List.prefix_refl vs))
  obtain ⟨b', hserver', hmirrors⟩ := hnext.mirrors
  refine ⟨hanswer, ?_⟩
  rw [after_append_singleton, after_append_singleton]
  refine Eq.trans ?_ hmirrors.decoded_eq
  simp only [Visiting.run, Cluster.bucket, Cluster.server?, hserver']
  rfl

/-- Host a sets up the store and takes a partition, and lets its lease expire. -/
def takenOnce : List Visit :=
  [⟨⟨"a", .ofSeconds 30⟩, .ofNanos 0, .never, .ensureStore⟩,
    ⟨⟨"a", .ofSeconds 30⟩, .ofNanos 0, .firesAt 5, .ensure "0"⟩,
    ⟨⟨"a", .ofSeconds 30⟩, .ofNanos 1, .never, .acquire "0"⟩]

/-- Host b takes the partition over, with the same answer of a register and a bucket. -/
theorem engines_agree_takeover :
    let c : Cluster := { leases := { server := some { name := "leases" } } }
    let v : Visit := ⟨⟨"b", .ofSeconds 10⟩, .ofNanos 40000000000, .never, .acquire "0"⟩
    (∃ answer, (v.run .register (after .register takenOnce c)).1 = some answer ∧
      (v.run .bucket (after .bucket takenOnce c)).1 = some (answer.mapError (.ofStore "leases"))) ∧
    ((after .bucket (takenOnce ++ [v]) c).bucket .leases).decoded =
      (after .register (takenOnce ++ [v]) c).leases.register.map (·.map some) :=
  engines_agree rfl rfl rfl rfl takenOnce _ (by decide) fun us hus =>
    hasRoom_after rfl (Nat.lt_of_le_of_lt hus.length_le (by decide))

end PartitionHost.Lease
