import PartitionHost.Checkpoint.Register
import PartitionHost.Proofs.Bucket.Mirror
import PartitionHost.Proofs.RecordText

/-!
# Registers and buckets of checkpoints are alike

A checkpoint store tells the same, whether it is kept as a register or in a bucket. The bucket has every
checkpoint of the register as a record and nothing else, each operation is answered alike by both, and it
leaves them so (`result_perform`): a position is put in the place of one that is there, in the name of its
partition, and not where there is none. A bucket may take its time to answer; as long as no operation is
cancelled, any series of them is answered alike from first to last (`engines_agree_on_checkpoints`).
-/

namespace PartitionHost.Checkpoint

open Record Bucket Bucket.Client

/-- A position that an operation is to record has a sequence number of 64 bits. -/
def Operation.HasRoom : Operation → Prop
  | .update _ position =>
    -0x8000000000000000 ≤ position.sequenceNumber ∧ position.sequenceNumber < 0x8000000000000000
  | _ => True

variable {name : String} {now : Timestamp} {b : Bucket} {r : Register Checkpoint}
  {t : Table Checkpoint} {p : String}

theorem decode?_encode_startOfStream (p : String) :
    decode? (encode (startOfStream p)) = some (startOfStream p) := by
  rw [decode?_encode]
  exact if_pos (show -0x8000000000000000 ≤ (0 : Int) ∧ (0 : Int) < 0x8000000000000000 by decide)

theorem decode?_encode_forPartition {position : Checkpoint} (h : (Operation.update p position).HasRoom) :
    decode? (encode (position.forPartition p)) = some (position.forPartition p) := by
  rw [decode?_encode]
  exact if_pos h

/-! ## One operation -/

theorem Register.perform_update_of_none {position : Checkpoint} (h : t.get? p = none) :
    Register.perform (some t) (.update p position) = (.error (.notFound p), some t) := by
  simp [Register.perform, PartitionHost.Register.withTable, Table.contains, h]

theorem Register.perform_update_of_some {position old : Checkpoint} (h : t.get? p = some old) :
    Register.perform (some t) (.update p position) =
      (.ok (), some (t.insert p (position.forPartition p))) := by
  simp [Register.perform, PartitionHost.Register.withTable, Table.contains, h]

theorem result_replace_of_none (h : Mirrors b (some t)) (hnone : t.get? p = none) (value : Bytes)
    (attempts : Nat) :
    result name now (Bucketed.replace p value (attempts + 1)).run b = (.error (.notFound p), b) := by
  rw [Bucketed.run_replace_succ]
  simp only [result, reply_of_created (mirrors_some_iff.1 h).1, Bucket.entry?, h.get?_eq_none.2 hnone]
  rfl

theorem result_replace_of_some (h : Mirrors b (some t)) {old c : Checkpoint} (hold : t.get? p = some old)
    (hc : decode? (encode c) = some c) (attempts : Nat) :
    (result name now (Bucketed.replace p (encode c) (attempts + 1)).run b).1 = .ok () ∧
      Mirrors (result name now (Bucketed.replace p (encode c) (attempts + 1)).run b).2
        (some (t.insert p c)) := by
  have hcreated := (mirrors_some_iff.1 h).1
  obtain ⟨s, hs, -⟩ := h.exists_of_get? hold
  -- Nobody has written since the entry was read, so it is still of that revision.
  have hupdate : b.update p (encode c) s.revision =
      (some (b.revision + 1), b.write p (encode c)) := by
    simp [Bucket.update, hs]
  rw [Bucketed.run_replace_succ]
  simp only [result, reply_of_created hcreated, Bucket.entry?, hs, Option.map_some, Except.mapError,
    hupdate]
  exact ⟨trivial, h.write hc⟩

theorem result_of_none (h : Mirrors b (none : Register Checkpoint)) (op : Operation) :
    (result name now (Bucketed.perform op).run b).1 =
        (Register.perform none op).1.mapError (.ofStore name) ∧
      Mirrors (result name now (Bucketed.perform op).run b).2 (Register.perform none op).2 := by
  obtain ⟨hcreated, hempty⟩ := mirrors_none_iff.1 h
  obtain ⟨created, entries, revision⟩ := b
  obtain rfl : created = false := hcreated
  obtain rfl : entries = .empty := hempty
  cases op with
  | ensureStore => exact ⟨rfl, mirrors_some_iff.2 ⟨rfl, rfl⟩⟩
  | deleteStore => exact ⟨rfl, mirrors_none_iff.2 ⟨rfl, rfl⟩⟩
  | _ => exact ⟨rfl, h⟩

/-- An operation is answered alike by a register and a bucket, which are alike after it as well. -/
theorem result_perform (name : String) (now : Timestamp) (h : Mirrors b r) {op : Operation}
    (hroom : op.HasRoom) :
    (result name now (Bucketed.perform op).run b).1 =
        (Register.perform r op).1.mapError (.ofStore name) ∧
      Mirrors (result name now (Bucketed.perform op).run b).2 (Register.perform r op).2 := by
  cases r with
  | none => exact result_of_none h op
  | some t =>
      have hcreated := (mirrors_some_iff.1 h).1
      cases op with
      | storeExists =>
          rw [Bucketed.perform, result_call, reply_of_created hcreated]
          exact ⟨rfl, h⟩
      | ensureStore =>
          rw [Bucketed.perform, result_call, reply_of_created hcreated]
          exact ⟨rfl, h⟩
      | deleteStore =>
          rw [Bucketed.perform, result_call, reply_of_created hcreated]
          exact ⟨rfl, mirrors_none_iff.2 ⟨rfl, rfl⟩⟩
      | get p =>
          rw [Bucketed.perform, h.result_read?]
          exact ⟨rfl, h⟩
      | ensure p => exact h.result_ensure (decode?_encode_startOfStream p) _
      | update p position =>
          rw [Bucketed.perform, maxAttempts]
          cases hold : t.get? p with
          | none =>
              rw [result_replace_of_none h hold, Register.perform_update_of_none hold]
              exact ⟨rfl, h⟩
          | some old =>
              rw [Register.perform_update_of_some hold]
              exact result_replace_of_some h hold (decode?_encode_forPartition hroom) _
      | delete p =>
          rw [Bucketed.perform, result_call, reply_of_created hcreated]
          exact ⟨rfl, h.delete⟩

theorem Bucketed.asks_untimed (op : Operation) :
    (Bucketed.perform op).run.Asks (· ≠ Client.Request.now) := by
  have hcall : ∀ c : Call, Client.Request.call c ≠ .now := nofun
  cases op with
  | get p =>
      rw [Bucketed.perform, run_read?]
      refine ⟨hcall _, ?_⟩
      rintro (e | _ | e)
      · trivial
      · trivial
      · simp only
        cases decode? (α := Checkpoint) e.value <;> trivial
  | ensure p =>
      refine (Client.asks_ensure p _ _).mono ?_
      rintro r (rfl | rfl)
      · exact hcall _
      · exact hcall _
  | update p position =>
      rw [Bucketed.perform]
      generalize maxAttempts = attempts
      induction attempts with
      | zero => trivial
      | succ attempts ih =>
          rw [Bucketed.run_replace_succ]
          refine ⟨hcall _, ?_⟩
          rintro (e | _ | e)
          · trivial
          · trivial
          · refine ⟨hcall _, ?_⟩
            rintro (e | _ | n)
            · trivial
            · exact ih
            · trivial
  | _ => exact ⟨hcall _, fun _ => trivial⟩

/-! ## One operation after the other -/

/--
An operation on a checkpoint store: on whose behalf, how many milliseconds the server takes meanwhile to
read and to write, and with which cancellation.
-/
structure Visit where
  me : Lease.Claimant
  readLatency : Nat
  writeLatency : Nat
  cancel : Cancellation
  op : Operation

namespace Visit

open Visiting (after)

def setPace (v : Visit) (c : Cluster) : Cluster :=
  c.setFaults .checkpoints fun f => { f with readLatency := v.readLatency, writeLatency := v.writeLatency }

/-- What a cluster with a checkpoint store of this kind comes to when a visit is made, and the answer. -/
def run (kind : Site.StoreKind) (v : Visit) (c : Cluster) :
    Option (Except Error v.op.Reply) × Cluster :=
  let e : Equipment := { me := v.me, leases := kind, checkpoints := kind }
  (Routine.ofSite v.me.owner (e.checkpoint v.cancel v.op)).run (v.setPace c)

instance : Visiting Visit := ⟨_, run⟩

theorem run_register (v : Visit) (c : Cluster) :
    (v.run .register c).1 = some (Register.perform c.checkpoints.register v.op).1 ∧
      (v.run .register c).2.checkpoints.register = (Register.perform c.checkpoints.register v.op).2 := by
  have hrun : v.run .register c = ((Routine.checkpointTable v.op).bind fun answer =>
      Routine.ofSite v.me.owner ((Site.noteIfAny (Site.checkpointNote? v.me.owner v.op answer)).bind
        fun _ => .done answer)).run (v.setPace c) := rfl
  have htable : (Routine.checkpointTable v.op).run (v.setPace c) =
      (some (Register.perform c.checkpoints.register v.op).1,
        { v.setPace c with checkpoints := { (v.setPace c).checkpoints with
            register := (Register.perform c.checkpoints.register v.op).2 } }) := rfl
  rw [hrun, Routine.run_bind_of_eq htable]
  cases Site.checkpointNote? v.me.owner v.op (Register.perform c.checkpoints.register v.op).1 <;>
    exact ⟨rfl, rfl⟩

/-- The second cluster has a server that does not fail, whose bucket mirrors the register of the first. -/
def Alike (name : String) (c₁ c₂ : Cluster) : Prop :=
  ∃ b read write, c₂.checkpoints.server = some (.unhurried name b read write) ∧
    Mirrors b c₁.checkpoints.register

variable {c₁ c₂ : Cluster}

theorem Alike.run (h : Alike name c₁ c₂) {v : Visit} (hroom : v.op.HasRoom)
    (hcancel : v.cancel.fired (v.run .bucket c₂).2.elapsed = false) :
    (∃ answer, (v.run .register c₁).1 = some answer ∧
        (v.run .bucket c₂).1 = some (answer.mapError (.ofStore name))) ∧
      Alike name (v.run .register c₁).2 (v.run .bucket c₂).2 := by
  obtain ⟨b, read, write, hserver, hmirrors⟩ := h
  have hpace : (v.setPace c₂).server? .checkpoints =
      some (.unhurried name b v.readLatency v.writeLatency) := by
    simp only [setPace, Cluster.setFaults, Cluster.server?, Vault.setFaults, hserver]
    rfl
  obtain ⟨x, c', b', hrun, hserver', -, hx⟩ := Routine.exists_run_client v.me.owner hpace v.cancel
    .epoch (Bucketed.asks_untimed v.op)
  have hrun : v.run .bucket c₂ = (some x, c') := hrun
  rw [hrun] at hcancel ⊢
  obtain ⟨rfl, rfl⟩ := hx hcancel
  obtain ⟨hanswer, hregister⟩ := v.run_register c₁
  obtain ⟨halike, hmirrors'⟩ := result_perform name .epoch hmirrors hroom
  rw [hanswer, Alike, hregister, halike]
  exact ⟨⟨_, rfl, rfl⟩, _, _, _, hserver', hmirrors'⟩

/-- None of the visits is cancelled by the time it is over. -/
def Undisturbed : List Visit → Cluster → Prop
  | [], _ => True
  | v :: vs, c => v.cancel.fired (v.run .bucket c).2.elapsed = false ∧ Undisturbed vs (v.run .bucket c).2

instance Undisturbed.decidable : (vs : List Visit) → (c : Cluster) → Decidable (Undisturbed vs c)
  | [], _ => .isTrue trivial
  | v :: vs, c =>
    have := decidable vs (v.run .bucket c).2
    inferInstanceAs (Decidable (_ ∧ _))

theorem undisturbed_append {vs us : List Visit} {c : Cluster} :
    Undisturbed (vs ++ us) c ↔ Undisturbed vs c ∧ Undisturbed us (after .bucket vs c) := by
  induction vs generalizing c with
  | nil => simp [Undisturbed, after]
  | cons v vs ih => simp [Undisturbed, after, Visiting.run, ih, and_assoc]

end Visit

open Visit Visiting

/--
Stores that are empty to begin with, one in a register and one in a bucket, whose server does not fail
but may take any time for each visit: after any series of visits that are not cancelled the next visit is
answered alike, but for the name that an error gives to the store, and after it the bucket has as records
exactly the checkpoints of the register.
-/
theorem engines_agree_on_checkpoints {c : Cluster}
    (hserver : c.checkpoints.server = some ⟨name, b, {}⟩) (hempty : b.entries = .empty)
    (hregister : c.checkpoints.register = if b.created then some .empty else none)
    (vs : List Visit) (v : Visit) (hroom : ∀ u ∈ vs ++ [v], u.op.HasRoom)
    (hcancel : Undisturbed (vs ++ [v]) c) :
    (∃ answer, (v.run .register (after .register vs c)).1 = some answer ∧
      (v.run .bucket (after .bucket vs c)).1 = some (answer.mapError (.ofStore name))) ∧
    ((after .bucket (vs ++ [v]) c).bucket .checkpoints).decoded =
      (after .register (vs ++ [v]) c).checkpoints.register.map (·.map some) := by
  have hstart : Alike name c c := by
    refine ⟨b, 0, 0, hserver, ?_⟩
    rw [hregister]
    cases hcreated : b.created with
    | false => exact mirrors_none_iff.2 ⟨hcreated, hempty⟩
    | true => exact mirrors_some_iff.2 ⟨hcreated, by rw [hempty]; rfl⟩
  obtain ⟨hcancels, hcancel, -⟩ := undisturbed_append.1 hcancel
  obtain ⟨hrooms, hroom⟩ := List.forall_mem_append.1 hroom
  have halike : Alike name (after .register vs c) (after .bucket vs c) := by
    refine alike_after hstart fun us u hus h => ?_
    obtain ⟨rest, rfl⟩ := hus
    obtain ⟨-, hcancel, -⟩ := undisturbed_append.1 (undisturbed_append.1 hcancels).1
    exact (h.run (hrooms u (by simp)) hcancel).2
  obtain ⟨hanswer, b', read, write, hserver', hmirrors⟩ := halike.run (hroom v List.mem_cons_self) hcancel
  refine ⟨hanswer, ?_⟩
  rw [after_append_singleton, after_append_singleton]
  refine Eq.trans ?_ hmirrors.decoded_eq
  simp only [Visiting.run, Cluster.bucket, Cluster.server?, hserver']
  rfl

/-- Progress is put under "0" in the name of "1"; then the store is wiped, and a position comes too late. -/
def wipedOnce : List Visit :=
  let a : Lease.Claimant := ⟨"a", .ofSeconds 30⟩
  [⟨a, 0, 0, .never, .ensureStore⟩,
    ⟨a, 2, 3, .firesAt 6, .ensure "0"⟩,
    ⟨⟨"b", .ofSeconds 30⟩, 2, 3, .firesAt 20, .update "0" ⟨"1", 41, "x", .latest⟩⟩,
    ⟨a, 0, 0, .never, .deleteStore⟩,
    ⟨a, 0, 0, .never, .ensureStore⟩,
    ⟨a, 0, 4, .never, .update "0" ⟨"0", 42, "y", .latest⟩⟩,
    ⟨a, 0, 0, .never, .ensure "0"⟩]

theorem engines_agree_on_checkpoints_wipedOnce :
    let c : Cluster := { checkpoints := { server := some { name := "checkpoints" } } }
    let v : Visit := ⟨⟨"b", .ofSeconds 30⟩, 7, 0, .firesAt 18, .get "0"⟩
    (∃ answer, (v.run .register (after .register wipedOnce c)).1 = some answer ∧
      (v.run .bucket (after .bucket wipedOnce c)).1 = some (answer.mapError (.ofStore "checkpoints"))) ∧
    ((after .bucket (wipedOnce ++ [v]) c).bucket .checkpoints).decoded =
      (after .register (wipedOnce ++ [v]) c).checkpoints.register.map (·.map some) :=
  engines_agree_on_checkpoints rfl rfl rfl wipedOnce _ (by simp [wipedOnce, Operation.HasRoom])
    (by decide +kernel)

end PartitionHost.Checkpoint
