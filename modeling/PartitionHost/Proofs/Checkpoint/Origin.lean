import PartitionHost.Proofs.Checkpoint.Seeding
import PartitionHost.Proofs.Lease.Origin

/-!
# Where stored records come from

A checkpoint that is stored was stored before, or was just put there as the start of the stream by whoever
ensured it, or was just moved from the one that it replaced (`Checkpoint.origin`). With what is known of
leases this says of all records that each stays under the name of its partition, and that one which was
removed is never brought back: nothing but ensuring brings a key into a store
(`records_stay_under_their_keys`). Whoever read a record before it was removed finds nothing to write over,
or, where it was ensured again, writes over what was ensured.
-/

namespace PartitionHost

open Record Cluster

variable {ι : Type}

def Cluster.KeepsCheckpoint (kind : Site.StoreKind) (c : Cluster) (p : String) (k : Checkpoint) : Prop :=
  match kind with
  | .register => c.checkpoints.register.bind (·.get? p) = some k
  | .bucket => (c.bucket .checkpoints).value? p = some (encode k)

/--
The checkpoint of a partition is ensured, and put there as the start of the stream unless the store is a
register that has one.
-/
def Event.EnsuresCheckpoint (kind : Site.StoreKind) (p : String) (ev : Event ι) : Prop :=
  ev.action.UsesCheckpoint (.ensure p) ∧
    match kind with
    | .register => ev.request = .checkpointTable (.ensure p)
    | .bucket => ev.Created .checkpoints p (encode (Checkpoint.startOfStream p))

theorem Cluster.Drifts.keepsCheckpoint {kind : Site.StoreKind} {c c' : Cluster} {p : String}
    {k : Checkpoint} (h : c.Drifts c') : c'.KeepsCheckpoint kind p k ↔ c.KeepsCheckpoint kind p k := by
  cases kind with
  | register => rw [KeepsCheckpoint, KeepsCheckpoint, h.checkpointRegister]
  | bucket => rw [KeepsCheckpoint, KeepsCheckpoint, h.bucket]

/-! ## Checkpoints -/

namespace Checkpoint

namespace Register

variable {r : Register Checkpoint} {op : Operation} {p q : String} {k : Checkpoint}

/-- How an operation may leave a checkpoint under a name in a register. -/
inductive Left (r : Register Checkpoint) (op : Operation) (q : String) : Checkpoint → Prop where
  | kept {k : Checkpoint} (h : r.bind (·.get? q) = some k) : Left r op q k
  | created (hop : op = .ensure q) : Left r op q (startOfStream q)
  | moved {old position : Checkpoint} (hold : r.bind (·.get? q) = some old)
      (hop : op = .update q position) : Left r op q (position.forPartition q)

theorem left_of_perform (h : (perform r op).2.bind (·.get? q) = some k) : Left r op q k := by
  cases r with
  | none =>
      cases op with
      | ensureStore =>
          change Table.empty.get? q = some k at h
          cases h
      | _ => cases h
  | some t =>
      cases op with
      | storeExists => exact .kept h
      | ensureStore => exact .kept h
      | deleteStore => cases h
      | get p => exact .kept h
      | ensure p =>
          change (PartitionHost.Register.ensure t p (startOfStream p)).2.get? q = some k at h
          unfold PartitionHost.Register.ensure at h
          split at h
          · exact .kept h
          · rw [Table.get?_insert] at h
            split at h
            · rename_i hq
              subst hq
              cases h
              exact .created rfl
            · exact .kept h
      | update p position =>
          change (if t.contains p then (_, t.insert p (position.forPartition p)) else (_, t)).2.get? q =
            some k at h
          split at h
          · rename_i hthere
            rw [Table.get?_insert] at h
            split at h
            · rename_i hq
              subst hq
              cases h
              obtain ⟨old, hold⟩ := Option.isSome_iff_exists.1 hthere
              exact .moved hold rfl
            · exact .kept h
          · exact .kept h
      | delete p =>
          change (t.erase p).get? q = some k at h
          rw [Table.get?_erase] at h
          split at h
          · cases h
          · exact .kept h

end Register

/-- How something comes to be in the checkpoint store of a kind, under a partition, after an event. -/
inductive Origin (kind : Site.StoreKind) (ev : Event ι) (c : Cluster) (p : String) : Prop where
  | kept (h : ev.before.HasCheckpoint kind p)
      (hsame : ∀ k, ev.before.KeepsCheckpoint kind p k → c.KeepsCheckpoint kind p k) :
      Origin kind ev c p
  | ensured (h : ev.EnsuresCheckpoint kind p) (hc : c.KeepsCheckpoint kind p (startOfStream p)) :
      Origin kind ev c p
  | moved (position : Checkpoint) (h : ev.Moved kind p position) : Origin kind ev c p

variable {kind : Site.StoreKind} {fleet : Fleet ι} {init : Cluster} {w : World ι} {ev : Event ι}
  {c : Cluster} {host p : String} {position : Checkpoint}

/-- Whoever moves a checkpoint finds one there, and leaves the position in the name of its partition. -/
theorem keeps_of_moved (hx : Answers host ev.before ev.request ev.answer c)
    (hmoved : ev.Moved kind p position) :
    ev.before.HasCheckpoint kind p ∧ c.KeepsCheckpoint kind p (position.forPartition p) := by
  obtain ⟨g, ⟨request, answer⟩, before⟩ := ev
  cases kind with
  | register =>
      cases hmoved
      obtain rfl : c = (before.checkpointTable (.update p position)).2 := congrArg Prod.snd hx
      have hok : .ok () = (before.checkpointTable (.update p position)).1 := congrArg Prod.fst hx
      have hstored := Register.get?_of_update hok.symm
      refine ⟨?_, hstored⟩
      have hleft := Register.left_of_perform hstored
      generalize position.forPartition p = k at hleft
      cases hleft with
      | kept h => exact ⟨_, h⟩
      | created hop => cases hop
      | moved hold _ => exact ⟨_, hold⟩
  | bucket =>
      have hvalue := hx.value?_eq .checkpoints p
      rw [Exchange.Updated.outcome?_eq hmoved] at hvalue
      refine ⟨?_, hvalue⟩
      obtain ⟨revision, n, hcall⟩ := hmoved
      have heffect := hx.effect .checkpoints
      rw [hcall] at heffect
      obtain ⟨stored, hstored, -, -⟩ := Bucket.Effect.of_written heffect
      exact ⟨stored.value, by rw [Bucket.value?, hstored]; rfl⟩

theorem origin_of_register (hallowed : Allowed ev.action.UsesCheckpoint ev.request)
    (hx : Answers host ev.before ev.request ev.answer c) (hp : c.HasCheckpoint .register p) :
    Origin .register ev c p := by
  obtain ⟨k, hk⟩ := hp
  obtain ⟨g, ⟨request, answer⟩, before⟩ := ev
  by_cases hr : ∃ op, request = .checkpointTable op
  · obtain ⟨op, rfl⟩ := hr
    obtain rfl : c = (before.checkpointTable op).2 := congrArg Prod.snd hx
    have hanswer : answer = (before.checkpointTable op).1 := congrArg Prod.fst hx
    cases Register.left_of_perform hk with
    | kept h =>
        refine .kept ⟨k, h⟩ fun k' hk' => ?_
        obtain rfl : k = k' := Option.some.inj (h.symm.trans hk')
        exact hk
    | created hop => exact .ensured ⟨hop ▸ hallowed, congrArg _ hop⟩ hk
    | @moved _ position hold hop =>
        subst hop
        have hok := Register.update_eq_ok hold position
        exact .moved position (congrArg (Exchange.mk (I := Site) _) (hanswer.trans hok))
  · have hsame := hx.frame.checkpointRegister fun op hop => hr ⟨op, hop⟩
    rw [hsame] at hk
    refine .kept ⟨k, hk⟩ fun k' hk' => ?_
    rw [Cluster.KeepsCheckpoint, hsame]
    exact hk'

theorem origin_of_bucket (hallowed : Allowed ev.action.UsesCheckpoint ev.request)
    (hx : Answers host ev.before ev.request ev.answer c) (hp : c.HasCheckpoint .bucket p) :
    Origin .bucket ev c p := by
  obtain ⟨value, hvalue⟩ := hp
  have heq := hx.value?_eq .checkpoints p
  cases hput : ev.outcome? .checkpoints p with
  | none =>
      rw [show (Exchange.mk ev.request ev.answer).outcome? .checkpoints p = _ from hput,
        Option.getD_none] at heq
      exact .kept ⟨value, heq.symm.trans hvalue⟩ fun k hk => heq.trans hk
  | some put =>
      rw [show (Exchange.mk ev.request ev.answer).outcome? .checkpoints p = _ from hput,
        Option.getD_some, hvalue] at heq
      subst heq
      obtain ⟨g, ⟨request, answer⟩, before⟩ := ev
      rcases Exchange.updated_or_created hput with hupdated | hcreated
      · obtain ⟨cancel, revision, hrequest⟩ := hupdated.request_eq
        cases hrequest
        obtain ⟨position, -, rfl⟩ := hallowed
        exact .moved position hupdated
      · obtain ⟨n, hcall⟩ := hcreated
        obtain ⟨cancel, hexchange⟩ := Exchange.eq_of_call?_checkpoints hcall
        cases hexchange
        obtain ⟨huses, rfl⟩ := hallowed
        exact .ensured ⟨huses, n, rfl⟩ hvalue

theorem origin (hallowed : Allowed ev.action.UsesCheckpoint ev.request)
    (hx : Answers host ev.before ev.request ev.answer c) (hp : c.HasCheckpoint kind p) :
    Origin kind ev c p := by
  cases kind with
  | register => exact origin_of_register hallowed hx hp
  | bucket => exact origin_of_bucket hallowed hx hp

theorem has_or (hallowed : Allowed ev.action.UsesCheckpoint ev.request)
    (hx : Answers host ev.before ev.request ev.answer c) (hp : c.HasCheckpoint kind p) :
    ev.before.HasCheckpoint kind p ∨
      ev.EnsuresCheckpoint kind p ∧ c.KeepsCheckpoint kind p (startOfStream p) := by
  cases origin hallowed hx hp with
  | kept h _ => exact .inl h
  | ensured h hc => exact .inr ⟨h, hc⟩
  | moved _ h => exact .inl (keeps_of_moved hx h).1

theorem exists_keeps (hw : w.Grows fleet init) (hempty : ¬ init.HasCheckpoint kind p)
    (hallowed : ∀ ev ∈ w.history, Allowed ev.action.UsesCheckpoint ev.request)
    (hp : w.cluster.HasCheckpoint kind p) : ∃ k, w.cluster.KeepsCheckpoint kind p k ∧ k.partition = p := by
  induction hw with
  | start => exact absurd hp hempty
  | drift hw hc ih =>
      obtain ⟨k, hk, hpartition⟩ := ih hallowed (hc.hasCheckpoint.1 hp)
      exact ⟨k, hc.keepsCheckpoint.2 hk, hpartition⟩
  | @exchange w hw g r x c hx ih =>
      obtain ⟨hev, hallowed⟩ := List.forall_mem_cons.1 hallowed
      have horigin : Origin kind (⟨g, ⟨r, x⟩, w.cluster⟩ : Event ι) c p := origin hev hx hp
      cases horigin with
      | kept h hsame =>
          obtain ⟨k, hk, hpartition⟩ := ih hallowed h
          exact ⟨k, hsame k hk, hpartition⟩
      | ensured _ hc => exact ⟨_, hc, rfl⟩
      | moved position h =>
          have hstored := @keeps_of_moved ι kind ⟨g, ⟨r, x⟩, w.cluster⟩ c _ p position hx h
          exact ⟨_, hstored.2, rfl⟩

end Checkpoint

/-! ## Records under their keys -/

/-- What the stores of a kind have under a key after an event comes from what they had before it. -/
structure Event.KeepsKey (kind : Site.StoreKind) (fleet : Fleet ι) (older : List (Event ι)) (ev : Event ι)
    (c : Cluster) (p : String) : Prop where
  lease : c.HasLease kind p →
    ev.before.HasLease kind p ∨ ev.EnsuresLease kind p ∧ c.Keeps kind p (.unowned p)
  checkpoint : c.HasCheckpoint kind p →
    ev.before.HasCheckpoint kind p ∨
      ev.EnsuresCheckpoint kind p ∧ c.KeepsCheckpoint kind p (.startOfStream p)
  /-- A lease is written only over the one that it was made from. -/
  put : ∀ l', ev.Puts kind p l' →
    ∃ op l t, Lease.Made kind fleet older ev p op l t l' ∧ ev.before.Keeps kind p l ∧ c.Keeps kind p l'
  /-- A position is written only over another one, and in the name of the partition. -/
  moved : ∀ position, ev.Moved kind p position →
    ev.before.HasCheckpoint kind p ∧ c.KeepsCheckpoint kind p (position.forPartition p)

variable [DecidableEq ι] {fleet : Fleet ι} {may : ι → Action → Prop} {init : Cluster} {s : State ι}

/--
In stores that were empty once, whatever was asked of them by whomever and however it failed: every record is
one of the partition under whose name it is stored, a key comes into a store only when it is ensured, and
what is written over a record finds one there at that moment.
-/
theorem records_stay_under_their_keys
    (hempty : ∀ kind p, ¬ init.HasLease kind p ∧ ¬ init.HasCheckpoint kind p)
    (hs : Reachable fleet may init s) :
    (∀ kind p, (s.world.cluster.HasLease kind p →
        ∃ l, s.world.cluster.Keeps kind p l ∧ l.partition = p) ∧
      (s.world.cluster.HasCheckpoint kind p →
        ∃ k, s.world.cluster.KeepsCheckpoint kind p k ∧ k.partition = p)) ∧
    ∀ newer ev older, s.world.history = newer ++ ev :: older →
      ∃ c, Answers (fleet ev.who).me.owner ev.before ev.request ev.answer c ∧
        World.Grows fleet c ⟨s.world.cluster, newer⟩ ∧
        ∀ kind p, ev.KeepsKey kind fleet older c p := by
  have hs := hs.attainable
  have hgrows := hs.grows
  have hlaw : Lawful fleet.discipline s.world.history :=
    (hs.lawful fun i a _ => (fleet i).along_discipline a).1
  have hallowed : ∀ ev ∈ s.world.history, Checkpoint.Allowed ev.action.UsesCheckpoint ev.request :=
    fun ev hev => hs.asked_of_mem (fun i a _ => (fleet i).asks_allowed a) hev
  have hleases : ∀ kind p, ¬ init.HasLease kind p := fun kind p => (hempty kind p).1
  refine ⟨fun kind p => ⟨Lease.exists_keeps hgrows (hleases kind) hlaw, ?_⟩, ?_⟩
  · exact Checkpoint.exists_keeps hgrows (hempty kind p).2 hallowed
  · intro newer ev older hhistory
    obtain ⟨-, c, hx, hafter⟩ := hgrows.before hhistory
    refine ⟨c, hx, hafter, fun kind p => ⟨?_, ?_, fun l' hput => ?_, fun position hmoved => ?_⟩⟩
    · exact Lease.hasLease_or hgrows (sound_of_not_hasLease (hleases .bucket)) hlaw hhistory hx
    · exact Checkpoint.has_or (hallowed ev (by simp [hhistory])) hx
    · obtain ⟨op, l, t, hmade, hl⟩ := Lease.exists_replaced hgrows hleases hlaw hhistory hput
      exact ⟨op, l, t, hmade, hl, Lease.keeps_of_puts hx hput⟩
    · exact Checkpoint.keeps_of_moved hx hmoved

/--
Host a reads a lease to acquire it, and host b removes it and ensures it again. Host a is refused what it
writes, reads again and acquires what was ensured. Then it records a position of another partition.
-/
def ensuredAgain : State Bool :=
  play (.pair .bucket) .ofBuckets <| List.flatten
    [[.begin true (.lease .never (.ensure "0"))], .replicate 2 (.answer true),
      [.begin false (.lease .never (.acquire "0")), .answer false],
      [.begin true (.lease .never (.delete "0")), .answer true],
      [.begin true (.lease .never (.ensure "0"))], .replicate 2 (.answer true),
      .replicate 3 (.answer false),
      [.begin true (.checkpoint .never (.ensure "0"))], .replicate 2 (.answer true),
      [.begin false (.checkpoint .never (.update "0" ⟨"1", 5, "50", .epoch⟩))],
      .replicate 2 (.answer false)]

theorem reachable_ensuredAgain :
    Reachable (.pair .bucket) (fun _ a => ¬ a.IsOfHost) .ofBuckets ensuredAgain :=
  reachable_play (by simp [Cue.IsAllowed, Action.IsOfHost])

theorem records_stay_under_their_keys_ensuredAgain :
    (∃ l, ensuredAgain.world.cluster.Keeps .bucket "0" l ∧ l.partition = "0") ∧
    (∃ k, ensuredAgain.world.cluster.KeepsCheckpoint .bucket "0" k ∧ k.partition = "0") ∧
    ∃ newer ev older c, ensuredAgain.world.history = newer ++ ev :: older ∧
      World.Grows (.pair .bucket) c ⟨ensuredAgain.world.cluster, newer⟩ ∧
      ¬ ev.before.HasLease .bucket "0" ∧ ev.EnsuresLease .bucket "0" ∧ c.Keeps .bucket "0" (.unowned "0") := by
  have hempty : ∀ kind p, ¬ ofBuckets.HasLease kind p ∧ ¬ ofBuckets.HasCheckpoint kind p := by
    refine fun kind p => ⟨not_hasLease_ofBuckets kind p, ?_⟩
    cases kind with
    | register => rintro ⟨k, ⟨⟩⟩
    | bucket => rintro ⟨value, ⟨⟩⟩
  obtain ⟨hstored, hevents⟩ := records_stay_under_their_keys hempty reachable_ensuredAgain
  refine ⟨(hstored .bucket "0").1 ?_, (hstored .bucket "0").2 ?_, ?_⟩
  · exact Option.isSome_iff_exists.1 (by decide +kernel)
  · exact Option.isSome_iff_exists.1 (by decide +kernel)
  · have hagain : (ensuredAgain.world.history.drop 8).head?.any (fun ev =>
        ((ev.before.bucket .leases).value? "0").isNone &&
          ((ev.outcome? .leases "0").getD none).isSome) = true := by
      decide +kernel
    obtain ⟨ev, hev, hfacts⟩ := (Option.any_eq_true _ _).1 hagain
    simp only [Bool.and_eq_true, Option.isNone_iff_eq_none] at hfacts
    obtain ⟨hnone, hput⟩ := hfacts
    obtain ⟨older, hdrop⟩ := List.head?_eq_some_iff.1 hev
    have hhistory : ensuredAgain.world.history = ensuredAgain.world.history.take 8 ++ ev :: older := by
      rw [← hdrop, List.take_append_drop]
    obtain ⟨c, hx, hafter, hkey⟩ := hevents _ ev older hhistory
    have hbefore : ¬ ev.before.HasLease .bucket "0" := by
      rintro ⟨value, hvalue⟩
      cases hnone.symm.trans hvalue
    have hthere : c.HasLease .bucket "0" := by
      have hvalue := hx.value?_eq .leases "0"
      cases hout : ev.outcome? .leases "0" with
      | none =>
          rw [hout] at hput
          cases hput
      | some out =>
          rw [hout] at hput
          obtain ⟨value, rfl⟩ := Option.isSome_iff_exists.1 hput
          rw [show (Exchange.mk ev.request ev.answer).outcome? .leases "0" = _ from hout] at hvalue
          exact ⟨value, hvalue⟩
    exact ⟨_, ev, older, c, hhistory, hafter, hbefore, ((hkey .bucket "0").lease hthere).resolve_left hbefore⟩

end PartitionHost
