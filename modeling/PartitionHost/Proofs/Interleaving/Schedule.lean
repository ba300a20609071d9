import PartitionHost.Proofs.Bucket.Effect
import PartitionHost.Proofs.Interleaving.Run
import PartitionHost.Proofs.Time.TimestampOrder

/-!
# Schedules: runs that can be computed

A schedule says who goes on when. Playing it makes one of the runs that are possible, in which no call is
cancelled and the management nodes answer from their snapshots (`reachable_play`).
-/

namespace PartitionHost

/-- What is to happen next in a run. -/
inductive Cue (ι : Type) where
  | begin (who : ι) (a : Action)
  /-- The request that somebody waits for is answered. -/
  | answer (who : ι)
  /-- So much time passes. -/
  | pass (d : Duration)

def Cue.IsAllowed {ι : Type} (may : ι → Action → Prop) : Cue ι → Prop
  | .begin who a => may who a
  | _ => True

namespace Cluster

/-- What a cluster answers to a request when nothing stands in the way. -/
def serve (host : String) (c : Cluster) : (r : Site.Request) → r.Answer × Cluster
  | .leaseTable me op => c.leaseTable me op
  | .checkpointTable op => c.checkpointTable op
  | .leaseBucket _ call =>
    ((c.call .leases call).1.mapError Bucket.Failure.toError, (c.call .leases call).2)
  | .checkpointBucket _ call =>
    ((c.call .checkpoints call).1.mapError Bucket.Failure.toError, (c.call .checkpoints call).2)
  | .enquire _ q => (some ((c.member host).node.snapshot.answer q), c)
  | .now => (c.now, c)
  | .elapsed => (c.elapsed, c)
  | .wait _ _ => (.due, c)
  | .owned => ((c.member host).owned, c)
  | .own partition lease => ((), c.own host partition lease)
  | .disown partition => c.disown host partition
  | .announce _ => ((), c)
  | .note n => ((), { c with notes := n :: c.notes })

theorem answers_serve (host : String) (c : Cluster) (r : Site.Request) :
    Answers host c r (c.serve host r).1 (c.serve host r).2 := by
  cases r with
  | leaseBucket cancel call => exact .served (.same _)
  | checkpointBucket cancel call => exact .served (.same _)
  | _ => rfl

end Cluster

theorem Cluster.drifts_advance (c : Cluster) (d : Duration) : c.Drifts (c.advance d) := by
  refine ⟨?_, rfl, rfl, fun store => by cases store <;> rfl, fun _ => rfl⟩
  refine Timestamp.ofNanos_mono ?_
  simp only [advance]
  omega

variable {ι : Type} [DecidableEq ι]

/-- The state after what a cue says; a cue that does not fit changes nothing. -/
def Cue.play (fleet : Fleet ι) (s : State ι) : Cue ι → State ι
  | .begin who a =>
    match s.busy who with
    | none =>
      (s.begin who a ((fleet who).task a)).goOn (fleet who).me.owner ⟨who, s.begun, a⟩
        ((fleet who).task a)
    | some _ => s
  | .answer who =>
    match s.busy who with
    | some ⟨number, a, .ask r resume⟩ =>
      let (x, c) := s.world.cluster.serve (fleet who).me.owner r
      (s.record ⟨who, number, a⟩ ⟨r, x⟩ c).goOn (fleet who).me.owner ⟨who, number, a⟩ (resume x)
    | _ => s
  | .pass d => s.drift (s.world.cluster.advance d)

def play (fleet : Fleet ι) (init : Cluster) (cues : List (Cue ι)) : State ι :=
  cues.foldl (Cue.play fleet) (.start init)

variable {fleet : Fleet ι} {may : ι → Action → Prop} {init : Cluster}

theorem Reachable.play_cue {s : State ι} (hs : Reachable fleet may init s) {cue : Cue ι}
    (h : cue.IsAllowed may) : Reachable fleet may init (cue.play fleet s) := by
  cases cue with
  | begin who a =>
      rw [Cue.play]
      split
      · rename_i hidle
        exact hs.step (.begin who a h hidle)
      · exact hs
  | answer who =>
      rw [Cue.play]
      split
      · rename_i hbusy
        exact hs.step (.answer who hbusy (Cluster.answers_serve ..))
      · exact hs
  | pass d => exact hs.step (.drift (Cluster.drifts_advance ..))

theorem reachable_play {cues : List (Cue ι)} (h : ∀ cue ∈ cues, cue.IsAllowed may) :
    Reachable fleet may init (play fleet init cues) := by
  have hfold : ∀ s, Reachable fleet may init s →
      Reachable fleet may init (cues.foldl (Cue.play fleet) s) := by
    induction cues with
    | nil => exact fun s hs => hs
    | cons cue cues ih =>
        intro s hs
        exact ih (fun cue hcue => h cue (List.mem_cons_of_mem _ hcue)) _
          (hs.play_cue (h cue List.mem_cons_self))
  exact hfold _ .start

/-! ## Hosts for schedules -/

/-- Hosts a and b, with leases of half a minute. -/
def Fleet.pair (kind : Site.StoreKind) : Fleet Bool := fun who =>
  ⟨⟨if who then "b" else "a", .ofSeconds 30⟩, kind, kind, {}⟩

/-- A cluster with buckets that are created and empty, before anything has happened. -/
def Cluster.ofBuckets : Cluster where
  leases := { server := some { name := "leases", bucket := { created := true } } }
  checkpoints := { server := some { name := "checkpoints", bucket := { created := true } } }

/-- A cluster with buckets in which one partition is prepared that has never been owned or processed. -/
def Cluster.ofPartition (p : String) : Cluster where
  leases := { server := some {
    name := "leases"
    bucket := Bucket.write { created := true } p (Record.encode (Lease.unowned p)) } }
  checkpoints := { server := some {
    name := "checkpoints"
    bucket := Bucket.write { created := true } p (Record.encode (Checkpoint.startOfStream p)) } }

theorem Cluster.sound_ofPartition (p : String) (store : StoreName) :
    ((ofPartition p).bucket store).Sound := by
  cases store with
  | leases => exact (Bucket.evolves_write _ _ _).sound (Bucket.sound_of_empty rfl)
  | checkpoints => exact (Bucket.evolves_write _ _ _).sound (Bucket.sound_of_empty rfl)

/-- Empty buckets, and a hub with one partition of which the management node of host a knows. -/
def Cluster.ofHub : Cluster := ofBuckets.setNode "a" {
  snapshot := .ofParts ⟨"orders", .epoch, 1, ["0"]⟩ [⟨"orders", "0", 0, 100, "10000", .epoch⟩] }

end PartitionHost
