import PartitionHost.Proofs.Bucket.Effect
import PartitionHost.Proofs.Time.TimestampOrder

/-!
# Histories: what the past says of the present

In a world that has come about, every event was answered by the cluster before it (`Grows.before`), and what
that cluster had in its buckets is known from the events before: an entry is the one that was read if it is
still of that revision (`Grows.eq_of_read`).
-/

namespace PartitionHost

/-! ## Exchanges with a bucket -/

namespace Exchange

/-- The call on the bucket of a store and its answer, if the exchange is such. -/
def call? (store : StoreName) (x : Exchange Site) : Option (Σ c : Bucket.Call, Except Error c.Reply) :=
  match store, x with
  | .leases, ⟨.leaseBucket _ c, answer⟩ => some ⟨c, answer⟩
  | .checkpoints, ⟨.checkpointBucket _ c, answer⟩ => some ⟨c, answer⟩
  | _, _ => none

theorem eq_of_call?_leases {x : Exchange Site} {c : Bucket.Call} {answer : Except Error c.Reply}
    (h : x.call? .leases = some ⟨c, answer⟩) : ∃ cancel, x = ⟨.leaseBucket cancel c, answer⟩ := by
  obtain ⟨r, y⟩ := x
  cases r with
  | leaseBucket cancel c => cases h; exact ⟨cancel, rfl⟩
  | _ => cases h

theorem eq_of_call?_checkpoints {x : Exchange Site} {c : Bucket.Call}
    {answer : Except Error c.Reply} (h : x.call? .checkpoints = some ⟨c, answer⟩) :
    ∃ cancel, x = ⟨.checkpointBucket cancel c, answer⟩ := by
  obtain ⟨r, y⟩ := x
  cases r with
  | checkpointBucket cancel c => cases h; exact ⟨cancel, rfl⟩
  | _ => cases h

def Read (store : StoreName) (key : String) (e : Entry) (x : Exchange Site) : Prop :=
  x.call? store = some ⟨.entry key, .ok (some e)⟩

/-- A value was put over the one under a key. -/
def Updated (store : StoreName) (key : String) (value : Bytes) (x : Exchange Site) : Prop :=
  ∃ revision n, x.call? store = some ⟨.update key value revision, .ok (some n)⟩

def Created (store : StoreName) (key : String) (value : Bytes) (x : Exchange Site) : Prop :=
  ∃ n, x.call? store = some ⟨.create key value, .ok (some n)⟩

/-- What an exchange put under a key, or that it left nothing there; none if it did neither. -/
def outcome? (store : StoreName) (key : String) (x : Exchange Site) : Option (Option Bytes) :=
  match x.call? store with
  | some ⟨.update k value _, .ok (some _)⟩ => if k = key then some (some value) else none
  | some ⟨.create k value, .ok (some _)⟩ => if k = key then some (some value) else none
  | some ⟨.delete k, .ok _⟩ => if k = key then some none else none
  | some ⟨.drop, .ok _⟩ => some none
  | _ => none

theorem Updated.outcome?_eq {store : StoreName} {key : String} {value : Bytes} {x : Exchange Site}
    (h : x.Updated store key value) : x.outcome? store key = some (some value) := by
  obtain ⟨revision, n, h⟩ := h
  simp [outcome?, h]

theorem Updated.request_eq {key : String} {value : Bytes} {x : Exchange Site}
    (h : x.Updated .checkpoints key value) :
    ∃ cancel revision, x.request = .checkpointBucket cancel (.update key value revision) := by
  obtain ⟨revision, n, hcall⟩ := h
  obtain ⟨cancel, rfl⟩ := eq_of_call?_checkpoints hcall
  exact ⟨cancel, revision, rfl⟩

theorem Created.outcome?_eq {store : StoreName} {key : String} {value : Bytes} {x : Exchange Site}
    (h : x.Created store key value) : x.outcome? store key = some (some value) := by
  obtain ⟨n, h⟩ := h
  simp [outcome?, h]

theorem updated_or_created {store : StoreName} {key : String} {x : Exchange Site} {value : Bytes}
    (h : x.outcome? store key = some (some value)) :
    x.Updated store key value ∨ x.Created store key value := by
  unfold outcome? at h
  split at h
  · rename_i hcall
    split at h
    · rename_i hkey
      cases h
      exact .inl ⟨_, _, hkey ▸ hcall⟩
    · cases h
  · rename_i hcall
    split at h
    · rename_i hkey
      cases h
      exact .inr ⟨_, hkey ▸ hcall⟩
    · cases h
  · split at h <;> cases h
  · cases h
  · cases h

theorem deleted_or_dropped {store : StoreName} {key : String} {x : Exchange Site}
    (h : x.outcome? store key = some none) :
    x.call? store = some ⟨.delete key, .ok ()⟩ ∨ x.call? store = some ⟨.drop, .ok ()⟩ := by
  unfold outcome? at h
  split at h
  · split at h <;> cases h
  · split at h <;> cases h
  · rename_i hcall
    split at h
    · rename_i hkey
      exact .inl (hkey ▸ hcall)
    · cases h
  · rename_i hcall
    exact .inr hcall
  · cases h

end Exchange

namespace Bucket

def value? (b : Bucket) (key : String) : Option Bytes := (b.entries.get? key).map (·.value)

end Bucket

/-- What a host believes after a request, which believed in these leases before it. -/
def Site.Request.beliefs (t : Table Lease) : Site.Request → Table Lease
  | .own partition lease => t.insert partition lease
  | .disown partition => t.erase partition
  | _ => t

open Cluster
open Bucket (Effect)

namespace Cluster

variable {host : String} {c c' : Cluster} {r : Site.Request} {x : r.Answer}

theorem Answers.effect (h : Answers host c r x c') (store : StoreName) :
    match (Exchange.mk (I := Site) r x).call? store with
    | some ⟨call, answer⟩ => Effect (c.bucket store) call answer (c'.bucket store)
    | none => c'.bucket store = c.bucket store := by
  cases r with
  | leaseBucket cancel call =>
      have ha := Called.affects h
      cases store with
      | leases => exact ha.effect
      | checkpoints => exact ha.other _ (by decide)
  | checkpointBucket cancel call =>
      have ha := Called.affects h
      cases store with
      | leases => exact ha.other _ (by decide)
      | checkpoints => exact ha.effect
  | leaseTable me op =>
      obtain rfl : c' = (c.leaseTable me op).2 := congrArg Prod.snd h
      cases store <;> rfl
  | checkpointTable op =>
      obtain rfl : c' = (c.checkpointTable op).2 := congrArg Prod.snd h
      cases store <;> rfl
  | disown partition =>
      obtain rfl : c' = (c.disown host partition).2 := congrArg Prod.snd h
      cases store <;> rfl
  | own partition lease =>
      obtain rfl : c' = c.own host partition lease := h
      cases store <;> rfl
  | note n =>
      obtain rfl : c' = { c with notes := n :: c.notes } := h
      cases store <;> rfl
  | now | elapsed | owned =>
      obtain rfl : c' = c := congrArg Prod.snd h
      cases store <;> rfl
  | enquire | wait | announce =>
      obtain rfl : c' = c := h
      cases store <;> rfl

theorem Answers.evolves (h : Answers host c r x c') (store : StoreName) :
    (c.bucket store).Evolves (c'.bucket store) := by
  have he := h.effect store
  split at he
  · exact he.evolves
  · rw [he]
    exact .refl _

/-- What an exchange of a host changes, the buckets and the register of leases aside. -/
structure Frame (host : String) (r : Site.Request) (c c' : Cluster) : Prop where
  now : c'.now = c.now
  owned : (c'.member host).owned = r.beliefs (c.member host).owned
  owned_of_ne : ∀ other, other ≠ host → (c'.member other).owned = (c.member other).owned
  checkpointRegister : (∀ op, r ≠ .checkpointTable op) →
    c'.checkpoints.register = c.checkpoints.register

theorem frame_of_members (hnow : c'.now = c.now) (hmembers : c'.members = c.members)
    (hbeliefs : ∀ t, r.beliefs t = t)
    (hregister : (∀ op, r ≠ .checkpointTable op) →
      c'.checkpoints.register = c.checkpoints.register) : Frame host r c c' where
  now := hnow
  owned := by simp only [member, hmembers, hbeliefs]
  owned_of_ne _ _ := by simp only [member, hmembers]
  checkpointRegister := hregister

theorem frame_setMember {m : Member} (hbeliefs : m.owned = r.beliefs (c.member host).owned) :
    Frame host r c (c.setMember host m) where
  now := rfl
  owned := by rw [← hbeliefs]; simp [setMember, member]
  owned_of_ne other hne := by simp [setMember, member, hne]
  checkpointRegister _ := rfl

theorem Answers.frame (h : Answers host c r x c') : Frame host r c c' := by
  cases r with
  | leaseBucket cancel call =>
      have ha := Called.affects h
      exact frame_of_members ha.now ha.members (fun _ => rfl) fun _ => ha.checkpointRegister
  | checkpointBucket cancel call =>
      have ha := Called.affects h
      exact frame_of_members ha.now ha.members (fun _ => rfl) fun _ => ha.checkpointRegister
  | leaseTable me op =>
      obtain rfl : c' = (c.leaseTable me op).2 := congrArg Prod.snd h
      exact frame_of_members rfl rfl (fun _ => rfl) fun _ => rfl
  | checkpointTable op =>
      obtain rfl : c' = (c.checkpointTable op).2 := congrArg Prod.snd h
      exact frame_of_members rfl rfl (fun _ => rfl) fun hop => absurd rfl (hop op)
  | disown partition =>
      obtain rfl : c' = (c.disown host partition).2 := congrArg Prod.snd h
      exact frame_setMember rfl
  | own partition lease =>
      obtain rfl : c' = c.own host partition lease := h
      exact frame_setMember rfl
  | note n =>
      obtain rfl : c' = { c with notes := n :: c.notes } := h
      exact frame_of_members rfl rfl (fun _ => rfl) fun _ => rfl
  | now | elapsed | owned =>
      obtain rfl : c' = c := congrArg Prod.snd h
      exact frame_of_members rfl rfl (fun _ => rfl) fun _ => rfl
  | enquire | wait | announce =>
      obtain rfl : c' = c := h
      exact frame_of_members rfl rfl (fun _ => rfl) fun _ => rfl

end Cluster

namespace Bucket

theorem Effect.value?_eq {b b' : Bucket} {c : Call} {x : Except Error c.Reply} (h : Effect b c x b')
    {store : StoreName} {e : Exchange Site} (he : e.call? store = some ⟨c, x⟩) (key : String) :
    b'.value? key = (e.outcome? store key).getD (b.value? key) := by
  unfold Exchange.outcome?
  rw [he]
  cases h with
  | @created k value hnone =>
      by_cases hk : k = key
      · simp [value?, get?_write, hk]
      · simp [value?, get?_write, hk, Ne.symm hk]
  | @written k value revision s hsome hrevision =>
      by_cases hk : k = key
      · simp [value?, get?_write, hk]
      · simp [value?, get?_write, hk, Ne.symm hk]
  | deleted k =>
      by_cases hk : k = key
      · simp [value?, get?_delete, hk]
      · simp [value?, get?_delete, hk, Ne.symm hk]
  | dropped => simp [value?]
  | beaten value revision => exact value_touch b _ key
  | failed e => cases c <;> rfl
  | _ => rfl

end Bucket

theorem Cluster.Answers.value?_eq {host : String} {c c' : Cluster} {r : Site.Request} {x : r.Answer}
    (h : Answers host c r x c') (store : StoreName) (key : String) :
    (c'.bucket store).value? key =
      ((Exchange.mk (I := Site) r x).outcome? store key).getD ((c.bucket store).value? key) := by
  have he := h.effect store
  split at he
  · rename_i call answer hcall
    exact he.value?_eq hcall key
  · rename_i hcall
    simp only [Exchange.outcome?, hcall, Option.getD_none, he]

namespace World.Grows

variable {ι : Type} {fleet : Fleet ι} {init : Cluster} {w : World ι}

theorem evolves (h : w.Grows fleet init) (store : StoreName) :
    (init.bucket store).Evolves (w.cluster.bucket store) := by
  induction h with
  | start => exact .refl _
  | drift _ hc ih => rw [hc.bucket]; exact ih
  | exchange _ g hx ih => exact ih.trans (hx.evolves store)

/-- What there was before an event, how it was answered, and how the world went on from there. -/
theorem before {newer older : List (Event ι)} {ev : Event ι} (h : w.Grows fleet init)
    (hw : w.history = newer ++ ev :: older) :
    World.Grows fleet init ⟨ev.before, older⟩ ∧
      ∃ c, Answers (fleet ev.who).me.owner ev.before ev.request ev.answer c ∧
        World.Grows fleet c ⟨w.cluster, newer⟩ := by
  induction h generalizing newer with
  | start => simp at hw
  | drift _ hc ih =>
      obtain ⟨hbefore, c, hx, hafter⟩ := ih hw
      exact ⟨hbefore, c, hx, hafter.drift hc⟩
  | exchange hw' g hx ih =>
      cases newer with
      | nil =>
          simp only [World.record, List.nil_append, List.cons.injEq] at hw
          obtain ⟨rfl, rfl⟩ := hw
          exact ⟨hw', _, hx, .start⟩
      | cons ev' newer =>
          simp only [World.record, List.cons_append, List.cons.injEq] at hw
          obtain ⟨rfl, hw⟩ := hw
          obtain ⟨hbefore, c, hx', hafter⟩ := ih hw
          exact ⟨hbefore, c, hx', hafter.exchange g hx⟩

theorem updated_of_outcome {newer older : List (Event ι)} {ev : Event ι} (h : w.Grows fleet init)
    (hw : w.history = newer ++ ev :: older) {store : StoreName} {key : String} {value old : Bytes}
    (hev : ev.outcome? store key = some (some value))
    (hold : (ev.before.bucket store).value? key = some old) : ev.Updated store key value := by
  rcases Exchange.updated_or_created hev with hev | ⟨n, hev⟩
  · exact hev
  · obtain ⟨-, c, hx, -⟩ := h.before hw
    have heffect := hx.effect store
    rw [show (Exchange.mk ev.request ev.answer).call? store = _ from hev] at heffect
    rw [Bucket.value?, heffect.of_created.1] at hold
    cases hold

theorem now_le (h : w.Grows fleet init) : init.now ≤ w.cluster.now := by
  induction h with
  | start => exact le_refl _
  | drift _ hc ih => exact le_trans ih hc.now_le
  | exchange _ g hx ih =>
      rw [← hx.frame.now] at ih
      exact ih

theorem get?_of_read {newer older : List (Event ι)} {ev : Event ι} (h : w.Grows fleet init)
    (hw : w.history = newer ++ ev :: older) {store : StoreName} {key : String} {e : Entry}
    (he : ev.Read store key e) :
    e.key = key ∧ (ev.before.bucket store).entries.get? key = some ⟨e.value, e.revision⟩ := by
  obtain ⟨-, c, hx, -⟩ := h.before hw
  have heffect := hx.effect store
  rw [show (Exchange.mk ev.request ev.answer).call? store = _ from he] at heffect
  obtain ⟨s, hs, hse⟩ := Option.map_eq_some_iff.1 heffect.of_read.1.symm
  exact ⟨by rw [← hse], by rw [hs, ← hse]⟩

/-- An entry that is still of the revision at which it was read is the entry that was read. -/
theorem eq_of_read {ev : Event ι} (h : w.Grows fleet init) (hev : ev ∈ w.history)
    {store : StoreName} (hsound : (init.bucket store).Sound) {key : String} {e : Entry}
    (he : ev.Read store key e) {s : Stamped}
    (hs : (w.cluster.bucket store).entries.get? key = some s)
    (hrevision : s.revision = e.revision) : s.value = e.value := by
  obtain ⟨newer, older, hw⟩ := List.append_of_mem hev
  obtain ⟨hbefore, c, hx, hafter⟩ := h.before hw
  have hevolves := (hx.evolves store).trans (hafter.evolves store)
  have := hevolves.eq_of_revision_eq ((hbefore.evolves store).sound hsound) (h.get?_of_read hw he).2
    hs hrevision
  rw [this]

end World.Grows

end PartitionHost
