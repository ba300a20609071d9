import Mathlib.Logic.Function.Basic
import PartitionHost.Proofs.Bucket.Faultless
import PartitionHost.Proofs.Bucket.Ledger
import PartitionHost.Proofs.Interleaving.Course

/-!
# Programs that have a bucket to themselves

Nobody else writes, but every call may fail, and every update may be told that somebody was there first
(`Client.Alone`). A program then writes what it is there to write, or leaves all values as they are: it has no
other way to end, and none of its attempts leaves anything behind. What holds of a program on such a bucket
holds of it in a cluster where nobody else writes (`Cluster.assures_client`).
-/

namespace PartitionHost

open Record

/-! ## What is under keys, and what becomes of it -/

section Keys

variable {α β : Type}

/-- What it comes to that a record is ensured, and what is under the keys then. -/
inductive Ensured (read? : β → Option α) (p : String) (fresh : α) (text : β)
    (values : String → Option β) : Except Error α → (String → Option β) → Prop where
  | failed (e : Error) : Ensured read? p fresh text values (.error e) values
  | found {v : β} {a : α} (hv : values p = some v) (ha : read? v = some a) :
      Ensured read? p fresh text values (.ok a) values
  | created (hnone : values p = none) :
      Ensured read? p fresh text values (.ok fresh) (Function.update values p (some text))

/-- What it comes to that a text is put in the place of another one, and what is under the keys then. -/
inductive Replaced (p : String) (text : β) (values : String → Option β) :
    Except Error Unit → (String → Option β) → Prop where
  | failed (e : Error) : Replaced p text values (.error e) values
  | replaced {v : β} (hv : values p = some v) :
      Replaced p text values (.ok ()) (Function.update values p (some text))

variable {read? : β → Option α} {p q : String} {fresh a : α} {text : β}
  {values values' : String → Option β}

theorem Ensured.eq_of_ne {x : Except Error α} (h : Ensured read? p fresh text values x values')
    (hq : q ≠ p) : values' q = values q := by
  cases h with
  | failed | found => rfl
  | created => exact Function.update_of_ne hq _ _

theorem Ensured.eq_or {x : Except Error α} (h : Ensured read? p fresh text values x values') :
    values' p = values p ∨ values p = none ∧ values' p = some text := by
  cases h with
  | failed | found => exact .inl rfl
  | created hnone => exact .inr ⟨hnone, Function.update_self ..⟩

theorem Ensured.of_ok (h : Ensured read? p fresh text values (.ok a) values') :
    (∃ v, values p = some v ∧ read? v = some a ∧ values' = values) ∨
      values p = none ∧ a = fresh ∧ values' p = some text := by
  cases h with
  | found hv ha => exact .inl ⟨_, hv, ha, rfl⟩
  | created hnone => exact .inr ⟨hnone, rfl, Function.update_self ..⟩

theorem Replaced.eq_of_ne {x : Except Error Unit} (h : Replaced p text values x values')
    (hq : q ≠ p) : values' q = values q := by
  cases h with
  | failed => rfl
  | replaced => exact Function.update_of_ne hq _ _

theorem Replaced.of_error {fault : Error} (h : Replaced p text values (.error fault) values') :
    values' = values := by
  cases h
  rfl

theorem Replaced.of_ok (h : Replaced p text values (.ok ()) values') : values' p = some text := by
  cases h with
  | replaced => exact Function.update_self ..

end Keys

namespace Bucket

theorem value?_write (b : Bucket) (key : String) (value : Bytes) :
    (b.write key value).value? = Function.update b.value? key (some value) := by
  funext other
  by_cases h : other = key
  · simp [value?, get?_write, h]
  · simp [value?, get?_write, h]

theorem Effect.value?_eq_of_failed {b b' : Bucket} {c : Call} {x : Except Error c.Reply}
    (h : Effect b c x b') (hx : ¬ c.Confirmed x) : b'.value? = b.value? :=
  funext (h.value?_eq_of_not_confirmed hx)

namespace Client

/-- How a bucket answers a client that has it to itself, while the clock shows such times. -/
def Alone (shows : Timestamp → Prop) : (r : Request) → Bucket → r.Answer → Bucket → Prop
  | .call c, b, x, b' => Effect b c x b'
  | .now, b, t, b' => shows t ∧ b' = b

/-! ## What the programs come to -/

/-- What a transition comes to, and the values after it. -/
inductive Turned (shows : Timestamp → Prop) (next : Lease → Timestamp → Option Lease) (p : String)
    (values : String → Option Bytes) : Except Error (Lease × Bool) → (String → Option Bytes) → Prop where
  | failed (e : Error) : Turned shows next p values (.error e) values
  | refused {v : Bytes} {l : Lease} {t : Timestamp} (hv : values p = some v) (hl : decode? v = some l)
      (ht : shows t) (hnext : next l t = none) : Turned shows next p values (.ok (l, false)) values
  | turned {v : Bytes} {l l' : Lease} {t : Timestamp} (hv : values p = some v) (hl : decode? v = some l)
      (ht : shows t) (hnext : next l t = some l') : Turned shows next p values (.ok (l', true))
        (Function.update values p (some (encode l')))

variable {shows : Timestamp → Prop} {b b' : Bucket} {p : String}

theorem value?_of_entry {e : Entry} (h : b.entry? p = some e) : b.value? p = some e.value := by
  obtain ⟨s, hs, rfl⟩ := Option.map_eq_some_iff.1 h
  rw [value?, hs]
  rfl

theorem value?_of_no_entry (h : b.entry? p = none) : b.value? p = none := by
  rw [value?, Option.map_eq_none_iff.1 h]
  rfl

theorem assures_transition (shows : Timestamp → Prop) (next : Lease → Timestamp → Option Lease)
    (p : String) (attempts : Nat) (b : Bucket) :
    (Lease.Bucketed.transition p next attempts).run.Assures (I := Client) (Alone shows)
      (fun x b' => Turned shows next p b.value? x b'.value?) b := by
  induction attempts generalizing b with
  | zero => exact .failed _
  | succ attempts ih =>
      rw [Lease.Bucketed.run_transition_succ]
      rintro (e | found) b₁ hread
      · obtain rfl := hread.eq_of_error
        exact .failed e
      obtain ⟨rfl, rfl⟩ := hread.of_read
      cases hfound : b₁.entry? p with
      | none => exact .failed _
      | some e =>
          have hv := value?_of_entry hfound
          simp only
          cases hl : decode? (α := Lease) e.value with
          | none => exact .failed _
          | some l =>
              rintro t b₂ ⟨ht, rfl⟩
              simp only
              cases hnext : next l t with
              | none => exact .refused hv hl ht hnext
              | some l' =>
                  rintro (e | _ | n) b₃ hwrite
                  · obtain rfl := hwrite.eq_of_error
                    exact .failed e
                  · have hsame := hwrite.value?_eq_of_failed id
                    exact hsame ▸ ih b₃
                  · obtain ⟨s, -, -, rfl⟩ := hwrite.of_written
                    change Turned shows next p _ _ (b₂.write p (encode l')).value?
                    rw [value?_write]
                    exact .turned hv hl ht hnext

theorem assures_ensure_alone {α : Type} [Record α] (shows : Timestamp → Prop) (fresh : α) (p : String)
    (attempts : Nat) (b : Bucket) :
    (ensure p fresh attempts).run.Assures (I := Client) (Alone shows)
      (fun x b' => Ensured decode? p fresh (encode fresh) b.value? x b'.value?) b := by
  induction attempts generalizing b with
  | zero => exact .failed _
  | succ attempts ih =>
      rw [run_ensure_succ]
      rintro (e | found) b₁ hread
      · obtain rfl := hread.eq_of_error
        exact .failed e
      obtain ⟨rfl, rfl⟩ := hread.of_read
      cases hfound : b₁.entry? p with
      | some e =>
          have hv := value?_of_entry hfound
          simp only
          cases ha : decode? (α := α) e.value with
          | none => exact .failed _
          | some a => exact .found hv ha
      | none =>
          rintro (e | _ | n) b₂ hcreate
          · obtain rfl := hcreate.eq_of_error
            exact .failed e
          · have hsame := hcreate.value?_eq_of_failed id
            exact hsame ▸ ih b₂
          · obtain ⟨-, rfl⟩ := hcreate.of_created
            change Ensured decode? p fresh (encode fresh) _ _ (b₁.write p (encode fresh)).value?
            rw [value?_write]
            exact .created (value?_of_no_entry hfound)

theorem assures_replace (shows : Timestamp → Prop) (value : Bytes) (p : String) (attempts : Nat)
    (b : Bucket) :
    (Checkpoint.Bucketed.replace p value attempts).run.Assures (I := Client) (Alone shows)
      (fun x b' => Replaced p value b.value? x b'.value?) b := by
  induction attempts generalizing b with
  | zero => exact .failed _
  | succ attempts ih =>
      rw [Checkpoint.Bucketed.run_replace_succ]
      rintro (e | found) b₁ hread
      · obtain rfl := hread.eq_of_error
        exact .failed e
      obtain ⟨rfl, rfl⟩ := hread.of_read
      cases hfound : b₁.entry? p with
      | none => exact .failed _
      | some e =>
          rintro (e | _ | n) b₂ hwrite
          · obtain rfl := hwrite.eq_of_error
            exact .failed e
          · have hsame := hwrite.value?_eq_of_failed id
            exact hsame ▸ ih b₂
          · obtain ⟨s, -, -, rfl⟩ := hwrite.of_written
            change Replaced p value _ _ (b₁.write p value).value?
            rw [value?_write]
            exact .replaced (value?_of_entry hfound)

end Client

end Bucket

/-! ## In a cluster -/

namespace Cluster

open Bucket Bucket.Client

variable {c c' c'' : Cluster} {store : StoreName}

/-- Nothing that is recorded is changed, except in the bucket of this store. -/
structure Besides (store : StoreName) (c c' : Cluster) : Prop where
  other : ∀ store' ≠ store, c'.bucket store' = c.bucket store'
  leaseRegister : c'.leases.register = c.leases.register
  checkpointRegister : c'.checkpoints.register = c.checkpoints.register
  owned : ∀ host, (c'.member host).owned = (c.member host).owned

theorem Besides.refl (store : StoreName) (c : Cluster) : c.Besides store c :=
  ⟨fun _ _ => rfl, rfl, rfl, fun _ => rfl⟩

theorem Besides.trans (h : c.Besides store c') (h' : c'.Besides store c'') : c.Besides store c'' where
  other store' hne := (h'.other store' hne).trans (h.other store' hne)
  leaseRegister := h'.leaseRegister.trans h.leaseRegister
  checkpointRegister := h'.checkpointRegister.trans h.checkpointRegister
  owned host := (h'.owned host).trans (h.owned host)

theorem Drifts.besides (h : c.Drifts c') (store : StoreName) : c.Besides store c' :=
  ⟨fun store' _ => h.bucket store', h.leaseRegister, h.checkpointRegister, h.owned⟩

theorem Affects.besides {call : Call} {x : Except Error call.Reply} (h : Affects store call c x c') :
    c.Besides store c' :=
  ⟨h.other, h.leaseRegister, h.checkpointRegister, fun host => by simp only [member, h.members]⟩

/-- A client comes in a cluster to what it comes to on a bucket that it has to itself. -/
theorem assures_client {rely : Cluster → Cluster → Prop} {shows : Timestamp → Prop} {α : Type}
    {t : Task Client α} {post : α → Bucket → Prop} (host : String) (cancel : Cancellation)
    (hrely : ∀ c c', rely c c' → c.Drifts c' ∧ (shows c.now → shows c'.now)) (hnow : shows c.now)
    (h : t.Assures (Alone shows) post (c.bucket store)) :
    (t.serve (store.client cancel)).Assures (Amid rely host)
      (fun x c' => post x (c'.bucket store) ∧ c.Besides store c' ∧ shows c'.now) c := by
  induction t generalizing c with
  | done a => exact ⟨h, .refl store c, hnow⟩
  | ask r resume ih =>
      cases r with
      | now =>
          rintro x c₂ ⟨c₁, hc, hx⟩
          cases hx
          obtain ⟨hdrifts, hshows⟩ := hrely c c₂ hc
          have hrest := h c₂.now (c.bucket store) ⟨hshows hnow, rfl⟩
          rw [← hdrifts.bucket] at hrest
          refine (ih _ (hshows hnow) hrest).imp fun y c' ⟨hy, hbesides, hnow'⟩ => ?_
          exact ⟨hy, (hdrifts.besides store).trans hbesides, hnow'⟩
      | call call =>
          have hall : ∀ x c₁ c₂, rely c c₁ → Called store cancel call c₁ x c₂ →
              ((resume x).serve (store.client cancel)).Assures (Amid rely host)
                (fun x c' => post x (c'.bucket store) ∧ c.Besides store c' ∧ shows c'.now) c₂ := by
            intro x c₁ c₂ hc hx
            obtain ⟨hdrifts, hshows⟩ := hrely c c₁ hc
            have haffects := hx.affects
            have heffect := haffects.effect
            rw [hdrifts.bucket] at heffect
            have hnow₂ : shows c₂.now := haffects.now ▸ hshows hnow
            refine (ih _ hnow₂ (h x _ heffect)).imp fun y c' ⟨hy, hbesides, hnow'⟩ => ?_
            exact ⟨hy, ((hdrifts.besides store).trans haffects.besides).trans hbesides, hnow'⟩
          cases store with
          | leases => exact fun x c₂ ⟨c₁, hc, hx⟩ => hall x c₁ c₂ hc hx
          | checkpoints => exact fun x c₂ ⟨c₁, hc, hx⟩ => hall x c₁ c₂ hc hx

end Cluster

namespace Equipment

open Cluster Bucket.Client

variable {e : Equipment} {c : Cluster} {rely : Cluster → Cluster → Prop} {shows : Timestamp → Prop}

theorem assures_lease_alone (shows : Timestamp → Prop) (hleases : e.leases = .bucket) (host : String)
    (cancel : Cancellation) {op : Lease.Operation} {post : Except Error op.Reply → Bucket → Prop}
    (hrely : ∀ c c', rely c c' → c.Drifts c' ∧ (shows c.now → shows c'.now)) (hnow : shows c.now)
    (h : (Lease.Bucketed.perform e.me op).run.Assures (I := Bucket.Client) (Alone shows) post
      (c.bucket .leases)) :
    (e.lease cancel op).Assures (Amid rely host)
      (fun x c' => post x (c'.bucket .leases) ∧ c.Besides .leases c' ∧ shows c'.now) c := by
  have hserved : e.lease cancel op =
      (Lease.Bucketed.perform e.me op).run.serve (StoreName.leases.client cancel) := by
    rw [lease, hleases]
    rfl
  rw [hserved]
  exact assures_client host cancel hrely hnow h

theorem assures_checkpoint_alone (shows : Timestamp → Prop) (hcheckpoints : e.checkpoints = .bucket)
    (host : String) (cancel : Cancellation) {op : Checkpoint.Operation} {post : Except Error op.Reply → Bucket → Prop}
    (hrely : ∀ c c', rely c c' → c.Drifts c' ∧ (shows c.now → shows c'.now)) (hnow : shows c.now)
    (h : (Checkpoint.Bucketed.perform op).run.Assures (I := Bucket.Client) (Alone shows) post
      (c.bucket .checkpoints)) :
    (e.checkpoint cancel op).Assures (Amid rely host)
      (fun x c' => post x (c'.bucket .checkpoints) ∧ c.Besides .checkpoints c' ∧ shows c'.now) c := by
  have hserved : e.checkpoint cancel op =
      (Checkpoint.Bucketed.perform op).run.serve (StoreName.checkpoints.client cancel) := by
    rw [checkpoint, hcheckpoints]
    rfl
  rw [hserved]
  exact assures_client host cancel hrely hnow h

end Equipment

end PartitionHost
