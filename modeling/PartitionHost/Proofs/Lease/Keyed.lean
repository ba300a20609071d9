import PartitionHost.Proofs.Host.Careful
import PartitionHost.Proofs.Interleaving.Course
import PartitionHost.Proofs.Lease.Registered

/-!
# Leases are kept under the names of their partitions

No operation of a host changes the partition of a lease or puts it elsewhere. So as long as others keep to that
as well (`Cluster.Heeds`), the lease that a host acquires is a lease of the partition that it asked for
(`Equipment.assures_keyed_lease`).
-/

namespace PartitionHost

open Record

namespace Lease

/-- Whatever lease this value may be, it is one of this partition. -/
def KeyedBy (p : String) (value : Bytes) : Prop := ∀ l : Lease, decode? value = some l → l.partition = p

theorem keyedBy_iff {p : String} {value : Bytes} : KeyedBy p value ↔
    (decode? value : Option Lease).all (·.partition == p) = true := by
  simp [KeyedBy, Option.all_eq_true]

theorem keyedBy_encode (l : Lease) : KeyedBy l.partition (encode l) := by
  intro m hm
  rw [decode?_encode] at hm
  split at hm
  · rw [Option.some.inj hm]
  · cases hm

theorem Operation.Turns.partition_eq {me : Claimant} {op : Operation} {p : String} {l l' : Lease}
    {now : Timestamp} (h : op.Turns me p l now l') : l'.partition = l.partition := by
  cases h <;> rfl

end Lease

/-- What a host writes into the bucket of leases goes under the name of its partition. -/
def Site.Request.IsKeyed : Site.Request → Prop
  | .leaseBucket _ (.create key value) | .leaseBucket _ (.update key value _) => Lease.KeyedBy key value
  | _ => True

theorem Site.Request.IsAnonymous.isKeyed {r : Site.Request} (h : r.IsAnonymous) : r.IsKeyed := by
  cases r with
  | leaseBucket cancel c =>
      cases c with
      | create key value =>
          obtain rfl : value = encode (Lease.unowned key) := h
          exact Lease.keyedBy_encode _
      | update key value revision => cases h
      | _ => trivial
  | _ => trivial

namespace Cluster

/-- Both stores keep every lease under the name of its partition. -/
structure Keyed (c : Cluster) : Prop where
  register : ∀ t, c.leases.register = some t → ∀ p l, t.get? p = some l → l.partition = p
  bucket : ∀ p value, (c.bucket .leases).value? p = some value → Lease.KeyedBy p value

variable {c c' : Cluster} {host : String} {r : Site.Request} {x : r.Answer}

theorem Answers.keyed_register (h : Answers host c r x c')
    (hc : ∀ t, c.leases.register = some t → ∀ p l, t.get? p = some l → l.partition = p) :
    ∀ t, c'.leases.register = some t → ∀ p l, t.get? p = some l → l.partition = p := by
  have hsame (hregister : c'.leases.register = c.leases.register) :
      ∀ t, c'.leases.register = some t → ∀ p l, t.get? p = some l → l.partition = p :=
    hregister ▸ hc
  cases r with
  | leaseBucket cancel call => exact hsame (Called.affects h).leaseRegister
  | checkpointBucket cancel call => exact hsame (Called.affects h).leaseRegister
  | leaseTable me op =>
      obtain rfl : c' = (c.leaseTable me op).2 := congrArg Prod.snd h
      intro t ht p l hl
      cases Lease.Register.left_of_perform (r := c.leases.register) ht hl with
      | kept hr hl => exact hc _ hr p _ hl
      | created hop => rfl
      | turned hr hl hop h =>
          exact (Lease.Operation.turns_of_transition? hop h).partition_eq.trans (hc _ hr p _ hl)
  | checkpointTable op =>
      obtain rfl : c' = (c.checkpointTable op).2 := congrArg Prod.snd h
      exact hsame rfl
  | disown partition =>
      obtain rfl : c' = (c.disown host partition).2 := congrArg Prod.snd h
      exact hsame rfl
  | own partition lease =>
      obtain rfl : c' = c.own host partition lease := h
      exact hsame rfl
  | note n =>
      obtain rfl : c' = { c with notes := n :: c.notes } := h
      exact hsame rfl
  | now | elapsed | owned =>
      obtain rfl : c' = c := congrArg Prod.snd h
      exact hc
  | enquire | wait | announce =>
      obtain rfl : c' = c := h
      exact hc

theorem Answers.keyed (h : Answers host c r x c') (hr : r.IsKeyed) (hc : c.Keyed) : c'.Keyed where
  register := h.keyed_register hc.register
  bucket p value hvalue := by
    rw [h.value?_eq] at hvalue
    cases hout : (Exchange.mk (I := Site) r x).outcome? .leases p with
    | none =>
        rw [hout] at hvalue
        exact hc.bucket p value hvalue
    | some out =>
        rw [hout] at hvalue
        obtain rfl : out = some value := hvalue
        rcases Exchange.updated_or_created hout with ⟨revision, n, hcall⟩ | ⟨n, hcall⟩
        · obtain ⟨cancel, hexchange⟩ := Exchange.eq_of_call?_leases hcall
          cases hexchange
          exact hr
        · obtain ⟨cancel, hexchange⟩ := Exchange.eq_of_call?_leases hcall
          cases hexchange
          exact hr

/-- What a host may rely on: nobody else changes what it believes, or puts leases under other names. -/
structure Heeds (owner : String) (c c' : Cluster) : Prop where
  owned : (c'.member owner).owned = (c.member owner).owned
  keyed : c.Keyed → c'.Keyed

variable {owner : String}

theorem Heeds.refl (c : Cluster) (owner : String) : c.Heeds owner c := ⟨rfl, id⟩

theorem Heeds.trans {c'' : Cluster} (h : c.Heeds owner c') (h' : c'.Heeds owner c'') :
    c.Heeds owner c'' :=
  ⟨h'.owned.trans h.owned, h'.keyed ∘ h.keyed⟩

theorem Drifts.heeds (h : c.Drifts c') (owner : String) : c.Heeds owner c' where
  owned := h.owned owner
  keyed hc := ⟨h.leaseRegister ▸ hc.register, h.bucket .leases ▸ hc.bucket⟩

theorem assures_keyed_of_asks {α : Type} {t : Task Site α} (ht : t.Asks Site.Request.IsKeyed)
    (hc : c.Keyed) : t.Assures (Amid (Heeds owner) owner) (fun _ c' => c'.Keyed) c :=
  ht.assures (fun _ _ _ _ hr ⟨_, hheeds, hx⟩ hc => hx.keyed hr (hheeds.keyed hc)) hc

end Cluster

namespace Lease.Bucketed

open Cluster

variable {c : Cluster} {owner p : String} {cancel : Cancellation}
  {next : Lease → Timestamp → Option Lease}

theorem keyed_of_read {c' : Cluster} {x : Except Error (Option Entry)} (hc : c.Keyed)
    (h : Amid (Heeds owner) owner (.leaseBucket cancel (.entry p)) c x c') : c'.Keyed ∧
      ∀ e, x = .ok (some e) → KeyedBy p e.value := by
  obtain ⟨c₁, hheeds, hx⟩ := h
  have hc' := hx.keyed trivial (hheeds.keyed hc)
  refine ⟨hc', ?_⟩
  rintro e rfl
  obtain ⟨he, hsame⟩ := Bucket.Effect.of_read (hx.effect .leases)
  obtain ⟨s, hs, rfl⟩ := Option.map_eq_some_iff.1 he.symm
  refine hc'.bucket p s.value ?_
  rw [hsame, Bucket.value?, hs]
  rfl

theorem assures_keyed_transition {me : Claimant} {op : Operation}
    (hop : op.transition? me = some (p, next)) (attempts : Nat) (hc : c.Keyed) :
    ((transition p next attempts).run.serve (client cancel)).Assures (Amid (Heeds owner) owner)
      (fun x c' => c'.Keyed ∧ ∀ l b, x = .ok (l, b) → l.partition = p) c := by
  induction attempts generalizing c with
  | zero => exact ⟨hc, by rintro l b ⟨⟩⟩
  | succ attempts ih =>
      rw [run_transition_succ, serve_client_call]
      rintro x c₁ hx
      obtain ⟨hc₁, hread⟩ := keyed_of_read hc hx
      rcases x with _ | _ | e
      · exact ⟨hc₁, by rintro l b ⟨⟩⟩
      · exact ⟨hc₁, by rintro l b ⟨⟩⟩
      · cases hl : decode? (α := Lease) e.value with
        | none =>
            simp only [hl]
            exact ⟨hc₁, by rintro l b ⟨⟩⟩
        | some l =>
            have hpartition : l.partition = p := hread e rfl l hl
            simp only [hl, serve_client_now]
            rintro t c₂ ⟨c₃, hheeds, ht⟩
            have hc₂ := ht.keyed trivial (hheeds.keyed hc₁)
            cases hl' : next l t with
            | none =>
                simp only [hl']
                refine ⟨hc₂, ?_⟩
                rintro l b ⟨⟩
                exact hpartition
            | some l' =>
                have hpartition' : l'.partition = p :=
                  (Operation.turns_of_transition? hop hl').partition_eq.trans hpartition
                simp only [hl', serve_client_call]
                rintro y c₄ ⟨c₅, hheeds', hy⟩
                have hc₄ := hy.keyed (hpartition' ▸ keyedBy_encode l') (hheeds'.keyed hc₂)
                rcases y with _ | _ | n
                · exact ⟨hc₄, by rintro l b ⟨⟩⟩
                · exact ih hc₄
                · refine ⟨hc₄, ?_⟩
                  rintro l b ⟨⟩
                  exact hpartition'

theorem assures_keyed_acquire (me : Claimant) (hc : c.Keyed) :
    ((acquire me p).run.serve (client cancel)).Assures (Amid (Heeds owner) owner)
      (fun x c' => c'.Keyed ∧ ∀ l, x = .ok (l, true) → l.partition = p) c := by
  rw [run_acquire, Task.serve_bind, Task.assures_bind]
  have hop : (Operation.acquire p).transition? me = some (p, (·.acquire me.owner me.term ·)) := rfl
  refine (assures_keyed_transition hop _ hc).imp fun x c₁ ⟨hc₁, hx⟩ => ?_
  split
  · rw [run_read, Task.ask_bind, serve_client_call]
    rintro y c₂ hy
    obtain ⟨hc₂, -⟩ := keyed_of_read hc₁ hy
    rcases y with _ | _ | e
    · exact ⟨hc₂, by rintro l ⟨⟩⟩
    · exact ⟨hc₂, by rintro l ⟨⟩⟩
    · simp only
      cases decode? (α := Lease) e.value with
      | none => exact ⟨hc₂, by rintro l ⟨⟩⟩
      | some l => exact ⟨hc₂, by rintro l ⟨⟩⟩
  · exact ⟨hc₁, by rintro l ⟨⟩⟩
  · exact ⟨hc₁, fun l h => hx l true h⟩

end Lease.Bucketed

/-- The lease that a host acquired by an exchange, and the partition that it asked for. -/
def Host.acquired? : Exchange Host.Surroundings → Option (String × Lease)
  | ⟨.lease _ (.acquire p), .ok (l, true)⟩ => some (p, l)
  | _ => none

namespace Equipment

open Cluster Lease

variable {e : Equipment} {c : Cluster} {cancel : Cancellation}

theorem keyed_of_register {me : Claimant} {p : String} {l : Lease} (hc : c.Keyed)
    (h : (c.leaseTable me (.acquire p)).1 = .ok (l, true)) : l.partition = p := by
  have hperform : (Register.perform me c.now c.leases.register (.acquire p)).1 = .ok (l, true) := h
  cases ht : c.leases.register with
  | none =>
      rw [ht] at hperform
      cases hperform
  | some t =>
      rw [ht] at hperform
      change (Register.transition t p (·.acquire me.owner me.term c.now)).1 = _ at hperform
      unfold Register.transition at hperform
      split at hperform
      · cases hperform
      · rename_i old hold
        split at hperform
        · rename_i new hnew
          obtain rfl : new = l := congrArg Prod.fst (Except.ok.inj hperform)
          have hop : (Operation.acquire p).transition? me =
            some (p, (·.acquire me.owner me.term ·)) := rfl
          exact (Operation.turns_of_transition? hop hnew).partition_eq.trans
            (hc.register t ht p old hold)
        · cases hperform

theorem eq_acquire_of_acquired? {op : Operation} {x : Except Error op.Reply} {p : String} {l : Lease}
    (h : Host.acquired? ⟨.lease cancel op, x⟩ = some (p, l)) :
    (⟨op, x⟩ : Σ op : Operation, Except Error op.Reply) = ⟨.acquire p, .ok (l, true)⟩ := by
  cases op with
  | acquire q =>
      rcases x with _ | ⟨l', _ | _⟩
      · cases h
      · cases h
      · cases h
        rfl
  | _ => cases h

theorem assures_keyed_register (hleases : e.leases = .register) (hc : c.Keyed) (op : Operation) :
    (e.lease cancel op).Assures (Amid (Heeds e.me.owner) e.me.owner)
      (fun x c' => c'.Keyed ∧ ∀ p l, Host.acquired? ⟨.lease cancel op, x⟩ = some (p, l) →
        l.partition = p) c := by
  rw [lease, hleases]
  rintro x c₁ ⟨c₂, hheeds, hx⟩
  have hc₁ := Answers.keyed (r := .leaseTable e.me op) hx trivial (hheeds.keyed hc)
  have hacquired : ∀ p l, Host.acquired? ⟨.lease cancel op, x⟩ = some (p, l) → l.partition = p := by
    intro p l h
    cases eq_acquire_of_acquired? h
    exact keyed_of_register (hheeds.keyed hc) (congrArg Prod.fst hx).symm
  change Task.Assures _ ((Site.noteIfAny _).bind _) _ _
  unfold Site.noteIfAny
  split
  · rintro y c₃ ⟨c₄, hheeds', hy⟩
    exact ⟨Answers.keyed hy trivial (hheeds'.keyed hc₁), hacquired⟩
  · exact ⟨hc₁, hacquired⟩

theorem assures_keyed_bucket (hleases : e.leases = .bucket) (hc : c.Keyed) (op : Operation) :
    (e.lease cancel op).Assures (Amid (Heeds e.me.owner) e.me.owner)
      (fun x c' => c'.Keyed ∧ ∀ p l, Host.acquired? ⟨.lease cancel op, x⟩ = some (p, l) →
        l.partition = p) c := by
  -- What is acquired was read under its name; the other operations acquire nothing.
  have hother (hop : ∀ p, op ≠ .acquire p)
      (h : (e.lease cancel op).Assures (Amid (Heeds e.me.owner) e.me.owner) (fun _ c' => c'.Keyed) c) :
      (e.lease cancel op).Assures (Amid (Heeds e.me.owner) e.me.owner)
        (fun x c' => c'.Keyed ∧ ∀ p l, Host.acquired? ⟨.lease cancel op, x⟩ = some (p, l) →
          l.partition = p) c :=
    h.imp fun x c' hc' => ⟨hc', fun p l h =>
      absurd (congrArg Sigma.fst (eq_acquire_of_acquired? h)) (hop p)⟩
  by_cases hmild : op.transition? e.me = none
  · refine hother (by rintro p rfl; cases hmild) (assures_keyed_of_asks ?_ hc)
    exact (e.asks_anonymous_lease hmild).mono fun _ => Site.Request.IsAnonymous.isKeyed
  cases op with
  | acquire p =>
      rw [lease_of_bucket hleases]
      refine (Bucketed.assures_keyed_acquire e.me hc).imp ?_
      rintro x c' ⟨hc', hx⟩
      refine ⟨hc', fun q l h => ?_⟩
      cases eq_acquire_of_acquired? h
      exact hx l rfl
  | renew p =>
      refine hother (by rintro q ⟨⟩) ?_
      rw [lease_of_bucket hleases]
      have hop : (Operation.renew p).transition? e.me = some (p, (·.renew e.me.owner e.me.term ·)) := rfl
      exact (Bucketed.assures_keyed_transition hop _ hc).imp fun _ _ => And.left
  | update p =>
      refine hother (by rintro q ⟨⟩) ?_
      rw [lease_of_bucket hleases]
      have hop : (Operation.update p).transition? e.me =
        some (p, (·.update e.me.owner e.me.term ·)) := rfl
      exact (Bucketed.assures_keyed_transition hop _ hc).imp fun _ _ => And.left
  | release p =>
      refine hother (by rintro q ⟨⟩) ?_
      rw [lease_of_bucket hleases, Bucketed.perform, Task.run_bind, Task.serve_bind, Task.assures_bind]
      have hop : (Operation.release p).transition? e.me = some (p, (·.release e.me.owner ·)) := rfl
      refine (Bucketed.assures_keyed_transition hop _ hc).imp ?_
      rintro (error | ⟨l, b⟩) c' ⟨hc', -⟩
      · exact hc'
      · exact hc'
  | _ => exact absurd rfl hmild

/-- An operation on leases keeps them under their names, and what it acquires is what it was asked for. -/
theorem assures_keyed_lease (hc : c.Keyed) (op : Operation) :
    (e.lease cancel op).Assures (Amid (Heeds e.me.owner) e.me.owner)
      (fun x c' => c'.Keyed ∧ ∀ p l, Host.acquired? ⟨.lease cancel op, x⟩ = some (p, l) →
        l.partition = p) c := by
  cases hleases : e.leases with
  | register => exact assures_keyed_register hleases hc op
  | bucket => exact assures_keyed_bucket hleases hc op

end Equipment

end PartitionHost
