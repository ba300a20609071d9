import PartitionHost.Proofs.Lease.Custody
import PartitionHost.Proofs.Lease.Keyed

/-!
# Where stored leases come from

A lease that is stored was stored before, or was just put there unowned by whoever ensured it, or was just made
from the one that it replaced (`Lease.origin`). So nothing but ensuring brings a key into a lease store
(`Lease.hasLease_or`), and a store that was empty once has under each key a lease of that partition
(`Lease.exists_keeps`).
-/

namespace PartitionHost

open Record Cluster

variable {ι : Type}

/-- Something is stored under a key in the lease store of a kind, whatever it is. -/
def Cluster.HasLease (c : Cluster) (kind : Site.StoreKind) (p : String) : Prop :=
  match kind with
  | .register => ∃ l, c.leases.register.bind (·.get? p) = some l
  | .bucket => ∃ value, (c.bucket .leases).value? p = some value

/-- The lease of a partition is ensured, and put there unowned unless the store is a register that has one. -/
def Event.EnsuresLease (kind : Site.StoreKind) (p : String) (ev : Event ι) : Prop :=
  ev.action.UsesLease (.ensure p) ∧
    match kind with
    | .register => ∃ me, ev.request = .leaseTable me (.ensure p)
    | .bucket => ev.Created .leases p (encode (Lease.unowned p))

theorem Cluster.Keeps.hasLease {kind : Site.StoreKind} {c : Cluster} {p : String} {l : Lease}
    (h : c.Keeps kind p l) : c.HasLease kind p := by
  cases kind with
  | register =>
      obtain ⟨t, ht, hl⟩ := h
      exact ⟨l, by rw [ht]; exact hl⟩
  | bucket => exact ⟨_, h⟩

theorem Cluster.keeps_of_hasLease {c : Cluster} {p : String} (h : c.HasLease .register p) :
    ∃ l, c.Keeps .register p l := by
  obtain ⟨l, hl⟩ := h
  obtain ⟨t, ht, hl⟩ := Option.bind_eq_some_iff.1 hl
  exact ⟨l, t, ht, hl⟩

theorem Cluster.sound_of_not_hasLease {c : Cluster} (h : ∀ p, ¬ c.HasLease .bucket p) :
    (c.bucket .leases).Sound := by
  intro p s hs
  exact absurd ⟨s.value, by rw [Bucket.value?, hs]; rfl⟩ (h p)

theorem Cluster.not_hasLease_ofBuckets (kind : Site.StoreKind) (p : String) : ¬ ofBuckets.HasLease kind p := by
  cases kind with
  | register => rintro ⟨l, ⟨⟩⟩
  | bucket => rintro ⟨value, ⟨⟩⟩

namespace Lease

/-- How a stored lease comes to be where it is, after an event. -/
inductive Origin (kind : Site.StoreKind) (ev : Event ι) (p : String) : Lease → Prop where
  | kept {l : Lease} (h : ev.before.Keeps kind p l) : Origin kind ev p l
  | ensured (h : ev.EnsuresLease kind p) : Origin kind ev p (unowned p)
  | put {l : Lease} (h : ev.Puts kind p l) : Origin kind ev p l

variable {kind : Site.StoreKind} {fleet : Fleet ι} {init : Cluster} {w : World ι}
  {newer older : List (Event ι)} {ev : Event ι} {c : Cluster} {p : String} {l l' : Lease}

theorem origin_of_register (hlaw : Lawful fleet.discipline (newer ++ ev :: older))
    (hx : Answers (fleet ev.who).me.owner ev.before ev.request ev.answer c)
    (hl : c.Keeps .register p l) : Origin .register ev p l := by
  obtain ⟨t, ht, hget⟩ := hl
  by_cases hr : ∃ me op, ev.request = .leaseTable me op
  · obtain ⟨me, op, hr⟩ := hr
    have huses := (uses_of_leaseTable hlaw hr).2
    obtain ⟨g, ⟨request, answer⟩, before⟩ := ev
    obtain rfl : request = .leaseTable me op := hr
    obtain rfl : c = (before.leaseTable me op).2 := congrArg Prod.snd hx
    cases Register.left_of_perform (r := before.leases.register) ht hget with
    | kept hr hl => exact .kept ⟨_, hr, hl⟩
    | created hop =>
        subst hop
        exact .ensured ⟨huses, me, rfl⟩
    | turned hr hl hop h => exact .put ⟨me, op, _, _, rfl, hop, ⟨_, hr, hl⟩, h⟩
  · refine .kept ⟨t, (register_eq_of_not hx ?_).symm.trans ht, hget⟩
    exact fun me op h => hr ⟨me, op, h⟩

theorem origin (hw : w.Grows fleet init) (hsound : (init.bucket .leases).Sound)
    (hlaw : Lawful fleet.discipline w.history) (hhistory : w.history = newer ++ ev :: older)
    (hx : Answers (fleet ev.who).me.owner ev.before ev.request ev.answer c) (hl : c.Keeps kind p l) :
    Origin kind ev p l := by
  cases kind with
  | register => exact origin_of_register (hhistory ▸ hlaw) hx hl
  | bucket =>
      have hchange := change hw hsound hlaw hhistory hx p
      generalize hv : (ev.before.bucket .leases).value? p = v at hchange
      generalize hv' : (c.bucket .leases).value? p = v' at hchange
      cases hchange with
      | kept _ _ => exact .kept (hv.trans (hv'.symm.trans hl))
      | created hev huses =>
          obtain rfl := encode_injective (Option.some.inj (hv'.symm.trans hl))
          exact .ensured ⟨huses, hev⟩
      | removed _ _ _ => cases hv'.symm.trans hl
      | turned hev _ =>
          obtain rfl := encode_injective (Option.some.inj (hv'.symm.trans hl))
          exact .put hev

theorem hasLease_of_puts (hx : Answers (fleet ev.who).me.owner ev.before ev.request ev.answer c)
    (hev : ev.Puts kind p l) : ev.before.HasLease kind p := by
  cases kind with
  | register =>
      obtain ⟨me, op, next, old, -, -, hold, -⟩ := hev
      exact hold.hasLease
  | bucket =>
      obtain ⟨revision, n, hcall⟩ := hev
      have heffect := hx.effect .leases
      rw [show (Exchange.mk ev.request ev.answer).call? .leases = _ from hcall] at heffect
      obtain ⟨stored, hstored, -, -⟩ := Bucket.Effect.of_written heffect
      exact ⟨stored.value, by rw [Bucket.value?, hstored]; rfl⟩

theorem hasLease_or (hw : w.Grows fleet init) (hsound : (init.bucket .leases).Sound)
    (hlaw : Lawful fleet.discipline w.history) (hhistory : w.history = newer ++ ev :: older)
    (hx : Answers (fleet ev.who).me.owner ev.before ev.request ev.answer c) (hp : c.HasLease kind p) :
    ev.before.HasLease kind p ∨ ev.EnsuresLease kind p ∧ c.Keeps kind p (unowned p) := by
  cases kind with
  | register =>
      obtain ⟨l, hl⟩ := keeps_of_hasLease hp
      cases origin hw hsound hlaw hhistory hx hl with
      | kept h => exact .inl h.hasLease
      | ensured h => exact .inr ⟨h, hl⟩
      | put h => exact .inl (hasLease_of_puts hx h)
  | bucket =>
      obtain ⟨value, hvalue⟩ := hp
      have hchange := change hw hsound hlaw hhistory hx p
      generalize hv : (ev.before.bucket .leases).value? p = v at hchange
      generalize hv' : (c.bucket .leases).value? p = v' at hchange
      cases hchange with
      | kept _ _ => exact .inl ⟨value, hv.trans (hv'.symm.trans hvalue)⟩
      | created hev huses => exact .inr ⟨⟨huses, hev⟩, hv'⟩
      | removed _ _ _ => cases hv'.symm.trans hvalue
      | turned _ _ => exact .inl ⟨_, hv⟩

/-! ## Stores that were empty once -/

theorem keyed_of_register (hw : w.Grows fleet init) (hempty : ∀ p, ¬ init.HasLease .register p) :
    ∀ t, w.cluster.leases.register = some t → ∀ p l, t.get? p = some l → l.partition = p := by
  induction hw with
  | start =>
      intro t ht p l hl
      have hkeeps : init.Keeps .register p l := ⟨t, ht, hl⟩
      exact absurd hkeeps.hasLease (hempty p)
  | drift _ hc ih => exact hc.leaseRegister ▸ ih
  | exchange _ g hx ih => exact hx.keyed_register ih

theorem exists_stores (hw : w.Grows fleet init) (hempty : ∀ p, ¬ init.HasLease .bucket p)
    (hlaw : Lawful fleet.discipline w.history) {value : Bytes}
    (hvalue : (w.cluster.bucket .leases).value? p = some value) :
    ∃ l : Lease, encode l = value ∧ l.partition = p := by
  refine induction_on (P := fun w => ∀ value, (w.cluster.bucket .leases).value? p = some value →
    ∃ l : Lease, encode l = value ∧ l.partition = p) hw (sound_of_not_hasLease hempty) hlaw p
    ?_ ?_ ?_ value hvalue
  · exact fun value hvalue => absurd ⟨value, hvalue⟩ (hempty p)
  · intro w c hc ih value hvalue
    exact ih value (hc.bucket .leases ▸ hvalue)
  · intro w ev c v v' _ hbefore _ hv hv' hchange ih value hvalue
    cases hv'.symm.trans hvalue
    cases hchange with
    | kept _ _ => exact ih value hv
    | created _ _ => exact ⟨unowned p, rfl, rfl⟩
    | turned _ h =>
        obtain ⟨l, hl, hpartition⟩ := ih _ hv
        have hstores : (ev.before.bucket .leases).Stores p l := by rw [Bucket.Stores, h.value?_eq, hl]
        obtain rfl := h.eq_of_stores hstores
        exact ⟨_, rfl, h.turns.partition_eq.trans hpartition⟩

theorem exists_keeps (hw : w.Grows fleet init) (hempty : ∀ p, ¬ init.HasLease kind p)
    (hlaw : Lawful fleet.discipline w.history) (hp : w.cluster.HasLease kind p) :
    ∃ l, w.cluster.Keeps kind p l ∧ l.partition = p := by
  cases kind with
  | register =>
      obtain ⟨l, t, ht, hl⟩ := keeps_of_hasLease hp
      exact ⟨l, ⟨t, ht, hl⟩, keyed_of_register hw hempty t ht p l hl⟩
  | bucket =>
      obtain ⟨value, hvalue⟩ := hp
      obtain ⟨l, rfl, hpartition⟩ := exists_stores hw hempty hlaw hvalue
      exact ⟨l, hvalue, hpartition⟩

theorem exists_replaced (hw : w.Grows fleet init) (hempty : ∀ kind p, ¬ init.HasLease kind p)
    (hlaw : Lawful fleet.discipline w.history) (hhistory : w.history = newer ++ ev :: older)
    (hev : ev.Puts kind p l') :
    ∃ op l t, Made kind fleet older ev p op l t l' ∧ ev.before.Keeps kind p l := by
  obtain ⟨hbefore, c, hx, -⟩ := hw.before hhistory
  obtain ⟨op, l, t, hmade⟩ :=
    exists_made hw (sound_of_not_hasLease (hempty .bucket)) hlaw hhistory hev
  have hlaw' : Lawful fleet.discipline older := (hhistory ▸ hlaw).of_append.2
  obtain ⟨l₀, hl₀, -⟩ := exists_keeps hbefore (hempty kind) hlaw' (hasLease_of_puts hx hev)
  exact ⟨op, l, t, hmade, hmade.eq_of_keeps l₀ hl₀ ▸ hl₀⟩

end Lease

end PartitionHost
