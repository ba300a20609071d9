import PartitionHost.Proofs.Lease.Discipline
import PartitionHost.Proofs.RecordText

/-!
# How stored leases change

Where all writers of leases are disciplined, what is stored under a partition changes in three ways only: the
unowned lease is put there, it is removed, or a transition turns it into another one (`Change`). A turn is
made on the very lease that it replaces (`Turn`): it was read at the revision that was still there when it
was replaced, so nobody else has written it between the two.
-/

namespace PartitionHost

open Record Cluster

/-! ## Stored leases -/

namespace Bucket

def Stores (b : Bucket) (p : String) (l : Lease) : Prop := b.value? p = some (encode l)

theorem Stores.unique {b : Bucket} {p : String} {l l' : Lease} (h : b.Stores p l)
    (h' : b.Stores p l') : l = l' :=
  encode_injective (Option.some.inj (h.symm.trans h'))

theorem Stores.eq_of_decode {b : Bucket} {p : String} {l l' : Lease} {s : Stamped}
    (h : b.Stores p l) (hs : b.entries.get? p = some s) (hl : decode? s.value = some l') : l' = l := by
  have hvalue : s.value = encode l := by
    rw [Stores, value?, hs] at h
    exact Option.some.inj h
  rw [hvalue, Lease.decode?_encode] at hl
  split at hl
  · exact (Option.some.inj hl).symm
  · cases hl

end Bucket

variable {ι : Type}

def Fleet.discipline (fleet : Fleet ι) : Law ι :=
  fun i a => Lease.discipline (fleet i).me a.UsesLease

/-! ## Turns -/

namespace Lease

/--
An event replaced the lease `l`, stored as `stored`, by its transition `l'` for the operation. The
engagement had read the very entry, and after that the clock, which showed `t`.
-/
structure Turn (fleet : Fleet ι) (older : List (Event ι)) (ev : Event ι) (p : String) (op : Operation)
    (stored : Stamped) (l : Lease) (t : Timestamp) (l' : Lease) : Prop where
  uses : ev.action.UsesLease op
  next : ∃ next, op.transition? (fleet ev.who).me = some (p, next) ∧ next l t = some l'
  found : (ev.before.bucket .leases).entries.get? p = some stored
  decoded : decode? stored.value = some l
  read : ∃ newer clock middle reading rest, older = newer ++ clock :: (middle ++ reading :: rest) ∧
    clock.number = ev.number ∧ clock.toExchange = ⟨.now, t⟩ ∧
    reading.number = ev.number ∧ reading.Read .leases p ⟨p, stored.value, stored.revision⟩

variable {fleet : Fleet ι} {init : Cluster} {w : World ι} {newer older : List (Event ι)} {ev : Event ι}

theorem turn_of_decided (hw : w.Grows fleet init) (hsound : (init.bucket .leases).Sound)
    (hhistory : w.history = newer ++ ev :: older) {p : String} {value : Bytes} {revision n : Nat}
    (hcall : ev.call? .leases = some ⟨.update p value revision, .ok (some n)⟩) {op : Operation}
    (huses : ev.action.UsesLease op)
    (hdecided : Decided (fleet ev.who).me op p value revision (traceOf ev.number older)) :
    ∃ stored l t l', encode l' = value ∧ Turn fleet older ev p op stored l t l' := by
  obtain ⟨hbefore, c, hx, -⟩ := hw.before hhistory
  have heffect := hx.effect .leases
  rw [show (Exchange.mk ev.request ev.answer).call? .leases = _ from hcall] at heffect
  obtain ⟨stored, hfound, hrevision, -⟩ := Bucket.Effect.of_written heffect
  obtain ⟨next, l, l', past, cancel', e, t, hop, hpast, hl, he, hnext, hvalue⟩ := hdecided
  obtain ⟨newer', clock, older', hclock, hclockNumber, hclockExchange, htrace⟩ :=
    exists_of_traceOf_eq_cons hpast
  obtain ⟨middle, reading, rest, hreading, hreadingNumber, hreadingExchange, -⟩ :=
    exists_of_traceOf_eq_cons htrace
  have holder : older = (newer' ++ clock :: middle) ++ reading :: rest := by
    rw [hclock, hreading, List.append_assoc, List.cons_append]
  have hread : reading.Read .leases p e := by
    rw [Exchange.Read, hreadingExchange]
    rfl
  have hkey := (hbefore.get?_of_read holder hread).1
  have hsame := hbefore.eq_of_read (holder ▸ List.mem_append_right _ List.mem_cons_self) hsound hread
    hfound (hrevision.trans he.symm)
  refine ⟨stored, l, t, l', hvalue, huses, ⟨next, hop, hnext⟩, hfound, hsame ▸ hl, ?_⟩
  refine ⟨newer', clock, middle, reading, rest, by rw [hclock, hreading], hclockNumber,
    hclockExchange, hreadingNumber, ?_⟩
  have : (⟨p, stored.value, stored.revision⟩ : Entry) = e := by
    rw [hsame, hrevision, ← he, ← hkey]
  rwa [this]

theorem decided_of_call (hlaw : Lawful fleet.discipline (newer ++ ev :: older)) {p : String}
    {value : Bytes} {revision n : Nat}
    (hcall : ev.call? .leases = some ⟨.update p value revision, .ok (some n)⟩) :
    ∃ op, ev.action.UsesLease op ∧
      Decided (fleet ev.who).me op p value revision (traceOf ev.number older) := by
  have hlaw := hlaw.of_append.1
  obtain ⟨cancel, hexchange⟩ := Exchange.eq_of_call?_leases hcall
  obtain ⟨g, ⟨request, answer⟩, before⟩ := ev
  cases hexchange
  exact hlaw

theorem exists_turn (hw : w.Grows fleet init) (hsound : (init.bucket .leases).Sound)
    (hlaw : Lawful fleet.discipline w.history) (hhistory : w.history = newer ++ ev :: older)
    {p : String} {value : Bytes} (hev : ev.Updated .leases p value) :
    ∃ op stored l t l', encode l' = value ∧ Turn fleet older ev p op stored l t l' := by
  obtain ⟨revision, n, hcall⟩ := hev
  obtain ⟨op, huses, hdecided⟩ := decided_of_call (hhistory ▸ hlaw) hcall
  exact ⟨op, turn_of_decided hw hsound hhistory hcall huses hdecided⟩

namespace Turn

variable {p : String} {op : Operation} {stored : Stamped} {l l' : Lease} {t : Timestamp}

theorem turns (h : Turn fleet older ev p op stored l t l') :
    op.Turns (fleet ev.who).me p l t l' := by
  obtain ⟨next, hop, hnext⟩ := h.next
  exact Operation.turns_of_transition? hop hnext

theorem time_le (h : Turn fleet older ev p op stored l t l')
    (hbefore : World.Grows fleet init ⟨ev.before, older⟩) : t ≤ ev.before.now := by
  obtain ⟨newer, clock, rest, reading, rest', holder, -, hclock, -⟩ := h.read
  obtain ⟨-, c, hx, hafter⟩ := hbefore.before holder
  obtain ⟨g, ⟨request, answer⟩, before⟩ := clock
  cases hclock
  have ht : (t, c) = (before.now, before) := hx
  obtain ⟨rfl, rfl⟩ := Prod.mk.inj ht
  exact hafter.now_le

theorem eq_of_stores (h : Turn fleet older ev p op stored l t l') {l₀ : Lease}
    (hstores : (ev.before.bucket .leases).Stores p l₀) : l = l₀ :=
  hstores.eq_of_decode h.found h.decoded

theorem value?_eq (h : Turn fleet older ev p op stored l t l') :
    (ev.before.bucket .leases).value? p = some stored.value := by
  rw [Bucket.value?, h.found]
  rfl

end Turn

/-! ## Changes -/

/-- What an event does to what is stored under a partition. -/
inductive Change (fleet : Fleet ι) (older : List (Event ι)) (ev : Event ι) (p : String) :
    Option Bytes → Option Bytes → Prop where
  | kept (v : Option Bytes) (h : ev.outcome? .leases p = none) : Change fleet older ev p v v
  /-- The unowned lease is put where there is none. -/
  | created (hev : ev.Created .leases p (encode (unowned p)))
      (huses : ev.action.UsesLease (.ensure p)) :
      Change fleet older ev p none (some (encode (unowned p)))
  | removed (v : Option Bytes) (h : ev.outcome? .leases p = some none)
      (huses : ev.action.UsesLease (.delete p) ∨ ev.action.UsesLease .deleteStore) :
      Change fleet older ev p v none
  | turned {op : Operation} {stored : Stamped} {l : Lease} {t : Timestamp} {l' : Lease}
      (hev : ev.Updated .leases p (encode l')) (h : Turn fleet older ev p op stored l t l') :
      Change fleet older ev p (some stored.value) (some (encode l'))

theorem Change.after_eq {p : String} {v v' u : Option Bytes} (h : Change fleet older ev p v v')
    (hev : ev.outcome? .leases p = some u) : v' = u := by
  cases h with
  | kept _ hnone => cases hnone.symm.trans hev
  | created hcreated huses => exact Option.some.inj (hcreated.outcome?_eq.symm.trans hev)
  | removed _ hremoved huses => exact Option.some.inj (hremoved.symm.trans hev)
  | turned hupdated hturn => exact Option.some.inj (hupdated.outcome?_eq.symm.trans hev)

theorem created_unowned {c : Cluster}
    (hx : Answers (fleet ev.who).me.owner ev.before ev.request ev.answer c)
    (hlaw : Lawful fleet.discipline (newer ++ ev :: older)) {p : String} {value : Bytes}
    (hev : ev.Created .leases p value) :
    (ev.before.bucket .leases).value? p = none ∧ ev.action.UsesLease (.ensure p) ∧
      value = encode (unowned p) := by
  obtain ⟨n, hcall⟩ := hev
  have heffect := hx.effect .leases
  rw [show (Exchange.mk ev.request ev.answer).call? .leases = _ from hcall] at heffect
  refine ⟨by rw [Bucket.value?, heffect.of_created.1]; rfl, ?_⟩
  have hlaw := hlaw.of_append.1
  obtain ⟨cancel, hexchange⟩ := Exchange.eq_of_call?_leases hcall
  obtain ⟨g, ⟨request, answer⟩, before⟩ := ev
  cases hexchange
  exact hlaw

theorem uses_of_removed (hlaw : Lawful fleet.discipline (newer ++ ev :: older)) {p : String}
    (hev : ev.outcome? .leases p = some none) :
    ev.action.UsesLease (.delete p) ∨ ev.action.UsesLease .deleteStore := by
  have hlaw := hlaw.of_append.1
  rcases Exchange.deleted_or_dropped hev with hcall | hcall
  · obtain ⟨cancel, hexchange⟩ := Exchange.eq_of_call?_leases hcall
    obtain ⟨g, ⟨request, answer⟩, before⟩ := ev
    cases hexchange
    exact .inl hlaw
  · obtain ⟨cancel, hexchange⟩ := Exchange.eq_of_call?_leases hcall
    obtain ⟨g, ⟨request, answer⟩, before⟩ := ev
    cases hexchange
    exact .inr hlaw

theorem change (hw : w.Grows fleet init) (hsound : (init.bucket .leases).Sound)
    (hlaw : Lawful fleet.discipline w.history) (hhistory : w.history = newer ++ ev :: older)
    {c : Cluster} (hx : Answers (fleet ev.who).me.owner ev.before ev.request ev.answer c) (p : String) :
    Change fleet older ev p ((ev.before.bucket .leases).value? p) ((c.bucket .leases).value? p) := by
  have hvalue := hx.value?_eq .leases p
  cases hput : ev.outcome? .leases p with
  | none =>
      rw [show (Exchange.mk ev.request ev.answer).outcome? .leases p = _ from hput] at hvalue
      rw [hvalue]
      exact .kept _ hput
  | some put =>
      rw [show (Exchange.mk ev.request ev.answer).outcome? .leases p = _ from hput] at hvalue
      rw [hvalue]
      cases put with
      | none => exact .removed _ hput (uses_of_removed (hhistory ▸ hlaw) hput)
      | some value =>
          rcases Exchange.updated_or_created hput with hev | hev
          · obtain ⟨op, stored, l, t, l', rfl, hturn⟩ := exists_turn hw hsound hlaw hhistory hev
            rw [hturn.value?_eq]
            exact .turned hev hturn
          · obtain ⟨hnone, huses, rfl⟩ := created_unowned hx (hhistory ▸ hlaw) hev
            rw [hnone]
            exact .created hev huses

/-- What holds in the beginning and is kept by drifts and changes holds in every world. -/
theorem induction_on {P : World ι → Prop} (hw : w.Grows fleet init)
    (hsound : (init.bucket .leases).Sound) (hlaw : Lawful fleet.discipline w.history) (p : String)
    (start : P ⟨init, []⟩)
    (drift : ∀ {w : World ι} {c : Cluster}, Drifts w.cluster c → P w → P ⟨c, w.history⟩)
    (exchange : ∀ {w : World ι} {ev : Event ι} {c : Cluster} {v v' : Option Bytes},
      World.Grows fleet init ⟨ev.before, w.history⟩ → ev.before = w.cluster → c.now = w.cluster.now →
      (w.cluster.bucket .leases).value? p = v → (c.bucket .leases).value? p = v' →
      Change fleet w.history ev p v v' → P w → P ⟨c, ev :: w.history⟩) : P w := by
  induction hw with
  | start => exact start
  | drift hw hc ih => exact drift hc (ih hlaw)
  | @exchange w hw g r x c hx ih =>
      exact exchange hw rfl hx.frame.now rfl rfl
        (change (hw.exchange g hx) hsound hlaw (List.nil_append _).symm hx p) (ih hlaw.2)

end Lease

end PartitionHost
