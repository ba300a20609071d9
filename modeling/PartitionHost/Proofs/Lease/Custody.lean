import PartitionHost.Proofs.Lease.Linear
import PartitionHost.Proofs.Lease.Registered

/-!
# What becomes of a stored lease

In a register and in a bucket alike, a stored lease stays as it is until somebody puts another one in its
place or removes it (`Lease.keeps_or`). Whoever puts one there has made it from the lease that it replaces,
at a time that the clock had shown since that lease was put there (`Lease.Made`): in a register because both
happen at once, in a bucket because an entry is replaced only by those who read it after it was written.
-/

namespace PartitionHost

open Record Cluster

variable {ι : Type}

/-! ## The past of a bucket -/

namespace World.Grows

variable {fleet : Fleet ι} {init : Cluster} {w : World ι} {newer older : List (Event ι)} {ev : Event ι}

theorem now_le_of_event (h : w.Grows fleet init) (hw : w.history = newer ++ ev :: older) :
    ev.before.now ≤ w.cluster.now := by
  obtain ⟨-, c, hx, hafter⟩ := h.before hw
  exact hx.frame.now ▸ hafter.now_le

theorem now_le_of_mem (h : w.Grows fleet init) (hev : ev ∈ w.history) :
    ev.before.now ≤ w.cluster.now := by
  obtain ⟨newer, older, hw⟩ := List.append_of_mem hev
  exact h.now_le_of_event hw

theorem eq_now_of_event (h : w.Grows fleet init) (hw : w.history = newer ++ ev :: older) {t : Timestamp}
    (hev : ev.toExchange = ⟨.now, t⟩) : t = ev.before.now := by
  obtain ⟨-, c, hx, -⟩ := h.before hw
  obtain ⟨g, ⟨request, answer⟩, before⟩ := ev
  cases hev
  exact congrArg Prod.fst (show (t, c) = (before.now, before) from hx)

/-- An entry that is there after a write under its key is younger than the bucket was before it. -/
theorem revision_lt_of_updated (h : w.Grows fleet init) (hw : w.history = newer ++ ev :: older)
    {store : StoreName} {key : String} {value : Bytes} (hev : ev.Updated store key value) {s : Stamped}
    (hs : (w.cluster.bucket store).entries.get? key = some s) :
    (ev.before.bucket store).revision < s.revision := by
  obtain ⟨-, c, hx, hafter⟩ := h.before hw
  obtain ⟨revision, n, hcall⟩ := hev
  have heffect := hx.effect store
  rw [show (Exchange.mk ev.request ev.answer).call? store = _ from hcall] at heffect
  obtain ⟨old, -, -, hwrite⟩ := heffect.of_written
  rcases (hafter.evolves store).entry key s hs with hsame | hyounger
  · rw [hwrite, Bucket.get?_write, if_pos rfl] at hsame
    cases hsame
    exact Nat.lt_succ_self _
  · rw [hwrite] at hyounger
    exact Nat.lt_of_succ_lt hyounger

theorem revision_le_of_read (h : w.Grows fleet init) (hev : ev ∈ w.history) {store : StoreName}
    (hsound : (init.bucket store).Sound) {key : String} {e : Entry} (he : ev.Read store key e) :
    e.revision ≤ (w.cluster.bucket store).revision := by
  obtain ⟨newer, older, hw⟩ := List.append_of_mem hev
  obtain ⟨hbefore, c, hx, hafter⟩ := h.before hw
  have hle := (hbefore.evolves store).sound hsound _ _ (h.get?_of_read hw he).2
  exact Nat.le_trans hle ((hx.evolves store).trans (hafter.evolves store)).revision_le

end World.Grows

namespace Lease.Turn

variable {fleet : Fleet ι} {init : Cluster} {older : List (Event ι)} {ev ev' : Event ι} {p : String}
  {op : Operation} {stored : Stamped} {l l' : Lease} {t : Timestamp}

theorem exists_reading (h : Turn fleet older ev p op stored l t l')
    (hbefore : World.Grows fleet init ⟨ev.before, older⟩) : ∃ n, t = .ofNanos n := by
  obtain ⟨newer, clock, middle, reading, rest, holder, -, hclock, -⟩ := h.read
  exact ⟨_, hbefore.eq_now_of_event holder hclock⟩

/-- Whoever turns a lease in a bucket has read the clock since that lease was written. -/
theorem latest (h : Turn fleet older ev p op stored l t l')
    (hbefore : World.Grows fleet init ⟨ev.before, older⟩) (hsound : (init.bucket .leases).Sound)
    (hev' : ev' ∈ older) {value : Bytes} (hput : ev'.Updated .leases p value) : ev'.before.now ≤ t := by
  obtain ⟨newer, clock, middle, reading, rest, holder, -, hclock, -, hread⟩ := h.read
  obtain ⟨hclockBefore, -⟩ := hbefore.before holder
  have ht := hbefore.eq_now_of_event holder hclock
  rw [holder] at hev'
  rcases List.mem_append.1 hev' with hev' | hev'
  · -- Had the write come after the clock was read, the entry would be younger than the one that was read.
    obtain ⟨newer₁, newer₂, rfl⟩ := List.append_of_mem hev'
    have hsplit : older = newer₁ ++ ev' :: (newer₂ ++ clock :: (middle ++ reading :: rest)) := by
      rw [holder, List.append_assoc, List.cons_append]
    have hyoung := hbefore.revision_lt_of_updated hsplit hput h.found
    have hmem : reading ∈ newer₂ ++ clock :: (middle ++ reading :: rest) := by simp
    have hold := (hbefore.before hsplit).1.revision_le_of_read hmem hsound hread
    exact absurd hyoung (Nat.not_lt.2 hold)
  · rcases List.mem_cons.1 hev' with rfl | hev'
    · exact ht ▸ le_refl _
    · exact ht ▸ hclockBefore.now_le_of_mem hev'

end Lease.Turn

/-! ## Either kind of store -/

/-- This lease is stored under a partition, in the lease store of a kind. -/
def Cluster.Keeps (kind : Site.StoreKind) (c : Cluster) (p : String) (l : Lease) : Prop :=
  match kind with
  | .register => ∃ t, c.leases.register = some t ∧ t.get? p = some l
  | .bucket => (c.bucket .leases).Stores p l

namespace Event

/-- A lease is put in the place of the one that is stored under a partition. -/
def Puts (kind : Site.StoreKind) (p : String) (l : Lease) (ev : Event ι) : Prop :=
  match kind with
  | .register => ∃ me op next old, ev.request = .leaseTable me op ∧
      op.transition? me = some (p, next) ∧ ev.before.Keeps .register p old ∧
      next old ev.before.now = some l
  | .bucket => ev.Updated .leases p (encode l)

/-- What is stored under a partition is removed, if there is anything. -/
def Clears (kind : Site.StoreKind) (p : String) (ev : Event ι) : Prop :=
  match kind with
  | .register => ∃ me op, ev.request = .leaseTable me op ∧ (op = .delete p ∨ op = .deleteStore)
  | .bucket => ev.Removes p

end Event

namespace Lease

variable {kind : Site.StoreKind} {fleet : Fleet ι} {init : Cluster} {w : World ι}
  {newer older : List (Event ι)} {ev : Event ι} {c : Cluster} {p : String} {l l' : Lease}

/-- An event made the lease `l'` from the lease `l` that it replaced, for an operation and at a time. -/
structure Made (kind : Site.StoreKind) (fleet : Fleet ι) (older : List (Event ι)) (ev : Event ι)
    (p : String) (op : Operation) (l : Lease) (t : Timestamp) (l' : Lease) : Prop where
  uses : ev.action.UsesLease op
  turns : op.Turns (fleet ev.who).me p l t l'
  eq_of_keeps : ∀ m, ev.before.Keeps kind p m → l = m
  reading : ∃ n, t = .ofNanos n
  time_le : t ≤ ev.before.now
  latest : ∀ ev' ∈ older, ∀ m, ev'.Puts kind p m → ev'.before.now ≤ t

theorem keeps_unique (h : c.Keeps kind p l) (h' : c.Keeps kind p l') : l = l' := by
  cases kind with
  | register =>
      obtain ⟨t, ht, hl⟩ := h
      obtain ⟨t', ht', hl'⟩ := h'
      cases ht.symm.trans ht'
      exact Option.some.inj (hl.symm.trans hl')
  | bucket => exact Bucket.Stores.unique h h'

theorem Drifts.keeps {c' : Cluster} (h : Drifts c c') : c'.Keeps kind p l ↔ c.Keeps kind p l := by
  cases kind with
  | register => simp only [Cluster.Keeps, h.leaseRegister]
  | bucket => simp only [Cluster.Keeps, h.bucket]

theorem uses_of_leaseTable (hlaw : Lawful fleet.discipline (newer ++ ev :: older)) {me : Claimant}
    {op : Operation} (hr : ev.request = .leaseTable me op) :
    me = (fleet ev.who).me ∧ ev.action.UsesLease op := by
  have hlaw := hlaw.of_append.1
  obtain ⟨g, ⟨request, answer⟩, before⟩ := ev
  obtain rfl : request = .leaseTable me op := hr
  exact hlaw

theorem exists_made (hw : w.Grows fleet init) (hsound : (init.bucket .leases).Sound)
    (hlaw : Lawful fleet.discipline w.history) (hhistory : w.history = newer ++ ev :: older)
    (hev : ev.Puts kind p l') : ∃ op l t, Made kind fleet older ev p op l t l' := by
  obtain ⟨hbefore, -⟩ := hw.before hhistory
  cases kind with
  | register =>
      obtain ⟨me, op, next, old, hr, hop, hold, hnext⟩ := hev
      obtain ⟨rfl, huses⟩ := uses_of_leaseTable (hhistory ▸ hlaw) hr
      refine ⟨op, old, ev.before.now, huses, Operation.turns_of_transition? hop hnext, ?_, ⟨_, rfl⟩,
        le_refl _, ?_⟩
      · exact fun m hm => keeps_unique hold hm
      · exact fun ev' hev' _ _ => hbefore.now_le_of_mem hev'
  | bucket =>
      obtain ⟨op, stored, l, t, l₁, hvalue, hturn⟩ := exists_turn hw hsound hlaw hhistory hev
      obtain rfl := encode_injective hvalue
      refine ⟨op, l, t, hturn.uses, hturn.turns, fun m => hturn.eq_of_stores,
        hturn.exists_reading hbefore, hturn.time_le hbefore, ?_⟩
      exact fun ev' hev' m hput => hturn.latest hbefore hsound hev' hput

namespace Register

variable {me : Claimant} {now : Timestamp} {op : Operation} {t : Table Lease} {q : String}

theorem table_of_perform {next : Lease → Timestamp → Option Lease}
    (hop : op.transition? me = some (q, next)) :
    (perform me now (some t) op).2 = some (transition t q (next · now)).2 := by
  cases op with
  | acquire p => cases hop; rfl
  | renew p => cases hop; rfl
  | release p => cases hop; rfl
  | update p => cases hop; rfl
  | _ => cases hop

theorem get?_transition_of_ne {next : Lease → Option Lease} (hne : p ≠ q) :
    (transition t q next).2.get? p = t.get? p := by
  unfold transition
  split
  · rfl
  · split
    · rw [Table.get?_insert, if_neg hne]
    · rfl

theorem kept_or (hl : t.get? p = some l) :
    (∃ t', (perform me now (some t) op).2 = some t' ∧ t'.get? p = some l) ∨
      (op = .delete p ∨ op = .deleteStore) ∨
      ∃ next l', op.transition? me = some (p, next) ∧ next l now = some l' := by
  cases htransition : op.transition? me with
  | some it =>
      obtain ⟨q, next⟩ := it
      rw [table_of_perform htransition]
      by_cases hq : p = q
      · subst hq
        cases hnext : next l now with
        | none => exact .inl ⟨t, by rw [transition_eq_of_none hl hnext], hl⟩
        | some l' => exact .inr (.inr ⟨next, l', rfl, hnext⟩)
      · exact .inl ⟨_, rfl, (get?_transition_of_ne hq).trans hl⟩
  | none =>
      cases op with
      | storeExists => exact .inl ⟨t, rfl, hl⟩
      | ensureStore => exact .inl ⟨t, rfl, hl⟩
      | deleteStore => exact .inr (.inl (.inr rfl))
      | list => exact .inl ⟨t, rfl, hl⟩
      | ensure q =>
          refine .inl ⟨(PartitionHost.Register.ensure t q (unowned q)).2, rfl, ?_⟩
          unfold PartitionHost.Register.ensure
          split
          · exact hl
          · rename_i hnone
            have hne : p ≠ q := fun hq => by rw [← hq, hl] at hnone; cases hnone
            rw [Table.get?_insert, if_neg hne, hl]
      | delete q =>
          by_cases hq : p = q
          · exact .inr (.inl (.inl (hq ▸ rfl)))
          · exact .inl ⟨t.erase q, rfl, by rw [Table.get?_erase, if_neg hq, hl]⟩
      | _ => cases htransition

end Register

theorem keeps_of_puts (hx : Answers (fleet ev.who).me.owner ev.before ev.request ev.answer c)
    (hev : ev.Puts kind p l) : c.Keeps kind p l := by
  cases kind with
  | register =>
      obtain ⟨me, op, next, old, hr, hop, ⟨t, ht, hold⟩, hnext⟩ := hev
      obtain ⟨g, ⟨request, answer⟩, before⟩ := ev
      obtain rfl : request = .leaseTable me op := hr
      obtain rfl : c = (before.leaseTable me op).2 := congrArg Prod.snd hx
      refine ⟨t.insert p l, ?_, by simp⟩
      change (Register.perform me before.now before.leases.register op).2 = _
      rw [show before.leases.register = some t from ht, Register.table_of_perform hop,
        Register.transition_eq_of_some hold hnext]
  | bucket =>
      change (c.bucket .leases).value? p = _
      rw [hx.value?_eq, Exchange.Updated.outcome?_eq hev, Option.getD_some]

theorem register_eq_of_not {host : String} {r : Site.Request} {x : r.Answer} {c c' : Cluster}
    (hx : Answers host c r x c') (hr : ∀ me op, r ≠ .leaseTable me op) :
    c'.leases.register = c.leases.register := by
  cases r with
  | leaseTable me op => exact absurd rfl (hr me op)
  | leaseBucket cancel call => exact (Called.affects hx).leaseRegister
  | checkpointBucket cancel call => exact (Called.affects hx).leaseRegister
  | checkpointTable op =>
      obtain rfl : c' = (c.checkpointTable op).2 := congrArg Prod.snd hx
      rfl
  | disown partition =>
      obtain rfl : c' = (c.disown host partition).2 := congrArg Prod.snd hx
      rfl
  | own partition lease =>
      obtain rfl : c' = c.own host partition lease := hx
      rfl
  | note n =>
      obtain rfl : c' = { c with notes := n :: c.notes } := hx
      rfl
  | now | elapsed | owned =>
      obtain rfl : c' = c := congrArg Prod.snd hx
      rfl
  | enquire | wait | announce =>
      obtain rfl : c' = c := hx
      rfl

theorem keeps_or (hw : w.Grows fleet init) (hsound : (init.bucket .leases).Sound)
    (hlaw : Lawful fleet.discipline w.history) (hhistory : w.history = newer ++ ev :: older)
    (hx : Answers (fleet ev.who).me.owner ev.before ev.request ev.answer c)
    (hl : ev.before.Keeps kind p l) :
    c.Keeps kind p l ∨ ev.Clears kind p ∨ ∃ l', ev.Puts kind p l' := by
  cases kind with
  | register =>
      obtain ⟨t, ht, hget⟩ := hl
      by_cases hr : ∃ me op, ev.request = .leaseTable me op
      · obtain ⟨me, op, hr⟩ := hr
        obtain ⟨g, ⟨request, answer⟩, before⟩ := ev
        obtain rfl : request = .leaseTable me op := hr
        obtain rfl : c = (before.leaseTable me op).2 := congrArg Prod.snd hx
        have hregister : (before.leaseTable me op).2.leases.register =
            (Register.perform me before.now (some t) op).2 := by
          rw [← show before.leases.register = some t from ht]
          rfl
        have hkept := @Register.kept_or p l me before.now op t hget
        rcases hkept with ⟨t', ht', hget'⟩ | hclears | ⟨next, l', hop, hnext⟩
        · exact .inl ⟨t', hregister.trans ht', hget'⟩
        · exact .inr (.inl ⟨me, op, rfl, hclears⟩)
        · exact .inr (.inr ⟨l', me, op, next, l, rfl, hop, ⟨t, ht, hget⟩, hnext⟩)
      · refine .inl ⟨t, (register_eq_of_not hx ?_).trans ht, hget⟩
        exact fun me op h => hr ⟨me, op, h⟩
  | bucket =>
      have hchange := change hw hsound hlaw hhistory hx p
      generalize hv : (ev.before.bucket .leases).value? p = v at hchange
      generalize hv' : (c.bucket .leases).value? p = v' at hchange
      cases hchange with
      | kept _ _ => exact .inl (hv'.trans (hv.symm.trans hl))
      | created _ _ => cases hv.symm.trans hl
      | removed _ hremoved _ => exact .inr (.inl hremoved)
      | turned hupdated _ => exact .inr (.inr ⟨_, hupdated⟩)

end Lease

end PartitionHost
