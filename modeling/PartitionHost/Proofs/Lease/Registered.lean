import PartitionHost.Lease.Register
import PartitionHost.Proofs.Lease.Transition
import PartitionHost.Proofs.Table

/-!
# What operations leave in a register of leases

An operation leaves a lease as it is, or puts it there unowned, or turns it (`Register.of_perform`); nothing
else is found in a register afterwards.
-/

namespace PartitionHost.Lease.Register

variable {me : Claimant} {now : Timestamp} {r : Register Lease} {t : Table Lease} {p q : String}
  {l : Lease}

theorem transition_eq_of_some {next : Lease → Option Lease} {l l' : Lease} (hl : t.get? p = some l)
    (hnext : next l = some l') : transition t p next = (.ok (l', true), t.insert p l') := by
  simp only [transition, hl, hnext]

theorem transition_eq_of_none {next : Lease → Option Lease} (hl : t.get? p = some l)
    (hnext : next l = none) : transition t p next = (.ok (l, false), t) := by
  simp only [transition, hl, hnext]

/-- How an operation may leave a lease under a name in a register. -/
inductive Left (me : Claimant) (now : Timestamp) (r : Register Lease) (op : Operation) (q : String) :
    Lease → Prop where
  | kept {t : Table Lease} {l : Lease} (hr : r = some t) (hl : t.get? q = some l) : Left me now r op q l
  | created (hop : op = .ensure q) : Left me now r op q (unowned q)
  | turned {t : Table Lease} {l l' : Lease} {next : Lease → Timestamp → Option Lease} (hr : r = some t)
      (hl : t.get? q = some l) (hop : op.transition? me = some (q, next)) (h : next l now = some l') :
      Left me now r op q l'

theorem left_of_transition (op : Operation) {next : Lease → Timestamp → Option Lease}
    (hop : op.transition? me = some (p, next)) (h : (transition t p (next · now)).2.get? q = some l) :
    Left me now (some t) op q l := by
  unfold transition at h
  split at h
  · exact .kept rfl h
  · rename_i old hold
    split at h
    · rename_i new hnew
      rw [Table.get?_insert] at h
      split at h
      · rename_i hq
        subst hq
        cases h
        exact .turned rfl hold hop hnew
      · exact .kept rfl h
    · exact .kept rfl h

theorem left_of_perform {op : Operation} (hr : (perform me now r op).2 = some t)
    (hl : t.get? q = some l) : Left me now r op q l := by
  cases r with
  | none =>
      cases op with
      | ensureStore =>
          obtain rfl : Table.empty = t := Option.some.inj hr
          cases hl
      | _ => cases hr
  | some old =>
      cases op with
      | storeExists => exact .kept hr hl
      | ensureStore => exact .kept hr hl
      | deleteStore => cases hr
      | list => exact .kept hr hl
      | ensure p =>
          obtain rfl : (PartitionHost.Register.ensure old p (unowned p)).2 = t := Option.some.inj hr
          unfold PartitionHost.Register.ensure at hl
          split at hl
          · exact .kept rfl hl
          · rw [Table.get?_insert] at hl
            split at hl
            · rename_i hq
              subst hq
              cases hl
              exact .created rfl
            · exact .kept rfl hl
      | delete p =>
          obtain rfl : old.erase p = t := Option.some.inj hr
          rw [Table.get?_erase] at hl
          split at hl
          · cases hl
          · exact .kept rfl hl
      | acquire p =>
          obtain rfl := Option.some.inj hr
          exact left_of_transition (.acquire p) rfl hl
      | renew p =>
          obtain rfl := Option.some.inj hr
          exact left_of_transition (.renew p) rfl hl
      | release p =>
          obtain rfl := Option.some.inj hr
          exact left_of_transition (.release p) rfl hl
      | update p =>
          obtain rfl := Option.some.inj hr
          exact left_of_transition (.update p) rfl hl

end PartitionHost.Lease.Register
