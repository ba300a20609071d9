import PartitionHost.Lease.Operation
import PartitionHost.Proofs.Time.TimestampOrder

/-!
# When a transition is allowed, and what it makes of a lease

Only an available lease is acquired, and only a lease that is held goes on or goes back (`Operation.Turns`).
So nobody turns the lease of somebody else before it expires (`Operation.Turns.owner_of_live`).
-/

namespace PartitionHost.Lease

variable {l l' : Lease} {owner : String} {term : Duration} {now : Timestamp}

theorem isAvailable_iff : l.isAvailable now = true ↔ l.owner = "" ∨ l.expiresAt < now := by
  simp [isAvailable]

theorem isHeldBy_iff :
    l.isHeldBy owner now = true ↔ l.owner ≠ "" ∧ now ≤ l.expiresAt ∧ l.owner = owner := by
  simp [isHeldBy, isAvailable, and_assoc]

theorem acquire_eq_some : l.acquire owner term now = some l' ↔ l.isAvailable now = true ∧
    { l with owner := owner, expiresAt := now.plus term, epoch := l.epoch + 1 } = l' := by
  simp [acquire]

theorem renew_eq_some : l.renew owner term now = some l' ↔ l.isHeldBy owner now = true ∧
    { l with expiresAt := now.plus term } = l' := by
  simp [renew]

theorem update_eq_some : l.update owner term now = some l' ↔ l.isHeldBy owner now = true ∧
    { l with expiresAt := now.plus term, epoch := l.epoch + 1 } = l' := by
  simp only [update, Option.map_eq_some_iff, renew_eq_some]
  constructor
  · rintro ⟨next, ⟨hheld, rfl⟩, rfl⟩
    exact ⟨hheld, rfl⟩
  · rintro ⟨hheld, rfl⟩
    exact ⟨_, ⟨hheld, rfl⟩, rfl⟩

theorem release_eq_some : l.release owner now = some l' ↔ l.isHeldBy owner now = true ∧
    { l with owner := "", expiresAt := now.minus (.ofSeconds 1) } = l' := by
  simp [release]

/-- The partition and the transition of an operation that has them. -/
def Operation.transition? (me : Claimant) :
    Operation → Option (String × (Lease → Timestamp → Option Lease))
  | .acquire p => some (p, (·.acquire me.owner me.term ·))
  | .renew p => some (p, (·.renew me.owner me.term ·))
  | .release p => some (p, (·.release me.owner ·))
  | .update p => some (p, (·.update me.owner me.term ·))
  | _ => none

/-- The four ways in which an operation turns a lease into another one. -/
inductive Operation.Turns (me : Claimant) (p : String) (l : Lease) (t : Timestamp) :
    Operation → Lease → Prop where
  | acquire (h : l.isAvailable t = true) : Turns me p l t (.acquire p)
      { l with owner := me.owner, expiresAt := t.plus me.term, epoch := l.epoch + 1 }
  | renew (h : l.isHeldBy me.owner t = true) : Turns me p l t (.renew p)
      { l with expiresAt := t.plus me.term }
  | release (h : l.isHeldBy me.owner t = true) : Turns me p l t (.release p)
      { l with owner := "", expiresAt := t.minus (.ofSeconds 1) }
  | update (h : l.isHeldBy me.owner t = true) : Turns me p l t (.update p)
      { l with expiresAt := t.plus me.term, epoch := l.epoch + 1 }

theorem Operation.turns_of_transition? {me : Claimant} {op : Operation} {p : String}
    {next : Lease → Timestamp → Option Lease} (hop : op.transition? me = some (p, next))
    (h : next l now = some l') : op.Turns me p l now l' := by
  cases op with
  | acquire q =>
      cases hop
      obtain ⟨havailable, rfl⟩ := acquire_eq_some.1 h
      exact .acquire havailable
  | renew q =>
      cases hop
      obtain ⟨hheld, rfl⟩ := renew_eq_some.1 h
      exact .renew hheld
  | release q =>
      cases hop
      obtain ⟨hheld, rfl⟩ := release_eq_some.1 h
      exact .release hheld
  | update q =>
      cases hop
      obtain ⟨hheld, rfl⟩ := update_eq_some.1 h
      exact .update hheld
  | _ => cases hop

theorem Operation.exists_next_of_held {me : Claimant} {op : Operation} {p : String}
    {next : Lease → Timestamp → Option Lease} (hop : op.transition? me = some (p, next))
    (hacquire : op ≠ .acquire p) (h : l.isHeldBy me.owner now = true) : ∃ l', next l now = some l' := by
  cases op with
  | acquire q =>
      cases hop
      exact absurd rfl hacquire
  | renew q =>
      cases hop
      exact ⟨_, renew_eq_some.2 ⟨h, rfl⟩⟩
  | release q =>
      cases hop
      exact ⟨_, release_eq_some.2 ⟨h, rfl⟩⟩
  | update q =>
      cases hop
      exact ⟨_, update_eq_some.2 ⟨h, rfl⟩⟩
  | _ => cases hop

namespace Operation.Turns

variable {me : Claimant} {op : Operation} {p : String}

/-- Whoever turns a lease that has an owner and has not expired is its owner, and does not acquire it. -/
theorem owner_of_live (h : op.Turns me p l now l') (howner : l.owner ≠ "") (hlive : now ≤ l.expiresAt) :
    l.owner = me.owner ∧ op ≠ .acquire p := by
  cases h with
  | acquire havailable =>
      rcases isAvailable_iff.1 havailable with hnone | hexpired
      · exact absurd hnone howner
      · exact absurd hlive (not_le_of_gt hexpired)
  | renew hheld => exact ⟨(isHeldBy_iff.1 hheld).2.2, nofun⟩
  | release hheld => exact ⟨(isHeldBy_iff.1 hheld).2.2, nofun⟩
  | update hheld => exact ⟨(isHeldBy_iff.1 hheld).2.2, nofun⟩

theorem owner_eq (h : op.Turns me p l now l') : l'.owner = me.owner ∨ l'.owner = "" := by
  cases h with
  | acquire havailable => exact .inl rfl
  | renew hheld => exact .inl (isHeldBy_iff.1 hheld).2.2
  | release hheld => exact .inr rfl
  | update hheld => exact .inl (isHeldBy_iff.1 hheld).2.2

theorem epoch_le (h : op.Turns me p l now l') : l.epoch ≤ l'.epoch := by
  cases h with
  | acquire havailable => exact Nat.le_succ _
  | renew hheld => exact Nat.le_refl _
  | release hheld => exact Nat.le_refl _
  | update hheld => exact Nat.le_succ _

theorem epoch_le_succ (h : op.Turns me p l now l') : l'.epoch ≤ l.epoch + 1 := by
  cases h with
  | acquire havailable => exact Nat.le_refl _
  | renew hheld => exact Nat.le_succ _
  | release hheld => exact Nat.le_succ _
  | update hheld => exact Nat.le_refl _

theorem lasts (h : op.Turns me p l now l') (hop : op ≠ .release p) :
    l'.owner = me.owner ∧ l'.expiresAt = now.plus me.term := by
  cases h with
  | acquire havailable => exact ⟨rfl, rfl⟩
  | renew hheld => exact ⟨(isHeldBy_iff.1 hheld).2.2, rfl⟩
  | release hheld => exact absurd rfl hop
  | update hheld => exact ⟨(isHeldBy_iff.1 hheld).2.2, rfl⟩

theorem epoch_eq (h : op.Turns me p l now l') (hheld : l.isHeldBy me.owner now = true) :
    l'.epoch = l.epoch + (decide (op = .update p)).toNat := by
  cases h with
  | acquire havailable => simp [isHeldBy, havailable] at hheld
  | renew _ => rfl
  | release _ => rfl
  | update _ => simp

end Operation.Turns

end PartitionHost.Lease
