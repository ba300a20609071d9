/-!
# Cancellation

An operation may come with a cancellation, which fires at some moment or never. Moments are counted in
milliseconds on a clock that only ever goes forward.
-/

namespace PartitionHost

inductive Cancellation where
  | never
  | firesAt (moment : Nat)
deriving DecidableEq, Repr, Inhabited

namespace Cancellation

def fired : Cancellation → Nat → Bool
  | .never, _ => false
  | .firesAt moment, now => moment ≤ now

def moment? : Cancellation → Option Nat
  | .never => none
  | .firesAt moment => some moment

variable {cancel : Cancellation} {now moment : Nat}

theorem fired_never (now : Nat) : never.fired now = false := rfl

theorem fired_firesAt_eq_false_iff : (firesAt moment).fired now = false ↔ now < moment :=
  decide_eq_false_iff_not.trans Nat.not_le

theorem exists_of_fired (h : cancel.fired now = true) : ∃ moment ≤ now, cancel = firesAt moment := by
  cases cancel with
  | never => cases h
  | firesAt moment => exact ⟨moment, of_decide_eq_true h, rfl⟩

end Cancellation

inductive Wake where
  /-- The time came. -/
  | due
  /-- The cancellation fired first. -/
  | cancelled
deriving DecidableEq, Repr, Inhabited

end PartitionHost
