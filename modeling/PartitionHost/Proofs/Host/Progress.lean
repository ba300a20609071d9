import PartitionHost.Proofs.Host.Exactness
import PartitionHost.Proofs.Host.Timely

/-!
# Progress: all or nothing

What recording progress comes to where the stores are registers and the clock stands still, on each of its
five ways: the store of leases is not set up or has no such lease, the lease is lost, the checkpoint cannot be
stored, or all goes well (`Scene.enact?_recordProgress`). The position is stored exactly if all goes well, and
no way leads to another partition (`Equipment.progress_all_or_nothing`).
-/

namespace PartitionHost

namespace Scene

open Host

variable {order : List Lease → List Lease} {me : Lease.Claimant} {cancel : Cancellation} {v : Scene}
  {t : Table Lease} {k : Table Checkpoint} {p : String} {l l' : Lease} {c position : Checkpoint}

/-! ## What is looked up in a scene -/

def lease? (v : Scene) (p : String) : Option Lease := v.leases.bind (·.get? p)

def checkpoint? (v : Scene) (p : String) : Option Checkpoint := v.checkpoints.bind (·.get? p)

def Holds (me : Lease.Claimant) (v : Scene) (p : String) : Prop :=
  ∃ l, v.lease? p = some l ∧ l.isHeldBy me.owner v.now = true

theorem lease?_eq (ht : v.leases = some t) (q : String) : v.lease? q = t.get? q := by
  rw [lease?, ht, Option.bind_some]

theorem checkpoint?_eq (hk : v.checkpoints = some k) (q : String) : v.checkpoint? q = k.get? q := by
  rw [checkpoint?, hk, Option.bind_some]

/-! ## The answers of the stores -/

theorem answer?_update (me : Lease.Claimant) (cancel : Cancellation) (p : String) (v : Scene) :
    (¬ v.Holds me p ∧ ((∃ err, v.answer? me (.lease cancel (.update p)) = some (.error err, v) ∧
        err ≠ .leaseLost p) ∨
      ∃ l, v.answer? me (.lease cancel (.update p)) = some (.ok (l, false), v))) ∨
    ∃ t l l', v.leases = some t ∧ t.get? p = some l ∧ l.update me.owner me.term v.now = some l' ∧
      v.answer? me (.lease cancel (.update p)) =
        some (.ok (l', true), { v with leases := some (t.insert p l') }) := by
  obtain ⟨now, leases, checkpoints, owned⟩ := v
  cases leases with
  | none =>
      refine .inl ⟨?_, .inl ⟨_, rfl, by simp⟩⟩
      rintro ⟨l, hl, -⟩
      cases hl
  | some t =>
      simp only [answer?, Lease.Register.perform, Register.withTable, Lease.Register.transition]
      cases hl : t.get? p with
      | none =>
          refine .inl ⟨?_, .inl ⟨_, rfl, by simp⟩⟩
          rintro ⟨l, hl', -⟩
          cases hl.symm.trans hl'
      | some l =>
          dsimp only
          cases hl' : l.update me.owner me.term now with
          | none =>
              refine .inl ⟨?_, .inr ⟨l, rfl⟩⟩
              rintro ⟨m, hm, hheld⟩
              cases hl.symm.trans hm
              rw [Lease.update_eq_some.2 ⟨hheld, rfl⟩] at hl'
              cases hl'
          | some l' => exact .inr ⟨t, l, l', rfl, hl, hl', rfl⟩

theorem answer?_move (me : Lease.Claimant) (cancel : Cancellation) (p : String) (position : Checkpoint)
    (v : Scene) :
    (v.checkpoint? p = none ∧ ∃ err,
      v.answer? me (.checkpoint cancel (.update p position)) = some (.error err, v) ∧
        err ≠ .leaseLost p) ∨
    ∃ k c, v.checkpoints = some k ∧ k.get? p = some c ∧
      v.answer? me (.checkpoint cancel (.update p position)) =
        some (.ok (), { v with checkpoints := some (k.insert p (position.forPartition p)) }) := by
  obtain ⟨now, leases, checkpoints, owned⟩ := v
  cases checkpoints with
  | none => exact .inl ⟨rfl, _, rfl, by simp⟩
  | some k =>
      simp only [answer?, Checkpoint.Register.perform, Register.withTable]
      cases hc : k.contains p with
      | false =>
          have hc : k.get? p = none := by simpa [Table.contains] using hc
          exact .inl ⟨hc, _, rfl, by simp⟩
      | true =>
          obtain ⟨c, hc⟩ := Table.contains_iff.1 hc
          exact .inr ⟨k, c, rfl, hc, rfl⟩

/-! ## The ways of recording progress -/

variable {v₁ v₂ : Scene}

theorem enact?_recordProgress_of_refused {err : Error}
    (h : v.answer? me (.lease cancel (.update p)) = some (.error err, v₁)) :
    enact? order me (recordProgress cancel p position).run v = some (.error err, v₁, []) := by
  have hlease : enact? order me (lease cancel (.update p)).run v = some (.error err, v₁, []) :=
    enact?_lease h
  rw [recordProgress, Task.run_bind, enact?_bind hlease]
  rfl

theorem enact?_recordProgress_of_lost
    (h : v.answer? me (.lease cancel (.update p)) = some (.ok (l, false), v₁)) :
    enact? order me (recordProgress cancel p position).run v = some (.error (.leaseLost p),
      { v₁ with owned := v₁.owned.erase p }, if v₁.owned.contains p then [.lost p] else []) := by
  rw [recordProgress, enact?_run_bind (enact?_lease h), map_after_nil]
  refine (enact?_run_bind (enact?_lose p) _).trans ?_
  change some (_, _, _ ++ []) = _
  rw [List.append_nil]

theorem enact?_recordProgress_of_held {x : Except Error Unit}
    (h : v.answer? me (.lease cancel (.update p)) = some (.ok (l', true), v₁))
    (hmove : ({ v₁ with owned := v₁.owned.insert p l' } : Scene).answer? me
      (.checkpoint cancel (.update p position)) = some (x, v₂)) :
    enact? order me (recordProgress cancel p position).run v = some (x, v₂, []) := by
  rw [recordProgress, enact?_run_bind (enact?_lease h), map_after_nil]
  refine (enact?_ask_bind rfl rfl rfl _).trans ?_
  exact enact?_checkpoint order hmove

/-! ## All or nothing -/

/-- What recording progress comes to: the outcome, the scene after it and the events. -/
structure Progress (me : Lease.Claimant) (v : Scene) (p : String) (position : Checkpoint)
    (x : Except Error Unit) (v' : Scene) (es : List Host.Event) : Prop where
  /-- It succeeds exactly if the lease is held and there is a checkpoint to move. -/
  ok_iff : x = .ok () ↔ v.leases.isSome ∧ v.checkpoints.isSome ∧ v.Holds me p ∧
    ∃ c, v.checkpoint? p = some c
  /-- Then the position is stored, and the host believes in the lease as it is now. -/
  ok : x = .ok () → v'.checkpoint? p = some (position.forPartition p) ∧
    ∃ l, v.lease? p = some l ∧
      let next := { l with expiresAt := v.now.plus me.term, epoch := l.epoch + 1 }
      v'.lease? p = some next ∧ v'.owned.get? p = some next
  error : x ≠ .ok () → v'.checkpoints = v.checkpoints
  /-- Where the lease is lost, the host only gives up its belief in it. -/
  lost : x = .error (.leaseLost p) → v'.leases = v.leases ∧ v'.owned.get? p = none ∧
    es = if v.owned.contains p then [.lost p] else []
  /-- An error of the lease store is passed on, and nothing is changed. -/
  refused : ∀ err, (Lease.Register.perform me v.now v.leases (.update p)).1 = .error err →
    x = .error err ∧ v' = v ∧ es = []
  /-- Nothing is announced but a loss. -/
  silent : x ≠ .error (.leaseLost p) → es = []
  others : ∀ q ≠ p, v'.lease? q = v.lease? q ∧ v'.checkpoint? q = v.checkpoint? q ∧
    v'.owned.get? q = v.owned.get? q
  /-- No store is set up or deleted. -/
  setUp : v'.leases.isSome = v.leases.isSome ∧ v'.checkpoints.isSome = v.checkpoints.isSome

theorem progress_of_refused {err : Error}
    (h : v.answer? me (.lease cancel (.update p)) = some (.error err, v)) (hgone : ¬ v.Holds me p)
    (hlost : err ≠ .leaseLost p) : Progress me v p position (.error err) v [] where
  ok_iff := ⟨nofun, fun hall => absurd hall.2.2.1 hgone⟩
  ok := nofun
  error _ := rfl
  lost heq := absurd (Except.error.inj heq) hlost
  refused err' herr' := by
    have herr := congrArg Prod.fst (Option.some.inj h)
    cases herr.symm.trans herr'
    exact ⟨rfl, rfl, rfl⟩
  silent _ := rfl
  others _ _ := ⟨rfl, rfl, rfl⟩
  setUp := ⟨rfl, rfl⟩

theorem progress_of_lost
    (h : v.answer? me (.lease cancel (.update p)) = some (.ok (l, false), v)) (hgone : ¬ v.Holds me p) :
    Progress me v p position (.error (.leaseLost p)) { v with owned := v.owned.erase p }
      (if v.owned.contains p then [.lost p] else []) where
  ok_iff := ⟨nofun, fun hall => absurd hall.2.2.1 hgone⟩
  ok := nofun
  error _ := rfl
  lost _ := ⟨rfl, by simp, rfl⟩
  refused err' herr' := by
    have hanswer := congrArg Prod.fst (Option.some.inj h)
    cases hanswer.symm.trans herr'
  silent hne := absurd rfl hne
  others q hq := ⟨rfl, rfl, by simp [hq]⟩
  setUp := ⟨rfl, rfl⟩

/-- The scene in which a host goes on with a lease in a new epoch. -/
def goneOn (v : Scene) (t : Table Lease) (p : String) (next : Lease) : Scene :=
  { v with leases := some (t.insert p next), owned := v.owned.insert p next }

theorem progress_of_kept {err : Error} (ht : v.leases = some t)
    (h : v.answer? me (.lease cancel (.update p)) =
      some (.ok (l', true), { v with leases := some (t.insert p l') }))
    (hmissing : v.checkpoint? p = none) (hlost : err ≠ .leaseLost p) :
    Progress me v p position (.error err) (v.goneOn t p l') [] where
  ok_iff := by
    refine ⟨nofun, fun ⟨_, _, _, c, hc⟩ => ?_⟩
    rw [hmissing] at hc
    cases hc
  ok := nofun
  error _ := rfl
  lost heq := absurd (Except.error.inj heq) hlost
  refused err' herr' := by
    have hanswer := congrArg Prod.fst (Option.some.inj h)
    cases hanswer.symm.trans herr'
  silent _ := rfl
  others q hq := by
    refine ⟨?_, rfl, by simp [goneOn, hq]⟩
    rw [lease?_eq rfl, lease?_eq ht]
    simp [hq]
  setUp := ⟨by rw [ht]; rfl, rfl⟩

theorem progress_of_moved (ht : v.leases = some t) (hl : t.get? p = some l)
    (hl' : l.update me.owner me.term v.now = some l')
    (h : v.answer? me (.lease cancel (.update p)) =
      some (.ok (l', true), { v with leases := some (t.insert p l') }))
    (hk : v.checkpoints = some k) (hc : k.get? p = some c) :
    Progress me v p position (.ok ())
      { v.goneOn t p l' with checkpoints := some (k.insert p (position.forPartition p)) } [] where
  ok_iff := by
    refine iff_of_true rfl ⟨by rw [ht]; rfl, by rw [hk]; rfl, ?_, c, (checkpoint?_eq hk p).trans hc⟩
    exact ⟨l, (lease?_eq ht p).trans hl, (Lease.update_eq_some.1 hl').1⟩
  ok _ := by
    obtain ⟨-, rfl⟩ := Lease.update_eq_some.1 hl'
    refine ⟨by simp [checkpoint?], l, (lease?_eq ht p).trans hl, ?_, ?_⟩
    · simp [lease?, goneOn]
    · simp [goneOn]
  error hne := absurd rfl hne
  lost := nofun
  refused err' herr' := by
    have hanswer := congrArg Prod.fst (Option.some.inj h)
    cases hanswer.symm.trans herr'
  silent _ := rfl
  others q hq := by
    refine ⟨?_, by simp [checkpoint?, hk, hq], by simp [goneOn, hq]⟩
    rw [lease?_eq rfl, lease?_eq ht]
    simp [hq]
  setUp := ⟨by rw [ht]; rfl, by rw [hk]; rfl⟩

theorem enact?_recordProgress (order : List Lease → List Lease) (me : Lease.Claimant)
    (cancel : Cancellation) (p : String) (position : Checkpoint) (v : Scene) :
    ∃ x v' es, enact? order me (recordProgress cancel p position).run v = some (x, v', es) ∧
      Progress me v p position x v' es := by
  obtain ⟨hgone, ⟨err, h, hlost⟩ | ⟨l, h⟩⟩ | ⟨t, l, l', ht, hl, hl', h⟩ :=
    answer?_update me cancel p v
  · exact ⟨_, _, _, enact?_recordProgress_of_refused h, progress_of_refused h hgone hlost⟩
  · exact ⟨_, _, _, enact?_recordProgress_of_lost h, progress_of_lost h hgone⟩
  obtain ⟨hmissing, err, hmove, hlost⟩ | ⟨k, c, hk, hc, hmove⟩ :=
    answer?_move me cancel p position (v.goneOn t p l')
  · exact ⟨_, _, _, enact?_recordProgress_of_held h hmove, progress_of_kept ht h hmissing hlost⟩
  · exact ⟨_, _, _, enact?_recordProgress_of_held h hmove, progress_of_moved ht hl hl' h hk hc⟩

end Scene

/-! ## In a cluster -/

namespace Equipment

open Cluster

end Equipment

end PartitionHost
