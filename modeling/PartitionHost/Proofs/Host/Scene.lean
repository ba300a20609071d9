import PartitionHost.Proofs.Interleaving.Course

/-!
# Scenes: hosts whose stores are registers

While the clock stands still, the stores of a host that are registers and its own beliefs answer in one way
only. A scene is all that these answers depend on; a program is then a function of the scene
(`Scene.result?`), and that is what it comes to in a cluster (`Equipment.result_of_ends`).
-/

namespace PartitionHost

/-- What a host sees of a cluster whose stores are registers. -/
structure Scene where
  now : Timestamp
  leases : Register Lease
  checkpoints : Register Checkpoint
  /-- The leases that the host believes it holds. -/
  owned : Table Lease

namespace Scene

open Host (Surroundings)

/-- What a request is answered in a scene and the scene after it, where that depends on nothing else. -/
def answer? (me : Lease.Claimant) (v : Scene) : (r : Host.Request) → Option (r.Answer × Scene)
  | .lease _ op =>
    let (x, r) := Lease.Register.perform me v.now v.leases op
    some (x, { v with leases := r })
  | .checkpoint _ op =>
    let (x, r) := Checkpoint.Register.perform v.checkpoints op
    some (x, { v with checkpoints := r })
  | .now => some (v.now, v)
  | .owned => some (v.owned, v)
  | .own partition lease => some ((), { v with owned := v.owned.insert partition lease })
  | .disown partition =>
    some (v.owned.contains partition, { v with owned := v.owned.erase partition })
  | .announce _ | .note _ => some ((), v)
  | .hub _ | .range _ _ | .elapsed | .wait _ _ => none

variable {me : Lease.Claimant} {α β : Type}

/-- What a task comes to in a scene, and the scene after it. -/
def result? (me : Lease.Claimant) : Task Surroundings α → Scene → Option (α × Scene)
  | .done a, v => some (a, v)
  | .ask r resume, v => (v.answer? me r).bind fun (x, v) => result? me (resume x) v

theorem result?_bind (t : Task Surroundings α) (f : α → Task Surroundings β) (v : Scene) :
    result? me (t.bind f) v = (result? me t v).bind fun (a, v) => result? me (f a) v := by
  induction t generalizing v with
  | done a => rfl
  | ask r resume ih =>
      simp only [Task.ask_bind, result?, Option.bind_assoc]
      congr 1
      funext ⟨x, v⟩
      exact ih x v

/-! ## Programs that can fail -/

variable {p : Host.Program α} {v v' : Scene}

theorem result?_run_bind {a : α} {f : α → Host.Program β}
    (h : result? me p.run v = some (.ok a, v')) :
    result? me (p >>= f).run v = result? me (f a).run v' := by
  rw [Task.run_bind, result?_bind, h]
  rfl

theorem result?_outcome_bind {x : Except Error α} {f : Except Error α → Host.Program β}
    (h : result? me p.run v = some (x, v')) :
    result? me (Host.outcome p >>= f).run v = result? me (f x).run v' := by
  have houtcome : (Host.outcome p).run = p.run.bind fun x => .done (.ok x) := rfl
  rw [Task.run_bind, houtcome, Task.bind_assoc, result?_bind, h]
  rfl

theorem result?_ask {r : Host.Request} {x : r.Answer} (h : v.answer? me r = some (x, v')) :
    result? me (Host.ask r).run v = some (.ok x, v') := by
  change (v.answer? me r).bind _ = _
  rw [h]
  rfl

end Scene

/-! ## In a cluster -/

namespace Cluster

def scene (c : Cluster) (host : String) : Scene where
  now := c.now
  leases := c.leases.register
  checkpoints := c.checkpoints.register
  owned := (c.member host).owned

/-- Others change nothing that is seen, and the clock does not move. -/
def Rests (c c' : Cluster) : Prop := c.Drifts c' ∧ c'.now = c.now

variable {c c' : Cluster} {host : String}

theorem Rests.scene_eq (h : c.Rests c') (host : String) : c'.scene host = c.scene host := by
  simp only [scene, h.2, h.1.leaseRegister, h.1.checkpointRegister, h.1.owned]

variable {α : Type} {t : Task Site α} {a : α}

theorem now_le_of_ends (h : t.Ends (Amid Drifts host) c a c') : c.now ≤ c'.now := by
  induction h with
  | done a c => exact le_refl _
  | ask hx _ ih =>
      obtain ⟨c₁, hdrifts, hx⟩ := hx
      exact le_trans hdrifts.now_le (le_trans (le_of_eq hx.frame.now.symm) ih)

theorem rests_of_ends (h : t.Ends (Amid Drifts host) c a c') (hnow : c'.now = c.now) :
    t.Ends (Amid Rests host) c a c' := by
  induction h with
  | done a c => exact .done a c
  | ask hx hend ih =>
      obtain ⟨c₁, hdrifts, hx⟩ := hx
      have hle := now_le_of_ends hend
      rw [hnow, hx.frame.now] at hle
      have hstill := le_antisymm hle hdrifts.now_le
      refine .ask ⟨c₁, ⟨hdrifts, hstill⟩, hx⟩ (ih ?_)
      rw [hnow, hx.frame.now, hstill]

theorem owned_of_ends (h : t.Ends (Amid Drifts host) c a c') {other : String} (hne : other ≠ host) :
    (c'.member other).owned = (c.member other).owned := by
  induction h with
  | done a c => rfl
  | ask hx _ ih =>
      obtain ⟨c₁, hdrifts, hx⟩ := hx
      rw [ih, hx.frame.owned_of_ne other hne, hdrifts.owned]

end Cluster

namespace Equipment

open Cluster
open Host (Surroundings)

variable {e : Equipment} {c c' : Cluster}

theorem answer_of_ends (hleases : e.leases = .register) (hcheckpoints : e.checkpoints = .register)
    {r : Host.Request} {x y : r.Answer} {v : Scene}
    (h : (e.serve r).Ends (Amid Rests e.me.owner) c x c')
    (hv : (c.scene e.me.owner).answer? e.me r = some (y, v)) :
    x = y ∧ c'.scene e.me.owner = v := by
  -- A note that may follow changes nothing that is seen.
  have hnote : ∀ {α : Type} (n : Option Note) (x : α) (c : Cluster),
      ((Site.noteIfAny n).bind fun _ => .done x).Assures (Amid Rests e.me.owner)
        (fun y c' => y = x ∧ c'.scene e.me.owner = c.scene e.me.owner) c := by
    rintro α (_ | n) x c
    · exact ⟨rfl, rfl⟩
    · rintro _ c' ⟨c₁, hrests, rfl⟩
      exact ⟨rfl, hrests.scene_eq _⟩
  suffices hall : (e.serve r).Assures (Amid Rests e.me.owner)
      (fun x c' => x = y ∧ c'.scene e.me.owner = v) c from Task.assures_iff.1 hall x c' h
  cases r with
  | lease cancel op =>
      cases hv
      simp only [serve, lease, hleases]
      rintro x c₂ ⟨c₁, hrests, hx⟩
      cases hx
      rw [← hrests.scene_eq]
      refine (hnote _ _ _).imp ?_
      rintro x c' ⟨rfl, hc'⟩
      rw [hc']
      exact ⟨rfl, rfl⟩
  | checkpoint cancel op =>
      cases hv
      simp only [serve, checkpoint, hcheckpoints]
      rintro x c₂ ⟨c₁, hrests, hx⟩
      cases hx
      rw [← hrests.scene_eq]
      refine (hnote _ _ _).imp ?_
      rintro x c' ⟨rfl, hc'⟩
      rw [hc']
      exact ⟨rfl, rfl⟩
  | now =>
      rintro x c₂ ⟨c₁, hrests, hx⟩
      cases hx
      cases hv
      rw [← hrests.scene_eq]
      exact ⟨rfl, rfl⟩
  | owned =>
      rintro x c₂ ⟨c₁, hrests, hx⟩
      cases hx
      cases hv
      rw [← hrests.scene_eq]
      exact ⟨rfl, rfl⟩
  | own partition lease =>
      rintro x c₂ ⟨c₁, hrests, hx⟩
      have hx : c₂ = c₁.own e.me.owner partition lease := hx
      cases hv
      rw [← hrests.scene_eq, hx]
      refine ⟨rfl, ?_⟩
      simp [scene, Cluster.own, setMember, member, Cluster.now]
  | disown partition =>
      rintro x c₂ ⟨c₁, hrests, hx⟩
      cases hx
      cases hv
      rw [← hrests.scene_eq]
      refine ⟨rfl, ?_⟩
      simp [scene, setMember, member, Cluster.now]
  | announce event =>
      rintro x c₂ ⟨c₁, hrests, rfl⟩
      cases hv
      exact ⟨rfl, hrests.scene_eq _⟩
  | note n =>
      rintro x c₂ ⟨c₁, hrests, rfl⟩
      cases hv
      exact ⟨rfl, hrests.scene_eq _⟩
  | hub cancel => cases hv
  | range cancel partition => cases hv
  | elapsed => cases hv
  | wait cancel due => cases hv

/-- A program comes in a cluster to what it comes to in the scene of its host. -/
theorem result_of_ends (hleases : e.leases = .register) (hcheckpoints : e.checkpoints = .register)
    {α : Type} {t : Task Surroundings α} {a b : α} {v : Scene}
    (h : (t.serve e.serve).Ends (Amid Rests e.me.owner) c a c')
    (hv : Scene.result? e.me t (c.scene e.me.owner) = some (b, v)) :
    a = b ∧ c'.scene e.me.owner = v := by
  suffices hall : (t.serve e.serve).Assures (Amid Rests e.me.owner)
      (fun a c' => a = b ∧ c'.scene e.me.owner = v) c from Task.assures_iff.1 hall a c' h
  rw [Task.assures_serve]
  clear h
  induction t generalizing c with
  | done a =>
      cases hv
      exact ⟨rfl, rfl⟩
  | ask r resume ih =>
      obtain ⟨⟨y, w⟩, hanswer, hrest⟩ := Option.bind_eq_some_iff.1 hv
      intro x c₁ hx
      obtain ⟨rfl, rfl⟩ := answer_of_ends hleases hcheckpoints hx hanswer
      exact ih x hrest

end Equipment

end PartitionHost
