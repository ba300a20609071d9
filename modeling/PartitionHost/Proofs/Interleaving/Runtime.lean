import PartitionHost.Proofs.Bucket.Faultless
import PartitionHost.Proofs.Interleaving.Course
import PartitionHost.Proofs.Interleaving.Schedule

/-!
# What the runtime does is a course

When the routine of a task runs to its end, the task has come to its end by answers that a cluster may give
(`Routine.ends_of_run`); between these answers only time passed, and mailboxes and management nodes went on.
-/

namespace PartitionHost

namespace Cluster

/-- The clock goes forward, and mailboxes and nodes may change; nothing else does. -/
structure Passes (c c' : Cluster) : Prop where
  now_le : c.now ≤ c'.now
  leases : c'.leases = c.leases
  checkpoints : c'.checkpoints = c.checkpoints
  owned : ∀ host, (c'.member host).owned = (c.member host).owned

namespace Passes

variable {c c' c'' : Cluster}

theorem refl (c : Cluster) : c.Passes c := ⟨le_refl _, rfl, rfl, fun _ => rfl⟩

theorem trans (h : c.Passes c') (h' : c'.Passes c'') : c.Passes c'' where
  now_le := le_trans h.now_le h'.now_le
  leases := h'.leases.trans h.leases
  checkpoints := h'.checkpoints.trans h.checkpoints
  owned host := (h'.owned host).trans (h.owned host)

theorem drifts (h : c.Passes c') : c.Drifts c' where
  now_le := h.now_le
  leaseRegister := congrArg Vault.register h.leases
  checkpointRegister := congrArg Vault.register h.checkpoints
  bucket store := by
    cases store with
    | leases => simp only [bucket, server?, h.leases]
    | checkpoints => simp only [bucket, server?, h.checkpoints]
  owned := h.owned

end Passes

variable (c : Cluster)

theorem passes_wakeAt (moment : Nat) : c.Passes (c.wakeAt moment) := by
  refine ⟨Timestamp.ofNanos_mono ?_, rfl, rfl, fun _ => rfl⟩
  have := Nat.mul_le_mul_right Duration.nanosPerMilli (Nat.le_max_left c.elapsed moment)
  simp only [wakeAt]
  omega

theorem passes_setMember {host : String} {m : Member} (h : m.owned = (c.member host).owned) :
    c.Passes (c.setMember host m) := by
  refine ⟨le_refl _, rfl, rfl, fun other => ?_⟩
  by_cases hother : other = host
  · subst hother
    rw [← h]
    simp [setMember, member]
  · simp [setMember, member, hother]

theorem passes_setMailbox (host : String) (m : Mailbox) : c.Passes (c.setMailbox host m) :=
  c.passes_setMember rfl

theorem passes_setNode (host : String) (n : ManagementNode) : c.Passes (c.setNode host n) :=
  c.passes_setMember rfl

end Cluster

namespace Routine

open Cluster

variable {α β : Type} {c c' : Cluster}

theorem exists_of_run_bind {t : Routine α} {f : α → Routine β} {b : β}
    (h : (t.bind f).run c = (some b, c')) :
    ∃ a c₁, t.run c = (some a, c₁) ∧ (f a).run c₁ = (some b, c') := by
  rw [run_bind] at h
  split at h
  · rename_i a c₁ ht
    exact ⟨a, c₁, ht, h⟩
  · cases h

theorem passes_of_sleep {cancel : Cancellation} {due : Nat} {w : Wake}
    (h : (sleep cancel due).run c = (some w, c')) :
    c.Passes c' ∧ (w = .cancelled → cancel ≠ .never) := by
  change (if cancel.fired (max due c.elapsed) then _ else _ : Routine Wake).run c = _ at h
  split at h
  · rename_i hfired
    cases h
    refine ⟨c.passes_wakeAt _, ?_⟩
    rintro - rfl
    cases hfired
  · cases h
    exact ⟨c.passes_wakeAt _, nofun⟩

theorem called_of_call {store : StoreName} {cancel : Cancellation} {call : Bucket.Call}
    {x : Except Error call.Reply}
    (h : (callResult <$> Routine.call store cancel call).run c = (some x, c')) :
    ∃ c₁, c.Passes c₁ ∧ Called store cancel call c₁ x c' := by
  obtain ⟨answer, c₂, hcall, hresult⟩ := exists_of_run_bind h
  cases hresult
  obtain ⟨w, c₁, hsleep, hanswer⟩ :=
    exists_of_run_bind (t := sleep cancel (c.elapsed + c.latency store call)) hcall
  obtain ⟨hpasses, hcancel⟩ := passes_of_sleep hsleep
  cases w with
  | cancelled =>
      cases hanswer
      exact ⟨_, hpasses, .cancelled (hcancel rfl)⟩
  | due =>
      cases hanswer
      exact ⟨_, hpasses, .served (.same _)⟩

theorem passes_of_enquire {host : String} {cancel : Cancellation} {q : Enquiry}
    {x : Option (Except Error q.Reply)} (h : (enquire host cancel q).run c = (some x, c')) :
    c.Passes c' := by
  change (if cancel.fired c.elapsed then (.done none : Routine (Option (Except Error q.Reply)))
    else _).run c = _ at h
  split at h
  · cases h
    exact .refl c
  · obtain ⟨failure, c₁, hupdate, hrest⟩ := exists_of_run_bind h
    have hnode : c.Passes c₁ := by
      cases hupdate
      exact c.passes_setNode host _
    obtain ⟨w, c₂, hsleep, hanswer⟩ :=
      exists_of_run_bind (t := sleep cancel (c₁.elapsed + (c₁.member host).node.latency)) hrest
    have hpasses := hnode.trans (passes_of_sleep hsleep).1
    cases w with
    | cancelled =>
        cases hanswer
        exact hpasses
    | due =>
        cases failure with
        | none =>
            cases hanswer
            exact hpasses
        | some e =>
            cases hanswer
            exact hpasses

theorem passes_of_announce {host : String} {e : Host.Event}
    (h : (announce host e).run c = (some (), c')) : c.Passes c' := by
  have hpost := c.passes_setMailbox host ((c.member host).mailbox.post e).2
  obtain ⟨refused, c₁, hupdate, hrest⟩ := exists_of_run_bind (f := _) h
  cases hupdate
  cases hrefused : ((c.member host).mailbox.post e).1 with
  | none =>
      simp only [hrefused] at hrest
      cases hrest
      exact hpost
  | some ticket =>
      simp only [hrefused, run] at hrest
      split at hrest
      · cases hrest
        exact hpost.trans ((Cluster.passes_wakeAt _ _).trans (Cluster.passes_setMailbox _ _ _))
      · cases hrest

/-- Whatever the runtime answers to a request, a cluster may answer. -/
theorem answers_of_run {host : String} {r : Site.Request} {x : r.Answer}
    (h : (answer host r).run c = (some x, c')) :
    ∃ c₁ c₂, c.Passes c₁ ∧ Answers host c₁ r x c₂ ∧ c₂.Passes c' := by
  cases r with
  | leaseTable me op =>
      cases h
      exact ⟨c, _, .refl c, rfl, .refl _⟩
  | checkpointTable op =>
      cases h
      exact ⟨c, _, .refl c, rfl, .refl _⟩
  | leaseBucket cancel call =>
      obtain ⟨c₁, hpasses, hcalled⟩ := called_of_call h
      exact ⟨c₁, c', hpasses, hcalled, .refl c'⟩
  | checkpointBucket cancel call =>
      obtain ⟨c₁, hpasses, hcalled⟩ := called_of_call h
      exact ⟨c₁, c', hpasses, hcalled, .refl c'⟩
  | enquire cancel q => exact ⟨c, c, .refl c, rfl, passes_of_enquire h⟩
  | wait cancel due => exact ⟨c, c, .refl c, rfl, (passes_of_sleep h).1⟩
  | announce e => exact ⟨c, c, .refl c, rfl, passes_of_announce h⟩
  | _ =>
      cases h
      exact ⟨c, _, .refl c, rfl, .refl _⟩

theorem ends_of_run {host : String} {t : Task Site α} {a : α} {c₀ : Cluster} (hc : c₀.Passes c)
    (h : (ofSite host t).run c = (some a, c')) :
    ∃ c₁, t.Ends (Amid Passes host) c₀ a c₁ ∧ c₁.Passes c' := by
  induction t generalizing c c₀ with
  | done b =>
      cases h
      exact ⟨c₀, .done a c₀, hc⟩
  | ask r resume ih =>
      obtain ⟨x, c₃, hanswer, hrest⟩ := exists_of_run_bind h
      obtain ⟨c₁, c₂, hbefore, hx, hafter⟩ := answers_of_run hanswer
      obtain ⟨c₄, hend, hlast⟩ := ih x hafter hrest
      exact ⟨c₄, .ask ⟨c₁, hc.trans hbefore, hx⟩ hend, hlast⟩

theorem ends_amid_drifts_of_run {host : String} {t : Task Site α} {a : α} {c₀ : Cluster}
    (hc : c₀.Passes c) (h : (ofSite host t).run c = (some a, c')) :
    ∃ c₁, t.Ends (Amid Drifts host) c₀ a c₁ ∧ c₁.Passes c' := by
  obtain ⟨c₁, hend, hlast⟩ := ends_of_run hc h
  exact ⟨c₁, hend.mono fun _ _ _ _ ⟨c, hpasses, hx⟩ => ⟨c, hpasses.drifts, hx⟩, hlast⟩

theorem exists_course_of_run {e : Equipment} {p : Host.Program α} {x : Except Error α}
    (h : (ofSite e.me.owner (e.run p)).run c = (some x, c')) :
    ∃ s, p.run.Ends (I := Host.Surroundings) (e.Continues Passes) ⟨c, []⟩ x s ∧ s.cluster.Passes c' := by
  obtain ⟨c₁, hend, hlast⟩ := ends_of_run (.refl c) h
  obtain ⟨past, hcourse⟩ := Equipment.exists_course hend []
  exact ⟨⟨c₁, past⟩, hcourse, hlast⟩

/-- Runs a task of a host and recounts what it asked of its surroundings, after what it had asked before. -/
def recount (e : Equipment) : Task Host.Surroundings α → List (Exchange Host.Surroundings) →
    Routine (α × List (Exchange Host.Surroundings))
  | .done a, past => .done (a, past)
  | .ask r resume, past =>
    (ofSite e.me.owner (e.serve r)).bind fun x => recount e (resume x) (⟨r, x⟩ :: past)

theorem ends_of_recount {e : Equipment} {t : Task Host.Surroundings α} {a : α} {c₀ : Cluster}
    {past past' : List (Exchange Host.Surroundings)} (hc : c₀.Passes c)
    (h : (recount e t past).run c = (some (a, past'), c')) :
    ∃ c₁, t.Ends (e.Continues Passes) ⟨c₀, past⟩ a ⟨c₁, past'⟩ ∧ c₁.Passes c' := by
  induction t generalizing c c₀ past with
  | done b =>
      cases h
      exact ⟨c₀, .done a _, hc⟩
  | ask r resume ih =>
      obtain ⟨x, c₂, hserve, hrest⟩ := exists_of_run_bind h
      obtain ⟨c₁, hend, hpasses⟩ := ends_of_run hc hserve
      obtain ⟨c₃, hrest, hlast⟩ := ih x hpasses hrest
      exact ⟨c₃, .ask ⟨hend, rfl⟩ hrest, hlast⟩

end Routine

end PartitionHost
