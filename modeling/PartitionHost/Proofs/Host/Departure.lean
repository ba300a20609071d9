import PartitionHost.Proofs.Host.Careful
import PartitionHost.Proofs.Interleaving.Runtime
import PartitionHost.Proofs.Lease.Holding
import PartitionHost.Proofs.Table

/-!
# What a host leaves behind

A host that runs until it is cancelled gives back all that it believes it holds. What it still holds when it
is gone are the leases that it acquired without getting a checkpoint for them, and that it was then cancelled
from giving back (`Host.Forsaken`): it never came to believe in those (`Host.holds_iff_forsaken_of_run`).
-/

namespace PartitionHost

open Cluster Lease

namespace Host

/-- A lease was acquired, no checkpoint was had for it, and giving it back was cancelled. -/
def Forsaken (p : String) (l : Lease) (past : List (Exchange Surroundings)) : Prop :=
  ∃ cancel fault newer older, past = newer ++ ⟨.lease cancel (.release p), .error .cancelled⟩ ::
    ⟨.checkpoint cancel (.ensure p), .error fault⟩ :: ⟨.lease cancel (.acquire p), .ok (l, true)⟩ :: older

/--
Whatever the host holds it believes in, or else it has forsaken it, except perhaps one partition; and the
leases that it acquired are its own.
-/
structure Accounted (owner : String) (but : Option String) (s : Course) : Prop where
  serves : s.cluster.Serves
  owner_eq : ∀ cancel p l, ⟨.lease cancel (.acquire p), .ok (l, true)⟩ ∈ s.past → l.owner = owner
  holds : ∀ p l, some p ≠ but → s.cluster.Holds owner p l →
    (s.cluster.member owner).owned.contains p = true ∨ Forsaken p l s.past

variable {owner p : String} {but : Option String} {s s' : Course} {l : Lease}

theorem Forsaken.cons {past : List (Exchange Surroundings)} (h : Forsaken p l past)
    (x : Exchange Surroundings) : Forsaken p l (x :: past) := by
  obtain ⟨cancel, fault, newer, older, rfl⟩ := h
  exact ⟨cancel, fault, x :: newer, older, rfl⟩

namespace Accounted

theorem step (h : Accounted owner but s) (hspares : Spares owner but s.cluster s'.cluster)
    {x : Exchange Surroundings} (hpast : s'.past = x :: s.past)
    (howner : ∀ cancel p l, x = ⟨.lease cancel (.acquire p), .ok (l, true)⟩ → l.owner = owner) :
    Accounted owner but s' where
  serves := hspares.serves
  owner_eq cancel p l hx := by
    rw [hpast, List.mem_cons] at hx
    rcases hx with rfl | hx
    · exact howner cancel p l rfl
    · exact h.owner_eq cancel p l hx
  holds p l hne hl := by
    rw [hspares.owned, hpast]
    exact (h.holds p l hne (hspares.holds p l hne hl)).imp_right fun h => h.cons x

theorem believed_or_forsaken (h : Accounted owner none s) (hl : s.cluster.Holds owner p l) :
    (s.cluster.member owner).owned.contains p = true ∨ Forsaken p l s.past :=
  h.holds p l (Option.some_ne_none p) hl

theorem weaken (h : Accounted owner none s) (but : Option String) : Accounted owner but s :=
  ⟨h.serves, h.owner_eq, fun _ _ _ => h.believed_or_forsaken⟩

theorem all (h : Accounted owner (some p) s)
    (hp : ∀ l, s.cluster.Holds owner p l →
      (s.cluster.member owner).owned.contains p = true ∨ Forsaken p l s.past) :
    Accounted owner none s where
  serves := h.serves
  owner_eq := h.owner_eq
  holds q l _ hl := by
    by_cases hq : q = p
    · subst hq
      exact hp l hl
    · exact h.holds q l (fun h => hq (Option.some.inj h)) hl

end Accounted

end Host

/-! ## Requests -/

namespace Equipment

open Host

variable {e : Equipment} {s s' : Course} {cancel : Cancellation} {p : String}

/-- A host whose owner name is in use nowhere else goes on with its course. -/
abbrev Proceeds (e : Equipment) : (r : Host.Request) → Course → r.Answer → Course → Prop :=
  e.Continues (Respects e.me.owner)

theorem Continues.of_assures {rely : Cluster → Cluster → Prop} {r : Host.Request} {x : r.Answer}
    {post : r.Answer → Cluster → Prop} (h : e.Continues rely r s x s')
    (hpost : (e.serve r).Assures (Amid rely e.me.owner) post s.cluster) : post x s'.cluster :=
  Task.assures_iff.1 hpost x s'.cluster h.1

theorem accounted_of_mild {r : Host.Request} {x : r.Answer} (hr : r.IsMild e.me)
    (h : e.Proceeds r s x s') (howner : e.me.owner ≠ "") {but : Option String}
    (hs : Accounted e.me.owner but s) :
    Accounted e.me.owner but s' ∧ Spares e.me.owner none s.cluster s'.cluster := by
  have hspares := h.of_assures (assures_of_asks (e.asks_anonymous_serve r hr) hs.serves howner)
  refine ⟨hs.step (hspares.weaken but) h.2 ?_, hspares⟩
  rintro cancel p l ⟨⟩
  cases hr

theorem amid_of_beliefs {owner : String} {c c' : Cluster} {r : Site.Request} {x : r.Answer}
    (h : (Site.ask r).Ends (Amid (Respects owner) owner) c x c') (hr : r.IsOfBeliefs) (hc : c.Serves) :
    c'.Serves ∧ (∀ q m, c'.Holds owner q m → c.Holds owner q m) ∧
      (c'.member owner).owned = r.beliefs (c.member owner).owned := by
  obtain ⟨c₁, hrespects, hx⟩ := h.of_request
  have hbucket : c'.bucket .leases = c₁.bucket .leases := by
    have heffect := hx.effect .leases
    cases r with
    | own p l => exact heffect
    | disown p => exact heffect
    | _ => cases hr
  refine ⟨hx.serves (hrespects.serves hc), fun q m hm => ?_, ?_⟩
  · exact hrespects.holds ⟨hbucket ▸ hm.1, hx.frame.now ▸ hm.2⟩
  · rw [hx.frame.owned, hrespects.owned]

theorem accounted_of_own {l : Lease} {x : Unit} (h : e.Proceeds (.own p l) s x s')
    (hs : Accounted e.me.owner (some p) s) : Accounted e.me.owner none s' := by
  obtain ⟨hserves, hholds, howned⟩ := amid_of_beliefs (r := .own p l) h.1 trivial hs.serves
  refine ⟨hserves, fun cancel q m hm => ?_, fun q m _ hm => ?_⟩
  · rw [h.2, List.mem_cons] at hm
    exact hs.owner_eq cancel q m (hm.resolve_left nofun)
  · rw [howned, h.2]
    by_cases hq : q = p
    · exact .inl (Table.contains_insert.2 (.inl hq))
    · exact (hs.holds q m (fun h => hq (Option.some.inj h)) (hholds q m hm)).imp
        (fun h => Table.contains_insert.2 (.inr h)) fun h => h.cons _

theorem accounted_of_disown {x : Bool} (h : e.Proceeds (.disown p) s x s')
    (hs : Accounted e.me.owner none s) (hnot : ∀ m, ¬ s.cluster.Holds e.me.owner p m) :
    Accounted e.me.owner none s' ∧
      (s'.cluster.member e.me.owner).owned = (s.cluster.member e.me.owner).owned.erase p := by
  obtain ⟨hserves, hholds, howned⟩ := amid_of_beliefs (r := .disown p) h.1 trivial hs.serves
  refine ⟨⟨hserves, fun cancel q m hm => ?_, fun q m _ hm => ?_⟩, howned⟩
  · rw [h.2, List.mem_cons] at hm
    exact hs.owner_eq cancel q m (hm.resolve_left nofun)
  · have hq : q ≠ p := by
      rintro rfl
      exact hnot m (hholds q m hm)
    rw [howned, h.2]
    exact (hs.believed_or_forsaken (hholds q m hm)).imp (fun h => Table.contains_erase.2 ⟨hq, h⟩)
      fun h => h.cons _

theorem accounted_of_lease {op : Lease.Operation} {x : Except Error op.Reply}
    {post : Except Error op.Reply → Cluster → Prop} (h : e.Proceeds (.lease cancel op) s x s')
    (hs : Accounted e.me.owner (some p) s)
    (hpost : (e.lease cancel op).Assures (Amid (Respects e.me.owner) e.me.owner)
      (fun x c' => Spares e.me.owner (some p) s.cluster c' ∧ post x c') s.cluster)
    (howner : post x s'.cluster → ∀ cancel' q l, (⟨.lease cancel op, x⟩ : Exchange Surroundings) =
      ⟨.lease cancel' (.acquire q), .ok (l, true)⟩ → l.owner = e.me.owner) :
    Accounted e.me.owner (some p) s' ∧ post x s'.cluster ∧
      (s'.cluster.member e.me.owner).owned = (s.cluster.member e.me.owner).owned ∧
      (Accounted e.me.owner none s →
        (∀ m, s'.cluster.Holds e.me.owner p m → s.cluster.Holds e.me.owner p m) →
        Accounted e.me.owner none s') := by
  obtain ⟨hspares, hx⟩ := h.of_assures hpost
  have hs' := hs.step hspares h.2 (howner hx)
  refine ⟨hs', hx, hspares.owned, fun hall hless => hs'.all fun l hl => ?_⟩
  rw [hspares.owned, h.2]
  exact (hall.believed_or_forsaken (hless l hl)).imp_right fun h => h.cons _

/-! ## Programs -/

variable {α β : Type}

def Keeps (e : Equipment) (p : Program α) : Prop :=
  ∀ s, Accounted e.me.owner none s →
    p.run.Assures (I := Surroundings) e.Proceeds (fun _ s' => Accounted e.me.owner none s') s

theorem Keeps.bind {p : Program α} {f : α → Program β} (hp : e.Keeps p) (hf : ∀ a, e.Keeps (f a)) :
    e.Keeps (p >>= f) := fun s hs =>
  (hp s hs).run_bind (fun _ _ => id) fun a s' => hf a s'

theorem Keeps.outcome_bind {p : Program α} {f : Except Error α → Program β} (hp : e.Keeps p)
    (hf : ∀ x, e.Keeps (f x)) : e.Keeps (outcome p >>= f) := fun s hs =>
  assures_outcome_bind (hp s hs) fun x s' => hf x s'

theorem keeps_of_asks (howner : e.me.owner ≠ "") {p : Program α}
    (h : p.run.Asks (Host.Request.IsMild e.me)) : e.Keeps p := fun _ hs =>
  h.assures (fun _ _ _ _ hr hx hs => (accounted_of_mild hr hx howner hs).1) hs

theorem assures_lose (howner : e.me.owner ≠ "") (hs : Accounted e.me.owner none s)
    (hnot : ∀ m, ¬ s.cluster.Holds e.me.owner p m) :
    (lose p).run.Assures (I := Surroundings) e.Proceeds (fun x s' => x = .ok () ∧
      Accounted e.me.owner none s' ∧
      (s'.cluster.member e.me.owner).owned = (s.cluster.member e.me.owner).owned.erase p) s := by
  refine assures_ask_bind fun held s₁ hx => ?_
  obtain ⟨hs₁, howned⟩ := accounted_of_disown hx hs hnot
  cases held with
  | false => exact ⟨rfl, hs₁, howned⟩
  | true =>
      rintro ⟨⟩ s₂ hy
      obtain ⟨hs₂, hsame⟩ := accounted_of_mild (r := .announce (.lost p)) trivial hy howner hs₁
      exact ⟨rfl, hs₂, hsame.owned.trans howned⟩

theorem keeps_own {l : Lease} (hs : Accounted e.me.owner (some p) s) :
    (Host.ask (.own p l)).run.Assures (I := Surroundings) e.Proceeds
      (fun _ s' => Accounted e.me.owner none s') s :=
  fun _ _ hx => accounted_of_own hx hs

variable (hleases : e.leases = .bucket) (howner : e.me.owner ≠ "")

include hleases howner

theorem keeps_renewAll (ps : List String) : e.Keeps (renewAll cancel ps) := by
  induction ps with
  | nil => exact fun _ hs => hs
  | cons p ps ih =>
      intro s hs
      refine assures_outcome_bind (fun x s' hx => accounted_of_lease hx (hs.weaken _)
        (e.assures_renew hleases howner hs.serves p) (by rintro - cancel' q l ⟨⟩)) ?_
      rintro x s' ⟨hbut, ⟨hnot, hsame⟩, howned, hall⟩
      split
      · exact (keeps_own hbut).run_bind (fun _ _ => id) fun _ => ih
      · have hnone := hnot (fun _ h => nomatch h) fun h => nomatch h
        have hs' := hall hs fun m hm => absurd hm (hnone m)
        exact ((assures_lose howner hs' hnone).imp fun _ _ h => h.2.1).run_bind (fun _ _ => id)
          fun _ => ih
      · have hnone := hnot (fun _ h => nomatch h) fun h => nomatch h
        have hs' := hall hs fun m hm => absurd hm (hnone m)
        exact ((assures_lose howner hs' hnone).imp fun _ _ h => h.2.1).run_bind (fun _ _ => id)
          fun _ => ih
      · exact hall hs (hsame rfl)
      · rename_i hnotFound hcancelled
        refine ih s' (hall hs fun m hm => absurd hm (hnot (fun _ h => nomatch h) ?_ m))
        rintro ⟨⟩
        exact hcancelled rfl

theorem assures_giveBack {l : Lease} {fault : Error} {older : List (Exchange Surroundings)}
    (hs : Accounted e.me.owner (some p) s) (honly : ∀ m, s.cluster.Holds e.me.owner p m → m = l)
    (hpast : s.past = ⟨.checkpoint cancel (.ensure p), .error fault⟩ ::
      ⟨.lease cancel (.acquire p), .ok (l, true)⟩ :: older) :
    (Host.lease cancel (.release p)).run.Assures (I := Surroundings) e.Proceeds
      (fun _ s' => Accounted e.me.owner none s') s := by
  intro x s' hx
  obtain ⟨hbut, ⟨hnot, hless⟩, -, -⟩ := accounted_of_lease hx hs
    (e.assures_release hleases howner hs.serves p) (by rintro - cancel' q l ⟨⟩)
  refine hbut.all fun m hm => .inr ?_
  by_cases hcancelled : x = .error .cancelled
  · subst hcancelled
    obtain rfl := honly m ((hless rfl).2 m hm)
    exact ⟨cancel, fault, [], older, by rw [hx.2, hpast]; rfl⟩
  · exact absurd hm (hnot hcancelled m)

/-- A lease that a host takes it comes to believe in, or gives back, or else it forsakes it. -/
theorem keeps_tryAcquire (p : String) : e.Keeps (tryAcquire cancel p) := by
  intro s hs
  have hacquire : (Host.lease cancel (.acquire p)).run.Assures (I := Surroundings) e.Proceeds
      (fun x s' => _ ∧ s'.past = ⟨.lease cancel (.acquire p), x⟩ :: s.past) s := fun x s' hx =>
    ⟨accounted_of_lease hx (hs.weaken _) (e.assures_acquire hleases howner hs.serves p)
      (by rintro ⟨howner, -⟩ cancel' q l ⟨⟩; exact (howner l rfl).1), hx.2⟩
  refine hacquire.run_bind ?_ ?_
  · rintro error s₁ ⟨⟨-, ⟨-, hless⟩, -, hall⟩, -⟩
    exact hall hs (hless fun _ h => nomatch h)
  · rintro ⟨l, success⟩ s₁ ⟨⟨hbut, ⟨htaken, hless⟩, -, hall⟩, hpast⟩
    cases success with
    | false => exact hall hs (hless fun _ h => nomatch h)
    | true =>
        refine assures_outcome_bind (fun x s₂ hx => And.intro hx.2
          (accounted_of_mild (r := .checkpoint cancel (.ensure p)) trivial hx howner hbut)) ?_
        rintro (fault | position) s₂ ⟨hpast₂, hbut₂, hspares⟩
        · refine assures_outcome_bind (assures_giveBack hleases howner hbut₂ ?_ (hpast ▸ hpast₂)) ?_
          · exact fun m hm => (htaken l rfl).2 m (hspares.held hm)
          · exact fun _ _ => id
        · refine (keeps_own hbut₂).run_bind (fun _ _ => id) fun _ => ?_
          exact keeps_of_asks howner (asks_ask trivial)

theorem keeps_acquireUpTo (share : Nat) (ps : List String) :
    e.Keeps (acquireUpTo share cancel ps) := by
  induction ps with
  | nil => exact fun _ hs => hs
  | cons p ps ih =>
      have howned : e.Keeps (Host.ask .owned) := keeps_of_asks howner (asks_ask trivial)
      refine howned.bind fun owned => ?_
      split
      · exact fun _ hs => hs
      · refine (keeps_tryAcquire hleases howner p).outcome_bind fun x => ?_
        split
        · exact fun _ hs => hs
        · exact ih

theorem keeps_scan : e.Keeps (scan e.me.owner cancel) := by
  have hmild : ∀ r : Host.Request, r.IsMild e.me → e.Keeps (Host.ask r) :=
    fun r hr => keeps_of_asks howner (asks_ask hr)
  refine (hmild .owned trivial).bind fun owned => ?_
  refine (keeps_renewAll hleases howner _).bind fun _ => ?_
  have hlist : e.Keeps (Host.lease cancel .list) := keeps_of_asks howner (Host.asks_lease rfl)
  refine hlist.bind fun leases => ?_
  refine (hmild .now trivial).bind fun now => ?_
  refine (keeps_acquireUpTo hleases howner _ _).bind fun _ => ?_
  exact (hmild .owned trivial).bind fun _ => hmild _ trivial

theorem assures_scanUntilCancelled (interval : Duration) (rounds due : Nat)
    (hs : Accounted e.me.owner none s) :
    (scanUntilCancelled e.me.owner interval cancel rounds due).run.Assures (I := Surroundings)
      e.Proceeds (fun x s' => (∃ b, x = .ok b) ∧ Accounted e.me.owner none s') s := by
  induction rounds generalizing due s with
  | zero => exact ⟨⟨false, rfl⟩, hs⟩
  | succ rounds ih =>
      refine assures_ask_bind fun w s₁ hx => ?_
      have hs₁ := (accounted_of_mild (r := .wait cancel due) trivial hx howner hs).1
      cases w with
      | cancelled => exact ⟨⟨true, rfl⟩, hs₁⟩
      | due =>
          refine assures_ask_bind fun begun s₂ hy => ?_
          have hs₂ := (accounted_of_mild (r := .elapsed) trivial hy howner hs₁).1
          refine assures_outcome_bind (keeps_scan hleases howner s₂ hs₂) fun x s₃ hs₃ => ?_
          split
          · exact ⟨⟨true, rfl⟩, hs₃⟩
          · exact ih _ hs₃

theorem assures_releaseAll (ps : List String) (hs : Accounted e.me.owner none s) :
    (releaseAll ps).run.Assures (I := Surroundings) e.Proceeds (fun x s' => x = .ok () ∧
      Accounted e.me.owner none s' ∧
      ∀ q, (s'.cluster.member e.me.owner).owned.contains q = true →
        (s.cluster.member e.me.owner).owned.contains q = true ∧ q ∉ ps) s := by
  induction ps generalizing s with
  | nil => exact ⟨rfl, hs, fun q hq => ⟨hq, List.not_mem_nil⟩⟩
  | cons p ps ih =>
      refine assures_outcome_bind (fun x s' hx => accounted_of_lease hx (hs.weaken _)
        (e.assures_release hleases howner hs.serves p) (by rintro - cancel' q l ⟨⟩)) ?_
      rintro x s₁ ⟨-, ⟨hnot, hcancelled⟩, howned, hall⟩
      have hnone := hnot fun hx => (hcancelled hx).1 rfl
      have hs₁ := hall hs fun m hm => absurd hm (hnone m)
      refine (assures_lose howner hs₁ hnone).run_bind ?_ ?_
      · rintro error s₂ ⟨⟨⟩, -⟩
      · rintro ⟨⟩ s₂ ⟨-, hs₂, howned₂⟩
        refine (ih hs₂).imp fun x s' ⟨hx, hs', hless⟩ => ⟨hx, hs', fun q hq => ?_⟩
        obtain ⟨hq, hps⟩ := hless q hq
        rw [howned₂, howned, Table.contains_erase] at hq
        exact ⟨hq.2, fun hmem => (List.mem_cons.1 hmem).elim hq.1 hps⟩

theorem assures_shutdown (hs : Accounted e.me.owner none s) :
    shutdown.run.Assures (I := Surroundings) e.Proceeds (fun x s' => x = .ok () ∧
      Accounted e.me.owner none s' ∧
      ∀ q, (s'.cluster.member e.me.owner).owned.contains q ≠ true) s := by
  refine assures_ask_bind fun owned s₁ hx => ?_
  obtain ⟨hs₁, hspares⟩ := accounted_of_mild (r := .owned) trivial hx howner hs
  have howned : owned = (s₁.cluster.member e.me.owner).owned := by
    obtain ⟨c₁, -, hy⟩ := Task.Ends.of_request (I := Site) (r := .owned) hx.1
    cases hy
    rfl
  refine (assures_releaseAll hleases howner _ hs₁).imp fun x s' ⟨hx, hs', hless⟩ => ?_
  refine ⟨hx, hs', fun q hq => ?_⟩
  obtain ⟨hq, hnot⟩ := hless q hq
  exact hnot (Table.mem_names_iff_contains.2 (howned ▸ hq))

/-- When a host stops to run, it believes that it holds nothing, and is accounted for. -/
theorem assures_run (settings : Settings) (rounds : Nat) (hs : Accounted e.me.owner none s)
    (howned : ∀ q, (s.cluster.member e.me.owner).owned.contains q ≠ true) :
    (Host.run e.me.owner settings cancel rounds).run.Assures (I := Surroundings) e.Proceeds
      (fun x s' => x ≠ .ok none → Accounted e.me.owner none s' ∧
        ∀ q, (s'.cluster.member e.me.owner).owned.contains q ≠ true) s := by
  unfold Host.run
  cases settings.validate with
  | error fault => exact fun _ => ⟨hs, howned⟩
  | ok =>
      have hbootstrap : (bootstrap e.me.owner settings.initialPosition cancel).run.Assures
          (I := Surroundings) e.Proceeds (fun _ s' => Accounted e.me.owner none s' ∧
            (s'.cluster.member e.me.owner).owned = (s.cluster.member e.me.owner).owned) s := by
        refine (asks_mild_bootstrap e.me _ _).assures (fun r s₁ x s₂ hr hx hs₁ => ?_) ⟨hs, rfl⟩
        obtain ⟨hs₂, hspares⟩ := accounted_of_mild hr hx howner hs₁.1
        exact ⟨hs₂, hspares.owned.trans hs₁.2⟩
      refine hbootstrap.run_bind ?_ ?_
      · exact fun fault s₁ ⟨hs₁, hsame⟩ _ => ⟨hs₁, hsame ▸ howned⟩
      · rintro ps s₁ ⟨hs₁, -⟩
        refine assures_ask_bind fun start s₂ hx => ?_
        have hs₂ := (accounted_of_mild (r := .elapsed) trivial hx howner hs₁).1
        refine (assures_scanUntilCancelled hleases howner _ _ _ hs₂).run_bind ?_ ?_
        · rintro fault s₃ ⟨⟨b, ⟨⟩⟩, -⟩
        · rintro stopped s₃ ⟨-, hs₃⟩
          cases stopped with
          | false => exact fun hx => absurd rfl hx
          | true =>
              refine assures_ask_bind fun _ s₄ hy => ?_
              have hs₄ := (accounted_of_mild (r := .note _) trivial hy howner hs₃).1
              refine (assures_shutdown hleases howner hs₄).run_bind ?_ ?_
              · rintro fault s₅ ⟨⟨⟩, -⟩
              · exact fun _ s₅ h _ => h.2

end Equipment

namespace Host

variable {e : Equipment} {c : Cluster} {s' : Course} {settings : Settings} {cancel : Cancellation}
  {rounds : Nat} {x : Except Error (Option Unit)}

/--
A host whose owner name is in use nowhere else, and that holds nothing when it begins to run, holds in the
end just those leases that it has forsaken, as far as they are still there and have not expired.
-/
theorem holds_iff_forsaken_of_run (hleases : e.leases = .bucket) (howner : e.me.owner ≠ "")
    (hserves : c.Serves) (hheld : ∀ p l, ¬ c.Holds e.me.owner p l)
    (howned : (c.member e.me.owner).owned = .empty)
    (h : (run e.me.owner settings cancel rounds).run.Ends (I := Surroundings)
      (e.Continues (Respects e.me.owner)) ⟨c, []⟩ x s') (hx : x ≠ .ok none) (p : String) (l : Lease) :
    s'.cluster.Holds e.me.owner p l ↔ (s'.cluster.bucket .leases).Reads p l ∧
      l.isAvailable s'.cluster.now = false ∧ Forsaken p l s'.past := by
  have hs : Accounted e.me.owner none ⟨c, []⟩ :=
    ⟨hserves, fun _ _ _ hx => absurd hx List.not_mem_nil, fun p l _ hl => absurd hl (hheld p l)⟩
  have hnothing : ∀ q, ((⟨c, []⟩ : Course).cluster.member e.me.owner).owned.contains q ≠ true := by
    intro q
    simp [howned, Table.contains_iff]
  obtain ⟨hs', hnone⟩ := Task.assures_iff.1
    (e.assures_run hleases howner settings rounds hs hnothing) x s' h hx
  constructor
  · intro hl
    have havailable := hl.2
    simp only [isHeldBy, Bool.and_eq_true, Bool.not_eq_true'] at havailable
    exact ⟨hl.1, havailable.1, (hs'.believed_or_forsaken hl).resolve_left (hnone p)⟩
  · rintro ⟨hreads, havailable, cancel', fault, newer, older, hpast⟩
    have hown := hs'.owner_eq cancel' p l (by simp [hpast])
    exact ⟨hreads, by simp [isHeldBy, havailable, hown]⟩

end Host

/-! ## Cancelled in the middle of an acquisition -/

theorem Cluster.Passes.respects {c c' : Cluster} (h : c.Passes c') (owner : String) :
    c.Respects owner c' where
  now_le := h.now_le
  owned := h.owned owner
  serves := fun hc => serves_of_server hc (congrArg Vault.server h.leases)
  entry _ _ _ hs _ _ := h.drifts.bucket .leases ▸ hs

/-- Empty buckets, where it takes a second to read a checkpoint; host a knows of one partition. -/
def Cluster.ofSlowCheckpoints : Cluster where
  leases := { server := some { name := "leases", bucket := { created := true } } }
  checkpoints := { server := some {
    name := "checkpoints", bucket := { created := true }, faults := { readLatency := 1000 } } }
  members := .ofList
    [("a", { node := { snapshot := .ofPartitions "orders" ["0"] .epoch } })]

theorem Cluster.serves_ofSlowCheckpoints : Cluster.ofSlowCheckpoints.Serves :=
  ⟨_, _, _, _, rfl, nofun⟩

theorem Cluster.not_holds_ofSlowCheckpoints (owner p : String) (l : Lease) :
    ¬ Cluster.ofSlowCheckpoints.Holds owner p l := not_holds_of_get?_eq_none rfl l

namespace Host

/-- Host a runs with the settings that hosts have by default, until the token fires after 1.5 seconds. -/
def runOfA : Program (Option Unit) := run "a" {} (.firesAt 1500) 1

def routineOfA : Routine (Except Error (Option Unit)) :=
  .ofSite "a" ((Fleet.pair .bucket false).run runOfA)

theorem routineOfA_holds : ∃ c' l,
    routineOfA.run .ofSlowCheckpoints = (some (.ok (some ())), c') ∧ c'.Holds "a" "0" l := by
  have hrun : ((routineOfA.run .ofSlowCheckpoints).1.bind Except.toOption) = some (some ()) := by
    decide +kernel
  have hheld : (((routineOfA.run .ofSlowCheckpoints).2.bucket .leases).entries.get? "0").any (fun s =>
      (Record.decode? s.value).any fun l : Lease =>
        l.isHeldBy "a" (routineOfA.run .ofSlowCheckpoints).2.now) = true := by
    decide +kernel
  obtain ⟨x, hx, hok⟩ := Option.bind_eq_some_iff.1 hrun
  obtain ⟨s, hs, hheld⟩ := (Option.any_eq_true _ _).1 hheld
  obtain ⟨l, hl, hheld⟩ := (Option.any_eq_true _ _).1 hheld
  cases x with
  | error e => cases hok
  | ok y =>
      cases hok
      exact ⟨_, l, Prod.ext hx rfl, ⟨s, hs, hl⟩, hheld⟩

/-- The token fires while host a gets the checkpoint for the lease that it has taken, and it stays held. -/
theorem held_of_run_cancelled : Cluster.ofSlowCheckpoints.Serves ∧
    (∀ p l, ¬ Cluster.ofSlowCheckpoints.Holds "a" p l) ∧
    (Cluster.ofSlowCheckpoints.member "a").owned = .empty ∧
    ∃ c', routineOfA.run .ofSlowCheckpoints = (some (.ok (some ())), c') ∧
      ∃ p l, c'.Holds "a" p l := by
  obtain ⟨c', l, hrun, hholds⟩ := routineOfA_holds
  exact ⟨serves_ofSlowCheckpoints, not_holds_ofSlowCheckpoints "a", rfl, c', hrun, "0", l, hholds⟩

theorem holds_iff_forsaken_of_runOfA : ∃ s', runOfA.run.Ends (I := Surroundings)
      ((Fleet.pair .bucket false).Continues (Respects "a")) ⟨.ofSlowCheckpoints, []⟩
      (.ok (some ())) s' ∧
    (∃ l, Forsaken "0" l s'.past) ∧
    ∀ p l, s'.cluster.Holds "a" p l ↔ (s'.cluster.bucket .leases).Reads p l ∧
      l.isAvailable s'.cluster.now = false ∧ Forsaken p l s'.past := by
  obtain ⟨c', l, hrun, hholds⟩ := routineOfA_holds
  obtain ⟨s', hend, hpasses⟩ := Routine.exists_course_of_run (e := Fleet.pair .bucket false) hrun
  have hend' := hend.mono fun _ _ _ _ hx => hx.mono fun _ _ h => h.respects "a"
  have hiff := holds_iff_forsaken_of_run (e := Fleet.pair .bucket false) rfl (by decide)
    serves_ofSlowCheckpoints (not_holds_ofSlowCheckpoints "a") rfl hend' nofun
  have hheld := (hpasses.respects "a").holds hholds
  exact ⟨s', hend', ⟨l, ((hiff "0" l).1 hheld).2.2⟩, hiff⟩

end Host

end PartitionHost
