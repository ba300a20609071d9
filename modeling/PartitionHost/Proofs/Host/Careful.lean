import PartitionHost.Proofs.Lease.Belief

/-!
# Hosts are careful with what they believe

Each program of a host is careful by itself, and leaves all settled (`Equipment.Minds`). What a host writes
it writes by the four transitions, so these are looked at one by one; the rest of a program can neither
write a lease nor change a belief.
-/

namespace PartitionHost

open Lease Lease.Bucketed

namespace Host

def Request.IsMild (me : Claimant) : Request → Prop
  | .lease _ op => op.transition? me = none
  | .own _ _ | .disown _ => False
  | _ => True

theorem asks_mild_bootstrap (me : Claimant) (owner : String) (start : Position)
    {cancel : Cancellation} : (bootstrap owner start cancel).run.Asks (Request.IsMild me) := by
  refine (asks_bootstrap owner start).mono fun r hr => ?_
  cases r with
  | lease cancel' op =>
      cases op with
      | ensureStore => rfl
      | ensure p => rfl
      | _ => cases hr
  | own p l => cases hr
  | disown p => cases hr
  | _ => trivial

theorem along_outcome_bind {J : Interface} {law : List (Exchange J) → J.Request → Prop}
    {answer : (r : Request) → Task J r.Answer} {α β : Type} {p : Program α}
    {f : Except Error α → Program β} {mid : Except Error α → List (Exchange J) → Prop}
    {post : Except Error β → List (Exchange J) → Prop} {past : List (Exchange J)}
    (hp : (p.run.serve (I := Surroundings) answer).Along law mid past)
    (hnext : ∀ x past, mid x past → ((f x).run.serve (I := Surroundings) answer).Along law post past) :
    ((outcome p >>= f).run.serve (I := Surroundings) answer).Along law post past := by
  have houtcome : (outcome p).run = p.run.bind fun x => .done (.ok x) := rfl
  rw [Task.run_bind, houtcome, Task.bind_assoc, Task.serve_bind, Task.along_bind]
  exact hp.mono (fun _ _ => id) hnext

end Host

namespace Equipment

open Host (Program Surroundings)

variable (e : Equipment)

/-! ## What is mild -/

theorem asks_anonymous_lease {cancel : Cancellation} {op : Operation}
    (h : op.transition? e.me = none) : (e.lease cancel op).Asks Site.Request.IsAnonymous := by
  have hdiscipline : (e.lease cancel op).Along (discipline e.me (op = ·)) (fun _ _ => True) [] :=
    e.along_lease rfl []
  have hbeliefs : (e.lease cancel op).Along (fun _ r => ¬ Site.Request.IsOfBeliefs r)
      (fun _ _ => True) [] :=
    (e.asks_lease cancel op).along_of_forall (fun _ _ => And.right) []
  refine (hdiscipline.and hbeliefs).asks fun past r ⟨hdiscipline, hbeliefs⟩ => ?_
  cases r with
  | leaseBucket cancel' c =>
      cases c with
      | update key value revision =>
          obtain ⟨op', rfl, next, l, l', older, cancel', en, t, hop, -⟩ := hdiscipline
          rw [h] at hop
          cases hop
      | create key value => exact hdiscipline.2
      | _ => trivial
  | own p l => exact hbeliefs trivial
  | disown p => exact hbeliefs trivial
  | _ => trivial

theorem asks_anonymous_serve (r : Host.Request) (h : r.IsMild e.me) :
    (e.serve r).Asks Site.Request.IsAnonymous := by
  cases r with
  | lease cancel op => exact e.asks_anonymous_lease h
  | checkpoint cancel op =>
      exact (e.asks_checkpoint cancel op).mono fun _ h => Site.Request.isAnonymous_of_not h.1 h.2
  | hub cancel =>
      exact (Site.asks_enquire e.patience cancel _).mono fun _ h =>
        Site.Request.isAnonymous_of_not h.1 h.2.2
  | range cancel partition =>
      exact (Site.asks_enquire e.patience cancel _).mono fun _ h =>
        Site.Request.isAnonymous_of_not h.1 h.2.2
  | own p l => cases h
  | disown p => cases h
  | _ => exact ⟨trivial, fun _ => trivial⟩

theorem asks_mild_serve (r : Host.Request) (h : r.IsMild e.me) :
    (e.serve r).Asks Site.Request.IsMild :=
  (e.asks_anonymous_serve r h).mono fun _ => Site.Request.IsAnonymous.isMild

/-! ## What minds -/

/-- A program of a host is careful when all is settled, and leaves it so. -/
def Minds {α : Type} (p : Program α) : Prop :=
  ∀ past, Settled e.me past → (p.run.serve (I := Surroundings) e.serve).Along (Careful e.me)
    (fun _ past => Settled e.me past) past

variable {e} {α β : Type}

theorem Minds.bind {p : Program α} {f : α → Program β} (hp : e.Minds p) (hf : ∀ a, e.Minds (f a)) :
    e.Minds (p >>= f) := fun past hpast =>
  (hp past hpast).run_bind (fun _ _ => id) fun a past => hf a past

theorem Minds.outcome_bind {p : Program α} {f : Except Error α → Program β} (hp : e.Minds p)
    (hf : ∀ x, e.Minds (f x)) : e.Minds (Host.outcome p >>= f) := fun past hpast =>
  Host.along_outcome_bind (hp past hpast) fun x past => hf x past

theorem minds_of_asks {p : Program α} (h : p.run.Asks (Host.Request.IsMild e.me)) : e.Minds p :=
  fun _ hpast => stays_settled.along (h.serve e.asks_mild_serve) hpast

/-! ## Beliefs -/

variable {p : String} {past : List (Exchange Site)}

theorem along_own {l : Lease} (h : SettledBut e.me p past) (hwrote : LastWrote p l past)
    (howner : l.owner = e.me.owner) :
    ((Host.ask (.own p l)).run.serve (I := Surroundings) e.serve).Along (Careful e.me)
      (fun _ past => Settled e.me past) past :=
  ⟨⟨hwrote, howner⟩, fun _ => h.settled (.inl ⟨l, rfl⟩)⟩

theorem along_lose (h : SettledBut e.me p past) :
    ((Host.lose p).run.serve (I := Surroundings) e.serve).Along (Careful e.me)
      (fun _ past => Settled e.me past) past := by
  have hdisown : ((Host.ask (.disown p)).run.serve (I := Surroundings) e.serve).Along (Careful e.me)
      (fun _ past => Settled e.me past) past := ⟨trivial, fun _ => h.settled (.inr rfl)⟩
  refine hdisown.run_bind (fun _ _ => id) fun held past hpast => ?_
  refine minds_of_asks ?_ past hpast
  split
  · exact Host.asks_ask trivial
  · trivial

/-! ## Transitions -/

variable {keep : List (Exchange Site) → Prop} {cancel : Cancellation}

theorem along_acquire (hleases : e.leases = .bucket) (h : Stays e.me keep) (hpast : keep past) :
    ((Host.lease cancel (.acquire p)).run.serve (I := Surroundings) e.serve).Along (Careful e.me)
      (Turned e.me cancel (.acquire p) keep p) past := by
  rw [serve_lease, lease, hleases]
  exact Bucketed.along_acquire (h.lets cancel _ p) hpast

theorem along_renew (hleases : e.leases = .bucket) (h : Stays e.me keep) (hpast : keep past) :
    ((Host.lease cancel (.renew p)).run.serve (I := Surroundings) e.serve).Along (Careful e.me)
      (Turned e.me cancel (.renew p) keep p) past := by
  rw [serve_lease, lease, hleases]
  exact Bucketed.along_transition rfl (h.lets cancel _ p) _ hpast

theorem along_update (hleases : e.leases = .bucket) (h : Stays e.me keep) (hpast : keep past) :
    ((Host.lease cancel (.update p)).run.serve (I := Surroundings) e.serve).Along (Careful e.me)
      (Turned e.me cancel (.update p) keep p) past := by
  rw [serve_lease, lease, hleases]
  exact Bucketed.along_transition rfl (h.lets cancel _ p) _ hpast

theorem along_release (hleases : e.leases = .bucket) (h : Stays e.me keep) (hpast : keep past) :
    ((Host.lease cancel (.release p)).run.serve (I := Surroundings) e.serve).Along (Careful e.me)
      (fun _ past => (∃ l, JustWrote e.me cancel (.release p) keep p l past) ∨ keep past) past := by
  rw [serve_lease, lease, hleases]
  change ((perform e.me (.release p)).run.serve _).Along _ _ _
  rw [perform, Task.run_bind, Task.serve_bind, Task.along_bind]
  refine (Bucketed.along_transition rfl (h.lets cancel (.release p) p) _ hpast).mono
    (fun _ _ => id) fun x past hx => ?_
  rcases x with e' | ⟨l, _ | _⟩
  · exact .inr hx
  · exact .inr hx
  · exact .inl ⟨l, hx⟩

/-! ## Programs of hosts -/

theorem minds_renewAll (hleases : e.leases = .bucket) (ps : List String) :
    e.Minds (Host.renewAll cancel ps) := by
  induction ps with
  | nil => exact fun _ => id
  | cons p ps ih =>
      intro past hpast
      refine Host.along_outcome_bind (along_renew hleases stays_settled hpast) fun x past hx => ?_
      rcases x with fault | ⟨l, _ | _⟩
      · have hx : Settled e.me past := hx
        cases fault with
        | notFound key => exact (along_lose (hx.but p)).run_bind (fun _ _ => id) fun _ => ih
        | cancelled => exact hx
        | _ => exact ih past hx
      · have hx : Settled e.me past := hx
        exact (along_lose (hx.but p)).run_bind (fun _ _ => id) fun _ => ih
      · have hx : JustWrote e.me cancel (.renew p) (Settled e.me) p l past := hx
        exact (along_own (hx.settledBut stays_settled.settled) hx.lastWrote (hx.owner nofun)).run_bind
          (fun _ _ => id) fun _ => ih

/-- A lease that is acquired is believed in once its checkpoint is there, or given back. -/
theorem minds_tryAcquire (hleases : e.leases = .bucket) (p : String) :
    e.Minds (Host.tryAcquire cancel p) := by
  intro past hpast
  refine Task.Along.run_bind (along_acquire hleases stays_settled hpast) (fun _ _ => id)
    fun ⟨l, success⟩ past hx => ?_
  cases success with
  | false => exact hx
  | true =>
      -- The lease is written but not believed in while the checkpoint is ensured: it counts as acquired.
      have hx : JustWrote e.me cancel (.acquire p) (Settled e.me) p l past := hx
      have hacquired := hx.acquired (.inl rfl)
      have htaken : Taken e.me p l past :=
        ⟨hx.settled stays_settled.settled hacquired, hacquired, hx.lastWrote, hx.owner nofun⟩
      have hensure : (Host.checkpoint cancel (.ensure p)).run.Asks (Host.Request.IsMild e.me) :=
        Host.asks_checkpoint trivial
      refine Host.along_outcome_bind (stays_taken.along (hensure.serve e.asks_mild_serve) htaken)
        fun position past htaken => ?_
      cases position with
      | ok position =>
          exact (along_own (htaken.settled.but p) htaken.lastWrote htaken.owner).run_bind
            (fun _ _ => id) fun _ => minds_of_asks (Host.asks_ask trivial)
      | error fault =>
          refine Host.along_outcome_bind (along_release hleases stays_taken htaken) fun x past hx => ?_
          rcases hx with ⟨l', hx⟩ | hx
          · exact hx.settled stays_taken.settled (hx.acquired (.inr fun _ h => h.acquired))
          · exact hx.settled

theorem minds_acquireUpTo (hleases : e.leases = .bucket) (share : Nat) (ps : List String) :
    e.Minds (Host.acquireUpTo share cancel ps) := by
  induction ps with
  | nil => exact fun _ => id
  | cons p ps ih =>
      refine Minds.bind (minds_of_asks (Host.asks_ask trivial)) fun owned => ?_
      split
      · exact fun _ => id
      · refine (minds_tryAcquire hleases p).outcome_bind fun x => ?_
        split
        · exact fun _ => id
        · exact ih

theorem minds_scan (hleases : e.leases = .bucket) (owner : String) :
    e.Minds (Host.scan owner cancel) := by
  refine Minds.bind (minds_of_asks (Host.asks_ask trivial)) fun owned => ?_
  refine (minds_renewAll hleases _).bind fun _ => ?_
  refine Minds.bind (minds_of_asks (Host.asks_lease rfl)) fun leases => ?_
  refine Minds.bind (minds_of_asks (Host.asks_ask trivial)) fun now => ?_
  refine (minds_acquireUpTo hleases _ _).bind fun _ => ?_
  exact minds_of_asks (Task.asks_run_bind (Host.asks_ask trivial) fun _ => Host.asks_ask trivial)

theorem minds_recordProgress (hleases : e.leases = .bucket) (p : String) (position : Checkpoint) :
    e.Minds (Host.recordProgress cancel p position) := by
  intro past hpast
  refine Task.Along.run_bind (along_update hleases stays_settled hpast) (fun _ _ => id)
    fun ⟨l, held⟩ past hx => ?_
  cases held with
  | false =>
      have hx : Settled e.me past := hx
      exact (along_lose (hx.but p)).run_bind (fun _ _ => id) fun _ _ => id
  | true =>
      have hx : JustWrote e.me cancel (.update p) (Settled e.me) p l past := hx
      exact (along_own (hx.settledBut stays_settled.settled) hx.lastWrote (hx.owner nofun)).run_bind
        (fun _ _ => id) fun _ => minds_of_asks (Host.asks_checkpoint trivial)

theorem minds_releaseAll (hleases : e.leases = .bucket) (ps : List String) :
    e.Minds (Host.releaseAll ps) := by
  induction ps with
  | nil => exact fun _ => id
  | cons p ps ih =>
      intro past hpast
      refine Host.along_outcome_bind (along_release hleases stays_settled hpast) fun x past hx => ?_
      -- Whether or not the release was written, the belief goes next.
      have hbut : SettledBut e.me p past := by
        rcases hx with ⟨l, hx⟩ | hx
        · exact hx.settledBut stays_settled.settled
        · exact hx.but p
      exact (along_lose hbut).run_bind (fun _ _ => id) fun _ => ih

theorem minds_shutdown (hleases : e.leases = .bucket) : e.Minds Host.shutdown :=
  Minds.bind (minds_of_asks (Host.asks_ask trivial)) fun _ => minds_releaseAll hleases _

theorem minds_bootstrap (owner : String) (start : Position) :
    e.Minds (Host.bootstrap owner start cancel) :=
  minds_of_asks (Host.asks_mild_bootstrap e.me owner start)

theorem along_careful (hleases : e.leases = .bucket) {a : Action} (ha : a.IsOfHost) :
    (e.task a).Along (Careful e.me) (fun _ past => Settled e.me past) [] := by
  cases a with
  | bootstrap start cancel => exact minds_bootstrap _ start [] settled_nil
  | scan cancel => exact minds_scan hleases _ [] settled_nil
  | recordProgress cancel p position => exact minds_recordProgress hleases p position [] settled_nil
  | shutdown => exact minds_shutdown hleases [] settled_nil
  | lease cancel op => cases ha
  | checkpoint cancel op => cases ha

end Equipment

end PartitionHost
