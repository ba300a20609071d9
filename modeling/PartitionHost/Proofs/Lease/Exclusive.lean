import PartitionHost.Proofs.Host.Careful
import PartitionHost.Proofs.Interleaving.Schedule
import PartitionHost.Proofs.Lease.Turns

/-!
# No two hosts believe in leases of one partition

What a host believes in is a lease that it has written, and what it has written stays until it expires, for
nobody else turns a lease that has not expired. `Founded` says so of a host and a partition at any moment,
also between a write and what the host puts down of it; each exchange keeps it, be it of the host itself
(`Founded.exchange_self`) or of another one (`Founded.exchange_other`). Between the steps of a run all is
settled, and so at most one host believes in an unexpired lease of a partition (`mutual_exclusion`).
-/

namespace PartitionHost

open Record Cluster

theorem Action.IsOfHost.not_removes {a : Action} (h : a.IsOfHost) (p : String) :
    ¬ (a.UsesLease (.delete p) ∨ a.UsesLease .deleteStore) := by
  cases a with
  | lease cancel op => cases h
  | checkpoint cancel op => cases h
  | _ => rintro (h | h) <;> cases h

theorem Lease.Careful.settled {me : Claimant} {past : List (Exchange Site)} {r : Site.Request}
    (h : Careful me past r) (hr : r.TakesTime) : Settled me past := by
  cases r with
  | own p l => cases hr
  | disown p => cases hr
  | now | elapsed | owned | note => cases hr
  | _ => exact h

variable {ι : Type}

namespace Lease

variable {fleet : Fleet ι} {init : Cluster} {older : List (Event ι)} {ev : Event ι} {p : String}

/-! ## What stays stored -/

theorem Change.stores_of_not_updated {b b' : Bucket}
    (h : Change fleet older ev p (b.value? p) (b'.value? p))
    (hev : ∀ value, ¬ ev.Updated .leases p value) (hhost : ev.action.IsOfHost) {l : Lease}
    (hl : b.Stores p l) : b'.Stores p l := by
  rw [Bucket.Stores] at hl ⊢
  generalize b.value? p = v at h hl
  generalize b'.value? p = v' at h ⊢
  cases h with
  | kept _ _ => exact hl
  | created _ _ => cases hl
  | removed _ _ huses => exact absurd huses (hhost.not_removes p)
  | turned hupdated _ => exact absurd hupdated (hev _)

theorem Turn.owner_of_live {op : Operation} {stored : Stamped} {l l' : Lease} {t : Timestamp}
    (h : Turn fleet older ev p op stored l t l')
    (hbefore : World.Grows fleet init ⟨ev.before, older⟩) {l₀ : Lease}
    (hl : (ev.before.bucket .leases).Stores p l₀) (howner : l₀.owner ≠ "")
    (hlive : ev.before.now ≤ l₀.expiresAt) : l₀.owner = (fleet ev.who).me.owner ∧ op ≠ .acquire p := by
  obtain rfl := h.eq_of_stores hl
  exact h.turns.owner_of_live howner (le_trans (h.time_le hbefore) hlive)

variable {w : World ι} {g : Engagement ι} {r : Site.Request} {x : r.Answer} {c : Cluster}

theorem stores_of_not_updated (hw : w.Grows fleet init) (hsound : (init.bucket .leases).Sound)
    (hx : Answers (fleet g.who).me.owner w.cluster r x c)
    (hlaw : Lawful fleet.discipline (w.record g ⟨r, x⟩ c).history) (hhost : g.action.IsOfHost)
    (hev : ∀ value, ¬ (Exchange.mk (I := Site) r x).Updated .leases p value) {l : Lease}
    (hl : (w.cluster.bucket .leases).Stores p l) : (c.bucket .leases).Stores p l :=
  (change (hw.exchange g hx) hsound hlaw (List.nil_append _).symm hx p).stores_of_not_updated
    hev hhost hl

theorem stores_of_live (hw : w.Grows fleet init) (hsound : (init.bucket .leases).Sound)
    (hx : Answers (fleet g.who).me.owner w.cluster r x c)
    (hlaw : Lawful fleet.discipline (w.record g ⟨r, x⟩ c).history) (hhost : g.action.IsOfHost)
    {l : Lease} (hl : (w.cluster.bucket .leases).Stores p l) (howner : l.owner ≠ "")
    (hother : l.owner ≠ (fleet g.who).me.owner) (hlive : w.cluster.now ≤ l.expiresAt) :
    (c.bucket .leases).Stores p l := by
  refine stores_of_not_updated hw hsound hx hlaw hhost ?_ hl
  intro value hev
  obtain ⟨op, stored, l', t, l'', -, hturn⟩ :=
    exists_turn (hw.exchange g hx) hsound hlaw (List.nil_append _).symm hev
  exact hother (hturn.owner_of_live hw hl howner hlive).1

/-! ## Well-founded beliefs -/

/-- What a host believes of a partition has its grounds, as far as it has not expired. -/
structure Founded (me : Claimant) (p : String) (past : List (Exchange Site)) (c : Cluster) : Prop where
  /-- A lease of its own that the host wrote last is there. -/
  stored : ∀ l, LastWrote p l past → l.owner = me.owner → c.now ≤ l.expiresAt →
    (c.bucket .leases).Stores p l
  /-- The lease that the host believes in is there, unless it has just written another one. -/
  believed : ∀ l, (c.member me.owner).owned.get? p = some l → c.now ≤ l.expiresAt →
    (c.bucket .leases).Stores p l ∧ l.owner = me.owner ∨ Unsettled p past
  /-- A host acquires a lease only when it does not believe in one any more. -/
  acquired : Acquired me p past → ∀ l, (c.member me.owner).owned.get? p = some l → l.expiresAt < c.now

theorem get?_beliefs (h : (Exchange.mk (I := Site) r x).subject? ≠ some p) (t : Table Lease) :
    (r.beliefs t).get? p = t.get? p := by
  cases r with
  | own q l =>
      have hne : p ≠ q := fun heq => h (by rw [heq]; rfl)
      simp [Site.Request.beliefs, hne]
  | disown q =>
      have hne : p ≠ q := fun heq => h (by rw [heq]; rfl)
      simp [Site.Request.beliefs, hne]
  | _ => rfl

namespace Founded

variable {me : Claimant} {past : List (Exchange Site)}

theorem stores_of_settled (h : Founded me p past c) (hsettled : Settled me past) {l : Lease}
    (hl : (c.member me.owner).owned.get? p = some l) (hlive : c.now ≤ l.expiresAt) :
    (c.bucket .leases).Stores p l ∧ l.owner = me.owner := by
  rcases h.believed l hl hlive with hstores | hunsettled
  · exact hstores
  · exact absurd hlive (not_le_of_gt (h.acquired (hsettled p hunsettled) l hl))

theorem start (hfresh : (c.member me.owner).owned = .empty) : Founded me p [] c where
  stored _ h := h.elim
  believed l hl _ := by rw [hfresh] at hl; cases hl
  acquired h := h.elim

theorem drift {c' : Cluster} (h : Founded me p past c) (hc : Drifts c c') : Founded me p past c' where
  stored l hwrote howner hlive := by
    rw [hc.bucket]
    exact h.stored l hwrote howner (le_trans hc.now_le hlive)
  believed l hl hlive := by
    rw [hc.owned] at hl
    rw [hc.bucket]
    exact h.believed l hl (le_trans hc.now_le hlive)
  acquired hacquired l hl := by
    rw [hc.owned] at hl
    exact lt_of_lt_of_le (h.acquired hacquired l hl) hc.now_le

theorem finish (h : Founded me p past c) (hsettled : Settled me past) : Founded me p [] c where
  stored _ h := h.elim
  believed _ hl hlive := .inl (h.stores_of_settled hsettled hl hlive)
  acquired h := h.elim

theorem exchange_other (h : Founded me p past w.cluster) (hw : w.Grows fleet init)
    (hsound : (init.bucket .leases).Sound) (hx : Answers (fleet g.who).me.owner w.cluster r x c)
    (hlaw : Lawful fleet.discipline (w.record g ⟨r, x⟩ c).history) (hhost : g.action.IsOfHost)
    (howner : me.owner ≠ "") (hother : me.owner ≠ (fleet g.who).me.owner) :
    Founded me p past c := by
  have hkept : ∀ l : Lease, l.owner = me.owner → w.cluster.now ≤ l.expiresAt →
      (w.cluster.bucket .leases).Stores p l → (c.bucket .leases).Stores p l := by
    intro l hl hlive hstores
    exact stores_of_live hw hsound hx hlaw hhost hstores (hl ▸ howner) (hl ▸ hother) hlive
  refine ⟨?_, ?_, ?_⟩
  · intro l hwrote hl hlive
    rw [hx.frame.now] at hlive
    exact hkept l hl hlive (h.stored l hwrote hl hlive)
  · intro l hl hlive
    rw [hx.frame.now] at hlive
    rw [hx.frame.owned_of_ne _ hother] at hl
    rcases h.believed l hl hlive with ⟨hstores, howned⟩ | hunsettled
    · exact .inl ⟨hkept l howned hlive hstores, howned⟩
    · exact .inr hunsettled
  · intro hacquired l hl
    rw [hx.frame.owned_of_ne _ hother] at hl
    rw [hx.frame.now]
    exact h.acquired hacquired l hl

theorem exchange_of_subject?_ne (h : Founded me p past w.cluster) (hme : me = (fleet g.who).me)
    (hw : w.Grows fleet init) (hsound : (init.bucket .leases).Sound)
    (hx : Answers (fleet g.who).me.owner w.cluster r x c)
    (hlaw : Lawful fleet.discipline (w.record g ⟨r, x⟩ c).history) (hhost : g.action.IsOfHost)
    (hne : (Exchange.mk (I := Site) r x).subject? ≠ some p) : Founded me p (⟨r, x⟩ :: past) c := by
  have howned : (c.member me.owner).owned.get? p = (w.cluster.member me.owner).owned.get? p := by
    rw [hme, hx.frame.owned, get?_beliefs hne]
  have hnot := not_updated_of_subject? hne
  refine ⟨?_, ?_, ?_⟩
  · intro l hwrote hl hlive
    rw [hx.frame.now] at hlive
    exact stores_of_not_updated hw hsound hx hlaw hhost hnot
      (h.stored l ((lastWrote_cons hnot).1 hwrote) hl hlive)
  · intro l hl hlive
    rw [hx.frame.now] at hlive
    rw [howned] at hl
    rcases h.believed l hl hlive with ⟨hstores, howner⟩ | hunsettled
    · exact .inl ⟨stores_of_not_updated hw hsound hx hlaw hhost hnot hstores, howner⟩
    · exact .inr ((unsettled_cons hne).2 hunsettled)
  · intro hacquired l hl
    rw [howned] at hl
    rw [hx.frame.now]
    exact h.acquired ((acquired_cons hne).1 hacquired) l hl

theorem exchange_updated (h : Founded (fleet g.who).me p (traceOf g.number w.history) w.cluster)
    (hw : w.Grows fleet init) (hsound : (init.bucket .leases).Sound)
    (hx : Answers (fleet g.who).me.owner w.cluster r x c)
    (hlaw : Lawful fleet.discipline (w.record g ⟨r, x⟩ c).history)
    (howner : (fleet g.who).me.owner ≠ "")
    (hsettled : Settled (fleet g.who).me (traceOf g.number w.history)) {value : Bytes}
    (hev : (Exchange.mk (I := Site) r x).Updated .leases p value) :
    Founded (fleet g.who).me p (⟨r, x⟩ :: traceOf g.number w.history) c := by
  have howned : (c.member (fleet g.who).me.owner).owned =
      (w.cluster.member (fleet g.who).me.owner).owned := by
    rw [hx.frame.owned]
    obtain ⟨revision, n, hcall⟩ := hev
    obtain ⟨cancel, hexchange⟩ := Exchange.eq_of_call?_leases hcall
    cases hexchange
    rfl
  refine ⟨?_, ?_, ?_⟩
  · intro l hwrote _ _
    have hl : (Exchange.mk (I := Site) r x).Updated .leases p (encode l) := by
      rcases hwrote with hl | ⟨hnot, -⟩
      · exact hl
      · exact absurd ⟨value, hev⟩ hnot
    rw [Bucket.Stores, hx.value?_eq, hl.outcome?_eq, Option.getD_some]
  · exact fun _ _ _ => .inr (.inl ⟨value, hev⟩)
  · intro hacquired l hl
    rw [howned] at hl
    rw [hx.frame.now]
    rcases hacquired with ⟨value', revision, n, hcall, hdecided⟩ | ⟨-, hacquired⟩
    -- If the old belief were alive, the lease just acquired would have been the host's own and alive
    -- when the host decided, as the clock has not gone back since.
    · by_contra hlive
      obtain ⟨hstores, hmine⟩ := h.stores_of_settled hsettled hl (not_lt.1 hlive)
      have hlaw' : Lawful fleet.discipline ([] ++ ⟨g, ⟨r, x⟩, w.cluster⟩ :: w.history) := hlaw
      obtain ⟨op, huses, hdecided'⟩ := decided_of_call hlaw' hcall
      obtain rfl := hdecided.eq_acquire hdecided'
      obtain ⟨stored, l₁, t, l₂, -, hturn⟩ := turn_of_decided (hw.exchange g hx) hsound
        (List.nil_append _).symm hcall huses hdecided
      exact (hturn.owner_of_live hw hstores (hmine ▸ howner) (not_lt.1 hlive)).2 rfl
    · exact h.acquired hacquired l hl

theorem exchange_own {l : Lease} (h : Founded me p past w.cluster)
    {x : Site.Request.Answer (.own p l)} (hx : Answers me.owner w.cluster (.own p l) x c)
    (hcareful : Careful me past (.own p l)) : Founded me p (⟨.own p l, x⟩ :: past) c := by
  have hbucket : c.bucket .leases = w.cluster.bucket .leases := hx.effect .leases
  have hnot : ∀ value, ¬ (Exchange.mk (I := Site) (.own p l) x).Updated .leases p value :=
    not_updated_of_request id
  have hstored : ∀ l', LastWrote p l' past → l'.owner = me.owner → c.now ≤ l'.expiresAt →
      (c.bucket .leases).Stores p l' := by
    intro l' hwrote howner hlive
    rw [hx.frame.now] at hlive
    rw [hbucket]
    exact h.stored l' hwrote howner hlive
  refine ⟨fun l' hwrote => hstored l' ((lastWrote_cons hnot).1 hwrote), ?_, ?_⟩
  · intro l' hl' hlive
    rw [hx.frame.owned, Site.Request.beliefs, Table.get?_insert, if_pos rfl] at hl'
    obtain rfl := Option.some.inj hl'
    exact .inl ⟨hstored l hcareful.1 hcareful.2 hlive, hcareful.2⟩
  · rintro (⟨value, revision, n, hcall, -⟩ | ⟨hends, -⟩)
    · exact absurd ⟨revision, n, hcall⟩ (hnot value)
    · exact absurd ⟨l, rfl⟩ hends

theorem exchange_disown (h : Founded me p past w.cluster) {x : Site.Request.Answer (.disown p)}
    (hx : Answers me.owner w.cluster (.disown p) x c) : Founded me p (⟨.disown p, x⟩ :: past) c := by
  have hbucket : c.bucket .leases = w.cluster.bucket .leases := hx.effect .leases
  have hnone : (c.member me.owner).owned.get? p = none := by
    rw [hx.frame.owned, Site.Request.beliefs, Table.get?_erase, if_pos rfl]
  have hnot : ∀ value, ¬ (Exchange.mk (I := Site) (.disown p) x).Updated .leases p value :=
    not_updated_of_request id
  refine ⟨?_, ?_, ?_⟩
  · intro l hwrote howner hlive
    rw [hx.frame.now] at hlive
    rw [hbucket]
    exact h.stored l ((lastWrote_cons hnot).1 hwrote) howner hlive
  · intro l hl
    rw [hnone] at hl
    cases hl
  · intro _ l hl
    rw [hnone] at hl
    cases hl

/-- What a host exchanges itself leaves its beliefs with their grounds. -/
theorem exchange_self (h : Founded (fleet g.who).me p (traceOf g.number w.history) w.cluster)
    (hw : w.Grows fleet init) (hsound : (init.bucket .leases).Sound)
    (hx : Answers (fleet g.who).me.owner w.cluster r x c)
    (hlaw : Lawful fleet.discipline (w.record g ⟨r, x⟩ c).history) (hhost : g.action.IsOfHost)
    (howner : (fleet g.who).me.owner ≠ "")
    (hcareful : Careful (fleet g.who).me (traceOf g.number w.history) r) :
    Founded (fleet g.who).me p (⟨r, x⟩ :: traceOf g.number w.history) c := by
  by_cases hsubject : (Exchange.mk (I := Site) r x).subject? = some p
  · rcases Exchange.of_subject?_eq hsubject with ⟨value, hev⟩ | ⟨l, hr⟩ | hr
    · have htime : r.TakesTime := by
        obtain ⟨revision, n, hcall⟩ := hev
        obtain ⟨cancel, hexchange⟩ := Exchange.eq_of_call?_leases hcall
        cases hexchange
        trivial
      exact h.exchange_updated hw hsound hx hlaw howner (hcareful.settled htime) hev
    · obtain rfl : r = .own p l := hr
      exact h.exchange_own hx hcareful
    · obtain rfl : r = .disown p := hr
      exact h.exchange_disown hx
  · exact h.exchange_of_subject?_ne rfl hw hsound hx hlaw hhost hsubject

end Founded

end Lease

/-! ## Runs -/

/-- Hosts with names of their own share a bucket of leases, and do not believe in any yet. -/
structure Fleet.Shares (fleet : Fleet ι) (init : Cluster) : Prop where
  bucket : ∀ i, (fleet i).leases = .bucket
  owner_injective : Function.Injective fun i => (fleet i).me.owner
  owner_ne : ∀ i, (fleet i).me.owner ≠ ""
  sound : (init.bucket .leases).Sound
  fresh : ∀ i, (init.member (fleet i).me.owner).owned = .empty

variable [DecidableEq ι] {fleet : Fleet ι} {init : Cluster} {s s' : State ι}

theorem Attainable.careful (hshares : fleet.Shares init)
    (hs : Attainable fleet (fun _ => Action.IsOfHost) init s) {i : ι} {o : Ongoing}
    (hbusy : s.busy i = some o) :
    o.task.Along (Lease.Careful (fleet i).me) (fun _ past => Lease.Settled (fleet i).me past)
      (s.past i) :=
  (hs.lawful fun j _ ha => Equipment.along_careful (hshares.bucket j) ha).2.1 i o hbusy

theorem Attainable.founded (hshares : fleet.Shares init)
    (hs : Attainable fleet (fun _ => Action.IsOfHost) init s) (i : ι) (p : String) :
    Lease.Founded (fleet i).me p (s.past i) s.world.cluster := by
  -- By induction on moves, not on steps: a step writes a lease and believes in it, and the grounds of
  -- that belief are those of the moment between the two.
  induction hs with
  | start => exact .start (hshares.fresh i)
  | @move s s' hs hmove ih =>
      have hs' := hs.move hmove
      have hord := hs.orderly
      cases hmove with
      | begin who a hmay hidle =>
          rw [hord.past_begin hidle]
          exact ih
      | @exchange who number a r resume hbusy x c hx =>
          have hlaw : Lawful fleet.discipline (s.world.record ⟨who, number, a⟩ ⟨r, x⟩ c).history :=
            (hs'.lawful fun j b _ => (fleet j).along_discipline b).1
          have hhost : a.IsOfHost := hs'.may_of_mem List.mem_cons_self
          by_cases hi : i = who
          · subst hi
            rw [State.past_exchange_self hbusy, State.past_of_busy hbusy]
            rw [State.past_of_busy hbusy] at ih
            have hcareful := hs.careful hshares hbusy
            rw [State.past_of_busy hbusy] at hcareful
            exact ih.exchange_self hs.grows hshares.sound hx hlaw hhost (hshares.owner_ne i) hcareful.1
          · rw [hord.past_exchange_of_ne hbusy _ _ _ hi]
            exact ih.exchange_other hs.grows hshares.sound hx hlaw hhost (hshares.owner_ne i)
              fun heq => hi (hshares.owner_injective heq)
      | @finish who number a outcome hbusy =>
          by_cases hi : i = who
          · subst hi
            rw [State.past_finish_self]
            exact ih.finish (hs.careful hshares hbusy)
          · rw [State.past_finish_of_ne _ hi]
            exact ih
      | drift hc => exact ih.drift hc

theorem Reachable.settled (hshares : fleet.Shares init)
    (hs : Reachable fleet (fun _ => Action.IsOfHost) init s) (i : ι) :
    Lease.Settled (fleet i).me (s.past i) := by
  cases hbusy : s.busy i with
  | none =>
      rw [State.past_of_idle hbusy]
      exact Lease.settled_nil
  | some o =>
      have hcareful := hs.attainable.careful hshares hbusy
      have htime := hs.takesTime hbusy
      obtain ⟨number, a, task⟩ := o
      cases task with
      | done outcome => cases htime
      | ask r resume => exact Lease.Careful.settled hcareful.1 htime

/--
For any hosts that share a bucket of leases, however their actions are interleaved, delayed, cancelled or
failed: as long as a lease that a host believes in has not expired, the stored lease is its own and expires
no earlier. So no two hosts believe in unexpired leases of one partition.
-/
theorem mutual_exclusion (hshares : fleet.Shares init)
    (hs : Reachable fleet (fun _ => Action.IsOfHost) init s) :
    (∀ i p copy, (s.world.cluster.member (fleet i).me.owner).owned.get? p = some copy →
      s.world.cluster.now ≤ copy.expiresAt →
      ∃ l, (s.world.cluster.bucket .leases).Stores p l ∧ l.owner = (fleet i).me.owner ∧
        copy.expiresAt ≤ l.expiresAt) ∧
    (∀ i j p copy copy', (s.world.cluster.member (fleet i).me.owner).owned.get? p = some copy →
      (s.world.cluster.member (fleet j).me.owner).owned.get? p = some copy' →
      s.world.cluster.now ≤ copy.expiresAt → s.world.cluster.now ≤ copy'.expiresAt → i = j) := by
  have hstores : ∀ i p copy,
      (s.world.cluster.member (fleet i).me.owner).owned.get? p = some copy →
      s.world.cluster.now ≤ copy.expiresAt →
      (s.world.cluster.bucket .leases).Stores p copy ∧ copy.owner = (fleet i).me.owner :=
    fun i p copy hcopy hlive =>
      (hs.attainable.founded hshares i p).stores_of_settled (hs.settled hshares i) hcopy hlive
  refine ⟨?_, ?_⟩
  · intro i p copy hcopy hlive
    obtain ⟨hstored, howner⟩ := hstores i p copy hcopy hlive
    exact ⟨copy, hstored, howner, le_refl _⟩
  · intro i j p copy copy' hcopy hcopy' hlive hlive'
    obtain ⟨hstored, howner⟩ := hstores i p copy hcopy hlive
    obtain ⟨hstored', howner'⟩ := hstores j p copy' hcopy' hlive'
    obtain rfl := hstored.unique hstored'
    exact hshares.owner_injective (howner.symm.trans howner')

/-- Two hosts scan at once, and the one that is late takes the partition when the other lets it expire. -/
def lateScan : List (Cue Bool) := List.flatten
  [[.begin false (.scan .never), .begin true (.scan .never)], .replicate 3 (.answer false),
    .replicate 3 (.answer true), .replicate 3 (.answer false), .replicate 2 (.answer true),
    [.pass (.ofSeconds 40), .begin true (.scan .never)], .replicate 6 (.answer true)]

theorem shares_pair (p : String) : (Fleet.pair .bucket).Shares (.ofPartition p) where
  bucket _ := rfl
  owner_injective := by
    intro i j h
    cases i <;> cases j <;> simp [Fleet.pair] at h ⊢
  owner_ne i := by cases i <;> decide
  sound := Cluster.sound_ofPartition p .leases
  fresh _ := rfl

theorem mutual_exclusion_lateScan :
    ∃ l : Lease, ((play (.pair .bucket) (.ofPartition "0") lateScan).world.cluster.bucket
      .leases).Stores "0" l ∧ l.owner = "b" ∧ Timestamp.ofNanos 70000000000 ≤ l.expiresAt :=
  (mutual_exclusion (shares_pair "0")
    (reachable_play (by simp [lateScan, Cue.IsAllowed, Action.IsOfHost]))).1 true "0"
    ⟨"0", "b", .ofNanos 70000000000, 2⟩ (by decide +kernel) (by decide +kernel)

end PartitionHost
