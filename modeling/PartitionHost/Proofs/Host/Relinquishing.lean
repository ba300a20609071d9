import PartitionHost.Proofs.Bucket.Alone
import PartitionHost.Proofs.Host.Exactness
import PartitionHost.Proofs.Host.Departure
import PartitionHost.Proofs.Host.Timely

/-!
# Giving everything back, whatever fails

A host whose leases are in a bucket shuts down while nobody else writes there. Each call on the bucket may fail
and each update may be beaten, in any pattern: the host goes on to the next partition all the same. Each lease
that it believed in is given back or is as it was, and then for a reason (`Lease.Returned`); no other lease is
touched, and each loss is announced once (`Course.Relinquishes`). So a host always comes to the end of its
shutdown, believes in nothing then, and has nothing more to give back (`Equipment.shutdown_gives_back`).
-/

namespace PartitionHost

open Record

theorem Timestamp.toNanos_minus {t : Timestamp} {d : Duration} (ht : t.nanos < 1000000000)
    (h : earliest.toNanos + d.nanos ≤ t.toNanos) : (t.minus d).toNanos + d.nanos = t.toNanos := by
  have hearliest : earliest.toNanos = firstSecond * 1000000000 := rfl
  have hlast := t.seconds_le
  have hsum : t.toNanos = t.seconds * 1000000000 + t.nanos := rfl
  rw [minus, ofNanos, dif_neg (by omega), dif_neg (by omega), toNanos]
  simp only
  omega

namespace Lease

theorem epoch_lt_of_decode? {v : Bytes} {l : Lease} (h : decode? v = some l) : l.epoch < 1 <<< 64 := by
  have hfits := fits_of_decode? h
  simpa [fields, schema, contents, Schema.fields, Field.Fits] using hfits

/-- What has become of the text under a partition whose lease its owner wanted to give back. -/
inductive Returned (owner : String) (now : Timestamp) (past : List (Exchange Host.Surroundings))
    (p : String) : Option Bytes → Option Bytes → Prop where
  /-- It was held, and nobody owns it any more. -/
  | released {v : Bytes} {l l' : Lease} (hl : decode? v = some l)
      (hheld : l.isHeldBy owner now = true)
      (hl' : l' = { l with owner := "", expiresAt := now.minus (.ofSeconds 1) })
      (hread : decode? (encode l') = some l') :
      Returned owner now past p (some v) (some (encode l'))
  | notHeld {v : Bytes} {l : Lease} (hl : decode? v = some l) (hheld : l.isHeldBy owner now = false) :
      Returned owner now past p (some v) (some v)
  /-- An error was the answer, be it that there is no such lease. -/
  | failed {v : Option Bytes} {cancel : Cancellation} {e : Error}
      (h : ⟨.lease cancel (.release p), .error e⟩ ∈ past) : Returned owner now past p v v

theorem Returned.mono {owner p : String} {now : Timestamp} {past past' : List (Exchange Host.Surroundings)}
    {before after : Option Bytes} (h : Returned owner now past p before after) (hpast : past ⊆ past') :
    Returned owner now past' p before after := by
  cases h with
  | released hl hheld hl' hread => exact .released hl hheld hl' hread
  | notHeld hl hheld => exact .notHeld hl hheld
  | failed h => exact .failed (hpast h)

end Lease

/-! ## What a host leaves behind -/

namespace Course

open Lease

/-- What the consumers have been told, the earliest first. -/
def told (s : Course) : List Host.Event := s.past.reverse.flatMap (Scene.news ·.request)

def stored? (s : Course) (p : String) : Option Bytes := (s.cluster.bucket .leases).value? p

def owned (s : Course) (owner : String) : Table Lease := (s.cluster.member owner).owned

/-- How a host goes on to where it has given back these partitions and announced these events. -/
structure Relinquishes (owner : String) (ps : List String) (es : List Host.Event) (s s' : Course) :
    Prop where
  now_eq : s'.cluster.now = s.cluster.now
  past : s.past ⊆ s'.past
  told : s'.told = s.told ++ es
  returned : ∀ p ∈ ps, Returned owner s.cluster.now s'.past p (s.stored? p) (s'.stored? p)
  others : ∀ p ∉ ps, s'.stored? p = s.stored? p
  owned : ∀ p, (s'.owned owner).get? p = if p ∈ ps then none else (s.owned owner).get? p

variable {owner p : String} {ps qs : List String} {es es' : List Host.Event} {s s₁ s' : Course}

theorem Relinquishes.refl (owner : String) (s : Course) : Relinquishes owner [] [] s s where
  now_eq := rfl
  past := fun _ => id
  told := (List.append_nil _).symm
  returned _ hp := absurd hp List.not_mem_nil
  others _ _ := rfl
  owned p := by simp

theorem Relinquishes.trans (h : Relinquishes owner ps es s s₁) (h' : Relinquishes owner qs es' s₁ s')
    (hdisjoint : ∀ p ∈ ps, p ∉ qs) : Relinquishes owner (ps ++ qs) (es ++ es') s s' where
  now_eq := h'.now_eq.trans h.now_eq
  past := fun _ hx => h'.past (h.past hx)
  told := by rw [h'.told, h.told, List.append_assoc]
  returned p hp := by
    by_cases hps : p ∈ ps
    · rw [h'.others p (hdisjoint p hps)]
      exact (h.returned p hps).mono h'.past
    · have hqs := (List.mem_append.1 hp).resolve_left hps
      rw [← h.others p hps, ← h.now_eq]
      exact h'.returned p hqs
  others p hp := by
    rw [List.mem_append, not_or] at hp
    rw [h'.others p hp.2, h.others p hp.1]
  owned p := by
    rw [h'.owned, h.owned]
    by_cases hps : p ∈ ps
    · simp [hps]
    · simp [hps]

end Course

/-! ## Requests one by one -/

namespace Equipment

open Cluster Course Host Bucket.Client

variable {e : Equipment} {s s' : Course} {cancel : Cancellation} {p : String} {ps : List String}

theorem assures_release_alone (me : Lease.Claimant) (now : Timestamp) (p : String) (b : Bucket) :
    (Lease.Bucketed.perform me (.release p)).run.Assures (I := Bucket.Client) (Alone (· = now))
      (fun x b' => ∃ y, Turned (· = now) (·.release me.owner ·) p b.value? y b'.value? ∧
        x = y.map (·.2)) b := by
  refine (assures_transition (· = now) _ p maxAttempts b).run_bind ?_ ?_
  · exact fun fault b' h => ⟨_, h, rfl⟩
  · exact fun a b' h => ⟨_, h, rfl⟩

theorem returned_of_continues (hleases : e.leases = .bucket) {x : Except Error Bool}
    (h : e.Continues Rests (.lease cancel (.release p)) s x s') :
    s'.cluster.now = s.cluster.now ∧ (∀ q ≠ p, s'.stored? q = s.stored? q) ∧
      s'.owned e.me.owner = s.owned e.me.owner ∧
      Lease.Returned e.me.owner s.cluster.now s'.past p (s.stored? p) (s'.stored? p) := by
  have hrely : ∀ c c', Rests c c' → c.Drifts c' ∧
      (c.now = s.cluster.now → c'.now = s.cluster.now) :=
    fun c c' hrests => ⟨hrests.1, fun hnow => hrests.2.trans hnow⟩
  obtain ⟨⟨y, hturned, hx⟩, hbesides, hnow⟩ := h.of_assures (assures_lease_alone
    (· = s.cluster.now) hleases e.me.owner cancel hrely rfl
    (assures_release_alone e.me s.cluster.now p _))
  have hafter : (s'.cluster.bucket .leases).value? = s'.stored? := rfl
  have hbefore : (s.cluster.bucket .leases).value? = s.stored? := rfl
  rw [hafter, hbefore] at hturned
  refine ⟨hnow, fun q hq => ?_, hbesides.owned _, ?_⟩
  · generalize s'.stored? = after at hturned ⊢
    cases hturned with
    | turned hv hl ht hnext => exact Function.update_of_ne hq _ _
    | _ => rfl
  · have hpast := h.2
    generalize s'.stored? = after at hturned ⊢
    cases hturned with
    | failed fault =>
        subst hx
        exact .failed (hpast ▸ List.mem_cons_self)
    | refused hv hl ht hnext =>
        subst ht
        rw [hv]
        refine .notHeld hl ?_
        simpa [Lease.release] using hnext
    | @turned v l l' t hv hl ht hnext =>
        subst ht
        obtain ⟨hheld, rfl⟩ := Lease.release_eq_some.1 hnext
        rw [hv, Function.update_self]
        refine .released hl hheld rfl ?_
        rw [Lease.decode?_encode, if_pos (Lease.epoch_lt_of_decode? hl)]

theorem stored_of_ask {r : Site.Request} {c c' : Cluster} {x : r.Answer}
    (hr : r.IsOfBeliefs ∨ (∃ event, r = .announce event) ∨ r = .owned)
    (h : (Site.ask r).Ends (Amid Rests e.me.owner) c x c') :
    c'.now = c.now ∧ c'.bucket .leases = c.bucket .leases ∧
      (c'.member e.me.owner).owned = r.beliefs (c.member e.me.owner).owned := by
  obtain ⟨c₁, hrests, hx⟩ := h.of_request
  refine ⟨hx.frame.now.trans hrests.2, ?_, hx.frame.owned.trans (hrests.1.owned _ ▸ rfl)⟩
  have heffect := hx.effect .leases
  rw [← hrests.1.bucket]
  cases r with
  | own | disown | owned | announce => exact heffect
  | _ => simp [Site.Request.IsOfBeliefs] at hr

theorem held_of_disown {x : Bool} (h : e.Continues Rests (.disown p) s x s') :
    x = (s.owned e.me.owner).contains p := by
  obtain ⟨c₁, hrests, hx⟩ := h.1.of_request
  have hx : x = (c₁.member e.me.owner).owned.contains p := congrArg Prod.fst hx
  rw [hx, hrests.1.owned]
  rfl

theorem assures_giveBack_alone (hleases : e.leases = .bucket)
    (hp : (s.owned e.me.owner).contains p = true) {x : Except Error Bool} {s₁ : Course}
    (hrelease : e.Continues Rests (.lease cancel (.release p)) s x s₁) :
    (lose p).run.Assures (I := Surroundings) (e.Continues Rests)
      (fun y s' => y = .ok () ∧ Relinquishes e.me.owner [p] [.lost p] s s') s₁ := by
  obtain ⟨hnow₁, hothers, howned₁, hreturned⟩ := returned_of_continues hleases hrelease
  refine assures_ask_bind fun held s₂ hdisown => ?_
  obtain rfl : held = true := by rw [held_of_disown hdisown, howned₁, hp]
  rintro ⟨⟩ s₃ hannounce
  obtain ⟨hnow₂, hbucket₂, howned₂⟩ := stored_of_ask (r := .disown p) (.inl trivial) hdisown.1
  obtain ⟨hnow₃, hbucket₃, howned₃⟩ := stored_of_ask (r := .announce (.lost p))
    (.inr (.inl ⟨_, rfl⟩)) hannounce.1
  have hstored : s₃.stored? = s₁.stored? := by
    funext q
    rw [stored?, hbucket₃, hbucket₂, stored?]
  have hpast : s₃.past = ⟨.announce (.lost p), ()⟩ :: ⟨.disown p, true⟩ :: s₁.past := by
    rw [hannounce.2, hdisown.2]
  refine ⟨rfl, hnow₃.trans (hnow₂.trans hnow₁), ?_, ?_, ?_, ?_, ?_⟩
  · rw [hpast, hrelease.2]
    exact fun _ hx => by simp [hx]
  · rw [told, hpast, hrelease.2]
    simp [told, Scene.news]
  · intro q hq
    obtain rfl := List.mem_singleton.1 hq
    rw [hstored]
    exact hreturned.mono fun _ hx => by simp [hpast, hx]
  · intro q hq
    rw [hstored]
    exact hothers q (fun heq => hq (List.mem_singleton.2 heq))
  · intro q
    have howned : s₃.owned e.me.owner = (s.owned e.me.owner).erase p := by
      rw [← howned₁]
      exact howned₃.trans howned₂
    rw [howned, Table.get?_erase]
    simp

theorem assures_releaseAll_alone (hleases : e.leases = .bucket) (hps : ps.Nodup)
    (howned : ∀ p ∈ ps, (s.owned e.me.owner).contains p = true) :
    (releaseAll ps).run.Assures (I := Surroundings) (e.Continues Rests)
      (fun x s' => x = .ok () ∧ Relinquishes e.me.owner ps (ps.map .lost) s s') s := by
  induction ps generalizing s with
  | nil => exact ⟨rfl, .refl _ s⟩
  | cons p ps ih =>
      obtain ⟨hp, hps⟩ := List.nodup_cons.1 hps
      have hlease : (Host.lease .never (.release p)).run.Assures (I := Surroundings) (e.Continues Rests)
          (fun x s₁ => e.Continues Rests (.lease .never (.release p)) s x s₁) s := fun _ _ hx => hx
      refine assures_outcome_bind hlease fun x s₁ hrelease => ?_
      refine (assures_giveBack_alone hleases (howned p List.mem_cons_self) hrelease).run_bind ?_ ?_
      · rintro fault s₂ ⟨⟨⟩, -⟩
      · rintro ⟨⟩ s₂ ⟨-, hfirst⟩
        have howned₂ : ∀ q ∈ ps, (s₂.owned e.me.owner).contains q = true := by
          intro q hq
          have hne : q ∉ [p] := fun h => hp (List.mem_singleton.1 h ▸ hq)
          rw [Table.contains, hfirst.owned, if_neg hne]
          exact howned q (List.mem_cons_of_mem p hq)
        refine (ih hps howned₂).imp fun x s' hrest => ⟨hrest.1, ?_⟩
        exact hfirst.trans hrest.2 fun q hq => List.mem_singleton.1 hq ▸ hp

theorem assures_shutdown_alone (hleases : e.leases = .bucket) (s : Course) :
    shutdown.run.Assures (I := Surroundings) (e.Continues Rests) (fun x s' => x = .ok () ∧
      Relinquishes e.me.owner (s.owned e.me.owner).names
        ((s.owned e.me.owner).names.map .lost) s s') s := by
  refine assures_ask_bind fun owned s₁ hask => ?_
  obtain ⟨hnow, hbucket, howned⟩ := stored_of_ask (r := .owned) (.inr (.inr rfl)) hask.1
  obtain rfl : owned = s.owned e.me.owner := by
    obtain ⟨c₁, hrests, hx⟩ := hask.1.of_request
    have hx : owned = (c₁.member e.me.owner).owned := congrArg Prod.fst hx
    rw [hx, hrests.1.owned]
    rfl
  have howned₁ : s₁.owned e.me.owner = s.owned e.me.owner := howned
  have hidle : Relinquishes e.me.owner [] [] s s₁ := by
    refine ⟨hnow, ?_, ?_, fun p hp => absurd hp List.not_mem_nil, fun p _ => ?_, fun p => ?_⟩
    · rw [hask.2]
      exact List.subset_cons_self _ _
    · simp [told, hask.2, Scene.news]
    · rw [stored?, hbucket, stored?]
    · rw [howned₁]
      simp
  refine (assures_releaseAll_alone hleases (Table.nodup_names _) fun p hp => ?_).imp
    fun x s' ⟨hx, hrest⟩ => ⟨hx, hidle.trans hrest (by simp)⟩
  rw [howned₁]
  exact Table.mem_names_iff_contains.1 hp

/--
A host whose leases are in a bucket shuts down at a time at least a second after the earliest one, while nobody
else writes there, whatever fails and whatever is beaten. From wherever it has come to it can go on to the end.
In the end the answer is ok, the host believes in nothing, and exactly the partitions that it believed in have
been announced as lost, in ascending order. Each of their leases is given back, expired for a second, or is as it
was because the host did not hold it or was answered an error; all others are as they were. To shut down once
more announces nothing and changes nothing.
-/
theorem shutdown_gives_back (hleases : e.leases = .bucket) {c : Cluster}
    (hclock : Timestamp.earliest.toNanos + 1000000000 ≤ c.now.toNanos) :
    let start : Course := ⟨c, []⟩
    let names := (start.owned e.me.owner).names
    (c.now.minus (.ofSeconds 1)).toNanos + 1000000000 = c.now.toNanos ∧
    (∀ t s₁, shutdown.run.Leads (I := Surroundings) (e.Continues Rests) start t s₁ →
      ∃ x s', t.Ends (I := Surroundings) (e.Continues Rests) s₁ x s') ∧
    ∀ x s', shutdown.run.Ends (I := Surroundings) (e.Continues Rests) start x s' →
      x = .ok () ∧ s'.owned e.me.owner = .empty ∧ s'.told = names.map .lost ∧
      (∀ p ∈ names,
        Lease.Returned e.me.owner c.now s'.past p (start.stored? p) (s'.stored? p)) ∧
      (∀ p ∉ names, s'.stored? p = start.stored? p) ∧
      ∀ y s'', shutdown.run.Ends (I := Surroundings) (e.Continues Rests) s' y s'' →
        y = .ok () ∧ s''.told = s'.told ∧ s''.stored? = s'.stored? := by
  intro start names
  refine ⟨Timestamp.toNanos_minus (Timestamp.nanos_ofNanos_lt _) hclock, fun t s₁ _ => ?_,
    fun x s' hend => ?_⟩
  · exact ⟨_, _, (e.ends_follow t s₁).mono fun _ _ _ _ h => h.mono fun _ _ hcalm => hcalm.rests⟩
  obtain ⟨hx, hgone⟩ := Task.assures_iff.1 (assures_shutdown_alone hleases start) x s' hend
  have howned : s'.owned e.me.owner = .empty := by
    refine Table.ext_get? fun p => ?_
    rw [hgone.owned, Table.get?_empty]
    split
    · rfl
    · rename_i hp
      exact Option.eq_none_iff_forall_ne_some.2 fun l hl => hp (Table.mem_names.2 ⟨l, hl⟩)
  refine ⟨hx, howned, hgone.told, hgone.returned, hgone.others, fun y s'' hend' => ?_⟩
  obtain ⟨hy, hagain⟩ := Task.assures_iff.1 (assures_shutdown_alone hleases s') y s'' hend'
  rw [howned] at hagain
  refine ⟨hy, ?_, funext fun p => hagain.others p List.not_mem_nil⟩
  rw [hagain.told]
  exact List.append_nil _

end Equipment

/-- Host b holds the lease of partition 1, one read is made to fail, and then one update to be beaten. -/
def Cluster.ofFaults : Cluster where
  leases := { server := some {
    name := "leases"
    bucket := [("0", "a"), ("1", "b"), ("2", "a"), ("3", "a")].foldl (fun b (p, owner) =>
      b.write p (encode (⟨p, owner, .ofNanos 20000000000, 4⟩ : Lease))) { created := true }
    faults := { failEntries := 1, conflictUpdates := 1 } } }
  members := .ofList [("a", {
    owned := .ofList (["0", "1", "2"].map fun p => (p, .unowned p)) })]
  origin := 10000000000

namespace Equipment

open Cluster Host

theorem shutdown_gives_back_ofFaults : ∃ s',
    shutdown.run.Ends (I := Surroundings) ((Fleet.pair .bucket false).Continues Rests) ⟨.ofFaults, []⟩
      (.ok ()) s' ∧ s'.told = [.lost "0", .lost "1", .lost "2"] ∧
    s'.stored? "0" = some (encode (⟨"0", "a", .ofNanos 20000000000, 4⟩ : Lease)) ∧
    s'.stored? "1" = some (encode (⟨"1", "b", .ofNanos 20000000000, 4⟩ : Lease)) ∧
    s'.stored? "2" = some (encode (⟨"2", "", .ofNanos 9000000000, 4⟩ : Lease)) ∧
    s'.stored? "3" = some (encode (⟨"3", "a", .ofNanos 20000000000, 4⟩ : Lease)) := by
  obtain ⟨-, -, hall⟩ := shutdown_gives_back (e := Fleet.pair .bucket false) rfl
    (c := Cluster.ofFaults) (by decide +kernel)
  have hend := ((Fleet.pair .bucket false).ends_follow shutdown.run ⟨.ofFaults, []⟩).mono
    fun _ _ _ _ h => h.mono fun _ _ hcalm => hcalm.rests
  obtain ⟨hx, -, htold, -⟩ := hall _ _ hend
  rw [hx] at hend
  refine ⟨_, hend, htold, ?_⟩
  decide +kernel

end Equipment

end PartitionHost
