import PartitionHost.Proofs.Lease.Origin

/-!
# How long a lease outlives its owner

A stored lease that has an owner was put there in that name (`Lease.exists_owner_put`), to last for a term from a
time that was not after the clock. So where all claimants have the same term no stored lease expires later than
a term from now; whoever goes on with a lease has read the clock since it was put there, so its expiry is never
moved to an earlier time; and a lease whose owner puts nothing there any more is available to everybody once a
term has passed since it last did (`Lease.failover_is_bounded`).
-/

namespace PartitionHost

open Cluster

variable {ι : Type} {kind : Site.StoreKind} {fleet : Fleet ι} {init : Cluster} {w : World ι}
  {older : List (Event ι)} {ev : Event ι} {p owner : String} {op : Lease.Operation} {l l' : Lease}
  {t : Timestamp} {term : Duration}

namespace Lease

/-- What is left of a lease that somebody has released has no owner; any other one lasts for a term. -/
theorem Made.lasts (h : Made kind fleet older ev p op l t l') (howner : l'.owner ≠ "") :
    l'.owner = (fleet ev.who).me.owner ∧ l'.expiresAt = t.plus (fleet ev.who).me.term := by
  have hturns := h.turns
  refine hturns.lasts ?_
  rintro rfl
  cases hturns with
  | release hheld => exact howner rfl

theorem exists_owner_put (hw : w.Grows fleet init) (hempty : ∀ kind p, ¬ init.HasLease kind p)
    (hlaw : Lawful fleet.discipline w.history) (hterm : ∀ i, (fleet i).me.term = term)
    (hl : w.cluster.Keeps kind p l) (howner : l.owner ≠ "") :
    ∃ ev ∈ w.history, ev.Puts kind p l ∧ (fleet ev.who).me.owner = l.owner ∧
      ∃ n, Timestamp.ofNanos n ≤ ev.before.now ∧ l.expiresAt = (Timestamp.ofNanos n).plus term := by
  induction hw with
  | start => exact absurd hl.hasLease (hempty kind p)
  | drift hw hc ih => exact ih hlaw ((Drifts.keeps hc).1 hl)
  | @exchange w hw g r x c hx ih =>
      have hgrows := hw.exchange g hx
      have hhistory : (w.record g ⟨r, x⟩ c).history = [] ++ ⟨g, ⟨r, x⟩, w.cluster⟩ :: w.history := rfl
      have hsound := sound_of_not_hasLease (hempty .bucket)
      cases origin hgrows hsound hlaw hhistory hx hl with
      | kept h =>
          obtain ⟨ev, hev, hput⟩ := ih hlaw.2 h
          exact ⟨ev, List.mem_cons_of_mem _ hev, hput⟩
      | ensured _ => exact absurd rfl howner
      | put h =>
          obtain ⟨op, l₀, t, hmade, -⟩ := exists_replaced hgrows hempty hlaw hhistory h
          obtain ⟨hown, hexpires⟩ := hmade.lasts howner
          obtain ⟨n, rfl⟩ := hmade.reading
          exact ⟨_, List.mem_cons_self, h, hown.symm, n, hmade.time_le, hterm g.who ▸ hexpires⟩

theorem Made.expiresAt_le (hbefore : World.Grows fleet init ⟨ev.before, older⟩)
    (hempty : ∀ kind p, ¬ init.HasLease kind p) (hlaw : Lawful fleet.discipline older)
    (hterm : ∀ i, (fleet i).me.term = term) (hl : ev.before.Keeps kind p l)
    (h : Made kind fleet older ev p op l t l') (hop : op = .renew p ∨ op = .update p) :
    l.expiresAt ≤ l'.expiresAt := by
  have hturns := h.turns
  have howner : l.owner ≠ "" := by
    rcases hop with rfl | rfl
    · cases hturns with
      | renew hheld => exact (isHeldBy_iff.1 hheld).1
    · cases hturns with
      | update hheld => exact (isHeldBy_iff.1 hheld).1
  have hexpires : l'.expiresAt = t.plus term := by
    rw [← hterm ev.who]
    refine (hturns.lasts ?_).2
    rintro rfl
    rcases hop with hop | hop <;> cases hop
  obtain ⟨ev', hev', hput, -, n, hn, hwas⟩ := exists_owner_put hbefore hempty hlaw hterm hl howner
  rw [hwas, hexpires]
  exact Timestamp.plus_mono (le_trans hn (h.latest ev' hev' l hput)) (Nat.le_refl _)

variable [DecidableEq ι] {may : ι → Action → Prop} {s : State ι}

/--
Where all claimants have the same term and nothing was stored in the beginning: whoever goes on with a lease
never moves its expiry to an earlier time, no lease that has an owner expires later than a term from now, as
far as that can be told, and a lease whose owner has put none there after a time is available to everybody
once a term has passed since.
-/
theorem failover_is_bounded (kind : Site.StoreKind) (hterm : ∀ i, (fleet i).me.term = term)
    (hempty : ∀ kind p, ¬ init.HasLease kind p) (hs : Reachable fleet may init s) :
    (∀ newer ev older p l', s.world.history = newer ++ ev :: older → ev.Puts kind p l' →
      ∃ l, ev.before.Keeps kind p l ∧ (∃ op t, Made kind fleet older ev p op l t l') ∧
        ∀ op t, Made kind fleet older ev p op l t l' → op = .renew p ∨ op = .update p →
          l.expiresAt ≤ l'.expiresAt) ∧
    ∀ p l, s.world.cluster.Keeps kind p l →
      (l.owner ≠ "" → l.expiresAt ≤ s.world.cluster.now.plus term ∧
        l.expiresAt.toNanos ≤ min (s.world.cluster.now.toNanos + term.nanos) Timestamp.latest.toNanos) ∧
      ∀ t, (∀ ev ∈ s.world.history, (fleet ev.who).me.owner = l.owner → (∃ m, ev.Puts kind p m) →
          ev.before.now ≤ t) →
        ∀ t', t.plus term < t' → l.isAvailable t' = true := by
  have hs := hs.attainable
  have hgrows := hs.grows
  have hlaw : Lawful fleet.discipline s.world.history :=
    (hs.lawful fun i a _ => (fleet i).along_discipline a).1
  constructor
  · intro newer ev older p l' hhistory hput
    obtain ⟨op, l, t, hmade, hl⟩ := exists_replaced hgrows hempty hlaw hhistory hput
    obtain ⟨hbefore, -⟩ := hgrows.before hhistory
    have hlaw' : Lawful fleet.discipline older := (hhistory ▸ hlaw).of_append.2
    exact ⟨l, hl, ⟨op, t, hmade⟩, fun _ _ h => h.expiresAt_le hbefore hempty hlaw' hterm hl⟩
  · intro p l hl
    refine ⟨fun howner => ?_, fun t hlast t' ht' => ?_⟩
    · obtain ⟨ev, hev, -, -, n, hn, hexpires⟩ := exists_owner_put hgrows hempty hlaw hterm hl howner
      have hn : Timestamp.ofNanos n ≤ s.world.cluster.now := le_trans hn (hgrows.now_le_of_mem hev)
      have hnanos := Timestamp.toNanos_le hn
      rw [hexpires, Timestamp.toNanos_plus]
      exact ⟨Timestamp.plus_mono hn (Nat.le_refl _), by omega⟩
    · rw [isAvailable_iff]
      by_cases howner : l.owner = ""
      · exact .inl howner
      refine .inr ?_
      obtain ⟨ev, hev, hput, hown, n, hn, hexpires⟩ :=
        exists_owner_put hgrows hempty hlaw hterm hl howner
      rw [hexpires]
      have hn : Timestamp.ofNanos n ≤ t := le_trans hn (hlast ev hev hown ⟨l, hput⟩)
      exact lt_of_le_of_lt (Timestamp.plus_mono hn (Nat.le_refl _)) ht'

/-- Host a acquires a lease and renews it, which takes it a second, and is not heard of any more. -/
def renewedOnce : State Bool :=
  play (.pair .bucket) .ofBuckets <| List.flatten
    [[.begin true (.lease .never (.ensure "0"))], .replicate 2 (.answer true),
      [.begin false (.lease .never (.acquire "0"))], .replicate 2 (.answer false),
      [.pass (.ofSeconds 5), .begin false (.lease .never (.renew "0")), .answer false,
        .pass (.ofSeconds 1), .answer false, .pass (.ofSeconds 40)]]

theorem reachable_renewedOnce : Reachable (.pair .bucket) (fun _ _ => True) .ofBuckets renewedOnce :=
  reachable_play (by simp [Cue.IsAllowed])

theorem failover_is_bounded_renewedOnce :
    (∃ newer ev older l l', renewedOnce.world.history = newer ++ ev :: older ∧
      ev.before.Keeps .bucket "0" l ∧ ev.Puts .bucket "0" l') ∧
    ∃ l, renewedOnce.world.cluster.Keeps .bucket "0" l ∧ l.owner = "a" ∧
      l.expiresAt ≤ renewedOnce.world.cluster.now.plus (.ofSeconds 30) ∧
      l.isAvailable renewedOnce.world.cluster.now = true := by
  have hstored : (renewedOnce.world.cluster.bucket .leases).value? "0" =
      some (Record.encode (Lease.mk "0" "a" (.ofNanos 35000000000) 1)) := by
    decide +kernel
  have hlatest : renewedOnce.world.history.head?.any (fun ev => ev.outcome? .leases "0" ==
      some (some (Record.encode (Lease.mk "0" "a" (.ofNanos 35000000000) 1))) &&
      ((ev.before.bucket .leases).value? "0").isSome) = true := by
    decide +kernel
  have hsilent : renewedOnce.world.history.all (fun ev => ev.before.now ≤ .ofNanos 6000000000) = true := by
    decide +kernel
  obtain ⟨hputs, hkept⟩ := failover_is_bounded .bucket (fun i => by cases i <;> rfl)
    not_hasLease_ofBuckets reachable_renewedOnce
  constructor
  · obtain ⟨ev, hev, hfacts⟩ := (Option.any_eq_true _ _).1 hlatest
    simp only [Bool.and_eq_true, beq_iff_eq] at hfacts
    obtain ⟨hput, hthere⟩ := hfacts
    obtain ⟨older, hhead⟩ := List.head?_eq_some_iff.1 hev
    have hhistory : renewedOnce.world.history = [] ++ ev :: older := hhead
    obtain ⟨value, hvalue⟩ := Option.isSome_iff_exists.1 hthere
    have hput := reachable_renewedOnce.attainable.grows.updated_of_outcome hhistory hput hvalue
    obtain ⟨l, hl, -⟩ := hputs [] ev older "0" _ hhistory hput
    exact ⟨[], ev, older, l, _, hhistory, hl, hput⟩
  · obtain ⟨hbound, hfree⟩ := hkept "0" _ hstored
    refine ⟨_, hstored, rfl, (hbound (by decide)).1, hfree (.ofNanos 6000000000) ?_ _ (by decide +kernel)⟩
    intro ev hev _ _
    simpa using List.all_eq_true.1 hsilent ev hev

end Lease

end PartitionHost
