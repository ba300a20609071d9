import Mathlib.Combinatorics.Pigeonhole
import PartitionHost.Proofs.Host.Round
import PartitionHost.Proofs.Interleaving.Runtime

/-!
# No partition is left over

Hosts that share registers scan once, one after the other. Each stops at its share only if it has as many
partitions as the number of partitions divided by the number of hosts, and nobody loses what it has. So if
one partition were left over in the end, the hosts would hold more partitions than there are
(`all_taken_of_scans`).

A host does not come to believe in a lease that it holds already: such a lease is neither renewed, as the
host does not know of it, nor acquired, as it is not available.
-/

namespace PartitionHost

/-! ## The fair share -/

namespace Host

theorem le_mul_fairShare (n : Nat) {k : Nat} (hk : 0 < k) : n ≤ k * fairShare n k := by
  have hlt := Nat.lt_mul_div_succ (n + k - 1) hk
  rw [Nat.mul_succ] at hlt
  rw [fairShare]
  omega

theorem fairShare_anti (n : Nat) {k m : Nat} (hk : 0 < k) (hkm : k ≤ m) :
    fairShare n m ≤ fairShare n k := by
  have hle := (le_mul_fairShare n hk).trans (Nat.mul_le_mul_right _ hkm)
  rw [fairShare, Nat.div_le_iff_le_mul_add_pred (Nat.lt_of_lt_of_le hk hkm)]
  omega

theorem nodup_eraseDups (names : List String) : names.eraseDups.Nodup := by
  cases names with
  | nil => exact .nil
  | cons name names =>
      rw [List.eraseDups_cons, List.nodup_cons]
      exact ⟨by simp [List.mem_eraseDups], nodup_eraseDups (names.filter fun other => !other == name)⟩
termination_by names.length
decreasing_by exact Nat.lt_succ_of_le (List.length_filter_le _ _)

theorem liveHosts_ne_nil (owner : String) (ls : List Lease) (now : Timestamp) :
    0 < (liveHosts owner ls now).length := by
  rw [liveHosts, List.eraseDups_cons]
  exact Nat.succ_pos _

theorem length_liveHosts_le {owner : String} {ls : List Lease} {now : Timestamp} {owners : List String}
    (howner : owner ∈ owners) (hlive : ∀ l ∈ ls, l.isAvailable now = false → l.owner ∈ owners) :
    (liveHosts owner ls now).length ≤ owners.length := by
  refine ((nodup_eraseDups _).subperm fun name hname => ?_).length_le
  rcases List.mem_cons.1 (List.mem_eraseDups.1 hname) with rfl | hname
  · exact howner
  · obtain ⟨l, hl, rfl⟩ := List.mem_map.1 hname
    obtain ⟨hl, havailable⟩ := List.mem_filter.1 hl
    exact hlive l hl (by simpa using havailable)

end Host

/-! ## What is held and what is free -/

namespace Lease

variable {t t' : Table Lease} {owner other p : String} {now : Timestamp}

def Held (t : Table Lease) (owner : String) (now : Timestamp) (p : String) : Prop :=
  ∃ l, t.get? p = some l ∧ l.isHeldBy owner now = true

def Free (t : Table Lease) (now : Timestamp) (p : String) : Prop :=
  ∃ l, t.get? p = some l ∧ l.isAvailable now = true

theorem Held.not_free (h : Held t owner now p) : ¬ Free t now p := by
  rintro ⟨l, hl, havailable⟩
  obtain ⟨l', hl', hheld⟩ := h
  obtain rfl := Option.some.inj (hl.symm.trans hl')
  simp [isHeldBy, havailable] at hheld

theorem Held.owner_eq (h : Held t owner now p) (h' : Held t other now p) : owner = other := by
  obtain ⟨l, hl, hheld⟩ := h
  obtain ⟨l', hl', hheld'⟩ := h'
  obtain rfl := Option.some.inj (hl.symm.trans hl')
  exact (isHeldBy_iff.1 hheld).2.2.symm.trans (isHeldBy_iff.1 hheld').2.2

theorem held_congr (h : t'.get? p = t.get? p) : Held t' owner now p ↔ Held t owner now p := by
  rw [Held, Held, h]

theorem free_congr (h : t'.get? p = t.get? p) : Free t' now p ↔ Free t now p := by
  rw [Free, Free, h]

def heldBy (t : Table Lease) (owner : String) (now : Timestamp) : List String :=
  t.names.filter fun p => (t.get? p).any (·.isHeldBy owner now)

theorem mem_heldBy : p ∈ heldBy t owner now ↔ Held t owner now p := by
  simp only [heldBy, List.mem_filter, Table.mem_names, Option.any_eq_true]
  constructor
  · rintro ⟨-, l, hl, hheld⟩
    exact ⟨l, hl, hheld⟩
  · rintro ⟨l, hl, hheld⟩
    exact ⟨⟨l, hl⟩, l, hl, hheld⟩

theorem nodup_heldBy : (heldBy t owner now).Nodup := t.nodup_names.filter _

/-- If each of some hosts held its share of all partitions, nothing would be free. -/
theorem not_free_of_shares {owners : List String} (hne : owners ≠ []) (hnodup : owners.Nodup)
    (hshares : ∀ owner ∈ owners, Host.fairShare t.size owners.length ≤ (heldBy t owner now).length) :
    ¬ Free t now p := by
  rintro ⟨l, hl, havailable⟩
  classical
  let live := t.names.toFinset.filter fun q => ¬ Free t now q
  let ownerOf := fun q => ((t.get? q).map (·.owner)).getD ""
  have hlive : live.card < t.size := by
    have hlt : live.card < t.names.toFinset.card := Finset.card_lt_card <| Finset.filter_ssubset.2
      ⟨p, List.mem_toFinset.2 (Table.mem_names.2 ⟨l, hl⟩), not_not.2 ⟨l, hl, havailable⟩⟩
    rwa [List.toFinset_card_of_nodup t.nodup_names, Table.length_names] at hlt
  have htotal : live.card < owners.toFinset.card * Host.fairShare t.size owners.length := by
    rw [List.toFinset_card_of_nodup hnodup]
    exact Nat.lt_of_lt_of_le hlive (Host.le_mul_fairShare _ (List.length_pos_iff.2 hne))
  -- Somebody then has less than the share of the live leases, but these are those that are held.
  obtain ⟨owner, howner, hless⟩ :=
    Finset.exists_card_fiber_lt_of_card_lt_mul (f := ownerOf) htotal
  have hsubset : (heldBy t owner now).toFinset ⊆ live.filter fun q => ownerOf q = owner := by
    intro q hq
    have hheld := mem_heldBy.1 (List.mem_toFinset.1 hq)
    obtain ⟨m, hm, hmheld⟩ := hheld
    simp only [live, ownerOf, Finset.mem_filter, List.mem_toFinset, Table.mem_names]
    exact ⟨⟨⟨m, hm⟩, Held.not_free ⟨m, hm, hmheld⟩⟩, by simp [hm, (isHeldBy_iff.1 hmheld).2.2]⟩
  have hcard := Finset.card_le_card hsubset
  rw [List.toFinset_card_of_nodup nodup_heldBy] at hcard
  have := hshares owner (List.mem_toFinset.1 howner)
  omega

end Lease

/-! ## One scan -/

open Host Lease Scene

variable {me : Claimant} {cancel : Cancellation} {v : Scene} {t t' owned' : Table Lease}
  {k : Table Checkpoint}

/-- How a scan deals with a partition. -/
inductive Dealt (me : Claimant) (v : Scene) (t t' owned' : Table Lease) (q : String) : Prop where
  | kept {l l' : Lease} (hbelieved : v.owned.contains q = true) (hl : t.get? q = some l)
      (hheld : l.isHeldBy me.owner v.now = true) (hl' : t'.get? q = some l')
      (hheld' : l'.isHeldBy me.owner v.now = true) (hpartition : l'.partition = l.partition)
      (howned : owned'.contains q = true) : Dealt me v t t' owned' q
  | taken {l l' : Lease} (hl : t.get? q = some l) (havailable : l.isAvailable v.now = true)
      (hl' : t'.get? q = some l') (hheld' : l'.isHeldBy me.owner v.now = true)
      (hpartition : l'.partition = l.partition) (howned : owned'.contains q = true) :
      Dealt me v t t' owned' q
  | left (hleft : t'.get? q = t.get? q)
      (hnot : Held t me.owner v.now q → v.owned.contains q = false)
      (howned : owned'.contains q = false) : Dealt me v t t' owned' q

/-- What a scan leaves behind: its host has its share unless nothing is free. -/
structure Scanned (me : Claimant) (v : Scene) (t t' owned' : Table Lease) : Prop where
  dealt : ∀ q, Dealt me v t t' owned' q
  share : ∀ q, Free t' v.now q →
    fairShare t.size (liveHosts me.owner t.values v.now).length ≤ (heldBy t' me.owner v.now).length

theorem nodup_kept_append_taken (hkeyed : ∀ p l, t.get? p = some l → l.partition = p) :
    (kept me v t ++ taken me v t).Nodup := by
  refine List.nodup_append.2 ⟨v.owned.nodup_names.filter _,
    (nodup_availablePartitions hkeyed).sublist (List.take_sublist _ _), ?_⟩
  rintro q hq _ hq' rfl
  obtain ⟨l, hl, havailable⟩ := (mem_availablePartitions hkeyed).1 (List.mem_of_mem_take hq')
  exact not_mem_kept_of_available hl havailable hq

theorem length_taken (me : Claimant) {q : String} (hq : q ∈ availablePartitions t.values v.now)
    (hnot : q ∉ taken me v t) : (taken me v t).length =
      fairShare t.size (liveHosts me.owner t.values v.now).length - (kept me v t).length := by
  rw [taken, List.length_take, Nat.min_eq_left]
  by_contra hlt
  exact hnot (by rwa [taken, List.take_of_length_le (Nat.le_of_not_le hlt)])

theorem exists_scanned (cancel : Cancellation) (ht : v.leases = some t) (hk : v.checkpoints = some k)
    (hkeyed : ∀ p l, t.get? p = some l → l.partition = p) (hterm : v.now ≤ v.now.plus me.term)
    (howner : me.owner ≠ "") :
    ∃ t' k' owned', result? me (scan me.owner cancel).run v =
        some (.ok (), ⟨v.now, some t', some k', owned'⟩) ∧ Scanned me v t t' owned' := by
  obtain ⟨t', k', owned', hresult, hbalanced⟩ := result?_scan cancel ht hk hkeyed hterm
  have hkept : ∀ q ∈ kept me v t, ∃ l l', t.get? q = some l ∧ l.isHeldBy me.owner v.now = true ∧
      t'.get? q = some l' ∧ l'.isHeldBy me.owner v.now = true ∧ l'.partition = l.partition ∧
      owned'.contains q = true := by
    intro q hq
    obtain ⟨l, l', hl, hrenew, hl', howned, -⟩ := hbalanced.of_mem_kept hq
    obtain ⟨hheld, rfl⟩ := Lease.renew_eq_some.1 hrenew
    refine ⟨l, _, hl, hheld, hl', ?_, rfl, Table.contains_iff.2 ⟨_, howned⟩⟩
    exact isHeldBy_iff.2 ⟨(isHeldBy_iff.1 hheld).1, hterm, (isHeldBy_iff.1 hheld).2.2⟩
  have htaken : ∀ q ∈ taken me v t, ∃ l l', t.get? q = some l ∧ l.isAvailable v.now = true ∧
      t'.get? q = some l' ∧ l'.isHeldBy me.owner v.now = true ∧ l'.partition = l.partition ∧
      owned'.contains q = true := by
    intro q hq
    obtain ⟨l, l', hl, hacquire, hl', howned, -⟩ := hbalanced.of_mem_taken hkeyed hq
    obtain ⟨havailable, rfl⟩ := Lease.acquire_eq_some.1 hacquire
    refine ⟨l, _, hl, havailable, hl', ?_, rfl, Table.contains_iff.2 ⟨_, howned⟩⟩
    exact isHeldBy_iff.2 ⟨howner, hterm, rfl⟩
  refine ⟨t', k', owned', hresult, fun q => ?_, fun q hq => ?_⟩
  · by_cases hq : q ∈ kept me v t
    · obtain ⟨l, l', hl, hheld, hl', hheld', hpartition, howned⟩ := hkept q hq
      exact .kept (mem_kept.1 hq).1 hl hheld hl' hheld' hpartition howned
    · by_cases hq' : q ∈ taken me v t
      · obtain ⟨l, l', hl, havailable, hl', hheld', hpartition, howned⟩ := htaken q hq'
        exact .taken hl havailable hl' hheld' hpartition howned
      · obtain ⟨hleft, howned, -⟩ := hbalanced.of_not_mem hq hq'
        refine .left hleft (fun hheld => ?_) (by simp [Table.contains, howned])
        by_contra hbelieved
        exact hq (mem_kept.2 ⟨by simpa using hbelieved, hheld⟩)
  · have hall : ∀ q' ∈ kept me v t ++ taken me v t, Held t' me.owner v.now q' := by
      intro q' hq'
      rcases List.mem_append.1 hq' with hq' | hq'
      · obtain ⟨l, l', -, -, hl', hheld', -⟩ := hkept q' hq'
        exact ⟨l', hl', hheld'⟩
      · obtain ⟨l, l', -, -, hl', hheld', -⟩ := htaken q' hq'
        exact ⟨l', hl', hheld'⟩
    have hlength : (kept me v t ++ taken me v t).length ≤ (heldBy t' me.owner v.now).length :=
      ((nodup_kept_append_taken hkeyed).subperm fun q' hq' => mem_heldBy.2 (hall q' hq')).length_le
    have hnot : ∀ q' ∈ kept me v t ++ taken me v t, q ≠ q' := by
      rintro q' hq' rfl
      exact (hall q hq').not_free hq
    obtain ⟨hleft, -⟩ := hbalanced.of_not_mem (fun hmem => hnot q (List.mem_append_left _ hmem) rfl)
      fun hmem => hnot q (List.mem_append_right _ hmem) rfl
    have hmissing := length_taken me
      ((mem_availablePartitions hkeyed).2 ((free_congr hleft).1 hq))
      fun hmem => hnot q (List.mem_append_right _ hmem) rfl
    rw [List.length_append, hmissing] at hlength
    omega

namespace Scanned

variable (h : Scanned me v t t' owned')
include h

theorem get?_isSome (q : String) : (t'.get? q).isSome = (t.get? q).isSome := by
  cases h.dealt q with
  | kept _ hl _ hl' => rw [hl, hl', Option.isSome_some, Option.isSome_some]
  | taken hl _ hl' => rw [hl, hl', Option.isSome_some, Option.isSome_some]
  | left hleft => rw [hleft]

theorem keyed (hkeyed : ∀ p l, t.get? p = some l → l.partition = p) {p : String} {l : Lease}
    (hl : t'.get? p = some l) : l.partition = p := by
  cases h.dealt p with
  | kept _ hold _ hl' _ hpartition =>
      obtain rfl := Option.some.inj (hl.symm.trans hl')
      exact hpartition.trans (hkeyed p _ hold)
  | taken hold _ hl' _ hpartition =>
      obtain rfl := Option.some.inj (hl.symm.trans hl')
      exact hpartition.trans (hkeyed p _ hold)
  | left hleft => exact hkeyed p l (hleft.symm.trans hl)

theorem free {p : String} (hfree : Free t' v.now p) : Free t v.now p := by
  cases h.dealt p with
  | kept _ _ _ hl' hheld' => exact absurd hfree (Held.not_free ⟨_, hl', hheld'⟩)
  | taken _ _ hl' hheld' => exact absurd hfree (Held.not_free ⟨_, hl', hheld'⟩)
  | left hleft => exact (free_congr hleft).1 hfree

theorem held_other {other : String} (hne : other ≠ me.owner) (p : String) :
    Held t' other v.now p ↔ Held t other v.now p := by
  cases h.dealt p with
  | kept _ hl hheld hl' hheld' =>
      exact ⟨fun hother => absurd (hother.owner_eq ⟨_, hl', hheld'⟩) hne,
        fun hother => absurd (hother.owner_eq ⟨_, hl, hheld⟩) hne⟩
  | taken hl havailable hl' hheld' =>
      exact ⟨fun hother => absurd (hother.owner_eq ⟨_, hl', hheld'⟩) hne,
        fun hother => absurd ⟨_, hl, havailable⟩ hother.not_free⟩
  | left hleft => exact held_congr hleft

theorem owned_iff (p : String) : owned'.contains p = true ↔ Held t' me.owner v.now p ∧
    ¬ (Held t me.owner v.now p ∧ v.owned.contains p = false) := by
  cases h.dealt p with
  | kept hbelieved _ _ hl' hheld' _ howned =>
      simp only [howned, hbelieved, true_iff]
      exact ⟨⟨_, hl', hheld'⟩, by simp⟩
  | taken hl havailable hl' hheld' _ howned =>
      simp only [howned, true_iff]
      exact ⟨⟨_, hl', hheld'⟩, fun hheld => hheld.1.not_free ⟨_, hl, havailable⟩⟩
  | left hleft hnot howned =>
      rw [held_congr hleft, howned]
      simp only [Bool.false_eq_true, false_iff, not_and]
      exact fun hheld himp => himp hheld (hnot hheld)

theorem owner_of_live {p : String} {l : Lease} (hl : t'.get? p = some l)
    (hlive : l.isAvailable v.now = false) :
    l.owner = me.owner ∨ ∃ old, t.get? p = some old ∧ old.isAvailable v.now = false ∧
      old.owner = l.owner := by
  cases h.dealt p with
  | kept _ _ _ hl' hheld' =>
      obtain rfl := Option.some.inj (hl.symm.trans hl')
      exact .inl (isHeldBy_iff.1 hheld').2.2
  | taken _ _ hl' hheld' =>
      obtain rfl := Option.some.inj (hl.symm.trans hl')
      exact .inl (isHeldBy_iff.1 hheld').2.2
  | left hleft => exact .inr ⟨l, hleft.symm.trans hl, hlive, rfl⟩

end Scanned

/-! ## One scan after the other -/

open Cluster

/-- Hosts complete a scan each, one after the other. -/
inductive Scans : List (Equipment × Cancellation) → Cluster → Cluster → Prop where
  | nil (c : Cluster) : Scans [] c c
  | cons {e : Equipment} {cancel : Cancellation} {rest : List (Equipment × Cancellation)}
      {c c₁ c' : Cluster} {x : Except Error Unit}
      (h : (e.task (.scan cancel)).Ends (Amid Drifts e.me.owner) c x c₁) (hrest : Scans rest c₁ c') :
      Scans ((e, cancel) :: rest) c c'

theorem Scans.now_le {rounds : List (Equipment × Cancellation)} {c c' : Cluster}
    (h : Scans rounds c c') : c.now ≤ c'.now := by
  induction h with
  | nil c => exact le_refl _
  | cons h _ ih => exact le_trans (now_le_of_ends h) ih

/-- A host held the lease of a partition to begin with, but did not know of it. -/
def Forgotten (c : Cluster) (t : Table Lease) (owner p : String) : Prop :=
  Held t owner c.now p ∧ (c.member owner).owned.contains p = false

/-- How things stand when some of the hosts have scanned and some are still to scan. -/
structure Halfway (owners : List String) (c₀ : Cluster) (t₀ : Table Lease) (todo : List String)
    (c : Cluster) (t : Table Lease) : Prop where
  now : c.now = c₀.now
  leases : c.leases.register = some t
  checkpoints : ∃ k, c.checkpoints.register = some k
  keyed : ∀ p l, t.get? p = some l → l.partition = p
  isSome : ∀ p, (t.get? p).isSome = (t₀.get? p).isSome
  live : ∀ p l, t.get? p = some l → l.isAvailable c₀.now = false → l.owner ∈ owners
  /-- For those who are still to scan, all is as it was. -/
  asBefore : ∀ owner ∈ todo, (c.member owner).owned = (c₀.member owner).owned ∧
    ∀ p, Held t owner c₀.now p ↔ Held t₀ owner c₀.now p
  believes : ∀ owner ∈ owners, owner ∉ todo → ∀ p, (c.member owner).owned.contains p = true ↔
    Held t owner c₀.now p ∧ ¬ Forgotten c₀ t₀ owner p
  share : ∀ owner ∈ owners, owner ∉ todo → ∀ p, Free t c₀.now p →
    fairShare t₀.size owners.length ≤ (heldBy t owner c₀.now).length

variable {owners todo : List String} {c₀ c c' : Cluster} {t₀ t : Table Lease}

theorem Scanned.heldBy_other {owned' : Table Lease} (h : Scanned me v t t' owned') {other : String}
    (hne : other ≠ me.owner) : heldBy t' other v.now = heldBy t other v.now := by
  rw [heldBy, heldBy, Table.names_congr h.get?_isSome]
  refine List.filter_congr fun p _ => ?_
  have := h.held_other hne p
  simp only [Held] at this
  rw [Bool.eq_iff_iff, Option.any_eq_true, Option.any_eq_true]
  simpa using this

/-- Whoever scans next keeps things as they should stand. -/
theorem Halfway.scan {e : Equipment} {x : Except Error Unit}
    (h : Halfway owners c₀ t₀ (e.me.owner :: todo) c t) (hleases : e.leases = .register)
    (hcheckpoints : e.checkpoints = .register) (howner : e.me.owner ≠ "") (hmem : e.me.owner ∈ owners)
    (htodo : e.me.owner ∉ todo)
    (hscan : (e.task (.scan cancel)).Ends (Amid Drifts e.me.owner) c x c') (hnow : c'.now = c.now) :
    ∃ t', Halfway owners c₀ t₀ todo c' t' := by
  obtain ⟨k, hk⟩ := h.checkpoints
  have hterm : c.now ≤ c.now.plus e.me.term := Timestamp.ofNanos_le_plus _ _
  obtain ⟨t', k', owned', hresult, hscanned⟩ := exists_scanned cancel
    (v := c.scene e.me.owner) h.leases hk h.keyed hterm howner
  obtain ⟨-, hscene⟩ := Equipment.result_of_ends hleases hcheckpoints
    (rests_of_ends hscan hnow) hresult
  have hclock : (c.scene e.me.owner).now = c₀.now := h.now
  have hother : ∀ other ≠ e.me.owner, (c'.member other).owned = (c.member other).owned :=
    fun other hne => owned_of_ends hscan hne
  have hsize : t.size = t₀.size := by
    rw [← Table.length_names, Table.names_congr h.isSome, Table.length_names]
  have hmine := (h.asBefore e.me.owner List.mem_cons_self)
  refine ⟨t', hnow.trans h.now, congrArg Scene.leases hscene, ⟨k', congrArg Scene.checkpoints hscene⟩,
    fun p l hl => hscanned.keyed h.keyed hl, fun p => (hscanned.get?_isSome p).trans (h.isSome p),
    ?_, ?_, ?_, ?_⟩
  · intro p l hl hlive
    rcases hscanned.owner_of_live hl (hclock ▸ hlive) with heq | ⟨old, hold, holdlive, heq⟩
    · exact heq ▸ hmem
    · exact heq ▸ h.live p old hold (hclock ▸ holdlive)
  · intro owner hin
    have hne : owner ≠ e.me.owner := fun heq => htodo (heq ▸ hin)
    obtain ⟨howned, hheld⟩ := h.asBefore owner (List.mem_cons_of_mem _ hin)
    exact ⟨(hother owner hne).trans howned, fun p =>
      (hclock ▸ hscanned.held_other hne p).trans (hheld p)⟩
  · intro owner hin hnot p
    by_cases heq : owner = e.me.owner
    · subst heq
      rw [show (c'.member e.me.owner).owned = owned' from congrArg Scene.owned hscene,
        hscanned.owned_iff, hclock, hmine.2, Forgotten, ← hmine.1]
      rfl
    · rw [hother owner heq, h.believes owner hin (by simp [heq, hnot])]
      rw [← hclock, hscanned.held_other heq]
  · intro owner hin hnot p hfree
    rw [← hclock] at hfree ⊢
    by_cases heq : owner = e.me.owner
    · subst heq
      refine le_trans ?_ (hscanned.share p hfree)
      rw [hsize]
      refine fairShare_anti _ (liveHosts_ne_nil _ _ _) (length_liveHosts_le hmem fun l hl hlive => ?_)
      obtain ⟨q, hq⟩ := Table.mem_values.1 hl
      exact h.live q l hq (hclock ▸ hlive)
    · rw [hscanned.heldBy_other heq, hclock]
      exact h.share owner hin (by simp [heq, hnot]) p (hclock ▸ hscanned.free hfree)

theorem Halfway.scans {rounds : List (Equipment × Cancellation)}
    (h : Halfway owners c₀ t₀ (rounds.map (·.1.me.owner)) c t)
    (hregisters : ∀ r ∈ rounds, r.1.leases = .register ∧ r.1.checkpoints = .register)
    (hnamed : ∀ r ∈ rounds, r.1.me.owner ≠ "") (hdistinct : (rounds.map (·.1.me.owner)).Nodup)
    (howners : ∀ r ∈ rounds, r.1.me.owner ∈ owners) (hscans : Scans rounds c c')
    (hclock : c'.now = c.now) : ∃ t', Halfway owners c₀ t₀ [] c' t' := by
  induction hscans generalizing t with
  | nil c => exact ⟨t, h⟩
  | @cons e cancel rest c c₁ c' x hscan hrest ih =>
      obtain ⟨hnot, hdistinct⟩ := List.nodup_cons.1 hdistinct
      have hnow : c₁.now = c.now :=
        le_antisymm (hclock ▸ hrest.now_le) (now_le_of_ends hscan)
      have hfirst := hregisters (e, cancel) List.mem_cons_self
      obtain ⟨t₁, h₁⟩ := h.scan hfirst.1 hfirst.2 (hnamed (e, cancel) List.mem_cons_self)
        (howners (e, cancel) List.mem_cons_self) hnot hscan hnow
      exact ih h₁ (fun r hr => hregisters r (List.mem_cons_of_mem _ hr))
        (fun r hr => hnamed r (List.mem_cons_of_mem _ hr)) hdistinct
        (fun r hr => howners r (List.mem_cons_of_mem _ hr)) (hclock.trans hnow.symm)

/-! ## Scans that are run -/

def runScans : List (Equipment × Cancellation) → Cluster → Option Cluster
  | [], c => some c
  | (e, cancel) :: rest, c =>
    match (Routine.ofSite e.me.owner (e.task (.scan cancel))).run c with
    | (some _, c) => runScans rest c
    | (none, _) => none

theorem exists_scans_of_run {rounds : List (Equipment × Cancellation)} {c₀ c c' : Cluster}
    (hc : c₀.Passes c) (h : runScans rounds c = some c') :
    ∃ c₁, Scans rounds c₀ c₁ ∧ c₁.Passes c' := by
  induction rounds generalizing c₀ c with
  | nil =>
      cases h
      exact ⟨c₀, .nil c₀, hc⟩
  | cons r rest ih =>
      obtain ⟨e, cancel⟩ := r
      rw [runScans] at h
      split at h
      · rename_i x c₁ hrun
        obtain ⟨c₂, hend, hafter⟩ := Routine.ends_amid_drifts_of_run hc hrun
        obtain ⟨c₃, hscans, hlast⟩ := ih hafter h
        exact ⟨c₃, .cons hend hscans, hlast⟩
      · cases h

theorem exists_scans (rounds : List (Equipment × Cancellation)) (c : Cluster)
    (shows : Cluster → Bool) (h : (runScans rounds c).any (fun c' => c'.now == c.now && shows c') = true) :
    ∃ c₁ c', Scans rounds c c₁ ∧ c₁.now = c.now ∧ c₁.Passes c' ∧ shows c' = true := by
  obtain ⟨c', hrun, hshows⟩ := (Option.any_eq_true _ _).1 h
  simp only [Bool.and_eq_true, beq_iff_eq] at hshows
  obtain ⟨c₁, hscans, hpasses⟩ := exists_scans_of_run (.refl c) hrun
  exact ⟨c₁, c', hscans, le_antisymm (hshows.1 ▸ hpasses.now_le) hscans.now_le, hpasses, hshows.2⟩

/-! ## All hosts scan -/

/--
Hosts with names of their own share registers, in which every live lease belongs to one of them. When each
has scanned once, in any order and without the clock moving, every partition belongs to one of them for some
time to come. A host believes in the partitions that belong to it and in no others, except that it does not
believe in those that it held from the beginning without believing in them.
-/
theorem all_taken_of_scans {rounds : List (Equipment × Cancellation)} {t : Table Lease}
    {k : Table Checkpoint} (hne : rounds ≠ [])
    (hregisters : ∀ r ∈ rounds, r.1.leases = .register ∧ r.1.checkpoints = .register)
    (hnamed : ∀ r ∈ rounds, r.1.me.owner ≠ "") (hdistinct : (rounds.map (·.1.me.owner)).Nodup)
    (hleases : c.leases.register = some t) (hcheckpoints : c.checkpoints.register = some k)
    (hkeyed : ∀ p l, t.get? p = some l → l.partition = p)
    (hlive : ∀ p l, t.get? p = some l → l.isAvailable c.now = false →
      ∃ r ∈ rounds, r.1.me.owner = l.owner)
    (hscans : Scans rounds c c') (hclock : c'.now = c.now) :
    ∃ t', c'.leases.register = some t' ∧ t'.names = t.names ∧ ∀ p l, t'.get? p = some l →
      l.isAvailable c'.now = false ∧ (∃ r ∈ rounds, r.1.me.owner = l.owner) ∧
      ∀ r ∈ rounds, (c'.member r.1.me.owner).owned.contains p = true ↔
        r.1.me.owner = l.owner ∧ ¬ Forgotten c t r.1.me.owner p := by
  have howners : ∀ {owner : String}, owner ∈ rounds.map (·.1.me.owner) ↔
      ∃ r ∈ rounds, r.1.me.owner = owner := by
    simp
  have hstart : Halfway (rounds.map (·.1.me.owner)) c t (rounds.map (·.1.me.owner)) c t :=
    ⟨rfl, hleases, ⟨k, hcheckpoints⟩, hkeyed, fun _ => rfl,
      fun p l hl hlive' => howners.2 (hlive p l hl hlive'), fun _ _ => ⟨rfl, fun _ => Iff.rfl⟩,
      fun _ hin hnot => absurd hin hnot, fun _ hin hnot => absurd hin hnot⟩
  obtain ⟨t', h⟩ := hstart.scans hregisters hnamed hdistinct
    (fun r hr => howners.2 ⟨r, hr, rfl⟩) hscans hclock
  have hsize : t'.size = t.size := by
    rw [← Table.length_names, Table.names_congr h.isSome, Table.length_names]
  refine ⟨t', h.leases, Table.names_congr h.isSome, fun p l hl => ?_⟩
  have hnotFree : ¬ Free t' c.now p := by
    intro hfree
    refine not_free_of_shares (by simpa using hne) hdistinct (fun owner howner => ?_) hfree
    rw [hsize]
    exact h.share owner howner (List.not_mem_nil) p hfree
  have hlive' : l.isAvailable c.now = false := by
    by_contra havailable
    exact hnotFree ⟨l, hl, by simpa using havailable⟩
  refine ⟨hclock ▸ hlive', howners.1 (h.live p l hl hlive'), fun r hr => ?_⟩
  rw [h.believes _ (howners.2 ⟨r, hr, rfl⟩) List.not_mem_nil]
  refine and_congr_left fun _ => ⟨?_, fun howner => ⟨l, hl, ?_⟩⟩
  · rintro ⟨l', hl', hheld⟩
    obtain rfl := Option.some.inj (hl.symm.trans hl')
    exact (isHeldBy_iff.1 hheld).2.2.symm
  · simp [isHeldBy, hlive', howner]

/-- Registers with a lease of host a, which was started anew and does not know of it, and a free one. -/
def Cluster.ofRestart : Cluster where
  leases := { register := some (.ofList
    [("0", ⟨"0", "a", .ofNanos 30000000000, 1⟩), ("1", Lease.unowned "1")]) }
  checkpoints := { register := some .empty }

def bothScan : List (Equipment × Cancellation) :=
  [(Fleet.pair .register true, .never), (Fleet.pair .register false, .never)]

/-- The lease that host a has forgotten stays its own, but host a does not come to believe in it. -/
theorem forgotten_not_believed : ∃ t k c', Cluster.ofRestart.leases.register = some t ∧
    Cluster.ofRestart.checkpoints.register = some k ∧
    (∀ p l, t.get? p = some l → l.partition = p) ∧
    (∀ p l, t.get? p = some l → l.isAvailable Cluster.ofRestart.now = false →
      ∃ r ∈ bothScan, r.1.me.owner = l.owner) ∧
    Scans bothScan Cluster.ofRestart c' ∧ c'.now = Cluster.ofRestart.now ∧
    ∃ t' l, c'.leases.register = some t' ∧ t'.get? "0" = some l ∧ l.owner = "a" ∧
      (c'.member "a").owned.contains "0" = false := by
  obtain ⟨c', c₁, hscans, hnow, hpasses, hshows⟩ := exists_scans bothScan .ofRestart
    (fun c => (c.leases.register.bind (·.get? "0")).any (·.owner == "a") &&
      !(c.member "a").owned.contains "0") (by decide +kernel)
  simp only [Bool.and_eq_true, Option.any_eq_true, beq_iff_eq, Bool.not_eq_true',
    Option.bind_eq_some_iff, hpasses.leases, hpasses.owned] at hshows
  obtain ⟨⟨l, ⟨t', ht', hl⟩, howner⟩, hnot⟩ := hshows
  exact ⟨_, _, c', rfl, rfl, Table.forall_get?.2 (by decide), Table.forall_get?.2 (by decide), hscans,
    hnow, t', l, ht', hl, howner, hnot⟩

theorem all_taken_of_scans_ofRestart : ∃ t c', Cluster.ofRestart.leases.register = some t ∧
    Scans bothScan Cluster.ofRestart c' ∧ c'.now = Cluster.ofRestart.now ∧
    ∃ t', c'.leases.register = some t' ∧ t'.names = t.names ∧ ∀ p l, t'.get? p = some l →
      l.isAvailable c'.now = false ∧ (∃ r ∈ bothScan, r.1.me.owner = l.owner) ∧
      ∀ r ∈ bothScan, (c'.member r.1.me.owner).owned.contains p = true ↔
        r.1.me.owner = l.owner ∧ ¬ Forgotten Cluster.ofRestart t r.1.me.owner p := by
  obtain ⟨c', c₁, hscans, hnow, -⟩ := exists_scans bothScan .ofRestart (fun _ => true)
    (by decide +kernel)
  exact ⟨_, c', rfl, hscans, hnow, all_taken_of_scans (by decide) (by decide) (by decide) (by decide)
    rfl rfl (Table.forall_get?.2 (by decide)) (Table.forall_get?.2 (by decide)) hscans hnow⟩

end PartitionHost
