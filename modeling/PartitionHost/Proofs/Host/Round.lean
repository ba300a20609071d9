import PartitionHost.Proofs.Host.Scene
import PartitionHost.Proofs.Lease.Registered

/-!
# One scan in a scene

What renewing, acquiring and a whole scan come to where the stores are registers, as what is found under each
name afterwards. A scan renews what its host holds and believes in, and takes available partitions in
ascending order, as many as are missing from its share (`Scene.result?_scan`).
-/

namespace PartitionHost

/-- A lease as it is when `me` has tried to renew it. -/
def Lease.renewed (me : Lease.Claimant) (now : Timestamp) (l : Lease) : Lease :=
  (l.renew me.owner me.term now).getD l

namespace Scene

open Host

variable {me : Lease.Claimant} {cancel : Cancellation} {v v' : Scene} {t : Table Lease}
  {k : Table Checkpoint} {p : String} {ps : List String} {l l' : Lease}

/-! ## Single requests -/

theorem result?_lease {op : Lease.Operation} {x : Except Error op.Reply}
    (h : v.answer? me (.lease cancel op) = some (x, v')) :
    result? me (lease cancel op).run v = some (x, v') := by
  change (v.answer? me (.lease cancel op)).bind _ = _
  rw [h]
  rfl

theorem result?_checkpoint {op : Checkpoint.Operation} {x : Except Error op.Reply}
    (h : v.answer? me (.checkpoint cancel op) = some (x, v')) :
    result? me (checkpoint cancel op).run v = some (x, v') := by
  change (v.answer? me (.checkpoint cancel op)).bind _ = _
  rw [h]
  rfl

theorem result?_lose : result? me (lose p).run v = some (.ok (), { v with owned := v.owned.erase p }) := by
  rw [lose, result?_run_bind (result?_ask rfl)]
  cases v.owned.contains p <;> rfl

/-! ## Renewing -/

theorem answer?_renew_of_none (ht : v.leases = some t) (hl : t.get? p = none) :
    v.answer? me (.lease cancel (.renew p)) = some (.error (.notFound p), v) := by
  obtain ⟨now, leases, checkpoints, owned⟩ := v
  obtain rfl : leases = some t := ht
  simp only [answer?, Lease.Register.perform, Register.withTable, Lease.Register.transition, hl]

theorem answer?_renew_of_some (me : Lease.Claimant) (cancel : Cancellation)
    (ht : v.leases = some t) (hl : t.get? p = some l) :
    v.answer? me (.lease cancel (.renew p)) = match l.renew me.owner me.term v.now with
      | some l' => some (.ok (l', true), { v with leases := some (t.insert p l') })
      | none => some (.ok (l, false), v) := by
  obtain ⟨now, leases, checkpoints, owned⟩ := v
  obtain rfl : leases = some t := ht
  simp only [answer?, Lease.Register.perform, Register.withTable, Lease.Register.transition, hl]
  cases l.renew me.owner me.term now <;> rfl

theorem result?_renewAll_lost {x : Except Error (Lease × Bool)}
    (hx : x = .error (.notFound p) ∨ x = .ok (l, false))
    (h : v.answer? me (.lease cancel (.renew p)) = some (x, v)) :
    result? me (renewAll cancel (p :: ps)).run v =
      result? me (renewAll cancel ps).run { v with owned := v.owned.erase p } := by
  rw [renewAll, result?_outcome_bind (result?_lease h)]
  rcases hx with rfl | rfl
  · exact result?_run_bind result?_lose
  · exact result?_run_bind result?_lose

theorem result?_renewAll_held
    (h : v.answer? me (.lease cancel (.renew p)) = some (.ok (l', true), v')) :
    result? me (renewAll cancel (p :: ps)).run v =
      result? me (renewAll cancel ps).run { v' with owned := v'.owned.insert p l' } := by
  rw [renewAll, result?_outcome_bind (result?_lease h)]
  exact result?_run_bind (result?_ask rfl)

theorem result?_renewAll_cons (me : Lease.Claimant) (cancel : Cancellation) (p : String)
    (ps : List String) (ht : v.leases = some t) :
    ∃ t' owned', result? me (renewAll cancel (p :: ps)).run v =
        result? me (renewAll cancel ps).run { v with leases := some t', owned := owned' } ∧
      t'.get? p = (t.get? p).map (Lease.renewed me v.now) ∧
      owned'.get? p = (t.get? p).bind (·.renew me.owner me.term v.now) ∧
      ∀ q ≠ p, t'.get? q = t.get? q ∧ owned'.get? q = v.owned.get? q := by
  cases hl : t.get? p with
  | none =>
      refine ⟨t, v.owned.erase p, ?_, by simp [hl], by simp, fun q hq => by simp [hq]⟩
      rw [result?_renewAll_lost (l := default) (.inl rfl) (answer?_renew_of_none ht hl), ← ht]
  | some l =>
      have hanswer := answer?_renew_of_some me cancel ht hl
      cases hl' : l.renew me.owner me.term v.now with
      | none =>
          rw [hl'] at hanswer
          refine ⟨t, v.owned.erase p, ?_, by simp [hl, Lease.renewed, hl'], by simp [hl'],
            fun q hq => by simp [hq]⟩
          rw [result?_renewAll_lost (.inr rfl) hanswer, ← ht]
      | some l' =>
          rw [hl'] at hanswer
          exact ⟨t.insert p l', v.owned.insert p l', result?_renewAll_held hanswer,
            by simp [Lease.renewed, hl'], by simp [hl'], fun q hq => by simp [hq]⟩

theorem result?_renewAll (me : Lease.Claimant) (cancel : Cancellation) (hps : ps.Nodup)
    (ht : v.leases = some t) :
    ∃ t' owned', result? me (renewAll cancel ps).run v =
        some (.ok (), { v with leases := some t', owned := owned' }) ∧
      (∀ q, t'.get? q = if q ∈ ps then (t.get? q).map (Lease.renewed me v.now) else t.get? q) ∧
      ∀ q, owned'.get? q = if q ∈ ps then
        (t.get? q).bind (·.renew me.owner me.term v.now) else v.owned.get? q := by
  induction ps generalizing v t with
  | nil =>
      refine ⟨t, v.owned, ?_, fun q => by simp, fun q => by simp⟩
      rw [← ht]
      rfl
  | cons p ps ih =>
      obtain ⟨hp, hps⟩ := List.nodup_cons.1 hps
      obtain ⟨t₁, owned₁, hhead, ht₁, howned₁, hother⟩ := result?_renewAll_cons me cancel p ps ht
      obtain ⟨t', owned', hrest, ht', howned'⟩ :=
        ih hps (v := { v with leases := some t₁, owned := owned₁ }) rfl
      refine ⟨t', owned', hhead.trans hrest, fun q => ?_, fun q => ?_⟩
      · rw [ht']
        by_cases hq : q = p
        · subst hq
          simp [hp, ht₁]
        · simp [hq, (hother q hq).1]
      · rw [howned']
        by_cases hq : q = p
        · subst hq
          simp [hp, howned₁]
        · simp [hq, (hother q hq).1, (hother q hq).2]

/-! ## Acquiring -/

theorem answer?_acquire (ht : v.leases = some t) (hl : t.get? p = some l)
    (hl' : l.acquire me.owner me.term v.now = some l') :
    v.answer? me (.lease cancel (.acquire p)) =
      some (.ok (l', true), { v with leases := some (t.insert p l') }) := by
  have hturn : Lease.Register.transition t p (·.acquire me.owner me.term v.now) =
      (.ok (l', true), t.insert p l') := Lease.Register.transition_eq_of_some hl hl'
  simp only [answer?, ht, Lease.Register.perform, Register.withTable, hturn]

theorem answer?_ensure (me : Lease.Claimant) (cancel : Cancellation) (p : String)
    (hk : v.checkpoints = some k) :
    v.answer? me (.checkpoint cancel (.ensure p)) =
      some (.ok (Register.ensure k p (.startOfStream p)).1,
        { v with checkpoints := some (Register.ensure k p (.startOfStream p)).2 }) := by
  simp only [answer?, hk, Checkpoint.Register.perform, Register.withTable]

theorem get?_ensure {α : Type} (k : Table α) (fresh : α) (q : String) :
    (Register.ensure k p fresh).2.get? q = if q = p then some ((k.get? q).getD fresh) else k.get? q := by
  by_cases hq : q = p
  · subst hq
    cases hk : k.get? q <;> simp [Register.ensure, hk]
  · cases hk : k.get? p <;> simp [Register.ensure, hk, hq]

theorem result?_tryAcquire (cancel : Cancellation) (ht : v.leases = some t)
    (hk : v.checkpoints = some k)
    (hl : t.get? p = some l) (hl' : l.acquire me.owner me.term v.now = some l') :
    result? me (tryAcquire cancel p).run v = some (.ok (), { v with
      leases := some (t.insert p l')
      checkpoints := some (Register.ensure k p (.startOfStream p)).2
      owned := v.owned.insert p l' }) := by
  rw [tryAcquire, result?_run_bind (result?_lease (answer?_acquire ht hl hl'))]
  have hensure := result?_checkpoint
    (answer?_ensure (v := { v with leases := some (t.insert p l') }) me cancel p hk)
  exact (result?_outcome_bind hensure).trans (result?_run_bind (result?_ask rfl))

theorem result?_acquireUpTo_nil (share : Nat) :
    result? me (acquireUpTo share cancel []).run v = some (.ok (), v) := rfl

theorem result?_acquireUpTo_full {share : Nat} (h : share ≤ v.owned.size) :
    result? me (acquireUpTo share cancel ps).run v = some (.ok (), v) := by
  cases ps with
  | nil => rfl
  | cons p ps =>
      rw [acquireUpTo, result?_run_bind (result?_ask rfl), if_pos h]
      rfl

theorem result?_acquireUpTo_cons {share : Nat} (h : v.owned.size < share)
    (hp : result? me (tryAcquire cancel p).run v = some (.ok (), v')) :
    result? me (acquireUpTo share cancel (p :: ps)).run v =
      result? me (acquireUpTo share cancel ps).run v' := by
  rw [acquireUpTo, result?_run_bind (result?_ask rfl), if_neg (Nat.not_le.2 h)]
  exact result?_outcome_bind hp

theorem result?_acquireUpTo (me : Lease.Claimant) (cancel : Cancellation) (share : Nat)
    (hps : ps.Nodup) (ht : v.leases = some t) (hk : v.checkpoints = some k)
    (havailable : ∀ p ∈ ps, ∃ l, t.get? p = some l ∧ l.isAvailable v.now = true)
    (howned : ∀ p ∈ ps, v.owned.get? p = none) :
    ∃ t' k' owned', result? me (acquireUpTo share cancel ps).run v =
        some (.ok (), { v with leases := some t', checkpoints := some k', owned := owned' }) ∧
      owned'.size = v.owned.size + (ps.take (share - v.owned.size)).length ∧
      ∀ q, if q ∈ ps.take (share - v.owned.size) then
          t'.get? q = (t.get? q).bind (·.acquire me.owner me.term v.now) ∧
          owned'.get? q = t'.get? q ∧ k'.get? q = some ((k.get? q).getD (.startOfStream q))
        else t'.get? q = t.get? q ∧ owned'.get? q = v.owned.get? q ∧ k'.get? q = k.get? q := by
  induction ps generalizing v t k with
  | nil =>
      refine ⟨t, k, v.owned, ?_, by simp, fun q => by simp⟩
      rw [result?_acquireUpTo_nil, ← ht, ← hk]
  | cons p ps ih =>
      by_cases hshare : share ≤ v.owned.size
      · refine ⟨t, k, v.owned, ?_, ?_, fun q => ?_⟩
        · rw [result?_acquireUpTo_full hshare, ← ht, ← hk]
        · simp [Nat.sub_eq_zero_of_le hshare]
        · simp [Nat.sub_eq_zero_of_le hshare]
      · have hshare := Nat.lt_of_not_le hshare
        obtain ⟨hp, hps⟩ := List.nodup_cons.1 hps
        obtain ⟨l, hl, hl'⟩ := havailable p List.mem_cons_self
        obtain ⟨l', hl'⟩ : ∃ l', l.acquire me.owner me.term v.now = some l' :=
          ⟨_, Lease.acquire_eq_some.2 ⟨hl', rfl⟩⟩
        have hnew := howned p List.mem_cons_self
        have hne : ∀ q ∈ ps, q ≠ p := fun q hq heq => hp (heq ▸ hq)
        have hhead := result?_tryAcquire cancel ht hk hl hl'
        obtain ⟨t', k', owned', hrest, hsize, hget⟩ := ih hps (v := { v with
            leases := some (t.insert p l')
            checkpoints := some (Register.ensure k p (.startOfStream p)).2
            owned := v.owned.insert p l' }) rfl rfl
          (fun q hq => by
            obtain ⟨m, hm, havailable⟩ := havailable q (List.mem_cons_of_mem p hq)
            exact ⟨m, by simpa [hne q hq] using hm, havailable⟩)
          (fun q hq => by simpa [hne q hq] using howned q (List.mem_cons_of_mem p hq))
        have hmissing : share - v.owned.size = (share - (v.owned.size + 1)) + 1 := by omega
        rw [Table.size_insert hnew] at hsize hget
        refine ⟨t', k', owned', (result?_acquireUpTo_cons hshare hhead).trans hrest, ?_, fun q => ?_⟩
        · rw [hsize, hmissing, List.take_succ_cons, List.length_cons]
          omega
        · have hq := hget q
          rw [hmissing, List.take_succ_cons]
          by_cases hqp : q = p
          · subst hqp
            have hnot : q ∉ ps.take (share - (v.owned.size + 1)) := fun hmem => hp (List.mem_of_mem_take hmem)
            rw [if_neg hnot] at hq
            rw [if_pos List.mem_cons_self, hq.1, hq.2.1, hq.2.2, get?_ensure]
            simp [hl, hl']
          · simpa [hqp, get?_ensure] using hq

/-! ## Scanning -/

/-- What counts of a lease when shares are worked out. -/
def standing (now : Timestamp) (l : Lease) : String × String × Bool :=
  (l.partition, l.owner, l.isAvailable now)

theorem liveHosts_congr {owner : String} {now : Timestamp} {ls ls' : List Lease}
    (h : ls.map (standing now) = ls'.map (standing now)) :
    liveHosts owner ls now = liveHosts owner ls' now := by
  have hmap : ∀ ls : List Lease, (ls.filter (!·.isAvailable now)).map (·.owner) =
      ((ls.map (standing now)).filter (!·.2.2)).map (·.2.1) := by
    intro ls
    rw [List.filter_map, List.map_map]
    rfl
  rw [liveHosts, liveHosts, hmap, hmap, h]

theorem availablePartitions_congr {now : Timestamp} {ls ls' : List Lease}
    (h : ls.map (standing now) = ls'.map (standing now)) :
    availablePartitions ls now = availablePartitions ls' now := by
  have hmap : ∀ ls : List Lease, (ls.filter (·.isAvailable now)).map (·.partition) =
      ((ls.map (standing now)).filter (·.2.2)).map (·.1) := by
    intro ls
    rw [List.filter_map, List.map_map]
    rfl
  rw [availablePartitions, availablePartitions, hmap, hmap, h]

theorem standing_renewed {now : Timestamp} (hterm : now ≤ now.plus me.term) (l : Lease) :
    standing now (l.renewed me now) = standing now l := by
  rw [Lease.renewed]
  cases h : l.renew me.owner me.term now with
  | none => rfl
  | some l' =>
      obtain ⟨hheld, rfl⟩ := Lease.renew_eq_some.1 h
      obtain ⟨-, hlive, -⟩ := Lease.isHeldBy_iff.1 hheld
      simp [standing, Lease.isAvailable, not_lt_of_ge hlive, not_lt_of_ge hterm]

theorem mem_availablePartitions {now : Timestamp} (hkeyed : ∀ p l, t.get? p = some l → l.partition = p) :
    p ∈ availablePartitions t.values now ↔ ∃ l, t.get? p = some l ∧ l.isAvailable now = true := by
  simp only [availablePartitions, List.mem_mergeSort, List.mem_map, List.mem_filter, Table.mem_values]
  constructor
  · rintro ⟨l, ⟨⟨q, hl⟩, havailable⟩, rfl⟩
    exact ⟨l, hkeyed q l hl ▸ hl, havailable⟩
  · rintro ⟨l, hl, havailable⟩
    exact ⟨l, ⟨⟨p, hl⟩, havailable⟩, hkeyed p l hl⟩

theorem nodup_availablePartitions {now : Timestamp}
    (hkeyed : ∀ p l, t.get? p = some l → l.partition = p) :
    (availablePartitions t.values now).Nodup := by
  rw [availablePartitions, (List.mergeSort_perm _ _).nodup_iff]
  refine List.Nodup.sublist (List.filter_sublist.map _) ?_
  have hnames : t.values.map (·.partition) = t.names := by
    rw [Table.values, Table.names, List.map_map]
    exact List.map_congr_left fun e he => hkeyed e.1 e.2 (Table.get?_eq_some_iff.2 he)
  rw [hnames]
  exact t.nodup_names

def kept (me : Lease.Claimant) (v : Scene) (t : Table Lease) : List String :=
  v.owned.names.filter fun q => (t.get? q).any (·.isHeldBy me.owner v.now)

/-- The partitions that a host takes: the first of the available ones that are missing from its share. -/
def taken (me : Lease.Claimant) (v : Scene) (t : Table Lease) : List String :=
  (availablePartitions t.values v.now).take
    (fairShare t.size (liveHosts me.owner t.values v.now).length - (kept me v t).length)

theorem mem_kept : p ∈ kept me v t ↔
    v.owned.contains p = true ∧ ∃ l, t.get? p = some l ∧ l.isHeldBy me.owner v.now = true := by
  simp [kept, Table.mem_names, Table.contains_iff, Option.any_eq_true]

theorem not_mem_kept_of_available (hl : t.get? p = some l)
    (havailable : l.isAvailable v.now = true) : p ∉ kept me v t := by
  intro hp
  obtain ⟨-, l', hl', hheld⟩ := mem_kept.1 hp
  obtain rfl := Option.some.inj (hl.symm.trans hl')
  simp [Lease.isHeldBy, havailable] at hheld

/-- The tables when all that a host believed in was renewed or given up, name by name. -/
def Renewed (me : Lease.Claimant) (v : Scene) (t t₁ owned₁ : Table Lease) : Prop :=
  ∀ q, if q ∈ kept me v t then
      t₁.get? q = (t.get? q).bind (·.renew me.owner me.term v.now) ∧ owned₁.get? q = t₁.get? q
    else t₁.get? q = t.get? q ∧ owned₁.get? q = none

/-- The tables after a scan, name by name. -/
def Balanced (me : Lease.Claimant) (v : Scene) (t : Table Lease) (k : Table Checkpoint)
    (t' : Table Lease) (k' : Table Checkpoint) (owned' : Table Lease) : Prop :=
  ∀ q,
    if q ∈ kept me v t then
      t'.get? q = (t.get? q).bind (·.renew me.owner me.term v.now) ∧
      owned'.get? q = t'.get? q ∧ k'.get? q = k.get? q
    else if q ∈ taken me v t then
      t'.get? q = (t.get? q).bind (·.acquire me.owner me.term v.now) ∧
      owned'.get? q = t'.get? q ∧ k'.get? q = some ((k.get? q).getD (.startOfStream q))
    else t'.get? q = t.get? q ∧ owned'.get? q = none ∧ k'.get? q = k.get? q

theorem result?_renewAll_kept (me : Lease.Claimant) (cancel : Cancellation) (ht : v.leases = some t) :
    ∃ t' owned', result? me (renewAll cancel v.owned.names).run v =
        some (.ok (), { v with leases := some t', owned := owned' }) ∧ Renewed me v t t' owned' := by
  obtain ⟨t', owned', hrenew, ht', howned'⟩ :=
    result?_renewAll me cancel v.owned.nodup_names ht
  refine ⟨t', owned', hrenew, fun q => ?_⟩
  have hnames : q ∈ v.owned.names ↔ v.owned.contains q = true := by
    rw [Table.mem_names, Table.contains_iff]
  rw [ht', howned']
  by_cases hq : q ∈ v.owned.names
  · rw [if_pos hq, if_pos hq]
    cases hl : t.get? q with
    | none => simp [mem_kept, hl]
    | some l =>
        by_cases hheld : l.isHeldBy me.owner v.now = true
        · simp [mem_kept, hl, hnames.1 hq, hheld, Lease.renewed, Lease.renew]
        · simp [mem_kept, hl, hheld, Lease.renewed, Lease.renew]
  · have hnot : q ∉ kept me v t := fun hmem => hq (hnames.2 (mem_kept.1 hmem).1)
    rw [if_neg hnot, if_neg hq, if_neg hq]
    refine ⟨rfl, Option.eq_none_iff_forall_ne_some.2 fun l hl => hq ?_⟩
    exact Table.mem_names.2 ⟨l, hl⟩

namespace Renewed

variable {t₁ owned₁ : Table Lease} (h : Renewed me v t t₁ owned₁)
include h

theorem exists_renewed {q : String} (hq : q ∈ kept me v t) : ∃ l l', t.get? q = some l ∧
    l.renew me.owner me.term v.now = some l' ∧ t₁.get? q = some l' ∧ owned₁.get? q = some l' := by
  obtain ⟨-, l, hl, hheld⟩ := mem_kept.1 hq
  have hget := h q
  rw [if_pos hq, hl, Option.bind_some, Lease.renew_eq_some.2 ⟨hheld, rfl⟩] at hget
  exact ⟨l, _, hl, Lease.renew_eq_some.2 ⟨hheld, rfl⟩, hget.1, hget.2.trans hget.1⟩

/-- Shares are worked out after the renewals, but come out as before them. -/
theorem map_standing (hterm : v.now ≤ v.now.plus me.term) :
    t₁.values.map (standing v.now) = t.values.map (standing v.now) := by
  refine Table.map_values_congr fun q => ?_
  by_cases hq : q ∈ kept me v t
  · obtain ⟨l, l', hl, hl', ht₁, -⟩ := h.exists_renewed hq
    rw [ht₁, hl, Option.map_some, Option.map_some, ← standing_renewed hterm l, Lease.renewed, hl']
    rfl
  · have hget := h q
    rw [if_neg hq] at hget
    rw [hget.1]

theorem size_owned : owned₁.size = (kept me v t).length := by
  rw [← Table.length_names]
  refine List.Perm.length_eq ((List.perm_ext_iff_of_nodup owned₁.nodup_names
    (v.owned.nodup_names.filter _)).2 fun q => ?_)
  rw [Table.mem_names]
  by_cases hq : q ∈ kept me v t
  · obtain ⟨l, l', -, -, -, howned₁⟩ := h.exists_renewed hq
    exact ⟨fun _ => hq, fun _ => ⟨l', howned₁⟩⟩
  · have hget := h q
    rw [if_neg hq] at hget
    change (∃ a, owned₁.get? q = some a) ↔ q ∈ kept me v t
    simp [hget.2, hq]

theorem get?_of_available (hkeyed : ∀ p l, t.get? p = some l → l.partition = p) {q : String}
    (hq : q ∈ availablePartitions t.values v.now) :
    (∃ l, t.get? q = some l ∧ l.isAvailable v.now = true) ∧ t₁.get? q = t.get? q ∧
      owned₁.get? q = none := by
  obtain ⟨l, hl, havailable⟩ := (mem_availablePartitions hkeyed).1 hq
  have hget := h q
  rw [if_neg (not_mem_kept_of_available hl havailable)] at hget
  exact ⟨⟨l, hl, havailable⟩, hget⟩

theorem balanced (hkeyed : ∀ p l, t.get? p = some l → l.partition = p) {t' owned' : Table Lease}
    {k' : Table Checkpoint}
    (htaken : ∀ q, if q ∈ taken me v t then
        t'.get? q = (t₁.get? q).bind (·.acquire me.owner me.term v.now) ∧
        owned'.get? q = t'.get? q ∧ k'.get? q = some ((k.get? q).getD (.startOfStream q))
      else t'.get? q = t₁.get? q ∧ owned'.get? q = owned₁.get? q ∧ k'.get? q = k.get? q) :
    Balanced me v t k t' k' owned' := by
  intro q
  have hget := htaken q
  have hkept := h q
  by_cases hq : q ∈ kept me v t
  · have hnot : q ∉ taken me v t := by
      intro hmem
      obtain ⟨l, hl, havailable⟩ := (mem_availablePartitions hkeyed).1 (List.mem_of_mem_take hmem)
      exact not_mem_kept_of_available hl havailable hq
    rw [if_pos hq] at hkept ⊢
    rw [if_neg hnot] at hget
    exact ⟨hget.1.trans hkept.1, hget.2.1.trans (hkept.2.trans hget.1.symm), hget.2.2⟩
  · rw [if_neg hq] at hkept ⊢
    rw [hkept.1, hkept.2] at hget
    exact hget

end Renewed

namespace Balanced

variable {t' owned' : Table Lease} {k' : Table Checkpoint} (h : Balanced me v t k t' k' owned')
include h

theorem of_mem_kept {q : String} (hq : q ∈ kept me v t) : ∃ l l', t.get? q = some l ∧
    l.renew me.owner me.term v.now = some l' ∧ t'.get? q = some l' ∧ owned'.get? q = some l' ∧
    k'.get? q = k.get? q := by
  obtain ⟨-, l, hl, hheld⟩ := mem_kept.1 hq
  obtain ⟨l', hl'⟩ : ∃ l', l.renew me.owner me.term v.now = some l' :=
    ⟨_, Lease.renew_eq_some.2 ⟨hheld, rfl⟩⟩
  have hget := h q
  rw [if_pos hq, hl, Option.bind_some, hl'] at hget
  exact ⟨l, l', hl, hl', hget.1, hget.2.1.trans hget.1, hget.2.2⟩

theorem of_mem_taken (hkeyed : ∀ p l, t.get? p = some l → l.partition = p) {q : String}
    (hq : q ∈ taken me v t) : ∃ l l', t.get? q = some l ∧
      l.acquire me.owner me.term v.now = some l' ∧ t'.get? q = some l' ∧ owned'.get? q = some l' ∧
      k'.get? q = some ((k.get? q).getD (.startOfStream q)) := by
  obtain ⟨l, hl, havailable⟩ := (mem_availablePartitions hkeyed).1 (List.mem_of_mem_take hq)
  obtain ⟨l', hl'⟩ : ∃ l', l.acquire me.owner me.term v.now = some l' :=
    ⟨_, Lease.acquire_eq_some.2 ⟨havailable, rfl⟩⟩
  have hget := h q
  rw [if_neg (not_mem_kept_of_available hl havailable), if_pos hq, hl, Option.bind_some, hl'] at hget
  exact ⟨l, l', hl, hl', hget.1, hget.2.1.trans hget.1, hget.2.2⟩

theorem of_not_mem {q : String} (hq : q ∉ kept me v t) (hq' : q ∉ taken me v t) :
    t'.get? q = t.get? q ∧ owned'.get? q = none ∧ k'.get? q = k.get? q := by
  have hget := h q
  rwa [if_neg hq, if_neg hq'] at hget

end Balanced

theorem result?_scan (cancel : Cancellation) (ht : v.leases = some t) (hk : v.checkpoints = some k)
    (hkeyed : ∀ p l, t.get? p = some l → l.partition = p) (hterm : v.now ≤ v.now.plus me.term) :
    ∃ t' k' owned', result? me (scan me.owner cancel).run v =
        some (.ok (), ⟨v.now, some t', some k', owned'⟩) ∧ Balanced me v t k t' k' owned' := by
  obtain ⟨t₁, owned₁, hrenew, hrenewed⟩ := result?_renewAll_kept me cancel ht
  have hvalues := hrenewed.map_standing hterm
  have hsize : t₁.values.length = t.size := by
    rw [← List.length_map (standing v.now), hvalues, List.length_map, Table.length_values]
  have hlist : Scene.answer? me { v with leases := some t₁, owned := owned₁ } (.lease cancel .list) =
      some (.ok t₁.values, { v with leases := some t₁, owned := owned₁ }) := rfl
  obtain ⟨t', k', owned', hacquire, -, hget⟩ := result?_acquireUpTo me cancel
    (fairShare t.size (liveHosts me.owner t.values v.now).length)
    (v := { v with leases := some t₁, owned := owned₁ }) (nodup_availablePartitions hkeyed) rfl hk
    (fun q hq => by
      obtain ⟨havailable, hsame, -⟩ := hrenewed.get?_of_available hkeyed hq
      exact hsame ▸ havailable)
    fun q hq => (hrenewed.get?_of_available hkeyed hq).2.2
  rw [hrenewed.size_owned] at hget
  refine ⟨t', k', owned', ?_, hrenewed.balanced hkeyed hget⟩
  rw [scan, result?_run_bind (result?_ask rfl), result?_run_bind hrenew,
    result?_run_bind (result?_lease hlist), result?_run_bind (result?_ask rfl)]
  rw [liveHosts_congr hvalues, availablePartitions_congr hvalues, hsize, result?_run_bind hacquire]
  rfl

end Scene

end PartitionHost
