import Mathlib.Algebra.Order.Floor.Div
import PartitionHost.Proofs.Host.Coverage
import PartitionHost.Proofs.Host.Restraint

/-!
# A scan, to the last detail

What a scan changes and what it announces, where the stores are registers, the clock stands still and every
event finds its consumer. The leases may be listed in any order (`Scene.enact?`); the effect is the same one,
and it is told from the tables as they are before the scan (`Scene.scan_is_exact`). It is what a scan comes to
in a cluster as well (`Equipment.exact_of_scan`).
-/

namespace PartitionHost

namespace Scene

open Host

variable {α β : Type} {order : List Lease → List Lease} {me : Lease.Claimant} {cancel : Cancellation}
  {v v' v₁ : Scene} {es es' : List Host.Event} {t : Table Lease} {k : Table Checkpoint} {p : String}
  {ps : List String} {share : Nat} {l l' : Lease} {now : Timestamp}

/-! ## Tasks with their events -/

/-- An answer as the host gets it, when leases are listed in an order of their own. -/
def shown (order : List Lease → List Lease) : (r : Host.Request) → r.Answer → r.Answer
  | .lease _ .list, x => x.map order
  | _, x => x

@[simp] theorem shown_id (r : Host.Request) (x : r.Answer) : shown id r x = x := by
  unfold shown
  split
  · exact congrFun Except.map_id _
  · rfl

/-- What the consumers are told by a request. -/
def news : Host.Request → List Host.Event
  | .announce e => [e]
  | _ => []

/-- What a task comes to when these events were announced before. -/
def after (es : List Host.Event) : α × Scene × List Host.Event → α × Scene × List Host.Event
  | (a, v, es') => (a, v, es ++ es')

/-- What a task comes to in a scene, the scene after it, and the events that it announced. -/
def enact? (order : List Lease → List Lease) (me : Lease.Claimant) :
    Task Surroundings α → Scene → Option (α × Scene × List Host.Event)
  | .done a, v => some (a, v, [])
  | .ask r resume, v => (v.answer? me r).bind fun (x, v) =>
    (enact? order me (resume (shown order r x)) v).map (after (news r))

@[simp] theorem map_after_nil (o : Option (α × Scene × List Host.Event)) : o.map (after []) = o := by
  cases o <;> rfl

@[simp] theorem map_after_after (o : Option (α × Scene × List Host.Event)) :
    (o.map (after es')).map (after es) = o.map (after (es ++ es')) := by
  rw [Option.map_map]
  congr 1
  funext ⟨a, v, es''⟩
  simp [after]

theorem enact?_bind {t : Task Surroundings α} {a : α} (h : enact? order me t v = some (a, v₁, es))
    (f : α → Task Surroundings β) :
    enact? order me (t.bind f) v = (enact? order me (f a) v₁).map (after es) := by
  induction t generalizing v es with
  | done a =>
      cases h
      exact (map_after_nil _).symm
  | ask r resume ih =>
      obtain ⟨⟨x, v₂⟩, hx, hnext⟩ := Option.bind_eq_some_iff.1 h
      obtain ⟨⟨b, w, es₁⟩, hrest, heq⟩ := Option.map_eq_some_iff.1 hnext
      cases heq
      rw [Task.ask_bind, enact?, hx, Option.bind_some]
      exact (congrArg _ (ih _ hrest)).trans (map_after_after _)

/-- The order of listings does not matter to a task that does not list. -/
theorem result?_of_enact? {t : Task Surroundings α} {a : α}
    (ht : t.Asks fun r : Host.Request => ∀ c, r ≠ .lease c .list)
    (h : enact? order me t v = some (a, v', es)) : result? me t v = some (a, v') := by
  induction t generalizing v es with
  | done a =>
      cases h
      rfl
  | ask r resume ih =>
      obtain ⟨⟨x, v₂⟩, hx, hnext⟩ := Option.bind_eq_some_iff.1 h
      obtain ⟨⟨b, w, es₁⟩, hrest, heq⟩ := Option.map_eq_some_iff.1 hnext
      cases heq
      have hshown : shown order r x = x := by
        unfold shown
        split
        · exact absurd rfl (ht.1 _)
        · rfl
      rw [hshown] at hrest
      rw [result?, hx]
      exact ih x (ht.2 x) hrest

section Programs

variable {q : Program α}

theorem enact?_run_bind {a : α} (h : enact? order me q.run v = some (.ok a, v₁, es))
    (f : α → Program β) :
    enact? order me (q >>= f).run v = (enact? order me (f a).run v₁).map (after es) := by
  rw [Task.run_bind]
  exact enact?_bind h _

theorem enact?_outcome_bind {y : Except Error α} (h : enact? order me q.run v = some (y, v₁, es))
    (f : Except Error α → Program β) :
    enact? order me (outcome q >>= f).run v = (enact? order me (f y).run v₁).map (after es) := by
  have houtcome : (outcome q).run = q.run.bind fun x => .done (.ok x) := rfl
  rw [Task.run_bind, houtcome, Task.bind_assoc]
  exact enact?_bind h _

theorem enact?_ask {r : Host.Request} {x : r.Answer} (h : v.answer? me r = some (x, v')) :
    enact? order me (ask r).run v = some (.ok (shown order r x), v', news r) := by
  change (v.answer? me r).bind _ = _
  rw [h, Option.bind_some]
  change some (_, _, news r ++ []) = _
  rw [List.append_nil]

theorem enact?_ask_bind {r : Host.Request} {x : r.Answer} (h : v.answer? me r = some (x, v₁))
    (hshown : shown order r x = x) (hnews : news r = []) (f : r.Answer → Program β) :
    enact? order me (ask r >>= f).run v = enact? order me (f x).run v₁ := by
  rw [enact?_run_bind (enact?_ask h), hshown, hnews, map_after_nil]

theorem enact?_lease {op : Lease.Operation} {x : Except Error op.Reply}
    (h : v.answer? me (.lease cancel op) = some (x, v')) :
    enact? order me (lease cancel op).run v = some (shown order (.lease cancel op) x, v', []) := by
  change (v.answer? me (.lease cancel op)).bind _ = _
  rw [h]
  rfl

theorem enact?_checkpoint (order : List Lease → List Lease) {op : Checkpoint.Operation}
    {x : Except Error op.Reply} (h : v.answer? me (.checkpoint cancel op) = some (x, v')) :
    enact? order me (checkpoint cancel op).run v = some (x, v', []) := by
  change (v.answer? me (.checkpoint cancel op)).bind _ = _
  rw [h]
  rfl

end Programs

/-! ## Renewing -/

def isGone (me : Lease.Claimant) (v : Scene) (t : Table Lease) (p : String) : Bool :=
  v.owned.contains p && !(t.get? p).any (·.isHeldBy me.owner v.now)

theorem enact?_lose (p : String) : enact? order me (lose p).run v =
    some (.ok (), { v with owned := v.owned.erase p }, if v.owned.contains p then [.lost p] else []) := by
  rw [lose, enact?_ask_bind rfl rfl rfl]
  cases v.owned.contains p <;> rfl

theorem enact?_renewAll_lost {x : Except Error (Lease × Bool)}
    (hx : x = .error (.notFound p) ∨ x = .ok (l, false))
    (h : v.answer? me (.lease cancel (.renew p)) = some (x, v)) :
    enact? order me (renewAll cancel (p :: ps)).run v =
      (enact? order me (renewAll cancel ps).run { v with owned := v.owned.erase p }).map
        (after (if v.owned.contains p then [.lost p] else [])) := by
  rw [renewAll, enact?_outcome_bind (enact?_lease h), map_after_nil]
  rcases hx with rfl | rfl
  · exact enact?_run_bind (enact?_lose p) _
  · exact enact?_run_bind (enact?_lose p) _

theorem enact?_renewAll_held
    (h : v.answer? me (.lease cancel (.renew p)) = some (.ok (l', true), v')) :
    enact? order me (renewAll cancel (p :: ps)).run v =
      enact? order me (renewAll cancel ps).run { v' with owned := v'.owned.insert p l' } := by
  rw [renewAll, enact?_outcome_bind (enact?_lease h), map_after_nil]
  exact enact?_ask_bind rfl rfl rfl _

theorem enact?_renewAll_cons (order : List Lease → List Lease) (me : Lease.Claimant)
    (cancel : Cancellation) (p : String) (ps : List String) (ht : v.leases = some t) :
    ∃ t₁ owned₁, (enact? order me (renewAll cancel (p :: ps)).run v =
        (enact? order me (renewAll cancel ps).run { v with leases := some t₁, owned := owned₁ }).map
          (after (if isGone me v t p then [.lost p] else []))) ∧
      ∀ q ≠ p, t₁.get? q = t.get? q ∧ owned₁.get? q = v.owned.get? q := by
  cases hl : t.get? p with
  | none =>
      refine ⟨t, v.owned.erase p, ?_, fun q hq => by simp [hq]⟩
      have hgone : isGone me v t p = v.owned.contains p := by simp [isGone, hl]
      rw [enact?_renewAll_lost (l := default) (.inl rfl) (answer?_renew_of_none ht hl), ← ht, hgone]
  | some l =>
      have hanswer := answer?_renew_of_some me cancel ht hl
      cases hl' : l.renew me.owner me.term v.now with
      | none =>
          rw [hl'] at hanswer
          refine ⟨t, v.owned.erase p, ?_, fun q hq => by simp [hq]⟩
          have hheld : l.isHeldBy me.owner v.now = false := by simpa [Lease.renew] using hl'
          have hgone : isGone me v t p = v.owned.contains p := by simp [isGone, hl, hheld]
          rw [enact?_renewAll_lost (.inr rfl) hanswer, ← ht, hgone]
      | some l' =>
          rw [hl'] at hanswer
          refine ⟨t.insert p l', v.owned.insert p l', ?_, fun q hq => by simp [hq]⟩
          have hheld := (Lease.renew_eq_some.1 hl').1
          have hgone : isGone me v t p = false := by simp [isGone, hl, hheld]
          rw [enact?_renewAll_held hanswer, hgone]
          exact (map_after_nil _).symm

theorem enact?_renewAll (order : List Lease → List Lease) (me : Lease.Claimant) (cancel : Cancellation)
    (hps : ps.Nodup) (ht : v.leases = some t) :
    ∃ v', enact? order me (renewAll cancel ps).run v =
      some (.ok (), v', (ps.filter (isGone me v t)).map .lost) := by
  induction ps generalizing v t with
  | nil => exact ⟨v, rfl⟩
  | cons p ps ih =>
      obtain ⟨hp, hps⟩ := List.nodup_cons.1 hps
      obtain ⟨t₁, owned₁, hhead, hsame⟩ := enact?_renewAll_cons order me cancel p ps ht
      obtain ⟨v', hrest⟩ := ih hps (v := { v with leases := some t₁, owned := owned₁ }) rfl
      have hgone : ps.filter (isGone me { v with leases := some t₁, owned := owned₁ } t₁) =
          ps.filter (isGone me v t) := by
        refine List.filter_congr fun q hq => ?_
        obtain ⟨ht₁, howned₁⟩ := hsame q fun heq => hp (heq ▸ hq)
        simp only [isGone, Table.contains, ht₁, howned₁]
      rw [hrest, hgone] at hhead
      refine ⟨v', hhead.trans ?_⟩
      by_cases hlost : isGone me v t p = true
      · simp [hlost, after]
      · simp [hlost, after]

theorem not_list_of_renewing (r : Host.Request) (h : r.IsOfRenewing) : ∀ c, r ≠ .lease c .list := by
  rintro c rfl
  exact h

/-- Renewing all that is believed in comes down to the partitions that are kept, and the others are lost. -/
theorem enact?_renewAll_kept (order : List Lease → List Lease) (me : Lease.Claimant)
    (cancel : Cancellation) (ht : v.leases = some t) :
    ∃ t' owned', enact? order me (renewAll cancel v.owned.names).run v =
        some (.ok (), { v with leases := some t', owned := owned' },
          (v.owned.names.filter (isGone me v t)).map .lost) ∧ Renewed me v t t' owned' := by
  obtain ⟨t', owned', hrenew, hrenewed⟩ := result?_renewAll_kept me cancel ht
  obtain ⟨v', hrenewing⟩ := enact?_renewAll order me cancel v.owned.nodup_names ht
  have hv' := result?_of_enact? ((asks_renewAll _).mono not_list_of_renewing) hrenewing
  cases hrenew.symm.trans hv'
  exact ⟨t', owned', hrenewing, hrenewed⟩

/-! ## Acquiring -/

def acquisition (me : Lease.Claimant) (now : Timestamp) (t : Table Lease) (k : Table Checkpoint)
    (p : String) : Host.Event :=
  .acquired (((t.get? p).bind (·.acquire me.owner me.term now)).getD default)
    ((k.get? p).getD (.startOfStream p))

theorem fst_ensure (k : Table Checkpoint) (p : String) (fresh : Checkpoint) :
    (Register.ensure k p fresh).1 = (k.get? p).getD fresh := by
  cases hk : k.get? p <;> simp [Register.ensure, hk]

theorem enact?_tryAcquire (order : List Lease → List Lease) (cancel : Cancellation)
    (ht : v.leases = some t) (hk : v.checkpoints = some k) (hl : t.get? p = some l)
    (hl' : l.acquire me.owner me.term v.now = some l') :
    enact? order me (tryAcquire cancel p).run v = some (.ok (), { v with
      leases := some (t.insert p l')
      checkpoints := some (Register.ensure k p (.startOfStream p)).2
      owned := v.owned.insert p l' }, [acquisition me v.now t k p]) := by
  have hensure := enact?_checkpoint order
    (answer?_ensure (v := { v with leases := some (t.insert p l') }) me cancel p hk)
  have hnews : acquisition me v.now t k p =
      .acquired l' (Register.ensure k p (.startOfStream p)).1 := by
    rw [acquisition, hl, Option.bind_some, hl', Option.getD_some, fst_ensure]
  rw [tryAcquire, enact?_run_bind (enact?_lease (answer?_acquire ht hl hl')), map_after_nil, hnews]
  refine (enact?_outcome_bind hensure _).trans ?_
  rw [map_after_nil]
  exact enact?_ask_bind rfl rfl rfl _

theorem enact?_acquireUpTo_full (h : share ≤ v.owned.size) :
    enact? order me (acquireUpTo share cancel ps).run v = some (.ok (), v, []) := by
  cases ps with
  | nil => rfl
  | cons p ps =>
      rw [acquireUpTo, enact?_ask_bind rfl rfl rfl, if_pos h]
      rfl

theorem enact?_acquireUpTo_cons (h : v.owned.size < share)
    (hp : enact? order me (tryAcquire cancel p).run v = some (.ok (), v', es)) :
    enact? order me (acquireUpTo share cancel (p :: ps)).run v =
      (enact? order me (acquireUpTo share cancel ps).run v').map (after es) := by
  rw [acquireUpTo, enact?_ask_bind rfl rfl rfl, if_neg (Nat.not_le.2 h)]
  exact enact?_outcome_bind hp _

theorem enact?_acquireUpTo (order : List Lease → List Lease) (me : Lease.Claimant)
    (cancel : Cancellation) (share : Nat) (hps : ps.Nodup) (ht : v.leases = some t)
    (hk : v.checkpoints = some k)
    (havailable : ∀ p ∈ ps, ∃ l, t.get? p = some l ∧ l.isAvailable v.now = true)
    (howned : ∀ p ∈ ps, v.owned.get? p = none) :
    ∃ v', enact? order me (acquireUpTo share cancel ps).run v = some (.ok (), v',
      (ps.take (share - v.owned.size)).map (acquisition me v.now t k)) := by
  induction ps generalizing v t k with
  | nil => exact ⟨v, by rw [List.take_nil]; rfl⟩
  | cons p ps ih =>
      by_cases hfull : share ≤ v.owned.size
      · exact ⟨v, by rw [Nat.sub_eq_zero_of_le hfull]; exact enact?_acquireUpTo_full hfull⟩
      have hshare := Nat.lt_of_not_le hfull
      obtain ⟨hp, hps⟩ := List.nodup_cons.1 hps
      obtain ⟨l, hl, hfree⟩ := havailable p List.mem_cons_self
      obtain ⟨l', hl'⟩ : ∃ l', l.acquire me.owner me.term v.now = some l' :=
        ⟨_, Lease.acquire_eq_some.2 ⟨hfree, rfl⟩⟩
      have hne : ∀ q ∈ ps, q ≠ p := fun q hq heq => hp (heq ▸ hq)
      have htry := enact?_tryAcquire order cancel ht hk hl hl'
      obtain ⟨v', hrest⟩ := ih hps (v := { v with
          leases := some (t.insert p l')
          checkpoints := some (Register.ensure k p (.startOfStream p)).2
          owned := v.owned.insert p l' }) rfl rfl
        (fun q hq => by
          obtain ⟨m, hm, hfree⟩ := havailable q (List.mem_cons_of_mem p hq)
          exact ⟨m, by simpa [hne q hq] using hm, hfree⟩)
        (fun q hq => by simpa [hne q hq] using howned q (List.mem_cons_of_mem p hq))
      -- What is announced of the others is not changed by this acquisition.
      have hsame : ∀ q ∈ ps.take (share - (v.owned.size + 1)), acquisition me v.now (t.insert p l')
          (Register.ensure k p (.startOfStream p)).2 q = acquisition me v.now t k q := by
        intro q hq
        have hq := hne q (List.mem_of_mem_take hq)
        rw [acquisition, acquisition, Table.get?_insert, if_neg hq, get?_ensure, if_neg hq]
      rw [Table.size_insert (howned p List.mem_cons_self), List.map_congr_left hsame] at hrest
      have hmissing : share - v.owned.size = (share - (v.owned.size + 1)) + 1 := by omega
      refine ⟨v', (enact?_acquireUpTo_cons hshare htry).trans ?_⟩
      rw [hrest, hmissing, List.take_succ_cons, List.map_cons]
      rfl

/-! ## Shares, whatever order the leases are listed in -/

/-- The hosts among which the partitions are shared: the owners of live leases, and the host itself. -/
def sharers (me : Lease.Claimant) (v : Scene) (t : Table Lease) : Finset String :=
  insert me.owner ((t.values.filter (!·.isAvailable v.now)).map (·.owner)).toFinset

/-- The partitions that are due to a host: the first available ones, as many as are missing from its share. -/
def due (me : Lease.Claimant) (v : Scene) (t : Table Lease) : List String :=
  (t.names.filter fun p => (t.get? p).any (·.isAvailable v.now)).take
    (t.size ⌈/⌉ (sharers me v t).card - (kept me v t).length)

theorem length_liveHosts_of_perm {ls ls' : List Lease} (h : ls.Perm ls') (owner : String)
    (now : Timestamp) : (liveHosts owner ls now).length = (liveHosts owner ls' now).length := by
  refine ((List.perm_ext_iff_of_nodup (nodup_eraseDups _) (nodup_eraseDups _)).2 fun host => ?_).length_eq
  rw [List.mem_eraseDups, List.mem_eraseDups]
  exact (((h.filter _).map _).cons owner).mem_iff

theorem availablePartitions_of_perm {ls ls' : List Lease} (h : ls.Perm ls') (now : Timestamp) :
    availablePartitions ls now = availablePartitions ls' now := by
  have hperm : (availablePartitions ls now).Perm (availablePartitions ls' now) :=
    (List.mergeSort_perm _ _).trans (((h.filter _).map _).trans (List.mergeSort_perm _ _).symm)
  exact hperm.eq_of_pairwise (fun _ _ _ _ => Std.le_antisymm) (sorted_availablePartitions ls now)
    (sorted_availablePartitions ls' now)

theorem length_liveHosts (me : Lease.Claimant) (v : Scene) (t : Table Lease) :
    (liveHosts me.owner t.values v.now).length = (sharers me v t).card := by
  rw [liveHosts, ← List.toFinset_card_of_nodup (nodup_eraseDups _)]
  congr 1
  ext host
  simp [sharers, List.mem_eraseDups]

theorem availablePartitions_eq (hkeyed : ∀ p l, t.get? p = some l → l.partition = p) (now : Timestamp) :
    availablePartitions t.values now = t.names.filter fun p => (t.get? p).any (·.isAvailable now) := by
  have hnames : (t.names.filter fun p => (t.get? p).any (·.isAvailable now)).Pairwise (· < ·) :=
    (List.pairwise_map.2 t.ascending).filter _
  have hperm : (availablePartitions t.values now).Perm
      (t.names.filter fun p => (t.get? p).any (·.isAvailable now)) := by
    refine (List.perm_ext_iff_of_nodup (nodup_availablePartitions hkeyed) (t.nodup_names.filter _)).2
      fun p => ?_
    rw [mem_availablePartitions hkeyed, List.mem_filter, Table.mem_names, Option.any_eq_true]
    exact ⟨fun ⟨l, hl⟩ => ⟨⟨l, hl.1⟩, l, hl⟩, And.right⟩
  exact hperm.eq_of_pairwise (fun _ _ _ _ => Std.le_antisymm) (sorted_availablePartitions _ now)
    (hnames.imp Std.le_of_lt)

/-- What is worked out from a listing after the renewals comes out as from the table before them. -/
theorem Renewed.listed {t₁ owned₁ : Table Lease} (h : Renewed me v t t₁ owned₁)
    (hterm : v.now ≤ v.now.plus me.term) {ls : List Lease} (hls : ls.Perm t₁.values) :
    ls.length = t.size ∧ (liveHosts me.owner ls v.now).length = (liveHosts me.owner t.values v.now).length ∧
      availablePartitions ls v.now = availablePartitions t.values v.now := by
  have hvalues := h.map_standing hterm
  refine ⟨?_, ?_, ?_⟩
  · rw [hls.length_eq, ← List.length_map (standing v.now), hvalues, List.length_map, Table.length_values]
  · rw [length_liveHosts_of_perm hls, liveHosts_congr hvalues]
  · rw [availablePartitions_of_perm hls, availablePartitions_congr hvalues]

theorem taken_eq_due (hkeyed : ∀ p l, t.get? p = some l → l.partition = p) :
    taken me v t = due me v t := by
  rw [taken, due, availablePartitions_eq hkeyed, length_liveHosts, Nat.ceilDiv_eq_add_pred_div, fairShare]

/-! ## Scanning -/

/-- What a scan announces, where the tables are these: what it gives up, then what it takes. -/
def announcements (me : Lease.Claimant) (v : Scene) (t : Table Lease) (k : Table Checkpoint) :
    List Host.Event :=
  (v.owned.names.filter (isGone me v t)).map .lost ++ (taken me v t).map (acquisition me v.now t k)

theorem not_list_of_acquiring (r : Host.Request) (h : r.IsOfAcquiring) : ∀ c, r ≠ .lease c .list := by
  rintro c rfl
  exact h

theorem enact?_scan (horder : ∀ ls, (order ls).Perm ls) (cancel : Cancellation)
    (ht : v.leases = some t) (hk : v.checkpoints = some k)
    (hkeyed : ∀ p l, t.get? p = some l → l.partition = p) (hterm : v.now ≤ v.now.plus me.term) :
    ∃ t' k' owned', enact? order me (scan me.owner cancel).run v =
        some (.ok (), ⟨v.now, some t', some k', owned'⟩, announcements me v t k) ∧
      Balanced me v t k t' k' owned' := by
  obtain ⟨t₁, owned₁, hrenewing, hrenewed⟩ := enact?_renewAll_kept order me cancel ht
  have hlist : Scene.answer? me { v with leases := some t₁, owned := owned₁ } (.lease cancel .list) =
      some (.ok t₁.values, { v with leases := some t₁, owned := owned₁ }) := rfl
  obtain ⟨hsize, hhosts, hpartitions⟩ := hrenewed.listed hterm (horder t₁.values)
  have havailable : ∀ q ∈ availablePartitions t.values v.now,
      ∃ l, t₁.get? q = some l ∧ l.isAvailable v.now = true := fun q hq => by
    obtain ⟨hfree, hsame, -⟩ := hrenewed.get?_of_available hkeyed hq
    exact hsame ▸ hfree
  have howned : ∀ q ∈ availablePartitions t.values v.now, owned₁.get? q = none :=
    fun q hq => (hrenewed.get?_of_available hkeyed hq).2.2
  obtain ⟨t', k', owned', hacquire, -, hget⟩ := result?_acquireUpTo me cancel
    (fairShare t.size (liveHosts me.owner t.values v.now).length)
    (v := { v with leases := some t₁, owned := owned₁ }) (nodup_availablePartitions hkeyed) rfl hk
    havailable howned
  obtain ⟨v₂, hacquiring⟩ := enact?_acquireUpTo order me cancel
    (fairShare t.size (liveHosts me.owner t.values v.now).length)
    (v := { v with leases := some t₁, owned := owned₁ }) (nodup_availablePartitions hkeyed) rfl hk
    havailable howned
  have hv₂ := result?_of_enact? ((asks_acquireUpTo _ _).mono not_list_of_acquiring) hacquiring
  cases hacquire.symm.trans hv₂
  rw [hrenewed.size_owned] at hget hacquiring
  have hsame : ∀ q ∈ taken me v t, acquisition me v.now t₁ k q = acquisition me v.now t k q := by
    intro q hq
    rw [acquisition, acquisition, (hrenewed.get?_of_available hkeyed (List.mem_of_mem_take hq)).2.1]
  refine ⟨t', k', owned', ?_, hrenewed.balanced hkeyed hget⟩
  rw [scan, enact?_ask_bind rfl rfl rfl, enact?_run_bind hrenewing,
    enact?_run_bind (enact?_lease hlist), enact?_ask_bind rfl rfl rfl]
  rw [hsize, hhosts, hpartitions, enact?_run_bind hacquiring, enact?_ask_bind rfl rfl rfl]
  rw [announcements, ← List.map_congr_left hsame, map_after_nil, map_after_after, enact?_ask rfl]
  change some (_, _, _ ++ []) = _
  rw [List.append_nil]
  rfl

/--
A scan leaves the tables so and announces this: what its host believed in and holds is renewed, what is due to
it is taken, and nothing else is touched.
-/
structure Exact (me : Lease.Claimant) (v : Scene) (t : Table Lease) (k : Table Checkpoint)
    (t' : Table Lease) (k' : Table Checkpoint) (owned' : Table Lease) (es : List Host.Event) : Prop where
  owned : ∀ q, owned'.contains q = true ↔ q ∈ kept me v t ∨ q ∈ due me v t
  /-- The host believes in the leases as they are stored. -/
  believed : ∀ q l, owned'.get? q = some l → t'.get? q = some l
  renewed : ∀ q ∈ kept me v t, ∃ l, t.get? q = some l ∧
    t'.get? q = some { l with expiresAt := v.now.plus me.term }
  acquired : ∀ q ∈ due me v t, ∃ l, t.get? q = some l ∧
    t'.get? q = some { l with owner := me.owner, expiresAt := v.now.plus me.term, epoch := l.epoch + 1 }
  untouched : ∀ q, q ∉ kept me v t → q ∉ due me v t → t'.get? q = t.get? q
  checkpoints : ∀ q, k'.get? q =
    if q ∈ due me v t then some ((k.get? q).getD (.startOfStream q)) else k.get? q
  /-- Each event of an acquisition is of the lease and the checkpoint as they are stored. -/
  announced : ∃ (lease : String → Lease) (checkpoint : String → Checkpoint),
    (∀ q ∈ due me v t, t'.get? q = some (lease q) ∧ k'.get? q = some (checkpoint q)) ∧
    es = (v.owned.names.filter (· ∉ kept me v t)).map .lost ++
      (due me v t).map fun q => .acquired (lease q) (checkpoint q)

theorem filter_isGone (me : Lease.Claimant) (v : Scene) (t : Table Lease) :
    v.owned.names.filter (isGone me v t) = v.owned.names.filter (· ∉ kept me v t) := by
  refine List.filter_congr fun q hq => ?_
  have hbelieved := Table.mem_names_iff_contains.1 hq
  simp [isGone, kept, hbelieved, hq]

theorem Balanced.exact {t' owned' : Table Lease} {k' : Table Checkpoint}
    (h : Balanced me v t k t' k' owned') (hkeyed : ∀ p l, t.get? p = some l → l.partition = p) :
    Exact me v t k t' k' owned' (announcements me v t k) where
  owned q := by
    rw [Table.contains_iff, ← taken_eq_due hkeyed]
    by_cases hq : q ∈ kept me v t
    · obtain ⟨l, l', -, -, -, howned, -⟩ := h.of_mem_kept hq
      exact iff_of_true ⟨l', howned⟩ (.inl hq)
    · by_cases hq' : q ∈ taken me v t
      · obtain ⟨l, l', -, -, -, howned, -⟩ := h.of_mem_taken hkeyed hq'
        exact iff_of_true ⟨l', howned⟩ (.inr hq')
      · simp [(h.of_not_mem hq hq').2.1, hq, hq']
  believed q l hl := by
    by_cases hq : q ∈ kept me v t
    · obtain ⟨-, l', -, -, hl', howned, -⟩ := h.of_mem_kept hq
      exact hl'.trans (howned.symm.trans hl)
    · by_cases hq' : q ∈ taken me v t
      · obtain ⟨-, l', -, -, hl', howned, -⟩ := h.of_mem_taken hkeyed hq'
        exact hl'.trans (howned.symm.trans hl)
      · rw [(h.of_not_mem hq hq').2.1] at hl
        cases hl
  renewed q hq := by
    obtain ⟨l, l', hl, hrenew, hl', -⟩ := h.of_mem_kept hq
    obtain ⟨-, rfl⟩ := Lease.renew_eq_some.1 hrenew
    exact ⟨l, hl, hl'⟩
  acquired q hq := by
    rw [← taken_eq_due hkeyed] at hq
    obtain ⟨l, l', hl, hacquire, hl', -⟩ := h.of_mem_taken hkeyed hq
    obtain ⟨-, rfl⟩ := Lease.acquire_eq_some.1 hacquire
    exact ⟨l, hl, hl'⟩
  untouched q hq hq' := by
    rw [← taken_eq_due hkeyed] at hq'
    exact (h.of_not_mem hq hq').1
  checkpoints q := by
    rw [← taken_eq_due hkeyed]
    split
    · rename_i hq'
      obtain ⟨-, -, -, -, -, -, hk⟩ := h.of_mem_taken hkeyed hq'
      exact hk
    · rename_i hq'
      by_cases hq : q ∈ kept me v t
      · obtain ⟨-, -, -, -, -, -, hk⟩ := h.of_mem_kept hq
        exact hk
      · exact (h.of_not_mem hq hq').2.2
  announced := by
    rw [← taken_eq_due hkeyed, announcements, filter_isGone]
    refine ⟨fun q => ((t.get? q).bind (·.acquire me.owner me.term v.now)).getD default,
      fun q => (k.get? q).getD (.startOfStream q), fun q hq => ?_, rfl⟩
    obtain ⟨l, l', hl, hacquire, hl', -, hk⟩ := h.of_mem_taken hkeyed hq
    refine ⟨?_, hk⟩
    simp only [hl', hl, Option.bind_some, hacquire, Option.getD_some]

/--
In whatever order the leases are listed, a scan at a time that a clock shows is done, and has exactly this
effect: partitions that the host holds and believes in are renewed in their epoch, the first available ones by
name that are missing from its share are taken in a new epoch and have a checkpoint, no other lease and no
other checkpoint is changed, and the consumers are told first of all that was lost and then of all that was
taken, each in ascending order.
-/
theorem scan_is_exact (horder : ∀ ls, (order ls).Perm ls) (me : Lease.Claimant) (cancel : Cancellation)
    (n : Int) (k : Table Checkpoint) (owned : Table Lease)
    (hkeyed : ∀ p l, t.get? p = some l → l.partition = p) :
    let v : Scene := ⟨.ofNanos n, some t, some k, owned⟩
    ∃ t' k' owned' es, enact? order me (scan me.owner cancel).run v =
        some (.ok (), ⟨v.now, some t', some k', owned'⟩, es) ∧ Exact me v t k t' k' owned' es := by
  intro v
  obtain ⟨t', k', owned', hscan, hbalanced⟩ :=
    enact?_scan horder cancel (v := v) rfl rfl hkeyed (Timestamp.ofNanos_le_plus n me.term)
  exact ⟨t', k', owned', _, hscan, hbalanced.exact hkeyed⟩

/-- Host b let the lease of partition 0 expire, holds partition 2, and there is no partition 4 any more. -/
def mixed : Table Lease := .ofList [("0", ⟨"0", "b", .ofNanos 1000000000, 3⟩),
  ("1", ⟨"1", "a", .ofNanos 9000000000, 2⟩), ("2", ⟨"2", "b", .ofNanos 9000000000, 1⟩),
  ("3", .unowned "3")]

/-- Host a believes in leases that it does not hold. -/
def outdated : Scene where
  now := .ofNanos 5000000000
  leases := some mixed
  checkpoints := some .empty
  owned := .ofList [("1", .unowned "1"), ("2", .unowned "2"), ("4", .unowned "4")]

theorem scan_is_exact_outdated : (∀ p l, mixed.get? p = some l → l.partition = p) ∧
    kept ⟨"a", .ofSeconds 10⟩ outdated mixed = ["1"] ∧ due ⟨"a", .ofSeconds 10⟩ outdated mixed = ["0"] ∧
    ∃ t' k' owned' es, enact? List.reverse ⟨"a", .ofSeconds 10⟩ (scan "a" .never).run outdated =
        some (.ok (), ⟨outdated.now, some t', some k', owned'⟩, es) ∧
      Exact ⟨"a", .ofSeconds 10⟩ outdated mixed .empty t' k' owned' es := by
  have hkeyed : ∀ p l, mixed.get? p = some l → l.partition = p := Table.forall_get?.2 (by decide +kernel)
  refine ⟨hkeyed, by decide +kernel, by decide +kernel, ?_⟩
  exact scan_is_exact List.reverse_perm ⟨"a", .ofSeconds 10⟩ .never 5000000000 .empty outdated.owned hkeyed

end Scene

/-! ## In a cluster -/

namespace Equipment

open Cluster

variable {e : Equipment}

theorem announces_of_ends (hleases : e.leases = .register) (hcheckpoints : e.checkpoints = .register)
    {α : Type} {t : Task Host.Surroundings α} {a b : α} {s s' : Course} {v : Scene}
    {es : List Host.Event} (h : t.Ends (e.Continues Rests) s a s')
    (hv : Scene.enact? id e.me t (s.cluster.scene e.me.owner) = some (b, v, es)) :
    a = b ∧ s'.cluster.scene e.me.owner = v ∧
      s'.past.reverse.flatMap (Scene.news ·.request) =
        s.past.reverse.flatMap (Scene.news ·.request) ++ es := by
  induction h generalizing es with
  | done a s =>
      cases hv
      exact ⟨rfl, rfl, (List.append_nil _).symm⟩
  | @ask r resume s s₁ s' x a hx hend ih =>
      obtain ⟨⟨y, w⟩, hanswer, hnext⟩ := Option.bind_eq_some_iff.1 hv
      obtain ⟨⟨b', v', es'⟩, hrest, heq⟩ := Option.map_eq_some_iff.1 hnext
      cases heq
      obtain ⟨hserved, hpast⟩ := hx
      obtain ⟨rfl, rfl⟩ := answer_of_ends hleases hcheckpoints hserved hanswer
      rw [Scene.shown_id] at hrest
      obtain ⟨ha, hs', htold⟩ := ih hrest
      refine ⟨ha, hs', ?_⟩
      rw [htold, hpast, List.reverse_cons, List.flatMap_append]
      simp

/-- A scan in a cluster has its exact effect, if the clock stands still and others leave its tables alone. -/
theorem exact_of_scan (hleases : e.leases = .register) (hcheckpoints : e.checkpoints = .register)
    {cancel : Cancellation} {s s' : Course} {x : Except Error Unit} {t : Table Lease}
    {k : Table Checkpoint} (ht : s.cluster.leases.register = some t)
    (hk : s.cluster.checkpoints.register = some k)
    (hkeyed : ∀ p l, t.get? p = some l → l.partition = p)
    (h : (Host.scan e.me.owner cancel).run.Ends (I := Host.Surroundings) (e.Continues Rests) s x s') :
    x = .ok () ∧ ∃ t' k' es, s'.cluster.leases.register = some t' ∧
      s'.cluster.checkpoints.register = some k' ∧
      Scene.Exact e.me (s.cluster.scene e.me.owner) t k t' k' (s'.cluster.member e.me.owner).owned es ∧
      s'.past.reverse.flatMap (Scene.news ·.request) =
        s.past.reverse.flatMap (Scene.news ·.request) ++ es := by
  obtain ⟨t', k', owned', hscan, hbalanced⟩ := Scene.enact?_scan (fun ls => List.Perm.refl (id ls)) cancel
    (v := s.cluster.scene e.me.owner) ht hk hkeyed (Timestamp.ofNanos_le_plus _ e.me.term)
  obtain ⟨hx, hscene, htold⟩ := announces_of_ends hleases hcheckpoints h hscan
  obtain ⟨-, hleases', hcheckpoints', howned⟩ := Scene.mk.inj hscene
  exact ⟨hx, t', k', _, hleases', hcheckpoints', howned ▸ hbalanced.exact hkeyed, htold⟩

end Equipment

end PartitionHost
