import PartitionHost.Proofs.Host.Standing
import PartitionHost.Proofs.Settings

/-!
# Scans in time

A host renews all that it believes in whenever it scans, and settings are usable only if a lease lasts longer
than the time between two scans. So as long as its scans are on time, nobody can take what it has: at any
moment it has all that it believes in for a term from the last scan on (`Equipment.Safe`).
-/

namespace PartitionHost

open Record Cluster Lease

/-! ## Runs -/

namespace Equipment

/--
How a host scans again and again, never later than an interval after the last scan, while others do what they
like except to remove leases. The host also records progress, in the partitions of this list, the latest first.
-/
inductive Scanning (e : Equipment) (interval : Duration) (start : Course) (began : Timestamp) :
    Course → Timestamp → List String → Prop where
  | start : Scanning e interval start began start began []
  | pass {s : Course} {last : Timestamp} {calls : List String} {c : Cluster}
      (h : Scanning e interval start began s last calls) (hc : s.cluster.Drifts c)
      (hserves : s.cluster.Serves → c.Serves) (hlate : c.now.toNanos ≤ last.toNanos + interval.nanos) :
      Scanning e interval start began ⟨c, s.past⟩ last calls
  | scan {s s' : Course} {last : Timestamp} {calls : List String} {x : Except Error Unit}
      (h : Scanning e interval start began s last calls)
      (hscan : (Host.scan e.me.owner .never).run.Ends (I := Host.Surroundings) (e.Continues Calm) s x s') :
      Scanning e interval start began s' s.cluster.now calls
  | progress {s s' : Course} {last : Timestamp} {calls : List String} {x : Except Error Unit}
      {cancel : Cancellation} {p : String} {position : Checkpoint}
      (h : Scanning e interval start began s last calls)
      (hcall : (Host.recordProgress cancel p position).run.Ends (I := Host.Surroundings)
        (e.Continues Calm) s x s') : Scanning e interval start began s' last (p :: calls)
  | other {s : Course} {last : Timestamp} {calls : List String} {e' : Equipment} {a : Action}
      {x : Except Error a.Reply} {c : Cluster} (h : Scanning e interval start began s last calls)
      (hname : e'.me.owner ≠ e.me.owner) (hleases : e'.leases = e.leases)
      (hdelete : ∀ op, a.UsesLease op → ¬ op.Deletes)
      (hcall : (e'.task a).Ends (Amid Calm e'.me.owner) s.cluster x c) :
      Scanning e interval start began ⟨c, s.past⟩ last calls

/-- A host has all that it believes in for a term from its last scan on, which was not too long ago. -/
structure Safe (e : Equipment) (interval : Duration) (last : Timestamp) (s : Course) : Prop where
  reading : ∃ n, last = .ofNanos n
  le_now : last ≤ s.cluster.now
  near : s.cluster.now.toNanos ≤ last.toNanos + interval.nanos
  ready : s.cluster.Ready e.leases
  has : ∀ p, e.Believes s.cluster p → ∃ l, e.Has s.cluster p l (last.plus e.me.term)
  quiet : ∀ x ∈ s.past, ∀ p, x.request ≠ .announce (.lost p)

variable {e : Equipment} {interval : Duration} {last : Timestamp} {s s' : Course}

namespace Safe

theorem now_le (h : e.Safe interval last s) (hinterval : interval ≤ e.me.term) :
    s.cluster.now ≤ last.plus e.me.term := by
  have hinterval : interval.nanos ≤ e.me.term.nanos := hinterval
  have hnear := h.near
  rw [show s.cluster.now = .ofNanos s.cluster.now.toNanos from
    (Timestamp.ofNanos_toNanos_ofNanos _).symm]
  exact Timestamp.ofNanos_mono (by omega)

theorem standing_of_scan (h : e.Safe interval last s) (hinterval : interval ≤ e.me.term) :
    e.Standing (s.cluster.now.plus e.me.term) s (s.cluster.member e.me.owner).owned.names s where
  now_eq := rfl
  now_le := Timestamp.ofNanos_le_plus _ _
  le_plus := le_refl _
  ready := h.ready
  has p hp := by
    obtain ⟨l, hl⟩ := h.has p hp
    rw [if_pos (Table.mem_names_iff_contains.2 hp)]
    exact ⟨l, hl.mono (h.now_le hinterval)⟩
  retains := .refl e s
  quiet := h.quiet

theorem standing (h : e.Safe interval last s) (hinterval : interval ≤ e.me.term) :
    e.Standing (last.plus e.me.term) s [] s where
  now_eq := rfl
  now_le := h.now_le hinterval
  le_plus := by
    obtain ⟨n, rfl⟩ := h.reading
    exact Timestamp.plus_mono h.le_now (Nat.le_refl _)
  ready := h.ready
  has p hp := by simpa using h.has p hp
  retains := .refl e s
  quiet := h.quiet

end Safe

theorem safe_of_standing {s₀ : Course} (h : e.Standing (last.plus e.me.term) s₀ [] s)
    (hreading : ∃ n, last = .ofNanos n) (hle : last ≤ s₀.cluster.now)
    (hnear : s₀.cluster.now.toNanos ≤ last.toNanos + interval.nanos) : e.Safe interval last s where
  reading := hreading
  le_now := h.now_eq ▸ hle
  near := h.now_eq ▸ hnear
  ready := h.ready
  has p hp := by simpa using h.has p hp
  quiet := h.quiet

namespace Safe

variable {c : Cluster} {x : Except Error Unit}

theorem pass (h : e.Safe interval last s) (hc : s.cluster.Drifts c) (hserves : s.cluster.Serves → c.Serves)
    (hlate : c.now.toNanos ≤ last.toNanos + interval.nanos) :
    e.Safe interval last ⟨c, s.past⟩ ∧ e.Retains s ⟨c, s.past⟩ := by
  have hbelieves (p : String) : e.Believes c p ↔ e.Believes s.cluster p := by
    rw [Believes, hc.owned, Believes]
  have hhas {p : String} {l : Lease} {t : Timestamp} (hl : e.Has s.cluster p l t) : e.Has c p l t :=
    ⟨(Drifts.keeps hc).2 hl.keeps, hl.owner_eq, hl.lasts⟩
  refine ⟨⟨h.reading, le_trans h.le_now hc.now_le, hlate, fun hkind => hserves (h.ready hkind),
    fun p hp => ?_, h.quiet⟩, fun p l t hp hl => ⟨(hbelieves p).2 hp, l, t, hhas hl, rfl⟩⟩
  obtain ⟨l, hl⟩ := h.has p ((hbelieves p).1 hp)
  exact ⟨l, hhas hl⟩

theorem unharmed (h : e.Safe interval last s) (hinterval : interval ≤ e.me.term)
    (hc : e.Unharmed s.cluster c) :
    e.Safe interval last ⟨c, s.past⟩ ∧ e.Retains s ⟨c, s.past⟩ := by
  have hbelieves (p : String) : e.Believes c p ↔ e.Believes s.cluster p := by
    rw [Believes, hc.owned, Believes]
  have hhas {p : String} (hp : e.Believes s.cluster p) :
      ∃ l, e.Has s.cluster p l (last.plus e.me.term) ∧ e.Has c p l (last.plus e.me.term) := by
    obtain ⟨l, hl⟩ := h.has p hp
    exact ⟨l, hl, hc.has p l _ (h.now_le hinterval) hl⟩
  refine ⟨⟨h.reading, hc.now_eq ▸ h.le_now, hc.now_eq ▸ h.near, hc.ready h.ready, fun p hp => ?_, h.quiet⟩,
    fun p l t hp hl => ⟨(hbelieves p).2 hp, ?_⟩⟩
  · obtain ⟨l, -, hl⟩ := hhas ((hbelieves p).1 hp)
    exact ⟨l, hl⟩
  · obtain ⟨m, hm, hm'⟩ := hhas hp
    obtain rfl := keeps_unique hm.keeps hl.keeps
    exact ⟨m, _, hm', rfl⟩

theorem scan (h : e.Safe interval last s) (hinterval : interval ≤ e.me.term) (howner : e.me.owner ≠ "")
    (hscan : (Host.scan e.me.owner .never).run.Ends (I := Host.Surroundings) (e.Continues Calm) s x s') :
    e.Safe interval s.cluster.now s' ∧ e.Retains s s' := by
  have hstanding := Task.assures_iff.1
    ((h.standing_of_scan hinterval).assures_scan howner e.me.owner) x s' hscan
  exact ⟨safe_of_standing hstanding ⟨_, rfl⟩ (le_refl _) (by omega), hstanding.retains⟩

theorem progress (h : e.Safe interval last s) (hinterval : interval ≤ e.me.term)
    (howner : e.me.owner ≠ "") {cancel : Cancellation} {p : String} {position : Checkpoint}
    (hcall : (Host.recordProgress cancel p position).run.Ends (I := Host.Surroundings)
      (e.Continues Calm) s x s') : e.Safe interval last s' ∧ e.Retains s s' := by
  have hstanding := Task.assures_iff.1
    ((h.standing hinterval).assures_recordProgress howner cancel p position) x s' hcall
  exact ⟨safe_of_standing hstanding h.reading h.le_now h.near, hstanding.retains⟩

end Safe

/-! ### Updates -/

theorem assures_updates_eq {α : Type} {t : Task Host.Surroundings α}
    (ht : t.Asks fun r : Host.Request => ∀ cancel p, r ≠ .lease cancel (.update p)) (q : String) (s : Course) :
    t.Assures (e.Continues Calm) (fun _ s' => s'.updates q = s.updates q) s := by
  refine ht.assures ?_ rfl
  intro r s₁ x s₂ hr hx hsame
  rw [Course.updates_of_past hx.2, updates_eq_false hr, hsame]
  rfl

theorem updates_eq_of_scan {owner : String} {cancel : Cancellation} {x : Except Error Unit}
    (h : (Host.scan owner cancel).run.Ends (I := Host.Surroundings) (e.Continues Calm) s x s')
    (q : String) : s'.updates q = s.updates q := by
  refine Task.assures_iff.1 (assures_updates_eq ((Host.asks_scan owner).mono ?_) q s) x s' h
  rintro r hr cancel' p rfl
  cases hr

theorem updates_le_of_recordProgress {cancel : Cancellation} {p : String} {position : Checkpoint}
    {x : Except Error Unit} (h : (Host.recordProgress cancel p position).run.Ends
      (I := Host.Surroundings) (e.Continues Calm) s x s') (q : String) :
    s'.updates q ≤ s.updates q + [p].count q := by
  have hupdate : (Host.lease cancel (.update p)).run.Assures (I := Host.Surroundings) (e.Continues Calm)
      (fun _ s' => s'.updates q ≤ s.updates q + [p].count q) s := by
    intro y s₁ hy
    change s₁.updates q ≤ _
    rw [Course.updates_of_past hy.2]
    refine Nat.add_le_add_left ?_ _
    rcases y with error | ⟨l, _ | _⟩
    · exact Nat.zero_le _
    · exact Nat.zero_le _
    · rw [List.count_singleton]
      change (p == q).toNat ≤ if p == q then 1 else 0
      cases p == q <;> decide
  have hall : (Host.recordProgress cancel p position).run.Assures (I := Host.Surroundings)
      (e.Continues Calm) (fun _ s' => s'.updates q ≤ s.updates q + [p].count q) s := by
    refine Task.Assures.run_bind hupdate (fun _ _ => id) ?_
    rintro ⟨updated, held⟩ s₁ hle
    refine (assures_updates_eq ?_ q s₁).imp fun _ s₂ hsame => hsame ▸ hle
    cases held with
    | true =>
        exact Task.asks_run_bind (Host.asks_ask nofun) fun _ => Host.asks_checkpoint nofun
    | false => exact Task.asks_run_bind (Host.asks_lose nofun nofun) fun _ => trivial
  exact Task.assures_iff.1 hall x s' h

theorem Scanning.safe {start : Course} {began : Timestamp} {calls : List String}
    (h : e.Scanning interval start began s last calls) (hinterval : interval ≤ e.me.term)
    (howner : e.me.owner ≠ "") (hstart : e.Safe interval began start) :
    e.Safe interval last s ∧ e.Retains start s ∧ ∀ p, s.updates p ≤ start.updates p + calls.count p := by
  induction h with
  | start => exact ⟨hstart, .refl e start, fun _ => Nat.le_refl _⟩
  | pass h hc hserves hlate ih =>
      obtain ⟨hs, hretains, hupdates⟩ := ih
      obtain ⟨hs', hretains'⟩ := hs.pass hc hserves hlate
      exact ⟨hs', hretains.trans hretains', hupdates⟩
  | scan h hscan ih =>
      obtain ⟨hs, hretains, hupdates⟩ := ih
      obtain ⟨hs', hretains'⟩ := hs.scan hinterval howner hscan
      refine ⟨hs', hretains.trans hretains', fun p => ?_⟩
      rw [updates_eq_of_scan hscan]
      exact hupdates p
  | progress h hcall ih =>
      obtain ⟨hs, hretains, hupdates⟩ := ih
      obtain ⟨hs', hretains'⟩ := hs.progress hinterval howner hcall
      refine ⟨hs', hretains.trans hretains', fun p => ?_⟩
      have hle := updates_le_of_recordProgress hcall p
      have hbefore := hupdates p
      rw [List.count_cons]
      rw [List.count_singleton] at hle
      omega
  | other h hname hleases hdelete hcall ih =>
      obtain ⟨hs, hretains, hupdates⟩ := ih
      obtain ⟨hs', hretains'⟩ := hs.unharmed hinterval
        (unharmed_of_task howner hname hleases hs.ready hdelete hcall)
      exact ⟨hs', hretains.trans hretains', hupdates⟩

end Equipment

namespace Host

/--
Where settings can be loaded, a host that starts with nothing and scans on time loses nothing. Whatever it
believes in at a time, it believes in and owns ever after, and the epoch of that lease grows with its own calls
to record progress there, once for each call at most. It never announces a loss.
-/
theorem timely_scans_retain {env : Environment} {settings : Settings} {e : Equipment} {init : Cluster}
    {s s' : Course} {last last' : Timestamp} {calls calls' : List String}
    (hload : Settings.load env = .ok settings) (hterm : e.me.term = settings.leaseTerm)
    (howner : e.me.owner ≠ "") (hserves : e.leases = .bucket → init.Serves)
    (howned : (init.member e.me.owner).owned = .empty)
    (h : e.Scanning settings.scanInterval ⟨init, []⟩ init.now s last calls)
    (h' : e.Scanning settings.scanInterval s last s' last' calls') :
    (∀ x ∈ s'.past, ∀ p, x.request ≠ .announce (.lost p)) ∧
    ∀ p, (s.cluster.member e.me.owner).owned.contains p = true →
      (s'.cluster.member e.me.owner).owned.contains p = true ∧
      ∃ l l', s.cluster.Keeps e.leases p l ∧ s'.cluster.Keeps e.leases p l' ∧
        l.owner = e.me.owner ∧ l'.owner = e.me.owner ∧
        l'.epoch + s.updates p = l.epoch + s'.updates p ∧
        s'.updates p ≤ s.updates p + calls'.count p := by
  have hinterval : settings.scanInterval ≤ e.me.term :=
    hterm ▸ Nat.le_of_lt (Settings.scanInterval_lt_of_load hload)
  have hinit : e.Safe settings.scanInterval init.now ⟨init, []⟩ := by
    refine ⟨⟨_, rfl⟩, le_refl _, Int.le_add_of_nonneg_right (Int.natCast_nonneg _), hserves,
      fun p hp => ?_, by simp⟩
    rw [Equipment.Believes, howned] at hp
    cases hp
  have hsafe := (h.safe hinterval howner hinit).1
  obtain ⟨hsafe', hretains, hupdates⟩ := h'.safe hinterval howner hsafe
  refine ⟨hsafe'.quiet, fun p hp => ?_⟩
  obtain ⟨l, hl⟩ := hsafe.has p hp
  obtain ⟨hp', l', t', hl', hepoch⟩ := hretains p l _ hp hl
  exact ⟨hp', l, l', hl.keeps, hl'.keeps, hl.owner_eq, hl'.owner_eq, hepoch, hupdates p⟩

end Host

/-! ## A run that can be computed -/

theorem Cluster.Calm.refl (c : Cluster) : c.Calm c :=
  ⟨⟨⟨le_refl _, rfl, rfl, fun _ => rfl, fun _ => rfl⟩, rfl⟩, id⟩

/-- What a task comes to when nothing stands in the way. -/
def Task.follow {α : Type} (host : String) : Task Site α → Cluster → α × Cluster
  | .done a, c => (a, c)
  | .ask r resume, c => (resume (c.serve host r).1).follow host (c.serve host r).2

theorem Task.ends_follow {α : Type} (host : String) (t : Task Site α) (c : Cluster) :
    t.Ends (Amid Calm host) c (t.follow host c).1 (t.follow host c).2 := by
  induction t generalizing c with
  | done a => exact .done a c
  | ask r resume ih => exact .ask ⟨c, .refl c, answers_serve host c r⟩ (ih _ _)

namespace Equipment

def follow {α : Type} (e : Equipment) : Task Host.Surroundings α → Course → α × Course
  | .done a, s => (a, s)
  | .ask r resume, s =>
    let (x, c) := (e.serve r).follow e.me.owner s.cluster
    e.follow (resume x) ⟨c, ⟨r, x⟩ :: s.past⟩

theorem ends_follow {α : Type} (e : Equipment) (t : Task Host.Surroundings α) (s : Course) :
    t.Ends (e.Continues Calm) s (e.follow t s).1 (e.follow t s).2 := by
  induction t generalizing s with
  | done a => exact .done a s
  | ask r resume ih => exact .ask ⟨Task.ends_follow _ _ _, rfl⟩ (ih _ _)

def scanned (e : Equipment) (s : Course) : Course :=
  (e.follow (Host.scan e.me.owner .never).run s).2

def progressed (e : Equipment) (p : String) (position : Checkpoint) (s : Course) : Course :=
  (e.follow (Host.recordProgress .never p position).run s).2

def overtaken (e' : Equipment) (d : Duration) (s : Course) : Course :=
  ⟨((e'.task (.scan .never)).follow e'.me.owner (s.cluster.advance d)).2, s.past⟩

namespace Scanning

variable {e : Equipment} {interval : Duration} {start s : Course} {began last : Timestamp}
  {calls : List String}

theorem scanned (h : e.Scanning interval start began s last calls) :
    e.Scanning interval start began (e.scanned s) s.cluster.now calls :=
  h.scan (e.ends_follow _ s)

theorem progressed (h : e.Scanning interval start began s last calls) (p : String)
    (position : Checkpoint) :
    e.Scanning interval start began (e.progressed p position s) last (p :: calls) :=
  h.progress (e.ends_follow _ s)

theorem overtaken {e' : Equipment} {d : Duration} (h : e.Scanning interval start began s last calls)
    (hlate : (s.cluster.advance d).now.toNanos ≤ last.toNanos + interval.nanos)
    (hname : e'.me.owner ≠ e.me.owner) (hleases : e'.leases = e.leases) :
    e.Scanning interval start began (e'.overtaken d s) last calls := by
  have hpass := h.pass (s.cluster.drifts_advance d) (fun hs => serves_of_server hs rfl) hlate
  refine hpass.other (a := .scan .never) hname hleases ?_ (Task.ends_follow _ _ _)
  intro op hop hdeletes
  cases op <;> first | exact hdeletes | exact hop

end Scanning

end Equipment

namespace Host

/-- Host a has scanned and taken the only partition. -/
def takenByA : Course := (Fleet.pair .bucket false).scanned ⟨.ofPartition "0", []⟩

/-- Ten seconds later host b has scanned, and host a has recorded progress and scanned again. -/
def keptByA : Course :=
  (Fleet.pair .bucket false).scanned ((Fleet.pair .bucket false).progressed "0" ⟨"0", 7, "70", .epoch⟩
    ((Fleet.pair .bucket true).overtaken (.ofSeconds 10) takenByA))

theorem timely_scans_retain_keptByA : Settings.load .empty = .ok {} ∧
    (takenByA.cluster.member "a").owned.contains "0" = true ∧
    (∀ x ∈ keptByA.past, ∀ p, x.request ≠ .announce (.lost p)) ∧
    (keptByA.cluster.member "a").owned.contains "0" = true ∧
    ∃ l l', takenByA.cluster.Keeps .bucket "0" l ∧ keptByA.cluster.Keeps .bucket "0" l' ∧
      l.owner = "a" ∧ l'.owner = "a" ∧ l'.epoch + takenByA.updates "0" = l.epoch + keptByA.updates "0" ∧
      keptByA.updates "0" ≤ takenByA.updates "0" + ["0"].count "0" := by
  have howned : (takenByA.cluster.member "a").owned.contains "0" = true := by decide +kernel
  have htaken : (Fleet.pair .bucket false).Scanning (.ofSeconds 10) ⟨.ofPartition "0", []⟩
      (Cluster.ofPartition "0").now takenByA (Cluster.ofPartition "0").now [] := .scanned .start
  have hovertaken : (Fleet.pair .bucket false).Scanning (.ofSeconds 10) takenByA
      (Cluster.ofPartition "0").now ((Fleet.pair .bucket true).overtaken (.ofSeconds 10) takenByA)
      (Cluster.ofPartition "0").now [] := .overtaken .start (by decide +kernel) (by decide) rfl
  have hload : Settings.load .empty = .ok {} := rfl
  have hserves : (Cluster.ofPartition "0").Serves := by
    refine ⟨_, _, 0, 0, rfl, ?_⟩
    exact nofun
  have hall := timely_scans_retain hload rfl (by decide) (fun _ => hserves) rfl htaken
    (hovertaken.progressed "0" ⟨"0", 7, "70", .epoch⟩).scanned
  exact ⟨hload, howned, hall.1, hall.2 "0" howned⟩

end Host

end PartitionHost
