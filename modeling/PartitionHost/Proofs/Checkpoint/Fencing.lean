import PartitionHost.Proofs.Checkpoint.Discipline
import PartitionHost.Proofs.Interleaving.Schedule
import PartitionHost.Proofs.Lease.Turns

/-!
# Under which lease progress is recorded

A host records progress in two parts: it updates its lease, and then it writes the checkpoint. What keeps
others from the partition in between is the lease that the host has written last (`lastLease?`), and only
until that expires. So a checkpoint is written under a lease that is held if, and only if, the lease which
the host wrote last is still its own and unexpired at that moment (`held_iff_lastLease`); nothing stops a
write that comes later (`lateProgress`).
-/

namespace PartitionHost

open Record Cluster

variable {ι : Type}

/-! ## Progress comes after a lease -/

/-- Whether an action is one of those by which partitions are shared and worked on. -/
def Action.IsWork : Action → Prop
  | .scan _ | .recordProgress _ _ _ => True
  | _ => False

def Lease.Written (p : String) (past : List (Exchange Site)) : Prop :=
  ∃ x ∈ past, ∃ value, x.Updated .leases p value

theorem Lease.Written.cons {p : String} {past : List (Exchange Site)} (x : Exchange Site)
    (h : Written p past) : Written p (x :: past) := by
  obtain ⟨y, hy, hvalue⟩ := h
  exact ⟨y, List.mem_cons_of_mem _ hy, hvalue⟩

theorem Action.IsWork.not_uses {a : Action} (h : a.IsWork) (p : String) :
    ¬ a.UsesLease (.ensure p) ∧ ¬ a.UsesLease (.delete p) ∧ ¬ a.UsesLease .deleteStore := by
  cases a with
  | scan cancel => exact ⟨id, id, id⟩
  | recordProgress cancel q position => exact ⟨id, id, id⟩
  | _ => cases h

namespace Checkpoint

/-- A position is put over another one only after the lease of the partition was written. -/
def Fenced (past : List (Exchange Site)) : Site.Request → Prop
  | .checkpointBucket _ (.update key _ _) => Lease.Written key past
  | _ => True

theorem fenced_of_allowed {uses : Operation → Prop} {past : List (Exchange Site)} {r : Site.Request}
    (h : Allowed uses r) (hlease : ∀ key position, uses (.update key position) → Lease.Written key past) :
    Fenced past r := by
  cases r with
  | checkpointBucket cancel c =>
      cases c with
      | update key value revision =>
          obtain ⟨position, huses, -⟩ := h
          exact hlease key position huses
      | _ => trivial
  | _ => trivial

theorem fenced_of_not {past : List (Exchange Site)} {r : Site.Request} (h : ¬ r.IsOfCheckpoints) :
    Fenced past r := by
  cases r with
  | checkpointBucket cancel c => exact absurd trivial h
  | _ => trivial

end Checkpoint

namespace Equipment

open Checkpoint (Fenced fenced_of_allowed fenced_of_not)

variable (e : Equipment)

theorem along_fenced_lease (hleases : e.leases = .bucket) (cancel : Cancellation) (p : String) :
    (e.lease cancel (.update p)).Along Fenced
      (fun x past => ∀ l, x = .ok (l, true) → Lease.Written p past) [] := by
  have hwrite : (e.lease cancel (.update p)).Along (Lease.discipline e.me (.update p = ·))
      (fun x past => ∀ q l, (Action.lease cancel (.update p)).Fenced x q l →
        Lease.Bucketed.JustWrote e.me cancel (.update p) (fun _ => True) q l past) [] := by
    rw [lease, hleases]
    exact Lease.Bucketed.along_perform rfl []
  have hother : (e.lease cancel (.update p)).Along Fenced (fun _ _ => True) [] :=
    (e.asks_lease cancel (.update p)).along_of_forall (fun _ _ h => fenced_of_not h.1) []
  refine (hwrite.and hother).mono (fun _ _ => And.right) fun x past hx l hl => ?_
  subst hl
  obtain ⟨revision, n, older, rfl, -, -⟩ := hx.1 p l ⟨rfl, rfl⟩
  exact ⟨_, List.mem_cons_self, encode l, revision, n, rfl⟩

theorem along_fenced_recordProgress (hleases : e.leases = .bucket) (cancel : Cancellation) (p : String)
    (position : Checkpoint) :
    (e.task (.recordProgress cancel p position)).Along Fenced (fun _ _ => True) [] := by
  have hlease := e.along_fenced_lease hleases cancel p
  rw [← e.serve_lease] at hlease
  refine hlease.run_bind (fun _ _ _ => trivial) fun ⟨l, held⟩ past hx => ?_
  cases held with
  | true =>
      have hasks : (Host.ask (.own p l) >>= fun _ => Host.checkpoint cancel (.update p position)).run.Asks
          (Host.Request.Within (· = .update p position)) :=
        Task.asks_run_bind (Host.asks_ask trivial) fun _ => Host.asks_checkpoint rfl
      refine ((hasks.serve e.asks_allowed_serve).along (hx l rfl) (fun _ _ _ _ => .cons _) ?_).mono
        (fun _ _ => id) fun _ _ _ => trivial
      intro past r hpast hr
      refine fenced_of_allowed hr fun key position' huses => ?_
      cases huses
      exact hpast
  | false =>
      have hasks : (Host.lose p >>= fun _ => (throw (.leaseLost p) : Host.Program Unit)).run.Asks
          (Host.Request.Within fun _ => False) :=
        Task.asks_run_bind (Host.asks_lose trivial trivial) fun _ => trivial
      exact (hasks.serve e.asks_allowed_serve).along_of_forall
        (fun _ _ hr => fenced_of_allowed hr fun _ _ => False.elim) past

theorem along_fenced (hleases : e.leases = .bucket) {a : Action} (ha : a.IsWork) :
    (e.task a).Along Fenced (fun _ _ => True) [] := by
  cases a with
  | scan cancel =>
      exact (e.asks_allowed (.scan cancel)).along_of_forall
        (fun _ _ hr => fenced_of_allowed hr fun _ _ => False.elim) []
  | recordProgress cancel p position => exact e.along_fenced_recordProgress hleases cancel p position
  | _ => cases ha

end Equipment

/-! ## The lease that was written last -/

namespace Lease

/-- The lease of a partition as an owner wrote it last. -/
def lastLease? (fleet : Fleet ι) (owner p : String) : List (Event ι) → Option Bytes
  | [] => none
  | ev :: older =>
    match ev.outcome? .leases p with
    | some (some value) =>
      if (fleet ev.who).me.owner = owner then some value else lastLease? fleet owner p older
    | _ => lastLease? fleet owner p older

variable {fleet : Fleet ι} {init : Cluster} {w : World ι} {owner p : String}

/--
Others do not touch the lease that an owner wrote last before it expires, and do not make it the owner's
again after that.
-/
theorem stores_of_lastLease (hw : w.Grows fleet init) (hsound : (init.bucket .leases).Sound)
    (hlaw : Lawful fleet.discipline w.history) (hwork : ∀ ev ∈ w.history, ev.action.IsWork)
    (howner : owner ≠ "") {value : Bytes} (hlast : lastLease? fleet owner p w.history = some value) :
    ∃ l stored : Lease, encode l = value ∧ (w.cluster.bucket .leases).Stores p stored ∧
      (stored = l ∨ stored.owner ≠ owner) ∧
      (l.owner = owner → w.cluster.now ≤ l.expiresAt → stored = l) := by
  refine induction_on (P := fun w => (∀ ev ∈ w.history, ev.action.IsWork) → ∀ value,
    lastLease? fleet owner p w.history = some value →
      ∃ l stored : Lease, encode l = value ∧ (w.cluster.bucket .leases).Stores p stored ∧
        (stored = l ∨ stored.owner ≠ owner) ∧
        (l.owner = owner → w.cluster.now ≤ l.expiresAt → stored = l))
    hw hsound hlaw p ?_ ?_ ?_ hwork value hlast
  · intro _ value hlast
    cases hlast
  · intro w c hc ih hwork value hlast
    obtain ⟨l, stored, hl, hstores, hor, hlive⟩ := ih hwork value hlast
    rw [hc.bucket]
    exact ⟨l, stored, hl, hstores, hor, fun ho hnow => hlive ho (le_trans hc.now_le hnow)⟩
  · intro w ev c v v' hgrows hbefore hnow hv hv' hchange ih hwork value hlast
    obtain ⟨hact, hwork⟩ := List.forall_mem_cons.1 hwork
    have ih := ih hwork
    change ∃ l stored : Lease, _ ∧ (c.bucket .leases).value? p = _ ∧ _ ∧ (_ → c.now ≤ _ → _)
    rw [hv', hnow]
    cases hchange with
    | kept _ h =>
        rw [lastLease?, h] at hlast
        obtain ⟨l, stored, hl, hstores, hrest⟩ := ih value hlast
        exact ⟨l, stored, hl, hv.symm.trans hstores, hrest⟩
    | created hev huses => exact absurd huses (hact.not_uses p).1
    | removed _ h huses => exact absurd huses (not_or_intro (hact.not_uses p).2.1 (hact.not_uses p).2.2)
    | @turned op stamped old t new hev h =>
        rw [lastLease?, hev.outcome?_eq] at hlast
        by_cases hown : (fleet ev.who).me.owner = owner
        · simp only [hown, if_true] at hlast
          exact ⟨new, new, Option.some.inj hlast, rfl, .inl rfl, fun _ _ => rfl⟩
        · simp only [hown, if_false] at hlast
          obtain ⟨l, stored, hl, hstores, hor, hlive⟩ := ih value hlast
          obtain rfl := h.eq_of_stores (hbefore ▸ hstores)
          refine ⟨l, new, hl, rfl, .inr ?_, ?_⟩
          · rcases h.turns.owner_eq with hnew | hnew
            · rw [hnew]
              exact hown
            · rw [hnew]
              exact howner.symm
          · intro ho hlate
            obtain rfl := hlive ho hlate
            have ht : t ≤ old.expiresAt := le_trans (h.time_le hgrows) (hbefore ▸ hlate)
            exact absurd ((h.turns.owner_of_live (ho ▸ howner) ht).1.symm.trans ho) hown

theorem exists_lastLease {history : List (Event ι)} {ev : Event ι} (hmem : ev ∈ history)
    {value : Bytes} (hev : ev.Updated .leases p value) (hown : (fleet ev.who).me.owner = owner) :
    ∃ value', lastLease? fleet owner p history = some value' := by
  induction history with
  | nil => cases hmem
  | cons ev' older ih =>
      rcases List.mem_cons.1 hmem with rfl | hmem
      · exact ⟨value, by simp [lastLease?, hev.outcome?_eq, hown]⟩
      · obtain ⟨value', hlast⟩ := ih hmem
        rw [lastLease?]
        split
        · split
          · exact ⟨_, rfl⟩
          · exact ⟨value', hlast⟩
        · exact ⟨value', hlast⟩

end Lease

/-! ## Progress -/

namespace Checkpoint

open Lease (lastLease?)

variable [DecidableEq ι] {fleet : Fleet ι} {init : Cluster} {s : State ι}

theorem exists_recordProgress (hs : Attainable fleet (fun _ => Action.IsWork) init s)
    {newer older : List (Event ι)} {ev : Event ι} (hhistory : s.world.history = newer ++ ev :: older)
    {p : String} {value : Bytes} (hev : ev.Updated .checkpoints p value) :
    ∃ cancel position, ev.action = .recordProgress cancel p position ∧
      value = encode (position.forPartition p) := by
  have hmem : ev ∈ s.world.history := by simp [hhistory]
  have hmay := hs.may_of_mem hmem
  have hallowed : Allowed ev.action.UsesCheckpoint ev.request :=
    hs.asked_of_mem (fun i a _ => (fleet i).asks_allowed a) hmem
  obtain ⟨cancel, revision, hrequest⟩ := hev.request_eq
  rw [hrequest] at hallowed
  obtain ⟨position, huses, hvalue⟩ := hallowed
  cases haction : ev.action with
  | recordProgress cancel' q position' =>
      rw [haction] at huses
      obtain ⟨rfl, rfl⟩ := huses
      exact ⟨cancel', position', rfl, hvalue⟩
  | scan cancel' =>
      rw [haction] at huses
      cases huses
  | _ =>
      rw [haction] at hmay
      cases hmay

theorem exists_written (hleases : ∀ i, (fleet i).leases = .bucket)
    (hs : Attainable fleet (fun _ => Action.IsWork) init s) {newer older : List (Event ι)}
    {ev : Event ι} (hhistory : s.world.history = newer ++ ev :: older) {p : String} {value : Bytes}
    (hev : ev.Updated .checkpoints p value) :
    ∃ ev' ∈ older, ev'.who = ev.who ∧ ∃ value', ev'.Updated .leases p value' := by
  have hfenced : Lawful (fun _ _ => Fenced) s.world.history :=
    (hs.lawful fun i a ha => (fleet i).along_fenced (hleases i) ha).1
  rw [hhistory] at hfenced
  have hlaw := hfenced.of_append.1
  obtain ⟨cancel, revision, hrequest⟩ := hev.request_eq
  rw [hrequest] at hlaw
  obtain ⟨x, hx, value', hwritten⟩ := hlaw
  obtain ⟨ev', hev', hnumber, rfl⟩ := mem_traceOf.1 hx
  have hknown := hs.orderly.known
  rw [hhistory] at hknown
  have hsame := hs.orderly.number_inj _ _ (hknown ev' (by simp [hev'])) (hknown ev (by simp)) hnumber
  exact ⟨ev', hev', congrArg Engagement.who hsame, value', hwritten⟩

/--
For any hosts that scan and record progress, in any order and with any failures: a position is put over
another one only to record progress. There is then a lease of the partition which the host wrote last, and
the stored lease is held by the host if, and only if, that one still is.
-/
theorem held_iff_lastLease (hleases : ∀ i, (fleet i).leases = .bucket)
    (howner : ∀ i, (fleet i).me.owner ≠ "") (hsound : (init.bucket .leases).Sound)
    (hs : Reachable fleet (fun _ => Action.IsWork) init s) {newer older : List (Event ι)}
    {ev : Event ι} (hhistory : s.world.history = newer ++ ev :: older) {p : String} {value : Bytes}
    (hev : ev.Updated .checkpoints p value) :
    (∃ cancel position, ev.action = .recordProgress cancel p position ∧
      value = encode (position.forPartition p)) ∧
    ∃ l : Lease, lastLease? fleet (fleet ev.who).me.owner p older = some (encode l) ∧
      ((∃ stored : Lease, (ev.before.bucket .leases).Stores p stored ∧
          stored.isHeldBy (fleet ev.who).me.owner ev.before.now = true) ↔
        l.isHeldBy (fleet ev.who).me.owner ev.before.now = true) := by
  have hs := hs.attainable
  obtain ⟨hbefore, -⟩ := hs.grows.before hhistory
  have hlaw : Lawful fleet.discipline (newer ++ ev :: older) :=
    hhistory ▸ (hs.lawful fun i a _ => (fleet i).along_discipline a).1
  have hwork : ∀ ev' ∈ older, ev'.action.IsWork := by
    intro ev' hev'
    apply hs.may_of_mem
    simp [hhistory, hev']
  obtain ⟨ev', hmem, hwho, value', hwritten⟩ := exists_written hleases hs hhistory hev
  obtain ⟨_, hlast⟩ := Lease.exists_lastLease hmem hwritten (by rw [hwho])
  obtain ⟨l, stored, rfl, hstores, hor, hlive⟩ :=
    Lease.stores_of_lastLease hbefore hsound hlaw.of_append.2 hwork (howner ev.who) hlast
  refine ⟨exists_recordProgress hs hhistory hev, l, hlast, ?_, ?_⟩
  · rintro ⟨stored', hstores', hheld⟩
    obtain rfl := hstores.unique hstores'
    rcases hor with rfl | hother
    · exact hheld
    · exact absurd (Lease.isHeldBy_iff.1 hheld).2.2 hother
  · intro hheld
    obtain ⟨-, hnow, hown⟩ := Lease.isHeldBy_iff.1 hheld
    obtain rfl := hlive hown hnow
    exact ⟨stored, hstores, hheld⟩

/-! ## Progress that comes late -/

/--
Host a takes the partition and begins to record progress. Its lease expires before it writes the checkpoint;
meanwhile host b takes the partition and records progress of its own.
-/
def lateProgress : State Bool :=
  play (.pair .bucket) (.ofPartition "0") <| List.flatten
    [[.begin false (.scan .never)], .replicate 6 (.answer false),
      [.begin false (.recordProgress .never "0" ⟨"0", 5, "5", .epoch⟩)], .replicate 2 (.answer false),
      [.pass (.ofSeconds 40), .begin true (.scan .never)], .replicate 6 (.answer true),
      [.begin true (.recordProgress .never "0" ⟨"0", 9, "9", .epoch⟩)], .replicate 4 (.answer true),
      .replicate 2 (.answer false)]

theorem lateProgress_latest : ∃ ev older, lateProgress.world.history = [] ++ ev :: older ∧ ev.who = false ∧
    ev.outcome? .checkpoints "0" = some (some (encode (Checkpoint.mk "0" 5 "5" .epoch))) ∧
    (ev.before.bucket .checkpoints).value? "0" = some (encode (Checkpoint.mk "0" 9 "9" .epoch)) ∧
    (ev.before.bucket .leases).Stores "0" ⟨"0", "b", .ofNanos 70000000000, 4⟩ ∧
    ev.before.now = .ofNanos 40000000000 := by
  have h : lateProgress.world.history.head?.any (fun ev => ev.who == false &&
      ev.outcome? .checkpoints "0" == some (some (encode (Checkpoint.mk "0" 5 "5" .epoch))) &&
      (ev.before.bucket .checkpoints).value? "0" == some (encode (Checkpoint.mk "0" 9 "9" .epoch)) &&
      (ev.before.bucket .leases).value? "0" ==
        some (encode (Lease.mk "0" "b" (.ofNanos 70000000000) 4)) &&
      ev.before.now == .ofNanos 40000000000) = true := by
    decide +kernel
  obtain ⟨ev, hev, hfacts⟩ := (Option.any_eq_true _ _).1 h
  simp only [Bool.and_eq_true, beq_iff_eq, and_assoc] at hfacts
  obtain ⟨older, hhistory⟩ := List.head?_eq_some_iff.1 hev
  exact ⟨ev, older, hhistory, hfacts⟩

theorem reachable_lateProgress :
    Reachable (.pair .bucket) (fun _ => Action.IsWork) (.ofPartition "0")
      lateProgress :=
  reachable_play (by simp [Cue.IsAllowed, Action.IsWork])

/-- The late write puts the progress of host a over that of host b, who holds the lease. -/
theorem lateProgress_overwrites : ∃ newer ev older, lateProgress.world.history = newer ++ ev :: older ∧
    ev.who = false ∧ ev.Updated .checkpoints "0" (encode (Checkpoint.mk "0" 5 "5" .epoch)) ∧
    (ev.before.bucket .checkpoints).value? "0" = some (encode (Checkpoint.mk "0" 9 "9" .epoch)) ∧
    ∃ l : Lease, (ev.before.bucket .leases).Stores "0" l ∧ l.isHeldBy "b" ev.before.now = true ∧
      ¬ ∃ stored : Lease, (ev.before.bucket .leases).Stores "0" stored ∧
        stored.isHeldBy "a" ev.before.now = true := by
  obtain ⟨ev, older, hhistory, hwho, hput, hold, hlease, hnow⟩ := lateProgress_latest
  have hgrows := reachable_lateProgress.attainable.grows
  refine ⟨[], ev, older, hhistory, hwho, hgrows.updated_of_outcome hhistory hput hold, hold,
    _, hlease, by rw [hnow]; decide, ?_⟩
  rintro ⟨stored, hstored, hheld⟩
  obtain rfl := hlease.unique hstored
  exact absurd (Lease.isHeldBy_iff.1 hheld).2.2 (by decide)

theorem held_iff_lastLease_lateProgress : ∃ ev older, lateProgress.world.history = ev :: older ∧
    ∃ l : Lease, lastLease? (.pair .bucket) "a" "0" older = some (encode l) ∧
      ((∃ stored : Lease, (ev.before.bucket .leases).Stores "0" stored ∧
        stored.isHeldBy "a" ev.before.now = true) ↔ l.isHeldBy "a" ev.before.now = true) := by
  obtain ⟨ev, older, hhistory, hwho, hput, hold, -⟩ := lateProgress_latest
  have hev := reachable_lateProgress.attainable.grows.updated_of_outcome hhistory hput hold
  have h := (held_iff_lastLease (fun _ => rfl) (by decide) (Cluster.sound_ofPartition "0" .leases)
    reachable_lateProgress hhistory hev).2
  rw [hwho] at h
  exact ⟨ev, older, hhistory, h⟩

end Checkpoint

end PartitionHost
