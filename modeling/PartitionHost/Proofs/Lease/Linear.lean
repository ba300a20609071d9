import PartitionHost.Proofs.Interleaving.Schedule
import PartitionHost.Proofs.Lease.Turns

/-!
# Calls on leases take effect one after the other

However the calls of many clients on one bucket of leases are interleaved, each write is a transition of the
lease that it replaces, and so epochs count: the stored epoch is the number of acquisitions and updates since
the lease was put there (`epoch_eq_fencings`), and a later acquisition or update has a later epoch, as long
as the lease is not removed in between (`epoch_lt_of_fences`).
-/

namespace PartitionHost

open Record Cluster

variable {ι : Type}

/-- Whether an action is a call on leases, and does not delete the store. -/
def Action.IsLeaseCall : Action → Prop
  | .lease _ op => op ≠ .deleteStore
  | _ => False

theorem Action.IsLeaseCall.eq_of_uses {a : Action} (h : a.IsLeaseCall) {op : Lease.Operation}
    (huses : a.UsesLease op) : ∃ cancel, a = .lease cancel op := by
  cases a with
  | lease cancel op' =>
      obtain rfl : op' = op := huses
      exact ⟨cancel, rfl⟩
  | _ => cases h

namespace Event

def Removes (p : String) (ev : Event ι) : Prop := ev.outcome? .leases p = some none

/-- The lease of a partition is acquired or updated, and becomes this one. -/
def Fences (p : String) (l : Lease) (ev : Event ι) : Prop :=
  ev.Updated .leases p (encode l) ∧
    ∃ cancel, ev.action = .lease cancel (.acquire p) ∨ ev.action = .lease cancel (.update p)

end Event

/-- How often the lease of a partition was acquired or updated since it was put there. -/
def fencings (p : String) : List (Event ι) → Nat
  | [] => 0
  | ev :: older =>
    match ev.outcome? .leases p, ev.action with
    | none, _ => fencings p older
    | some (some _), .lease _ (.acquire _) | some (some _), .lease _ (.update _) => fencings p older + 1
    | some (some _), .lease _ (.renew _) | some (some _), .lease _ (.release _) => fencings p older
    | some _, _ => 0

namespace Lease

variable {fleet : Fleet ι} {init : Cluster} {w : World ι} {older : List (Event ι)} {ev : Event ι}
  {p : String}

theorem Turn.epoch_eq {op : Operation} {stored : Stamped} {l l' : Lease} {t : Timestamp}
    (h : Turn fleet older ev p op stored l t l') (hcall : ev.action.IsLeaseCall)
    (hev : ev.Updated .leases p (encode l')) (hepoch : l.epoch = fencings p older) :
    l'.epoch = fencings p (ev :: older) := by
  obtain ⟨cancel, haction⟩ := hcall.eq_of_uses h.uses
  cases h.turns with
  | acquire _ => simp [fencings, hev.outcome?_eq, haction, hepoch]
  | renew _ => simp [fencings, hev.outcome?_eq, haction, hepoch]
  | release _ => simp [fencings, hev.outcome?_eq, haction, hepoch]
  | update _ => simp [fencings, hev.outcome?_eq, haction, hepoch]

/-- The epoch of a stored lease is the number of acquisitions and updates since it was put there. -/
theorem epoch_eq_fencings (hw : w.Grows fleet init)
    (hempty : (init.bucket .leases).entries = .empty) (hlaw : Lawful fleet.discipline w.history)
    (hcalls : ∀ ev ∈ w.history, ev.action.IsLeaseCall) {value : Bytes}
    (hvalue : (w.cluster.bucket .leases).value? p = some value) :
    ∃ l : Lease, encode l = value ∧ l.epoch = fencings p w.history := by
  have hsound := Bucket.sound_of_empty hempty
  refine induction_on (P := fun w => (∀ ev ∈ w.history, ev.action.IsLeaseCall) → ∀ value,
    (w.cluster.bucket .leases).value? p = some value →
      ∃ l : Lease, encode l = value ∧ l.epoch = fencings p w.history)
    hw hsound hlaw p ?_ ?_ ?_ hcalls value hvalue
  · intro _ value hvalue
    rw [Bucket.value?, hempty] at hvalue
    cases hvalue
  · intro w c hc ih hcalls value hvalue
    rw [hc.bucket] at hvalue
    exact ih hcalls value hvalue
  · intro w ev c v v' _ hbefore _ hv hv' hchange ih hcalls value hvalue
    obtain ⟨hcall, hcalls⟩ := List.forall_mem_cons.1 hcalls
    have ih := ih hcalls
    cases hv'.symm.trans hvalue
    cases hchange with
    | kept _ h =>
        obtain ⟨l, hl, hepoch⟩ := ih value hv
        exact ⟨l, hl, by simpa [fencings, h] using hepoch⟩
    | created hev huses =>
        obtain ⟨cancel, haction⟩ := hcall.eq_of_uses huses
        exact ⟨unowned p, rfl, by simp_all [fencings, hev.outcome?_eq, unowned]⟩
    | turned hev h =>
        obtain ⟨l, hl, hepoch⟩ := ih _ hv
        have hstores : (ev.before.bucket .leases).Stores p l := by
          rw [Bucket.Stores, h.value?_eq, hl]
        obtain rfl := h.eq_of_stores hstores
        exact ⟨_, rfl, h.epoch_eq hcall hev hepoch⟩

theorem exists_stores_of_updated (hw : w.Grows fleet init) (hsound : (init.bucket .leases).Sound)
    (hlaw : Lawful fleet.discipline w.history) {newer : List (Event ι)}
    (hhistory : w.history = newer ++ ev :: older) {l : Lease}
    (hev : ev.Updated .leases p (encode l)) (hkept : ∀ ev' ∈ newer, ¬ ev'.Removes p) :
    ∃ l', (w.cluster.bucket .leases).Stores p l' ∧ l.epoch ≤ l'.epoch := by
  refine induction_on (P := fun w => ∀ newer, w.history = newer ++ ev :: older →
    (∀ ev' ∈ newer, ¬ ev'.Removes p) →
      ∃ l', (w.cluster.bucket .leases).Stores p l' ∧ l.epoch ≤ l'.epoch)
    hw hsound hlaw p ?_ ?_ ?_ newer hhistory hkept
  · intro newer hhistory
    simp at hhistory
  · intro w c hc ih newer hhistory hkept
    rw [hc.bucket]
    exact ih newer hhistory hkept
  · intro w ev' c v v' _ hbefore _ hv hv' hchange ih newer hhistory hkept
    change ∃ l', (c.bucket .leases).value? p = _ ∧ _
    rw [hv']
    cases newer with
    | nil =>
        obtain ⟨rfl, rfl⟩ := List.cons.inj hhistory
        exact ⟨l, hchange.after_eq hev.outcome?_eq, Nat.le_refl _⟩
    | cons _ newer =>
        obtain ⟨rfl, htail⟩ := List.cons.inj hhistory
        obtain ⟨hkept', hkept⟩ := List.forall_mem_cons.1 hkept
        obtain ⟨l', hstores, hle⟩ := ih newer htail hkept
        rw [Bucket.Stores, hv] at hstores
        cases hchange with
        | kept _ h => exact ⟨l', hstores, hle⟩
        | created hev huses => cases hstores
        | removed _ h _ => exact absurd h hkept'
        | turned hev h =>
            obtain rfl := h.eq_of_stores (hbefore ▸ hv.trans hstores)
            exact ⟨_, rfl, Nat.le_trans hle h.turns.epoch_le⟩

theorem epoch_lt_of_fences (hw : w.Grows fleet init) (hsound : (init.bucket .leases).Sound)
    (hlaw : Lawful fleet.discipline w.history) (hcalls : ∀ ev ∈ w.history, ev.action.IsLeaseCall)
    {newer middle older : List (Event ι)} {ev₁ ev₂ : Event ι}
    (hhistory : w.history = newer ++ ev₂ :: (middle ++ ev₁ :: older)) {l₁ l₂ : Lease}
    (h₁ : ev₁.Fences p l₁) (h₂ : ev₂.Fences p l₂) (hkept : ∀ ev ∈ middle, ¬ ev.Removes p) :
    l₁.epoch < l₂.epoch := by
  obtain ⟨hbefore, -⟩ := hw.before hhistory
  have hlaw' : Lawful fleet.discipline (newer ++ ev₂ :: (middle ++ ev₁ :: older)) := hhistory ▸ hlaw
  obtain ⟨l, hstores, hle⟩ :=
    exists_stores_of_updated hbefore hsound hlaw'.of_append.2 rfl h₁.1 hkept
  obtain ⟨op, stored, l', t, l₂', hvalue, hturn⟩ := exists_turn hw hsound hlaw hhistory h₂.1
  obtain rfl := encode_injective hvalue
  obtain rfl := hturn.eq_of_stores hstores
  obtain ⟨cancel, haction⟩ := (hcalls ev₂ (by rw [hhistory]; simp)).eq_of_uses hturn.uses
  obtain ⟨cancel', haction'⟩ := h₂.2
  rw [haction] at haction'
  cases hturn.turns with
  | acquire _ => exact Nat.lt_succ_of_le hle
  | update _ => exact Nat.lt_succ_of_le hle
  | renew _ => simp at haction'
  | release _ => simp at haction'

/-! ## Outcomes -/

theorem along_call {e : Equipment} (hbucket : e.leases = .bucket) (cancel : Cancellation)
    (op : Operation) : (e.task (.lease cancel op)).Along (discipline e.me (op = ·))
      (fun x past => ∀ p l, (Action.lease cancel op).Fenced x p l →
        ∃ y ∈ past, y.Updated .leases p (encode l)) [] := by
  rw [e.task_of_bucket hbucket]
  refine (Bucketed.along_perform rfl []).mono (fun _ _ => id) fun x past h p l hl => ?_
  obtain ⟨revision, n, older, rfl, -, -⟩ := h p l hl
  exact ⟨_, List.mem_cons_self, revision, n, rfl⟩

theorem exists_fences_of_return [DecidableEq ι] (hbucket : ∀ i, (fleet i).leases = .bucket)
    {s : State ι} (hs : Attainable fleet (fun _ => Action.IsLeaseCall) init s) {ret : Return ι}
    (hret : ret ∈ s.returns) {l : Lease} (hl : ret.action.Fenced ret.outcome p l) :
    ∃ ev ∈ s.world.history, ev.number = ret.number ∧ ev.Fences p l := by
  have htask : ∀ i a, a.IsLeaseCall → ((fleet i).task a).Along (fleet.discipline i a)
      (fun x past => ∀ p l, a.Fenced x p l → ∃ y ∈ past, y.Updated .leases p (encode l)) [] := by
    intro i a ha
    cases a with
    | lease cancel op => exact along_call (hbucket i) cancel op
    | _ => cases ha
  obtain ⟨y, hy, hupdated⟩ := (hs.lawful (fun i => htask i)).2.2 ret hret p l hl
  obtain ⟨ev, hev, hnumber, rfl⟩ := mem_traceOf.1 hy
  have hsame : ev.toEngagement = ret.toEngagement :=
    hs.orderly.number_inj _ _ (hs.orderly.known ev hev) (.inr ⟨ret, hret, rfl⟩) hnumber
  refine ⟨ev, hev, hnumber, hupdated, ?_⟩
  rw [show ev.action = ret.action from congrArg Engagement.action hsame]
  obtain ⟨⟨who, number, a⟩, outcome⟩ := ret
  cases a with
  | lease cancel op =>
      cases op with
      | acquire q =>
          rcases outcome with e | ⟨l', _ | _⟩
          · cases hl
          · cases hl
          · obtain ⟨rfl, rfl⟩ := hl
            exact ⟨cancel, .inl rfl⟩
      | update q =>
          rcases outcome with e | ⟨l', _ | _⟩
          · cases hl
          · cases hl
          · obtain ⟨rfl, rfl⟩ := hl
            exact ⟨cancel, .inr rfl⟩
      | _ => cases hl
  | _ => cases hl

/--
For any calls on the leases in a bucket that is empty in the beginning, in any order and with any failures:
each write is a transition of the lease that it replaces, the stored epochs count the acquisitions and
updates, and the epochs that calls answer grow in the order of the writes, between two removals.
-/
theorem calls_linearize [DecidableEq ι] (hbucket : ∀ i, (fleet i).leases = .bucket)
    (hempty : (init.bucket .leases).entries = .empty) {s : State ι}
    (hs : Reachable fleet (fun _ => Action.IsLeaseCall) init s) :
    (∀ newer ev older p value, s.world.history = newer ++ ev :: older →
      ev.Updated .leases p value → ∃ op stored l t l', encode l' = value ∧
        Turn fleet older ev p op stored l t l' ∧ t ≤ ev.before.now) ∧
    (∀ p value, (s.world.cluster.bucket .leases).value? p = some value →
      ∃ l : Lease, encode l = value ∧ l.epoch = fencings p s.world.history) ∧
    (∀ ret₁ ∈ s.returns, ∀ ret₂ ∈ s.returns, ret₁.number ≠ ret₂.number → ∀ p l₁ l₂,
      ret₁.action.Fenced ret₁.outcome p l₁ → ret₂.action.Fenced ret₂.outcome p l₂ →
      ∃ ev₁ ev₂, ev₁.number = ret₁.number ∧ ev₁.Fences p l₁ ∧
        ev₂.number = ret₂.number ∧ ev₂.Fences p l₂ ∧
        ∃ newer middle older,
          (s.world.history = newer ++ ev₂ :: (middle ++ ev₁ :: older) ∧
            ((∀ ev ∈ middle, ¬ ev.Removes p) → l₁.epoch < l₂.epoch)) ∨
          (s.world.history = newer ++ ev₁ :: (middle ++ ev₂ :: older) ∧
            ((∀ ev ∈ middle, ¬ ev.Removes p) → l₂.epoch < l₁.epoch))) := by
  have hs := hs.attainable
  have hw := hs.grows
  have hsound := Bucket.sound_of_empty hempty
  have hlaw : Lawful fleet.discipline s.world.history :=
    (hs.lawful fun i a _ => (fleet i).along_discipline a).1
  have hcalls : ∀ ev ∈ s.world.history, ev.action.IsLeaseCall := fun ev hev => hs.may_of_mem hev
  refine ⟨?_, fun p value => epoch_eq_fencings hw hempty hlaw hcalls, ?_⟩
  · intro newer ev older p value hhistory hev
    obtain ⟨op, stored, l, t, l', hvalue, hturn⟩ := exists_turn hw hsound hlaw hhistory hev
    exact ⟨op, stored, l, t, l', hvalue, hturn, hturn.time_le (hw.before hhistory).1⟩
  · intro ret₁ hret₁ ret₂ hret₂ hne p l₁ l₂ hl₁ hl₂
    obtain ⟨ev₁, hev₁, hnumber₁, hfences₁⟩ := exists_fences_of_return hbucket hs hret₁ hl₁
    obtain ⟨ev₂, hev₂, hnumber₂, hfences₂⟩ := exists_fences_of_return hbucket hs hret₂ hl₂
    refine ⟨ev₁, ev₂, hnumber₁, hfences₁, hnumber₂, hfences₂, ?_⟩
    obtain ⟨newer, older, hhistory⟩ := List.append_of_mem hev₂
    rw [hhistory] at hev₁
    rcases List.mem_append.1 hev₁ with hev₁ | hev₁
    · obtain ⟨newer, middle, rfl⟩ := List.append_of_mem hev₁
      rw [List.append_assoc, List.cons_append] at hhistory
      exact ⟨newer, middle, older, .inr ⟨hhistory,
        epoch_lt_of_fences hw hsound hlaw hcalls hhistory hfences₂ hfences₁⟩⟩
    · rcases List.mem_cons.1 hev₁ with rfl | hev₁
      · exact absurd (hnumber₁.symm.trans hnumber₂) hne
      · obtain ⟨middle, older, rfl⟩ := List.append_of_mem hev₁
        exact ⟨newer, middle, older, .inl ⟨hhistory,
          epoch_lt_of_fences hw hsound hlaw hcalls hhistory hfences₁ hfences₂⟩⟩

/-- Two clients go for a lease at once; the one that was late takes it when it has expired. -/
def twoAcquisitions : List (Cue Bool) :=
  [.begin false (.lease .never (.ensure "0")), .answer false, .answer false,
    .begin false (.lease .never (.acquire "0")), .begin true (.lease .never (.acquire "0")),
    .answer false, .answer true, .answer false, .answer true, .answer true,
    .pass (.ofSeconds 40),
    .begin true (.lease .never (.acquire "0")), .answer true, .answer true]

theorem calls_linearize_twoAcquisitions : ∃ l : Lease,
    encode l = encode (Lease.mk "0" "b" (.ofNanos 70000000000) 2) ∧
      l.epoch = fencings "0" (play (.pair .bucket) .ofBuckets twoAcquisitions).world.history :=
  (calls_linearize (fun _ => rfl) rfl
    (reachable_play (by simp [twoAcquisitions, Cue.IsAllowed, Action.IsLeaseCall]))).2.1 "0" _
    (by decide +kernel)

end Lease

end PartitionHost
