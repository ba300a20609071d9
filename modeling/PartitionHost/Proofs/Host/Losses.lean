import PartitionHost.Proofs.Checkpoint.Fencing
import PartitionHost.Proofs.Host.Careful
import PartitionHost.Proofs.Lease.Custody

/-!
# Which losses are reported

A scan, or a host that records progress, gives up a partition only because of what it has just read: that
the lease of the partition is not there, or, by the clock as it was read next, that the host does not hold it
(`Lease.Learned`). No error of a call, no record that cannot be read and no competing writer makes it do so,
for none of these ends an operation with an answer by which the partition is lost (`Lease.Attests`).

What was read is what was stored at that moment, so every reported loss is a true one (`losses_are_true`).
-/

namespace PartitionHost

open Record Cluster

/-! ## What a store can answer -/

/-- The errors with which a call on a bucket ends. They say nothing of what is stored there. -/
inductive Error.IsOfCall : Error → Prop where
  | cancelled : IsOfCall .cancelled
  | store (detail : String) : IsOfCall (.store detail)
  | storeNotInitialized (name : String) : IsOfCall (.storeNotInitialized name)

namespace Exchange

/-- An error that was answered is one that the store can answer. -/
def Credible : Exchange Site → Prop
  | ⟨.leaseBucket _ _, .error e⟩ => e.IsOfCall
  | ⟨.checkpointBucket _ _, .error e⟩ => e.IsOfCall
  | ⟨.checkpointTable _, .error e⟩ => ∀ p, e ≠ .leaseLost p
  | _ => True

/-- An operation on a lease that comes to its end with this exchange has learned nothing of the lease. -/
inductive IsInconclusive : Exchange Site → Prop where
  /-- The store failed, or the call was cancelled. -/
  | failed {cancel : Cancellation} {c : Bucket.Call} (e : Error) :
      IsInconclusive ⟨.leaseBucket cancel c, .error e⟩
  /-- What is stored is no record of a lease. -/
  | unreadable {cancel : Cancellation} {p : String} {e : Entry} (h : decode? (α := Lease) e.value = none) :
      IsInconclusive ⟨.leaseBucket cancel (.entry p), .ok (some e)⟩
  /-- Somebody else has written since. -/
  | outrun {cancel : Cancellation} {p : String} {value : Bytes} {revision : Nat} :
      IsInconclusive ⟨.leaseBucket cancel (.update p value revision), .ok none⟩

theorem IsInconclusive.isOfLeases {x : Exchange Site} (h : x.IsInconclusive) : x.request.IsOfLeases := by
  cases h <;> trivial

end Exchange

theorem Bucket.Failure.isOfCall_toError (f : Bucket.Failure) : f.toError.IsOfCall := by
  cases f with
  | noBucket name => exact .storeNotInitialized name
  | backend access detail => exact .store _
  | unreachable => exact .store _

theorem Checkpoint.Register.answer_ne_leaseLost (r : Register Checkpoint) (op : Checkpoint.Operation)
    (p : String) : (Checkpoint.Register.perform r op).1 ≠ .error (.leaseLost p) := by
  cases r with
  | none => cases op <;> nofun
  | some t =>
      cases op with
      | update q position =>
          simp only [perform, PartitionHost.Register.withTable]
          split <;> nofun
      | _ => nofun

namespace Cluster

theorem Called.isOfCall {store : StoreName} {cancel : Cancellation} {call : Bucket.Call} {c c' : Cluster}
    {x : Except Error call.Reply} (h : Called store cancel call c x c') {e : Error}
    (hx : x = .error e) : e.IsOfCall := by
  subst hx
  cases h with
  | served hx =>
      replace hx := hx.eq_error
      cases hcall : (c.call store call).1 with
      | error f =>
          rw [hcall] at hx
          cases hx
          exact f.isOfCall_toError
      | ok y =>
          rw [hcall] at hx
          cases hx
  | cancelled hne => exact .cancelled

theorem Answers.credible {host : String} {c c' : Cluster} {r : Site.Request} {x : r.Answer}
    (h : Answers host c r x c') : (Exchange.mk (I := Site) r x).Credible := by
  cases r with
  | leaseBucket cancel call =>
      cases x with
      | error e => exact Called.isOfCall h rfl
      | ok y => trivial
  | checkpointBucket cancel call =>
      cases x with
      | error e => exact Called.isOfCall h rfl
      | ok y => trivial
  | checkpointTable op =>
      cases x with
      | error e =>
          obtain ⟨hanswer, -⟩ := Prod.mk.inj h
          exact fun p he => Checkpoint.Register.answer_ne_leaseLost _ op p (he ▸ hanswer.symm)
      | ok y => trivial
  | _ => trivial

end Cluster

/-! ## What a host has learned -/

/-- The partition that a request gives up, in what the host believes or announces. -/
def Site.Request.loss? : Site.Request → Option String
  | .disown p => some p
  | .announce (.lost p) => some p
  | _ => none

namespace Lease

/-- It was just learned that a lease is not there, or that a host does not hold it. -/
inductive Refuted (owner p : String) : List (Exchange Site) → Prop where
  | absent {cancel : Cancellation} {older : List (Exchange Site)} :
      Refuted owner p (⟨.leaseBucket cancel (.entry p), .ok none⟩ :: older)
  | refused {cancel : Cancellation} {e : Entry} {l : Lease} {t : Timestamp}
      {older : List (Exchange Site)} (hl : decode? e.value = some l) (hheld : l.isHeldBy owner t = false) :
      Refuted owner p (⟨.now, t⟩ :: ⟨.leaseBucket cancel (.entry p), .ok (some e)⟩ :: older)

/-- It was learned so, and nothing has been asked of the lease store since. -/
def Learned (owner p : String) (past : List (Exchange Site)) : Prop :=
  ∃ newer older, past = newer ++ older ∧ Refuted owner p older ∧
    ∀ x ∈ newer, ¬ x.request.IsOfLeases

/-- It was learned so if the answers are those of a store. -/
def Informed (owner p : String) (past : List (Exchange Site)) : Prop :=
  (∀ x ∈ past, x.Credible) → Learned owner p past

/-- A partition is given up only by who has learned that it is lost. -/
def Truthful (owner : String) (past : List (Exchange Site)) (r : Site.Request) : Prop :=
  ∀ p, r.loss? = some p → Informed owner p past

variable {owner p : String} {past : List (Exchange Site)}

theorem Refuted.learned (h : Refuted owner p past) : Learned owner p past :=
  ⟨[], past, rfl, h, fun _ hx => nomatch hx⟩

theorem Learned.cons (h : Learned owner p past) {x : Exchange Site} (hx : ¬ x.request.IsOfLeases) :
    Learned owner p (x :: past) := by
  obtain ⟨newer, older, rfl, hrefuted, hnewer⟩ := h
  exact ⟨x :: newer, older, rfl, hrefuted, List.forall_mem_cons.2 ⟨hx, hnewer⟩⟩

theorem Informed.cons (h : Informed owner p past) {x : Exchange Site} (hx : ¬ x.request.IsOfLeases) :
    Informed owner p (x :: past) :=
  fun hpast => (h (List.forall_mem_cons.1 hpast).2).cons hx

theorem Refuted.asked {newer older : List (Exchange Site)} {x : Exchange Site}
    (h : Refuted owner p (newer ++ x :: older)) (hx : x.IsInconclusive) :
    ∃ y ∈ newer, y.request.IsOfLeases := by
  cases newer with
  | nil =>
      cases h with
      | absent => cases hx
      | refused hl hheld => cases hx
  | cons y newer =>
      generalize hpast : y :: newer ++ x :: older = past at h
      cases h with
      | absent =>
          obtain ⟨rfl, -⟩ := List.cons.inj hpast
          exact ⟨_, List.mem_cons_self, trivial⟩
      | refused hl hheld =>
          obtain ⟨rfl, hrest⟩ := List.cons.inj hpast
          cases newer with
          | nil =>
              obtain ⟨rfl, -⟩ := List.cons.inj hrest
              cases hx with
              | unreadable hnone =>
                  rw [hl] at hnone
                  cases hnone
          | cons z newer =>
              obtain ⟨rfl, -⟩ := List.cons.inj hrest
              exact ⟨_, List.mem_cons_of_mem _ List.mem_cons_self, trivial⟩

theorem Learned.asked {newer older : List (Exchange Site)} {x : Exchange Site}
    (h : Learned owner p (newer ++ x :: older)) (hx : x.IsInconclusive) :
    ∃ y ∈ newer, y.request.IsOfLeases := by
  obtain ⟨later, learned, hpast, hrefuted, hlater⟩ := h
  rcases List.append_eq_append_iff.1 hpast with ⟨rest, rfl, hrest⟩ | ⟨rest, rfl, rfl⟩
  · cases rest with
    | nil =>
        rw [List.nil_append] at hrest
        subst hrest
        have hnone : Refuted owner p ([] ++ x :: older) := hrefuted
        obtain ⟨y, hy, -⟩ := hnone.asked hx
        cases hy
    | cons y rest =>
        -- Since the lease was refuted, the lease store has not been asked anything.
        obtain ⟨rfl, -⟩ := List.cons.inj hrest
        exact absurd hx.isOfLeases (hlater x (by simp))
  · obtain ⟨y, hy, hleases⟩ := hrefuted.asked hx
    exact ⟨y, List.mem_append_right _ hy, hleases⟩

theorem truthful_of_loss? {r : Site.Request} (h : r.loss? = none) : Truthful owner past r := by
  intro p hp
  rw [h] at hp
  cases hp

/-! ## Transitions -/

theorem not_held_of_renew {l : Lease} {term : Duration} {t : Timestamp}
    (h : l.renew owner term t = none) : l.isHeldBy owner t = false := by
  refine Bool.eq_false_iff.2 fun hheld => ?_
  cases h.symm.trans (renew_eq_some.2 ⟨hheld, rfl⟩)

/-- What the answer of an operation on a lease says of it. -/
def Attests (owner p : String) : Except Error (Lease × Bool) → List (Exchange Site) → Prop
  | .ok (_, false), past => Refuted owner p past
  | .error (.notFound _), past => Refuted owner p past
  | .error (.leaseLost _), _ => False
  | _, _ => True

theorem attests_of_isOfCall {fault : Error} (h : fault.IsOfCall) : Attests owner p (.error fault) past := by
  cases h <;> trivial

/-- A transition that the holder is always allowed is refused only to who does not hold the lease. -/
theorem along_attests {next : Lease → Timestamp → Option Lease} {cancel : Cancellation}
    (hnext : ∀ l t, next l t = none → l.isHeldBy owner t = false) (attempts : Nat)
    (past : List (Exchange Site)) :
    ((Bucketed.transition p next attempts).run.serve (client cancel)).Along (Truthful owner)
      (fun x past => (∀ x ∈ past, x.Credible) → Attests owner p x past) past := by
  induction attempts generalizing past with
  | zero => exact fun _ => trivial
  | succ attempts ih =>
      rw [Bucketed.run_transition_succ, serve_client_call]
      refine ⟨truthful_of_loss? rfl, ?_⟩
      rintro (fault | _ | e)
      · exact fun hpast => attests_of_isOfCall (hpast _ List.mem_cons_self)
      · exact fun _ => .absent
      · cases hl : decode? (α := Lease) e.value with
        | none =>
            simp only [hl]
            exact fun _ => trivial
        | some l =>
            simp only [hl, serve_client_now]
            refine ⟨truthful_of_loss? rfl, fun t => ?_⟩
            cases hnext' : next l t with
            | none =>
                simp only [hnext']
                exact fun _ => .refused hl (hnext l t hnext')
            | some l' =>
                simp only [hnext', serve_client_call]
                refine ⟨truthful_of_loss? rfl, ?_⟩
                rintro (fault | _ | n)
                · exact fun hpast => attests_of_isOfCall (hpast _ List.mem_cons_self)
                · exact ih _
                · exact fun _ => trivial

end Lease

/-- What a store answers does not say that a lease is lost, if the answers are those of a store. -/
def Silent {α : Type} (x : Except Error α) (past : List (Exchange Site)) : Prop :=
  (∀ y ∈ past, y.Credible) → ∀ p, x ≠ .error (.leaseLost p)

theorem silent_of_isOfCall {α : Type} {fault : Error} {past : List (Exchange Site)} (h : fault.IsOfCall) :
    Silent (α := α) (.error fault) past := by
  rintro - p hp
  cases hp
  cases h

theorem Checkpoint.along_replace {owner key : String} {value : Bytes} {cancel : Cancellation}
    (attempts : Nat) (past : List (Exchange Site)) :
    ((Bucketed.replace key value attempts).run.serve (client cancel)).Along (Lease.Truthful owner) Silent
      past := by
  induction attempts generalizing past with
  | zero => exact fun _ _ => nofun
  | succ attempts ih =>
      rw [Bucketed.run_replace_succ, serve_client_call]
      refine ⟨Lease.truthful_of_loss? rfl, ?_⟩
      rintro (fault | _ | e)
      · exact fun hpast => silent_of_isOfCall (hpast _ List.mem_cons_self) hpast
      · exact fun _ _ => nofun
      · refine ⟨Lease.truthful_of_loss? rfl, ?_⟩
        rintro (fault | _ | n)
        · exact fun hpast => silent_of_isOfCall (hpast _ List.mem_cons_self) hpast
        · exact ih _
        · exact fun _ _ => nofun

/-! ## Hosts -/

/-- Whether a host asks this without giving anything up, when it shares partitions and works on them. -/
def Host.Request.IsOfKeeping : Host.Request → Prop
  | .disown _ | .announce (.lost _) | .hub _ | .range _ _ => False
  | _ => True

namespace Equipment

open Host (Program Surroundings)
open Lease (Truthful Informed Learned Refuted Attests truthful_of_loss?)

variable {e : Equipment}

theorem asks_lossless_serve (r : Host.Request) (h : r.IsOfKeeping) :
    (e.serve r).Asks fun r : Site.Request => r.loss? = none := by
  cases r with
  | lease cancel op => exact e.asks_of_lease cancel op rfl (fun _ => rfl) rfl fun _ => rfl
  | checkpoint cancel op => exact e.asks_of_checkpoint cancel op rfl (fun _ => rfl) rfl fun _ => rfl
  | announce ev =>
      cases ev with
      | acquired l position => exact ⟨rfl, fun _ => trivial⟩
      | lost p => cases h
  | hub cancel => cases h
  | range cancel partition => cases h
  | disown p => cases h
  | _ => exact ⟨rfl, fun _ => trivial⟩

variable (e) in
/-- Whatever a program of a host gives up, it has learned to be lost. -/
def IsTruthful {α : Type} (p : Program α) : Prop :=
  ∀ past, (p.run.serve (I := Surroundings) e.serve).Along (Truthful e.me.owner) (fun _ _ => True) past

variable {α β : Type}

theorem IsTruthful.bind {p : Program α} {f : α → Program β} (hp : e.IsTruthful p)
    (hf : ∀ a, e.IsTruthful (f a)) : e.IsTruthful (p >>= f) := fun past =>
  (hp past).run_bind (fun _ _ => id) fun a past _ => hf a past

theorem isTruthful_of_asks {p : Program α} (h : p.run.Asks Host.Request.IsOfKeeping) : e.IsTruthful p :=
  (h.serve asks_lossless_serve).along_of_forall fun _ _ => truthful_of_loss?

variable {cancel : Cancellation} {p : String} {past : List (Exchange Site)}

theorem along_truthful_lose (h : Informed e.me.owner p past) :
    ((Host.lose p).run.serve (I := Surroundings) e.serve).Along (Truthful e.me.owner)
      (fun x past => x = .ok () ∧ Informed e.me.owner p past) past := by
  refine ⟨fun q hq => Option.some.inj hq ▸ h, fun held => ?_⟩
  have hdisowned : Informed e.me.owner p (⟨.disown p, held⟩ :: past) := h.cons id
  cases held with
  | false => exact ⟨rfl, hdisowned⟩
  | true => exact ⟨fun q hq => Option.some.inj hq ▸ hdisowned, fun _ => ⟨rfl, hdisowned.cons id⟩⟩

theorem along_truthful_renew (hleases : e.leases = .bucket) :
    ((Host.lease cancel (.renew p)).run.serve (I := Surroundings) e.serve).Along (Truthful e.me.owner)
      (fun x past => (∀ x ∈ past, x.Credible) → Attests e.me.owner p x past) past := by
  rw [serve_lease, lease_of_bucket hleases]
  exact Lease.along_attests (fun l t => Lease.not_held_of_renew) _ past

theorem along_truthful_update (hleases : e.leases = .bucket) :
    ((Host.lease cancel (.update p)).run.serve (I := Surroundings) e.serve).Along (Truthful e.me.owner)
      (fun x past => (∀ x ∈ past, x.Credible) → Attests e.me.owner p x past) past := by
  rw [serve_lease, lease_of_bucket hleases]
  exact Lease.along_attests (fun l t h => Lease.not_held_of_renew (Option.map_eq_none_iff.1 h)) _ past

theorem isTruthful_renewAll (hleases : e.leases = .bucket) (ps : List String) :
    e.IsTruthful (Host.renewAll cancel ps) := by
  induction ps with
  | nil => exact fun _ => trivial
  | cons p ps ih =>
      intro past
      refine Host.along_outcome_bind (along_truthful_renew hleases) fun x past hx => ?_
      rcases x with fault | ⟨l, _ | _⟩
      · cases fault with
        | notFound key =>
            have hlost : Informed e.me.owner p past := fun hpast => (hx hpast).learned
            exact (along_truthful_lose hlost).run_bind (fun _ _ _ => trivial) fun _ past _ => ih past
        | cancelled => trivial
        | _ => exact ih past
      · have hlost : Informed e.me.owner p past := fun hpast => (hx hpast).learned
        exact (along_truthful_lose hlost).run_bind (fun _ _ _ => trivial) fun _ past _ => ih past
      · have hown : e.IsTruthful (Host.ask (.own p l)) := isTruthful_of_asks (Host.asks_ask trivial)
        exact hown.bind (fun _ => ih) past

theorem isOfKeeping_of_acquiring (r : Host.Request) (h : r.IsOfAcquiring) : r.IsOfKeeping := by
  unfold Host.Request.IsOfAcquiring at h
  split at h <;> trivial

theorem isTruthful_scan (hleases : e.leases = .bucket) (owner : String) :
    e.IsTruthful (Host.scan owner cancel) := by
  refine IsTruthful.bind (isTruthful_of_asks (Host.asks_ask trivial)) fun owned => ?_
  refine (isTruthful_renewAll hleases _).bind fun _ => isTruthful_of_asks ?_
  refine Task.asks_run_bind (Host.asks_lease trivial) fun leases => ?_
  refine Task.asks_run_bind (Host.asks_ask trivial) fun now => ?_
  refine Task.asks_run_bind ((Host.asks_acquireUpTo _ _).mono isOfKeeping_of_acquiring) fun _ => ?_
  exact Task.asks_run_bind (Host.asks_ask trivial) fun _ => Host.asks_ask trivial

theorem along_truthful_checkpoint {position : Checkpoint} :
    ((Host.checkpoint cancel (.update p position)).run.serve (I := Surroundings) e.serve).Along
      (Truthful e.me.owner) Silent past := by
  rw [serve_checkpoint, checkpoint]
  split
  · refine ⟨truthful_of_loss? rfl, fun x => ?_⟩
    rcases x with fault | ⟨⟩
    · exact fun hpast q hq => hpast _ List.mem_cons_self q (Except.error.inj hq)
    · exact ⟨truthful_of_loss? rfl, fun _ _ _ => nofun⟩
  · exact Checkpoint.along_replace _ past

/-- Progress fails for the loss of a partition only where this was learned. -/
def Laments (owner p : String) (x : Except Error Unit) (past : List (Exchange Site)) : Prop :=
  ∀ q, x = .error (.leaseLost q) → (∀ y ∈ past, y.Credible) → q = p ∧ Learned owner p past

theorem along_truthful_recordProgress (hleases : e.leases = .bucket) (position : Checkpoint) :
    ((Host.recordProgress cancel p position).run.serve (I := Surroundings) e.serve).Along
      (Truthful e.me.owner) (Laments e.me.owner p) past := by
  refine (along_truthful_update hleases).run_bind ?_ fun ⟨l, held⟩ past hx => ?_
  · rintro fault past hx q hq hpast
    cases hq
    exact (hx hpast).elim
  · cases held with
    | false =>
        have hlost : Informed e.me.owner p past := fun hpast => (hx hpast).learned
        refine (along_truthful_lose hlost).run_bind (fun _ _ h => nomatch h.1) fun _ past h q hq hpast => ?_
        cases hq
        exact ⟨rfl, h.2 hpast⟩
    | true =>
        have hown : ((Host.ask (.own p l)).run.serve (I := Surroundings) e.serve).Along
            (Truthful e.me.owner) (fun x _ => x = .ok ()) past :=
          ⟨truthful_of_loss? rfl, fun _ => rfl⟩
        refine hown.run_bind (fun _ _ => nofun) fun _ past _ => ?_
        exact along_truthful_checkpoint.mono (fun _ _ => id) fun x past hx q hq hpast =>
          absurd hq (hx hpast q)

/-- How an action that can fail for the loss of a partition comes to its end. -/
def Reports (owner : String) : (a : Action) → Except Error a.Reply → List (Exchange Site) → Prop
  | .recordProgress _ p _ => Laments owner p
  | _ => fun _ _ => True

theorem along_truthful (hleases : e.leases = .bucket) (a : Action) :
    (e.task a).Along (fun past r => a.IsWork → Truthful e.me.owner past r)
      (Reports e.me.owner a) [] := by
  cases a with
  | scan cancel =>
      exact (isTruthful_scan hleases _ []).mono (fun _ _ h _ => h) fun _ _ => id
  | recordProgress cancel p position =>
      exact (along_truthful_recordProgress hleases position).mono (fun _ _ h _ => h) fun _ _ => id
  | _ => exact (Task.asks_true _).along_of_forall (fun _ _ _ h => h.elim) []

end Equipment

/-! ## Runs -/

variable {ι : Type}

/-- The partition whose progress was to be recorded, and the one for whose loss that failed. -/
def Return.lostProgress? : Return ι → Option (String × String)
  | ⟨⟨_, _, .recordProgress _ p _⟩, .error (.leaseLost q)⟩ => some (p, q)
  | _ => none

namespace Lease

/-- This event read a lease that was lost by then: it was not there, or by the clock as read next not held. -/
structure ReadLost (owner p : String) (newer : List (Event ι)) (read : Event ι) : Prop where
  reads : ∃ found, read.call? .leases = some ⟨.entry p, .ok found⟩
  /-- The engagement has asked nothing else of the lease store since. -/
  last : ∀ ev ∈ newer, ev.number = read.number → ¬ ev.request.IsOfLeases
  lost : (read.before.bucket .leases).entries.get? p = none ∨
    ∃ later clock between stored, ∃ l : Lease, newer = later ++ clock :: between ∧
      clock.number = read.number ∧ clock.request = .now ∧ (∀ ev ∈ between, ev.number ≠ read.number) ∧
      (read.before.bucket .leases).entries.get? p = some stored ∧ decode? stored.value = some l ∧
      l.isHeldBy owner clock.before.now = false

/-- What an engagement read last of the lease store was a lease that was lost. -/
def FoundLost (owner p : String) (number : Nat) (history : List (Event ι)) : Prop :=
  ∃ newer read older, history = newer ++ read :: older ∧ read.number = number ∧
    ReadLost owner p newer read

end Lease

open Lease (Learned FoundLost ReadLost)

variable {fleet : Fleet ι} {init : Cluster} {w : World ι} {owner p : String} {number : Nat}

theorem World.Grows.credible (h : w.Grows fleet init) (number : Nat) :
    ∀ x ∈ traceOf number w.history, x.Credible := by
  intro x hx
  obtain ⟨ev, hev, -, rfl⟩ := mem_traceOf.1 hx
  obtain ⟨newer, older, hhistory⟩ := List.append_of_mem hev
  obtain ⟨-, c, hanswers, -⟩ := h.before hhistory
  exact hanswers.credible

theorem World.Grows.foundLost (h : w.Grows fleet init)
    (hlearned : Learned owner p (traceOf number w.history)) : FoundLost owner p number w.history := by
  obtain ⟨newer, older, htrace, hrefuted, hnewer⟩ := hlearned
  cases hrefuted with
  | absent =>
      obtain ⟨newer', read, older', hhistory, hnumber, hread, rfl, -⟩ :=
        exists_of_traceOf_eq_append htrace
      have hcall : read.call? .leases = some ⟨.entry p, .ok none⟩ := by rw [hread]; rfl
      refine ⟨newer', read, older', hhistory, hnumber, ⟨_, hcall⟩, ?_, .inl ?_⟩
      · exact fun ev hev hsame => hnewer _ (mem_traceOf.2 ⟨ev, hev, hsame.trans hnumber, rfl⟩)
      · obtain ⟨-, c, hx, -⟩ := h.before hhistory
        have heffect := hx.effect .leases
        rw [show (Exchange.mk read.request read.answer).call? .leases = _ from hcall] at heffect
        exact Option.map_eq_none_iff.1 heffect.of_read.1.symm
  | @refused cancel e l t rest hl hheld =>
      obtain ⟨later, clock, older', hhistory, hclock, hnow, rfl, htrace'⟩ :=
        exists_of_traceOf_eq_append htrace
      have hsince : traceOf number older' =
          [] ++ ⟨.leaseBucket cancel (.entry p), .ok (some e)⟩ :: rest := htrace'
      obtain ⟨between, read, older'', rfl, hread, hexchange, hbetween, -⟩ :=
        exists_of_traceOf_eq_append hsince
      have hall : w.history = (later ++ clock :: between) ++ read :: older'' := by
        rw [hhistory, List.append_assoc, List.cons_append]
      have hquiet : ∀ ev ∈ between, ev.number ≠ number := fun ev hev hsame =>
        List.not_mem_nil (hbetween ▸ mem_traceOf.2 ⟨ev, hev, hsame, rfl⟩)
      have hcall : read.Read .leases p e := by rw [Exchange.Read, hexchange]; rfl
      have hrequest : clock.request = .now := congrArg Exchange.request hnow
      refine ⟨_, read, older'', hall, hread, ⟨_, hcall⟩, ?_, .inr ?_⟩
      · intro ev hev hsame
        rcases List.mem_append.1 hev with hev | hev
        · exact hnewer _ (mem_traceOf.2 ⟨ev, hev, hsame.trans hread, rfl⟩)
        · rcases List.mem_cons.1 hev with rfl | hev
          · rw [hrequest]
            exact id
          · exact absurd (hsame.trans hread) (hquiet ev hev)
      · exact ⟨later, clock, between, _, l, rfl, hclock.trans hread.symm, hrequest,
          fun ev hev => hread ▸ hquiet ev hev, (h.get?_of_read hall hcall).2, hl,
          h.eq_now_of_event hhistory hnow ▸ hheld⟩

variable [DecidableEq ι] {may : ι → Action → Prop} {s : State ι}

/--
For any hosts with a bucket for their leases, in any order and with any failures: a scan, or a host that
records progress, gives up a partition, and progress fails for the loss of its lease, only if what was read
last of the lease store was the lease of that partition, and by then it was lost. So nothing is given up after
an operation that learned nothing, before the lease store is asked again.
-/
theorem losses_are_true (hleases : ∀ i, (fleet i).leases = .bucket) (hs : Reachable fleet may init s) :
    (∀ newer ev older p, s.world.history = newer ++ ev :: older → ev.action.IsWork →
      ev.request.loss? = some p →
        FoundLost (fleet ev.who).me.owner p ev.number older ∧
        ∀ later vain earlier, older = later ++ vain :: earlier → vain.number = ev.number →
          vain.toExchange.IsInconclusive →
            ∃ again ∈ later, again.number = ev.number ∧ again.request.IsOfLeases) ∧
    ∀ ret ∈ s.returns, ∀ p q, ret.lostProgress? = some (p, q) →
      q = p ∧ FoundLost (fleet ret.who).me.owner p ret.number s.world.history := by
  have hs := hs.attainable
  obtain ⟨hlaw, -, hreturns⟩ := hs.lawful fun i a _ => (fleet i).along_truthful (hleases i) a
  refine ⟨fun newer ev older p hhistory hwork hloss => ?_, fun ret hret p q hlost => ?_⟩
  · obtain ⟨hbefore, -⟩ := hs.grows.before hhistory
    have hlearned : Learned (fleet ev.who).me.owner p (traceOf ev.number older) :=
      (hhistory ▸ hlaw).of_append.1 hwork p hloss (hbefore.credible ev.number)
    refine ⟨hbefore.foundLost hlearned, ?_⟩
    rintro later vain earlier rfl hvain hinconclusive
    rw [traceOf_append, ← hvain, traceOf_cons_self] at hlearned
    obtain ⟨y, hy, hasked⟩ := hlearned.asked hinconclusive
    obtain ⟨again, hagain, hsame, rfl⟩ := mem_traceOf.1 hy
    exact ⟨again, hagain, hsame.trans hvain, hasked⟩
  · have hreports := hreturns ret hret
    unfold Return.lostProgress? at hlost
    split at hlost
    · cases hlost
      obtain ⟨rfl, hlearned⟩ := hreports _ rfl (hs.grows.credible _)
      exact ⟨rfl, hs.grows.foundLost hlearned⟩
    · cases hlost

/-- Host a takes the partition, lets the lease expire, and records progress after host b has taken it. -/
def overtaken : State Bool :=
  play (.pair .bucket) (.ofPartition "0") <| List.flatten
    [[.begin false (.scan .never)], .replicate 6 (.answer false),
      [.pass (.ofSeconds 40), .begin true (.scan .never)], .replicate 6 (.answer true),
      [.begin false (.recordProgress .never "0" ⟨"0", 5, "5", .epoch⟩)], .replicate 2 (.answer false)]

theorem reachable_overtaken :
    Reachable (.pair .bucket) (fun _ => Action.IsWork) (.ofPartition "0") overtaken :=
  reachable_play (by simp [Cue.IsAllowed, Action.IsWork])

theorem losses_are_true_overtaken :
    (∃ ev older, overtaken.world.history = ev :: older ∧ ev.request.loss? = some "0" ∧
      FoundLost "a" "0" ev.number older) ∧
    ∃ ret ∈ overtaken.returns, ret.lostProgress? = some ("0", "0") ∧
      FoundLost "a" "0" ret.number overtaken.world.history := by
  obtain ⟨hgiven, hfailed⟩ := losses_are_true (fun _ => rfl) reachable_overtaken
  have hlatest : overtaken.world.history.head?.any
      (fun ev => ev.who == false && ev.request.loss? == some "0") = true := by
    decide +kernel
  have hback : overtaken.returns.any
      (fun ret => ret.who == false && ret.lostProgress? == some ("0", "0")) = true := by
    decide +kernel
  constructor
  · obtain ⟨ev, hev, hfacts⟩ := (Option.any_eq_true _ _).1 hlatest
    simp only [Bool.and_eq_true, beq_iff_eq] at hfacts
    obtain ⟨older, hhistory⟩ := List.head?_eq_some_iff.1 hev
    have hwork := reachable_overtaken.attainable.may_of_mem (hhistory ▸ List.mem_cons_self)
    have hfound := (hgiven [] ev older "0" hhistory hwork hfacts.2).1
    rw [hfacts.1] at hfound
    exact ⟨ev, older, hhistory, hfacts.2, hfound⟩
  · obtain ⟨ret, hret, hfacts⟩ := List.any_eq_true.1 hback
    simp only [Bool.and_eq_true, beq_iff_eq] at hfacts
    have hfound := (hfailed ret hret "0" "0" hfacts.2).2
    rw [hfacts.1] at hfound
    exact ⟨ret, hret, hfacts.2, hfound⟩

end PartitionHost
