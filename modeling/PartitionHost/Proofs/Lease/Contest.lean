import PartitionHost.Proofs.Lease.Holding
import PartitionHost.Proofs.Lease.Tenure

/-!
# A lease that many go for at once

Many go for the lease of a partition that is available, and do nothing else; the bucket does not fail. Until
one of them has put its lease there, all of them see the lease that was there (`tries_of_none`); after that
they see the lease of the winner, which nobody replaces before it expires. Whoever writes too late reads
again. So just one of them takes the lease, and all others are answered the lease of the winner
(`one_winner`).
-/

namespace PartitionHost

open Record Cluster

variable {ι : Type}

/-! ## What is asked -/

/-- Whether a request is one of those by which the lease of a partition is acquired. -/
def Site.Request.IsOfContest (p : String) : Site.Request → Prop
  | .now => True
  | .leaseBucket cancel (.entry q) => cancel = .never ∧ q = p
  | .leaseBucket cancel (.update q _ _) => cancel = .never ∧ q = p
  | _ => False

namespace Exchange

def reading (p : String) (x : Except Error (Option Entry)) : Exchange Site :=
  ⟨.leaseBucket .never (.entry p), x⟩

def writing (p : String) (value : Bytes) (revision : Nat) (x : Except Error (Option Nat)) : Exchange Site :=
  ⟨.leaseBucket .never (.update p value revision), x⟩

/-- What is answered at a time from `since` on, while this is stored under the partition. -/
inductive Tries (p : String) (stored : Stamped) (since : Timestamp) : Exchange Site → Prop where
  | now {t : Timestamp} (h : since ≤ t) : Tries p stored since ⟨.now, t⟩
  | read : Tries p stored since (reading p (.ok (some ⟨p, stored.value, stored.revision⟩)))
  | wrote (value : Bytes) {revision : Nat} (h : stored.revision = revision) (n : Nat) :
      Tries p stored since (writing p value revision (.ok (some n)))
  | late (value : Bytes) {revision : Nat} (h : stored.revision ≠ revision) :
      Tries p stored since (writing p value revision (.ok none))

/-- This is not answered while a lease is stored under the partition. -/
def Fails (p : String) (y : Exchange Site) : Prop :=
  ∀ stored since (l : Lease), decode? stored.value = some l → ¬ Tries p stored since y

theorem Tries.not_fails {p : String} {stored : Stamped} {since : Timestamp} {y : Exchange Site} {l : Lease}
    (h : Tries p stored since y) (hl : decode? stored.value = some l) : ¬ y.Fails p :=
  fun hfails => hfails stored since l hl h

theorem fails_of_undecodable {p : String} {e : Entry} (h : decode? (α := Lease) e.value = none) :
    (reading p (.ok (some e))).Fails p := by
  intro stored since l hl htries
  cases htries
  cases h.symm.trans hl

theorem fails_of_unread {p : String} {x : Except Error (Option Entry)} (h : ∀ e, x ≠ .ok (some e)) :
    (reading p x).Fails p := by
  intro stored since l hl htries
  cases htries
  exact h _ rfl

theorem fails_of_unwritten {p : String} {value : Bytes} {revision : Nat} {e : Error} :
    (writing p value revision (.error e)).Fails p := by
  intro stored since l hl htries
  cases htries

/-- A lease is put in the place of the one under the partition. -/
def Writes (p : String) (y : Exchange Site) : Prop := ∃ value, y.Updated .leases p value

theorem Updated.value_eq {store : StoreName} {key : String} {value value' : Bytes} {y : Exchange Site}
    (h : y.Updated store key value) (h' : y.Updated store key value') : value = value' :=
  Option.some.inj (Option.some.inj (h.outcome?_eq.symm.trans h'.outcome?_eq))

end Exchange

open Exchange

theorem Cluster.serves_iff {c : Cluster} : c.Serves ↔ c.leases.server.any (fun s =>
    s.faults = { readLatency := s.faults.readLatency, writeLatency := s.faults.writeLatency } &&
      (s.bucket.created || s.bucket.entries = .empty)) = true := by
  constructor
  · rintro ⟨name, b, read, write, hserver, hempty⟩
    rw [hserver]
    cases hcreated : b.created with
    | true => simp [hcreated]
    | false => simp [hempty hcreated]
  · intro h
    obtain ⟨⟨name, b, faults⟩, hserver, h⟩ := (Option.any_eq_true _ _).1 h
    simp only [Bool.and_eq_true, Bool.or_eq_true, decide_eq_true_eq] at h
    obtain ⟨hfaults, hb⟩ := h
    refine ⟨name, b, faults.readLatency, faults.writeLatency, hfaults ▸ hserver, fun hcreated => ?_⟩
    exact hb.resolve_left (by simp [hcreated])

instance (c : Cluster) : Decidable c.Serves := decidable_of_iff _ Cluster.serves_iff.symm

namespace Lease

/-- A call was refused this lease: it read it and it was not available, or read it after having been late. -/
def Refused (p : String) (l : Lease) (past : List (Exchange Site)) : Prop :=
  ∃ e older, decode? e.value = some l ∧
    ((∃ t, past = ⟨.now, t⟩ :: reading p (.ok (some e)) :: older ∧ l.isAvailable t = false) ∨
      (past = reading p (.ok (some e)) :: older ∧ ∃ e' value, reading p (.ok (some e')) ∈ older ∧
        writing p value e'.revision (.ok none) ∈ older))

/-- What the answer to an acquisition tells, where all that it asks is answered. -/
def Told (p : String) : Option (String × Lease × Bool) → List (Exchange Site) → Prop
  | none, _ => False
  | some (q, _, true), _ => q = p
  | some (q, l, false), past => q = p ∧ Refused p l past

/-! ## What an acquisition asks and answers -/

namespace Bucketed

variable {me : Claimant} {p : String} {past : List (Exchange Site)}

/-- A transition comes to its end with a conflict when it was late, or refused, or with a lease taken. -/
def Attempted (p : String) : Except Error (Lease × Bool) → List (Exchange Site) → Prop
  | .error e, past => (∃ key, e = .conflict key) ∧ ∃ e' value,
      reading p (.ok (some e')) ∈ past ∧ writing p value e'.revision (.ok none) ∈ past
  | .ok (_, true), _ => True
  | .ok (l, false), past => Refused p l past

theorem along_attempts (attempts : Nat)
    (hlate : attempts = 0 → ∃ e value, reading p (.ok (some e)) ∈ past ∧
      writing p value e.revision (.ok none) ∈ past) :
    ((transition p (·.acquire me.owner me.term ·) attempts).run.serve (client .never)).Along
      (fun _ r => Site.Request.IsOfContest p r)
      (fun x past => (∃ y ∈ past, y.Fails p) ∨ Attempted p x past) past := by
  induction attempts generalizing past with
  | zero => exact .inr ⟨⟨p, rfl⟩, hlate rfl⟩
  | succ attempts ih =>
      rw [run_transition_succ, serve_client_call]
      refine ⟨⟨rfl, rfl⟩, ?_⟩
      rintro (e | _ | e)
      · exact .inl ⟨_, List.mem_cons_self, fails_of_unread (by simp)⟩
      · exact .inl ⟨_, List.mem_cons_self, fails_of_unread (by simp)⟩
      · cases hl : decode? (α := Lease) e.value with
        | none =>
            simp only [hl]
            exact .inl ⟨_, List.mem_cons_self, fails_of_undecodable hl⟩
        | some l =>
            simp only [hl, serve_client_now]
            refine ⟨trivial, fun t => ?_⟩
            cases hnext : l.acquire me.owner me.term t with
            | none =>
                simp only [hnext]
                have hnot : l.isAvailable t = false := by simpa [Lease.acquire] using hnext
                exact .inr ⟨e, past, hl, .inl ⟨t, rfl, hnot⟩⟩
            | some l' =>
                simp only [hnext, serve_client_call]
                refine ⟨⟨rfl, rfl⟩, ?_⟩
                rintro (e' | _ | n)
                · exact .inl ⟨_, List.mem_cons_self, fails_of_unwritten⟩
                · exact ih fun _ => ⟨e, encode l', by simp [reading], List.mem_cons_self⟩
                · exact .inr trivial

theorem along_contest : ((acquire me p).run.serve (client .never)).Along
    (fun _ r => Site.Request.IsOfContest p r)
    (fun x past => (∃ y ∈ past, y.Fails p) ∨
      Told p ((Action.lease .never (.acquire p)).acquired? x) past) [] := by
  rw [run_acquire, Task.serve_bind, Task.along_bind]
  refine (along_attempts Bucket.Client.maxAttempts nofun).mono (fun _ _ => id) fun x past hx => ?_
  split
  · rw [run_read, Task.ask_bind, serve_client_call]
    refine ⟨⟨rfl, rfl⟩, ?_⟩
    rintro (e | _ | e)
    · exact .inl ⟨_, List.mem_cons_self, fails_of_unread (by simp)⟩
    · exact .inl ⟨_, List.mem_cons_self, fails_of_unread (by simp)⟩
    · simp only
      cases hl : decode? (α := Lease) e.value with
      | none => exact .inl ⟨_, List.mem_cons_self, fails_of_undecodable hl⟩
      | some l =>
          rcases hx with ⟨y, hy, hfails⟩ | ⟨-, hlate⟩
          · exact .inl ⟨y, List.mem_cons_of_mem _ hy, hfails⟩
          · exact .inr ⟨rfl, e, past, hl, .inr ⟨rfl, hlate⟩⟩
  · rename_i e hconflict
    rcases hx with hfails | ⟨⟨key, rfl⟩, -⟩
    · exact .inl hfails
    · exact absurd rfl (hconflict key)
  · rename_i answer
    obtain ⟨l, _ | _⟩ := answer
    · exact hx.imp id fun hrefused => ⟨rfl, hrefused⟩
    · exact .inr rfl

end Bucketed

variable {e : Equipment} {a : Action} {p : String}

theorem along_task_contest (hbucket : e.leases = .bucket) (ha : a = .lease .never (.acquire p)) :
    (e.task a).Along (fun _ r => Site.Request.IsOfContest p r)
      (fun x past => (∃ y ∈ past, y.Fails p) ∨ Told p (a.acquired? x) past) [] := by
  subst ha
  rw [e.task_of_bucket hbucket]
  exact Bucketed.along_contest

theorem along_took_iff (hbucket : e.leases = .bucket) (ha : a = .lease .never (.acquire p)) :
    (e.task a).Along (fun _ _ => True)
      (fun x past => ∀ l, a.Took x p l ↔ ∃ y ∈ past, y.Updated .leases p (encode l)) [] := by
  subst ha
  rw [e.task_of_bucket hbucket]
  refine (Bucketed.along_acquire Bucketed.lets_unwritten (List.forall_mem_nil _)).mono
    (fun _ _ _ => trivial) fun x past hx l => ?_
  have hnot : ∀ {past : List (Exchange Site)}, (∀ y ∈ past, y.subject? = none) →
      ¬ ∃ y ∈ past, y.Updated .leases p (encode l) := by
    rintro past hsubject ⟨y, hy, revision, n, hcall⟩
    obtain ⟨cancel, rfl⟩ := Exchange.eq_of_call?_leases hcall
    cases hsubject _ hy
  rcases x with error | ⟨l', _ | _⟩
  · exact ⟨nofun, fun h => absurd h (hnot hx)⟩
  · exact ⟨nofun, fun h => absurd h (hnot hx)⟩
  · obtain ⟨revision, n, older, rfl, -, hnone⟩ := hx
    constructor
    · intro htook
      cases htook
      exact ⟨_, List.mem_cons_self, revision, n, rfl⟩
    · rintro ⟨y, hy, hl⟩
      rcases List.mem_cons.1 hy with rfl | hy
      · exact encode_injective (hl.value_eq ⟨revision, n, rfl⟩) ▸ rfl
      · exact absurd ⟨y, hy, hl⟩ (hnot hnone)

/-! ## What is answered -/

variable {p : String} {fleet : Fleet ι} {init : Cluster} {w : World ι} {stored : Stamped}

theorem tries_of_answers {host : String} {c c' : Cluster} {r : Site.Request} {x : r.Answer}
    (hr : r.IsOfContest p) (hc : c.Serves) (hstored : (c.bucket .leases).entries.get? p = some stored)
    {since : Timestamp} (hsince : since ≤ c.now) (hx : Answers host c r x c') :
    (Exchange.mk (I := Site) r x).Tries p stored since ∧
      (¬ (Exchange.mk (I := Site) r x).Writes p →
        (c'.bucket .leases).entries.get? p = some stored) := by
  have hcreated : (c.bucket .leases).created = true := by
    cases h : (c.bucket .leases).created with
    | true => rfl
    | false =>
        rw [hc.entries_eq h] at hstored
        cases hstored
  cases r with
  | now =>
      cases hx
      exact ⟨.now hsince, fun _ => hstored⟩
  | leaseBucket cancel call =>
      rcases (Called.cases_of_serves hc hx).2 with ⟨-, hcancel, -⟩ | ⟨name, hx, hb⟩
      · cases call <;> first | exact absurd hr.1 hcancel | cases hr
      · rw [Bucket.reply_of_created hcreated] at hx hb
        cases call with
        | entry q =>
            obtain ⟨rfl, rfl⟩ := hr
            obtain rfl : x = .ok (Bucket.entry? (c.bucket .leases) q) := hx.eq nofun
            rw [Bucket.entry?, hstored, hb]
            exact ⟨.read, fun _ => hstored⟩
        | update q value revision =>
            obtain ⟨rfl, rfl⟩ := hr
            replace hx := hx.eq nofun
            simp only [Bucket.update, hstored, Option.map_some, Option.some.injEq] at hx hb
            split at hx
            · rename_i hrevision
              obtain rfl : x = .ok (some ((c.bucket .leases).revision + 1)) := hx
              exact ⟨.wrote value hrevision _, fun h => absurd ⟨value, revision, _, rfl⟩ h⟩
            · rename_i hrevision
              rw [if_neg hrevision] at hb
              obtain rfl : x = .ok none := hx
              exact ⟨.late value hrevision, fun _ => hb ▸ hstored⟩
        | _ => cases hr
  | _ => cases hr

theorem entry_of_updated {host : String} {c c' : Cluster} {y : Exchange Site} {value : Bytes}
    (hx : Answers host c y.request y.answer c') (hy : y.Updated .leases p value) :
    ∃ revision, (c'.bucket .leases).entries.get? p = some ⟨value, revision⟩ := by
  obtain ⟨revision, n, hcall⟩ := hy
  have heffect := hx.effect .leases
  rw [show (Exchange.mk y.request y.answer).call? .leases = _ from hcall] at heffect
  obtain ⟨old, -, -, hwrite⟩ := heffect.of_written
  exact ⟨_, by rw [hwrite, Bucket.get?_write, if_pos rfl]⟩

/-- Until somebody writes, everybody is answered what was stored in the beginning. -/
theorem tries_of_none (hw : w.Grows fleet init)
    (hevents : ∀ ev ∈ w.history, ev.request.IsOfContest p ∧ ev.before.Serves)
    (hstored : (init.bucket .leases).entries.get? p = some stored)
    (hnone : ∀ ev ∈ w.history, ¬ ev.Writes p) {since : Timestamp} (hsince : since ≤ init.now) :
    (w.cluster.bucket .leases).entries.get? p = some stored ∧
      ∀ ev ∈ w.history, ev.Tries p stored since := by
  induction hw with
  | start => exact ⟨hstored, List.forall_mem_nil _⟩
  | drift hw hc ih =>
      rw [hc.bucket]
      exact ih hevents hnone
  | exchange hw g hx ih =>
      obtain ⟨⟨hr, hc⟩, hevents⟩ := List.forall_mem_cons.1 hevents
      obtain ⟨hwrites, hnone⟩ := List.forall_mem_cons.1 hnone
      obtain ⟨hstored, htries⟩ := ih hevents hnone
      obtain ⟨htry, hkept⟩ := tries_of_answers hr hc hstored (le_trans hsince hw.now_le) hx
      exact ⟨hkept hwrites, List.forall_mem_cons.2 ⟨htry, htries⟩⟩

theorem isAvailable_of_le {l : Lease} {t t' : Timestamp} (h : l.isAvailable t = true) (hle : t ≤ t') :
    l.isAvailable t' = true :=
  isAvailable_iff.2 ((isAvailable_iff.1 h).imp id fun hexpired => lt_of_lt_of_le hexpired hle)

/--
Whoever is refused a lease has read it after the first write: before that it would have found the lease
available, or would not have been late.
-/
theorem reading_of_refused {since : Timestamp} {l l₀ : Lease} {newer older : List (Exchange Site)}
    (h : Refused p l (newer ++ older)) (hl₀ : decode? stored.value = some l₀)
    (havailable : l₀.isAvailable since = true) (holder : ∀ y ∈ older, y.Tries p stored since)
    (hclock : ∀ y ∈ newer, ∀ t, y = ⟨.now, t⟩ → since ≤ t) :
    ∃ e, reading p (.ok (some e)) ∈ newer ∧ decode? e.value = some l := by
  obtain ⟨e, past, hl, hlast⟩ := h
  have hread : ∀ {e : Entry}, reading p (.ok (some e)) ∈ older → e.value = stored.value ∧
      e.revision = stored.revision := by
    intro e he
    cases holder _ he
    exact ⟨rfl, rfl⟩
  have hnever : ∀ t, since ≤ t → l.isAvailable t = false → reading p (.ok (some e)) ∉ older := by
    intro t hsince hnot he
    obtain rfl : l = l₀ := Option.some.inj (hl.symm.trans ((hread he).1 ▸ hl₀))
    exact absurd (isAvailable_of_le havailable hsince) (by simp [hnot])
  refine ⟨e, ?_, hl⟩
  rcases hlast with ⟨t, hpast, hnot⟩ | ⟨hpast, e', value, he', hlate⟩
  · rcases List.append_eq_cons_iff.1 hpast with ⟨rfl, rfl⟩ | ⟨newer, rfl, htail⟩
    · have hsince : since ≤ t := by
        cases holder _ List.mem_cons_self with
        | now hsince => exact hsince
      exact absurd (by simp) (hnever t hsince hnot)
    · rcases List.append_eq_cons_iff.1 htail.symm with ⟨rfl, rfl⟩ | ⟨newer, rfl, -⟩
      · exact absurd List.mem_cons_self (hnever t (hclock _ List.mem_cons_self t rfl) hnot)
      · simp
  · rcases List.append_eq_cons_iff.1 hpast with ⟨rfl, rfl⟩ | ⟨newer, rfl, -⟩
    · cases holder _ (List.mem_cons_of_mem _ hlate) with
      | late _ hne => exact absurd (hread (List.mem_cons_of_mem _ he')).2.symm hne
    · exact List.mem_cons_self

/-! ## The contest -/

theorem Turn.of_acquire {older : List (Event ι)} {ev : Event ι} {op : Operation} {l l' : Lease}
    {t : Timestamp} (h : Turn fleet older ev p op stored l t l') {cancel : Cancellation}
    (haction : ev.action = .lease cancel (.acquire p)) : l.isAvailable t = true ∧
      l' = { l with
        owner := (fleet ev.who).me.owner
        expiresAt := t.plus (fleet ev.who).me.term
        epoch := l.epoch + 1 } := by
  have huses := h.uses
  rw [haction] at huses
  obtain rfl : .acquire p = op := huses
  cases h.turns with
  | acquire havailable => exact ⟨havailable, rfl⟩

theorem forall_mem_traceOf (number : Nat) {history : List (Event ι)} {P : Exchange Site → Prop}
    (h : ∀ ev ∈ history, P ev.toExchange) : ∀ y ∈ traceOf number history, P y := by
  intro y hy
  obtain ⟨ev, hev, -, rfl⟩ := mem_traceOf.1 hy
  exact h ev hev

theorem exists_earliest {α : Type} {P : α → Prop} {as : List α} (h : ∃ a ∈ as, P a) :
    ∃ newer a older, as = newer ++ a :: older ∧ P a ∧ ∀ b ∈ older, ¬ P b := by
  induction as with
  | nil => obtain ⟨a, ⟨⟩, -⟩ := h
  | cons a as ih =>
      by_cases hlater : ∃ b ∈ as, P b
      · obtain ⟨newer, b, older, rfl, hb, hnone⟩ := ih hlater
        exact ⟨a :: newer, b, older, rfl, hb, hnone⟩
      · have hnone : ∀ b ∈ as, ¬ P b := fun b hb hP => hlater ⟨b, hb, hP⟩
        obtain ⟨b, hb, hP⟩ := h
        rcases List.mem_cons.1 hb with rfl | hb
        · exact ⟨[], b, as, rfl, hP, hnone⟩
        · exact absurd hP (hnone b hb)

/--
Clients that have names have gone for the lease of a partition, and for nothing else, and all are back. The
lease was available, the bucket was there all the time and did not fail, and whoever took the lease has it
still.
-/
structure Contest [DecidableEq ι] (fleet : Fleet ι) (init : Cluster) (p : String) (l₀ : Lease)
    (s : State ι) : Prop where
  bucket : ∀ i, (fleet i).leases = .bucket
  named : ∀ i, (fleet i).me.owner ≠ ""
  sound : (init.bucket .leases).Sound
  reads : (init.bucket .leases).Reads p l₀
  available : l₀.isAvailable init.now = true
  epoch_lt : l₀.epoch + 1 < 1 <<< 64
  reachable : Reachable fleet (fun _ a => a = .lease .never (.acquire p)) init s
  serves : ∀ ev ∈ s.world.history, ev.before.Serves
  idle : ∀ i, s.busy i = none
  clock : ∀ ret ∈ s.returns, ∀ l, ret.action.Took ret.outcome p l → s.world.cluster.now ≤ l.expiresAt

namespace Contest

variable [DecidableEq ι] {s : State ι} {l₀ : Lease}

theorem events (h : Contest fleet init p l₀ s) :
    ∀ ev ∈ s.world.history, ev.request.IsOfContest p ∧ ev.before.Serves := by
  intro ev hev
  refine ⟨?_, h.serves ev hev⟩
  exact h.reachable.attainable.asked_of_mem
    (fun i a ha => (along_task_contest (h.bucket i) ha).asks fun _ _ => id) hev

theorem told (h : Contest fleet init p l₀ s) {ret : Return ι} (hret : ret ∈ s.returns)
    (htries : ∀ ev ∈ s.world.history, ¬ ev.Fails p) :
    Told p (ret.action.acquired? ret.outcome) (traceOf ret.number s.world.history) := by
  have htold := (h.reachable.attainable.lawful fun i a ha => along_task_contest (h.bucket i) ha).2.2 ret hret
  refine htold.resolve_left ?_
  rintro ⟨y, hy, hfails⟩
  obtain ⟨ev, hev, -, rfl⟩ := mem_traceOf.1 hy
  exact htries ev hev hfails

theorem exists_took (h : Contest fleet init p l₀ s) {ev : Event ι} (hev : ev ∈ s.world.history) {l : Lease}
    (hl : ev.Updated .leases p (encode l)) :
    ∃ ret ∈ s.returns, ret.toEngagement = ev.toEngagement ∧ ret.action.Took ret.outcome p l := by
  have hs := h.reachable.attainable
  rcases hs.orderly.known ev hev with ⟨task, hbusy⟩ | ⟨ret, hret, hsame⟩
  · rw [h.idle] at hbusy
    cases hbusy
  · refine ⟨ret, hret, hsame, ?_⟩
    refine ((hs.lawful fun i a ha => along_took_iff (h.bucket i) ha).2.2 ret hret l).2 ⟨_, ?_, hl⟩
    exact mem_traceOf.2 ⟨ev, hev, (congrArg Engagement.number hsame).symm, rfl⟩

theorem lawful (h : Contest fleet init p l₀ s) : Lawful fleet.discipline s.world.history :=
  (h.reachable.attainable.lawful fun i a _ => (fleet i).along_discipline a).1

theorem turn (h : Contest fleet init p l₀ s) {newer older : List (Event ι)} {ev : Event ι}
    (hhistory : s.world.history = newer ++ ev :: older) (hwrites : ev.Writes p) {l : Lease}
    (hstored : (ev.before.bucket .leases).entries.get? p = some stored)
    (hl : decode? stored.value = some l) :
    ∃ (t : Timestamp) (l' : Lease), ev.Updated .leases p (encode l') ∧ l.isAvailable t = true ∧
      t ≤ ev.before.now ∧ l'.owner ≠ "" ∧ l'.epoch = l.epoch + 1 := by
  have hw := h.reachable.attainable.grows
  obtain ⟨value, hput⟩ := hwrites
  obtain ⟨op, stored', l₁, t, l', rfl, hturn⟩ := exists_turn hw h.sound h.lawful hhistory hput
  obtain rfl := Option.some.inj (hstored.symm.trans hturn.found)
  obtain rfl := Option.some.inj (hl.symm.trans hturn.decoded)
  have haction : ev.action = .lease .never (.acquire p) :=
    h.reachable.attainable.may_of_mem (by rw [hhistory]; simp)
  obtain ⟨havailable, rfl⟩ := hturn.of_acquire haction
  exact ⟨t, _, hput, havailable, hturn.time_le (hw.before hhistory).1, h.named _, rfl⟩

/-- The first to write has the lease from then on: it is stored, and all that others are answered. -/
theorem exists_win (h : Contest fleet init p l₀ s) {newer older : List (Event ι)} {ev : Event ι}
    (hhistory : s.world.history = newer ++ ev :: older) (hwrites : ev.Writes p)
    (hstored : (ev.before.bucket .leases).entries.get? p = some stored)
    (hl₀ : decode? stored.value = some l₀) :
    ∃ (l : Lease) (revision : Nat), ev.Updated .leases p (encode l) ∧ l.epoch = l₀.epoch + 1 ∧
      (s.world.cluster.bucket .leases).entries.get? p = some ⟨encode l, revision⟩ ∧
      (∀ b ∈ newer, ¬ b.Writes p) ∧ ∀ b ∈ newer, b.Tries p ⟨encode l, revision⟩ init.now := by
  have hw := h.reachable.attainable.grows
  obtain ⟨hbefore, c, hx, hafter⟩ := hw.before hhistory
  obtain ⟨t, l, hput, -, -, hnamed, hepoch⟩ := h.turn hhistory hwrites hstored hl₀
  obtain ⟨ret, hret, -, htook⟩ := h.exists_took (by rw [hhistory]; simp) hput
  have hlive := h.clock ret hret l htook
  have hdecode : decode? (encode l) = some l := by
    rw [decode?_encode, if_pos (hepoch ▸ h.epoch_lt)]
  obtain ⟨revision, hwon⟩ := entry_of_updated hx hput
  have hevents : ∀ b ∈ newer, b.request.IsOfContest p ∧ b.before.Serves :=
    fun b hb => h.events b (by rw [hhistory]; exact List.mem_append_left _ hb)
  have hsince : init.now ≤ c.now := hx.frame.now ▸ hbefore.now_le
  have hnone : ∀ b ∈ newer, ¬ b.Writes p := by
    -- The next to write would have found the lease expired, but it has not expired yet.
    intro b hb hsecond
    have hlater : ∃ b ∈ newer, b.Writes p := ⟨b, hb, hsecond⟩
    obtain ⟨newer, ev₂, middle, rfl, hwrites₂, hnone⟩ := exists_earliest hlater
    have hstored₂ := (tries_of_none (hafter.before rfl).1
      (fun b hb => hevents b (List.mem_append_right _ (List.mem_cons_of_mem _ hb))) hwon hnone hsince).1
    rw [List.append_assoc, List.cons_append] at hhistory
    obtain ⟨t₂, l₂, -, havailable, hle, -⟩ := h.turn hhistory hwrites₂ hstored₂ hdecode
    rcases isAvailable_iff.1 havailable with hnameless | hexpired
    · exact hnamed hnameless
    · have hlast := le_trans hle (hw.now_le_of_event hhistory)
      exact absurd (le_trans hlast hlive) (not_le_of_gt hexpired)
  obtain ⟨hfinal, htries⟩ := tries_of_none hafter hevents hwon hnone hsince
  exact ⟨l, revision, hput, hepoch, hfinal, hnone, htries⟩

theorem refused (h : Contest fleet init p l₀ s) (hfails : ∀ ev ∈ s.world.history, ¬ ev.Fails p)
    {ret : Return ι} (hret : ret ∈ s.returns)
    (hnone : ∀ ev ∈ s.world.history, ev.number = ret.number → ¬ ev.Writes p) :
    ∃ l, ret.action.acquired? ret.outcome = some (p, l, false) ∧
      Refused p l (traceOf ret.number s.world.history) := by
  have htold := h.told hret hfails
  cases hanswer : ret.action.acquired? ret.outcome with
  | none =>
      rw [hanswer] at htold
      cases htold
  | some answer =>
      obtain ⟨q, l, _ | _⟩ := answer
      · rw [hanswer] at htold
        obtain ⟨rfl, hrefused⟩ := htold
        exact ⟨l, rfl, hrefused⟩
      · rw [hanswer] at htold
        obtain rfl : q = p := htold
        have hiff := (h.reachable.attainable.lawful fun i a ha =>
          along_took_iff (h.bucket i) ha).2.2 ret hret l
        obtain ⟨y, hy, hput⟩ := hiff.1 hanswer
        obtain ⟨ev, hev, hnumber, rfl⟩ := mem_traceOf.1 hy
        exact absurd ⟨_, hput⟩ (hnone ev hev hnumber)

theorem answer_eq (h : Contest fleet init p l₀ s) {newer older : List (Event ι)} {ev : Event ι}
    (hhistory : s.world.history = newer ++ ev :: older) (hfails : ∀ b ∈ s.world.history, ¬ b.Fails p)
    (hl₀ : decode? stored.value = some l₀)
    (holder : ∀ b ∈ older, ¬ b.Writes p ∧ b.Tries p stored init.now) {won : Stamped} {l : Lease}
    (hl : decode? won.value = some l) (hnewer : ∀ b ∈ newer, ¬ b.Writes p ∧ b.Tries p won init.now)
    {ret : Return ι} (hret : ret ∈ s.returns) (hother : ev.number ≠ ret.number) :
    ret.action.acquired? ret.outcome = some (p, l, false) := by
  obtain ⟨l', hanswer, hrefused⟩ := h.refused hfails hret <| by
    rw [hhistory]
    intro b hb hnumber
    rcases List.mem_append.1 hb with hb | hb
    · exact (hnewer b hb).1
    · rcases List.mem_cons.1 hb with rfl | hb
      · exact absurd hnumber hother
      · exact (holder b hb).1
  have htrace : traceOf ret.number s.world.history =
      traceOf ret.number newer ++ traceOf ret.number older := by
    rw [hhistory]
    simp [traceOf, hother]
  rw [htrace] at hrefused
  have hnewer := forall_mem_traceOf ret.number fun b hb => (hnewer b hb).2
  have holder := forall_mem_traceOf ret.number fun b hb => (holder b hb).2
  obtain ⟨e, he, hl'⟩ := reading_of_refused hrefused hl₀ h.available holder fun y hy t hyt => by
    cases hyt ▸ hnewer y hy with
    | now hsince => exact hsince
  cases hnewer _ he
  exact Option.some.inj (hl'.symm.trans hl) ▸ hanswer

end Contest

/--
Of all who go for an available lease at once, however they are interleaved, just one takes it: all others
are answered the lease of the winner and that they have not taken it, and its epoch is the next one.
-/
theorem one_winner [DecidableEq ι] {s : State ι} {l₀ : Lease} (h : Contest fleet init p l₀ s)
    (hsome : s.returns ≠ []) :
    ∃ ret ∈ s.returns, ∃ l, ret.action.Took ret.outcome p l ∧ l.epoch = l₀.epoch + 1 ∧
      (s.world.cluster.bucket .leases).Stores p l ∧
      ∀ other ∈ s.returns, other.number ≠ ret.number →
        other.action.acquired? other.outcome = some (p, l, false) := by
  have hw := h.reachable.attainable.grows
  obtain ⟨stored, hstored, hl₀⟩ := h.reads
  by_cases hwritten : ∃ ev ∈ s.world.history, ev.Writes p
  · obtain ⟨newer, ev, older, hhistory, hwrites, hfirst⟩ := exists_earliest hwritten
    obtain ⟨hbefore, c, hx, -⟩ := hw.before hhistory
    have hev : ev ∈ s.world.history := by rw [hhistory]; simp
    obtain ⟨hread, holder⟩ := tries_of_none hbefore
      (fun b hb => h.events b (by rw [hhistory]; simp [hb])) hstored hfirst (le_refl _)
    have hwrite := (tries_of_answers (h.events ev hev).1 (h.events ev hev).2 hread hbefore.now_le hx).1
    obtain ⟨l, revision, hput, hepoch, hfinal, hnone, hnewer⟩ := h.exists_win hhistory hwrites hread hl₀
    have hl : decode? (encode l) = some l := by
      rw [decode?_encode, if_pos (hepoch ▸ h.epoch_lt)]
    have hfails : ∀ b ∈ s.world.history, ¬ b.Fails p := by
      rw [hhistory]
      intro b hb
      rcases List.mem_append.1 hb with hb | hb
      · exact (hnewer b hb).not_fails hl
      · rcases List.mem_cons.1 hb with rfl | hb
        · exact hwrite.not_fails hl₀
        · exact (holder b hb).not_fails hl₀
    obtain ⟨ret, hret, hsame, htook⟩ := h.exists_took hev hput
    refine ⟨ret, hret, l, htook, hepoch, by rw [Bucket.Stores, Bucket.value?, hfinal]; rfl, ?_⟩
    intro other hother hne
    refine h.answer_eq hhistory hfails hl₀ (fun b hb => ⟨hfirst b hb, holder b hb⟩) hl
      (fun b hb => ⟨hnone b hb, hnewer b hb⟩) hother fun heq => hne ?_
    exact heq.symm.trans (congrArg Engagement.number hsame).symm
  · -- Nobody has written, so nobody was refused, but somebody is back.
    have hnone : ∀ ev ∈ s.world.history, ¬ ev.Writes p := fun ev hev h => hwritten ⟨ev, hev, h⟩
    have htries := (tries_of_none hw h.events hstored hnone (le_refl _)).2
    obtain ⟨ret, hret⟩ := List.exists_mem_of_ne_nil _ hsome
    obtain ⟨l, -, hrefused⟩ :=
      h.refused (fun b hb => (htries b hb).not_fails hl₀) hret fun b hb _ => hnone b hb
    rw [← List.nil_append (traceOf _ _)] at hrefused
    obtain ⟨e, he, -⟩ := reading_of_refused hrefused hl₀ h.available (forall_mem_traceOf _ htries)
      (List.forall_mem_nil _)
    cases he

/-- Hosts a and b read the lease before either of them has written; b is late and reads again. -/
def race : List (Cue Bool) :=
  [.begin false (.lease .never (.acquire "0")), .begin true (.lease .never (.acquire "0")),
    .answer false, .answer true, .pass (.ofSeconds 1), .answer false, .answer true, .answer true]

theorem contest_race : Contest (.pair .bucket) (.ofPartition "0") "0" (unowned "0")
    (play (.pair .bucket) (.ofPartition "0") race) where
  bucket _ := rfl
  named i := by cases i <;> decide
  sound := Cluster.sound_ofPartition "0" .leases
  reads := ⟨⟨encode (unowned "0"), 1⟩, by decide +kernel, by decide +kernel⟩
  available := rfl
  epoch_lt := by decide
  reachable := reachable_play (by simp [race, Cue.IsAllowed])
  serves := by decide +kernel
  idle i := Option.isNone_iff_eq_none.1 (by revert i; decide +kernel)
  clock := by
    have hclock : (play (.pair .bucket) (.ofPartition "0") race).returns.all
        (fun ret => (ret.action.acquired? ret.outcome).all fun answer => !answer.2.2 ||
          (play (.pair .bucket) (.ofPartition "0") race).world.cluster.now ≤ answer.2.1.expiresAt) =
            true := by
      decide +kernel
    intro ret hret l htook
    have hret := List.all_eq_true.1 hclock ret hret
    rw [show ret.action.acquired? ret.outcome = _ from htook] at hret
    simpa using hret

theorem one_winner_race : ∃ ret ∈ (play (.pair .bucket) (.ofPartition "0") race).returns, ∃ l,
    ret.action.Took ret.outcome "0" l ∧ l.epoch = 1 ∧
      ((play (.pair .bucket) (.ofPartition "0") race).world.cluster.bucket .leases).Stores "0" l ∧
      ∀ other ∈ (play (.pair .bucket) (.ofPartition "0") race).returns, other.number ≠ ret.number →
        other.action.acquired? other.outcome = some ("0", l, false) :=
  one_winner contest_race fun h => absurd (congrArg List.isEmpty h) (by decide +kernel)

end Lease

end PartitionHost
