import PartitionHost.Proofs.Bucket.Faultless
import PartitionHost.Proofs.Interleaving.Course
import PartitionHost.Proofs.Lease.Belief
import PartitionHost.Proofs.RecordText

/-!
# What a host holds while others use the bucket

Others may do to a bucket of leases whatever they like, as long as they do not write leases in the name of the
host (`Cluster.Respects`). What an operation of the host does to what it holds is then known from its answer
alone (`Lease.assures_renew`, `assures_acquire` and `assures_release`): above all, a release that is not
cancelled leaves nothing to be held.
-/

namespace PartitionHost

open Record

namespace Bucket

def Reads (b : Bucket) (p : String) (l : Lease) : Prop :=
  ∃ s, b.entries.get? p = some s ∧ decode? s.value = some l

theorem reads_write_self {b : Bucket} {p : String} {l m : Lease} (h : (b.write p (encode l)).Reads p m) :
    m = l := by
  obtain ⟨s, hs, hm⟩ := h
  rw [get?_write, if_pos rfl] at hs
  cases hs
  rw [Lease.decode?_encode] at hm
  split at hm
  · exact (Option.some.inj hm).symm
  · cases hm

theorem reads_write_of_ne {b : Bucket} {p q : String} {value : Bytes} {m : Lease} (hne : q ≠ p) :
    (b.write p value).Reads q m ↔ b.Reads q m := by
  rw [Reads, Reads, get?_write, if_neg hne]

theorem reply_of_absent {name : String} {b : Bucket} (h : b.created = false) {call : Call}
    (hcall : (∃ key, call = .entry key) ∨ ∃ key value revision, call = .update key value revision) :
    reply name b call = (.error (.noBucket name), b) := by
  obtain ⟨created, entries, revision⟩ := b
  obtain rfl : created = false := h
  rcases hcall with ⟨key, rfl⟩ | ⟨key, value, revision, rfl⟩ <;> rfl

theorem reply_empty {b : Bucket} (h : b.created = false → b.entries = .empty) (name : String)
    (call : Call) : (reply name b call).2.created = false → (reply name b call).2.entries = .empty := by
  cases hb : b.created with
  | false =>
      obtain ⟨created, entries, revision⟩ := b
      obtain rfl : created = false := hb
      cases call with
      | ensure => exact nofun
      | drop => exact fun _ => rfl
      | _ => exact fun _ => h rfl
  | true =>
      rw [reply_of_created hb]
      cases call with
      | drop => exact fun _ => rfl
      | create key value =>
          simp only [create]
          split <;> exact fun h => nomatch hb.symm.trans h
      | update key value revision =>
          simp only [update]
          split <;> exact fun h => nomatch hb.symm.trans h
      | delete key =>
          simp only [delete]
          split <;> exact fun h => nomatch hb.symm.trans h
      | _ => exact fun h => nomatch hb.symm.trans h

end Bucket

namespace Cluster

def Holds (c : Cluster) (owner p : String) (l : Lease) : Prop :=
  (c.bucket .leases).Reads p l ∧ l.isHeldBy owner c.now = true

/-- The bucket of leases has a server that may take its time, but does not fail. -/
def Serves (c : Cluster) : Prop :=
  ∃ name b read write,
    c.leases.server = some ⟨name, b, { readLatency := read, writeLatency := write }⟩ ∧
    (b.created = false → b.entries = .empty)

/-- What a host may rely on: nobody else writes leases in its name, or changes what it believes. -/
structure Respects (owner : String) (c c' : Cluster) : Prop where
  now_le : c.now ≤ c'.now
  owned : (c'.member owner).owned = (c.member owner).owned
  serves : c.Serves → c'.Serves
  entry : ∀ p s (l : Lease), (c'.bucket .leases).entries.get? p = some s → decode? s.value = some l →
    l.owner = owner → (c.bucket .leases).entries.get? p = some s

/-- All that a host holds now it held before, except perhaps one partition. -/
structure Spares (owner : String) (but : Option String) (c c' : Cluster) : Prop where
  now_le : c.now ≤ c'.now
  owned : (c'.member owner).owned = (c.member owner).owned
  serves : c'.Serves
  holds : ∀ p l, some p ≠ but → c'.Holds owner p l → c.Holds owner p l

variable {c c' c'' : Cluster} {owner p : String} {but : Option String} {l : Lease}

theorem Holds.owner_eq (h : c.Holds owner p l) : l.owner = owner := (Lease.isHeldBy_iff.1 h.2).2.2

theorem Respects.refl (c : Cluster) (owner : String) : c.Respects owner c :=
  ⟨le_refl _, rfl, id, fun _ _ _ hs _ _ => hs⟩

theorem Respects.trans (h : Respects owner c c') (h' : Respects owner c' c'') : Respects owner c c'' where
  now_le := le_trans h.now_le h'.now_le
  owned := h'.owned.trans h.owned
  serves hc := h'.serves (h.serves hc)
  entry p s l hs hl howner := h.entry p s l (h'.entry p s l hs hl howner) hl howner

theorem isHeldBy_of_le {now now' : Timestamp} (h : l.isHeldBy owner now' = true) (hle : now ≤ now') :
    l.isHeldBy owner now = true := by
  obtain ⟨hnamed, hlive, howner⟩ := Lease.isHeldBy_iff.1 h
  exact Lease.isHeldBy_iff.2 ⟨hnamed, le_trans hle hlive, howner⟩

theorem Respects.holds (h : Respects owner c c') (hl : c'.Holds owner p l) : c.Holds owner p l := by
  obtain ⟨⟨s, hs, hdecode⟩, hheld⟩ := hl
  exact ⟨⟨s, h.entry p s l hs hdecode (Lease.isHeldBy_iff.1 hheld).2.2, hdecode⟩,
    isHeldBy_of_le hheld h.now_le⟩

theorem Respects.eq_of_holds (h : Respects owner c c') {s : Stamped}
    (hs : (c.bucket .leases).entries.get? p = some s) (hl : c'.Holds owner p l) :
    (c'.bucket .leases).entries.get? p = some s ∧ decode? s.value = some l := by
  obtain ⟨⟨s', hs', hdecode⟩, hheld⟩ := hl
  have hsame := h.entry p s' l hs' hdecode (Lease.isHeldBy_iff.1 hheld).2.2
  obtain rfl := Option.some.inj (hs.symm.trans hsame)
  exact ⟨hs', hdecode⟩

theorem Respects.spares (h : Respects owner c c') (hc : c.Serves) (but : Option String) :
    Spares owner but c c' :=
  ⟨h.now_le, h.owned, h.serves hc, fun _ _ _ => h.holds⟩

theorem Spares.trans (h : Spares owner but c c') (h' : Spares owner but c' c'') :
    Spares owner but c c'' where
  now_le := le_trans h.now_le h'.now_le
  owned := h'.owned.trans h.owned
  serves := h'.serves
  holds p l hp hl := h.holds p l hp (h'.holds p l hp hl)

theorem Spares.held (h : Spares owner none c c') (hl : c'.Holds owner p l) : c.Holds owner p l :=
  h.holds p l (Option.some_ne_none p) hl

theorem Spares.weaken (h : Spares owner none c c') (but : Option String) : Spares owner but c c' :=
  ⟨h.now_le, h.owned, h.serves, fun _ _ _ => h.held⟩

/-! ## Calls on a bucket that does not fail -/

theorem bucket_of_server {s : Bucket.Server} (h : c.leases.server = some s) :
    c.bucket .leases = s.bucket := by
  simp only [bucket, server?, h]
  rfl

theorem Serves.entries_eq (h : c.Serves) (hcreated : (c.bucket .leases).created = false) :
    (c.bucket .leases).entries = .empty := by
  obtain ⟨name, b, read, write, hserver, hempty⟩ := h
  rw [bucket_of_server hserver] at hcreated ⊢
  exact hempty hcreated

theorem Called.cases_of_serves {cancel : Cancellation} {call : Bucket.Call} {x : Except Error call.Reply}
    (hc : c.Serves) (h : Called .leases cancel call c x c') : c'.Serves ∧
      (x = .error .cancelled ∧ cancel ≠ .never ∧ c' = c ∨
        ∃ name, call.Alike ((Bucket.reply name (c.bucket .leases) call).1.mapError Bucket.Failure.toError) x ∧
          c'.bucket .leases = (Bucket.reply name (c.bucket .leases) call).2) := by
  obtain ⟨name, b, read, write, hserver, hempty⟩ := hc
  cases h with
  | cancelled hcancel => exact ⟨⟨name, b, read, write, hserver, hempty⟩, .inl ⟨rfl, hcancel, rfl⟩⟩
  | served hx =>
      have hcall := call_of_server (show c.server? .leases = _ from hserver) call
      rw [Bucket.answer_of_latencies] at hcall
      rw [hcall] at hx ⊢
      rw [bucket_of_server hserver]
      exact ⟨⟨name, _, read, write, rfl, Bucket.reply_empty hempty name call⟩, .inr ⟨name, hx, rfl⟩⟩

end Cluster

/-! ## What writes in nobody's name -/

namespace Bucket

theorem Effect.get?_of_named {b b' : Bucket} {cancel : Cancellation} {call : Call}
    {x : Except Error call.Reply} (h : Effect b call x b')
    (hr : (Site.Request.leaseBucket cancel call).IsAnonymous) {p : String} {s : Stamped} {l : Lease}
    (hs : b'.entries.get? p = some s) (hl : decode? s.value = some l) (howner : l.owner ≠ "") :
    b.entries.get? p = some s := by
  cases h with
  | dropped => cases hs
  | @created key value hnone =>
      obtain rfl : value = encode (Lease.unowned key) := hr
      by_cases hp : p = key
      · subst hp
        exact absurd (congrArg Lease.owner (reads_write_self ⟨s, hs, hl⟩)) howner
      · rwa [get?_write, if_neg hp] at hs
  | written => cases hr
  | beaten => cases hr
  | deleted key =>
      rw [get?_delete] at hs
      split at hs
      · cases hs
      · exact hs
  | _ => exact hs

end Bucket

namespace Cluster

variable {c c' : Cluster} {owner : String} {r : Site.Request} {x : r.Answer}

theorem serves_of_server (hc : c.Serves) (h : c'.leases.server = c.leases.server) : c'.Serves := by
  obtain ⟨name, b, read, write, hserver, hempty⟩ := hc
  exact ⟨name, b, read, write, h.trans hserver, hempty⟩

theorem Answers.serves (h : Answers owner c r x c') (hc : c.Serves) : c'.Serves := by
  cases r with
  | leaseBucket cancel call => exact (Called.cases_of_serves hc h).1
  | checkpointBucket cancel call =>
      cases h with
      | served => exact serves_of_server hc rfl
      | cancelled => exact hc
  | leaseTable me op =>
      obtain rfl : c' = (c.leaseTable me op).2 := congrArg Prod.snd h
      exact serves_of_server hc rfl
  | checkpointTable op =>
      obtain rfl : c' = (c.checkpointTable op).2 := congrArg Prod.snd h
      exact serves_of_server hc rfl
  | disown partition =>
      obtain rfl : c' = (c.disown owner partition).2 := congrArg Prod.snd h
      exact serves_of_server hc rfl
  | own partition lease =>
      obtain rfl : c' = c.own owner partition lease := h
      exact serves_of_server hc rfl
  | note n =>
      obtain rfl : c' = { c with notes := n :: c.notes } := h
      exact serves_of_server hc rfl
  | now | elapsed | owned =>
      obtain rfl : c' = c := congrArg Prod.snd h
      exact hc
  | enquire | wait | announce =>
      obtain rfl : c' = c := h
      exact hc

theorem Answers.spares (h : Answers owner c r x c') (hr : r.IsAnonymous) (hc : c.Serves)
    (howner : owner ≠ "") : Spares owner none c c' := by
  have hbeliefs : ∀ t, r.beliefs t = t := by
    intro t
    cases r with
    | own p l => cases hr
    | disown p => cases hr
    | _ => rfl
  refine ⟨le_of_eq h.frame.now.symm, h.frame.owned.trans (hbeliefs _), h.serves hc, fun p l _ hl => ?_⟩
  have heffect := h.effect .leases
  refine ⟨?_, h.frame.now ▸ hl.2⟩
  have hnamed : l.owner ≠ "" := hl.owner_eq ▸ howner
  cases r with
  | leaseBucket cancel call =>
      obtain ⟨s, hs, hdecode⟩ := hl.1
      exact ⟨s, Bucket.Effect.get?_of_named heffect hr hs hdecode hnamed, hdecode⟩
  | _ => exact (show c'.bucket .leases = c.bucket .leases from heffect) ▸ hl.1

theorem assures_of_asks {α : Type} {t : Task Site α} (ht : t.Asks Site.Request.IsAnonymous)
    (hc : c.Serves) (howner : owner ≠ "") :
    t.Assures (Amid (Respects owner) owner) (fun _ c' => Spares owner none c c') c := by
  refine ht.assures ?_ ((Respects.refl c owner).spares hc none)
  rintro r c₁ x c₃ hr ⟨c₂, hrespects, hx⟩ hspares
  have hmid := hspares.trans (hrespects.spares hspares.serves none)
  exact hmid.trans (hx.spares hr hmid.serves howner)

end Cluster

/-! ## Transitions -/

namespace Cluster

variable {c c' : Cluster} {owner p : String} {cancel : Cancellation}

theorem not_holds_of_get?_eq_none (h : (c.bucket .leases).entries.get? p = none) (m : Lease) :
    ¬ c.Holds owner p m := by
  rintro ⟨⟨s, hs, -⟩, -⟩
  rw [h] at hs
  cases hs

theorem Called.cases_of_entry {x : Except Error (Option Entry)} (hc : c.Serves)
    (h : Called .leases cancel (.entry p) c x c') :
    x = .error .cancelled ∧ cancel ≠ .never ∨
      (∃ name, x = .error (.storeNotInitialized name) ∧ (c'.bucket .leases).entries.get? p = none) ∨
      x = .ok (((c'.bucket .leases).entries.get? p).map fun s => ⟨p, s.value, s.revision⟩) := by
  rcases (Called.cases_of_serves hc h).2 with ⟨hx, hcancel, -⟩ | ⟨name, hx, hb⟩
  · exact .inl ⟨hx, hcancel⟩
  · replace hx := hx.eq nofun
    cases hcreated : (c.bucket .leases).created with
    | true =>
        rw [Bucket.reply_of_created hcreated] at hx hb
        exact .inr (.inr (by rw [hx, hb]; rfl))
    | false =>
        rw [Bucket.reply_of_absent hcreated (.inl ⟨p, rfl⟩)] at hx hb
        refine .inr (.inl ⟨name, hx, ?_⟩)
        rw [hb, hc.entries_eq hcreated]
        rfl

theorem Called.cases_of_update {value : Bytes} {revision : Nat} {x : Except Error (Option Nat)}
    (hc : c.Serves) (h : Called .leases cancel (.update p value revision) c x c') :
    x = .error .cancelled ∧ cancel ≠ .never ∧ c' = c ∨
      (∃ name, x = .error (.storeNotInitialized name) ∧
        ∀ q, (c'.bucket .leases).entries.get? q = none) ∨
      (∃ n, x = .ok (some n) ∧ c'.bucket .leases = (c.bucket .leases).write p value) ∨
      (x = .ok none ∧ c'.bucket .leases = c.bucket .leases ∧
        ((c.bucket .leases).entries.get? p).map (·.revision) ≠ some revision) := by
  rcases (Called.cases_of_serves hc h).2 with ⟨hx, hcancel, hsame⟩ | ⟨name, hx, hb⟩
  · exact .inl ⟨hx, hcancel, hsame⟩
  · replace hx := hx.eq nofun
    cases hcreated : (c.bucket .leases).created with
    | true =>
        rw [Bucket.reply_of_created hcreated] at hx hb
        simp only [Bucket.update] at hx hb
        split at hb
        · rename_i hrevision
          rw [if_pos hrevision] at hx
          exact .inr (.inr (.inl ⟨_, hx, hb⟩))
        · rename_i hrevision
          rw [if_neg hrevision] at hx
          exact .inr (.inr (.inr ⟨hx, hb, hrevision⟩))
    | false =>
        rw [Bucket.reply_of_absent hcreated (.inr ⟨p, value, revision, rfl⟩)] at hx hb
        refine .inr (.inl ⟨name, hx, fun q => ?_⟩)
        rw [hb, hc.entries_eq hcreated]
        rfl

/-- What a host may hold after it tried to write a lease over that revision of the one it held, if any. -/
theorem Called.holds_of_update {l : Lease} {revision : Nat} {x : Except Error (Option Nat)}
    (hc : c.Serves) (h : Called .leases cancel (.update p (encode l) revision) c x c')
    (hread : ∀ m, c.Holds owner p m →
      ((c.bucket .leases).entries.get? p).map (·.revision) = some revision) :
    x = .error .cancelled ∧ cancel ≠ .never ∧ c' = c ∨
      (∃ name, x = .error (.storeNotInitialized name) ∧ ∀ m, ¬ c'.Holds owner p m) ∨
      (∃ n, x = .ok (some n) ∧ ∀ m, c'.Holds owner p m → m = l) ∨
      (x = .ok none ∧ ∀ m, ¬ c'.Holds owner p m) := by
  have hnow := (Called.affects h).now
  rcases Called.cases_of_update hc h with hx | ⟨name, hx, hnone⟩ | ⟨n, hx, hb⟩ | ⟨hx, hb, hstale⟩
  · exact .inl hx
  · exact .inr (.inl ⟨name, hx, not_holds_of_get?_eq_none (hnone p)⟩)
  · exact .inr (.inr (.inl ⟨n, hx, fun m hm => Bucket.reads_write_self (hb ▸ hm.1)⟩))
  · exact .inr (.inr (.inr ⟨hx, fun m hm => hstale (hread m ⟨hb ▸ hm.1, hnow ▸ hm.2⟩)⟩))

theorem Answers.spares_of_update {value : Bytes} {revision : Nat} {x : Except Error (Option Nat)}
    (h : Answers owner c (.leaseBucket cancel (.update p value revision)) x c') (hc : c.Serves) :
    Spares owner (some p) c c' := by
  refine ⟨le_of_eq h.frame.now.symm, h.frame.owned, h.serves hc, fun q l hne hl => ?_⟩
  refine ⟨?_, h.frame.now ▸ hl.2⟩
  rcases Called.cases_of_update hc h with
    ⟨-, -, rfl⟩ | ⟨name, -, hnone⟩ | ⟨n, -, hb⟩ | ⟨-, hb, -⟩
  · exact hl.1
  · exact absurd hl (not_holds_of_get?_eq_none (hnone q) l)
  · exact (Bucket.reads_write_of_ne fun h => hne (congrArg some h)).1 (hb ▸ hl.1)
  · exact hb ▸ hl.1

end Cluster

namespace Lease.Bucketed

open Cluster

variable {c : Cluster} {owner p : String} {cancel : Cancellation}
  {next : Lease → Timestamp → Option Lease}

/-- What a host may hold of a partition after a transition, by the answer to it. -/
def Decides (owner : String) (cancel : Cancellation) (p : String)
    (next : Lease → Timestamp → Option Lease) (c : Cluster) :
    Except Error (Lease × Bool) → Cluster → Prop
  | .ok (l', true), c' => (∃ l t, next l t = some l') ∧ ∀ m, c'.Holds owner p m → m = l'
  | .ok (l, false), c' =>
    next l c'.now = none ∧ ∀ m, c'.Holds owner p m → m = l ∧ c.Holds owner p m
  | .error .cancelled, c' => cancel ≠ .never ∧ ∀ m, c'.Holds owner p m → c.Holds owner p m
  | .error _, c' => ∀ m, ¬ c'.Holds owner p m

theorem Decides.of_not_holds {c₁ c' : Cluster} {x : Except Error (Lease × Bool)}
    (h : Decides owner cancel p next c₁ x c') (hnot : ∀ m, ¬ c₁.Holds owner p m) :
    Decides owner cancel p next c x c' := by
  rcases x with e | ⟨l, _ | _⟩
  · cases e with
    | cancelled => exact ⟨h.1, fun m hm => absurd (h.2 m hm) (hnot m)⟩
    | _ => exact h
  · exact ⟨h.1, fun m hm => absurd (h.2 m hm).2 (hnot m)⟩
  · exact h

theorem Decides.not_holds {c' : Cluster} {x : Except Error (Lease × Bool)}
    (h : Decides owner cancel p next c x c')
    (hnext : ∀ l t, next l t = none → l.isHeldBy owner t ≠ true)
    (hx : ∀ l, x ≠ .ok (l, true)) (hcancelled : x ≠ .error .cancelled) (m : Lease) :
    ¬ c'.Holds owner p m := by
  rcases x with e | ⟨l, _ | _⟩
  · cases e with
    | cancelled => exact absurd rfl hcancelled
    | _ => exact h m
  · intro hm
    obtain rfl := (h.2 m hm).1
    exact hnext m _ h.1 hm.2
  · exact absurd rfl (hx l)

/-- Whatever others do meanwhile, the answer to a transition tells what the host may hold after it. -/
theorem assures_transition (howner : owner ≠ "") (p : String)
    (next : Lease → Timestamp → Option Lease) (attempts : Nat) (hc : c.Serves)
    (hlast : attempts = 0 → ∀ m, ¬ c.Holds owner p m) :
    ((transition p next attempts).run.serve (client cancel)).Assures (Amid (Respects owner) owner)
      (fun x c' => Spares owner (some p) c c' ∧ Decides owner cancel p next c x c') c := by
  induction attempts generalizing c with
  | zero => exact ⟨(Respects.refl c owner).spares hc _, hlast rfl⟩
  | succ attempts ih =>
      rw [run_transition_succ, serve_client_call]
      rintro x c₂ ⟨c₁, hbefore, hx⟩
      have hspares := (hbefore.spares hc none).trans (hx.spares trivial (hbefore.serves hc) howner)
      rcases Called.cases_of_entry (hbefore.serves hc) hx with
        ⟨rfl, hcancel⟩ | ⟨name, rfl, hnone⟩ | rfl
      · exact ⟨hspares.weaken _, hcancel, fun _ => hspares.held⟩
      · exact ⟨hspares.weaken _, not_holds_of_get?_eq_none hnone⟩
      · cases hs : (c₂.bucket .leases).entries.get? p with
        | none =>
            simp only [Option.map_none]
            exact ⟨hspares.weaken _, not_holds_of_get?_eq_none hs⟩
        | some s =>
            simp only [Option.map_some]
            cases hl : decode? (α := Lease) s.value with
            | none =>
                refine ⟨hspares.weaken _, fun m hm => ?_⟩
                cases hl.symm.trans ((Respects.refl c₂ owner).eq_of_holds hs hm).2
            | some l =>
                simp only [serve_client_now]
                rintro t c₃ ⟨_, hclock, ht⟩
                cases ht
                have hspares₃ := hspares.trans (hclock.spares hspares.serves none)
                cases hnext : next l c₃.now with
                | none =>
                    simp only [hnext]
                    refine ⟨hspares₃.weaken _, hnext, fun m hm => ⟨?_, hspares₃.held hm⟩⟩
                    exact Option.some.inj ((hclock.eq_of_holds hs hm).2.symm.trans hl)
                | some l' =>
                    simp only [hnext, serve_client_call]
                    rintro y c₅ ⟨c₄, hwrite, hy⟩
                    have hspares₄ := hspares₃.trans (hwrite.spares hspares₃.serves none)
                    have hspares₅ := (hspares₄.weaken (some p)).trans (hy.spares_of_update hspares₄.serves)
                    have hread (m : Lease) (hm : c₄.Holds owner p m) :
                        ((c₄.bucket .leases).entries.get? p).map (·.revision) = some s.revision := by
                      rw [((hclock.trans hwrite).eq_of_holds hs hm).1]
                      rfl
                    rcases Called.holds_of_update hspares₄.serves hy hread with
                      ⟨rfl, hcancel, rfl⟩ | ⟨name, rfl, hnone⟩ | ⟨n, rfl, hwritten⟩ | ⟨rfl, hnot⟩
                    · exact ⟨hspares₅, hcancel, fun _ => hspares₄.held⟩
                    · exact ⟨hspares₅, hnone⟩
                    · exact ⟨hspares₅, ⟨l, _, hnext⟩, hwritten⟩
                    · refine (ih hspares₅.serves fun _ => hnot).imp fun x c' ⟨h, hdecides⟩ => ?_
                      exact ⟨hspares₅.trans h, hdecides.of_not_holds hnot⟩

end Lease.Bucketed

/-! ## What an operation of the host leaves it -/

namespace Equipment

open Cluster Lease

variable {e : Equipment} {c : Cluster} {cancel : Cancellation}

theorem assures_renew (hleases : e.leases = .bucket) (howner : e.me.owner ≠ "") (hc : c.Serves)
    (p : String) :
    (e.lease cancel (.renew p)).Assures (Amid (Respects e.me.owner) e.me.owner)
      (fun x c' => Spares e.me.owner (some p) c c' ∧
        ((∀ l, x ≠ .ok (l, true)) → x ≠ .error .cancelled → ∀ m, ¬ c'.Holds e.me.owner p m) ∧
        (x = .error .cancelled → ∀ m, c'.Holds e.me.owner p m → c.Holds e.me.owner p m)) c := by
  rw [lease_of_bucket hleases]
  refine (Bucketed.assures_transition howner p _ _ hc (fun h => absurd h (by decide))).imp ?_
  rintro x c' ⟨hspares, h⟩
  refine ⟨hspares, h.not_holds fun l t hnone hheld => ?_, ?_⟩
  · cases hnone.symm.trans (renew_eq_some.2 ⟨hheld, rfl⟩)
  · rintro rfl
    exact h.2

theorem assures_release (hleases : e.leases = .bucket) (howner : e.me.owner ≠ "") (hc : c.Serves)
    (p : String) :
    (e.lease cancel (.release p)).Assures (Amid (Respects e.me.owner) e.me.owner)
      (fun x c' => Spares e.me.owner (some p) c c' ∧
        (x ≠ .error .cancelled → ∀ m, ¬ c'.Holds e.me.owner p m) ∧
        (x = .error .cancelled → cancel ≠ .never ∧
          ∀ m, c'.Holds e.me.owner p m → c.Holds e.me.owner p m)) c := by
  rw [lease_of_bucket hleases, Bucketed.perform, Task.run_bind, Task.serve_bind, Task.assures_bind]
  refine (Bucketed.assures_transition howner p _ _ hc (fun h => absurd h (by decide))).imp ?_
  rintro (error | ⟨l, _ | _⟩) c' ⟨hspares, h⟩
  · cases error with
    | cancelled => exact ⟨hspares, fun hx => absurd rfl hx, fun _ => h⟩
    | _ => exact ⟨hspares, fun _ => h, by rintro ⟨⟩⟩
  · refine ⟨hspares, fun _ m hm => ?_, by rintro ⟨⟩⟩
    obtain rfl := (h.2 m hm).1
    cases h.1.symm.trans (release_eq_some.2 ⟨hm.2, rfl⟩)
  · refine ⟨hspares, fun _ m hm => ?_, by rintro ⟨⟩⟩
    obtain ⟨⟨l₀, t, hnext⟩, hsame⟩ := h
    obtain rfl := hsame m hm
    obtain ⟨-, rfl⟩ := release_eq_some.1 hnext
    exact howner hm.owner_eq.symm

/--
The lease that a host acquires is its own, and the only one of its partition that it holds; where it
acquires none, it holds nothing new.
-/
theorem assures_acquire (hleases : e.leases = .bucket) (howner : e.me.owner ≠ "") (hc : c.Serves)
    (p : String) :
    (e.lease cancel (.acquire p)).Assures (Amid (Respects e.me.owner) e.me.owner)
      (fun x c' => Spares e.me.owner (some p) c c' ∧
        (∀ l, x = .ok (l, true) → l.owner = e.me.owner ∧ ∀ m, c'.Holds e.me.owner p m → m = l) ∧
        ((∀ l, x ≠ .ok (l, true)) → ∀ m, c'.Holds e.me.owner p m → c.Holds e.me.owner p m)) c := by
  rw [lease_of_bucket hleases, Bucketed.perform, Bucketed.run_acquire, Task.serve_bind,
    Task.assures_bind]
  refine (Bucketed.assures_transition howner p _ _ hc (fun h => absurd h (by decide))).imp ?_
  rintro x c₁ ⟨hspares, h⟩
  split
  · -- The lease kept changing, so the host did not hold it; reading it once more changes nothing.
    have hnot : ∀ m, ¬ c₁.Holds e.me.owner p m := h
    rw [Bucketed.run_read, Task.ask_bind, serve_client_call]
    rintro y c₃ ⟨c₂, hrespects, hy⟩
    have hlater := (hrespects.spares hspares.serves none).trans
      (hy.spares trivial (hrespects.serves hspares.serves) howner)
    have hspares₃ := hspares.trans (hlater.weaken _)
    have hnone : ∀ m, ¬ c₃.Holds e.me.owner p m := fun m hm => hnot m (hlater.held hm)
    rcases y with _ | _ | entry
    · exact ⟨hspares₃, (by rintro _ ⟨⟩), fun _ m hm => absurd hm (hnone m)⟩
    · exact ⟨hspares₃, (by rintro _ ⟨⟩), fun _ m hm => absurd hm (hnone m)⟩
    · simp only
      cases decode? (α := Lease) entry.value with
      | none => exact ⟨hspares₃, (by rintro _ ⟨⟩), fun _ m hm => absurd hm (hnone m)⟩
      | some l => exact ⟨hspares₃, (by rintro _ ⟨⟩), fun _ m hm => absurd hm (hnone m)⟩
  · rename_i error hconflict
    refine ⟨hspares, (by rintro _ ⟨⟩), fun _ m hm => ?_⟩
    cases error with
    | cancelled => exact h.2 m hm
    | _ => exact absurd hm (h m)
  · rename_i a
    obtain ⟨l, _ | _⟩ := a
    · exact ⟨hspares, (by rintro _ ⟨⟩), fun _ m hm => (h.2 m hm).2⟩
    · refine ⟨hspares, fun l' hl' => ?_, fun hx => absurd rfl (hx l)⟩
      cases hl'
      obtain ⟨⟨l₀, t, hnext⟩, hsame⟩ := h
      obtain ⟨-, rfl⟩ := acquire_eq_some.1 hnext
      exact ⟨rfl, hsame⟩

end Equipment

end PartitionHost
