import PartitionHost.Proofs.Host.Scene
import PartitionHost.Proofs.Lease.Custody
import PartitionHost.Proofs.Lease.Holding

/-!
# Operations on leases that nobody disturbs

While the clock stands still and nobody else changes anything that is seen (`Cluster.Calm`), an operation
comes to what its transition makes of the lease that is stored (`Equipment.assures_transited`), in a register
and in a bucket that does not fail alike. Whatever else is asked for leaves the stored leases as they are
(`Equipment.assures_gentle`).
-/

namespace PartitionHost

open Record

/-! ## Calm -/

namespace Cluster

/-- Others change nothing that is seen, the clock does not move, and no bucket comes to fail. -/
structure Calm (c c' : Cluster) : Prop where
  rests : c.Rests c'
  serves : c.Serves → c'.Serves

def Ready (kind : Site.StoreKind) (c : Cluster) : Prop := kind = .bucket → c.Serves

def Shows (kind : Site.StoreKind) (c : Cluster) (p : String) (l : Lease) : Prop :=
  match kind with
  | .register => c.Keeps .register p l
  | .bucket => (c.bucket .leases).Reads p l

/-- No time has passed, and all stored leases are where they were, except perhaps one. -/
structure Upholds (kind : Site.StoreKind) (but : Option String) (c c' : Cluster) : Prop where
  now_eq : c'.now = c.now
  ready : c.Ready kind → c'.Ready kind
  keeps : ∀ p l, some p ≠ but → c.Keeps kind p l → c'.Keeps kind p l

variable {kind : Site.StoreKind} {but : Option String} {c c' c'' : Cluster} {p : String} {l l' : Lease}

theorem Upholds.refl (kind : Site.StoreKind) (c : Cluster) : Upholds kind none c c :=
  ⟨rfl, id, fun _ _ _ => id⟩

theorem Upholds.trans (h : Upholds kind but c c') (h' : Upholds kind but c' c'') : Upholds kind but c c'' where
  now_eq := h'.now_eq.trans h.now_eq
  ready hc := h'.ready (h.ready hc)
  keeps p l hp hl := h'.keeps p l hp (h.keeps p l hp hl)

theorem Upholds.weaken (h : Upholds kind none c c') (but : Option String) : Upholds kind but c c' :=
  ⟨h.now_eq, h.ready, fun p l _ => h.keeps p l (Option.some_ne_none p)⟩

theorem Calm.upholds (h : Calm c c') (kind : Site.StoreKind) : Upholds kind none c c' :=
  ⟨h.rests.2, fun hc hkind => h.serves (hc hkind), fun _ _ _ => (Lease.Drifts.keeps h.rests.1).2⟩

theorem Calm.shows (h : Calm c c') : c'.Shows kind p l ↔ c.Shows kind p l := by
  cases kind with
  | register =>
      change c'.Keeps .register p l ↔ c.Keeps .register p l
      exact Lease.Drifts.keeps h.rests.1
  | bucket => simp only [Shows, h.rests.1.bucket]

theorem Shows.of_keeps (h : c.Shows kind p l) (hl : c.Keeps kind p l') :
    l = l' ∧ (kind = .bucket → l'.epoch < 1 <<< 64) := by
  cases kind with
  | register =>
      have h : c.Keeps .register p l := h
      exact ⟨Lease.keeps_unique h hl, nofun⟩
  | bucket =>
      obtain ⟨s, hs, hdecode⟩ := h
      have hvalue : some s.value = some (encode l') := by
        rw [← hl, Bucket.value?, hs]
        rfl
      rw [Option.some.inj hvalue, Lease.decode?_encode] at hdecode
      split at hdecode
      · rename_i hepoch
        exact ⟨(Option.some.inj hdecode).symm, fun _ => hepoch⟩
      · cases hdecode

theorem Keeps.shows (h : c.Keeps kind p l) (hepoch : kind = .bucket → l.epoch < 1 <<< 64) :
    c.Shows kind p l := by
  cases kind with
  | register => exact h
  | bucket =>
      obtain ⟨s, hs, hvalue⟩ := Option.map_eq_some_iff.1 h
      exact ⟨s, hs, by rw [hvalue, Lease.decode?_encode, if_pos (hepoch rfl)]⟩

end Cluster

/-! ## What leaves the leases alone -/

/-- Whether an operation leaves all leases that are stored as they are. -/
def Lease.Operation.IsGentle : Lease.Operation → Prop
  | .storeExists | .ensureStore | .list | .ensure _ => True
  | _ => False

theorem Lease.Operation.IsGentle.transition?_eq_none {op : Lease.Operation} (h : op.IsGentle)
    (me : Lease.Claimant) : op.transition? me = none := by
  cases op <;> first | rfl | cases h

def Lease.Operation.Deletes : Lease.Operation → Prop
  | .deleteStore | .delete _ => True
  | _ => False

theorem Lease.Operation.cases_of_not_deletes {op : Lease.Operation} (h : ¬ op.Deletes)
    (me : Lease.Claimant) : op.IsGentle ∨ ∃ p next, op.transition? me = some (p, next) := by
  cases op with
  | deleteStore => exact absurd trivial h
  | delete p => exact absurd trivial h
  | acquire p => exact .inr ⟨_, _, rfl⟩
  | renew p => exact .inr ⟨_, _, rfl⟩
  | release p => exact .inr ⟨_, _, rfl⟩
  | update p => exact .inr ⟨_, _, rfl⟩
  | _ => exact .inl trivial

def Site.Request.IsGentle : Site.Request → Prop
  | .leaseTable _ op => op.IsGentle
  | .leaseBucket _ (.update _ _ _) | .leaseBucket _ (.delete _) | .leaseBucket _ .drop => False
  | _ => True

def Host.Request.IsGentle : Host.Request → Prop
  | .lease _ op => op.IsGentle
  | _ => True

theorem Site.Request.isGentle_of_not {r : Site.Request} (h : ¬ r.IsOfLeases) : r.IsGentle := by
  cases r with
  | leaseTable me op => exact absurd trivial h
  | leaseBucket cancel call => exact absurd trivial h
  | _ => trivial

namespace Bucket

theorem Effect.stores_of_gentle {b b' : Bucket} {cancel : Cancellation} {call : Call}
    {x : Except Error call.Reply} (h : Effect b call x b')
    (hr : (Site.Request.leaseBucket cancel call).IsGentle) {p : String} {l : Lease}
    (hl : b.Stores p l) : b'.Stores p l := by
  cases h with
  | dropped => cases hr
  | @created key value hnone =>
      have hne : p ≠ key := by
        rintro rfl
        rw [Stores, value?, hnone] at hl
        cases hl
      rw [Stores, value?, get?_write, if_neg hne]
      exact hl
  | written => cases hr
  | beaten => cases hr
  | deleted key => cases hr
  | _ => exact hl

theorem Effect.eq_of_entry {b b' : Bucket} {key : String} {x : Except Error (Option Entry)}
    (h : Effect b (.entry key) x b') : b' = b := by
  cases h <;> rfl

end Bucket

open Cluster

variable {kind : Site.StoreKind} {c c' : Cluster} {host p : String} {l : Lease}

namespace Lease

theorem Register.keeps_of_gentle {me : Claimant} {now : Timestamp} {op : Operation} (h : op.IsGentle)
    {t : Table Lease} (hl : t.get? p = some l) :
    ∃ t', (perform me now (some t) op).2 = some t' ∧ t'.get? p = some l := by
  have hkept : _ ∨ _ ∨ _ := @kept_or p l me now op t hl
  rcases hkept with hkept | hdeleted | ⟨next, l', hop, -⟩
  · exact hkept
  · rcases hdeleted with rfl | rfl <;> cases h
  · cases (h.transition?_eq_none me).symm.trans hop

end Lease

namespace Cluster

theorem Answers.upholds {r : Site.Request} {x : r.Answer} (h : Answers host c r x c')
    (hr : r.IsGentle) (kind : Site.StoreKind) : Upholds kind none c c' where
  now_eq := h.frame.now
  ready hc hkind := h.serves (hc hkind)
  keeps p l _ hl := by
    cases kind with
    | register =>
        obtain ⟨t, ht, hl⟩ := hl
        by_cases hop : ∃ me op, r = .leaseTable me op
        · obtain ⟨me, op, rfl⟩ := hop
          obtain rfl : c' = (c.leaseTable me op).2 := congrArg Prod.snd h
          obtain ⟨t', ht', hl'⟩ := Lease.Register.keeps_of_gentle hr hl
          refine ⟨t', ?_, hl'⟩
          change (Lease.Register.perform me c.now c.leases.register op).2 = _
          rw [ht, ht']
        · refine ⟨t, (Lease.register_eq_of_not h ?_).trans ht, hl⟩
          exact fun me op hr => hop ⟨me, op, hr⟩
    | bucket =>
        have heffect := h.effect .leases
        cases r with
        | leaseBucket cancel call => exact Bucket.Effect.stores_of_gentle heffect hr hl
        | _ =>
            have hsame : c'.bucket .leases = c.bucket .leases := heffect
            exact (congrArg (Bucket.Stores · p l) hsame).mpr hl

end Cluster

namespace Equipment

variable (e : Equipment)

theorem asks_gentle_lease {cancel : Cancellation} {op : Lease.Operation} (h : op.IsGentle) :
    (e.lease cancel op).Asks Site.Request.IsGentle := by
  have hdiscipline : (e.lease cancel op).Along (Lease.discipline e.me (op = ·)) (fun _ _ => True) [] :=
    e.along_lease rfl []
  refine hdiscipline.asks fun past r hr => ?_
  cases r with
  | leaseTable me op' =>
      obtain ⟨-, rfl⟩ := hr
      exact h
  | leaseBucket cancel' call =>
      cases call with
      | update key value revision =>
          obtain ⟨op', rfl, next, l, l', older, cancel', en, t, hop, -⟩ := hr
          cases (h.transition?_eq_none e.me).symm.trans hop
      | delete key =>
          obtain rfl : op = .delete key := hr
          cases h
      | drop =>
          obtain rfl : op = .deleteStore := hr
          cases h
      | _ => trivial
  | _ => trivial

theorem asks_gentle_serve (r : Host.Request) (h : r.IsGentle) : (e.serve r).Asks Site.Request.IsGentle := by
  cases r with
  | lease cancel op => exact e.asks_gentle_lease h
  | checkpoint cancel op =>
      exact (e.asks_checkpoint cancel op).mono fun _ h => Site.Request.isGentle_of_not h.1
  | hub cancel =>
      exact (Site.asks_enquire e.patience cancel _).mono fun _ h => Site.Request.isGentle_of_not h.1
  | range cancel partition =>
      exact (Site.asks_enquire e.patience cancel _).mono fun _ h => Site.Request.isGentle_of_not h.1
  | _ => exact ⟨trivial, fun _ => trivial⟩

theorem assures_upholds {α : Type} {t : Task Site α} (ht : t.Asks Site.Request.IsGentle)
    (kind : Site.StoreKind) (c : Cluster) :
    t.Assures (Amid Calm host) (fun _ c' => Upholds kind none c c') c := by
  refine ht.assures ?_ (Upholds.refl kind c)
  rintro r c₁ x c₃ hr ⟨c₂, hcalm, hx⟩ hkeeps
  exact (hkeeps.trans (hcalm.upholds kind)).trans (hx.upholds hr kind)

theorem assures_gentle (r : Host.Request) (h : r.IsGentle) (kind : Site.StoreKind) (c : Cluster) :
    (e.serve r).Assures (Amid Calm e.me.owner) (fun _ c' => Upholds kind none c c') c :=
  assures_upholds (e.asks_gentle_serve r h) kind c

end Equipment

/-! ## Transitions -/

namespace Cluster

theorem Called.writes_or {cancel : Cancellation} {s : Stamped}
    {x : Except Error (Option Nat)} (hc : c.Serves)
    (h : Called .leases cancel (.update p (encode l) s.revision) c x c')
    (hs : (c.bucket .leases).entries.get? p = some s) :
    x = .error .cancelled ∧ cancel ≠ .never ∧ Upholds .bucket none c c' ∨
      ∃ n, x = .ok (some n) ∧ Upholds .bucket (some p) c c' ∧ c'.Keeps .bucket p l := by
  rcases Called.cases_of_update hc h with
    ⟨hx, hcancel, rfl⟩ | ⟨name, rfl, hnone⟩ | ⟨n, hx, hb⟩ | ⟨-, -, hstale⟩
  · exact .inl ⟨hx, hcancel, .refl _ _⟩
  · have hnone := hnone p
    rw [(Called.affects h).effect.eq_of_error, hs] at hnone
    cases hnone
  · refine .inr ⟨n, hx, ⟨(Called.affects h).now, fun _ _ => (Called.cases_of_serves hc h).1, ?_⟩, ?_⟩
    · intro q m hq hm
      change (c'.bucket .leases).value? q = _
      rw [hb, Bucket.value?, Bucket.get?_write, if_neg fun h => hq (congrArg some h)]
      exact hm
    · change (c'.bucket .leases).value? p = _
      rw [hb, Bucket.value?, Bucket.get?_write, if_pos rfl]
      rfl
  · exact absurd (congrArg (Option.map (·.revision)) hs) hstale

end Cluster

namespace Lease

/-- What an operation answers of the transition that it comes to; a release does not tell the lease. -/
def Operation.Reports : (op : Operation) → Except Error (Lease × Bool) → Except Error op.Reply → Prop
  | .acquire _, y, x | .renew _, y, x | .update _, y, x => x = y
  | .release _, y, x => x = y.map (·.2)
  | _, _, _ => False

/-- The four ways in which a transition can end that nobody disturbs. -/
inductive Transited (kind : Site.StoreKind) (p : String) (next : Lease → Timestamp → Option Lease)
    (cancel : Cancellation) (c : Cluster) : Except Error (Lease × Bool) → Cluster → Prop where
  | turned {l l' : Lease} {c' : Cluster} (hl : c.Shows kind p l) (hnext : next l c.now = some l')
      (hkeeps : Upholds kind (some p) c c') (hl' : c'.Keeps kind p l') :
      Transited kind p next cancel c (.ok (l', true)) c'
  | refused {l : Lease} {c' : Cluster} (hl : c.Shows kind p l) (hnext : next l c.now = none)
      (hkeeps : Upholds kind none c c') : Transited kind p next cancel c (.ok (l, false)) c'
  /-- There is no lease that can be read. -/
  | failed {e : Error} {c' : Cluster} (hnone : ∀ l, ¬ c.Shows kind p l)
      (hmissing : (∃ q, e = .notFound q) → ∀ l, ¬ c.Keeps kind p l) (hcancelled : e ≠ .cancelled)
      (hconflict : ∀ q, e ≠ .conflict q) (hkeeps : Upholds kind none c c') :
      Transited kind p next cancel c (.error e) c'
  | cancelled {c' : Cluster} (hcancel : cancel ≠ .never) (hkeeps : Upholds kind none c c') :
      Transited kind p next cancel c (.error .cancelled) c'

namespace Transited

variable {next : Lease → Timestamp → Option Lease} {cancel : Cancellation} {c₁ : Cluster}
  {y : Except Error (Lease × Bool)}

theorem of_calm (h : Transited kind p next cancel c₁ y c') (hcalm : c.Calm c₁) :
    Transited kind p next cancel c y c' := by
  have hkeeps := hcalm.upholds kind
  cases h with
  | turned hl hnext hkeeps' hl' =>
      exact .turned (hcalm.shows.1 hl) (hcalm.rests.2 ▸ hnext) ((hkeeps.weaken _).trans hkeeps') hl'
  | refused hl hnext hkeeps' =>
      exact .refused (hcalm.shows.1 hl) (hcalm.rests.2 ▸ hnext) (hkeeps.trans hkeeps')
  | failed hnone hmissing hcancelled hconflict hkeeps' =>
      refine .failed (fun l hl => hnone l (hcalm.shows.2 hl)) (fun he l hl => hmissing he l ?_) hcancelled
        hconflict (hkeeps.trans hkeeps')
      exact hkeeps.keeps p l (Option.some_ne_none p) hl
  | cancelled hcancel hkeeps' => exact .cancelled hcancel (hkeeps.trans hkeeps')

theorem trans (h : Transited kind p next cancel c y c₁) (hkeeps : Upholds kind none c₁ c') :
    Transited kind p next cancel c y c' := by
  cases h with
  | turned hl hnext hkeeps' hl' =>
      exact .turned hl hnext (hkeeps'.trans (hkeeps.weaken _))
        (hkeeps.keeps p _ (Option.some_ne_none p) hl')
  | refused hl hnext hkeeps' => exact .refused hl hnext (hkeeps'.trans hkeeps)
  | failed hnone hmissing hcancelled hconflict hkeeps' =>
      exact .failed hnone hmissing hcancelled hconflict (hkeeps'.trans hkeeps)
  | cancelled hcancel hkeeps' => exact .cancelled hcancel (hkeeps'.trans hkeeps)

theorem not_conflict (h : Transited kind p next cancel c y c') (q : String) : y ≠ .error (.conflict q) := by
  rintro rfl
  cases h with
  | failed hnone hmissing hcancelled hconflict hkeeps => exact hconflict q rfl

end Transited

/-! ### In a register -/

namespace Register

variable {me : Claimant} {now : Timestamp} {op : Operation} {t : Table Lease}
  {next : Lease → Timestamp → Option Lease}

theorem reports_of_perform (hop : op.transition? me = some (p, next)) :
    op.Reports (transition t p (next · now)).1 (perform me now (some t) op).1 := by
  cases op with
  | acquire q => cases hop; rfl
  | renew q => cases hop; rfl
  | release q => cases hop; rfl
  | update q => cases hop; rfl
  | _ => cases hop

theorem reports_of_none (hop : op.transition? me = some (p, next)) :
    op.Reports (.error (.storeNotInitialized storeName)) (perform me now none op).1 := by
  cases op with
  | acquire q => rfl
  | renew q => rfl
  | release q => rfl
  | update q => rfl
  | _ => cases hop

theorem transited_of_leaseTable (hop : op.transition? me = some (p, next)) {x : Except Error op.Reply}
    (hx : (x, c') = c.leaseTable me op) (cancel : Cancellation) :
    ∃ y, op.Reports y x ∧ Transited .register p next cancel c y c' := by
  have hx' : x = (perform me c.now c.leases.register op).1 := congrArg Prod.fst hx
  have hr' : c'.leases.register = (perform me c.now c.leases.register op).2 :=
    congrArg (·.2.leases.register) hx
  have hupholds {but : Option String} (h : ∀ q l, some q ≠ but → c.Keeps .register q l →
      c'.Keeps .register q l) : Upholds .register but c c' := ⟨congrArg (·.2.now) hx, fun _ => nofun, h⟩
  rw [hx']
  cases hr : c.leases.register with
  | none =>
      have hempty (q : String) (l : Lease) : ¬ c.Keeps .register q l := by
        rintro ⟨t, ht, -⟩
        cases hr.symm.trans ht
      refine ⟨_, reports_of_none hop, .failed (hempty p) (fun _ => hempty p) (by simp) (by simp) (hupholds ?_)⟩
      exact fun q l _ hl => absurd hl (hempty q l)
  | some t =>
      refine ⟨_, reports_of_perform hop, ?_⟩
      rw [hr, table_of_perform hop] at hr'
      have hkeeps (q : String) (l : Lease) : c.Keeps .register q l ↔ t.get? q = some l := by
        simp [Cluster.Keeps, hr]
      have hkept {t' : Table Lease} (ht' : c'.leases.register = some t') {q : String} {l : Lease}
          (h : t'.get? q = t.get? q) (hl : c.Keeps .register q l) : c'.Keeps .register q l :=
        ⟨t', ht', h.trans ((hkeeps q l).1 hl)⟩
      cases hl : t.get? p with
      | none =>
          have hnone (l : Lease) : ¬ c.Keeps .register p l := by simp [hkeeps, hl]
          simp only [transition, hl] at hr' ⊢
          exact .failed hnone (fun _ => hnone) (by simp) (by simp) (hupholds fun _ _ _ => hkept hr' rfl)
      | some l =>
          cases hnext : next l c.now with
          | none =>
              rw [transition_eq_of_none hl hnext] at hr' ⊢
              exact .refused ((hkeeps p l).2 hl) hnext (hupholds fun _ _ _ => hkept hr' rfl)
          | some l' =>
              rw [transition_eq_of_some hl hnext] at hr' ⊢
              refine .turned ((hkeeps p l).2 hl) hnext (hupholds fun q m hq => hkept hr' ?_)
                ⟨_, hr', by simp⟩
              rw [Table.get?_insert, if_neg fun h => hq (congrArg some h)]

end Register

/-! ### In a bucket -/

namespace Bucketed

variable {cancel : Cancellation} {next : Lease → Timestamp → Option Lease}

/-- A transition that nobody disturbs reads, decides and writes once. -/
theorem assures_transited {attempts : Nat} (hattempts : 0 < attempts) (hc : c.Serves) :
    ((transition p next attempts).run.serve (client cancel)).Assures (Amid Calm host)
      (fun y c' => Transited .bucket p next cancel c y c') c := by
  obtain ⟨attempts, rfl⟩ := Nat.exists_eq_add_one.2 hattempts
  rw [run_transition_succ, serve_client_call]
  rintro x c₂ ⟨c₁, hbefore, hx⟩
  have hkept : Upholds .bucket none c c₂ :=
    (hbefore.upholds .bucket).trans (Answers.upholds (r := .leaseBucket cancel (.entry p)) hx trivial _)
  have hsame : c₂.bucket .leases = c.bucket .leases :=
    (Called.affects hx).effect.eq_of_entry.trans (hbefore.rests.1.bucket .leases)
  have hnoLease (h : (c₂.bucket .leases).entries.get? p = none) (l : Lease) :
      ¬ c.Shows .bucket p l ∧ ¬ c.Keeps .bucket p l := by
    rw [hsame] at h
    simp [Shows, Cluster.Keeps, Bucket.Reads, Bucket.Stores, Bucket.value?, h]
  rcases Called.cases_of_entry (hbefore.serves hc) hx with ⟨rfl, hcancel⟩ | ⟨name, rfl, hnone⟩ | rfl
  · exact .cancelled hcancel hkept
  · exact .failed (fun l => (hnoLease hnone l).1) (fun _ l => (hnoLease hnone l).2) (by simp) (by simp) hkept
  · cases hs : (c₂.bucket .leases).entries.get? p with
    | none =>
        simp only [Option.map_none]
        exact .failed (fun l => (hnoLease hs l).1) (fun _ l => (hnoLease hs l).2) (by simp) (by simp) hkept
    | some s =>
        simp only [Option.map_some]
        cases hl : decode? (α := Lease) s.value with
        | none =>
            refine .failed ?_ (by rintro ⟨q, ⟨⟩⟩) (by rintro ⟨⟩) (by rintro q ⟨⟩) hkept
            rintro l ⟨s', hs', hl'⟩
            rw [← hsame, hs] at hs'
            cases hs'
            cases hl.symm.trans hl'
        | some l =>
            simp only [serve_client_now]
            rintro t c₃ ⟨c', hclock, ht⟩
            cases ht
            have hshows : c.Shows .bucket p l := ⟨s, hsame ▸ hs, hl⟩
            have hkept₃ := hkept.trans (hclock.upholds .bucket)
            cases hnext : next l c₃.now with
            | none =>
                simp only [hnext]
                exact .refused hshows (hkept₃.now_eq ▸ hnext) hkept₃
            | some l' =>
                simp only [hnext, serve_client_call]
                rintro z c₅ ⟨c₄, hwrite, hz⟩
                have hkept₄ := hkept₃.trans (hwrite.upholds .bucket)
                have hentry : (c₄.bucket .leases).entries.get? p = some s := by
                  rw [hwrite.rests.1.bucket, hclock.rests.1.bucket, hs]
                rcases Called.writes_or (hkept₄.ready (fun _ => hc) rfl) hz hentry with
                  ⟨rfl, hcancel, hend⟩ | ⟨n, rfl, hend, hl'⟩
                · exact .cancelled hcancel (hkept₄.trans hend)
                · exact .turned hshows (hkept₃.now_eq ▸ hnext) ((hkept₄.weaken _).trans hend) hl'

theorem assures_perform {me : Claimant} {op : Operation} (hop : op.transition? me = some (p, next))
    (hc : c.Serves) : ((perform me op).run.serve (client cancel)).Assures (Amid Calm host)
      (fun x c' => ∃ y, op.Reports y x ∧ Transited .bucket p next cancel c y c') c := by
  cases op with
  | acquire q =>
      cases hop
      rw [perform, run_acquire, Task.serve_bind, Task.assures_bind]
      refine (assures_transited (by decide) hc).imp ?_
      rintro y c' h
      rcases y with error | a
      · cases error with
        | conflict key => exact absurd rfl (h.not_conflict key)
        | _ => exact ⟨_, rfl, h⟩
      · exact ⟨_, rfl, h⟩
  | renew q =>
      cases hop
      exact (assures_transited (by decide) hc).imp fun y c' h => ⟨y, rfl, h⟩
  | release q =>
      cases hop
      rw [perform, Task.run_bind, Task.serve_bind, Task.assures_bind]
      refine (assures_transited (by decide) hc).imp ?_
      rintro (error | a) c' h
      · exact ⟨.error error, rfl, h⟩
      · exact ⟨.ok a, rfl, h⟩
  | update q =>
      cases hop
      exact (assures_transited (by decide) hc).imp fun y c' h => ⟨y, rfl, h⟩
  | _ => cases hop

end Bucketed

end Lease

/-! ### In either kind of store -/

namespace Equipment

open Lease

variable {e : Equipment} {op : Operation} {next : Lease → Timestamp → Option Lease}

theorem assures_transited (hop : op.transition? e.me = some (p, next)) (hc : c.Ready e.leases)
    (cancel : Cancellation) : (e.lease cancel op).Assures (Amid Calm e.me.owner)
      (fun x c' => ∃ y, op.Reports y x ∧ Transited e.leases p next cancel c y c') c := by
  cases hleases : e.leases with
  | bucket =>
      rw [lease_of_bucket hleases]
      exact Bucketed.assures_perform hop (hc hleases)
  | register =>
      simp only [lease, hleases]
      rintro x c₂ ⟨c₁, hcalm, hx⟩
      obtain ⟨y, hreports, htransited⟩ := Register.transited_of_leaseTable hop hx cancel
      have hnote (n : Option Note) : (Site.noteIfAny n).Asks Site.Request.IsGentle :=
        Site.asks_noteIfAny (fun _ => trivial) n
      change ((Site.noteIfAny _).bind fun _ => .done x).Assures _ _ _
      refine (Task.assures_bind _ _ _ _).2 ((assures_upholds (hnote _) .register _).imp ?_)
      exact fun _ c' hend => ⟨y, hreports, (htransited.of_calm hcalm).trans hend⟩

end Equipment

end PartitionHost
