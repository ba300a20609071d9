import PartitionHost.Proofs.Lease.Holding
import PartitionHost.Proofs.Lease.Keyed
import PartitionHost.Proofs.Lease.Turns

/-!
# What hosts do to each other

Whoever writes leases by the discipline keeps them under their names, and writes none in another one's name.
So other hosts do nothing that a host relies on not to be done (`Lease.heeds` and `Lease.respects`), and what
a host does in a run is a career of that host, whatever the others do meanwhile (`Attainable.career`).
-/

namespace PartitionHost

open Record Cluster

variable {ι : Type} {fleet : Fleet ι} {init : Cluster}

namespace Lease

theorem Change.keyed {older : List (Event ι)} {ev : Event ι} {p : String} {v v' : Option Bytes}
    (h : Change fleet older ev p v v') (hv : ∀ value, v = some value → KeyedBy p value) :
    ∀ value, v' = some value → KeyedBy p value := by
  cases h with
  | kept _ _ => exact hv
  | created _ _ =>
      rintro value ⟨⟩
      exact keyedBy_encode (unowned p)
  | removed _ _ _ => rintro value ⟨⟩
  | turned _ hturn =>
      rintro value ⟨⟩
      have hpartition := hturn.turns.partition_eq.trans (hv _ rfl _ hturn.decoded)
      exact hpartition ▸ keyedBy_encode _

variable {w : World ι} {g : Engagement ι} {r : Site.Request} {x : r.Answer} {c : Cluster} {owner : String}

theorem heeds (hw : w.Grows fleet init) (hsound : (init.bucket .leases).Sound)
    (hx : Answers (fleet g.who).me.owner w.cluster r x c)
    (hlaw : Lawful fleet.discipline (w.record g ⟨r, x⟩ c).history)
    (hother : owner ≠ (fleet g.who).me.owner) : w.cluster.Heeds owner c where
  owned := hx.frame.owned_of_ne owner hother
  keyed hc := ⟨hx.keyed_register hc.register, fun p =>
    (change (hw.exchange g hx) hsound hlaw (List.nil_append _).symm hx p).keyed (hc.bucket p)⟩

theorem respects (hw : w.Grows fleet init) (hsound : (init.bucket .leases).Sound)
    (hx : Answers (fleet g.who).me.owner w.cluster r x c)
    (hlaw : Lawful fleet.discipline (w.record g ⟨r, x⟩ c).history) (hserves : w.cluster.Serves)
    (howner : owner ≠ "") (hother : owner ≠ (fleet g.who).me.owner) :
    Respects owner w.cluster c where
  now_le := le_of_eq hx.frame.now.symm
  owned := hx.frame.owned_of_ne owner hother
  serves := hx.serves
  entry p s l hs hl hname := by
    have heffect := hx.effect .leases
    cases r with
    | leaseBucket cancel call =>
        have hkept (hr : (Site.Request.leaseBucket cancel call).IsAnonymous) :
            (w.cluster.bucket .leases).entries.get? p = some s :=
          Bucket.Effect.get?_of_named heffect hr hs hl (hname ▸ howner)
        cases call with
        | create key value => exact hkept hlaw.1.2
        | update q value revision =>
            rcases Called.cases_of_update hserves hx with
              ⟨-, -, rfl⟩ | ⟨name, -, hnone⟩ | ⟨n, rfl, hb⟩ | ⟨-, hb, -⟩
            · exact hs
            · cases (hnone p).symm.trans hs
            · by_cases hp : p = q
              · subst hp
                obtain ⟨op, stored, l₀, t, l', rfl, hturn⟩ := exists_turn (hw.exchange g hx) hsound hlaw
                  (List.nil_append _).symm (p := p) ⟨revision, n, rfl⟩
                have hreads : (c.bucket .leases).Reads p l := ⟨s, hs, hl⟩
                rw [hb] at hreads
                obtain rfl := Bucket.reads_write_self hreads
                rcases hturn.turns.owner_eq with hme | hnobody
                · exact absurd (hname.symm.trans hme) hother
                · exact absurd (hname.symm.trans hnobody) howner
              · rwa [hb, Bucket.get?_write, if_neg hp] at hs
            · exact hb ▸ hs
        | _ => exact hkept trivial
    | _ => exact (show c.bucket .leases = w.cluster.bucket .leases from heffect) ▸ hs

end Lease

/-! ## Runs -/

variable [DecidableEq ι] {may : ι → Action → Prop}

namespace State

variable (fleet init) (i : ι) (s : State ι)

/-- Where a host stands in a run: its career so far, and how far it has come with what it is busy with. -/
def Stands : Prop :=
  ∃ past ends c, (fleet i).Career (Heeds (fleet i).me.owner) ⟨init, []⟩ ⟨c, past⟩ ends ∧
    ∃ c₁, c₁.Heeds (fleet i).me.owner s.world.cluster ∧
      match s.busy i with
      | none => c₁ = c
      | some o => o.action.IsOfHost ∧ ((fleet i).task o.action).Leads
          (Amid (Heeds (fleet i).me.owner) (fleet i).me.owner) c o.task c₁

variable {fleet init i s}

omit [DecidableEq ι] in
theorem Stands.meanwhile {s' : State ι} (h : s.Stands fleet init i) (hbusy : s'.busy i = s.busy i)
    (hheeds : s.world.cluster.Heeds (fleet i).me.owner s'.world.cluster) : s'.Stands fleet init i := by
  obtain ⟨past, ends, c, hcareer, c₁, hc₁, htask⟩ := h
  exact ⟨past, ends, c, hcareer, c₁, hc₁.trans hheeds, hbusy ▸ htask⟩

theorem Stands.begin {a : Action} (h : s.Stands fleet init i) (hidle : s.busy i = none)
    (ha : a.IsOfHost) : (s.begin i a ((fleet i).task a)).Stands fleet init i := by
  obtain ⟨past, ends, c, hcareer, c₁, hc₁, htask⟩ := h
  rw [hidle] at htask
  subst htask
  refine ⟨past, ends, c₁, hcareer, c₁, hc₁, ?_⟩
  have hbusy : (s.begin i a ((fleet i).task a)).busy i = some ⟨s.begun, a, (fleet i).task a⟩ :=
    engage_busy_self ..
  rw [hbusy]
  exact ⟨ha, .start _ _⟩

theorem Stands.exchange {number : Nat} {a : Action} {r : Site.Request}
    {resume : r.Answer → Task Site (Except Error a.Reply)} (h : s.Stands fleet init i)
    (hbusy : s.busy i = some ⟨number, a, .ask r resume⟩) {x : r.Answer} {c' : Cluster}
    (hx : Answers (fleet i).me.owner s.world.cluster r x c') :
    ((s.record ⟨i, number, a⟩ ⟨r, x⟩ c').engage i (some ⟨number, a, resume x⟩)).Stands fleet init i := by
  obtain ⟨past, ends, c, hcareer, c₁, hc₁, htask⟩ := h
  rw [hbusy] at htask
  refine ⟨past, ends, c, hcareer, c', .refl _ _, ?_⟩
  rw [engage_busy_self]
  exact ⟨htask.1, htask.2.answer ⟨_, hc₁, hx⟩⟩

theorem Stands.finish {number : Nat} {a : Action} {outcome : Except Error a.Reply}
    (h : s.Stands fleet init i) (hbusy : s.busy i = some ⟨number, a, .done outcome⟩) :
    (s.finish ⟨i, number, a⟩ outcome).Stands fleet init i := by
  obtain ⟨past, ends, c, hcareer, c₁, hc₁, htask⟩ := h
  rw [hbusy] at htask
  obtain ⟨ha, hleads⟩ := htask
  obtain ⟨past', hend⟩ := Equipment.exists_course (hleads.ends (.done outcome c₁)) past
  refine ⟨past', _, c₁, hcareer.call ha hend, c₁, hc₁, ?_⟩
  have hidle : (s.finish ⟨i, number, a⟩ outcome).busy i = none := engage_busy_self ..
  rw [hidle]

end State

theorem Attainable.stands {i : ι} (hsound : (init.bucket .leases).Sound)
    (hother : ∀ j, j ≠ i → (fleet i).me.owner ≠ (fleet j).me.owner)
    (hmay : ∀ a, may i a → a.IsOfHost) {s : State ι} (h : Attainable fleet may init s) :
    s.Stands fleet init i := by
  induction h with
  | start => exact ⟨[], [], init, .start, init, .refl _ _, rfl⟩
  | @move s s' hs hmove ih =>
      have hlaw : Lawful fleet.discipline s'.world.history :=
        ((hs.move hmove).lawful fun j a _ => (fleet j).along_discipline a).1
      cases hmove with
      | begin who a hmay' hidle =>
          by_cases hi : i = who
          · subst hi
            exact ih.begin hidle (hmay a hmay')
          · exact ih.meanwhile (State.engage_busy_of_ne s _ hi) (.refl _ _)
      | exchange who hbusy hx =>
          by_cases hi : i = who
          · subst hi
            exact ih.exchange hbusy hx
          · exact ih.meanwhile (State.engage_busy_of_ne _ _ hi)
              (Lease.heeds (g := ⟨who, _, _⟩) hs.grows hsound hx hlaw (hother who (Ne.symm hi)))
      | finish who hbusy =>
          by_cases hi : i = who
          · subst hi
            exact ih.finish hbusy
          · exact ih.meanwhile (State.engage_busy_of_ne s none hi) (.refl _ _)
      | drift hc => exact ih.meanwhile rfl (hc.heeds _)

/-- Between its actions, a host in a run has a career behind it that led to the cluster as it is. -/
theorem Attainable.career {i : ι} (hsound : (init.bucket .leases).Sound)
    (hother : ∀ j, j ≠ i → (fleet i).me.owner ≠ (fleet j).me.owner)
    (hmay : ∀ a, may i a → a.IsOfHost) {s : State ι} (h : Attainable fleet may init s)
    (hidle : s.busy i = none) :
    ∃ past ends, (fleet i).Career (Heeds (fleet i).me.owner) ⟨init, []⟩ ⟨s.world.cluster, past⟩ ends := by
  obtain ⟨past, ends, c, hcareer, c₁, hc₁, htask⟩ := h.stands hsound hother hmay
  rw [hidle] at htask
  subst htask
  exact ⟨past, ends, hcareer.meanwhile hc₁⟩

end PartitionHost
