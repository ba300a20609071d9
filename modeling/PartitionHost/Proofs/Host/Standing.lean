import PartitionHost.Proofs.Interleaving.Runtime
import PartitionHost.Proofs.Lease.Undisturbed

/-!
# Hosts that have what they believe in

A host has a lease until a time if the stored lease is its own and lasts as long (`Equipment.Has`). Until then
nothing that others do takes it away (`Equipment.unharmed_of_task`). The host itself goes on with what it has,
and comes to believe only in what it has: each of its programs leaves it standing (`Equipment.Standing`), and a
scan renews all that it believes in.
-/

namespace PartitionHost

open Record Cluster Lease

/-! ## What a host has -/

/-- Whether the lease of a partition was updated in an exchange. -/
def Exchange.updates (p : String) : Exchange Host.Surroundings → Bool
  | ⟨.lease _ (.update q), .ok (_, true)⟩ => q == p
  | _ => false

def Course.updates (s : Course) (p : String) : Nat := s.past.countP (·.updates p)

theorem Course.updates_of_past {s s' : Course} {x : Exchange Host.Surroundings}
    (h : s'.past = x :: s.past) (p : String) : s'.updates p = s.updates p + (x.updates p).toNat := by
  rw [updates, h, List.countP_cons, updates]
  cases x.updates p <;> rfl

namespace Equipment

def Believes (e : Equipment) (c : Cluster) (p : String) : Prop :=
  (c.member e.me.owner).owned.contains p = true

/-- The stored lease of a partition is this one of a host, and whoever can read it knows it to last until then. -/
structure Has (e : Equipment) (c : Cluster) (p : String) (l : Lease) (t : Timestamp) : Prop where
  keeps : c.Keeps e.leases p l
  owner_eq : l.owner = e.me.owner
  lasts : (e.leases = .bucket → l.epoch < 1 <<< 64) → t ≤ l.expiresAt

variable {e : Equipment} {c c' : Cluster} {p : String} {l l' : Lease} {t t' : Timestamp}

theorem Has.mono (h : e.Has c p l t) (hle : t' ≤ t) : e.Has c p l t' :=
  ⟨h.keeps, h.owner_eq, fun hepoch => le_trans hle (h.lasts hepoch)⟩

theorem Has.upholds {but : Option String} (h : e.Has c p l t) (hkept : Upholds e.leases but c c')
    (hp : some p ≠ but) : e.Has c' p l t :=
  ⟨hkept.keeps p l hp h.keeps, h.owner_eq, h.lasts⟩

theorem Has.isHeldBy (h : e.Has c p l c.now) (howner : e.me.owner ≠ "") (hl : c.Shows e.leases p l') :
    l' = l ∧ l.isHeldBy e.me.owner c.now = true := by
  obtain ⟨hsame, hepoch⟩ := hl.of_keeps h.keeps
  exact ⟨hsame, isHeldBy_iff.2 ⟨h.owner_eq ▸ howner, h.lasts hepoch, h.owner_eq⟩⟩

end Equipment

/-! ## What others do -/

namespace Equipment

/-- A host still believes what it believed, and still has what it had for that moment. -/
structure Unharmed (e : Equipment) (c c' : Cluster) : Prop where
  now_eq : c'.now = c.now
  owned : (c'.member e.me.owner).owned = (c.member e.me.owner).owned
  ready : c.Ready e.leases → c'.Ready e.leases
  has : ∀ p l t, c.now ≤ t → e.Has c p l t → e.Has c' p l t

variable {e e' : Equipment} {c c' c'' : Cluster}

theorem Unharmed.refl (e : Equipment) (c : Cluster) : e.Unharmed c c := ⟨rfl, rfl, id, fun _ _ _ _ => id⟩

theorem Unharmed.trans (h : e.Unharmed c c') (h' : e.Unharmed c' c'') : e.Unharmed c c'' where
  now_eq := h'.now_eq.trans h.now_eq
  owned := h'.owned.trans h.owned
  ready hc := h'.ready (h.ready hc)
  has p l t ht hl := h'.has p l t (h.now_eq ▸ ht) (h.has p l t ht hl)

theorem unharmed_of_transited {p : String} {next : Lease → Timestamp → Option Lease}
    {op : Lease.Operation} {cancel : Cancellation} {y : Except Error (Lease × Bool)}
    (howner : e.me.owner ≠ "") (hname : e'.me.owner ≠ e.me.owner)
    (hop : op.transition? e'.me = some (p, next)) (h : Transited e.leases p next cancel c y c')
    (howned : (c'.member e.me.owner).owned = (c.member e.me.owner).owned) : e.Unharmed c c' := by
  have hunharmed (hkept : Upholds e.leases none c c') : e.Unharmed c c' :=
    ⟨hkept.now_eq, howned, hkept.ready, fun p l t _ hl => hl.upholds hkept (Option.some_ne_none p)⟩
  cases h with
  | refused _ _ hkept => exact hunharmed hkept
  | failed _ _ _ _ hkept => exact hunharmed hkept
  | cancelled _ hkept => exact hunharmed hkept
  | turned hshows hnext hkept _ =>
      refine ⟨hkept.now_eq, howned, hkept.ready, fun q l t ht hl => hl.upholds hkept ?_⟩
      rintro ⟨⟩
      obtain ⟨rfl, hheld⟩ := (hl.mono ht).isHeldBy howner hshows
      obtain ⟨hnamed, hlive, hme⟩ := isHeldBy_iff.1 hheld
      have hturns := Operation.turns_of_transition? hop hnext
      exact hname ((hturns.owner_of_live hnamed hlive).1.symm.trans hme)

theorem unharmed_of_serve (howner : e.me.owner ≠ "") (hname : e'.me.owner ≠ e.me.owner)
    (hleases : e'.leases = e.leases) (hc : c.Ready e.leases) {r : Host.Request} {x : r.Answer}
    (hdelete : ∀ cancel op, r = .lease cancel op → ¬ op.Deletes)
    (h : (e'.serve r).Ends (Amid Calm e'.me.owner) c x c') : e.Unharmed c c' := by
  have howned : (c'.member e.me.owner).owned = (c.member e.me.owner).owned :=
    owned_of_ends (h.mono fun _ _ _ _ ⟨c₁, hcalm, hx⟩ => ⟨c₁, hcalm.rests.1, hx⟩) hname.symm
  have hgentle (hr : r.IsGentle) : e.Unharmed c c' := by
    have hkept := Task.assures_iff.1 (e'.assures_gentle r hr e.leases c) x c' h
    exact ⟨hkept.now_eq, howned, hkept.ready, fun p l t _ hl => hl.upholds hkept (Option.some_ne_none p)⟩
  cases r with
  | lease cancel op =>
      rcases op.cases_of_not_deletes (hdelete cancel op rfl) e'.me with hop | ⟨p, next, hop⟩
      · exact hgentle hop
      · obtain ⟨y, -, htransited⟩ :=
          Task.assures_iff.1 (assures_transited hop (hleases ▸ hc) cancel) x c' h
        exact unharmed_of_transited howner hname hop (hleases ▸ htransited) howned
  | _ => exact hgentle trivial

/-- Whatever another host does that removes no leases, a host believes and has what it did. -/
theorem unharmed_of_task (howner : e.me.owner ≠ "") (hname : e'.me.owner ≠ e.me.owner)
    (hleases : e'.leases = e.leases) (hc : c.Ready e.leases) {a : Action} {x : Except Error a.Reply}
    (hdelete : ∀ op, a.UsesLease op → ¬ op.Deletes)
    (h : (e'.task a).Ends (Amid Calm e'.me.owner) c x c') : e.Unharmed c c' := by
  have hall : (e'.task a).Assures (Amid Calm e'.me.owner)
      (fun _ c' => e.Unharmed c c') c := by
    rw [task, run, Task.assures_serve]
    refine (a.asks_program e'.me.owner).assures ?_ (Unharmed.refl e c)
    intro r c₁ x c₂ hr hx hunharmed
    refine hunharmed.trans (unharmed_of_serve howner hname hleases (hunharmed.ready hc) ?_ hx)
    rintro cancel op rfl
    exact hdelete op hr
  exact Task.assures_iff.1 hall x c' h

end Equipment

/-! ## What a host does itself -/

/-- Whether a request is about what the host believes. -/
def Host.Request.IsOfBeliefs : Host.Request → Prop
  | .own _ _ | .disown _ => True
  | _ => False

namespace Equipment

/--
Whatever a host believed in and had, it still believes in and has, and the epoch of the stored lease has grown
by its own updates only.
-/
def Retains (e : Equipment) (s s' : Course) : Prop :=
  ∀ p l t, e.Believes s.cluster p → e.Has s.cluster p l t →
    e.Believes s'.cluster p ∧ ∃ l' t', e.Has s'.cluster p l' t' ∧
      l'.epoch + s.updates p = l.epoch + s'.updates p

/--
How a host stands in a program that it began in `s₀`: it has all that it believes in, for now, and until `t`
where that is not still to be renewed.
-/
structure Standing (e : Equipment) (t : Timestamp) (s₀ : Course) (pending : List String) (s : Course) :
    Prop where
  now_eq : s.cluster.now = s₀.cluster.now
  now_le : s₀.cluster.now ≤ t
  le_plus : t ≤ s₀.cluster.now.plus e.me.term
  ready : s.cluster.Ready e.leases
  has : ∀ p, e.Believes s.cluster p →
    ∃ l, e.Has s.cluster p l (if p ∈ pending then s₀.cluster.now else t)
  retains : e.Retains s₀ s
  quiet : ∀ x ∈ s.past, ∀ p, x.request ≠ .announce (.lost p)

variable {e : Equipment} {s s' s'' s₀ : Course} {p : String} {ps : List String} {l : Lease} {t : Timestamp}

theorem Retains.refl (e : Equipment) (s : Course) : e.Retains s s :=
  fun _ l t hp hl => ⟨hp, l, t, hl, rfl⟩

theorem Retains.trans (h : e.Retains s s') (h' : e.Retains s' s'') : e.Retains s s'' := by
  intro p l t hp hl
  obtain ⟨hp', l', t', hl', hepoch'⟩ := h p l t hp hl
  obtain ⟨hp'', l'', t'', hl'', hepoch''⟩ := h' p l' t' hp' hl'
  exact ⟨hp'', l'', t'', hl'', by omega⟩

namespace Standing

theorem due_le (h : e.Standing t s₀ ps s) (qs : List String) (q : String) :
    (if q ∈ qs then s₀.cluster.now else t) ≤ t := by
  split
  · exact h.now_le
  · exact le_refl t

theorem has_now (h : e.Standing t s₀ ps s) (hp : e.Believes s.cluster p) :
    ∃ l, e.Has s.cluster p l s.cluster.now := by
  obtain ⟨l, hl⟩ := h.has p hp
  refine ⟨l, hl.mono ?_⟩
  rw [h.now_eq]
  split
  · exact le_refl _
  · exact h.now_le

theorem weaken (h : e.Standing t s₀ [] s) (qs : List String) : e.Standing t s₀ qs s where
  now_eq := h.now_eq
  now_le := h.now_le
  le_plus := h.le_plus
  ready := h.ready
  has q hq := by
    obtain ⟨l, hl⟩ := h.has q hq
    exact ⟨l, hl.mono (by simpa using h.due_le qs q)⟩
  retains := h.retains
  quiet := h.quiet

theorem renewed (h : e.Standing t s₀ (p :: ps) s) (hp : e.Believes s.cluster p → ∃ l, e.Has s.cluster p l t) :
    e.Standing t s₀ ps s where
  now_eq := h.now_eq
  now_le := h.now_le
  le_plus := h.le_plus
  ready := h.ready
  has q hq := by
    by_cases hqp : q = p
    · subst hqp
      obtain ⟨l, hl⟩ := hp hq
      exact ⟨l, hl.mono (h.due_le ps q)⟩
    · simpa [hqp] using h.has q hq
  retains := h.retains
  quiet := h.quiet

/--
An exchange leaves a host standing if it keeps what the host believes in or gives it something to believe in
that it has, and if at most one lease is replaced, by one that the host has, too.
-/
theorem step {x : Exchange Host.Surroundings} {but : Option String} (h : e.Standing t s₀ ps s)
    (hpast : s'.past = x :: s.past) (hlost : ∀ p, x.request ≠ .announce (.lost p))
    (hkept : Upholds e.leases but s.cluster s'.cluster)
    (hbelieves : ∀ q, e.Believes s.cluster q → e.Believes s'.cluster q)
    (hnew : ∀ q, e.Believes s'.cluster q →
      e.Believes s.cluster q ∨ ∃ l, e.Has s'.cluster q l t)
    (hupdates : ∀ q, some q ≠ but → x.updates q = false)
    (hturned : ∀ q l, some q = but → e.Believes s.cluster q → e.Has s.cluster q l s.cluster.now →
      ∃ l', e.Has s'.cluster q l' t ∧ l'.epoch = l.epoch + (x.updates q).toNat) :
    e.Standing t s₀ ps s' := by
  have hcount := Course.updates_of_past hpast
  refine ⟨hkept.now_eq.trans h.now_eq, h.now_le, h.le_plus, hkept.ready h.ready, ?_, h.retains.trans ?_, ?_⟩
  · intro q hq
    rcases hnew q hq with hold | ⟨l, hl⟩
    · by_cases hbut : some q = but
      · obtain ⟨l, hl⟩ := h.has_now hold
        obtain ⟨l', hl', -⟩ := hturned q l hbut hold hl
        exact ⟨l', hl'.mono (h.due_le ps q)⟩
      · obtain ⟨l, hl⟩ := h.has q hold
        exact ⟨l, hl.upholds hkept hbut⟩
    · exact ⟨l, hl.mono (h.due_le ps q)⟩
  · intro q l t' hq hl
    refine ⟨hbelieves q hq, ?_⟩
    rw [hcount]
    by_cases hbut : some q = but
    · obtain ⟨m, hm⟩ := h.has_now hq
      obtain rfl := keeps_unique hl.keeps hm.keeps
      obtain ⟨l', hl', hepoch⟩ := hturned q l hbut hq hm
      exact ⟨l', t, hl', by omega⟩
    · exact ⟨l, t', hl.upholds hkept hbut, by simp [hupdates q hbut]⟩
  · intro y hy
    rw [hpast] at hy
    rcases List.mem_cons.1 hy with rfl | hy
    · exact hlost
    · exact h.quiet y hy

end Standing

/-! ### Requests that replace no lease -/

theorem asks_without_beliefs {r : Host.Request} (h : ¬ r.IsOfBeliefs) :
    (e.serve r).Asks fun r : Site.Request => ¬ r.IsOfBeliefs := by
  cases r with
  | lease cancel op => exact (e.asks_lease cancel op).mono fun _ => And.right
  | checkpoint cancel op => exact (e.asks_checkpoint cancel op).mono fun _ => And.right
  | hub cancel => exact (Site.asks_enquire e.patience cancel _).mono fun _ h => h.2.2
  | range cancel partition => exact (Site.asks_enquire e.patience cancel _).mono fun _ h => h.2.2
  | own partition lease => exact absurd trivial h
  | disown partition => exact absurd trivial h
  | _ => exact ⟨id, fun _ => trivial⟩

variable {r : Host.Request} {x : r.Answer}

theorem Continues.owned_eq (hx : e.Continues Calm r s x s') (hr : ¬ r.IsOfBeliefs) :
    (s'.cluster.member e.me.owner).owned = (s.cluster.member e.me.owner).owned :=
  owned_of_asks (fun _ _ h => h.rests.1.owned e.me.owner) (asks_without_beliefs hr) hx.1

theorem Continues.believes_iff (hx : e.Continues Calm r s x s') (hr : ¬ r.IsOfBeliefs) (q : String) :
    e.Believes s'.cluster q ↔ e.Believes s.cluster q := by
  rw [Believes, hx.owned_eq hr, Believes]

theorem Continues.upholds (hx : e.Continues Calm r s x s') (hr : r.IsGentle) :
    Upholds e.leases none s.cluster s'.cluster :=
  Task.assures_iff.1 (e.assures_gentle r hr e.leases s.cluster) x s'.cluster hx.1

theorem updates_eq_false (hr : ∀ cancel p, r ≠ .lease cancel (.update p)) (q : String) :
    (Exchange.mk (I := Host.Surroundings) r x).updates q = false := by
  cases r with
  | lease cancel op =>
      cases op with
      | update p => exact absurd rfl (hr cancel p)
      | _ => rfl
  | _ => rfl

namespace Standing

theorem gentle (h : e.Standing t s₀ ps s) (hx : e.Continues Calm r s x s') (hr : r.IsGentle)
    (hbeliefs : ¬ r.IsOfBeliefs) (hlost : ∀ p, r ≠ .announce (.lost p)) : e.Standing t s₀ ps s' :=
  h.step hx.2 hlost (hx.upholds hr) (fun q => (hx.believes_iff hbeliefs q).2)
    (fun q hq => .inl ((hx.believes_iff hbeliefs q).1 hq))
    (fun q _ => updates_eq_false (by rintro cancel p rfl; cases hr) q) fun _ _ hq => nomatch hq

theorem own {x : Unit} (h : e.Standing t s₀ ps s) (hl : ∃ l', e.Has s.cluster p l' t)
    (hx : e.Continues Calm (.own p l) s x s') : e.Standing t s₀ ps s' := by
  have hkept := hx.upholds (r := .own p l) trivial
  have hbelieves (q : String) : e.Believes s'.cluster q ↔ q = p ∨ e.Believes s.cluster q := by
    obtain ⟨c₁, hcalm, hx₁⟩ := Task.Ends.of_request (I := Site) (r := .own p l) hx.1
    rw [Believes, hx₁.frame.owned, hcalm.rests.1.owned]
    exact Table.contains_insert
  refine h.step hx.2 nofun hkept (fun q hq => (hbelieves q).2 (.inr hq)) (fun q hq => ?_)
    (fun _ _ => rfl) fun _ _ hq => nomatch hq
  rcases (hbelieves q).1 hq with rfl | hq
  · obtain ⟨l', hl'⟩ := hl
    exact .inr ⟨l', hl'.upholds hkept (Option.some_ne_none q)⟩
  · exact .inl hq

theorem disown {x : Bool} (h : e.Standing t s₀ ps s) (hp : ¬ e.Believes s.cluster p)
    (hx : e.Continues Calm (.disown p) s x s') : x = false ∧ e.Standing t s₀ ps s' := by
  have hkept := hx.upholds (r := .disown p) trivial
  obtain ⟨c₁, hcalm, hx₁⟩ := Task.Ends.of_request (I := Site) (r := .disown p) hx.1
  have hbelieves (q : String) : e.Believes s'.cluster q ↔ e.Believes s.cluster q := by
    rw [Believes, hx₁.frame.owned, hcalm.rests.1.owned]
    refine Table.contains_erase.trans (and_iff_right_of_imp ?_)
    rintro hq rfl
    exact hp hq
  constructor
  · have hheld : x = ((c₁.member e.me.owner).owned).contains p := congrArg Prod.fst hx₁
    rw [hheld, hcalm.rests.1.owned]
    exact Bool.eq_false_iff.2 hp
  · exact h.step hx.2 nofun hkept (fun q => (hbelieves q).2) (fun q hq => .inl ((hbelieves q).1 hq))
      (fun _ _ => rfl) fun _ _ hq => nomatch hq

end Standing

/-! ### Transitions of leases -/

section Transitions

variable {op : Lease.Operation} {next : Lease → Timestamp → Option Lease} {cancel : Cancellation}
  {y : Except Error (Lease × Bool)} {z : Except Error op.Reply}

theorem updates_of_granted (h : op.Reports (.ok (l, true)) z) (q : String) :
    (Exchange.mk (I := Host.Surroundings) (.lease cancel op) z).updates q = decide (op = .update q) := by
  cases op with
  | update p =>
      obtain rfl : z = .ok (l, true) := h
      simp [Exchange.updates, Bool.beq_eq_decide_eq]
  | _ => rfl

theorem updates_of_not_granted (h : op.Reports y z) (hy : ∀ l, y ≠ .ok (l, true)) (q : String) :
    (Exchange.mk (I := Host.Surroundings) (.lease cancel op) z).updates q = false := by
  cases op with
  | update p =>
      obtain rfl : z = y := h
      rcases z with error | ⟨l, _ | _⟩
      · rfl
      · rfl
      · exact absurd rfl (hy l)
  | _ => rfl

namespace Standing

theorem has_of_turned {l' : Lease} (h : e.Standing t s₀ ps s) (hop : op.transition? e.me = some (p, next))
    (hrelease : op ≠ .release p) (hnext : next l s.cluster.now = some l')
    (hkeeps : s'.cluster.Keeps e.leases p l') : e.Has s'.cluster p l' t := by
  obtain ⟨hme, hexpires⟩ := (Operation.turns_of_transition? hop hnext).lasts hrelease
  refine ⟨hkeeps, hme, fun _ => ?_⟩
  rw [hexpires, h.now_eq]
  exact h.le_plus

theorem exists_transited (h : e.Standing t s₀ ps s) (op : Lease.Operation) {z : Except Error op.Reply}
    (hop : op.transition? e.me = some (p, next)) (hx : e.Continues Calm (.lease cancel op) s z s') :
    ∃ y, op.Reports y z ∧ Transited e.leases p next cancel s.cluster y s'.cluster :=
  Task.assures_iff.1 (assures_transited hop h.ready cancel) z s'.cluster hx.1

variable (howner : e.me.owner ≠ "")
include howner

theorem isHeldBy (h : e.Standing t s₀ ps s) (hp : e.Believes s.cluster p)
    (hl : s.cluster.Shows e.leases p l) :
    e.Has s.cluster p l s.cluster.now ∧ l.isHeldBy e.me.owner s.cluster.now = true := by
  obtain ⟨l', hl'⟩ := h.has_now hp
  obtain ⟨rfl, hheld⟩ := hl'.isHeldBy howner hl
  exact ⟨hl', hheld⟩

theorem transit (h : e.Standing t s₀ ps s) (hx : e.Continues Calm (.lease cancel op) s z s')
    (hop : op.transition? e.me = some (p, next))
    (hrelease : e.Believes s.cluster p → op ≠ .release p) (hreports : op.Reports y z)
    (htransited : Transited e.leases p next cancel s.cluster y s'.cluster) : e.Standing t s₀ ps s' := by
  have hbelieves := hx.believes_iff (r := .lease cancel op) id
  have hunchanged (hy : ∀ l, y ≠ .ok (l, true)) (hkept : Upholds e.leases none s.cluster s'.cluster) :
      e.Standing t s₀ ps s' :=
    h.step hx.2 nofun hkept (fun q => (hbelieves q).2) (fun q hq => .inl ((hbelieves q).1 hq))
      (fun q _ => updates_of_not_granted hreports hy q) fun _ _ hq => nomatch hq
  cases htransited with
  | refused _ _ hkept => exact hunchanged (by rintro _ ⟨⟩) hkept
  | failed _ _ _ _ hkept => exact hunchanged (by rintro _ ⟨⟩) hkept
  | cancelled _ hkept => exact hunchanged (by rintro _ ⟨⟩) hkept
  | turned hshows hnext hkept hkeeps =>
      rename_i l l'
      have hturns := Operation.turns_of_transition? hop hnext
      have hupdates (q : String) : (Exchange.mk (I := Host.Surroundings) (.lease cancel op) z).updates q =
          decide (op = .update q) := updates_of_granted hreports q
      refine h.step hx.2 nofun hkept (fun q => (hbelieves q).2) (fun q hq => .inl ((hbelieves q).1 hq))
        (fun q hq => ?_) fun q m hq hbelieved hm => ?_
      · rw [hupdates, decide_eq_false_iff_not]
        rintro rfl
        cases hop
        exact hq rfl
      · cases hq
        obtain ⟨hsame, hheld⟩ := hm.isHeldBy howner hshows
        rw [← hsame] at hheld
        refine ⟨l', h.has_of_turned hop (hrelease hbelieved) hnext hkeeps, ?_⟩
        rw [hupdates, hturns.epoch_eq hheld, hsame]

end Standing

/-- How a host stands when it tried to go on with a lease that was still to be renewed. -/
def GoesOn (e : Equipment) (t : Timestamp) (s₀ : Course) (ps : List String) (cancel : Cancellation)
    (p : String) (s : Course) : Except Error (Lease × Bool) → Prop
  | .ok (_, true) => e.Standing t s₀ ps s ∧ ∃ l, e.Has s.cluster p l t
  | .ok (_, false) | .error (.notFound _) => e.Standing t s₀ ps s ∧ ¬ e.Believes s.cluster p
  | .error .cancelled => cancel ≠ .never ∧ e.Standing t s₀ (p :: ps) s
  | .error _ => e.Standing t s₀ ps s

namespace Standing

variable (howner : e.me.owner ≠ "")
include howner

/-- A host that believes in a lease goes on with it, unless the attempt is cancelled or nobody can read it. -/
theorem goesOn (h : e.Standing t s₀ (p :: ps) s) (hx : e.Continues Calm (.lease cancel op) s z s')
    (hop : op.transition? e.me = some (p, next)) (hacquire : op ≠ .acquire p)
    (hrelease : op ≠ .release p) (hreports : op.Reports y z)
    (htransited : Transited e.leases p next cancel s.cluster y s'.cluster) :
    e.GoesOn t s₀ ps cancel p s' y := by
  have hstands := h.transit howner hx hop (fun _ => hrelease) hreports htransited
  have hbelieves := hx.believes_iff (r := .lease cancel op) id p
  cases htransited with
  | turned hshows hnext hkept hkeeps =>
      have hhas := h.has_of_turned hop hrelease hnext hkeeps
      exact ⟨hstands.renewed fun _ => ⟨_, hhas⟩, _, hhas⟩
  | refused hshows hnext hkept =>
      have hnot : ¬ e.Believes s'.cluster p := by
        intro hp
        obtain ⟨-, hheld⟩ := h.isHeldBy howner (hbelieves.1 hp) hshows
        obtain ⟨l', hl'⟩ := Operation.exists_next_of_held hop hacquire hheld
        cases hnext.symm.trans hl'
      exact ⟨hstands.renewed fun hp => absurd hp hnot, hnot⟩
  | cancelled hcancel hkept => exact ⟨hcancel, hstands⟩
  | failed hnone hmissing hcancelled hconflict hkept =>
      rename_i error
      have hunread : e.Standing t s₀ ps s' := hstands.renewed fun hp => by
        obtain ⟨l, hl⟩ := h.has_now (hbelieves.1 hp)
        refine ⟨l, hkept.keeps p l (Option.some_ne_none p) hl.keeps, hl.owner_eq, fun hepoch => ?_⟩
        exact absurd (hl.keeps.shows hepoch) (hnone l)
      cases error with
      | notFound q =>
          refine ⟨hunread, fun hp => ?_⟩
          obtain ⟨l, hl⟩ := h.has_now (hbelieves.1 hp)
          exact hmissing ⟨q, rfl⟩ l hl.keeps
      | cancelled => exact absurd rfl hcancelled
      | _ => exact hunread

theorem renew {x : Except Error (Lease × Bool)} (h : e.Standing t s₀ (p :: ps) s)
    (hx : e.Continues Calm (.lease cancel (.renew p)) s x s') : e.GoesOn t s₀ ps cancel p s' x := by
  obtain ⟨y, hreports, htransited⟩ := h.exists_transited (.renew p) rfl hx
  obtain rfl : x = y := hreports
  exact h.goesOn howner hx rfl nofun nofun rfl htransited

theorem update {x : Except Error (Lease × Bool)} (h : e.Standing t s₀ [] s)
    (hx : e.Continues Calm (.lease cancel (.update p)) s x s') :
    e.Standing t s₀ [] s' ∧ e.GoesOn t s₀ [] cancel p s' x := by
  obtain ⟨y, hreports, htransited⟩ := h.exists_transited (.update p) rfl hx
  obtain rfl : x = y := hreports
  exact ⟨h.transit howner hx rfl (fun _ => nofun) rfl htransited,
    (h.weaken [p]).goesOn howner hx rfl nofun nofun rfl htransited⟩

theorem acquire {x : Except Error (Lease × Bool)} (h : e.Standing t s₀ ps s)
    (hx : e.Continues Calm (.lease cancel (.acquire p)) s x s') : e.Standing t s₀ ps s' ∧
      ∀ l, x = .ok (l, true) → (∃ l', e.Has s'.cluster p l' t) ∧ ¬ e.Believes s'.cluster p := by
  obtain ⟨y, hreports, htransited⟩ := h.exists_transited (.acquire p) rfl hx
  obtain rfl : x = y := hreports
  refine ⟨h.transit howner hx rfl (fun _ => nofun) rfl htransited, ?_⟩
  rintro l rfl
  cases htransited with
  | turned hshows hnext hkept hkeeps =>
      have hop : (Lease.Operation.acquire p).transition? e.me = some (p, _) := rfl
      refine ⟨⟨_, h.has_of_turned hop nofun hnext hkeeps⟩, fun hp => ?_⟩
      obtain ⟨-, hheld⟩ := h.isHeldBy howner ((hx.believes_iff id p).1 hp) hshows
      simp [Lease.isHeldBy, (acquire_eq_some.1 hnext).1] at hheld

theorem release {x : Except Error Bool} (h : e.Standing t s₀ ps s) (hp : ¬ e.Believes s.cluster p)
    (hx : e.Continues Calm (.lease cancel (.release p)) s x s') : e.Standing t s₀ ps s' := by
  obtain ⟨y, hreports, htransited⟩ := h.exists_transited (.release p) rfl hx
  exact h.transit howner hx rfl (fun hbelieved => absurd hbelieved hp) hreports htransited

end Standing

end Transitions

/-! ### Programs -/

section Programs

open Host

namespace Standing

theorem assures_lose (h : e.Standing t s₀ ps s) (hp : ¬ e.Believes s.cluster p) :
    (lose p).run.Assures (I := Surroundings) (e.Continues Calm)
      (fun x s' => x = .ok () ∧ e.Standing t s₀ ps s') s := by
  refine assures_ask_bind fun held s' hx => ?_
  obtain ⟨rfl, h'⟩ := h.disown hp hx
  exact ⟨rfl, h'⟩

variable (howner : e.me.owner ≠ "")
include howner

theorem assures_renewAll (h : e.Standing t s₀ ps s) :
    (renewAll .never ps).run.Assures (I := Surroundings) (e.Continues Calm)
      (fun _ s' => e.Standing t s₀ [] s') s := by
  induction ps generalizing s with
  | nil => exact h
  | cons p ps ih =>
      have hrenew : (Host.lease .never (.renew p)).run.Assures (I := Surroundings) (e.Continues Calm)
          (fun x s' => e.GoesOn t s₀ ps .never p s' x) s := fun x s' hx => h.renew howner hx
      have hlose {s' : Course} (hx : e.Standing t s₀ ps s' ∧ ¬ e.Believes s'.cluster p) :
          (lose p >>= fun _ => renewAll .never ps).run.Assures (I := Surroundings) (e.Continues Calm)
            (fun _ s' => e.Standing t s₀ [] s') s' :=
        Task.Assures.run_bind (hx.1.assures_lose hx.2) (fun _ _ hx => nomatch hx.1) fun _ _ hx => ih hx.2
      refine assures_outcome_bind hrenew fun x s' hx => ?_
      rcases x with error | ⟨l, _ | _⟩
      · cases error with
        | notFound q => exact hlose hx
        | cancelled => exact absurd rfl hx.1
        | _ => exact ih hx
      · exact hlose hx
      · obtain ⟨h', l', hl'⟩ := hx
        exact assures_ask_bind fun _ s'' hx => ih (h'.own ⟨l', hl'⟩ hx)

theorem assures_tryAcquire (h : e.Standing t s₀ ps s) (cancel : Cancellation) (p : String) :
    (tryAcquire cancel p).run.Assures (I := Surroundings) (e.Continues Calm)
      (fun _ s' => e.Standing t s₀ ps s') s := by
  have hacquire : (Host.lease cancel (.acquire p)).run.Assures (I := Surroundings) (e.Continues Calm)
      (fun x s' => e.Standing t s₀ ps s' ∧
        ∀ l, x = .ok (l, true) → (∃ l', e.Has s'.cluster p l' t) ∧ ¬ e.Believes s'.cluster p) s :=
    fun x s' hx => h.acquire howner hx
  refine Task.Assures.run_bind hacquire (fun _ _ hx => hx.1) ?_
  rintro ⟨taken, success⟩ s₁ ⟨h₁, htaken⟩
  cases success with
  | false => exact h₁
  | true =>
      obtain ⟨⟨l, hl⟩, hp⟩ := htaken taken rfl
      have hensure : (Host.checkpoint cancel (.ensure p)).run.Assures (I := Surroundings)
          (e.Continues Calm) (fun _ s' => e.Standing t s₀ ps s' ∧ e.Has s'.cluster p l t ∧
            ¬ e.Believes s'.cluster p) s₁ := by
        intro x s' hx
        refine ⟨h₁.gentle hx trivial id nofun, ?_, fun hp' => hp ((hx.believes_iff id p).1 hp')⟩
        exact hl.upholds (hx.upholds (r := .checkpoint cancel (.ensure p)) trivial)
          (Option.some_ne_none p)
      refine assures_outcome_bind hensure fun x s₂ ⟨h₂, hl₂, hp₂⟩ => ?_
      cases x with
      | ok position =>
          refine assures_ask_bind fun _ s₃ hown => ?_
          have h₃ := h₂.own ⟨l, hl₂⟩ hown
          exact fun _ s₄ hx => h₃.gentle hx trivial id nofun
      | error error =>
          have hrelease : (Host.lease cancel (.release p)).run.Assures (I := Surroundings)
              (e.Continues Calm) (fun _ s' => e.Standing t s₀ ps s') s₂ :=
            fun x s' hx => h₂.release howner hp₂ hx
          exact assures_outcome_bind hrelease fun _ _ h => h

theorem assures_acquireUpTo (h : e.Standing t s₀ ps s) (share : Nat) (cancel : Cancellation)
    (qs : List String) : (acquireUpTo share cancel qs).run.Assures (I := Surroundings)
      (e.Continues Calm) (fun _ s' => e.Standing t s₀ ps s') s := by
  induction qs generalizing s with
  | nil => exact h
  | cons q qs ih =>
      refine assures_ask_bind fun owned s₁ hx => ?_
      have h₁ := h.gentle hx trivial id nofun
      split
      · exact h₁
      · refine assures_outcome_bind (h₁.assures_tryAcquire howner cancel q) fun x s₂ h₂ => ?_
        split
        · exact h₂
        · exact ih h₂

theorem assures_scan (h : e.Standing t s₀ (s.cluster.member e.me.owner).owned.names s) (owner : String) :
    (scan owner .never).run.Assures (I := Surroundings) (e.Continues Calm)
      (fun _ s' => e.Standing t s₀ [] s') s := by
  refine assures_ask_bind fun owned s₁ hx => ?_
  have h₁ := h.gentle hx trivial id nofun
  have howned : owned = (s.cluster.member e.me.owner).owned := by
    obtain ⟨c₁, hcalm, hx₁⟩ := Task.Ends.of_request (I := Site) (r := .owned) hx.1
    rw [← hcalm.rests.1.owned]
    exact congrArg Prod.fst hx₁
  rw [← howned] at h₁
  refine Task.Assures.run_bind (h₁.assures_renewAll howner) (fun _ _ => id) fun _ s₂ h₂ => ?_
  have hlist : (Host.lease .never .list).run.Assures (I := Surroundings) (e.Continues Calm)
      (fun _ s' => e.Standing t s₀ [] s') s₂ := fun x s' hx => h₂.gentle hx trivial id nofun
  refine Task.Assures.run_bind hlist (fun _ _ => id) fun leases s₃ h₃ => ?_
  refine assures_ask_bind fun now s₄ hx => ?_
  have h₄ := h₃.gentle hx trivial id nofun
  refine Task.Assures.run_bind (h₄.assures_acquireUpTo howner _ _ _) (fun _ _ => id) fun _ s₅ h₅ => ?_
  refine assures_ask_bind fun owned s₆ hx => ?_
  have h₆ := h₅.gentle hx trivial id nofun
  exact fun _ s₇ hx => h₆.gentle hx trivial id nofun

theorem assures_recordProgress (h : e.Standing t s₀ [] s) (cancel : Cancellation) (p : String)
    (position : Checkpoint) :
    (recordProgress cancel p position).run.Assures (I := Surroundings) (e.Continues Calm)
      (fun _ s' => e.Standing t s₀ [] s') s := by
  have hupdate : (Host.lease cancel (.update p)).run.Assures (I := Surroundings) (e.Continues Calm)
      (fun x s' => e.Standing t s₀ [] s' ∧ e.GoesOn t s₀ [] cancel p s' x) s :=
    fun x s' hx => h.update howner hx
  refine Task.Assures.run_bind hupdate (fun _ _ hx => hx.1) ?_
  rintro ⟨updated, held⟩ s₁ ⟨h₁, hgoesOn⟩
  cases held with
  | false =>
      exact Task.Assures.run_bind (h₁.assures_lose hgoesOn.2) (fun _ _ hx => hx.2) fun _ _ hx => hx.2
  | true =>
      refine assures_ask_bind fun _ s₂ hx => ?_
      have h₂ := h₁.own hgoesOn.2 hx
      exact fun _ s₃ hx => h₂.gentle hx trivial id nofun

end Standing

end Programs

end Equipment

end PartitionHost
