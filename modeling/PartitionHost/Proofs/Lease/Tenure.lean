import PartitionHost.Proofs.Interleaving.Schedule
import PartitionHost.Proofs.Lease.Custody

/-!
# Exclusive tenure

Where all claimants have the same term, whoever takes a lease has it to itself until it expires, in a register
and in a bucket alike: renewals and updates are decided at later times, so they never let the lease expire
earlier, and nobody else can turn it before (`Lease.tenure_or`). All this rests on the owner having a name. A
lease whose owner is nameless cannot be told from one that nobody owns, and is taken again at once
(`Lease.exclusive_tenure`, `Lease.nameless_without_tenure`).
-/

namespace PartitionHost

open Record Cluster

variable {ι : Type}

def Action.IsOfLeases : Action → Prop
  | .lease _ _ => True
  | _ => False

/-- Whether an action prepares a lease or goes for it, and does no more. -/
def Action.IsClaim : Action → Prop
  | .lease _ (.ensure _) | .lease _ (.acquire _) => True
  | _ => False

/-- The partition whose lease an action went for, the lease that it answers and whether it was taken. -/
def Action.acquired? (a : Action) (outcome : Except Error a.Reply) : Option (String × Lease × Bool) :=
  match a, outcome with
  | .lease _ (.acquire p), .ok answer => some (p, answer)
  | _, _ => none

/-- An action took the lease of a partition, and answers that lease. -/
def Action.Took (a : Action) (outcome : Except Error a.Reply) (p : String) (l : Lease) : Prop :=
  a.acquired? outcome = some (p, l, true)

theorem Action.Took.action_eq {a : Action} {outcome : Except Error a.Reply} {p : String} {l : Lease}
    (h : a.Took outcome p l) : ∃ cancel, a = .lease cancel (.acquire p) := by
  cases a with
  | lease cancel op =>
      cases op with
      | acquire q =>
          rcases outcome with e | ⟨l', _ | _⟩
          · cases h
          · cases h
          · cases h
            exact ⟨cancel, rfl⟩
      | _ => cases h
  | _ => cases h

/-- The lease of a partition is taken by this exchange, in a store of the kind that the equipment has. -/
def Equipment.TakesAs (e : Equipment) (p : String) (l : Lease) (y : Exchange Site) : Prop :=
  match e.leases with
  | .register => y = ⟨.leaseTable e.me (.acquire p), .ok (l, true)⟩
  | .bucket => y.Updated .leases p (encode l)

def Equipment.Takes (e : Equipment) (y : Exchange Site) : Prop := ∃ p l, e.TakesAs p l y

/-- The lease of a partition is given back by somebody of this name. -/
def Event.ReleasedBy (fleet : Fleet ι) (kind : Site.StoreKind) (owner p : String) (ev : Event ι) : Prop :=
  (fleet ev.who).me.owner = owner ∧ (∃ cancel, ev.action = .lease cancel (.release p)) ∧
    ∃ l, ev.Puts kind p l

/-- A host without a name, and host b. -/
def Fleet.halfNamed : Fleet Bool := fun who =>
  ⟨⟨if who then "b" else "", .ofSeconds 30⟩, .bucket, .bucket, {}⟩

namespace Lease

variable {kind : Site.StoreKind} {fleet : Fleet ι} {init : Cluster} {w : World ι} {p : String}
  {term : Duration}

/-! ## The run of a lease -/

theorem Made.of_acquire {older : List (Event ι)} {ev : Event ι} {op : Operation} {l l' : Lease}
    {t : Timestamp} (h : Made kind fleet older ev p op l t l') {cancel : Cancellation}
    (haction : ev.action = .lease cancel (.acquire p)) :
    l.isAvailable t = true ∧ l'.owner = (fleet ev.who).me.owner ∧
      l'.expiresAt = t.plus (fleet ev.who).me.term := by
  have huses := h.uses
  rw [haction] at huses
  obtain rfl : .acquire p = op := huses
  cases h.turns with
  | acquire havailable => exact ⟨havailable, rfl, rfl⟩

/--
The lease of an owner with a name is made to last for another term from the time of the decision, or it is
given back in that name, or it had expired.
-/
theorem Made.lasts_or {older : List (Event ι)} {ev : Event ι} {op : Operation} {l l' : Lease} {t : Timestamp}
    (h : Made kind fleet older ev p op l t l') (hput : ev.Puts kind p l') (hcall : ev.action.IsOfLeases)
    (hnamed : l.owner ≠ "") :
    (l'.owner = l.owner ∧ l'.expiresAt = t.plus (fleet ev.who).me.term) ∨
      ev.ReleasedBy fleet kind l.owner p ∨ l.expiresAt < ev.before.now := by
  cases h.turns with
  | acquire havailable =>
      have hexpired := (isAvailable_iff.1 havailable).resolve_left hnamed
      exact .inr (.inr (lt_of_lt_of_le hexpired h.time_le))
  | renew hheld => exact .inl ⟨rfl, rfl⟩
  | release hheld =>
      refine .inr (.inl ⟨(isHeldBy_iff.1 hheld).2.2.symm, ?_, ⟨_, hput⟩⟩)
      obtain ⟨⟨who, number, a⟩, x, before⟩ := ev
      cases a with
      | lease cancel op =>
          obtain rfl : op = .release p := h.uses
          exact ⟨cancel, rfl⟩
      | _ => cases hcall
  | update hheld => exact .inl ⟨rfl, rfl⟩

/--
From the moment that an owner with a name puts its lease there, that lease stays its own and expires no
earlier, or somebody has put a lease there after its expiry; unless it was removed or given back.
-/
theorem tenure_or (hw : w.Grows fleet init) (hsound : (init.bucket .leases).Sound)
    (hlaw : Lawful fleet.discipline w.history) (hterm : ∀ i, (fleet i).me.term = term)
    (hcalls : ∀ ev ∈ w.history, ev.action.IsOfLeases) {newer older : List (Event ι)} {ev₁ : Event ι}
    {l₁ : Lease} (hput : ev₁.Puts kind p l₁) (hnamed : l₁.owner ≠ "")
    (hexpiry : l₁.expiresAt ≤ ev₁.before.now.plus term) (hhistory : w.history = newer ++ ev₁ :: older)
    (hkept : ∀ ev ∈ newer, ¬ ev.Clears kind p ∧ ¬ ev.ReleasedBy fleet kind l₁.owner p) :
    (∃ l, w.cluster.Keeps kind p l ∧ l.owner = l₁.owner ∧ l₁.expiresAt ≤ l.expiresAt) ∨
      ∃ ev ∈ newer, (∃ m, ev.Puts kind p m) ∧ l₁.expiresAt < ev.before.now := by
  induction hw generalizing newer with
  | start => simp at hhistory
  | drift hw hc ih =>
      rcases ih hlaw hcalls hhistory hkept with ⟨l, hl, hrest⟩ | hlater
      · exact .inl ⟨l, (Drifts.keeps hc).2 hl, hrest⟩
      · exact .inr hlater
  | @exchange w hw g r x c hx ih =>
      have hgrows := hw.exchange g hx
      cases newer with
      | nil =>
          obtain ⟨rfl, rfl⟩ := List.cons.inj hhistory
          exact .inl ⟨l₁, keeps_of_puts hx hput, rfl, le_refl _⟩
      | cons ev newer =>
          obtain ⟨rfl, htail⟩ := List.cons.inj hhistory
          obtain ⟨⟨hclears, hreleased⟩, hkept⟩ := List.forall_mem_cons.1 hkept
          obtain ⟨hcall, hcalls⟩ := List.forall_mem_cons.1 hcalls
          rcases ih hlaw.2 hcalls htail hkept with ⟨l, hl, howner, hle⟩ | ⟨ev', hev', hlater⟩
          · rcases keeps_or hgrows hsound hlaw (List.nil_append _).symm hx hl with
              hsame | hremoved | ⟨l', hput'⟩
            · exact .inl ⟨l, hsame, howner, hle⟩
            · exact absurd hremoved hclears
            · obtain ⟨op, l₀, t, hmade⟩ :=
                exists_made hgrows hsound hlaw (List.nil_append _).symm hput'
              obtain rfl := hmade.eq_of_keeps l hl
              have hlatest : ev₁.before.now ≤ t := hmade.latest ev₁ (by rw [htail]; simp) l₁ hput
              rcases hmade.lasts_or hput' hcall (howner ▸ hnamed) with
                ⟨hsame, hexpires⟩ | hgiven | hexpired
              · refine .inl ⟨l', keeps_of_puts hx hput', hsame.trans howner, ?_⟩
                rw [hexpires, hterm]
                exact le_trans hexpiry (Timestamp.plus_mono hlatest (Nat.le_refl _))
              · exact absurd (howner ▸ hgiven) hreleased
              · exact .inr ⟨_, List.mem_cons_self, ⟨_, hput'⟩, lt_of_le_of_lt hle hexpired⟩
          · exact .inr ⟨ev', List.mem_cons_of_mem _ hev', hlater⟩

/-! ## Calls -/

theorem Bucketed.lets_unwritten {me : Claimant} {cancel : Cancellation} {op : Operation} {q : String} :
    Lets (fun past _ => ∀ y ∈ past, y.subject? = none) (fun past => ∀ y ∈ past, y.subject? = none) me
      cancel op q :=
  ⟨fun _ => id, fun _ => id, fun _ _ _ h _ => h, fun _ _ hx h => List.forall_mem_cons.2 ⟨hx, h⟩⟩

theorem along_acquire_took {e : Equipment} (cancel : Cancellation) (q : String) :
    (e.task (.lease cancel (.acquire q))).Along
      (fun past r => Site.Request.TakesTime r → ∀ y ∈ past, ¬ e.Takes y)
      (fun x past => ∀ p l, (Action.lease cancel (.acquire q)).Took x p l → ∃ y ∈ past, e.TakesAs p l y)
      [] := by
  change ((e.lease cancel (.acquire q)).bind .done).Along _ _ _
  rw [Task.bind_done]
  cases hkind : e.leases with
  | register =>
      have htook : ∀ answer p l, (Action.lease cancel (.acquire q)).Took answer p l →
          e.TakesAs p l ⟨.leaseTable e.me (.acquire q), answer⟩ := by
        intro answer p l h
        rcases answer with error | ⟨l', _ | _⟩
        · cases h
        · cases h
        · cases h
          simp only [Equipment.TakesAs, hkind]
      rw [Equipment.lease, hkind]
      refine ⟨fun _ => List.forall_mem_nil _, fun answer => ?_⟩
      change ((Site.noteIfAny _).bind fun _ => Task.done answer).Along _ _ _
      cases Site.leaseNote? e.me (.acquire q) answer with
      | none => exact fun p l h => ⟨_, List.mem_singleton_self _, htook answer p l h⟩
      | some n =>
          refine ⟨fun htime => htime.elim, fun _ p l h => ⟨_, ?_, htook answer p l h⟩⟩
          exact List.mem_cons_of_mem _ (List.mem_singleton_self _)
  | bucket =>
      rw [e.lease_of_bucket hkind]
      refine (Bucketed.along_acquire Bucketed.lets_unwritten (List.forall_mem_nil _)).mono ?_ ?_
      · rintro past r hpast - y hy ⟨p, l, h⟩
        simp only [Equipment.TakesAs, hkind] at h
        obtain ⟨revision, n, hcall⟩ := h
        obtain ⟨cancel', rfl⟩ := Exchange.eq_of_call?_leases hcall
        cases hpast _ hy
      · intro x past h p l hl
        rcases x with error | ⟨l', _ | _⟩
        · cases hl
        · cases hl
        · cases hl
          obtain ⟨revision, n, older, rfl, -, -⟩ := h
          refine ⟨_, List.mem_cons_self, ?_⟩
          simp only [Equipment.TakesAs, hkind]
          exact ⟨revision, n, rfl⟩

theorem Register.of_acquired {me : Claimant} {now : Timestamp} {r : Register Lease} {l : Lease}
    (h : (perform me now r (.acquire p)).1 = .ok (l, true)) :
    ∃ t old, r = some t ∧ t.get? p = some old ∧ old.acquire me.owner me.term now = some l := by
  cases r with
  | none => cases h
  | some t =>
      change (transition t p (·.acquire me.owner me.term now)).1 = _ at h
      unfold transition at h
      cases hold : t.get? p with
      | none => simp [hold] at h
      | some old =>
          cases hnext : old.acquire me.owner me.term now with
          | none => simp [hold, hnext] at h
          | some l' =>
              simp only [hold, hnext, Except.ok.injEq, Prod.mk.injEq, and_true] at h
              exact ⟨t, old, rfl, hold, h ▸ hnext⟩

theorem along_of_leases {e : Equipment} {a : Action} (ha : a.IsOfLeases) :
    (e.task a).Along
      (fun past r => (∃ cancel q, a = .lease cancel (.acquire q)) → Site.Request.TakesTime r →
        ∀ y ∈ past, ¬ e.Takes y)
      (fun x past => ∀ p l, a.Took x p l → ∃ y ∈ past, e.TakesAs p l y) [] := by
  have hother : (∀ x p l, ¬ a.Took x p l) → (¬ ∃ cancel q, a = .lease cancel (.acquire q)) →
      (e.task a).Along (fun past r => (∃ cancel q, a = .lease cancel (.acquire q)) →
        Site.Request.TakesTime r → ∀ y ∈ past, ¬ e.Takes y)
      (fun x past => ∀ p l, a.Took x p l → ∃ y ∈ past, e.TakesAs p l y) [] := by
    intro htook hacquire
    refine ((Task.asks_true _).along_of_forall (fun _ _ _ h => absurd h hacquire) []).mono
      (fun _ _ => id) ?_
    exact fun x _ _ p l h => absurd h (htook x p l)
  cases a with
  | lease cancel op =>
      cases op with
      | acquire q => exact (along_acquire_took cancel q).mono (fun _ _ h _ => h) fun _ _ => id
      | _ => exact hother (fun _ _ _ h => nomatch h) (by rintro ⟨_, _, ⟨⟩⟩)
  | _ => cases ha

theorem exists_puts_of_return [DecidableEq ι] (hkind : ∀ i, (fleet i).leases = kind) {s : State ι}
    (hs : Attainable fleet (fun _ => Action.IsOfLeases) init s) {ret : Return ι} (hret : ret ∈ s.returns)
    {l : Lease} (hl : ret.action.Took ret.outcome p l) :
    ∃ ev ∈ s.world.history, ev.toEngagement = ret.toEngagement ∧ ev.Puts kind p l ∧
      (fleet ret.who).Takes ev.toExchange := by
  obtain ⟨y, hy, htakes⟩ := (hs.lawful fun i a ha => along_of_leases (e := fleet i) ha).2.2 ret hret p l hl
  obtain ⟨ev, hev, hnumber, rfl⟩ := mem_traceOf.1 hy
  have hsame : ev.toEngagement = ret.toEngagement :=
    hs.orderly.number_inj _ _ (hs.orderly.known ev hev) (.inr ⟨ret, hret, rfl⟩) hnumber
  refine ⟨ev, hev, hsame, ?_, p, l, htakes⟩
  rw [Equipment.TakesAs, hkind] at htakes
  cases kind with
  | register =>
      obtain ⟨newer, older, hhistory⟩ := List.append_of_mem hev
      obtain ⟨-, c, hx, -⟩ := hs.grows.before hhistory
      obtain ⟨g, ⟨request, answer⟩, before⟩ := ev
      cases htakes
      have hanswer : (Register.perform (fleet ret.who).me before.now before.leases.register
          (.acquire p)).1 = .ok (l, true) := (congrArg Prod.fst hx).symm
      obtain ⟨t, old, ht, hold, hnext⟩ := Register.of_acquired hanswer
      exact ⟨_, _, _, old, rfl, rfl, ⟨t, ht, hold⟩, hnext⟩
  | bucket => exact htakes

theorem not_takes_of_busy [DecidableEq ι] {s : State ι}
    (hs : Reachable fleet (fun _ => Action.IsOfLeases) init s) {who : ι} {number : Nat}
    {cancel : Cancellation} {task : Task Site (Except Error (Lease × Bool))}
    (hbusy : s.busy who = some ⟨number, .lease cancel (.acquire p), task⟩) {ev : Event ι}
    (hev : ev ∈ s.world.history) (hnumber : ev.number = number) :
    ¬ (fleet who).Takes ev.toExchange := by
  have halong := (hs.attainable.lawful fun i a ha => along_of_leases (e := fleet i) ha).2.1 who _ hbusy
  have htime := hs.takesTime hbusy
  rw [State.past_of_busy hbusy] at halong
  cases task with
  | done outcome => cases htime
  | ask r resume => exact halong.1 ⟨_, _, rfl⟩ htime _ (mem_traceOf.2 ⟨ev, hev, hnumber, rfl⟩)

/-- Of two leases that were taken, the one that was answered later was put there later. -/
theorem exists_puts_in_order [DecidableEq ι] (hkind : ∀ i, (fleet i).leases = kind) {s : State ι}
    (hs : Reachable fleet (fun _ => Action.IsOfLeases) init s) {newer middle older : List (Return ι)}
    {ret₁ ret₂ : Return ι} (hreturns : s.returns = newer ++ ret₂ :: (middle ++ ret₁ :: older))
    {l₁ l₂ : Lease} (h₁ : ret₁.action.Took ret₁.outcome p l₁) (h₂ : ret₂.action.Took ret₂.outcome p l₂) :
    ∃ ev₁ ev₂ newer middle older, s.world.history = newer ++ ev₂ :: (middle ++ ev₁ :: older) ∧
      ev₁.toEngagement = ret₁.toEngagement ∧ ev₁.Puts kind p l₁ ∧
      ev₂.toEngagement = ret₂.toEngagement ∧ ev₂.Puts kind p l₂ := by
  induction hs generalizing newer with
  | start => simp [State.start] at hreturns
  | @step s s' hs hstep ih =>
      obtain ⟨new, hhistory, hkept | ⟨ret, hnew, hfrom⟩⟩ := hstep.extends
      · obtain ⟨ev₁, ev₂, newer, middle, older, hsplit, hrest⟩ := ih (hkept.symm.trans hreturns)
        exact ⟨ev₁, ev₂, new ++ newer, middle, older, by rw [hhistory, hsplit, List.append_assoc], hrest⟩
      · cases newer with
        | cons _ newer =>
            obtain ⟨rfl, htail⟩ := List.cons.inj (hnew.symm.trans hreturns)
            obtain ⟨ev₁, ev₂, newer, middle, older, hsplit, hrest⟩ := ih htail
            refine ⟨ev₁, ev₂, new ++ newer, middle, older, ?_, hrest⟩
            rw [hhistory, hsplit, List.append_assoc]
        | nil =>
            obtain ⟨rfl, htail⟩ := List.cons.inj (hnew.symm.trans hreturns)
            obtain ⟨ev₁, hev₁, hsame₁, hput₁, -⟩ :=
              exists_puts_of_return hkind hs.attainable (htail ▸ by simp) h₁
            obtain ⟨ev₂, hev₂, hsame₂, hput₂, htakes⟩ :=
              exists_puts_of_return hkind (hs.step hstep).attainable (hnew ▸ List.mem_cons_self) h₂
            have hlate : ev₂ ∈ new := by
              refine (List.mem_append.1 (hhistory ▸ hev₂)).resolve_right fun hev => ?_
              have hnumber : ev₂.number = ret.number := congrArg Engagement.number hsame₂
              rcases hfrom with hbegun | ⟨task, hbusy⟩
              · have hlt := hs.attainable.orderly.number_lt _ (hs.attainable.orderly.known ev₂ hev)
                exact absurd (hnumber.trans hbegun) (Nat.ne_of_lt hlt)
              · obtain ⟨⟨who, number, a⟩, outcome⟩ := ret
                obtain ⟨cancel, rfl⟩ := h₂.action_eq
                exact not_takes_of_busy hs hbusy hev hnumber htakes
            obtain ⟨newer, middle, rfl⟩ := List.append_of_mem hlate
            obtain ⟨middle', older', hsplit⟩ := List.append_of_mem hev₁
            refine ⟨ev₁, ev₂, newer, middle ++ middle', older', ?_, hsame₁, hput₁, hsame₂, hput₂⟩
            rw [hhistory, hsplit]
            simp only [List.append_assoc, List.cons_append]

/--
Where all claimants have the same term and make calls on leases only: when a lease was taken by somebody
who has a name, then whoever is answered later that it has taken the same lease has decided so by a clock
that showed more than the expiry of the first, unless the lease was given back by the first one's name or
removed in between.
-/
theorem exclusive_tenure [DecidableEq ι] (hkind : ∀ i, (fleet i).leases = kind)
    (hterm : ∀ i, (fleet i).me.term = term) (hsound : (init.bucket .leases).Sound) {s : State ι}
    (hs : Reachable fleet (fun _ => Action.IsOfLeases) init s) {newer middle older : List (Return ι)}
    {ret₁ ret₂ : Return ι} (hreturns : s.returns = newer ++ ret₂ :: (middle ++ ret₁ :: older))
    {l₁ l₂ : Lease} (h₁ : ret₁.action.Took ret₁.outcome p l₁) (h₂ : ret₂.action.Took ret₂.outcome p l₂)
    (hnamed : (fleet ret₁.who).me.owner ≠ "") :
    ∃ ev₁ ev₂ newer middle older, s.world.history = newer ++ ev₂ :: (middle ++ ev₁ :: older) ∧
      ev₁.toEngagement = ret₁.toEngagement ∧ ev₁.Puts kind p l₁ ∧
      ev₂.toEngagement = ret₂.toEngagement ∧ ev₂.Puts kind p l₂ ∧
      ((∀ ev ∈ middle, ¬ ev.Clears kind p ∧ ¬ ev.ReleasedBy fleet kind (fleet ret₁.who).me.owner p) →
        ∃ t, l₁.expiresAt < t ∧ t ≤ ev₂.before.now ∧ l₂.expiresAt = t.plus term) := by
  obtain ⟨ev₁, ev₂, newer, middle, older, hhistory, hsame₁, hput₁, hsame₂, hput₂⟩ :=
    exists_puts_in_order hkind hs hreturns h₁ h₂
  refine ⟨ev₁, ev₂, newer, middle, older, hhistory, hsame₁, hput₁, hsame₂, hput₂, fun hkept => ?_⟩
  have hw := hs.attainable.grows
  have hlaw : Lawful fleet.discipline s.world.history :=
    (hs.attainable.lawful fun i a _ => (fleet i).along_discipline a).1
  have hcalls : ∀ ev ∈ s.world.history, ev.action.IsOfLeases :=
    fun ev hev => hs.attainable.may_of_mem hev
  have hhistory₁ : s.world.history = (newer ++ ev₂ :: middle) ++ ev₁ :: older := by
    rw [hhistory, List.append_assoc, List.cons_append]
  obtain ⟨cancel₁, haction₁⟩ := h₁.action_eq
  obtain ⟨cancel₂, haction₂⟩ := h₂.action_eq
  obtain ⟨op₁, old₁, t₁, hmade₁⟩ := exists_made hw hsound hlaw hhistory₁ hput₁
  obtain ⟨op₂, old₂, t₂, hmade₂⟩ := exists_made hw hsound hlaw hhistory hput₂
  obtain ⟨-, howner₁, hexpiry₁⟩ :=
    hmade₁.of_acquire ((congrArg Engagement.action hsame₁).trans haction₁)
  obtain ⟨havailable₂, -, hexpiry₂⟩ :=
    hmade₂.of_acquire ((congrArg Engagement.action hsame₂).trans haction₂)
  rw [hterm] at hexpiry₁ hexpiry₂
  have hlonger : l₁.expiresAt ≤ ev₁.before.now.plus term := by
    obtain ⟨n, hn⟩ := hmade₁.reading
    rw [hexpiry₁, hn]
    exact Timestamp.plus_mono (hn ▸ hmade₁.time_le) (Nat.le_refl _)
  rw [← show ev₁.who = ret₁.who from congrArg Engagement.who hsame₁, ← howner₁] at hnamed hkept
  refine ⟨t₂, ?_, hmade₂.time_le, hexpiry₂⟩
  have hbefore : World.Grows fleet init ⟨ev₂.before, middle ++ ev₁ :: older⟩ := (hw.before hhistory).1
  have hlaw₂ := (hhistory ▸ hlaw).of_append.2
  have hcalls₂ : ∀ ev ∈ middle ++ ev₁ :: older, ev.action.IsOfLeases :=
    fun ev hev => hcalls ev (by rw [hhistory]; exact List.mem_append_right _ (List.mem_cons_of_mem _ hev))
  rcases tenure_or hbefore hsound hlaw₂ hterm hcalls₂ hput₁ hnamed hlonger rfl hkept with
    ⟨l, hl, howner, hle⟩ | ⟨ev, hev, ⟨m, hput⟩, hlater⟩
  · obtain rfl := hmade₂.eq_of_keeps l hl
    rcases isAvailable_iff.1 havailable₂ with hnone | hexpired
    · exact absurd (howner.symm.trans hnone) hnamed
    · exact lt_of_le_of_lt hle hexpired
  · exact lt_of_lt_of_le hlater (hmade₂.latest ev (List.mem_append_left _ hev) m hput)

/-! ## Two claims -/

theorem not_clears_of_claims [DecidableEq ι] {s : State ι}
    (hs : Attainable fleet (fun _ => Action.IsClaim) init s) {ev : Event ι} (hev : ev ∈ s.world.history)
    (owner : String) : ¬ ev.Clears kind p ∧ ¬ ev.ReleasedBy fleet kind owner p := by
  have hclaim : ev.action.IsClaim := hs.may_of_mem hev
  have hlaw := (hs.lawful fun i a _ => (fleet i).along_discipline a).1
  obtain ⟨newer, older, hhistory⟩ := List.append_of_mem hev
  have huses : ∀ op, ev.action.UsesLease op → op ≠ .delete p ∧ op ≠ .deleteStore := by
    intro op hop
    revert hclaim hop
    cases ev.action with
    | lease cancel op' =>
        rintro hclaim rfl
        cases op' with
        | ensure q => simp
        | acquire q => simp
        | _ => cases hclaim
    | _ => exact nofun
  constructor
  · intro hclears
    cases kind with
    | register =>
        obtain ⟨me, op, hr, hop⟩ := hclears
        have := huses op (uses_of_leaseTable (hhistory ▸ hlaw) hr).2
        exact hop.elim this.1 this.2
    | bucket =>
        rcases uses_of_removed (hhistory ▸ hlaw) hclears with h | h
        · exact (huses _ h).1 rfl
        · exact (huses _ h).2 rfl
  · rintro ⟨-, ⟨cancel, haction⟩, -⟩
    rw [haction] at hclaim
    exact hclaim

/-- A lease is taken by the one, and after a while by the other. -/
def claimTwice (pause : Duration) : List (Cue Bool) :=
  [.begin false (.lease .never (.ensure "0")), .answer false, .answer false,
    .begin false (.lease .never (.acquire "0")), .answer false, .answer false, .pass pause,
    .begin true (.lease .never (.acquire "0")), .answer true, .answer true]

theorem claims_of_claimTwice {pause : Duration} :
    ∀ cue ∈ claimTwice pause, cue.IsAllowed fun _ => Action.IsClaim := by
  simp [claimTwice, Cue.IsAllowed, Action.IsClaim]

theorem exclusive_tenure_claimTwice : ∃ t, (Timestamp.ofNanos 30000000000) < t ∧
    Timestamp.ofNanos 70000000000 = t.plus (.ofSeconds 30) := by
  have hreturns : (play (.pair .bucket) .ofBuckets (claimTwice (.ofSeconds 40))).returns.map
      (fun ret => (ret.who, ret.action.acquired? ret.outcome)) =
        [(true, some ("0", ⟨"0", "b", .ofNanos 70000000000, 2⟩, true)),
          (false, some ("0", ⟨"0", "a", .ofNanos 30000000000, 1⟩, true)), (false, none)] := by
    decide +kernel
  have hclaims : Reachable (.pair .bucket) (fun _ => Action.IsClaim) .ofBuckets
      (play (.pair .bucket) .ofBuckets (claimTwice (.ofSeconds 40))) := reachable_play claims_of_claimTwice
  have hs : Reachable (.pair .bucket) (fun _ => Action.IsOfLeases) .ofBuckets
      (play (.pair .bucket) .ofBuckets (claimTwice (.ofSeconds 40))) :=
    reachable_play (by simp [claimTwice, Cue.IsAllowed, Action.IsOfLeases])
  simp only [List.map_eq_cons_iff, Prod.mk.injEq] at hreturns
  obtain ⟨ret₂, _, hsplit, ⟨-, h₂⟩, ret₁, older, rfl, ⟨hwho, h₁⟩, -⟩ := hreturns
  have hkind : ∀ i, (Fleet.pair .bucket i).leases = .bucket := fun _ => rfl
  have hterm : ∀ i, (Fleet.pair .bucket i).me.term = .ofSeconds 30 := fun _ => rfl
  have horder : (play (.pair .bucket) .ofBuckets (claimTwice (.ofSeconds 40))).returns =
      [] ++ ret₂ :: ([] ++ ret₁ :: older) := hsplit
  obtain ⟨ev₁, ev₂, newer, middle, rest, hhistory, -, -, -, -, hlater⟩ :=
    exclusive_tenure hkind hterm (Bucket.sound_of_empty rfl) hs horder h₁ h₂ (by rw [hwho]; decide)
  obtain ⟨t, hlt, -, hexpiry⟩ := hlater fun ev hev =>
    not_clears_of_claims hclaims.attainable (by rw [hhistory]; simp [hev]) _
  exact ⟨t, hlt, hexpiry⟩

/-- The lease that the host without a name has just taken is taken by host b at once. -/
theorem nameless_without_tenure : ∃ s : State Bool,
    Reachable .halfNamed (fun _ => Action.IsOfLeases) .ofBuckets s ∧
    ∃ ret₁ ret₂ older l₁ l₂, s.returns = ret₂ :: ret₁ :: older ∧
      ret₁.action.Took ret₁.outcome "0" l₁ ∧ ret₂.action.Took ret₂.outcome "0" l₂ ∧
      s.world.cluster.now ≤ l₁.expiresAt ∧
      ∀ ev ∈ s.world.history, ¬ ev.Clears .bucket "0" ∧ ¬ ev.ReleasedBy .halfNamed .bucket "" "0" := by
  have hreturns : (play .halfNamed .ofBuckets (claimTwice (.ofSeconds 0))).returns.map
      (fun ret => ret.action.acquired? ret.outcome) =
        [some ("0", ⟨"0", "b", .ofNanos 30000000000, 2⟩, true),
          some ("0", ⟨"0", "", .ofNanos 30000000000, 1⟩, true), none] := by
    decide +kernel
  have hclaims : Reachable .halfNamed (fun _ => Action.IsClaim) .ofBuckets
      (play .halfNamed .ofBuckets (claimTwice (.ofSeconds 0))) := reachable_play claims_of_claimTwice
  have hs : Reachable .halfNamed (fun _ => Action.IsOfLeases) .ofBuckets
      (play .halfNamed .ofBuckets (claimTwice (.ofSeconds 0))) :=
    reachable_play (by simp [claimTwice, Cue.IsAllowed, Action.IsOfLeases])
  simp only [List.map_eq_cons_iff] at hreturns
  obtain ⟨ret₂, _, hsplit, h₂, ret₁, older, rfl, h₁, -⟩ := hreturns
  exact ⟨_, hs, ret₁, ret₂, older, _, _, hsplit, h₁, h₂, by decide +kernel,
    fun ev hev => not_clears_of_claims hclaims.attainable hev _⟩

end Lease

end PartitionHost
