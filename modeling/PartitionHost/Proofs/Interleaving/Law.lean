import PartitionHost.Proofs.Interleaving.Run

/-!
# Laws: what a task does whatever it is answered

A law says of a request whether it may be made after the exchanges that the task has had so far.
`Task.Along` says that all requests of a task obey a law, whatever the answers are, and what is known of
the exchanges when the task comes to its end. It is proved of a task by itself, without a thought for
others; `Attainable.lawful` carries it over to runs, where each engagement obeys its law in the history.
-/

namespace PartitionHost

namespace Task

variable {I J : Interface} {α β : Type}

/-- All requests obey the law after what was exchanged before them, the latest first. -/
def Along (law : List (Exchange I) → I.Request → Prop) :
    Task I α → (α → List (Exchange I) → Prop) → List (Exchange I) → Prop
  | .done a, post, past => post a past
  | .ask r resume, post, past => law past r ∧ ∀ x, (resume x).Along law post (⟨r, x⟩ :: past)

variable {law law' : List (Exchange I) → I.Request → Prop}

@[simp] theorem along_bind (t : Task I α) (f : α → Task I β) (post : β → List (Exchange I) → Prop)
    (past : List (Exchange I)) :
    (t.bind f).Along law post past ↔ t.Along law (fun a past => (f a).Along law post past) past := by
  induction t generalizing past with
  | done a => rfl
  | ask r resume ih =>
      simp only [ask_bind, Along]
      exact and_congr_right fun _ => forall_congr' fun x => ih x _

theorem Along.mono {t : Task I α} {post post' : α → List (Exchange I) → Prop}
    {past : List (Exchange I)} (h : t.Along law post past)
    (hlaw : ∀ past r, law past r → law' past r) (hpost : ∀ a past, post a past → post' a past) :
    t.Along law' post' past := by
  induction t generalizing past with
  | done a => exact hpost a past h
  | ask r resume ih => exact ⟨hlaw _ _ h.1, fun x => ih x (h.2 x)⟩

theorem serve_bind (answer : (r : I.Request) → Task J (I.Answer r)) (t : Task I α)
    (f : α → Task I β) :
    (t.bind f).serve answer = (t.serve answer).bind fun a => (f a).serve answer := by
  induction t with
  | done a => rfl
  | ask r resume ih =>
      simp only [ask_bind, serve, bind_assoc]
      congr 1
      funext x
      exact ih x

theorem Along.and {t : Task I α} {post post' : α → List (Exchange I) → Prop}
    {past : List (Exchange I)} (h : t.Along law post past) (h' : t.Along law' post' past) :
    t.Along (fun past r => law past r ∧ law' past r) (fun a past => post a past ∧ post' a past)
      past := by
  induction t generalizing past with
  | done a => exact ⟨h, h'⟩
  | ask r resume ih => exact ⟨⟨h.1, h'.1⟩, fun x => ih x (h.2 x) (h'.2 x)⟩

/-! ## Requests one by one -/

def Asks (ok : I.Request → Prop) : Task I α → Prop
  | .done _ => True
  | .ask r resume => ok r ∧ ∀ x, (resume x).Asks ok

variable {ok : I.Request → Prop}

theorem Asks.bind {t : Task I α} {f : α → Task I β} (ht : t.Asks ok) (hf : ∀ a, (f a).Asks ok) :
    (t.bind f).Asks ok := by
  induction t with
  | done a => exact hf a
  | ask r resume ih => exact ⟨ht.1, fun x => ih x (ht.2 x)⟩

theorem asks_true (t : Task I α) : t.Asks fun _ => True := by
  induction t with
  | done a => trivial
  | ask r resume ih => exact ⟨trivial, ih⟩

theorem Asks.mono {ok' : I.Request → Prop} {t : Task I α} (h : t.Asks ok) (hok : ∀ r, ok r → ok' r) :
    t.Asks ok' := by
  induction t with
  | done a => trivial
  | ask r resume ih => exact ⟨hok r h.1, fun x => ih x (h.2 x)⟩

theorem Asks.serve {ok' : J.Request → Prop} {answer : (r : I.Request) → Task J (I.Answer r)}
    {t : Task I α} (ht : t.Asks ok) (h : ∀ r, ok r → (answer r).Asks ok') :
    (t.serve answer).Asks ok' := by
  induction t with
  | done a => trivial
  | ask r resume ih => exact (h r ht.1).bind fun x => ih x (ht.2 x)

theorem Asks.along {t : Task I α} {keep : List (Exchange I) → Prop} {past : List (Exchange I)}
    (ht : t.Asks ok) (hpast : keep past)
    (hkeep : ∀ past r x, ok r → keep past → keep (⟨r, x⟩ :: past))
    (hlaw : ∀ past r, keep past → ok r → law past r) : t.Along law (fun _ past => keep past) past := by
  induction t generalizing past with
  | done a => exact hpast
  | ask r resume ih =>
      exact ⟨hlaw past r hpast ht.1, fun x => ih x (ht.2 x) (hkeep past r x ht.1 hpast)⟩

theorem Along.asks {t : Task I α} {post : α → List (Exchange I) → Prop} {past : List (Exchange I)}
    (h : t.Along law post past) (hlaw : ∀ past r, law past r → ok r) : t.Asks ok := by
  induction t generalizing past with
  | done a => trivial
  | ask r resume ih => exact ⟨hlaw past r h.1, fun x => ih x (h.2 x)⟩

theorem along_serve {law : List (Exchange J) → J.Request → Prop} {keep : List (Exchange J) → Prop}
    {answer : (r : I.Request) → Task J (I.Answer r)} {t : Task I α} (ht : t.Asks ok)
    (h : ∀ r, ok r → ∀ past, keep past → (answer r).Along law (fun _ past => keep past) past)
    {past : List (Exchange J)} (hpast : keep past) :
    (t.serve answer).Along law (fun _ past => keep past) past := by
  induction t generalizing past with
  | done a => exact hpast
  | ask r resume ih =>
      rw [serve, along_bind]
      exact (h r ht.1 past hpast).mono (fun _ _ => id) fun x past hpast => ih x (ht.2 x) hpast

theorem Asks.along_of_forall {t : Task I α} (ht : t.Asks ok) (hlaw : ∀ past r, ok r → law past r)
    (past : List (Exchange I)) : t.Along law (fun _ _ => True) past :=
  ht.along trivial (fun _ _ _ _ => id) fun past r _ => hlaw past r

end Task

/-! ## Since -/

/-- It came to be so with some element of a list, the latest first, and has not come to an end since. -/
def Since {α : Type} (so : α → List α → Prop) (ends : α → Prop) : List α → Prop
  | [] => False
  | x :: past => so x past ∨ ¬ ends x ∧ Since so ends past

theorem since_cons_of_not {α : Type} {so : α → List α → Prop} {ends : α → Prop} {x : α}
    {past : List α} (hso : ¬ so x past) (hends : ¬ ends x) :
    Since so ends (x :: past) ↔ Since so ends past := by
  simp [Since, hso, hends]

variable {ι : Type}

/-- For each action of each, what it may ask after what was exchanged. -/
abbrev Law (ι : Type) := ι → Action → List (Exchange Site) → Site.Request → Prop

/-- All events obey the law after what their engagement exchanged before them. -/
def Lawful (law : Law ι) : List (Event ι) → Prop
  | [] => True
  | ev :: older => law ev.who ev.action (traceOf ev.number older) ev.request ∧ Lawful law older

theorem Lawful.of_append {law : Law ι} {newer older : List (Event ι)}
    (h : Lawful law (newer ++ older)) : Lawful law older := by
  induction newer with
  | nil => exact h
  | cons ev newer ih => exact ih h.2

variable [DecidableEq ι] {fleet : Fleet ι} {may : ι → Action → Prop} {init : Cluster} {law : Law ι}
  {post : (i : ι) → (a : Action) → Except Error a.Reply → List (Exchange Site) → Prop}

/-- What is lawful of a task is lawful of the history of a run. -/
theorem Attainable.lawful
    (htask : ∀ i a, may i a → ((fleet i).task a).Along (law i a) (post i a) []) {s : State ι}
    (h : Attainable fleet may init s) :
    Lawful law s.world.history ∧
      (∀ i o, s.busy i = some o → o.task.Along (law i o.action) (post i o.action) (s.past i)) ∧
      ∀ ret ∈ s.returns, post ret.who ret.action ret.outcome (traceOf ret.number s.world.history) := by
  induction h with
  | start => exact ⟨trivial, by rintro i o ⟨⟩, by rintro ret ⟨⟩⟩
  | @move s s' hs hmove ih =>
      obtain ⟨hlaw, hbusy', hreturns⟩ := ih
      have hord := hs.orderly
      cases hmove with
      | begin who a hmay hidle =>
          refine ⟨hlaw, ?_, hreturns⟩
          intro i o hi
          rw [hord.past_begin hidle]
          by_cases hw : i = who
          · subst hw
            rw [State.past_of_idle hidle]
            simp only [State.begin, State.engage_busy_self, Option.some.injEq] at hi
            subst hi
            exact htask i a hmay
          · exact hbusy' i o ((State.engage_busy_of_ne s _ hw).symm.trans hi)
      | @exchange who number a r resume hbusy x c hx =>
          have hstep := hbusy' who _ hbusy
          refine ⟨⟨State.past_of_busy hbusy ▸ hstep.1, hlaw⟩, ?_, ?_⟩
          · intro i o hi
            by_cases hw : i = who
            · subst hw
              rw [State.engage_busy_self] at hi
              cases hi
              rw [State.past_exchange_self hbusy]
              exact hstep.2 x
            · rw [hord.past_exchange_of_ne hbusy _ _ _ hw]
              exact hbusy' i o ((State.engage_busy_of_ne _ _ hw).symm.trans hi)
          · intro ret hret
            have hne : number ≠ ret.number := hord.ended ret hret who _ hbusy
            have htrace : traceOf ret.number (⟨⟨who, number, a⟩, ⟨r, x⟩, s.world.cluster⟩ ::
                s.world.history) = traceOf ret.number s.world.history := traceOf_cons_of_ne hne _
            exact htrace ▸ hreturns ret hret
      | @finish who number a outcome hbusy =>
          have hend := hbusy' who _ hbusy
          rw [State.past_of_busy hbusy] at hend
          refine ⟨hlaw, ?_, List.forall_mem_cons.2 ⟨hend, hreturns⟩⟩
          intro i o hi
          have hw : i ≠ who := by
            rintro rfl
            simp [State.finish] at hi
          rw [State.past_finish_of_ne _ hw]
          exact hbusy' i o ((State.engage_busy_of_ne s none hw).symm.trans hi)
      | drift hc => exact ⟨hlaw, hbusy', hreturns⟩

theorem Attainable.asked_of_mem {ok : ι → Action → Site.Request → Prop}
    (htask : ∀ i a, may i a → ((fleet i).task a).Asks (ok i a)) {s : State ι}
    (h : Attainable fleet may init s) {ev : Event ι} (hev : ev ∈ s.world.history) :
    ok ev.who ev.action ev.request := by
  have hlaw : Lawful (fun i a _ r => ok i a r) s.world.history :=
    (h.lawful fun i a hmay => (htask i a hmay).along_of_forall (fun _ _ => id) []).1
  generalize s.world.history = history at hev hlaw
  induction history with
  | nil => cases hev
  | cons ev' older ih =>
      rcases List.mem_cons.1 hev with rfl | hev
      · exact hlaw.1
      · exact ih hev hlaw.2

theorem Attainable.may_of_mem {s : State ι} (h : Attainable fleet may init s) {ev : Event ι}
    (hev : ev ∈ s.world.history) : may ev.who ev.action :=
  h.asked_of_mem (fun _ _ hmay => (Task.asks_true _).mono fun _ _ => hmay) hev

end PartitionHost
