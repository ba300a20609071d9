import PartitionHost.Proofs.Interleaving.World

/-!
# Runs: many actions side by side

Everybody does one thing at a time. A step of a run (`Advance`) begins an action, answers the request that
somebody waits for, or lets time pass. After an answer the task goes on until it makes a request that takes
time, and all that it asks until then is answered at once, in the same step.

A step is made of moves (`Move`), each of which is at most one exchange. What does not depend on how moves
make up steps is proved of moves: `Reachable.attainable`.
-/

namespace PartitionHost

variable {ι : Type}

/-- What is left of an action that somebody has begun. -/
structure Ongoing where
  number : Nat
  action : Action
  task : Task Site (Except Error action.Reply)

/-- An action that has come to its end, with its outcome. -/
structure Return (ι : Type) extends Engagement ι where
  outcome : Except Error action.Reply

structure State (ι : Type) where
  world : World ι
  busy : ι → Option Ongoing := fun _ => none
  /-- How many actions have been begun. -/
  begun : Nat := 0
  /-- The actions that have come to their end, the latest first. -/
  returns : List (Return ι) := []

namespace State

def start (init : Cluster) : State ι := { world := ⟨init, []⟩ }

def record (s : State ι) (g : Engagement ι) (x : Exchange Site) (c : Cluster) : State ι :=
  { s with world := s.world.record g x c }

def drift (s : State ι) (c : Cluster) : State ι := { s with world := ⟨c, s.world.history⟩ }

variable [DecidableEq ι]

def engage (s : State ι) (who : ι) (o : Option Ongoing) : State ι :=
  { s with busy := fun i => if i = who then o else s.busy i }

def begin (s : State ι) (who : ι) (a : Action) (task : Task Site (Except Error a.Reply)) : State ι :=
  { s.engage who (some ⟨s.begun, a, task⟩) with begun := s.begun + 1 }

def finish (s : State ι) (g : Engagement ι) (outcome : Except Error g.action.Reply) : State ι :=
  { s.engage g.who none with returns := ⟨g, outcome⟩ :: s.returns }

/-- Goes on with a task as long as its requests are answered at once. -/
def goOn (host : String) (g : Engagement ι) :
    Task Site (Except Error g.action.Reply) → State ι → State ι
  | .done outcome, s => s.finish g outcome
  | .ask r resume, s =>
    match s.world.cluster.promptly? host r with
    | some (x, c) => goOn host g (resume x) (s.record g ⟨r, x⟩ c)
    | none => s.engage g.who (some ⟨g.number, g.action, .ask r resume⟩)

end State

variable [DecidableEq ι]

/-- One step of a run in which these actions may be begun. -/
inductive Advance (fleet : Fleet ι) (may : ι → Action → Prop) : State ι → State ι → Prop where
  | begin {s : State ι} (who : ι) (a : Action) (hmay : may who a) (hidle : s.busy who = none) :
      Advance fleet may s
        ((s.begin who a ((fleet who).task a)).goOn (fleet who).me.owner ⟨who, s.begun, a⟩
          ((fleet who).task a))
  | answer {s : State ι} (who : ι) {number : Nat} {a : Action} {r : Site.Request}
      {resume : r.Answer → Task Site (Except Error a.Reply)}
      (hbusy : s.busy who = some ⟨number, a, .ask r resume⟩) {x : r.Answer} {c : Cluster}
      (hx : Cluster.Answers (fleet who).me.owner s.world.cluster r x c) :
      Advance fleet may s
        ((s.record ⟨who, number, a⟩ ⟨r, x⟩ c).goOn (fleet who).me.owner ⟨who, number, a⟩ (resume x))
  | drift {s : State ι} {c : Cluster} (hc : Cluster.Drifts s.world.cluster c) :
      Advance fleet may s (s.drift c)

inductive Reachable (fleet : Fleet ι) (may : ι → Action → Prop) (init : Cluster) : State ι → Prop where
  | start : Reachable fleet may init (.start init)
  | step {s s' : State ι} (hs : Reachable fleet may init s) (h : Advance fleet may s s') :
      Reachable fleet may init s'

/-- The next request of a task is of a kind; a task that is done has none. -/
def Task.First {I : Interface} {α : Type} (ok : I.Request → Prop) : Task I α → Prop
  | .done _ => False
  | .ask r _ => ok r

/-! ## Moves -/

/-- The least that can happen in a run: at most one exchange. -/
inductive Move (fleet : Fleet ι) (may : ι → Action → Prop) : State ι → State ι → Prop where
  | begin {s : State ι} (who : ι) (a : Action) (hmay : may who a) (hidle : s.busy who = none) :
      Move fleet may s (s.begin who a ((fleet who).task a))
  | exchange {s : State ι} (who : ι) {number : Nat} {a : Action} {r : Site.Request}
      {resume : r.Answer → Task Site (Except Error a.Reply)}
      (hbusy : s.busy who = some ⟨number, a, .ask r resume⟩) {x : r.Answer} {c : Cluster}
      (hx : Cluster.Answers (fleet who).me.owner s.world.cluster r x c) :
      Move fleet may s
        ((s.record ⟨who, number, a⟩ ⟨r, x⟩ c).engage who (some ⟨number, a, resume x⟩))
  | finish {s : State ι} (who : ι) {number : Nat} {a : Action} {outcome : Except Error a.Reply}
      (hbusy : s.busy who = some ⟨number, a, .done outcome⟩) :
      Move fleet may s (s.finish ⟨who, number, a⟩ outcome)
  | drift {s : State ι} {c : Cluster} (hc : Cluster.Drifts s.world.cluster c) :
      Move fleet may s (s.drift c)

inductive Attainable (fleet : Fleet ι) (may : ι → Action → Prop) (init : Cluster) : State ι → Prop where
  | start : Attainable fleet may init (.start init)
  | move {s s' : State ι} (hs : Attainable fleet may init s) (h : Move fleet may s s') :
      Attainable fleet may init s'

namespace State

@[simp] theorem engage_engage (s : State ι) (who : ι) (o o' : Option Ongoing) :
    (s.engage who o).engage who o' = s.engage who o' := by
  unfold engage
  congr 1
  funext i
  by_cases h : i = who <;> simp [h]

theorem engage_self {s : State ι} {who : ι} {o : Option Ongoing} (h : s.busy who = o) :
    s.engage who o = s := by
  unfold engage
  congr 1
  funext i
  by_cases hi : i = who
  · subst hi; simp [h]
  · simp [hi]

@[simp] theorem engage_busy_self (s : State ι) (who : ι) (o : Option Ongoing) :
    (s.engage who o).busy who = o := by
  simp [engage]

theorem engage_busy_of_ne (s : State ι) {who i : ι} (o : Option Ongoing) (h : i ≠ who) :
    (s.engage who o).busy i = s.busy i := by
  simp [engage, h]

theorem takesTime_of_goOn {host : String} {g : Engagement ι}
    {t : Task Site (Except Error g.action.Reply)} {s : State ι} {i : ι} {o : Ongoing}
    (h : (goOn host g t s).busy i = some o) :
    i ≠ g.who ∧ s.busy i = some o ∨ o.task.First Site.Request.TakesTime := by
  induction t generalizing s with
  | done outcome =>
      by_cases hi : i = g.who
      · simp [goOn, finish, hi] at h
      · exact .inl ⟨hi, (engage_busy_of_ne s none hi).symm.trans h⟩
  | ask r resume ih =>
      rw [goOn] at h
      split at h
      · have hrest := ih _ h
        exact hrest
      · rename_i hnone
        by_cases hi : i = g.who
        · subst hi
          rw [engage_busy_self] at h
          cases h
          exact .inr (Cluster.takesTime_of_promptly? hnone)
        · exact .inl ⟨hi, (engage_busy_of_ne s _ hi).symm.trans h⟩

end State

variable {fleet : Fleet ι} {may : ι → Action → Prop} {init : Cluster}

/-- Between the steps of a run, whoever is busy waits for what takes time. -/
theorem Reachable.takesTime {s : State ι} (h : Reachable fleet may init s) {i : ι} {o : Ongoing}
    (hbusy : s.busy i = some o) : o.task.First Site.Request.TakesTime := by
  induction h with
  | start => cases hbusy
  | step _ hstep ih =>
      cases hstep with
      | begin who a hmay hidle =>
          rcases State.takesTime_of_goOn hbusy with ⟨hi, hbusy⟩ | h
          · exact ih ((State.engage_busy_of_ne _ _ hi).symm.trans hbusy)
          · exact h
      | answer who hwait hx =>
          rcases State.takesTime_of_goOn hbusy with ⟨hi, hbusy⟩ | h
          · exact ih hbusy
          · exact h
      | drift hc => exact ih hbusy

theorem Attainable.goOn {g : Engagement ι} {t : Task Site (Except Error g.action.Reply)}
    {s : State ι}
    (h : Attainable fleet may init (s.engage g.who (some ⟨g.number, g.action, t⟩))) :
    Attainable fleet may init (s.goOn (fleet g.who).me.owner g t) := by
  induction t generalizing s with
  | done outcome =>
      have := h.move (.finish g.who (State.engage_busy_self ..))
      unfold State.finish at this
      rwa [State.engage_engage] at this
  | ask r resume ih =>
      rw [State.goOn]
      split
      · rename_i x c hx
        refine ih x ?_
        have := h.move (.exchange g.who (State.engage_busy_self ..) (Cluster.answers_of_promptly? hx))
        change Attainable fleet may init
          (((s.record g ⟨r, x⟩ c).engage g.who _).engage g.who _) at this
        rwa [State.engage_engage] at this
      · exact h

theorem Reachable.attainable {s : State ι} (h : Reachable fleet may init s) :
    Attainable fleet may init s := by
  induction h with
  | start => exact .start
  | step _ hstep ih =>
      cases hstep with
      | begin who a hmay hidle =>
          refine Attainable.goOn (g := ⟨who, _, a⟩) ?_
          rw [State.engage_self (by simp [State.begin])]
          exact ih.move (.begin who a hmay hidle)
      | answer who hbusy hx => exact Attainable.goOn (g := ⟨who, _, _⟩) (ih.move (.exchange who hbusy hx))
      | drift hc => exact ih.move (.drift hc)

theorem Attainable.grows {s : State ι} (h : Attainable fleet may init s) :
    s.world.Grows fleet init := by
  induction h with
  | start => exact .start
  | move _ hmove ih =>
      cases hmove with
      | begin who a hmay hidle => exact ih
      | exchange who hbusy hx => exact ih.exchange ⟨who, _, _⟩ hx
      | finish who hbusy => exact ih
      | drift hc => exact ih.drift hc

/-! ## What a step adds -/

theorem State.goOn_extends (host : String) (g : Engagement ι)
    (t : Task Site (Except Error g.action.Reply)) (s : State ι) :
    ∃ new, (s.goOn host g t).world.history = new ++ s.world.history ∧
      ((s.goOn host g t).returns = s.returns ∨
        ∃ outcome, (s.goOn host g t).returns = ⟨g, outcome⟩ :: s.returns) := by
  induction t generalizing s with
  | done outcome => exact ⟨[], rfl, .inr ⟨outcome, rfl⟩⟩
  | ask r resume ih =>
      rw [State.goOn]
      split
      · rename_i x c hx
        obtain ⟨new, hhistory, hreturns⟩ := ih x (s.record g ⟨r, x⟩ c)
        refine ⟨new ++ [⟨g, ⟨r, x⟩, s.world.cluster⟩], ?_, hreturns⟩
        rw [hhistory, List.append_assoc]
        rfl
      · exact ⟨[], rfl, .inl rfl⟩

theorem Advance.extends {s s' : State ι} (h : Advance fleet may s s') :
    ∃ new, s'.world.history = new ++ s.world.history ∧
      (s'.returns = s.returns ∨ ∃ ret, s'.returns = ret :: s.returns ∧
        (ret.number = s.begun ∨ ∃ task, s.busy ret.who = some ⟨ret.number, ret.action, task⟩)) := by
  cases h with
  | begin who a hmay hidle =>
      obtain ⟨new, hhistory, hreturns⟩ := State.goOn_extends (fleet who).me.owner
        ⟨who, s.begun, a⟩ ((fleet who).task a) (s.begin who a ((fleet who).task a))
      refine ⟨new, hhistory, hreturns.imp id ?_⟩
      rintro ⟨outcome, hreturns⟩
      exact ⟨_, hreturns, .inl rfl⟩
  | @answer who number a r resume hbusy x c hx =>
      obtain ⟨new, hhistory, hreturns⟩ := State.goOn_extends (fleet who).me.owner
        ⟨who, number, a⟩ (resume x) (s.record ⟨who, number, a⟩ ⟨r, x⟩ c)
      refine ⟨new ++ [⟨⟨who, number, a⟩, ⟨r, x⟩, s.world.cluster⟩], ?_, hreturns.imp id ?_⟩
      · rw [hhistory, List.append_assoc]
        rfl
      · rintro ⟨outcome, hreturns⟩
        exact ⟨_, hreturns, .inr ⟨_, hbusy⟩⟩
  | drift hc => exact ⟨[], rfl, .inl rfl⟩

/-! ## Numbers -/

namespace State

/-- Whether an engagement is under way or has come to its end. -/
def Knows (s : State ι) (g : Engagement ι) : Prop :=
  (∃ task, s.busy g.who = some ⟨g.number, g.action, task⟩) ∨ ∃ ret ∈ s.returns, ret.toEngagement = g

/-- All engagements are put down, each with a number of its own, and do not go on after their end. -/
structure Orderly (s : State ι) : Prop where
  known : ∀ ev ∈ s.world.history, s.Knows ev.toEngagement
  number_lt : ∀ g, s.Knows g → g.number < s.begun
  number_inj : ∀ g g', s.Knows g → s.Knows g' → g.number = g'.number → g = g'
  ended : ∀ ret ∈ s.returns, ∀ i o, s.busy i = some o → o.number ≠ ret.number

theorem knows_engage {s : State ι} {who : ι} {number : Nat} {a : Action}
    {task : Task Site (Except Error a.Reply)} {g : Engagement ι}
    (h : (s.engage who (some ⟨number, a, task⟩)).Knows g) : s.Knows g ∨ g = ⟨who, number, a⟩ := by
  rcases h with ⟨task', h⟩ | h
  · by_cases hi : g.who = who
    · subst hi
      rw [engage_busy_self] at h
      cases h
      exact .inr rfl
    · rw [engage_busy_of_ne _ _ hi] at h
      exact .inl (.inl ⟨task', h⟩)
  · exact .inl (.inr h)

theorem knows_engage_of_busy {s : State ι} {who : ι} {number : Nat} {a : Action}
    {task task' : Task Site (Except Error a.Reply)} (hbusy : s.busy who = some ⟨number, a, task⟩)
    {g : Engagement ι} : (s.engage who (some ⟨number, a, task'⟩)).Knows g ↔ s.Knows g := by
  constructor
  · intro h
    rcases knows_engage h with h | rfl
    · exact h
    · exact .inl ⟨task, hbusy⟩
  · rintro (⟨t, h⟩ | h)
    · by_cases hi : g.who = who
      · rw [hi, hbusy] at h
        cases h
        exact .inl ⟨task', by rw [hi, engage_busy_self]⟩
      · exact .inl ⟨t, by rw [engage_busy_of_ne _ _ hi, h]⟩
    · exact .inr h

theorem knows_finish {s : State ι} {who : ι} {number : Nat} {a : Action}
    {task : Task Site (Except Error a.Reply)} (hbusy : s.busy who = some ⟨number, a, task⟩)
    {outcome : Except Error a.Reply} {g : Engagement ι} :
    (s.finish ⟨who, number, a⟩ outcome).Knows g ↔ s.Knows g := by
  constructor
  · rintro (⟨t, h⟩ | ⟨ret, hret, rfl⟩)
    · by_cases hi : g.who = who
      · rw [hi] at h
        simp [finish] at h
      · exact .inl ⟨t, by rw [← engage_busy_of_ne s none hi]; exact h⟩
    · rcases List.mem_cons.1 hret with rfl | hret
      · exact .inl ⟨task, hbusy⟩
      · exact .inr ⟨ret, hret, rfl⟩
  · rintro (⟨t, h⟩ | ⟨ret, hret, rfl⟩)
    · by_cases hi : g.who = who
      · rw [hi, hbusy] at h
        refine .inr ⟨_, List.mem_cons_self, ?_⟩
        cases g
        cases hi
        cases h
        rfl
      · refine .inl ⟨t, ?_⟩
        rw [← h]
        exact engage_busy_of_ne s none hi
    · exact .inr ⟨ret, List.mem_cons_of_mem _ hret, rfl⟩

omit [DecidableEq ι] in
theorem orderly_start (init : Cluster) : (start (ι := ι) init).Orderly := by
  refine ⟨?_, ?_, ?_, ?_⟩
  · rintro ev ⟨⟩
  · rintro g (⟨_, ⟨⟩⟩ | ⟨_, ⟨⟩, _⟩)
  · rintro g g' (⟨_, ⟨⟩⟩ | ⟨_, ⟨⟩, _⟩)
  · rintro ret ⟨⟩

namespace Orderly

variable {s : State ι} {who : ι} {number : Nat} {a : Action}

omit [DecidableEq ι] in
theorem busy_inj (hs : s.Orderly) {i j : ι} {o o' : Ongoing} (hi : s.busy i = some o)
    (hj : s.busy j = some o') (h : o.number = o'.number) : i = j :=
  congrArg Engagement.who
    (hs.number_inj ⟨i, o.number, o.action⟩ ⟨j, o'.number, o'.action⟩ (.inl ⟨_, hi⟩) (.inl ⟨_, hj⟩) h)

theorem begin (hs : s.Orderly) (hidle : s.busy who = none) (task : Task Site (Except Error a.Reply)) :
    (s.begin who a task).Orderly := by
  have hnew : ∀ {g}, (s.begin who a task).Knows g → s.Knows g ∨ g = ⟨who, s.begun, a⟩ := knows_engage
  have hold : ∀ {g}, s.Knows g → (s.begin who a task).Knows g := by
    rintro g (⟨task, hg⟩ | hg)
    · have hi : g.who ≠ who := by
        intro hi
        rw [hi, hidle] at hg
        cases hg
      exact .inl ⟨task, (engage_busy_of_ne s _ hi).trans hg⟩
    · exact .inr hg
  refine ⟨fun ev hev => hold (hs.known ev hev), ?_, ?_, ?_⟩
  · intro g hg
    rcases hnew hg with hg | rfl
    · exact Nat.lt_succ_of_lt (hs.number_lt g hg)
    · exact Nat.lt_succ_self _
  · intro g g' hg hg' heq
    rcases hnew hg with hg | rfl
    · rcases hnew hg' with hg' | rfl
      · exact hs.number_inj g g' hg hg' heq
      · exact absurd heq (Nat.ne_of_lt (hs.number_lt g hg))
    · rcases hnew hg' with hg' | rfl
      · exact absurd heq.symm (Nat.ne_of_lt (hs.number_lt g' hg'))
      · rfl
  · intro ret hret i o hi
    by_cases hw : i = who
    · subst hw
      simp only [State.begin, engage_busy_self, Option.some.injEq] at hi
      rw [← hi]
      exact (Nat.ne_of_lt (hs.number_lt _ (.inr ⟨ret, hret, rfl⟩))).symm
    · exact hs.ended ret hret i o ((engage_busy_of_ne s _ hw).symm.trans hi)

theorem exchange (hs : s.Orderly) {task : Task Site (Except Error a.Reply)}
    (hbusy : s.busy who = some ⟨number, a, task⟩) (x : Exchange Site) (c : Cluster)
    (task' : Task Site (Except Error a.Reply)) :
    ((s.record ⟨who, number, a⟩ x c).engage who (some ⟨number, a, task'⟩)).Orderly := by
  have hknows : ∀ {g}, ((s.record ⟨who, number, a⟩ x c).engage who
      (some ⟨number, a, task'⟩)).Knows g ↔ s.Knows g :=
    knows_engage_of_busy (s := s.record ⟨who, number, a⟩ x c) hbusy
  refine ⟨?_, fun g hg => hs.number_lt g (hknows.1 hg),
    fun g g' hg hg' => hs.number_inj g g' (hknows.1 hg) (hknows.1 hg'), ?_⟩
  · intro ev hev
    rcases List.mem_cons.1 hev with rfl | hev
    · exact hknows.2 (.inl ⟨_, hbusy⟩)
    · exact hknows.2 (hs.known ev hev)
  · intro ret hret i o hi
    by_cases hw : i = who
    · subst hw
      rw [engage_busy_self] at hi
      cases hi
      exact hs.ended ret hret i ⟨number, a, task⟩ hbusy
    · exact hs.ended ret hret i o ((engage_busy_of_ne _ _ hw).symm.trans hi)

theorem finish (hs : s.Orderly) {task : Task Site (Except Error a.Reply)}
    (hbusy : s.busy who = some ⟨number, a, task⟩) (outcome : Except Error a.Reply) :
    (s.finish ⟨who, number, a⟩ outcome).Orderly := by
  have hknows : ∀ {g}, (s.finish ⟨who, number, a⟩ outcome).Knows g ↔ s.Knows g := knows_finish hbusy
  refine ⟨fun ev hev => hknows.2 (hs.known ev hev), fun g hg => hs.number_lt g (hknows.1 hg),
    fun g g' hg hg' => hs.number_inj g g' (hknows.1 hg) (hknows.1 hg'), ?_⟩
  intro ret hret i o hi
  have hw : i ≠ who := by
    rintro rfl
    simp [State.finish] at hi
  have hi' : s.busy i = some o := (engage_busy_of_ne s none hw).symm.trans hi
  rcases List.mem_cons.1 hret with rfl | hret
  · exact fun heq => hw (hs.busy_inj hi' hbusy heq)
  · exact hs.ended ret hret i o hi'

end Orderly

end State

theorem Attainable.orderly {s : State ι} (h : Attainable fleet may init s) : s.Orderly := by
  induction h with
  | start => exact State.orderly_start init
  | move _ hmove ih =>
      cases hmove with
      | begin who a hmay hidle => exact ih.begin hidle _
      | exchange who hbusy hx => exact ih.exchange hbusy _ _ _
      | finish who hbusy => exact ih.finish hbusy _
      | drift hc => exact ⟨ih.known, ih.number_lt, ih.number_inj, ih.ended⟩

/-! ## What somebody has exchanged so far -/

namespace State

/-- The exchanges in the course of what somebody is busy with, the latest first. -/
def past (s : State ι) (i : ι) : List (Exchange Site) :=
  match s.busy i with
  | some o => traceOf o.number s.world.history
  | none => []

variable {s : State ι} {i who : ι} {number : Nat} {a : Action}

omit [DecidableEq ι] in
theorem past_of_busy {o : Ongoing} (h : s.busy i = some o) :
    s.past i = traceOf o.number s.world.history := by
  rw [past, h]

omit [DecidableEq ι] in
theorem past_of_idle (h : s.busy i = none) : s.past i = [] := by
  rw [past, h]

omit [DecidableEq ι] in
theorem past_congr {s' : State ι} (hbusy : s'.busy i = s.busy i)
    (hhistory : ∀ o, s.busy i = some o →
      traceOf o.number s'.world.history = traceOf o.number s.world.history) :
    s'.past i = s.past i := by
  cases h : s.busy i with
  | none => rw [past_of_idle h, past_of_idle (hbusy.trans h)]
  | some o => rw [past_of_busy h, past_of_busy (hbusy.trans h), hhistory o h]

theorem Orderly.past_begin (hs : s.Orderly) (hidle : s.busy who = none)
    (task : Task Site (Except Error a.Reply)) (i : ι) : (s.begin who a task).past i = s.past i := by
  by_cases hi : i = who
  · subst hi
    have hbusy : (s.begin i a task).busy i = some ⟨s.begun, a, task⟩ := engage_busy_self ..
    rw [past_of_idle hidle, past_of_busy hbusy]
    exact traceOf_eq_nil fun ev hev => Nat.ne_of_lt (hs.number_lt _ (hs.known ev hev))
  · exact past_congr (engage_busy_of_ne s _ hi) fun _ _ => rfl

theorem past_exchange_self {task : Task Site (Except Error a.Reply)}
    (hbusy : s.busy who = some ⟨number, a, task⟩) (x : Exchange Site) (c : Cluster)
    (task' : Task Site (Except Error a.Reply)) :
    ((s.record ⟨who, number, a⟩ x c).engage who (some ⟨number, a, task'⟩)).past who =
      x :: s.past who := by
  rw [past_of_busy (engage_busy_self ..), past_of_busy hbusy]
  exact traceOf_cons_self (⟨⟨who, number, a⟩, x, s.world.cluster⟩ : Event ι) s.world.history

theorem Orderly.past_exchange_of_ne (hs : s.Orderly) {task : Task Site (Except Error a.Reply)}
    (hbusy : s.busy who = some ⟨number, a, task⟩) (x : Exchange Site) (c : Cluster)
    (task' : Task Site (Except Error a.Reply)) (hi : i ≠ who) :
    ((s.record ⟨who, number, a⟩ x c).engage who (some ⟨number, a, task'⟩)).past i = s.past i := by
  refine past_congr (engage_busy_of_ne _ _ hi) fun o ho => traceOf_cons_of_ne ?_ _
  exact fun heq => hi (hs.busy_inj ho hbusy heq.symm)

theorem past_finish_self (outcome : Except Error a.Reply) :
    (s.finish ⟨who, number, a⟩ outcome).past who = [] :=
  past_of_idle (engage_busy_self s who none)

theorem past_finish_of_ne (outcome : Except Error a.Reply) (hi : i ≠ who) :
    (s.finish ⟨who, number, a⟩ outcome).past i = s.past i :=
  past_congr (engage_busy_of_ne s none hi) fun _ _ => rfl

end State

end PartitionHost
