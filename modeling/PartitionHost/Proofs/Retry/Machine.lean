import PartitionHost.Proofs.Retry.Loop
import PartitionHost.Retry.Machine

/-!
# The machine of a retry comes to what its loop comes to

Whatever is done within one poll is told by `Machine.Polled`. In each state a machine is bound to come to
something (`Machine.comesTo`), by the course of its current attempt; a poll does not change it, nor does waiting for
the next poll. So a machine that is polled when there is something to do ends, and in one way only.
-/

namespace PartitionHost.Retry.Machine

variable {ε α : Type} {m : Machine ε α} {now : Nat} {s s' : State} {o : Option (Except ε α)}

/-! ## What a poll does -/

/-- A poll, with what comes of it and the state it leaves. -/
inductive Polled (m : Machine ε α) (now : Nat) : State → Option (Except ε α) → State → Prop where
  | cancelled {s : State} (hfired : m.cancel.fired now = true) : Polled m now s (some (.error m.onCancel)) s
  | running {since : Option Nat} {n : Nat} {delays : List Duration} {starts : List Nat}
      (hfired : m.cancel.fired now = false) (hearly : now < since.getD now + (m.attempts n).takes) :
      Polled m now ⟨.running since, n, delays, starts⟩ none ⟨.running (some (since.getD now)), n, delays, starts⟩
  /-- The attempt was the last one. -/
  | ended {since : Option Nat} {n : Nat} {delays : List Duration} {starts : List Nat}
      (hfired : m.cancel.fired now = false) (hover : since.getD now + (m.attempts n).takes ≤ now)
      (hdelay : delay? m.retryable (m.attempts n).outcome delays = none) :
      Polled m now ⟨.running since, n, delays, starts⟩ (some (m.attempts n).outcome)
        ⟨.running since, n, delays, starts⟩
  /-- Another attempt is to follow, and the poll goes on. -/
  | failed {since : Option Nat} {n : Nat} {delays : List Duration} {starts : List Nat} {d : Duration}
      {o : Option (Except ε α)} {s' : State}
      (hfired : m.cancel.fired now = false) (hover : since.getD now + (m.attempts n).takes ≤ now)
      (hdelay : delay? m.retryable (m.attempts n).outcome delays = some d)
      (hrest : Polled m now ⟨.sleeping (Stopwatch.wakeTime now d.nanos), n, delays.tail, starts⟩ o s') :
      Polled m now ⟨.running since, n, delays, starts⟩ o s'
  | sleeping {till n : Nat} {delays : List Duration} {starts : List Nat}
      (hfired : m.cancel.fired now = false) (hearly : now < till) :
      Polled m now ⟨.sleeping till, n, delays, starts⟩ none ⟨.sleeping till, n, delays, starts⟩
  | woken {till n : Nat} {delays : List Duration} {starts : List Nat} {o : Option (Except ε α)} {s' : State}
      (hfired : m.cancel.fired now = false) (hdue : till ≤ now)
      (hrest : Polled m now ⟨.running none, n + 1, delays, starts ++ [now]⟩ o s') :
      Polled m now ⟨.sleeping till, n, delays, starts⟩ o s'

theorem State.rank_failed {since : Option Nat} {till n : Nat} {x : Except ε α} {retryable : ε → Bool}
    {delays : List Duration} {starts : List Nat} {d : Duration} (hdelay : delay? retryable x delays = some d) :
    State.rank ⟨.sleeping till, n, delays.tail, starts⟩ < State.rank ⟨.running since, n, delays, starts⟩ := by
  obtain ⟨e, -, -, hdelays⟩ := delay?_eq_some_iff.mp hdelay
  rw [hdelays]
  simp only [rank, List.tail_cons, List.length_cons]
  omega

theorem polled_poll (m : Machine ε α) (now : Nat) (s : State) :
    m.Polled now s (m.poll now s).1 (m.poll now s).2 := by
  fun_induction poll m now s with
  | case1 s hfired => exact .cancelled hfired
  | case2 s hfired since hphase _ hearly =>
      obtain ⟨phase, n, delays, starts⟩ := s
      cases hphase
      exact .running (eq_false_of_ne_true hfired) hearly
  | case3 s hfired since hphase _ hover a hout =>
      obtain ⟨phase, n, delays, starts⟩ := s
      cases hphase
      exact hout ▸ .ended (eq_false_of_ne_true hfired) (Nat.not_lt.mp hover) (by rw [hout, delay?])
  | case4 s hfired since hphase _ hover e hout _ hcool =>
      obtain ⟨phase, n, delays, starts⟩ := s
      cases hphase
      cases delays with
      | cons d ds => cases hcool
      | nil => exact hout ▸ .ended (eq_false_of_ne_true hfired) (Nat.not_lt.mp hover) (delay?_nil _ _)
  | case5 s hfired since hphase _ hover e hout hretry s' hcool _ ih =>
      obtain ⟨phase, n, delays, starts⟩ := s
      cases hphase
      cases delays with
      | nil => cases hcool
      | cons d ds =>
          cases hcool
          exact .failed (eq_false_of_ne_true hfired) (Nat.not_lt.mp hover)
            (delay?_eq_some_iff.mpr ⟨e, hout, hretry, rfl⟩) ih
  | case6 s hfired since hphase _ hover e hout hretry =>
      obtain ⟨phase, n, delays, starts⟩ := s
      cases hphase
      refine hout ▸ .ended (eq_false_of_ne_true hfired) (Nat.not_lt.mp hover) ?_
      rw [hout, delay?, if_neg hretry]
  | case7 s hfired till hphase hearly =>
      obtain ⟨phase, n, delays, starts⟩ := s
      cases hphase
      exact .sleeping (eq_false_of_ne_true hfired) hearly
  | case8 s hfired till hphase hdue _ ih =>
      obtain ⟨phase, n, delays, starts⟩ := s
      cases hphase
      exact .woken (eq_false_of_ne_true hfired) (Nat.not_lt.mp hdue) ih

theorem Polled.rank_le (h : m.Polled now s o s') : s'.rank ≤ s.rank := by
  induction h with
  | cancelled _ => exact Nat.le_refl _
  | running _ _ => exact Nat.le_refl _
  | ended _ _ _ => exact Nat.le_refl _
  | sleeping _ _ => exact Nat.le_refl _
  | failed _ _ hdelay _ ih => exact Nat.le_trans ih (Nat.le_of_lt (State.rank_failed hdelay))
  | woken _ _ _ ih => exact Nat.le_trans ih (Nat.le_succ _)

theorem Polled.not_fired (h : m.Polled now s none s') : m.cancel.fired now = false := by
  cases h <;> assumption

/-- A machine that is polled when there is something to do is over or further than before. -/
theorem Polled.rank_lt (h : m.Polled now s none s') (hdue : m.due now s ≤ now) : s'.rank < s.rank := by
  cases h with
  | running _ hearly => exact absurd hdue (Nat.not_le.mpr hearly)
  | sleeping _ hearly => exact absurd hdue (Nat.not_le.mpr hearly)
  | failed _ _ hdelay hrest => exact Nat.lt_of_le_of_lt hrest.rank_le (State.rank_failed hdelay)
  | woken _ _ hrest => exact Nat.lt_succ_of_le hrest.rank_le

/-! ## What a machine comes to -/

/-- The reading with the error that is made of a cancellation, if there is no other value. -/
def settle (m : Machine ε α) (r : Stopwatch.Reading (Option (Except ε α))) : Stopwatch.Reading (Except ε α) :=
  ⟨r.value.getD (.error m.onCancel), r.elapsed, r.marks⟩

def course (m : Machine ε α) (now n : Nat) (delays : List Duration) : Stopwatch.Reading (Option (Except ε α)) :=
  Attempt.course m.attempts m.retryable m.cancel now n delays

/-- What a machine in a state is bound to come to. -/
def comesTo (m : Machine ε α) (now : Nat) : State → Stopwatch.Reading (Except ε α)
  | ⟨.running since, n, delays, starts⟩ => m.settle ((m.course (since.getD now) n delays).after starts)
  | ⟨.sleeping till, n, delays, starts⟩ =>
    if m.cancel.fired till then ⟨.error m.onCancel, m.cancel.moment?.getD till, starts⟩
    else m.settle ((m.course till (n + 1) delays).after (starts ++ [till]))

/-- Nothing that a machine does at some moment was to be done before. -/
structure OnTime (m : Machine ε α) (now : Nat) (s : State) : Prop where
  le_moment : ∀ moment ∈ m.cancel.moment?, now ≤ moment
  since_le : ∀ since, s.phase = .running since → since.getD now ≤ now
  le_due : now ≤ m.due now s

/-- The machine was polled, and there is nothing to do yet. -/
structure Waiting (m : Machine ε α) (now : Nat) (s : State) : Prop where
  fired : m.cancel.fired now = false
  since_le : ∀ since, s.phase = .running since → ∃ t ≤ now, since = some t
  lt_due : now < m.due now s

section

variable {since : Option Nat} {till n : Nat} {delays : List Duration} {starts : List Nat} {d : Duration}

theorem OnTime.comesTo_cancelled (hs : m.OnTime now s) (hfired : m.cancel.fired now = true) :
    m.comesTo now s = ⟨.error m.onCancel, now, s.starts⟩ := by
  obtain ⟨attempts, retryable, cancel, onCancel⟩ := m
  obtain ⟨moment, hmoment, rfl⟩ := Cancellation.exists_of_fired hfired
  obtain rfl : now = moment := Nat.le_antisymm (hs.le_moment _ rfl) hmoment
  obtain ⟨phase, n, delays, starts⟩ := s
  cases phase with
  | running since =>
      have hcourse : course ⟨attempts, retryable, .firesAt now, onCancel⟩ (since.getD now) n delays =
          ⟨none, max (since.getD now) now, []⟩ := Attempt.course_cancelled hs.le_due
      rw [comesTo, hcourse, Nat.max_eq_right (hs.since_le _ rfl), Stopwatch.Reading.after, List.append_nil]
      rfl
  | sleeping till => exact if_pos (decide_eq_true hs.le_due)

theorem OnTime.comesTo_ended (hs : m.OnTime now ⟨.running since, n, delays, starts⟩)
    (hfired : m.cancel.fired now = false) (hover : since.getD now + (m.attempts n).takes ≤ now)
    (hdelay : delay? m.retryable (m.attempts n).outcome delays = none) :
    m.comesTo now ⟨.running since, n, delays, starts⟩ = ⟨(m.attempts n).outcome, now, starts⟩ := by
  have hend : since.getD now + (m.attempts n).takes = now := Nat.le_antisymm hover hs.le_due
  have hcourse : m.course (since.getD now) n delays = _ := Attempt.course_last (by rwa [hend]) hdelay
  rw [comesTo, hcourse, hend, Stopwatch.Reading.after, List.append_nil]
  rfl

theorem OnTime.comesTo_failed (hs : m.OnTime now ⟨.running since, n, delays, starts⟩)
    (hfired : m.cancel.fired now = false) (hover : since.getD now + (m.attempts n).takes ≤ now)
    (hdelay : delay? m.retryable (m.attempts n).outcome delays = some d) :
    m.comesTo now ⟨.running since, n, delays, starts⟩ =
      m.comesTo now ⟨.sleeping (Stopwatch.wakeTime now d.nanos), n, delays.tail, starts⟩ := by
  have hend : since.getD now + (m.attempts n).takes = now := Nat.le_antisymm hover hs.le_due
  cases hnext : m.cancel.fired (Stopwatch.wakeTime now d.nanos) with
  | false =>
      have hcourse : m.course (since.getD now) n delays = _ :=
        Attempt.course_again (by rwa [hend]) hdelay (by rwa [hend])
      rw [comesTo, comesTo, hcourse, hend, hnext, Stopwatch.Reading.after_after]
      rfl
  | true =>
      obtain ⟨attempts, retryable, cancel, onCancel⟩ := m
      obtain ⟨moment, hmoment, rfl⟩ := Cancellation.exists_of_fired hnext
      have hlt : now < moment := Cancellation.fired_firesAt_eq_false_iff.mp hfired
      have hcourse : course ⟨attempts, retryable, .firesAt moment, onCancel⟩ (since.getD now) n delays = _ :=
        Attempt.course_cooling (by rwa [hend]) hdelay (by rwa [hend])
      rw [comesTo, comesTo, hcourse, hnext, Stopwatch.Reading.after, List.append_nil]
      rfl

theorem OnTime.comesTo_woken (hs : m.OnTime now ⟨.sleeping till, n, delays, starts⟩)
    (hfired : m.cancel.fired now = false) (hdue : till ≤ now) :
    m.comesTo now ⟨.sleeping till, n, delays, starts⟩ =
      m.comesTo now ⟨.running none, n + 1, delays, starts ++ [now]⟩ := by
  obtain rfl : till = now := Nat.le_antisymm hdue hs.le_due
  rw [comesTo, comesTo, hfired]
  rfl

end

theorem Polled.comesTo (h : m.Polled now s o s') (hs : m.OnTime now s) :
    (∀ x, o = some x → m.comesTo now s = ⟨x, now, s'.starts⟩) ∧
      (o = none → m.comesTo now s' = m.comesTo now s ∧ m.Waiting now s') := by
  induction h with
  | cancelled hfired =>
      exact ⟨fun x hx => Option.some.inj hx ▸ hs.comesTo_cancelled hfired, nofun⟩
  | running hfired hearly =>
      exact ⟨nofun, fun _ => ⟨rfl, hfired, fun _ h => by cases h; exact ⟨_, hs.since_le _ rfl, rfl⟩, hearly⟩⟩
  | ended hfired hover hdelay =>
      exact ⟨fun x hx => Option.some.inj hx ▸ hs.comesTo_ended hfired hover hdelay, nofun⟩
  | failed hfired hover hdelay _ ih =>
      rw [hs.comesTo_failed hfired hover hdelay]
      exact ih ⟨hs.le_moment, nofun, Stopwatch.le_wakeTime _ _⟩
  | sleeping hfired hearly => exact ⟨nofun, fun _ => ⟨rfl, hfired, nofun, hearly⟩⟩
  | woken hfired hdue _ ih =>
      rw [hs.comesTo_woken hfired hdue]
      exact ih ⟨hs.le_moment, fun _ h => by cases h; exact Nat.le_refl _, Nat.le_add_right _ _⟩

/-! ## Runs -/

section

variable {later : Nat} {r : Stopwatch.Reading (Except ε α)}

theorem Waiting.due_eq (h : m.Waiting now s) (later : Nat) : m.due later s = m.due now s := by
  obtain ⟨phase, n, delays, starts⟩ := s
  cases phase with
  | sleeping till => rfl
  | running since =>
      obtain ⟨t, -, rfl⟩ := h.since_le _ rfl
      rfl

theorem Waiting.comesTo_eq (h : m.Waiting now s) (later : Nat) : m.comesTo later s = m.comesTo now s := by
  obtain ⟨phase, n, delays, starts⟩ := s
  cases phase with
  | sleeping till => rfl
  | running since =>
      obtain ⟨t, -, rfl⟩ := h.since_le _ rfl
      rfl

theorem Waiting.onTime (h : m.Waiting now s) (hlater : now < later) (hdue : later ≤ m.due now s)
    (hcancel : ∀ moment ∈ m.cancel.moment?, later ≤ moment) : m.OnTime later s where
  le_moment := hcancel
  since_le := fun _ hphase => by
    obtain ⟨t, ht, rfl⟩ := h.since_le _ hphase
    exact Nat.le_trans ht (Nat.le_of_lt hlater)
  le_due := by rwa [h.due_eq later]

theorem Waiting.exists_later (h : m.Waiting now s) : ∃ later, now < later ∧ later ≤ m.due now s ∧
    (∀ moment ∈ m.cancel.moment?, later ≤ moment) ∧
    (m.cancel.fired later = true ∨ later = m.due now s) := by
  have hfired := h.fired
  cases hcancel : m.cancel with
  | never => exact ⟨_, h.lt_due, Nat.le_refl _, nofun, .inr rfl⟩
  | firesAt moment =>
      rw [hcancel] at hfired
      have hmoment : now < moment := Cancellation.fired_firesAt_eq_false_iff.mp hfired
      refine ⟨min moment (m.due now s), Nat.lt_min.mpr ⟨hmoment, h.lt_due⟩, Nat.min_le_right _ _, ?_, ?_⟩
      · rintro _ ⟨⟩
        exact Nat.min_le_left _ _
      · rcases Nat.le_total moment (m.due now s) with hle | hle
        · exact .inl (decide_eq_true (Nat.le_of_eq (Nat.min_eq_left hle).symm))
        · exact .inr (Nat.min_eq_right hle)

theorem Ends.eq_comesTo (h : m.Ends s now r) (hs : m.OnTime now s) : r = m.comesTo now s := by
  induction h with
  | @finished s s' now x h =>
      have hpolled := m.polled_poll now s
      rw [h] at hpolled
      exact ((hpolled.comesTo hs).1 x rfl).symm
  | @again s s' now later r h hlater hdue hcancel _ ih =>
      have hpolled := m.polled_poll now s
      rw [h] at hpolled
      obtain ⟨hsame, hwaiting⟩ := (hpolled.comesTo hs).2 rfl
      rw [ih (hwaiting.onTime hlater hdue hcancel), hwaiting.comesTo_eq later, hsame]

/-- A waiting machine can be waited for, by induction on how far it is. -/
theorem Waiting.exists_ends (h : m.Waiting now s) : ∃ later r, now < later ∧ later ≤ m.due now s ∧
    (∀ moment ∈ m.cancel.moment?, later ≤ moment) ∧ m.Ends s later r := by
  induction hrank : s.rank using Nat.strongRecOn generalizing s now with
  | ind rank ih =>
      obtain ⟨later, hlater, hdue, hcancel, hreached⟩ := h.exists_later
      refine ⟨later, ?_⟩
      have hpolled := m.polled_poll later s
      cases hpoll : m.poll later s with
      | mk o s' =>
          rw [hpoll] at hpolled
          cases o with
          | some x => exact ⟨_, hlater, hdue, hcancel, .finished hpoll⟩
          | none =>
              obtain ⟨-, hwaiting⟩ := (hpolled.comesTo (h.onTime hlater hdue hcancel)).2 rfl
              have hlt : s'.rank < rank := by
                refine hrank ▸ hpolled.rank_lt ?_
                rcases hreached with hfired | hreached
                · exact absurd hpolled.not_fired (ne_false_of_eq_true hfired)
                · rw [h.due_eq later]
                  exact Nat.le_of_eq hreached.symm
              obtain ⟨later', r, hlater', hdue', hcancel', hends⟩ := ih _ hlt hwaiting rfl
              exact ⟨r, hlater, hdue, hcancel, .again hpoll hlater' hdue' hcancel' hends⟩

theorem exists_ends (hs : m.OnTime now s) : ∃ r, m.Ends s now r := by
  have hpolled := m.polled_poll now s
  cases hpoll : m.poll now s with
  | mk o s' =>
      rw [hpoll] at hpolled
      cases o with
      | some x => exact ⟨_, .finished hpoll⟩
      | none =>
          obtain ⟨later, r, hlater, hdue, hcancel, hends⟩ := ((hpolled.comesTo hs).2 rfl).2.exists_ends
          exact ⟨r, .again hpoll hlater hdue hcancel hends⟩

theorem ends_iff_comesTo (hs : m.OnTime now s) : m.Ends s now r ↔ r = m.comesTo now s := by
  refine ⟨fun h => h.eq_comesTo hs, fun hr => ?_⟩
  obtain ⟨r', h⟩ := exists_ends hs
  rwa [hr, ← h.eq_comesTo hs]

/-- A machine that starts at time 0 ends as the loop does. -/
theorem ends_start_iff (m : Machine ε α) (delays : List Duration) (r : Stopwatch.Reading (Except ε α)) :
    m.Ends (start 0 delays) 0 r ↔ r = m.settle (Attempt.retry m.attempts m.retryable delays m.cancel) := by
  have hs : m.OnTime 0 (start 0 delays) :=
    ⟨fun _ _ => Nat.zero_le _, fun _ h => by cases h; exact Nat.le_refl _, Nat.zero_le _⟩
  rw [ends_iff_comesTo hs, Attempt.retry_eq]
  rfl

end

/-! ## Without a cancellation -/

/--
Without a cancellation an attempt is created when the delay is over that follows the one before, for as long as
attempts fail with an error worth another one and there are delays left. The outcome is that of the last one.
-/
theorem attempts_in_turn (attempts : Nat → Attempt ε α) (retryable : ε → Bool) (onCancel : ε)
    (delays : List Nat) :
    ∃ last begun, last ≤ delays.length ∧ begun 0 = 0 ∧
      (∀ i < last, ∃ e delay, (attempts i).outcome = .error e ∧ retryable e = true ∧
        delays[i]? = some delay ∧ begun (i + 1) = begun i + (attempts i).takes + delay) ∧
      (∀ e, (attempts last).outcome = .error e → retryable e = true → last = delays.length) ∧
      (∀ r, Ends ⟨attempts, retryable, .never, onCancel⟩ (start 0 (delays.map Duration.ofMillis)) 0 r ↔
        r = ⟨(attempts last).outcome, begun last + (attempts last).takes,
          (List.range (last + 1)).map begun⟩) ∧
      Attempt.retry attempts retryable (delays.map Duration.ofMillis) .never =
        ⟨some (attempts last).outcome, begun last + (attempts last).takes,
          (List.range (last + 1)).map begun⟩ := by
  obtain ⟨last, begun, h, hcourse⟩ :=
    Attempt.exists_succession attempts retryable 0 0 (delays.map Duration.ofMillis)
  simp only [Nat.zero_add] at hcourse
  have hretry : Attempt.retry attempts retryable (delays.map Duration.ofMillis) .never =
      ⟨some (attempts last).outcome, begun last + (attempts last).takes, (List.range (last + 1)).map begun⟩ := by
    rw [Attempt.retry_eq, hcourse, List.range_succ_eq_map, List.map_cons, List.map_map, h.begun_zero]
    rfl
  refine ⟨last, begun, by simpa using h.le_length, h.begun_zero, fun i hi => ?_, fun e => ?_, fun r => ?_, hretry⟩
  · obtain ⟨e, d, hout, hworth, hdelay, hbegun⟩ := h.begun_succ i hi
    rw [List.getElem?_map] at hdelay
    obtain ⟨delay, hmillis, rfl⟩ := Option.map_eq_some_iff.mp hdelay
    rw [Nat.zero_add] at hout hbegun
    refine ⟨e, delay, hout, hworth, hmillis, ?_⟩
    rw [hbegun, Duration.ofMillis, Stopwatch.wakeTime_millis]
  · simpa using h.ended e
  · rw [ends_start_iff, hretry]
    rfl

end PartitionHost.Retry.Machine
