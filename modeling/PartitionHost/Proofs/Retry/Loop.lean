import PartitionHost.Stopwatch

/-!
# A retry, attempt by attempt

What a retry comes to once an attempt has begun (`Attempt.course`) is told by the end of that attempt: it is cut
off by the cancellation, it is the last one, or a delay follows and then the next attempt. A cancellation cuts
off what would have been without it.
-/

namespace PartitionHost

namespace Stopwatch

theorem wakeTime_millis (now ms : Nat) : wakeTime now (ms * Duration.nanosPerMilli) = now + ms := by
  simp only [wakeTime, Duration.nanosPerMilli]
  omega

theorem le_wakeTime (now length : Nat) : now ≤ wakeTime now length := Nat.le_add_right _ _

def Reading.after {α : Type} (marks : List Nat) (r : Reading α) : Reading α :=
  { r with marks := marks ++ r.marks }

/-- The reading that is cut off at a moment, with this value, unless it ends before. -/
def Reading.cut {α : Type} (moment : Nat) (value : α) (r : Reading α) : Reading α :=
  if r.elapsed < moment then r else ⟨value, moment, r.marks.filter (· < moment)⟩

namespace Reading

variable {α : Type} {moment : Nat} {value : α} {r : Reading α}

theorem after_after (marks marks' : List Nat) : (r.after marks').after marks = r.after (marks ++ marks') := by
  simp only [after, List.append_assoc]

theorem cut_of_le (h : ∀ t ∈ r.marks ++ [r.elapsed], moment ≤ t) : r.cut moment value = ⟨value, moment, []⟩ := by
  have helapsed : moment ≤ r.elapsed := h _ (List.mem_append_right _ (List.mem_singleton_self _))
  have hmarks : r.marks.filter (· < moment) = [] := List.filter_eq_nil_iff.mpr fun t ht hlt =>
    Nat.not_lt.mpr (h t (List.mem_append_left _ ht)) (of_decide_eq_true hlt)
  rw [cut, if_neg (Nat.not_lt.mpr helapsed), hmarks]

theorem cut_of_lt (h : r.elapsed < moment) : r.cut moment value = r := if_pos h

theorem cut_after_singleton {t : Nat} (h : t < moment) :
    (r.after [t]).cut moment value = (r.cut moment value).after [t] := by
  rcases Nat.lt_or_ge r.elapsed moment with hlt | hge
  · rw [cut_of_lt hlt, cut_of_lt (r := r.after [t]) hlt]
  · have helapsed : ¬ r.elapsed < moment := Nat.not_lt.mpr hge
    simp [cut, after, helapsed, h]

end Reading

section

variable {α : Type} {cancel : Cancellation} {now length : Nat}

theorem time_wait_due (h : cancel.fired (wakeTime now length) = false) (f : Wake → Task Stopwatch α) :
    time cancel now ((Attempt.wait length).bind f) = time cancel (wakeTime now length) (f .due) := by
  cases cancel with
  | never => rfl
  | firesAt moment => exact if_neg (of_decide_eq_false h)

theorem time_wait_cancelled {moment : Nat} (h : moment ≤ wakeTime now length) (f : Wake → Task Stopwatch α) :
    time (.firesAt moment) now ((Attempt.wait length).bind f) =
      time (.firesAt moment) (max now moment) (f .cancelled) :=
  if_pos h

end

end Stopwatch

namespace Retry

variable {I : Interface} {ε α : Type} {retryable : ε → Bool} {x : Except ε α} {delays : List Duration}

/-- The delay that follows an attempt with this outcome, if another one is made. -/
def delay? (retryable : ε → Bool) (x : Except ε α) (delays : List Duration) : Option Duration :=
  match x with
  | .ok _ => none
  | .error e => if retryable e then delays.head? else none

theorem delay?_eq_some_iff {d : Duration} : delay? retryable x delays = some d ↔
    ∃ e, x = .error e ∧ retryable e = true ∧ delays = d :: delays.tail := by
  cases x with
  | ok a => simp [delay?]
  | error e =>
      cases h : retryable e with
      | false => simp [delay?, h]
      | true => cases delays <;> simp [delay?, h]

@[simp] theorem delay?_nil (retryable : ε → Bool) (x : Except ε α) : delay? retryable x [] = none := by
  cases x with
  | ok a => rfl
  | error e => exact ite_self _

/-- What is done when a delay is over, or was cut short. -/
def resume (r : Retry I ε α) (n : Nat) (delays : List Duration) : Wake → Task I (Option (Except ε α))
  | .cancelled => .done none
  | .due => do r.goOn (n + 1) (← r.begin (n + 1)) delays

/-- What is done with the answer to an attempt. -/
def proceed (r : Retry I ε α) (n : Nat) (delays : List Duration) :
    Option (Except ε α) → Task I (Option (Except ε α))
  | none => .done none
  | some x =>
    match delay? r.retryable x delays with
    | none => .done (some x)
    | some d => (r.pause d).bind (r.resume n delays.tail)

theorem proceed_last {r : Retry I ε α} {n : Nat} (h : delay? r.retryable x delays = none) :
    r.proceed n delays (some x) = .done (some x) := by
  rw [proceed, h]

theorem proceed_again {r : Retry I ε α} {n : Nat} {d : Duration} (h : delay? r.retryable x delays = some d) :
    r.proceed n delays (some x) = (r.pause d).bind (r.resume n delays.tail) := by
  rw [proceed, h]

theorem goOn_eq (r : Retry I ε α) (n : Nat) (attempt : Task I (Option (Except ε α))) (delays : List Duration) :
    r.goOn n attempt delays = attempt.bind (r.proceed n delays) := by
  cases delays with
  | nil =>
      refine (Task.bind_done attempt).symm.trans (congrArg (Task.bind _) (funext fun answer => ?_))
      match answer with
      | none => rfl
      | some x => exact (proceed_last (delay?_nil _ _)).symm
  | cons d ds =>
      refine congrArg (Task.bind _) (funext fun answer => ?_)
      match answer with
      | none => rfl
      | some (.ok a) => rfl
      | some (.error e) =>
          simp only [proceed, delay?]
          cases r.retryable e with
          | false => rfl
          | true => exact congrArg (Task.bind _) (funext fun wake => by cases wake <;> rfl)

end Retry

namespace Attempt

variable {ε α : Type}

variable (attempts : Nat → Attempt ε α) (retryable : ε → Bool) (cancel : Cancellation)

/-- What a retry comes to whose attempt of number `n` has begun at a time. -/
def course (now n : Nat) (delays : List Duration) : Stopwatch.Reading (Option (Except ε α)) :=
  Stopwatch.time cancel now ((retrying attempts retryable).goOn n (attempts n).await delays)

variable {attempts retryable cancel} {now n : Nat} {delays : List Duration}

/-! ## The end of an attempt -/

theorem course_due (h : cancel.fired (now + (attempts n).takes) = false) :
    course attempts retryable cancel now n delays = Stopwatch.time cancel (now + (attempts n).takes)
      ((retrying attempts retryable).proceed n delays (some (attempts n).outcome)) := by
  rw [← Stopwatch.wakeTime_millis] at h ⊢
  rw [course, Retry.goOn_eq]
  exact Stopwatch.time_wait_due h _

theorem course_cancelled {moment : Nat} (h : moment ≤ now + (attempts n).takes) :
    course attempts retryable (.firesAt moment) now n delays = ⟨none, max now moment, []⟩ := by
  rw [← Stopwatch.wakeTime_millis] at h
  rw [course, Retry.goOn_eq]
  exact Stopwatch.time_wait_cancelled h _

theorem course_last (h : cancel.fired (now + (attempts n).takes) = false)
    (hdelay : Retry.delay? retryable (attempts n).outcome delays = none) :
    course attempts retryable cancel now n delays =
      ⟨some (attempts n).outcome, now + (attempts n).takes, []⟩ := by
  rw [course_due h, Retry.proceed_last hdelay]
  rfl

theorem course_again {d : Duration} (h : cancel.fired (now + (attempts n).takes) = false)
    (hdelay : Retry.delay? retryable (attempts n).outcome delays = some d)
    (hnext : cancel.fired (Stopwatch.wakeTime (now + (attempts n).takes) d.nanos) = false) :
    course attempts retryable cancel now n delays =
      let next := Stopwatch.wakeTime (now + (attempts n).takes) d.nanos
      (course attempts retryable cancel next (n + 1) delays.tail).after [next] := by
  rw [course_due h, Retry.proceed_again hdelay]
  exact Stopwatch.time_wait_due hnext _

theorem course_cooling {d : Duration} {moment : Nat} (h : now + (attempts n).takes < moment)
    (hdelay : Retry.delay? retryable (attempts n).outcome delays = some d)
    (hnext : moment ≤ Stopwatch.wakeTime (now + (attempts n).takes) d.nanos) :
    course attempts retryable (.firesAt moment) now n delays = ⟨none, moment, []⟩ := by
  rw [course_due (Cancellation.fired_firesAt_eq_false_iff.mpr h), Retry.proceed_again hdelay]
  exact (Stopwatch.time_wait_cancelled hnext _).trans (by rw [Nat.max_eq_right (Nat.le_of_lt h)]; rfl)

theorem retry_eq (attempts : Nat → Attempt ε α) (retryable : ε → Bool) (delays : List Duration)
    (cancel : Cancellation) :
    retry attempts retryable delays cancel = (course attempts retryable cancel 0 0 delays).after [0] := by
  change (Stopwatch.time cancel 0 (if cancel.fired 0 then .done none
    else (retrying attempts retryable).goOn 0 (attempts 0).await delays)).after [0] = _
  cases hfired : cancel.fired 0 with
  | false => rfl
  | true =>
      obtain ⟨moment, hmoment, rfl⟩ := Cancellation.exists_of_fired hfired
      rw [course_cancelled (Nat.le_trans hmoment (Nat.zero_le _)), Nat.max_eq_left hmoment]
      rfl

/-! ## A course that nothing cuts short -/

/-- The end of the attempt, the times at which the others begin and the end of the course are in order. -/
theorem course_never_ordered (attempts : Nat → Attempt ε α) (retryable : ε → Bool) (now n : Nat)
    (delays : List Duration) :
    ((now + (attempts n).takes) :: ((course attempts retryable .never now n delays).marks ++
      [(course attempts retryable .never now n delays).elapsed])).Pairwise (· ≤ ·) := by
  induction delays generalizing now n with
  | nil =>
      rw [course_last (Cancellation.fired_never _) (Retry.delay?_nil _ _)]
      exact List.pairwise_pair.mpr (Nat.le_refl _)
  | cons d ds ih =>
      cases hdelay : Retry.delay? retryable (attempts n).outcome (d :: ds) with
      | none =>
          rw [course_last (Cancellation.fired_never _) hdelay]
          exact List.pairwise_pair.mpr (Nat.le_refl _)
      | some d' =>
          rw [course_again (Cancellation.fired_never _) hdelay (Cancellation.fired_never _)]
          have hnext := Stopwatch.le_wakeTime (now + (attempts n).takes) d'.nanos
          obtain ⟨hle, hordered⟩ := List.pairwise_cons.mp
            (ih (Stopwatch.wakeTime (now + (attempts n).takes) d'.nanos) (n + 1))
          have hle := fun t ht => Nat.le_trans (Nat.le_add_right _ _) (hle t ht)
          refine List.pairwise_cons.mpr ⟨fun t ht => ?_, List.pairwise_cons.mpr ⟨hle, hordered⟩⟩
          cases ht with
          | head => exact hnext
          | tail _ ht => exact Nat.le_trans hnext (hle t ht)

theorem cut_course_never {now n moment : Nat} (h : moment ≤ now + (attempts n).takes) :
    (course attempts retryable .never now n delays).cut moment none = ⟨none, moment, []⟩ :=
  have hordered := List.pairwise_cons.mp (course_never_ordered attempts retryable now n delays)
  Stopwatch.Reading.cut_of_le fun t ht => Nat.le_trans h (hordered.1 t ht)

theorem course_firesAt_ended {now n moment : Nat} (h : now ≤ moment) (hend : moment ≤ now + (attempts n).takes) :
    course attempts retryable (.firesAt moment) now n delays =
      (course attempts retryable .never now n delays).cut moment none := by
  rw [course_cancelled hend, Nat.max_eq_right h, cut_course_never hend]

theorem course_firesAt_last {now n moment : Nat} (hend : now + (attempts n).takes < moment)
    (hdelay : Retry.delay? retryable (attempts n).outcome delays = none) :
    course attempts retryable (.firesAt moment) now n delays =
      (course attempts retryable .never now n delays).cut moment none := by
  rw [course_last (Cancellation.fired_firesAt_eq_false_iff.mpr hend) hdelay,
    course_last (Cancellation.fired_never _) hdelay, Stopwatch.Reading.cut_of_lt hend]

/-- A cancellation cuts off what would have been without it. -/
theorem course_firesAt {moment : Nat} (attempts : Nat → Attempt ε α) (retryable : ε → Bool) {now : Nat}
    (h : now ≤ moment) (n : Nat) (delays : List Duration) :
    course attempts retryable (.firesAt moment) now n delays =
      (course attempts retryable .never now n delays).cut moment none := by
  induction delays generalizing now n with
  | nil =>
      rcases Nat.lt_or_ge (now + (attempts n).takes) moment with hlt | hge
      · exact course_firesAt_last hlt (Retry.delay?_nil _ _)
      · exact course_firesAt_ended h hge
  | cons d ds ih =>
      rcases (Nat.lt_or_ge (now + (attempts n).takes) moment).symm with hge | hlt
      · exact course_firesAt_ended h hge
      cases hdelay : Retry.delay? retryable (attempts n).outcome (d :: ds) with
      | none => exact course_firesAt_last hlt hdelay
      | some d' =>
          rcases Nat.lt_or_ge (Stopwatch.wakeTime (now + (attempts n).takes) d'.nanos) moment with hnext | hnext
          · rw [course_again (Cancellation.fired_firesAt_eq_false_iff.mpr hlt) hdelay
                (Cancellation.fired_firesAt_eq_false_iff.mpr hnext),
              course_again (Cancellation.fired_never _) hdelay (Cancellation.fired_never _)]
            simp only [List.tail_cons, ih (Nat.le_of_lt hnext), Stopwatch.Reading.cut_after_singleton hnext]
          · -- cut short while cooling off: what would follow begins when that is over
            rw [course_cooling hlt hdelay hnext]
            refine (Stopwatch.Reading.cut_of_le fun t ht => ?_).symm
            have hordered := course_never_ordered attempts retryable now n (d :: ds)
            rw [course_again (Cancellation.fired_never _) hdelay (Cancellation.fired_never _)] at ht hordered
            cases ht with
            | head => exact hnext
            | tail _ ht =>
                exact Nat.le_trans hnext ((List.pairwise_cons.mp (List.pairwise_cons.mp hordered).2).1 t ht)

/-! ## The attempts of a course -/

/--
Attempts from number `n` on follow one another, the last one being number `last` of them, and each begins at the
time `begun` says: the first one at `now`, another one when the delay is over that follows the one before.
-/
structure Succession (attempts : Nat → Attempt ε α) (retryable : ε → Bool) (delays : List Duration)
    (now n last : Nat) (begun : Nat → Nat) : Prop where
  le_length : last ≤ delays.length
  begun_zero : begun 0 = now
  begun_succ : ∀ i < last, ∃ e d, (attempts (n + i)).outcome = .error e ∧ retryable e = true ∧
    delays[i]? = some d ∧ begun (i + 1) = Stopwatch.wakeTime (begun i + (attempts (n + i)).takes) d.nanos
  /-- The last attempt was worth another one only if no delay is left. -/
  ended : ∀ e, (attempts (n + last)).outcome = .error e → retryable e = true → last = delays.length

theorem Succession.single (now : Nat) (hdelay : Retry.delay? retryable (attempts n).outcome delays = none) :
    Succession attempts retryable delays now n 0 fun _ => now where
  le_length := Nat.zero_le _
  begun_zero := rfl
  begun_succ := fun _ hi => absurd hi (Nat.not_lt_zero _)
  ended := fun e hout hretry => by
    cases delays with
    | nil => rfl
    | cons d ds =>
        have hsome : Retry.delay? retryable (attempts n).outcome (d :: ds) = some d :=
          Retry.delay?_eq_some_iff.mpr ⟨e, hout, hretry, rfl⟩
        cases hdelay.symm.trans hsome

theorem Succession.cons {d : Duration} {last : Nat} {begun : Nat → Nat}
    (hdelay : Retry.delay? retryable (attempts n).outcome delays = some d)
    (hrest : Succession attempts retryable delays.tail
      (Stopwatch.wakeTime (now + (attempts n).takes) d.nanos) (n + 1) last begun) :
    Succession attempts retryable delays now n (last + 1) fun
      | 0 => now
      | i + 1 => begun i := by
  obtain ⟨e, hout, hretry, hdelays⟩ := Retry.delay?_eq_some_iff.mp hdelay
  have hnumber (i : Nat) : n + (i + 1) = n + 1 + i := by omega
  refine ⟨?_, rfl, fun i hi => ?_, fun e' hout' hretry' => ?_⟩
  · rw [hdelays]
    exact Nat.succ_le_succ hrest.le_length
  · cases i with
    | zero =>
        rw [hdelays]
        exact ⟨e, d, hout, hretry, rfl, hrest.begun_zero⟩
    | succ i =>
        rw [hdelays, hnumber]
        exact hrest.begun_succ i (Nat.lt_of_succ_lt_succ hi)
  · rw [hnumber] at hout'
    rw [hdelays]
    exact congrArg Nat.succ (hrest.ended e' hout' hretry')

theorem exists_succession (attempts : Nat → Attempt ε α) (retryable : ε → Bool) (now n : Nat)
    (delays : List Duration) :
    ∃ last begun, Succession attempts retryable delays now n last begun ∧
      course attempts retryable .never now n delays =
        ⟨some (attempts (n + last)).outcome, begun last + (attempts (n + last)).takes,
          (List.range last).map fun i => begun (i + 1)⟩ := by
  induction delays generalizing now n with
  | nil =>
      exact ⟨0, _, .single now (Retry.delay?_nil _ _), course_last (Cancellation.fired_never _) (Retry.delay?_nil _ _)⟩
  | cons d ds ih =>
      cases hdelay : Retry.delay? retryable (attempts n).outcome (d :: ds) with
      | none => exact ⟨0, _, .single now hdelay, course_last (Cancellation.fired_never _) hdelay⟩
      | some d' =>
          obtain ⟨last, begun, hrest, hcourse⟩ :=
            ih (Stopwatch.wakeTime (now + (attempts n).takes) d'.nanos) (n + 1)
          refine ⟨last + 1, _, .cons hdelay hrest, ?_⟩
          rw [course_again (Cancellation.fired_never _) hdelay (Cancellation.fired_never _), List.tail_cons]
          simp only [hcourse, Stopwatch.Reading.after, List.range_succ_eq_map, List.map_cons, List.map_map]
          rw [← hrest.begun_zero, show n + (last + 1) = n + 1 + last by omega]
          rfl

/-- A retry from time 0 on, and what a cancellation leaves of it. -/
theorem exists_retry (attempts : Nat → Attempt ε α) (retryable : ε → Bool) (delays : List Duration) :
    ∃ x elapsed later, retry attempts retryable delays .never = ⟨some x, elapsed, 0 :: later⟩ ∧
      (0 :: (later ++ [elapsed])).Pairwise (· ≤ ·) ∧
      ∀ moment, retry attempts retryable delays (.firesAt moment) =
        if elapsed < moment then ⟨some x, elapsed, 0 :: later⟩
        else ⟨none, moment, 0 :: later.filter (· < moment)⟩ := by
  obtain ⟨last, begun, -, hcourse⟩ := exists_succession attempts retryable 0 0 delays
  have hordered := (List.pairwise_cons.mp (course_never_ordered attempts retryable 0 0 delays)).2
  rw [hcourse] at hordered
  refine ⟨(attempts (0 + last)).outcome, _, _, ?_,
    List.pairwise_cons.mpr ⟨fun _ _ => Nat.zero_le _, hordered⟩, fun moment => ?_⟩
  · rw [retry_eq, hcourse]
    rfl
  · rw [retry_eq, course_firesAt _ _ (Nat.zero_le _), hcourse, Stopwatch.Reading.cut]
    split <;> rfl

end Attempt

end PartitionHost
