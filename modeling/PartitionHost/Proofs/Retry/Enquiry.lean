import PartitionHost.Proofs.Bucket.Faultless
import PartitionHost.Proofs.Retry.Machine

/-!
# Questions that are put again

A question to a management node is put as a retry: each attempt asks the node. `Site.time` runs such a task against
a node of which nothing is known but how it takes the questions it is asked. A cancellation cuts off what would have
been without it, and a node is not asked at all if it fired beforehand.
-/

namespace PartitionHost

/-- How a management node takes a question that it is asked, by how many it was asked before. -/
abbrev Enquiry.Treatment : Type := (q : Enquiry) → Nat → Attempt Error q.Reply

/-- An answer that was waited for, unless that was cut short. -/
def Wake.answer? {α : Type} (a : α) : Wake → Option α
  | .due => some a
  | .cancelled => none

namespace Site

/-- How a wait that begins at a time ends, and when. -/
def sleep (cancel : Cancellation) (now due : Nat) : Wake × Nat :=
  let due := max due now
  if cancel.fired due then (.cancelled, max now (cancel.moment?.getD due)) else (.due, due)

/--
Runs a task from a time on, against a node that was asked so many questions before; the times taken down are those
at which it is asked another one. There is no reading if the task asks anything else of its site, or puts a question
whose cancellation has fired.
-/
def time {α : Type} (node : Enquiry.Treatment) (asked now : Nat) : Task Site α → Option (Stopwatch.Reading α)
  | .done a => some ⟨a, now, []⟩
  | .ask .elapsed resume => time node asked now (resume now)
  | .ask (.wait cancel due) resume =>
    let (wake, now) := sleep cancel now (Routine.millisAfter due)
    time node asked now (resume wake)
  | .ask (.enquire cancel q) resume =>
    if cancel.fired now then none
    else
      let (wake, later) := sleep cancel now (now + (node q asked).takes)
      (time node (asked + 1) later (resume (wake.answer? (node q asked).outcome))).map (·.after [now])
  | .ask _ _ => none

variable {α β : Type} {node : Enquiry.Treatment} {asked now : Nat} {cancel : Cancellation}

theorem sleep_due {due : Nat} (h : cancel.fired due = false) (hle : now ≤ due) :
    sleep cancel now due = (.due, due) := by
  simp only [sleep, Nat.max_eq_left hle, h]
  rfl

theorem sleep_cancelled {moment due : Nat} (h : moment ≤ due) (hle : now ≤ moment) :
    sleep (.firesAt moment) now due = (.cancelled, moment) := by
  have hfired : (Cancellation.firesAt moment).fired (max due now) = true :=
    decide_eq_true (Nat.le_trans h (Nat.le_max_left _ _))
  simp only [sleep, hfired]
  exact congrArg (Prod.mk _) (Nat.max_eq_right hle)

theorem time_map (f : α → β) (t : Task Site α) (asked now : Nat) :
    time node asked now (t.bind fun a => .done (f a)) =
      (time node asked now t).map fun r => ⟨f r.value, r.elapsed, r.marks⟩ := by
  induction t generalizing asked now with
  | done a => rfl
  | ask r resume ih =>
      cases r with
      | elapsed => exact ih _ _ _
      | wait cancel due => exact ih _ _ _
      | enquire cancel q =>
          simp only [Task.ask_bind, time]
          split
          · rfl
          · rw [ih, Option.map_map, Option.map_map]
            rfl
      | _ => rfl

theorem time_pause (cancel : Cancellation) (d : Duration) (f : Wake → Task Site α) :
    time node asked now ((pause cancel d).bind f) =
      time node asked (sleep cancel now (Stopwatch.wakeTime now d.nanos)).2
        (f (sleep cancel now (Stopwatch.wakeTime now d.nanos)).1) := by
  have hdue : Routine.millisAfter (now * Duration.nanosPerMilli + d.nanos) = Stopwatch.wakeTime now d.nanos := by
    simp only [Routine.millisAfter, Stopwatch.wakeTime, Duration.nanosPerMilli]
    omega
  rw [← hdue]
  rfl

theorem time_question {q : Enquiry} (h : cancel.fired now = false)
    (f : Option (Except Error q.Reply) → Task Site α) :
    time node asked now ((ask (.enquire cancel q)).bind f) =
      let (wake, later) := sleep cancel now (now + (node q asked).takes)
      (time node (asked + 1) later (f (wake.answer? (node q asked).outcome))).map (·.after [now]) :=
  if_neg (ne_true_of_eq_false h)

theorem time_question_due {q : Enquiry} (h : cancel.fired (now + (node q asked).takes) = false)
    (f : Option (Except Error q.Reply) → Task Site α) :
    time node asked now ((ask (.enquire cancel q)).bind f) =
      (time node (asked + 1) (now + (node q asked).takes) (f (some (node q asked).outcome))).map
        (·.after [now]) := by
  rw [time_question (Cancellation.not_fired_of_le (Nat.le_add_right _ _) h), sleep_due h (Nat.le_add_right _ _)]
  rfl

theorem time_question_cancelled {q : Enquiry} {moment : Nat} (hnow : now < moment)
    (h : moment ≤ now + (node q asked).takes) (f : Option (Except Error q.Reply) → Task Site α) :
    time node asked now ((ask (.enquire (.firesAt moment) q)).bind f) =
      (time node (asked + 1) moment (f none)).map (·.after [now]) := by
  rw [time_question (Cancellation.fired_firesAt_eq_false_iff.mpr hnow), sleep_cancelled h (Nat.le_of_lt hnow)]
  rfl

/-! ## The retry of a question -/

open Attempt in
theorem time_goOn_of_rest {q : Enquiry} {n : Nat} {delays : List Duration} (hnow : cancel.fired now = false)
    (hrest : ∀ d, Retry.delay? Enquiry.isRetryable (node q n).outcome delays = some d →
      ∀ next, cancel.fired next = false →
        time node (n + 1) next ((asking cancel q).goOn (n + 1) (ask (.enquire cancel q)) delays.tail) =
          some ((course (node q) Enquiry.isRetryable cancel next (n + 1) delays.tail).after [next])) :
    time node n now ((asking cancel q).goOn n (ask (.enquire cancel q)) delays) =
      some ((course (node q) Enquiry.isRetryable cancel now n delays).after [now]) := by
  rw [Retry.goOn_eq]
  cases hend : cancel.fired (now + (node q n).takes) with
  | true =>
      obtain ⟨moment, hle, rfl⟩ := Cancellation.exists_of_fired hend
      have hlt : now < moment := Cancellation.fired_firesAt_eq_false_iff.mp hnow
      rw [time_question_cancelled hlt hle, course_cancelled hle, Nat.max_eq_right (Nat.le_of_lt hlt)]
      rfl
  | false =>
      rw [time_question_due hend]
      cases hdelay : Retry.delay? Enquiry.isRetryable (node q n).outcome delays with
      | none =>
          rw [Retry.proceed_last hdelay, course_last hend hdelay]
          rfl
      | some d =>
          rw [Retry.proceed_again hdelay]
          refine (congrArg (Option.map _) (time_pause cancel d _)).trans ?_
          cases hnext : cancel.fired (Stopwatch.wakeTime (now + (node q n).takes) d.nanos) with
          | false =>
              rw [sleep_due hnext (Stopwatch.le_wakeTime _ _), course_again hend hdelay hnext]
              exact congrArg (Option.map _) (hrest d hdelay _ hnext)
          | true =>
              obtain ⟨moment, hle, rfl⟩ := Cancellation.exists_of_fired hnext
              have hlt : now + (node q n).takes < moment := Cancellation.fired_firesAt_eq_false_iff.mp hend
              rw [sleep_cancelled hle (Nat.le_of_lt hlt), course_cooling hlt hdelay hle]
              rfl

theorem time_goOn {q : Enquiry} {n : Nat} {delays : List Duration} (hnow : cancel.fired now = false) :
    time node n now ((asking cancel q).goOn n (ask (.enquire cancel q)) delays) =
      some ((Attempt.course (node q) Enquiry.isRetryable cancel now n delays).after [now]) := by
  induction delays generalizing now n with
  | nil =>
      refine time_goOn_of_rest hnow fun d hdelay => ?_
      rw [Retry.delay?_nil] at hdelay
      cases hdelay
  | cons d ds ih => exact time_goOn_of_rest hnow fun _ _ next hnext => ih hnext

theorem time_run (q : Enquiry) (delays : List Duration) (cancel : Cancellation) :
    time node 0 0 ((asking cancel q).run delays) =
      let r := Attempt.retry (node q) Enquiry.isRetryable delays cancel
      some ⟨r.value, r.elapsed, if cancel.fired 0 then [] else r.marks⟩ := by
  have hrun : time node 0 0 ((asking cancel q).run delays) = time node 0 0
      (if cancel.fired 0 then .done none else (asking cancel q).goOn 0 (ask (.enquire cancel q)) delays) := rfl
  rw [hrun, Attempt.retry_eq]
  cases hfired : cancel.fired 0 with
  | false => exact time_goOn hfired
  | true =>
      obtain ⟨moment, hmoment, rfl⟩ := Cancellation.exists_of_fired hfired
      rw [Attempt.course_cancelled (Nat.le_trans hmoment (Nat.zero_le _)), Nat.max_eq_left hmoment]
      rfl

/-- A question that is put again comes to what a machine comes to; a node is asked unless it is cancelled before. -/
theorem time_enquire (patience : Enquiry.Patience) (cancel : Cancellation) (q : Enquiry) :
    time node 0 0 (enquire patience cancel q) =
      let r := Attempt.retry (node q) Enquiry.isRetryable
        (Retry.fixedDelays patience.interval patience.retries) cancel
      some ⟨r.value.getD (.error .cancelled), r.elapsed, if cancel.fired 0 then [] else r.marks⟩ := by
  have henquire : enquire patience cancel q =
      ((asking cancel q).run (Retry.fixedDelays patience.interval patience.retries)).bind
        fun answer => .done (answer.getD (.error .cancelled)) := by
    refine congrArg (Task.bind _) (funext fun answer => ?_)
    cases answer <;> rfl
  rw [henquire, time_map, time_run]
  rfl

end Site

namespace Retry

/--
A cancellation cuts off a retry as it would be without it: if that is not over before, the retry ends when the
cancellation fires, with the first attempt and those that begin before. Where something else happens at the same
moment, the cancellation comes first. The same holds of a question that is put again, but a node is not even asked
once if the cancellation fired beforehand.
-/
theorem cancellation_cuts_off :
    (∀ {ε α : Type} (attempts : Nat → Attempt ε α) (retryable : ε → Bool) (onCancel : ε)
        (delays : List Duration), ∃ r later, r.marks = 0 :: later ∧ (r.marks ++ [r.elapsed]).Pairwise (· ≤ ·) ∧
        Attempt.retry attempts retryable delays .never = ⟨some r.value, r.elapsed, r.marks⟩ ∧
        (∀ r', Machine.Ends ⟨attempts, retryable, .never, onCancel⟩ (Machine.start 0 delays) 0 r' ↔
          r' = r) ∧
        ∀ moment,
          Attempt.retry attempts retryable delays (.firesAt moment) =
            (if r.elapsed < moment then ⟨some r.value, r.elapsed, r.marks⟩
              else ⟨none, moment, 0 :: later.filter (· < moment)⟩) ∧
          ∀ r', Machine.Ends ⟨attempts, retryable, .firesAt moment, onCancel⟩
              (Machine.start 0 delays) 0 r' ↔
            r' = if r.elapsed < moment then r
              else ⟨.error onCancel, moment, 0 :: later.filter (· < moment)⟩) ∧
    ∀ (node : Enquiry.Treatment) (patience : Enquiry.Patience) (q : Enquiry), ∃ r,
      (∀ r', Machine.Ends ⟨node q, Enquiry.isRetryable, .never, .cancelled⟩
        (Machine.start 0 (fixedDelays patience.interval patience.retries)) 0 r' ↔ r' = r) ∧
      Site.time node 0 0 (Site.enquire patience .never q) = some r ∧
      ∀ moment, Site.time node 0 0 (Site.enquire patience (.firesAt moment) q) =
        some (if r.elapsed < moment then r
          else ⟨.error .cancelled, moment, r.marks.filter (· < moment)⟩) := by
  constructor
  · intro ε α attempts retryable onCancel delays
    obtain ⟨x, elapsed, later, hnever, hordered, hcut⟩ := Attempt.exists_retry attempts retryable delays
    refine ⟨⟨x, elapsed, 0 :: later⟩, later, rfl, hordered, hnever, fun r' => ?_,
      fun moment => ⟨hcut moment, fun r' => ?_⟩⟩
    · rw [Machine.ends_start_iff, hnever]
      rfl
    · rw [Machine.ends_start_iff, hcut]
      split <;> rfl
  · intro node patience q
    obtain ⟨x, elapsed, later, hnever, -, hcut⟩ := Attempt.exists_retry (node q) Enquiry.isRetryable
      (fixedDelays patience.interval patience.retries)
    refine ⟨⟨x, elapsed, 0 :: later⟩, fun r' => ?_, ?_, fun moment => ?_⟩
    · rw [Machine.ends_start_iff, hnever]
      rfl
    · rw [Site.time_enquire, hnever]
      rfl
    · rw [Site.time_enquire, hcut]
      rcases Nat.eq_zero_or_pos moment with rfl | hpos
      · have hnone : (0 :: later).filter (· < 0) = [] :=
          List.filter_eq_nil_iff.mpr fun t _ ht => Nat.not_lt_zero t (of_decide_eq_true ht)
        rw [if_neg (Nat.not_lt_zero _), if_neg (Nat.not_lt_zero _), hnone]
        rfl
      · rw [Cancellation.fired_firesAt_eq_false_iff.mpr hpos, List.filter_cons, if_pos (decide_eq_true hpos)]
        split <;> rfl

end Retry

end PartitionHost
