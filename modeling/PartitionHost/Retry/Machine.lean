import PartitionHost.Stopwatch

/-!
# Retrying as a machine

A retry does nothing by itself. Whoever waits for it polls it from time to time, and each time it does what can
be done at that moment, until it is over. It is in one of two phases, running an attempt or cooling off before
the next one, and goes from one to the other within one poll as long as there is nothing to wait for. Whenever
it goes on it looks at the cancellation first.
-/

namespace PartitionHost.Retry

structure Machine (ε α : Type) where
  /-- How the attempt of a number goes, from 0. -/
  attempts : Nat → Attempt ε α
  /-- Whether an error is worth another attempt. -/
  retryable : ε → Bool
  cancel : Cancellation
  /-- The error that is made of a cancellation. -/
  onCancel : ε

namespace Machine

inductive Phase where
  /-- The attempt that was created last runs, since it was polled for the first time. -/
  | running (since : Option Nat)
  /-- The next attempt is created at this moment. -/
  | sleeping (till : Nat)

structure State where
  phase : Phase
  /-- The number of the attempt that was created last. -/
  number : Nat
  /-- The delays that are left. -/
  delays : List Duration
  /-- The moments at which attempts were created, in order. -/
  starts : List Nat

/-- The first attempt is created with the machine. -/
def start (now : Nat) (delays : List Duration) : State := ⟨.running none, 0, delays, [now]⟩

namespace State

/-- Waits for the next attempt, if there is a delay left to wait. -/
def coolOff? (s : State) (now : Nat) : Option State :=
  match s.delays with
  | [] => none
  | d :: ds => some { s with phase := .sleeping (Stopwatch.wakeTime now d.nanos), delays := ds }

def reattempt (s : State) (now : Nat) : State :=
  { s with phase := .running none, number := s.number + 1, starts := s.starts ++ [now] }

/-- How many changes of the phase are to come at most. -/
def rank (s : State) : Nat :=
  match s.phase with
  | .running _ => 2 * s.delays.length
  | .sleeping _ => 2 * s.delays.length + 1

theorem rank_coolOff {s s' : State} {now : Nat} {since : Option Nat} (hphase : s.phase = .running since)
    (h : s.coolOff? now = some s') : s'.rank < s.rank := by
  unfold coolOff? at h
  split at h
  · cases h
  · rename_i d ds hdelays
    cases h
    simp only [rank, hphase, hdelays, List.length_cons]
    omega

theorem rank_reattempt {s : State} {till : Nat} (hphase : s.phase = .sleeping till) (now : Nat) :
    (s.reattempt now).rank < s.rank := by
  simp only [rank, reattempt, hphase]
  omega

end State

variable {ε α : Type}

/-- What comes of a machine that is polled; nothing yet, if it has to be polled again. -/
def poll (m : Machine ε α) (now : Nat) (s : State) : Option (Except ε α) × State :=
  if m.cancel.fired now then (some (.error m.onCancel), s)
  else
    match hphase : s.phase with
    | .running since =>
      let since := since.getD now
      if now < since + (m.attempts s.number).takes then (none, { s with phase := .running (some since) })
      else
        match (m.attempts s.number).outcome with
        | .ok a => (some (.ok a), s)
        | .error e =>
          if m.retryable e then
            match hcool : s.coolOff? now with
            | none => (some (.error e), s)
            | some s' =>
              have := State.rank_coolOff hphase hcool
              m.poll now s'
          else (some (.error e), s)
    | .sleeping till =>
      if now < till then (none, s)
      else
        have := State.rank_reattempt hphase now
        m.poll now (s.reattempt now)
termination_by s.rank

/-- The moment up to which there is nothing to do in a state, unless it is cancelled. -/
def due (m : Machine ε α) (now : Nat) (s : State) : Nat :=
  match s.phase with
  | .running since => since.getD now + (m.attempts s.number).takes
  | .sleeping till => till

/--
Whoever waits for a machine polls it, and polls it again when there is something to do or it is cancelled, if not
before. What it comes to, when, and with which attempts.
-/
inductive Ends (m : Machine ε α) : State → Nat → Stopwatch.Reading (Except ε α) → Prop where
  | finished {s s' : State} {now : Nat} {x : Except ε α} (h : m.poll now s = (some x, s')) :
      Ends m s now ⟨x, now, s'.starts⟩
  | again {s s' : State} {now later : Nat} {r : Stopwatch.Reading (Except ε α)}
      (h : m.poll now s = (none, s')) (hlater : now < later) (hdue : later ≤ m.due now s')
      (hcancel : ∀ moment ∈ m.cancel.moment?, later ≤ moment) (hrest : Ends m s' later r) :
      Ends m s now r

end Machine

end PartitionHost.Retry
