import PartitionHost.Checkpoint.Bucketed
import PartitionHost.Lease.Bucketed
import PartitionHost.Proofs.Interleaving.Law

/-!
# Programs on buckets, request by request

What the programs that keep records in a bucket ask, and how each goes on from an answer. An equation for
each of them says so once; what is proved of a program follows the equation.
-/

namespace PartitionHost

namespace Task

variable {I J : Interface} {α β : Type}

theorem run_bind (p : ExceptT Error (Task I) α) (f : α → ExceptT Error (Task I) β) :
    (p >>= f).run = p.run.bind fun
      | .ok a => (f a).run
      | .error e => .done (.error e) := by
  change Task.bind _ _ = _
  congr 1
  funext x
  cases x <;> rfl

end Task

open Bucket Bucket.Client Record

variable {α : Type} [Record α]

namespace Bucket.Client

theorem run_read? (key : String) : (read? α key).run = .ask (.call (.entry key)) fun
    | .error e => .done (.error e)
    | .ok none => .done (.ok none)
    | .ok (some e) =>
      match decode? e.value with
      | some a => .done (.ok (some a))
      | none => .done (.error (.undecodable e.key e.revision)) := by
  unfold read? call decode
  rw [Task.run_bind]
  refine congrArg (Task.ask _) (funext ?_)
  rintro (e | _ | e)
  · rfl
  · rfl
  · simp only [Task.done_bind]
    cases decode? (α := α) e.value <;> rfl

theorem run_ensure_succ (key : String) (fresh : α) (attempts : Nat) :
    (ensure key fresh (attempts + 1)).run = .ask (.call (.entry key)) fun
      | .error e => .done (.error e)
      | .ok (some e) =>
        match decode? e.value with
        | some a => .done (.ok a)
        | none => .done (.error (.undecodable e.key e.revision))
      | .ok none => .ask (.call (.create key (encode fresh))) fun
        | .error e => .done (.error e)
        | .ok (some _) => .done (.ok fresh)
        | .ok none => (ensure key fresh attempts).run := by
  rw [ensure, Task.run_bind, run_read?]
  refine congrArg (Task.ask _) (funext ?_)
  rintro (e | _ | e)
  · rfl
  · simp only [Task.done_bind]
    unfold call
    rw [Task.run_bind]
    refine congrArg (Task.ask _) (funext ?_)
    rintro (e | _ | n) <;> rfl
  · simp only
    cases decode? (α := α) e.value <;> rfl

theorem asks_ensure (key : String) (fresh : α) (attempts : Nat) :
    (ensure key fresh attempts).run.Asks fun r : Client.Request =>
      r = .call (.entry key) ∨ r = .call (.create key (encode fresh)) := by
  induction attempts with
  | zero => trivial
  | succ attempts ih =>
      rw [run_ensure_succ]
      refine ⟨.inl rfl, ?_⟩
      rintro (e | _ | e)
      · trivial
      · refine ⟨.inr rfl, ?_⟩
        rintro (e | _ | n)
        · trivial
        · exact ih
        · trivial
      · simp only
        cases decode? (α := α) e.value <;> trivial

end Bucket.Client

namespace Lease.Bucketed

theorem run_read (partition : String) : (read partition).run = .ask (.call (.entry partition)) fun
    | .error e => .done (.error e)
    | .ok none => .done (.error (.notFound partition))
    | .ok (some e) =>
      match decode? e.value with
      | some l => .done (.ok (l, e.revision))
      | none => .done (.error (.undecodable e.key e.revision)) := by
  unfold read call decode
  rw [Task.run_bind]
  refine congrArg (Task.ask _) (funext ?_)
  rintro (e | _ | e)
  · rfl
  · rfl
  · simp only [Task.done_bind]
    cases decode? (α := Lease) e.value <;> rfl

variable (partition : String) (next : Lease → Timestamp → Option Lease)

theorem run_transition_succ (attempts : Nat) :
    (transition partition next (attempts + 1)).run = .ask (.call (.entry partition)) fun
      | .error e => .done (.error e)
      | .ok none => .done (.error (.notFound partition))
      | .ok (some e) =>
        match decode? e.value with
        | none => .done (.error (.undecodable e.key e.revision))
        | some l => .ask .now fun t =>
          match next l t with
          | none => .done (.ok (l, false))
          | some l' => .ask (.call (.update partition (encode l') e.revision)) fun
            | .error e => .done (.error e)
            | .ok (some _) => .done (.ok (l', true))
            | .ok none => (transition partition next attempts).run := by
  rw [transition, Task.run_bind, run_read]
  refine congrArg (Task.ask _) (funext ?_)
  rintro (e | _ | e)
  · rfl
  · rfl
  · simp only
    cases decode? (α := Lease) e.value with
    | none => rfl
    | some l =>
        simp only [Task.done_bind]
        unfold now call
        rw [Task.run_bind]
        refine congrArg (Task.ask _) (funext ?_)
        intro t
        simp only [Function.comp_apply, Task.done_bind]
        cases next l t with
        | none => rfl
        | some l' =>
            simp only
            rw [Task.run_bind]
            refine congrArg (Task.ask _) (funext ?_)
            rintro (e | _ | n) <;> rfl

theorem run_acquire (me : Claimant) :
    (acquire me partition).run =
      (transition partition (·.acquire me.owner me.term ·) maxAttempts).run.bind fun
        | .error (.conflict _) => (read partition).run.bind fun
          | .error e => .done (.error e)
          | .ok (l, _) => .done (.ok (l, false))
        | .error e => .done (.error e)
        | .ok a => .done (.ok a) := by
  unfold acquire
  change Task.bind _ _ = _
  refine congrArg (Task.bind _) (funext ?_)
  rintro (e | a)
  · cases e with
    | conflict key =>
        change ((read partition >>= _ : Program (Lease × Bool))).run = _
        rw [Task.run_bind]
        refine congrArg (Task.bind _) (funext ?_)
        rintro (e | ⟨l, n⟩) <;> rfl
    | _ => rfl
  · rfl

end Lease.Bucketed

namespace Checkpoint.Bucketed

theorem run_replace_succ (key : String) (value : Bytes) (attempts : Nat) :
    (replace key value (attempts + 1)).run = .ask (.call (.entry key)) fun
      | .error e => .done (.error e)
      | .ok none => .done (.error (.notFound key))
      | .ok (some e) => .ask (.call (.update key value e.revision)) fun
        | .error e => .done (.error e)
        | .ok (some _) => .done (.ok ())
        | .ok none => (replace key value attempts).run := by
  rw [replace]
  unfold call
  rw [Task.run_bind]
  refine congrArg (Task.ask _) (funext ?_)
  rintro (e | _ | e)
  · rfl
  · rfl
  · simp only [Task.done_bind]
    rw [Task.run_bind]
    refine congrArg (Task.ask _) (funext ?_)
    rintro (e | _ | n) <;> rfl

end Checkpoint.Bucketed

end PartitionHost
