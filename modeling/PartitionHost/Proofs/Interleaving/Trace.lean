import PartitionHost.Proofs.Bucket.Programs
import PartitionHost.Proofs.Interleaving.World

/-!
# Traces: what a task asks, and what it is answered

A trace lists the exchanges of a task in their order, whoever answers and in whatever way. The trace of a
program that runs one part after the other is that of the first followed by that of the second
(`Task.yields_bind`), so that a trace is taken apart along the program.
-/

namespace PartitionHost

/-- Where an element is not in the first of two lists, a split of both at it is a split of the second. -/
theorem split_of_append {α : Type} {xs ys before after : List α} {a : α}
    (h : xs ++ ys = before ++ a :: after) (ha : a ∉ xs) : ∃ mid, before = xs ++ mid ∧ ys = mid ++ a :: after := by
  rcases List.append_eq_append_iff.1 h with ⟨mid, hbefore, hys⟩ | ⟨mid, rfl, hafter⟩
  · exact ⟨mid, hbefore, hys⟩
  · cases mid with
    | nil => exact ⟨[], by simp, hafter.symm⟩
    | cons b mid =>
        obtain ⟨rfl, -⟩ := List.cons.inj hafter
        exact absurd (by simp) ha

theorem split_of_cons {α : Type} {b : α} {xs before after : List α} {a : α}
    (h : b :: xs = before ++ a :: after) (ha : b ≠ a) : ∃ mid, before = b :: mid ∧ xs = mid ++ a :: after :=
  split_of_append h fun hmem => ha (List.mem_singleton.1 hmem).symm

namespace Task

variable {I : Interface} {α β : Type} {tr : List (Exchange I)}

/-- A task that is answered so, in this order, ends in a value. -/
inductive Yields : Task I α → List (Exchange I) → α → Prop where
  | done (a : α) : Yields (.done a) [] a
  | ask {r : I.Request} {resume : I.Answer r → Task I α} {x : I.Answer r} {tr : List (Exchange I)} {a : α}
      (h : Yields (resume x) tr a) : Yields (.ask r resume) (⟨r, x⟩ :: tr) a

theorem yields_bind {t : Task I α} {f : α → Task I β} {b : β} :
    (t.bind f).Yields tr b ↔ ∃ tr₁ tr₂ a, tr = tr₁ ++ tr₂ ∧ t.Yields tr₁ a ∧ (f a).Yields tr₂ b := by
  constructor
  · intro h
    induction t generalizing tr with
    | done a => exact ⟨[], tr, a, rfl, .done a, h⟩
    | ask r resume ih =>
        cases h with
        | ask h =>
            obtain ⟨tr₁, tr₂, a, rfl, hfirst, hrest⟩ := ih _ h
            exact ⟨_ :: tr₁, tr₂, a, rfl, .ask hfirst, hrest⟩
  · rintro ⟨tr₁, tr₂, a, rfl, hfirst, hrest⟩
    induction hfirst with
    | done a => exact hrest
    | ask h ih => exact .ask (ih hrest)

/-- What a task exchanges, and what it ends in, when each request is answered from the exchanges before it. -/
def against (answer : List (Exchange I) → (r : I.Request) → I.Answer r) :
    Task I α → List (Exchange I) → List (Exchange I) × α
  | .done a, _ => ([], a)
  | .ask r resume, past =>
    let x := answer past r
    let (tr, a) := against answer (resume x) (past ++ [⟨r, x⟩])
    (⟨r, x⟩ :: tr, a)

theorem yields_against (answer : List (Exchange I) → (r : I.Request) → I.Answer r) (t : Task I α)
    (past : List (Exchange I)) : t.Yields (t.against answer past).1 (t.against answer past).2 := by
  induction t generalizing past with
  | done a => exact .done a
  | ask r resume ih => exact .ask (ih _ _)

/-! ## Programs that can fail -/

variable {x : Except Error β}

theorem Yields.run_bind {p : ExceptT Error (Task I) α} {f : α → ExceptT Error (Task I) β}
    (h : (p >>= f).run.Yields tr x) :
    (∃ e, p.run.Yields tr (.error e) ∧ x = .error e) ∨
      ∃ tr₁ tr₂ a, tr = tr₁ ++ tr₂ ∧ p.run.Yields tr₁ (.ok a) ∧ (f a).run.Yields tr₂ x := by
  rw [Task.run_bind, yields_bind] at h
  obtain ⟨tr₁, tr₂, a | a, rfl, hfirst, hrest⟩ := h
  · cases hrest
    exact .inl ⟨a, by rwa [List.append_nil], rfl⟩
  · exact .inr ⟨tr₁, tr₂, a, rfl, hfirst, hrest⟩

end Task

namespace Host

variable {α β : Type} {tr : List (Exchange Surroundings)} {x : Except Error β}

theorem yields_ask_bind {r : Request} {f : r.Answer → Program β}
    (h : (ask r >>= f).run.Yields (I := Surroundings) tr x) :
    ∃ y tr', tr = ⟨r, y⟩ :: tr' ∧ (f y).run.Yields (I := Surroundings) tr' x := by
  cases h with
  | ask h => exact ⟨_, _, rfl, h⟩

theorem yields_outcome_bind {p : Program α} {f : Except Error α → Program β}
    (h : (outcome p >>= f).run.Yields (I := Surroundings) tr x) :
    ∃ tr₁ tr₂ y, tr = tr₁ ++ tr₂ ∧ p.run.Yields (I := Surroundings) tr₁ y ∧
      (f y).run.Yields (I := Surroundings) tr₂ x := by
  have houtcome : (outcome p).run = p.run.bind fun x => .done (.ok x) := rfl
  rw [Task.run_bind, houtcome, Task.bind_assoc] at h
  exact Task.yields_bind.1 h

theorem yields_lease {cancel : Cancellation} {op : Lease.Operation} {y : Except Error op.Reply}
    (h : (lease cancel op).run.Yields (I := Surroundings) tr y) : tr = [⟨.lease cancel op, y⟩] := by
  cases h with
  | ask h =>
      cases h
      rfl

theorem yields_checkpoint {cancel : Cancellation} {op : Checkpoint.Operation} {y : Except Error op.Reply}
    (h : (checkpoint cancel op).run.Yields (I := Surroundings) tr y) :
    tr = [⟨.checkpoint cancel op, y⟩] := by
  cases h with
  | ask h =>
      cases h
      rfl

end Host

end PartitionHost
