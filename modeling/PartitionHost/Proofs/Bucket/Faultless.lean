import PartitionHost.Proofs.Bucket.Effect
import PartitionHost.Proofs.Lease.Discipline

/-!
# Calls on a bucket that nothing goes wrong with

A bucket whose server takes no time and is not made to fail answers every call at once, by what the bucket
itself does. A program on it is then a function of the bucket and the clock (`Client.result`), and that is
what a routine comes to that runs the program on a cluster (`Routine.run_client`), as long as its
cancellation has not fired. If the server takes its time, the same holds of a program that does not look at
the clock and is over before its cancellation fires (`Routine.exists_run_client`). A server that takes no time
but is made to fail is a function of the server and the clock as well (`Server.carryOut`).
-/

namespace PartitionHost

open Record

/-! ## Routines one after the other -/

namespace Routine

variable {α β : Type}

theorem run_bind (t : Routine α) (f : α → Routine β) (c : Cluster) :
    (t.bind f).run c = match t.run c with
      | (some a, c') => (f a).run c'
      | (none, c') => (none, c') := by
  induction t generalizing c with
  | done a => rfl
  | act change resume ih => exact ih c _
  | wait w resume ih =>
      simp only [bind, run]
      cases w.due c with
      | none => rfl
      | some moment => exact ih _

theorem run_bind_of_eq {t : Routine α} {c c' : Cluster} {a : α} (h : t.run c = (some a, c'))
    (f : α → Routine β) : (t.bind f).run c = (f a).run c' := by
  rw [run_bind, h]

theorem run_sleep (cancel : Cancellation) (due : Nat) (c : Cluster) :
    (sleep cancel due).run c =
      if cancel.fired (max due c.elapsed) then
        (some .cancelled, c.wakeAt (cancel.moment?.getD (max due c.elapsed)))
      else (some .due, c.wakeAt (max due c.elapsed)) := by
  change (if cancel.fired (max due c.elapsed) then _ else _ : Routine Wake).run c = _
  split <;> rfl

theorem run_sleep_now {cancel : Cancellation} {c : Cluster} (hcancel : cancel.fired c.elapsed = false) :
    (sleep cancel c.elapsed).run c = (some .due, c) := by
  rw [run_sleep, Nat.max_self, hcancel]
  change (some Wake.due, c.wakeAt c.elapsed) = _
  rw [Cluster.wakeAt, Nat.max_self]

end Routine

/-! ## The bucket by itself -/

namespace Bucket

/-- What a bucket of this name answers to a call, and what it is after that. -/
def reply (name : String) (b : Bucket) (c : Call) : Except Failure c.Reply × Bucket :=
  let (x, s) := (Server.mk name b {}).answer c
  (x, s.bucket)

theorem answer_of_latencies (name : String) (b : Bucket) (read write : Nat) (c : Call) :
    (Server.mk name b { readLatency := read, writeLatency := write }).answer c =
      ((reply name b c).1,
        ⟨name, (reply name b c).2, { readLatency := read, writeLatency := write }⟩) := by
  obtain ⟨created, entries, revision⟩ := b
  cases created with
  | false => cases c <;> rfl
  | true => cases c <;> rfl

theorem answer_faultless (name : String) (b : Bucket) (c : Call) :
    (Server.mk name b {}).answer c = ((reply name b c).1, ⟨name, (reply name b c).2, {}⟩) :=
  answer_of_latencies name b 0 0 c

theorem reply_of_created {name : String} {b : Bucket} (h : b.created = true) (call : Call) :
    reply name b call = match call with
    | .exists? => (.ok true, b)
    | .ensure => (.ok (), b)
    | .drop => (.ok (), { b with created := false, entries := .empty })
    | .keys => (.ok b.entries.names, b)
    | .entry key => (.ok (b.entry? key), b)
    | .create key value => (.ok (b.create key value).1, (b.create key value).2)
    | .update key value revision => (.ok (b.update key value revision).1, (b.update key value revision).2)
    | .delete key => (.ok (), b.delete key) := by
  obtain ⟨created, entries, revision⟩ := b
  obtain rfl : created = true := h
  cases call <;> rfl

end Bucket

namespace Cluster

def setServer (c : Cluster) (store : StoreName) (s : Bucket.Server) : Cluster :=
  match store with
  | .leases => { c with leases := { c.leases with server := some s } }
  | .checkpoints => { c with checkpoints := { c.checkpoints with server := some s } }

variable {c : Cluster} {store : StoreName} {s : Bucket.Server}

@[simp] theorem server?_setServer (s' : Bucket.Server) :
    (c.setServer store s').server? store = some s' := by
  cases store <;> rfl

@[simp] theorem setServer_setServer (s s' : Bucket.Server) :
    (c.setServer store s).setServer store s' = c.setServer store s' := by
  cases store <;> rfl

@[simp] theorem now_setServer : (c.setServer store s).now = c.now := by
  cases store <;> rfl

@[simp] theorem elapsed_setServer : (c.setServer store s).elapsed = c.elapsed := by
  cases store <;> rfl

theorem setServer_self (h : c.server? store = some s) : c.setServer store s = c := by
  obtain ⟨⟨register, server⟩, ⟨register', server'⟩, members, elapsed, origin, notes⟩ := c
  cases store with
  | leases =>
      obtain rfl : server = some s := h
      rfl
  | checkpoints =>
      obtain rfl : server' = some s := h
      rfl

theorem call_of_server (h : c.server? store = some s) (call : Bucket.Call) :
    c.call store call = ((s.answer call).1, c.setServer store (s.answer call).2) := by
  cases store with
  | leases =>
      have h : c.leases.server = some s := h
      simp only [Cluster.call, Vault.call, h]
      rfl
  | checkpoints =>
      have h : c.checkpoints.server = some s := h
      simp only [Cluster.call, Vault.call, h]
      rfl

theorem latency_of_server (h : c.server? store = some s) (call : Bucket.Call) :
    c.latency store call = s.latency call := by
  cases store with
  | leases =>
      have h : c.leases.server = some s := h
      simp only [latency, Vault.latency, h]
      rfl
  | checkpoints =>
      have h : c.checkpoints.server = some s := h
      simp only [latency, Vault.latency, h]
      rfl

end Cluster

/-! ## Programs -/

/-- How a client of the bucket of a store asks its site. -/
def StoreName.client (store : StoreName) (cancel : Cancellation) :
    (r : Bucket.Client.Request) → Task Site r.Answer
  | .call c =>
    match store with
    | .leases => Site.ask (.leaseBucket cancel c)
    | .checkpoints => Site.ask (.checkpointBucket cancel c)
  | .now => Site.ask .now

namespace Bucket.Client

/-- What a program comes to on a bucket by itself, at a time, and what the bucket is after that. -/
def result {α : Type} (name : String) (now : Timestamp) : Task Client α → Bucket → α × Bucket
  | .done a, b => (a, b)
  | .ask (.call c) resume, b =>
    result name now (resume ((reply name b c).1.mapError Failure.toError)) (reply name b c).2
  | .ask .now resume, b => result name now (resume now) b

variable {α β : Type} {name : String} {now : Timestamp}

theorem result_bind (t : Task Client α) (f : α → Task Client β) (b : Bucket) :
    result name now (t.bind f) b =
      result name now (f (result name now t b).1) (result name now t b).2 := by
  induction t generalizing b with
  | done a => rfl
  | ask r resume ih =>
      cases r with
      | call c => exact ih _ _
      | now => exact ih _ _

theorem result_call (b : Bucket) (c : Call) : result name now (call c).run b =
    ((reply name b c).1.mapError Failure.toError, (reply name b c).2) := rfl

end Bucket.Client

namespace Bucket.Server

/-- What a program comes to on a server that takes no time, and what the server is after that. -/
def carryOut {α : Type} (now : Timestamp) : Task Client α → Server → α × Server
  | .done a, s => (a, s)
  | .ask (.call c) resume, s =>
    carryOut now (resume ((s.answer c).1.mapError Failure.toError)) (s.answer c).2
  | .ask .now resume, s => carryOut now (resume now) s

variable {α β : Type} {now : Timestamp}

theorem carryOut_bind (t : Task Client α) (f : α → Task Client β) (s : Server) :
    carryOut now (t.bind f) s = carryOut now (f (carryOut now t s).1) (carryOut now t s).2 := by
  induction t generalizing s with
  | done a => rfl
  | ask r resume ih =>
      cases r with
      | call c => exact ih _ _
      | now => exact ih _ _

theorem carryOut_faultless (name : String) (t : Task Client α) (b : Bucket) :
    carryOut now t ⟨name, b, {}⟩ =
      ((Client.result name now t b).1, ⟨name, (Client.result name now t b).2, {}⟩) := by
  induction t generalizing b with
  | done a => rfl
  | ask r resume ih =>
      cases r with
      | call c =>
          rw [carryOut, answer_faultless]
          exact ih _ _
      | now => exact ih _ _

/-- A server that takes no time for any call. -/
def IsPrompt (s : Server) : Prop := s.faults.readLatency = 0 ∧ s.faults.writeLatency = 0

variable {s : Server}

theorem IsPrompt.latency_eq (h : s.IsPrompt) (c : Call) : s.latency c = 0 := by
  cases c with
  | keys | entry => exact h.1
  | create | update | delete => exact h.2
  | exists? | ensure | drop => rfl

theorem IsPrompt.access {α : Type} (h : s.IsPrompt) (kind : Access) {act : Server → α × Server}
    (hact : (act s).2.IsPrompt) : (s.access kind act).2.IsPrompt := by
  unfold Server.access
  split
  · rename_i faults hfaults
    cases kind <;>
      · simp only [takeFailure, Option.ite_none_right_eq_some, Option.some.injEq] at hfaults
        obtain ⟨-, rfl⟩ := hfaults
        exact h
  · split
    · exact hact
    · exact h

/-- Failures and conflicts are used up, but a server does not get slower by that. -/
theorem IsPrompt.answer (h : s.IsPrompt) (c : Call) : (s.answer c).2.IsPrompt := by
  cases c with
  | exists? | ensure | drop => exact h
  | update key value revision =>
      refine h.access .update ?_
      unfold Server.update
      split <;> exact h
  | _ => exact h.access _ h

end Bucket.Server

namespace Routine

open Bucket.Client
open Bucket.Server (carryOut IsPrompt)

variable {α : Type} {c : Cluster} {store : StoreName} {cancel : Cancellation} {name : String}
  {b : Bucket} {s : Bucket.Server}

theorem run_call (h : c.server? store = some s) (hs : s.IsPrompt)
    (hcancel : cancel.fired c.elapsed = false) (call : Bucket.Call) :
    (Routine.call store cancel call).run c =
      (some (some (s.answer call).1), c.setServer store (s.answer call).2) := by
  change ((sleep cancel (c.elapsed + c.latency store call)).bind _).run c = _
  rw [Cluster.latency_of_server h, hs.latency_eq, Nat.add_zero, run_bind_of_eq (run_sleep_now hcancel)]
  change (some (some (c.call store call).1), (c.call store call).2) = _
  rw [Cluster.call_of_server h]

theorem run_client_of_prompt (host : String) (h : c.server? store = some s) (hs : s.IsPrompt)
    (hcancel : cancel.fired c.elapsed = false) (t : Task Bucket.Client α) :
    (ofSite host (t.serve (store.client cancel))).run c =
      (some (carryOut c.now t s).1, c.setServer store (carryOut c.now t s).2) := by
  induction t generalizing s c with
  | done a =>
      rw [show c.setServer store (carryOut c.now (.done a) s).2 = c from Cluster.setServer_self h]
      rfl
  | ask r resume ih =>
      cases r with
      | call call =>
          have hcall := run_call h hs hcancel call
          have hanswer : (callResult <$> Routine.call store cancel call).run c =
              (some ((s.answer call).1.mapError Bucket.Failure.toError),
                c.setServer store (s.answer call).2) := run_bind_of_eq hcall _
          have hstep : (ofSite host ((Task.ask (I := Bucket.Client) (.call call) resume).serve
              (store.client cancel))).run c = ((callResult <$> Routine.call store cancel call).bind
                fun x => ofSite host ((resume x).serve (store.client cancel))).run c := by
            cases store <;> rfl
          rw [hstep, run_bind_of_eq hanswer,
            ih _ (Cluster.server?_setServer _) (hs.answer call) (by simpa using hcancel)]
          simp only [Cluster.now_setServer, Cluster.setServer_setServer]
          rfl
      | now => exact ih c.now h hs hcancel

theorem run_client (host : String) (h : c.server? store = some ⟨name, b, {}⟩)
    (hcancel : cancel.fired c.elapsed = false) (t : Task Bucket.Client α) :
    (ofSite host (t.serve (store.client cancel))).run c =
      (some (result name c.now t b).1, c.setServer store ⟨name, (result name c.now t b).2, {}⟩) := by
  rw [run_client_of_prompt host h ⟨rfl, rfl⟩ hcancel, Bucket.Server.carryOut_faultless]

end Routine

/-! ## Servers that take their time -/

theorem Cancellation.not_fired_of_le {cancel : Cancellation} {m n : Nat} (h : m ≤ n)
    (hn : cancel.fired n = false) : cancel.fired m = false := by
  cases cancel with
  | never => rfl
  | firesAt moment =>
      simp only [fired, decide_eq_false_iff_not] at hn ⊢
      omega

/-- A server that does not fail, but takes so many milliseconds to read and to write. -/
def Bucket.Server.unhurried (name : String) (b : Bucket) (read write : Nat) : Bucket.Server :=
  ⟨name, b, { readLatency := read, writeLatency := write }⟩

namespace Routine

open Bucket Bucket.Client

variable {α : Type} {c : Cluster} {store : StoreName} {cancel : Cancellation} {name : String}
  {b : Bucket} {read write : Nat}

theorem exists_run_sleep (cancel : Cancellation) (due : Nat) (c : Cluster) :
    ∃ wake moment, (sleep cancel due).run c = (some wake, c.wakeAt moment) ∧
      (cancel.fired (c.wakeAt moment).elapsed = false → wake = .due) := by
  rw [run_sleep]
  split
  · rename_i hfired
    refine ⟨_, _, rfl, fun hnot => ?_⟩
    obtain ⟨moment, -, rfl⟩ := Cancellation.exists_of_fired hfired
    exact absurd (Cancellation.fired_firesAt_eq_false_iff.mp hnot) (Nat.not_lt.mpr (Nat.le_max_right _ _))
  · exact ⟨_, _, rfl, fun _ => rfl⟩

theorem exists_run_call (h : c.server? store = some (.unhurried name b read write))
    (cancel : Cancellation) (call : Call) :
    ∃ x c' b', (Routine.call store cancel call).run c = (some x, c') ∧
      c'.server? store = some (.unhurried name b' read write) ∧ c.elapsed ≤ c'.elapsed ∧
      (cancel.fired c'.elapsed = false → x = some (reply name b call).1 ∧ b' = (reply name b call).2) := by
  obtain ⟨wake, moment, hsleep, hwake⟩ :=
    exists_run_sleep cancel (c.elapsed + c.latency store call) c
  have hserver : (c.wakeAt moment).server? store = some (.unhurried name b read write) := by
    cases store <;> exact h
  obtain ⟨next, hrun, hcancelled, hdue⟩ : ∃ next : Wake → Routine (Option (Except Failure call.Reply)),
      (Routine.call store cancel call).run c =
          ((sleep cancel (c.elapsed + c.latency store call)).bind next).run c ∧
        next .cancelled = .done none ∧ next .due = some <$> update (·.call store call) :=
    ⟨_, rfl, rfl, rfl⟩
  have hle : c.elapsed ≤ (c.wakeAt moment).elapsed := Nat.le_max_left ..
  rw [hrun, run_bind_of_eq hsleep]
  cases wake with
  | cancelled =>
      rw [hcancelled]
      exact ⟨_, _, b, rfl, hserver, hle, fun hnot => by cases hwake hnot⟩
  | due =>
      have hcall := Cluster.call_of_server hserver call
      rw [Server.unhurried, answer_of_latencies] at hcall
      have hupdate : (some <$> update (·.call store call)).run (c.wakeAt moment) =
          (some (some ((c.wakeAt moment).call store call).1), ((c.wakeAt moment).call store call).2) := rfl
      rw [hdue, hupdate, hcall]
      exact ⟨_, _, _, rfl, Cluster.server?_setServer _, by simpa using hle, fun _ => ⟨rfl, rfl⟩⟩

/--
A routine that runs a program which does not look at the clock comes to an end, and unless it was cancelled
by then, to the result of the program.
-/
theorem exists_run_client (host : String) (h : c.server? store = some (.unhurried name b read write))
    (cancel : Cancellation) (now : Timestamp) {t : Task Client α} (ht : t.Asks (· ≠ Request.now)) :
    ∃ x c' b', (ofSite host (t.serve (store.client cancel))).run c = (some x, c') ∧
      c'.server? store = some (.unhurried name b' read write) ∧ c.elapsed ≤ c'.elapsed ∧
      (cancel.fired c'.elapsed = false →
        x = (result name now t b).1 ∧ b' = (result name now t b).2) := by
  induction t generalizing b c with
  | done a => exact ⟨a, c, b, rfl, h, Nat.le_refl _, fun _ => ⟨rfl, rfl⟩⟩
  | ask r resume ih =>
      obtain ⟨hr, hresume⟩ := ht
      cases r with
      | now => exact absurd rfl hr
      | call call =>
          obtain ⟨x, c₁, b₁, hcall, hserver₁, hle₁, hx⟩ := exists_run_call h cancel call
          obtain ⟨y, c₂, b₂, hrun, hserver₂, hle₂, hy⟩ := ih (callResult x) hserver₁ (hresume _)
          have hanswer : (callResult <$> Routine.call store cancel call).run c =
              (some (callResult x), c₁) := run_bind_of_eq hcall _
          have hstep : (ofSite host ((Task.ask (I := Client) (.call call) resume).serve
              (store.client cancel))).run c = ((callResult <$> Routine.call store cancel call).bind
                fun x => ofSite host ((resume x).serve (store.client cancel))).run c := by
            cases store <;> rfl
          refine ⟨y, c₂, b₂, ?_, hserver₂, Nat.le_trans hle₁ hle₂, fun hnot => ?_⟩
          · rw [hstep, run_bind_of_eq hanswer, hrun]
          · obtain ⟨rfl, rfl⟩ := hx (Cancellation.not_fired_of_le hle₂ hnot)
            exact hy hnot

end Routine

end PartitionHost
