import PartitionHost.Proofs.Host.Requests
import PartitionHost.Proofs.Interleaving.History
import PartitionHost.Proofs.Lease.Transition

/-!
# How leases are written

Whoever writes leases into a bucket does so by a discipline (`Lease.discipline`): the lease of a partition
is put there unowned, and what is written over it is the transition of the lease that was read just before,
at the clock as it was read after that, on condition that it is still of the revision that was read.
`Equipment.along_discipline` says so of every action, whatever it is answered.
-/

namespace PartitionHost

open Record

/-- An action that took or updated the lease of a partition, and answers that lease. -/
def Action.Fenced (a : Action) (outcome : Except Error a.Reply) (p : String) (l : Lease) : Prop :=
  match a, outcome with
  | .lease _ (.acquire q), .ok (l', true) | .lease _ (.update q), .ok (l', true) => q = p ∧ l' = l
  | _, _ => False

namespace Lease

/--
A value is the transition of the lease that was read last, at the revision that was read, and the clock
was read after the lease.
-/
def Decided (me : Claimant) (op : Operation) (key : String) (value : Bytes) (revision : Nat)
    (past : List (Exchange Site)) : Prop :=
  ∃ next l l' older cancel e t,
    op.transition? me = some (key, next) ∧
    past = ⟨.now, t⟩ :: ⟨.leaseBucket cancel (.entry key), .ok (some e)⟩ :: older ∧
    decode? e.value = some l ∧ e.revision = revision ∧ next l t = some l' ∧ encode l' = value

/-- What is decided to be acquired is not decided to be anything else, as it was available. -/
theorem Decided.eq_acquire {me : Claimant} {op : Operation} {p key : String} {value value' : Bytes}
    {revision revision' : Nat} {past : List (Exchange Site)}
    (hacquire : Decided me (.acquire p) p value revision past)
    (h : Decided me op key value' revision' past) : op = .acquire key := by
  obtain ⟨next, l, l', older, cancel, e, t, hop, rfl, hl, -, hnext, -⟩ := hacquire
  obtain ⟨next', l₁, l₁', older₁, cancel₁, e₁, t₁, hop₁, hpast, hl₁, -, hnext₁, -⟩ := h
  cases hpast
  obtain rfl := Option.some.inj (hl.symm.trans hl₁)
  have havailable : l.isAvailable t = true := by
    cases Operation.turns_of_transition? hop hnext with
    | acquire havailable => exact havailable
  have hnot : l.isHeldBy me.owner t ≠ true := by simp [isHeldBy, havailable]
  cases Operation.turns_of_transition? hop₁ hnext₁ with
  | acquire _ => rfl
  | renew hheld => exact absurd hheld hnot
  | release hheld => exact absurd hheld hnot
  | update hheld => exact absurd hheld hnot

/-- What may be asked of the lease store for these operations, after these exchanges. -/
def discipline (me : Claimant) (uses : Operation → Prop) (past : List (Exchange Site)) :
    Site.Request → Prop
  | .leaseBucket _ (.update key value revision) =>
    ∃ op, uses op ∧ Decided me op key value revision past
  | .leaseBucket _ (.create key value) => uses (.ensure key) ∧ value = encode (unowned key)
  | .leaseBucket _ (.delete key) => uses (.delete key)
  | .leaseBucket _ .drop => uses .deleteStore
  | .leaseTable me' op => me' = me ∧ uses op
  | _ => True

def client (cancel : Cancellation) : (r : Bucket.Client.Request) → Task Site r.Answer
  | .call c => Site.ask (.leaseBucket cancel c)
  | .now => Site.ask .now

@[simp] theorem serve_client_call {α : Type} (cancel : Cancellation) (c : Bucket.Call)
    (resume : Except Error c.Reply → Task Bucket.Client α) :
    (Task.ask (I := Bucket.Client) (.call c) resume).serve (client cancel) =
      .ask (I := Site) (.leaseBucket cancel c) fun x => (resume x).serve (client cancel) := rfl

@[simp] theorem serve_client_now {α : Type} (cancel : Cancellation)
    (resume : Timestamp → Task Bucket.Client α) :
    (Task.ask (I := Bucket.Client) .now resume).serve (client cancel) =
      .ask (I := Site) .now fun t => (resume t).serve (client cancel) := rfl

end Lease

/-- The partition whose lease an exchange writes over, or about which it changes what a host believes. -/
def Exchange.subject? : Exchange Site → Option String
  | ⟨.leaseBucket _ (.update p _ _), .ok (some _)⟩ => some p
  | ⟨.own p _, _⟩ => some p
  | ⟨.disown p, _⟩ => some p
  | _ => none

namespace Lease.Bucketed

variable {me : Claimant} {uses : Operation → Prop} {cancel : Cancellation}
  {law : List (Exchange Site) → Site.Request → Prop} {keep : List (Exchange Site) → Prop}

/-- The last exchange wrote this lease of a partition, as the operation had decided after what is kept. -/
def JustWrote (me : Claimant) (cancel : Cancellation) (op : Operation)
    (keep : List (Exchange Site) → Prop) (p : String) (l : Lease) (past : List (Exchange Site)) : Prop :=
  ∃ revision n older, past = ⟨.leaseBucket cancel (.update p (encode l) revision), .ok (some n)⟩ :: older ∧
    Decided me op p (encode l) revision older ∧ keep older

/-- A lease is answered as turned when it was just written, and otherwise all is kept. -/
def Turned (me : Claimant) (cancel : Cancellation) (op : Operation)
    (keep : List (Exchange Site) → Prop) (p : String) :
    Except Error (Lease × Bool) → List (Exchange Site) → Prop
  | .ok (l, true), past => JustWrote me cancel op keep p l past
  | _, past => keep past

/-- The law lets an operation be decided and written after what is kept, which is kept until then. -/
structure Lets (law : List (Exchange Site) → Site.Request → Prop)
    (keep : List (Exchange Site) → Prop) (me : Claimant) (cancel : Cancellation) (op : Operation)
    (p : String) : Prop where
  read : ∀ past, keep past → law past (.leaseBucket cancel (.entry p))
  now : ∀ past, keep past → law past .now
  update : ∀ past value revision, keep past → Decided me op p value revision past →
    law past (.leaseBucket cancel (.update p value revision))
  cons : ∀ past x, x.subject? = none → keep past → keep (x :: past)

theorem along_transition {op : Operation} {p : String} {next : Lease → Timestamp → Option Lease}
    (hop : op.transition? me = some (p, next)) (h : Lets law keep me cancel op p) (attempts : Nat)
    {past : List (Exchange Site)} (hpast : keep past) :
    ((transition p next attempts).run.serve (client cancel)).Along law
      (Turned me cancel op keep p) past := by
  induction attempts generalizing past with
  | zero => exact hpast
  | succ attempts ih =>
      rw [run_transition_succ, serve_client_call]
      refine ⟨h.read past hpast, ?_⟩
      rintro (e | _ | e)
      · exact h.cons _ _ rfl hpast
      · exact h.cons _ _ rfl hpast
      · have hread := h.cons past ⟨.leaseBucket cancel (.entry p), .ok (some e)⟩ rfl hpast
        cases hl : decode? (α := Lease) e.value with
        | none => simp only [hl]; exact hread
        | some l =>
            simp only [hl, serve_client_now]
            refine ⟨h.now _ hread, fun t => ?_⟩
            have hnow := h.cons _ ⟨.now, t⟩ rfl hread
            cases hnext : next l t with
            | none => simp only [hnext]; exact hnow
            | some l' =>
                simp only [hnext, serve_client_call]
                have hdecided : Decided me op p (encode l') e.revision _ :=
                  ⟨next, l, l', past, cancel, e, t, hop, rfl, hl, rfl, hnext, rfl⟩
                refine ⟨h.update _ _ _ hnow hdecided, ?_⟩
                rintro (e' | _ | n)
                · exact h.cons _ _ rfl hnow
                · exact ih (h.cons _ _ rfl hnow)
                · exact ⟨_, _, _, rfl, hdecided, hnow⟩

theorem along_acquire {p : String} (h : Lets law keep me cancel (.acquire p) p)
    {past : List (Exchange Site)} (hpast : keep past) :
    ((acquire me p).run.serve (client cancel)).Along law
      (Turned me cancel (.acquire p) keep p) past := by
  rw [run_acquire, Task.serve_bind, Task.along_bind]
  refine (along_transition rfl h _ hpast).mono (fun _ _ => id) fun x past hx => ?_
  split
  · rw [run_read, Task.ask_bind, serve_client_call]
    refine ⟨h.read _ hx, ?_⟩
    rintro (e | _ | e)
    · exact h.cons _ _ rfl hx
    · exact h.cons _ _ rfl hx
    · have hread := h.cons past ⟨.leaseBucket cancel (.entry p), .ok (some e)⟩ rfl hx
      simp only
      cases decode? (α := Lease) e.value <;> exact hread
  · exact hx
  · exact hx

theorem lets_discipline {op : Operation} (huses : uses op) (p : String) :
    Lets (discipline me uses) (fun _ => True) me cancel op p where
  read _ _ := trivial
  now _ _ := trivial
  update _ _ _ _ h := ⟨op, huses, h⟩
  cons _ _ _ _ := trivial

theorem along_ensure {p : String} (huses : uses (.ensure p)) (attempts : Nat)
    (past : List (Exchange Site)) :
    ((Bucket.Client.ensure p (unowned p) attempts).run.serve (client cancel)).Along
      (discipline me uses) (fun _ _ => True) past := by
  refine Task.along_serve (Bucket.Client.asks_ensure p _ attempts) ?_ trivial
  rintro r (rfl | rfl) past -
  · exact ⟨trivial, fun _ => trivial⟩
  · exact ⟨⟨huses, rfl⟩, fun _ => trivial⟩

theorem along_readAll (keys : List String) (past : List (Exchange Site)) :
    ((readAll keys).run.serve (client cancel)).Along (discipline me uses) (fun _ _ => True) past := by
  induction keys generalizing past with
  | nil => trivial
  | cons key keys ih =>
      rw [readAll, Task.run_bind, Bucket.Client.run_read?, Task.ask_bind, serve_client_call]
      refine ⟨trivial, ?_⟩
      rintro (e | _ | e)
      · trivial
      · exact ih _
      · simp only
        cases decode? (α := Lease) e.value with
        | none => trivial
        | some l =>
            simp only [Task.done_bind, Task.run_bind, Task.serve_bind, Task.along_bind]
            refine (ih _).mono (fun _ _ => id) fun x past _ => ?_
            split <;> trivial

theorem along_perform {op : Operation} (huses : uses op) (past : List (Exchange Site)) :
    ((perform me op).run.serve (client cancel)).Along (discipline me uses)
      (fun x past => ∀ p l, (Action.lease cancel op).Fenced x p l →
        JustWrote me cancel op (fun _ => True) p l past) past := by
  cases op with
  | storeExists => exact ⟨trivial, fun _ _ _ h => nomatch h⟩
  | ensureStore => exact ⟨trivial, fun _ _ _ h => nomatch h⟩
  | deleteStore => exact ⟨huses, fun _ _ _ h => nomatch h⟩
  | list =>
      rw [perform, Task.run_bind]
      refine ⟨trivial, ?_⟩
      rintro (e | keys)
      · exact fun _ _ h => nomatch h
      · exact (along_readAll keys _).mono (fun _ _ => id) fun _ _ _ _ _ h => nomatch h
  | ensure p => exact (along_ensure huses _ past).mono (fun _ _ => id) fun _ _ _ _ _ h => nomatch h
  | delete p => exact ⟨huses, fun _ _ _ h => nomatch h⟩
  | acquire p =>
      refine (along_acquire (lets_discipline huses p) trivial).mono (fun _ _ => id) fun x past hx q l h => ?_
      rcases x with e | ⟨l', _ | _⟩
      · cases h
      · cases h
      · obtain ⟨rfl, rfl⟩ := h
        exact hx
  | renew p =>
      exact (along_transition rfl (lets_discipline huses p) _ trivial).mono (fun _ _ => id)
        fun _ _ _ _ _ h => nomatch h
  | release p =>
      rw [perform, Task.run_bind, Task.serve_bind, Task.along_bind]
      refine (along_transition rfl (lets_discipline huses p) _ trivial).mono (fun _ _ => id)
        fun x past _ => ?_
      split <;> exact fun _ _ h => nomatch h
  | update p =>
      refine (along_transition rfl (lets_discipline huses p) _ trivial).mono (fun _ _ => id)
        fun x past hx q l h => ?_
      rcases x with e | ⟨l', _ | _⟩
      · cases h
      · cases h
      · obtain ⟨rfl, rfl⟩ := h
        exact hx

end Lease.Bucketed

/-! ## Actions -/

open Lease (discipline)

variable {me : Lease.Claimant} {uses : Lease.Operation → Prop}

theorem Lease.discipline_of_not {past : List (Exchange Site)} {r : Site.Request}
    (h : ¬ r.IsOfLeases) : discipline me uses past r := by
  cases r with
  | leaseBucket cancel c => exact absurd trivial h
  | leaseTable me op => exact absurd trivial h
  | _ => trivial

theorem Lease.along_of_asks {α : Type} {t : Task Site α}
    (h : t.Asks fun r : Site.Request => ¬ r.IsOfLeases) (past : List (Exchange Site)) :
    t.Along (discipline me uses) (fun _ _ => True) past :=
  h.along_of_forall (fun _ _ => discipline_of_not) past

namespace Equipment

variable (e : Equipment)

theorem lease_of_bucket {e : Equipment} (h : e.leases = .bucket) (cancel : Cancellation)
    (op : Lease.Operation) :
    e.lease cancel op = (Lease.Bucketed.perform e.me op).run.serve (Lease.client cancel) := by
  rw [lease, h]
  rfl

theorem task_of_bucket {e : Equipment} (h : e.leases = .bucket) (cancel : Cancellation)
    (op : Lease.Operation) :
    e.task (.lease cancel op) = (Lease.Bucketed.perform e.me op).run.serve (Lease.client cancel) :=
  (e.serve_lease cancel op).trans (lease_of_bucket h cancel op)

theorem along_lease {cancel : Cancellation} {op : Lease.Operation} (h : uses op)
    (past : List (Exchange Site)) :
    (e.lease cancel op).Along (discipline e.me uses) (fun _ _ => True) past := by
  unfold lease
  split
  · refine ⟨⟨rfl, h⟩, fun answer => ?_⟩
    change Task.Along _ ((Site.noteIfAny _).bind _) _ _
    unfold Site.noteIfAny
    split
    · exact ⟨trivial, fun _ => trivial⟩
    · trivial
  · exact (Lease.Bucketed.along_perform h past).mono (fun _ _ => id) fun _ _ _ => trivial

theorem along_discipline (a : Action) :
    (e.task a).Along (discipline e.me a.UsesLease) (fun _ _ => True) [] := by
  refine Task.along_serve (a.asks_program e.me.owner) ?_ trivial
  intro r hr past _
  cases r with
  | lease cancel op => exact e.along_lease hr past
  | checkpoint cancel op =>
      exact Lease.along_of_asks ((e.asks_checkpoint cancel op).mono fun _ => And.left) past
  | hub cancel =>
      exact Lease.along_of_asks ((Site.asks_enquire e.patience cancel _).mono fun _ => And.left) past
  | range cancel partition =>
      exact Lease.along_of_asks ((Site.asks_enquire e.patience cancel _).mono fun _ => And.left) past
  | _ => exact ⟨trivial, fun _ => trivial⟩

end Equipment

end PartitionHost
