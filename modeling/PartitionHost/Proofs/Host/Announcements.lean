import PartitionHost.Proofs.Interleaving.Runtime
import PartitionHost.Proofs.Lease.Keyed

/-!
# What a host announces and what it believes

The events about a partition tell what the host believes about it, as long as the host announces whenever it
comes to believe in a lease or stops to. Twice it does not (`Host.Slip`): a lease that it believes it holds can
be taken again, which is announced as if it was not held, and an update can make it believe in a lease, which
is not announced at all. There is no other way for the events to go wrong (`Host.alternate_iff_not_slipped`).
-/

namespace PartitionHost

open Cluster Lease

namespace Host

/-! ## Beliefs and events -/

/-- What a host believes after these exchanges, when it believed in nothing before them. -/
def beliefs : List (Exchange Surroundings) → Table Lease
  | [] => .empty
  | ⟨.own p l, _⟩ :: older => (beliefs older).insert p l
  | ⟨.disown p, _⟩ :: older => (beliefs older).erase p
  | _ :: older => beliefs older

def Event.partition : Event → String
  | .acquired l _ => l.partition
  | .lost p => p

def announced (p : String) : List (Exchange Surroundings) → List Event
  | [] => []
  | ⟨.announce ev, _⟩ :: older => if ev.partition = p then ev :: announced p older else announced p older
  | _ :: older => announced p older

/-- Whether the latest of these events is that the partition was acquired. -/
def heralded : List Event → Bool
  | .acquired _ _ :: _ => true
  | _ => false

/-- Acquisitions and losses take turns, and the first of all is an acquisition. -/
def alternate : List Event → Bool
  | [] => true
  | .acquired _ _ :: older => !heralded older && alternate older
  | .lost _ :: older => heralded older && alternate older

/-- How a host comes to believe in a lease without telling its consumers what happened. -/
inductive Slip (p : String) : List (Exchange Surroundings) → Prop where
  /-- It took the lease of a partition that it believed it held. -/
  | tookAgain {cancel cancel' : Cancellation} {l : Lease} {position : Checkpoint}
      {older : List (Exchange Surroundings)} (h : (beliefs older).contains p = true) :
      Slip p (⟨.own p l, ()⟩ :: ⟨.checkpoint cancel' (.ensure p), .ok position⟩ ::
        ⟨.lease cancel (.acquire p), .ok (l, true)⟩ :: older)
  /-- It updated a lease that it did not believe it held. -/
  | unaware {cancel : Cancellation} {l : Lease} {older : List (Exchange Surroundings)}
      (h : (beliefs older).contains p = false) :
      Slip p (⟨.own p l, ()⟩ :: ⟨.lease cancel (.update p), .ok (l, true)⟩ :: older)

def Slipped (p : String) (past : List (Exchange Surroundings)) : Prop :=
  ∃ older, older <:+ past ∧ Slip p older

/-- The events about a partition are right, and tell what the host believes. -/
structure InStep (p : String) (past : List (Exchange Surroundings)) : Prop where
  alternate : alternate (announced p past) = true
  heralded : heralded (announced p past) = (beliefs past).contains p
  sure : ¬ Slipped p past

variable {p q : String} {past : List (Exchange Surroundings)}

theorem slipped_cons {x : Exchange Surroundings} :
    Slipped p (x :: past) ↔ Slip p (x :: past) ∨ Slipped p past := by
  simp only [Slipped, List.suffix_cons_iff]
  constructor
  · rintro ⟨older, rfl | holder, h⟩
    · exact .inl h
    · exact .inr ⟨older, holder, h⟩
  · rintro (h | ⟨older, holder, h⟩)
    · exact ⟨_, .inl rfl, h⟩
    · exact ⟨older, .inr holder, h⟩

theorem announced_announce {ev : Event} {x : Unit} (h : ev.partition = p) :
    announced p (⟨.announce ev, x⟩ :: past) = ev :: announced p past := if_pos h

theorem announced_cons (p : String) (x : Exchange Surroundings) (past : List (Exchange Surroundings)) :
    announced p (x :: past) = announced p past ∨
      ∃ ev, announced p (x :: past) = ev :: announced p past := by
  obtain ⟨r, y⟩ := x
  cases r with
  | announce ev =>
      by_cases h : ev.partition = p
      · exact .inr ⟨ev, if_pos h⟩
      · exact .inl (if_neg h)
  | _ => exact .inl rfl

theorem alternate_of_cons {ev : Event} {evs : List Event} (h : alternate (ev :: evs) = true) :
    alternate evs = true := by
  cases ev <;> exact ((Bool.and_eq_true _ _).mp h).2

theorem inStep_nil : InStep p [] where
  alternate := rfl
  heralded := rfl
  sure := by
    rintro ⟨older, holder, h⟩
    obtain rfl := List.suffix_nil.1 holder
    cases h

/-- Whether a request neither changes what the host believes nor announces anything. -/
def Request.IsQuiet : Request → Prop
  | .own _ _ | .disown _ | .announce _ => False
  | _ => True

theorem InStep.cons {x : Exchange Surroundings} (h : InStep p past)
    (hbeliefs : (beliefs (x :: past)).contains p = (beliefs past).contains p)
    (hannounced : announced p (x :: past) = announced p past) (hslip : ¬ Slip p (x :: past)) :
    InStep p (x :: past) where
  alternate := hannounced ▸ h.alternate
  heralded := by rw [hannounced, hbeliefs, h.heralded]
  sure := fun hslipped => (slipped_cons.1 hslipped).elim hslip h.sure

theorem InStep.quiet {r : Request} (h : InStep p past) (hr : r.IsQuiet) (x : r.Answer) :
    InStep p (⟨r, x⟩ :: past) := by
  cases r with
  | own q l => cases hr
  | disown q => cases hr
  | announce ev => cases hr
  | _ => exact h.cons rfl rfl (by rintro ⟨⟩)

theorem InStep.own {l : Lease} {x : Unit} (h : InStep p past)
    (hbelieved : q = p → (beliefs past).contains p = true)
    (hslip : ¬ Slip p (⟨.own q l, x⟩ :: past)) : InStep p (⟨.own q l, x⟩ :: past) := by
  refine h.cons ?_ rfl hslip
  rw [Bool.eq_iff_iff, beliefs, Table.contains_insert]
  constructor
  · rintro (rfl | hcontains)
    · exact hbelieved rfl
    · exact hcontains
  · exact .inr

theorem InStep.disown {x : Bool} (h : InStep p past)
    (hnot : q = p → (beliefs past).contains p = false) : InStep p (⟨.disown q, x⟩ :: past) := by
  refine h.cons ?_ rfl (by rintro ⟨⟩)
  rw [Bool.eq_iff_iff, beliefs, Table.contains_erase]
  refine ⟨And.right, fun hcontains => ⟨?_, hcontains⟩⟩
  rintro rfl
  rw [hnot rfl] at hcontains
  cases hcontains

theorem InStep.announce {ev : Event} {x : Unit} (h : InStep p past) (hev : ev.partition ≠ p) :
    InStep p (⟨.announce ev, x⟩ :: past) :=
  h.cons rfl (if_neg hev) (by rintro ⟨⟩)

theorem InStep.lost {x : Bool} {y : Unit} (h : InStep p past)
    (hbelieved : (beliefs past).contains p = true) :
    InStep p (⟨.announce (.lost p), y⟩ :: ⟨.disown p, x⟩ :: past) where
  alternate := by
    rw [announced_announce (show (Event.lost p).partition = p from rfl)]
    change (Host.heralded (announced p past) && Host.alternate (announced p past)) = true
    rw [h.heralded, hbelieved, h.alternate]
    rfl
  heralded := by
    rw [announced_announce (show (Event.lost p).partition = p from rfl), eq_comm]
    refine Bool.eq_false_iff.2 fun hcontains => ?_
    exact (Table.contains_erase.1 hcontains).1 rfl
  sure := by
    rw [slipped_cons, slipped_cons]
    rintro (⟨⟨⟩⟩ | ⟨⟨⟩⟩ | hslipped)
    exact h.sure hslipped

/-- The events about a partition went wrong, after the host had slipped. -/
def Misled (p : String) (past : List (Exchange Surroundings)) : Prop :=
  Slipped p past ∧ alternate (announced p past) = false

theorem Misled.cons (h : Misled p past) (x : Exchange Surroundings) : Misled p (x :: past) := by
  refine ⟨slipped_cons.2 (.inr h.1), ?_⟩
  rcases announced_cons p x past with hsame | ⟨ev, hnew⟩
  · rw [hsame, h.2]
  · rw [hnew, Bool.eq_false_iff]
    exact fun halternate => Bool.eq_false_iff.1 h.2 (alternate_of_cons halternate)

/-- A lease that was taken with a checkpoint, and announced: in step if and only if it was not held before. -/
theorem InStep.acquired {cancel cancel' : Cancellation} {l : Lease} {position : Checkpoint}
    {x y : Unit} (h : InStep p past) (hl : l.partition = q) :
    let past' := ⟨.announce (.acquired l position), y⟩ :: ⟨.own q l, x⟩ ::
      ⟨.checkpoint cancel' (.ensure q), .ok position⟩ ::
      ⟨.lease cancel (.acquire q), .ok (l, true)⟩ :: past
    InStep p past' ∨ Misled p past' := by
  have hquiet : InStep p (⟨.checkpoint cancel' (.ensure q), .ok position⟩ ::
      ⟨.lease cancel (.acquire q), .ok (l, true)⟩ :: past) :=
    (h.quiet (r := .lease cancel (.acquire q)) trivial _).quiet
      (r := .checkpoint cancel' (.ensure q)) trivial _
  by_cases hq : q = p
  · subst hq
    have hannounced (older : List (Exchange Surroundings)) :
        announced q (⟨.announce (.acquired l position), y⟩ :: older) =
          .acquired l position :: announced q older := announced_announce hl
    cases hbelieved : (beliefs past).contains q with
    | true =>
        refine .inr ⟨slipped_cons.2 (.inr (slipped_cons.2 (.inl (.tookAgain hbelieved)))), ?_⟩
        rw [hannounced]
        change (!Host.heralded (announced q past) && Host.alternate (announced q past)) = false
        rw [h.heralded, hbelieved]
        rfl
    | false =>
        refine .inl ⟨?_, ?_, ?_⟩
        · rw [hannounced]
          change (!Host.heralded (announced q past) && Host.alternate (announced q past)) = true
          rw [h.heralded, hbelieved, h.alternate]
          rfl
        · rw [hannounced, eq_comm]
          exact Table.contains_insert.2 (.inl rfl)
        · rw [slipped_cons, slipped_cons]
          rintro (⟨⟨⟩⟩ | hslip | hslipped)
          · cases hslip with
            | tookAgain h => rw [hbelieved] at h; cases h
          · exact hquiet.sure hslipped
  · refine .inl ((hquiet.own (fun h => absurd h hq) ?_).announce fun hp => hq (hl.symm.trans hp))
    rintro ⟨⟩
    exact hq rfl

/-! ## Programs -/

/--
What the answers tell a host, when nobody else changes what it believes, and all keep leases under the names of
their partitions.
-/
def Fits (past : List (Exchange Surroundings)) : Exchange Surroundings → Prop
  | ⟨.owned, t⟩ => t = beliefs past
  | ⟨.disown p, held⟩ => held = (beliefs past).contains p
  | x => ∀ p l, acquired? x = some (p, l) → l.partition = p

/-- How the past of a host grows by such an answer. -/
def Learns (r : Request) (past : List (Exchange Surroundings)) (x : r.Answer)
    (past' : List (Exchange Surroundings)) : Prop :=
  past' = ⟨r, x⟩ :: past ∧ Fits past ⟨r, x⟩

theorem assures_lose (h : InStep p past) (q : String) :
    (lose q).run.Assures (I := Surroundings) Learns (fun x past' => x = .ok () ∧ InStep p past' ∧
      (p ≠ q → (beliefs past').contains p = (beliefs past).contains p)) past := by
  refine assures_ask_bind fun held past₁ hx => ?_
  obtain ⟨rfl, hheld⟩ := hx
  have hothers (hne : p ≠ q) : (beliefs (⟨.disown q, held⟩ :: past)).contains p =
      (beliefs past).contains p := by
    rw [Bool.eq_iff_iff, beliefs, Table.contains_erase]
    exact and_iff_right hne
  cases held with
  | false =>
      exact ⟨rfl, h.disown fun hq => hq ▸ hheld.symm, hothers⟩
  | true =>
      rintro ⟨⟩ past₂ ⟨rfl, -⟩
      refine ⟨rfl, ?_, hothers⟩
      by_cases hq : q = p
      · subst hq
        exact h.lost hheld.symm
      · exact (h.disown fun h => absurd h hq).announce hq

theorem assures_renewAll (cancel : Cancellation) (ps : List String) (hnodup : ps.Nodup)
    (h : InStep p past) (hbelieved : p ∈ ps → (beliefs past).contains p = true) :
    (renewAll cancel ps).run.Assures (I := Surroundings) Learns (fun _ past' => InStep p past') past := by
  induction ps generalizing past with
  | nil => exact h
  | cons q ps ih =>
      obtain ⟨hq, hnodup⟩ := List.nodup_cons.1 hnodup
      have hrenew : (Host.lease cancel (.renew q)).run.Assures (I := Surroundings) Learns
          (fun x past' => past' = ⟨.lease cancel (.renew q), x⟩ :: past) past :=
        fun x past' hx => hx.1
      refine assures_outcome_bind hrenew ?_
      rintro x past₁ rfl
      have h₁ := h.quiet (r := .lease cancel (.renew q)) trivial x
      have hrest : p ∈ ps → (beliefs past).contains p = true := fun hp => hbelieved (.tail q hp)
      have hne : p ∈ ps → p ≠ q := by
        rintro hp rfl
        exact hq hp
      have hlose := (assures_lose h₁ q).run_bind (f := fun _ => renewAll cancel ps)
        (fun error past₂ h₂ => nomatch h₂.1) fun _ past₂ ⟨_, h₂, hsame⟩ =>
          ih hnodup h₂ fun hp => (hsame (hne hp)).trans (hrest hp)
      split
      · rename_i renewed
        refine assures_ask_bind fun y past₂ ⟨hpast, _⟩ => ?_
        subst hpast
        refine ih hnodup (h₁.own (fun hp => hbelieved (hp ▸ List.mem_cons_self)) (by rintro ⟨⟩)) ?_
        exact fun hp => Table.contains_insert.2 (.inr (hrest hp))
      · exact hlose
      · exact hlose
      · exact h₁
      · exact ih hnodup h₁ hrest

/-- A program leaves the events about a partition in step, if it does not mislead the consumers. -/
def Stays {α : Type} (p : String) (program : Program α) : Prop :=
  ∀ past, InStep p past ∨ Misled p past → program.run.Assures (I := Surroundings) Learns
    (fun _ past' => InStep p past' ∨ Misled p past') past

variable {α β : Type}

theorem stays_of_inStep {program : Program α}
    (h : ∀ past, InStep p past → program.run.Assures (I := Surroundings) Learns
      (fun _ past' => InStep p past' ∨ Misled p past') past) : Stays p program := by
  rintro past (hpast | hpast)
  · exact h past hpast
  · refine ((Task.asks_true program.run).assures ?_ hpast).imp fun _ _ => .inr
    rintro r past x past' - ⟨rfl, -⟩ hmisled
    exact hmisled.cons _

theorem Stays.bind {program : Program α} {f : α → Program β} (h : Stays p program)
    (hf : ∀ a, Stays p (f a)) : Stays p (program >>= f) := fun past hpast =>
  (h past hpast).run_bind (fun _ _ => id) fun a past' => hf a past'

theorem Stays.outcome_bind {program : Program α} {f : Except Error α → Program β}
    (h : Stays p program) (hf : ∀ x, Stays p (f x)) : Stays p (outcome program >>= f) :=
  fun past hpast => assures_outcome_bind (h past hpast) fun x past' => hf x past'

theorem stays_of_asks {program : Program α} (h : program.run.Asks Request.IsQuiet) :
    Stays p program :=
  stays_of_inStep fun _ hpast =>
    (h.assures (fun _ _ x _ hr hx hpast => hx.1 ▸ hpast.quiet hr x) hpast).imp fun _ _ => .inl

theorem stays_tryAcquire (q : String) (cancel : Cancellation) : Stays p (tryAcquire cancel q) := by
  refine stays_of_inStep fun past h => ?_
  have hacquire : (Host.lease cancel (.acquire q)).run.Assures (I := Surroundings) Learns
      (fun x past' => past' = ⟨.lease cancel (.acquire q), x⟩ :: past ∧
        ∀ l, x = .ok (l, true) → l.partition = q) past := fun x past' hx =>
    ⟨hx.1, fun l hl => hx.2 q l (by rw [hl]; rfl)⟩
  refine hacquire.run_bind ?_ ?_
  · rintro error past₁ ⟨rfl, -⟩
    exact .inl (h.quiet (r := .lease cancel (.acquire q)) trivial _)
  · rintro ⟨l, success⟩ past₁ ⟨rfl, hl⟩
    have h₁ := h.quiet (r := .lease cancel (.acquire q)) trivial (.ok (l, success))
    cases success with
    | false => exact .inl h₁
    | true =>
        have hensure : (Host.checkpoint cancel (.ensure q)).run.Assures (I := Surroundings) Learns
            (fun x past' => past' = ⟨.checkpoint cancel (.ensure q), x⟩ ::
              ⟨.lease cancel (.acquire q), .ok (l, true)⟩ :: past)
            (⟨.lease cancel (.acquire q), .ok (l, true)⟩ :: past) := fun x past' hx => hx.1
        refine assures_outcome_bind hensure ?_
        rintro (error | position) past₂ rfl
        · have h₂ := h₁.quiet (r := .checkpoint cancel (.ensure q)) trivial (.error error)
          have hrelease : Stays p (outcome (Host.lease cancel (.release q)) >>= fun _ =>
              (throw error : Program Unit)) :=
            (stays_of_asks (asks_lease trivial)).outcome_bind fun _ _ => id
          exact hrelease _ (.inl h₂)
        · rintro ⟨⟩ past₃ ⟨rfl, -⟩ ⟨⟩ past₄ ⟨rfl, -⟩
          exact h.acquired (hl l rfl)

theorem stays_acquireUpTo (share : Nat) (cancel : Cancellation) (qs : List String) :
    Stays p (acquireUpTo share cancel qs) := by
  induction qs with
  | nil => exact fun _ => id
  | cons q qs ih =>
      have howned : Stays p (ask .owned) := stays_of_asks (asks_ask trivial)
      refine howned.bind fun owned => ?_
      split
      · exact fun _ => id
      · refine (stays_tryAcquire q cancel).outcome_bind fun x => ?_
        split
        · exact fun _ => id
        · exact ih

theorem stays_scan (owner : String) (cancel : Cancellation) : Stays p (scan owner cancel) := by
  have hquiet : ∀ r : Request, r.IsQuiet → Stays p (ask r) :=
    fun r hr => stays_of_asks (asks_ask hr)
  have hlist : Stays p (Host.lease cancel .list) := stays_of_asks (asks_lease trivial)
  refine stays_of_inStep fun past h => assures_ask_bind fun owned past₁ ⟨hpast, howned⟩ => ?_
  obtain rfl : owned = beliefs past := howned
  subst hpast
  have hrenew := assures_renewAll cancel (beliefs past).names (Table.nodup_names _)
    (h.quiet (r := .owned) trivial (beliefs past)) Table.mem_names_iff_contains.1
  refine (hrenew.imp fun _ past' h => (.inl h : InStep p past' ∨ Misled p past')).run_bind
    (fun _ _ => id) fun _ => ?_
  refine Stays.bind hlist fun leases => (hquiet .now trivial).bind fun now => ?_
  refine (stays_acquireUpTo _ cancel _).bind fun _ => ?_
  exact (hquiet .owned trivial).bind fun _ => hquiet _ trivial

theorem stays_releaseAll (qs : List String) : Stays p (releaseAll qs) := by
  induction qs with
  | nil => exact fun _ => id
  | cons q qs ih =>
      have hrelease : Stays p (Host.lease .never (.release q)) := stays_of_asks (asks_lease trivial)
      have hlose : Stays p (lose q) := stays_of_inStep fun past h =>
        (assures_lose h q).imp fun _ _ h => .inl h.2.1
      exact hrelease.outcome_bind fun _ => hlose.bind fun _ => ih

theorem stays_shutdown : Stays p shutdown := by
  have howned : Stays p (ask .owned) := stays_of_asks (asks_ask trivial)
  exact howned.bind fun _ => stays_releaseAll _

theorem stays_prepareAll (start : Position) (cancel : Cancellation) (qs : List String) :
    Stays p (prepareAll start cancel qs) := by
  have hcheckpoint : ∀ op : Checkpoint.Operation, Stays p (Host.checkpoint cancel op) :=
    fun op => stays_of_asks (asks_checkpoint trivial)
  induction qs with
  | nil => exact fun _ => id
  | cons q qs ih =>
      refine Stays.bind ?_ fun _ => ih
      have hlease : Stays p (Host.lease cancel (.ensure q)) := stays_of_asks (asks_lease trivial)
      refine hlease.bind fun _ => (hcheckpoint (.ensure q)).bind fun stored => ?_
      split
      · have hrange : Stays p (range cancel q) := stays_of_asks (asks_range trivial)
        exact hrange.bind fun _ => (hcheckpoint _).bind fun _ => stays_of_asks (asks_ask trivial)
      · exact fun _ => id

theorem stays_bootstrap (owner : String) (start : Position) (cancel : Cancellation) :
    Stays p (bootstrap owner start cancel) := by
  have hlease : Stays p (Host.lease cancel .ensureStore) := stays_of_asks (asks_lease trivial)
  have hcheckpoint : Stays p (Host.checkpoint cancel .ensureStore) :=
    stays_of_asks (asks_checkpoint trivial)
  have hhub : Stays p (hub cancel) := stays_of_asks (asks_hub trivial)
  refine hlease.bind fun _ => hcheckpoint.bind fun _ => hhub.bind fun hub => ?_
  refine (stays_prepareAll start cancel _).bind fun _ => ?_
  exact Stays.bind (stays_of_asks (asks_ask trivial)) fun _ _ => id

/-- An update that makes the host believe in a lease is a slip, and leaves the events behind. -/
theorem assures_recordProgress (cancel : Cancellation) (q : String) (position : Checkpoint)
    (h : InStep p past) :
    (recordProgress cancel q position).run.Assures (I := Surroundings) Learns
      (fun _ past' => InStep p past' ∨
        Slipped p past' ∧ heralded (announced p past') ≠ (beliefs past').contains p) past := by
  have hupdate : (Host.lease cancel (.update q)).run.Assures (I := Surroundings) Learns
      (fun x past' => past' = ⟨.lease cancel (.update q), x⟩ :: past) past := fun x past' hx => hx.1
  refine hupdate.run_bind ?_ ?_
  · rintro error past₁ rfl
    exact .inl (h.quiet (r := .lease cancel (.update q)) trivial _)
  · rintro ⟨l, held⟩ past₁ rfl
    have h₁ := h.quiet (r := .lease cancel (.update q)) trivial (.ok (l, held))
    cases held with
    | false =>
        exact (assures_lose h₁ q).run_bind (fun _ _ h₂ => .inl h₂.2.1) fun _ _ h₂ => .inl h₂.2.1
    | true =>
        rintro ⟨⟩ past₂ ⟨rfl, -⟩ x past₃ ⟨rfl, -⟩
        by_cases hunaware : q = p ∧ (beliefs past).contains p = false
        · obtain ⟨rfl, hunaware⟩ := hunaware
          refine .inr ⟨slipped_cons.2 (.inr (slipped_cons.2 (.inl (.unaware hunaware)))), ?_⟩
          have hheralded : Host.heralded (announced q past) = false := h.heralded.trans hunaware
          have hcontains : ((beliefs past).insert q l).contains q = true :=
            Table.contains_insert.2 (.inl rfl)
          change Host.heralded (announced q past) ≠ ((beliefs past).insert q l).contains q
          rw [hheralded, hcontains]
          exact Bool.false_ne_true
        · have hbelieved (hq : q = p) : (beliefs past).contains p = true :=
            eq_true_of_ne_false fun hnot => hunaware ⟨hq, hnot⟩
          refine .inl ((h₁.own hbelieved ?_).quiet (r := .checkpoint cancel (.update q position)) trivial x)
          intro hslip
          cases hslip with
          | unaware hnot => exact hunaware ⟨rfl, hnot⟩

theorem inStep_or_slipped_of_call {a : Action} (ha : a.IsOfHost) {owner : String}
    {x : Except Error a.Reply} {past' : List (Exchange Surroundings)} (h : InStep p past)
    (hend : (a.program owner).run.Ends (I := Surroundings) Learns past x past') :
    InStep p past' ∨ Slipped p past' ∧ (alternate (announced p past') = false ∨
      heralded (announced p past') ≠ (beliefs past').contains p) := by
  have hstays (hprogram : Stays p (a.program owner)) : InStep p past' ∨ Slipped p past' ∧
      (alternate (announced p past') = false ∨
        heralded (announced p past') ≠ (beliefs past').contains p) :=
    (Task.assures_iff.1 (hprogram past (.inl h)) x past' hend).imp_right fun hmisled =>
      ⟨hmisled.1, .inl hmisled.2⟩
  cases a with
  | bootstrap start cancel => exact hstays (stays_bootstrap owner start cancel)
  | scan cancel => exact hstays (stays_scan owner cancel)
  | shutdown => exact hstays stays_shutdown
  | recordProgress cancel q position =>
      exact (Task.assures_iff.1 (assures_recordProgress cancel q position h) x past' hend).imp_right
        fun hslipped => ⟨hslipped.1, .inr hslipped.2⟩
  | lease cancel op => cases ha
  | checkpoint cancel op => cases ha

theorem keep_of_ends {keep : List (Exchange Surroundings) → Prop} {t : Task Surroundings α} {x : α}
    {past' : List (Exchange Surroundings)} (hkeep : ∀ past x, keep past → keep (x :: past))
    (hend : t.Ends Learns past x past') (h : keep past) : keep past' :=
  Task.assures_iff.1 ((Task.asks_true t).assures
    (fun _ past _ _ _ hx hpast => hx.1 ▸ hkeep past _ hpast) h) x past' hend

end Host

/-! ## Careers -/

theorem Site.Request.IsAnonymous.not_beliefs {r : Site.Request} (h : r.IsAnonymous) :
    ¬ r.IsOfBeliefs := by
  cases r with
  | own p l => cases h
  | disown p => cases h
  | _ => exact id

namespace Equipment

open Host

/-- What a host believes is known from its past, and the stores keep leases under their names. -/
structure Aware (e : Equipment) (s : Course) : Prop where
  owned : (s.cluster.member e.me.owner).owned = beliefs s.past
  keyed : s.cluster.Keyed

variable {e : Equipment} {s s' : Course}

theorem learns_of_continues {r : Host.Request} {x : r.Answer}
    (h : e.Continues (Heeds e.me.owner) r s x s') (hs : e.Aware s) :
    Learns r s.past x s'.past ∧ e.Aware s' := by
  obtain ⟨hend, hpast⟩ := h
  have hmild (hr : r.IsMild e.me) (hbeliefs : beliefs (⟨r, x⟩ :: s.past) = beliefs s.past) :
      e.Aware s' := by
    have hasks := e.asks_anonymous_serve r hr
    have howned := owned_of_asks (fun _ _ h => h.owned)
      (hasks.mono fun _ => Site.Request.IsAnonymous.not_beliefs) hend
    have hkeyed := Task.assures_iff.1 (assures_keyed_of_asks
      (hasks.mono fun _ => Site.Request.IsAnonymous.isKeyed) hs.keyed) x s'.cluster hend
    exact ⟨by rw [howned, hs.owned, hpast, hbeliefs], hkeyed⟩
  cases r with
  | lease cancel op =>
      obtain ⟨hkeyed, hacquired⟩ :=
        Task.assures_iff.1 (e.assures_keyed_lease hs.keyed op) x s'.cluster hend
      have howned := owned_of_asks (fun _ _ h => h.owned)
        ((e.asks_lease cancel op).mono fun _ => And.right) hend
      exact ⟨⟨hpast, hacquired⟩, (howned.trans hs.owned).trans (hpast ▸ rfl), hkeyed⟩
  | own p l =>
      obtain ⟨c₁, hheeds, hx⟩ := Task.Ends.of_request (I := Site) (r := .own p l) hend
      refine ⟨⟨hpast, by rintro q m ⟨⟩⟩, ?_, hx.keyed trivial (hheeds.keyed hs.keyed)⟩
      rw [hx.frame.owned, hheeds.owned, hs.owned, hpast]
      rfl
  | disown p =>
      obtain ⟨c₁, hheeds, hx⟩ := Task.Ends.of_request (I := Site) (r := .disown p) hend
      have hheld : x = ((c₁.member e.me.owner).owned).contains p := congrArg Prod.fst hx
      refine ⟨⟨hpast, ?_⟩, ?_, hx.keyed trivial (hheeds.keyed hs.keyed)⟩
      · rw [hheeds.owned, hs.owned] at hheld
        exact hheld
      · rw [hx.frame.owned, hheeds.owned, hs.owned, hpast]
        rfl
  | owned =>
      obtain ⟨c₁, hheeds, hx⟩ := Task.Ends.of_request (I := Site) (r := .owned) hend
      have howned : x = (c₁.member e.me.owner).owned := congrArg Prod.fst hx
      rw [hheeds.owned, hs.owned] at howned
      exact ⟨⟨hpast, howned⟩, hmild trivial rfl⟩
  | _ => exact ⟨⟨hpast, by rintro q m ⟨⟩⟩, hmild trivial rfl⟩

theorem learns_of_ends {α : Type} {t : Task Surroundings α} {x : α} (hs : e.Aware s)
    (h : t.Ends (e.Continues (Heeds e.me.owner)) s x s') :
    t.Ends Learns s.past x s'.past ∧ e.Aware s' := by
  induction h with
  | done a s => exact ⟨.done a _, hs⟩
  | ask hx _ ih =>
      obtain ⟨hlearns, hs₁⟩ := learns_of_continues hx hs
      obtain ⟨hend, hs'⟩ := ih hs₁
      exact ⟨.ask hlearns hend, hs'⟩

variable {p : String}

/-- The latest event about a partition tells whether the host believes that it holds it. -/
def Tells (e : Equipment) (p : String) (s : Course) : Prop :=
  heralded (announced p s.past) = (s.cluster.member e.me.owner).owned.contains p

/-- Either all is in step after a career, or the host has slipped and something has gone wrong. -/
theorem Career.inStep_or_slipped {init : Course} {ends : List Course}
    (h : e.Career (Heeds e.me.owner) init s ends) (hinit : e.Aware init) (hstep : InStep p init.past) :
    e.Aware s ∧ ((InStep p s.past ∧ ∀ s' ∈ ends, e.Tells p s') ∨
      Slipped p s.past ∧ (alternate (announced p s.past) = false ∨ ∃ s' ∈ ends, ¬ e.Tells p s')) := by
  induction h with
  | start => exact ⟨hinit, .inl ⟨hstep, nofun⟩⟩
  | meanwhile h hc ih =>
      obtain ⟨hs, hpast⟩ := ih
      exact ⟨⟨hc.owned.trans hs.owned, hc.keyed hs.keyed⟩, hpast⟩
  | call h ha hcall ih =>
      rename_i s₁ s₂ ends a x
      obtain ⟨hs₁, hpast⟩ := ih
      obtain ⟨hlearns, hs₂⟩ := learns_of_ends hs₁ hcall
      have htells : e.Tells p s₂ ↔
          heralded (announced p s₂.past) = (beliefs s₂.past).contains p := by
        rw [Tells, hs₂.owned]
      refine ⟨hs₂, ?_⟩
      rcases hpast with ⟨hstep₁, hall⟩ | ⟨hslipped, hwrong⟩
      · rcases inStep_or_slipped_of_call ha hstep₁ hlearns with hstep₂ | ⟨hslipped, hwrong⟩
        · refine .inl ⟨hstep₂, fun s' hs' => ?_⟩
          rcases List.mem_cons.1 hs' with rfl | hs'
          · exact htells.2 hstep₂.heralded
          · exact hall s' hs'
        · exact .inr ⟨hslipped, hwrong.imp_right fun hnot =>
            ⟨s₂, List.mem_cons_self, fun h => hnot (htells.1 h)⟩⟩
      · -- What has gone wrong stays wrong.
        refine .inr ⟨keep_of_ends (fun _ _ h => slipped_cons.2 (.inr h)) hlearns hslipped, ?_⟩
        rcases hwrong with halternate | ⟨s', hs', hnot⟩
        · have hmisled : Misled p s₂.past :=
            keep_of_ends (fun _ x h => h.cons x) hlearns ⟨hslipped, halternate⟩
          exact .inl hmisled.2
        · exact .inr ⟨s', List.mem_cons_of_mem _ hs', hnot⟩

end Equipment

namespace Host

/--
For each partition the announced events are an acquisition, a loss, an acquisition and so on, and the latest of
them tells after every call whether the host believes that it holds the partition, if and only if the host has
never taken a lease that it believed it held already, and never updated one that it did not believe it held.
-/
theorem alternate_iff_not_slipped {e : Equipment} {c : Cluster} {s : Course} {ends : List Course}
    (hkeyed : c.Keyed) (howned : (c.member e.me.owner).owned = .empty)
    (h : e.Career (Heeds e.me.owner) ⟨c, []⟩ s ends) (p : String) :
    (alternate (announced p s.past) = true ∧ ∀ s' ∈ ends,
      heralded (announced p s'.past) = (s'.cluster.member e.me.owner).owned.contains p) ↔
    ¬ Slipped p s.past := by
  obtain ⟨-, ⟨hstep, hall⟩ | ⟨hslipped, hwrong⟩⟩ :=
    h.inStep_or_slipped ⟨howned, hkeyed⟩ (inStep_nil (p := p))
  · exact ⟨fun _ => hstep.sure, fun _ => ⟨hstep.alternate, hall⟩⟩
  · refine ⟨fun ⟨halternate, hall⟩ => ?_, fun hnot => absurd hslipped hnot⟩
    rcases hwrong with hnot | ⟨s', hs', hnot⟩
    · exact absurd halternate (Bool.eq_false_iff.1 hnot)
    · exact absurd (hall s' hs') hnot

end Host

/-! ## A renewal that fails -/

/-- Three partitions, one of them free, and two that belong to host b for 50 seconds. -/
def Cluster.ofNeighbour : Cluster where
  leases := { server := some {
    name := "leases"
    bucket := {
      created := true
      revision := 3
      entries := .ofList [
        ("0", ⟨Record.encode (Lease.mk "0" "" .epoch 0), 1⟩),
        ("1", ⟨Record.encode (Lease.mk "1" "b" (.ofNanos 50000000000) 1), 2⟩),
        ("2", ⟨Record.encode (Lease.mk "2" "b" (.ofNanos 50000000000) 1), 3⟩)] } } }
  checkpoints := { server := some { name := "checkpoints", bucket := { created := true } } }
  members := .ofList [("a", { mailbox := .ofBuffer 64 })]

theorem Cluster.keyed_ofNeighbour : Cluster.ofNeighbour.Keyed where
  register _ ht := nomatch ht
  bucket p value hvalue := by
    obtain ⟨s, hs, rfl⟩ := Option.map_eq_some_iff.1 hvalue
    refine keyedBy_iff.2 ?_
    revert p s
    exact Table.forall_get?.2 (by decide +kernel)

/-- The cluster 40 seconds later, when for once an entry cannot be read from the bucket of leases. -/
def Cluster.later (c : Cluster) : Cluster :=
  (c.advance (.ofSeconds 40)).setFaults .leases fun f => { f with failEntries := 1 }

theorem Cluster.heeds_later (c : Cluster) (owner : String) : c.Heeds owner c.later where
  owned := rfl
  keyed hc := by
    have hbucket : c.later.bucket .leases = c.bucket .leases := by
      simp only [bucket, server?, later, advance, setFaults, Vault.setFaults, Option.map_map]
      rfl
    exact ⟨hc.register, hbucket ▸ hc.bucket⟩

namespace Host

/-- Host a scans twice, and what it asked of its surroundings. -/
def scansOfA : Routine (List (Exchange Surroundings)) := do
  let (_, past) ← Routine.recount (Fleet.pair .bucket false) (scan "a" .never).run []
  Routine.change Cluster.later
  let (_, past) ← Routine.recount (Fleet.pair .bucket false) (scan "a" .never).run past
  return past

theorem exists_career_of_scansOfA {c c' : Cluster} {past : List (Exchange Surroundings)}
    (h : scansOfA.run c = (some past, c')) : ∃ s ends,
      (Fleet.pair .bucket false).Career (Heeds "a") ⟨c, []⟩ s ends ∧ s.past = past := by
  obtain ⟨⟨x₁, past₁⟩, c₁, hfirst, h⟩ := Routine.exists_of_run_bind h
  obtain ⟨⟨⟩, c₂, hlater, h⟩ := Routine.exists_of_run_bind h
  obtain ⟨⟨x₂, past₂⟩, c₃, hsecond, h⟩ := Routine.exists_of_run_bind h
  cases h
  cases hlater
  have hheeds {t : Task Surroundings (Except Error Unit)} {s s' : Course} {x : Except Error Unit}
      (hend : t.Ends ((Fleet.pair .bucket false).Continues Passes) s x s') :
      t.Ends ((Fleet.pair .bucket false).Continues (Heeds "a")) s x s' :=
    hend.mono fun _ _ _ _ hx => hx.mono fun _ _ h => h.drifts.heeds "a"
  obtain ⟨c₂, hend, hpasses⟩ := Routine.ends_of_recount (.refl c) hfirst
  have hcareer := (Equipment.Career.start.call (a := .scan .never) trivial (hheeds hend)).meanwhile
    ((hpasses.drifts.heeds "a").trans (c₁.heeds_later "a"))
  obtain ⟨c₄, hend, -⟩ := Routine.ends_of_recount (.refl c₁.later) hsecond
  exact ⟨_, _, hcareer.call (a := .scan .never) trivial (hheeds hend), rfl⟩

theorem scansOfA_misleads : ∃ past c', scansOfA.run .ofNeighbour = (some past, c') ∧
    alternate (announced "0" past) = false := by
  have hrun : (scansOfA.run .ofNeighbour).1.any (fun past => !alternate (announced "0" past)) = true := by
    decide +kernel
  obtain ⟨past, hpast, hwrong⟩ := (Option.any_eq_true _ _).1 hrun
  exact ⟨past, _, Prod.ext hpast rfl, by simpa using hwrong⟩

/-- The renewal of a lease fails, and the lease is taken again when it has expired: acquired twice in a row. -/
theorem acquired_twice : Cluster.ofNeighbour.Keyed ∧
    (Cluster.ofNeighbour.member "a").owned = .empty ∧
    ∃ s ends, (Fleet.pair .bucket false).Career (Heeds "a") ⟨.ofNeighbour, []⟩ s ends ∧
      alternate (announced "0" s.past) = false := by
  obtain ⟨past, c', hrun, hwrong⟩ := scansOfA_misleads
  obtain ⟨s, ends, hcareer, rfl⟩ := exists_career_of_scansOfA hrun
  exact ⟨keyed_ofNeighbour, rfl, s, ends, hcareer, hwrong⟩

theorem alternate_iff_not_slipped_scansOfA : ∃ s ends,
    (Fleet.pair .bucket false).Career (Heeds "a") ⟨.ofNeighbour, []⟩ s ends ∧ Slipped "0" s.past ∧
    ∀ p, (alternate (announced p s.past) = true ∧ ∀ s' ∈ ends,
        heralded (announced p s'.past) = (s'.cluster.member "a").owned.contains p) ↔
      ¬ Slipped p s.past := by
  obtain ⟨past, c', hrun, hwrong⟩ := scansOfA_misleads
  obtain ⟨s, ends, hcareer, rfl⟩ := exists_career_of_scansOfA hrun
  have hiff := alternate_iff_not_slipped keyed_ofNeighbour rfl hcareer
  refine ⟨s, ends, hcareer, Classical.not_not.1 fun hnot => ?_, hiff⟩
  exact Bool.eq_false_iff.1 hwrong ((hiff "0").2 hnot).1

end Host

end PartitionHost
