import PartitionHost.Proofs.Lease.Discipline
import PartitionHost.Proofs.RecordText

/-!
# What a host believes of the leases that it writes

A host that has written a lease puts down what it believes of it before it asks for anything else that takes
time. Only a lease that was acquired may wait, for a host believes in it when its checkpoint is there. So at
any time that is given to others, whatever lease a host has written without putting down a belief was
acquired (`Lease.Settled`), and what it believes in is the lease that it has written last (`Lease.Careful`).
`Equipment.along_careful` says so of every action of a host, whatever it is answered.
-/

namespace PartitionHost

open Record

/-! ## What is known of a partition from the exchanges -/

namespace Exchange

variable {x : Exchange Site} {p : String}

theorem Updated.subject?_eq {value : Bytes} (h : x.Updated .leases p value) : x.subject? = some p := by
  obtain ⟨revision, n, hcall⟩ := h
  obtain ⟨cancel, rfl⟩ := eq_of_call?_leases hcall
  rfl

theorem subject?_own {l : Lease} (h : x.request = .own p l) : x.subject? = some p := by
  obtain ⟨r, y⟩ := x
  obtain rfl : r = .own p l := h
  rfl

theorem subject?_disown (h : x.request = .disown p) : x.subject? = some p := by
  obtain ⟨r, y⟩ := x
  obtain rfl : r = .disown p := h
  rfl

theorem of_subject?_eq (h : x.subject? = some p) :
    (∃ value, x.Updated .leases p value) ∨ (∃ l, x.request = .own p l) ∨ x.request = .disown p := by
  unfold subject? at h
  split at h
  · cases h
    exact .inl ⟨_, _, _, rfl⟩
  · cases h
    exact .inr (.inl ⟨_, rfl⟩)
  · cases h
    exact .inr (.inr rfl)
  · cases h

end Exchange

namespace Lease

/-- The lease of a partition was written, and nothing that the host believes of it was put down since. -/
def Unsettled (p : String) : List (Exchange Site) → Prop :=
  Since (fun x _ => ∃ value, x.Updated .leases p value)
    fun x => (∃ l, x.request = .own p l) ∨ x.request = .disown p

/-- The lease of a partition was acquired, and no lease of it was believed in since. -/
def Acquired (me : Claimant) (p : String) : List (Exchange Site) → Prop :=
  Since (fun x older => ∃ value revision n,
      x.call? .leases = some ⟨.update p value revision, .ok (some n)⟩ ∧
        Decided me (.acquire p) p value revision older)
    fun x => ∃ l, x.request = .own p l

/-- The lease of a partition that was written last is this one. -/
def LastWrote (p : String) (l : Lease) : List (Exchange Site) → Prop :=
  Since (fun x _ => x.Updated .leases p (encode l)) fun x => ∃ value, x.Updated .leases p value

variable {me : Claimant} {p q : String} {x : Exchange Site} {past : List (Exchange Site)}

theorem unsettled_cons (h : x.subject? ≠ some q) : Unsettled q (x :: past) ↔ Unsettled q past := by
  apply since_cons_of_not
  · rintro ⟨value, hx⟩
    exact h hx.subject?_eq
  · rintro (⟨l, hx⟩ | hx)
    · exact h (Exchange.subject?_own hx)
    · exact h (Exchange.subject?_disown hx)

theorem acquired_cons (h : x.subject? ≠ some q) : Acquired me q (x :: past) ↔ Acquired me q past := by
  apply since_cons_of_not
  · rintro ⟨value, revision, n, hx, -⟩
    have hupdated : x.Updated .leases q value := ⟨revision, n, hx⟩
    exact h hupdated.subject?_eq
  · rintro ⟨l, hx⟩
    exact h (Exchange.subject?_own hx)

theorem lastWrote_cons {l : Lease} (h : ∀ value, ¬ x.Updated .leases q value) :
    LastWrote q l (x :: past) ↔ LastWrote q l past :=
  since_cons_of_not (h _) fun ⟨value, hx⟩ => h value hx

theorem not_updated_of_subject? (h : x.subject? ≠ some q) (value : Bytes) :
    ¬ x.Updated .leases q value :=
  fun hx => h hx.subject?_eq

theorem not_updated_of_request {r : Site.Request} {y : r.Answer} (h : ¬ r.IsOfLeases) (value : Bytes) :
    ¬ (Exchange.mk (I := Site) r y).Updated .leases q value := by
  rintro ⟨revision, n, hcall⟩
  obtain ⟨cancel, hx⟩ := Exchange.eq_of_call?_leases hcall
  cases hx
  exact h trivial

/-! ## Settled leases -/

/-- What was written without a belief put down since was acquired. -/
def Settled (me : Claimant) (past : List (Exchange Site)) : Prop :=
  ∀ q, Unsettled q past → Acquired me q past

/-- What was written without a belief put down since was acquired, one partition aside. -/
def SettledBut (me : Claimant) (p : String) (past : List (Exchange Site)) : Prop :=
  ∀ q, q ≠ p → Unsettled q past → Acquired me q past

theorem Settled.but (h : Settled me past) (p : String) : SettledBut me p past := fun q _ => h q

theorem settled_nil : Settled me [] := fun _ => id

theorem Settled.cons (h : Settled me past) (hx : x.subject? = none) : Settled me (x :: past) := by
  intro q hq
  have hne : x.subject? ≠ some q := by simp [hx]
  exact (acquired_cons hne).2 (h q ((unsettled_cons hne).1 hq))

theorem SettledBut.cons (h : SettledBut me p past) (hx : x.subject? = some p) :
    SettledBut me p (x :: past) := by
  intro q hq hunsettled
  have hne : x.subject? ≠ some q := by simpa [hx] using hq.symm
  exact (acquired_cons hne).2 (h q hq ((unsettled_cons hne).1 hunsettled))

/-- All is settled when it was but for one partition and a belief about that one is put down. -/
theorem SettledBut.settled (h : SettledBut me p past)
    (hx : (∃ l, x.request = .own p l) ∨ x.request = .disown p) : Settled me (x :: past) := by
  have hsubject : x.subject? = some p := by
    rcases hx with ⟨l, hx⟩ | hx
    · exact Exchange.subject?_own hx
    · exact Exchange.subject?_disown hx
  intro q hq
  by_cases hqp : q = p
  · subst hqp
    rcases hq with ⟨value, revision, n, hcall⟩ | ⟨hends, -⟩
    · obtain ⟨cancel, rfl⟩ := Exchange.eq_of_call?_leases hcall
      rcases hx with ⟨l, hx⟩ | hx <;> cases hx
    · exact absurd hx hends
  · exact h.cons hsubject q hqp hq

namespace Bucketed

variable {cancel : Cancellation} {op : Operation} {keep : List (Exchange Site) → Prop} {l : Lease}

theorem JustWrote.lastWrote (h : JustWrote me cancel op keep p l past) : LastWrote p l past := by
  obtain ⟨revision, n, older, rfl, -, -⟩ := h
  exact .inl ⟨revision, n, rfl⟩

theorem JustWrote.owner (h : JustWrote me cancel op keep p l past) (hop : op ≠ .release p) :
    l.owner = me.owner := by
  obtain ⟨revision, n, older, rfl, hdecided, -⟩ := h
  obtain ⟨next, l₀, l', older', cancel', e, t, htransition, -, -, -, hnext, hvalue⟩ := hdecided
  obtain rfl := encode_injective hvalue
  cases Operation.turns_of_transition? htransition hnext with
  | acquire havailable => rfl
  | renew hheld => exact (isHeldBy_iff.1 hheld).2.2
  | release hheld => exact absurd rfl hop
  | update hheld => exact (isHeldBy_iff.1 hheld).2.2

theorem JustWrote.settledBut (h : JustWrote me cancel op keep p l past)
    (hkeep : ∀ past, keep past → Settled me past) : SettledBut me p past := by
  obtain ⟨revision, n, older, rfl, -, hpast⟩ := h
  exact ((hkeep older hpast).but p).cons rfl

theorem JustWrote.acquired (h : JustWrote me cancel op keep p l past)
    (hkeep : op = .acquire p ∨ ∀ past, keep past → Acquired me p past) : Acquired me p past := by
  obtain ⟨revision, n, older, rfl, hdecided, hpast⟩ := h
  rcases hkeep with rfl | hkeep
  · exact .inl ⟨_, revision, n, rfl, hdecided⟩
  · exact .inr ⟨(fun ⟨_, h⟩ => nomatch h), hkeep older hpast⟩

theorem JustWrote.settled (h : JustWrote me cancel op keep p l past)
    (hkeep : ∀ past, keep past → Settled me past) (hacquired : Acquired me p past) :
    Settled me past := by
  intro q hq
  by_cases hqp : q = p
  · rw [hqp]
    exact hacquired
  · exact h.settledBut hkeep q hqp hq

end Bucketed

/-! ## The law -/

/--
A host believes in a lease of its own that it has written last. What takes time, it asks only when all is
settled.
-/
def Careful (me : Claimant) (past : List (Exchange Site)) : Site.Request → Prop
  | .own p l => LastWrote p l past ∧ l.owner = me.owner
  | .disown _ | .now | .elapsed | .owned | .note _ => True
  | _ => Settled me past

/-- What stays so as long as no lease is written and no belief put down, and leaves all settled. -/
structure Stays (me : Claimant) (keep : List (Exchange Site) → Prop) : Prop where
  settled : ∀ past, keep past → Settled me past
  cons : ∀ past x, x.subject? = none → keep past → keep (x :: past)

theorem stays_settled : Stays me (Settled me) where
  settled _ h := h
  cons _ _ hx h := h.cons hx

/-- This lease of a partition was acquired, and is not believed in yet. -/
structure Taken (me : Claimant) (p : String) (l : Lease) (past : List (Exchange Site)) : Prop where
  settled : Settled me past
  acquired : Acquired me p past
  lastWrote : LastWrote p l past
  owner : l.owner = me.owner

theorem stays_taken {l : Lease} : Stays me (Taken me p l) where
  settled _ h := h.settled
  cons _ x hx h :=
    have hne : x.subject? ≠ some p := by simp [hx]
    ⟨h.settled.cons hx, (acquired_cons hne).2 h.acquired,
      (lastWrote_cons (not_updated_of_subject? hne)).2 h.lastWrote, h.owner⟩

theorem Stays.lets {keep : List (Exchange Site) → Prop} (h : Stays me keep) (cancel : Cancellation)
    (op : Operation) (p : String) : Bucketed.Lets (Careful me) keep me cancel op p where
  read past hpast := h.settled past hpast
  now _ _ := trivial
  update past _ _ hpast _ := h.settled past hpast
  cons := h.cons

end Lease

/-! ## Requests about neither -/

/-- Whether a request can neither write a lease nor change a belief. -/
def Site.Request.IsMild : Site.Request → Prop
  | .leaseBucket _ (.update _ _ _) | .own _ _ | .disown _ => False
  | _ => True

theorem Site.Request.IsMild.subject? {r : Site.Request} (h : r.IsMild) (y : r.Answer) :
    (Exchange.mk (I := Site) r y).subject? = none := by
  cases r with
  | leaseBucket cancel c =>
      cases c with
      | update key value revision => cases h
      | _ => rfl
  | own p l => cases h
  | disown p => cases h
  | _ => rfl

/-- Whether a request is mild and puts leases into the bucket in nobody's name only. -/
def Site.Request.IsAnonymous : Site.Request → Prop
  | .leaseBucket _ (.create key value) => value = encode (Lease.unowned key)
  | .leaseBucket _ (.update _ _ _) | .own _ _ | .disown _ => False
  | _ => True

theorem Site.Request.IsAnonymous.isMild {r : Site.Request} (h : r.IsAnonymous) : r.IsMild := by
  cases r with
  | leaseBucket cancel c =>
      cases c with
      | update key value revision => cases h
      | _ => trivial
  | own p l => cases h
  | disown p => cases h
  | _ => trivial

theorem Site.Request.isAnonymous_of_not {r : Site.Request} (hleases : ¬ r.IsOfLeases)
    (hbeliefs : ¬ r.IsOfBeliefs) : r.IsAnonymous := by
  cases r with
  | leaseBucket cancel c => exact absurd trivial hleases
  | own p l => exact absurd trivial hbeliefs
  | disown p => exact absurd trivial hbeliefs
  | _ => trivial

namespace Lease

theorem careful_of_isMild {me : Claimant} {past : List (Exchange Site)} {r : Site.Request}
    (h : r.IsMild) (hpast : Settled me past) : Careful me past r := by
  cases r with
  | own p l => cases h
  | disown p => cases h
  | now | elapsed | owned | note => trivial
  | _ => exact hpast

theorem Stays.along {me : Claimant} {keep : List (Exchange Site) → Prop} (h : Stays me keep)
    {α : Type} {t : Task Site α} (ht : t.Asks Site.Request.IsMild) {past : List (Exchange Site)}
    (hpast : keep past) : t.Along (Careful me) (fun _ past => keep past) past :=
  ht.along hpast (fun past _ y hr => h.cons past _ (hr.subject? y))
    fun past _ hpast hr => careful_of_isMild hr (h.settled past hpast)

end Lease

end PartitionHost
