import PartitionHost.Proofs.Interleaving.Trace
import PartitionHost.Proofs.Table

/-!
# What a scan takes, whatever it is answered

Nothing is said here of the stores: they may answer every request in any way, and so may the clock. Only what
a host believes it holds is its own, so it is answered from what it put there itself (`Host.Coherent`). The
traces of a scan are then given by what renewing and acquiring can come to, request by request
(`Host.Renewals`, `Host.Acquisitions`), and whatever these answers are, the host acquires no more than its
share of what it was shown, gives back what it cannot use, and goes no further once it is cancelled
(`Host.scan_is_restrained`).
-/

namespace PartitionHost

namespace Host

variable {cancel : Cancellation} {t : Table Lease} {tr tr₁ tr₂ : List (Exchange Surroundings)} {p : String}
  {ps : List String} {share : Nat} {x : Except Error Unit}

/-! ## What a host believes -/

/-- The leases that a host believes it holds after an exchange. -/
def believes (t : Table Lease) (y : Exchange Surroundings) : Table Lease :=
  match y.request with
  | .own p l => t.insert p l
  | .disown p => t.erase p
  | _ => t

def believed (t : Table Lease) (tr : List (Exchange Surroundings)) : Table Lease := tr.foldl believes t

/-- A host that believes it holds these leases is answered so when it asks about them. -/
def Matches (t : Table Lease) : Exchange Surroundings → Prop
  | ⟨.owned, y⟩ => y = t
  | ⟨.disown p, y⟩ => y = t.contains p
  | _ => True

/-- What a host is told of its beliefs is what it has made of them; all other answers are left open. -/
def Coherent (t : Table Lease) : List (Exchange Surroundings) → Prop
  | [] => True
  | y :: tr => Matches t y ∧ Coherent (believes t y) tr

theorem believed_append (t : Table Lease) (tr₁ tr₂ : List (Exchange Surroundings)) :
    believed t (tr₁ ++ tr₂) = believed (believed t tr₁) tr₂ := List.foldl_append

theorem coherent_append :
    Coherent t (tr₁ ++ tr₂) ↔ Coherent t tr₁ ∧ Coherent (believed t tr₁) tr₂ := by
  induction tr₁ generalizing t with
  | nil => simp [Coherent, believed]
  | cons y tr₁ ih => simp only [List.cons_append, Coherent, ih, and_assoc, believed, List.foldl_cons]

/-- Whoever answers about beliefs from what was made of them answers coherently. -/
theorem coherent_against {answer : List (Exchange Surroundings) → (r : Request) → r.Answer}
    (h : ∀ past r, Matches (believed t past) ⟨r, answer past r⟩) {α : Type} (task : Task Surroundings α)
    (past : List (Exchange Surroundings)) :
    Coherent (believed t past) (task.against answer past).1 := by
  induction task generalizing past with
  | done a => trivial
  | ask r resume ih =>
      refine ⟨h past r, ?_⟩
      have hrest := ih (answer past r) (past ++ [⟨r, answer past r⟩])
      rwa [believed_append] at hrest

/-! ## Renewing -/

/-- What renewing the leases of these partitions can come to. -/
inductive Renewals (cancel : Cancellation) :
    List String → List (Exchange Surroundings) → Except Error Unit → Prop where
  | none : Renewals cancel [] [] (.ok ())
  | cancelled {p : String} {ps : List String} :
      Renewals cancel (p :: ps) [⟨.lease cancel (.renew p), .error .cancelled⟩] (.error .cancelled)
  /-- The lease of a partition is renewed, lost or left as it is, and the next one is looked at. -/
  | next {p : String} {ps : List String} {y : Except Error (Lease × Bool)}
      {tr tr' : List (Exchange Surroundings)} {x : Except Error Unit} (hy : y ≠ .error .cancelled)
      (htr : ∀ z ∈ tr, ∀ c op, z.request ≠ .lease c op) (hrest : Renewals cancel ps tr' x) :
      Renewals cancel (p :: ps) (⟨.lease cancel (.renew p), y⟩ :: (tr ++ tr')) x

theorem yields_lose {y : Except Error Unit} (h : (lose p).run.Yields (I := Surroundings) tr y) :
    y = .ok () ∧ ∀ z ∈ tr, ∀ c op, z.request ≠ .lease c op := by
  obtain ⟨b, tr', rfl, hannounce⟩ := yields_ask_bind h
  cases b with
  | true =>
      cases hannounce with
      | ask hdone =>
          cases hdone
          exact ⟨rfl, by simp⟩
  | false =>
      cases hannounce
      exact ⟨rfl, by simp⟩

theorem renewals_of_yields (h : (renewAll cancel ps).run.Yields (I := Surroundings) tr x) :
    Renewals cancel ps tr x := by
  induction ps generalizing tr with
  | nil =>
      cases h
      exact .none
  | cons p ps ih =>
      obtain ⟨tr₁, tr₂, y, rfl, hrenew, hnext⟩ := yields_outcome_bind h
      obtain rfl := yields_lease hrenew
      have hlost (hlose : (lose p >>= fun _ => renewAll cancel ps).run.Yields (I := Surroundings) tr₂ x)
          (hy : y ≠ .error .cancelled) :
          Renewals cancel (p :: ps) (⟨.lease cancel (.renew p), y⟩ :: tr₂) x := by
        rcases hlose.run_bind with ⟨e, hlose, -⟩ | ⟨tr₃, tr₄, u, rfl, hlose, hrest⟩
        · cases (yields_lose hlose).1
        · exact .next hy (yields_lose hlose).2 (ih hrest)
      rcases y with e | ⟨l, b⟩
      · cases e with
        | notFound q => exact hlost hnext nofun
        | cancelled =>
            cases hnext
            exact .cancelled
        | _ => exact @Renewals.next _ p ps _ [] tr₂ x nofun (by simp) (ih hnext)
      · cases b with
        | true =>
            obtain ⟨u, tr', rfl, hrest⟩ := yields_ask_bind hnext
            exact @Renewals.next _ p ps _ [⟨.own p l, u⟩] tr' x nofun (by simp) (ih hrest)
        | false => exact hlost hnext nofun

theorem Renewals.eq_renew (h : Renewals cancel ps tr x) :
    ∀ z ∈ tr, ∀ c op, z.request = .lease c op → ∃ q, op = .renew q := by
  induction h with
  | none => simp
  | cancelled =>
      rintro z hz c op hop
      obtain rfl := List.mem_singleton.1 hz
      cases hop
      exact ⟨_, rfl⟩
  | next hy htr hrest ih =>
      rintro z hz c op hop
      rcases List.mem_cons.1 hz with rfl | hz
      · cases hop
        exact ⟨_, rfl⟩
      · rcases List.mem_append.1 hz with hz | hz
        · exact absurd hop (htr z hz c op)
        · exact ih z hz c op hop

theorem Renewals.not_mem (h : Renewals cancel ps tr x) {c : Cancellation} {op : Lease.Operation}
    {y : Except Error op.Reply} (hop : ∀ q, op ≠ .renew q) : ⟨.lease c op, y⟩ ∉ tr := by
  intro hmem
  obtain ⟨q, hq⟩ := h.eq_renew _ hmem c op rfl
  exact hop q hq

theorem Renewals.of_cancelled (h : Renewals cancel ps tr x) {before after : List (Exchange Surroundings)}
    {c : Cancellation} (hsplit : tr = before ++ ⟨.lease c (.renew p), .error .cancelled⟩ :: after) :
    after = [] ∧ x = .error .cancelled := by
  induction h generalizing before with
  | none => simp at hsplit
  | cancelled =>
      rcases List.cons_eq_append_iff.1 hsplit with ⟨-, hsplit⟩ | ⟨_, -, hsplit⟩
      · exact ⟨(List.cons.inj hsplit).2, rfl⟩
      · simp at hsplit
  | next hy htr hrest ih =>
      rcases List.cons_eq_append_iff.1 hsplit with ⟨-, hsplit⟩ | ⟨mid, -, hsplit⟩
      · cases (List.cons.inj hsplit).1
        exact absurd rfl hy
      · obtain ⟨mid, -, hsplit⟩ := split_of_append hsplit fun hmem => htr _ hmem _ _ rfl
        exact ih hsplit

theorem Renewals.not_cancelled (h : Renewals cancel ps tr (.ok ())) (c : Cancellation) (p : String) :
    ⟨.lease c (.renew p), .error .cancelled⟩ ∉ tr := by
  intro hmem
  obtain ⟨before, after, hsplit⟩ := List.append_of_mem hmem
  cases (h.of_cancelled hsplit).2

/-! ## Acquiring -/

/-- What an attempt to take the lease of a partition can come to. -/
inductive Attempt (cancel : Cancellation) (p : String) :
    List (Exchange Surroundings) → Except Error Unit → Prop where
  | failed (e : Error) : Attempt cancel p [⟨.lease cancel (.acquire p), .error e⟩] (.error e)
  | refused (l : Lease) : Attempt cancel p [⟨.lease cancel (.acquire p), .ok (l, false)⟩] (.ok ())
  /-- The lease is taken and given back, for want of a checkpoint. -/
  | unusable (l : Lease) (e : Error) (y : Except Error Bool) :
      Attempt cancel p [⟨.lease cancel (.acquire p), .ok (l, true)⟩,
        ⟨.checkpoint cancel (.ensure p), .error e⟩, ⟨.lease cancel (.release p), y⟩] (.error e)
  | taken (l : Lease) (k : Checkpoint) (u u' : Unit) :
      Attempt cancel p [⟨.lease cancel (.acquire p), .ok (l, true)⟩,
        ⟨.checkpoint cancel (.ensure p), .ok k⟩, ⟨.own p l, u⟩, ⟨.announce (.acquired l k), u'⟩] (.ok ())

theorem attempt_of_yields (h : (tryAcquire cancel p).run.Yields (I := Surroundings) tr x) :
    Attempt cancel p tr x := by
  rw [tryAcquire] at h
  rcases h.run_bind with ⟨e, hacquire, rfl⟩ | ⟨tr₁, tr₂, ⟨l, b⟩, rfl, hacquire, hnext⟩
  · rw [yields_lease hacquire]
    exact .failed e
  rw [yields_lease hacquire]
  cases b with
  | false =>
      cases hnext
      exact .refused l
  | true =>
      obtain ⟨tr₃, tr₄, y, rfl, hensure, hnext⟩ := yields_outcome_bind hnext
      rw [yields_checkpoint hensure]
      cases y with
      | error e =>
          obtain ⟨tr₅, tr₆, z, rfl, hrelease, hthrow⟩ := yields_outcome_bind hnext
          rw [yields_lease hrelease]
          cases hthrow
          exact .unusable l e z
      | ok k =>
          obtain ⟨u, tr', rfl, hannounce⟩ := yields_ask_bind hnext
          cases hannounce with
          | ask hdone =>
              cases hdone
              exact .taken l k u _

theorem Attempt.exists_cons (h : Attempt cancel p tr x) :
    ∃ y tail, tr = ⟨.lease cancel (.acquire p), y⟩ :: tail ∧
      ∀ z ∈ tail, ∀ c op, z.request = .lease c op → op = .release p := by
  cases h with
  | failed e => exact ⟨_, [], rfl, by simp⟩
  | refused l => exact ⟨_, [], rfl, by simp⟩
  | unusable l e y =>
      refine ⟨_, _, rfl, ?_⟩
      simp only [List.mem_cons, List.not_mem_nil, or_false]
      rintro z (rfl | rfl) c op hop
      · cases hop
      · cases hop
        rfl
  | taken l k u u' =>
      refine ⟨_, _, rfl, ?_⟩
      simp only [List.mem_cons, List.not_mem_nil, or_false]
      rintro z (rfl | rfl | rfl) c op hop <;> cases hop

theorem Attempt.size_le (h : Attempt cancel p tr x) (t : Table Lease) :
    (believed t tr).size ≤ t.size + 1 := by
  cases h with
  | taken l k u u' => exact t.size_insert_le p l
  | _ => exact Nat.le_succ _

/-- What acquiring up to a share, from these partitions, can come to. -/
inductive Acquisitions (share : Nat) (cancel : Cancellation) :
    List String → List (Exchange Surroundings) → Except Error Unit → Prop where
  | none : Acquisitions share cancel [] [] (.ok ())
  | full {p : String} {ps : List String} {t : Table Lease} (h : share ≤ t.size) :
      Acquisitions share cancel (p :: ps) [⟨.owned, t⟩] (.ok ())
  | cancelled {p : String} {ps : List String} {t : Table Lease} {tr : List (Exchange Surroundings)}
      (h : t.size < share) (hattempt : Attempt cancel p tr (.error .cancelled)) :
      Acquisitions share cancel (p :: ps) (⟨.owned, t⟩ :: tr) (.error .cancelled)
  | next {p : String} {ps : List String} {t : Table Lease} {tr tr' : List (Exchange Surroundings)}
      {x y : Except Error Unit} (h : t.size < share) (hattempt : Attempt cancel p tr y)
      (hy : y ≠ .error .cancelled) (hrest : Acquisitions share cancel ps tr' x) :
      Acquisitions share cancel (p :: ps) (⟨.owned, t⟩ :: (tr ++ tr')) x

theorem acquisitions_of_yields (h : (acquireUpTo share cancel ps).run.Yields (I := Surroundings) tr x) :
    Acquisitions share cancel ps tr x := by
  induction ps generalizing tr with
  | nil =>
      cases h
      exact .none
  | cons p ps ih =>
      rw [acquireUpTo] at h
      obtain ⟨t, tr', rfl, hnext⟩ := yields_ask_bind h
      by_cases hfull : share ≤ t.size
      · rw [if_pos hfull] at hnext
        cases hnext
        exact .full hfull
      · rw [if_neg hfull] at hnext
        obtain ⟨tr₁, tr₂, y, rfl, hattempt, hrest⟩ := yields_outcome_bind hnext
        have hattempt := attempt_of_yields hattempt
        have hroom := Nat.lt_of_not_le hfull
        rcases y with e | ⟨⟩
        · cases e with
          | cancelled =>
              cases hrest
              rw [List.append_nil]
              exact .cancelled hroom hattempt
          | _ => exact .next hroom hattempt nofun (ih hrest)
        · exact .next hroom hattempt nofun (ih hrest)

def attempt? (y : Exchange Surroundings) : Option String :=
  match y.request with
  | .lease _ (.acquire p) => some p
  | _ => none

def attempted (tr : List (Exchange Surroundings)) : List String := tr.filterMap attempt?

theorem attempted_append : attempted (tr₁ ++ tr₂) = attempted tr₁ ++ attempted tr₂ := List.filterMap_append

theorem attempted_eq_nil (h : ∀ z ∈ tr, ∀ c q, z.request ≠ .lease c (.acquire q)) : attempted tr = [] := by
  refine List.filterMap_eq_nil_iff.2 fun z hz => ?_
  unfold attempt?
  split
  · rename_i hrequest
    exact absurd hrequest (h z hz _ _)
  · rfl

theorem Attempt.attempted_eq (h : Attempt cancel p tr x) : attempted tr = [p] := by
  obtain ⟨y, tail, rfl, htail⟩ := h.exists_cons
  have hnone : attempted tail = [] := attempted_eq_nil fun z hz c q hop => nomatch htail z hz c _ hop
  exact congrArg (p :: ·) hnone

namespace Acquisitions

theorem attempted_sublist (h : Acquisitions share cancel ps tr x) : (attempted tr).Sublist ps := by
  induction h with
  | none => exact .slnil
  | full h => exact List.nil_sublist _
  | @cancelled p ps t tr h hattempt =>
      change (attempted tr).Sublist _
      rw [hattempt.attempted_eq]
      exact (List.nil_sublist ps).cons_cons p
  | @next p ps t tr tr' x y h hattempt hy hrest ih =>
      change (attempted (tr ++ tr')).Sublist _
      rw [attempted_append, hattempt.attempted_eq]
      exact ih.cons_cons p

theorem size_le (h : Acquisitions share cancel ps tr x) (hcoherent : Coherent t tr) :
    (believed t tr).size ≤ max t.size share := by
  induction h generalizing t with
  | none => exact Nat.le_max_left _ _
  | full h => exact Nat.le_max_left _ _
  | cancelled h hattempt =>
      obtain ⟨rfl, -⟩ := hcoherent
      exact Nat.le_trans (hattempt.size_le _) (Nat.le_trans h (Nat.le_max_right _ _))
  | @next p ps t₀ tr tr' x y h hattempt hy hrest ih =>
      obtain ⟨rfl, hcoherent⟩ := hcoherent
      have hgained : (believed t₀ tr).size ≤ t₀.size + 1 := hattempt.size_le t₀
      have hrest : (believed (believed t₀ tr) tr').size ≤ max (believed t₀ tr).size share :=
        ih (coherent_append.1 hcoherent).2
      change (believed t₀ (tr ++ tr')).size ≤ _
      rw [believed_append]
      omega

theorem eq_acquire_or_release (h : Acquisitions share cancel ps tr x) :
    ∀ z ∈ tr, ∀ c op, z.request = .lease c op → ∃ q, op = .acquire q ∨ op = .release q := by
  have hall : ∀ {p tr x}, Attempt cancel p tr x →
      ∀ z ∈ tr, ∀ c op, z.request = .lease c op → ∃ q, op = .acquire q ∨ op = .release q := by
    intro p tr x hattempt z hz c op hop
    obtain ⟨y, tail, rfl, htail⟩ := hattempt.exists_cons
    rcases List.mem_cons.1 hz with rfl | hz
    · cases hop
      exact ⟨p, .inl rfl⟩
    · exact ⟨p, .inr (htail z hz c op hop)⟩
  induction h with
  | none => simp
  | full h =>
      rintro z hz c op hop
      obtain rfl := List.mem_singleton.1 hz
      cases hop
  | cancelled h hattempt =>
      rintro z hz c op hop
      rcases List.mem_cons.1 hz with rfl | hz
      · cases hop
      · exact hall hattempt z hz c op hop
  | next h hattempt hy hrest ih =>
      rintro z hz c op hop
      rcases List.mem_cons.1 hz with rfl | hz
      · cases hop
      · rcases List.mem_append.1 hz with hz | hz
        · exact hall hattempt z hz c op hop
        · exact ih z hz c op hop

end Acquisitions

/-! ## Scanning -/

/-- What a scan does when it has acquired all that it can. -/
def Closes (last : List (Exchange Surroundings)) : Except Error Unit → Prop
  | .ok _ => ∃ t n u, last = [⟨.owned, t⟩, ⟨.note n, u⟩]
  | .error _ => last = []

theorem Closes.believed_eq {last : List (Exchange Surroundings)} (h : Closes last x) (t : Table Lease) :
    believed t last = t := by
  cases x with
  | error e =>
      obtain rfl : last = [] := h
      rfl
  | ok u =>
      obtain ⟨t', n, u, rfl⟩ := h
      rfl

theorem Closes.not_lease {last : List (Exchange Surroundings)} (h : Closes last x) :
    ∀ z ∈ last, ∀ c op, z.request ≠ .lease c op := by
  cases x with
  | error e =>
      obtain rfl : last = [] := h
      simp
  | ok u =>
      obtain ⟨t, n, u, rfl⟩ := h
      simp only [List.mem_cons, List.not_mem_nil, or_false]
      rintro z (rfl | rfl) c op hop <;> cases hop

theorem Acquisitions.not_mem (h : Acquisitions share cancel ps tr x)
    {last : List (Exchange Surroundings)} (hlast : Closes last x) {c : Cancellation}
    {op : Lease.Operation} {y : Except Error op.Reply} (hop : ∀ q, op ≠ .acquire q ∧ op ≠ .release q) :
    ⟨.lease c op, y⟩ ∉ tr ++ last := by
  intro hmem
  rcases List.mem_append.1 hmem with hmem | hmem
  · obtain ⟨q, hq | hq⟩ := h.eq_acquire_or_release _ hmem c op rfl
    · exact (hop q).1 hq
    · exact (hop q).2 hq
  · exact hlast.not_lease _ hmem c op rfl

theorem Acquisitions.exists_owned (h : Acquisitions share cancel ps tr x)
    {last : List (Exchange Surroundings)} (hlast : Closes last x) :
    ∃ t rest, tr ++ last = ⟨.owned, t⟩ :: rest := by
  cases h with
  | none =>
      obtain ⟨t, n, u, rfl⟩ := hlast
      exact ⟨t, _, rfl⟩
  | _ => exact ⟨_, _, rfl⟩

/-- An attempt that was cancelled is the last thing that is done; after any other one the host goes on. -/
def GoesOn (rest : List (Exchange Surroundings)) (x y : Except Error Unit) : Prop :=
  (y = .error .cancelled ∧ rest = [] ∧ x = .error .cancelled) ∨
    y ≠ .error .cancelled ∧ ∃ t rest', rest = ⟨.owned, t⟩ :: rest'

theorem Acquisitions.exists_attempt (h : Acquisitions share cancel ps tr x)
    {last before after : List (Exchange Surroundings)} (hlast : Closes last x) {c : Cancellation}
    {y : Except Error (Lease × Bool)} (hsplit : tr ++ last = before ++ ⟨.lease c (.acquire p), y⟩ :: after) :
    ∃ tail rest z, after = tail ++ rest ∧ Attempt cancel p (⟨.lease c (.acquire p), y⟩ :: tail) z ∧
      GoesOn rest x z := by
  induction h generalizing before with
  | none =>
      have hmem : ⟨.lease c (.acquire p), y⟩ ∈ last := by simp [show last = _ from hsplit]
      exact absurd rfl (hlast.not_lease _ hmem c _)
  | full h =>
      obtain ⟨mid, -, hsplit⟩ := split_of_cons hsplit nofun
      have hmem : ⟨.lease c (.acquire p), y⟩ ∈ last := by simp [show last = _ from hsplit]
      exact absurd rfl (hlast.not_lease _ hmem c _)
  | cancelled h hattempt =>
      obtain rfl : last = [] := hlast
      rw [List.append_nil] at hsplit
      obtain ⟨mid, -, hsplit⟩ := split_of_cons hsplit nofun
      obtain ⟨y', tail, rfl, htail⟩ := hattempt.exists_cons
      rcases List.cons_eq_append_iff.1 hsplit with ⟨-, hsplit⟩ | ⟨mid', -, hsplit⟩
      · obtain ⟨heq, rfl⟩ := List.cons.inj hsplit
        cases heq
        exact ⟨after, [], _, (List.append_nil _).symm, hattempt, .inl ⟨rfl, rfl, rfl⟩⟩
      · have hmem : ⟨.lease c (.acquire p), y⟩ ∈ tail := by simp [hsplit]
        cases htail _ hmem c (.acquire p) rfl
  | @next p' ps t tr tr' x y₀ h hattempt hy hrest ih =>
      rw [List.cons_append, List.append_assoc] at hsplit
      obtain ⟨mid, -, hsplit⟩ := split_of_cons hsplit nofun
      obtain ⟨y', tail, rfl, htail⟩ := hattempt.exists_cons
      rcases List.cons_eq_append_iff.1 hsplit with ⟨-, hsplit⟩ | ⟨mid', -, hsplit⟩
      · obtain ⟨heq, rfl⟩ := List.cons.inj hsplit
        cases heq
        exact ⟨tail, tr' ++ last, y₀, rfl, hattempt, .inr ⟨hy, hrest.exists_owned hlast⟩⟩
      · obtain ⟨mid', -, hsplit⟩ :=
          split_of_append hsplit fun hmem => nomatch htail _ hmem c (.acquire p) rfl
        exact ih hlast hsplit

inductive Scanned (owner : String) (cancel : Cancellation) :
    List (Exchange Surroundings) → Except Error Unit → Prop where
  | interrupted {t : Table Lease} {tr : List (Exchange Surroundings)} {e : Error}
      (hrenew : Renewals cancel t.names tr (.error e)) :
      Scanned owner cancel (⟨.owned, t⟩ :: tr) (.error e)
  | unlisted {t : Table Lease} {tr : List (Exchange Surroundings)} {e : Error}
      (hrenew : Renewals cancel t.names tr (.ok ())) :
      Scanned owner cancel (⟨.owned, t⟩ :: (tr ++ [⟨.lease cancel .list, .error e⟩])) (.error e)
  | listed {t : Table Lease} {tr tr' last : List (Exchange Surroundings)} {leases : List Lease}
      {now : Timestamp} {x : Except Error Unit} (hrenew : Renewals cancel t.names tr (.ok ()))
      (hacquire : Acquisitions (fairShare leases.length (liveHosts owner leases now).length) cancel
        (availablePartitions leases now) tr' x) (hlast : Closes last x) :
      Scanned owner cancel
        (⟨.owned, t⟩ :: (tr ++ ⟨.lease cancel .list, .ok leases⟩ :: ⟨.now, now⟩ :: (tr' ++ last))) x

theorem scanned_of_yields {owner : String}
    (h : (scan owner cancel).run.Yields (I := Surroundings) tr x) : Scanned owner cancel tr x := by
  obtain ⟨t, tr', rfl, hall⟩ := yields_ask_bind h
  rcases hall.run_bind with ⟨e, hrenew, rfl⟩ | ⟨tr₁, tr₂, u, rfl, hrenew, hrest⟩
  · exact .interrupted (renewals_of_yields hrenew)
  have hrenew := renewals_of_yields hrenew
  rcases hrest.run_bind with ⟨e, hlist, rfl⟩ | ⟨tr₃, tr₄, leases, rfl, hlist, hshown⟩
  · rw [yields_lease hlist]
    exact .unlisted hrenew
  rw [yields_lease hlist]
  obtain ⟨now, tr', rfl, hfill⟩ := yields_ask_bind hshown
  rcases hfill.run_bind with ⟨e, hacquire, rfl⟩ | ⟨tr₅, tr₆, u, rfl, hacquire, hclose⟩
  · rw [← List.append_nil tr']
    exact .listed hrenew (acquisitions_of_yields hacquire) rfl
  · obtain ⟨t', tr', rfl, hnote⟩ := yields_ask_bind hclose
    cases hnote with
    | ask hdone =>
        cases hdone
        exact .listed hrenew (acquisitions_of_yields hacquire) ⟨t', _, _, rfl⟩

/-! ## Restraint -/

variable {owner : String}

theorem mem_availablePartitions {leases : List Lease} {now : Timestamp} :
    p ∈ availablePartitions leases now ↔ ∃ l ∈ leases, l.partition = p ∧ l.isAvailable now = true := by
  simp only [availablePartitions, List.mem_mergeSort, List.mem_map, List.mem_filter]
  constructor
  · rintro ⟨l, ⟨hl, havailable⟩, hp⟩
    exact ⟨l, hl, hp, havailable⟩
  · rintro ⟨l, hl, hp, havailable⟩
    exact ⟨l, ⟨hl, havailable⟩, hp⟩

theorem sorted_availablePartitions (leases : List Lease) (now : Timestamp) :
    (availablePartitions leases now).Pairwise (· ≤ ·) := by
  refine (List.pairwise_mergeSort ?_ ?_ _).imp fun h => of_decide_eq_true h
  · intro a b c hab hbc
    simp only [decide_eq_true_eq] at hab hbc ⊢
    exact Std.le_trans hab hbc
  · intro a b
    simpa using Std.le_total

theorem pairwise_availablePartitions {leases : List Lease} {now : Timestamp}
    (hdistinct : (leases.map (·.partition)).Nodup) :
    (availablePartitions leases now).Pairwise (· < ·) := by
  have hne : (availablePartitions leases now).Nodup := by
    rw [availablePartitions, (List.mergeSort_perm _ _).nodup_iff]
    exact hdistinct.sublist (List.filter_sublist.map _)
  refine ((sorted_availablePartitions leases now).and hne).imp fun h => ?_
  exact Std.lt_of_le_of_ne h.1 h.2

/-- What a host does in a scan that is answered so, from what it believes in the beginning. -/
structure Restrained (owner : String) (cancel : Cancellation) (t : Table Lease)
    (tr : List (Exchange Surroundings)) (x : Except Error Unit) : Prop where
  /-- After the leases were listed none is renewed. -/
  renews_before : ∀ before c answer after, tr = before ++ ⟨.lease c .list, answer⟩ :: after →
    ∀ z ∈ after, ∀ c' p, z.request ≠ .lease c' (.renew p)
  /-- If no leases are shown, nothing is gone for. -/
  unlisted : ∀ before c e after, tr = before ++ ⟨.lease c .list, .error e⟩ :: after → after = [] ∧ x = .error e
  /--
  In the end the host believes in no more leases than before it was shown any, or than are its share. It goes
  for such that were shown to be available when the clock was read, each once and in ascending order.
  -/
  share : ∀ before c leases after, tr = before ++ ⟨.lease c .list, .ok leases⟩ :: after →
    ∃ now rest, after = ⟨.now, now⟩ :: rest ∧
      (believed t tr).size ≤
        max (believed t before).size (fairShare leases.length (liveHosts owner leases now).length) ∧
      (∀ p ∈ attempted tr, ∃ l ∈ leases, l.partition = p ∧ l.isAvailable now = true) ∧
      ((leases.map (·.partition)).Nodup → (attempted tr).Pairwise (· < ·))
  /-- No lease is gone for before leases were shown. -/
  shown : ∀ before c p y after, tr = before ++ ⟨.lease c (.acquire p), y⟩ :: after →
    ∃ earlier c' leases later, before = earlier ++ ⟨.lease c' .list, .ok leases⟩ :: later
  /-- A lease that was taken is given back if it has no checkpoint, and the host does not believe in it. -/
  given_back : ∀ before c p l after, tr = before ++ ⟨.lease c (.acquire p), .ok (l, true)⟩ :: after →
    ∃ answer rest, after = ⟨.checkpoint c (.ensure p), answer⟩ :: rest ∧ ∀ e, answer = .error e →
      ∃ y rest', rest = ⟨.lease c (.release p), y⟩ :: rest' ∧
        (e = .cancelled → rest' = [] ∧ x = .error .cancelled ∧ believed t tr = believed t before) ∧
        (e ≠ .cancelled → ∃ rest'', rest' = ⟨.owned, believed t before⟩ :: rest'')
  /-- Nothing comes after a renewal that was cancelled. -/
  stops_renewing : ∀ before c p after, tr = before ++ ⟨.lease c (.renew p), .error .cancelled⟩ :: after →
    after = [] ∧ x = .error .cancelled
  /-- Nothing comes after an acquisition that was cancelled. -/
  stops_acquiring : ∀ before c p after, tr = before ++ ⟨.lease c (.acquire p), .error .cancelled⟩ :: after →
    after = [] ∧ x = .error .cancelled

namespace Scanned

variable {before after : List (Exchange Surroundings)} {c : Cancellation}

/-- All leases are renewed before any is listed, and the others are shown before any is gone for. -/
theorem exists_listing (h : Scanned owner cancel tr x) {answer : Except Error (List Lease)}
    (hsplit : tr = before ++ ⟨.lease c .list, answer⟩ :: after) :
    (∃ e, answer = .error e ∧ after = [] ∧ x = .error e) ∨
      ∃ leases now tr' last, answer = .ok leases ∧ after = ⟨.now, now⟩ :: (tr' ++ last) ∧
        attempted before = [] ∧ Closes last x ∧
        Acquisitions (fairShare leases.length (liveHosts owner leases now).length) cancel
          (availablePartitions leases now) tr' x := by
  cases h with
  | @interrupted t tr e hrenew =>
      obtain ⟨mid, -, hsplit⟩ := split_of_cons hsplit nofun
      have hmem : ⟨.lease c .list, answer⟩ ∈ tr := by simp [hsplit]
      exact absurd hmem (hrenew.not_mem nofun)
  | unlisted hrenew =>
      obtain ⟨mid, -, hsplit⟩ := split_of_cons hsplit nofun
      obtain ⟨mid, -, hsplit⟩ := split_of_append hsplit (hrenew.not_mem nofun)
      rcases List.cons_eq_append_iff.1 hsplit with ⟨-, hsplit⟩ | ⟨mid, -, hsplit⟩
      · obtain ⟨heq, rfl⟩ := List.cons.inj hsplit
        cases heq
        exact .inl ⟨_, rfl, rfl, rfl⟩
      · simp at hsplit
  | @listed t tr tr' last leases now x hrenew hacquire hlast =>
      obtain ⟨mid, rfl, hmid⟩ := split_of_cons hsplit nofun
      obtain ⟨rest, rfl, hrest⟩ := split_of_append hmid (hrenew.not_mem nofun)
      rcases List.cons_eq_append_iff.1 hrest with ⟨rfl, hrest⟩ | ⟨mid, -, hrest⟩
      · obtain ⟨heq, rfl⟩ := List.cons.inj hrest
        cases heq
        refine .inr ⟨leases, now, tr', last, rfl, rfl, ?_, hlast, hacquire⟩
        have hnone : attempted tr = [] := attempted_eq_nil fun z hz c q hop => by
          obtain ⟨q', hq'⟩ := hrenew.eq_renew z hz c _ hop
          cases hq'
        simpa [attempted, attempt?] using hnone
      · obtain ⟨mid, -, hrest⟩ := split_of_cons hrest nofun
        have hmem : ⟨.lease c .list, answer⟩ ∈ tr' ++ last := by simp [hrest]
        exact absurd hmem (hacquire.not_mem hlast fun q => ⟨nofun, nofun⟩)

theorem exists_attempt (h : Scanned owner cancel tr x) {y : Except Error (Lease × Bool)}
    (hsplit : tr = before ++ ⟨.lease c (.acquire p), y⟩ :: after) :
    (∃ earlier c' leases later, before = earlier ++ ⟨.lease c' .list, .ok leases⟩ :: later) ∧
      ∃ tail rest z, after = tail ++ rest ∧ Attempt cancel p (⟨.lease c (.acquire p), y⟩ :: tail) z ∧
        GoesOn rest x z := by
  cases h with
  | @interrupted t tr e hrenew =>
      obtain ⟨mid, -, hsplit⟩ := split_of_cons hsplit nofun
      have hmem : ⟨.lease c (.acquire p), y⟩ ∈ tr := by simp [hsplit]
      exact absurd hmem (hrenew.not_mem nofun)
  | unlisted hrenew =>
      obtain ⟨mid, -, hsplit⟩ := split_of_cons hsplit nofun
      obtain ⟨mid, -, hsplit⟩ := split_of_append hsplit (hrenew.not_mem nofun)
      obtain ⟨mid, -, hsplit⟩ := split_of_cons hsplit nofun
      simp at hsplit
  | @listed t tr tr' last leases now x hrenew hacquire hlast =>
      obtain ⟨rest, rfl, hrest⟩ := split_of_cons hsplit nofun
      obtain ⟨rest, rfl, hlist⟩ := split_of_append hrest (hrenew.not_mem nofun)
      obtain ⟨later, rfl, hclock⟩ := split_of_cons hlist nofun
      obtain ⟨mid, rfl, hacquired⟩ := split_of_cons hclock nofun
      exact ⟨⟨⟨.owned, t⟩ :: tr, cancel, leases, _, rfl⟩, hacquire.exists_attempt hlast hacquired⟩

theorem of_cancelled (h : Scanned owner cancel tr x)
    (hsplit : tr = before ++ ⟨.lease c (.renew p), .error .cancelled⟩ :: after) :
    after = [] ∧ x = .error .cancelled := by
  cases h with
  | interrupted hrenew =>
      obtain ⟨mid, -, hsplit⟩ := split_of_cons hsplit nofun
      have hend := hrenew.of_cancelled hsplit
      exact hend
  | unlisted hrenew =>
      obtain ⟨mid, -, hsplit⟩ := split_of_cons hsplit nofun
      obtain ⟨mid, -, hsplit⟩ := split_of_append hsplit (hrenew.not_cancelled c p)
      obtain ⟨mid, -, hsplit⟩ := split_of_cons hsplit nofun
      simp at hsplit
  | @listed t tr tr' last leases now x hrenew hacquire hlast =>
      obtain ⟨mid, -, hsplit⟩ := split_of_cons hsplit nofun
      obtain ⟨mid, -, hsplit⟩ := split_of_append hsplit (hrenew.not_cancelled c p)
      obtain ⟨mid, -, hsplit⟩ := split_of_cons hsplit nofun
      obtain ⟨mid, -, hsplit⟩ := split_of_cons hsplit nofun
      have hmem : ⟨.lease c (.renew p), .error .cancelled⟩ ∈ tr' ++ last := by simp [hsplit]
      exact absurd hmem (hacquire.not_mem hlast fun q => ⟨nofun, nofun⟩)

end Scanned

/--
Whatever a host is answered in a scan, it goes only for leases that it was shown to be available, each once and
in ascending order, and believes in no more of them in the end than are its share, or than it believed in
already; a lease that it took for nothing is given back, and a request that was cancelled is the last one.
-/
theorem scan_is_restrained (hscan : (scan owner cancel).run.Yields (I := Surroundings) tr x)
    (hcoherent : Coherent t tr) : Restrained owner cancel t tr x := by
  have hscanned := scanned_of_yields hscan
  constructor
  · intro before c answer after hsplit z hz c' p hop
    rcases hscanned.exists_listing hsplit with
      ⟨e, -, rfl, -⟩ | ⟨leases, now, tr', last, -, rfl, -, hlast, hacquire⟩
    · cases hz
    · rcases List.mem_cons.1 hz with rfl | hz
      · cases hop
      · rcases List.mem_append.1 hz with hz | hz
        · obtain ⟨q, hq | hq⟩ := hacquire.eq_acquire_or_release z hz c' _ hop <;> cases hq
        · exact hlast.not_lease z hz c' _ hop
  · intro before c e after hsplit
    rcases hscanned.exists_listing hsplit with ⟨e', hlisted, hend⟩ | ⟨_, _, _, _, hlisted, -⟩
    · cases hlisted
      exact hend
    · cases hlisted
  · intro before c leases after hsplit
    rcases hscanned.exists_listing hsplit with
      ⟨e, hlisted, -⟩ | ⟨leases', now, tr', last, hlisted, rfl, hnone, hlast, hacquire⟩
    · cases hlisted
    obtain rfl := Except.ok.inj hlisted
    have hattempted : attempted tr = attempted tr' := by
      have hlast : attempted last = [] := attempted_eq_nil fun z hz c q => hlast.not_lease z hz c _
      rw [hsplit, attempted_append, hnone, List.nil_append]
      change attempted (tr' ++ last) = _
      rw [attempted_append, hlast, List.append_nil]
    have hbelieved : believed t tr = believed (believed t before) tr' := by
      rw [hsplit, believed_append]
      change believed (believed t before) (tr' ++ last) = _
      rw [believed_append, hlast.believed_eq]
    rw [hattempted, hbelieved]
    rw [hsplit] at hcoherent
    have hshown := (coherent_append.1 hcoherent).2.2.2
    refine ⟨now, tr' ++ last, rfl, hacquire.size_le (coherent_append.1 hshown).1, fun p hp => ?_, ?_⟩
    · exact mem_availablePartitions.1 (hacquire.attempted_sublist.subset hp)
    · exact fun hdistinct =>
        (pairwise_availablePartitions hdistinct).sublist hacquire.attempted_sublist
  · exact fun before c p y after hsplit => (hscanned.exists_attempt hsplit).1
  · intro before c p l after hsplit
    obtain ⟨-, tail, rest, z, rfl, hattempt, hgoesOn⟩ := hscanned.exists_attempt hsplit
    cases hattempt with
    | taken l k u u' => exact ⟨.ok k, _, rfl, nofun⟩
    | unusable l e y =>
        refine ⟨.error e, _, rfl, ?_⟩
        rintro _ ⟨⟩
        subst hsplit
        refine ⟨y, rest, rfl, fun he => ?_, fun he => ?_⟩
        · rcases hgoesOn with ⟨-, rfl, hx⟩ | ⟨hne, -⟩
          · exact ⟨rfl, hx, believed_append _ _ _⟩
          · exact absurd (congrArg _ he) hne
        · rcases hgoesOn with ⟨heq, -⟩ | ⟨-, t', rest', rfl⟩
          · exact absurd (Except.error.inj heq) he
          · have hlooked : t' = believed t before := (coherent_append.1 hcoherent).2.2.2.2.1
            exact ⟨rest', hlooked ▸ rfl⟩
  · exact fun before c p after hsplit => hscanned.of_cancelled hsplit
  · intro before c p after hsplit
    obtain ⟨-, tail, rest, z, rfl, hattempt, hgoesOn⟩ := hscanned.exists_attempt hsplit
    cases hattempt with
    | failed e =>
        rcases hgoesOn with ⟨-, rfl, hx⟩ | ⟨hne, -⟩
        · exact ⟨rfl, hx⟩
        · exact absurd rfl hne

/-- One of two leases is there to be taken, and its partition has no checkpoint. -/
def answerSparsely (past : List (Exchange Surroundings)) : (r : Request) → r.Answer
  | .lease _ .list => .ok [⟨"1", "b", .ofNanos 1000, 1⟩, ⟨"0", "", .epoch, 0⟩]
  | .lease _ (.acquire p) => .ok (⟨p, "a", .ofNanos 1000, 1⟩, true)
  | .lease _ _ => .error .cancelled
  | .checkpoint _ _ => .error (.store "timeout")
  | .hub _ => .error .cancelled
  | .range _ _ => .error .cancelled
  | .now => .epoch
  | .elapsed => 0
  | .wait _ _ => .due
  | .owned => believed .empty past
  | .own _ _ => ()
  | .disown p => (believed .empty past).contains p
  | .announce _ => ()
  | .note _ => ()

theorem scan_is_restrained_answerSparsely : ∃ tr x, Restrained "a" .never .empty tr x ∧
    attempted tr = ["0"] ∧ (believed .empty tr).names = [] := by
  have hmatches : ∀ past r, Matches (believed .empty past) ⟨r, answerSparsely past r⟩ := by
    intro past r
    cases r with
    | owned => rfl
    | disown p => rfl
    | _ => trivial
  refine ⟨_, _, scan_is_restrained (Task.yields_against answerSparsely _ [])
    (coherent_against hmatches _ []), ?_, ?_⟩
  · decide +kernel
  · decide +kernel

end Host

end PartitionHost
