import PartitionHost.Proofs.Checkpoint.Engines
import PartitionHost.Proofs.Host.Shelves
import PartitionHost.Proofs.Host.Timely

/-!
# Bootstrap only adds

What a bootstrap leaves in the stores of a host while nobody else writes there, whatever was stored before,
whatever the management node says and wherever a call fails. It puts fresh records where there are none, and
moves a checkpoint from the start of the stream to the latest position (`Equipment.Adds`). It goes through the
partitions as the hub lists them: where it stops, those before have both records and those after are as they
were (`Equipment.Pass`).
-/

namespace PartitionHost

open Host Record

/-! ## What becomes of the records of a partition -/

def Exchange.report? (p : String) : Exchange Surroundings → Option PartitionRange
  | ⟨.range _ q, .ok r⟩ => if q = p then some r else none
  | _ => none

/-- What becomes of a lease: it stays, or a fresh one is put where there was none. -/
inductive Lease.Provided (kind : Site.StoreKind) (p : String) (stored : Option (Item Lease)) :
    Option (Item Lease) → Prop where
  | kept : Provided kind p stored stored
  | created (hnone : stored = none) : Provided kind p stored (some (.of kind (.unowned p)))

def Checkpoint.Unprocessed (stored : Option (Item Checkpoint)) : Prop :=
  ∀ i, stored = some i → ∃ c, i.read? = some c ∧ c.isStartOfStream = true

/--
What becomes of a checkpoint: it stays, or the start of the stream is put where there was none, or, where the
host is to start at the latest position, a position that was reported is put where nothing was processed yet.
-/
inductive Checkpoint.Provided (kind : Site.StoreKind) (start : Position) (reports : List PartitionRange)
    (p : String) (stored : Option (Item Checkpoint)) : Option (Item Checkpoint) → Prop where
  | kept : Provided kind start reports p stored stored
  | created (hnone : stored = none) :
      Provided kind start reports p stored (some (.of kind (.startOfStream p)))
  | seeded {r : PartitionRange} (hstart : start = .latest) (hfresh : Unprocessed stored)
      (hr : r ∈ reports) : Provided kind start reports p stored (some (.of kind (latestPosition p r)))

namespace Checkpoint

theorem read?_of_startOfStream (kind : Site.StoreKind) (p : String) :
    (Item.of kind (startOfStream p)).read? = some (startOfStream p) := by
  cases kind with
  | register => rfl
  | bucket => exact decode?_encode_startOfStream p

theorem unprocessed_iff {i : Item Checkpoint} {c : Checkpoint} (hread : i.read? = some c) :
    Unprocessed (some i) ↔ c.isStartOfStream = true := by
  constructor
  · intro h
    obtain ⟨c', hc', hstart⟩ := h i rfl
    cases hread.symm.trans hc'
    exact hstart
  · rintro hstart _ ⟨⟩
    exact ⟨c, hread, hstart⟩

end Checkpoint

theorem Lease.Provided.trans {kind : Site.StoreKind} {p : String} {a b c : Option (Item Lease)}
    (h : Provided kind p a b) (h' : Provided kind p b c) : Provided kind p a c := by
  cases h with
  | kept => exact h'
  | created hnone =>
      cases h' with
      | kept => exact .created hnone
      | created h => cases h

theorem Checkpoint.Provided.trans {kind : Site.StoreKind} {start : Position}
    {reports reports' : List PartitionRange} {p : String} {a b c : Option (Item Checkpoint)}
    (h : Provided kind start reports p a b) (h' : Provided kind start reports' p b c)
    (hreports : reports ⊆ reports') : Provided kind start reports' p a c := by
  have hfirst : Provided kind start reports' p a b ∧ (Unprocessed b → Unprocessed a) := by
    cases h with
    | kept => exact ⟨.kept, id⟩
    | created hnone => exact ⟨.created hnone, fun _ i hi => nomatch hnone.symm.trans hi⟩
    | seeded hstart hfresh hr => exact ⟨.seeded hstart hfresh (hreports hr), fun _ => hfresh⟩
  cases h' with
  | kept => exact hfirst.1
  | created hnone =>
      -- Nothing is ever removed, so there was nothing to begin with.
      subst hnone
      cases h with
      | kept => exact .created rfl
  | seeded hstart hfresh hr => exact .seeded hstart (hfirst.2 hfresh) hr

/-! ## What becomes of all records -/

namespace Inventory

def reports (v : Inventory) (p : String) : List PartitionRange := v.past.filterMap (·.report? p)

def Stocked (v : Inventory) (p : String) : Prop :=
  (v.leases p).isSome = true ∧ (v.checkpoints p).isSome = true

/-- The checkpoint of a partition is the latest position, as it was reported last. -/
def Seeded (kind : Site.StoreKind) (v : Inventory) (p : String) : Prop :=
  ∃ r, (v.reports p).head? = some r ∧ v.checkpoints p = some (.of kind (latestPosition p r))

structure Untouched (p : String) (v v' : Inventory) : Prop where
  lease : v'.leases p = v.leases p
  checkpoint : v'.checkpoints p = v.checkpoints p
  reports : v'.reports p = v.reports p

theorem Untouched.trans {p : String} {v v₁ v' : Inventory} (h : Untouched p v v₁)
    (h' : Untouched p v₁ v') : Untouched p v v' :=
  ⟨h'.lease.trans h.lease, h'.checkpoint.trans h.checkpoint, h'.reports.trans h.reports⟩

theorem Untouched.seeded {p : String} {v v' : Inventory} {kind : Site.StoreKind} (h : Untouched p v v') :
    v'.Seeded kind p ↔ v.Seeded kind p := by
  rw [Seeded, Seeded, h.reports, h.checkpoint]

end Inventory

open Inventory

namespace Equipment

/-- Records stay as they are or are added, and what was asked is not forgotten. -/
structure Adds (e : Equipment) (start : Position) (v v' : Inventory) : Prop where
  lease : ∀ p, Lease.Provided e.leases p (v.leases p) (v'.leases p)
  checkpoint : ∀ p,
    Checkpoint.Provided e.checkpoints start (v'.reports p) p (v.checkpoints p) (v'.checkpoints p)
  past : v.past <:+ v'.past

/-- Records are added for this partition only. -/
structure Furthers (e : Equipment) (start : Position) (p : String) (v v' : Inventory) : Prop where
  adds : e.Adds start v v'
  others : ∀ q ≠ p, Untouched q v v'

/-- Nothing that is stored is different, nor what was reported. -/
structure Idles (e : Equipment) (start : Position) (v v' : Inventory) : Prop where
  adds : e.Adds start v v'
  untouched : ∀ q, Untouched q v v'

variable {e : Equipment} {start : Position} {p : String} {v v₁ v' : Inventory}

theorem Adds.refl (e : Equipment) (start : Position) (v : Inventory) : e.Adds start v v :=
  ⟨fun _ => .kept, fun _ => .kept, List.suffix_refl _⟩

theorem Adds.trans (h : e.Adds start v v₁) (h' : e.Adds start v₁ v') : e.Adds start v v' where
  lease p := (h.lease p).trans (h'.lease p)
  checkpoint p := (h.checkpoint p).trans (h'.checkpoint p) (h'.past.filterMap _).subset
  past := h.past.trans h'.past

theorem Adds.stocked (h : e.Adds start v v') (hp : v.Stocked p) : v'.Stocked p := by
  constructor
  · have hlease := h.lease p
    generalize v'.leases p = after at hlease ⊢
    cases hlease with
    | kept => exact hp.1
    | created => rfl
  · have hcheckpoint := h.checkpoint p
    generalize v'.checkpoints p = after at hcheckpoint ⊢
    cases hcheckpoint with
    | kept => exact hp.2
    | _ => rfl

theorem Furthers.trans (h : e.Furthers start p v v₁) (h' : e.Furthers start p v₁ v') :
    e.Furthers start p v v' :=
  ⟨h.adds.trans h'.adds, fun q hq => (h.others q hq).trans (h'.others q hq)⟩

theorem Idles.refl (e : Equipment) (start : Position) (v : Inventory) : e.Idles start v v :=
  ⟨.refl e start v, fun _ => ⟨rfl, rfl, rfl⟩⟩

theorem Idles.trans (h : e.Idles start v v₁) (h' : e.Idles start v₁ v') : e.Idles start v v' :=
  ⟨h.adds.trans h'.adds, fun q => (h.untouched q).trans (h'.untouched q)⟩

theorem Idles.furthers (h : e.Idles start v v') (p : String) : e.Furthers start p v v' :=
  ⟨h.adds, fun q _ => h.untouched q⟩

/-! ## Requests one by one -/

variable {cancel : Cancellation}

theorem reports_cons {x : Exchange Surroundings} (hpast : v'.past = x :: v.past) (q : String) :
    v'.reports q = (x.report? q).toList ++ v.reports q := by
  rw [reports, hpast, List.filterMap_cons]
  cases x.report? q <;> rfl

theorem furthers_of_others {x : Exchange Surroundings} (hpast : v'.past = x :: v.past)
    (hothers : ∀ q ≠ p, v'.leases q = v.leases q ∧ v'.checkpoints q = v.checkpoints q ∧
      x.report? q = none)
    (hlease : Lease.Provided e.leases p (v.leases p) (v'.leases p))
    (hcheckpoint : Checkpoint.Provided e.checkpoints start (v'.reports p) p (v.checkpoints p)
      (v'.checkpoints p)) : e.Furthers start p v v' where
  adds := by
    refine ⟨fun q => ?_, fun q => ?_, hpast ▸ List.suffix_cons x v.past⟩
    · by_cases hq : q = p
      · exact hq ▸ hlease
      · exact (hothers q hq).1 ▸ .kept
    · by_cases hq : q = p
      · exact hq ▸ hcheckpoint
      · exact (hothers q hq).2.1 ▸ .kept
  others q hq := by
    obtain ⟨hlease, hcheckpoint, hreport⟩ := hothers q hq
    exact ⟨hlease, hcheckpoint, by rw [reports_cons hpast, hreport]; rfl⟩

theorem furthers_of_lease (start : Position) {x : Except Error Lease}
    (h : e.Supplies (.lease cancel (.ensure p)) v x v') :
    e.Furthers start p v v' ∧ v'.checkpoints p = v.checkpoints p ∧ v'.reports p = v.reports p ∧
      ∀ l, x = .ok l → (v'.leases p).isSome = true := by
  obtain ⟨⟨hcheckpoints, hensured⟩, hpast⟩ := h
  refine ⟨furthers_of_others hpast ?_ ?_ (hcheckpoints ▸ .kept), congrFun hcheckpoints p,
    reports_cons hpast p, ?_⟩
  · exact fun q hq => ⟨hensured.eq_of_ne hq, congrFun hcheckpoints q, rfl⟩
  · rcases hensured.eq_or with hsame | ⟨hnone, hfresh⟩
    · exact hsame ▸ .kept
    · exact hfresh ▸ .created hnone
  · rintro l rfl
    rcases hensured.of_ok with ⟨i, hi, -, hsame⟩ | ⟨-, -, hfresh⟩
    · rw [hsame, hi]
      rfl
    · rw [hfresh]
      rfl

theorem furthers_of_checkpoint (start : Position) {x : Except Error Checkpoint}
    (h : e.Supplies (.checkpoint cancel (.ensure p)) v x v') :
    e.Furthers start p v v' ∧ v'.leases p = v.leases p ∧
      (Checkpoint.Unprocessed (v.checkpoints p) → Checkpoint.Unprocessed (v'.checkpoints p)) ∧
      (v.Seeded e.checkpoints p → v'.Seeded e.checkpoints p) ∧
      ∀ stored, x = .ok stored → ∃ i, v'.checkpoints p = some i ∧ i.read? = some stored := by
  obtain ⟨⟨hleases, hensured⟩, hpast⟩ := h
  have hread := Checkpoint.read?_of_startOfStream e.checkpoints p
  refine ⟨furthers_of_others hpast ?_ (hleases ▸ .kept) ?_, congrFun hleases p, ?_, ?_, ?_⟩
  · exact fun q hq => ⟨congrFun hleases q, hensured.eq_of_ne hq, rfl⟩
  · rcases hensured.eq_or with hsame | ⟨hnone, hfresh⟩
    · exact hsame ▸ .kept
    · exact hfresh ▸ .created hnone
  · rcases hensured.eq_or with hsame | ⟨-, hfresh⟩
    · exact fun h => hsame ▸ h
    · exact fun _ => hfresh ▸ (Checkpoint.unprocessed_iff hread).2 rfl
  · rintro ⟨r, hr, hstored⟩
    rcases hensured.eq_or with hsame | ⟨hnone, -⟩
    · exact ⟨r, (congrArg _ (reports_cons hpast p)).trans hr, hsame.trans hstored⟩
    · cases hnone.symm.trans hstored
  · rintro stored rfl
    rcases hensured.of_ok with ⟨i, hi, hread, hsame⟩ | ⟨-, rfl, hfresh⟩
    · exact ⟨i, hsame ▸ hi, hread⟩
    · exact ⟨_, hfresh, hread⟩

theorem furthers_of_range {x : Except Error PartitionRange} (h : e.Supplies (.range cancel p) v x v') :
    e.Furthers start p v v' ∧ v'.checkpoints p = v.checkpoints p ∧
      ∀ r, x = .ok r → (v'.reports p).head? = some r := by
  obtain ⟨⟨hleases, hcheckpoints⟩, hpast⟩ := h
  refine ⟨furthers_of_others hpast ?_ (hleases ▸ .kept) (hcheckpoints ▸ .kept),
    congrFun hcheckpoints p, ?_⟩
  · refine fun q hq => ⟨congrFun hleases q, congrFun hcheckpoints q, ?_⟩
    cases x with
    | error fault => rfl
    | ok r => exact if_neg (Ne.symm hq)
  · rintro r rfl
    simp [reports_cons hpast, Exchange.report?]

theorem furthers_of_update {x : Except Error Unit} {r : PartitionRange} (hstart : start = .latest)
    (hfresh : Checkpoint.Unprocessed (v.checkpoints p)) (hr : (v.reports p).head? = some r)
    (h : e.Supplies (.checkpoint cancel (.update p (latestPosition p r))) v x v') :
    e.Furthers start p v v' ∧ (x = .ok () → v'.Seeded e.checkpoints p) := by
  obtain ⟨⟨hleases, hreplaced⟩, hpast⟩ := h
  have hreports : v'.reports p = v.reports p := reports_cons hpast p
  refine ⟨furthers_of_others hpast ?_ (hleases ▸ .kept) ?_, ?_⟩
  · exact fun q hq => ⟨congrFun hleases q, hreplaced.eq_of_ne hq, rfl⟩
  · cases x with
    | error fault => exact hreplaced.of_error ▸ .kept
    | ok =>
        rw [hreplaced.of_ok, hreports]
        exact .seeded hstart hfresh (List.mem_of_head? hr)
  · rintro rfl
    exact ⟨r, hreports ▸ hr, hreplaced.of_ok⟩

theorem idles_of_same {x : Exchange Surroundings}
    (h : v'.leases = v.leases ∧ v'.checkpoints = v.checkpoints) (hpast : v'.past = x :: v.past)
    (hreport : ∀ q, x.report? q = none) : e.Idles start v v' where
  adds := ⟨fun q => h.1 ▸ .kept, fun q => h.2 ▸ .kept, hpast ▸ List.suffix_cons x v.past⟩
  untouched q := ⟨congrFun h.1 q, congrFun h.2 q, by rw [reports_cons hpast, hreport]; rfl⟩

/-! ## One partition -/

theorem assures_seedLatest (hstart : start = .latest)
    (hfresh : Checkpoint.Unprocessed (v.checkpoints p)) :
    (seedLatest cancel p).run.Assures (I := Surroundings) e.Supplies (fun x v' =>
      e.Furthers start p v v' ∧ (x = .ok () → v'.Seeded e.checkpoints p)) v := by
  have hrange : (range cancel p).run.Assures (I := Surroundings) e.Supplies (fun x v₁ =>
      e.Furthers start p v v₁ ∧ v₁.checkpoints p = v.checkpoints p ∧
        ∀ r, x = .ok r → (v₁.reports p).head? = some r) v := fun _ _ h => furthers_of_range h
  refine hrange.run_bind ?_ ?_
  · exact fun fault v₁ h => ⟨h.1, nofun⟩
  rintro r v₁ ⟨hfirst, hsame, hreported⟩
  have hupdate : (Host.checkpoint cancel (.update p (latestPosition p r))).run.Assures
      (I := Surroundings) e.Supplies
      (fun x v₂ => e.Furthers start p v₁ v₂ ∧ (x = .ok () → v₂.Seeded e.checkpoints p)) v₁ :=
    fun _ _ h => furthers_of_update hstart (hsame ▸ hfresh) (hreported r rfl) h
  refine hupdate.run_bind ?_ ?_
  · exact fun fault v₂ h => ⟨hfirst.trans h.1, nofun⟩
  rintro ⟨⟩ v₂ ⟨hsecond, hseeded⟩ x v' hnote
  have hidle : e.Idles start v₂ v' := idles_of_same hnote.1 hnote.2 fun _ => rfl
  exact ⟨(hfirst.trans hsecond).trans (hidle.furthers p),
    fun _ => (hidle.untouched p).seeded.2 (hseeded rfl)⟩

structure Prepares (e : Equipment) (start : Position) (p : String) (v : Inventory)
    (x : Except Error Unit) (v' : Inventory) : Prop where
  furthers : e.Furthers start p v v'
  stocked : x = .ok () → v'.Stocked p
  seeded : x = .ok () → start = .latest →
    Checkpoint.Unprocessed (v.checkpoints p) ∨ v.Seeded e.checkpoints p → v'.Seeded e.checkpoints p

theorem assures_prepare (v : Inventory) :
    (prepare start cancel p).run.Assures (I := Surroundings) e.Supplies (e.Prepares start p v) v := by
  have hlease : (Host.lease cancel (.ensure p)).run.Assures (I := Surroundings) e.Supplies
      (fun x v₁ => e.Supplies (.lease cancel (.ensure p)) v x v₁) v := fun _ _ h => h
  refine hlease.run_bind ?_ ?_
  · exact fun fault v₁ h => ⟨(furthers_of_lease start h).1, nofun, nofun⟩
  intro l v₁ h
  obtain ⟨hfirst, hsame, hreports, hleased⟩ := furthers_of_lease start h
  have hcheckpoint : (Host.checkpoint cancel (.ensure p)).run.Assures (I := Surroundings) e.Supplies
      (fun x v₂ => e.Supplies (.checkpoint cancel (.ensure p)) v₁ x v₂) v₁ := fun _ _ h => h
  refine hcheckpoint.run_bind ?_ ?_
  · exact fun fault v₂ h => ⟨hfirst.trans (furthers_of_checkpoint start h).1, nofun, nofun⟩
  intro stored v₂ h
  obtain ⟨hsecond, hkept, hfresh, hseeded, hread⟩ := furthers_of_checkpoint start h
  obtain ⟨i, hi, hread⟩ := hread stored rfl
  have hboth := hfirst.trans hsecond
  have hstocked : v₂.Stocked p := ⟨hkept ▸ hleased l rfl, hi ▸ rfl⟩
  rw [hsame] at hfresh
  rw [Seeded, hreports, hsame, ← Seeded] at hseeded
  split
  · rename_i hseed
    obtain ⟨rfl, hstart⟩ := hseed
    have hunprocessed : Checkpoint.Unprocessed (v₂.checkpoints p) :=
      hi ▸ (Checkpoint.unprocessed_iff hread).2 hstart
    refine (assures_seedLatest rfl hunprocessed).imp fun x v' ⟨hlast, hseeded⟩ => ?_
    exact ⟨hboth.trans hlast, fun _ => hlast.adds.stocked hstocked, fun hx _ _ => hseeded hx⟩
  · rename_i hnot
    -- What was read is not the start of the stream, so there was something else before, or a seed.
    refine ⟨hboth, fun _ => hstocked, fun _ hstart hbefore => hseeded ?_⟩
    refine hbefore.resolve_left fun hunprocessed => hnot ⟨hstart, ?_⟩
    exact (Checkpoint.unprocessed_iff hread).1 (hi ▸ hfresh hunprocessed)

/-! ## All partitions -/

/-- How far a host gets with these partitions, and what it leaves of them. -/
inductive Pass (e : Equipment) (start : Position) (ps : List String) (v : Inventory) :
    Except Error Unit → Inventory → Prop where
  /-- It stops at one of them: those before have both records, those after are as they were. -/
  | stopped {v' : Inventory} (fault : Error) {done rest : List String} {p : String}
      (hps : ps = done ++ p :: rest) (hdone : ∀ q ∈ done, v'.Stocked q)
      (hrest : ∀ q ∉ done, q ≠ p → Untouched q v v') : Pass e start ps v (.error fault) v'
  | complete {v' : Inventory} (hall : ∀ q ∈ ps, v'.Stocked q) (hothers : ∀ q ∉ ps, Untouched q v v')
      (hseeded : start = .latest →
        ∀ q ∈ ps, Checkpoint.Unprocessed (v.checkpoints q) → v'.Seeded e.checkpoints q) :
      Pass e start ps v (.ok ()) v'

/-- What is seeded stays seeded when all goes well, so it does not matter how often a partition is listed. -/
structure Passes (e : Equipment) (start : Position) (ps : List String) (v : Inventory)
    (x : Except Error Unit) (v' : Inventory) : Prop where
  adds : e.Adds start v v'
  pass : e.Pass start ps v x v'
  seeded : x = .ok () → start = .latest → ∀ q, v.Seeded e.checkpoints q → v'.Seeded e.checkpoints q

theorem Prepares.stops {fault : Error} (h : e.Prepares start p v (.error fault) v') (ps : List String) :
    e.Passes start (p :: ps) v (.error fault) v' :=
  ⟨h.furthers.adds, .stopped fault (List.nil_append _).symm (by simp) fun q _ => h.furthers.others q, nofun⟩

theorem Prepares.passes {x : Except Error Unit} {ps : List String} (h : e.Prepares start p v (.ok ()) v₁)
    (h' : e.Passes start ps v₁ x v') : e.Passes start (p :: ps) v x v' where
  adds := h.furthers.adds.trans h'.adds
  pass := by
    have hp : v'.Stocked p := h'.adds.stocked (h.stocked rfl)
    cases h'.pass with
    | stopped fault hps hdone hrest =>
        refine .stopped fault (congrArg (p :: ·) hps) (List.forall_mem_cons.2 ⟨hp, hdone⟩) ?_
        intro q hq hne
        obtain ⟨hqp, hq⟩ := not_or.1 (mt List.mem_cons.2 hq)
        exact (h.furthers.others q hqp).trans (hrest q hq hne)
    | complete hall hothers hseeded =>
        refine .complete (List.forall_mem_cons.2 ⟨hp, hall⟩) ?_ ?_
        · intro q hq
          obtain ⟨hqp, hq⟩ := not_or.1 (mt List.mem_cons.2 hq)
          exact (h.furthers.others q hqp).trans (hothers q hq)
        · intro hstart q hq hfresh
          -- The first partition may be listed again, and is then seeded as it was reported last.
          by_cases hqp : q = p
          · subst hqp
            exact h'.seeded rfl hstart q (h.seeded rfl hstart (.inl hfresh))
          · refine hseeded hstart q ((List.mem_cons.1 hq).resolve_left hqp) ?_
            rw [(h.furthers.others q hqp).checkpoint]
            exact hfresh
  seeded hx hstart q hq := by
    refine h'.seeded hx hstart q ?_
    by_cases hqp : q = p
    · subst hqp
      exact h.seeded rfl hstart (.inr hq)
    · exact (h.furthers.others q hqp).seeded.2 hq

theorem assures_prepareAll (ps : List String) (v : Inventory) :
    (prepareAll start cancel ps).run.Assures (I := Surroundings) e.Supplies (e.Passes start ps v) v := by
  induction ps generalizing v with
  | nil =>
      have hpass : e.Pass start [] v (.ok ()) v := .complete (by simp) (fun _ _ => ⟨rfl, rfl, rfl⟩) (by simp)
      exact ⟨.refl e start v, hpass, fun _ _ _ => id⟩
  | cons p ps ih =>
      refine (assures_prepare v).run_bind ?_ ?_
      · exact fun fault v₁ h => h.stops ps
      · exact fun _ v₁ h => (ih v₁).imp fun x v' h' => h.passes h'

theorem Pass.of_idles {ps : List String} {x : Except Error Unit} {v₂ : Inventory}
    (hbefore : e.Idles start v v₁) (h : e.Pass start ps v₁ x v₂) (hafter : e.Idles start v₂ v') :
    e.Pass start ps v x v' := by
  have huntouched : ∀ q, Untouched q v₁ v₂ → Untouched q v v' := fun q h =>
    ((hbefore.untouched q).trans h).trans (hafter.untouched q)
  cases h with
  | stopped fault hps hdone hrest =>
      exact .stopped fault hps (fun q hq => hafter.adds.stocked (hdone q hq))
        fun q hq hne => huntouched q (hrest q hq hne)
  | complete hall hothers hseeded =>
      refine .complete (fun q hq => hafter.adds.stocked (hall q hq))
        (fun q hq => huntouched q (hothers q hq)) fun hstart q hq hfresh => ?_
      rw [← (hbefore.untouched q).checkpoint] at hfresh
      exact (hafter.untouched q).seeded.2 (hseeded hstart q hq hfresh)

/-! ## Bootstrap -/

inductive Bootstrapped (e : Equipment) (start : Position) (cancel : Cancellation) (v : Inventory) :
    Except Error (List String) → Inventory → Prop where
  /-- The stores could not be set up, or the hub is not known. -/
  | unlisted {v' : Inventory} (fault : Error) (h : ∀ q, Untouched q v v') :
      Bootstrapped e start cancel v (.error fault) v'
  /-- The answer is what the hub lists, unless the pass was stopped. -/
  | listed {v' : Inventory} {hub : Hub} {x : Except Error Unit}
      (hhub : ⟨.hub cancel, .ok hub⟩ ∈ v'.past) (hpass : e.Pass start hub.partitions v x v') :
      Bootstrapped e start cancel v (x.map fun _ => hub.partitions) v'

theorem assures_bootstrap (owner : String) (v : Inventory) :
    (bootstrap owner start cancel).run.Assures (I := Surroundings) e.Supplies
      (fun x v' => e.Adds start v v' ∧ e.Bootstrapped start cancel v x v') v := by
  have hlease : (Host.lease cancel .ensureStore).run.Assures (I := Surroundings) e.Supplies
      (fun _ v₁ => e.Idles start v v₁) v :=
    fun _ _ h => idles_of_same h.1 h.2 fun _ => rfl
  refine hlease.run_bind ?_ ?_
  · exact fun fault v₁ h => ⟨h.adds, .unlisted fault h.untouched⟩
  intro _ v₁ hfirst
  have hcheckpoint : (Host.checkpoint cancel .ensureStore).run.Assures (I := Surroundings) e.Supplies
      (fun _ v₂ => e.Idles start v v₂) v₁ :=
    fun _ _ h => hfirst.trans (idles_of_same h.1 h.2 fun _ => rfl)
  refine hcheckpoint.run_bind ?_ ?_
  · exact fun fault v₂ h => ⟨h.adds, .unlisted fault h.untouched⟩
  intro _ v₂ hsecond
  have hhub : (Host.hub cancel).run.Assures (I := Surroundings) e.Supplies
      (fun x v₃ => e.Idles start v v₃ ∧ ⟨.hub cancel, x⟩ ∈ v₃.past) v₂ :=
    fun _ _ h => ⟨hsecond.trans (idles_of_same h.1 h.2 fun _ => rfl), h.2 ▸ List.mem_cons_self⟩
  refine hhub.run_bind ?_ ?_
  · exact fun fault v₃ h => ⟨h.1.adds, .unlisted fault h.1.untouched⟩
  rintro hub v₃ ⟨hbefore, hhub⟩
  have hlisted {x : Except Error Unit} {v₄ v' : Inventory} (h : e.Passes start hub.partitions v₃ x v₄)
      (hafter : e.Idles start v₄ v') : e.Adds start v v' ∧
        e.Bootstrapped start cancel v (x.map fun _ => hub.partitions) v' := by
    have hadds := h.adds.trans hafter.adds
    exact ⟨hbefore.adds.trans hadds, .listed (hadds.past.subset hhub) (h.pass.of_idles hbefore hafter)⟩
  refine (assures_prepareAll hub.partitions v₃).run_bind ?_ ?_
  · exact fun fault v₄ h => hlisted h (.refl e start v₄)
  · exact fun _ v₄ h _ v' hnote => hlisted h (idles_of_same hnote.1 hnote.2 fun _ => rfl)

/--
A host bootstraps while nobody else writes to its stores, each of which may be a register or a bucket with
anything in it, and whatever fails: no lease that there was is changed, nor a checkpoint that is not the start
of the stream, and new records are fresh (`Adds`). If the hub is not known, nothing is changed. Otherwise the
host gets through the partitions in their order, as often as they are listed, until it stops at one of them or
has prepared all of them, and if it is to start at the latest position, has moved those that were not processed
there (`Pass`). No other partition is touched.
-/
theorem bootstrap_only_adds {c : Cluster} {x : Except Error (List String)} {s' : Course}
    (h : (bootstrap e.me.owner start cancel).run.Ends (I := Surroundings) (e.Continues Cluster.Drifts)
      ⟨c, []⟩ x s') :
    e.Adds start (e.inventory ⟨c, []⟩) (e.inventory s') ∧
      e.Bootstrapped start cancel (e.inventory ⟨c, []⟩) x (e.inventory s') :=
  Task.assures_iff.1 (assures_bootstrap e.me.owner _) x _
    (supplies_of_ends (asks_bootstrap e.me.owner start) h)

end Equipment

/--
Host b holds partition 0, partition 1 was processed, and nobody can read the checkpoint of partition 2. The hub
lists partition 0 twice.
-/
def Cluster.ofUnreadable : Cluster where
  leases := { server := some {
    name := "leases"
    bucket := ({ created := true } : Bucket).write "0" (encode (⟨"0", "b", .latest, 4⟩ : Lease)) } }
  checkpoints := { server := some {
    name := "checkpoints"
    bucket := (({ created := true } : Bucket).write "1"
      (encode (⟨"1", 7, "70", .epoch⟩ : Checkpoint))).write "2" [] } }
  members :=
    let hub : Hub := ⟨"orders", .epoch, 5, ["0", "1", "0", "2", "3"]⟩
    .ofList [("a", { node := { snapshot := .ofParts hub [⟨"orders", "0", 0, 100, "10000", .epoch⟩] } })]

namespace Equipment

/-- Host a sees to partitions 0 and 1, and stops at partition 2. -/
theorem bootstrap_only_adds_ofUnreadable :
    let e := Fleet.pair .bucket false
    let s : Course := ⟨.ofUnreadable, []⟩
    let v := e.inventory s
    ∃ fault s', (bootstrap "a" .latest .never).run.Ends (I := Surroundings) (e.Continues Cluster.Drifts)
        s (.error fault) s' ∧
      let v' := e.inventory s'
      e.Adds .latest v v' ∧ e.Bootstrapped .latest .never v (.error fault) v' ∧
      v'.leases "0" = v.leases "0" ∧ v'.leases "1" = some (.of .bucket (.unowned "1")) ∧
      v'.checkpoints "0" = some (.of .bucket ⟨"0", 100, "10000", .epoch⟩) ∧
      v'.checkpoints "1" = v.checkpoints "1" ∧ v'.leases "3" = none ∧ v'.checkpoints "3" = none := by
  intro e s v
  have hend := (e.ends_follow (bootstrap "a" .latest .never).run s).mono
    fun _ _ _ _ h => h.mono fun _ _ hcalm => hcalm.rests.1
  have hfault : (e.follow (bootstrap "a" .latest .never).run s).1.isOk = false := by decide +kernel
  generalize hx : (e.follow (bootstrap "a" .latest .never).run s).1 = x at hend hfault
  cases x with
  | ok ps => cases hfault
  | error fault =>
      obtain ⟨hadds, hbootstrapped⟩ := bootstrap_only_adds (e := e) hend
      refine ⟨fault, _, hend, hadds, hbootstrapped, ?_⟩
      decide +kernel

end Equipment

end PartitionHost
