import PartitionHost.Proofs.Bucket.Alone
import PartitionHost.Proofs.Host.Departure
import PartitionHost.Proofs.Lease.Custody

/-!
# What is in the stores, of whichever kind they are

A register keeps records and a bucket keeps their texts. An inventory is what both stores of a host have under
each name, and what the host has asked so far. While nobody else writes, a bootstrap changes it in few ways
only, in registers and in buckets alike, and wherever a call fails (`Equipment.supplies_of_continues`).
-/

namespace PartitionHost

open Record

/-! ## Items -/

/-- What is stored under a name: a register keeps a record, a bucket its text. -/
inductive Item (α : Type) where
  | record (a : α)
  | text (bs : Bytes)
deriving DecidableEq

namespace Item

variable {α : Type} [Record α]

def of (kind : Site.StoreKind) (a : α) : Item α :=
  match kind with
  | .register => .record a
  | .bucket => .text (encode a)

def read? : Item α → Option α
  | .record a => some a
  | .text bs => decode? bs

end Item

section Keys

variable {α β γ : Type} {read? : β → Option α} {read?' : γ → Option α} {p : String} {fresh : α}
  {text : β} {values values' : String → Option β}

theorem Ensured.map {x : Except Error α} (h : Ensured read? p fresh text values x values') {f : β → γ}
    (hread : ∀ v, read?' (f v) = read? v) :
    Ensured read?' p fresh (f text) (Option.map f ∘ values) x (Option.map f ∘ values') := by
  cases h with
  | failed fault => exact .failed fault
  | found hv ha => exact .found (by rw [Function.comp_apply, hv]; rfl) ((hread _).trans ha)
  | created hnone =>
      rw [Function.comp_update]
      exact .created (by rw [Function.comp_apply, hnone]; rfl)

theorem Replaced.map {x : Except Error Unit} (h : Replaced p text values x values') (f : β → γ) :
    Replaced p (f text) (Option.map f ∘ values) x (Option.map f ∘ values') := by
  cases h with
  | failed fault => exact .failed fault
  | replaced hv =>
      rw [Function.comp_update]
      exact .replaced (by rw [Function.comp_apply, hv]; rfl)

end Keys

/-! ## Registers -/

namespace Register

variable {α : Type}

/-- What a register has under each name; nothing as long as it is not set up. -/
def record? (r : Register α) (p : String) : Option α := r.bind (·.get? p)

theorem record?_setUp (r : Register α) : r.setUp.record? = r.record? := by
  cases r <;> rfl

theorem record?_insert (t : Table α) (p : String) (a : α) :
    record? (some (t.insert p a)) = Function.update (record? (some t)) p (some a) := by
  funext q
  simp [record?, Function.update_apply]

theorem ensured_of_withTable (r : Register α) (store p : String) (fresh : α) :
    let answer := r.withTable store fun t => (.ok (ensure t p fresh).1, (ensure t p fresh).2)
    Ensured some p fresh fresh r.record? answer.1 answer.2.record? := by
  cases r with
  | none => exact .failed _
  | some t =>
      simp only [withTable, ensure]
      cases h : t.get? p with
      | some a => exact .found h rfl
      | none =>
          rw [record?_insert]
          exact .created h

theorem replaced_of_perform (r : Register Checkpoint) (p : String) (position : Checkpoint) :
    let answer := Checkpoint.Register.perform r (.update p position)
    Replaced p (position.forPartition p) r.record? answer.1 answer.2.record? := by
  cases r with
  | none => exact .failed _
  | some t =>
      simp only [Checkpoint.Register.perform, withTable]
      cases h : t.contains p with
      | false => exact .failed _
      | true =>
          obtain ⟨old, hold⟩ := Table.contains_iff.1 h
          simp only [if_pos]
          rw [record?_insert]
          exact .replaced hold

end Register

/-! ## Inventories -/

abbrev Shelf (α : Type) := String → Option (Item α)

def Shelf.of {α : Type} (kind : Site.StoreKind) (r : Register α) (b : Bucket) : Shelf α :=
  match kind with
  | .register => Option.map .record ∘ r.record?
  | .bucket => Option.map .text ∘ b.value?

/-- What both stores have under each name, and what a host has asked of its surroundings, the latest first. -/
structure Inventory where
  leases : Shelf Lease
  checkpoints : Shelf Checkpoint
  past : List (Exchange Host.Surroundings)

namespace Equipment

open Cluster

def inventory (e : Equipment) (s : Course) : Inventory where
  leases := .of e.leases s.cluster.leases.register (s.cluster.bucket .leases)
  checkpoints := .of e.checkpoints s.cluster.checkpoints.register (s.cluster.bucket .checkpoints)
  past := s.past

/-- What the answer to a request of a bootstrap says about what is stored before and after it. -/
def Stocks (e : Equipment) : (r : Host.Request) → Inventory → r.Answer → Inventory → Prop
  | .lease _ (.ensure p), v, x, v' => v'.checkpoints = v.checkpoints ∧
      Ensured Item.read? p (.unowned p) (.of e.leases (.unowned p)) v.leases x v'.leases
  | .checkpoint _ (.ensure p), v, x, v' => v'.leases = v.leases ∧
      Ensured Item.read? p (.startOfStream p) (.of e.checkpoints (.startOfStream p)) v.checkpoints x
        v'.checkpoints
  | .checkpoint _ (.update p position), v, x, v' => v'.leases = v.leases ∧
      Replaced p (.of e.checkpoints (position.forPartition p)) v.checkpoints x v'.checkpoints
  | _, v, _, v' => v'.leases = v.leases ∧ v'.checkpoints = v.checkpoints

/-- How a request of a bootstrap may be answered, and what there is after that. -/
def Supplies (e : Equipment) (r : Host.Request) (v : Inventory) (x : r.Answer) (v' : Inventory) : Prop :=
  e.Stocks r v x v' ∧ v'.past = ⟨r, x⟩ :: v.past

end Equipment

/-! ## Requests one by one -/

namespace Cluster

variable {c c' : Cluster} {host : String}

theorem Answers.besides_of_idle {r : Site.Request} {x : r.Answer} (h : Answers host c r x c')
    (hr : r.IsIdle) (store : StoreName) : c.Besides store c' := by
  obtain ⟨hleases, hcheckpoints, hbeliefs⟩ := hr
  refine ⟨fun other _ => ?_, ?_, ?_, fun member => ?_⟩
  · have heffect := h.effect other
    cases r with
    | leaseBucket | leaseTable => exact absurd trivial hleases
    | checkpointBucket | checkpointTable => exact absurd trivial hcheckpoints
    | _ => cases other <;> exact heffect
  · refine Lease.register_eq_of_not h ?_
    rintro me op rfl
    exact hleases trivial
  · refine h.frame.checkpointRegister ?_
    rintro op rfl
    exact hcheckpoints trivial
  · by_cases hne : member = host
    · subst hne
      rw [h.frame.owned, Site.Request.beliefs_of_not hbeliefs]
    · exact h.frame.owned_of_ne member hne

theorem bucket_eq_of_besides (h : ∀ store, c.Besides store c') (store : StoreName) :
    c'.bucket store = c.bucket store := by
  cases store with
  | leases => exact (h .checkpoints).other .leases (by decide)
  | checkpoints => exact (h .leases).other .checkpoints (by decide)

theorem besides_of_idle {α : Type} {t : Task Site α} (ht : t.Asks Site.Request.IsIdle) (c : Cluster) :
    t.Assures (Amid Drifts host) (fun _ c' => ∀ store, c.Besides store c') c := by
  refine ht.assures ?_ (.refl · c)
  rintro r c₁ x c₂ hr ⟨c₃, hdrifts, hx⟩ hbesides store
  exact ((hbesides store).trans (hdrifts.besides store)).trans (hx.besides_of_idle hr store)

theorem besides_of_note (n : Option Note) {α : Type} (x : α) (c : Cluster) :
    ((Site.noteIfAny n).bind fun _ => .done x).Assures (Amid Drifts host)
      (fun y c' => y = x ∧ ∀ store, c.Besides store c') c := by
  rw [Task.assures_bind]
  refine (besides_of_idle (Site.asks_noteIfAny (fun _ => ?_) n) c).imp fun _ c' h => ⟨rfl, h⟩
  exact ⟨id, id, id⟩

end Cluster

namespace Equipment

open Cluster Bucket.Client

variable {e : Equipment} {c c' : Cluster} {s s' : Course} {cancel : Cancellation} {p : String}

theorem assures_lease_table (hleases : e.leases = .register) (cancel : Cancellation)
    (op : Lease.Operation) :
    (e.lease cancel op).Assures (Amid Drifts e.me.owner) (fun x c' => (∃ now,
      (x, c'.leases.register) = Lease.Register.perform e.me now c.leases.register op) ∧
      c'.checkpoints.register = c.checkpoints.register ∧ ∀ store, c'.bucket store = c.bucket store) c := by
  rw [lease, hleases]
  rintro x c₂ ⟨c₁, hdrifts, hx⟩
  cases hx
  refine (besides_of_note _ _ _).imp ?_
  rintro _ c' ⟨rfl, hbesides⟩
  refine ⟨⟨c₁.now, ?_⟩, ?_, fun store => ?_⟩
  · rw [(hbesides .leases).leaseRegister, ← hdrifts.leaseRegister]
    rfl
  · rw [(hbesides .leases).checkpointRegister, ← hdrifts.checkpointRegister]
  · rw [bucket_eq_of_besides hbesides, ← hdrifts.bucket]
    cases store <;> rfl

theorem assures_checkpoint_table (hcheckpoints : e.checkpoints = .register) (cancel : Cancellation)
    (op : Checkpoint.Operation) :
    (e.checkpoint cancel op).Assures (Amid Drifts e.me.owner) (fun x c' =>
      (x, c'.checkpoints.register) = Checkpoint.Register.perform c.checkpoints.register op ∧
      c'.leases.register = c.leases.register ∧ ∀ store, c'.bucket store = c.bucket store) c := by
  rw [checkpoint, hcheckpoints]
  rintro x c₂ ⟨c₁, hdrifts, hx⟩
  cases hx
  refine (besides_of_note _ _ _).imp ?_
  rintro _ c' ⟨rfl, hbesides⟩
  refine ⟨?_, ?_, fun store => ?_⟩
  · rw [(hbesides .leases).checkpointRegister, ← hdrifts.checkpointRegister]
    rfl
  · rw [(hbesides .leases).leaseRegister, ← hdrifts.leaseRegister]
  · rw [bucket_eq_of_besides hbesides, ← hdrifts.bucket]
    cases store <;> rfl

/-- What an operation on leases comes to in a register and in a bucket, it comes to on the shelf. -/
theorem leases_of_continues {op : Lease.Operation} {x : Except Error op.Reply}
    (post : Shelf Lease → Except Error op.Reply → Shelf Lease → Prop)
    (h : e.Continues Drifts (.lease cancel op) s x s')
    (hregister : e.leases = .register → ∀ now r, post (.of .register r {})
      (Lease.Register.perform e.me now r op).1 (.of .register (Lease.Register.perform e.me now r op).2 {}))
    (hbucket : e.leases = .bucket → ∀ b, (Lease.Bucketed.perform e.me op).run.Assures (I := Bucket.Client)
      (Alone fun _ => True) (fun x b' => post (.of .bucket none b) x (.of .bucket none b')) b) :
    (e.inventory s').checkpoints = (e.inventory s).checkpoints ∧
      post (e.inventory s).leases x (e.inventory s').leases := by
  cases hleases : e.leases with
  | register =>
      obtain ⟨⟨now, hx⟩, hcheckpoints, hbuckets⟩ :=
        h.of_assures (assures_lease_table hleases cancel op)
      obtain ⟨rfl, hafter⟩ := Prod.ext_iff.1 hx
      simp only [inventory, hleases, hcheckpoints, hbuckets]
      refine ⟨trivial, ?_⟩
      rw [show s'.cluster.leases.register = _ from hafter]
      exact hregister hleases now s.cluster.leases.register
  | bucket =>
      obtain ⟨hpost, hbesides, -⟩ := h.of_assures (assures_lease_alone (fun _ => True) hleases
        e.me.owner cancel (fun _ _ hdrifts => ⟨hdrifts, id⟩) trivial (hbucket hleases _))
      simp only [inventory, hleases, hbesides.checkpointRegister, hbesides.other .checkpoints (by decide)]
      exact ⟨trivial, hpost⟩

theorem checkpoints_of_continues {op : Checkpoint.Operation} {x : Except Error op.Reply}
    (post : Shelf Checkpoint → Except Error op.Reply → Shelf Checkpoint → Prop)
    (h : e.Continues Drifts (.checkpoint cancel op) s x s')
    (hregister : e.checkpoints = .register → ∀ r, post (.of .register r {})
      (Checkpoint.Register.perform r op).1 (.of .register (Checkpoint.Register.perform r op).2 {}))
    (hbucket : e.checkpoints = .bucket → ∀ b, (Checkpoint.Bucketed.perform op).run.Assures
      (I := Bucket.Client) (Alone fun _ => True)
      (fun x b' => post (.of .bucket none b) x (.of .bucket none b')) b) :
    (e.inventory s').leases = (e.inventory s).leases ∧
      post (e.inventory s).checkpoints x (e.inventory s').checkpoints := by
  cases hcheckpoints : e.checkpoints with
  | register =>
      obtain ⟨hx, hleases, hbuckets⟩ :=
        h.of_assures (assures_checkpoint_table hcheckpoints cancel op)
      obtain ⟨rfl, hafter⟩ := Prod.ext_iff.1 hx
      simp only [inventory, hcheckpoints, hleases, hbuckets]
      refine ⟨trivial, ?_⟩
      rw [show s'.cluster.checkpoints.register = _ from hafter]
      exact hregister hcheckpoints s.cluster.checkpoints.register
  | bucket =>
      obtain ⟨hpost, hbesides, -⟩ := h.of_assures (assures_checkpoint_alone (fun _ => True)
        hcheckpoints e.me.owner cancel (fun _ _ hdrifts => ⟨hdrifts, id⟩) trivial (hbucket hcheckpoints _))
      simp only [inventory, hcheckpoints, hbesides.leaseRegister, hbesides.other .leases (by decide)]
      exact ⟨trivial, hpost⟩

theorem assures_setUp (b : Bucket) :
    (call .ensure).run.Assures (I := Bucket.Client) (Alone fun _ => True)
      (fun _ b' => b'.value? = b.value?) b := by
  intro x b' h
  exact h.value?_eq_of_failed id

theorem supplies_of_continues {start : Position} {cancel : Cancellation} {r : Host.Request} {x : r.Answer}
    (hr : (Action.bootstrap start cancel).Uses r) (h : e.Continues Drifts r s x s') :
    e.Supplies r (e.inventory s) x (e.inventory s') := by
  refine ⟨?_, h.2⟩
  have hidle (hasks : (e.serve r).Asks Site.Request.IsIdle) :
      (e.inventory s').leases = (e.inventory s).leases ∧
        (e.inventory s').checkpoints = (e.inventory s).checkpoints := by
    have hbesides := h.of_assures (besides_of_idle hasks s.cluster)
    simp only [inventory, bucket_eq_of_besides hbesides, (hbesides .leases).leaseRegister,
      (hbesides .leases).checkpointRegister]
    exact ⟨trivial, trivial⟩
  cases r with
  | lease cancel op =>
      cases op with
      | ensureStore =>
          refine (leases_of_continues (fun v _ v' => v' = v) h (fun _ _ r => ?_) fun _ b => ?_).symm
          · exact congrArg (Option.map Item.record ∘ ·) r.record?_setUp
          · exact (assures_setUp b).imp fun _ b' hb => congrArg (Option.map Item.text ∘ ·) hb
      | ensure p =>
          refine leases_of_continues _ h (fun hleases _ r => ?_) fun hleases b => ?_
          · rw [hleases]
            exact (r.ensured_of_withTable _ p (Lease.unowned p)).map fun _ => rfl
          · rw [hleases]
            exact (assures_ensure_alone _ (Lease.unowned p) p _ b).imp fun _ _ hb => hb.map fun _ => rfl
      | _ => cases hr
  | checkpoint cancel op =>
      cases op with
      | ensureStore =>
          refine checkpoints_of_continues (fun v _ v' => v' = v) h (fun _ r => ?_) fun _ b => ?_
          · exact congrArg (Option.map Item.record ∘ ·) r.record?_setUp
          · exact (assures_setUp b).imp fun _ b' hb => congrArg (Option.map Item.text ∘ ·) hb
      | ensure p =>
          refine checkpoints_of_continues _ h (fun hcheckpoints r => ?_) fun hcheckpoints b => ?_
          · rw [hcheckpoints]
            exact (r.ensured_of_withTable _ p (Checkpoint.startOfStream p)).map fun _ => rfl
          · rw [hcheckpoints]
            exact (assures_ensure_alone _ (Checkpoint.startOfStream p) p _ b).imp
              fun _ _ hb => hb.map fun _ => rfl
      | update p position =>
          refine checkpoints_of_continues _ h (fun hcheckpoints r => ?_) fun hcheckpoints b => ?_
          · rw [hcheckpoints]
            exact (r.replaced_of_perform p position).map _
          · rw [hcheckpoints]
            exact (assures_replace _ _ p _ b).imp fun _ _ hb => hb.map _
      | _ => cases hr
  | hub cancel => exact hidle (Site.asks_enquire _ _ _)
  | range cancel p => exact hidle (Site.asks_enquire _ _ _)
  | own | disown => cases hr
  | _ => exact hidle ⟨⟨id, id, id⟩, fun _ => trivial⟩

theorem supplies_of_ends {start : Position} {cancel : Cancellation} {α : Type}
    {t : Task Host.Surroundings α} {a : α} (ht : t.Asks (Action.bootstrap start cancel).Uses)
    (h : t.Ends (e.Continues Drifts) s a s') : t.Ends e.Supplies (e.inventory s) a (e.inventory s') := by
  induction h with
  | done a s => exact .done a _
  | ask hx _ ih => exact .ask (supplies_of_continues ht.1 hx) (ih (ht.2 _))

end Equipment

end PartitionHost
