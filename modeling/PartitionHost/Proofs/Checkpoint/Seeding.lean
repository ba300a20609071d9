import PartitionHost.Proofs.Checkpoint.Discipline
import PartitionHost.Proofs.Interleaving.History
import PartitionHost.Proofs.Interleaving.Schedule
import PartitionHost.Proofs.RecordText

/-!
# What the seeding of a partition replaces

A bootstrap that is to start at the latest position looks at the checkpoint of a partition, and if that is
the start of the stream it asks the management node for the latest position and puts it there. Between the
look and the write others may record progress. The bootstrap replaces a start of the stream if, and only
if, nothing else was recorded last since its look (`replaces_start_iff`); progress that comes in between is
lost (`lateSeed`).
-/

namespace PartitionHost

open Record Cluster

/-! ## Looks and moves -/

namespace Exchange

/-- The checkpoint of a partition was seen to be the start of the stream, or put there as such. -/
def ShowsStart (kind : Site.StoreKind) (p : String) (x : Exchange Site) : Prop :=
  match kind with
  | .register =>
    ∃ c : Checkpoint, x = ⟨.checkpointTable (.ensure p), .ok c⟩ ∧ c.isStartOfStream = true
  | .bucket =>
    (∃ (e : Entry) (c : Checkpoint), x.Read .checkpoints p e ∧ decode? e.value = some c ∧
      c.isStartOfStream = true) ∨ x.Created .checkpoints p (encode (Checkpoint.startOfStream p))

def Moved (kind : Site.StoreKind) (p : String) (position : Checkpoint) (x : Exchange Site) : Prop :=
  match kind with
  | .register => x = ⟨.checkpointTable (.update p position), .ok ()⟩
  | .bucket => x.Updated .checkpoints p (encode (position.forPartition p))

end Exchange

namespace Checkpoint

def Looked (kind : Site.StoreKind) (p : String) (past : List (Exchange Site)) : Prop :=
  ∃ x ∈ past, x.ShowsStart kind p

theorem Looked.cons {kind : Site.StoreKind} {p : String} {past : List (Exchange Site)}
    (x : Exchange Site) (h : Looked kind p past) : Looked kind p (x :: past) := by
  obtain ⟨y, hy, hstart⟩ := h
  exact ⟨y, List.mem_cons_of_mem _ hy, hstart⟩

/-- A position is put over another one only after a look at the start of the stream. -/
def Seeded (kind : Site.StoreKind) (past : List (Exchange Site)) : Site.Request → Prop
  | .checkpointBucket _ (.update p _ _) | .checkpointTable (.update p _) => Looked kind p past
  | _ => True

variable {kind : Site.StoreKind}

theorem seeded_of_allowed {uses : Operation → Prop} {past : List (Exchange Site)} {r : Site.Request}
    (h : Allowed uses r) (hlook : ∀ p position, uses (.update p position) → Looked kind p past) :
    Seeded kind past r := by
  cases r with
  | checkpointBucket cancel c =>
      cases c with
      | update p value revision =>
          obtain ⟨position, huses, -⟩ := h
          exact hlook p position huses
      | _ => trivial
  | checkpointTable op =>
      cases op with
      | update p position => exact hlook p position h
      | _ => trivial
  | _ => trivial

theorem seeded_of_not {past : List (Exchange Site)} {r : Site.Request} (h : ¬ r.IsOfCheckpoints) :
    Seeded kind past r := by
  have hallowed : Allowed (fun _ => False) r := allowed_of_not h
  exact seeded_of_allowed hallowed fun _ _ => False.elim

theorem Bucketed.along_ensure {cancel : Cancellation} (p : String) (attempts : Nat)
    (past : List (Exchange Site)) :
    ((Bucket.Client.ensure p (startOfStream p) attempts).run.serve (client cancel)).Along
      (Seeded .bucket)
      (fun x past => ∀ c, x = .ok c → c.isStartOfStream = true → Looked .bucket p past) past := by
  induction attempts generalizing past with
  | zero => rintro c ⟨⟩
  | succ attempts ih =>
      rw [Bucket.Client.run_ensure_succ, serve_client_call]
      refine ⟨trivial, ?_⟩
      rintro (e | _ | e)
      · rintro c ⟨⟩
      · refine ⟨trivial, ?_⟩
        rintro (e | _ | n)
        · rintro c ⟨⟩
        · exact ih _
        · rintro c ⟨⟩ -
          exact ⟨_, List.mem_cons_self, .inr ⟨n, rfl⟩⟩
      · simp only
        cases hc : (decode? e.value : Option Checkpoint) with
        | none =>
            simp only
            rintro c ⟨⟩
        | some c =>
            simp only
            rintro _ ⟨⟩ hstart
            exact ⟨_, List.mem_cons_self, .inl ⟨e, c, rfl, hc, hstart⟩⟩

end Checkpoint

namespace Equipment

open Checkpoint (Allowed Looked Seeded seeded_of_allowed seeded_of_not)

variable (e : Equipment) {kind : Site.StoreKind}

theorem along_seeded_ensure (hkind : e.checkpoints = kind) (cancel : Cancellation) (p : String)
    (past : List (Exchange Site)) :
    (e.checkpoint cancel (.ensure p)).Along (Seeded kind)
      (fun x past => ∀ c, x = .ok c → c.isStartOfStream = true → Looked kind p past) past := by
  subst hkind
  unfold checkpoint
  cases e.checkpoints with
  | register =>
      refine ⟨trivial, ?_⟩
      rintro x c rfl hstart
      exact ⟨_, List.mem_cons_self, c, rfl, hstart⟩
  | bucket => exact Checkpoint.Bucketed.along_ensure p _ past

theorem along_seeded_prepare (hkind : e.checkpoints = kind) (start : Position) (cancel : Cancellation)
    (p : String) (past : List (Exchange Site)) :
    ((Host.prepare start cancel p).run.serve e.serve).Along (Seeded kind) (fun _ _ => True) past := by
  have hlease : ((Host.lease cancel (.ensure p)).run.serve e.serve).Along (Seeded kind)
      (fun _ _ => True) past := by
    rw [e.serve_lease]
    exact (e.asks_lease cancel (.ensure p)).along_of_forall (fun _ _ h => seeded_of_not h.1) past
  refine hlease.run_bind (fun _ _ _ => trivial) fun _ past _ => ?_
  have hensure := e.along_seeded_ensure hkind cancel p past
  rw [← e.serve_checkpoint] at hensure
  refine hensure.run_bind (fun _ _ _ => trivial) fun stored past hlook => ?_
  split
  · rename_i hseed
    have hasks : (Host.seedLatest cancel p).run.Asks
        (Host.Request.Within fun op => ∃ position, op = .update p position) := by
      refine Task.asks_run_bind (Host.asks_range trivial) fun range => ?_
      exact Task.asks_run_bind (Host.asks_checkpoint ⟨_, rfl⟩) fun _ => Host.asks_ask trivial
    refine ((hasks.serve e.asks_allowed_serve).along (hlook stored rfl hseed.2) (fun _ _ _ _ => .cons _)
      ?_).mono (fun _ _ => id) fun _ _ _ => trivial
    intro past r hpast hr
    refine seeded_of_allowed hr fun q position huses => ?_
    obtain ⟨position', hop⟩ := huses
    cases hop
    exact hpast
  · trivial

theorem along_seeded_prepareAll (hkind : e.checkpoints = kind) (start : Position)
    (cancel : Cancellation) (ps : List String) (past : List (Exchange Site)) :
    ((Host.prepareAll start cancel ps).run.serve e.serve).Along (Seeded kind) (fun _ _ => True)
      past := by
  induction ps generalizing past with
  | nil => trivial
  | cons p ps ih =>
      exact (e.along_seeded_prepare hkind start cancel p past).run_bind (fun _ _ _ => trivial)
        fun _ past _ => ih past

theorem along_seeded_bootstrap (hkind : e.checkpoints = kind) (start : Position)
    (cancel : Cancellation) :
    (e.task (.bootstrap start cancel)).Along (Seeded kind) (fun _ _ => True) [] := by
  have hother : ∀ {α : Type} {p : Host.Program α} {past : List (Exchange Site)},
      p.run.Asks (Host.Request.Within fun op => op = .ensureStore) →
      (p.run.serve e.serve).Along (Seeded kind) (fun _ _ => True) past := by
    intro α p past hp
    refine (hp.serve e.asks_allowed_serve).along_of_forall (fun past r hr => ?_) past
    exact seeded_of_allowed hr fun _ _ huses => nomatch huses
  refine (hother (Host.asks_lease trivial)).run_bind (fun _ _ _ => trivial) fun _ past _ => ?_
  refine (hother (Host.asks_checkpoint rfl)).run_bind (fun _ _ _ => trivial) fun _ past _ => ?_
  refine (hother (Host.asks_hub trivial)).run_bind (fun _ _ _ => trivial) fun hub past _ => ?_
  refine (e.along_seeded_prepareAll hkind start cancel hub.partitions past).run_bind
    (fun _ _ _ => trivial) fun _ past _ => ?_
  exact hother (Task.asks_run_bind (Host.asks_ask trivial) fun _ => trivial)

end Equipment

/-! ## The checkpoint that is stored -/

namespace Cluster

def checkpoint? (c : Cluster) (kind : Site.StoreKind) (p : String) : Option Checkpoint :=
  match kind with
  | .register => c.checkpoints.register.bind (·.get? p)
  | .bucket => ((c.bucket .checkpoints).value? p).bind decode?

def HasCheckpoint (c : Cluster) (kind : Site.StoreKind) (p : String) : Prop :=
  match kind with
  | .register => ∃ old, c.checkpoints.register.bind (·.get? p) = some old
  | .bucket => ∃ value, (c.bucket .checkpoints).value? p = some value

end Cluster

namespace Checkpoint

def readBack? (kind : Site.StoreKind) (c : Checkpoint) : Option Checkpoint :=
  match kind with
  | .register => some c
  | .bucket => decode? (encode c)

theorem isStartOfStream_iff {c : Checkpoint} :
    c.isStartOfStream = true ↔ c.sequenceNumber = 0 ∧ c.offset = "" := by
  simp [isStartOfStream]

theorem readBack?_isStart (kind : Site.StoreKind) (position : Checkpoint) (p : String) :
    (∃ c, readBack? kind (position.forPartition p) = some c ∧ c.isStartOfStream = true) ↔
      position.isStartOfStream = true := by
  have hsame : (position.forPartition p).isStartOfStream = position.isStartOfStream := rfl
  cases kind with
  | register => simp [readBack?, hsame]
  | bucket =>
      rw [readBack?, decode?_encode]
      constructor
      · rintro ⟨c, hc, hstart⟩
        split at hc
        · cases hc
          exact hstart
        · cases hc
      · intro hstart
        obtain ⟨hzero, -⟩ := isStartOfStream_iff.1 hstart
        exact ⟨_, if_pos (by simp [forPartition, hzero]), hstart⟩

end Checkpoint

namespace Checkpoint.Register

variable {r : Register Checkpoint} {p : String}

theorem get?_of_update {position : Checkpoint} (h : (perform r (.update p position)).1 = .ok ()) :
    (perform r (.update p position)).2.bind (·.get? p) = some (position.forPartition p) := by
  cases r with
  | none => cases h
  | some t =>
      simp only [perform, PartitionHost.Register.withTable] at h ⊢
      split at h
      · rename_i hthere
        simp [hthere]
      · cases h

theorem update_eq_ok {old : Checkpoint} (hold : r.bind (·.get? p) = some old) (position : Checkpoint) :
    (perform r (.update p position)).1 = .ok () := by
  cases r with
  | none => cases hold
  | some t =>
      have hthere : t.contains p = true := by
        change t.get? p = some old at hold
        rw [Table.contains, hold]
        rfl
      simp [perform, PartitionHost.Register.withTable, hthere]

theorem get?_of_ensure {c : Checkpoint} (h : (perform r (.ensure p)).1 = .ok c) :
    (perform r (.ensure p)).2.bind (·.get? p) = some c := by
  cases r with
  | none => cases h
  | some t =>
      simp only [perform, PartitionHost.Register.withTable, PartitionHost.Register.ensure] at h ⊢
      cases hp : t.get? p with
      | some a =>
          simp only [hp] at h ⊢
          cases h
          exact hp
      | none =>
          simp only [hp] at h ⊢
          cases h
          simp

theorem get?_of_not_update {old : Checkpoint} (hold : r.bind (·.get? p) = some old) {op : Operation}
    (hupdate : ∀ position, op ≠ .update p position) (hdelete : op ≠ .delete p)
    (hdrop : op ≠ .deleteStore) : (perform r op).2.bind (·.get? p) = some old := by
  cases r with
  | none => cases hold
  | some t =>
      change t.get? p = some old at hold
      cases op with
      | storeExists => exact hold
      | ensureStore => exact hold
      | deleteStore => exact absurd rfl hdrop
      | get q => exact hold
      | ensure q =>
          simp only [perform, PartitionHost.Register.withTable, PartitionHost.Register.ensure]
          cases hq : t.get? q with
          | some a => exact hold
          | none =>
              have hne : p ≠ q := by
                rintro rfl
                cases hq.symm.trans hold
              simpa [hne] using hold
      | update q position =>
          have hne : p ≠ q := by
            rintro rfl
            exact hupdate position rfl
          simp only [perform, PartitionHost.Register.withTable]
          split
          · simpa [hne] using hold
          · exact hold
      | delete q =>
          have hne : p ≠ q := by
            rintro rfl
            exact hdelete rfl
          simpa [perform, PartitionHost.Register.withTable, hne] using hold

end Checkpoint.Register

namespace Cluster

open Checkpoint (Allowed readBack?)

variable {host p : String} {c c' : Cluster} {r : Site.Request} {x : r.Answer} {kind : Site.StoreKind}

theorem Answers.checkpoint?_of_moved (hx : Answers host c r x c') {position : Checkpoint}
    (hmoved : (Exchange.mk (I := Site) r x).Moved kind p position) :
    c'.HasCheckpoint kind p ∧ c'.checkpoint? kind p = readBack? kind (position.forPartition p) := by
  cases kind with
  | register =>
      cases hmoved
      obtain rfl : c' = (c.checkpointTable (.update p position)).2 := congrArg Prod.snd hx
      have hok : .ok () = (c.checkpointTable (.update p position)).1 := congrArg Prod.fst hx
      have hstored := Checkpoint.Register.get?_of_update hok.symm
      exact ⟨⟨_, hstored⟩, hstored⟩
  | bucket =>
      have hvalue := hx.value?_eq .checkpoints p
      rw [Exchange.Updated.outcome?_eq hmoved] at hvalue
      exact ⟨⟨_, hvalue⟩, by rw [checkpoint?, hvalue]; rfl⟩

theorem Answers.register_of_not_moved (hx : Answers host c r x c') {uses : Checkpoint.Operation → Prop}
    (hallowed : Allowed uses r) (hdelete : ¬ uses (.delete p)) (hdrop : ¬ uses .deleteStore)
    {old : Checkpoint} (hold : c.checkpoints.register.bind (·.get? p) = some old)
    (hnot : ∀ position, ¬ (Exchange.mk (I := Site) r x).Moved .register p position) :
    c'.checkpoints.register.bind (·.get? p) = some old := by
  by_cases htable : ∃ op, r = .checkpointTable op
  · obtain ⟨op, rfl⟩ := htable
    obtain rfl : c' = (c.checkpointTable op).2 := congrArg Prod.snd hx
    have hanswer : x = (c.checkpointTable op).1 := congrArg Prod.fst hx
    refine Checkpoint.Register.get?_of_not_update hold ?_ ?_ ?_
    · rintro position rfl
      have hok := Checkpoint.Register.update_eq_ok hold position
      exact hnot position (congrArg (Exchange.mk (I := Site) _) (hanswer.trans hok))
    · rintro rfl
      exact hdelete hallowed
    · rintro rfl
      exact hdrop hallowed
  · rw [hx.frame.checkpointRegister fun op hop => htable ⟨op, hop⟩]
    exact hold

theorem Answers.outcome?_of_not_moved (hx : Answers host c r x c') {uses : Checkpoint.Operation → Prop}
    (hallowed : Allowed uses r) (hdelete : ¬ uses (.delete p)) (hdrop : ¬ uses .deleteStore)
    {value : Bytes} (hold : (c.bucket .checkpoints).value? p = some value)
    (hnot : ∀ position, ¬ (Exchange.mk (I := Site) r x).Moved .bucket p position) :
    (Exchange.mk (I := Site) r x).outcome? .checkpoints p = none := by
  cases hput : (Exchange.mk (I := Site) r x).outcome? .checkpoints p with
  | none => rfl
  | some put =>
      exfalso
      cases put with
      | none =>
          rcases Exchange.deleted_or_dropped hput with hcall | hcall
          · obtain ⟨cancel, hexchange⟩ := Exchange.eq_of_call?_checkpoints hcall
            cases hexchange
            exact hdelete hallowed
          · obtain ⟨cancel, hexchange⟩ := Exchange.eq_of_call?_checkpoints hcall
            cases hexchange
            exact hdrop hallowed
      | some new =>
          rcases Exchange.updated_or_created hput with hupdated | ⟨n, hcreated⟩
          · obtain ⟨cancel, revision, hrequest⟩ := hupdated.request_eq
            cases hrequest
            obtain ⟨position, -, rfl⟩ := hallowed
            exact hnot position hupdated
          · have heffect := hx.effect .checkpoints
            rw [hcreated] at heffect
            rw [Bucket.value?, heffect.of_created.1] at hold
            cases hold

theorem Answers.checkpoint?_of_not_moved (hx : Answers host c r x c') {uses : Checkpoint.Operation → Prop}
    (hallowed : Allowed uses r) (hdelete : ¬ uses (.delete p)) (hdrop : ¬ uses .deleteStore)
    (hhas : c.HasCheckpoint kind p)
    (hnot : ∀ position, ¬ (Exchange.mk (I := Site) r x).Moved kind p position) :
    c'.HasCheckpoint kind p ∧ c'.checkpoint? kind p = c.checkpoint? kind p := by
  cases kind with
  | register =>
      obtain ⟨old, hold⟩ := hhas
      have hkept := hx.register_of_not_moved hallowed hdelete hdrop hold hnot
      exact ⟨⟨old, hkept⟩, hkept.trans hold.symm⟩
  | bucket =>
      obtain ⟨value, hold⟩ := hhas
      have hvalue := hx.value?_eq .checkpoints p
      rw [hx.outcome?_of_not_moved hallowed hdelete hdrop hold hnot, Option.getD_none] at hvalue
      exact ⟨⟨value, hvalue.trans hold⟩, by rw [checkpoint?, checkpoint?, hvalue]⟩

theorem Answers.isStart_of_shown (hx : Answers host c r x c')
    (hshown : (Exchange.mk (I := Site) r x).ShowsStart kind p) :
    c'.HasCheckpoint kind p ∧ ∃ stored, c'.checkpoint? kind p = some stored ∧
      stored.isStartOfStream = true := by
  cases kind with
  | register =>
      obtain ⟨stored, hexchange, hstart⟩ := hshown
      cases hexchange
      obtain rfl : c' = (c.checkpointTable (.ensure p)).2 := congrArg Prod.snd hx
      have hok : .ok stored = (c.checkpointTable (.ensure p)).1 := congrArg Prod.fst hx
      have hstored := Checkpoint.Register.get?_of_ensure hok.symm
      exact ⟨⟨stored, hstored⟩, stored, hstored, hstart⟩
  | bucket =>
      rcases hshown with ⟨e, stored, hread, hdecode, hstart⟩ | hcreated
      · have heffect := hx.effect .checkpoints
        rw [hread] at heffect
        obtain ⟨hentry, hsame⟩ := heffect.of_read
        obtain ⟨stamped, hfound, rfl⟩ := Option.map_eq_some_iff.1 hentry.symm
        have hvalue : (c'.bucket .checkpoints).value? p = some stamped.value := by
          rw [hsame, Bucket.value?, hfound]
          rfl
        exact ⟨⟨_, hvalue⟩, stored, by rw [checkpoint?, hvalue]; exact hdecode, hstart⟩
      · have hvalue := hx.value?_eq .checkpoints p
        rw [hcreated.outcome?_eq] at hvalue
        refine ⟨⟨_, hvalue⟩, Checkpoint.startOfStream p, ?_, rfl⟩
        rw [checkpoint?, hvalue]
        exact (Checkpoint.decode?_encode _).trans (if_pos (by simp [Checkpoint.startOfStream]))

theorem Drifts.hasCheckpoint (h : c.Drifts c') : c'.HasCheckpoint kind p ↔ c.HasCheckpoint kind p := by
  cases kind with
  | register => rw [HasCheckpoint, HasCheckpoint, h.checkpointRegister]
  | bucket => rw [HasCheckpoint, HasCheckpoint, h.bucket]

theorem Drifts.checkpoint?_eq (h : c.Drifts c') : c'.checkpoint? kind p = c.checkpoint? kind p := by
  cases kind with
  | register => rw [checkpoint?, checkpoint?, h.checkpointRegister]
  | bucket => rw [checkpoint?, checkpoint?, h.bucket]

end Cluster

/-! ## What came last -/

theorem Action.IsOfHost.not_uses {a : Action} (h : a.IsOfHost) (p : String) :
    ¬ a.UsesCheckpoint (.delete p) ∧ ¬ a.UsesCheckpoint .deleteStore := by
  cases a with
  | lease cancel op => cases h
  | checkpoint cancel op => cases h
  | _ => exact ⟨id, id⟩

variable {ι : Type}

/-- Of these events, the latest that put a position over the checkpoint of a partition put this one. -/
def LastMoved (kind : Site.StoreKind) (p : String) (position : Checkpoint) (events : List (Event ι)) :
    Prop :=
  ∃ newer ev older, events = newer ++ ev :: older ∧ ev.Moved kind p position ∧
    ∀ ev' ∈ newer, ∀ position', ¬ ev'.Moved kind p position'

namespace Checkpoint

variable {kind : Site.StoreKind} {p : String} {position : Checkpoint} {ev : Event ι}
  {events : List (Event ι)}

theorem lastMoved_nil : ¬ LastMoved kind p position ([] : List (Event ι)) := by
  rintro ⟨newer, ev, older, hevents, -⟩
  simp at hevents

theorem lastMoved_cons : LastMoved kind p position (ev :: events) ↔ ev.Moved kind p position ∨
    (∀ position', ¬ ev.Moved kind p position') ∧ LastMoved kind p position events := by
  constructor
  · rintro ⟨newer, ev', older, hevents, hmoved, hnone⟩
    cases newer with
    | nil =>
        obtain ⟨rfl, rfl⟩ := List.cons.inj hevents
        exact .inl hmoved
    | cons _ newer =>
        obtain ⟨rfl, rfl⟩ := List.cons.inj hevents
        obtain ⟨hfirst, hnone⟩ := List.forall_mem_cons.1 hnone
        exact .inr ⟨hfirst, newer, ev', older, rfl, hmoved, hnone⟩
  · rintro (hmoved | ⟨hfirst, newer, ev', older, rfl, hmoved, hnone⟩)
    · exact ⟨[], ev, events, rfl, hmoved, fun _ h => absurd h List.not_mem_nil⟩
    · exact ⟨ev :: newer, ev', older, rfl, hmoved, List.forall_mem_cons.2 ⟨hfirst, hnone⟩⟩

variable {fleet : Fleet ι} {init : Cluster} {w : World ι}

/--
In a world that began with the start of the stream, that is what is stored if, and only if, nothing else
was put there last.
-/
theorem isStart_iff (hw : w.Grows fleet init) (hhas : init.HasCheckpoint kind p)
    (hstart : ∃ c, init.checkpoint? kind p = some c ∧ c.isStartOfStream = true)
    (hhost : ∀ ev ∈ w.history, ev.action.IsOfHost ∧ Allowed ev.action.UsesCheckpoint ev.request) :
    w.cluster.HasCheckpoint kind p ∧
      ((∃ c, w.cluster.checkpoint? kind p = some c ∧ c.isStartOfStream = true) ↔
        ∀ position, LastMoved kind p position w.history → position.isStartOfStream = true) := by
  induction hw with
  | start => exact ⟨hhas, fun _ _ h => absurd h lastMoved_nil, fun _ => hstart⟩
  | drift hw hc ih =>
      rw [hc.hasCheckpoint, hc.checkpoint?_eq]
      exact ih hhost
  | @exchange w hw g r x c hx ih =>
      obtain ⟨⟨hact, hallowed⟩, hhost⟩ := List.forall_mem_cons.1 hhost
      obtain ⟨hthere, hiff⟩ := ih hhost
      change c.HasCheckpoint kind p ∧ ((∃ stored, c.checkpoint? kind p = some stored ∧ _) ↔
        ∀ position, LastMoved kind p position (⟨g, ⟨r, x⟩, w.cluster⟩ :: w.history) → _)
      simp only [lastMoved_cons]
      by_cases hmoved : ∃ position, (Exchange.mk (I := Site) r x).Moved kind p position
      · obtain ⟨position, hmoved⟩ := hmoved
        obtain ⟨hafter, hstored⟩ := hx.checkpoint?_of_moved hmoved
        refine ⟨hafter, ?_, ?_⟩
        · rintro hstart position' (hmoved' | ⟨hnone, -⟩)
          · rw [(hx.checkpoint?_of_moved hmoved').2, readBack?_isStart] at hstart
            exact hstart
          · exact absurd hmoved (hnone position)
        · intro hall
          rw [hstored, readBack?_isStart]
          exact hall position (.inl hmoved)
      · have hnone := not_exists.1 hmoved
        obtain ⟨hafter, hstored⟩ := hx.checkpoint?_of_not_moved hallowed (hact.not_uses p).1
          (hact.not_uses p).2 hthere hnone
        rw [hstored, hiff]
        refine ⟨hafter, ?_, ?_⟩
        · rintro hall position (hmoved' | ⟨-, hlast⟩)
          · exact absurd hmoved' (hnone position)
          · exact hall position hlast
        · intro hall position hlast
          exact hall position (.inr ⟨hnone, hlast⟩)

variable [DecidableEq ι] {s : State ι}

/-- A bootstrap moves a checkpoint only after it has seen the start of the stream there. -/
theorem exists_look (hkind : ∀ i, (fleet i).checkpoints = kind)
    (hs : Attainable fleet (fun _ => Action.IsOfHost) init s) {newer older : List (Event ι)}
    (hhistory : s.world.history = newer ++ ev :: older) {start : Position} {cancel : Cancellation}
    (haction : ev.action = .bootstrap start cancel) (hev : ev.Moved kind p position) :
    ∃ look ∈ older, look.number = ev.number ∧ look.ShowsStart kind p := by
  have htask : ∀ i a, a.IsOfHost → ((fleet i).task a).Along
      (fun past r => ∀ start cancel, a = .bootstrap start cancel → Seeded kind past r)
      (fun _ _ => True) [] := by
    intro i a _
    cases a with
    | bootstrap start cancel =>
        exact ((fleet i).along_seeded_bootstrap (hkind i) start cancel).mono
          (fun _ _ h _ _ _ => h) fun _ _ _ => trivial
    | _ => exact (Task.asks_true _).along_of_forall (fun _ _ _ _ _ h => nomatch h) []
  have hlaw : Lawful (fun _ a past r => ∀ start cancel, a = .bootstrap start cancel →
    Seeded kind past r) s.world.history := (hs.lawful htask).1
  rw [hhistory] at hlaw
  have hseeded := hlaw.of_append.1 start cancel haction
  have hlooked : Looked kind p (traceOf ev.number older) := by
    cases kind with
    | register =>
        rw [show ev.request = _ from congrArg Exchange.request hev] at hseeded
        exact hseeded
    | bucket =>
        obtain ⟨cancel', revision, hrequest⟩ := Exchange.Updated.request_eq hev
        rw [hrequest] at hseeded
        exact hseeded
  obtain ⟨x, hx, hshown⟩ := hlooked
  obtain ⟨look, hlook, hnumber, rfl⟩ := mem_traceOf.1 hx
  exact ⟨look, hlook, hnumber, hshown⟩

/--
For any hosts, in any order and with any failures: when a bootstrap moves a checkpoint it has looked at it
before, and it replaces the start of the stream if, and only if, nothing else was put there last since.
-/
theorem replaces_start_iff (hkind : ∀ i, (fleet i).checkpoints = kind)
    (hs : Reachable fleet (fun _ => Action.IsOfHost) init s) {newer older : List (Event ι)}
    (hhistory : s.world.history = newer ++ ev :: older) {start : Position} {cancel : Cancellation}
    (haction : ev.action = .bootstrap start cancel) (hev : ev.Moved kind p position) :
    ∃ since look rest, older = since ++ look :: rest ∧ look.number = ev.number ∧
      look.ShowsStart kind p ∧
      ((∃ c, ev.before.checkpoint? kind p = some c ∧ c.isStartOfStream = true) ↔
        ∀ position', LastMoved kind p position' since → position'.isStartOfStream = true) := by
  have hs := hs.attainable
  obtain ⟨look, hlook, hnumber, hshown⟩ := exists_look hkind hs hhistory haction hev
  obtain ⟨since, rest, rfl⟩ := List.append_of_mem hlook
  obtain ⟨-, c, hx, hsince⟩ := (hs.grows.before hhistory).1.before rfl
  obtain ⟨hhas, hstart⟩ := hx.isStart_of_shown hshown
  have hhost : ∀ ev' ∈ since, ev'.action.IsOfHost ∧ Allowed ev'.action.UsesCheckpoint ev'.request := by
    intro ev' hev'
    have hmem : ev' ∈ s.world.history := by simp [hhistory, hev']
    exact ⟨hs.may_of_mem hmem, hs.asked_of_mem (fun i a _ => (fleet i).asks_allowed a) hmem⟩
  exact ⟨since, look, rest, rfl, hnumber, hshown, (isStart_iff hsince hhas hstart hhost).2⟩

/-! ## A seed that comes late -/

/--
Host a bootstraps and waits for the latest position, after it has seen the start of the stream. Meanwhile
host b takes the partition and records progress.
-/
def lateSeed : State Bool :=
  play (.pair .bucket) .ofHub <| List.flatten
    [[.begin false (.bootstrap .latest .never)], .replicate 7 (.answer false),
      [.begin true (.scan .never)], .replicate 6 (.answer true),
      [.begin true (.recordProgress .never "0" ⟨"0", 42, "4200", .epoch⟩)], .replicate 4 (.answer true),
      .replicate 3 (.answer false)]

theorem reachable_lateSeed :
    Reachable (.pair .bucket) (fun _ => Action.IsOfHost) .ofHub lateSeed :=
  reachable_play (by simp [Cue.IsAllowed, Action.IsOfHost])

theorem lateSeed_moves : ∃ newer ev older, lateSeed.world.history = newer ++ ev :: older ∧
    ev.action = .bootstrap .latest .never ∧ ev.Moved .bucket "0" ⟨"0", 100, "10000", .epoch⟩ ∧
    ev.before.checkpoint? .bucket "0" = some ⟨"0", 42, "4200", .epoch⟩ := by
  have h : (lateSeed.world.history.drop 2).head?.any (fun ev => ev.who == false &&
      ev.outcome? .checkpoints "0" == some (some (encode (Checkpoint.mk "0" 100 "10000" .epoch))) &&
      (ev.before.bucket .checkpoints).value? "0" ==
        some (encode (Checkpoint.mk "0" 42 "4200" .epoch))) = true := by
    decide +kernel
  obtain ⟨ev, hev, hfacts⟩ := (Option.any_eq_true _ _).1 h
  simp only [Bool.and_eq_true, beq_iff_eq, and_assoc] at hfacts
  obtain ⟨hwho, hput, hvalue⟩ := hfacts
  obtain ⟨older, hdrop⟩ := List.head?_eq_some_iff.1 hev
  have hhistory : lateSeed.world.history = lateSeed.world.history.take 2 ++ ev :: older := by
    rw [← hdrop, List.take_append_drop]
  have hfirst : Reachable (.pair .bucket) (fun who a => who = false → a = .bootstrap .latest .never)
      .ofHub lateSeed := reachable_play (by simp [Cue.IsAllowed])
  have hmem : ev ∈ lateSeed.world.history := by
    rw [hhistory]
    simp
  refine ⟨_, ev, older, hhistory, hfirst.attainable.may_of_mem hmem hwho,
    hfirst.attainable.grows.updated_of_outcome hhistory hput hvalue, ?_⟩
  rw [Cluster.checkpoint?, hvalue]
  exact (decode?_encode _).trans (if_pos (by decide))

/-- The late seed puts the latest position over the progress of host b. -/
theorem lateSeed_overwrites : ∃ newer ev older, lateSeed.world.history = newer ++ ev :: older ∧
    ev.action = .bootstrap .latest .never ∧ ev.Moved .bucket "0" ⟨"0", 100, "10000", .epoch⟩ ∧
    ∃ c, ev.before.checkpoint? .bucket "0" = some c ∧ c.isStartOfStream = false := by
  obtain ⟨newer, ev, older, hhistory, haction, hmoved, hold⟩ := lateSeed_moves
  exact ⟨newer, ev, older, hhistory, haction, hmoved, _, hold, by decide⟩

theorem replaces_start_iff_lateSeed : ∃ newer ev older since look rest,
    lateSeed.world.history = newer ++ ev :: older ∧ older = since ++ look :: rest ∧
      look.number = ev.number ∧ look.ShowsStart .bucket "0" ∧
      ((∃ c, ev.before.checkpoint? .bucket "0" = some c ∧ c.isStartOfStream = true) ↔
        ∀ position, LastMoved .bucket "0" position since → position.isStartOfStream = true) := by
  obtain ⟨newer, ev, older, hhistory, haction, hmoved, -⟩ := lateSeed_moves
  have hkind : ∀ who, (Fleet.pair .bucket who).checkpoints = .bucket := fun _ => rfl
  obtain ⟨since, look, rest, h⟩ := replaces_start_iff hkind reachable_lateSeed hhistory haction hmoved
  exact ⟨newer, ev, older, since, look, rest, hhistory, h⟩

end Checkpoint

end PartitionHost
