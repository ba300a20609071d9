import PartitionHost.Proofs.Interleaving.World

/-!
# What calls do to a bucket

`Bucket.Effect` says once what a call can do to a bucket and what it is answered then; a call that fails
does nothing. `Bucket.Evolves` is what all calls have in common: the revision does not go back, and an entry
that was not there has a later revision than the bucket had. So an entry that is found at the revision at
which it was read is the entry that was read (`Evolves.eq_of_revision_eq`), whatever was deleted and put
back meanwhile.
-/

namespace PartitionHost

namespace Bucket

/-! ## Evolution -/

/-- No entry is of a revision that is still to come. -/
def Sound (b : Bucket) : Prop := ∀ key s, b.entries.get? key = some s → s.revision ≤ b.revision

theorem sound_of_empty {b : Bucket} (h : b.entries = .empty) : b.Sound := by
  intro key s hs
  rw [h] at hs
  cases hs

/-- What the first bucket may have become by calls. -/
structure Evolves (b b' : Bucket) : Prop where
  revision_le : b.revision ≤ b'.revision
  entry : ∀ key s, b'.entries.get? key = some s →
    b.entries.get? key = some s ∨ b.revision < s.revision
  sound : b.Sound → b'.Sound

theorem Evolves.refl (b : Bucket) : b.Evolves b := ⟨Nat.le_refl _, fun _ _ => .inl, id⟩

theorem Evolves.trans {b b' b'' : Bucket} (h : b.Evolves b') (h' : b'.Evolves b'') : b.Evolves b'' where
  revision_le := Nat.le_trans h.revision_le h'.revision_le
  entry key s hs := by
    rcases h'.entry key s hs with hs | hs
    · exact h.entry key s hs
    · exact .inr (Nat.lt_of_le_of_lt h.revision_le hs)
  sound hb := h'.sound (h.sound hb)

/-- An entry that is still of the revision at which it was read has not been written since. -/
theorem Evolves.eq_of_revision_eq {b b' : Bucket} (h : b.Evolves b') (hb : b.Sound) {key : String}
    {s s' : Stamped} (hs : b.entries.get? key = some s) (hs' : b'.entries.get? key = some s')
    (heq : s'.revision = s.revision) : s' = s := by
  rcases h.entry key s' hs' with hold | hnew
  · rw [hs] at hold
    exact (Option.some.inj hold).symm
  · have := hb key s hs
    omega

theorem get?_write (b : Bucket) (key other : String) (value : Bytes) :
    (b.write key value).entries.get? other =
      if other = key then some ⟨value, b.revision + 1⟩ else b.entries.get? other :=
  Table.get?_insert ..

theorem get?_delete (b : Bucket) (key other : String) :
    (b.delete key).entries.get? other = if other = key then none else b.entries.get? other := by
  unfold delete
  split
  · exact Table.get?_erase ..
  · rename_i h
    split
    · rename_i heq
      rw [heq]
      simpa [Table.contains] using h
    · rfl

theorem evolves_write (b : Bucket) (key : String) (value : Bytes) : b.Evolves (b.write key value) where
  revision_le := Nat.le_succ _
  entry other s hs := by
    rw [get?_write] at hs
    split at hs
    · cases hs
      exact .inr (Nat.lt_succ_self _)
    · exact .inl hs
  sound hb other s hs := by
    rw [get?_write] at hs
    split at hs
    · cases hs
      exact Nat.le_refl _
    · exact Nat.le_succ_of_le (hb other s hs)

theorem evolves_of_subset {b b' : Bucket} (hle : b.revision ≤ b'.revision)
    (h : ∀ key s, b'.entries.get? key = some s → b.entries.get? key = some s) : b.Evolves b' :=
  ⟨hle, fun key s hs => .inl (h key s hs),
    fun hb key s hs => Nat.le_trans (hb key s (h key s hs)) hle⟩

theorem evolves_touch (b : Bucket) (key : String) : b.Evolves (b.touch key) := by
  unfold touch
  split
  · exact evolves_write b key _
  · exact evolves_of_subset (Nat.le_succ _) fun _ _ => id

theorem evolves_delete (b : Bucket) (key : String) : b.Evolves (b.delete key) := by
  refine evolves_of_subset ?_ ?_
  · unfold delete
    split
    · exact Nat.le_succ _
    · exact Nat.le_refl _
  · intro other s hs
    rw [get?_delete] at hs
    split at hs
    · cases hs
    · exact hs

/-! ## Effects -/

theorem value_touch (b : Bucket) (key other : String) :
    ((b.touch key).entries.get? other).map (·.value) = (b.entries.get? other).map (·.value) := by
  unfold touch
  split
  · rename_i s hs
    rw [get?_write]
    split
    · rename_i heq
      rw [heq, hs]
      rfl
    · rfl
  · rfl

/-- What a call can be answered, and what the bucket is after that. -/
inductive Effect (b : Bucket) : (c : Call) → Except Error c.Reply → Bucket → Prop where
  /-- The call failed, or was not made. -/
  | failed {c : Call} (e : Error) : Effect b c (.error e) b
  | exists? : Effect b .exists? (.ok b.created) b
  | ensured : Effect b .ensure (.ok ()) { b with created := true }
  | dropped : Effect b .drop (.ok ()) { b with created := false, entries := .empty }
  | listed {names : List String} (h : names.Perm b.entries.names) : Effect b .keys (.ok names) b
  | read (key : String) : Effect b (.entry key) (.ok (b.entry? key)) b
  | created {key : String} (value : Bytes) (h : b.entries.get? key = none) :
      Effect b (.create key value) (.ok (some (b.revision + 1))) (b.write key value)
  | taken {key : String} (value : Bytes) {s : Stamped} (h : b.entries.get? key = some s) :
      Effect b (.create key value) (.ok none) b
  | written {key : String} (value : Bytes) {revision : Nat} {s : Stamped}
      (h : b.entries.get? key = some s) (hs : s.revision = revision) :
      Effect b (.update key value revision) (.ok (some (b.revision + 1))) (b.write key value)
  | stale {key : String} (value : Bytes) (revision : Nat) :
      Effect b (.update key value revision) (.ok none) b
  /-- A competing writer was there first. -/
  | beaten {key : String} (value : Bytes) (revision : Nat) :
      Effect b (.update key value revision) (.ok none) (b.touch key)
  | deleted (key : String) : Effect b (.delete key) (.ok ()) (b.delete key)

theorem Effect.evolves {b b' : Bucket} {c : Call} {x : Except Error c.Reply}
    (h : Effect b c x b') : b.Evolves b' := by
  cases h with
  | ensured => exact evolves_of_subset (Nat.le_refl _) fun _ _ => id
  | dropped => exact evolves_of_subset (Nat.le_refl _) fun _ _ hs => by simp at hs
  | created value h => exact evolves_write b _ value
  | written value h hs => exact evolves_write b _ value
  | beaten value revision => exact evolves_touch b _
  | deleted key => exact evolves_delete b key
  | _ => exact .refl b

theorem Effect.alike {b b' : Bucket} {c : Call} {x y : Except Error c.Reply} (h : Effect b c x b')
    (hxy : c.Alike x y) : Effect b c y b' := by
  cases hxy with
  | same => exact h
  | keys hperm =>
      cases h with
      | listed hnames => exact .listed (hperm.symm.trans hnames)

theorem Effect.eq_of_error {b b' : Bucket} {c : Call} {e : Error} (h : Effect b c (.error e) b') :
    b' = b := by
  cases h
  rfl

theorem Effect.of_read {b b' : Bucket} {key : String} {e : Option Entry}
    (h : Effect b (.entry key) (.ok e) b') : e = b.entry? key ∧ b' = b := by
  cases h
  exact ⟨rfl, rfl⟩

theorem Effect.of_written {b b' : Bucket} {key : String} {value : Bytes} {revision n : Nat}
    (h : Effect b (.update key value revision) (.ok (some n)) b') :
    ∃ s, b.entries.get? key = some s ∧ s.revision = revision ∧ b' = b.write key value := by
  cases h with
  | written value hs hrevision => exact ⟨_, hs, hrevision, rfl⟩

theorem Effect.of_created {b b' : Bucket} {key : String} {value : Bytes} {n : Nat}
    (h : Effect b (.create key value) (.ok (some n)) b') :
    b.entries.get? key = none ∧ b' = b.write key value := by
  cases h with
  | created value hs => exact ⟨hs, rfl⟩

namespace Server

theorem access_cases {α : Type} (s : Server) (kind : Access) (act : Server → α × Server) :
    (∃ f s', s.access kind act = (.error f, s') ∧ s'.bucket = s.bucket) ∨
      s.access kind act = (.ok (act s).1, (act s).2) := by
  unfold access
  split
  · exact .inl ⟨_, _, rfl, rfl⟩
  · split
    · exact .inr rfl
    · exact .inl ⟨_, _, rfl, rfl⟩

theorem effect_update (s : Server) (key : String) (value : Bytes) (revision : Nat) :
    Effect s.bucket (.update key value revision) (.ok (s.update key value revision).1)
      (s.update key value revision).2.bucket := by
  unfold update
  split
  · exact .beaten value revision
  · unfold Bucket.update
    by_cases h : (s.bucket.entries.get? key).map (·.revision) = some revision
    · rw [if_pos h]
      obtain ⟨stored, hg, hs⟩ := Option.map_eq_some_iff.1 h
      exact .written value hg hs
    · rw [if_neg h]
      exact .stale value revision

theorem effect_answer (s : Server) (c : Call) :
    Effect s.bucket c ((s.answer c).1.mapError Failure.toError) (s.answer c).2.bucket := by
  cases c with
  | exists? => exact .exists?
  | ensure => exact .ensured
  | drop => exact .dropped
  | keys =>
      rw [answer]
      rcases access_cases s .keys fun s => (s.bucket.entries.names, s) with ⟨f, s', h, hb⟩ | h
      · rw [h, hb]
        exact .failed _
      · rw [h]
        exact .listed (.refl _)
  | entry key =>
      rw [answer]
      rcases access_cases s .entry fun s => (s.bucket.entry? key, s) with ⟨f, s', h, hb⟩ | h
      · rw [h, hb]
        exact .failed _
      · rw [h]
        exact .read key
  | create key value =>
      rw [answer]
      rcases access_cases s .create fun s =>
        ((s.bucket.create key value).1, { s with bucket := (s.bucket.create key value).2 }) with
        ⟨f, s', h, hb⟩ | h
      · rw [h, hb]
        exact .failed _
      · rw [h]
        unfold Bucket.create Table.contains
        cases hg : s.bucket.entries.get? key with
        | none => exact .created value hg
        | some stored => exact .taken value hg
  | update key value revision =>
      rw [answer]
      rcases access_cases s .update fun s => s.update key value revision with ⟨f, s', h, hb⟩ | h
      · rw [h, hb]
        exact .failed _
      · rw [h]
        exact effect_update s key value revision
  | delete key =>
      rw [answer]
      rcases access_cases s .delete fun s => ((), { s with bucket := s.bucket.delete key }) with
        ⟨f, s', h, hb⟩ | h
      · rw [h, hb]
        exact .failed _
      · rw [h]
        exact .deleted key

end Server

end Bucket

/-! ## In a cluster -/

namespace Cluster

open Bucket (Effect Failure)

theorem bucket_call_self (c : Cluster) (store : StoreName) (call : Bucket.Call) :
    Effect (c.bucket store) call ((c.call store call).1.mapError Failure.toError)
      ((c.call store call).2.bucket store) := by
  have hvault : ∀ {α : Type} (v : Vault α), Effect ((v.server.map (·.bucket)).getD {}) call
      ((v.call call).1.mapError Failure.toError) (((v.call call).2.server.map (·.bucket)).getD {}) := by
    intro α v
    unfold Vault.call
    cases hv : v.server with
    | none =>
        simp only [hv]
        exact .failed _
    | some server => exact server.effect_answer call
  cases store with
  | leases => exact hvault c.leases
  | checkpoints => exact hvault c.checkpoints

/-- A call on the bucket of a store has its effect there, and none elsewhere. -/
structure Affects (store : StoreName) (call : Bucket.Call) (c : Cluster)
    (x : Except Error call.Reply) (c' : Cluster) : Prop where
  effect : Effect (c.bucket store) call x (c'.bucket store)
  other : ∀ store', store' ≠ store → c'.bucket store' = c.bucket store'
  leaseRegister : c'.leases.register = c.leases.register
  checkpointRegister : c'.checkpoints.register = c.checkpoints.register
  members : c'.members = c.members
  now : c'.now = c.now

theorem Called.affects {store : StoreName} {cancel : Cancellation} {call : Bucket.Call}
    {c c' : Cluster} {x : Except Error call.Reply} (h : Called store cancel call c x c') :
    Affects store call c x c' := by
  have hvault : ∀ {α : Type} (v : Vault α), (v.call call).2.register = v.register := by
    intro α v
    unfold Vault.call
    split <;> rfl
  cases h with
  | served hx =>
      refine ⟨(c.bucket_call_self store call).alike hx, ?_, ?_, ?_, ?_, ?_⟩
      · intro store' hne
        cases store with
        | leases =>
            cases store' with
            | leases => exact absurd rfl hne
            | checkpoints => rfl
        | checkpoints =>
            cases store' with
            | leases => rfl
            | checkpoints => exact absurd rfl hne
      · cases store with
        | leases => exact hvault c.leases
        | checkpoints => rfl
      · cases store with
        | leases => rfl
        | checkpoints => exact hvault c.checkpoints
      · cases store <;> rfl
      · cases store <;> rfl
  | cancelled hne => exact ⟨.failed _, fun _ _ => rfl, rfl, rfl, rfl, rfl⟩

end Cluster

end PartitionHost
