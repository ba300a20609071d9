import Mathlib.Data.List.Induction
import PartitionHost.Proofs.Bucket.Faultless
import PartitionHost.Proofs.Table
import PartitionHost.Register

/-!
# Buckets that mirror registers

Whatever the records are: a bucket mirrors a register if it has each of its records, written as text, and
nothing else (`Mirrors`). To write a record that can be read back and to delete one keeps it so, and so does
the program that puts a fresh record where there is none. Two clusters, one with registers and one with buckets,
that each visit leaves alike are alike after any series of visits (`Visiting.alike_after`).
-/

namespace PartitionHost

open Record

/-- The error of a store that goes by this name. -/
def Error.ofStore (name : String) : Error → Error
  | .storeNotInitialized _ => .storeNotInitialized name
  | e => e

namespace Bucket

open Client

variable {α : Type} [Record α]

/-- The records in a bucket as far as they can be read, none if the bucket is not there. -/
def decoded (b : Bucket) : Register (Option α) :=
  if b.created then some (b.entries.map fun s => decode? s.value) else none

structure Mirrors (b : Bucket) (r : Register α) : Prop where
  decoded_eq : b.decoded = r.map (·.map some)
  empty_of_not_created : b.created = false → b.entries = .empty

variable {name : String} {now : Timestamp} {b : Bucket} {t : Table α} {p : String}

theorem mirrors_none_iff : Mirrors b (none : Register α) ↔ b.created = false ∧ b.entries = .empty := by
  constructor
  · intro h
    have hcreated : b.created = false := by
      have := h.decoded_eq
      cases hb : b.created with
      | false => rfl
      | true => simp [decoded, hb] at this
    exact ⟨hcreated, h.empty_of_not_created hcreated⟩
  · rintro ⟨hcreated, hempty⟩
    exact ⟨by simp [decoded, hcreated], fun _ => hempty⟩

theorem mirrors_some_iff : Mirrors b (some t) ↔
    b.created = true ∧ b.entries.map (fun s => decode? s.value) = t.map some := by
  constructor
  · intro h
    have := h.decoded_eq
    cases hb : b.created with
    | false => simp [decoded, hb] at this
    | true => exact ⟨rfl, by simpa [decoded, hb] using this⟩
  · rintro ⟨hcreated, hentries⟩
    exact ⟨by simp [decoded, hcreated, hentries], fun h => by rw [hcreated] at h; cases h⟩

namespace Mirrors

theorem get?_eq (h : Mirrors b (some t)) (p : String) :
    (b.entries.get? p).map (fun s => decode? s.value) = (t.get? p).map some := by
  have := congrArg (·.get? p) (mirrors_some_iff.1 h).2
  simpa using this

theorem get?_eq_none (h : Mirrors b (some t)) : b.entries.get? p = none ↔ t.get? p = none := by
  have := h.get?_eq p
  cases hb : b.entries.get? p <;> cases ht : t.get? p <;> simp [hb, ht] at this ⊢

theorem exists_of_get? (h : Mirrors b (some t)) {a : α} (ha : t.get? p = some a) :
    ∃ s, b.entries.get? p = some s ∧ decode? s.value = some a := by
  have := h.get?_eq p
  rw [ha] at this
  exact Option.map_eq_some_iff.1 this

theorem names_eq (h : Mirrors b (some t)) : b.entries.names = t.names := by
  have := congrArg Table.names (mirrors_some_iff.1 h).2
  simpa using this

theorem write (h : Mirrors b (some t)) {a : α} (ha : decode? (encode a) = some a) :
    Mirrors (b.write p (encode a)) (some (t.insert p a)) := by
  obtain ⟨hcreated, hentries⟩ := mirrors_some_iff.1 h
  refine mirrors_some_iff.2 ⟨hcreated, ?_⟩
  rw [Bucket.write, Table.map_insert, hentries, ha, ← Table.map_insert]

theorem delete (h : Mirrors b (some t)) : Mirrors (b.delete p) (some (t.erase p)) := by
  obtain ⟨hcreated, hentries⟩ := mirrors_some_iff.1 h
  unfold Bucket.delete
  split
  · refine mirrors_some_iff.2 ⟨hcreated, ?_⟩
    rw [Table.map_erase, hentries, ← Table.map_erase]
  · rename_i hcontains
    have hnone : b.entries.get? p = none := by simpa [Table.contains] using hcontains
    rwa [Table.erase_of_get?_eq_none (h.get?_eq_none.1 hnone)]

/-! ## Programs -/

theorem result_read? (h : Mirrors b (some t)) (p : String) :
    result name now (read? α p).run b = (.ok (t.get? p), b) := by
  rw [run_read?]
  simp only [result, reply_of_created (mirrors_some_iff.1 h).1, Bucket.entry?]
  cases ha : t.get? p with
  | none =>
      rw [h.get?_eq_none.2 ha]
      rfl
  | some a =>
      obtain ⟨s, hs, hdecode⟩ := h.exists_of_get? ha
      simp only [hs, Option.map_some, Except.mapError, hdecode, result]

theorem result_ensure (h : Mirrors b (some t)) {fresh : α} (hfresh : decode? (encode fresh) = some fresh)
    (attempts : Nat) :
    (result name now (Client.ensure p fresh (attempts + 1)).run b).1 =
        .ok (Register.ensure t p fresh).1 ∧
      Mirrors (result name now (Client.ensure p fresh (attempts + 1)).run b).2
        (some (Register.ensure t p fresh).2) := by
  have hcreated := (mirrors_some_iff.1 h).1
  rw [run_ensure_succ]
  simp only [result, reply_of_created hcreated, Register.ensure, Bucket.entry?]
  cases ha : t.get? p with
  | none =>
      have hnone := h.get?_eq_none.2 ha
      have hcreate : b.create p (encode fresh) =
          (some (b.revision + 1), b.write p (encode fresh)) := by
        simp [Bucket.create, Table.contains, hnone]
      simp only [hnone, Option.map_none, Except.mapError, result, reply_of_created hcreated, hcreate]
      exact ⟨trivial, h.write hfresh⟩
  | some a =>
      obtain ⟨s, hs, hdecode⟩ := h.exists_of_get? ha
      simp only [hs, Option.map_some, Except.mapError, hdecode, result]
      exact ⟨trivial, h⟩

end Mirrors

end Bucket

/-! ## Series of visits -/

/-- What a store is visited for, and what a cluster with a store of either kind answers and is after it. -/
class Visiting (V : Type) where
  Reply : V → Type
  run : Site.StoreKind → (v : V) → Cluster → Option (Except Error (Reply v)) × Cluster

namespace Visiting

variable {V : Type} [Visiting V]

def after (kind : Site.StoreKind) (vs : List V) (c : Cluster) : Cluster :=
  vs.foldl (fun c v => (run kind v c).2) c

theorem after_append (kind : Site.StoreKind) (vs us : List V) (c : Cluster) :
    after kind (vs ++ us) c = after kind us (after kind vs c) :=
  List.foldl_append

theorem after_append_singleton (kind : Site.StoreKind) (vs : List V) (v : V) (c : Cluster) :
    after kind (vs ++ [v]) c = (run kind v (after kind vs c)).2 :=
  after_append kind vs [v] c

theorem alike_after {Alike : Cluster → Cluster → Prop} {c₁ c₂ : Cluster} {vs : List V} (h : Alike c₁ c₂)
    (hstep : ∀ us v, us ++ [v] <+: vs → Alike (after .register us c₁) (after .bucket us c₂) →
      Alike (run .register v (after .register us c₁)).2 (run .bucket v (after .bucket us c₂)).2) :
    Alike (after .register vs c₁) (after .bucket vs c₂) := by
  induction vs using List.reverseRecOn with
  | nil => exact h
  | append_singleton vs v ih =>
      rw [after_append_singleton, after_append_singleton]
      apply hstep vs v (List.prefix_refl _)
      exact ih fun us u hus => hstep us u (hus.trans (List.prefix_append vs [v]))

end Visiting

end PartitionHost
