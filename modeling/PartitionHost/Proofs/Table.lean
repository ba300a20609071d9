import PartitionHost.Table

/-!
# What is found in tables

An entry is found under its name (`get?_eq_some_iff`), so that the listings of a table tell the same as
looking everything up.
-/

namespace PartitionHost.Table

variable {α β : Type}

theorem get?_eq_some_iff {t : Table α} {name : String} {a : α} :
    t.get? name = some a ↔ (name, a) ∈ t.entries := by
  obtain ⟨es, hes⟩ := t
  induction es with
  | nil => simp [get?_mk]
  | cons e es ih =>
      obtain ⟨he, hes'⟩ := List.pairwise_cons.1 hes
      have hrest := ih hes'
      rw [get?_cons]
      by_cases hname : e.1 = name
      · rw [if_pos hname]
        constructor
        · rintro heq
          obtain rfl := Option.some.inj heq
          exact List.mem_cons.2 (.inl (Prod.ext hname.symm rfl))
        · intro hmem
          rcases List.mem_cons.1 hmem with hmem | hmem
          · rw [← hmem]
          · exact absurd (he _ hmem) (hname ▸ String.lt_irrefl _)
      · rw [if_neg hname, hrest]
        refine ⟨List.mem_cons_of_mem _, fun hmem => ?_⟩
        rcases List.mem_cons.1 hmem with hmem | hmem
        · exact absurd (congrArg Prod.fst hmem).symm hname
        · exact hmem

theorem forall_get? {t : Table α} {holds : String → α → Prop} :
    (∀ name a, t.get? name = some a → holds name a) ↔ ∀ e ∈ t.entries, holds e.1 e.2 := by
  simp only [get?_eq_some_iff, Prod.forall]

theorem contains_iff {t : Table α} {name : String} :
    t.contains name = true ↔ ∃ a, t.get? name = some a := by
  rw [contains, Option.isSome_iff_exists]

theorem contains_insert {t : Table α} {name other : String} {a : α} :
    (t.insert name a).contains other = true ↔ other = name ∨ t.contains other = true := by
  by_cases h : other = name
  · simp [contains, h]
  · simp [contains, h]

theorem contains_erase {t : Table α} {name other : String} :
    (t.erase name).contains other = true ↔ other ≠ name ∧ t.contains other = true := by
  by_cases h : other = name
  · simp [contains, h]
  · simp [contains, h]

theorem mem_names {t : Table α} {name : String} : name ∈ t.names ↔ ∃ a, t.get? name = some a := by
  simp [names, get?_eq_some_iff]

theorem mem_names_iff_contains {t : Table α} {name : String} :
    name ∈ t.names ↔ t.contains name = true := by
  rw [mem_names, contains_iff]

theorem mem_values {t : Table α} {a : α} : a ∈ t.values ↔ ∃ name, t.get? name = some a := by
  simp [values, get?_eq_some_iff]

theorem nodup_names (t : Table α) : t.names.Nodup := by
  rw [names, List.Nodup, List.pairwise_map]
  refine t.ascending.imp ?_
  rintro a b hlt heq
  exact String.lt_irrefl _ (heq ▸ hlt)

theorem filterMap_names (t : Table α) : t.names.filterMap t.get? = t.values := by
  have hget : ∀ e ∈ t.entries, t.get? e.1 = some e.2 := fun e he => get?_eq_some_iff.2 he
  rw [names, values, List.filterMap_map]
  generalize t.entries = es at hget
  induction es with
  | nil => rfl
  | cons e es ih =>
      rw [List.filterMap_cons, Function.comp_apply, hget e List.mem_cons_self]
      rw [ih fun e he => hget e (List.mem_cons_of_mem _ he), List.map_cons]

theorem length_place {name : String} {value : α} {es : List (String × α)} (h : ∀ e ∈ es, e.1 ≠ name) :
    (place name value es).length = es.length + 1 := by
  induction es with
  | nil => rfl
  | cons e es ih =>
      rw [place]
      split
      · rfl
      · rw [if_neg (Ne.symm (h e List.mem_cons_self)), List.length_cons]
        rw [ih fun e he => h e (List.mem_cons_of_mem _ he), List.length_cons]

theorem size_insert {t : Table α} {name : String} (h : t.get? name = none) (a : α) :
    (t.insert name a).size = t.size + 1 := by
  refine length_place ?_
  rintro ⟨key, b⟩ he rfl
  rw [get?_eq_some_iff.2 he] at h
  cases h

theorem length_place_le (name : String) (value : α) (es : List (String × α)) :
    (place name value es).length ≤ es.length + 1 := by
  induction es with
  | nil => exact Nat.le_refl _
  | cons e es ih =>
      rw [place]
      split
      · exact Nat.le_refl _
      · split
        · exact Nat.le_succ _
        · exact Nat.succ_le_succ ih

theorem size_insert_le (t : Table α) (name : String) (a : α) : (t.insert name a).size ≤ t.size + 1 :=
  length_place_le name a t.entries

/-! ## Changing every value -/

@[simp] theorem values_map (f : α → β) (t : Table α) : (t.map f).values = t.values.map f := by
  simp [map, values, Function.comp_def]

@[simp] theorem names_map (f : α → β) (t : Table α) : (t.map f).names = t.names := by
  simp [map, names, Function.comp_def]

@[simp] theorem get?_map (f : α → β) (t : Table α) (name : String) :
    (t.map f).get? name = (t.get? name).map f := by
  rw [get?, get?, map, List.find?_map, Option.map_map, Option.map_map]
  rfl

theorem length_names (t : Table α) : t.names.length = t.size := by
  rw [names, List.length_map, size]

theorem length_values (t : Table α) : t.values.length = t.size := by
  rw [values, List.length_map, size]

theorem map_values_congr {γ : Type} {f : α → γ} {g : β → γ} {s : Table α} {t : Table β}
    (h : ∀ name, (s.get? name).map f = (t.get? name).map g) : s.values.map f = t.values.map g := by
  rw [← values_map, ← values_map]
  congr 1
  exact ext_get? fun name => by simpa using h name

theorem names_congr {s : Table α} {t : Table β}
    (h : ∀ name, (s.get? name).isSome = (t.get? name).isSome) : s.names = t.names := by
  rw [← names_map (fun _ => ()), ← names_map (fun _ => ()) t]
  refine congrArg names (ext_get? fun name => ?_)
  have := h name
  rw [get?_map, get?_map]
  cases hs : s.get? name <;> cases ht : t.get? name <;> simp_all

theorem map_insert (f : α → β) (t : Table α) (name : String) (a : α) :
    (t.insert name a).map f = (t.map f).insert name (f a) := by
  refine ext_get? fun other => ?_
  simp only [get?_map, get?_insert]
  split <;> rfl

theorem map_erase (f : α → β) (t : Table α) (name : String) :
    (t.erase name).map f = (t.map f).erase name := by
  refine ext_get? fun other => ?_
  simp only [get?_map, get?_erase]
  split <;> rfl

theorem erase_of_get?_eq_none {t : Table α} {name : String} (h : t.get? name = none) :
    t.erase name = t := by
  refine ext_get? fun other => ?_
  rw [get?_erase]
  split
  · rename_i heq
    rw [heq, h]
  · rfl

end PartitionHost.Table
