/-!
# Tables: finite maps from names to values

Leases, checkpoints, bucket entries and hosts are all looked up by name, and every listing of them
is in ascending order of the names. A `Table` keeps its entries in that order, so two tables with
the same lookups are the same table.
-/

namespace PartitionHost

/-- A finite map from names, its entries in strictly ascending order of the names. -/
structure Table (α : Type) where
  entries : List (String × α)
  ascending : entries.Pairwise (fun a b => a.1 < b.1)

namespace Table

variable {α : Type}

def empty : Table α := ⟨[], .nil⟩

instance : Inhabited (Table α) := ⟨empty⟩

instance [DecidableEq α] : DecidableEq (Table α) := fun s t =>
  if h : s.entries = t.entries then
    isTrue (by cases s; cases t; cases h; rfl)
  else
    isFalse (fun e => h (e ▸ rfl))

/-! ## Looking up -/

def get? (t : Table α) (name : String) : Option α :=
  (t.entries.find? (fun e => e.1 == name)).map (·.2)

def contains (t : Table α) (name : String) : Bool := (t.get? name).isSome

/-- The names, in ascending order. -/
def names (t : Table α) : List String := t.entries.map (·.1)

/-- The values, in ascending order of their names. -/
def values (t : Table α) : List α := t.entries.map (·.2)

def size (t : Table α) : Nat := t.entries.length

/-! ## Changing -/

/-- Puts an entry where the order wants it, over an entry of the same name. -/
def place (name : String) (value : α) : List (String × α) → List (String × α)
  | [] => [(name, value)]
  | e :: rest =>
    if name < e.1 then (name, value) :: e :: rest
    else if name = e.1 then (name, value) :: rest
    else e :: place name value rest

theorem fst_of_mem_place {name : String} {value : α} {es : List (String × α)} {e : String × α}
    (h : e ∈ place name value es) : e.1 = name ∨ e ∈ es := by
  induction es with
  | nil => simp only [place, List.mem_singleton] at h; exact .inl (h ▸ rfl)
  | cons x xs ih =>
    simp only [place] at h
    split at h
    · rcases List.mem_cons.1 h with h | h
      · exact .inl (h ▸ rfl)
      · exact .inr h
    · split at h
      · rcases List.mem_cons.1 h with h | h
        · exact .inl (h ▸ rfl)
        · exact .inr (List.mem_cons_of_mem _ h)
      · rcases List.mem_cons.1 h with h | h
        · exact .inr (h ▸ List.mem_cons_self)
        · exact (ih h).imp_right (List.mem_cons_of_mem _)

theorem pairwise_place {name : String} {value : α} {es : List (String × α)}
    (h : es.Pairwise (fun a b => a.1 < b.1)) :
    (place name value es).Pairwise (fun a b => a.1 < b.1) := by
  induction es with
  | nil => exact List.pairwise_singleton _ _
  | cons x xs ih =>
    obtain ⟨hx, hxs⟩ := List.pairwise_cons.1 h
    simp only [place]
    split
    · rename_i hlt
      refine List.pairwise_cons.2 ⟨fun b hb => ?_, h⟩
      rcases List.mem_cons.1 hb with rfl | hb
      · exact hlt
      · exact String.lt_trans hlt (hx b hb)
    · rename_i hnlt
      split
      · rename_i heq
        exact List.pairwise_cons.2 ⟨fun b hb => heq ▸ hx b hb, hxs⟩
      · rename_i hne
        refine List.pairwise_cons.2 ⟨fun b hb => ?_, ih hxs⟩
        rcases fst_of_mem_place hb with hb | hb
        · rw [hb]
          exact Std.not_le.1 (fun hle => hne (Std.le_antisymm hle (Std.not_lt.1 hnlt)))
        · exact hx b hb

/-- The table with `value` under `name`, whatever was there before. -/
def insert (t : Table α) (name : String) (value : α) : Table α :=
  ⟨place name value t.entries, pairwise_place t.ascending⟩

/-- The table without `name`. -/
def erase (t : Table α) (name : String) : Table α :=
  ⟨t.entries.filter (fun e => e.1 != name), t.ascending.filter _⟩

/-- The table of the given entries; of two with one name the later counts. -/
def ofList (es : List (String × α)) : Table α :=
  es.foldl (fun t e => t.insert e.1 e.2) empty

/-- The table with every value changed by `f`. -/
def map {β : Type} (f : α → β) (t : Table α) : Table β :=
  ⟨t.entries.map (fun e => (e.1, f e.2)), by
    simpa only [List.pairwise_map] using t.ascending⟩

/-! ## Laws -/

theorem get?_mk {es : List (String × α)} {h : es.Pairwise (fun a b => a.1 < b.1)} (name : String) :
    (Table.mk es h).get? name = (es.find? (fun e => e.1 == name)).map (·.2) := rfl

@[simp] theorem get?_empty (name : String) : (empty : Table α).get? name = none := rfl

theorem find?_place (name other : String) (value : α) (es : List (String × α)) :
    ((place name value es).find? (fun e => e.1 == other)).map (·.2) =
      if other = name then some value else (es.find? (fun e => e.1 == other)).map (·.2) := by
  induction es with
  | nil =>
    by_cases h : other = name
    · simp [place, h]
    · simp [place, h, Ne.symm h]
  | cons e es ih =>
    simp only [place]
    split
    · by_cases h : other = name
      · simp [h]
      · simp [h, Ne.symm h]
    · split
      · rename_i _ he
        by_cases h : other = name
        · simp [h]
        · simp [h, Ne.symm h, ← he]
      · rename_i _ he
        by_cases h : e.1 = other
        · have : other ≠ name := fun hn => he (h.trans hn).symm
          simp [h, this]
        · simp [h, ih]

@[simp] theorem get?_insert (t : Table α) (name other : String) (value : α) :
    (t.insert name value).get? other = if other = name then some value else t.get? other :=
  find?_place name other value t.entries

@[simp] theorem get?_erase (t : Table α) (name other : String) :
    (t.erase name).get? other = if other = name then none else t.get? other := by
  obtain ⟨es, hes⟩ := t
  simp only [erase, get?_mk]
  clear hes
  induction es with
  | nil => simp
  | cons e es ih =>
    by_cases he : e.1 = name
    · by_cases h : other = name
      · simp_all
      · have : e.1 ≠ other := fun ho => h (ho.symm.trans he)
        simp_all
    · by_cases ho : e.1 = other
      · have : other ≠ name := fun hn => he (ho.trans hn)
        simp [ho, this]
      · simp_all

theorem get?_cons {e : String × α} {es : List (String × α)}
    {h : (e :: es).Pairwise (fun a b => a.1 < b.1)} (name : String) :
    (Table.mk (e :: es) h).get? name =
      if e.1 = name then some e.2 else (Table.mk es (List.pairwise_cons.1 h).2).get? name := by
  by_cases hn : e.1 = name <;> simp [get?_mk, hn]

/-- No name below those of all entries is looked up with success. -/
theorem get?_eq_none_of_lt {es : List (String × α)} {h : es.Pairwise (fun a b => a.1 < b.1)}
    {name : String} (hlt : ∀ e ∈ es, name < e.1) : (Table.mk es h).get? name = none := by
  rw [get?_mk, List.find?_eq_none.2 fun e he heq => ?_]
  · rfl
  · have := hlt e he
    rw [beq_iff_eq.1 heq] at this
    exact String.lt_irrefl _ this

theorem ext_get? {s t : Table α} (h : ∀ name, s.get? name = t.get? name) : s = t := by
  obtain ⟨es, hes⟩ := s
  obtain ⟨fs, hfs⟩ := t
  induction es generalizing fs with
  | nil =>
    cases fs with
    | nil => rfl
    | cons f fs => simpa [get?_cons, get?_mk] using h f.1
  | cons e es ih =>
    obtain ⟨he, hes'⟩ := List.pairwise_cons.1 hes
    cases fs with
    | nil => simpa [get?_cons, get?_mk] using h e.1
    | cons f fs =>
      obtain ⟨hf, hfs'⟩ := List.pairwise_cons.1 hfs
      have hef : e.1 = f.1 := by
        rcases Std.lt_trichotomy e.1 f.1 with hlt | heq | hgt
        · have := h e.1
          rw [get?_cons, if_pos rfl, get?_eq_none_of_lt] at this
          · exact nomatch this
          · intro g hg
            rcases List.mem_cons.1 hg with rfl | hg
            · exact hlt
            · exact String.lt_trans hlt (hf g hg)
        · exact heq
        · have := h f.1
          rw [get?_cons (e := f), if_pos rfl, get?_eq_none_of_lt] at this
          · exact nomatch this
          · intro g hg
            rcases List.mem_cons.1 hg with rfl | hg
            · exact hgt
            · exact String.lt_trans hgt (he g hg)
      have hval : e.2 = f.2 := by
        have := h e.1
        rw [get?_cons, get?_cons, if_pos rfl, if_pos hef.symm] at this
        exact Option.some.inj this
      have hrest : es = fs := by
        have hsame : ∀ name, (Table.mk es hes').get? name = (Table.mk fs hfs').get? name := by
          intro name
          by_cases hn : e.1 = name
          · rw [get?_eq_none_of_lt (fun g hg => hn ▸ he g hg),
              get?_eq_none_of_lt (fun g hg => hn ▸ hef ▸ hf g hg)]
          · have := h name
            rwa [get?_cons, get?_cons, if_neg hn, if_neg (hef ▸ hn)] at this
        exact congrArg entries (ih hes' fs hfs' hsame)
      obtain rfl : e = f := Prod.ext hef hval
      cases hrest
      rfl

end Table

end PartitionHost
