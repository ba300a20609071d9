import PartitionHost.Proofs.Json.Layout
import PartitionHost.Proofs.RecordText

/-!
# Records in any layout

A record is read from every object that gives each of its fields once, whatever the order of the members and
whatever members of other names there are, however texts are escaped and wherever white space stands between
tokens; and from every array of its fields in order. Such a text with a field too few or too many, with a null for
a field or with more behind it is no record: `Record.Tolerates` has all of this.
-/

namespace PartitionHost

open Json Record

theorem mapM_eq_some_iff {β γ : Type} {f : β → Option γ} {xs : List β} {ys : List γ} :
    xs.mapM f = some ys ↔ List.Forall₂ (fun x y => f x = some y) xs ys := by
  induction xs generalizing ys with
  | nil => simp [eq_comm]
  | cons x xs ih =>
      simp only [List.mapM_cons, Option.bind_eq_bind, Option.bind_eq_some_iff, ih,
        List.forall₂_cons_left_iff]
      constructor
      · rintro ⟨y, hy, ys, hys, ⟨⟩⟩
        exact ⟨y, ys, hy, hys, rfl⟩
      · rintro ⟨y, ys, hy, hys, rfl⟩
        exact ⟨y, hy, ys, hys, rfl⟩

theorem exists_of_mapM_eq_some {β γ : Type} {f : β → Option γ} {xs : List β} {ys : List γ}
    (h : xs.mapM f = some ys) {x : β} (hx : x ∈ xs) : ∃ y ∈ ys, f x = some y := by
  have hpairs := mapM_eq_some_iff.1 h
  clear h
  induction hpairs with
  | nil => cases hx
  | @cons _ y _ _ hy _ ih =>
      rcases List.mem_cons.1 hx with rfl | hx
      · exact ⟨y, List.mem_cons_self, hy⟩
      · obtain ⟨y, hmem, hy⟩ := ih hx
        exact ⟨y, List.mem_cons_of_mem _ hmem, hy⟩

/-! ## Fields -/

/-- A string that says this text, with whatever escapes. -/
def Json.Value.IsText (s : String) (v : Value) : Prop := ∃ raw, v = .string raw ∧ SpellsText raw s.toList

/--
The values that encode a field. A text has as many as there are escapes for it and an instant one for each text
that gives it, while a number of 64 bits has just one.
-/
inductive Record.Field.Encoded : Field → Value → Prop where
  | text {s : String} {v : Value} (h : v.IsText s) : Encoded ⟨.text, s⟩ v
  | texts {ss : List String} {items : List Value} (h : List.Forall₂ Value.IsText ss items) :
      Encoded ⟨.texts, ss⟩ (.array items)
  | timestamp {t : Timestamp} {cs : List Char} {v : Value} (h : v.IsText (String.ofList cs))
      (ht : Timestamp.ofText? cs = some t) : Encoded ⟨.timestamp, t⟩ v
  | natural {n : Nat} (h : Fits ⟨.natural, n⟩) : Encoded ⟨.natural, n⟩ (.ofNatural n)
  | integer {n : Int} (h : Fits ⟨.integer, n⟩) : Encoded ⟨.integer, n⟩ (.ofInteger n)

namespace Json.Value

variable {v : Value} {s : String}

theorem isText_ofText (s : String) : (ofText s).IsText s := ⟨escape s, rfl, spellsText_escape s⟩

theorem IsText.isValid (h : v.IsText s) : v.IsValid := by
  obtain ⟨raw, rfl, h⟩ := h
  exact .string h.isInside

theorem IsText.text? (h : v.IsText s) : v.text? = some s := by
  obtain ⟨raw, rfl, h⟩ := h
  rw [Value.text?, unescape?_of_spells h, String.ofList_toList]

theorem texts?_of_forall {ss : List String} {items : List Value} (h : List.Forall₂ IsText ss items) :
    (array items).texts? = some ss := by
  rw [texts?, mapM_eq_some_iff]
  exact (h.imp fun _ _ => IsText.text?).flip

end Json.Value

namespace Record.Field

variable {f : Field} {v : Value}

theorem encoded_value (h : f.Fits) : f.Encoded f.value := by
  obtain ⟨kind, content⟩ := f
  cases kind with
  | text => exact .text (Value.isText_ofText content)
  | texts =>
      have hitems : List.Forall₂ Value.IsText content (content.map Value.ofText) := by
        rw [List.forall₂_map_right_iff, List.forall₂_same]
        exact fun s _ => Value.isText_ofText s
      exact .texts hitems
  | timestamp =>
      have htext : (Value.ofTimestamp content).IsText (String.ofList content.text) := by
        rw [Value.ofTimestamp_eq_ofText]
        exact Value.isText_ofText _
      exact .timestamp htext content.ofText?_text
  | natural => exact .natural h
  | integer => exact .integer h

theorem Encoded.isValid (h : f.Encoded v) : v.IsValid := by
  cases h with
  | text h => exact h.isValid
  | texts h => exact .array (forall_of_forall₂ h fun _ _ hv => hv.isValid)
  | timestamp h ht => exact h.isValid
  | natural h => exact .number (Value.isNumber_digits _)
  | integer h => exact .number (Value.isNumber_signedDigits _)

theorem Encoded.reads (h : f.Encoded v) : f.Reads v := by
  cases h with
  | text h => exact h.text?
  | texts h => exact Value.texts?_of_forall h
  | @timestamp t cs v h ht =>
      change v.timestamp? = some t
      rw [Value.timestamp?, h.text?, Option.bind_some, String.toList_ofList, ht]
  | natural h => exact (Value.natural?_ofNatural _).trans (if_pos h)
  | integer h => exact (Value.integer?_ofInteger _).trans (if_pos h)

theorem not_reads_null : ¬ f.Reads .null := by
  obtain ⟨kind, content⟩ := f
  cases kind <;> exact nofun

end Record.Field

/-! ## Members -/

namespace Json.Value

variable {name : String} {ms ns : List (String × Value)}

theorem valuesOf_perm (name : String) (h : ms.Perm ns) : (valuesOf name ms).Perm (valuesOf name ns) :=
  (h.filter _).map _

theorem only?_eq_some_iff {v : Value} : only? name ms = some v ↔ valuesOf name ms = [v] := by
  unfold only?
  split <;> simp_all

theorem only?_perm (name : String) (h : ms.Perm ns) : only? name ms = only? name ns := by
  have hvalues := valuesOf_perm name h
  ext v
  rw [only?_eq_some_iff, only?_eq_some_iff]
  constructor <;> intro hv
  · rw [hv] at hvalues
    exact List.perm_singleton.1 hvalues.symm
  · rw [hv] at hvalues
    exact List.perm_singleton.1 hvalues

theorem valuesOf_eq_nil (h : name ∉ ms.map Prod.fst) : valuesOf name ms = [] := by
  simp only [valuesOf, List.map_eq_nil_iff, List.filter_eq_nil_iff, beq_iff_eq]
  rintro m hm rfl
  exact h (List.mem_map_of_mem hm)

theorem length_valuesOf (name : String) (ms : List (String × Value)) :
    (valuesOf name ms).length = (ms.map Prod.fst).count name := by
  rw [valuesOf, List.length_map, ← List.countP_eq_length_filter, List.count, List.countP_map]
  rfl

theorem mem_valuesOf {v : Value} (h : (name, v) ∈ ms) : v ∈ valuesOf name ms :=
  List.mem_map.2 ⟨(name, v), List.mem_filter.2 ⟨h, beq_self_eq_true name⟩, rfl⟩

theorem mapM_only?_eq_none {names : List String} (hname : name ∈ names) (h : only? name ms = none) :
    names.mapM (only? · ms) = none := by
  cases hvalues : names.mapM (only? · ms) with
  | none => rfl
  | some values =>
      obtain ⟨v, -, hv⟩ := exists_of_mapM_eq_some hvalues hname
      rw [h] at hv
      cases hv

/-- The texts of an object with these members, whose names may hold escapes. -/
def WrittenObject (members : List (String × Value)) (bs : Bytes) : Prop :=
  ∃ ms : List (Bytes × Value),
    List.Forall₂ (fun m member => SpellsText m.1 member.1.toList ∧ m.2 = member.2) ms members ∧
      (object ms).Written bs

theorem writtenObject_of_laid {bs : Bytes} (h : ∀ m ∈ ms, m.2.IsValid)
    (hlaid : Laid (object (ms.map fun m => (escape m.1, m.2))).tokens bs) : WrittenObject ms bs := by
  refine ⟨_, ?_, .object ?_ ?_, hlaid⟩
  · rw [List.forall₂_map_left_iff, List.forall₂_same]
    exact fun m _ => ⟨spellsText_escape m.1, rfl⟩
  · exact List.forall_mem_map.2 fun m _ => (spellsText_escape m.1).isInside
  · exact List.forall_mem_map.2 h

theorem members?_of_spells {raws : List (Bytes × Value)}
    (h : List.Forall₂ (fun m member => SpellsText m.1 member.1.toList ∧ m.2 = member.2) raws ms) :
    members? raws = some ms := by
  rw [members?, mapM_eq_some_iff]
  refine h.imp ?_
  rintro ⟨raw, v⟩ ⟨name, _⟩ ⟨hname, rfl⟩
  have hread := unescape?_of_spells hname
  rw [String.ofList_toList] at hread
  exact congrArg (Option.map (·, v)) hread

end Json.Value

/-! ## Records -/

namespace Record

open Value

variable {α : Type} [Record α] {a : α} {values items : List Value} {members others : List (String × Value)}
  {name : String} {bs extra : Bytes}

theorem decode?_of_writtenObject (h : WrittenObject members bs) :
    (decode? bs : Option α) = ((fieldNames α).mapM (only? · members)).bind ofValues? := by
  obtain ⟨raws, hraws, hwritten⟩ := h
  rw [decode?, ofBytes?_of_written hwritten, Option.bind_some, ofJson?, fields?, members?_of_spells hraws,
    Option.bind_some]

theorem decode?_of_writtenArray (h : (Value.array items).Written bs) :
    (decode? bs : Option α) = if items.length = (fieldNames α).length then ofValues? items else none := by
  rw [decode?, ofBytes?_of_written h, Option.bind_some, ofJson?, fields?]
  split <;> rfl

theorem decode?_eq_none_of_only? (h : WrittenObject members bs) (hname : name ∈ fieldNames α)
    (honly : only? name members = none) : (decode? bs : Option α) = none := by
  rw [decode?_of_writtenObject h, mapM_only?_eq_none hname honly, Option.bind_none]

theorem decode?_append_of_written {v : Value} (h : v.Written bs) (hopen : v.isOpen = true)
    (hextra : ¬ AreSpaces extra) : (decode? (bs ++ extra) : Option α) = none := by
  rw [decode?, ofBytes?_append_of_written h hopen hextra, Option.bind_none]

/--
What the texts of records of one kind may look like, and what they may not. All that is said of an object
is said whatever the order of its members, the escapes in their names and in their texts, the white space
and the members of other names.
-/
structure Tolerates (α : Type) [Record α] : Prop where
  object : ∀ {a : α} {values : List Value} {members others : List (String × Value)} {bs : Bytes},
    List.Forall₂ Field.Encoded (fields a) values → (∀ m ∈ others, m.1 ∉ fieldNames α) →
    members.Perm (others ++ (fieldNames α).zip values) → WrittenObject members bs → decode? bs = some a
  array : ∀ {a : α} {values : List Value} {bs : Bytes},
    List.Forall₂ Field.Encoded (fields a) values → (Value.array values).Written bs →
    decode? bs = some a
  missing : ∀ {name : String} {members : List (String × Value)} {bs : Bytes}, name ∈ fieldNames α →
    name ∉ members.map Prod.fst → WrittenObject members bs → (decode? bs : Option α) = none
  repeated : ∀ {name : String} {members : List (String × Value)} {bs : Bytes}, name ∈ fieldNames α →
    1 < (members.map Prod.fst).count name → WrittenObject members bs → (decode? bs : Option α) = none
  null : ∀ {name : String} {members : List (String × Value)} {bs : Bytes}, name ∈ fieldNames α →
    (name, .null) ∈ members → WrittenObject members bs → (decode? bs : Option α) = none
  /-- An array with a field removed, or with one too many. -/
  otherLength : ∀ {items : List Value} {bs : Bytes}, items.length ≠ (fieldNames α).length →
    (Value.array items).Written bs → (decode? bs : Option α) = none
  nullItem : ∀ {items : List Value} {bs : Bytes}, .null ∈ items → (Value.array items).Written bs →
    (decode? bs : Option α) = none
  objectAppended : ∀ {members : List (String × Value)} {bs extra : Bytes}, WrittenObject members bs →
    ¬ AreSpaces extra → (decode? (bs ++ extra) : Option α) = none
  arrayAppended : ∀ {items : List Value} {bs extra : Bytes}, (Value.array items).Written bs →
    ¬ AreSpaces extra → (decode? (bs ++ extra) : Option α) = none

theorem ofValues?_of_encoded (h : List.Forall₂ Field.Encoded (fields a) values) :
    ofValues? values = some a :=
  ofValues?_eq_some_iff.2 (h.imp fun _ _ => Field.Encoded.reads)

theorem ofValues?_of_null (hnull : .null ∈ values) : (ofValues? values : Option α) = none := by
  refine Option.eq_none_iff_forall_not_mem.2 fun a ha => ?_
  have hreads := ofValues?_eq_some_iff.1 ha
  have hne := forall_of_forall₂ hreads fun f v (hv : f.Reads v) (h : v = .null) => Field.not_reads_null (h ▸ hv)
  exact hne .null hnull rfl

theorem length_of_encoded (h : List.Forall₂ Field.Encoded (fields a) values) :
    values.length = (fieldNames α).length :=
  h.length_eq.symm.trans (length_fields a)

theorem decode?_of_perm (hvalues : List.Forall₂ Field.Encoded (fields a) values)
    (hothers : ∀ m ∈ others, m.1 ∉ fieldNames α)
    (hperm : members.Perm (others ++ (fieldNames α).zip values)) (h : WrittenObject members bs) :
    decode? bs = some a := by
  have hnone : ∀ name ∈ fieldNames α, valuesOf name others = [] := by
    intro name hname
    refine valuesOf_eq_nil fun hmem => ?_
    obtain ⟨m, hm, rfl⟩ := List.mem_map.1 hmem
    exact hothers m hm hname
  have honly : (only? · members) = (only? · (others ++ (fieldNames α).zip values)) :=
    funext fun name => only?_perm name hperm
  rw [decode?_of_writtenObject h, honly, mapM_only? (nodup_fieldNames α) (length_of_encoded hvalues) hnone,
    Option.bind_some, ofValues?_of_encoded hvalues]

theorem decode?_of_null (hname : name ∈ fieldNames α) (hnull : (name, .null) ∈ members)
    (h : WrittenObject members bs) : (decode? bs : Option α) = none := by
  rw [decode?_of_writtenObject h]
  cases hvalues : (fieldNames α).mapM (only? · members) with
  | none => rfl
  | some values =>
      obtain ⟨v, hv, honly⟩ := exists_of_mapM_eq_some hvalues hname
      have hmem := mem_valuesOf hnull
      rw [only?_eq_some_iff.1 honly, List.mem_singleton] at hmem
      exact ofValues?_of_null (hmem ▸ hv)

theorem tolerates (α : Type) [Record α] : Tolerates α where
  object := decode?_of_perm
  array hvalues h := by
    rw [decode?_of_writtenArray h, if_pos (length_of_encoded hvalues), ofValues?_of_encoded hvalues]
  missing hname hmissing h := by
    refine decode?_eq_none_of_only? h hname ?_
    rw [only?, valuesOf_eq_nil hmissing]
  repeated hname hcount h := by
    refine decode?_eq_none_of_only? h hname (Option.eq_none_iff_forall_not_mem.2 fun v hv => ?_)
    rw [← length_valuesOf, only?_eq_some_iff.1 hv] at hcount
    exact absurd hcount (by simp)
  null := decode?_of_null
  otherLength hlength h := by rw [decode?_of_writtenArray h, if_neg hlength]
  nullItem hnull h := by
    rw [decode?_of_writtenArray h, ofValues?_of_null hnull, ite_self]
  objectAppended := by
    rintro members bs extra ⟨raws, -, h⟩ hextra
    exact decode?_append_of_written h rfl hextra
  arrayAppended h hextra := decode?_append_of_written h rfl hextra

/-- A record is written in one of the layouts that it is read from. -/
theorem writtenObject_encode (h : ∀ f ∈ fields a, f.Fits) :
    WrittenObject ((fieldNames α).zip ((fields a).map Field.value)) (encode a) := by
  have hvalid : ∀ v ∈ (fields a).map Field.value, v.IsValid :=
    List.forall_mem_map.2 fun f hf => (Field.encoded_value (h f hf)).isValid
  have hobject : toJson a =
      .object (((fieldNames α).zip ((fields a).map Field.value)).map fun member => (escape member.1, member.2)) := by
    rw [toJson, ofFields, ← List.map_uncurry_zip_eq_zipWith]
    rfl
  refine writtenObject_of_laid (fun m hm => hvalid m.2 (List.of_mem_zip hm).2) ?_
  rw [← hobject]
  exact (toJson a).laid_bytes

/-- Every kind of records is read from any layout, and from nothing that has too little, too much or a null. -/
theorem decode?_tolerates_layout :
    Tolerates Lease ∧ Tolerates Checkpoint ∧ Tolerates Hub ∧ Tolerates PartitionRange :=
  ⟨tolerates Lease, tolerates Checkpoint, tolerates Hub, tolerates PartitionRange⟩

def shuffledRegion : Value := .object [(escape "zones", .array [.null, .bool true])]

/-- The members of a lease back to front, with one that leases do not know. -/
def shuffledMembers : List (String × Value) :=
  [("epoch", .ofNatural 7), ("expires_at", .ofTimestamp .epoch),
    ("owner", .string [0x5C, 0x75, 0x30, 0x30, 0x36, 0x31]), ("partition_id", .ofText "0"),
    ("region", shuffledRegion)]

def shuffledText : Bytes :=
  [" \x7b \"epoch\" : 7 , \"expires_at\" : \"1970-01-01T00:00:00Z\" ,",
    " \"owner\" : \"\\u0061\" , \"partition_id\" : \"0\" ,",
    " \"region\" : \x7b \"zones\" : [ null , true ] \x7d \x7d"].flatMap fun line => utf8 line.toList

theorem isValid_shuffledRegion : shuffledRegion.IsValid := by
  refine .object (List.forall_mem_singleton.2 (spellsText_escape _).isInside)
    (List.forall_mem_singleton.2 (.array ?_))
  simp [IsValid.null, IsValid.bool]

theorem encoded_shuffledOwner :
    Field.Encoded ⟨.text, "a"⟩ (.string [0x5C, 0x75, 0x30, 0x30, 0x36, 0x31]) :=
  .text ⟨_, rfl, .unit (by constructor <;> decide) .nil⟩

theorem writtenObject_shuffledText : WrittenObject shuffledMembers shuffledText := by
  have htext : shuffledText =
      (Value.object (shuffledMembers.map fun m => (escape m.1, m.2))).tokens.flatMap
        fun t => [0x20] ++ t.bytes := by decide +kernel
  have hvalid : ∀ {f : Field}, f.Fits → f.value.IsValid := fun h => (Field.encoded_value h).isValid
  refine writtenObject_of_laid ?_ (htext ▸ laid_flatMap (by decide) _)
  simp only [shuffledMembers, List.forall_mem_cons, List.not_mem_nil, IsEmpty.forall_iff, implies_true, and_true]
  exact ⟨@hvalid ⟨.natural, 7⟩ (by decide), @hvalid ⟨.timestamp, .epoch⟩ trivial, encoded_shuffledOwner.isValid,
    @hvalid ⟨.text, "0"⟩ trivial, isValid_shuffledRegion⟩

/-- A lease, which has no sequence number and is no checkpoint, and which is no lease with a brace too many. -/
theorem decode?_tolerates_layout_shuffled :
    decode? shuffledText = some (⟨"0", "a", .epoch, 7⟩ : Lease) ∧
      (decode? shuffledText : Option Checkpoint) = none ∧
      (decode? (shuffledText ++ [0x20, 0x7D]) : Option Lease) = none := by
  refine ⟨?_, ?_, ?_⟩
  · have hvalues : List.Forall₂ Field.Encoded (fields (⟨"0", "a", .epoch, 7⟩ : Lease))
        [.ofText "0", .string [0x5C, 0x75, 0x30, 0x30, 0x36, 0x31], .ofTimestamp .epoch, .ofNatural 7] :=
      .cons (Field.encoded_value trivial) (.cons encoded_shuffledOwner
        (.cons (Field.encoded_value trivial) (.cons (Field.encoded_value (by decide)) .nil)))
    have hothers : ∀ m ∈ [("region", shuffledRegion)], m.1 ∉ fieldNames Lease := by decide
    exact decode?_tolerates_layout.1.object hvalues hothers (List.reverse_perm _) writtenObject_shuffledText
  · have hname : "sequence_number" ∈ fieldNames Checkpoint := by decide
    exact decode?_tolerates_layout.2.1.missing hname (by decide) writtenObject_shuffledText
  · exact decode?_tolerates_layout.1.objectAppended writtenObject_shuffledText (by decide)

end Record

end PartitionHost
