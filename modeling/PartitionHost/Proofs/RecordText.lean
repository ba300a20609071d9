import Mathlib.Data.List.Forall2
import PartitionHost.Checkpoint
import PartitionHost.Hub
import PartitionHost.Lease
import PartitionHost.Proofs.Json.Grammar
import PartitionHost.Proofs.Time.TimestampText

/-!
# Records read back

A record is read back from the text that it is written as exactly if each of its fields has room, whatever the
schema (`Record.decode?_encode`), and no two records are written as the same text (`Record.encode_injective`).
Only numbers need room, in 64 bits; texts, lists of texts and instants are unrestricted. `decode?_encode_iff`
says it of leases, checkpoints, hubs and ranges of partitions.
-/

namespace PartitionHost

open Json

/-! ## ASCII -/

namespace Text

def isPlain (c : Char) : Bool := 0x20 ≤ c.toNat && c.toNat < 0x80 && c != '"' && c != '\\'

theorem isPlain_of_isDigit {c : Char} (h : c.isDigit = true) : isPlain c = true := by
  have h₁ : 48 ≤ c.toNat := by
    simp only [Char.isDigit, Bool.and_eq_true, decide_eq_true_eq] at h
    exact UInt32.le_iff_toNat_le.1 h.1
  have h₂ : c.toNat ≤ 57 := by
    simp only [Char.isDigit, Bool.and_eq_true, decide_eq_true_eq] at h
    exact UInt32.le_iff_toNat_le.1 h.2
  have hquote : c ≠ '"' := by rintro rfl; exact absurd h₁ (by decide)
  have hslash : c ≠ '\\' := by rintro rfl; exact absurd h₂ (by decide)
  simp [isPlain, hquote, hslash]
  omega

theorem escapeChar_of_isPlain {c : Char} (h : isPlain c = true) : escapeChar c = [octet c] := by
  simp only [isPlain, Bool.and_eq_true, decide_eq_true_eq, bne_iff_ne, ne_eq] at h
  obtain ⟨⟨⟨hge, hlt⟩, hquote⟩, hslash⟩ := h
  have hne : ∀ d : Char, d.toNat < 0x20 → c ≠ d := by
    rintro d hd rfl
    omega
  have hsmall : c.val.toNat ≤ 0x7F := by
    change c.toNat ≤ 0x7F
    omega
  unfold escapeChar
  rw [if_neg hquote, if_neg hslash, if_neg (by omega), if_neg (by omega),
    if_neg (hne _ (by decide)), if_neg (hne _ (by decide)), if_neg (hne _ (by decide)),
    if_neg (by omega)]
  simp only [String.utf8EncodeChar, if_pos hsmall]
  rfl

end Text

namespace Json.Value

theorem asciiBytes_eq_escape {cs : List Char} (h : ∀ c ∈ cs, Text.isPlain c = true) :
    asciiBytes cs = escape (String.ofList cs) := by
  rw [escape, String.toList_ofList]
  induction cs with
  | nil => rfl
  | cons c cs ih =>
      have hcs := ih fun c hc => h c (List.mem_cons_of_mem _ hc)
      rw [List.flatMap_cons, ← hcs, Text.escapeChar_of_isPlain (h c List.mem_cons_self)]
      rfl

theorem toNat_octet {c : Char} (h : Text.isPlain c = true) : (octet c).toNat = c.toNat := by
  simp only [Text.isPlain, Bool.and_eq_true, decide_eq_true_eq] at h
  simp only [octet, Nat.toUInt8, UInt8.toNat_ofNat']
  omega

theorem asciiChars_asciiBytes {cs : List Char} (h : ∀ c ∈ cs, Text.isPlain c = true) :
    asciiChars (asciiBytes cs) = cs := by
  induction cs with
  | nil => rfl
  | cons c cs ih =>
      have hc := toNat_octet (h c List.mem_cons_self)
      have hcs := ih fun c hc => h c (List.mem_cons_of_mem _ hc)
      simp only [asciiBytes, asciiChars, List.map_cons, List.cons.injEq] at hcs ⊢
      exact ⟨by rw [hc, Char.ofNat_toNat], hcs⟩

theorem isDigit_octet {c : Char} (h : c.isDigit = true) : isDigit (octet c) = true := by
  have hc := toNat_octet (Text.isPlain_of_isDigit h)
  simp only [Char.isDigit, Bool.and_eq_true, decide_eq_true_eq, ge_iff_le,
    UInt32.le_iff_toNat_le] at h
  simp only [isDigit, Bool.and_eq_true, decide_eq_true_eq, UInt8.le_iff_toNat_le, hc]
  exact h

/-! ## Numerals -/

theorem all_isDigit_asciiBytes {ds : List Char} (h : ∀ c ∈ ds, c.isDigit = true) :
    ∀ b ∈ asciiBytes ds, isDigit b = true := by
  intro b hb
  obtain ⟨c, hc, rfl⟩ := List.mem_map.1 hb
  exact isDigit_octet (h c hc)

theorem digits?_asciiBytes_digits (n : Nat) : digits? (asciiBytes (Text.digits n)) = some n := by
  have hd : ∀ c ∈ Text.digits n, c.isDigit = true := fun _ => Text.isDigit_of_mem_digits
  rw [digits?, if_pos (List.all_eq_true.2 (all_isDigit_asciiBytes hd)),
    asciiChars_asciiBytes fun c hc => Text.isPlain_of_isDigit (hd c hc), Text.ofDigits_digits]

theorem head?_digits {n : Nat} (h : 0 < n) : (Text.digits n).head? ≠ some '0' := by
  induction n using Nat.strongRecOn with
  | ind n ih =>
      unfold Text.digits at ih ⊢
      rw [Nat.toDigits_eq_if (by decide)]
      split
      · rename_i hlt
        have : ∀ m : Nat, m < 10 → 0 < m → [m.digitChar].head? ≠ some '0' := by decide
        exact this n hlt h
      · rename_i hge
        have hlt : n / 10 < n := Nat.div_lt_self h (by decide)
        rw [List.head?_append]
        intro hzero
        rcases Option.or_eq_some_iff.1 hzero with hzero | ⟨hnone, -⟩
        · exact ih (n / 10) hlt (by omega) hzero
        · exact Nat.toDigits_ne_nil (List.head?_eq_none_iff.1 hnone)

theorem isWhole_digits (n : Nat) : IsWhole (asciiBytes (Text.digits n)) := by
  have hd : ∀ b ∈ asciiBytes (Text.digits n), isDigit b = true :=
    all_isDigit_asciiBytes fun _ => Text.isDigit_of_mem_digits
  have hne : asciiBytes (Text.digits n) ≠ [] := fun h =>
    Text.digits_ne_nil n (List.map_eq_nil_iff.1 h)
  rcases Nat.eq_zero_or_pos n with rfl | hn
  · exact .zero
  · refine .digits ⟨hne, hd⟩ fun hzero => head?_digits hn ?_
    rw [asciiBytes, List.head?_map] at hzero
    obtain ⟨c, hc, hoctet⟩ := Option.map_eq_some_iff.1 hzero
    have hplain := Text.isPlain_of_isDigit (Text.isDigit_of_mem_digits (List.mem_of_mem_head? hc))
    have hcode := toNat_octet hplain
    rw [hoctet] at hcode
    have hchar : c = '0' := Char.toNat_inj.1 hcode.symm
    rw [hc, hchar]

theorem isNumber_digits (n : Nat) : IsNumber (asciiBytes (Text.digits n)) := by
  simpa using IsNumber.intro (.inl rfl) (isWhole_digits n) .none .none

theorem isNumber_neg_digits (n : Nat) : IsNumber (0x2D :: asciiBytes (Text.digits n)) := by
  simpa using IsNumber.intro (.inr rfl) (isWhole_digits n) .none .none

theorem isNumber_signedDigits (n : Int) : IsNumber (asciiBytes (Text.signedDigits n)) := by
  cases n with
  | ofNat n => exact isNumber_digits n
  | negSucc n => exact isNumber_neg_digits (n + 1)

/-! ## Fields -/

@[simp] theorem text?_ofText (s : String) : (ofText s).text? = some s := unescape?_escape s

theorem isSound_ofText (s : String) : (ofText s).IsSound := by
  rw [ofText, IsSound]
  exact scanString_escape s

@[simp] theorem texts?_ofTexts (ss : List String) : (ofTexts ss).texts? = some ss := by
  rw [ofTexts, texts?]
  induction ss with
  | nil => rfl
  | cons s ss ih =>
      rw [List.map_cons, List.mapM_cons, ih, text?_ofText]
      rfl

theorem isSound_ofTexts (ss : List String) : (ofTexts ss).IsSound := by
  rw [ofTexts, IsSound]
  induction ss with
  | nil => trivial
  | cons s ss ih =>
      rw [List.map_cons, AreSound]
      exact ⟨isSound_ofText s, ih⟩

theorem isPlain_of_mem_text (t : Timestamp) : ∀ c ∈ t.text, Text.isPlain c = true := by
  have hpad : ∀ {width n c}, c ∈ Text.paddedDigits width n → Text.isPlain c = true :=
    fun h => Text.isPlain_of_isDigit (Text.isDigit_of_mem_paddedDigits h)
  have hyear : ∀ {year c}, c ∈ Timestamp.yearText year → Text.isPlain c = true := by
    intro year c hc
    unfold Timestamp.yearText at hc
    split at hc
    · exact hpad hc
    · rcases List.mem_cons.1 hc with rfl | hc
      · split <;> decide
      · exact hpad hc
  have hfraction : ∀ {nanos c}, c ∈ Timestamp.fractionText nanos → Text.isPlain c = true := by
    intro nanos c hc
    unfold Timestamp.fractionText at hc
    split at hc
    · cases hc
    split at hc
    · rcases List.mem_cons.1 hc with rfl | hc
      · decide
      · exact hpad hc
    split at hc <;>
    · rcases List.mem_cons.1 hc with rfl | hc
      · decide
      · exact hpad hc
  intro c hc
  simp only [Timestamp.text, List.mem_append, List.mem_cons, List.not_mem_nil, or_false] at hc
  rcases hc with ((((((hc | rfl | hc) | rfl | hc) | rfl | hc) | rfl | hc) | rfl | hc) | hc) | rfl
  all_goals first | exact hyear hc | exact hpad hc | exact hfraction hc | decide

theorem ofTimestamp_eq_ofText (t : Timestamp) : ofTimestamp t = ofText (String.ofList t.text) := by
  rw [ofTimestamp, ofText, asciiBytes_eq_escape (isPlain_of_mem_text t)]

@[simp] theorem timestamp?_ofTimestamp (t : Timestamp) : (ofTimestamp t).timestamp? = some t := by
  rw [timestamp?, ofTimestamp_eq_ofText, text?_ofText, Option.bind_some, String.toList_ofList,
    Timestamp.ofText?_text]

theorem isSound_ofTimestamp (t : Timestamp) : (ofTimestamp t).IsSound := by
  rw [ofTimestamp_eq_ofText]
  exact isSound_ofText _

theorem isSound_ofNatural (n : Nat) : (ofNatural n).IsSound := by
  rw [ofNatural, IsSound]
  exact (isNumber_digits n).isNumeral

theorem natural?_ofNatural (n : Nat) :
    (ofNatural n).natural? = if n < 1 <<< 64 then some n else none := by
  rw [ofNatural, natural?, digits?_asciiBytes_digits]
  simp [Option.filter]

theorem lt_of_natural? {v : Value} {n : Nat} (h : v.natural? = some n) : n < 0x10000000000000000 := by
  cases v with
  | number numeral => simpa using (Option.filter_eq_some_iff.1 h).2
  | _ => cases h

theorem ofNatural_injective {m n : Nat} (h : ofNatural m = ofNatural n) : m = n := by
  have := digits?_asciiBytes_digits m
  rw [Value.number.inj h, digits?_asciiBytes_digits] at this
  exact (Option.some.inj this).symm

theorem isSound_ofInteger (n : Int) : (ofInteger n).IsSound := by
  rw [ofInteger, IsSound]
  exact (isNumber_signedDigits n).isNumeral

theorem asciiBytes_digits_ne_neg (n : Nat) (rest : Bytes) :
    asciiBytes (Text.digits n) ≠ 0x2D :: rest := by
  intro h
  have hd : 0x2D ∈ asciiBytes (Text.digits n) := h ▸ List.mem_cons_self
  exact absurd (all_isDigit_asciiBytes (fun _ => Text.isDigit_of_mem_digits) 0x2D hd) (by decide)

theorem ofInteger_injective {m n : Int} (h : ofInteger m = ofInteger n) : m = n := by
  have h := Value.number.inj h
  cases m with
  | ofNat m =>
      cases n with
      | ofNat n => rw [ofNatural_injective (congrArg number h)]
      | negSucc n => exact absurd h (asciiBytes_digits_ne_neg m _)
  | negSucc m =>
      cases n with
      | ofNat n => exact absurd h.symm (asciiBytes_digits_ne_neg n _)
      | negSucc n =>
          have hdigits := ofNatural_injective (congrArg number (List.cons.inj h).2)
          rw [Nat.succ.inj hdigits]

theorem integer?_ofInteger (n : Int) :
    (ofInteger n).integer? = if -0x8000000000000000 ≤ n ∧ n < 0x8000000000000000 then some n else none := by
  cases n with
  | ofNat n =>
      rw [ofInteger, Text.signedDigits, integer?, digits?_asciiBytes_digits, Option.filter_some]
      · simp only [decide_eq_true_eq, Int.ofNat_eq_natCast]
        by_cases hroom : n < 1 <<< 63
        · rw [if_pos hroom, if_pos (by omega)]
          rfl
        · rw [if_neg hroom, if_neg (by omega)]
          rfl
      · exact asciiBytes_digits_ne_neg n
  | negSucc n =>
      rw [ofInteger, Text.signedDigits, asciiBytes, List.map_cons]
      change integer? (.number (0x2D :: asciiBytes (Text.digits (n + 1)))) = _
      rw [integer?, digits?_asciiBytes_digits, Option.filter_some]
      simp only [Bool.and_eq_true, decide_eq_true_eq]
      by_cases hroom : n + 1 ≤ 1 <<< 63
      · rw [if_pos ⟨Nat.succ_pos n, hroom⟩, if_pos (by omega)]
        rfl
      · rw [if_neg (by omega), if_neg (by omega)]
        rfl

theorem le_and_lt_of_integer? {v : Value} {n : Int} (h : v.integer? = some n) :
    -0x8000000000000000 ≤ n ∧ n < 0x8000000000000000 := by
  unfold integer? at h
  split at h
  · obtain ⟨m, hm, rfl⟩ := Option.map_eq_some_iff.1 h
    have hroom := (Option.filter_eq_some_iff.1 hm).2
    simp only [Bool.and_eq_true, decide_eq_true_eq] at hroom
    omega
  · obtain ⟨m, hm, rfl⟩ := Option.map_eq_some_iff.1 h
    have hroom := (Option.filter_eq_some_iff.1 hm).2
    simp only [decide_eq_true_eq] at hroom
    omega
  · cases h

/-! ## Objects of fields -/

theorem valuesOf_zip_of_not_mem {name : String} {names : List String} (h : name ∉ names)
    (values : List Value) : valuesOf name (names.zip values) = [] := by
  simp only [valuesOf, List.map_eq_nil_iff, List.filter_eq_nil_iff, beq_iff_eq]
  rintro ⟨n, v⟩ hmem rfl
  exact h (List.of_mem_zip hmem).1

theorem valuesOf_append (name : String) (ms ns : List (String × Value)) :
    valuesOf name (ms ++ ns) = valuesOf name ms ++ valuesOf name ns := by
  simp [valuesOf]

theorem mapM_only? {names : List String} (hnames : names.Nodup) :
    ∀ {values : List Value}, values.length = names.length → ∀ {ms : List (String × Value)},
      (∀ name ∈ names, valuesOf name ms = []) →
      names.mapM (only? · (ms ++ names.zip values)) = some values := by
  induction names with
  | nil =>
      intro values hlength ms _
      rw [List.length_eq_zero_iff.1 hlength]
      rfl
  | cons name names ih =>
      rintro (_ | ⟨v, values⟩) hlength ms hms
      · cases hlength
      · obtain ⟨hname, hnames⟩ := List.nodup_cons.1 hnames
        have hself : valuesOf name [(name, v)] = [v] := by simp [valuesOf]
        have hthis : only? name (ms ++ (name :: names).zip (v :: values)) = some v := by
          rw [only?, valuesOf_append, hms name List.mem_cons_self, List.zip_cons_cons,
            ← List.singleton_append, valuesOf_append, hself, valuesOf_zip_of_not_mem hname]
          rfl
        have hms' : ∀ n ∈ names, valuesOf n (ms ++ [(name, v)]) = [] := by
          intro n hn
          have hne : name ≠ n := fun h => hname (h ▸ hn)
          rw [valuesOf_append, hms n (List.mem_cons_of_mem _ hn)]
          simp [valuesOf, hne]
        have hlength' : values.length = names.length := by simpa using hlength
        have hrest := ih hnames hlength' hms'
        rw [List.append_assoc, List.singleton_append] at hrest
        rw [List.mapM_cons, hthis, List.zip_cons_cons, hrest]
        rfl

theorem members?_zipWith (names : List String) (values : List Value) :
    members? (names.zipWith (fun name v => (escape name, v)) values) = some (names.zip values) := by
  unfold members?
  induction names generalizing values with
  | nil => rfl
  | cons name names ih =>
      cases values with
      | nil => rfl
      | cons v values =>
          rw [List.zipWith_cons_cons, List.mapM_cons, ih]
          simp only [unescape?_escape]
          rfl

theorem fields?_ofFields {names : List String} (hnames : names.Nodup) {values : List Value}
    (hlength : values.length = names.length) :
    fields? names (ofFields names values) = some values := by
  have hnone : ∀ name ∈ names, valuesOf name [] = [] := fun _ _ => rfl
  rw [ofFields, fields?, members?_zipWith, Option.bind_some]
  exact mapM_only? hnames hlength hnone

theorem isSound_ofFields (names : List String) {values : List Value}
    (h : ∀ v ∈ values, v.IsSound) : (ofFields names values).IsSound := by
  rw [ofFields, IsSound]
  induction names generalizing values with
  | nil => trivial
  | cons name names ih =>
      cases values with
      | nil => trivial
      | cons v values =>
          rw [List.zipWith_cons_cons, AreSoundMembers]
          exact ⟨scanString_escape name, h v List.mem_cons_self,
            ih fun v hv => h v (List.mem_cons_of_mem _ hv)⟩

end Json.Value

/-! ## Fields of records -/

theorem forall_of_forall₂ {β γ : Type} {R : β → γ → Prop} {p : γ → Prop} {xs : List β} {ys : List γ}
    (h : List.Forall₂ R xs ys) (hp : ∀ x y, R x y → p y) : ∀ y ∈ ys, p y := by
  induction h with
  | nil => exact nofun
  | cons hxy _ ih => exact List.forall_mem_cons.2 ⟨hp _ _ hxy, ih⟩

namespace Record

open Value

namespace Field

/-- Whether there is room for what a field holds. -/
def Fits : Field → Prop
  | ⟨.natural, n⟩ => n < 0x10000000000000000
  | ⟨.integer, n⟩ => -0x8000000000000000 ≤ n ∧ n < 0x8000000000000000
  | ⟨.text, _⟩ | ⟨.texts, _⟩ | ⟨.timestamp, _⟩ => True

instance : DecidablePred Fits
  | ⟨.natural, n⟩ => inferInstanceAs (Decidable (n < _))
  | ⟨.integer, n⟩ => inferInstanceAs (Decidable (_ ≤ n ∧ n < _))
  | ⟨.text, _⟩ | ⟨.texts, _⟩ | ⟨.timestamp, _⟩ => isTrue trivial

theorem isSound_value (f : Field) : f.value.IsSound := by
  obtain ⟨kind, content⟩ := f
  cases kind with
  | text => exact isSound_ofText content
  | texts => exact isSound_ofTexts content
  | timestamp => exact isSound_ofTimestamp content
  | natural => exact isSound_ofNatural content
  | integer => exact isSound_ofInteger content

theorem content?_value (f : Field) :
    f.kind.content? f.value = if f.Fits then some f.content else none := by
  obtain ⟨kind, content⟩ := f
  cases kind with
  | text => exact text?_ofText content
  | texts => exact texts?_ofTexts content
  | timestamp => exact timestamp?_ofTimestamp content
  | natural => exact natural?_ofNatural content
  | integer => exact integer?_ofInteger content

theorem Kind.value_injective (kind : Kind) {x y : kind.Content} (h : kind.value x = kind.value y) :
    x = y := by
  cases kind with
  | text => simpa [value] using congrArg text? h
  | texts => simpa [value] using congrArg texts? h
  | timestamp => simpa [value] using congrArg timestamp? h
  | natural => exact ofNatural_injective h
  | integer => exact ofInteger_injective h

/-- The value is read as one that holds what the field does. -/
def Reads (f : Field) (v : Value) : Prop := f.kind.content? v = some f.content

theorem Reads.fits {f : Field} {v : Value} (h : f.Reads v) : f.Fits := by
  obtain ⟨kind, content⟩ := f
  cases kind with
  | text => trivial
  | texts => trivial
  | timestamp => trivial
  | natural => exact lt_of_natural? h
  | integer => exact le_and_lt_of_integer? h

end Field

namespace Schema

variable {s : Schema}

theorem length_fields (s : Schema) (contents : s.Contents) :
    (s.fields contents).length = s.names.length := by
  induction s with
  | nil => rfl
  | cons named s ih => exact congrArg (· + 1) (ih contents.2)

theorem contents?_fields (s : Schema) (contents : s.Contents) :
    s.contents? ((s.fields contents).map Field.value) =
      if ∀ f ∈ s.fields contents, f.Fits then some contents else none := by
  induction s with
  | nil => rfl
  | cons named s ih =>
      obtain ⟨name, kind⟩ := named
      obtain ⟨content, rest⟩ := contents
      have hcontent : kind.content? (Field.value ⟨kind, content⟩) = _ := Field.content?_value ⟨kind, content⟩
      simp only [fields, List.map_cons, contents?, List.forall_mem_cons, hcontent, ih rest]
      by_cases hfits : Field.Fits ⟨kind, content⟩
      · rw [if_pos hfits]
        by_cases hrest : ∀ f ∈ fields s rest, f.Fits
        · rw [if_pos hrest, if_pos ⟨hfits, hrest⟩]
          rfl
        · rw [if_neg hrest, if_neg (mt And.right hrest)]
          rfl
      · rw [if_neg hfits, if_neg (mt And.left hfits)]
        rfl

theorem contents?_eq_some_iff {contents : s.Contents} {values : List Value} :
    s.contents? values = some contents ↔ List.Forall₂ Field.Reads (s.fields contents) values := by
  induction s generalizing values with
  | nil => cases values <;> simp [contents?, fields]
  | cons named s ih =>
      obtain ⟨content, rest⟩ := contents
      cases values with
      | nil => simp [contents?, fields]
      | cons v values =>
          simp [contents?, fields, Field.Reads, Option.bind_eq_some_iff, ← ih]

theorem contents_eq_of_values {contents contents' : s.Contents}
    (h : (s.fields contents).map Field.value = (s.fields contents').map Field.value) :
    contents = contents' := by
  induction s with
  | nil => rfl
  | cons named s ih =>
      obtain ⟨hvalue, hvalues⟩ := List.cons.inj h
      exact Prod.ext (Field.Kind.value_injective _ hvalue) (ih hvalues)

end Schema

/-! ## Records -/

variable {α : Type} [Record α]

theorem nodup_fieldNames (α : Type) [Record α] : (fieldNames α).Nodup := nodup

theorem isSound_toJson (a : α) : (toJson a).IsSound :=
  isSound_ofFields _ (List.forall_mem_map.2 fun f _ => f.isSound_value)

theorem length_fields (a : α) : (fields a).length = (fieldNames α).length :=
  (schema α).length_fields (contents a)

theorem fields?_toJson (a : α) :
    Value.fields? (fieldNames α) (toJson a) = some ((fields a).map Field.value) :=
  fields?_ofFields (nodup_fieldNames α) ((List.length_map _).trans (length_fields a))

theorem ofValues?_eq_some_iff {a : α} {values : List Value} :
    ofValues? values = some a ↔ List.Forall₂ Field.Reads (fields a) values := by
  rw [ofValues?, Option.map_eq_some_iff]
  constructor
  · rintro ⟨c, hc, rfl⟩
    rw [fields, contents_ofContents]
    exact Schema.contents?_eq_some_iff.1 hc
  · intro h
    exact ⟨contents a, Schema.contents?_eq_some_iff.2 h, ofContents_contents a⟩

theorem fits_of_decode? {bs : Bytes} {a : α} (h : decode? bs = some a) : ∀ f ∈ fields a, f.Fits := by
  obtain ⟨j, -, hj⟩ := Option.bind_eq_some_iff.1 h
  obtain ⟨values, -, hvalues⟩ := Option.bind_eq_some_iff.1 hj
  exact forall_of_forall₂ (ofValues?_eq_some_iff.1 hvalues).flip fun _ _ => Field.Reads.fits

/-- A record is read back if there is room for each of its fields; if not, it is unreadable. -/
theorem decode?_encode (a : α) :
    decode? (encode a) = if ∀ f ∈ fields a, f.Fits then some a else none := by
  rw [decode?, encode, ofBytes?_bytes (isSound_toJson a), Option.bind_some, ofJson?, fields?_toJson,
    Option.bind_some, ofValues?, fields, Schema.contents?_fields]
  split
  · rw [Option.map_some, ofContents_contents]
  · rfl

theorem decode?_encode_eq_iff (a : α) : decode? (encode a) = some a ↔ ∀ f ∈ fields a, f.Fits := by
  rw [decode?_encode]
  split <;> simp_all

theorem encode_injective {a b : α} (h : encode a = encode b) : a = b := by
  have hjson : some (toJson a) = some (toJson b) := by
    rw [← ofBytes?_bytes (isSound_toJson a), ← ofBytes?_bytes (isSound_toJson b)]
    exact congrArg ofBytes? h
  have hvalues : some ((fields a).map Field.value) = some ((fields b).map Field.value) := by
    rw [← fields?_toJson a, ← fields?_toJson b, Option.some.inj hjson]
  have hcontents := Schema.contents_eq_of_values (Option.some.inj hvalues)
  rw [← ofContents_contents a, hcontents, ofContents_contents]

end Record

open Record

/-- A stored lease is read back as long as its epoch has room in 64 bits; beyond it is unreadable. -/
theorem Lease.decode?_encode (l : Lease) :
    decode? (encode l) = if l.epoch < 1 <<< 64 then some l else none := by
  simp [Record.decode?_encode, fields, schema, contents, Schema.fields, Field.Fits]

theorem Checkpoint.decode?_encode (c : Checkpoint) : decode? (encode c) =
    if -0x8000000000000000 ≤ c.sequenceNumber ∧ c.sequenceNumber < 0x8000000000000000 then some c
    else none := by
  simp [Record.decode?_encode, fields, schema, contents, Schema.fields, Field.Fits]

/--
A record of any kind is read back from the text that it is written as exactly if each of its numbers has
room in 64 bits. Its texts are any texts, and its instants any instants, of years with a sign and leap
seconds too.
-/
theorem decode?_encode_iff :
    (∀ l : Lease, decode? (encode l) = some l ↔ l.epoch < 0x10000000000000000) ∧
    (∀ c : Checkpoint, decode? (encode c) = some c ↔
      -0x8000000000000000 ≤ c.sequenceNumber ∧ c.sequenceNumber < 0x8000000000000000) ∧
    (∀ h : Hub, decode? (encode h) = some h ↔ h.partitionCount < 0x10000000000000000) ∧
    ∀ p : PartitionRange, decode? (encode p) = some p ↔
      (-0x8000000000000000 ≤ p.firstSequenceNumber ∧ p.firstSequenceNumber < 0x8000000000000000) ∧
        -0x8000000000000000 ≤ p.lastSequenceNumber ∧ p.lastSequenceNumber < 0x8000000000000000 := by
  refine ⟨fun l => ?_, fun c => ?_, fun h => ?_, fun p => ?_⟩ <;>
    simp [decode?_encode_eq_iff, fields, schema, contents, Schema.fields, Field.Fits]

end PartitionHost
