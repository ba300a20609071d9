import PartitionHost.Json.Value
import PartitionHost.Proofs.Json.StringText

/-!
# Values read back

`ofBytes?_bytes`: a value is read back from its text if its numerals are numerals and the insides of its
strings are such. It is enough that each token is read back where punctuation or the end of the text
follows it (`Token.ofBytes?_append`), since the tokens of a value never put two words next to each other,
and that the tokens of a value lead to the value from wherever one may come (`Value.resume?_tokens`).
-/

namespace PartitionHost.Json

namespace Token

/-! ## Tokens -/

def isMark : Token → Bool
  | .openArray | .closeArray | .openObject | .closeObject | .comma | .colon => Bool.true
  | _ => Bool.false

structure IsNumeral (numeral : Bytes) : Prop where
  form : isNumeral numeral = Bool.true
  parts : ∀ b ∈ numeral, isNumeralPart b = Bool.true
  head : ∀ b, numeral.head? = some b → isDigit b = Bool.true ∨ b = 0x2D

/-- A token whose numeral is one, or whose inside of a string ends at the closing quote. -/
def IsSound : Token → Prop
  | .number numeral => IsNumeral numeral
  | .string raw => ∀ rest, scanString (raw ++ 0x22 :: rest) = some (raw, rest)
  | _ => True

/-- No letter and no part of a numeral stands in front. -/
def Breaks (bs : Bytes) : Prop :=
  ∀ b, bs.head? = some b → isLowerLetter b = Bool.false ∧ isNumeralPart b = Bool.false

theorem takeWhile_append {p : UInt8 → Bool} {bs rest : Bytes} (h : ∀ b ∈ bs, p b = Bool.true)
    (hr : ∀ b, rest.head? = some b → p b = Bool.false) :
    (bs ++ rest).takeWhile p = bs ∧ (bs ++ rest).dropWhile p = rest := by
  induction bs with
  | nil =>
      cases rest with
      | nil => exact ⟨rfl, rfl⟩
      | cons b rest => simp [hr b rfl]
  | cons b bs ih =>
      have := ih fun b hb => h b (List.mem_cons_of_mem _ hb)
      simp [h b List.mem_cons_self, this]

theorem punctuation?_of_part {b : UInt8} (h : isDigit b = Bool.true ∨ b = 0x2D) :
    isSpace b = Bool.false ∧ punctuation? b = none ∧ b ≠ 0x22 ∧ isLowerLetter b = Bool.false := by
  rcases h with h | rfl
  · simp only [isDigit, Bool.and_eq_true, decide_eq_true_eq, UInt8.le_iff_toNat_le] at h
    have h₁ : 0x30 ≤ b.toNat := h.1
    have h₂ : b.toNat ≤ 0x39 := h.2
    have hne : ∀ n : UInt8, n.toNat < 0x30 ∨ 0x39 < n.toNat → b ≠ n := by
      rintro n hn rfl
      omega
    refine ⟨?_, ?_, hne _ (by decide), ?_⟩
    · simp [isSpace, hne 0x20 (by decide), hne 0x09 (by decide), hne 0x0A (by decide),
        hne 0x0D (by decide)]
    · simp [punctuation?, hne 0x5B (by decide), hne 0x5D (by decide), hne 0x7B (by decide),
        hne 0x7D (by decide), hne 0x2C (by decide), hne 0x3A (by decide)]
    · simp only [isLowerLetter, Bool.and_eq_false_iff, decide_eq_false_iff_not,
        UInt8.le_iff_toNat_le]
      left
      show ¬ 0x61 ≤ b.toNat
      omega
  · decide

theorem scanToken_word {t : Token} {b : UInt8} {more rest : Bytes} (hr : Breaks rest)
    (hmore : more.all isLowerLetter = Bool.true) (hpunct : punctuation? b = none)
    (hquote : b ≠ 0x22) (hletter : isLowerLetter b = Bool.true) (hword : word? (b :: more) = some t) :
    scanToken b (more ++ rest) = some (t, rest) := by
  have := takeWhile_append (List.all_eq_true.1 hmore) fun c hc => (hr c hc).1
  simp [scanToken, hpunct, hquote, hletter, this, hword]

/-- A sound token is read back where no letter and no part of a numeral follows it. -/
theorem scanToken_bytes {t : Token} (ht : t.IsSound) {rest : Bytes}
    (hr : t.isMark = Bool.true ∨ Breaks rest) :
    ∃ b more, t.bytes = b :: more ∧ isSpace b = Bool.false ∧
      scanToken b (more ++ rest) = some (t, rest) := by
  cases t with
  | openArray => exact ⟨_, _, rfl, by decide, rfl⟩
  | closeArray => exact ⟨_, _, rfl, by decide, rfl⟩
  | openObject => exact ⟨_, _, rfl, by decide, rfl⟩
  | closeObject => exact ⟨_, _, rfl, by decide, rfl⟩
  | comma => exact ⟨_, _, rfl, by decide, rfl⟩
  | colon => exact ⟨_, _, rfl, by decide, rfl⟩
  | null =>
      exact ⟨0x6E, [0x75, 0x6C, 0x6C], rfl, by decide, scanToken_word (hr.resolve_left (by decide))
        (by decide) (by decide) (by decide) (by decide) (by decide)⟩
  | true =>
      exact ⟨0x74, [0x72, 0x75, 0x65], rfl, by decide, scanToken_word (hr.resolve_left (by decide))
        (by decide) (by decide) (by decide) (by decide) (by decide)⟩
  | false =>
      exact ⟨0x66, [0x61, 0x6C, 0x73, 0x65], rfl, by decide,
        scanToken_word (hr.resolve_left (by decide)) (by decide) (by decide) (by decide) (by decide)
          (by decide)⟩
  | string raw =>
      refine ⟨0x22, raw ++ [0x22], rfl, by decide, ?_⟩
      have := ht rest
      simp [scanToken, punctuation?, this]
  | number numeral =>
      have hbreaks : Breaks rest := hr.resolve_left (by simp [isMark])
      cases numeral with
      | nil => exact absurd ht.form (by decide)
      | cons b more =>
          obtain ⟨hspace, hpunct, hquote, hletter⟩ := punctuation?_of_part (ht.head b rfl)
          have := takeWhile_append (fun c hc => ht.parts c (List.mem_cons_of_mem _ hc))
            fun c hc => (hbreaks c hc).2
          refine ⟨b, more, rfl, hspace, ?_⟩
          simp [scanToken, hpunct, hquote, hletter, this, ht.form]

theorem ofBytes?_append {t : Token} (ht : t.IsSound) {rest : Bytes}
    (hr : t.isMark = Bool.true ∨ Breaks rest) :
    ofBytes? (t.bytes ++ rest) = (ofBytes? rest).map (t :: ·) := by
  obtain ⟨b, more, hbytes, hspace, hscan⟩ := scanToken_bytes ht hr
  rw [hbytes, List.cons_append, ofBytes?, if_neg (by simp [hspace])]
  split
  · rename_i h
    rw [hscan] at h
    cases h
  · rename_i h
    rw [hscan] at h
    cases h
    rfl

/-! ## Runs of tokens -/

/-- Tokens that are sound, with no two words, numerals or strings next to each other. -/
def Tidy : List Token → Prop
  | [] => True
  | t :: ts => t.IsSound ∧ (t.isMark = Bool.true ∨ ∀ t', ts.head? = some t' → t'.isMark = Bool.true) ∧
      Tidy ts

theorem breaks_of_head {ts : List Token} (h : ∀ t, ts.head? = some t → t.isMark = Bool.true) :
    Breaks (ts.flatMap bytes) := by
  cases ts with
  | nil => intro b hb; cases hb
  | cons t ts =>
      have ht := h t rfl
      intro b hb
      cases t with
      | openArray => cases hb; decide
      | closeArray => cases hb; decide
      | openObject => cases hb; decide
      | closeObject => cases hb; decide
      | comma => cases hb; decide
      | colon => cases hb; decide
      | _ => cases ht

theorem ofBytes?_flatMap {ts : List Token} (h : Tidy ts) : ofBytes? (ts.flatMap bytes) = some ts := by
  induction ts with
  | nil => rw [List.flatMap_nil, ofBytes?]
  | cons t ts ih =>
      obtain ⟨ht, hnext, hts⟩ := h
      rw [List.flatMap_cons, ofBytes?_append ht (hnext.imp_right breaks_of_head), ih hts]
      rfl

end Token

namespace Value

open Token (Tidy)

/-! ## Values -/

mutual

/-- A value with numerals that are numerals and strings that end at their closing quotes. -/
def IsSound : Value → Prop
  | .number numeral => Token.IsNumeral numeral
  | .string raw => (Token.string raw).IsSound
  | .array items => AreSound items
  | .object members => AreSoundMembers members
  | _ => True

def AreSound : List Value → Prop
  | [] => True
  | v :: vs => v.IsSound ∧ AreSound vs

def AreSoundMembers : List (Bytes × Value) → Prop
  | [] => True
  | (name, v) :: ms => (Token.string name).IsSound ∧ v.IsSound ∧ AreSoundMembers ms

end

/-- No further tokens, or ones that begin with a bracket, a brace, a comma or a colon. -/
def StartsWithMark (ts : List Token) : Prop := ∀ t, ts.head? = some t → t.isMark = true

theorem itemTokens_cons_cons (v w : Value) (rest : List Value) :
    itemTokens (v :: w :: rest) = v.tokens ++ .comma :: itemTokens (w :: rest) := by
  rw [itemTokens]
  simp

theorem memberTokens_cons_cons (name : Bytes) (v : Value) (m : Bytes × Value)
    (rest : List (Bytes × Value)) :
    memberTokens ((name, v) :: m :: rest) =
      .string name :: .colon :: v.tokens ++ .comma :: memberTokens (m :: rest) := by
  rw [memberTokens]
  simp

mutual

theorem tidy_tokens (v : Value) (h : v.IsSound) {ts : List Token} (hts : Tidy ts)
    (hmark : StartsWithMark ts) : Tidy (v.tokens ++ ts) := by
  cases v with
  | null => exact ⟨trivial, .inr hmark, hts⟩
  | bool b =>
      cases b with
      | true => exact ⟨trivial, .inr hmark, hts⟩
      | false => exact ⟨trivial, .inr hmark, hts⟩
  | number numeral => rw [IsSound] at h; exact ⟨h, .inr hmark, hts⟩
  | string raw => rw [IsSound] at h; exact ⟨h, .inr hmark, hts⟩
  | array items =>
      rw [IsSound] at h
      rw [tokens]
      exact ⟨trivial, .inl rfl, tidy_itemTokens items h hts⟩
  | object members =>
      rw [IsSound] at h
      rw [tokens]
      exact ⟨trivial, .inl rfl, tidy_memberTokens members h hts⟩

theorem tidy_itemTokens (vs : List Value) (h : AreSound vs) {ts : List Token} (hts : Tidy ts) :
    Tidy (itemTokens vs ++ ts) := by
  have hclose : Tidy (.closeArray :: ts) := ⟨trivial, .inl rfl, hts⟩
  match vs with
  | [] => exact hclose
  | [v] =>
      rw [AreSound] at h
      rw [itemTokens, List.append_assoc]
      exact tidy_tokens v h.1 hclose (by rintro t ⟨⟩; rfl)
  | v :: w :: rest =>
      rw [AreSound] at h
      rw [itemTokens_cons_cons, List.append_assoc]
      exact tidy_tokens v h.1 ⟨trivial, .inl rfl, tidy_itemTokens (w :: rest) h.2 hts⟩
        (by rintro t ⟨⟩; rfl)

theorem tidy_memberTokens (ms : List (Bytes × Value)) (h : AreSoundMembers ms) {ts : List Token}
    (hts : Tidy ts) : Tidy (memberTokens ms ++ ts) := by
  have hclose : Tidy (.closeObject :: ts) := ⟨trivial, .inl rfl, hts⟩
  match ms with
  | [] => exact hclose
  | [(name, v)] =>
      rw [AreSoundMembers] at h
      rw [memberTokens]
      simp only [List.cons_append, List.append_assoc]
      exact ⟨h.1, .inr (by rintro t ⟨⟩; rfl), trivial, .inl rfl,
        tidy_tokens v h.2.1 hclose (by rintro t ⟨⟩; rfl)⟩
  | (name, v) :: m :: rest =>
      rw [AreSoundMembers] at h
      rw [memberTokens_cons_cons]
      simp only [List.cons_append, List.append_assoc]
      exact ⟨h.1, .inr (by rintro t ⟨⟩; rfl), trivial, .inl rfl,
        tidy_tokens v h.2.1 ⟨trivial, .inl rfl, tidy_memberTokens (m :: rest) h.2.2 hts⟩
          (by rintro t ⟨⟩; rfl)⟩

end

/-! ## Reading on -/

theorem resume?_cons {fs fs' : List Frame} {stage stage' : Stage} {t : Token} (ts : List Token)
    (h : step? fs stage t = some (fs', stage')) :
    resume? fs stage (t :: ts) = resume? fs' stage' ts := by
  rw [resume?, h]
  rfl

theorem resume?_firstItem (v : Value) (rest : List Value) (fs : List Frame) (ts : List Token) :
    resume? fs .firstItem (itemTokens (v :: rest) ++ ts) =
      resume? (.array [] :: fs) .value (itemTokens (v :: rest) ++ ts) := by
  have hv : ∀ ts, resume? fs .firstItem (v.tokens ++ ts) =
      resume? (.array [] :: fs) .value (v.tokens ++ ts) := by
    intro ts
    cases v with
    | bool b => cases b <;> simp [tokens, resume?, step?]
    | _ => simp [tokens, resume?, step?]
  cases rest with
  | nil => rw [itemTokens, List.append_assoc, hv]
  | cons w rest => rw [itemTokens_cons_cons, List.append_assoc, hv]

theorem resume?_firstName (m : Bytes × Value) (rest : List (Bytes × Value)) (fs : List Frame)
    (ts : List Token) :
    resume? fs .firstName (memberTokens (m :: rest) ++ ts) =
      resume? fs (.name []) (memberTokens (m :: rest) ++ ts) := by
  cases rest with
  | nil => rw [memberTokens]; exact (resume?_cons _ rfl).trans (resume?_cons _ rfl).symm
  | cons n rest =>
      rw [memberTokens_cons_cons]
      exact (resume?_cons _ rfl).trans (resume?_cons _ rfl).symm

mutual

/-- The tokens of a value lead to the value from wherever a value may come. -/
theorem resume?_tokens (v : Value) (fs : List Frame) (ts : List Token) :
    resume? fs .value (v.tokens ++ ts) = resume? fs (.complete v) ts := by
  match v with
  | .null => rw [tokens]; exact resume?_cons ts rfl
  | .bool true => rw [tokens]; exact resume?_cons ts rfl
  | .bool false => rw [tokens]; exact resume?_cons ts rfl
  | .number numeral => rw [tokens]; exact resume?_cons ts rfl
  | .string raw => rw [tokens]; exact resume?_cons ts rfl
  | .array [] =>
      rw [tokens, itemTokens]
      exact (resume?_cons _ rfl).trans (resume?_cons ts rfl)
  | .array (v :: rest) =>
      rw [tokens, List.cons_append, resume?_cons _ rfl, resume?_firstItem]
      exact resume?_itemTokens v rest fs [] ts
  | .object [] =>
      rw [tokens, memberTokens]
      exact (resume?_cons _ rfl).trans (resume?_cons ts rfl)
  | .object ((name, v) :: rest) =>
      rw [tokens, List.cons_append, resume?_cons _ rfl, resume?_firstName]
      exact resume?_memberTokens name v rest fs [] ts
termination_by sizeOf v

theorem resume?_itemTokens (v : Value) (rest : List Value) (fs : List Frame) (vs : List Value)
    (ts : List Token) :
    resume? (.array vs :: fs) .value (itemTokens (v :: rest) ++ ts) =
      resume? fs (.complete (.array (vs.reverse ++ v :: rest))) ts := by
  match rest with
  | [] =>
      rw [itemTokens, List.append_assoc, resume?_tokens v, ← List.reverse_cons]
      exact resume?_cons ts rfl
  | w :: rest =>
      have hrest := resume?_itemTokens w rest fs (v :: vs) ts
      rw [List.reverse_cons, List.append_assoc] at hrest
      rw [itemTokens_cons_cons, List.append_assoc, resume?_tokens v]
      exact (resume?_cons _ rfl).trans hrest
termination_by sizeOf (v :: rest)

theorem resume?_memberTokens (name : Bytes) (v : Value) (rest : List (Bytes × Value))
    (fs : List Frame) (ms : List (Bytes × Value)) (ts : List Token) :
    resume? fs (.name ms) (memberTokens ((name, v) :: rest) ++ ts) =
      resume? fs (.complete (.object (ms.reverse ++ (name, v) :: rest))) ts := by
  match rest with
  | [] =>
      rw [memberTokens]
      simp only [List.cons_append, List.append_assoc]
      rw [resume?_cons _ rfl, resume?_cons _ rfl, resume?_tokens v, ← List.reverse_cons]
      exact resume?_cons ts rfl
  | (name', w) :: rest =>
      have hrest := resume?_memberTokens name' w rest fs ((name, v) :: ms) ts
      rw [List.reverse_cons, List.append_assoc] at hrest
      rw [memberTokens_cons_cons]
      simp only [List.cons_append, List.append_assoc]
      rw [resume?_cons _ rfl, resume?_cons _ rfl, resume?_tokens v]
      exact (resume?_cons _ rfl).trans hrest
termination_by sizeOf ((name, v) :: rest)

end

theorem IsSound.tidy {v : Value} (h : v.IsSound) : Tidy v.tokens := by
  have hnil : Tidy (v.tokens ++ []) := tidy_tokens v h trivial (by rintro t ⟨⟩)
  rwa [List.append_nil] at hnil

theorem ofTokens?_tokens (v : Value) : ofTokens? v.tokens = some v := by
  have hread := resume?_tokens v [] []
  rw [List.append_nil] at hread
  rw [ofTokens?, hread]
  rfl

theorem ofBytes?_bytes {v : Value} (h : v.IsSound) : ofBytes? v.bytes = some v := by
  rw [ofBytes?, bytes, Token.ofBytes?_flatMap h.tidy, Option.bind_some, ofTokens?_tokens]

end Value

end PartitionHost.Json
