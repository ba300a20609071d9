import PartitionHost.Proofs.Json.ValueText

/-!
# The grammar of JSON

What a string, a number and a value of JSON are, by what they are made of: `IsInside` has what may stand between
quotes, `IsNumber` the numbers, and `Value.IsValid` the values that consist of these. `SpellsText` is narrower
than `IsInside`, since it says which text it is, and there are insides of strings that are no text. All that is
valid is read back (`Value.IsValid.isSound`), and so is a text, with whatever escapes it is written
(`unescape?_of_spells`).
-/

namespace PartitionHost.Json

/-! ## Strings -/

/-- What may stand between quotes where nobody looks at the text: any octets, and escapes that are well formed. -/
inductive IsInside : Bytes → Prop where
  | nil : IsInside []
  | plain {b : UInt8} {raw : Bytes} (hb : isPlain b = true) (h : IsInside raw) : IsInside (b :: raw)
  | letter {e : UInt8} {raw : Bytes} (he : isEscapeLetter e = true) (h : IsInside raw) :
      IsInside (0x5C :: e :: raw)
  | unit {a b c d : UInt8} {raw : Bytes} (ha : isHexDigit a = true) (hb : isHexDigit b = true)
      (hc : isHexDigit c = true) (hd : isHexDigit d = true) (h : IsInside raw) :
      IsInside (0x5C :: 0x75 :: a :: b :: c :: d :: raw)

/-- The escapes of a backslash and one letter. -/
def escapeLetters : List (UInt8 × Char) :=
  [(0x22, '"'), (0x5C, '\\'), (0x2F, '/'), (0x62, '\x08'), (0x66, '\x0C'), (0x6E, '\n'), (0x72, '\r'),
    (0x74, '\t')]

/-- Four hexadecimal digits of this value. -/
structure IsUnit (a b c d : UInt8) (n : Nat) : Prop where
  first : isHexDigit a = true
  second : isHexDigit b = true
  third : isHexDigit c = true
  fourth : isHexDigit d = true
  value : hexValue₄ a b c d = n

/-- The ways to write a text between quotes, where each character may be escaped. -/
inductive SpellsText : Bytes → List Char → Prop where
  | nil : SpellsText [] []
  | plain {c : Char} {raw : Bytes} {cs : List Char} (hquote : c ≠ '"') (hslash : c ≠ '\\')
      (hcontrol : 0x20 ≤ c.toNat) (h : SpellsText raw cs) :
      SpellsText (String.utf8EncodeChar c ++ raw) (c :: cs)
  | letter {e : UInt8} {c : Char} {raw : Bytes} {cs : List Char} (he : (e, c) ∈ escapeLetters)
      (h : SpellsText raw cs) : SpellsText (0x5C :: e :: raw) (c :: cs)
  | unit {a b c d : UInt8} {char : Char} {raw : Bytes} {cs : List Char}
      (hunit : IsUnit a b c d char.toNat) (h : SpellsText raw cs) :
      SpellsText (0x5C :: 0x75 :: a :: b :: c :: d :: raw) (char :: cs)
  | pair {a b c d a' b' c' d' : UInt8} {high low : Nat} {char : Char} {raw : Bytes} {cs : List Char}
      (hhigh : IsUnit a b c d (0xD800 + high)) (hlow : IsUnit a' b' c' d' (0xDC00 + low))
      (hlt : low < 0x400) (hchar : char.toNat = 0x10000 + high * 0x400 + low) (h : SpellsText raw cs) :
      SpellsText (0x5C :: 0x75 :: a :: b :: c :: d :: 0x5C :: 0x75 :: a' :: b' :: c' :: d' :: raw)
        (char :: cs)

variable {raw : Bytes} {cs : List Char}

theorem IsInside.append {bs : Bytes} (hbs : ∀ b ∈ bs, isPlain b = true) (h : IsInside raw) :
    IsInside (bs ++ raw) := by
  induction bs with
  | nil => exact h
  | cons b bs ih =>
      exact .plain (hbs b List.mem_cons_self) (ih fun b hb => hbs b (List.mem_cons_of_mem _ hb))

theorem isEscapeLetter_of_mem : ∀ p ∈ escapeLetters, isEscapeLetter p.1 = true := by decide

theorem SpellsText.isInside (h : SpellsText raw cs) : IsInside raw := by
  induction h with
  | nil => exact .nil
  | plain hquote hslash hcontrol h ih =>
      exact ih.append fun b => isPlain_of_mem_utf8EncodeChar hquote hslash hcontrol
  | @letter e c raw cs he h ih => exact .letter (isEscapeLetter_of_mem (e, c) he) ih
  | unit hunit h ih => exact .unit hunit.first hunit.second hunit.third hunit.fourth ih
  | pair hhigh hlow hlt hchar h ih =>
      exact .unit hhigh.first hhigh.second hhigh.third hhigh.fourth
        (.unit hlow.first hlow.second hlow.third hlow.fourth ih)

theorem scanString_of_isInside (h : IsInside raw) (rest : Bytes) :
    scanString (raw ++ 0x22 :: rest) = some (raw, rest) := by
  induction h with
  | nil => rw [List.nil_append, scanString]
  | plain hb h ih => rw [List.cons_append, scanString_cons hb, ih, Option.map_some]
  | @letter e raw he h ih =>
      have hu : e ≠ 0x75 := by
        rintro rfl
        exact absurd he (by decide)
      rw [List.cons_append, List.cons_append, scanString]
      · rw [if_pos he, ih, Option.map_some]
      · intro a b c d rest' he'
        exact absurd (by simpa using he') hu
  | unit ha hb hc hd h ih =>
      simp only [List.cons_append]
      rw [scanString, ha, hb, hc, hd, ih]
      rfl

theorem unescapeBytes?_of_spells (h : SpellsText raw cs) : unescapeBytes? raw = some (utf8 cs) := by
  induction h with
  | nil => rfl
  | plain hquote hslash hcontrol h ih =>
      rw [unescapeBytes?_append fun b => isPlain_of_mem_utf8EncodeChar hquote hslash hcontrol, ih]
      rfl
  | letter he h ih =>
      simp only [escapeLetters, List.mem_cons, Prod.mk.injEq, List.not_mem_nil, or_false] at he
      rcases he with ⟨rfl, rfl⟩ | ⟨rfl, rfl⟩ | ⟨rfl, rfl⟩ | ⟨rfl, rfl⟩ | ⟨rfl, rfl⟩ | ⟨rfl, rfl⟩ |
        ⟨rfl, rfl⟩ | ⟨rfl, rfl⟩ <;>
      · rw [unescapeBytes?]
        · rw [ih]
          rfl
        all_goals simp
  | @unit a b c d char raw cs hunit h ih =>
      have hsurrogate := not_surrogate_toNat char
      rw [← hunit.value] at hsurrogate
      rw [unescapeBytes?_unit hsurrogate.1 hsurrogate.2, ih, hunit.value, Char.ofNat_toNat]
      rfl
  | @pair a b c d a' b' c' d' high low char raw cs hhigh hlow hlt hchar h ih =>
      have hvalid := toNat_valid char
      have hh : isHighSurrogate (0xD800 + high) = true := by
        simp only [isHighSurrogate, Bool.and_eq_true, decide_eq_true_eq]
        omega
      have hl : isLowSurrogate (0xDC00 + low) = true := by
        simp only [isLowSurrogate, Bool.and_eq_true, decide_eq_true_eq]
        omega
      have hcode : 0x10000 + (0xD800 + high - 0xD800) * 0x400 + (0xDC00 + low - 0xDC00) =
          char.toNat := by omega
      rw [unescapeBytes?]
      simp only [hhigh.value, hlow.value, hh, hl, if_true, hcode, Char.ofNat_toNat, ih]
      rfl

theorem unescape?_of_spells (h : SpellsText raw cs) : unescape? raw = some (String.ofList cs) := by
  rw [unescape?, unescapeBytes?_of_spells h, Option.bind_some, ofUtf8?_utf8]

theorem isUnit_control {n : Nat} (h : n < 0x20) :
    IsUnit 0x30 0x30 (hexDigit (n / 16)) (hexDigit (n % 16)) n where
  first := by decide
  second := by decide
  third := isHexDigit_hexDigit _ (by omega)
  fourth := isHexDigit_hexDigit _ (by omega)
  value := by
    simp only [hexValue₄, hexValue_hexDigit (n / 16) (by omega), hexValue_hexDigit (n % 16) (by omega),
      show hexValue 0x30 = 0 by decide]
    omega

theorem SpellsText.escapeChar (c : Char) (h : SpellsText raw cs) :
    SpellsText (escapeChar c ++ raw) (c :: cs) := by
  unfold Json.escapeChar
  split
  · rename_i hc
    exact hc ▸ .letter (by decide) h
  rename_i hquote
  split
  · rename_i hc
    exact hc ▸ .letter (by decide) h
  rename_i hslash
  split
  · rename_i hc
    obtain rfl : c = '\x08' := Char.toNat_inj.1 hc
    exact .letter (by decide) h
  split
  · rename_i hc
    obtain rfl : c = '\x0C' := Char.toNat_inj.1 hc
    exact .letter (by decide) h
  split
  · rename_i hc
    exact hc ▸ .letter (by decide) h
  split
  · rename_i hc
    exact hc ▸ .letter (by decide) h
  split
  · rename_i hc
    exact hc ▸ .letter (by decide) h
  split
  · rename_i hcontrol
    exact .unit (isUnit_control hcontrol) h
  · rename_i hcontrol
    exact .plain hquote hslash (by omega) h

theorem spellsText_escape (s : String) : SpellsText (escape s) s.toList := by
  rw [escape]
  induction s.toList with
  | nil => exact .nil
  | cons c cs ih => exact ih.escapeChar c

/-! ## Numbers -/

def AreDigits (ds : Bytes) : Prop := ds ≠ [] ∧ ∀ b ∈ ds, isDigit b = true

/-- A zero, or digits that do not begin with one. -/
inductive IsWhole : Bytes → Prop where
  | zero : IsWhole [0x30]
  | digits {ds : Bytes} (hd : AreDigits ds) (hhead : ds.head? ≠ some 0x30) : IsWhole ds

inductive IsFraction : Bytes → Prop where
  | none : IsFraction []
  | some {ds : Bytes} (hd : AreDigits ds) : IsFraction (0x2E :: ds)

inductive IsExponent : Bytes → Prop where
  | none : IsExponent []
  | some {e : UInt8} {sign ds : Bytes} (he : e = 0x65 ∨ e = 0x45)
      (hsign : sign = [] ∨ sign = [0x2B] ∨ sign = [0x2D]) (hd : AreDigits ds) :
      IsExponent (e :: (sign ++ ds))

/-- A number, of any size. -/
inductive IsNumber : Bytes → Prop where
  | intro {sign whole fraction exponent : Bytes} (hsign : sign = [] ∨ sign = [0x2D])
      (hwhole : IsWhole whole) (hfraction : IsFraction fraction) (hexponent : IsExponent exponent) :
      IsNumber (sign ++ (whole ++ (fraction ++ exponent)))

variable {ds rest : Bytes}

def EndsDigits (bs : Bytes) : Prop := ∀ b, bs.head? = some b → isDigit b = false

theorem afterDigits?_append (hd : AreDigits ds) (hrest : EndsDigits rest) :
    afterDigits? (ds ++ rest) = some rest := by
  obtain ⟨htake, hdrop⟩ := Token.takeWhile_append hd.2 hrest
  rw [afterDigits?, htake, hdrop, if_neg (by simpa using hd.1)]

theorem afterWhole?_append {whole : Bytes} (h : IsWhole whole) (hrest : EndsDigits rest) :
    afterWhole? (whole ++ rest) = some rest := by
  cases h with
  | zero => rfl
  | digits hd hhead =>
      cases whole with
      | nil => exact absurd rfl hd.1
      | cons b bs =>
          rw [List.cons_append, afterWhole?]
          · exact afterDigits?_append hd hrest
          · rintro rest' heq
            obtain ⟨rfl, -⟩ := List.cons.inj heq
            exact hhead rfl

theorem IsExponent.endsDigits (h : IsExponent ds) : EndsDigits ds := by
  intro b hb
  cases h with
  | none => cases hb
  | some he hsign hd =>
      cases hb
      rcases he with rfl | rfl <;> decide

theorem IsFraction.endsDigits {exponent : Bytes} (h : IsFraction ds) (hexponent : IsExponent exponent) :
    EndsDigits (ds ++ exponent) := by
  cases h with
  | none => exact hexponent.endsDigits
  | some hd =>
      rintro b ⟨⟩
      decide

theorem afterFraction?_append {exponent : Bytes} (h : IsFraction ds) (hexponent : IsExponent exponent) :
    afterFraction? (ds ++ exponent) = some exponent := by
  cases h with
  | none =>
      rw [List.nil_append, afterFraction?]
      rintro rest rfl
      cases hexponent with
      | some he hsign hd => simp at he
  | some hd => exact afterDigits?_append hd hexponent.endsDigits

theorem afterDigits?_of_areDigits (hd : AreDigits ds) : afterDigits? ds = some [] := by
  have hnil : EndsDigits [] := fun b hb => nomatch hb
  have := afterDigits?_append hd hnil
  rwa [List.append_nil] at this

theorem afterExponent?_of_isExponent (h : IsExponent ds) : afterExponent? ds = some [] := by
  cases h with
  | none => rfl
  | @some e sign ds he hsign hd =>
      unfold afterExponent?
      simp only [if_pos he]
      rcases hsign with rfl | rfl | rfl
      · cases ds with
        | nil => exact absurd rfl hd.1
        | cons b bs =>
            have hb : ¬(b = 0x2B ∨ b = 0x2D) := by
              rintro (rfl | rfl) <;> exact absurd (hd.2 _ List.mem_cons_self) (by decide)
            simp only [List.nil_append, if_neg hb]
            exact afterDigits?_of_areDigits hd
      · exact afterDigits?_of_areDigits hd
      · exact afterDigits?_of_areDigits hd

theorem IsWhole.areDigits (h : IsWhole ds) : AreDigits ds := by
  cases h with
  | zero => exact ⟨List.cons_ne_nil _ _, List.forall_mem_singleton.2 (by decide)⟩
  | digits hd hhead => exact hd

theorem isNumeralPart_of_isDigit {b : UInt8} (h : isDigit b = true) : isNumeralPart b = true := by
  simp [isNumeralPart, h]

theorem IsFraction.parts (h : IsFraction ds) : ∀ b ∈ ds, isNumeralPart b = true := by
  cases h with
  | none => exact nofun
  | some hd =>
      intro b hb
      rcases List.mem_cons.1 hb with rfl | hb
      · decide
      · exact isNumeralPart_of_isDigit (hd.2 b hb)

theorem IsExponent.parts (h : IsExponent ds) : ∀ b ∈ ds, isNumeralPart b = true := by
  cases h with
  | none => exact nofun
  | some he hsign hd =>
      intro b hb
      simp only [List.mem_cons, List.mem_append] at hb
      rcases hb with rfl | hb | hb
      · rcases he with rfl | rfl <;> decide
      · rcases hsign with rfl | rfl | rfl
        · cases hb
        · exact List.mem_singleton.1 hb ▸ by decide
        · exact List.mem_singleton.1 hb ▸ by decide
      · exact isNumeralPart_of_isDigit (hd.2 b hb)

theorem isNumeral_signed {sign : Bytes} (hsign : sign = [] ∨ sign = [0x2D])
    (hhead : ∀ b, ds.head? = some b → isDigit b = true) :
    isNumeral (sign ++ ds) = (((afterWhole? ds).bind afterFraction?).bind afterExponent? == some []) := by
  rcases hsign with rfl | rfl
  · unfold isNumeral
    rw [List.nil_append]
    split
    · exact absurd (hhead 0x2D rfl) (by decide)
    · rfl
  · rfl

theorem IsNumber.isNumeral (h : IsNumber ds) : Token.IsNumeral ds := by
  obtain @⟨sign, whole, fraction, exponent, hsign, hwhole, hfraction, hexponent⟩ := h
  have hdigits := hwhole.areDigits
  have hunsigned : ((afterWhole? (whole ++ (fraction ++ exponent))).bind afterFraction?).bind
      afterExponent? = some [] := by
    rw [afterWhole?_append hwhole (hfraction.endsDigits hexponent), Option.bind_some,
      afterFraction?_append hfraction hexponent, Option.bind_some,
      afterExponent?_of_isExponent hexponent]
  have hhead : ∀ b, (whole ++ (fraction ++ exponent)).head? = some b → isDigit b = true := by
    intro b hb
    cases whole with
    | nil => exact absurd rfl hdigits.1
    | cons b' bs =>
        cases hb
        exact hdigits.2 _ List.mem_cons_self
  refine ⟨?_, ?_, ?_⟩
  · rw [isNumeral_signed hsign hhead, hunsigned]
    rfl
  · intro b hb
    simp only [List.mem_append] at hb
    rcases hb with hb | hb | hb | hb
    · rcases hsign with rfl | rfl
      · cases hb
      · exact List.mem_singleton.1 hb ▸ by decide
    · exact isNumeralPart_of_isDigit (hdigits.2 b hb)
    · exact hfraction.parts b hb
    · exact hexponent.parts b hb
  · intro b hb
    rcases hsign with rfl | rfl
    · exact .inl (hhead b hb)
    · cases hb
      exact .inr rfl

/-! ## Values -/

namespace Value

/-- A value of numbers and of strings that nobody looks into, nested in any way. -/
inductive IsValid : Value → Prop where
  | null : IsValid .null
  | bool (b : Bool) : IsValid (.bool b)
  | number {numeral : Bytes} (h : IsNumber numeral) : IsValid (.number numeral)
  | string {raw : Bytes} (h : IsInside raw) : IsValid (.string raw)
  | array {items : List Value} (h : ∀ v ∈ items, IsValid v) : IsValid (.array items)
  | object {members : List (Bytes × Value)} (hnames : ∀ m ∈ members, IsInside m.1)
      (hvalues : ∀ m ∈ members, IsValid m.2) : IsValid (.object members)

theorem areSound_of_forall {vs : List Value} (h : ∀ v ∈ vs, v.IsSound) : AreSound vs := by
  induction vs with
  | nil => trivial
  | cons v vs ih =>
      rw [AreSound]
      exact ⟨h v List.mem_cons_self, ih fun v hv => h v (List.mem_cons_of_mem _ hv)⟩

theorem areSoundMembers_of_forall {ms : List (Bytes × Value)} (hnames : ∀ m ∈ ms, IsInside m.1)
    (h : ∀ m ∈ ms, m.2.IsSound) : AreSoundMembers ms := by
  induction ms with
  | nil => trivial
  | cons m ms ih =>
      rw [AreSoundMembers]
      exact ⟨scanString_of_isInside (hnames m List.mem_cons_self), h m List.mem_cons_self,
        ih (fun m hm => hnames m (List.mem_cons_of_mem _ hm))
          fun m hm => h m (List.mem_cons_of_mem _ hm)⟩

theorem IsValid.isSound {v : Value} (h : v.IsValid) : v.IsSound := by
  induction h with
  | null => trivial
  | bool b => trivial
  | number h =>
      rw [IsSound]
      exact h.isNumeral
  | string h =>
      rw [IsSound]
      exact scanString_of_isInside h
  | array h ih =>
      rw [IsSound]
      exact areSound_of_forall ih
  | object hnames hvalues ih =>
      rw [IsSound]
      exact areSoundMembers_of_forall hnames ih

end Value

end PartitionHost.Json
