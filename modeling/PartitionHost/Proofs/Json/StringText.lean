import PartitionHost.Json.Text

/-!
# Strings read back

`unescape?_escape`: a text is read back from what stands between the quotes when it is written, whatever
its characters are. The octets of a character are read back one character at a time, with any octets
behind them (`unescapeBytes?_escapeChar`, `scanString_escapeChar`).
-/

namespace PartitionHost.Json

/-! ## Plain octets -/

def isPlain (b : UInt8) : Bool := 0x20 ≤ b && b != 0x22 && b != 0x5C

theorem unescapeBytes?_cons {b : UInt8} (h : b ≠ 0x5C) (rest : Bytes) :
    unescapeBytes? (b :: rest) = (unescapeBytes? rest).map (b :: ·) := by
  rw [unescapeBytes?] <;> simp_all

theorem scanString_cons {b : UInt8} (h : isPlain b = true) (rest : Bytes) :
    scanString (b :: rest) = (scanString rest).map fun (raw, rest) => (b :: raw, rest) := by
  simp only [isPlain, Bool.and_eq_true, decide_eq_true_eq, bne_iff_ne, ne_eq] at h
  have hlt : ¬ (b < 0x20 || b == 0x5C) = true := by
    simpa [UInt8.not_lt.2 h.1.1] using h.2
  rw [scanString]
  · rw [if_neg hlt]
  all_goals simp_all

theorem unescapeBytes?_append {bs : Bytes} (h : ∀ b ∈ bs, isPlain b = true) (rest : Bytes) :
    unescapeBytes? (bs ++ rest) = (unescapeBytes? rest).map (bs ++ ·) := by
  induction bs with
  | nil => simp
  | cons b bs ih =>
      have hb : b ≠ 0x5C := by
        intro hb
        subst hb
        exact absurd (h 0x5C List.mem_cons_self) (by decide)
      rw [List.cons_append, unescapeBytes?_cons hb,
        ih fun b hb => h b (List.mem_cons_of_mem _ hb)]
      cases unescapeBytes? rest <;> rfl

theorem scanString_append {bs : Bytes} (h : ∀ b ∈ bs, isPlain b = true) (rest : Bytes) :
    scanString (bs ++ rest) = (scanString rest).map fun (raw, rest) => (bs ++ raw, rest) := by
  induction bs with
  | nil => simp
  | cons b bs ih =>
      rw [List.cons_append, scanString_cons (h b List.mem_cons_self),
        ih fun b hb => h b (List.mem_cons_of_mem _ hb)]
      cases scanString rest <;> rfl

/-! ## One character -/

theorem isPlain_of_le {n : Nat} (h₁ : 0x5D ≤ n) (h₂ : n < 0x100) :
    isPlain (UInt8.ofNat n) = true := by
  have hn : (UInt8.ofNat n).toNat = n := by simp [Nat.mod_eq_of_lt h₂]
  simp only [isPlain, Bool.and_eq_true, decide_eq_true_eq, bne_iff_ne, ne_eq,
    UInt8.le_iff_toNat_le, ← UInt8.toNat_inj, hn]
  refine ⟨⟨?_, ?_⟩, ?_⟩ <;> simp <;> omega

theorem isPlain_of_mem_utf8EncodeChar {c : Char} (hquote : c ≠ '"') (hslash : c ≠ '\\')
    (hcontrol : 0x20 ≤ c.toNat) {b : UInt8} (h : b ∈ String.utf8EncodeChar c) :
    isPlain b = true := by
  have hc : c.toNat = c.val.toNat := rfl
  unfold String.utf8EncodeChar at h
  simp only at h
  split at h
  · rename_i hle
    have hq : c.val.toNat ≠ 0x22 := fun e => hquote (Char.toNat_inj.1 e)
    have hs : c.val.toNat ≠ 0x5C := fun e => hslash (Char.toNat_inj.1 e)
    rw [List.mem_singleton.1 h]
    have hn : (UInt8.ofNat c.val.toNat).toNat = c.val.toNat := by
      simp only [UInt8.toNat_ofNat']
      omega
    simp only [isPlain, Bool.and_eq_true, decide_eq_true_eq, bne_iff_ne, ne_eq,
      UInt8.le_iff_toNat_le, ← UInt8.toNat_inj, hn]
    exact ⟨⟨hcontrol, hq⟩, hs⟩
  · split at h
    · simp only [List.mem_cons, List.not_mem_nil, or_false] at h
      rcases h with rfl | rfl <;> exact isPlain_of_le (by omega) (by omega)
    · split at h
      · simp only [List.mem_cons, List.not_mem_nil, or_false] at h
        rcases h with rfl | rfl | rfl <;> exact isPlain_of_le (by omega) (by omega)
      · simp only [List.mem_cons, List.not_mem_nil, or_false] at h
        rcases h with rfl | rfl | rfl | rfl <;> exact isPlain_of_le (by omega) (by omega)

theorem escapeChar_cases (c : Char) :
    (∃ e ∈ [(0x22 : UInt8), 0x5C, 0x62, 0x66, 0x6E, 0x72, 0x74], escapeChar c = [0x5C, e] ∧
      String.utf8EncodeChar c = [letterValue e]) ∨
    (c.toNat < 0x20 ∧ escapeChar c =
      [0x5C, 0x75, 0x30, 0x30, hexDigit (c.toNat / 16), hexDigit (c.toNat % 16)]) ∨
    ((∀ b ∈ escapeChar c, isPlain b = true) ∧ escapeChar c = String.utf8EncodeChar c) := by
  by_cases h₁ : c = '"'
  · subst h₁; exact .inl ⟨0x22, by decide, by decide, by decide⟩
  by_cases h₂ : c = '\\'
  · subst h₂; exact .inl ⟨0x5C, by decide, by decide, by decide⟩
  by_cases h₃ : c.toNat = 0x08
  · obtain rfl : c = Char.ofNat 0x08 := by rw [← h₃, Char.ofNat_toNat]
    exact .inl ⟨0x62, by decide, by decide, by decide⟩
  by_cases h₄ : c.toNat = 0x0C
  · obtain rfl : c = Char.ofNat 0x0C := by rw [← h₄, Char.ofNat_toNat]
    exact .inl ⟨0x66, by decide, by decide, by decide⟩
  by_cases h₅ : c = '\n'
  · subst h₅; exact .inl ⟨0x6E, by decide, by decide, by decide⟩
  by_cases h₆ : c = '\r'
  · subst h₆; exact .inl ⟨0x72, by decide, by decide, by decide⟩
  by_cases h₇ : c = '\t'
  · subst h₇; exact .inl ⟨0x74, by decide, by decide, by decide⟩
  unfold escapeChar
  rw [if_neg h₁, if_neg h₂, if_neg h₃, if_neg h₄, if_neg h₅, if_neg h₆, if_neg h₇]
  split
  · rename_i h
    exact .inr (.inl ⟨h, rfl⟩)
  · rename_i h
    exact .inr (.inr ⟨fun b => isPlain_of_mem_utf8EncodeChar h₁ h₂ (by omega), rfl⟩)

theorem isHexDigit_hexDigit : ∀ n < 16, isHexDigit (hexDigit n) = true := by decide

theorem hexValue_hexDigit : ∀ n < 16, hexValue (hexDigit n) = n := by decide

theorem toNat_valid (c : Char) : c.toNat < 0xD800 ∨ 0xDFFF < c.toNat ∧ c.toNat < 0x110000 := c.valid

theorem not_surrogate_toNat (c : Char) :
    isHighSurrogate c.toNat = false ∧ isLowSurrogate c.toNat = false := by
  have hvalid := toNat_valid c
  simp only [isHighSurrogate, isLowSurrogate, Bool.and_eq_false_iff, decide_eq_false_iff_not]
  omega

/-- A unit that is no surrogate is read by itself, even where another one follows. -/
theorem unescapeBytes?_unit {a b c d : UInt8} (hhigh : isHighSurrogate (hexValue₄ a b c d) = false)
    (hlow : isLowSurrogate (hexValue₄ a b c d) = false) (rest : Bytes) :
    unescapeBytes? (0x5C :: 0x75 :: a :: b :: c :: d :: rest) =
      (unescapeBytes? rest).map
        (String.utf8EncodeChar (Char.ofNat (hexValue₄ a b c d)) ++ ·) := by
  rw [unescapeBytes?.eq_def]
  split
  · rename_i heq
    cases heq
  · rename_i heq
    cases heq
    simp [hhigh, hlow]
  · rename_i heq
    cases heq
    simp [hhigh, hlow]
  · rename_i hnot heq
    cases heq
    exact (hnot a b c d rest rfl rfl).elim
  · rename_i hnot heq
    cases heq
    exact (hnot 0x75 _ rfl rfl).elim

theorem unescapeBytes?_escapeChar (c : Char) (rest : Bytes) :
    unescapeBytes? (escapeChar c ++ rest) =
      (unescapeBytes? rest).map (String.utf8EncodeChar c ++ ·) := by
  rcases escapeChar_cases c with ⟨e, he, hesc, henc⟩ | ⟨hlt, hesc⟩ | ⟨hplain, hesc⟩
  · rw [hesc, henc]
    simp only [List.mem_cons, List.not_mem_nil, or_false] at he
    rcases he with rfl | rfl | rfl | rfl | rfl | rfl | rfl <;> rw [List.cons_append, List.cons_append,
      unescapeBytes?] <;> simp
  · have hcode : hexValue₄ 0x30 0x30 (hexDigit (c.toNat / 16)) (hexDigit (c.toNat % 16)) = c.toNat := by
      simp only [hexValue₄, hexValue_hexDigit (c.toNat / 16) (by omega),
        hexValue_hexDigit (c.toNat % 16) (by omega), show hexValue 0x30 = 0 by decide]
      omega
    rw [hesc]
    simp only [List.cons_append, List.nil_append]
    rw [unescapeBytes?_unit (by rw [hcode]; exact (not_surrogate_toNat c).1)
      (by rw [hcode]; exact (not_surrogate_toNat c).2), hcode, Char.ofNat_toNat]
  · rw [unescapeBytes?_append hplain, hesc]

theorem scanString_escapeChar (c : Char) (rest : Bytes) :
    scanString (escapeChar c ++ rest) =
      (scanString rest).map fun (raw, rest) => (escapeChar c ++ raw, rest) := by
  rcases escapeChar_cases c with ⟨e, he, hesc, -⟩ | ⟨hlt, hesc⟩ | ⟨hplain, -⟩
  · rw [hesc]
    simp only [List.mem_cons, List.not_mem_nil, or_false] at he
    rcases he with rfl | rfl | rfl | rfl | rfl | rfl | rfl <;> rw [List.cons_append, List.cons_append,
      scanString] <;> simp [isEscapeLetter]
  · rw [hesc]
    simp only [List.cons_append, List.nil_append]
    rw [scanString, isHexDigit_hexDigit _ (by omega), isHexDigit_hexDigit _ (by omega)]
    rfl
  · rw [scanString_append hplain]

/-! ## A whole text -/

theorem unescapeBytes?_escape (cs : List Char) :
    unescapeBytes? (cs.flatMap escapeChar) = some (utf8 cs) := by
  induction cs with
  | nil => rfl
  | cons c cs ih =>
      rw [List.flatMap_cons, unescapeBytes?_escapeChar, ih]
      rfl

theorem ofUtf8?_utf8 (cs : List Char) : ofUtf8? (utf8 cs) = some (String.ofList cs) := by
  have hbytes : (⟨(utf8 cs).toArray⟩ : ByteArray) = cs.utf8Encode := by
    rw [← List.data_toByteArray]
    rfl
  have hvalid := ByteArray.isValidUTF8_utf8Encode (l := cs)
  unfold ofUtf8? String.fromUTF8?
  rw [hbytes, dif_pos hvalid]
  congr 1

@[simp] theorem unescape?_escape (s : String) : unescape? (escape s) = some s := by
  rw [unescape?, escape, unescapeBytes?_escape, Option.bind_some, ofUtf8?_utf8, String.ofList_toList]

theorem scanString_escape (s : String) (rest : Bytes) :
    scanString (escape s ++ 0x22 :: rest) = some (escape s, rest) := by
  unfold escape
  induction s.toList with
  | nil => rw [List.flatMap_nil, List.nil_append, scanString]
  | cons c cs ih =>
      rw [List.flatMap_cons, List.append_assoc, scanString_escapeChar, ih]
      rfl

end PartitionHost.Json
