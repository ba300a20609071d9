import PartitionHost.Text.LowerCase

/-!
# Lower case that is ASCII

`lowerCase_eq_iff`: where the lower case of a text is all ASCII and has no `k`, the text is made of ASCII
characters too, and the lower case is that of its ASCII letters, which is core's. The sign for the unit kelvin
is why the `k` is left out: it is not ASCII, but its lower case is. Of the other characters beyond ASCII each
leaves one beyond ASCII behind.
-/

namespace PartitionHost.Text

namespace LowerCase

/-! ## One character -/

/-- All runs but that of the ASCII letters lie beyond ASCII, and so do their lower cases, the `k` apart. -/
theorem beyond_of_mem_tail : ∀ r ∈ shiftRuns.tail, 0x80 ≤ r.first ∧
    (0x80 ≤ r.first + r.shift ∨ r.first = r.last ∧ r.first + r.shift = 0x6B) ∧
    (r.last + r.shift < 0xD800 ∨ 0xDFFF < r.first + r.shift ∧ r.last + r.shift < 0x110000) := by
  decide +kernel

theorem find?_shiftRuns {n : Nat} (h : n < 0x41 ∨ 0x5A < n) :
    shiftRuns.find? (·.holds n) = shiftRuns.tail.find? (·.holds n) := by
  have hfirst : ShiftRun.holds ⟨0x41, 0x5A, 1, 32⟩ n = false := by
    simp only [ShiftRun.holds, Bool.and_eq_false_iff, decide_eq_false_iff_not]
    omega
  change List.find? _ (⟨0x41, 0x5A, 1, 32⟩ :: shiftRuns.tail) = _
  rw [List.find?_cons_of_neg (by simp [hfirst])]

theorem ofChar_of_ascii {c : Char} (h : c.toNat < 0x80) : ofChar c = c.toLower := by
  have hletters : ∀ n < 0x5B, 0x41 ≤ n → ofChar (Char.ofNat n) = (Char.ofNat n).toLower := by decide
  by_cases hletter : 0x41 ≤ c.toNat ∧ c.toNat < 0x5B
  · have := hletters c.toNat hletter.2 hletter.1
    rwa [Char.ofNat_toNat] at this
  · have hnone : shiftRuns.find? (·.holds c.toNat) = none := by
      rw [find?_shiftRuns (by omega), List.find?_eq_none]
      intro r hr hholds
      have hbeyond := (beyond_of_mem_tail r hr).1
      simp only [ShiftRun.holds, Bool.and_eq_true, decide_eq_true_eq] at hholds
      omega
    rw [ofChar, hnone]
    delta Char.toLower
    rw [dif_neg]
    rintro ⟨hge, hle⟩
    exact hletter ⟨UInt32.le_iff_toNat_le.1 hge, Nat.lt_succ_of_le (UInt32.le_iff_toNat_le.1 hle)⟩

theorem toNat_ofNat {n : Nat} (h : n.isValidChar) : (Char.ofNat n).toNat = n := by
  rw [Char.ofNat, dif_pos h]
  rfl

theorem ofChar_of_not_ascii {c : Char} (h : 0x80 ≤ c.toNat) :
    0x80 ≤ (ofChar c).toNat ∨ ofChar c = 'k' := by
  unfold ofChar
  rw [find?_shiftRuns (by omega)]
  split
  · rename_i r hr
    obtain ⟨-, hshift, hvalid⟩ := beyond_of_mem_tail r (List.mem_of_find?_eq_some hr)
    have hholds := List.find?_some hr
    simp only [ShiftRun.holds, Bool.and_eq_true, decide_eq_true_eq] at hholds
    obtain ⟨⟨hfirst, hlast⟩, -⟩ := hholds
    have hchar : ((c.toNat : Int) + r.shift).toNat.isValidChar := by
      rw [Nat.isValidChar]
      omega
    rcases hshift with hshift | ⟨honly, hshift⟩
    · left
      rw [toNat_ofNat hchar]
      omega
    · right
      rw [show ((c.toNat : Int) + r.shift).toNat = 0x6B by omega]
  · exact .inl h

/-! ## A whole text -/

theorem ofChars_of_ascii {cs : List Char} (h : ∀ c ∈ cs, c.toNat < 0x80) (before : List Char) :
    ofChars before cs = cs.map Char.toLower := by
  induction cs generalizing before with
  | nil => rfl
  | cons c cs ih =>
      have hc := h c List.mem_cons_self
      rw [ofChars, if_neg (by omega), if_neg (by omega), ofChar_of_ascii hc,
        ih fun c hc => h c (List.mem_cons_of_mem _ hc)]
      rfl

theorem exists_mem_ofChars {c : Char} {cs : List Char} (hc : c ∈ cs) (h : 0x80 ≤ c.toNat)
    (before : List Char) : ∃ d ∈ ofChars before cs, 0x80 ≤ d.toNat ∨ d = 'k' := by
  induction cs generalizing before with
  | nil => cases hc
  | cons c' cs ih =>
      rw [ofChars]
      rcases List.mem_cons.1 hc with rfl | hc
      · split
        · exact ⟨Char.ofNat 0x307, by simp, .inl (by decide)⟩
        · split
          · refine ⟨_, List.mem_append_left _ (List.mem_singleton_self _), .inl ?_⟩
            split <;> decide
          · exact ⟨_, List.mem_append_left _ (List.mem_singleton_self _), ofChar_of_not_ascii h⟩
      · obtain ⟨d, hd, hbeyond⟩ := ih hc (c' :: before)
        exact ⟨d, List.mem_append_right _ hd, hbeyond⟩

end LowerCase

open LowerCase

theorem toLower_of_not_ascii {c : Char} (h : 0x80 ≤ c.toNat) : c.toLower = c := by
  delta Char.toLower
  rw [dif_neg]
  rintro ⟨-, hle⟩
  have : c.toNat ≤ 0x5A := UInt32.le_iff_toNat_le.1 hle
  omega

theorem toList_toLower (s : String) : s.toLower.toList = s.toList.map Char.toLower := String.toList_map

/-- A word of ASCII characters other than `k` is the lower case only of how its letters are written in either case. -/
theorem lowerCase_eq_iff {s word : String} (h : ∀ c ∈ word.toList, c.toNat < 0x80 ∧ c ≠ 'k') :
    lowerCase s = word ↔ s.toLower = word := by
  have hascii : lowerCase s = word ∨ s.toLower = word → ∀ c ∈ s.toList, c.toNat < 0x80 := by
    intro heq c hc
    refine Nat.lt_of_not_le fun hbeyond => ?_
    rcases heq with rfl | rfl
    · obtain ⟨d, hd, hd'⟩ := exists_mem_ofChars hc hbeyond []
      have := h d (by rwa [lowerCase, String.toList_ofList])
      rcases hd' with hd' | rfl
      · omega
      · exact this.2 rfl
    · have := h c.toLower (by
        rw [toList_toLower]
        exact List.mem_map_of_mem hc)
      rw [toLower_of_not_ascii hbeyond] at this
      omega
  have hlower : (∀ c ∈ s.toList, c.toNat < 0x80) → lowerCase s = s.toLower := by
    intro hs
    rw [lowerCase, ofChars_of_ascii hs, ← toList_toLower, String.ofList_toList]
  constructor
  · intro heq
    rw [← hlower (hascii (.inl heq)), heq]
  · intro heq
    rw [hlower (hascii (.inr heq)), heq]

/-- The sign for the unit kelvin. -/
example : lowerCase "\u212A" = "k" := by decide +kernel

end PartitionHost.Text
