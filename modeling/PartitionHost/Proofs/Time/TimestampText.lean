import PartitionHost.Proofs.Text.Decimal
import PartitionHost.Time.Timestamp.Text

/-!
# Timestamps read back

`ofText?_text`: every timestamp is read back from its text, in every year that can be represented and with
every fraction of a second, leap seconds included. The parts of the text are taken one after the other,
in the order in which they are read.
-/

namespace PartitionHost.Timestamp

open Text

/-! ## Parts of the text -/

theorem dropBlanks_cons {c : Char} {cs : List Char} (h : isBlank c = false) :
    dropBlanks (c :: cs) = c :: cs := by
  simp [dropBlanks, h]

theorem isBlank_of_isDigit {c : Char} (h : c.isDigit = true) : isBlank c = false := by
  simp only [Char.isDigit, Bool.and_eq_true, decide_eq_true_eq, UInt32.le_iff_toNat_le,
    ge_iff_le] at h
  have h₁ : 48 ≤ c.toNat := h.1
  have h₂ : c.toNat ≤ 57 := h.2
  simp only [isBlank, Bool.or_eq_false_iff, Bool.and_eq_false_iff, decide_eq_false_iff_not,
    beq_eq_false_iff_ne]
  omega

theorem dropBlanks_append {ds rest : List Char} (hd : ∀ c ∈ ds, c.isDigit = true) (hne : ds ≠ []) :
    dropBlanks (ds ++ rest) = ds ++ rest := by
  cases ds with
  | nil => exact absurd rfl hne
  | cons d ds => exact dropBlanks_cons (isBlank_of_isDigit (hd d List.mem_cons_self))

theorem mark?_self {c : Char} (h : isBlank c = false) (rest : List Char) :
    mark? c (c :: rest) = some rest := by
  simp [mark?, dropBlanks_cons h]

theorem twoDigits?_paddedDigits {n : Nat} (h : n < 100) (rest : List Char) :
    twoDigits? (paddedDigits 2 n ++ rest) = some (n, rest) := by
  unfold twoDigits?
  rw [dropBlanks_append (fun _ => isDigit_of_mem_paddedDigits) (paddedDigits_ne_nil 2 n)]
  exact number?_paddedDigits (by decide) h rest

/-! ## The year -/

theorem number?_wide (n : Nat) {rest : List Char}
    (hr : ∀ c, rest.head? = some c → c.isDigit = false) :
    number? (paddedDigits 4 n ++ rest).length (paddedDigits 4 n ++ rest) = some (n, rest) := by
  rw [number?_append (fun _ => isDigit_of_mem_paddedDigits) (paddedDigits_ne_nil 4 n)
    (by simp) (.inr hr), ofDigits_paddedDigits]

theorem year?_append {ds rest : List Char} (hd : ∀ c ∈ ds, c.isDigit = true) (hne : ds ≠ []) :
    year? (ds ++ rest) = (number? 4 (ds ++ rest)).map fun (n, rest) => ((n : Int), rest) := by
  cases ds with
  | nil => exact absurd rfl hne
  | cons d ds =>
      have hdd := hd d List.mem_cons_self
      rw [List.cons_append, year?.eq_def]
      split
      · rename_i h
        cases h
        exact absurd hdd (by decide)
      · rename_i h
        cases h
        exact absurd hdd (by decide)
      · rfl

theorem year?_yearText (year : Int) {rest : List Char}
    (hr : ∀ c, rest.head? = some c → c.isDigit = false) :
    year? (yearText year ++ rest) = some (year, rest) := by
  unfold yearText
  split
  · rename_i h
    have hlt : year.toNat < Nat.pow 10 4 := by
      change _ < 10000
      omega
    rw [year?_append (fun _ => isDigit_of_mem_paddedDigits) (paddedDigits_ne_nil 4 _),
      number?_paddedDigits (by decide) hlt]
    simp only [Option.map_some]
    congr 2
    omega
  · rename_i h
    split
    · simp only [List.cons_append, year?]
      rw [number?_wide _ hr]
      simp only [Option.map_some]
      congr 2
      omega
    · simp only [List.cons_append, year?]
      rw [number?_wide _ hr]
      simp only [Option.map_some]
      congr 2
      omega

theorem isBlank_head_yearText (year : Int) (rest : List Char) :
    dropBlanks (yearText year ++ rest) = yearText year ++ rest := by
  unfold yearText
  split
  · exact dropBlanks_append (fun _ => isDigit_of_mem_paddedDigits) (paddedDigits_ne_nil 4 _)
  · split
    · exact dropBlanks_cons (by decide)
    · exact dropBlanks_cons (by decide)

/-! ## The fraction -/

theorem fraction?_paddedDigits {width n : Nat} (hw : 0 < width) (hw9 : width ≤ 9)
    (h : n < Nat.pow 10 width) :
    fraction? ('.' :: (paddedDigits width n ++ ['Z'])) = some (n * Nat.pow 10 (9 - width), ['Z']) := by
  have hl := length_paddedDigits hw h
  have hspan : spanDigits 9 (paddedDigits width n ++ ['Z']) = (paddedDigits width n, ['Z']) := by
    refine spanDigits_append (fun _ => isDigit_of_mem_paddedDigits) (by omega) (.inr ?_)
    intro c hc
    cases hc
    decide
  simp only [fraction?, hspan]
  cases hds : paddedDigits width n with
  | nil => exact absurd hds (paddedDigits_ne_nil width n)
  | cons d ds =>
      simp only
      rw [← hds, hl, ofDigits_paddedDigits]
      rfl

theorem fraction?_fractionText {nanos : Nat} (h : nanos < 1000000000) :
    fraction? (fractionText nanos ++ ['Z']) = some (nanos, ['Z']) := by
  have hread : ∀ width n, 0 < width → width ≤ 9 → n < Nat.pow 10 width →
      n * Nat.pow 10 (9 - width) = nanos →
      fraction? ('.' :: (paddedDigits width n ++ ['Z'])) = some (nanos, ['Z']) := by
    intro width n hw hw9 hn heq
    rw [fraction?_paddedDigits hw hw9 hn, heq]
  unfold fractionText
  split
  · rename_i h0
    rw [h0]
    rfl
  · split
    · refine hread 3 _ (by decide) (by decide) ?_ ?_
      · change nanos / 1000000 < 1000
        omega
      · change nanos / 1000000 * 1000000 = nanos
        omega
    · split
      · refine hread 6 _ (by decide) (by decide) ?_ ?_
        · change nanos / 1000 < 1000000
          omega
        · change nanos / 1000 * 1000 = nanos
          omega
      · exact hread 9 _ (by decide) (by decide) h (Nat.mul_one nanos)

/-! ## The whole -/

theorem month_ofDayNumber_lt (n : Int) :
    (Date.ofDayNumber n).month < 100 ∧ (Date.ofDayNumber n).day < 100 := by
  have hv := Date.isValid_ofDayNumber n
  generalize Date.ofDayNumber n = d at hv
  unfold Date.isValid at hv
  split at hv
  · rename_i length h
    have hi : d.month - 1 < 12 := (List.getElem?_eq_some_iff.1 h).1
    have hmem : length ≤ 31 := by
      have := List.mem_of_getElem? h
      simp only [Date.monthLengths, List.mem_cons, List.not_mem_nil, or_false] at this
      split at this <;> omega
    simp only [Bool.and_eq_true, decide_eq_true_eq] at hv
    omega
  · cases hv

theorem ofParts?_self (t : Timestamp) : ofParts? t.seconds t.nanos = some t :=
  dif_pos ⟨⟨t.seconds_ge, t.seconds_le⟩, t.nanos_lt, t.leap_at_end⟩

theorem ofFields?_self (t : Timestamp) {inDay : Nat} (hin : inDay = (t.seconds % 86400).toNat) :
    ofFields? (Date.ofDayNumber (t.seconds / 86400)) (inDay / 3600) (inDay / 60 % 60)
      (inDay % 60 + t.nanos / 1000000000) (t.nanos % 1000000000) 0 = some t := by
  have hge := t.seconds_ge
  have hle := t.seconds_le
  have hnanos := t.nanos_lt
  have hleap := t.leap_at_end
  have hday : dayInRange (Date.ofDayNumber (t.seconds / 86400)).dayNumber = true := by
    rw [Date.dayNumber_ofDayNumber]
    simp only [dayInRange, Bool.and_eq_true, decide_eq_true_eq]
    simp only [firstSecond, lastSecond] at hge hle ⊢
    omega
  have hlt : inDay < 86400 := by omega
  -- a second of 60 is what a leap second shows
  have hsecond : inDay % 60 + t.nanos / 1000000000 = 60 ↔ 1000000000 ≤ t.nanos := by omega
  unfold ofFields?
  rw [if_pos (by
    simp only [Date.isValid_ofDayNumber, hday, Bool.and_eq_true, decide_eq_true_eq, true_and]
    omega), Date.dayNumber_ofDayNumber, ← ofParts?_self t]
  by_cases h : 1000000000 ≤ t.nanos
  · simp only [if_pos (hsecond.2 h)]
    congr 1 <;> omega
  · simp only [if_neg (mt hsecond.1 h)]
    congr 1 <;> omega

theorem ofText?_text (t : Timestamp) : ofText? t.text = some t := by
  have hdate := month_ofDayNumber_lt (t.seconds / 86400)
  have hnanos := t.nanos_lt
  have hself := ofFields?_self t rfl
  unfold ofText? text
  simp only [List.append_assoc, List.cons_append, isBlank_head_yearText] at hself ⊢
  rw [year?_yearText _ (by intro c hc; cases hc; decide)]
  simp only [Option.bind_eq_bind, Option.bind_some, mark?_self (c := '-') (by decide),
    twoDigits?_paddedDigits hdate.1,
    twoDigits?_paddedDigits hdate.2]
  rw [twoDigits?_paddedDigits (by omega), Option.bind_some]
  simp only [mark?_self (c := ':') (by decide)]
  rw [Option.bind_some, twoDigits?_paddedDigits (by omega), Option.bind_some]
  simp only [mark?_self (c := ':') (by decide)]
  rw [Option.bind_some, twoDigits?_paddedDigits (by omega), Option.bind_some,
    fraction?_fractionText (by omega), Option.bind_some]
  exact hself

end PartitionHost.Timestamp
