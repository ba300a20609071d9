import PartitionHost.Text.Decimal

/-!
# Numerals read back

What `digits` and `paddedDigits` write, `number?` reads, provided that the limit on digits leaves room
for the numeral and ends it where no other character does.
-/

namespace PartitionHost.Text

/-! ## Digits -/

theorem isDigit_of_mem_digits {n : Nat} {c : Char} (h : c ∈ digits n) : c.isDigit = true :=
  Nat.isDigit_of_mem_toDigits (by decide) (by decide) h

theorem digits_ne_nil (n : Nat) : digits n ≠ [] := Nat.toDigits_ne_nil

@[simp] theorem ofDigits_digits (n : Nat) : ofDigits (digits n) = n := Nat.ofDigitChars_ten_toDigits

theorem isDigit_of_mem_paddedDigits {width n : Nat} {c : Char} (h : c ∈ paddedDigits width n) :
    c.isDigit = true := by
  rcases List.mem_append.1 h with h | h
  · rw [List.eq_of_mem_replicate h]; decide
  · exact isDigit_of_mem_digits h

theorem paddedDigits_ne_nil (width n : Nat) : paddedDigits width n ≠ [] :=
  List.append_ne_nil_of_right_ne_nil _ (digits_ne_nil n)

@[simp] theorem ofDigits_paddedDigits (width n : Nat) : ofDigits (paddedDigits width n) = n := by
  simp only [ofDigits, paddedDigits, Nat.ofDigitChars_append, Nat.ofDigitChars_replicate_zero,
    Nat.mul_zero]
  exact ofDigits_digits n

theorem length_digits_le {width n : Nat} (hw : 0 < width) (h : n < Nat.pow 10 width) :
    (digits n).length ≤ width :=
  (Nat.length_toDigits_le_iff (by decide) hw).2 h

theorem length_paddedDigits {width n : Nat} (hw : 0 < width) (h : n < Nat.pow 10 width) :
    (paddedDigits width n).length = width := by
  have := length_digits_le hw h
  simp only [paddedDigits, List.length_append, List.length_replicate]
  omega

/-! ## Reading -/

theorem spanDigits_append {limit : Nat} {ds rest : List Char} (hd : ∀ c ∈ ds, c.isDigit = true)
    (hl : ds.length ≤ limit)
    (hr : ds.length = limit ∨ ∀ c, rest.head? = some c → c.isDigit = false) :
    spanDigits limit (ds ++ rest) = (ds, rest) := by
  induction ds generalizing limit with
  | nil =>
      cases limit with
      | zero => rfl
      | succ limit =>
          cases rest with
          | nil => rfl
          | cons c cs =>
              have hc := (hr.resolve_left (by simp)) c rfl
              simp [spanDigits, hc]
  | cons d ds ih =>
      cases limit with
      | zero => simp at hl
      | succ limit =>
          have hdd := hd d List.mem_cons_self
          have : spanDigits limit (ds ++ rest) = (ds, rest) :=
            ih (fun c hc => hd c (List.mem_cons_of_mem _ hc)) (by simpa using hl)
              (hr.imp_left (by simp))
          simp [spanDigits, hdd, this]

theorem number?_append {limit : Nat} {ds rest : List Char} (hd : ∀ c ∈ ds, c.isDigit = true)
    (hne : ds ≠ []) (hl : ds.length ≤ limit)
    (hr : ds.length = limit ∨ ∀ c, rest.head? = some c → c.isDigit = false) :
    number? limit (ds ++ rest) = some (ofDigits ds, rest) := by
  unfold number?
  rw [spanDigits_append hd hl hr]
  cases ds with
  | nil => exact absurd rfl hne
  | cons d ds => rfl

theorem number?_paddedDigits {width n : Nat} (hw : 0 < width) (h : n < Nat.pow 10 width)
    (rest : List Char) : number? width (paddedDigits width n ++ rest) = some (n, rest) := by
  have hl := length_paddedDigits hw h
  rw [number?_append (fun _ => isDigit_of_mem_paddedDigits) (paddedDigits_ne_nil width n)
    (Nat.le_of_eq hl) (.inl hl), ofDigits_paddedDigits]

end PartitionHost.Text
