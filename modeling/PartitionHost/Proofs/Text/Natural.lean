import PartitionHost.Proofs.Text.Decimal
import PartitionHost.Text.Natural

/-!
# What natural numbers are read from

`readNatural_eq_ok_iff` and `readNatural_eq_error_iff`: a text is read exactly if it spells a number below the
bound, and else is refused for the fault that is met first on the way through it. So a character that is no digit
does not count where the digits in front of it are too many already.
-/

namespace PartitionHost.Text

def AreDigits (ds : List Char) : Prop := ∀ c ∈ ds, c.isDigit = true

/-- What follows the plus sign in front, or the whole where there is none. -/
def Unsigned (s : String) (cs : List Char) : Prop :=
  s.toList = '+' :: cs ∨ s.toList = cs ∧ cs.head? ≠ some '+'

/-- One or more decimal digits of this value, behind at most one plus sign. -/
def Spells (s : String) (n : Nat) : Prop :=
  ∃ ds, Unsigned s ds ∧ ds ≠ [] ∧ AreDigits ds ∧ ofDigits ds = n

/-- The fault that is met first on the way through characters that follow digits of this value. -/
inductive Stops (bound acc : Nat) (cs : List Char) : NumeralFault → Prop where
  | badDigit {ds rest : List Char} {c : Char} (h : cs = ds ++ c :: rest) (hd : AreDigits ds)
      (hlt : Nat.ofDigitChars 10 ds acc < bound) (hc : c.isDigit = false) : Stops bound acc cs .badDigit
  | tooLarge {ds rest : List Char} (h : cs = ds ++ rest) (hd : AreDigits ds)
      (hge : bound ≤ Nat.ofDigitChars 10 ds acc) : Stops bound acc cs .tooLarge

/-- Why a text does not spell a number below a bound. -/
inductive Misspells (bound : Nat) (s : String) : NumeralFault → Prop where
  | empty (h : s = "") : Misspells bound s .empty
  | nothing (h : Unsigned s []) (hne : s ≠ "") : Misspells bound s .badDigit
  | stops {cs : List Char} {fault : NumeralFault} (h : Unsigned s cs) (hstops : Stops bound 0 cs fault) :
      Misspells bound s fault

/-! ## Reading on -/

variable {bound acc n : Nat} {cs ds rest : List Char} {c : Char} {fault : NumeralFault}

theorem le_ofDigitChars (ds : List Char) (acc : Nat) : acc ≤ Nat.ofDigitChars 10 ds acc := by
  induction ds generalizing acc with
  | nil => exact Nat.le_refl acc
  | cons d ds ih =>
      rw [Nat.ofDigitChars_cons]
      exact Nat.le_trans (by omega) (ih _)

theorem continueNatural_digit (hc : c.isDigit = true) :
    continueNatural bound acc (c :: cs) =
      if Nat.ofDigitChars 10 [c] acc < bound then
        continueNatural bound (Nat.ofDigitChars 10 [c] acc) cs
      else .error .tooLarge := by
  rw [continueNatural, if_pos hc, Nat.ofDigitChars_cons, Nat.ofDigitChars_nil, Nat.mul_comm]

theorem continueNatural_append (hd : AreDigits ds) (hlt : Nat.ofDigitChars 10 ds acc < bound) :
    continueNatural bound acc (ds ++ rest) =
      continueNatural bound (Nat.ofDigitChars 10 ds acc) rest := by
  induction ds generalizing acc with
  | nil => rfl
  | cons d ds ih =>
      rw [← List.singleton_append, Nat.ofDigitChars_append] at hlt ⊢
      have hnext := Nat.lt_of_le_of_lt (le_ofDigitChars ds _) hlt
      rw [List.append_assoc, List.singleton_append, continueNatural_digit (hd d List.mem_cons_self),
        if_pos hnext]
      exact ih (fun c hc => hd c (List.mem_cons_of_mem _ hc)) hlt

theorem continueNatural_of_stops (hacc : acc < bound) (h : Stops bound acc cs fault) :
    continueNatural bound acc cs = .error fault := by
  cases h with
  | badDigit h hd hlt hc =>
      rw [h, continueNatural_append hd hlt, continueNatural, if_neg (by simp [hc])]
  | @tooLarge ds rest h hd hge =>
      subst h
      induction ds generalizing acc with
      | nil => exact absurd hacc (Nat.not_lt.2 hge)
      | cons d ds ih =>
          rw [← List.singleton_append, Nat.ofDigitChars_append] at hge
          rw [List.cons_append, continueNatural_digit (hd d List.mem_cons_self)]
          split
          · rename_i hnext
            exact ih hnext (fun c hc => hd c (List.mem_cons_of_mem _ hc)) hge
          · rfl

theorem digits_or_stops (hacc : acc < bound) (cs : List Char) :
    (AreDigits cs ∧ Nat.ofDigitChars 10 cs acc < bound) ∨ ∃ fault, Stops bound acc cs fault := by
  induction cs generalizing acc with
  | nil => exact .inl ⟨nofun, hacc⟩
  | cons c cs ih =>
      cases hc : c.isDigit with
      | false => exact .inr ⟨_, .badDigit (List.nil_append _).symm nofun hacc hc⟩
      | true =>
          have hone : AreDigits [c] := fun c' hc' => List.mem_singleton.1 hc' ▸ hc
          have hmore : ∀ ds, AreDigits ds → AreDigits ([c] ++ ds) := fun ds hd c' hc' =>
            (List.mem_append.1 hc').elim (hone c') (hd c')
          by_cases hnext : Nat.ofDigitChars 10 [c] acc < bound
          · rw [← List.singleton_append, Nat.ofDigitChars_append]
            rcases ih hnext with ⟨hd, hlt⟩ | ⟨fault, hstops⟩
            · exact .inl ⟨hmore cs hd, hlt⟩
            · refine .inr ⟨fault, ?_⟩
              cases hstops with
              | badDigit h hd hlt hc =>
                  exact .badDigit (by rw [h, List.append_assoc]) (hmore _ hd)
                    (by rwa [Nat.ofDigitChars_append]) hc
              | tooLarge h hd hge =>
                  exact .tooLarge (by rw [h, List.append_assoc]) (hmore _ hd)
                    (by rwa [Nat.ofDigitChars_append])
          · exact .inr ⟨_, .tooLarge (List.singleton_append).symm hone (Nat.not_lt.1 hnext)⟩

theorem continueNatural_of_digits (hd : AreDigits cs) (hlt : Nat.ofDigitChars 10 cs acc < bound) :
    continueNatural bound acc cs = .ok (Nat.ofDigitChars 10 cs acc) := by
  have := @continueNatural_append bound acc cs [] hd hlt
  rwa [List.append_nil] at this

/-! ## A whole text -/

variable {s : String}

theorem unsigned_cases (s : String) :
    s = "" ∨ (s ≠ "" ∧ Unsigned s []) ∨ ∃ cs, cs ≠ [] ∧ Unsigned s cs := by
  cases hs : s.toList with
  | nil => exact .inl (String.toList_eq_nil_iff.1 hs)
  | cons c cs =>
      have hne : s ≠ "" := fun h => by simp [h] at hs
      by_cases hc : c = '+'
      · subst hc
        cases cs with
        | nil => exact .inr (.inl ⟨hne, .inl hs⟩)
        | cons c cs => exact .inr (.inr ⟨_, by simp, .inl hs⟩)
      · exact .inr (.inr ⟨c :: cs, by simp, .inr ⟨hs, by simpa using hc⟩⟩)

theorem readNatural_of_unsigned (h : Unsigned s cs) (hne : cs ≠ []) :
    readNatural bound s = continueNatural bound 0 cs := by
  unfold readNatural
  rcases h with h | ⟨h, hplus⟩
  · rw [h]
    cases cs with
    | nil => exact absurd rfl hne
    | cons c cs => rfl
  · rw [h]
    split
    · exact absurd rfl hne
    · exact absurd rfl hplus
    · exact absurd rfl hplus
    · rfl

theorem readNatural_of_nothing (h : Unsigned s []) (hne : s ≠ "") :
    readNatural bound s = .error .badDigit := by
  rcases h with h | ⟨h, -⟩
  · rw [readNatural, h]
    rfl
  · exact absurd (String.toList_eq_nil_iff.1 h) hne

theorem readNatural_of_spells (h : Spells s n) (hlt : n < bound) : readNatural bound s = .ok n := by
  obtain ⟨ds, hs, hne, hd, rfl⟩ := h
  rw [readNatural_of_unsigned hs hne]
  exact continueNatural_of_digits hd hlt

theorem readNatural_of_misspells (hbound : 0 < bound) (h : Misspells bound s fault) :
    readNatural bound s = .error fault := by
  cases h with
  | empty h => rw [h]; rfl
  | nothing h hne => exact readNatural_of_nothing h hne
  | @stops cs _ h hstops =>
      have hne : cs ≠ [] := by
        rintro rfl
        cases hstops with
        | badDigit h => simp at h
        | tooLarge h hd hge =>
            obtain ⟨rfl, -⟩ := List.append_eq_nil_iff.1 h.symm
            exact absurd hbound (Nat.not_lt.2 hge)
      rw [readNatural_of_unsigned h hne]
      exact continueNatural_of_stops hbound hstops

theorem spells_or_misspells (hbound : 0 < bound) (s : String) :
    (∃ n, Spells s n ∧ n < bound) ∨ ∃ fault, Misspells bound s fault := by
  rcases unsigned_cases s with h | ⟨hne, h⟩ | ⟨cs, hne, h⟩
  · exact .inr ⟨_, .empty h⟩
  · exact .inr ⟨_, .nothing h hne⟩
  · rcases digits_or_stops hbound cs with ⟨hd, hlt⟩ | ⟨fault, hstops⟩
    · exact .inl ⟨_, ⟨cs, h, hne, hd, rfl⟩, hlt⟩
    · exact .inr ⟨fault, .stops h hstops⟩

theorem readNatural_eq_ok_iff (hbound : 0 < bound) :
    readNatural bound s = .ok n ↔ Spells s n ∧ n < bound := by
  refine ⟨fun hread => ?_, fun h => readNatural_of_spells h.1 h.2⟩
  rcases spells_or_misspells hbound s with ⟨m, h, hlt⟩ | ⟨fault, h⟩
  · rw [readNatural_of_spells h hlt] at hread
    obtain rfl := Except.ok.inj hread
    exact ⟨h, hlt⟩
  · rw [readNatural_of_misspells hbound h] at hread
    cases hread

theorem readNatural_eq_error_iff (hbound : 0 < bound) :
    readNatural bound s = .error fault ↔ Misspells bound s fault := by
  refine ⟨fun hread => ?_, readNatural_of_misspells hbound⟩
  rcases spells_or_misspells hbound s with ⟨m, h, hlt⟩ | ⟨fault', h⟩
  · rw [readNatural_of_spells h hlt] at hread
    cases hread
  · rw [readNatural_of_misspells hbound h] at hread
    obtain rfl := Except.error.inj hread
    exact h

end PartitionHost.Text
