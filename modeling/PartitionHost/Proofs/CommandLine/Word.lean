import PartitionHost.CommandLine.Word

/-!
# Words told apart

What an argument looks like is told from its text alone, and from what it looks like its text is told. So an option
that is written (`longText`) is found to be that option with that value, and what may be a value (`IsValue`) is
left as it is.
-/

namespace PartitionHost.CommandLine

/-- What stands by itself behind an option: anything that does not begin with a dash, and the dash alone. -/
def IsValue (s : String) : Prop := s.toList.head? ≠ some '-' ∨ s = "-"

namespace Word

/-- How an option is written, with the value attached to it if there is one. -/
def longText (name : String) : Option String → String
  | none => "--" ++ name
  | some value => "--" ++ name ++ "=" ++ value

variable {arg name value : String} {attached : Option String} {cs v : List Char}

/-! ## Behind the dashes -/

theorem ofLong_name (h : '=' ∉ cs) : ofLong cs = .long (String.ofList cs) none := by
  have hall : ∀ c ∈ cs, (c != '=') = true := fun c hc => bne_iff_ne.2 fun heq => h (heq ▸ hc)
  have htake := @List.takeWhile_append_of_pos _ _ cs [] hall
  have hdrop := @List.dropWhile_append_of_pos _ _ cs [] hall
  rw [List.append_nil, List.takeWhile_nil, List.append_nil] at htake
  rw [List.append_nil, List.dropWhile_nil] at hdrop
  rw [ofLong, htake, hdrop]

theorem ofLong_attached (h : '=' ∉ cs) :
    ofLong (cs ++ '=' :: v) = .long (String.ofList cs) (some (String.ofList v)) := by
  have hall : ∀ c ∈ cs, (c != '=') = true := fun c hc => bne_iff_ne.2 fun heq => h (heq ▸ hc)
  rw [ofLong, List.takeWhile_append_of_pos hall, List.dropWhile_append_of_pos hall,
    List.takeWhile_cons_of_neg (by decide), List.dropWhile_cons_of_neg (by decide), List.append_nil]

theorem exists_name (cs : List Char) :
    ∃ name, '=' ∉ name ∧ (cs = name ∨ ∃ v, cs = name ++ '=' :: v) := by
  induction cs with
  | nil => exact ⟨[], by simp, .inl rfl⟩
  | cons c cs ih =>
      by_cases hc : c = '='
      · exact ⟨[], by simp, .inr ⟨cs, by rw [hc]; rfl⟩⟩
      · obtain ⟨name, hname, h⟩ := ih
        refine ⟨c :: name, by simp [hname, Ne.symm hc], ?_⟩
        rcases h with rfl | ⟨v, rfl⟩
        · exact .inl rfl
        · exact .inr ⟨v, rfl⟩

theorem eq_of_ofLong (h : ofLong cs = .long name attached) :
    String.ofList ('-' :: '-' :: cs) = longText name attached := by
  obtain ⟨n, hn, rfl | ⟨v, rfl⟩⟩ := exists_name cs
  · rw [ofLong_name hn] at h
    cases h
    rw [longText, ← String.toList_inj]
    simp
  · rw [ofLong_attached hn] at h
    cases h
    rw [longText, ← String.toList_inj]
    simp

/-! ## Whole arguments -/

theorem eq_of_ofArgument_ender (h : ofArgument arg = .ender) : arg = "--" := by
  unfold ofArgument at h
  split at h
  · rename_i harg
    exact String.toList_inj.1 harg
  · rename_i cs _ _
    rw [ofLong] at h
    split at h <;> cases h
  · cases h
  · cases h

theorem eq_of_ofArgument_long (h : ofArgument arg = .long name attached) :
    arg = longText name attached := by
  unfold ofArgument at h
  split at h
  · cases h
  · rename_i cs _ harg
    rw [← eq_of_ofLong h, ← harg, String.ofList_toList]
  · cases h
  · cases h

theorem of_ofArgument_plain (h : ofArgument arg = .plain value) : arg = value ∧ IsValue arg := by
  unfold ofArgument at h
  split at h
  · cases h
  · rw [ofLong] at h
    split at h <;> cases h
  · cases h
  · rename_i hlong hshort
    cases h
    refine ⟨rfl, ?_⟩
    cases harg : arg.toList with
    | nil => exact .inl (by simp [harg])
    | cons c cs =>
        by_cases hc : c = '-'
        · subst hc
          cases cs with
          | nil => exact .inr (String.toList_inj.1 harg)
          | cons c cs => exact absurd harg (hshort c cs)
        · exact .inl (by simpa [harg] using hc)

theorem ofArgument_of_isValue (h : IsValue value) : ofArgument value = .plain value := by
  rcases h with h | rfl
  · unfold ofArgument
    split
    · rename_i harg
      exact absurd (congrArg List.head? harg) h
    · rename_i harg
      exact absurd (congrArg List.head? harg) h
    · rename_i harg
      exact absurd (congrArg List.head? harg) h
    · rfl
  · rfl

theorem ofArgument_longText (hname : '=' ∉ name.toList) (hne : name ≠ "") :
    ofArgument (longText name attached) = .long name attached := by
  have hlist : ∀ cs, cs ≠ [] → ofArgument (String.ofList ('-' :: '-' :: cs)) = ofLong cs := by
    intro cs hcs
    rw [ofArgument, String.toList_ofList]
    cases cs with
    | nil => exact absurd rfl hcs
    | cons c cs => rfl
  have hnil : name.toList ≠ [] := fun h => hne (String.toList_eq_nil_iff.1 h)
  cases attached with
  | none =>
      have htext : longText name none = String.ofList ('-' :: '-' :: name.toList) := by
        rw [longText, ← String.toList_inj]
        simp
      rw [htext, hlist _ hnil, ofLong_name hname, String.ofList_toList]
  | some value =>
      have htext : longText name (some value) =
          String.ofList ('-' :: '-' :: (name.toList ++ '=' :: value.toList)) := by
        rw [longText, ← String.toList_inj]
        simp
      rw [htext, hlist _ (by simp), ofLong_attached hname, String.ofList_toList, String.ofList_toList]

end Word

end PartitionHost.CommandLine
