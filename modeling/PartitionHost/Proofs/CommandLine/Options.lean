import PartitionHost.CommandLine.Options
import PartitionHost.Proofs.CommandLine.Word

/-!
# Options and how they are written

`readOptions_eq_ok_iff`: the arguments of a command are read exactly if they are options written one after the
other (`Spelling`) and what is given fits together (`Fits`), and then what is given is just what is written. An
option is complete only when the next one or the end comes, so the reader is followed from amid an option:
what it has of that option counts as given, and the values that still follow go to it.
-/

namespace PartitionHost.CommandLine

open Word (longText)

variable {known : List OptionName} {given more result : List Occurrence} {o : Occurrence}
  {args values : List String} {now : Reading}

/-! ## What is written, and what may be given -/

/-- The ways to write options one after the other; two dashes by themselves may follow. -/
inductive Spelling (known : List OptionName) : List String → List Occurrence → Prop where
  | nothing : Spelling known [] []
  | ender : Spelling known ["--"] []
  | attached {name : OptionName} {value : String} {args : List String} {given : List Occurrence}
      (hname : name ∈ known) (h : Spelling known args given) :
      Spelling known (longText name.text (some value) :: args) (⟨name, [value]⟩ :: given)
  | behind {name : OptionName} {values args : List String} {given : List Occurrence}
      (hname : name ∈ known) (hvalues : ∀ v ∈ values, IsValue v)
      (hcount : values.length = 1 ∨ name.isList = true ∧ values ≠ []) (h : Spelling known args given) :
      Spelling known (longText name.text none :: (values ++ args)) (⟨name, values⟩ :: given)

/-- Nothing but a list is given twice, and all values are ones that their option takes. -/
structure Fits (given : List Occurrence) : Prop where
  once : given.Pairwise fun a b => a.name = b.name → a.name.isList = true
  valued : ∀ o ∈ given, o.values ≠ []
  accepted : ∀ o ∈ given, ∀ v ∈ o.values, o.name.accepts v = true

theorem fits_nil : Fits [] := ⟨.nil, nofun, nofun⟩

theorem Fits.of_append (h : Fits (given ++ more)) : Fits given :=
  ⟨(List.pairwise_append.1 h.once).1, fun o ho => h.valued o (List.mem_append_left _ ho),
    fun o ho => h.accepted o (List.mem_append_left _ ho)⟩

theorem Fits.of_cons (h : Fits (o :: given)) : Fits given :=
  ⟨(List.pairwise_cons.1 h.once).2, fun o ho => h.valued o (List.mem_cons_of_mem _ ho),
    fun o ho => h.accepted o (List.mem_cons_of_mem _ ho)⟩

theorem fits_append_singleton (hgiven : Fits given) : Fits (given ++ [o]) ↔
    o.values ≠ [] ∧ (∀ g ∈ given, g.name = o.name → o.name.isList = true) ∧
      ∀ v ∈ o.values, o.name.accepts v = true := by
  constructor
  · intro h
    have ho : o ∈ given ++ [o] := List.mem_append_right _ (List.mem_singleton_self o)
    refine ⟨h.valued o ho, fun g hg heq => ?_, h.accepted o ho⟩
    exact heq ▸ (List.pairwise_append.1 h.once).2.2 g hg o (List.mem_singleton_self o) heq
  · rintro ⟨hvalued, honce, haccepted⟩
    refine ⟨List.pairwise_append.2 ⟨hgiven.once, List.pairwise_singleton _ _, ?_⟩, ?_, ?_⟩
    · intro g hg b hb heq
      obtain rfl := List.mem_singleton.1 hb
      exact heq ▸ honce g hg heq
    · intro b hb
      rcases List.mem_append.1 hb with hb | hb
      · exact hgiven.valued b hb
      · exact List.mem_singleton.1 hb ▸ hvalued
    · intro b hb
      rcases List.mem_append.1 hb with hb | hb
      · exact hgiven.accepted b hb
      · exact List.mem_singleton.1 hb ▸ haccepted

/-! ## One option -/

theorem complete_eq_ok_iff (hgiven : Fits given) :
    complete given o = .ok result ↔ Fits (given ++ [o]) ∧ result = given ++ [o] := by
  rw [fits_append_singleton hgiven, complete]
  split
  · rename_i hnone
    exact ⟨nofun, fun h => absurd (List.isEmpty_iff.1 hnone) h.1.1⟩
  · rename_i hvalued
    split
    · rename_i htwice
      refine ⟨nofun, fun h => ?_⟩
      simp only [Bool.and_eq_true, Bool.not_eq_true', List.any_eq_true, beq_iff_eq] at htwice
      obtain ⟨hlist, g, hg, heq⟩ := htwice
      rw [h.1.2.1 g hg heq] at hlist
      cases hlist
    · rename_i honce
      split
      · rename_i haccepted
        refine ⟨fun h => ?_, fun h => h.2 ▸ rfl⟩
        obtain rfl := Except.ok.inj h
        refine ⟨⟨fun h => hvalued (List.isEmpty_iff.2 h), fun g hg heq => ?_, ?_⟩, rfl⟩
        · cases hlist : o.name.isList with
          | true => rfl
          | false => exact absurd (by simp only [hlist]; simpa using ⟨g, hg, heq⟩) honce
        · exact List.all_eq_true.1 haccepted
      · rename_i hrefused
        exact ⟨nofun, fun h => absurd (List.all_eq_true.2 h.1.2.2) hrefused⟩

namespace Reading

/-- The option that is being read, once these values have gone to it. -/
def after : Reading → List String → List Occurrence
  | .betweenOptions, _ => []
  | .taking o _, values => [{ o with values := o.values ++ values }]

/-- Which values still go to the option that is being read. -/
inductive Takes : Reading → List String → Prop where
  | none {now : Reading} : Takes now []
  | some {o : Occurrence} {values : List String} (hvalues : ∀ v ∈ values, IsValue v)
      (hcount : values.length = 1 ∨ o.name.isList = true ∧ values ≠ []) : Takes (.taking o true) values

theorem after_taking_nil (o : Occurrence) (more : Bool) : (Reading.taking o more).after [] = [o] := by
  simp [after]

theorem finish_eq_ok_iff (hgiven : Fits given) :
    now.finish given = .ok result ↔ Fits (given ++ now.after []) ∧ result = given ++ now.after [] := by
  cases now with
  | betweenOptions =>
      rw [after, List.append_nil]
      exact ⟨fun h => ⟨hgiven, (Except.ok.inj h).symm⟩, fun h => h.2 ▸ rfl⟩
  | taking o more =>
      rw [after_taking_nil]
      exact complete_eq_ok_iff hgiven

end Reading

theorem OptionName.text_injective {a b : OptionName} (h : a.text = b.text) : a = b := by
  cases a <;> cases b <;> first | rfl | exact absurd h (by decide)

theorem find?_text {name : OptionName} (h : name ∈ known) :
    known.find? (·.text == name.text) = some name := by
  cases hfind : known.find? (·.text == name.text) with
  | none => exact absurd (List.find?_eq_none.1 hfind name h) (by simp)
  | some other =>
      have htext := List.find?_some hfind
      exact congrArg some (OptionName.text_injective (beq_iff_eq.1 htext))

theorem of_find?_text {name : OptionName} {text : String}
    (h : known.find? (·.text == text) = some name) : name ∈ known ∧ name.text = text := by
  have htext := List.find?_some h
  exact ⟨List.mem_of_find?_eq_some h, beq_iff_eq.1 htext⟩

theorem OptionName.equals_not_mem_text (name : OptionName) : '=' ∉ name.text.toList ∧ name.text ≠ "" := by
  cases name <;> decide

theorem ofArgument_option (name : OptionName) (attached : Option String) :
    Word.ofArgument (longText name.text attached) = .long name.text attached :=
  Word.ofArgument_longText name.equals_not_mem_text.1 name.equals_not_mem_text.2

/-! ## Reading on -/

theorem exists_of_bind_eq_ok {α β : Type} {x : Except Fault α} {f : α → Except Fault β} {b : β}
    (h : x >>= f = .ok b) : ∃ a, x = .ok a ∧ f a = .ok b := by
  cases x with
  | error fault => cases h
  | ok a => exact ⟨a, rfl, h⟩

theorem readOptions_values (hvalues : ∀ v ∈ values, IsValue v)
    (hcount : values.length = 1 ∨ o.name.isList = true ∧ values ≠ []) :
    readOptions known given (.taking o true) (values ++ args) =
      readOptions known given (.taking { o with values := o.values ++ values } o.name.isList) args := by
  induction values generalizing o with
  | nil => simp at hcount
  | cons v values ih =>
      have hv := Word.ofArgument_of_isValue (hvalues v List.mem_cons_self)
      rw [List.cons_append, readOptions, hv]
      cases values with
      | nil => rfl
      | cons w values =>
          have hlist : o.name.isList = true := by simpa using hcount
          have hrest := @ih { o with values := o.values ++ [v] }
            (fun v hv => hvalues v (List.mem_cons_of_mem _ hv)) (.inr ⟨hlist, by simp⟩)
          simp only [hlist, List.append_assoc, List.singleton_append] at hrest ⊢
          exact hrest

/-- Where an option comes next, the one that is being read is complete. -/
theorem readOptions_longText {name : OptionName} (hname : name ∈ known) (attached : Option String) :
    readOptions known given now (longText name.text attached :: args) =
      (now.finish given).bind fun given =>
        match attached with
        | some value =>
          (complete given ⟨name, [value]⟩).bind fun given =>
            readOptions known given .betweenOptions args
        | none => readOptions known given (.taking ⟨name, []⟩ true) args := by
  rw [readOptions, ofArgument_option]
  simp only [find?_text hname]
  cases attached <;> rfl

theorem readOptions_of_spelling {done : List Occurrence} (h : Spelling known args more)
    (hfinish : now.finish given = .ok done) (hfits : Fits (done ++ more)) :
    readOptions known given now args = .ok (done ++ more) := by
  induction h generalizing given now done with
  | nothing => rw [readOptions, hfinish, List.append_nil]
  | ender =>
      have hender : Word.ofArgument "--" = .ender := rfl
      rw [readOptions, hender, List.append_nil]
      exact hfinish
  | @attached name value args more hname h ih =>
      rw [List.append_cons] at hfits ⊢
      have hdone := hfits.of_append
      have hcomplete : complete done ⟨name, [value]⟩ = .ok (done ++ [⟨name, [value]⟩]) :=
        (complete_eq_ok_iff hdone.of_append).2 ⟨hdone, rfl⟩
      rw [readOptions_longText hname, hfinish]
      simp only [Except.bind, hcomplete]
      exact ih rfl hfits
  | @behind name values args more hname hvalues hcount h ih =>
      rw [List.append_cons] at hfits ⊢
      have hdone := hfits.of_append
      have hcomplete : complete done ⟨name, values⟩ = .ok (done ++ [⟨name, values⟩]) :=
        (complete_eq_ok_iff hdone.of_append).2 ⟨hdone, rfl⟩
      rw [readOptions_longText hname, hfinish]
      simp only [Except.bind]
      rw [readOptions_values hvalues hcount]
      exact ih hcomplete hfits

/-- Values that still go to the option that is being read, and then options as they are written. -/
def Reading.Spelled (known : List OptionName) (given : List Occurrence) (now : Reading)
    (args : List String) (result : List Occurrence) : Prop :=
  ∃ values rest more, args = values ++ rest ∧ now.Takes values ∧ Spelling known rest more ∧
    result = given ++ now.after values ++ more

theorem Reading.spelled_of_finish {done : List Occurrence} (hgiven : Fits given)
    (hfinish : now.finish given = .ok done) (h : Spelling known args more) :
    now.Spelled known given args (done ++ more) := by
  obtain ⟨-, rfl⟩ := (finish_eq_ok_iff hgiven).1 hfinish
  exact ⟨[], args, more, rfl, .none, h, rfl⟩

theorem Reading.spelled_of_finish_only (hgiven : Fits given) (hfinish : now.finish given = .ok result)
    (h : Spelling known args []) : now.Spelled known given args result ∧ Fits result := by
  have hspelled := spelled_of_finish hgiven hfinish h
  rw [List.append_nil] at hspelled
  obtain ⟨hfits, rfl⟩ := (finish_eq_ok_iff hgiven).1 hfinish
  exact ⟨hspelled, hfits⟩

theorem Reading.Spelled.cons {v : String} (hv : IsValue v)
    (h : (Reading.taking { o with values := o.values ++ [v] } o.name.isList).Spelled known given args result) :
    (Reading.taking o true).Spelled known given (v :: args) result := by
  obtain ⟨values, rest, more, rfl, htakes, hspelling, rfl⟩ := h
  refine ⟨v :: values, rest, more, rfl, ?_, hspelling, by simp [after]⟩
  generalize hlist : o.name.isList = list at htakes
  cases htakes with
  | none => exact .some (fun w hw => List.mem_singleton.1 hw ▸ hv) (.inl rfl)
  | some hvalues hcount =>
      refine .some (fun w hw => ?_) (.inr ⟨hlist, by simp⟩)
      rcases List.mem_cons.1 hw with rfl | hw
      · exact hv
      · exact hvalues w hw

theorem Spelling.of_spelled {name : OptionName} (hname : name ∈ known) (hfits : Fits result)
    (h : (Reading.taking ⟨name, []⟩ true).Spelled known given args result) :
    ∃ more, Spelling known (longText name.text none :: args) more ∧ result = given ++ more := by
  obtain ⟨values, rest, more, rfl, htakes, hspelling, rfl⟩ := h
  simp only [Reading.after, List.nil_append, List.append_assoc, List.singleton_append] at hfits ⊢
  cases htakes with
  | none => exact absurd rfl (hfits.valued ⟨name, []⟩ (by simp))
  | some hvalues hcount => exact ⟨_, .behind hname hvalues hcount hspelling, rfl⟩

/-- What is read was written, from amid an option too, and fits together. -/
theorem spelled_of_readOptions (hgiven : Fits given)
    (h : readOptions known given now args = .ok result) :
    now.Spelled known given args result ∧ Fits result := by
  induction args generalizing given now with
  | nil =>
      rw [readOptions] at h
      exact Reading.spelled_of_finish_only hgiven h .nothing
  | cons arg args ih =>
      rw [readOptions] at h
      split at h
      · rename_i harg
        obtain rfl := Word.eq_of_ofArgument_ender harg
        split at h
        · rename_i hlast
          rw [List.isEmpty_iff.1 hlast]
          exact Reading.spelled_of_finish_only hgiven h .ender
        · cases h
      · split at h
        · obtain ⟨_, -, h⟩ := exists_of_bind_eq_ok h
          cases h
        · cases h
      · rename_i name attached harg
        obtain rfl := Word.eq_of_ofArgument_long harg
        split at h
        · rename_i option value hfind
          obtain ⟨hname, rfl⟩ := of_find?_text hfind
          obtain ⟨done, hfinish, h⟩ := exists_of_bind_eq_ok h
          obtain ⟨_, hcomplete, h⟩ := exists_of_bind_eq_ok h
          obtain ⟨hdone, rfl⟩ := (Reading.finish_eq_ok_iff hgiven).1 hfinish
          obtain ⟨hfits, rfl⟩ := (complete_eq_ok_iff hdone).1 hcomplete
          obtain ⟨⟨values, rest, more, rfl, htakes, hspelling, rfl⟩, hresult⟩ := ih hfits h
          cases htakes
          refine ⟨?_, hresult⟩
          rw [Reading.after, List.append_nil, List.append_assoc, List.singleton_append]
          exact Reading.spelled_of_finish hgiven hfinish (.attached hname hspelling)
        · rename_i option hfind
          obtain ⟨hname, rfl⟩ := of_find?_text hfind
          obtain ⟨done, hfinish, h⟩ := exists_of_bind_eq_ok h
          obtain ⟨hdone, rfl⟩ := (Reading.finish_eq_ok_iff hgiven).1 hfinish
          obtain ⟨hspelled, hfits⟩ := ih hdone h
          obtain ⟨more, hspelling, rfl⟩ := Spelling.of_spelled hname hfits hspelled
          exact ⟨Reading.spelled_of_finish hgiven hfinish hspelling, hfits⟩
        · split at h
          · split at h
            · cases h
            · obtain ⟨_, -, h⟩ := exists_of_bind_eq_ok h
              cases h
          · cases h
      · rename_i value harg
        obtain ⟨rfl, hvalue⟩ := Word.of_ofArgument_plain harg
        split at h
        · obtain ⟨hspelled, hfits⟩ := ih hgiven h
          exact ⟨hspelled.cons hvalue, hfits⟩
        · cases h

theorem readOptions_eq_ok_iff :
    readOptions known [] .betweenOptions args = .ok given ↔ Spelling known args given ∧ Fits given := by
  constructor
  · intro h
    obtain ⟨⟨values, rest, more, rfl, htakes, hspelling, rfl⟩, hfits⟩ :=
      spelled_of_readOptions fits_nil h
    cases htakes
    exact ⟨hspelling, hfits⟩
  · rintro ⟨hspelling, hfits⟩
    have hfinish : Reading.finish [] .betweenOptions = .ok [] := rfl
    exact readOptions_of_spelling hspelling hfinish hfits

end PartitionHost.CommandLine
