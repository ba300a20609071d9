import PartitionHost.CommandLine
import PartitionHost.Proofs.CommandLine.Options

/-!
# Commands and how they are written

A command line runs a host exactly if it is options of that command which fit together and name the partitions
in one way (`Means`). So whatever a command says can be written in any order of its options, and is read back
(`readRun_arrangement`).
-/

namespace PartitionHost.CommandLine

open Word (longText)

variable {known : List OptionName} {given : List Occurrence} {args : List String} {name : OptionName}
  {value : String} {x : Option String} {s : Source} {c : Command}

/-! ## What an option is given as -/

/-- The value of an option that is given, or none where it is not. -/
inductive Chosen (given : List Occurrence) (name : OptionName) : Option String → Prop where
  | given {value : String} (h : ⟨name, [value]⟩ ∈ given) : Chosen given name (some value)
  | absent (h : ∀ o ∈ given, o.name ≠ name) : Chosen given name none

/-- One way of telling the partitions, and nothing of the other one. -/
inductive Supplies (given : List Occurrence) : Source → Prop where
  | file {path : String} (h : Chosen given .runtimeInfo (some path))
      (hnone : ∀ o ∈ given, o.name ≠ .partitions) : Supplies given (.file path)
  | listed {partitions : List String}
      (h : partitions = (given.filter (·.name == .partitions)).flatMap (·.values)) (hne : partitions ≠ [])
      (hnone : Chosen given .runtimeInfo none) : Supplies given (.listed partitions)

/-- What a host is run with; an option that is not given has its default. -/
inductive Means (given : List Occurrence) : Command → Prop where
  | run {store bucketPrefix owner hub : Option String} {backing : Backing} {source : Source}
      (hstore : Chosen given .store store) (hbacking : backing.text = store.getD "memory")
      (hbuckets : Chosen given .bucketPrefix bucketPrefix) (howner : Chosen given .owner owner)
      (hhub : Chosen given .hub hub) (hsource : Supplies given source) :
      Means given (.run backing (bucketPrefix.getD "eventhost") owner (hub.getD "eventhost") source)

theorem Spelling.length_values (h : Spelling known args given) {o : Occurrence} (ho : o ∈ given)
    (hlist : o.name.isList = false) : ∃ value, o.values = [value] := by
  induction h with
  | nothing => cases ho
  | ender => cases ho
  | attached hname h ih =>
      rcases List.mem_cons.1 ho with rfl | ho
      · exact ⟨_, rfl⟩
      · exact ih ho
  | behind hname hvalues hcount h ih =>
      rcases List.mem_cons.1 ho with rfl | ho
      · rcases hcount with hcount | ⟨hcount, -⟩
        · exact List.length_eq_one_iff.1 hcount
        · rw [hlist] at hcount
          cases hcount
      · exact ih ho

theorem valuesOf_cons (name : OptionName) (o : Occurrence) (given : List Occurrence) :
    valuesOf name (o :: given) = (if o.name = name then o.values else []) ++ valuesOf name given := by
  by_cases h : o.name = name
  · simp [valuesOf, h]
  · simp [valuesOf, h]

theorem value?_of_mem (hfits : Fits given) (hlist : name.isList = false)
    (h : ⟨name, [value]⟩ ∈ given) : value? name given = some value := by
  induction given with
  | nil => cases h
  | cons o given ih =>
      rw [value?, valuesOf_cons]
      rcases List.mem_cons.1 h with rfl | h
      · rw [if_pos rfl]
        rfl
      · have hne : o.name ≠ name := by
          intro heq
          have honce := (List.pairwise_cons.1 hfits.once).1 _ h heq
          rw [heq, hlist] at honce
          cases honce
        rw [if_neg hne, List.nil_append]
        exact ih hfits.of_cons h

theorem valuesOf_eq_nil_iff (hfits : Fits given) :
    valuesOf name given = [] ↔ ∀ o ∈ given, o.name ≠ name := by
  rw [valuesOf, List.flatMap_eq_nil_iff]
  constructor
  · intro h o ho heq
    exact hfits.valued o ho (h o (List.mem_filter.2 ⟨ho, beq_iff_eq.2 heq⟩))
  · intro h o ho
    obtain ⟨ho, heq⟩ := List.mem_filter.1 ho
    exact absurd (beq_iff_eq.1 heq) (h o ho)

theorem chosen_iff (hspelling : Spelling known args given) (hfits : Fits given)
    (hlist : name.isList = false) : Chosen given name x ↔ value? name given = x := by
  constructor
  · rintro (h | h)
    · exact value?_of_mem hfits hlist h
    · rw [value?, (valuesOf_eq_nil_iff hfits).2 h]
      rfl
  · rintro rfl
    by_cases h : ∃ o ∈ given, o.name = name
    · obtain ⟨⟨_, values⟩, ho, rfl⟩ := h
      obtain ⟨value, rfl : values = [value]⟩ := hspelling.length_values ho hlist
      rw [value?_of_mem hfits hlist ho]
      exact .given ho
    · have hnone : ∀ o ∈ given, o.name ≠ name := fun o ho heq => h ⟨o, ho, heq⟩
      rw [value?, (valuesOf_eq_nil_iff hfits).2 hnone]
      exact .absent hnone

theorem source_eq_ok_iff (hspelling : Spelling known args given) (hfits : Fits given) :
    source given = .ok s ↔ Supplies given s := by
  have hfile : ∀ {x}, Chosen given .runtimeInfo x ↔ value? .runtimeInfo given = x :=
    chosen_iff hspelling hfits rfl
  rw [source]
  constructor
  · intro h
    split at h
    · cases h
    · rename_i path hpath hnone
      cases h
      exact .file (hfile.2 hpath) ((valuesOf_eq_nil_iff hfits).1 hnone)
    · rename_i p ps hnone hvalues
      cases h
      exact .listed hvalues.symm (List.cons_ne_nil p ps) (hfile.2 hnone)
    · cases h
  · rintro (⟨h, hnone⟩ | ⟨h, hne, hnone⟩)
    · rw [hfile.1 h, (valuesOf_eq_nil_iff hfits).2 hnone]
    · change _ = valuesOf .partitions given at h
      rw [hfile.1 hnone, ← h]
      cases hvalues : valuesOf .partitions given with
      | nil => exact absurd (h.trans hvalues) hne
      | cons p ps => rw [h, hvalues]

theorem backing_eq_iff (hspelling : Spelling known args given) (hfits : Fits given) {b : Backing} :
    backing given = b ↔ b.text = (value? .store given).getD "memory" := by
  have hstore : Chosen given .store (value? .store given) := (chosen_iff hspelling hfits rfl).2 rfl
  rw [backing]
  generalize value? .store given = store at hstore
  cases hstore with
  | absent => cases b <;> decide
  | given h =>
      have haccepted := hfits.accepted _ h _ (List.mem_singleton_self _)
      simp only [OptionName.accepts, Bool.or_eq_true, beq_iff_eq] at haccepted
      rcases haccepted with rfl | rfl
      · cases b <;> decide
      · cases b <;> decide

theorem readRun_eq_ok_iff :
    readRun args = .ok c ↔ ∃ given, Spelling runOptions args given ∧ Fits given ∧ Means given c := by
  have hchosen : ∀ {given name x}, Spelling runOptions args given → Fits given →
      OptionName.isList name = false → (Chosen given name x ↔ value? name given = x) :=
    fun hspelling hfits => chosen_iff hspelling hfits
  constructor
  · intro h
    obtain ⟨given, hgiven, h⟩ := exists_of_bind_eq_ok h
    obtain ⟨s, hs, h⟩ := exists_of_bind_eq_ok h
    obtain ⟨hspelling, hfits⟩ := readOptions_eq_ok_iff.1 hgiven
    obtain rfl := Except.ok.inj h
    refine ⟨given, hspelling, hfits, .run ((hchosen hspelling hfits rfl).2 rfl)
      ((backing_eq_iff hspelling hfits).1 rfl) ((hchosen hspelling hfits rfl).2 rfl)
      ((hchosen hspelling hfits rfl).2 rfl) ((hchosen hspelling hfits rfl).2 rfl)
      ((source_eq_ok_iff hspelling hfits).1 hs)⟩
  · rintro ⟨given, hspelling, hfits, hmeans⟩
    cases hmeans with
    | run hstore hbacking hbuckets howner hhub hsource =>
        rw [hchosen hspelling hfits rfl] at hstore hbuckets howner hhub
        subst hstore hbuckets howner hhub
        rw [readRun, readOptions_eq_ok_iff.2 ⟨hspelling, hfits⟩]
        simp only [bind, Except.bind, (source_eq_ok_iff hspelling hfits).2 hsource,
          (backing_eq_iff hspelling hfits).2 hbacking]
        rfl

theorem read_eq_ok_run_iff {b : Backing} {buckets hub : String} {owner : Option String} :
    read args = .ok (.run b buckets owner hub s) ↔
      ∃ rest, args = "run" :: rest ∧ readRun rest = .ok (.run b buckets owner hub s) := by
  constructor
  · intro h
    unfold read at h
    split at h
    · cases h
    · cases h
    · cases h
    · exact ⟨_, rfl, h⟩
    · obtain ⟨given, -, h⟩ := exists_of_bind_eq_ok h
      cases h
    · split at h <;> cases h
    · cases h
  · rintro ⟨rest, rfl, h⟩
    exact h

/-! ## Commands written -/

/-- What a command to run a host says: each option once, and each partition by itself. -/
def runSettings (b : Backing) (buckets : String) (owner : Option String) (hub : String) (s : Source) :
    List (OptionName × String) :=
  [(.store, b.text), (.bucketPrefix, buckets), (.hub, hub)] ++ owner.toList.map (.owner, ·) ++
    match s with
    | .file path => [(.runtimeInfo, path)]
    | .listed partitions => partitions.map (.partitions, ·)

def settingText (setting : OptionName × String) : String := longText setting.1.text (some setting.2)

def occurrenceOf (setting : OptionName × String) : Occurrence := ⟨setting.1, [setting.2]⟩

section Arrangement

variable {settings : List (OptionName × String)} {b : Backing} {buckets hub path : String}
  {owner : Option String} {partitions : List String}

theorem mem_map_occurrenceOf {name : OptionName} {value : String} :
    ⟨name, [value]⟩ ∈ settings.map occurrenceOf ↔ (name, value) ∈ settings := by
  simp [occurrenceOf]

theorem spelling_map_settingText (settings : List (OptionName × String)) :
    Spelling runOptions (settings.map settingText) (settings.map occurrenceOf) := by
  induction settings with
  | nil => exact .nothing
  | cons setting settings ih =>
      refine .attached ?_ ih
      cases setting.1 <;> decide

theorem mem_runSettings {name : OptionName} {value : String} :
    (name, value) ∈ runSettings b buckets owner hub s ↔
      name = .store ∧ value = b.text ∨ name = .bucketPrefix ∧ value = buckets ∨
      name = .hub ∧ value = hub ∨ name = .owner ∧ owner = some value ∨
      name = .runtimeInfo ∧ s = .file value ∨
      name = .partitions ∧ ∃ partitions, s = .listed partitions ∧ value ∈ partitions := by
  have hlisted : ∀ partitions : List String, (name, value) ∈ partitions.map (OptionName.partitions, ·) ↔
      name = .partitions ∧ value ∈ partitions := by
    intro partitions
    rw [List.mem_map]
    constructor
    · rintro ⟨p, hp, heq⟩
      obtain ⟨rfl, rfl⟩ := Prod.mk.inj heq
      exact ⟨rfl, hp⟩
    · rintro ⟨rfl, h⟩
      exact ⟨value, h, rfl⟩
  cases s <;> cases owner <;> simp [runSettings, hlisted, -List.mem_map, eq_comm]

theorem pairwise_runSettings (b : Backing) (buckets : String) (owner : Option String) (hub : String)
    (s : Source) : (runSettings b buckets owner hub s).Pairwise
      fun x y => x.1 = y.1 → x.1.isList = true := by
  have hlist : ∀ partitions : List String, (partitions.map (OptionName.partitions, ·)).Pairwise
      fun x y => x.1 = y.1 → x.1.isList = true := by
    intro partitions
    rw [List.pairwise_map]
    exact List.pairwise_of_forall fun _ _ _ => rfl
  cases s <;> cases owner <;> simp [runSettings, hlist]

theorem fits_map_occurrenceOf (h : settings.Perm (runSettings b buckets owner hub s))
    (hfile : s ≠ .file "") : Fits (settings.map occurrenceOf) := by
  have hsymm : ∀ {x y : OptionName × String}, (x.1 = y.1 → x.1.isList = true) →
      y.1 = x.1 → y.1.isList = true := fun hxy heq => heq ▸ hxy heq.symm
  refine ⟨?_, ?_, ?_⟩
  · rw [List.pairwise_map]
    exact (h.pairwise_iff hsymm).2 (pairwise_runSettings b buckets owner hub s)
  · intro o ho
    obtain ⟨setting, -, rfl⟩ := List.mem_map.1 ho
    exact List.cons_ne_nil _ _
  · intro o ho v hv
    obtain ⟨⟨name, value⟩, hsetting, rfl⟩ := List.mem_map.1 ho
    obtain rfl := List.mem_singleton.1 hv
    rcases mem_runSettings.1 (h.mem_iff.1 hsetting) with ⟨rfl, hb⟩ | ⟨rfl, -⟩ | ⟨rfl, -⟩ | ⟨rfl, -⟩ |
      ⟨rfl, hs⟩ | ⟨rfl, -⟩
    · cases b <;> exact hb ▸ rfl
    · rfl
    · rfl
    · rfl
    · have hne : v ≠ "" := fun hempty => hfile (hempty ▸ hs)
      simp [occurrenceOf, OptionName.accepts, hne]
    · rfl

theorem filter_runSettings (b : Backing) (buckets : String) (owner : Option String) (hub : String)
    (partitions : List String) :
    (runSettings b buckets owner hub (.listed partitions)).filter (·.1 == .partitions) =
      partitions.map (.partitions, ·) := by
  have hall : (partitions.map (OptionName.partitions, ·)).filter (·.1 == .partitions) =
      partitions.map (.partitions, ·) := by
    rw [List.filter_eq_self]
    intro setting hsetting
    obtain ⟨p, -, rfl⟩ := List.mem_map.1 hsetting
    rfl
  rw [runSettings, List.filter_append, hall]
  cases owner <;> rfl

theorem means_map_occurrenceOf (h : settings.Perm (runSettings b buckets owner hub s))
    (horder : settings.filter (·.1 == .partitions) =
      (runSettings b buckets owner hub s).filter (·.1 == .partitions)) (hlisted : s ≠ .listed []) :
    Means (settings.map occurrenceOf) (.run b buckets owner hub s) := by
  have hmem : ∀ {name value}, ⟨name, [value]⟩ ∈ settings.map occurrenceOf ↔
      (name, value) ∈ runSettings b buckets owner hub s := mem_map_occurrenceOf.trans h.mem_iff
  have hnone : ∀ name, (∀ value, (name, value) ∉ runSettings b buckets owner hub s) →
      ∀ o ∈ settings.map occurrenceOf, o.name ≠ name := by
    rintro name hname o ho rfl
    obtain ⟨⟨name, value⟩, hsetting, rfl⟩ := List.mem_map.1 ho
    exact hname value (h.mem_iff.1 hsetting)
  have howner : Chosen (settings.map occurrenceOf) .owner owner := by
    cases owner with
    | none => exact .absent (hnone _ fun value hvalue => by simp [mem_runSettings] at hvalue)
    | some owner => exact .given (hmem.2 (by simp [mem_runSettings]))
  have hsource : Supplies (settings.map occurrenceOf) s := by
    cases s with
    | file path =>
        refine .file (.given (hmem.2 (by simp [mem_runSettings]))) (hnone _ fun value hvalue => ?_)
        simp [mem_runSettings] at hvalue
    | listed partitions =>
        refine .listed ?_ (fun hnil => hlisted (hnil ▸ rfl))
          (.absent (hnone _ fun value hvalue => by simp [mem_runSettings] at hvalue))
        have hvalues : ∀ ps : List String,
            ((ps.map (OptionName.partitions, ·)).map occurrenceOf).flatMap (·.values) = ps := by
          intro ps
          rw [List.flatMap_map, List.flatMap_map]
          exact List.flatMap_singleton' ps
        rw [List.filter_map]
        change _ = ((settings.filter (·.1 == .partitions)).map occurrenceOf).flatMap (·.values)
        rw [horder, filter_runSettings, hvalues]
  exact .run (.given (hmem.2 (mem_runSettings.2 (.inl ⟨rfl, rfl⟩)))) rfl
    (.given (hmem.2 (by simp [mem_runSettings]))) howner (.given (hmem.2 (by simp [mem_runSettings])))
    hsource

theorem readRun_arrangement (h : settings.Perm (runSettings b buckets owner hub s))
    (horder : settings.filter (·.1 == .partitions) =
      (runSettings b buckets owner hub s).filter (·.1 == .partitions))
    (hfile : s ≠ .file "") (hlisted : s ≠ .listed []) :
    readRun (settings.map settingText) = .ok (.run b buckets owner hub s) :=
  readRun_eq_ok_iff.2 ⟨_, spelling_map_settingText settings, fits_map_occurrenceOf h hfile,
    means_map_occurrenceOf h horder hlisted⟩

end Arrangement

/--
A command line runs a host exactly if options of that command follow its name, of which none but a list is given
twice and each has values that it takes, and if the partitions come either from a file or from the values of all their
options in order, of which there is one at least; what is not given has its default. So a command whose values are
not empty is read back from any command line that gives each of its options once with the value attached, and
each partition by itself, where only the partitions must keep their order.
-/
theorem commands_match_options :
    (∀ args b buckets owner hub s, read args = .ok (.run b buckets owner hub s) ↔
      ∃ rest given, args = "run" :: rest ∧ Spelling runOptions rest given ∧ Fits given ∧
        Means given (.run b buckets owner hub s)) ∧
    ∀ b buckets owner hub s (settings : List (OptionName × String)),
      settings.Perm (runSettings b buckets owner hub s) →
      settings.filter (·.1 == .partitions) =
        (runSettings b buckets owner hub s).filter (·.1 == .partitions) →
      s ≠ .file "" → s ≠ .listed [] →
      read ("run" :: settings.map fun (name, value) => "--" ++ name.text ++ "=" ++ value) =
        .ok (.run b buckets owner hub s) := by
  refine ⟨fun args b buckets owner hub s => ?_,
    fun b buckets owner hub s settings h horder hfile hlisted => readRun_arrangement h horder hfile hlisted⟩
  rw [read_eq_ok_run_iff]
  constructor
  · rintro ⟨rest, hargs, hread⟩
    obtain ⟨given, hgiven⟩ := readRun_eq_ok_iff.1 hread
    exact ⟨rest, given, hargs, hgiven⟩
  · rintro ⟨rest, given, hargs, hgiven⟩
    exact ⟨rest, hargs, readRun_eq_ok_iff.2 ⟨given, hgiven⟩⟩

/-- Values that look like options, and one with an equals sign. -/
theorem commands_match_options_shuffled :
    read ["run", "--partitions=b", "--hub=h=1", "--partitions=--a", "--owner=-", "--store=jetstream",
      "--bucket-prefix= "] = .ok (.run .jetstream " " (some "-") "h=1" (.listed ["b", "--a"])) := by
  refine commands_match_options.2 .jetstream " " (some "-") "h=1" (.listed ["b", "--a"])
    [(.partitions, "b"), (.hub, "h=1"), (.partitions, "--a"), (.owner, "-"), (.store, "jetstream"),
      (.bucketPrefix, " ")] ?_ ?_ ?_ ?_
  · decide
  · decide
  · decide
  · decide

end PartitionHost.CommandLine
