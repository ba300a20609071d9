import PartitionHost.Hub.Enquiry
import PartitionHost.Proofs.Json.StringText

/-!
# What a snapshot answers

A snapshot is made from a document exactly if the document is consistent (`Document.Consistent`). It knows of a
partition what was said last, by whoever put a range in the place of another one or else by the document, and
takes the partitions that the hub lists and nothing is said of for empty (`range_withRanges`).
-/

namespace PartitionHost

open Json

def PartitionRange.last? (p : String) (rs : List PartitionRange) : Option PartitionRange :=
  (rs.filter (·.partition == p)).getLast?

namespace PartitionRange

variable {p : String} {rs : List PartitionRange} {r : PartitionRange}

theorem last?_cons (p : String) (r : PartitionRange) (rs : List PartitionRange) :
    last? p (r :: rs) = (last? p rs).or (if p = r.partition then some r else none) := by
  by_cases h : p = r.partition
  · subst h
    rw [last?, List.filter_cons_of_pos (by simp), List.getLast?_cons, if_pos rfl, last?]
    cases (rs.filter (·.partition == r.partition)).getLast? <;> rfl
  · rw [last?, List.filter_cons_of_neg (by simpa using Ne.symm h), if_neg h, Option.or_none, last?]

theorem mem_of_last? (h : last? p rs = some r) : r ∈ rs ∧ r.partition = p := by
  simpa using List.mem_filter.1 (List.mem_of_getLast? h)

end PartitionRange

open PartitionRange (last?)

theorem Table.get?_foldl_insert (p : String) (rs : List PartitionRange) (t : Table PartitionRange) :
    (rs.foldl (fun t r => t.insert r.partition r) t).get? p = (last? p rs).or (t.get? p) := by
  induction rs generalizing t with
  | nil => rfl
  | cons r rs ih =>
      rw [List.foldl_cons, ih, PartitionRange.last?_cons, get?_insert, Option.or_assoc]
      split <;> rfl

namespace Snapshot

/-! ## Documents -/

namespace Document

/-- The hub lists as many partitions as it says, and all ranges are of partitions that it lists. -/
structure Consistent (d : Document) : Prop where
  count : d.hub.partitionCount = d.hub.partitions.length
  listed : ∀ r ∈ d.ranges, r.partition ∈ d.hub.partitions

theorem validate_eq_ok_iff {d : Document} : d.validate = .ok () ↔ d.Consistent := by
  unfold validate
  by_cases hcount : d.hub.partitionCount = d.hub.partitions.length
  · rw [if_neg fun h => h hcount]
    split
    · rename_i r hr
      refine ⟨nofun, fun h => ?_⟩
      have hmem := h.listed r (List.mem_of_find?_eq_some hr)
      have hunlisted := List.find?_some hr
      simp [hmem] at hunlisted
    · rename_i hnone
      refine ⟨fun _ => ⟨hcount, fun r hr => ?_⟩, fun _ => rfl⟩
      simpa using List.find?_eq_none.1 hnone r hr
  · rw [if_pos hcount]
    exact ⟨nofun, fun h => absurd h.count hcount⟩

theorem ofJson?_of_no_ranges {ms : List (Bytes × Value)} {members : List (String × Value)}
    (hms : Value.members? ms = some members) (hnone : Value.valuesOf "partitions" members = []) :
    ofJson? (.object ms) = ((Value.only? "hub" members).bind Record.ofJson?).map (⟨·, []⟩) := by
  simp only [ofJson?, hms, Option.bind_eq_bind, Option.bind_some, hnone]
  cases Value.only? "hub" members with
  | none => rfl
  | some hub =>
      simp only [Option.bind_some]
      cases Record.ofJson? (α := Hub) hub <;> rfl

end Document

/-- A document that can be read is accepted exactly if it is consistent, and then makes the snapshot. -/
theorem ofText_eq_ok_iff {text : Bytes} {d : Document} {s : Snapshot}
    (h : (Value.ofBytes? text).bind Document.ofJson? = some d) :
    ofText text = .ok s ↔ d.Consistent ∧ s = ofParts d.hub d.ranges := by
  rw [ofText, h, ← Document.validate_eq_ok_iff]
  simp only
  cases d.validate with
  | error f => exact ⟨nofun, fun h => nomatch h.1⟩
  | ok u => exact ⟨fun h => ⟨rfl, (Except.ok.inj h).symm⟩, fun h => h.2 ▸ rfl⟩

/-! ## Answers -/

variable {s : Snapshot} {d : Document} {p : String} {r : PartitionRange}

theorem get?_ofParts (hub : Hub) (ranges : List PartitionRange) (p : String) :
    (ofParts hub ranges).ranges.get? p = last? p ranges := by
  rw [ofParts, Table.ofList, List.foldl_map, Table.get?_foldl_insert, Table.get?_empty, Option.or_none]

theorem hub_withRanges (later : List PartitionRange) : (later.foldl withRange s).hub = s.hub := by
  induction later generalizing s with
  | nil => rfl
  | cons r later ih => exact ih

theorem ranges_withRanges (later : List PartitionRange) :
    (later.foldl withRange s).ranges = later.foldl (fun t r => t.insert r.partition r) s.ranges := by
  induction later generalizing s with
  | nil => rfl
  | cons r later ih => exact ih

theorem range_withRanges (d : Document) (later : List PartitionRange) (p : String) :
    (later.foldl withRange (ofParts d.hub d.ranges)).range p =
      match (last? p later).or (last? p d.ranges) with
      | some r => .ok r
      | none =>
        if p ∈ d.hub.partitions then .ok (.empty d.hub.path p) else .error (.notFound p) := by
  rw [range, ranges_withRanges, Table.get?_foldl_insert, get?_ofParts, hub_withRanges]
  simp only [List.contains_iff_mem]
  rfl

theorem partition_of_range (later : List PartitionRange)
    (h : (later.foldl withRange (ofParts d.hub d.ranges)).range p = .ok r) : r.partition = p := by
  rw [range_withRanges] at h
  split at h
  · rename_i hlast
    cases h
    rcases Option.or_eq_some_iff.1 hlast with hlater | ⟨-, hfirst⟩
    · exact (PartitionRange.mem_of_last? hlater).2
    · exact (PartitionRange.mem_of_last? hfirst).2
  · split at h
    · cases h
      rfl
    · cases h

theorem exists_range_iff (h : d.Consistent) :
    (∃ r, (ofParts d.hub d.ranges).range p = .ok r) ↔ p ∈ d.hub.partitions := by
  have hrange : (ofParts d.hub d.ranges).range p = match last? p d.ranges with
      | some r => .ok r
      | none => if p ∈ d.hub.partitions then .ok (.empty d.hub.path p) else .error (.notFound p) :=
    range_withRanges d [] p
  rw [hrange]
  constructor
  · rintro ⟨r, hr⟩
    split at hr
    · rename_i hlast
      obtain ⟨hmem, rfl⟩ := PartitionRange.mem_of_last? hlast
      exact h.listed _ hmem
    · split at hr
      · assumption
      · cases hr
  · intro hp
    split
    · exact ⟨_, rfl⟩
    · exact ⟨_, if_pos hp⟩

/-- Two partitions, the second with two ranges. -/
def Document.orders : Document :=
  ⟨⟨"orders", .epoch, 2, ["0", "1"]⟩,
    [⟨"orders", "1", 0, 57, "9120", .epoch⟩, ⟨"orders", "1", 0, 9, "64", .epoch⟩]⟩

def Document.text (d : Document) : Bytes :=
  (Value.object [(escape "hub", Record.toJson d.hub),
    (escape "partitions", .array (d.ranges.map Record.toJson))]).bytes

end Snapshot

end PartitionHost
