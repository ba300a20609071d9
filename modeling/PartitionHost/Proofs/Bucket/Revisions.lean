import PartitionHost.Proofs.Bucket.Effect

/-!
# Revisions

A server numbers the writes on its bucket: a write, a removal and a competing writer each take the next
revision, and dropping the bucket gives none of them back. So no revision is taken twice, and entries under
different keys are of different revisions (`Numbered`), whatever calls are made and however the server was
told to misbehave.

That is what a conditional write stands on. An update that succeeds at the revision at which an entry was
read finds that entry, and nothing has been done to it since; an entry that was removed and put back
meanwhile, even with the same value, is of another revision (`revisions_never_return`).
-/

namespace PartitionHost

namespace Bucket

/-! ## Numbered buckets -/

/-- The entries were written one after the other, none of them later than the bucket counts. -/
structure Numbered (b : Bucket) : Prop where
  sound : b.Sound
  distinct : ∀ key other s s', b.entries.get? key = some s → b.entries.get? other = some s' →
    key ≠ other → s.revision ≠ s'.revision

theorem numbered_of_empty {b : Bucket} (h : b.entries = .empty) : b.Numbered where
  sound := sound_of_empty h
  distinct key other s s' hs := by
    rw [h] at hs
    cases hs

theorem Numbered.of_subset {b b' : Bucket} (hb : b.Numbered) (hle : b.revision ≤ b'.revision)
    (h : ∀ key s, b'.entries.get? key = some s → b.entries.get? key = some s) : b'.Numbered where
  sound := (evolves_of_subset hle h).sound hb.sound
  distinct key other s s' hs hs' := hb.distinct key other s s' (h key s hs) (h other s' hs')

theorem Numbered.write {b : Bucket} (hb : b.Numbered) (key : String) (value : Bytes) :
    (b.write key value).Numbered where
  sound := (evolves_write b key value).sound hb.sound
  distinct one two s s' hs hs' hne := by
    rw [get?_write] at hs hs'
    split at hs
    · rename_i hone
      cases hs
      rw [if_neg fun htwo => hne (hone.trans htwo.symm)] at hs'
      have := hb.sound two s' hs'
      simp only
      omega
    · split at hs'
      · cases hs'
        have := hb.sound one s hs
        simp only
        omega
      · exact hb.distinct one two s s' hs hs' hne

theorem Numbered.touch {b : Bucket} (hb : b.Numbered) (key : String) : (b.touch key).Numbered := by
  unfold Bucket.touch
  split
  · exact hb.write key _
  · exact hb.of_subset (Nat.le_succ _) fun _ _ => id

theorem Numbered.delete {b : Bucket} (hb : b.Numbered) (key : String) : (b.delete key).Numbered := by
  refine hb.of_subset (evolves_delete b key).revision_le fun other s hs => ?_
  rw [get?_delete] at hs
  split at hs
  · cases hs
  · exact hs

theorem Effect.numbered {b b' : Bucket} {c : Call} {x : Except Error c.Reply}
    (h : Effect b c x b') (hb : b.Numbered) : b'.Numbered := by
  cases h with
  | ensured => exact hb.of_subset (Nat.le_refl _) fun _ _ => id
  | dropped => exact hb.of_subset (Nat.le_refl _) fun _ _ hs => by simp at hs
  | created value h => exact hb.write _ value
  | written value h hs => exact hb.write _ value
  | beaten value revision => exact hb.touch _
  | deleted key => exact hb.delete key
  | _ => exact hb

theorem revision_touch (b : Bucket) (key : String) : (b.touch key).revision = b.revision + 1 := by
  unfold touch
  split <;> rfl

theorem get?_touch {b : Bucket} {key : String} {s : Stamped} (h : b.entries.get? key = some s) :
    (b.touch key).entries.get? key = some ⟨s.value, b.revision + 1⟩ := by
  unfold touch
  rw [h]
  simp only
  rw [get?_write, if_pos rfl]

theorem get?_touch_of_ne {b : Bucket} {key other : String} (h : other ≠ key) :
    (b.touch key).entries.get? other = b.entries.get? other := by
  unfold touch
  split
  · rw [get?_write, if_neg h]
  · rfl

theorem Effect.revision_le_succ {b b' : Bucket} {c : Call} {x : Except Error c.Reply}
    (h : Effect b c x b') : b'.revision ≤ b.revision + 1 := by
  cases h with
  | created value h => exact Nat.le_refl _
  | written value h hs => exact Nat.le_refl _
  | beaten value revision => exact Nat.le_of_eq (revision_touch b _)
  | deleted key =>
      unfold delete
      split
      · exact Nat.le_refl _
      · exact Nat.le_succ _
  | _ => exact Nat.le_succ _

theorem Effect.eq_write_of_created {b b' : Bucket} {key : String} {value : Bytes} {n : Nat}
    (h : Effect b (.create key value) (.ok (some n)) b') :
    n = b.revision + 1 ∧ b' = b.write key value := by
  cases h
  exact ⟨rfl, rfl⟩

theorem Effect.eq_write_of_written {b b' : Bucket} {key : String} {value : Bytes} {revision n : Nat}
    (h : Effect b (.update key value revision) (.ok (some n)) b') :
    n = b.revision + 1 ∧ b' = b.write key value := by
  cases h
  exact ⟨rfl, rfl⟩

theorem Effect.eq_delete {b b' : Bucket} {key : String} (h : Effect b (.delete key) (.ok ()) b') :
    b' = b.delete key := by
  cases h
  rfl

/-- What is found later, and is not of a later revision than the bucket had, was there already. -/
theorem Evolves.get?_of_le {b b' : Bucket} (h : b.Evolves b') {key : String} {s : Stamped}
    (hs : b'.entries.get? key = some s) (hle : s.revision ≤ b.revision) : b.entries.get? key = some s :=
  (h.entry key s hs).resolve_right (Nat.not_lt.2 hle)

/-! ## Runs of a server -/

namespace Server

/-- A server is called, or told how to misbehave from now on. -/
inductive Handling where
  | call (c : Call)
  | inject (faults : Faults)

def handle (s : Server) : Handling → Server
  | .call c => (s.answer c).2
  | .inject faults => { s with faults }

def after (s : Server) (hs : List Handling) : Server := hs.foldl handle s

/-- The bucket's count passes `n`. -/
def Takes (s : Server) (h : Handling) (n : Nat) : Prop :=
  s.bucket.revision < n ∧ n ≤ (s.handle h).bucket.revision

/-- The call is answered that it wrote a value under the key, at revision `n`. -/
inductive Writes (s : Server) (key : String) (value : Bytes) (n : Nat) : Handling → Prop where
  | created : (s.answer (.create key value)).1 = .ok (some n) →
      Writes s key value n (.call (.create key value))
  | replaced {revision : Nat} : (s.answer (.update key value revision)).1 = .ok (some n) →
      Writes s key value n (.call (.update key value revision))

/-- What can be done to an entry. -/
inductive Alters (s : Server) (key : String) : Handling → Prop where
  | written {h : Handling} {value : Bytes} {n : Nat} : s.Writes key value n h → Alters s key h
  /-- A competing writer puts its value there once more, at another revision. -/
  | bumped {value : Bytes} {revision : Nat} : (s.answer (.update key value revision)).1 = .ok none →
      0 < s.faults.conflictUpdates → Alters s key (.call (.update key value revision))
  | deleted : (s.answer (.delete key)).1 = .ok () → Alters s key (.call (.delete key))
  | dropped : Alters s key (.call .drop)

theorem after_append (s : Server) (hs hs' : List Handling) :
    s.after (hs ++ hs') = (s.after hs).after hs' := List.foldl_append

theorem effect_of_answer {s : Server} {c : Call} {x : c.Reply} (h : (s.answer c).1 = .ok x) :
    Effect s.bucket c (.ok x) (s.handle (.call c)).bucket := by
  have heffect := s.effect_answer c
  rw [h] at heffect
  exact heffect

theorem evolves_handle (s : Server) (h : Handling) : s.bucket.Evolves (s.handle h).bucket := by
  cases h with
  | call c => exact (s.effect_answer c).evolves
  | inject faults => exact .refl _

theorem numbered_handle {s : Server} (hs : s.bucket.Numbered) (h : Handling) :
    (s.handle h).bucket.Numbered := by
  cases h with
  | call c => exact (s.effect_answer c).numbered hs
  | inject faults => exact hs

theorem revision_handle_le (s : Server) (h : Handling) :
    (s.handle h).bucket.revision ≤ s.bucket.revision + 1 := by
  cases h with
  | call c => exact (s.effect_answer c).revision_le_succ
  | inject faults => exact Nat.le_succ _

theorem evolves_after (s : Server) (hs : List Handling) : s.bucket.Evolves (s.after hs).bucket := by
  induction hs generalizing s with
  | nil => exact .refl _
  | cons h hs ih => exact (s.evolves_handle h).trans (ih (s.handle h))

theorem numbered_after {s : Server} (h : s.bucket.Numbered) (hs : List Handling) :
    (s.after hs).bucket.Numbered := by
  induction hs generalizing s with
  | nil => exact h
  | cons x hs ih => exact ih (numbered_handle h x)

/-! ## What is taken, and what it is taken for -/

variable {s : Server} {key : String} {h : Handling}

theorem Takes.unique {n n' : Nat} (hn : s.Takes h n) (hn' : s.Takes h n') : n = n' := by
  have := s.revision_handle_le h
  unfold Takes at hn hn'
  omega

theorem Takes.lt {n n' : Nat} {mid : List Handling} {h' : Handling} (hn : s.Takes h n)
    (hn' : ((s.handle h).after mid).Takes h' n') : n < n' :=
  Nat.lt_of_le_of_lt (Nat.le_trans hn.2 ((s.handle h).evolves_after mid).revision_le) hn'.1

theorem Writes.takes {value : Bytes} {n : Nat} (hw : s.Writes key value n h) :
    s.Takes h n ∧ (s.handle h).bucket.entries.get? key = some ⟨value, n⟩ := by
  have hwrite : n = s.bucket.revision + 1 ∧ (s.handle h).bucket = s.bucket.write key value := by
    cases hw with
    | created hx => exact (effect_of_answer hx).eq_write_of_created
    | replaced hx => exact (effect_of_answer hx).eq_write_of_written
  obtain ⟨rfl, hwrite⟩ := hwrite
  rw [Takes, hwrite, get?_write, if_pos rfl]
  exact ⟨⟨Nat.lt_succ_self _, Nat.le_refl _⟩, rfl⟩

/-- An entry that was not there is of a revision that was taken for it. -/
theorem takes_of_get? (hs : s.bucket.Numbered) {st : Stamped}
    (hst : (s.handle h).bucket.entries.get? key = some st) :
    s.bucket.entries.get? key = some st ∨ s.Takes h st.revision :=
  ((s.evolves_handle h).entry key st hst).imp_right
    fun hlt => ⟨hlt, (numbered_handle hs h).sound key st hst⟩

theorem update_of_answer {value : Bytes} {revision : Nat} {x : Option Nat}
    (hx : (s.answer (.update key value revision)).1 = .ok x) :
    s.update key value revision = (x, s.handle (.call (.update key value revision))) := by
  rw [handle]
  rw [answer] at hx ⊢
  rcases access_cases s .update fun s => s.update key value revision with ⟨f, s', hfailed, -⟩ | hok
  · rw [hfailed] at hx
    cases hx
  · rw [hok] at hx ⊢
    exact Prod.ext (Except.ok.inj hx) rfl

theorem handle_update_of_bumped {value : Bytes} {revision : Nat}
    (hx : (s.answer (.update key value revision)).1 = .ok none) (hf : 0 < s.faults.conflictUpdates) :
    (s.handle (.call (.update key value revision))).bucket = s.bucket.touch key := by
  have hupdate := update_of_answer hx
  rw [update, if_pos hf] at hupdate
  rw [← (Prod.mk.inj hupdate).2]

theorem handle_update_of_stale {value : Bytes} {revision : Nat}
    (hx : (s.answer (.update key value revision)).1 = .ok none) (hf : ¬ 0 < s.faults.conflictUpdates) :
    (s.handle (.call (.update key value revision))).bucket = s.bucket := by
  have hupdate := update_of_answer hx
  rw [update, if_neg hf, Bucket.update] at hupdate
  by_cases hfound : (s.bucket.entries.get? key).map (·.revision) = some revision
  · rw [if_pos hfound] at hupdate
    cases (Prod.mk.inj hupdate).1
  · rw [if_neg hfound] at hupdate
    rw [← (Prod.mk.inj hupdate).2]

theorem get?_handle_call {st : Stamped} (hst : s.bucket.entries.get? key = some st) {c : Call}
    (hkept : ¬ s.Alters key (.call c)) : (s.handle (.call c)).bucket.entries.get? key = some st := by
  obtain ⟨x, hx⟩ : ∃ x, (s.answer c).1 = x := ⟨_, rfl⟩
  cases x with
  | error f =>
      have heffect := s.effect_answer c
      rw [hx] at heffect
      exact heffect.eq_of_error ▸ hst
  | ok x =>
      obtain ⟨b', hb'⟩ : ∃ b', (s.handle (.call c)).bucket = b' := ⟨_, rfl⟩
      have heffect := effect_of_answer hx
      rw [hb'] at heffect ⊢
      cases heffect with
      | dropped => exact absurd .dropped hkept
      | created value hnone =>
          rw [get?_write, if_neg, hst]
          rintro rfl
          exact hkept (.written (.created hx))
      | written value hsome hrevision =>
          rw [get?_write, if_neg, hst]
          rintro rfl
          exact hkept (.written (.replaced hx))
      | beaten value revision =>
          by_cases hf : 0 < s.faults.conflictUpdates
          · rw [get?_touch_of_ne, hst]
            rintro rfl
            exact hkept (.bumped hx hf)
          · rw [← hb', handle_update_of_stale hx hf, hst]
      | deleted other =>
          rw [get?_delete, if_neg, hst]
          rintro rfl
          exact hkept (.deleted hx)
      | _ => exact hst

theorem get?_handle_iff (hs : s.bucket.Numbered) {st : Stamped}
    (hst : s.bucket.entries.get? key = some st) :
    (s.handle h).bucket.entries.get? key = some st ↔ ¬ s.Alters key h := by
  constructor
  · intro hst' ha
    cases ha with
    | written hw =>
        obtain ⟨htakes, hwritten⟩ := hw.takes
        obtain rfl := Option.some.inj (hst'.symm.trans hwritten)
        exact absurd (hs.sound key _ hst) (Nat.not_le.2 htakes.1)
    | bumped hx hf =>
        rw [handle_update_of_bumped hx hf, get?_touch hst] at hst'
        have hrevision := congrArg Stamped.revision (Option.some.inj hst')
        have hle := hs.sound key st hst
        simp only at hrevision
        omega
    | deleted hx =>
        rw [(effect_of_answer hx).eq_delete, get?_delete, if_pos rfl] at hst'
        cases hst'
    | dropped => simp [handle, answer] at hst'
  · intro hkept
    cases h with
    | inject faults => exact hst
    | call c => exact get?_handle_call hst hkept

theorem get?_of_updated (hs : s.bucket.Numbered) {st : Stamped}
    (hst : s.bucket.entries.get? key = some st) {older newer : List Handling} {value : Bytes} {n : Nat}
    (hx : ((s.after (older ++ newer)).answer (.update key value st.revision)).1 = .ok (some n)) :
    (s.after older).bucket.entries.get? key = some st := by
  obtain ⟨found, hfound, hrevision, -⟩ := (effect_of_answer hx).of_written
  obtain rfl := (s.evolves_after (older ++ newer)).eq_of_revision_eq hs.sound hst hfound hrevision
  rw [after_append] at hfound
  exact ((s.after older).evolves_after newer).get?_of_le hfound
    (Nat.le_trans (hs.sound key _ hst) (s.evolves_after older).revision_le)

/--
Whatever is done to a server whose bucket was empty at first: its entries are of different revisions, none
of them later than the count of the bucket, which never goes back. No revision is taken twice, whether the
bucket is dropped in between or not, and all that is put under a key is of a revision that was taken then.
So an update that succeeds at the revision at which an entry was read replaces that entry, to which nothing
was done after it was read.
-/
theorem revisions_never_return {s : Server} (hempty : s.bucket.entries = .empty) (hs : List Handling) :
    let now := s.after hs
    now.bucket.Numbered ∧
    (∀ h, now.bucket.revision ≤ (now.handle h).bucket.revision ∧
      (∀ key value n, now.Writes key value n h →
        now.Takes h n ∧ (now.handle h).bucket.entries.get? key = some ⟨value, n⟩) ∧
      (∀ key st, (now.handle h).bucket.entries.get? key = some st →
        now.bucket.entries.get? key = some st ∨ now.Takes h st.revision) ∧
      ∀ n, now.Takes h n →
        (∀ n', now.Takes h n' → n' = n) ∧
        ∀ mid h' n', ((now.handle h).after mid).Takes h' n' → n < n') ∧
    ∀ key e mid value n, (now.answer (.entry key)).1 = .ok (some e) →
      let read := now.handle (.call (.entry key))
      ((read.after mid).answer (.update key value e.revision)).1 = .ok (some n) →
        (read.after mid).bucket.entries.get? key = some ⟨e.value, e.revision⟩ ∧
        ∀ older x newer, mid = older ++ x :: newer →
          (read.after older).bucket.entries.get? key = some ⟨e.value, e.revision⟩ ∧
          ¬ (read.after older).Alters key x := by
  have hnumbered := numbered_after (numbered_of_empty hempty) hs
  refine ⟨hnumbered, fun h => ⟨((s.after hs).evolves_handle h).revision_le, ?_, ?_, ?_⟩, ?_⟩
  · exact fun key value n hw => hw.takes
  · exact fun key st => takes_of_get? hnumbered
  · exact fun n hn => ⟨fun n' hn' => hn'.unique hn, fun mid h' n' hn' => hn.lt hn'⟩
  · intro key e mid value n hread read hx
    obtain ⟨hentry, hbucket⟩ := (effect_of_answer hread).of_read
    obtain ⟨st, hst, rfl⟩ := Option.map_eq_some_iff.1 hentry.symm
    have hfound : read.bucket.entries.get? key = some st := hbucket ▸ hst
    have hnumbered := numbered_handle hnumbered (.call (.entry key))
    have hkept : ∀ older newer, mid = older ++ newer →
        (read.after older).bucket.entries.get? key = some st := by
      rintro older newer rfl
      exact get?_of_updated hnumbered hfound hx
    refine ⟨hkept mid [] (List.append_nil mid).symm, fun older x newer hmid => ?_⟩
    have hst₁ := hkept older (x :: newer) hmid
    have hst₂ := hkept (older ++ [x]) newer (by rw [hmid, List.append_assoc]; rfl)
    rw [after_append] at hst₂
    exact ⟨hst₁, (get?_handle_iff (numbered_after hnumbered older) hst₁).1 hst₂⟩

/-- A call fails, the bucket is dropped, and a competing writer is met where nothing is stored. -/
def troubled : List Handling :=
  [.call .ensure, .call (.create "0" [1]), .call .drop, .call .ensure,
    .inject { failCreates := 1, conflictUpdates := 1 }, .call (.create "0" [1]),
    .call (.create "0" [1]), .call (.update "1" [] 1)]

/-- Another key is written and removed. -/
def elsewhere : List Handling :=
  [.call (.create "1" [7]), .call (.update "1" [8] 4), .call (.delete "1")]

/-- The value put back after the bucket was dropped is of revision 2, and is replaced as revision 7. -/
theorem revisions_never_return_troubled :
    let now := Server.after { name := "leases" } troubled
    let read := now.handle (.call (.entry "0"))
    (now.answer (.entry "0")).1 = .ok (some ⟨"0", [1], 2⟩) ∧
    ((read.after elsewhere).answer (.update "0" [2] 2)).1 = .ok (some 7) ∧
    (read.after elsewhere).bucket.entries.get? "0" = some ⟨[1], 2⟩ ∧
    ¬ read.Alters "0" (.call (.create "1" [7])) := by
  have hread : ((Server.after { name := "leases" } troubled).answer (.entry "0")).1 =
    .ok (some ⟨"0", [1], 2⟩) := rfl
  have hupdated : ((((Server.after { name := "leases" } troubled).handle
    (.call (.entry "0"))).after elsewhere).answer (.update "0" [2] 2)).1 = .ok (some 7) := rfl
  have hkept := (revisions_never_return (s := { name := "leases" }) rfl troubled).2.2
    "0" ⟨"0", [1], 2⟩ elsewhere [2] 7 hread hupdated
  exact ⟨hread, hupdated, hkept.1, (hkept.2 [] _ _ rfl).2⟩

end Server

end Bucket

end PartitionHost
