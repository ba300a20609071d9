import Mathlib.Order.Defs.LinearOrder
import PartitionHost.Time.Timestamp

/-!
# The order of instants

Instants are ordered like the numbers of their nanoseconds, as far as these are ordinary ones; a leap
second comes before the second after it.
-/

namespace PartitionHost.Timestamp

theorem le_def {a b : Timestamp} :
    a ≤ b ↔ a.seconds < b.seconds ∨ a.seconds = b.seconds ∧ a.nanos ≤ b.nanos := .rfl

theorem lt_def {a b : Timestamp} :
    a < b ↔ a.seconds < b.seconds ∨ a.seconds = b.seconds ∧ a.nanos < b.nanos := .rfl

instance : LinearOrder Timestamp where
  le_refl a := by rw [le_def]; omega
  le_trans a b c := by simp only [le_def]; omega
  le_antisymm a b hab hba := by
    simp only [le_def] at hab hba
    obtain ⟨seconds, nanos⟩ := a
    obtain ⟨seconds', nanos'⟩ := b
    obtain rfl : seconds = seconds' := by simp only at hab hba; omega
    obtain rfl : nanos = nanos' := by simp only at hab hba; omega
    rfl
  le_total a b := by simp only [le_def]; omega
  lt_iff_le_not_ge a b := by simp only [le_def, lt_def]; omega
  toDecidableLE := inferInstance

theorem ofNanos_mono {m n : Int} (h : m ≤ n) : ofNanos m ≤ ofNanos n := by
  unfold ofNanos
  split
  · split
    · exact le_refl _
    · split
      · decide
      · rw [le_def]
        simp only [earliest]
        omega
  · split
    · rw [dif_neg (by omega), dif_pos (by omega)]
    · rw [dif_neg (by omega)]
      split
      · rw [le_def]
        simp only [latest]
        omega
      · rw [le_def]
        simp only
        omega

/-- An instant that a clock can show is the one its nanoseconds stand for. -/
theorem ofNanos_toNanos_ofNanos (n : Int) : ofNanos (ofNanos n).toNanos = ofNanos n := by
  by_cases hlow : n < firstSecond * 1000000000
  · rw [show ofNanos n = earliest by rw [ofNanos, dif_pos hlow]]
    decide
  · by_cases hhigh : (lastSecond + 1) * 1000000000 ≤ n
    · rw [show ofNanos n = latest by rw [ofNanos, dif_neg hlow, dif_pos hhigh]]
      decide
    · have hnanos : (ofNanos n).toNanos = n := by
        rw [ofNanos, dif_neg hlow, dif_neg hhigh, toNanos]
        simp only
        omega
      rw [hnanos]

theorem ofNanos_le_plus (n : Int) (d : Duration) : ofNanos n ≤ (ofNanos n).plus d := by
  have hle : ofNanos (ofNanos n).toNanos ≤ (ofNanos n).plus d := ofNanos_mono (by omega)
  rwa [ofNanos_toNanos_ofNanos] at hle

theorem nanos_ofNanos_lt (n : Int) : (ofNanos n).nanos < 1000000000 := by
  unfold ofNanos
  split
  · decide
  · split
    · decide
    · change (n % 1000000000).toNat < 1000000000
      omega

/-- Time that is to come goes on to the latest instant, and no further. -/
theorem toNanos_plus (t : Timestamp) (d : Duration) :
    (t.plus d).toNanos = min (t.toNanos + d.nanos) latest.toNanos := by
  have hsince := t.seconds_ge
  have hlatest : latest.toNanos = lastSecond * 1000000000 + 999999999 := rfl
  rw [hlatest, plus, ofNanos, dif_neg (by unfold toNanos; omega)]
  split
  · rw [hlatest]
    omega
  · rw [toNanos]
    simp only
    omega

theorem toNanos_le {n : Int} {t : Timestamp} (h : ofNanos n ≤ t) : (ofNanos n).toNanos ≤ t.toNanos := by
  -- A leap second as the earlier time would be ordered before times of fewer nanoseconds.
  have hordinary := nanos_ofNanos_lt n
  rw [le_def] at h
  unfold toNanos
  omega

theorem plus_mono {n : Int} {t : Timestamp} {d d' : Duration} (h : ofNanos n ≤ t) (hd : d ≤ d') :
    (ofNanos n).plus d ≤ t.plus d' := by
  have hd : d.nanos ≤ d'.nanos := hd
  have h := toNanos_le h
  apply ofNanos_mono
  omega

end PartitionHost.Timestamp
