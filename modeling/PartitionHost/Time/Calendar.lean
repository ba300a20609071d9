/-!
# The calendar

Days are counted from 1970-01-01, which is day 0, in the proleptic Gregorian calendar: its rule for
leap years is applied to all years, and the year before 1 is 0. A day has one date and a date one
day. `Date.dayNumber` and `Date.ofDayNumber` go from one to the other; `dayNumber_ofDayNumber` says
that nothing is lost on the way.
-/

namespace PartitionHost

/-- A year, a month of it from 1 to 12 and a day of that month from 1. -/
structure Date where
  year : Int
  month : Nat
  day : Nat
deriving DecidableEq, Repr

namespace Date

/-! ## Years -/

/-- Every fourth year is a leap year, except the full centuries that 400 does not divide. -/
def isLeap (year : Int) : Bool := year % 4 == 0 && (year % 100 != 0 || year % 400 == 0)

def firstDay (year : Int) : Int :=
  365 * year + (year - 1) / 4 - (year - 1) / 100 + (year - 1) / 400 - 719527

/-- The year that a day lies in: 400 years are 146097 days, which leaves three years to choose from. -/
def yearOf (n : Int) : Int :=
  let y := (n + 719528) * 400 / 146097
  if n < firstDay y then y - 1 else if n < firstDay (y + 1) then y else y + 1

def monthLengths (leap : Bool) : List Nat :=
  [31, if leap then 29 else 28, 31, 30, 31, 30, 31, 31, 30, 31, 30, 31]

theorem firstDay_yearOf_le (n : Int) : firstDay (yearOf n) ≤ n := by
  unfold yearOf
  simp only []
  split
  · unfold firstDay; omega
  · split <;> (unfold firstDay at *; omega)

theorem lt_firstDay_yearOf (n : Int) : n < firstDay (yearOf n + 1) := by
  unfold yearOf
  simp only []
  split
  · rename_i h
    rwa [Int.sub_add_cancel]
  · split
    · rename_i h
      exact h
    · unfold firstDay at *; omega

def span (ls : List Nat) : Nat := ls.foldr (· + ·) 0

@[simp] theorem span_nil : span [] = 0 := rfl

@[simp] theorem span_cons (l : Nat) (ls : List Nat) : span (l :: ls) = l + span ls := rfl

theorem firstDay_succ (year : Int) :
    firstDay (year + 1) = firstDay year + span (monthLengths (isLeap year)) := by
  cases h : isLeap year <;>
    simp only [isLeap, Bool.and_eq_true, Bool.or_eq_true, beq_iff_eq, bne_iff_ne,
      Bool.and_eq_false_iff, Bool.or_eq_false_iff, beq_eq_false_iff_ne, bne_eq_false_iff_eq] at h <;>
    simp only [firstDay, monthLengths, span_cons, span_nil, if_true, Bool.false_eq_true,
      if_false] <;>
    omega

/-! ## Months -/

/-- Which of the consecutive stretches of these lengths holds position `n`, and where in it. -/
def locate : List Nat → Nat → Nat × Nat
  | [], n => (0, n)
  | l :: ls, n =>
    if n < l then (0, n)
    else
      let (i, r) := locate ls (n - l)
      (i + 1, r)

theorem locate_lt {ls : List Nat} {n : Nat} (h : n < span ls) :
    ∃ l, ls[(locate ls n).1]? = some l ∧ (locate ls n).2 < l := by
  induction ls generalizing n with
  | nil => simp at h
  | cons l ls ih =>
    simp only [locate]
    split
    · exact ⟨l, rfl, by assumption⟩
    · rw [span_cons] at h
      exact ih (by omega)

theorem span_take_locate {ls : List Nat} {n : Nat} (h : n < span ls) :
    span (ls.take (locate ls n).1) + (locate ls n).2 = n := by
  induction ls generalizing n with
  | nil => simp at h
  | cons l ls ih =>
    simp only [locate]
    split
    · simp
    · rw [span_cons] at h
      have := ih (n := n - l) (by omega)
      simp only [List.take_succ_cons, span_cons]
      omega

/-! ## Dates -/

def isValid (d : Date) : Bool :=
  match (monthLengths (isLeap d.year))[d.month - 1]? with
  | some length => 1 ≤ d.month && 1 ≤ d.day && d.day ≤ length
  | none => false

def dayNumber (d : Date) : Int :=
  firstDay d.year + span ((monthLengths (isLeap d.year)).take (d.month - 1)) + (d.day - 1 : Nat)

def ofDayNumber (n : Int) : Date :=
  let year := yearOf n
  let (month, day) := locate (monthLengths (isLeap year)) (n - firstDay year).toNat
  ⟨year, month + 1, day + 1⟩

theorem dayOfYear_lt (n : Int) :
    (n - firstDay (yearOf n)).toNat < span (monthLengths (isLeap (yearOf n))) := by
  have h₁ := firstDay_yearOf_le n
  have h₂ := lt_firstDay_yearOf n
  rw [firstDay_succ] at h₂
  omega

theorem isValid_ofDayNumber (n : Int) : (ofDayNumber n).isValid = true := by
  obtain ⟨length, h, hlt⟩ := locate_lt (dayOfYear_lt n)
  simp only [ofDayNumber, isValid, Nat.add_sub_cancel, h]
  simpa [Nat.succ_le_iff] using hlt

theorem dayNumber_ofDayNumber (n : Int) : (ofDayNumber n).dayNumber = n := by
  have h₁ := firstDay_yearOf_le n
  have h₂ := span_take_locate (dayOfYear_lt n)
  simp only [ofDayNumber, dayNumber, Nat.add_sub_cancel]
  omega

end Date

end PartitionHost
