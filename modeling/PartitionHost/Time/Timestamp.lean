import PartitionHost.Time.Calendar
import PartitionHost.Time.Duration

/-!
# Timestamps

An instant in UTC, exact to the nanosecond, in the years from -262143 to 262142. A timestamp counts
the seconds since 1970-01-01T00:00:00Z, in which leap seconds are not counted: a leap second is the
last second of a minute going on past its 10^9 nanoseconds. Clocks read ordinary instants; leap
seconds come only from records.

Instants are ordered by their seconds, then by their nanoseconds.
-/

namespace PartitionHost

namespace Timestamp

/-- The first second of the year -262143. -/
def firstSecond : Int := -8334601228800

/-- The last second of the year 262142. -/
def lastSecond : Int := 8210266876799

end Timestamp

structure Timestamp where
  /-- Whole seconds since the beginning of 1970. -/
  seconds : Int
  /-- Nanoseconds beyond them. -/
  nanos : Nat
  seconds_ge : Timestamp.firstSecond ≤ seconds
  seconds_le : seconds ≤ Timestamp.lastSecond
  nanos_lt : nanos < 2000000000
  leap_at_end : 1000000000 ≤ nanos → seconds % 60 = 59
deriving DecidableEq

namespace Timestamp

def ofParts? (seconds : Int) (nanos : Nat) : Option Timestamp :=
  if h : (firstSecond ≤ seconds ∧ seconds ≤ lastSecond) ∧ nanos < 2000000000 ∧
      (1000000000 ≤ nanos → seconds % 60 = 59) then
    some ⟨seconds, nanos, h.1.1, h.1.2, h.2.1, h.2.2⟩
  else none

def epoch : Timestamp := ⟨0, 0, by decide, by decide, by decide, by decide⟩

instance : Inhabited Timestamp := ⟨epoch⟩

def latest : Timestamp := ⟨lastSecond, 999999999, by decide, by decide, by decide, by decide⟩

def earliest : Timestamp := ⟨firstSecond, 0, by decide, by decide, by decide, by decide⟩

/-! ## Order -/

instance : LT Timestamp :=
  ⟨fun a b => a.seconds < b.seconds ∨ a.seconds = b.seconds ∧ a.nanos < b.nanos⟩

instance : LE Timestamp :=
  ⟨fun a b => a.seconds < b.seconds ∨ a.seconds = b.seconds ∧ a.nanos ≤ b.nanos⟩

instance (a b : Timestamp) : Decidable (a < b) :=
  inferInstanceAs (Decidable (a.seconds < b.seconds ∨ a.seconds = b.seconds ∧ a.nanos < b.nanos))

instance (a b : Timestamp) : Decidable (a ≤ b) :=
  inferInstanceAs (Decidable (a.seconds < b.seconds ∨ a.seconds = b.seconds ∧ a.nanos ≤ b.nanos))

/-! ## Arithmetic -/

def toNanos (t : Timestamp) : Int := t.seconds * 1000000000 + t.nanos

/-- The instant so many nanoseconds after the beginning of 1970, or the nearest representable one. -/
def ofNanos (n : Int) : Timestamp :=
  if h₁ : n < firstSecond * 1000000000 then earliest
  else if h₂ : (lastSecond + 1) * 1000000000 ≤ n then latest
  else ⟨n / 1000000000, (n % 1000000000).toNat, by omega, by omega, by omega, by omega⟩

/-- The instant a duration later; past the end of time it is the latest instant. -/
def plus (t : Timestamp) (d : Duration) : Timestamp := ofNanos (t.toNanos + d.nanos)

/-- The instant a duration earlier; before the beginning of time it is the earliest instant. -/
def minus (t : Timestamp) (d : Duration) : Timestamp := ofNanos (t.toNanos - d.nanos)

example : (ofNanos (-1)).seconds = -1 ∧ (ofNanos (-1)).nanos = 999999999 := by decide

end Timestamp

end PartitionHost
