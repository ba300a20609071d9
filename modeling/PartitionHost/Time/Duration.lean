import PartitionHost.Text.Decimal

/-!
# Durations

A length of time, exact to the nanosecond and without an upper bound. Lease durations, scan
intervals and the delays between two attempts are durations.
-/

namespace PartitionHost

/-- A length of time in nanoseconds. -/
structure Duration where
  nanos : Nat
deriving DecidableEq, Repr, Inhabited

namespace Duration

def nanosPerSecond : Nat := 1000000000

def nanosPerMilli : Nat := 1000000

def ofSeconds (s : Nat) : Duration := ⟨s * nanosPerSecond⟩

/-- The duration of so many whole milliseconds. -/
def ofMillis (ms : Nat) : Duration := ⟨ms * nanosPerMilli⟩

/-- The duration of whole seconds and further nanoseconds. -/
def ofParts (s ns : Nat) : Duration := ⟨s * nanosPerSecond + ns⟩

def seconds (d : Duration) : Nat := d.nanos / nanosPerSecond

/-- The nanoseconds beyond the whole seconds. -/
def subsecondNanos (d : Duration) : Nat := d.nanos % nanosPerSecond

instance : LT Duration := ⟨fun a b => a.nanos < b.nanos⟩
instance : LE Duration := ⟨fun a b => a.nanos ≤ b.nanos⟩
instance (a b : Duration) : Decidable (a < b) := inferInstanceAs (Decidable (a.nanos < b.nanos))
instance (a b : Duration) : Decidable (a ≤ b) := inferInstanceAs (Decidable (a.nanos ≤ b.nanos))

/-! ## Text -/

/-- A number in units of `10 ^ places`, as a decimal fraction without closing zeros. -/
def decimal (places n : Nat) : List Char :=
  let whole := Text.digits (n / Nat.pow 10 places)
  let fraction := Text.dropClosingZeros (Text.paddedDigits places (n % Nat.pow 10 places))
  if fraction.isEmpty then whole else whole ++ '.' :: fraction

/--
The text of a duration: a decimal fraction in the largest of the units second, millisecond,
microsecond and nanosecond that goes into it at least once, or in nanoseconds.
-/
def text (d : Duration) : String :=
  let n := d.nanos
  if 1000000000 ≤ n then String.ofList (decimal 9 n ++ ['s'])
  else if 1000000 ≤ n then String.ofList (decimal 6 n ++ ['m', 's'])
  else if 1000 ≤ n then String.ofList (decimal 3 n ++ ['µ', 's'])
  else String.ofList (Text.digits n ++ ['n', 's'])

end Duration

end PartitionHost
