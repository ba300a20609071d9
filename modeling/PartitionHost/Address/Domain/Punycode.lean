import PartitionHost.Text.Numeral

/-!
# Punycode

The code in ASCII for labels beyond ASCII. The ASCII characters come first, then a hyphen if
there are any, then one number for each other character. A number says how far to go from the last
character put in: through the places of the text, and, each time these are used up, to the next character
of the standard. The lowest digits stand first, and each digit is below a threshold of its own if it is
the last one.
-/

namespace PartitionHost.Address.Domain.Punycode

open Text (digitValue?)

/-- The number that a digit stands for: letters come before the decimal digits. -/
def digit? (c : Char) : Option Nat :=
  (digitValue? c).map fun n => if n < 10 then n + 26 else n - 10

/-- What the first digit that is not the last one counts; a number's next digit adds as much. -/
def base : Nat := 36

def bound : Nat := 1 <<< 32

/-- Divides a number until it is small; the answer also tells the places gone up. -/
def scale (n places : Nat) : Nat × Nat :=
  if 455 < n then scale (n / 35) (places + base) else (n, places)
termination_by n
decreasing_by exact Nat.div_lt_self (by omega) (by omega)

/-- The threshold's offset after a number, the text being `length` long with its character. -/
def adapt (number length : Nat) (isFirst : Bool) : Nat :=
  let n := if isFirst then number / 700 else number / 2
  let (n, places) := scale (n + n / length) 0
  places + base * n / (n + 38)

structure Progress where
  text : List Char
  /-- The number of the last character put in. -/
  code : Nat := 0x80
  /-- The place behind the last character put in. -/
  place : Nat := 0
  /-- The threshold's offset. -/
  offset : Nat := 72
  /-- What the digits of the number that is being read add up to, from `place` on. -/
  sum : Nat := place
  /-- What the next digit counts, and how high it stands; no digit has been read if this is one. -/
  weight : Nat := 1
  height : Nat := base

def Progress.threshold (p : Progress) : Nat :=
  if p.height ≤ p.offset then 1 else if p.offset + 26 ≤ p.height then 26 else p.height - p.offset

def Progress.put? (p : Progress) (sum : Nat) : Option Progress :=
  let length := p.text.length + 1
  let code := p.code + sum / length
  let spot := sum % length
  if code.isValidChar then
    some {
      text := p.text.insertIdx spot (Char.ofNat code)
      code := code
      place := spot + 1
      offset := adapt (sum - p.place) length (p.place == 0) }
  else none

def Progress.read? (p : Progress) (c : Char) : Option Progress := do
  let digit ← digit? c
  let sum := p.sum + digit * p.weight
  let weight := p.weight * (base - p.threshold)
  if bound ≤ sum then none
  else if digit < p.threshold then p.put? sum
  else if bound ≤ weight then none
  else return { p with sum := sum, weight := weight, height := p.height + base }

def decode? (code : List Char) : Option (List Char) := do
  let ascii := ((code.reverse.dropWhile (· ≠ '-')).drop 1).reverse
  let numbers := if ascii.isEmpty then code else code.drop (ascii.length + 1)
  let p ← numbers.foldlM Progress.read? { text := ascii : Progress }
  if p.weight = 1 then return p.text else none

end PartitionHost.Address.Domain.Punycode
