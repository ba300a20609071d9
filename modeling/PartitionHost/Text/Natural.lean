import PartitionHost.Text.Decimal

/-!
# Reading natural numbers

A natural number below a bound, written with one or more digits and at most one plus sign in front.
-/

namespace PartitionHost.Text

inductive NumeralFault where
  | empty
  | badDigit
  | tooLarge
deriving DecidableEq, Repr

def NumeralFault.message : NumeralFault → String
  | .empty => "cannot parse integer from empty string"
  | .badDigit => "invalid digit found in string"
  | .tooLarge => "number too large to fit in target type"

/-- Reads on from the number that the digits in front spell; the first fault counts. -/
def continueNatural (bound acc : Nat) : List Char → Except NumeralFault Nat
  | [] => .ok acc
  | c :: cs =>
    if c.isDigit then
      let next := acc * 10 + (c.toNat - '0'.toNat)
      if next < bound then continueNatural bound next cs else .error .tooLarge
    else .error .badDigit

/-- The number below `bound` that a text spells. -/
def readNatural (bound : Nat) (s : String) : Except NumeralFault Nat :=
  match s.toList with
  | [] => .error .empty
  | ['+'] => .error .badDigit
  | '+' :: cs => continueNatural bound 0 cs
  | cs => continueNatural bound 0 cs

end PartitionHost.Text
