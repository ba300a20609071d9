import PartitionHost.Address.Domain.Direction.Table
import PartitionHost.Address.Domain.Label

/-!
# The directions of labels

Characters that run from right to left and such that run from left to right do not mix in a label, and as
soon as a domain holds one that runs from right to left, each of its labels shows where it begins and
ends.
-/

namespace PartitionHost.Address.Domain

inductive Direction where
  | left
  | right
  | arabicNumber
  | europeanNumber
  | mark
  | neutral
deriving DecidableEq, Repr

namespace Direction

def rightRanges : List (Nat × Nat) := Text.rangesOf rightTable
def arabicNumberRanges : List (Nat × Nat) := Text.rangesOf arabicNumberTable
def europeanNumberRanges : List (Nat × Nat) := Text.rangesOf europeanNumberTable
def neutralRanges : List (Nat × Nat) := Text.rangesOf neutralTable

/-- The marks without room of their own that run from left to right all the same. -/
def leftMarks : List Nat := [0xCBF, 0xCC6, 0x11A07, 0x11A08, 0x11C3F]

def ofChar (c : Char) : Direction :=
  let n := c.toNat
  if leftMarks.contains n then .left
  else if isNonspacing c then .mark
  else if Text.inRanges rightRanges n then .right
  else if Text.inRanges arabicNumberRanges n then .arabicNumber
  else if Text.inRanges europeanNumberRanges n then .europeanNumber
  else if Text.inRanges neutralRanges n then .neutral
  else .left

def isForeign : Direction → Bool
  | .right | .arabicNumber => true
  | _ => false

/-- Whether a label that runs from left to right can hold the character. -/
def fitsLeft : Direction → Bool
  | .right | .arabicNumber => false
  | _ => true

/-- Whether such a label can end with the character, marks aside. -/
def endsLeft : Direction → Bool
  | .left | .europeanNumber => true
  | _ => false

/-- Whether a label that runs from right to left can hold the character. -/
def fitsRight : Direction → Bool
  | .left => false
  | _ => true

/-- Whether such a label can end with the character, marks aside. -/
def endsRight : Direction → Bool
  | .right | .arabicNumber | .europeanNumber => true
  | _ => false

def fit (ds : List Direction) : Bool :=
  let last := (ds.reverse.dropWhile (· = .mark)).head?
  match ds with
  | [] => true
  | .left :: _ => ds.all fitsLeft && last.any endsLeft
  | .right :: _ =>
    ds.all fitsRight && last.any endsRight &&
      !(ds.contains .arabicNumber && ds.contains .europeanNumber)
  | _ => false

end Direction

def directionsFit (labels : List (List Char)) : Bool :=
  let directions := labels.map (·.map Direction.ofChar)
  !directions.any (·.any Direction.isForeign) || directions.all Direction.fit

end PartitionHost.Address.Domain
