import PartitionHost.Address.Domain.Label.Table
import PartitionHost.Address.Domain.Mapping
import PartitionHost.Address.Domain.Punycode
import PartitionHost.Text.Composed

/-!
# The labels of domains

The rules for a label of a domain, which stands between two dots. A label does not begin with a mark, and
the two invisible joiners stand only where they change how letters look. A label beyond ASCII can also be
given by a code in ASCII, marked by `xn--` in front; what it stands for keeps the rules too, and is
spelt as plainly as it can be.
-/

namespace PartitionHost.Address.Domain

open Text (inRanges rangesOf composed)

/-! ## Marks and joiners -/

def nonspacingRanges : List (Nat × Nat) := rangesOf nonspacingTable

def spacingRanges : List (Nat × Nat) := rangesOf spacingTable

def isNonspacing (c : Char) : Bool := inRanges nonspacingRanges c.toNat

def isMark (c : Char) : Bool := isNonspacing c || inRanges spacingRanges c.toNat

def joinsNextRanges : List (Nat × Nat) := rangesOf leftJoiningTable ++ rangesOf dualJoiningTable

def joinsPreviousRanges : List (Nat × Nat) := rangesOf rightJoiningTable ++ rangesOf dualJoiningTable

/-- Whether letters join across a character: a mark does not part them, nor does the sign U+1E94B. -/
def isTransparent (c : Char) : Bool := isNonspacing c || c.toNat == 0x1E94B

/-- Whether the first character that letters do not join across lies in the ranges. -/
def meets (ranges : List (Nat × Nat)) (cs : List Char) : Bool :=
  (cs.dropWhile isTransparent).head?.any (inRanges ranges ·.toNat)

def vowelKiller : Nat := 9

/--
Whether a character between others is no joiner, or one that may stand there: behind a mark that takes a
vowel away, or, if it keeps letters apart, between letters that would join. The nearest stand first.
-/
def joinerFits (before : List Char) (c : Char) (behind : List Char) : Bool :=
  let parts := c.toNat == 0x200C
  !(parts || c.toNat == 0x200D) ||
    before.head?.any (Text.Composed.markClass · == vowelKiller) ||
    (parts && meets joinsNextRanges before && meets joinsPreviousRanges behind)

def joinersFit (before : List Char) : List Char → Bool
  | [] => true
  | c :: cs => joinerFits before c cs && joinersFit (c :: before) cs

/-! ## Labels -/

/-- How many characters a label beyond ASCII has at most. -/
def longestLabel : Nat := 1000

/-- How many characters the code of a label has at most. -/
def longestCode : Nat := 2000

def isAscii (cs : List Char) : Bool := cs.all (·.toNat < 0x80)

def isLabel (cs : List Char) : Bool :=
  !cs.head?.any isMark && joinersFit [] cs && (isAscii cs || cs.length ≤ longestLabel)

def ofCode? (code : List Char) : Option (List Char) :=
  if code.isEmpty || code.getLast? == some '-' || code.length > longestCode || !isAscii code then none
  else (Punycode.decode? code).filter fun cs => cs.all isPlain && composed cs == cs

def label? (cs : List Char) : Option (List Char) :=
  let label := if "xn--".toList.isPrefixOf cs then ofCode? (cs.drop 4) else some cs
  label.filter isLabel

end PartitionHost.Address.Domain
