import PartitionHost.Text.LowerCase.Table
import PartitionHost.Text.Ranges

/-!
# Lower case

The lower case of a text by the rules of the Unicode standard that hold in every language. Nearly every
character has one of its own. The exceptions are the capital dotted I, whose lower case is two
characters, and the capital sigma, which at the end of a word becomes the final sigma.
-/

namespace PartitionHost.Text

namespace LowerCase

/-- Whether a character is a cased letter that the search for one does not pass over. -/
def isCased (c : Char) : Bool := inRanges casedRanges c.toNat

/-- Whether the search for a cased letter passes over a character. -/
def isIgnorable (c : Char) : Bool := inRanges ignorableRanges c.toNat

def ShiftRun.holds (r : ShiftRun) (n : Nat) : Bool :=
  r.first ≤ n && n ≤ r.last && (n - r.first) % r.step == 0

def ofChar (c : Char) : Char :=
  match shiftRuns.find? (·.holds c.toNat) with
  | some r => Char.ofNat (c.toNat + r.shift).toNat
  | none => c

def beginsCased (cs : List Char) : Bool :=
  match cs.dropWhile isIgnorable with
  | c :: _ => isCased c
  | [] => false

/-- The lower case of `cs`, where `before` holds the characters in front, the nearest first. -/
def ofChars (before : List Char) : List Char → List Char
  | [] => []
  | c :: rest =>
    let here :=
      if c.toNat = 0x130 then ['i', Char.ofNat 0x307]
      else if c.toNat = 0x3A3 then
        [Char.ofNat (if beginsCased before && !beginsCased rest then 0x3C2 else 0x3C3)]
      else [ofChar c]
    here ++ ofChars (c :: before) rest

end LowerCase

def lowerCase (s : String) : String := String.ofList (LowerCase.ofChars [] s.toList)

end PartitionHost.Text
