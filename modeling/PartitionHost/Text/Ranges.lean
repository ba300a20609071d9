import PartitionHost.Text.Numeral

/-!
# Ranges of characters

A property of characters given as a list of ranges of their numbers. A long list is kept as a text: the
ranges stand between blanks, each one hexadecimal number or two of them with a hyphen between.
-/

namespace PartitionHost.Text

/-- Whether a number lies in one of the ranges, their ends included. -/
def inRanges (ranges : List (Nat × Nat)) (n : Nat) : Bool :=
  ranges.any fun (first, last) => first ≤ n && n ≤ last

def fields (isMark : Char → Bool) (cs : List Char) : List (List Char) :=
  cs.foldr (fun c fs =>
    if isMark c then [] :: fs
    else match fs with
      | f :: fs => (c :: f) :: fs
      | [] => [[c]]) [[]]

def entries (table : String) : List (List Char) :=
  (fields Char.isWhitespace table.toList).filter (!·.isEmpty)

def range? (entry : List Char) : Option (Nat × Nat) :=
  match (fields (· = '-') entry).map (natural? 16) with
  | [some only] => some (only, only)
  | [some first, some last] => some (first, last)
  | _ => none

def rangesOf (table : String) : List (Nat × Nat) := (entries table).filterMap range?

end PartitionHost.Text
