import PartitionHost.Text.Alphanumeric.Table
import PartitionHost.Text.Ranges

/-!
# Letters and digits

The characters that are alphabetic or numeric by the Unicode standard.
-/

namespace PartitionHost.Text

def alphanumericRanges : List (Nat × Nat) := rangesOf alphanumericTable

/-- Whether a character is a letter, a digit or another character that is a number. -/
def isAlphanumeric (c : Char) : Bool := inRanges alphanumericRanges c.toNat

end PartitionHost.Text
