/-!
# Decimal numerals

Numbers as runs of decimal digits: the shortest numeral of a number, numerals of a fixed width, and
fractions without closing zeros; and the way back, from the digits at the front of a text.
-/

namespace PartitionHost.Text

def digits (n : Nat) : List Char := Nat.toDigits 10 n

/-- The numeral of an integer: a minus sign in front of the negative ones. -/
def signedDigits : Int → List Char
  | .ofNat n => digits n
  | .negSucc n => '-' :: digits (n + 1)

/-- The numeral filled up with zeros in front to at least `width` characters. -/
def paddedDigits (width n : Nat) : List Char :=
  let ds := digits n
  List.replicate (width - ds.length) '0' ++ ds

def dropClosingZeros (ds : List Char) : List Char :=
  (ds.reverse.dropWhile (· == '0')).reverse

/-- The number that a run of decimal digits spells; the empty run spells zero. -/
def ofDigits (ds : List Char) : Nat := Nat.ofDigitChars 10 ds 0

/-- The longest run of decimal digits in front, at most `limit` of them, and what follows it. -/
def spanDigits : Nat → List Char → List Char × List Char
  | 0, cs => ([], cs)
  | _ + 1, [] => ([], [])
  | limit + 1, c :: cs =>
    if c.isDigit then
      let (ds, rest) := spanDigits limit cs
      (c :: ds, rest)
    else ([], c :: cs)

/-- The number spelt by one to `limit` digits in front, and what follows them. -/
def number? (limit : Nat) (cs : List Char) : Option (Nat × List Char) :=
  match spanDigits limit cs with
  | ([], _) => none
  | (ds, rest) => some (ofDigits ds, rest)

end PartitionHost.Text
