import PartitionHost.Text.Blank
import PartitionHost.Time.Timestamp

/-!
# The text of a timestamp

A timestamp is written as `YYYY-MM-DDThh:mm:ss` with `Z` behind it; between them stands the fraction
of the second, if it is not zero, with the fewest of three, six or nine digits that are exact. A year
outside 0 to 9999 has a sign. A leap second is second 60.

Reading is more generous than writing: white space may stand around the numbers, numbers may lack
zeros in front, the day and the time may be separated by a space, the fraction may have any number
of digits, of which nine count, and the time may be that of an offset from UTC.
-/

namespace PartitionHost.Timestamp

open Text

/-! ## Writing -/

/-- The numeral of a year: four digits, or a sign and at least four. -/
def yearText (year : Int) : List Char :=
  if 0 ≤ year ∧ year ≤ 9999 then paddedDigits 4 year.toNat
  else (if year < 0 then '-' else '+') :: paddedDigits 4 year.natAbs

/-- The fraction of a second with its point; nothing if it is zero. -/
def fractionText (nanos : Nat) : List Char :=
  if nanos = 0 then []
  else if nanos % 1000000 = 0 then '.' :: paddedDigits 3 (nanos / 1000000)
  else if nanos % 1000 = 0 then '.' :: paddedDigits 6 (nanos / 1000)
  else '.' :: paddedDigits 9 nanos

def text (t : Timestamp) : List Char :=
  let date := Date.ofDayNumber (t.seconds / 86400)
  let inDay := (t.seconds % 86400).toNat
  let second := inDay % 60 + t.nanos / 1000000000
  yearText date.year ++ '-' :: paddedDigits 2 date.month ++ '-' :: paddedDigits 2 date.day ++
    'T' :: paddedDigits 2 (inDay / 3600) ++ ':' :: paddedDigits 2 (inDay / 60 % 60) ++
    ':' :: paddedDigits 2 second ++ fractionText (t.nanos % 1000000000) ++ ['Z']

/-! ## Reading -/

/-- A year: with a sign any number of digits, without one at most four. -/
def year? : List Char → Option (Int × List Char)
  | '-' :: cs => (number? cs.length cs).map fun (n, rest) => (-(n : Int), rest)
  | '+' :: cs => (number? cs.length cs).map fun (n, rest) => ((n : Int), rest)
  | cs => (number? 4 cs).map fun (n, rest) => ((n : Int), rest)

/-- A number of one or two digits, with white space allowed in front. -/
def twoDigits? (cs : List Char) : Option (Nat × List Char) := number? 2 (dropBlanks cs)

/-- The character `c`, with white space allowed in front. -/
def mark? (c : Char) (cs : List Char) : Option (List Char) :=
  match dropBlanks cs with
  | x :: rest => if x = c then some rest else none
  | [] => none

/-- The nanoseconds of a fraction; digits after the ninth do not count. -/
def fraction? : List Char → Option (Nat × List Char)
  | '.' :: cs =>
    match spanDigits 9 cs with
    | ([], _) => none
    | (ds, rest) => some (ofDigits ds * Nat.pow 10 (9 - ds.length), rest.dropWhile Char.isDigit)
  | cs => some (0, cs)

def digitPair? : List Char → Option (Nat × List Char)
  | a :: b :: rest =>
    if a.isDigit && b.isDigit then some (ofDigits [a, b], rest) else none
  | _ => none

/-- Whether a character may separate the hours and the minutes of an offset. -/
def isOffsetSeparator (c : Char) : Bool := c == ':' || isBlank c

/-- The seconds of an offset behind its sign: two digits of hours and two of minutes. -/
def offsetSize? (cs : List Char) : Option (Int × List Char) := do
  let (hours, cs) ← digitPair? cs
  let (minutes, cs) ← digitPair? (cs.dropWhile isOffsetSeparator)
  if hours < 24 ∧ minutes < 60 then return ((hours * 3600 + minutes * 60 : Nat), cs) else none

def offset? : List Char → Option (Int × List Char)
  | 'Z' :: rest | 'z' :: rest => some (0, rest)
  | '+' :: rest => offsetSize? rest
  | '-' :: rest | '\u2212' :: rest => (offsetSize? rest).map fun (n, rest) => (-n, rest)
  | a :: b :: c :: rest =>
    if a.toLower = 'u' ∧ b.toLower = 't' ∧ c.toLower = 'c' then some (0, rest) else none
  | _ => none

def dayInRange (n : Int) : Bool := firstSecond / 86400 ≤ n && n ≤ lastSecond / 86400

/-- The instant of a date, a time of day and an offset, if all of them exist. -/
def ofFields? (date : Date) (hour minute second nanos : Nat) (offset : Int) : Option Timestamp :=
  if date.isValid && dayInRange date.dayNumber && hour < 24 && minute < 60 && second ≤ 60 then
    let leap := if second = 60 then 1 else 0
    let inDay := hour * 3600 + minute * 60 + (second - leap)
    ofParts? (date.dayNumber * 86400 + inDay - offset) (nanos + leap * 1000000000)
  else none

def ofText? (cs : List Char) : Option Timestamp := do
  let (year, cs) ← year? (dropBlanks cs)
  let cs ← mark? '-' cs
  let (month, cs) ← twoDigits? cs
  let cs ← mark? '-' cs
  let (day, cs) ← twoDigits? cs
  let cs ← match cs with
    | 'T' :: rest | 't' :: rest | ' ' :: rest => some rest
    | _ => none
  let (hour, cs) ← twoDigits? cs
  let cs ← mark? ':' cs
  let (minute, cs) ← twoDigits? cs
  let cs ← mark? ':' cs
  let (second, cs) ← twoDigits? cs
  let (nanos, cs) ← fraction? cs
  let (offset, cs) ← offset? (dropBlanks cs)
  if (dropBlanks cs).isEmpty then
    ofFields? ⟨year, month, day⟩ hour minute second nanos offset
  else none

end PartitionHost.Timestamp
