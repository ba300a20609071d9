import PartitionHost.Text.Numeral

/-!
# Addresses of four octets

An address of four octets is written as one to four numbers with dots between them, each one octet but
the last, which takes all that are left. A number is decimal, octal behind a zero, or hexadecimal behind
`0x`. A name whose last part is a number can be nothing but such an address.
-/

namespace PartitionHost.Address.Inet4

open Text (natural?)

def number? : List Char → Option Nat
  | '0' :: 'x' :: cs => if cs.isEmpty then some 0 else natural? 16 cs
  | '0' :: c :: cs => natural? 8 (c :: cs)
  | cs => natural? 10 cs

/-- The parts of a name, without the empty one behind a last dot. -/
def trimmed (parts : List (List Char)) : List (List Char) :=
  if parts.getLast? = some [] then parts.dropLast else parts

/-- Whether the last part of a name is a number, or made of digits as if it were one. -/
def isMeant (parts : List (List Char)) : Bool :=
  (trimmed parts).getLast?.any fun cs => (!cs.isEmpty && cs.all Char.isDigit) || (number? cs).isSome

/-- The address of the octets that numbers stand for, after `count` octets with the value `above`. -/
def ofNumbers? (count above : Nat) : List Nat → Option Nat
  | [] => none
  | [last] =>
    let room := Nat.pow 256 (4 - count)
    if count < 4 ∧ last < room then some (above * room + last) else none
  | n :: ns => if n < 256 then ofNumbers? (count + 1) (above * 256 + n) ns else none

def ofParts? (parts : List (List Char)) : Option Nat :=
  ((trimmed parts).mapM number?).bind (ofNumbers? 0 0)

end PartitionHost.Address.Inet4
