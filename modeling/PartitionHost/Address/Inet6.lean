import PartitionHost.Text.Decimal
import PartitionHost.Text.Ranges

/-!
# Addresses of eight pieces

An address of eight pieces is written as hexadecimal numbers of up to four digits with colons between
them. Two colons stand once for the pieces that are left out, and four octets with dots between them can
stand for the last two pieces.
-/

namespace PartitionHost.Address.Inet6

open Text (fields natural? ofDigits)

def size : Nat := 8

def piece? (cs : List Char) : Option Nat := if cs.length ≤ 4 then natural? 16 cs else none

def octet? : List Char → Option Nat
  | [] => none
  | '0' :: _ :: _ => none
  | cs => if cs.all Char.isDigit ∧ ofDigits cs < 256 then some (ofDigits cs) else none

def quad? (cs : List Char) : Option (List Nat) :=
  match (fields (· = '.') cs).map octet? with
  | [some a, some b, some c, some d] => some [a * 256 + b, c * 256 + d]
  | _ => none

/-- The pieces of a run; only a run that ends the address can close with four octets. -/
def run? (isLast : Bool) : List (List Char) → Option (List Nat)
  | [] => some []
  | [cs] =>
    match piece? cs with
    | some n => some [n]
    | none => if isLast then quad? cs else none
  | cs :: rest => do return (← piece? cs) :: (← run? isLast rest)

/-- The pieces between colons; there are none in an empty text. -/
def pieces? (isLast : Bool) (cs : List Char) : Option (List Nat) :=
  if cs.isEmpty then some [] else run? isLast (fields (· = ':') cs)

/-- Splits a text at the first two colons that stand side by side. -/
def splitGap : List Char → Option (List Char × List Char)
  | ':' :: ':' :: cs => some ([], cs)
  | c :: cs => (splitGap cs).map fun (before, behind) => (c :: before, behind)
  | [] => none

def ofText? (cs : List Char) : Option (List Nat) := do
  match splitGap cs with
  | none =>
    let ns ← pieces? true cs
    if ns.length = size then return ns else none
  | some (before, behind) =>
    let front ← pieces? false before
    let back ← pieces? true behind
    let left := size - (front.length + back.length)
    if 0 < left then return front ++ List.replicate left 0 ++ back else none

end PartitionHost.Address.Inet6
