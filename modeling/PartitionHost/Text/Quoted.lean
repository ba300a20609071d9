import PartitionHost.Text.Quoted.Table
import PartitionHost.Text.Ranges

/-!
# Quoted text

A text between quotes as logs and error reports show it. Quotes and backslashes, tabs, line ends and
the null character are escaped by a letter or sign of their own; other characters that show no mark of
their own, or that would join the one in front of them, are escaped by their number.
-/

namespace PartitionHost.Text

namespace Quoted

def hexDigits (n : Nat) : List Char := Nat.toDigits 16 n

def isHidden (c : Char) : Bool :=
  inRanges combiningRanges c.toNat || inRanges hiddenRanges c.toNat

def ofChar (c : Char) : List Char :=
  if c = '"' then ['\\', '"']
  else if c = '\\' then ['\\', '\\']
  else if c = '\t' then ['\\', 't']
  else if c = '\r' then ['\\', 'r']
  else if c = '\n' then ['\\', 'n']
  else if c.toNat = 0 then ['\\', '0']
  else if 0x20 ≤ c.toNat && c.toNat < 0x7F then [c]
  else if isHidden c then ['\\', 'u', '\x7b'] ++ hexDigits c.toNat ++ ['\x7d']
  else [c]

/-- An octet as it stands between the quotes of a run of octets: printable ASCII shows as itself. -/
def ofOctet (b : UInt8) : List Char :=
  let n := b.toNat
  if n = 0x22 then ['\\', '"']
  else if n = 0x5C then ['\\', '\\']
  else if n = 0x09 then ['\\', 't']
  else if n = 0x0D then ['\\', 'r']
  else if n = 0x0A then ['\\', 'n']
  else if n = 0 then ['\\', '0']
  else if 0x20 ≤ n && n < 0x7F then [Char.ofNat n]
  else '\\' :: 'x' :: (if n < 16 then ['0'] else []) ++ hexDigits n

end Quoted

def quoted (s : String) : String := String.ofList ('"' :: s.toList.flatMap Quoted.ofChar ++ ['"'])

/-- A run of octets between quotes, marked by a `b` in front. -/
def quotedOctets (bs : List UInt8) : String :=
  String.ofList ('b' :: '"' :: bs.flatMap Quoted.ofOctet ++ ['"'])

end PartitionHost.Text
