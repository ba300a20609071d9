import PartitionHost.Json.Token

/-!
# Strings inside JSON text

`escape` writes a string as it stands between quotes: a quote, a backslash and the control characters
are escaped, and all else stands as its UTF-8 octets. `unescape?` reads any escapes that JSON knows. It
is stricter than scanning a string token, which does not look at what is escaped: the surrogates in
`\u` escapes must come in pairs, and the octets must be UTF-8.
-/

namespace PartitionHost.Json

/-! ## Writing -/

def utf8 (cs : List Char) : Bytes := cs.flatMap String.utf8EncodeChar

def hexDigit (n : Nat) : UInt8 := if n < 10 then (0x30 + n).toUInt8 else (0x57 + n).toUInt8

def escapeChar (c : Char) : Bytes :=
  if c = '"' then [0x5C, 0x22]
  else if c = '\\' then [0x5C, 0x5C]
  else if c.toNat = 0x08 then [0x5C, 0x62]
  else if c.toNat = 0x0C then [0x5C, 0x66]
  else if c = '\n' then [0x5C, 0x6E]
  else if c = '\r' then [0x5C, 0x72]
  else if c = '\t' then [0x5C, 0x74]
  else if c.toNat < 0x20 then
    [0x5C, 0x75, 0x30, 0x30, hexDigit (c.toNat / 16), hexDigit (c.toNat % 16)]
  else String.utf8EncodeChar c

def escape (s : String) : Bytes := s.toList.flatMap escapeChar

/-! ## Reading -/

def hexValue (b : UInt8) : Nat :=
  if isDigit b then b.toNat - 0x30
  else if b < 0x61 then b.toNat - 0x37
  else b.toNat - 0x57

def hexValue₄ (a b c d : UInt8) : Nat :=
  ((hexValue a * 16 + hexValue b) * 16 + hexValue c) * 16 + hexValue d

def isHighSurrogate (n : Nat) : Bool := 0xD800 ≤ n && n < 0xDC00

def isLowSurrogate (n : Nat) : Bool := 0xDC00 ≤ n && n < 0xE000

def letterValue (b : UInt8) : UInt8 :=
  if b = 0x62 then 0x08
  else if b = 0x66 then 0x0C
  else if b = 0x6E then 0x0A
  else if b = 0x72 then 0x0D
  else if b = 0x74 then 0x09
  else b

/-- The octets that the inside of a string token stands for; none if a surrogate stands alone. -/
def unescapeBytes? : Bytes → Option Bytes
  | [] => some []
  | 0x5C :: 0x75 :: a :: b :: c :: d :: 0x5C :: 0x75 :: e :: f :: g :: h :: rest =>
    let high := hexValue₄ a b c d
    let low := hexValue₄ e f g h
    if isHighSurrogate high then
      if isLowSurrogate low then
        let code := 0x10000 + (high - 0xD800) * 0x400 + (low - 0xDC00)
        (unescapeBytes? rest).map (String.utf8EncodeChar (Char.ofNat code) ++ ·)
      else none
    else if isLowSurrogate high then none
    else
      (unescapeBytes? (0x5C :: 0x75 :: e :: f :: g :: h :: rest)).map
        (String.utf8EncodeChar (Char.ofNat high) ++ ·)
  | 0x5C :: 0x75 :: a :: b :: c :: d :: rest =>
    let code := hexValue₄ a b c d
    if isHighSurrogate code || isLowSurrogate code then none
    else (unescapeBytes? rest).map (String.utf8EncodeChar (Char.ofNat code) ++ ·)
  | 0x5C :: e :: rest => (unescapeBytes? rest).map (letterValue e :: ·)
  | b :: rest => (unescapeBytes? rest).map (b :: ·)

def ofUtf8? (bs : Bytes) : Option String := String.fromUTF8? ⟨bs.toArray⟩

def unescape? (raw : Bytes) : Option String := (unescapeBytes? raw).bind ofUtf8?

end PartitionHost.Json
