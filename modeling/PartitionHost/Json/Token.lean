/-!
# The tokens of JSON text

JSON text is a run of octets. Between its tokens white space may stand: space, tab, line feed and
carriage return. A string token keeps what stands between its quotes as it is written, with the
escapes still in place, and a number token keeps its numeral, so that reading a value that nobody
looks at asks no more of it than its form.
-/

namespace PartitionHost

abbrev Bytes := List UInt8

namespace Json

inductive Token where
  | openArray | closeArray | openObject | closeObject | comma | colon
  | null | true | false
  | number (numeral : Bytes)
  | string (raw : Bytes)
deriving DecidableEq, Repr

def octet (c : Char) : UInt8 := c.toNat.toUInt8

def isSpace (b : UInt8) : Bool := b == 0x20 || b == 0x09 || b == 0x0A || b == 0x0D

def isDigit (b : UInt8) : Bool := 0x30 ≤ b && b ≤ 0x39

def isHexDigit (b : UInt8) : Bool :=
  isDigit b || (0x41 ≤ b && b ≤ 0x46) || (0x61 ≤ b && b ≤ 0x66)

/-- The octets that numerals are made of: digits, signs, the point and the mark of the exponent. -/
def isNumeralPart (b : UInt8) : Bool :=
  isDigit b || b == 0x2B || b == 0x2D || b == 0x2E || b == 0x45 || b == 0x65

def isLowerLetter (b : UInt8) : Bool := 0x61 ≤ b && b ≤ 0x7A

/-! ## Writing -/

def Token.bytes : Token → Bytes
  | .openArray => [0x5B]
  | .closeArray => [0x5D]
  | .openObject => [0x7B]
  | .closeObject => [0x7D]
  | .comma => [0x2C]
  | .colon => [0x3A]
  | .null => [0x6E, 0x75, 0x6C, 0x6C]
  | .true => [0x74, 0x72, 0x75, 0x65]
  | .false => [0x66, 0x61, 0x6C, 0x73, 0x65]
  | .number numeral => numeral
  | .string raw => 0x22 :: raw ++ [0x22]

/-! ## Numerals -/

def afterDigits? (bs : Bytes) : Option Bytes :=
  if (bs.takeWhile isDigit).isEmpty then none else some (bs.dropWhile isDigit)

/-- The octets behind the whole part: a zero, or digits that do not begin with one. -/
def afterWhole? : Bytes → Option Bytes
  | 0x30 :: rest => some rest
  | bs => afterDigits? bs

def afterFraction? : Bytes → Option Bytes
  | 0x2E :: rest => afterDigits? rest
  | bs => some bs

def afterExponent? : Bytes → Option Bytes
  | b :: rest =>
    if b = 0x65 ∨ b = 0x45 then
      match rest with
      | s :: digits => if s = 0x2B ∨ s = 0x2D then afterDigits? digits else afterDigits? rest
      | [] => none
    else some (b :: rest)
  | [] => some []

def isNumeral (bs : Bytes) : Bool :=
  let unsigned := match bs with
    | 0x2D :: rest => rest
    | _ => bs
  ((afterWhole? unsigned).bind afterFraction?).bind afterExponent? == some []

/-! ## Reading -/

def isEscapeLetter (b : UInt8) : Bool :=
  b == 0x22 || b == 0x5C || b == 0x2F || b == 0x62 || b == 0x66 || b == 0x6E || b == 0x72 ||
    b == 0x74

/--
What stands in front of the closing quote, and what follows the quote. A backslash must begin an
escape, and control characters may not stand in a string.
-/
def scanString : Bytes → Option (Bytes × Bytes)
  | [] => none
  | 0x22 :: rest => some ([], rest)
  | 0x5C :: 0x75 :: a :: b :: c :: d :: rest =>
    if isHexDigit a && isHexDigit b && isHexDigit c && isHexDigit d then
      (scanString rest).map fun (raw, rest) => (0x5C :: 0x75 :: a :: b :: c :: d :: raw, rest)
    else none
  | 0x5C :: e :: rest =>
    if isEscapeLetter e then (scanString rest).map fun (raw, rest) => (0x5C :: e :: raw, rest)
    else none
  | b :: rest =>
    if b < 0x20 || b == 0x5C then none
    else (scanString rest).map fun (raw, rest) => (b :: raw, rest)

theorem length_of_scanString {bs raw rest : Bytes} (h : scanString bs = some (raw, rest)) :
    rest.length < bs.length := by
  fun_induction scanString bs generalizing raw rest <;>
    simp_all only [Option.map_eq_some_iff, Prod.mk.injEq, Prod.exists, reduceCtorEq,
      Option.some.injEq, List.length_cons]
  · omega
  · rename_i ih
    obtain ⟨raw', rest', h, -, rfl⟩ := h
    have := ih h
    omega
  · rename_i ih
    obtain ⟨raw', rest', h, -, rfl⟩ := h
    have := ih h
    omega
  · rename_i ih
    obtain ⟨raw', rest', h, -, rfl⟩ := h
    have := ih h
    omega

def punctuation? (b : UInt8) : Option Token :=
  if b = 0x5B then some .openArray
  else if b = 0x5D then some .closeArray
  else if b = 0x7B then some .openObject
  else if b = 0x7D then some .closeObject
  else if b = 0x2C then some .comma
  else if b = 0x3A then some .colon
  else none

def word? (bs : Bytes) : Option Token :=
  if bs = Token.null.bytes then some .null
  else if bs = Token.true.bytes then some .true
  else if bs = Token.false.bytes then some .false
  else none

/-- The first token, which begins with `b`, and what follows it. -/
def scanToken (b : UInt8) (rest : Bytes) : Option (Token × Bytes) :=
  match punctuation? b with
  | some t => some (t, rest)
  | none =>
    if b = 0x22 then
      (scanString rest).map fun (raw, rest) => (.string raw, rest)
    else if isLowerLetter b then
      (word? (b :: rest.takeWhile isLowerLetter)).map (·, rest.dropWhile isLowerLetter)
    else
      let numeral := b :: rest.takeWhile isNumeralPart
      if isNumeral numeral then some (.number numeral, rest.dropWhile isNumeralPart) else none

theorem length_dropWhile_le (p : UInt8 → Bool) (bs : Bytes) :
    (bs.dropWhile p).length ≤ bs.length := (List.dropWhile_sublist p).length_le

theorem length_of_scanToken {b : UInt8} {bs rest : Bytes} {t : Token}
    (h : scanToken b bs = some (t, rest)) : rest.length < (b :: bs).length := by
  rw [List.length_cons]
  unfold scanToken at h
  split at h
  · simp only [Option.some.injEq, Prod.mk.injEq] at h
    rw [h.2]
    omega
  · split at h
    · simp only [Option.map_eq_some_iff, Prod.mk.injEq, Prod.exists] at h
      obtain ⟨raw, rest', h, -, rfl⟩ := h
      have := length_of_scanString h
      omega
    · split at h
      · simp only [Option.map_eq_some_iff, Prod.mk.injEq] at h
        obtain ⟨w, h, -, rfl⟩ := h
        have := length_dropWhile_le isLowerLetter bs
        omega
      · simp only at h
        split at h
        · simp only [Option.some.injEq, Prod.mk.injEq] at h
          obtain ⟨-, rfl⟩ := h
          have := length_dropWhile_le isNumeralPart bs
          omega
        · simp at h

/-- The tokens of a text, if it consists of tokens and white space. -/
def Token.ofBytes? : Bytes → Option (List Token)
  | [] => some []
  | b :: rest =>
    if isSpace b then Token.ofBytes? rest
    else
      match h : scanToken b rest with
      | none => none
      | some (t, rest') =>
        have := length_of_scanToken h
        (Token.ofBytes? rest').map (t :: ·)
termination_by bs => bs.length
decreasing_by all_goals simp only [List.length_cons] at *; omega

end Json

end PartitionHost
