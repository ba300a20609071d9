import PartitionHost.Text.Composed.Table
import PartitionHost.Text.Ranges

/-!
# Composed texts

The same letter with the same marks can be spelt in several ways. Here a text is brought to the spelling
in which marks stand in a fixed order and are merged with their letter where one character stands for
both (the normalization form C of the Unicode standard). It takes three steps: `decomposed` takes letters
and marks apart, `ordered` sorts the marks between two letters by their class, and `composed` merges.
-/

namespace PartitionHost.Text

namespace Composed

/-! ## Data -/

structure Pair where
  whole : Nat
  base : Nat
  mark : Nat

def pair? (entry : List Char) : Option Pair :=
  match (fields (fun c => c = '=' || c = '+') entry).map (natural? 16) with
  | [some whole, some base, some mark] => some ⟨whole, base, mark⟩
  | _ => none

/-- The pairs; one whose base is itself taken apart stands in front of the pair for its base. -/
def pairs : List Pair := (entries pairTable).filterMap pair?

def classesOf (entry : List Char) : Option (Nat × Nat × Nat) :=
  match fields (· = ':') entry with
  | [range, number] => do
    let (first, last) ← range? range
    return (first, last, ← natural? 10 number)
  | _ => none

def classes : List (Nat × Nat × Nat) := (entries classTable).filterMap classesOf

/-- The class of a mark; it is zero for characters that marks are set upon. -/
def markClass (c : Char) : Nat :=
  match classes.find? fun (first, last, _) => first ≤ c.toNat && c.toNat ≤ last with
  | some (_, _, number) => number
  | none => 0

/-! ## Syllables -/

/-- The number of the first syllable of the Korean script that is made of jamo. -/
def syllableStart : Nat := 0xAC00

/-- The jamo that a syllable is made of: a leading one, a vowel and perhaps a trailing one. -/
def jamo? (c : Char) : Option (List Char) :=
  let n := c.toNat - syllableStart
  if syllableStart ≤ c.toNat ∧ n < 19 * 588 then
    let letters := [0x1100 + n / 588, 0x1161 + n % 588 / 28]
    let trailing := if n % 28 = 0 then [] else [0x11A7 + n % 28]
    some ((letters ++ trailing).map Char.ofNat)
  else none

def syllable? (a b : Char) : Option Char :=
  let x := a.toNat
  let y := b.toNat
  if 0x1100 ≤ x ∧ x < 0x1113 ∧ 0x1161 ≤ y ∧ y < 0x1176 then
    some (Char.ofNat (syllableStart + ((x - 0x1100) * 21 + (y - 0x1161)) * 28))
  else if syllableStart ≤ x ∧ x < syllableStart + 19 * 588 ∧ (x - syllableStart) % 28 = 0 ∧
      0x11A8 ≤ y ∧ y < 0x11C3 then
    some (Char.ofNat (x + (y - 0x11A7)))
  else none

/-! ## Taking apart -/

/-- A character taken apart by the pairs; the base is looked up among the pairs that follow. -/
def takeApart : List Pair → Nat → List Nat
  | [], n => [n]
  | p :: ps, n => if p.whole = n then takeApart ps p.base ++ [p.mark] else takeApart ps n

def parts (c : Char) : List Char :=
  match jamo? c with
  | some cs => cs
  | none => (takeApart pairs c.toNat).map Char.ofNat

/-- Puts a character in front of an ordered text; a mark moves behind the marks of lower classes. -/
def insert (c : Char) : List Char → List Char
  | [] => [c]
  | d :: ds =>
    if markClass d ≠ 0 ∧ markClass d < markClass c then d :: insert c ds else c :: d :: ds

/-- A text with the marks between two letters in the order of their classes. -/
def ordered (cs : List Char) : List Char := cs.foldr insert []

/-- A text with each character taken apart and the marks in order. -/
def decomposed (cs : List Char) : List Char := ordered (cs.flatMap parts)

/-! ## Putting together -/

def merge? (a b : Char) : Option Char :=
  match syllable? a b with
  | some c => some c
  | none =>
    (pairs.find? fun p => p.base = a.toNat && p.mark = b.toNat).map (Char.ofNat ·.whole)

/-- How far a text has been put together; each list has the last character first. -/
structure Progress where
  /-- What no later mark changes. -/
  done : List Char := []
  /-- The letter that marks are merged with. -/
  letter : Option Char := none
  /-- The marks behind the letter that did not merge. -/
  kept : List Char := []

def Progress.blocks (p : Progress) (c : Char) : Bool :=
  match p.kept with
  | [] => false
  | mark :: _ => markClass c ≤ markClass mark

def Progress.all (p : Progress) : List Char := p.kept ++ p.letter.toList ++ p.done

def Progress.step (p : Progress) (c : Char) : Progress :=
  match if p.blocks c then none else p.letter.bind (merge? · c) with
  | some whole => { p with letter := some whole }
  | none => if markClass c = 0 then { done := p.all, letter := some c } else { p with kept := c :: p.kept }

end Composed

def composed (cs : List Char) : List Char :=
  ((Composed.decomposed cs).foldl Composed.Progress.step {}).all.reverse

end PartitionHost.Text
