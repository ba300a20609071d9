import PartitionHost.Address.Domain.Mapping.Table
import PartitionHost.Text.Ranges

/-!
# The characters of domains

Names of domains are compared by their characters, so capital letters, wide letters, ligatures and the
like give place to plain ones before a name is looked at, and characters that do not show are left out.
Some characters cannot stand in a domain at all.
-/

namespace PartitionHost.Address.Domain

open Text (inRanges range? rangesOf entries fields natural?)

/-- Characters that give place to others: every `step`-th from `first` to `last`. -/
structure Row where
  first : Nat
  last : Nat
  step : Nat
  /-- What takes the place of `first`. -/
  image : List Nat

def row? (entry : List Char) : Option Row :=
  match fields (· = '>') entry with
  | [sources, image] =>
    match fields (· = ':') sources with
    | [range] => row range 1 image
    | [range, step] => (natural? 10 step).bind fun step => row range step image
    | _ => none
  | _ => none
where
  row (range : List Char) (step : Nat) (image : List Char) : Option Row := do
    let (first, last) ← range? range
    if image.isEmpty then return ⟨first, last, step, []⟩
    return ⟨first, last, step, ← (fields (· = '.') image).mapM (natural? 16)⟩

def rows : List Row := (entries imageTable).filterMap row?

/-- The characters that cannot stand in a domain. -/
def refusedRanges : List (Nat × Nat) := rangesOf refusedTable

def Row.holds (r : Row) (n : Nat) : Bool :=
  r.first ≤ n && n ≤ r.last && (n - r.first) % r.step == 0

/-- What stands in a domain for a character; `none` if the character cannot stand there. -/
def image? (c : Char) : Option (List Char) :=
  if inRanges refusedRanges c.toNat then none
  else match rows.find? (·.holds c.toNat) with
    | some r => some (r.image.map fun n => Char.ofNat (n + (c.toNat - r.first)))
    | none => some [c]

def isPlain (c : Char) : Bool := image? c == some [c]

end PartitionHost.Address.Domain
