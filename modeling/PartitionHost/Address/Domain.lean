import PartitionHost.Address.Domain.Direction

/-!
# Domains

The name of a domain is made of labels with dots between them. It is read after characters that give
place to others have done so, and in its composed spelling; then each label keeps the rules for labels,
and all together keep the rules for directions.
-/

namespace PartitionHost.Address.Domain

/-! ## Percent signs -/

/-- The octets of a text in which a percent sign and two hexadecimal digits stand for an octet. -/
def octets : List Char → List UInt8
  | '%' :: a :: b :: cs =>
    match Text.natural? 16 [a, b] with
    | some n => n.toUInt8 :: octets cs
    | none => String.utf8EncodeChar '%' ++ octets (a :: b :: cs)
  | c :: cs => String.utf8EncodeChar c ++ octets cs
  | [] => []

/-! ## Names -/

/-- Whether a character below U+0080 cannot stand in a domain. -/
def isForbidden (c : Char) : Bool :=
  c.toNat ≤ 0x20 || c.toNat = 0x7F || "%#/:<>?@[\\]^|".toList.contains c

def labels? (text : String) : Option (List (List Char)) := do
  let images ← text.toList.mapM image?
  let name := Text.composed images.flatten
  if name.isEmpty || name.any isForbidden then none
  let labels ← (Text.fields (· = '.') name).mapM label?
  if directionsFit labels then return labels else none

def ofText? (cs : List Char) : Option (List (List Char)) :=
  (String.fromUTF8? ⟨(octets cs).toArray⟩).bind labels?

end PartitionHost.Address.Domain
