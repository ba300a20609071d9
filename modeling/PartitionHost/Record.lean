import PartitionHost.Json.Value
import PartitionHost.Time.Timestamp.Text

/-!
# Records

A record is a value with named fields in a fixed order. It is written as a JSON object of its fields in
that order. It is read from an object that gives each of its fields exactly once, whatever the order and
whatever other members there are, or from an array of exactly its fields in order.

A field holds a text, a list of texts, an instant, or an unsigned or signed integer of 64 bits. A schema gives
the names of the fields and what kind each of them is of; a record is nothing but the contents of its fields.
-/

namespace PartitionHost

namespace Json.Value

/-! ## Fields, written -/

def asciiBytes (cs : List Char) : Bytes := cs.map octet

def ofText (s : String) : Value := .string (escape s)

def ofTexts (ss : List String) : Value := .array (ss.map ofText)

def ofTimestamp (t : Timestamp) : Value := .string (asciiBytes t.text)

def ofNatural (n : Nat) : Value := .number (asciiBytes (Text.digits n))

def ofInteger (n : Int) : Value := .number (asciiBytes (Text.signedDigits n))

/-! ## Fields, read -/

def text? : Value → Option String
  | .string raw => unescape? raw
  | _ => none

def texts? : Value → Option (List String)
  | .array items => items.mapM text?
  | _ => none

def timestamp? (v : Value) : Option Timestamp := v.text?.bind fun s => Timestamp.ofText? s.toList

def asciiChars (bs : Bytes) : List Char := bs.map fun b => Char.ofNat b.toNat

def digits? (numeral : Bytes) : Option Nat :=
  if numeral.all isDigit then some (Text.ofDigits (asciiChars numeral)) else none

def natural? : Value → Option Nat
  | .number numeral => (digits? numeral).filter (· < 1 <<< 64)
  | _ => none

/-- A signed integer of 64 bits; the numeral `-0` is not one. -/
def integer? : Value → Option Int
  | .number (0x2D :: numeral) =>
    ((digits? numeral).filter fun n => 0 < n && n ≤ 1 <<< 63).map fun n : Nat => -(n : Int)
  | .number numeral => ((digits? numeral).filter (· < 1 <<< 63)).map fun n : Nat => (n : Int)
  | _ => none

/-! ## Objects of fields -/

/-- The members of an object with their names read; none if a name is not a text. -/
def members? : List (Bytes × Value) → Option (List (String × Value)) :=
  List.mapM fun (raw, v) => (unescape? raw).map (·, v)

def valuesOf (name : String) (members : List (String × Value)) : List Value :=
  (members.filter (·.1 == name)).map (·.2)

/-- The value under a name that is given exactly once. -/
def only? (name : String) (members : List (String × Value)) : Option Value :=
  match valuesOf name members with
  | [v] => some v
  | _ => none

def fields? (names : List String) : Value → Option (List Value)
  | .array items => if items.length = names.length then some items else none
  | .object ms => (members? ms).bind fun ms => names.mapM (only? · ms)
  | _ => none

def ofFields (names : List String) (values : List Value) : Value :=
  .object (names.zipWith (fun name v => (escape name, v)) values)

end Json.Value

open Json

/-! ## Schemas -/

namespace Record

/-- What a field may hold. -/
inductive Field.Kind where
  | text
  | texts
  | timestamp
  | natural
  | integer

namespace Field.Kind

abbrev Content : Kind → Type
  | text => String
  | texts => List String
  | timestamp => Timestamp
  | natural => Nat
  | integer => Int

/-- The value that is written for a content. -/
def value : (kind : Kind) → kind.Content → Value
  | text => .ofText
  | texts => .ofTexts
  | timestamp => .ofTimestamp
  | natural => .ofNatural
  | integer => .ofInteger

/-- The content that is read from a value. -/
def content? : (kind : Kind) → Value → Option kind.Content
  | text => Value.text?
  | texts => Value.texts?
  | timestamp => Value.timestamp?
  | natural => Value.natural?
  | integer => Value.integer?

end Field.Kind

structure Field where
  kind : Field.Kind
  content : kind.Content

def Field.value (f : Field) : Value := f.kind.value f.content

/-- The names of fields and the kinds of what they hold, in order. -/
abbrev Schema := List (String × Field.Kind)

namespace Schema

def names (s : Schema) : List String := s.map Prod.fst

/-- What the fields hold, one after the other. -/
abbrev Contents : Schema → Type
  | [] => Unit
  | (_, kind) :: s => kind.Content × Contents s

def fields : (s : Schema) → s.Contents → List Field
  | [], _ => []
  | (_, kind) :: s, (content, rest) => ⟨kind, content⟩ :: fields s rest

def contents? : (s : Schema) → List Value → Option s.Contents
  | [], [] => some ()
  | (_, kind) :: s, v :: vs => do return (← kind.content? v, ← contents? s vs)
  | _, _ => none

end Schema

end Record

/-- A type whose values are written and read by a schema: each is as good as the contents of its fields. -/
class Record (α : Type) where
  schema : Record.Schema
  nodup : schema.names.Nodup := by decide
  contents : α → schema.Contents
  ofContents : schema.Contents → α
  ofContents_contents : ∀ a, ofContents (contents a) = a := by exact fun _ => rfl
  contents_ofContents : ∀ c, contents (ofContents c) = c := by exact fun _ => rfl

namespace Record

variable {α : Type} [Record α]

/-- The names of the fields, in order. -/
def fieldNames (α : Type) [Record α] : List String := (schema α).names

def fields (a : α) : List Field := (schema α).fields (contents a)

/-- The record whose fields have these values. -/
def ofValues? (values : List Value) : Option α := ((schema α).contents? values).map ofContents

def toJson (a : α) : Value := Value.ofFields (fieldNames α) ((fields a).map Field.value)

def ofJson? (v : Value) : Option α := (Value.fields? (fieldNames α) v).bind ofValues?

def encode (a : α) : Bytes := (toJson a).bytes

def decode? (bs : Bytes) : Option α := (Value.ofBytes? bs).bind ofJson?

end Record

end PartitionHost
