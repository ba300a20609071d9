import PartitionHost.Log.Note
import PartitionHost.Record

/-!
# The lines of a log

A note is written as the fields of an object, or as one line of text.
-/

namespace PartitionHost.Log

inductive Style where
  /-- Objects with a field for each value. -/
  | fields
  /-- Lines of text. -/
  | text
deriving DecidableEq, Repr

inductive Line where
  | fields (values : List (String × Field))
  | text (s : String)
deriving DecidableEq, Repr

def Field.text : Field → String
  | .quoted s => Text.quoted s
  | .bare s => s
  | .number n => String.ofList (Text.signedDigits n)

def textLine (n : Note) : String :=
  let level := n.level.name
  let margin := String.ofList (List.replicate (5 - level.length) ' ')
  let values := n.fields.map fun (name, value) => s!" {name}={value.text}"
  s!"{margin}{level} {n.target}: {n.message}" ++ String.join values

def fieldLine (n : Note) : List (String × Field) :=
  ("level", .bare n.level.name) :: ("message", .bare n.message) :: n.fields ++
    [("target", .bare n.target)]

def Line.ofNote : Style → Note → Line
  | .fields, n => .fields (fieldLine n)
  | .text, n => .text (textLine n)

def Field.value : Field → Json.Value
  | .quoted s => .ofText s
  | .bare s => .ofText s
  | .number n => .ofInteger n

/-- A line as it is written out, with the time of its note in front. -/
def Line.bytes (time : Timestamp) : Line → Bytes
  | .text s => Json.utf8 (time.text ++ ' ' :: s.toList)
  | .fields values =>
    Json.Value.bytes <| .object <|
      (Json.escape "timestamp", .ofTimestamp time) ::
        values.map fun (name, value) => (Json.escape name, value.value)

end PartitionHost.Log
