import PartitionHost.Json.Text

/-!
# JSON values

A value keeps its numerals and the insides of its strings as they are written (`PartitionHost.Json.Token`),
and its members in order, repeated names included. `Value.tokens` writes a value without white space;
`Value.ofTokens?` reads it back with a stack of the arrays and objects that are still open, so a value
may be nested to any depth.
-/

namespace PartitionHost.Json

inductive Value where
  | null
  | bool (b : Bool)
  | number (numeral : Bytes)
  | string (raw : Bytes)
  | array (items : List Value)
  | object (members : List (Bytes × Value))

namespace Value

/-! ## Writing -/

mutual

def tokens : Value → List Token
  | .null => [.null]
  | .bool true => [.true]
  | .bool false => [.false]
  | .number numeral => [.number numeral]
  | .string raw => [.string raw]
  | .array items => .openArray :: itemTokens items
  | .object members => .openObject :: memberTokens members

/-- The tokens of the items of an array, up to its closing bracket. -/
def itemTokens : List Value → List Token
  | [] => [.closeArray]
  | [v] => v.tokens ++ [.closeArray]
  | v :: rest => v.tokens ++ .comma :: itemTokens rest

/-- The tokens of the members of an object, up to its closing brace. -/
def memberTokens : List (Bytes × Value) → List Token
  | [] => [.closeObject]
  | [(name, v)] => .string name :: .colon :: v.tokens ++ [.closeObject]
  | (name, v) :: rest => .string name :: .colon :: v.tokens ++ .comma :: memberTokens rest

end

def bytes (v : Value) : Bytes := v.tokens.flatMap Token.bytes

/-! ## Reading -/

/-- An array or object that is still open: what it holds so far, the latest first. -/
inductive Frame where
  | array (items : List Value)
  | object (members : List (Bytes × Value)) (name : Bytes)

inductive Stage where
  /-- A value. -/
  | value
  /-- The first item of an array, or its end. -/
  | firstItem
  /-- The first name of an object, or its end. -/
  | firstName
  /-- A further name of an object with these members. -/
  | name (members : List (Bytes × Value))
  /-- The colon behind a name. -/
  | colon (members : List (Bytes × Value)) (name : Bytes)
  /-- What follows a value that is complete. -/
  | complete (v : Value)

def ofToken? : Token → Option Value
  | .null => some .null
  | .true => some (.bool true)
  | .false => some (.bool false)
  | .number numeral => some (.number numeral)
  | .string raw => some (.string raw)
  | _ => none

def begin? (open_ : List Frame) : Token → Option (List Frame × Stage)
  | .openArray => some (open_, .firstItem)
  | .openObject => some (open_, .firstName)
  | t => (ofToken? t).map fun v => (open_, .complete v)

/-- Where one token leads, from the open arrays and objects and what may come next. -/
def step? : List Frame → Stage → Token → Option (List Frame × Stage)
  | fs, .value, t => begin? fs t
  | fs, .firstItem, .closeArray => some (fs, .complete (.array []))
  | fs, .firstItem, t => begin? (.array [] :: fs) t
  | fs, .firstName, .closeObject => some (fs, .complete (.object []))
  | fs, .firstName, .string n => some (fs, .colon [] n)
  | fs, .name ms, .string n => some (fs, .colon ms n)
  | fs, .colon ms n, .colon => some (.object ms n :: fs, .value)
  | .array vs :: fs, .complete v, .comma => some (.array (v :: vs) :: fs, .value)
  | .array vs :: fs, .complete v, .closeArray => some (fs, .complete (.array (v :: vs).reverse))
  | .object ms n :: fs, .complete v, .comma => some (fs, .name ((n, v) :: ms))
  | .object ms n :: fs, .complete v, .closeObject =>
    some (fs, .complete (.object ((n, v) :: ms).reverse))
  | _, _, _ => none

/-- Reads on from the open arrays and objects; at the end one value must be complete. -/
def resume? : List Frame → Stage → List Token → Option Value
  | [], .complete v, [] => some v
  | _, _, [] => none
  | fs, stage, t :: ts => (step? fs stage t).bind fun (fs, stage) => resume? fs stage ts

def ofTokens? (ts : List Token) : Option Value := resume? [] .value ts

def ofBytes? (bs : Bytes) : Option Value := (Token.ofBytes? bs).bind ofTokens?

end Value

end PartitionHost.Json
