import PartitionHost.Log.Note
import PartitionHost.Text.Alphanumeric
import PartitionHost.Text.Blank

/-!
# The rules of a log

A rule tells how much detail a log goes into about notes from the parts of the program whose names begin
in some way, or about all notes, and perhaps only about those with a value of some name. It is written as
a level, as a beginning, or as a beginning and a level with an equals sign between; the name of a value
stands in braces within brackets. Brackets can also hold the name of an undertaking that a note belongs
to, or a value of it. No note here belongs to one, so rules with such a condition are never about a note.
-/

namespace PartitionHost.Log

/-- Keeps the notes that it is about unless they are more detailed than `rank`. -/
structure Rule where
  /-- How the name of the part that a note comes from begins. -/
  target : Option String := none
  /-- The name of a value that a note has. -/
  field : Option String := none
  rank : Nat
deriving DecidableEq, Repr

inductive Clause where
  | rule (r : Rule)
  /-- A rule that is about no note. -/
  | idle
deriving DecidableEq, Repr

def Clause.rule? : Clause → Option Rule
  | .rule r => some r
  | .idle => none

/-! ## Levels -/

def rank? (word : String) : Option Nat :=
  match Text.readNatural (1 <<< 64) word with
  | .ok n => if n ≤ Level.trace.rank then some n else none
  | .error _ =>
    match word.toLower with
    | "off" => some 0
    | "error" => some Level.error.rank
    | "warn" => some Level.warn.rank
    | "info" => some Level.info.rank
    | "debug" => some Level.debug.rank
    | "trace" => some Level.trace.rank
    | _ => none

/-! ## Reading -/

/--
The text of a rule. The places of its parts are found without the blanks at the two ends, but counted off
in the text with them. So blanks in front shift the parts, and blanks behind belong to the last one.
-/
structure Script where
  whole : List Char
  /-- The text without the blanks at its ends. -/
  visible : List Char

namespace Script

def ofText (s : String) : Script where
  whole := s.toList
  visible := (Text.dropBlanks (Text.dropBlanks s.toList).reverse).reverse

def part (s : Script) (start stop : Nat) : String :=
  String.ofList ((s.whole.drop start).take (stop - start))

def last (s : Script) (start : Nat) : String := String.ofList (s.whole.drop start)

/-- The first place from `start` on with a character of a kind, or the end. -/
def find (s : Script) (start : Nat) (stops : Char → Bool) : Nat :=
  start + ((s.visible.drop start).takeWhile (!stops ·)).length

/-- The rank behind the equals sign at a place; everything is kept if there is none. -/
def rank? (s : Script) (place : Nat) : Option Nat :=
  match s.visible.drop place with
  | [] => some Level.trace.rank
  | '=' :: _ =>
    let word := s.last (place + 1)
    if word.isEmpty then some Level.trace.rank else Log.rank? word
  | _ => none

/-- Reads what stands in brackets from `start` on and the rank behind them. -/
def bracket? (s : Script) (target : Option String) (start : Nat) : Option Clause :=
  let stop := s.find start fun c => c = ']' || c = '\x7b'
  match s.visible.drop stop with
  | ']' :: _ => (s.rank? (stop + 1)).map fun _ => .idle
  | '\x7b' :: _ =>
    let close := s.find (stop + 1) (· = '\x7d')
    let field := s.part (stop + 1) close
    match s.visible.drop close with
    | '\x7d' :: ']' :: _ =>
      if field.isEmpty then none
      else (s.rank? (close + 2)).map fun rank =>
        if (s.part start stop).isEmpty && !field.contains '=' then .rule ⟨target, some field, rank⟩
        else .idle
    | _ => none
  | _ => none

/-- Whether a rule without brackets in front can begin with the character. -/
def isStart (c : Char) : Bool := c = '-' || c = ':' || c = '_' || Text.isAlphanumeric c

def clause? (s : Script) : Option Clause :=
  match s.visible with
  | [] => none
  | '[' :: _ => s.bracket? none 1
  | c :: _ =>
    if !isStart c then none
    else
      let stop := s.find 0 fun c => c = '=' || c = '['
      match s.visible.drop stop with
      | '=' :: _ => (s.rank? stop).map fun rank => .rule { target := some (s.part 0 stop), rank }
      | '[' :: _ => s.bracket? (some (s.part 0 stop)) (stop + 1)
      | _ =>
        match Log.rank? (s.last 0) with
        | some rank => some (.rule { rank })
        | none => some (.rule { target := some (s.last 0), rank := Level.trace.rank })

end Script

/-! ## Meaning -/

namespace Rule

/-- Whether a rule is about a note; each note has its sentence as a value. -/
def isAbout (r : Rule) (n : Note) : Bool :=
  r.target.all (·.isPrefixOf n.target) &&
    r.field.all fun name => name == "message" || n.fields.any (·.1 == name)

def replaces (r s : Rule) : Bool := r.target == s.target && r.field == s.field

/--
Whether a rule goes before another one that is about the same note: the longer beginning does, then the
one that asks for a value, then the one whose value has the later name.
-/
def precedes (r s : Rule) : Bool :=
  let length (r : Rule) : Nat := (r.target.map (·.length + 1)).getD 0
  if length r = length s then
    match r.field, s.field with
    | some a, some b => b < a
    | some _, none => true
    | none, _ => false
  else length s < length r

end Rule

end PartitionHost.Log
