import PartitionHost.Log.Rule

/-!
# Which notes a log keeps

A filter has rules. Of the rules that are about a note the most specific one decides about it, and a note
that no rule is about is dropped. Rules are written with commas between them; what is not a rule is
passed over.
-/

namespace PartitionHost.Log

structure Filter where
  rules : List Rule
deriving DecidableEq, Repr

namespace Filter

/-- Adds a rule, in the place of an earlier one with the same condition. -/
def add (f : Filter) (r : Rule) : Filter := ⟨f.rules.filter (!r.replaces ·) ++ [r]⟩

/-- The filter that a text spells; without any rule it keeps the notes up to the default level. -/
def ofText (default : Level) (s : String) : Filter :=
  match (s.splitOn ",").filterMap fun part => (Script.ofText part).clause? with
  | [] => ⟨[{ rank := default.rank }]⟩
  | clauses => (clauses.filterMap Clause.rule?).foldl add ⟨[]⟩

def deciding? (f : Filter) (n : Note) : Option Rule :=
  (f.rules.filter (·.isAbout n)).foldl
    (fun best r =>
      match best with
      | some b => if r.precedes b then some r else best
      | none => some r)
    none

def keeps (f : Filter) (n : Note) : Bool :=
  match f.deciding? n with
  | some r => n.level.rank ≤ r.rank
  | none => false

end Filter

end PartitionHost.Log
