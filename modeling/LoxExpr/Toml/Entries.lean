import LoxExpr.Toml.Value

/-!
# Building tables

A document is built up statement by statement. A table remembers the section that claimed it: one
that a header names, or that a dotted key leads through, belongs to that section alone, while a
table that only lies on the way of a header can still be claimed.
-/

namespace LoxExpr.Toml

/-- A part of a document under construction. -/
inductive Node
  /-- A value that is complete. -/
  | value (value : Value)
  /-- A table, and the section that claimed it. -/
  | table (claimed : Option Nat) (entries : List (String × Node))
  /-- An array of tables, of which the last is still open. -/
  | tables (earlier : List Value) (last : List (String × Node))

/-- The entries of a table under construction. -/
abbrev Entries := List (String × Node)

mutual

/-- The value of a part as it stands. -/
def Node.finish : Node → Value
  | .value v => v
  | .table _ entries => .table (Node.finishEntries entries)
  | .tables earlier last => .array (earlier ++ [.table (Node.finishEntries last)])

/-- The values of all entries. -/
def Node.finishEntries : List (String × Node) → List (String × Value)
  | [] => []
  | (key, node) :: entries => (key, node.finish) :: Node.finishEntries entries

end

namespace Entries

/-- The table of these entries as they stand. -/
def finish (entries : Entries) : Table := Node.finishEntries entries

/-- Replaces what a key stands for, or adds the key at the end. -/
def update (key : String) (change : Option Node → Except Fault Node) :
    Entries → Except Fault Entries
  | [] => do return [(key, ← change none)]
  | (k, node) :: entries =>
    if k = key then do return (k, ← change (some node)) :: entries
    else do return (k, node) :: (← update key change entries)

/-- Gives a dotted key a value. The tables on its way become the section's own. -/
def define (group : Nat) (value : Value) : (key : List String) → Entries → Except Fault Entries
  | [], _ => .error .malformed
  | [key], entries => update key (fun
      | none => .ok (.value value)
      | some _ => .error .malformed) entries
  | key :: keys, entries => update key (fun
      | none => do return .table (some group) (← define group value keys [])
      | some (.table claimed inner) =>
        if claimed = none ∨ claimed = some group then do
          return .table (some group) (← define group value keys inner)
        else .error .malformed
      | some _ => .error .malformed) entries

/-- Changes the table at a path; of an array of tables the path takes the last. Tables that are
missing on the way are added. -/
def within (change : Entries → Except Fault Entries) : (path : List String) → Entries →
    Except Fault Entries
  | [], entries => change entries
  | key :: path, entries => update key (fun
      | none => do return .table none (← within change path [])
      | some (.table claimed inner) => do return .table claimed (← within change path inner)
      | some (.tables earlier last) => do return .tables earlier (← within change path last)
      | some (.value _) => .error .malformed) entries

/-- Claims a table for a section, unless it is claimed already. -/
def claim (group : Nat) (key : String) (entries : Entries) : Except Fault Entries :=
  update key (fun
    | none => .ok (.table (some group) [])
    | some (.table none inner) => .ok (.table (some group) inner)
    | some _ => .error .malformed) entries

/-- Adds an empty table to an array of tables. -/
def append (key : String) (entries : Entries) : Except Fault Entries :=
  update key (fun
    | none => .ok (.tables [] [])
    | some (.tables earlier last) => .ok (.tables (earlier ++ [.table (finish last)]) [])
    | some _ => .error .malformed) entries

end Entries

end LoxExpr.Toml
