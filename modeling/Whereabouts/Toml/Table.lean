import Whereabouts.Toml.Basic

/-!
# Putting tables together

The tables of a file are built up entry by entry. A `Node` remembers how a table came about, because
a table may be extended only in the way it was begun: a table that only stands in the path of a
header may still get a header of its own, a table made by the parts of a key may get more keys, and
a table that has a header or stands on one line is closed.
-/

namespace Whereabouts.Toml

/-- An entry of a table under construction. -/
inductive Node where
  | value (v : Toml)
  /-- A table. It is implicit where it has no header, and dotted where keys with parts made it. -/
  | table (implicit dotted : Bool) (entries : List (String × Node))
  /-- A list of tables, each begun by a header in double brackets. -/
  | tables (list : List (List (String × Node)))

abbrev Entries := List (String × Node)

namespace Entries

def get? (entries : Entries) (key : String) : Option Node :=
  (entries.find? (·.1 == key)).map (·.2)

/-- Puts an entry in place of the one of the same key, or behind all others. -/
def set (entries : Entries) (key : String) (node : Node) : Entries :=
  if entries.any (·.1 == key) then
    entries.map fun e => if e.1 == key then (key, node) else e
  else entries ++ [(key, node)]

/-- Puts a value under a key; the parts before the last one lead through tables that were made by
such keys. -/
def put (value : Node) : List String → Entries → Option Entries
  | [], _ => none
  | [key], entries => if (entries.get? key).isSome then none else some (entries.set key value)
  | key :: path, entries =>
    match entries.get? key with
    | none => do
      return entries.set key (.table true true (← put value path []))
    | some (.table true dotted inner) =>
      if !dotted && path.length == 1 then none
      else do
        return entries.set key (.table true dotted (← put value path inner))
    | some (.tables list) =>
      match list.getLast? with
      | some last =>
        if path.length == 1 then none
        else do
          return entries.set key (.tables (list.dropLast ++ [← put value path last]))
      | none => none
    | some _ => none

/-- Changes the table that a path of a header leads to, through the last table of each list. -/
def change (f : Entries → Option Entries) : List String → Entries → Option Entries
  | [], entries => f entries
  | key :: path, entries =>
    match entries.get? key with
    | none => do
      return entries.set key (.table true false (← change f path []))
    | some (.table implicit dotted inner) => do
      return entries.set key (.table implicit dotted (← change f path inner))
    | some (.tables list) =>
      match list.getLast? with
      | none => none
      | some last => do
        return entries.set key (.tables (list.dropLast ++ [← change f path last]))
    | some (.value _) => none

end Entries

mutual

def Node.toToml : Node → Toml
  | .value v => v
  | .table _ _ entries => .table (entriesToToml entries)
  | .tables list => .array (tablesToToml list)

def entriesToToml : List (String × Node) → List (String × Toml)
  | [] => []
  | (key, node) :: rest => (key, node.toToml) :: entriesToToml rest

def tablesToToml : List (List (String × Node)) → List Toml
  | [] => []
  | entries :: rest => .table (entriesToToml entries) :: tablesToToml rest

end

end Whereabouts.Toml
