import Whereabouts.Toml.Scalar
import Whereabouts.Toml.Table
import Whereabouts.Toml.Text

/-!
# Reading TOML texts

A file is read as a list of sections, each a header with the keys and values below it, and the
tables of the sections are then put together. `Toml.parse?` gives the table of the whole file.
-/

namespace Whereabouts.Toml

/-- A key with its parts, and the value it is given. -/
abbrev Assignment := List String × Toml

/-- The table of assignments that stand on one line. -/
def tableOf? (assignments : List Assignment) : Option Toml := do
  let entries ← assignments.foldlM (fun entries (key, v) => Entries.put (.value v) key entries) []
  return .table (entriesToToml entries)

mutual

/-- Reads a value that stands inside `depth` arrays and tables. -/
def value (depth : Nat) : Nat → Reader Toml
  | 0, _ => none
  | fuel + 1, cs =>
    match cs with
    | '[' :: rest =>
      if maxDepth ≤ depth + 1 then none
      else (items (depth + 1) fuel (skipLines rest.length rest)).map fun (vs, rest) =>
        (.array vs, rest)
    | '\x7b' :: rest =>
      if maxDepth ≤ depth + 1 then none
      else
        match skipSpaces rest with
        | '\x7d' :: rest => some (.table [], rest)
        | rest => do
          let (assignments, rest) ← assignments (depth + 1) fuel rest
          return (← tableOf? assignments, rest)
    | '"' :: _ | '\'' :: _ => (string cs).map fun (s, rest) => (.text s, rest)
    | _ => scalar cs

def items (depth : Nat) : Nat → Reader (List Toml)
  | 0, _ => none
  | _ + 1, ']' :: rest => some ([], rest)
  | fuel + 1, cs => do
    let (v, rest) ← value depth fuel cs
    match skipLines rest.length rest with
    | ',' :: rest => do
      let (vs, rest) ← items depth fuel (skipLines rest.length rest)
      return (v :: vs, rest)
    | ']' :: rest => return ([v], rest)
    | _ => none

/-- Reads the assignments of a table that stands on one line, up to its end. -/
def assignments (depth : Nat) : Nat → Reader (List Assignment)
  | 0, _ => none
  | fuel + 1, cs => do
    let (key, rest) ← key cs
    let rest ← after? '=' rest
    let (v, rest) ← value depth fuel (skipSpaces rest)
    match skipSpaces rest with
    | ',' :: rest => do
      let (more, rest) ← assignments depth fuel rest
      return ((key, v) :: more, rest)
    | '\x7d' :: rest => return ([(key, v)], rest)
    | _ => none

end

def assignment : Reader Assignment := fun cs => do
  let (key, rest) ← key cs
  let rest ← after? '=' rest
  let (v, rest) ← value 0 (2 * rest.length + 2) (skipSpaces rest)
  return ((key, v), rest)

/-- A header with the assignments below it; the first section of a file has no header. -/
structure Section where
  path : List String
  isList : Bool
  assignments : List Assignment

/-- Reads a header: its path, and whether it stands in double brackets. -/
def header : Reader (List String × Bool) := fun cs =>
  match cs with
  | '[' :: '[' :: rest => do
    let (path, rest) ← key rest
    return ((path, true), ← after? ']' (← after? ']' rest))
  | '[' :: rest => do
    let (path, rest) ← key rest
    return ((path, false), ← after? ']' rest)
  | _ => none

/-- Reads the rest of the lines of a file; `current` is the section they go on with, its assignments
in reverse. -/
def sections : Nat → Section → List Char → Option (List Section)
  | 0, _, _ => none
  | fuel + 1, current, cs =>
    let closed : Section := { current with assignments := current.assignments.reverse }
    match skipSpaces cs with
    | [] => some [closed]
    | '[' :: rest => do
      let ((path, isList), rest) ← header ('[' :: rest)
      return closed :: (← sections fuel ⟨path, isList, []⟩ (← endOfLine? rest))
    | c :: rest =>
      if c == '#' || c == '\n' || c == '\r' then do
        sections fuel current (← endOfLine? (c :: rest))
      else do
        let (a, rest) ← assignment (c :: rest)
        sections fuel { current with assignments := a :: current.assignments } (← endOfLine? rest)

/-- Adds the assignments of a section to the entries of its table. -/
def Section.fill (s : Section) (entries : Entries) : Option Entries :=
  s.assignments.foldlM (fun entries (key, v) => Entries.put (.value v) key entries) entries

def Section.add (root : Entries) (s : Section) : Option Entries :=
  match s.path.getLast? with
  | none => s.fill root
  | some key =>
    Entries.change (fun parent => do
      match s.isList, parent.get? key with
      | true, none => return parent.set key (.tables [← s.fill []])
      | true, some (.tables list) => return parent.set key (.tables (list ++ [← s.fill []]))
      | false, none => return parent.set key (.table false false (← s.fill []))
      | false, some (.table true false inner) =>
        return parent.set key (.table false false (← s.fill inner))
      | _, _ => none) s.path.dropLast root

/-- The text without the mark of its encoding in front. -/
def withoutMark : List Char → List Char
  | '\ufeff' :: cs => cs
  | cs => cs

/-- The table of a TOML text, `none` where the text is not TOML. -/
def parse? (text : String) : Option Toml := do
  let cs := withoutMark text.toList
  let list ← sections (cs.length + 1) ⟨[], false, []⟩ cs
  let root ← list.foldlM Section.add []
  return .table (entriesToToml root)

end Whereabouts.Toml
