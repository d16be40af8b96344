import Whereabouts.Json.Numeral

/-!
# JSON texts as trees

A `Source` is a JSON text taken apart, before any of it is given a meaning. Numbers stand as they
are written, a string whose escapes name no character has no text, and members of one name are all
kept. Where the text stops being JSON, the tree ends in the leaf `broken`; what was read before is
still there, so that the first fault of a text can be found in the order of the text.
-/

namespace Whereabouts.Json

/-- A JSON text taken apart. -/
inductive Source where
  | broken
  | null
  | bool (b : Bool)
  | number (n : Numeral)
  | string (text : Option String)
  | array (items : List Source)
  | object (members : List (Option String × Source))

instance : Inhabited Source := ⟨.broken⟩

/-- A whole text: its tree, and whether nothing follows the value. -/
structure Document where
  root : Source
  clean : Bool

/-- How deeply the values of a text may be nested where they are built. -/
def maxDepth : Nat := 127

namespace Source

mutual

/-- Whether a text is JSON as far as it can be skipped: values are not looked at. -/
def skippable : Source → Bool
  | .broken => false
  | .array items => skippableItems items
  | .object members => skippableMembers members
  | _ => true

def skippableItems : List Source → Bool
  | [] => true
  | item :: rest => item.skippable && skippableItems rest

def skippableMembers : List (Option String × Source) → Bool
  | [] => true
  | (_, value) :: rest => value.skippable && skippableMembers rest

end

mutual

/-- The value that a text denotes, with at most `depth` arrays and objects inside each other. -/
def value? (depth : Nat) : Source → Option Json
  | .broken => none
  | .null => some .null
  | .bool b => some (.bool b)
  | .number n => n.value?.map .number
  | .string text => text.map .string
  | .array items =>
    if depth = 0 then none else (itemValues? (depth - 1) items).map .array
  | .object members =>
    if depth = 0 then none
    else (memberValues? (depth - 1) members).map fun ms => .object (Members.sorted ms)

def itemValues? (depth : Nat) : List Source → Option (List Json)
  | [] => some []
  | item :: rest => do
    let value ← item.value? depth
    let values ← itemValues? depth rest
    return value :: values

def memberValues? (depth : Nat) : List (Option String × Source) → Option Members
  | [] => some []
  | (key, source) :: rest => do
    let key ← key
    let value ← source.value? depth
    let values ← memberValues? depth rest
    return (key, value) :: values

end

end Source

/-- The value of a whole text, `none` where it is not JSON or cannot be built. -/
def Document.value? (d : Document) : Option Json :=
  if d.clean then d.root.value? maxDepth else none

end Whereabouts.Json
