import Whereabouts.Json.Reader

/-!
# Reading records out of JSON texts

Decoders turn the tree of a text into values of the domain. They report the first fault in the
order of the text: either the text is no longer JSON there, or it is JSON of another shape.

A record may be written as an object or as an array of its fields in order. Members that are no
field are skipped without being looked at; a field that is written twice is a fault.
-/

namespace Whereabouts.Json

/-- Why a text is refused. -/
inductive Fault where
  /-- The text is not JSON. -/
  | malformed
  /-- The text is JSON, but not of the expected shape. -/
  | mismatch
deriving DecidableEq, Repr

abbrev Decoder (β : Type) := Source → Except Fault β

namespace Source

/-- The fault of a value of another kind than the expected one. -/
def unexpected : Source → Fault
  | .broken => .malformed
  | .string none => .malformed
  | .number n => if n.value?.isSome then .mismatch else .malformed
  | _ => .mismatch

def text : Decoder String
  | .string (some s) => .ok s
  | other => .error other.unexpected

def truth : Decoder Bool
  | .bool b => .ok b
  | other => .error other.unexpected

def float : Decoder Float
  | .number n =>
    match n.value? with
    | some v => .ok v.toFloat
    | none => .error .malformed
  | other => .error other.unexpected

def nat : Decoder Nat
  | .number n =>
    match n.value? with
    | some v => (v.nat64?.map Except.ok).getD (.error .mismatch)
    | none => .error .malformed
  | other => .error other.unexpected

def int : Decoder Int
  | .number n =>
    match n.value? with
    | some v => (v.int64?.map Except.ok).getD (.error .mismatch)
    | none => .error .malformed
  | other => .error other.unexpected

def optional {β : Type} (decode : Decoder β) : Decoder (Option β)
  | .null => .ok none
  | other => (decode other).map some

def list {β : Type} (decode : Decoder β) : Decoder (List β)
  | .array items => items.mapM decode
  | other => .error other.unexpected

/-- Reads an object as a dictionary; the last of equal names counts. -/
def dictionary {β : Type} (decode : Decoder β) : Decoder (List (String × β))
  | .object members => members.mapM fun (key, value) =>
    match key with
    | some k => (decode value).map (k, ·)
    | none => .error .malformed
  | other => .error other.unexpected

/-- A field of a record: its name and a check of its value. -/
structure Field where
  name : String
  check : Decoder Unit

def Field.of {β : Type} (name : String) (decode : Decoder β) : Field :=
  ⟨name, fun s => (decode s).map fun _ => ()⟩

/-- The fields of an object, in the order of the text. -/
def fieldsOfMembers (fields : List Field) (seen : List (String × Source)) :
    List (Option String × Source) → Except Fault (List (String × Source))
  | [] => .ok seen
  | (none, _) :: _ => .error .malformed
  | (some key, value) :: rest =>
    match fields.find? (·.name == key) with
    | some field =>
      if seen.any (·.1 == key) then .error .mismatch
      else do
        field.check value
        fieldsOfMembers fields (seen ++ [(key, value)]) rest
    | none =>
      if value.skippable then fieldsOfMembers fields seen rest else .error .malformed

/-- The fields of an array, which stand in the order of the record; more items are a fault. -/
def fieldsOfItems : List Field → List Source → Except Fault (List (String × Source))
  | _, [] => .ok []
  | [], _ :: _ => .error .malformed
  | field :: fields, item :: items => do
    field.check item
    let rest ← fieldsOfItems fields items
    return (field.name, item) :: rest

/-- What is written for each field of a record. An array has to hold the first `least` fields. -/
def record (fields : List Field) (least : Nat) : Decoder (List (String × Source))
  | .object members => fieldsOfMembers fields [] members
  | .array items => do
    let written ← fieldsOfItems fields items
    if items.length < least then throw .mismatch else return written
  | other => .error other.unexpected

/-- Reads one of several names; a name may also be the only member of an object, with the value
`null`. -/
def oneOf {β : Type} (ofName? : String → Option β) : Decoder β
  | .object [(some name, .null)] => (ofName? name).elim (.error .mismatch) .ok
  | .object _ => .error .mismatch
  | other => do
    match ofName? (← text other) with
    | some value => return value
    | none => throw .mismatch

/-- The value of a field, `none` where it is not written. -/
def field? {β : Type} (decode : Decoder β) (name : String) (written : List (String × Source)) :
    Except Fault (Option β) :=
  match written.find? (·.1 == name) with
  | some (_, value) => (decode value).map some
  | none => .ok none

def required {β : Type} (decode : Decoder β) (name : String) (written : List (String × Source)) :
    Except Fault β := do
  match ← field? decode name written with
  | some value => return value
  | none => throw .mismatch

/-- The value of a field that may be `null` or missing. -/
def optionalField {β : Type} (decode : Decoder β) (name : String)
    (written : List (String × Source)) : Except Fault (Option β) := do
  return (← field? (optional decode) name written).join

def defaulted {β : Type} (decode : Decoder β) (default : β) (name : String)
    (written : List (String × Source)) : Except Fault β := do
  return (← field? decode name written).getD default

end Source

def Document.decode {β : Type} (d : Document) (decode : Decoder β) : Except Fault β := do
  let value ← decode d.root
  if d.clean then return value else throw .malformed

end Whereabouts.Json
