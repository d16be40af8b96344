import Whereabouts.Toml.Reader

/-!
# Reading records out of TOML values

A record is a table, or an array of its fields in order. What stands in a table beside the fields is
ignored.
-/

namespace Whereabouts.Toml

abbrev Decoder (β : Type) := Toml → Option β

def asText : Decoder String
  | .text s => some s
  | _ => none

def asNat : Decoder Nat
  | .integer n => if 0 ≤ n then some n.toNat else none
  | _ => none

def asFloat : Decoder Float
  | .float x => some x
  | .integer n => some (Float.ofInt n)
  | _ => none

def asTruth : Decoder Bool
  | .truth b => some b
  | _ => none

def isEmpty : Toml → Bool
  | .table entries => entries.isEmpty
  | .array items => items.isEmpty
  | _ => false

/-- Reads one of several names; a name may also be the only key of a table, with an empty value. -/
def asName {β : Type} (ofName? : String → Option β) : Decoder β
  | .text name => ofName? name
  | .table [(name, value)] => if value.isEmpty then ofName? name else none
  | _ => none

/-- What a record says about its fields; a time says nothing. -/
def record? (fields : List String) : Toml → Option (List (String × Toml))
  | .table entries => some entries
  | .array items => some (fields.zip items)
  | .time => some []
  | _ => none

/-- The value of a field, `none` within where it is missing. -/
def field? {β : Type} (entries : List (String × Toml)) (name : String) (decode : Decoder β) :
    Option (Option β) :=
  match entries.find? (·.1 == name) with
  | some (_, value) => (decode value).map some
  | none => some none

def required {β : Type} (entries : List (String × Toml)) (name : String) (decode : Decoder β) :
    Option β :=
  (field? entries name decode).join

def defaulted {β : Type} (entries : List (String × Toml)) (name : String) (decode : Decoder β)
    (default : β) : Option β :=
  (field? entries name decode).map (·.getD default)

end Whereabouts.Toml
