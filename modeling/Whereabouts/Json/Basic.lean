import Whereabouts.Decimal.Shortest

/-!
# JSON values

A JSON value as programs exchange it. Members of an object keep the order in which they are listed;
`Json.sorted` is the form of an object that was read as a dictionary.
-/

namespace Whereabouts

/-- A number of a JSON value: an integer of at most 64 bits, or a double. -/
inductive Json.Number where
  | int (n : Int)
  | float (x : Float)

/-- A JSON value. -/
inductive Json where
  | null
  | bool (b : Bool)
  | number (n : Json.Number)
  | string (s : String)
  | array (items : List Json)
  | object (members : List (String × Json))

namespace Json

abbrev Members := List (String × Json)

instance : Inhabited Json := ⟨.null⟩

def ofInt (n : Int) : Json := .number (.int n)

def ofNat (n : Nat) : Json := .number (.int n)

/-- A double as a JSON value; numbers that JSON cannot write become `null`. -/
def ofFloat (x : Float) : Json := if x.isFinite then .number (.float x) else .null

/-- The value of a member, `none` where there is no member of that name. -/
def Members.get? (members : Members) (key : String) : Option Json :=
  (members.find? (·.1 == key)).map (·.2)

/-- Puts a member into a list sorted by name, in place of a member of the same name. -/
def Members.insert (key : String) (value : Json) : Members → Members
  | [] => [(key, value)]
  | (k, v) :: rest =>
    if key < k then (key, value) :: (k, v) :: rest
    else if key = k then (key, value) :: rest
    else (k, v) :: Members.insert key value rest

/-- The dictionary of a list of members: sorted by name, the last of equal names counts. -/
def Members.sorted (members : Members) : Members :=
  members.foldl (fun acc m => Members.insert m.1 m.2 acc) []

/-- The members of an object, `none` for any other value. -/
def object? : Json → Option Members
  | .object members => some members
  | _ => none

/-- The items of an array, `none` for any other value. -/
def array? : Json → Option (List Json)
  | .array items => some items
  | _ => none

/-- The text of a string, `none` for any other value. -/
def string? : Json → Option String
  | .string s => some s
  | _ => none

/-- A member of an object, `none` also for a value that is no object. -/
def get? (value : Json) (key : String) : Option Json :=
  value.object?.bind fun members => members.get? key

def Number.toFloat : Number → Float
  | .int n => Float.ofInt n
  | .float x => x

/-- The number as an integer of 64 bits with a sign; a double is never one. -/
def Number.int64? : Number → Option Int
  | .int n => if n < Nat.pow 2 63 then some n else none
  | .float _ => none

/-- The number as a natural number of 64 bits; a double is never one. -/
def Number.nat64? : Number → Option Nat
  | .int n => if 0 ≤ n then some n.toNat else none
  | .float _ => none

def Number.text : Number → String
  | .int n => toString n
  | .float x => Decimal.scientific x

/-- The number of a value, `none` where it is no number. -/
def number? : Json → Option Number
  | .number n => some n
  | _ => none

end Json

end Whereabouts
