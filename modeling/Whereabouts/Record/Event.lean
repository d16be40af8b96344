import Whereabouts.Enrich.Batch
import Whereabouts.Json.Decode

/-!
# Events as records

The JSON form of location events. An input is an event with one more member, the index; its values
are built before they are looked at, so it is refused where they are nested too deeply.
-/

namespace Whereabouts

open Json (Source Decoder Fault)

namespace Event

/-- The names of the fields that are optional texts, in order. -/
def textFields : List String :=
  ["region", "province", "city", "district", "neighborhood", "street", "house_number"]

def fields : List Source.Field :=
  [.of "property_id" Source.text, .of "country" Source.text]
    ++ textFields.map (fun name => .of name (Source.optional Source.text))
    ++ [.of "lat" (Source.optional Source.float), .of "lon" (Source.optional Source.float),
      .of "show_address" (Source.optional Source.truth)]

def ofWritten (written : List (String × Source)) : Except Fault (Event Float) := do
  let text (name : String) : Except Fault (Option String) :=
    Source.optionalField Source.text name written
  return {
    propertyId := ← Source.required Source.text "property_id" written
    country := ← Source.required Source.text "country" written
    region := ← text "region"
    province := ← text "province"
    city := ← text "city"
    district := ← text "district"
    neighborhood := ← text "neighborhood"
    street := ← text "street"
    houseNumber := ← text "house_number"
    lat := ← Source.optionalField Source.float "lat" written
    lon := ← Source.optionalField Source.float "lon" written
    showAddress := ← Source.optionalField Source.truth "show_address" written }

def decode : Decoder (Event Float) := fun source => do
  ofWritten (← source.record fields 2)

/-- The event of a message, `none` where the message is no event. -/
def ofMessage? (message : String) : Option (Event Float) :=
  ((Json.read message).decode decode).toOption

/-- A member that is left out where there is no value. -/
def member? (name : String) (value : Option Json) : Json.Members :=
  (value.map fun v => (name, v)).toList

def toJson (e : Event Float) : Json :=
  .object ([("property_id", .string e.propertyId), ("country", .string e.country)]
    ++ member? "region" (e.region.map .string)
    ++ member? "province" (e.province.map .string)
    ++ member? "city" (e.city.map .string)
    ++ member? "district" (e.district.map .string)
    ++ member? "neighborhood" (e.neighborhood.map .string)
    ++ member? "street" (e.street.map .string)
    ++ member? "house_number" (e.houseNumber.map .string)
    ++ member? "lat" (e.lat.map .ofFloat)
    ++ member? "lon" (e.lon.map .ofFloat)
    ++ member? "show_address" (e.showAddress.map .bool))

end Event

namespace Input

/-- The members of an input, with the index apart. Every value but the index has to be one that can
be built, with arrays and objects nested at most `depth` deep; a second index is refused. -/
def split (depth : Nat) (index : Option Nat) (others : List (Option String × Source)) :
    List (Option String × Source) → Except Fault (Option Nat × List (Option String × Source))
  | [] => .ok (index, others)
  | (none, _) :: _ => .error .malformed
  | (some key, value) :: rest =>
    if key == "index" then
      if index.isSome then .error .mismatch
      else do split depth (some (← Source.nat value)) others rest
    else if (value.value? depth).isNone then .error .malformed
    else split depth index (others ++ [(some key, value)]) rest

/-- Reads an input whose values may be nested `depth` deep. -/
def decode (depth : Nat) : Decoder (Input Float)
  | .object members => do
    let (index, others) ← split depth none [] members
    let known := others.filter fun m => m.1.any fun key => Event.fields.any (·.name == key)
    match index with
    | none => throw .mismatch
    | some index =>
      return ⟨index, ← Event.ofWritten (← Source.fieldsOfMembers Event.fields [] known)⟩
  | other => .error other.unexpected

/-- Reads a list of inputs that stands inside `enclosing` arrays and objects. -/
def decodeList (enclosing : Nat) : Decoder (List (Input Float)) :=
  Source.list (decode (Json.maxDepth - enclosing - 2))

end Input

end Whereabouts
