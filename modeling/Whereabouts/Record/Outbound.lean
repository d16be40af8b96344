import Whereabouts.Enrich.Batch
import Whereabouts.Record.Transit

/-!
# Results as records

The JSON form of enriched items, and the records that are published for them. A record is the item
without its index, with the time at which it was enriched.
-/

namespace Whereabouts

open Json (Source Decoder Fault)

def ItemError.message : ItemError Float → String
  | .missingCoordinates => "location has no coordinates"
  | .invalidCoordinates p =>
    "invalid coordinates (" ++ Decimal.plain p.lat ++ ", " ++ Decimal.plain p.lon ++ ")"

namespace Item

/-- What an item and the record published for it have in common. -/
def body (item : Item Float) : Json.Members :=
  [("property_id", .string item.propertyId)]
    ++ Event.member? "location" (item.location.map Hierarchy.toJson)
    ++ Event.member? "nearest_stops"
        (item.nearestStops.map fun stops => .array (stops.map NearestStop.toJson))
    ++ Event.member? "error" (item.error.map fun e => .string e.message)

def toJson (item : Item Float) : Json := .object (("index", .ofNat item.index) :: item.body)

/-- The record that is published for an item, with the text of the time. -/
def toRecord (item : Item Float) (enrichedAt : String) : Json :=
  .object (item.body ++ [("enriched_at", .string enrichedAt)])

end Item

namespace BatchResult

def toJson (r : BatchResult Float) : Json :=
  .object [("items", .array (r.items.map Item.toJson)), ("total", .ofNat r.total),
    ("success", .ofNat r.success), ("errors", .ofNat r.errors)]

end BatchResult

/-- A record as it is read back from the outbound stream. -/
structure Outbound where
  propertyId : String
  location : Option Hierarchy
  nearestStops : Option (List (NearestStop Float))
  error : Option String
  enrichedAt : String

namespace Outbound

def isPair (bound : Nat) (cs : List Char) : Bool :=
  cs.length == 2 && cs.all Char.isDigit && Decimal.digitsValue cs ≤ bound

def isOffset : List Char → Bool
  | ['Z'] | ['z'] => true
  | sign :: h1 :: h2 :: ':' :: rest =>
    (sign == '+' || sign == '-') && isPair 23 [h1, h2] && isPair 59 rest
  | _ => false

/-- Whether a text is a time with its date and zone, such as `2024-05-01T08:00:00.5Z`. -/
def isTime (s : String) : Bool :=
  match s.toList with
  | y1 :: y2 :: y3 :: y4 :: '-' :: m1 :: m2 :: '-' :: d1 :: d2 :: t :: h1 :: h2 :: ':' :: n1 :: n2
      :: ':' :: s1 :: s2 :: rest =>
    let rest' := match rest with
      | '.' :: fraction =>
        if (fraction.head?.any Char.isDigit) then fraction.dropWhile Char.isDigit else rest
      | _ => rest
    [y1, y2, y3, y4].all Char.isDigit && isPair 12 [m1, m2] && isPair 31 [d1, d2]
      && (t == 'T' || t == 't' || t == ' ') && isPair 23 [h1, h2] && isPair 59 [n1, n2]
      && isPair 60 [s1, s2] && isOffset rest'
  | _ => false

def time : Decoder String := fun source => do
  let s ← Source.text source
  if isTime s then return s else throw .mismatch

def fields : List Source.Field :=
  [.of "property_id" Source.text, .of "location" (Source.optional Hierarchy.decode),
    .of "nearest_stops" (Source.optional (Source.list NearestStop.decode)),
    .of "error" (Source.optional Source.text), .of "enriched_at" time]

def decode : Decoder Outbound := fun source => do
  let written ← source.record fields 5
  return {
    propertyId := ← Source.required Source.text "property_id" written
    location := ← Source.optionalField Hierarchy.decode "location" written
    nearestStops := ← Source.optionalField (Source.list NearestStop.decode) "nearest_stops" written
    error := ← Source.optionalField Source.text "error" written
    enrichedAt := ← Source.required time "enriched_at" written }

/-- The record of a message, `none` where the message is no record. -/
def ofMessage? (message : String) : Option Outbound :=
  ((Json.read message).decode decode).toOption

end Outbound

end Whereabouts
