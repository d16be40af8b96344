import Whereabouts.Record.Place
import Whereabouts.Transit.Matcher

/-!
# Stops and lines as records

The JSON form of stops, lines and the stops that are selected for a point.
-/

namespace Whereabouts

open Json (Source Decoder Fault)

namespace Mode

def decode : Decoder Mode := Source.oneOf ofName?

def toJson (mode : Mode) : Json := .string mode.name

end Mode

namespace Point

def decode : Decoder (Point Float) := fun source => do
  let written ← source.record [.of "lat" Source.float, .of "lon" Source.float] 2
  return {
    lat := ← Source.required Source.float "lat" written
    lon := ← Source.required Source.float "lon" written }

def toJson (p : Point Float) : Json := .object [("lat", .ofFloat p.lat), ("lon", .ofFloat p.lon)]

end Point

namespace Stop

def fields : List Source.Field :=
  [.of "id" Source.text, .of "name" Names.decode, .of "mode" Mode.decode,
    .of "location" Point.decode, .of "name_key" Source.text]

def decode : Decoder (Stop Float) := fun source => do
  let written ← source.record fields 5
  return {
    id := ← Source.required Source.text "id" written
    names := ← Source.required Names.decode "name" written
    mode := ← Source.required Mode.decode "mode" written
    location := ← Source.required Point.decode "location" written
    nameKey := ← Source.required Source.text "name_key" written }

def toJson (s : Stop Float) : Json :=
  .object [("id", .string s.id), ("name", s.names.toJson), ("mode", s.mode.toJson),
    ("location", s.location.toJson), ("name_key", .string s.nameKey)]

end Stop

namespace Line

def fields : List Source.Field :=
  [.of "id" Source.text, .of "reference" (Source.optional Source.text), .of "name" Source.text,
    .of "color" (Source.optional Source.text), .of "mode" Mode.decode]

def decode : Decoder Line := fun source => do
  let written ← source.record fields 5
  return {
    id := ← Source.required Source.text "id" written
    reference := ← Source.optionalField Source.text "reference" written
    name := ← Source.required Source.text "name" written
    color := ← Source.optionalField Source.text "color" written
    mode := ← Source.required Mode.decode "mode" written }

def toJson (l : Line) : Json :=
  .object ([("id", .string l.id)]
    ++ Event.member? "reference" (l.reference.map .string)
    ++ [("name", .string l.name)]
    ++ Event.member? "color" (l.color.map .string)
    ++ [("mode", l.mode.toJson)])

end Line

namespace NearestStop

def decodePriority : Decoder Nat := fun source => do
  let n ← Source.nat source
  if n < 256 then return n else throw .mismatch

def fields : List Source.Field :=
  [.of "stop" Stop.decode, .of "distance_m" Source.float, .of "priority" decodePriority,
    .of "lines" (Source.list Line.decode),
    .of "walking_distance_m" (Source.optional Source.float),
    .of "walking_duration_s" (Source.optional Source.float)]

def decode : Decoder (NearestStop Float) := fun source => do
  let written ← source.record fields 3
  return {
    stop := ← Source.required Stop.decode "stop" written
    distance := ← Source.required Source.float "distance_m" written
    priority := ← Source.required decodePriority "priority" written
    lines := ← Source.defaulted (Source.list Line.decode) [] "lines" written
    walkingDistance := ← Source.optionalField Source.float "walking_distance_m" written
    walkingDuration := ← Source.optionalField Source.float "walking_duration_s" written }

def toJson (s : NearestStop Float) : Json :=
  .object ([("stop", s.stop.toJson), ("distance_m", .ofFloat s.distance),
      ("priority", .ofNat s.priority), ("lines", .array (s.lines.map Line.toJson))]
    ++ Event.member? "walking_distance_m" (s.walkingDistance.map .ofFloat)
    ++ Event.member? "walking_duration_s" (s.walkingDuration.map .ofFloat))

end NearestStop

def MatcherConfig.toJson (c : MatcherConfig Float) : Json :=
  .object [("default_radius_m", .ofFloat c.defaultRadius), ("default_limit", .ofNat c.defaultLimit),
    ("max_limit", .ofNat c.maxLimit), ("line_proximity_m", .ofFloat c.lineProximity),
    ("include_fallback_modes", .bool c.includeFallback)]

end Whereabouts
