import Whereabouts.Admin.Boundary
import Whereabouts.GeoJson.Basic
import Whereabouts.Text.Basic
import Whereabouts.Transit.Stop

/-!
# The layers of a collection

Boundaries, stops and lines are read out of the tags and shapes of features. A feature that lacks
what its layer needs is skipped.
-/

namespace Whereabouts.GeoJson

/-- The text of a tag; an empty text counts as none. -/
def tagText? (tags : Json.Members) (key : String) : Option String :=
  ((tags.get? key).bind Json.string?).bind fun s => if s.isEmpty then none else some s

/-- The natural number of a tag, which may be written as a text. -/
def tagNat? (tags : Json.Members) (key : String) : Option Nat :=
  match tags.get? key with
  | some (.number n) => n.nat64?
  | some (.string s) => Decimal.natural? (Nat.pow 2 64) (Text.trim s)
  | _ => none

/-- The number of a tag, which may be written as a text. -/
def tagFloat? (tags : Json.Members) (key : String) : Option Float :=
  match tags.get? key with
  | some (.number n) => some n.toFloat
  | some (.string s) => Decimal.float? (Text.trim s)
  | _ => none

def after? (word s : String) : Option String :=
  if word.toList.isPrefixOf s.toList then some (String.ofList (s.toList.drop word.length)) else none

/-- Adds the name that a tag gives: `name` without a language, `name:` followed by a language. -/
def addName (names : Names) (tag : String × Json) : Names :=
  match tag.2 with
  | .string name =>
    if tag.1 == "name" then names.insert Names.defaultKey name
    else match after? "name:" tag.1 with
      | some lang => names.insert lang name
      | none => names
  | _ => names

def names (tags : Json.Members) : Names := tags.foldl addName Names.empty

/-- The number in a name such as `relation/7` or `7`. -/
def numberIn? (s : String) : Option Int :=
  Decimal.integer? (String.ofList ((s.toList.reverse.takeWhile (· != '/')).reverse))

/-- The number that identifies a feature: from its name, else from its tags. -/
def numericId? (f : Feature) : Option Int :=
  match f.id with
  | some (.number n) => n.int64?
  | some (.text s) => numberIn? s
  | none =>
    let number (key : String) : Option Int :=
      ((f.tags.get? key).bind Json.number?).bind (·.int64?)
    (((tagText? f.tags "osm_id").bind numberIn?).or (number "osm_id")).or (number "id")

/-- The name of a feature: its own, else the tag `id`. -/
def textId? (f : Feature) : Option String :=
  match f.id with
  | some (.text s) => some s
  | some (.number n) => some n.text
  | none =>
    match f.tags.get? "id" with
    | some (.string s) => some s
    | some (.number n) => some n.text
    | _ => none

def level? (tags : Json.Members) : Option Level :=
  (tagNat? tags "admin_level").bind fun n => if n < 256 then Level.ofNumber? n else none

/-- The boundary of a feature, `none` without a level, a number, a name or an area. -/
def boundary? (f : Feature) : Option (Boundary Float) := do
  let level ← level? f.tags
  let id ← numericId? f
  let names := names f.tags
  if names.isEmpty then none
  match f.shape with
  | some (.area area) =>
    return ⟨id, level, names, tagNat? f.tags "population", tagFloat? f.tags "area", area⟩
  | _ => none

/-- The boundaries of a collection, the country first; those of one level keep their order. -/
def boundaries (features : List Feature) : List (Boundary Float) :=
  (features.filterMap boundary?).mergeSort fun a b => a.level.number ≤ b.level.number

/-- The mode of a stop: the tag `mode`, else what the other tags say about the place. -/
def stopMode (tags : Json.Members) : Mode :=
  match tagText? tags "mode" with
  | some mode => Mode.ofTag mode
  | none =>
    let station := tagText? tags "station"
    let urban := station = some "subway" ∨ station = some "light_rail"
    match tagText? tags "railway" with
    | some "subway_entrance" => .metro
    | some "station" | some "halt" => if urban then .metro else .train
    | some "tram_stop" => .tram
    | _ =>
      if tagText? tags "highway" = some "bus_stop" then .bus
      else if tagText? tags "amenity" = some "ferry_terminal" then .ferry
      else .other

/-- The stop of a feature, `none` without a name or a point. -/
def stop? (f : Feature) : Option (Stop Float) := do
  let id ← textId? f
  match f.shape with
  | some (.point p) => return Stop.ofNames id (names f.tags) (stopMode f.tags) p
  | _ => none

def stops (features : List Feature) : List (Stop Float) := features.filterMap stop?

/-- The line of a feature, `none` without a name or a track. -/
def line? (f : Feature) : Option (LineFeature Float) := do
  let id ← textId? f
  let mode := (tagText? f.tags "route").or (tagText? f.tags "mode")
  let line : Line := {
    id
    reference := tagText? f.tags "ref"
    name := (tagText? f.tags "name").getD ""
    color := (tagText? f.tags "colour").or (tagText? f.tags "color")
    mode := (mode.map Mode.ofTag).getD .other }
  match f.shape with
  | some (.track track) => return ⟨line, track⟩
  | _ => none

def lines (features : List Feature) : List (LineFeature Float) := features.filterMap line?

end Whereabouts.GeoJson
