import Whereabouts.Geometry.Binary64
import Whereabouts.Geometry.Shape
import Whereabouts.Json.Reader

/-!
# GeoJSON

Collections of features, each with a geometry and tags. `Document.ofJson?` reads any GeoJSON value;
all of it has to be well formed, also the kinds of geometry that are of no use here.
-/

namespace Whereabouts.GeoJson

/-- The place of a feature. Geometries that no layer uses are not kept. -/
inductive Shape where
  | point (p : Point Float)
  | track (t : Track Float)
  | area (a : Area Float)
  | unused

/-- The name of a feature. -/
inductive FeatureId where
  | text (s : String)
  | number (n : Json.Number)

/-- A feature: its name, its tags and its place. -/
structure Feature where
  id : Option FeatureId
  tags : Json.Members
  shape : Option Shape

/-- A GeoJSON value; of the values that are no collection it only matters that they are none. -/
inductive Document where
  | collection (features : List Feature)
  | other

/-- A position: two coordinates, and further ones that are not kept. -/
def position? (value : Json) : Option (Point Float) := do
  let coordinates ← (← value.array?).mapM fun c => c.number?.map (·.toFloat)
  match coordinates with
  | lon :: lat :: _ => return ⟨lat, lon⟩
  | _ => none

def path? (value : Json) : Option (List (Point Float)) := do
  (← value.array?).mapM position?

def paths? (value : Json) : Option (List (List (Point Float))) := do
  (← value.array?).mapM path?

/-- The polygon of its rings, the outer one first; open rings are closed. -/
def polygon (rings : List (List (Point Float))) : Polygon Float :=
  match rings with
  | [] => ⟨[], []⟩
  | exterior :: holes => ⟨Ring.closed exterior, holes.map Ring.closed⟩

/-- A bounding box is a list of numbers. It is only checked. -/
def boxFits (members : Json.Members) : Bool :=
  match members.get? "bbox" with
  | none => true
  | some (.array items) => items.all fun item => item.number?.isSome
  | some _ => false

def type? (members : Json.Members) : Option String := (members.get? "type").bind Json.string?

mutual

def shape? : Json → Option Shape
  | .object members =>
    let coordinates := Json.Members.get? members "coordinates"
    let shape : Option Shape :=
      match type? members with
      | some "Point" => coordinates.bind fun c => (position? c).map .point
      | some "MultiPoint" => coordinates.bind fun c => (path? c).map fun _ => .unused
      | some "LineString" => coordinates.bind fun c => (path? c).map fun p => .track [p]
      | some "MultiLineString" => coordinates.bind fun c => (paths? c).map .track
      | some "Polygon" =>
        coordinates.bind fun c => (paths? c).map fun rings => .area [polygon rings]
      | some "MultiPolygon" => coordinates.bind fun c => do
        return .area ((← (← c.array?).mapM paths?).map polygon)
      | some "GeometryCollection" => if partsFit members then some .unused else none
      | _ => none
    if boxFits members then shape else none
  | _ => none

/-- Whether the member `geometries` is a list of geometries. -/
def partsFit : Json.Members → Bool
  | [] => false
  | (key, value) :: rest =>
    match key == "geometries", value with
    | true, .array items => allFit items
    | true, _ => false
    | false, _ => partsFit rest

def allFit : List Json → Bool
  | [] => true
  | item :: rest => (shape? item).isSome && allFit rest

end

/-- The place in the geometry of a feature, which may be `null`. -/
def place? : Json → Option (Option Shape)
  | .null => some none
  | geometry => (shape? geometry).map some

/-- The tags in the properties of a feature, which may be `null`. -/
def tags? : Json → Option Json.Members
  | .null => some []
  | properties => properties.object?

/-- The name of a feature, which it need not have. -/
def id? (members : Json.Members) : Option (Option FeatureId) :=
  match members.get? "id" with
  | none => some none
  | some (.string s) => some (some (.text s))
  | some (.number n) => some (some (.number n))
  | some _ => none

/-- A feature; its geometry and its tags have to be there. -/
def feature? (value : Json) : Option Feature := do
  let members ← value.object?
  if type? members = some "Feature" then
    let shape ← place? (← members.get? "geometry")
    let tags ← tags? (← members.get? "properties")
    let id ← id? members
    if boxFits members then some ⟨id, tags, shape⟩ else none
  else none

def Document.ofJson? (value : Json) : Option Document := do
  let members ← value.object?
  match type? members with
  | some "FeatureCollection" =>
    let features ← (← (← members.get? "features").array?).mapM feature?
    if boxFits members then some (.collection features) else none
  | some "Feature" => (feature? value).map fun _ => .other
  | _ => (shape? value).map fun _ => .other

def Document.ofText? (text : String) : Option Document := (Json.parse? text).bind Document.ofJson?

end Whereabouts.GeoJson
