import Whereabouts.Admin.Level
import Whereabouts.Geometry.Shape
import Whereabouts.Names
import Whereabouts.Query.Predicate

/-!
# Boundaries

The area of a country, a city or another unit of the administrative hierarchy.
-/

namespace Whereabouts

/-- An administrative unit with its area. -/
structure Boundary (α : Type) where
  id : Int
  level : Level
  names : Names
  population : Option Nat
  /-- The size in square kilometres that the data declares. -/
  declaredSize : Option α
  area : Area α

namespace Boundary

variable {α : Type} [Scalar α]

def envelope? (b : Boundary α) : Option (Envelope α) :=
  Envelope.bounding? (List.flatMap (·.exterior) b.area)

/-- The size in square kilometres: the declared one, else the size of the area. -/
def size [Measured α] (b : Boundary α) : α :=
  b.declaredSize.getD (Area.size b.area / 1000000.0)

def contains (b : Boundary α) (p : Point α) : Bool := Area.contains b.area p

/-- No distance inside the area; from outside no boundary is near. -/
def distance (b : Boundary α) (p : Point α) : α := if b.contains p then 0.0 else Scalar.infinity

instance [Measured α] : Feature α (Boundary α) where
  envelope? := envelope?
  contains := contains
  distance := distance
  mode? _ := none
  size := size

end Boundary

/-- What is reported of a boundary: its number, the name to show and the names in other
languages. -/
structure BoundaryInfo where
  id : Int
  name : String
  names : Names

namespace BoundaryInfo

def ofBoundary {α : Type} (b : Boundary α) : BoundaryInfo :=
  ⟨b.id, b.names.display?.getD "", b.names.withoutDefault⟩

/-- The name in a language, or the name to show where there is none in that language. -/
def localized (info : BoundaryInfo) (lang : Option String) : String :=
  (lang.bind info.names.get?).getD info.name

end BoundaryInfo

end Whereabouts
