import Whereabouts.Geometry.Point
import Whereabouts.Text.Basic

/-!
# Location events

What is known of a property when it arrives: its address in words, and where it lies.
-/

namespace Whereabouts

/-- A property as it is announced. -/
structure Event (α : Type) where
  propertyId : String
  country : String
  region : Option String
  province : Option String
  city : Option String
  district : Option String
  neighborhood : Option String
  street : Option String
  houseNumber : Option String
  lat : Option α
  lon : Option α
  /-- Whether the address may be shown, where the publisher says so. -/
  showAddress : Option Bool

namespace Event

variable {α : Type}

def isFilled (text : Option String) : Bool := text.any fun s => !Text.allBlank s

/-- Whether the street and the number of the house are both given. -/
def hasStreetAddress (e : Event α) : Bool := isFilled e.street && isFilled e.houseNumber

/-- Whether the address may be shown: as the publisher says, else where there is one. -/
def addressVisible (e : Event α) : Bool := e.showAddress.getD e.hasStreetAddress

/-- Where the property lies, where both coordinates are given. -/
def point? (e : Event α) : Option (Point α) := do
  return ⟨← e.lat, ← e.lon⟩

end Event

end Whereabouts
