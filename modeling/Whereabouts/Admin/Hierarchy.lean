import Whereabouts.Admin.Boundary

/-!
# Administrative hierarchies

The boundaries around one point, one for each level.
-/

namespace Whereabouts

/-- The boundaries around a point. -/
structure Hierarchy where
  country : Option BoundaryInfo := none
  region : Option BoundaryInfo := none
  province : Option BoundaryInfo := none
  subprovince : Option BoundaryInfo := none
  city : Option BoundaryInfo := none
  district : Option BoundaryInfo := none
  subdistrict : Option BoundaryInfo := none
  neighborhood : Option BoundaryInfo := none
  /-- Whether the street address may be shown. -/
  addressVisible : Bool := false

namespace Hierarchy

def empty : Hierarchy := {}

def get? (h : Hierarchy) : Level → Option BoundaryInfo
  | .country => h.country
  | .region => h.region
  | .province => h.province
  | .subprovince => h.subprovince
  | .city => h.city
  | .district => h.district
  | .subdistrict => h.subdistrict
  | .neighborhood => h.neighborhood

def set (h : Hierarchy) (level : Level) (info : BoundaryInfo) : Hierarchy :=
  match level with
  | .country => { h with country := some info }
  | .region => { h with region := some info }
  | .province => { h with province := some info }
  | .subprovince => { h with subprovince := some info }
  | .city => { h with city := some info }
  | .district => { h with district := some info }
  | .subdistrict => { h with subdistrict := some info }
  | .neighborhood => { h with neighborhood := some info }

def isEmpty (h : Hierarchy) : Bool := Level.all.all fun level => (h.get? level).isNone

/-- A level that was set holds what it was set to. -/
theorem get?_set (h : Hierarchy) (level : Level) (info : BoundaryInfo) :
    (h.set level info).get? level = some info := by
  cases level <;> rfl

/-- Setting a level leaves the others as they were. -/
theorem get?_set_of_ne (h : Hierarchy) {level other : Level} (info : BoundaryInfo)
    (ne : other ≠ level) : (h.set level info).get? other = h.get? other := by
  cases level <;> cases other <;> first | rfl | exact absurd rfl ne

/-- Setting a level leaves the visibility of the address as it was. -/
theorem addressVisible_set (h : Hierarchy) (level : Level) (info : BoundaryInfo) :
    (h.set level info).addressVisible = h.addressVisible := by
  cases level <;> rfl

/-- The hierarchy with the names of one level in a language. -/
def localizeLevel (lang : String) (h : Hierarchy) (level : Level) : Hierarchy :=
  match h.get? level with
  | some info => h.set level { info with name := info.localized (some lang) }
  | none => h

/-- The hierarchy with names in a language where there are any; unchanged without a language. -/
def localize (h : Hierarchy) (lang : Option String) : Hierarchy :=
  match lang with
  | none => h
  | some lang => Level.all.foldl (localizeLevel lang) h

end Hierarchy

/-- The earlier of two boundaries of a level: the smaller one, of equal sizes the one with the lower
number. -/
def Boundary.precedes {α : Type} [Scalar α] [Measured α] (a b : Boundary α) : Bool :=
  ((Scalar.rank a.size b.size).then (compare a.id b.id)).isLE

/-- The boundary that comes before all others of a list. -/
def Boundary.choose? {α : Type} [Scalar α] [Measured α] : List (Boundary α) → Option (Boundary α)
  | [] => none
  | b :: bs => some (bs.foldl (fun best b => if best.precedes b then best else b) b)

namespace Hierarchy

variable {α : Type} [Scalar α] [Measured α]

/-- Puts the chosen boundary of a level into the hierarchy. -/
def setChosen (boundaries : List (Boundary α)) (h : Hierarchy) (level : Level) : Hierarchy :=
  match Boundary.choose? (boundaries.filter fun b => b.level = level) with
  | some b => h.set level (BoundaryInfo.ofBoundary b)
  | none => h

/-- The hierarchy of the boundaries around a point, `none` where there are none. Where boundaries of
one level overlap, the smallest is taken. -/
def ofBoundaries (boundaries : List (Boundary α)) : Option Hierarchy :=
  if boundaries.isEmpty then none else some (Level.all.foldl (setChosen boundaries) empty)

end Hierarchy

end Whereabouts
