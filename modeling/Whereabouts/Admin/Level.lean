/-!
# Administrative levels

The levels of the administrative hierarchy, from the country down to the neighbourhood, with the
numbers that map data gives them.
-/

namespace Whereabouts

/-- A level of the administrative hierarchy. -/
inductive Level where
  | country
  | region
  | province
  | subprovince
  | city
  | district
  | subdistrict
  | neighborhood
deriving DecidableEq, Repr

namespace Level

def all : List Level :=
  [.country, .region, .province, .subprovince, .city, .district, .subdistrict, .neighborhood]

def number : Level → Nat
  | .country => 2
  | .region => 4
  | .province => 6
  | .subprovince => 7
  | .city => 8
  | .district => 9
  | .subdistrict => 10
  | .neighborhood => 11

/-- The level of a number; some numbers stand for no level. -/
def ofNumber? (n : Nat) : Option Level := all.find? fun level => level.number == n

def name : Level → String
  | .country => "country"
  | .region => "region"
  | .province => "province"
  | .subprovince => "subprovince"
  | .city => "city"
  | .district => "district"
  | .subdistrict => "subdistrict"
  | .neighborhood => "neighborhood"

def ofName? (s : String) : Option Level := all.find? fun level => level.name == s

/-- Reading the number of a level gives the level back. -/
theorem ofNumber?_number (level : Level) : ofNumber? level.number = some level := by
  cases level <;> decide

/-- Every level is among the levels. -/
theorem mem_all (level : Level) : level ∈ all := by
  cases level <;> decide

end Level

end Whereabouts
