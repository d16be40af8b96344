import Whereabouts.Text.Basic

/-!
# Modes of transit

The kinds of vehicles, the words that tags use for them, and the tiers by which stops are ranked.
-/

namespace Whereabouts

/-- The kind of vehicle of a stop or a line. -/
inductive Mode where
  | metro
  | train
  | tram
  | bus
  | ferry
  | other
deriving DecidableEq, Repr

namespace Mode

def all : List Mode := [.metro, .train, .tram, .bus, .ferry, .other]

def name : Mode → String
  | .metro => "metro"
  | .train => "train"
  | .tram => "tram"
  | .bus => "bus"
  | .ferry => "ferry"
  | .other => "other"

/-- The mode of a name, exactly as `name` writes it. -/
def ofName? (s : String) : Option Mode := all.find? fun mode => mode.name == s

def words : List (Mode × List String) :=
  [(.metro, ["metro", "subway", "light_rail", "underground"]),
    (.train, ["train", "rail", "railway", "commuter_rail", "suburban"]),
    (.tram, ["tram", "streetcar"]),
    (.bus, ["bus", "trolleybus", "coach"]),
    (.ferry, ["ferry", "boat"])]

/-- The mode that the value of a tag stands for, `other` for a word that is not known. -/
def ofTag (value : String) : Mode :=
  let word := Text.asciiLower (Text.trim value)
  ((words.find? fun entry => entry.2.contains word).map (·.1)).getD .other

end Mode

/-- A rank of modes: rail first, then the street, and last what only fills up. -/
inductive Tier where
  | rail
  | street
  | fallback
deriving DecidableEq, Repr

namespace Tier

/-- The number of a tier, the most important first. -/
def number : Tier → Nat
  | .rail => 1
  | .street => 2
  | .fallback => 3

def modes : Tier → List Mode
  | .rail => [.metro, .train]
  | .street => [.tram, .bus]
  | .fallback => [.ferry, .other]

end Tier

def Mode.tier : Mode → Tier
  | .metro | .train => .rail
  | .tram | .bus => .street
  | .ferry | .other => .fallback

end Whereabouts
