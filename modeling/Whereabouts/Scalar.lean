/-!
# Scalars

The numbers that coordinates, distances and sizes are measured in. Everything geometric in this
library is written over a `Scalar`, so that the same definitions can be run on doubles and read
over an ordered field.

Two orders are kept apart. `≤` and `<` are the order of the numbers, in which a NaN is related to
nothing; `rank` is a total order that sorting uses.
-/

namespace Whereabouts

/-- A number system with arithmetic, an order and the functions that distances are made of. -/
class Scalar (α : Type) extends Add α, Sub α, Mul α, Div α, Neg α, OfScientific α, LE α, LT α,
    BEq α where
  decLe : (a b : α) → Decidable (a ≤ b)
  decLt : (a b : α) → Decidable (a < b)
  /-- The total order that lists are sorted by. -/
  rank : α → α → Ordering
  isFinite : α → Bool
  infinity : α
  pi : α
  sqrt : α → α
  sin : α → α
  cos : α → α
  asin : α → α
  /-- The remainder of a division that is at least zero and below the divisor. -/
  remainder : α → α → α
  /-- On which side of the line from the first to the second point the third lies: `gt` left of
  it, `lt` right of it, `eq` on it. The coordinates alternate between the two axes. -/
  turn : α × α → α × α → α × α → Ordering

namespace Scalar

variable {α : Type} [Scalar α]

instance (a b : α) : Decidable (a ≤ b) := decLe a b

instance (a b : α) : Decidable (a < b) := decLt a b

/-- The smaller of two numbers; a NaN yields to the other. -/
def least (a b : α) : α := if a < b || !(b == b) then a else b

/-- The greater of two numbers; a NaN yields to the other. -/
def greatest (a b : α) : α := if b < a || !(b == b) then a else b

def radians (degrees : α) : α := degrees * (pi / 180.0)

def square (a : α) : α := a * a

/-- Whether the total order puts the first number at or before the second. -/
def rankLe (a b : α) : Bool := (rank a b).isLE

end Scalar

end Whereabouts
