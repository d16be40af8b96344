/-!
# Messages

An entry of a stream and the name it is known by: the time at which it was appended, and a count of
the entries of that moment.
-/

namespace Whereabouts

/-- The name of an entry. -/
structure MessageId where
  millis : Nat
  seq : Nat
deriving DecidableEq, Repr

namespace MessageId

def text (id : MessageId) : String := toString id.millis ++ "-" ++ toString id.seq

def before (a b : MessageId) : Bool :=
  a.millis < b.millis || (a.millis == b.millis && a.seq < b.seq)

/-- The name that follows at a reading of the clock; the clock may stand still or go back. -/
def next (last : MessageId) (now : Int) : MessageId :=
  if last.millis < now.toNat then ⟨now.toNat, 0⟩ else ⟨last.millis, last.seq + 1⟩

end MessageId

/-- An entry of a stream. -/
structure Message where
  id : MessageId
  payload : String
deriving DecidableEq, Repr

end Whereabouts
