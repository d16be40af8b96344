import Whereabouts.Stream.Worker

/-!
# Workers on a broker in memory

The calls of a worker, answered by a broker that is held as state.
-/

namespace Whereabouts

/-- A reading of the clock: milliseconds of the day's time, milliseconds that only go forward, and
the time as it is written into records. -/
structure Instant where
  wall : Int
  ticks : Nat
  text : String
deriving Repr

namespace Broker

variable {m : Type → Type} [Monad m]

/-- Runs an operation. One that fails has no other broker to leave behind, since operations check
what they need before they change anything; so the broker stays as it is. -/
def perform {β : Type} (operation : Broker → Except BrokerError (β × Broker)) :
    StateT Broker m (Except BrokerError β) := fun broker =>
  match operation broker with
  | .ok (answer, next) => return (.ok answer, next)
  | .error e => return (.error e, broker)

def calls {α : Type} (enrich : List (Input α) → m (Except EnrichError (BatchResult α)))
    (clock : m Instant) : Calls (StateT Broker m) α where
  createGroup stream group := perform fun b => (b.createGroup stream group).map fun b => ((), b)
  poll stream group consumer max := do
    let time ← clock
    perform fun b => b.poll time.ticks stream group consumer max
  ack stream group ids := perform fun b => b.ack stream group ids
  publish stream payload := do
    let time ← clock
    perform fun b => b.publish time.wall stream payload
  enrich inputs := enrich inputs
  now := do return (← clock).text

end Broker

end Whereabouts
