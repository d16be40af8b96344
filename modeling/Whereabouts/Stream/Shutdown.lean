import Whereabouts.Stream.Worker

/-!
# Shutting down

A signal that is shared by all workers of a process and stays once it was given. A sleep ends early
when the signal comes. Here the signal has a clock of its own, so that sleeps can be followed: it
holds the time, and the times at which it is still to come. Times are milliseconds.
-/

namespace Whereabouts

/-- The signal and the time. -/
structure Shutdown where
  now : Nat := 0
  triggered : Bool := false
  /-- The times at which the signal comes by itself. -/
  scheduled : List Nat := []
deriving Repr

namespace Shutdown

def trigger (s : Shutdown) : Shutdown := { s with triggered := true }

def triggerAfter (s : Shutdown) (millis : Nat) : Shutdown :=
  { s with scheduled := (s.now + millis) :: s.scheduled }

/-- When the signal comes: now where it was given, else at the first of the times. -/
def firesAt? (s : Shutdown) : Option Nat :=
  if s.triggered then some s.now else (s.scheduled.min?).map (max s.now)

def advanceTo (s : Shutdown) (time : Nat) : Shutdown :=
  { s with now := time, triggered := s.triggered || s.scheduled.any (· ≤ time) }

/-- Sleeps for some time, or until the signal comes; says whether it came. -/
def sleep (s : Shutdown) (millis : Nat) : Bool × Shutdown :=
  let wake := s.now + millis
  let woken := s.advanceTo (((s.firesAt?).map (min wake)).getD wake)
  (woken.triggered, woken)

/-- The signal as workers follow it, held as state. -/
def signal {m : Type → Type} [Monad m] [MonadStateOf Shutdown m] : Worker.Signal m where
  isTriggered := return (← getThe Shutdown).triggered
  sleep millis := modifyGetThe Shutdown (·.sleep millis)

/-- Waits for the signal; where it never comes, nothing happens. -/
def wait (s : Shutdown) : Shutdown := ((s.firesAt?).map s.advanceTo).getD s

end Shutdown

end Whereabouts
