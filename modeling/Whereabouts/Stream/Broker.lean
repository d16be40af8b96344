import Whereabouts.Stream.Message

/-!
# A broker in memory

Streams of entries with consumer groups. A group delivers every entry once; an entry that was
delivered stays pending until it is acknowledged, and is delivered again when it has been pending
for long. An operation either fails and changes nothing, or gives an answer and the broker after it.
-/

namespace Whereabouts

/-- Why an operation of a broker failed. -/
inductive BrokerError where
  | unknownStream (stream : String)
  | unknownGroup (stream group : String)
  | closed
  | unavailable (reason : String)
deriving DecidableEq, Repr

def BrokerError.message : BrokerError → String
  | .unknownStream stream => "unknown stream: " ++ stream
  | .unknownGroup stream group => "unknown consumer group " ++ group ++ " on stream " ++ stream
  | .closed => "broker is closed"
  | .unavailable reason => "broker unavailable: " ++ reason

/-- A delivery that was not acknowledged so far. -/
structure Delivery where
  /-- The place of the entry in the stream. -/
  offset : Nat
  consumer : String
  /-- When the entry was delivered for the last time. -/
  time : Nat
  /-- How often the entry was delivered. -/
  count : Nat
deriving DecidableEq, Repr

/-- The state of a consumer group on a stream. -/
structure Group where
  /-- The place of the first entry that was never delivered. -/
  next : Nat := 0
  /-- What is pending, in the order of the stream. -/
  pending : List Delivery := []
deriving Repr

/-- A stream of entries, the oldest first. -/
structure Stream where
  entries : List Message := []
  /-- The place of each entry, by the name as it is written. -/
  offsets : List (String × Nat) := []
  groups : List (String × Group) := []
  /-- The name of the last entry. -/
  last : MessageId := ⟨0, 0⟩
deriving Repr

/-- The streams of a broker. -/
structure Broker where
  /-- How long an entry may be pending before it is delivered again. -/
  claimIdle : Nat
  streams : List (String × Stream) := []
  closed : Bool := false
deriving Repr

namespace Broker

def lookUp {β : Type} (key : String) (entries : List (String × β)) : Option β :=
  (entries.find? (·.1 == key)).map (·.2)

/-- Puts a value under a key, in place of an older one. -/
def put {β : Type} (key : String) (value : β) : List (String × β) → List (String × β)
  | [] => [(key, value)]
  | (k, v) :: rest => if k == key then (key, value) :: rest else (k, v) :: put key value rest

end Broker

namespace Group

/-- Whether a delivery has been pending for long. -/
def isIdle (claimIdle now : Nat) (d : Delivery) : Bool := claimIdle ≤ now - d.time

/-- Delivers at most `max` idle entries again. Their offsets come with the new list of what is
pending. -/
def reclaim (claimIdle now : Nat) (consumer : String) :
    Nat → List Delivery → List Nat × List Delivery
  | 0, pending => ([], pending)
  | _ + 1, [] => ([], [])
  | max + 1, d :: rest =>
    if isIdle claimIdle now d then
      let (offsets, rest) := reclaim claimIdle now consumer max rest
      (d.offset :: offsets, ⟨d.offset, consumer, now, d.count + 1⟩ :: rest)
    else
      let (offsets, rest) := reclaim claimIdle now consumer (max + 1) rest
      (offsets, d :: rest)

/-- Delivers entries to a consumer: first those that were pending for long, then fresh ones,
together at most `max`. The stream has `size` entries. -/
def deliver (g : Group) (claimIdle now : Nat) (consumer : String) (max size : Nat) :
    List Nat × Group :=
  let (reclaimed, pending) := reclaim claimIdle now consumer max g.pending
  let fresh := List.range' g.next (min (max - reclaimed.length) (size - g.next))
  (reclaimed ++ fresh,
    ⟨g.next + fresh.length, pending ++ fresh.map fun offset => ⟨offset, consumer, now, 1⟩⟩)

/-- Takes an entry off the pending ones; says whether it was one of them. -/
def acknowledge (g : Group) (offset : Nat) : Bool × Group :=
  (g.pending.any (·.offset == offset),
    { g with pending := g.pending.filter (·.offset != offset) })

/-- Takes several entries off the pending ones, and counts them. -/
def acknowledgeAll (g : Group) : List Nat → Nat × Group
  | [] => (0, g)
  | offset :: rest =>
    let (wasPending, g) := g.acknowledge offset
    let (count, g) := g.acknowledgeAll rest
    (count + wasPending.toNat, g)

/-- Whether every entry of a stream of `size` entries was delivered and acknowledged. -/
def isDrained (g : Group) (size : Nat) : Bool := g.pending.isEmpty && size ≤ g.next

end Group

namespace Stream

def append (s : Stream) (now : Int) (payload : String) : MessageId × Stream :=
  let id := s.last.next now
  (id, { s with
    entries := s.entries ++ [⟨id, payload⟩]
    offsets := Broker.put id.text s.entries.length s.offsets
    last := id })

def offset? (s : Stream) (name : String) : Option Nat := Broker.lookUp name s.offsets

def group? (s : Stream) (name : String) : Option Group := Broker.lookUp name s.groups

def setGroup (s : Stream) (name : String) (g : Group) : Stream :=
  { s with groups := Broker.put name g s.groups }

end Stream

namespace Broker

def stream? (b : Broker) (name : String) : Option Stream := lookUp name b.streams

def setStream (b : Broker) (name : String) (s : Stream) : Broker :=
  { b with streams := put name s b.streams }

/-- The stream and the group that an operation is about. -/
def find (b : Broker) (stream group : String) : Except BrokerError (Stream × Group) := do
  if b.closed then throw .closed
  let some s := b.stream? stream | throw (.unknownStream stream)
  let some g := s.group? group | throw (.unknownGroup stream group)
  return (s, g)

/-- Creates a group, and the stream where it is missing; a group that exists stays as it is. -/
def createGroup (b : Broker) (stream group : String) : Except BrokerError Broker :=
  if b.closed then .error .closed
  else
    let s := (b.stream? stream).getD {}
    .ok (b.setStream stream (if (s.group? group).isSome then s else s.setGroup group {}))

/-- Appends an entry to a stream, which is created where it is missing. -/
def publish (b : Broker) (now : Int) (stream payload : String) :
    Except BrokerError (MessageId × Broker) :=
  if b.closed then .error .closed
  else
    let (id, s) := ((b.stream? stream).getD {}).append now payload
    .ok (id, b.setStream stream s)

/-- Delivers at most `max` entries to a consumer of a group. -/
def poll (b : Broker) (now : Nat) (stream group consumer : String) (max : Nat) :
    Except BrokerError (List Message × Broker) := do
  let (s, g) ← b.find stream group
  let (offsets, g) := g.deliver b.claimIdle now consumer max s.entries.length
  return (offsets.filterMap fun offset => s.entries[offset]?,
    b.setStream stream (s.setGroup group g))

/-- Acknowledges the entries with the written names, which may be names of nothing; the answer is
how many of the entries were pending. -/
def ackNames (b : Broker) (stream group : String) (names : List String) :
    Except BrokerError (Nat × Broker) := do
  let (s, g) ← b.find stream group
  let (count, g) := g.acknowledgeAll (names.filterMap s.offset?)
  return (count, b.setStream stream (s.setGroup group g))

/-- Acknowledges entries, as `ackNames` does by their written names. -/
def ack (b : Broker) (stream group : String) (ids : List MessageId) :
    Except BrokerError (Nat × Broker) :=
  b.ackNames stream group (ids.map (·.text))

/-- The broker that refuses every later operation. -/
def close (b : Broker) : Broker := { b with closed := true }

def entries (b : Broker) (stream : String) : List Message :=
  ((b.stream? stream).map (·.entries)).getD []

def pendingCount (b : Broker) (stream group : String) : Nat :=
  (((b.stream? stream).bind fun s => s.group? group).map (·.pending.length)).getD 0

/-- Whether a group has nothing left to do on a stream; so too where either is missing. -/
def isDrained (b : Broker) (stream group : String) : Bool :=
  match b.stream? stream with
  | none => true
  | some s => (s.group? group).all fun g => g.isDrained s.entries.length

end Broker

end Whereabouts
