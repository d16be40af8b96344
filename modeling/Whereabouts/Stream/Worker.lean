import Whereabouts.Json.Printer
import Whereabouts.Record.Outbound
import Whereabouts.Stream.Broker
import Whereabouts.Stream.Pacing

/-!
# Workers

A worker takes messages off the inbound stream, enriches the events in them, publishes a record for
each, and acknowledges the messages. Messages that are no events are acknowledged at once, without a
record. `Worker.step` makes exactly one call, so that the steps of several workers can be
interleaved; `Worker.runOnce` makes the steps of one iteration.
-/

namespace Whereabouts

/-- Which messages are acknowledged after publishing. -/
inductive AckPolicy where
  /-- All of them, whatever came of their records. -/
  | atLeastOnce
  /-- Those whose record was published; the others are delivered again. -/
  | strict
deriving DecidableEq, Repr

/-- The settings of a worker. -/
structure WorkerConfig where
  inbound : String
  outbound : String
  group : String
  consumer : String
  /-- How many messages are taken at a time. -/
  maxBatch : Nat
  pacing : Pacing
  ackPolicy : AckPolicy
deriving DecidableEq, Repr

/-- What a worker has done so far. -/
structure WorkerStats where
  iterations : Nat := 0
  polled : Nat := 0
  malformed : Nat := 0
  published : Nat := 0
  publishFailures : Nat := 0
  acked : Nat := 0
  batchFailures : Nat := 0
deriving DecidableEq, Repr

/-- Adds the counters of a worker to those of others. -/
def WorkerStats.accumulate (total stats : WorkerStats) : WorkerStats where
  iterations := total.iterations + stats.iterations
  polled := total.polled + stats.polled
  malformed := total.malformed + stats.malformed
  published := total.published + stats.published
  publishFailures := total.publishFailures + stats.publishFailures
  acked := total.acked + stats.acked
  batchFailures := total.batchFailures + stats.batchFailures

/-- Why an iteration failed. -/
inductive WorkerError where
  | broker (cause : BrokerError)
  | enrich (cause : EnrichError)
deriving DecidableEq, Repr

/-- What an iteration did. -/
inductive Iteration where
  /-- There was nothing to read. -/
  | idle
  | processed (parsed published : Nat)
deriving DecidableEq, Repr

/-- How payloads are read and written. -/
structure Codec (α : Type) where
  /-- The event of a payload, `none` where the payload is no event. -/
  event? : String → Option (Event α)
  /-- The payload of the record of an item, with the time at which it was enriched. -/
  record : Item α → String → String

/-- Payloads as JSON texts: events on the inbound stream, records of items on the outbound one. -/
def Codec.json : Codec Float where
  event? := Event.ofMessage?
  record item time := (item.toRecord time).print

/-- The calls that a worker makes. -/
structure Calls (m : Type → Type) (α : Type) where
  createGroup : (stream group : String) → m (Except BrokerError Unit)
  poll : (stream group consumer : String) → (max : Nat) → m (Except BrokerError (List Message))
  ack : (stream group : String) → List MessageId → m (Except BrokerError Nat)
  publish : (stream payload : String) → m (Except BrokerError MessageId)
  enrich : List (Input α) → m (Except EnrichError (BatchResult α))
  /-- The time, as it is written into records. -/
  now : m String

/-- The messages of one poll. -/
structure MessageBatch (α : Type) where
  parsed : List (MessageId × Event α)
  malformed : List MessageId

namespace MessageBatch

variable {α : Type}

def ofMessages (codec : Codec α) : List Message → MessageBatch α
  | [] => ⟨[], []⟩
  | message :: rest =>
    let batch := ofMessages codec rest
    match codec.event? message.payload with
    | some event => { batch with parsed := (message.id, event) :: batch.parsed }
    | none => { batch with malformed := message.id :: batch.malformed }

def ids (batch : MessageBatch α) : List MessageId := batch.parsed.map (·.1)

def inputs (batch : MessageBatch α) : List (Input α) :=
  batch.parsed.mapIdx fun index (_, event) => ⟨index, event⟩

end MessageBatch

/-- The names of the messages to acknowledge; the flags say whose record was published. -/
def AckPolicy.select (policy : AckPolicy) (ids : List MessageId) (flags : List Bool) :
    List MessageId :=
  match policy with
  | .atLeastOnce => ids
  | .strict => ((ids.zip flags).filter (·.2)).map (·.1)

/-- How far a worker is in an iteration. -/
inductive Phase (α : Type) where
  /-- Between iterations; the outcome is that of the last one. -/
  | resting (outcome : Except WorkerError Iteration)
  | polling
  /-- About to acknowledge the messages that are no events. -/
  | dropping (batch : MessageBatch α)
  | enriching (batch : MessageBatch α)
  /-- About to publish the first of the items; the flags say what has been published. -/
  | publishing (batch : MessageBatch α) (time : String) (item : Item α) (items : List (Item α))
    (flags : List Bool)
  | acking (batch : MessageBatch α) (flags : List Bool)

/-- What a worker is doing, in a word. -/
inductive WorkerState where
  | idle
  | polling
  | processing
  | publishing
  | acking
deriving DecidableEq, Repr

def WorkerState.name : WorkerState → String
  | .idle => "Idle"
  | .polling => "Polling"
  | .processing => "Processing"
  | .publishing => "Publishing"
  | .acking => "Acking"

def Phase.state {α : Type} : Phase α → WorkerState
  | .resting _ => .idle
  | .polling => .polling
  | .dropping _ | .enriching _ => .processing
  | .publishing .. => .publishing
  | .acking .. => .acking

/-- A worker: its settings, its counters, and how far it is. -/
structure Worker (α : Type) where
  config : WorkerConfig
  stats : WorkerStats := {}
  phase : Phase α := .resting (.ok .idle)

namespace Worker

variable {α : Type}

def rest (w : Worker α) (outcome : Except WorkerError Iteration) : Worker α :=
  let failures := match outcome with
    | .ok _ => 0
    | .error _ => 1
  { w with
    phase := .resting outcome
    stats := { w.stats with batchFailures := w.stats.batchFailures + failures } }

def start (w : Worker α) : Worker α :=
  { w with phase := .polling, stats := { w.stats with iterations := w.stats.iterations + 1 } }

/-- Goes on to the events of a batch, if there are any. -/
def toEvents (w : Worker α) (batch : MessageBatch α) : Worker α :=
  if batch.parsed.isEmpty then w.rest (.ok (.processed 0 0))
  else { w with phase := .enriching batch }

/-- The end of an iteration that came to an end with a batch. -/
def complete (w : Worker α) (batch : MessageBatch α) (flags : List Bool) : Worker α :=
  w.rest (.ok (.processed batch.parsed.length (flags.count true)))

/-- Goes on to acknowledge what the policy selects, if that is anything. -/
def toAcks (w : Worker α) (batch : MessageBatch α) (flags : List Bool) : Worker α :=
  if (w.config.ackPolicy.select batch.ids flags).isEmpty then w.complete batch flags
  else { w with phase := .acking batch flags }

def toRecords (w : Worker α) (batch : MessageBatch α) (time : String) (items : List (Item α))
    (flags : List Bool) : Worker α :=
  match items with
  | [] => w.toAcks batch flags
  | item :: rest => { w with phase := .publishing batch time item rest flags }

def afterPoll (codec : Codec α) (w : Worker α) :
    Except BrokerError (List Message) → Worker α
  | .error e => w.rest (.error (.broker e))
  | .ok [] => w.rest (.ok .idle)
  | .ok messages =>
    let batch := MessageBatch.ofMessages codec messages
    let stats := { w.stats with
      polled := w.stats.polled + messages.length
      malformed := w.stats.malformed + batch.malformed.length }
    if batch.malformed.isEmpty then { w with stats }.toEvents batch
    else { w with stats, phase := .dropping batch }

def addAcked (w : Worker α) (count : Nat) : Worker α :=
  { w with stats := { w.stats with acked := w.stats.acked + count } }

/-- The worker after messages that are no events were to be acknowledged. -/
def afterDrop (w : Worker α) (batch : MessageBatch α) : Except BrokerError Nat → Worker α
  | .error e => w.rest (.error (.broker e))
  | .ok count => (w.addAcked count).toEvents batch

/-- The worker after its events were to be enriched. -/
def afterEnrich (w : Worker α) (batch : MessageBatch α) (time : String) :
    Except EnrichError (BatchResult α) → Worker α
  | .error e => w.rest (.error (.enrich e))
  | .ok result =>
    w.toRecords batch time result.items (List.replicate batch.parsed.length false)

/-- The worker after the record of an item was to be published. -/
def afterPublish (w : Worker α) (batch : MessageBatch α) (time : String) (item : Item α)
    (items : List (Item α)) (flags : List Bool) : Except BrokerError MessageId → Worker α
  | .error _ =>
    { w with stats := { w.stats with publishFailures := w.stats.publishFailures + 1 } }.toRecords
      batch time items flags
  | .ok _ =>
    { w with stats := { w.stats with published := w.stats.published + 1 } }.toRecords
      batch time items (flags.set item.index true)

/-- The worker after messages whose records were published were to be acknowledged. -/
def afterAck (w : Worker α) (batch : MessageBatch α) (flags : List Bool) :
    Except BrokerError Nat → Worker α
  | .error e => w.rest (.error (.broker e))
  | .ok count => (w.addAcked count).complete batch flags

variable {m : Type → Type} [Monad m]

/-- Makes the next call of an iteration; a worker that rests makes none. -/
def step (codec : Codec α) (calls : Calls m α) (w : Worker α) : m (Worker α) :=
  match w.phase with
  | .resting _ => return w
  | .polling => do
    return w.afterPoll codec
      (← calls.poll w.config.inbound w.config.group w.config.consumer w.config.maxBatch)
  | .dropping batch => do
    return w.afterDrop batch (← calls.ack w.config.inbound w.config.group batch.malformed)
  | .enriching batch => do
    let answer ← calls.enrich batch.inputs
    return w.afterEnrich batch (← calls.now) answer
  | .publishing batch time item items flags => do
    return w.afterPublish batch time item items flags
      (← calls.publish w.config.outbound (codec.record item time))
  | .acking batch flags => do
    return w.afterAck batch flags
      (← calls.ack w.config.inbound w.config.group (w.config.ackPolicy.select batch.ids flags))

def steps (codec : Codec α) (calls : Calls m α) : Nat → Worker α → m (Worker α)
  | 0, w => return w
  | n + 1, w => do steps codec calls n (← w.step codec calls)

/-- How many steps are left once the events have been enriched. -/
def stepsLeft (w : Worker α) : Nat :=
  match w.phase with
  | .publishing _ _ _ items _ => items.length + 2
  | .acking .. => 1
  | _ => 0

/-- Makes the steps of a whole iteration: three lead at least to the first record, and as many as
there are records follow. -/
def runOnce (codec : Codec α) (calls : Calls m α) (w : Worker α) : m (Worker α) := do
  let w ← steps codec calls 3 w.start
  steps codec calls w.stepsLeft w

def outcome (w : Worker α) : Except WorkerError Iteration :=
  match w.phase with
  | .resting outcome => outcome
  | _ => .ok .idle

def progress (w : Worker α) : Progress :=
  match w.outcome with
  | .ok .idle => .idle
  | .ok (.processed ..) => .worked
  | .error _ => .failed

/-- How a worker learns that it is to stop, and how it rests. -/
structure Signal (m : Type → Type) where
  isTriggered : m Bool
  /-- Rests for some milliseconds, or until the signal comes; says whether it came. -/
  sleep : Nat → m Bool

/-- Makes iterations until the signal comes, at most `rounds` of them. An iteration that was begun
is always completed. -/
def runRounds (codec : Codec α) (calls : Calls m α) (signal : Signal m) :
    Nat → Nat → Worker α → m (Worker α)
  | 0, _, w => return w
  | rounds + 1, backoff, w => do
    if ← signal.isTriggered then return w
    let w ← w.runOnce codec calls
    let next := w.config.pacing.next backoff w.progress
    match w.config.pacing.rest backoff w.progress with
    | none => runRounds codec calls signal rounds next w
    | some millis =>
      if ← signal.sleep millis then return w
      runRounds codec calls signal rounds next w

/-- Creates the group of the worker where it is missing, and makes at most `rounds` iterations. -/
def run (codec : Codec α) (calls : Calls m α) (signal : Signal m) (rounds : Nat)
    (w : Worker α) : m (Except BrokerError (Worker α)) := do
  match ← calls.createGroup w.config.inbound w.config.group with
  | .error e => return .error e
  | .ok () => return .ok (← w.runRounds codec calls signal rounds w.config.pacing.errorBackoff)

end Worker

end Whereabouts
