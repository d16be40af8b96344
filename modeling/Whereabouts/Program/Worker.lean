import Whereabouts.Program.Failure
import Whereabouts.Stream.Local

/-!
# The worker

Publishes the lines of a file as events, has a group of workers enrich them, and gives the records
that the workers publish. The workers take turns, one iteration each.
-/

namespace Whereabouts.Program

/-- The command line of the worker. -/
structure WorkerOptions where
  config : String
  input : String
  /-- Where the records go; they are printed where no file is given. -/
  output : Option String
  /-- How many workers there are, in place of the configured number. -/
  instances : Option Nat
  /-- Whether to go on after all events have been enriched. -/
  follow : Bool
deriving Repr

namespace WorkerOptions

def options : List Opt :=
  [configOption, ⟨"input", some 'i', .path⟩, ⟨"output", some 'o', .path⟩,
    ⟨"instances", none, .number⟩, ⟨"follow", none, .nothing⟩]

def ofLine (line : List String) : Except Usage WorkerOptions := do
  let given ← arguments options line
  return {
    config := (given.get? "config").getD defaultConfig
    input := ← given.required "input"
    output := given.get? "output"
    instances := (given.get? "instances").bind (Decimal.natural? (Nat.pow 2 64))
    follow := given.has "follow" }

end WorkerOptions

/-- The configuration with another number of workers. -/
def withInstances (config : Config) : Option Nat → Except Failure Config
  | none => .ok config
  | some 0 => .error .noInstances
  | some n => .ok { config with worker := { config.worker with instances := n } }

/-- The events of a file: its lines without blanks at their ends, but those that are blank. -/
def events (path : String) (contents : Option (List UInt8)) : Except Failure (List String) :=
  match contents with
  | none => .error (.cannotOpen path)
  | some bytes =>
    match String.fromUTF8? ⟨bytes.toArray⟩ with
    | none => .error (.cannotRead path)
    | some text =>
      let lines := (Text.pieces (· == '\n') text.toList).map fun cs => Text.trim (String.ofList cs)
      .ok (lines.filter (!·.isEmpty))

/-- When the workers are stopped. -/
inductive Until where
  /-- When every event was enriched. -/
  | drained
  /-- When a batch was enriched and its records were published. -/
  | firstBatch
deriving DecidableEq, Repr

section Run

variable {m : Type → Type} [Monad m]

def enrichedBatch (w : Whereabouts.Worker Float) : Bool :=
  match w.outcome with
  | .ok (.processed parsed _) => parsed ≠ 0
  | _ => false

/-- Gives every worker a turn, until one of them has enriched a batch where that is the end. -/
def turns (calls : Calls (StateT Broker m) Float) (stop : Until) :
    List (Whereabouts.Worker Float) → StateT Broker m (List (Whereabouts.Worker Float) × Bool)
  | [] => return ([], false)
  | w :: rest => do
    let w ← w.runOnce Codec.json calls
    if stop = .firstBatch ∧ enrichedBatch w then return (w :: rest, true)
    let (rest, stopped) ← turns calls stop rest
    return (w :: rest, stopped)

/-- Has the workers take turns until they are stopped, at most `rounds` turns each. -/
def runWorkers (config : Config) (calls : Calls (StateT Broker m) Float) (stop : Until) :
    Nat → List (Whereabouts.Worker Float) → StateT Broker m Unit
  | 0, _ => return
  | rounds + 1, workers => do
    if (← get).isDrained config.stream.inbound config.stream.group then return
    let (workers, stopped) ← turns calls stop workers
    if stopped then return
    runWorkers config calls stop rounds workers

def seed (calls : Calls (StateT Broker m) Float) (stream : String) :
    List String → ExceptT BrokerError (StateT Broker m) Unit
  | [] => return
  | event :: rest => do
    let _ ← ExceptT.mk (calls.publish stream event)
    seed calls stream rest

def workers (config : Config) : List (Whereabouts.Worker Float) :=
  (List.range config.worker.instances).map fun i =>
    { config := config.workerConfig i ("worker-" ++ toString i) }

/-- Enriches events and gives the payloads of the outbound stream. An event is enriched in one of
the first rounds, and so is what its record may become on the same stream. -/
def enrichEvents (config : Config) (pipeline : Pipeline m) (clock : m Instant) (stop : Until)
    (events : List String) : m (Except Failure (List String)) := do
  let calls := Broker.calls (fun inputs => (pipeline.enricher.enrich inputs).run) clock
  let program : ExceptT BrokerError (StateT Broker m) (List String) := do
    ExceptT.mk (calls.createGroup config.stream.inbound config.stream.group)
    seed calls config.stream.inbound events
    ExceptT.lift (runWorkers config calls stop (2 * events.length + 1) (workers config))
    return ((← get).entries config.stream.outbound).map (·.payload)
  let (answer, _) ← program.run.run { claimIdle := config.stream.claimIdle }
  return answer.mapError .broker

/-- Runs the worker on a command line and gives the payloads to write. -/
def runWorker (options : WorkerOptions) (files : Files) (get : Url → m (Option WebResponse))
    (clock : m Instant) (stop : Until) : m (Except Failure (List String)) := do
  let prepared : Except Failure (Config × Pipeline m × List String) := do
    let config ← withInstances (← loadConfig options.config files) options.instances
    let pipeline ← loadPipeline config files get
    return (config, pipeline, ← events options.input (files options.input))
  match prepared with
  | .error e => return .error e
  | .ok (config, pipeline, events) => enrichEvents config pipeline clock stop events

end Run

end Whereabouts.Program
