import Whereabouts.Geometry.Binary64
import Whereabouts.Stream.Worker
import Whereabouts.Toml.Decode
import Whereabouts.Transit.Matcher
import Whereabouts.Walking.Table

/-!
# Configuration

The settings of the programs, read from a TOML file. Only the paths of the data have to be given.
-/

namespace Whereabouts

open Toml (required defaulted field? record? asText asNat asFloat asTruth asName)

/-- The files that the layers are loaded from. -/
structure DataFiles where
  boundaries : String
  stops : String
  lines : String
deriving Repr

/-- The streams, and the group that consumes them. -/
structure StreamSettings where
  inbound : String := "locations:inbound"
  outbound : String := "locations:enriched"
  group : String := "enrichment"
  /-- The name of the consumer; a name of its own where none is given. -/
  consumer : Option String := none
  /-- After how many milliseconds a pending message is delivered again. -/
  claimIdle : Nat := 30000
deriving Repr

/-- The workers. -/
structure WorkerSettings where
  instances : Nat := 1
  maxBatch : Nat := 20
  pacing : Pacing := ⟨100, 500, 30000⟩
  ackPolicy : AckPolicy := .atLeastOnce
deriving Repr

/-- The settings of the programs. -/
structure Config where
  data : DataFiles
  stream : StreamSettings
  worker : WorkerSettings
  matcher : MatcherConfig Float
  routing : Option RoutingConfig

/-- Why there is no configuration. -/
inductive ConfigError where
  | cannotRead (path : String)
  | invalid
  | zeroBatch
  | zeroInstances
deriving DecidableEq, Repr

def ConfigError.message : ConfigError → String
  | .cannotRead path => "Failed to read config file " ++ path
  | .invalid => "Failed to parse config file"
  | .zeroBatch => "worker.max_batch must be positive"
  | .zeroInstances => "worker.instances must be positive"

namespace AckPolicy

def name : AckPolicy → String
  | .atLeastOnce => "at_least_once"
  | .strict => "strict"

def ofName? (s : String) : Option AckPolicy := [atLeastOnce, strict].find? fun p => p.name == s

end AckPolicy

namespace Config

def dataFiles (value : Toml) : Option DataFiles := do
  let entries ← record? ["boundaries", "stops", "lines"] value
  return ⟨← required entries "boundaries" asText, ← required entries "stops" asText,
    ← required entries "lines" asText⟩

def streamSettings (value : Toml) : Option StreamSettings := do
  let d : StreamSettings := {}
  let entries ← record? ["inbound", "outbound", "group", "consumer", "claim_idle_ms"] value
  return {
    inbound := ← defaulted entries "inbound" asText d.inbound
    outbound := ← defaulted entries "outbound" asText d.outbound
    group := ← defaulted entries "group" asText d.group
    consumer := ← field? entries "consumer" asText
    claimIdle := ← defaulted entries "claim_idle_ms" asNat d.claimIdle }

def workerSettings (value : Toml) : Option WorkerSettings := do
  let d : WorkerSettings := {}
  let entries ← record? ["instances", "max_batch", "idle_sleep_ms", "error_backoff_ms",
    "max_backoff_ms", "ack_policy"] value
  return {
    instances := ← defaulted entries "instances" asNat d.instances
    maxBatch := ← defaulted entries "max_batch" asNat d.maxBatch
    pacing := {
      idleSleep := ← defaulted entries "idle_sleep_ms" asNat d.pacing.idleSleep
      errorBackoff := ← defaulted entries "error_backoff_ms" asNat d.pacing.errorBackoff
      maxBackoff := ← defaulted entries "max_backoff_ms" asNat d.pacing.maxBackoff }
    ackPolicy := ← defaulted entries "ack_policy" (asName AckPolicy.ofName?) d.ackPolicy }

def matcherConfig (value : Toml) : Option (MatcherConfig Float) := do
  let d : MatcherConfig Float := .standard
  let entries ← record? ["default_radius_m", "default_limit", "max_limit", "line_proximity_m",
    "include_fallback_modes"] value
  return {
    defaultRadius := ← defaulted entries "default_radius_m" asFloat d.defaultRadius
    defaultLimit := ← defaulted entries "default_limit" asNat d.defaultLimit
    maxLimit := ← defaulted entries "max_limit" asNat d.maxLimit
    lineProximity := ← defaulted entries "line_proximity_m" asFloat d.lineProximity
    includeFallback := ← defaulted entries "include_fallback_modes" asTruth d.includeFallback }

def routingConfig (value : Toml) : Option RoutingConfig := do
  let d := RoutingConfig.standard
  let entries ← record? ["base_url", "profile", "timeout_secs"] value
  return {
    baseUrl := ← defaulted entries "base_url" asText d.baseUrl
    profile := ← defaulted entries "profile" asText d.profile
    timeout := ← defaulted entries "timeout_secs" asNat d.timeout }

def ofToml (value : Toml) : Option Config := do
  let entries ← record? [] value
  return {
    data := ← required entries "data" dataFiles
    stream := ← defaulted entries "stream" streamSettings {}
    worker := ← defaulted entries "worker" workerSettings {}
    matcher := ← defaulted entries "matcher" matcherConfig .standard
    routing := ← field? entries "routing" routingConfig }

def ofText (text : String) : Except ConfigError Config :=
  match (Toml.parse? text).bind ofToml with
  | none => .error .invalid
  | some config =>
    if config.worker.maxBatch = 0 then .error .zeroBatch
    else if config.worker.instances = 0 then .error .zeroInstances
    else .ok config

/-- The settings of a file, whose contents are missing where there is no such file. -/
def ofFile (path : String) (contents : Option (List UInt8)) : Except ConfigError Config :=
  match contents.bind fun bytes => String.fromUTF8? ⟨bytes.toArray⟩ with
  | none => .error (.cannotRead path)
  | some text => ofText text

/-- The consumer name of a worker: the configured one, with the number of the worker where there are
several. -/
def consumer? (config : Config) (worker : Nat) : Option String :=
  config.stream.consumer.map fun name =>
    if 1 < config.worker.instances then name ++ "-" ++ toString worker else name

/-- The settings of a worker; `fallback` names the consumer where no name is configured. -/
def workerConfig (config : Config) (worker : Nat) (fallback : String) : WorkerConfig where
  inbound := config.stream.inbound
  outbound := config.stream.outbound
  group := config.stream.group
  consumer := (config.consumer? worker).getD fallback
  maxBatch := config.worker.maxBatch
  pacing := config.worker.pacing
  ackPolicy := config.worker.ackPolicy

end Config

end Whereabouts
