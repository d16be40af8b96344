import Whereabouts.Http.Message
import Whereabouts.Http.Query
import Whereabouts.Pipeline
import Whereabouts.Record.Outbound

/-!
# The service

The endpoints of a pipeline on the web: its state, the enrichment of batches, the hierarchy around a
point and the stops near a point. `Endpoint.reply` answers a request that was taken apart, and
`respond` takes a request apart.
-/

namespace Whereabouts

open Json (Source Decoder Fault)
open Http (Reply Refusal Request Response)

/-- The endpoints. -/
inductive Endpoint where
  | health
  | enrich
  | reverse
  | nearest
deriving DecidableEq, Repr

namespace Endpoint

def all : List Endpoint := [.health, .enrich, .reverse, .nearest]

def path : Endpoint → String
  | .health => "/health"
  | .enrich => "/v1/enrich"
  | .reverse => "/v1/reverse"
  | .nearest => "/v1/transit/nearest"

def ofPath? (path : String) : Option Endpoint := all.find? fun e => e.path == path

def methods : Endpoint → List String
  | .enrich => ["POST"]
  | _ => ["GET", "HEAD"]

def allow (e : Endpoint) : String := ",".intercalate e.methods

end Endpoint

namespace Service

variable {m : Type → Type} [Monad m]

def health (p : Pipeline m) : Json :=
  .object [("status", .string "ok"), ("boundaries", .ofNat p.data.boundaries.size),
    ("stops", .ofNat p.data.stops.size), ("lines", .ofNat p.data.lines.size)]

def batch : Decoder (List (Input Float)) := fun source => do
  let items := Input.decodeList 1
  let written ← source.record [.of "items" items] 1
  Source.required items "items" written

def enrich (p : Pipeline m) (body : String) : m Reply := do
  match (Json.read body).decode batch with
  | .error .malformed => return .refused .bodySyntax
  | .error .mismatch => return .refused .bodyShape
  | .ok inputs =>
    match ← (p.enricher.enrich inputs).run with
    | .ok result => return .json result.toJson
    | .error e => return .text 503 e.message

def point? (fields : List (String × String)) : Option (Point Float) := do
  return ⟨← Http.required Decimal.float? "point.lat" fields,
    ← Http.required Decimal.float? "point.lon" fields⟩

/-- The reply for a point, which has to be valid. -/
def atPoint (p : Point Float) (reply : m Reply) : m Reply :=
  if p.isValid then reply else return .text 400 (ItemError.invalidCoordinates p).message

/-- The hierarchy around the point of a query, with names in its language. -/
def reverse (p : Pipeline m) (query : String) : m Reply := do
  let fields := Http.fields query
  match point? fields, Http.optional some "lang" fields with
  | some point, some lang => atPoint point do
    match ← (p.enricher.gateway.resolve point).run with
    | .ok (some location) => return .json (location.localize lang).toJson
    | .ok none => return .text 404 "no boundary contains this point"
    | .error e => return .text 503 e.message
  | _, _ => return .refused .query

def nearest (p : Pipeline m) (query : String) : m Reply := do
  let fields := Http.fields query
  let config := p.enricher.matcher
  match point? fields, Http.optional Decimal.float? "radius" fields,
      Http.optional (Decimal.natural? (Nat.pow 2 64)) "limit" fields with
  | some point, some radius, some limit => atPoint point do
    match ← (p.enricher.gateway.nearest config point (radius.getD config.defaultRadius)
        (limit.getD config.defaultLimit)).run with
    | .ok stops => return .json (.object [("stops", .array (stops.map NearestStop.toJson))])
    | .error e => return .text 503 e.message
  | _, _, _ => return .refused .query

def reply (p : Pipeline m) (endpoint : Endpoint) (query body : String) : m Reply :=
  match endpoint with
  | .health => return .json (health p)
  | .enrich => enrich p body
  | .reverse => reverse p query
  | .nearest => nearest p query

def dispatch (p : Pipeline m) (endpoint : Endpoint) (query : String) (r : Request) :
    m Response := do
  if r.method == "OPTIONS" then return .bare 200 (some endpoint.allow)
  if !endpoint.methods.contains r.method then return .bare 405 (some endpoint.allow)
  if endpoint == .enrich && !r.hasJson then return .ofReply (.refused .mediaType)
  let response := Response.ofReply (← reply p endpoint query r.body)
  return if r.method == "HEAD" then response.withoutBody else response

def respond (p : Pipeline m) (r : Request) : m Response :=
  match Http.Target.ofText? r.target with
  | none => return .bare 400 none
  | some target =>
    match Endpoint.ofPath? target.path with
    | some endpoint => dispatch p endpoint target.query r
    | none => return .bare (if r.method == "OPTIONS" then 200 else 404) none

end Service

end Whereabouts
