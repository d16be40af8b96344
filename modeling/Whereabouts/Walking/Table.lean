import Whereabouts.Decimal.Fixed
import Whereabouts.Json.Decode
import Whereabouts.Url.Reading
import Whereabouts.Walking.Matrix

/-!
# Table services

A service on the web that answers a request for a matrix with two tables, one of distances and one
of durations. The points of a request stand in its path, the origins first; the query says which of
them are origins and which are destinations.
-/

namespace Whereabouts

open Json (Source Decoder)

/-- Where a table service is found. -/
structure RoutingConfig where
  baseUrl : String
  /-- The kind of traveller the service computes for. -/
  profile : String
  /-- How many seconds to wait for an answer. -/
  timeout : Nat
deriving DecidableEq, Repr

namespace RoutingConfig

def standard : RoutingConfig := ⟨"http://localhost:5000/", "foot", 10⟩

end RoutingConfig

/-- The answer to a request on the web. -/
structure WebResponse where
  status : Nat
  body : String
deriving Repr

/-- What a service answers. -/
structure TableAnswer where
  code : String
  message : Option String
  distances : Option (List (List (Option Float)))
  durations : Option (List (List (Option Float)))

namespace TableAnswer

def table : Decoder (List (List (Option Float))) :=
  Source.list (Source.list (Source.optional Source.float))

def fields : List Source.Field :=
  [.of "code" Source.text, .of "message" (Source.optional Source.text),
    .of "distances" (Source.optional table), .of "durations" (Source.optional table)]

def decode : Decoder TableAnswer := fun source => do
  let written ← source.record fields 1
  return {
    code := ← Source.required Source.text "code" written
    message := ← Source.optionalField Source.text "message" written
    distances := ← Source.optionalField table "distances" written
    durations := ← Source.optionalField table "durations" written }

/-- A leg, where both its distance and its duration are known. -/
def leg? (distance duration : Option Float) : Option (Leg Float) := do
  return ⟨← distance, ← duration⟩

def row (columns : Nat) (distances durations : List (Option Float)) :
    Except BadResponse (List (Option (Leg Float))) :=
  if distances.length ≠ columns ∨ durations.length ≠ columns then .error (.tableColumns columns)
  else .ok (distances.zipWith leg? durations)

/-- The matrix of an answer that should have the given shape. -/
def matrix (answer : TableAnswer) (rows columns : Nat) : Except BadResponse (Matrix Float) := do
  if answer.code ≠ "Ok" then throw (.refused answer.code (answer.message.getD ""))
  let some distances := answer.distances | throw .missingDistances
  let some durations := answer.durations | throw .missingDurations
  if distances.length ≠ rows ∨ durations.length ≠ rows then throw (.tableRows rows)
  (distances.zip durations).mapM fun (ds, us) => row columns ds us

end TableAnswer

/-- A table service that can be asked. -/
structure TableService where
  base : Url
  profile : String

/-- Why a table service cannot be asked at all. -/
inductive ServiceError where
  | invalidBase (url : String)
deriving DecidableEq, Repr

def ServiceError.message : ServiceError → String
  | .invalidBase url => "invalid routing base_url " ++ url

namespace TableService

def ofConfig (config : RoutingConfig) : Except ServiceError TableService :=
  match Url.ofText? config.baseUrl with
  | some base => .ok ⟨base, config.profile⟩
  | none => .error (.invalidBase config.baseUrl)

/-- The coordinates of a point as they stand in a request. -/
def coordinates (p : Point Float) : String := Decimal.fixed 6 p.lon ++ "," ++ Decimal.fixed 6 p.lat

/-- The numbers from `start` on, as many as asked for. -/
def numbers (start count : Nat) : String :=
  ";".intercalate ((List.range' start count).map toString)

def query (origins destinations : Nat) : String :=
  "sources=" ++ numbers 0 origins ++ "&destinations=" ++ numbers origins destinations
    ++ "&annotations=distance,duration"

def request (service : TableService) (origins destinations : List (Point Float)) :
    Except RoutingError Url :=
  let names :=
    ["table", "v1", service.profile, ";".intercalate ((origins ++ destinations).map coordinates)]
  match service.base.below? names (query origins.length destinations.length) with
  | some url => .ok url
  | none => .error (.noBase service.base.text)

def read (response : Option WebResponse) (rows columns : Nat) :
    Except RoutingError (Matrix Float) :=
  match response with
  | none => .error .transport
  | some response =>
    if 400 ≤ response.status ∧ response.status < 600 then .error .transport
    else
      match (Json.read response.body).decode TableAnswer.decode with
      | .error _ => .error .transport
      | .ok answer => (answer.matrix rows columns).mapError .badResponse

/-- Fails where a single request cannot ask for the matrix. -/
def checkSize (origins destinations : Nat) : Except RoutingError Unit :=
  if origins = 0 ∨ destinations = 0 then .error .emptySide
  else if maxMatrixPoints < origins + destinations then
    .error (.tooManyPoints (origins + destinations) maxMatrixPoints)
  else .ok ()

/-- The router that asks the service. Getting an address gives nothing where no response came. -/
def router {m : Type → Type} [Monad m] (service : TableService)
    (get : Url → m (Option WebResponse)) : Router m Float where
  matrix origins destinations := do
    ExceptT.mk (pure (checkSize origins.length destinations.length))
    let url ← ExceptT.mk (pure (service.request origins destinations))
    let response ← ExceptT.lift (get url)
    ExceptT.mk (pure (read response origins.length destinations.length))

end TableService

end Whereabouts
