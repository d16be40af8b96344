import Whereabouts.Json.Printer
import Whereabouts.Text.Basic

/-!
# Requests and responses

The messages of the service. A request that cannot be understood is refused before it reaches an
endpoint.
-/

namespace Whereabouts.Http

/-- A request. -/
structure Request where
  method : String
  target : String
  headers : List (String × String)
  body : String

/-- Why a request was not understood. -/
inductive Refusal where
  | query
  | mediaType
  | bodySyntax
  | bodyShape
deriving DecidableEq, Repr

namespace Refusal

def status : Refusal → Nat
  | .query | .bodySyntax => 400
  | .mediaType => 415
  | .bodyShape => 422

def message : Refusal → String
  | .query => "the query string is not understood"
  | .mediaType => "the body has to be of type application/json"
  | .bodySyntax => "the body is not JSON"
  | .bodyShape => "the body is not of the expected form"

end Refusal

/-- What an endpoint answers. -/
inductive Reply where
  | json (value : Json)
  | text (status : Nat) (message : String)
  | refused (reason : Refusal)

/-- The body of a response. -/
inductive Body where
  | json (value : Json)
  | text (s : String)
  /-- The text of a refusal. -/
  | refusal (reason : Refusal)

/-- A response. -/
structure Response where
  status : Nat
  mediaType : Option String
  /-- The methods that the path answers to, where the method of the request is none of them. -/
  allow : Option String
  body : Body

namespace Response

def jsonType : String := "application/json"

def textType : String := "text/plain; charset=utf-8"

def bare (status : Nat) (allow : Option String) : Response := ⟨status, none, allow, .text ""⟩

def ofReply : Reply → Response
  | .json value => ⟨200, some jsonType, none, .json value⟩
  | .text status message => ⟨status, some textType, none, .text message⟩
  | .refused reason => ⟨reason.status, some textType, none, .refusal reason⟩

def withoutBody (r : Response) : Response := { r with body := .text "" }

def bodyText (r : Response) : String :=
  match r.body with
  | .json value => value.print
  | .text s => s
  | .refusal reason => reason.message

end Response

namespace Request

def header? (r : Request) (name : String) : Option String :=
  (r.headers.find? fun h => Text.asciiLower h.1 == name).map (·.2)

/-- Whether a type is JSON: `application/json`, or one with the suffix `+json`. -/
def isJsonType (mediaType : String) : Bool :=
  let essence := Text.trim (Text.asciiLower (String.ofList (mediaType.toList.takeWhile (· != ';'))))
  match Text.pieces (· == '/') essence.toList with
  | [kind, subtype] =>
    let parts := Text.pieces (· == '+') subtype
    let name := if parts.length ≤ 1 then subtype
      else List.intercalate ['+'] parts.dropLast
    String.ofList kind == "application"
      && (String.ofList name == "json"
        || (1 < parts.length && parts.getLast?.any fun suffix => String.ofList suffix == "json"))
  | _ => false

def hasJson (r : Request) : Bool := (r.header? "content-type").any isJsonType

end Request

end Whereabouts.Http
