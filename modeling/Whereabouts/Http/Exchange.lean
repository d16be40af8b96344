import Whereabouts.Http.Message
import Whereabouts.Json.Decode

/-!
# Requests and responses as records

The JSON form of the messages of the service, for programs that exchange them line by line. A
request has a method and a target, and may have a body and the type of the body.
-/

namespace Whereabouts.Http

open Json (Source Decoder Fault)

namespace Request

def fields : List Source.Field :=
  [.of "method" Source.text, .of "target" Source.text, .of "type" (Source.optional Source.text),
    .of "body" (Source.optional Source.text)]

def decode : Decoder Request := fun source => do
  let written ← source.record fields 2
  let mediaType ← Source.optionalField Source.text "type" written
  let body ← Source.optionalField Source.text "body" written
  return {
    method := ← Source.required Source.text "method" written
    target := ← Source.required Source.text "target" written
    headers := (mediaType.map fun t => ("content-type", t)).toList
    body := body.getD "" }

def ofLine? (line : String) : Option Request := ((Json.read line).decode decode).toOption

end Request

/-- The JSON form of a response; a header that it does not have is left out. -/
def Response.toJson (r : Response) : Json :=
  .object ([("status", .ofNat r.status)]
    ++ (r.mediaType.map fun t => ("type", .string t)).toList
    ++ (r.allow.map fun methods => ("allow", .string methods)).toList
    ++ [("body", match r.body with
        | .json value => value
        | _ => .string r.bodyText)])

end Whereabouts.Http
