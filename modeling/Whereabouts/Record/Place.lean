import Whereabouts.Admin.Hierarchy
import Whereabouts.Json.Decode
import Whereabouts.Record.Event

/-!
# Hierarchies as records

The JSON form of names, boundaries and hierarchies. Levels without a boundary are left out.
-/

namespace Whereabouts

open Json (Source Decoder Fault)

namespace Names

def toJson (names : Names) : Json := .object (names.entries.map fun e => (e.1, .string e.2))

def decode : Decoder Names := fun source =>
  (Source.dictionary Source.text source).map ofList

end Names

namespace BoundaryInfo

def fields : List Source.Field :=
  [.of "id" Source.int, .of "name" Source.text, .of "names" Names.decode]

def decode : Decoder BoundaryInfo := fun source => do
  let written ← source.record fields 2
  return {
    id := ← Source.required Source.int "id" written
    name := ← Source.required Source.text "name" written
    names := ← Source.defaulted Names.decode Names.empty "names" written }

def toJson (info : BoundaryInfo) : Json :=
  .object ([("id", .ofInt info.id), ("name", .string info.name)]
    ++ Event.member? "names" (if info.names.isEmpty then none else some info.names.toJson))

end BoundaryInfo

namespace Hierarchy

def fields : List Source.Field :=
  Level.all.map (fun level => .of level.name (Source.optional BoundaryInfo.decode))
    ++ [.of "address_visible" Source.truth]

def decode : Decoder Hierarchy := fun source => do
  let written ← source.record fields 8
  let level (l : Level) : Except Fault (Option BoundaryInfo) :=
    Source.optionalField BoundaryInfo.decode l.name written
  return {
    country := ← level .country
    region := ← level .region
    province := ← level .province
    subprovince := ← level .subprovince
    city := ← level .city
    district := ← level .district
    subdistrict := ← level .subdistrict
    neighborhood := ← level .neighborhood
    addressVisible := ← Source.defaulted Source.truth false "address_visible" written }

def toJson (h : Hierarchy) : Json :=
  .object ((Level.all.flatMap fun level =>
      Event.member? level.name ((h.get? level).map BoundaryInfo.toJson))
    ++ [("address_visible", .bool h.addressVisible)])

end Hierarchy

end Whereabouts
