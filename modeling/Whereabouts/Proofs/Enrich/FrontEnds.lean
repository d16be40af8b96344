import Whereabouts.Proofs.Enrich.Each
import Whereabouts.Stream.Worker
import Whereabouts.Service

/-!
# The front ends agree

A point may be asked for by itself, or be one of a batch that is enriched. Over map data and without
a router both ways give the same: the hierarchy, and the stops in their order.

* `Gateway.resolve_eq`, `Gateway.nearest_eq`: a point that is asked for by itself.
* `Service.respond_reverse`, `Service.respond_nearest`: the responses for a valid point.
* `Service.status_of_invalid`: the responses for a point that is not valid.
* `Service.front_ends_agree`: the main statement.
-/

namespace Whereabouts

open Http (Request Response Reply)

/-- Where an event lies that has both coordinates. -/
lemma Event.locate_eq {α : Type} [Scalar α] {event : Event α} {point : Point α}
    (at_point : event.point? = some point) :
    event.locate = if point.isValid then .ok point else .error (.invalidCoordinates point) := by
  unfold locate
  rw [at_point]

/-- A request for what an endpoint says of a point; some fields are not among those of its query. -/
structure Http.Request.Asks (r : Request) (endpoint : Endpoint) (point : Point Float)
    (absent : List String) : Prop where
  method : r.method = "GET"
  target : ∃ query, Http.Target.ofText? r.target = some ⟨endpoint.path, query⟩ ∧
    Service.point? (Http.fields query) = some point ∧
    ∀ name ∈ absent, ∀ field ∈ Http.fields query, field.1 ≠ name

/-- A request to enrich a batch. -/
structure Http.Request.Posts (r : Request) (inputs : List (Input Float)) : Prop where
  method : r.method = "POST"
  target : ∃ query, Http.Target.ofText? r.target = some ⟨Endpoint.enrich.path, query⟩
  hasJson : r.hasJson = true
  body : (Json.read r.body).decode Service.batch = .ok inputs

/-- An item as it is written for others. -/
structure Item.Shows (item : Item Float) (value : Json) : Prop where
  location : value.get? "location" = item.location.map Hierarchy.toJson
  nearestStops : value.get? "nearest_stops" =
    item.nearestStops.map fun stops => .array (stops.map NearestStop.toJson)
  error : value.get? "error" = item.error.map fun e => .string e.message

namespace Item

/-- An item is shown in the response to a batch. -/
lemma shows_toJson (item : Item Float) : item.Shows item.toJson := by
  obtain ⟨index, propertyId, location, stops, error⟩ := item
  cases location <;> cases stops <;> cases error <;> exact ⟨rfl, rfl, rfl⟩

/-- An item is shown in the record that is published for it. -/
lemma shows_toRecord (item : Item Float) (enrichedAt : String) :
    item.Shows (item.toRecord enrichedAt) := by
  obtain ⟨index, propertyId, location, stops, error⟩ := item
  cases location <;> cases stops <;> cases error <;> exact ⟨rfl, rfl, rfl⟩

end Item

namespace Gateway

variable {α : Type} [Scalar α] [Measured α] (data : MapData α)

/-- The hierarchy around a point that is asked for by itself. -/
lemma resolve_eq (point : Point α) : (data.gateway Id).resolve point =
    pure (Hierarchy.ofBoundaries (data.boundariesOf point)) := by
  unfold resolve containing
  rw [data.each_boundaries, pure_bind]
  rfl

/-- The stops near a point that is asked for by itself. -/
lemma nearest_eq (config : MatcherConfig α) (point : Point α) (radius : α) (limit : Nat) :
    (data.gateway Id).nearest config point radius limit =
      pure (reportsOf data config radius limit point) := by
  have alone := each_nearestAll data config radius limit [point]
  dsimp only at alone
  unfold nearest
  rw [alone]
  rfl

end Gateway

/-- The hierarchy around a point has no address to show. -/
lemma Hierarchy.addressVisible_ofBoundaries {α : Type} [Scalar α] [Measured α]
    {found : List (Boundary α)} {h : Hierarchy} (e : ofBoundaries found = some h) :
    h.addressVisible = false := by
  have kept : ∀ (levels : List Level) (h : Hierarchy),
      (levels.foldl (setChosen found) h).addressVisible = h.addressVisible := by
    intro levels
    induction levels with
    | nil => exact fun _ => rfl
    | cons level levels ih =>
      intro h
      rw [List.foldl_cons, ih, setChosen]
      split
      · exact addressVisible_set ..
      · rfl
  unfold ofBoundaries at e
  split at e
  · cases e
  · cases e
    exact kept Level.all empty

/-- Without a router a pipeline answers from its map data. -/
lemma Pipeline.ofData_of_none {m : Type → Type} [Monad m] {config : Config}
    (plain : config.routing = none) (data : MapData Float)
    (get : Url → m (Option WebResponse)) :
    Pipeline.ofData config data get = .ok ⟨data, data.gateway m, config.matcher, none⟩ := by
  unfold ofData
  rw [plain]
  rfl

namespace Service

variable {p : Pipeline Id} {r : Request} {endpoint : Endpoint} {point : Point Float}

/-- A field that is absent is none. -/
lemma optional_of_absent {β : Type} {read : String → Option β} {name : String}
    {fields : List (String × String)} (absent : ∀ field ∈ fields, field.1 ≠ name) :
    Http.optional read name fields = some none := by
  have none : fields.filter (·.1 == name) = [] :=
    List.filter_eq_nil_iff.2 fun field h e => absent field h (beq_iff_eq.1 e)
  unfold Http.optional
  rw [none]

/-- A valid point is replied about. -/
lemma atPoint_of_valid (valid : point.isValid = true) (reply : Id Reply) :
    atPoint point reply = reply := if_pos valid

/-- A point that is not valid is refused. -/
lemma atPoint_of_invalid (invalid : point.isValid = false) (reply : Id Reply) :
    atPoint point reply = .text 400 (ItemError.invalidCoordinates point).message :=
  if_neg (Bool.eq_false_iff.1 invalid)

/-- An endpoint is known by its path. -/
lemma ofPath?_path (endpoint : Endpoint) : Endpoint.ofPath? endpoint.path = some endpoint := by
  cases endpoint <;> rfl

/-- A request reaches the endpoint of its path. -/
lemma respond_eq {query : String}
    (target : Http.Target.ofText? r.target = some ⟨endpoint.path, query⟩) (p : Pipeline Id) :
    respond p r = dispatch p endpoint query r := by
  unfold respond
  rw [target]
  dsimp only
  rw [ofPath?_path]

/-- A request for what is said of a point is answered with the reply of its endpoint. -/
lemma respond_get {absent : List String} (asks : r.Asks endpoint point absent)
    (ne : endpoint ≠ .enrich) : ∃ query, point? (Http.fields query) = some point ∧
      (∀ name ∈ absent, ∀ field ∈ Http.fields query, field.1 ≠ name) ∧
      respond p r = Response.ofReply (reply p endpoint query r.body) := by
  obtain ⟨query, target, at_point, absent⟩ := asks.target
  refine ⟨query, at_point, absent, ?_⟩
  rw [respond_eq target]
  unfold dispatch
  rw [asks.method]
  cases endpoint with
  | health => rfl
  | enrich => exact absurd rfl ne
  | reverse => rfl
  | nearest => rfl

/-- A batch that is posted is answered with its results. -/
lemma respond_posts {inputs : List (Input Float)} {result : BatchResult Float}
    (posts : r.Posts inputs) (enriched : (p.enricher.enrich inputs).run = .ok result) :
    respond p r = Response.ofReply (.json result.toJson) := by
  obtain ⟨query, target⟩ := posts.target
  rw [respond_eq target]
  unfold dispatch reply enrich
  rw [posts.method, posts.hasJson, posts.body]
  dsimp only
  rw [enriched]
  rfl

/-- The response for a valid point without a language. -/
lemma respond_reverse {data : MapData Float} (he : p.enricher.gateway = data.gateway Id)
    (valid : point.isValid = true) (asks : r.Asks .reverse point ["lang"]) :
    respond p r = Response.ofReply (match Hierarchy.ofBoundaries (data.boundariesOf point) with
      | some location => .json location.toJson
      | none => .text 404 "no boundary contains this point") := by
  obtain ⟨query, at_point, absent, e⟩ := respond_get (p := p) asks nofun
  have plain : Http.optional some "lang" (Http.fields query) = some none :=
    optional_of_absent (absent "lang" List.mem_cons_self)
  rw [e]
  unfold reply reverse
  dsimp only
  rw [at_point, plain]
  dsimp only
  rw [atPoint_of_valid valid, he, Gateway.resolve_eq]
  cases Hierarchy.ofBoundaries (data.boundariesOf point) <;> rfl

/-- The response for a valid point without a radius and a limit. -/
lemma respond_nearest {data : MapData Float} (he : p.enricher.gateway = data.gateway Id)
    (valid : point.isValid = true) (asks : r.Asks .nearest point ["radius", "limit"]) :
    respond p r = Response.ofReply (.json (.object [("stops", .array
      ((Gateway.reportsOf data p.enricher.matcher p.enricher.matcher.defaultRadius
        p.enricher.matcher.defaultLimit point).map NearestStop.toJson))])) := by
  obtain ⟨query, at_point, absent, e⟩ := respond_get (p := p) asks nofun
  have noRadius : Http.optional Decimal.float? "radius" (Http.fields query) = some none :=
    optional_of_absent (absent "radius" List.mem_cons_self)
  have noLimit : Http.optional (Decimal.natural? (Nat.pow 2 64)) "limit" (Http.fields query) =
      some none :=
    optional_of_absent (absent "limit" (List.mem_cons_of_mem _ List.mem_cons_self))
  rw [e]
  unfold reply nearest
  dsimp only
  rw [at_point, noRadius, noLimit]
  dsimp only
  rw [atPoint_of_valid valid, he, Option.getD_none, Option.getD_none, Gateway.nearest_eq]
  rfl

/-- A point that is not valid is refused, whatever else is in the query. -/
lemma status_of_invalid (invalid : point.isValid = false) (asks : r.Asks endpoint point [])
    (e : endpoint = .reverse ∨ endpoint = .nearest) : (respond p r).status = 400 := by
  obtain rfl | rfl := e
  · obtain ⟨query, at_point, -, e⟩ := respond_get (p := p) asks nofun
    rw [e]
    unfold reply reverse
    dsimp only
    rw [at_point]
    cases Http.optional some "lang" (Http.fields query) with
    | none => rfl
    | some lang =>
      dsimp only
      rw [atPoint_of_invalid invalid]
      rfl
  · obtain ⟨query, at_point, -, e⟩ := respond_get (p := p) asks nofun
    rw [e]
    unfold reply nearest
    dsimp only
    rw [at_point]
    cases Http.optional Decimal.float? "radius" (Http.fields query) with
    | none => rfl
    | some radius =>
      cases Http.optional (Decimal.natural? (Nat.pow 2 64)) "limit" (Http.fields query) with
      | none => rfl
      | some limit =>
        dsimp only
        rw [atPoint_of_invalid invalid]
        rfl

/-- What is said of a point by itself agrees with the item of an event there. -/
structure Agrees (p : Pipeline Id) (point : Point Float) (item : Item Float) : Prop where
  error : item.error = if point.isValid then none else some (.invalidCoordinates point)
  missing : point.isValid = true → ∀ r : Request, r.Asks .reverse point ["lang"] →
    ((respond p r).status = 404 ↔ item.location = none)
  /-- By itself a point has no address to show. -/
  hierarchy : point.isValid = true → ∀ r : Request, r.Asks .reverse point ["lang"] →
    ∀ location, item.location = some location → respond p r =
      .ofReply (.json (Hierarchy.toJson { location with addressVisible := false }))
  stops : point.isValid = true → ∀ r : Request, r.Asks .nearest point ["radius", "limit"] →
    ∃ stops, item.nearestStops = some stops ∧ respond p r =
      .ofReply (.json (.object [("stops", .array (stops.map NearestStop.toJson))]))
  refused : point.isValid = false → ∀ (r : Request) endpoint,
    endpoint = .reverse ∨ endpoint = .nearest → r.Asks endpoint point [] →
      (respond p r).status = 400

section Item

variable {data : MapData Float} {input : Input Float}

/-- What is said of a point that is not valid agrees with the item of an event there. -/
lemma agrees_failed (invalid : point.isValid = false) :
    Agrees p point (.failed input (.invalidCoordinates point)) where
  error := by
    rw [invalid]
    rfl
  missing valid := absurd valid (Bool.eq_false_iff.1 invalid)
  hierarchy valid := absurd valid (Bool.eq_false_iff.1 invalid)
  stops valid := absurd valid (Bool.eq_false_iff.1 invalid)
  refused _ _ _ e asks := status_of_invalid invalid asks e

/-- What is said of a valid point agrees with the item of an event there. -/
lemma agrees_found (he : p.enricher.gateway = data.gateway Id) (valid : point.isValid = true) :
    Agrees p point (.found input (Hierarchy.ofBoundaries (data.boundariesOf point))
      (Gateway.reportsOf data p.enricher.matcher p.enricher.matcher.defaultRadius
        p.enricher.matcher.defaultLimit point)) where
  error := by
    rw [if_pos valid]
    rfl
  missing := by
    intro _ r asks
    rw [respond_reverse he valid asks]
    cases Hierarchy.ofBoundaries (data.boundariesOf point) with
    | none => exact ⟨fun _ => rfl, fun _ => rfl⟩
    | some h => exact ⟨nofun, nofun⟩
  hierarchy := by
    intro _ r asks location found
    rw [respond_reverse he valid asks]
    obtain ⟨h, e, rfl⟩ := Option.map_eq_some_iff.1 found
    have hidden := Hierarchy.addressVisible_ofBoundaries e
    rw [e]
    dsimp only
    rw [← hidden]
  stops := by
    intro _ r asks
    exact ⟨_, rfl, respond_nearest he valid asks⟩
  refused invalid := absurd valid (Bool.eq_false_iff.1 invalid)

/-- What is said of a point agrees with the item of an event there. -/
lemma agrees_itemOf (he : p.enricher.gateway = data.gateway Id) (hr : p.enricher.router = none)
    (at_point : input.event.point? = some point) :
    Agrees p point (p.enricher.itemOf data input) := by
  unfold Enricher.itemOf Enricher.foundOf
  rw [Event.locate_eq at_point, hr]
  cases valid : point.isValid with
  | false => exact agrees_failed valid
  | true => exact agrees_found he valid

end Item

/-- **The front ends agree.** Let a pipeline without a router have any map data and any settings of
the matcher, and let an event of a batch lie at a point. The item of the event is the same in the
response to a batch and in the record that a worker publishes, and it agrees with what is said of
the point by itself. For a valid point, `/v1/reverse` answers 404 where the item has no location,
and else with the same hierarchy, in which it shows no address; `/v1/transit/nearest` answers with
the nearest stops of the item. For a point that is not valid both answer 400, and the item says so.
Both ends search with the same limit, and are taken to have room for the stops it asks for. -/
theorem front_ends_agree {config : Config} (plain : config.routing = none) (data : MapData Float)
    (get : Url → Id (Option WebResponse)) : ∃ p, Pipeline.ofData config data get = .ok p ∧
    ∀ (inputs : List (Input Float)) (k : Nat) input point, inputs[k]? = some input →
      input.event.point? = some point → ∃ result item,
        (p.enricher.enrich inputs).run = .ok result ∧ result.items[k]? = some item ∧
        Agrees p point item ∧ item.Shows item.toJson ∧
        (∀ r : Request, r.Posts inputs → respond p r = .ofReply (.json result.toJson)) ∧
        ∀ time, ∃ record, Codec.json.record item time = record.print ∧ item.Shows record := by
  refine ⟨_, Pipeline.ofData_of_none plain data get, ?_⟩
  intro inputs k input point there at_point
  let e : Enricher Id Float := ⟨data.gateway Id, config.matcher, none⟩
  have enriched : (e.enrich inputs).run = .ok (.ofItems (inputs.map (e.itemOf data))) :=
    congrArg ExceptT.run (Enricher.each_enrich rfl inputs)
  have item : (inputs.map (e.itemOf data))[k]? = some (e.itemOf data input) := by
    rw [List.getElem?_map, there]
    rfl
  exact ⟨_, _, enriched, item, agrees_itemOf rfl rfl at_point, Item.shows_toJson _,
    fun r posts => respond_posts posts enriched, fun time => ⟨_, rfl, Item.shows_toRecord _ time⟩⟩

section Sample

/-- A configuration without a router. -/
def plainConfig : Config where
  data := ⟨"", "", ""⟩
  stream := {}
  worker := {}
  matcher := .standard
  routing := none

/-- The query for a place. -/
def placeFields : String := "point.lat=41.5&point.lon=2.5"

/-- A request for what an endpoint says of a place. -/
def askPlace (endpoint : Endpoint) : Request where
  method := "GET"
  target := endpoint.path ++ "?" ++ placeFields
  headers := []
  body := ""

/-- A batch of two events, the second of which lies at the place. -/
def postHomes : Request where
  method := "POST"
  target := "/v1/enrich"
  headers := [("content-type", "application/json")]
  body := "\x7b\"items\":[\x7b\"index\":0,\"property_id\":\"home\",\"country\":\"ES\"\x7d," ++
    "\x7b\"index\":1,\"property_id\":\"home\",\"country\":\"ES\"," ++
    "\"lat\":41.5,\"lon\":2.5\x7d]\x7d"

/-- A town of one square degree. -/
def squareTown : Boundary Float where
  id := 1
  level := .city
  names := .ofList [("default", "Town")]
  population := none
  declaredSize := some 1.0
  area := [⟨[⟨41.0, 2.0⟩, ⟨41.0, 3.0⟩, ⟨42.0, 3.0⟩, ⟨42.0, 2.0⟩, ⟨41.0, 2.0⟩], []⟩]

/-- The town with a stop in its middle. -/
def townMap : MapData Float :=
  .ofFeatures [squareTown] [.ofNames "node/1" (.ofList [("default", "Town")]) .metro ⟨41.5, 2.5⟩] []

/-- A place in the town that is asked for agrees with the second of two events that are posted. -/
theorem place_agrees : ∃ (p : Pipeline Id) (inputs : List (Input Float))
    (result : BatchResult Float) (item : Item Float),
    Pipeline.ofData (m := Id) plainConfig townMap (fun _ => none) = .ok p ∧
    (askPlace .reverse).Asks .reverse ⟨41.5, 2.5⟩ ["lang"] ∧
    (askPlace .nearest).Asks .nearest ⟨41.5, 2.5⟩ ["radius", "limit"] ∧
    postHomes.Posts inputs ∧ inputs.map (·.event.point?) = [none, some ⟨41.5, 2.5⟩] ∧
    (p.enricher.enrich inputs).run = .ok result ∧
    respond p postHomes = .ofReply (.json result.toJson) ∧
    result.items[1]? = some item ∧ Agrees p ⟨41.5, 2.5⟩ item ∧ item.location ≠ none := by
  have decodable : ((Json.read postHomes.body).decode batch).toOption.map
      (·.map (·.event.point?)) = some [none, some ⟨41.5, 2.5⟩] := by decide +kernel
  obtain ⟨inputs, decoded, at_point⟩ : ∃ inputs, (Json.read postHomes.body).decode batch =
      .ok inputs ∧ inputs.map (·.event.point?) = [none, some ⟨41.5, 2.5⟩] := by
    cases e : (Json.read postHomes.body).decode batch with
    | ok inputs =>
      rw [e] at decodable
      exact ⟨inputs, rfl, Option.some.inj decodable⟩
    | error fault =>
      rw [e] at decodable
      cases decodable
  obtain ⟨first, second, rfl⟩ : ∃ first second, inputs = [first, second] :=
    List.length_eq_two.1 (by simpa using congrArg List.length at_point)
  have second_point : second.event.point? = some ⟨41.5, 2.5⟩ :=
    List.head_eq_of_cons_eq (List.tail_eq_of_cons_eq at_point)
  have posts : postHomes.Posts [first, second] :=
    ⟨rfl, ⟨"", by decide +kernel⟩, by decide +kernel, decoded⟩
  have asks : (askPlace .reverse).Asks .reverse ⟨41.5, 2.5⟩ ["lang"] :=
    ⟨rfl, placeFields, by decide +kernel, by decide +kernel, by decide +kernel⟩
  have plain : plainConfig.routing = none := rfl
  obtain ⟨p, loaded, agree⟩ := front_ends_agree plain townMap fun _ => none
  obtain ⟨result, item, enriched, there, agrees, -, answered, -⟩ :=
    agree [first, second] 1 second ⟨41.5, 2.5⟩ rfl second_point
  have status : (respond p (askPlace .reverse)).status = 200 := by
    cases loaded
    decide +kernel
  refine ⟨p, _, result, item, loaded, asks, ?_, posts, at_point, enriched, answered _ posts, there,
    agrees, fun none => ?_⟩
  · exact ⟨rfl, placeFields, by decide +kernel, by decide +kernel, by decide +kernel⟩
  · cases status.symm.trans ((agrees.missing (by decide +kernel) _ asks).2 none)

end Sample

end Service

end Whereabouts
