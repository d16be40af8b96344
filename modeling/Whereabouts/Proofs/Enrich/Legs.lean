import Whereabouts.Proofs.Enrich.Isolation
import Whereabouts.Proofs.Walking.Stitching

/-!
# The ways from one point

The stops near a point get the ways that a router answers for them, or none at all: one request that
is refused or misshapen loses the ways to all stops of the point. A router may answer the same
request in different ways, so what it answers is said of the state in which it is asked.

* `Router.Replies`, `Router.Spoils`: what can come of a request.
* `Router.Routes`, `Router.Loses`: what can come of the requests for a matrix.
* `Router.run_routeMatrix_cases`: one of these two comes of them.
* `Router.GetsWays`: every stop gets the way of its own cell.
* `Enricher.walks_addLegs`: the main statement.
-/

namespace Whereabouts

namespace Matrix

variable {α : Type}

/-- A matrix with parts put over it, one after the other. -/
def overlay (matrix : Matrix α) (parts : List (Chunk × Matrix α)) : Matrix α :=
  parts.foldl (fun matrix part => place part.1 part.2 matrix) matrix

variable {matrix : Matrix α} {parts : List (Chunk × Matrix α)} {rows columns row column : Nat}

/-- Parts that are put over a matrix leave its form as it is. -/
lemma HasShape.overlay (sh : HasShape matrix rows columns) :
    HasShape (overlay matrix parts) rows columns := by
  induction parts generalizing matrix with
  | nil => exact sh
  | cons part parts ih => exact ih (sh.place part.1 part.2)

/-- A cell that no part has stays as it is. -/
lemma at?_overlay_of_apart (off : ∀ part ∈ parts, part.1.holds row column = false) :
    at? (overlay matrix parts) row column = at? matrix row column := by
  induction parts generalizing matrix with
  | nil => rfl
  | cons part parts ih =>
    have here := off part List.mem_cons_self
    refine (ih fun part mem => off part (List.mem_cons_of_mem _ mem)).trans ?_
    rw [at?_place, here]
    exact Option.map_id'

/-- A cell that one of the parts has is the cell of this part. -/
lemma at?_overlay_of_holds (sh : HasShape matrix rows columns) (hr : row < rows)
    (hc : column < columns)
    (apart : (parts.map Prod.fst).Pairwise fun c d => ∀ row column, c.holds row column = true →
      d.holds row column = false) {c : Chunk} {part : Matrix α} (mem : (c, part) ∈ parts)
    (held : c.holds row column = true) : at? (overlay matrix parts) row column =
      some (cell part (row - c.origins.start) (column - c.destinations.start)) := by
  induction parts generalizing matrix with
  | nil => exact absurd mem List.not_mem_nil
  | cons first parts ih =>
    obtain ⟨off, apart'⟩ := List.pairwise_cons.1 apart
    obtain rfl | later := List.mem_cons.1 mem
    · -- the parts that follow leave the cell alone
      obtain ⟨old, there⟩ := sh.exists_at? hr hc
      have alone : at? (overlay (place c part matrix) parts) row column =
          at? (place c part matrix) row column :=
        at?_overlay_of_apart fun d hd => off d.1 (List.mem_map_of_mem hd) row column held
      refine alone.trans ?_
      rw [at?_place, there, held]
      rfl
    · exact ih (sh.place first.1 first.2) apart' later

/-- Nothing is found out about the shape of a part that has the shape of its chunk. -/
lemma checkShape_eq_ok_iff {c : Chunk} {part : Matrix α} :
    checkShape c part = .ok () ↔ HasShape part c.origins.size c.destinations.size := by
  obtain ⟨sh, ok⟩ | ⟨ne, no⟩ | ⟨before, cells, after, rfl, -, -, ne, no⟩ := checkShape_cases c part
  · exact iff_of_true ok sh
  · exact iff_of_false (fun ok => nomatch no.symm.trans ok) fun sh => ne sh.length_eq
  · refine iff_of_false (fun ok => nomatch no.symm.trans ok) fun sh => ne ?_
    exact sh.row_length cells (List.mem_append_right _ List.mem_cons_self)

end Matrix

namespace Router

variable {σ α : Type}

section Chunks

variable (router : Router (StateM σ) α)

/-- A request is answered, with a row for each origin and a column for each destination. -/
structure Replies (r : Request α) (s : σ) (part : Matrix α) (s' : σ) : Prop where
  run_eq : (router.matrix r.origins r.destinations).run.run s = (.ok part, s')
  shape : part.HasShape r.origins.length r.destinations.length

/-- A request is refused, or its answer is misshapen. -/
inductive Spoils (r : Request α) (s : σ) : σ → Prop where
  | refused {e s'} :
    (router.matrix r.origins r.destinations).run.run s = (.error e, s') →
    Spoils r s s'
  | misshapen {part s'} :
    (router.matrix r.origins r.destinations).run.run s = (.ok part, s') →
    ¬ part.HasShape r.origins.length r.destinations.length →
    Spoils r s s'

/-- The requests for chunks are all answered, one after the other. -/
inductive Routes (origins destinations : List (Point α)) :
    List Chunk → σ → List (Chunk × Matrix α) → σ → Prop where
  | done s : Routes origins destinations [] s [] s
  | next {c rest s part s1 parts s'} :
    router.Replies (c.request origins destinations) s part s1 →
    Routes origins destinations rest s1 parts s' →
    Routes origins destinations (c :: rest) s ((c, part) :: parts) s'

/-- One of the requests for chunks is spoiled; those before it are answered. -/
inductive Loses (origins destinations : List (Point α)) : List Chunk → σ → σ → Prop where
  | here {c rest s s'} :
    router.Spoils (c.request origins destinations) s s' →
    Loses origins destinations (c :: rest) s s'
  | later {c rest s part s1 s'} :
    router.Replies (c.request origins destinations) s part s1 →
    Loses origins destinations rest s1 s' →
    Loses origins destinations (c :: rest) s s'

variable {router} {origins destinations : List (Point α)} {chunks : List Chunk} {s s' : σ}
  {parts : List (Chunk × Matrix α)}

/-- The parts that are answered are those of the chunks that were asked for. -/
lemma Routes.map_fst (rt : router.Routes origins destinations chunks s parts s') :
    parts.map Prod.fst = chunks := by
  induction rt with
  | done => rfl
  | next _ _ ih => exact congrArg _ ih

/-- Every part has the shape of the request for its chunk. -/
lemma Routes.shape (rt : router.Routes origins destinations chunks s parts s') {c : Chunk}
    {part : Matrix α} (mem : (c, part) ∈ parts) :
    part.HasShape (c.request origins destinations).origins.length
      (c.request origins destinations).destinations.length := by
  induction rt with
  | done => exact absurd mem List.not_mem_nil
  | next rp _ ih =>
    obtain eq | later := List.mem_cons.1 mem
    · cases eq
      exact rp.shape
    · exact ih later

section Fill

variable {c : Chunk} {maxPoints : Nat}

/-- Asking for a chunk puts the answer over the matrix, or fails as the request is spoiled. -/
lemma run_fill_cases (router : Router (StateM σ) α)
    (ft : c.Fits origins.length destinations.length maxPoints) (matrix : Matrix α) (s : σ) :
    (∃ part s', router.Replies (c.request origins destinations) s part s' ∧
      (router.fill origins destinations matrix c).run.run s =
        (.ok (Matrix.place c part matrix), s')) ∨
    ∃ e s', router.Spoils (c.request origins destinations) s s' ∧
      (router.fill origins destinations matrix c).run.run s = (.error e, s') := by
  have shape : ∀ part : Matrix α, part.HasShape (c.request origins destinations).origins.length
      (c.request origins destinations).destinations.length ↔ Matrix.checkShape c part = .ok () := by
    obtain ⟨lo, ld⟩ := length_request ft
    intro part
    rw [lo, ld, Matrix.checkShape_eq_ok_iff]
  cases run : (router.matrix (c.request origins destinations).origins
      (c.request origins destinations).destinations).run.run s with
  | mk answer s' =>
    cases answer with
    | error e => exact .inr ⟨e, s', .refused run, Gateway.run_bind_refused run⟩
    | ok part =>
      have filled : (router.fill origins destinations matrix c).run.run s =
          ((Matrix.checkShape c part).map fun _ => Matrix.place c part matrix, s') := by
        refine (Gateway.run_bind_ok run).trans ?_
        cases Matrix.checkShape c part with
        | error => rfl
        | ok => rfl
      rw [filled]
      cases checked : Matrix.checkShape c part with
      | error e =>
        have no : ¬ _ := fun sh => nomatch checked.symm.trans ((shape part).1 sh)
        exact .inr ⟨e, s', .misshapen run no, rfl⟩
      | ok => exact .inl ⟨part, s', ⟨run, (shape part).2 checked⟩, rfl⟩

/-- The requests for chunks are all answered, and the answers are put over the matrix, or one of the
requests is spoiled. -/
lemma run_foldlM_cases (router : Router (StateM σ) α)
    (ft : ∀ c ∈ chunks, c.Fits origins.length destinations.length maxPoints) (matrix : Matrix α)
    (s : σ) :
    (∃ parts s', router.Routes origins destinations chunks s parts s' ∧
      (chunks.foldlM (router.fill origins destinations) matrix).run.run s =
        (.ok (matrix.overlay parts), s')) ∨
    ∃ e s', router.Loses origins destinations chunks s s' ∧
      (chunks.foldlM (router.fill origins destinations) matrix).run.run s = (.error e, s') := by
  induction chunks generalizing matrix s with
  | nil => exact .inl ⟨[], s, .done s, rfl⟩
  | cons c rest ih =>
    have ft' : ∀ d ∈ rest, d.Fits origins.length destinations.length maxPoints :=
      fun d hd => ft d (List.mem_cons_of_mem c hd)
    rw [List.foldlM_cons]
    obtain ⟨part, s1, rp, run⟩ | ⟨e, s1, sp, run⟩ :=
      run_fill_cases router (ft c List.mem_cons_self) matrix s
    · rw [Gateway.run_bind_ok run]
      obtain ⟨parts, s', rt, run'⟩ | ⟨e, s', ls, run'⟩ := ih ft' (Matrix.place c part matrix) s1
      · exact .inl ⟨(c, part) :: parts, s', .next rp rt, run'⟩
      · exact .inr ⟨e, s', .later rp ls, run'⟩
    · exact .inr ⟨e, s1, .here sp, Gateway.run_bind_refused run⟩

end Fill

/-- A matrix is the work of the requests for its chunks. -/
lemma run_routeMatrix (router : Router (StateM σ) α)
    (eq : partition origins.length destinations.length maxMatrixPoints = .ok chunks) (s : σ) :
    (router.routeMatrix origins destinations).run.run s =
      (chunks.foldlM (router.fill origins destinations)
        (.blank origins.length destinations.length)).run.run s := by
  unfold routeMatrix
  rw [eq]
  rfl

/-- A matrix is put together from the answers for the chunks that tile it, or is lost. -/
lemma run_routeMatrix_cases (router : Router (StateM σ) α) (someOrigins : origins ≠ [])
    (someDestinations : destinations ≠ []) (s : σ) :
    ∃ chunks, partition origins.length destinations.length maxMatrixPoints = .ok chunks ∧
      Chunk.Tiles chunks origins.length destinations.length maxMatrixPoints ∧
      ((∃ parts s', router.Routes origins destinations chunks s parts s' ∧
        (router.routeMatrix origins destinations).run.run s =
          (.ok (Matrix.overlay (.blank origins.length destinations.length) parts), s')) ∨
      ∃ e s', router.Loses origins destinations chunks s s' ∧
        (router.routeMatrix origins destinations).run.run s = (.error e, s')) := by
  have room : 2 ≤ maxMatrixPoints := by decide
  obtain ⟨chunks, eq, tl⟩ := partition_tiles (List.length_pos_iff.2 someOrigins)
    (List.length_pos_iff.2 someDestinations) room
  refine ⟨chunks, eq, tl, ?_⟩
  rw [run_routeMatrix router eq]
  exact run_foldlM_cases router tl.fits _ s

/-- A matrix that is put together has in every cell what was answered for this cell. -/
lemma Routes.at?_overlay (rt : router.Routes origins destinations chunks s parts s')
    (tl : Chunk.Tiles chunks origins.length destinations.length maxMatrixPoints) {row column : Nat}
    (hr : row < origins.length) (hc : column < destinations.length) :
    ∃ c part leg, (c, part) ∈ parts ∧ c.holds row column = true ∧
      part.at? (row - c.origins.start) (column - c.destinations.start) = some leg ∧
      (Matrix.overlay (.blank origins.length destinations.length) parts).at? row column =
        some leg := by
  obtain ⟨c, tile, held⟩ := tl.covers row hr column hc
  have answered : c ∈ parts.map Prod.fst := rt.map_fst.symm ▸ tile
  obtain ⟨⟨c, part⟩, mem, rfl⟩ := List.mem_map.1 answered
  -- the part has a cell there, since it has the shape of the chunk
  have sh := rt.shape mem
  obtain ⟨lo, ld⟩ := length_request (tl.fits c tile)
  rw [lo, ld] at sh
  obtain ⟨inRows, inColumns⟩ := Chunk.holds_iff.1 held
  obtain ⟨le, lt⟩ := Span.contains_iff.1 inRows
  obtain ⟨le', lt'⟩ := Span.contains_iff.1 inColumns
  obtain ⟨leg, given⟩ := sh.exists_at? (Nat.sub_lt_sub_right le lt) (Nat.sub_lt_sub_right le' lt')
  refine ⟨c, part, leg, mem, held, given, ?_⟩
  rw [Matrix.at?_overlay_of_holds (Matrix.hasShape_blank _ _) hr hc (rt.map_fst ▸ tl.apart) mem held,
    Matrix.cell_eq, given]
  rfl

end Chunks

/-- The chunks of a matrix with one origin ask for the ways from this origin. -/
lemma request_origins {p : Point α} {places : List (Point α)} {c : Chunk} {maxPoints : Nat}
    (ft : c.Fits 1 places.length maxPoints) : (c.request [p] places).origins = [p] := by
  obtain ⟨⟨start, stop⟩, destinations⟩ := c
  obtain ⟨lt, le, -, -, -⟩ := ft
  obtain rfl : stop = 1 := by
    dsimp only at lt le
    omega
  obtain rfl : start = 0 := Nat.lt_one_iff.1 lt
  rfl

/-- The stops near a point with the ways out of the answers: every stop gets the way of its own cell,
which is the one of the point and the stop in the request for a chunk, and nothing else changes. -/
structure GetsWays (p : Point α) (parts : List (Chunk × Matrix α))
    (stops walked : List (NearestStop α)) : Prop where
  length_eq : walked.length = stops.length
  cell : ∀ k stop, stops[k]? = some stop → ∃ c part leg, (c, part) ∈ parts ∧
    (c.request [p] (stops.map (·.stop.location))).origins = [p] ∧
    (c.request [p] (stops.map (·.stop.location))).destinations[k - c.destinations.start]? =
      some stop.stop.location ∧
    part.at? 0 (k - c.destinations.start) = some leg ∧
    walked[k]? = some { stop with
      walkingDistance := leg.map (·.distance), walkingDuration := leg.map (·.duration) }

/-- What becomes of the stops near a point: they get the ways to them, or all are without. -/
inductive Walks (router : Router (StateM σ) α) (p : Point α) (stops : List (NearestStop α))
    (s : σ) : List (NearestStop α) → σ → Prop where
  /-- Nothing is asked where there are no stops. -/
  | nowhere : stops = [] → Walks router p stops s [] s
  | routed {chunks parts walked s'} :
    partition 1 stops.length maxMatrixPoints = .ok chunks →
    router.Routes [p] (stops.map (·.stop.location)) chunks s parts s' →
    GetsWays p parts stops walked →
    Walks router p stops s walked s'
  | lost {chunks s'} :
    partition 1 stops.length maxMatrixPoints = .ok chunks →
    router.Loses [p] (stops.map (·.stop.location)) chunks s s' →
    (∀ stop ∈ stops, stop.walkingDistance = none ∧ stop.walkingDuration = none) →
    Walks router p stops s stops s'

end Router

namespace NearestStop

variable {α : Type}

/-- Every stop gets the way at its own place. -/
lemma getElem?_withLegs (stops : List (NearestStop α)) (legs : List (Option (Leg α))) (k : Nat) :
    (withLegs stops legs)[k]? = (stops[k]?).map fun stop => stop.withLeg (legs[k]?).join := by
  induction stops generalizing legs k with
  | nil => rfl
  | cons stop stops ih =>
    cases legs with
    | nil =>
      rw [List.getElem?_nil]
      exact Option.map_id'.symm
    | cons leg legs =>
      cases k with
      | zero => rfl
      | succ k => exact ih legs k

/-- A stop without a way has what its leg has. -/
lemma withLeg_of_unwalked {stop : NearestStop α} (none : stop.unwalked = stop)
    (leg : Option (Leg α)) : stop.withLeg leg = { stop with
      walkingDistance := leg.map (·.distance), walkingDuration := leg.map (·.duration) } := by
  cases leg with
  | none => exact none.symm
  | some => rfl

end NearestStop

namespace Enricher

variable {σ α : Type} {router : Router (StateM σ) α} {p : Point α} {stops : List (NearestStop α)}

/-- A row of a matrix with one origin, put to the stops near it. -/
lemma getsWays_withLegs {places : List (Point α)} (at_stops : places = stops.map (·.stop.location))
    {chunks : List Chunk} {parts : List (Chunk × Matrix α)} {s s' : σ}
    (none : ∀ stop ∈ stops, stop.unwalked = stop)
    (tl : Chunk.Tiles chunks 1 places.length maxMatrixPoints)
    (rt : router.Routes [p] places chunks s parts s') :
    Router.GetsWays p parts stops (NearestStop.withLegs stops
      ((Matrix.overlay (.blank 1 places.length) parts).getLast?.getD [])) := by
  have sh : (Matrix.overlay (.blank 1 places.length) parts).HasShape 1 places.length :=
    (Matrix.hasShape_blank 1 places.length).overlay
  obtain ⟨row, one⟩ := List.length_eq_one_iff.1 sh.length_eq
  rw [one]
  constructor
  · have same := congrArg List.length (NearestStop.map_unwalked_withLegs stops row)
    rwa [List.length_map, List.length_map] at same
  · intro k stop here
    have place : places[k]? = some stop.stop.location := by
      rw [at_stops, List.getElem?_map, here]
      rfl
    have lt : k < places.length := (List.getElem?_eq_some_iff.1 place).1
    obtain ⟨c, part, leg, mem, held, given, there⟩ := rt.at?_overlay tl Nat.zero_lt_one lt
    have ft := tl.fits c (rt.map_fst ▸ List.mem_map_of_mem mem)
    rw [Nat.zero_sub] at given
    refine ⟨c, part, leg, mem, at_stops ▸ Router.request_origins ft, ?_, given, ?_⟩
    · rw [← at_stops, ← place]
      exact Span.getElem?_slice (Chunk.holds_iff.1 held).2
    · have cell : row[k]? = some leg := by
        rw [← there]
        show _ = Matrix.at? (Matrix.overlay (.blank 1 places.length) parts) 0 k
        rw [one]
        rfl
      show (NearestStop.withLegs stops row)[k]? = _
      rw [NearestStop.getElem?_withLegs, here, cell]
      have alone := none stop (List.mem_of_getElem? here)
      exact congrArg some (NearestStop.withLeg_of_unwalked alone leg)

/-- The stops near a point get the ways that the router answers, or none. -/
theorem walks_addLegs (router : Router (StateM σ) α) (p : Point α)
    (none : ∀ stop ∈ stops, stop.unwalked = stop) (s : σ) :
    router.Walks p stops s ((addLegs router p stops).run s).1 ((addLegs router p stops).run s).2 := by
  by_cases nowhere : stops = []
  · rw [nowhere]
    exact .nowhere rfl
  have some : stops.map (·.stop.location) ≠ [] := fun no => nowhere (List.map_eq_nil_iff.1 no)
  obtain ⟨chunks, eq, tl, answers⟩ := router.run_routeMatrix_cases (List.cons_ne_nil p []) some s
  rw [List.length_map] at eq
  unfold addLegs
  rw [if_neg (by simpa using nowhere), StateT.run_bind]
  obtain ⟨parts, s', rt, run⟩ | ⟨e, s', ls, run⟩ := answers
  · rw [run]
    exact .routed eq rt (getsWays_withLegs rfl none tl rt)
  · rw [run]
    refine .lost eq ls fun stop mem => ?_
    rw [← none stop mem]
    exact ⟨rfl, rfl⟩

end Enricher

end Whereabouts
