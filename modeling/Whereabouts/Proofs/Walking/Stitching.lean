import Whereabouts.Geometry.Binary64
import Whereabouts.Proofs.Walking.Cells
import Whereabouts.Walking.Table

/-!
# A matrix is stitched together from its chunks

A router is asked for one chunk after the other, and what it answers is put together. Each request
is written down, so that statements can be made about everything that a router was asked for.

* `Router.Answers`, `Router.Fails`: what can come of a request.
* `Router.Stitches`: how a matrix is filled, request by request; `Router.stitches_foldlM` says that
  this is what the loop does.
* `Router.Stitches.at?_of_holds`: no cell is overwritten once it is final.
* `Router.routeMatrix_stitched`: the main statement.
-/

namespace Whereabouts

/-- A computation in two parts goes on with what the first part gives. -/
lemma run_run_bind {ε β γ : Type} (x : ExceptT ε Id β) (f : β → ExceptT ε Id γ) :
    (x >>= f).run.run = x.run.run.bind fun b => (f b).run.run := by
  rw [ExceptT.run_bind]
  cases x.run with
  | error e => rfl
  | ok b => rfl

/-- What a router is asked for. -/
structure Router.Request (α : Type) where
  origins : List (Point α)
  destinations : List (Point α)

/-- The same router, which writes down what it is asked for. -/
def Router.recorded {m : Type → Type} [Monad m] {α : Type} (router : Router m α) :
    Router (StateT (List (Router.Request α)) m) α where
  matrix origins destinations := ExceptT.mk fun asked => do
    let answer ← (router.matrix origins destinations).run
    return (answer, asked ++ [⟨origins, destinations⟩])

/-- The request for a chunk. -/
def Chunk.request {α : Type} (origins destinations : List (Point α)) (c : Chunk) :
    Router.Request α :=
  ⟨c.origins.slice origins, c.destinations.slice destinations⟩

namespace Router

variable {α : Type}

/-- A request is answered by a part with a row for each origin and a column for each
destination. -/
structure Answers (router : Router Id α) (r : Request α) (part : Matrix α) : Prop where
  matrix_eq : (router.matrix r.origins r.destinations).run.run = .ok part
  shape : part.HasShape r.origins.length r.destinations.length

/-- A request fails: the router refuses it, or answers with a wrong number of rows, or with rows of
which one is the first to have a wrong number of columns. -/
inductive Fails (router : Router Id α) (r : Request α) : RoutingError → Prop where
  | refused {e} :
    (router.matrix r.origins r.destinations).run.run = .error e →
    Fails router r e
  | rows {part : Matrix α} :
    (router.matrix r.origins r.destinations).run.run = .ok part →
    part.length ≠ r.origins.length →
    Fails router r (.badResponse (.rows r.origins.length part.length))
  | columns {before cells after} :
    (router.matrix r.origins r.destinations).run.run = .ok (before ++ cells :: after) →
    (before ++ cells :: after).length = r.origins.length →
    (∀ row ∈ before, row.length = r.destinations.length) →
    cells.length ≠ r.destinations.length →
    Fails router r (.badResponse (.columns r.destinations.length cells.length))

variable {router : Router Id α} {origins destinations : List (Point α)}

/-- A request that is answered does not fail. -/
lemma Answers.not_fails {r : Request α} {part : Matrix α} (an : router.Answers r part)
    {e : RoutingError} : ¬ router.Fails r e := by
  intro fl
  cases fl with
  | refused h => cases an.matrix_eq.symm.trans h
  | rows h ne =>
    cases an.matrix_eq.symm.trans h
    exact ne an.shape.length_eq
  | columns h _ _ ne =>
    cases an.matrix_eq.symm.trans h
    exact ne (an.shape.row_length _ (List.mem_append_right _ List.mem_cons_self))

/-- A matrix is filled request by request, until one of them fails. -/
inductive Stitches (router : Router Id α) (origins destinations : List (Point α)) :
    Matrix α → List Chunk → List (Request α) → Except RoutingError (Matrix α) → Prop where
  | done (matrix) :
    Stitches router origins destinations matrix [] [] (.ok matrix)
  | next {matrix c rest part asked result} :
    router.Answers (c.request origins destinations) part →
    Stitches router origins destinations (Matrix.place c part matrix) rest asked result →
    Stitches router origins destinations matrix (c :: rest)
      (c.request origins destinations :: asked) result
  | stop {matrix c rest e} :
    router.Fails (c.request origins destinations) e →
    Stitches router origins destinations matrix (c :: rest) [c.request origins destinations]
      (.error e)

section Fill

variable {c : Chunk} {rows columns maxPoints : Nat}

/-- The request for a chunk has as many points as the chunk. -/
lemma length_request (ft : c.Fits origins.length destinations.length maxPoints) :
    (c.request origins destinations).origins.length = c.origins.size ∧
      (c.request origins destinations).destinations.length = c.destinations.size :=
  ⟨Span.length_slice ft.origins_le, Span.length_slice ft.destinations_le⟩

/-- What asking for a chunk comes to. -/
lemma run_fill (router : Router Id α) (origins destinations : List (Point α)) (matrix : Matrix α)
    (c : Chunk) : (router.fill origins destinations matrix c).run.run =
      ((router.matrix (c.request origins destinations).origins
        (c.request origins destinations).destinations).run.run).bind fun part =>
          (Matrix.checkShape c part).map fun _ => Matrix.place c part matrix := by
  rw [fill, run_run_bind, Chunk.request]
  congr 1
  funext part
  rw [run_run_bind]
  cases Matrix.checkShape c part with
  | error e => rfl
  | ok => rfl

/-- Asking for a chunk gives the matrix with the chunk, or fails as the request does. -/
lemma fill_cases (router : Router Id α)
    (ft : c.Fits origins.length destinations.length maxPoints) (matrix : Matrix α) :
    (∃ part, router.Answers (c.request origins destinations) part ∧
      (router.fill origins destinations matrix c).run.run = .ok (Matrix.place c part matrix)) ∨
      ∃ e, router.Fails (c.request origins destinations) e ∧
        (router.fill origins destinations matrix c).run.run = .error e := by
  obtain ⟨lo, ld⟩ := length_request ft
  cases answer : (router.matrix (c.request origins destinations).origins
      (c.request origins destinations).destinations).run.run with
  | error e =>
    refine .inr ⟨e, .refused answer, ?_⟩
    rw [run_fill, answer]
    rfl
  | ok part =>
    have run : (router.fill origins destinations matrix c).run.run =
        (Matrix.checkShape c part).map fun _ => Matrix.place c part matrix := by
      rw [run_fill, answer]
      rfl
    obtain ⟨sh, ok⟩ | ⟨ne, no⟩ | ⟨before, cells, after, rfl, len, early, ne, no⟩ :=
      Matrix.checkShape_cases c part
    · refine .inl ⟨part, ⟨answer, ?_⟩, ?_⟩
      · rw [lo, ld]
        exact sh
      · rw [run, ok]
        rfl
    · refine .inr ⟨_, .rows answer (lo ▸ ne), ?_⟩
      rw [run, no, lo]
      rfl
    · refine .inr ⟨_, .columns answer (len.trans lo.symm) (ld ▸ early) (ld ▸ ne), ?_⟩
      rw [run, no, ld]
      rfl

/-- Writing a request down changes nothing else. -/
lemma run_recorded_fill (router : Router Id α) (origins destinations : List (Point α))
    (matrix : Matrix α) (c : Chunk) (asked : List (Request α)) :
    (router.recorded.fill origins destinations matrix c).run.run asked =
      ((router.fill origins destinations matrix c).run.run,
        asked ++ [c.request origins destinations]) := by
  have first : (router.recorded.matrix (c.origins.slice origins)
      (c.destinations.slice destinations)).run.run asked =
        ((router.matrix (c.request origins destinations).origins
          (c.request origins destinations).destinations).run.run,
            asked ++ [c.request origins destinations]) := rfl
  rw [run_fill, fill, ExceptT.run_bind, StateT.run_bind, first]
  cases (router.matrix (c.request origins destinations).origins
      (c.request origins destinations).destinations).run.run with
  | error e => rfl
  | ok part =>
    show ((ExceptT.mk (m := StateM (List (Request α))) (pure (Matrix.checkShape c part))) >>=
      fun _ => pure (Matrix.place c part matrix)).run.run _ = ((Matrix.checkShape c part).map _, _)
    cases Matrix.checkShape c part with
    | error e => rfl
    | ok => rfl

/-- The requests for chunks, one after the other, and what comes of them. -/
lemma stitches_foldlM (router : Router Id α) {chunks : List Chunk}
    (ft : ∀ c ∈ chunks, c.Fits origins.length destinations.length maxPoints) (matrix : Matrix α)
    (asked : List (Request α)) :
    ∃ more, router.Stitches origins destinations matrix chunks more
        (chunks.foldlM (router.fill origins destinations) matrix).run.run ∧
      (chunks.foldlM (router.recorded.fill origins destinations) matrix).run.run asked =
        ((chunks.foldlM (router.fill origins destinations) matrix).run.run, asked ++ more) := by
  induction chunks generalizing matrix asked with
  | nil =>
    refine ⟨[], .done matrix, ?_⟩
    rw [List.append_nil]
    rfl
  | cons c rest ih =>
    have ft' : ∀ d ∈ rest, d.Fits origins.length destinations.length maxPoints :=
      fun d hd => ft d (List.mem_cons_of_mem c hd)
    have recorded := run_recorded_fill router origins destinations matrix c asked
    rw [List.foldlM_cons, List.foldlM_cons, run_run_bind, ExceptT.run_bind, StateT.run_bind,
      recorded]
    obtain ⟨part, an, run⟩ | ⟨e, fl, run⟩ := fill_cases router (ft c List.mem_cons_self) matrix
    · obtain ⟨more, st, same⟩ := ih ft' (Matrix.place c part matrix)
        (asked ++ [c.request origins destinations])
      rw [run]
      refine ⟨_, .next an st, same.trans ?_⟩
      rw [List.append_assoc]
      rfl
    · rw [run]
      exact ⟨_, .stop fl, rfl⟩

end Fill

section Stitches

variable {matrix filled : Matrix α} {chunks : List Chunk} {asked : List (Request α)}
  {result : Except RoutingError (Matrix α)} {rows columns row column : Nat}

/-- Nothing is asked for but chunks. -/
lemma Stitches.asked_subset
    (st : Stitches router origins destinations matrix chunks asked result) :
    ∀ r ∈ asked, ∃ c ∈ chunks, r = c.request origins destinations := by
  induction st with
  | done => nofun
  | @next matrix c rest part asked result _ _ ih =>
    intro r hr
    obtain rfl | later := List.mem_cons.1 hr
    · exact ⟨c, List.mem_cons_self, rfl⟩
    · obtain ⟨d, hd, rfl⟩ := ih r later
      exact ⟨d, List.mem_cons_of_mem c hd, rfl⟩
  | @stop matrix c rest e _ =>
    intro r hr
    exact ⟨c, List.mem_cons_self, List.mem_singleton.1 hr⟩

/-- Where the matrix is filled, every chunk was asked for, in order. -/
lemma Stitches.asked_eq (st : Stitches router origins destinations matrix chunks asked result)
    (ok : result = .ok filled) : asked = chunks.map (·.request origins destinations) := by
  induction st with
  | done => rfl
  | next _ _ ih => exact congrArg _ (ih ok)
  | stop => cases ok

/-- Where the matrix is not filled, the first request that failed was the last one. -/
lemma Stitches.first_failure {e : RoutingError}
    (st : Stitches router origins destinations matrix chunks asked result)
    (no : result = .error e) :
    ∃ done c rest, chunks = done ++ c :: rest ∧
      asked = (done ++ [c]).map (·.request origins destinations) ∧
      (∀ d ∈ done, ∃ part, router.Answers (d.request origins destinations) part) ∧
      router.Fails (c.request origins destinations) e := by
  induction st with
  | done => cases no
  | @next matrix c rest part asked result an _ ih =>
    obtain ⟨done, d, later, rfl, rfl, answered, fl⟩ := ih no
    refine ⟨c :: done, d, later, rfl, rfl, ?_, fl⟩
    intro d' hd'
    obtain rfl | earlier := List.mem_cons.1 hd'
    · exact ⟨part, an⟩
    · exact answered d' earlier
  | @stop matrix c rest e' fl =>
    cases no
    exact ⟨[], c, rest, rfl, rfl, nofun, fl⟩

/-- Filling a matrix keeps its shape. -/
lemma Stitches.hasShape (st : Stitches router origins destinations matrix chunks asked result)
    (ok : result = .ok filled) (sh : matrix.HasShape rows columns) :
    filled.HasShape rows columns := by
  induction st with
  | done =>
    cases ok
    exact sh
  | @next matrix c rest part asked result _ _ ih => exact ih ok (sh.place c part)
  | stop => cases ok

/-- A cell that belongs to none of the chunks stays as it is. -/
lemma Stitches.at?_of_apart
    (st : Stitches router origins destinations matrix chunks asked result)
    (ok : result = .ok filled) (off : ∀ c ∈ chunks, c.holds row column = false) :
    filled.at? row column = matrix.at? row column := by
  induction st with
  | done =>
    cases ok
    rfl
  | @next matrix c rest part asked result _ _ ih =>
    have here := off c List.mem_cons_self
    rw [ih ok fun d hd => off d (List.mem_cons_of_mem c hd), Matrix.at?_place, here]
    exact Option.map_id'
  | stop => cases ok

/-- What is put over a chunk is the answer to the request for it. -/
lemma at?_place_of_holds {c : Chunk} {part : Matrix α} {maxPoints : Nat}
    (ft : c.Fits origins.length destinations.length maxPoints)
    (an : router.Answers (c.request origins destinations) part)
    (sh : matrix.HasShape origins.length destinations.length)
    (held : c.holds row column = true) : (Matrix.place c part matrix).at? row column =
      part.at? (row - c.origins.start) (column - c.destinations.start) := by
  obtain ⟨inRows, inColumns⟩ := Chunk.holds_iff.1 held
  obtain ⟨le, lt⟩ := Span.contains_iff.1 inRows
  obtain ⟨le', lt'⟩ := Span.contains_iff.1 inColumns
  obtain ⟨old, there⟩ := sh.exists_at? (Nat.lt_of_lt_of_le lt ft.origins_le)
    (Nat.lt_of_lt_of_le lt' ft.destinations_le)
  -- the part has a cell there, since it has the shape of the chunk
  have partShape := an.shape
  obtain ⟨lo, ld⟩ := length_request ft
  rw [lo, ld] at partShape
  obtain ⟨new, given⟩ := partShape.exists_at? (Nat.sub_lt_sub_right le lt)
    (Nat.sub_lt_sub_right le' lt')
  rw [Matrix.at?_place, there, held, Matrix.cell_eq, given]
  rfl

/-- The cells of a chunk are those of the answer to the request for it. -/
lemma Stitches.at?_of_holds {maxPoints : Nat}
    (st : Stitches router origins destinations matrix chunks asked result)
    (ok : result = .ok filled)
    (ft : ∀ c ∈ chunks, c.Fits origins.length destinations.length maxPoints)
    (apart : chunks.Pairwise fun c d => ∀ row column, c.holds row column = true →
      d.holds row column = false)
    (sh : matrix.HasShape origins.length destinations.length) :
    ∀ c ∈ chunks, ∃ part, router.Answers (c.request origins destinations) part ∧
      ∀ row column, c.holds row column = true → filled.at? row column =
        part.at? (row - c.origins.start) (column - c.destinations.start) := by
  induction st with
  | done => nofun
  | @next matrix c rest part asked result an st ih =>
    obtain ⟨off, apart'⟩ := List.pairwise_cons.1 apart
    intro d hd
    obtain rfl | later := List.mem_cons.1 hd
    · refine ⟨part, an, fun row column held => ?_⟩
      -- the chunks that follow leave the cell alone
      rw [st.at?_of_apart ok fun d hd => off d hd row column held]
      exact at?_place_of_holds (ft d List.mem_cons_self) an sh held
    · exact ih ok (fun d hd => ft d (List.mem_cons_of_mem c hd)) apart' (sh.place c part) d later
  | stop => cases ok

end Stitches

end Router

namespace TableService

variable {origins destinations : List (Point Float)}

/-- Points that fit into one request are admitted. -/
lemma checkSize_eq_ok (ho : 0 < origins.length) (hd : 0 < destinations.length)
    (le : origins.length + destinations.length ≤ maxMatrixPoints) :
    checkSize origins.length destinations.length = .ok () := by
  rw [checkSize, if_neg (by omega), if_neg (Nat.not_lt.2 le)]

/-- Whether an error is about the number of points of a request. -/
def ComplainsOfSize : RoutingError → Prop
  | .emptySide | .tooManyPoints _ _ => True
  | _ => False

/-- A request that cannot be put is not refused for its size. -/
lemma not_complains_request {service : TableService} {e : RoutingError}
    (h : service.request origins destinations = .error e) : ¬ ComplainsOfSize e := by
  rw [request] at h
  split at h
  · cases h
  · cases h
    exact id

/-- An answer that cannot be read is not refused for its size. -/
lemma not_complains_read {response : Option WebResponse} {rows columns : Nat} {e : RoutingError}
    (h : read response rows columns = .error e) : ¬ ComplainsOfSize e := by
  unfold read at h
  split at h
  · cases h
    exact id
  · split at h
    · cases h
      exact id
    · split at h
      · cases h
        exact id
      next answer _ =>
        cases made : answer.matrix rows columns with
        | error cause =>
          rw [made] at h
          cases h
          exact id
        | ok =>
          rw [made] at h
          cases h

/-- A table service does not complain of the size of a request that is small enough. -/
lemma not_complains_matrix (service : TableService) (get : Url → Id (Option WebResponse))
    (size : checkSize origins.length destinations.length = .ok ()) {e : RoutingError}
    (h : ((service.router get).matrix origins destinations).run.run = .error e) :
    ¬ ComplainsOfSize e := by
  have run : ((service.router get).matrix origins destinations).run.run =
      (checkSize origins.length destinations.length).bind fun _ =>
        (service.request origins destinations).bind fun url =>
          read (get url) origins.length destinations.length := by
    unfold router
    rw [run_run_bind]
    congr 1
    funext _
    rw [run_run_bind]
    rfl
  rw [run, size] at h
  cases made : service.request origins destinations with
  | error e' =>
    rw [made] at h
    cases h
    exact not_complains_request made
  | ok url =>
    rw [made] at h
    exact not_complains_read h

end TableService

namespace Router

section Whole

variable {α : Type} (router : Router Id α) {origins destinations : List (Point α)}

/-- The whole matrix is stitched together, from nothing, along a tiling. -/
lemma stitches_routeMatrix (someOrigins : origins ≠ []) (someDestinations : destinations ≠ []) :
    ∃ chunks asked,
      partition origins.length destinations.length maxMatrixPoints = .ok chunks ∧
      Chunk.Tiles chunks origins.length destinations.length maxMatrixPoints ∧
      router.Stitches origins destinations (.blank origins.length destinations.length) chunks asked
        (router.routeMatrix origins destinations).run.run ∧
      (router.recorded.routeMatrix origins destinations).run.run [] =
        ((router.routeMatrix origins destinations).run.run, asked) := by
  have room : 2 ≤ maxMatrixPoints := by decide
  obtain ⟨chunks, parts, tl⟩ := partition_tiles (List.length_pos_iff.2 someOrigins)
    (List.length_pos_iff.2 someDestinations) room
  obtain ⟨asked, st, recorded⟩ := stitches_foldlM router tl.fits
    (.blank origins.length destinations.length) []
  have plain : router.routeMatrix origins destinations =
      chunks.foldlM (router.fill origins destinations)
        (.blank origins.length destinations.length) := by
    rw [routeMatrix, parts]
    rfl
  have written : router.recorded.routeMatrix origins destinations =
      chunks.foldlM (router.recorded.fill origins destinations)
        (.blank origins.length destinations.length) := by
    rw [routeMatrix, parts]
    rfl
  rw [plain, written]
  exact ⟨chunks, asked, parts, tl, st, recorded⟩

/-- A request for a chunk that fits has points on both sides, and few enough. -/
lemma request_fits {c : Chunk} {maxPoints : Nat}
    (ft : c.Fits origins.length destinations.length maxPoints) :
    (c.request origins destinations).origins ≠ [] ∧
      (c.request origins destinations).destinations ≠ [] ∧
      (c.request origins destinations).origins.length +
        (c.request origins destinations).destinations.length ≤ maxPoints := by
  obtain ⟨lo, ld⟩ := length_request ft
  have po : 0 < c.origins.size := Nat.sub_pos_of_lt ft.origins_lt
  have pd : 0 < c.destinations.size := Nat.sub_pos_of_lt ft.destinations_lt
  refine ⟨List.length_pos_iff.1 (lo ▸ po), List.length_pos_iff.1 (ld ▸ pd), ?_⟩
  rw [lo, ld]
  exact ft.size_le

/-- Where a router computes cell by cell, so is the whole matrix. -/
lemma eq_cells {chunks : List Chunk} {asked : List (Request α)}
    {result : Except RoutingError (Matrix α)} {f : Point α → Point α → Option (Leg α)}
    (tl : Chunk.Tiles chunks origins.length destinations.length maxMatrixPoints)
    (st : router.Stitches origins destinations (.blank origins.length destinations.length) chunks
      asked result)
    (cells : ∀ os ds, os ≠ [] → ds ≠ [] → os.length + ds.length ≤ maxMatrixPoints →
      (router.matrix os ds).run.run = .ok (.ofCells f os ds)) :
    result = .ok (.ofCells f origins destinations) := by
  have answer : ∀ c ∈ chunks, ((router.matrix (c.request origins destinations).origins
      (c.request origins destinations).destinations).run.run) =
        .ok (.ofCells f (c.origins.slice origins) (c.destinations.slice destinations)) := by
    intro c hc
    obtain ⟨no, nd, le⟩ := request_fits (tl.fits c hc)
    exact cells _ _ no nd le
  cases made : result with
  | error e =>
    -- no request can have failed
    obtain ⟨done, c, rest, rfl, -, -, fl⟩ := st.first_failure made
    have an := answer c (List.mem_append_right _ List.mem_cons_self)
    exact absurd fl (Answers.not_fails ⟨an, Matrix.hasShape_ofCells f _ _⟩)
  | ok filled =>
    have parts := st.at?_of_holds made tl.fits tl.apart (Matrix.hasShape_blank _ _)
    apply congrArg
    apply (st.hasShape made (Matrix.hasShape_blank _ _)).ext (Matrix.hasShape_ofCells f _ _)
    intro row hrow column hcolumn
    obtain ⟨c, hc, held⟩ := tl.covers row hrow column hcolumn
    obtain ⟨part, an, same⟩ := parts c hc
    cases an.matrix_eq.symm.trans (answer c hc)
    obtain ⟨inRows, inColumns⟩ := Chunk.holds_iff.1 held
    rw [same row column held, Matrix.at?_ofCells, Matrix.at?_ofCells, Span.getElem?_slice inRows,
      Span.getElem?_slice inColumns]

end Whole

/-- Asking for chunks of a matrix, a table service never complains of the number of points. -/
lemma Fails.not_complains {service : TableService} {get : Url → Id (Option WebResponse)}
    {r : Request Float} {e : RoutingError} (ho : r.origins ≠ []) (hd : r.destinations ≠ [])
    (le : r.origins.length + r.destinations.length ≤ maxMatrixPoints)
    (fl : (service.router get).Fails r e) : ¬ TableService.ComplainsOfSize e := by
  cases fl with
  | refused h =>
    have size := TableService.checkSize_eq_ok (List.length_pos_iff.2 ho)
      (List.length_pos_iff.2 hd) le
    exact service.not_complains_matrix get size h
  | rows => exact id
  | columns => exact id

/-- **A matrix is stitched together.** Whatever a router answers, the chunks tile the matrix, and
each request has points on both sides and at most `maxMatrixPoints` of them, so that a table service
never complains of their number. Where the matrix is given, each chunk was asked for once, in order,
and each cell is the one that was answered for it; where a router computes cell by cell, so is the
whole matrix. Where it is not given, the last request is the first that has failed, and its failure
is reported. -/
theorem routeMatrix_stitched (router : Router Id Float) {origins destinations : List (Point Float)}
    (someOrigins : origins ≠ []) (someDestinations : destinations ≠ []) :
    ∃ chunks asked,
      partition origins.length destinations.length maxMatrixPoints = .ok chunks ∧
      Chunk.Tiles chunks origins.length destinations.length maxMatrixPoints ∧
      (∀ row < origins.length, ∀ column < destinations.length,
        chunks.countP (·.holds row column) = 1) ∧
      (router.recorded.routeMatrix origins destinations).run.run [] =
        ((router.routeMatrix origins destinations).run.run, asked) ∧
      (∀ r ∈ asked, r.origins ≠ [] ∧ r.destinations ≠ [] ∧
        r.origins.length + r.destinations.length ≤ maxMatrixPoints) ∧
      (∀ filled, (router.routeMatrix origins destinations).run.run = .ok filled →
        asked = chunks.map (·.request origins destinations) ∧
        filled.HasShape origins.length destinations.length ∧
        ∀ c ∈ chunks, ∃ part, router.Answers (c.request origins destinations) part ∧
          ∀ row column, c.holds row column = true → filled.at? row column =
            part.at? (row - c.origins.start) (column - c.destinations.start)) ∧
      (∀ f, (∀ os ds, os ≠ [] → ds ≠ [] → os.length + ds.length ≤ maxMatrixPoints →
          (router.matrix os ds).run.run = .ok (.ofCells f os ds)) →
        (router.routeMatrix origins destinations).run.run =
          .ok (.ofCells f origins destinations)) ∧
      ∀ e, (router.routeMatrix origins destinations).run.run = .error e →
        (∃ done c rest, chunks = done ++ c :: rest ∧
          asked = (done ++ [c]).map (·.request origins destinations) ∧
          (∀ d ∈ done, ∃ part, router.Answers (d.request origins destinations) part) ∧
          router.Fails (c.request origins destinations) e) ∧
        ∀ service get, router = TableService.router service get →
          ¬ TableService.ComplainsOfSize e := by
  obtain ⟨chunks, asked, parts, tl, st, recorded⟩ :=
    router.stitches_routeMatrix someOrigins someDestinations
  have blank : (Matrix.blank origins.length destinations.length : Matrix Float).HasShape
      origins.length destinations.length := Matrix.hasShape_blank _ _
  refine ⟨chunks, asked, parts, tl, ?_, recorded, ?_, ?_, ?_, ?_⟩
  · intro row hr column hc
    exact tl.countP_holds hr hc
  · intro r hr
    obtain ⟨c, hc, rfl⟩ := st.asked_subset r hr
    exact request_fits (tl.fits c hc)
  · intro filled ok
    exact ⟨st.asked_eq ok, st.hasShape ok blank, st.at?_of_holds ok tl.fits tl.apart blank⟩
  · intro f cells
    exact router.eq_cells tl st cells
  · intro e no
    have failure := st.first_failure no
    refine ⟨failure, ?_⟩
    rintro service get rfl
    obtain ⟨done, c, rest, rfl, -, -, fl⟩ := failure
    obtain ⟨ho, hd, le⟩ := request_fits (tl.fits c (List.mem_append_right _ List.mem_cons_self))
    exact fl.not_complains ho hd le

section Sample

/-- A walk in a straight line. -/
def straightLeg (p q : Point Float) : Option (Leg Float) :=
  some ⟨p.distance q, p.distance q / 1.25⟩

/-- Forty points, more than a request may have. -/
def fortyPoints : List (Point Float) :=
  (List.range 40).map fun n => ⟨41.387 + 0.0001 * n.toFloat, 2.1701⟩

/-- The matrix of forty destinations takes two requests, and is whole. -/
theorem forty_destinations_stitched :
    ([⟨41.387, 2.1701⟩] : List (Point Float)) ≠ [] ∧ fortyPoints ≠ [] ∧
    (routeMatrix (m := Id) ⟨fun os ds => pure (.ofCells straightLeg os ds)⟩
      [⟨41.387, 2.1701⟩] fortyPoints).run.run =
        .ok [fortyPoints.map (straightLeg ⟨41.387, 2.1701⟩)] := by
  have some : fortyPoints ≠ [] := by
    intro none
    cases congrArg List.length none
  obtain ⟨chunks, asked, -, -, -, -, -, -, cells, -⟩ :=
    routeMatrix_stitched ⟨fun os ds => pure (.ofCells straightLeg os ds)⟩
      (List.cons_ne_nil ⟨41.387, 2.1701⟩ []) some
  exact ⟨List.cons_ne_nil _ _, some, cells straightLeg fun os ds _ _ _ => rfl⟩

end Sample

end Router

end Whereabouts
