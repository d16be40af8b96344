import Whereabouts.Proofs.Lists
import Whereabouts.Proofs.Walking.Address
import Whereabouts.Proofs.Walking.Stitching

/-!
# What a table service answers

The answer to a request for a matrix is two tables. They give a matrix where both are there and have
a row for each origin and a column for each destination, and what the address of the request says of
rows and columns is what they are taken for.

* `TableAnswer.Gives`: the matrix that an answer gives.
* `TableAnswer.matrix_eq_ok_iff`: this is the one that is computed.
* `TableService.Asks`: an address that asks for the ways between points.
* `TableService.request_answered`: the main statement.
-/

namespace Whereabouts

namespace TableAnswer

/-- A table with a number of rows, all of which have a number of columns. -/
structure Fits (table : List (List (Option Float))) (rows columns : Nat) : Prop where
  length_eq : table.length = rows
  row_length : ∀ row ∈ table, row.length = columns

/-- What a table has at a place, `none` where it has no such place. -/
def entry (table : List (List (Option Float))) (row column : Nat) : Option (Option Float) :=
  (table[row]?).bind fun cells => cells[column]?

/-- An answer gives a matrix: it is of a request that did not fail, and has two tables of the right
shape. There is a way where both tables have a number. -/
inductive Gives (answer : TableAnswer) (rows columns : Nat) (matrix : Matrix Float) : Prop where
  | mk {distances durations} :
    answer.code = "Ok" →
    answer.distances = some distances →
    answer.durations = some durations →
    Fits distances rows columns →
    Fits durations rows columns →
    matrix.HasShape rows columns →
    (∀ i j distance duration, entry distances i j = some distance →
      entry durations i j = some duration →
      matrix.at? i j = some (match distance, duration with
        | some distance, some duration => some ⟨distance, duration⟩
        | _, _ => none)) →
    Gives answer rows columns matrix

section Tables

variable {table distances durations : List (List (Option Float))} {rows columns : Nat}

/-- A table of the right form has an entry in every place. -/
lemma Fits.exists_entry (ft : Fits table rows columns) {i j : Nat} (hi : i < rows)
    (hj : j < columns) : ∃ number, entry table i j = some number := by
  have lt : i < table.length := ft.length_eq ▸ hi
  have lt' : j < table[i].length := (ft.row_length _ (List.getElem_mem lt)).symm ▸ hj
  refine ⟨table[i][j], ?_⟩
  rw [entry, List.getElem?_eq_getElem lt]
  exact List.getElem?_eq_getElem lt'

/-- Two tables put together, cell by cell. -/
def combine (distances durations : List (List (Option Float))) : Matrix Float :=
  (distances.zip durations).map fun pair => pair.1.zipWith leg? pair.2

/-- Two tables of the right form are combined to a matrix of this form. -/
lemma hasShape_combine (ft : Fits distances rows columns) (ft' : Fits durations rows columns) :
    (combine distances durations).HasShape rows columns where
  length_eq := by
    rw [combine, List.length_map, List.length_zip, ft.length_eq, ft'.length_eq, Nat.min_self]
  row_length row mem := by
    obtain ⟨⟨ds, us⟩, pair, rfl⟩ := List.mem_map.1 mem
    obtain ⟨left, right⟩ := List.of_mem_zip pair
    rw [List.length_zipWith, ft.row_length ds left, ft'.row_length us right, Nat.min_self]

/-- There is a way where both its distance and its duration are known. -/
lemma leg?_eq (distance duration : Option Float) : leg? distance duration =
    match distance, duration with
    | some distance, some duration => some ⟨distance, duration⟩
    | _, _ => none := by
  cases distance with
  | none => rfl
  | some distance =>
    cases duration with
    | none => rfl
    | some duration => rfl

/-- A cell combines the entries of both tables at its place. -/
lemma at?_combine {i j : Nat} {distance duration : Option Float}
    (here : entry distances i j = some distance) (there : entry durations i j = some duration) :
    (combine distances durations).at? i j = some (leg? distance duration) := by
  obtain ⟨ds, row, cell⟩ := Option.bind_eq_some_iff.1 here
  obtain ⟨us, row', cell'⟩ := Option.bind_eq_some_iff.1 there
  have pair : (distances.zip durations)[i]? = some (ds, us) :=
    List.getElem?_zip_eq_some.2 ⟨row, row'⟩
  rw [Matrix.at?, combine, List.getElem?_map, pair]
  show (ds.zipWith leg? us)[j]? = _
  rw [List.getElem?_zipWith, cell, cell']

/-- A row is read where both its halves have the right length. -/
lemma row_eq_ok_iff {ds us : List (Option Float)} {cells : List (Option (Leg Float))} :
    row columns ds us = .ok cells ↔
      (ds.length = columns ∧ us.length = columns) ∧ cells = ds.zipWith leg? us := by
  unfold row
  split
  next no => exact iff_of_false nofun fun ⟨fits, _⟩ => no.elim (· fits.1) (· fits.2)
  next yes =>
    have fits : ds.length = columns ∧ us.length = columns := by
      rw [not_or, not_not, not_not] at yes
      exact yes
    exact ⟨fun h => ⟨fits, (Except.ok.inj h).symm⟩, fun h => congrArg _ h.2.symm⟩

/-- The rows of two tables are put together where all of them have the right number of columns. -/
lemma mapM_row_eq_ok_iff (len : distances.length = durations.length) {matrix : Matrix Float} :
    ((distances.zip durations).mapM fun (ds, us) => row columns ds us) = .ok matrix ↔
      ((∀ ds ∈ distances, ds.length = columns) ∧ ∀ us ∈ durations, us.length = columns) ∧
        matrix = combine distances durations := by
  rw [mapM_eq_ok_iff]
  simp only [row_eq_ok_iff]
  rw [List.forall₂_and_left, forall₂_eq_map_iff]
  refine and_congr ⟨fun each => ⟨fun ds mem => ?_, fun us mem => ?_⟩, fun ⟨left, right⟩ pair mem => ?_⟩
    Iff.rfl
  · rw [← List.map_fst_zip (Nat.le_of_eq len)] at mem
    obtain ⟨pair, there, rfl⟩ := List.mem_map.1 mem
    exact (each pair there).1
  · rw [← List.map_snd_zip (Nat.le_of_eq len.symm)] at mem
    obtain ⟨pair, there, rfl⟩ := List.mem_map.1 mem
    exact (each pair there).2
  · obtain ⟨mem, mem'⟩ := List.of_mem_zip mem
    exact ⟨left _ mem, right _ mem'⟩

end Tables

variable {answer : TableAnswer} {rows columns : Nat}

/-- The matrix that an answer gives is made of its two tables. -/
lemma gives_iff {matrix : Matrix Float} : answer.Gives rows columns matrix ↔
    ∃ distances durations, answer.code = "Ok" ∧ answer.distances = some distances ∧
      answer.durations = some durations ∧ Fits distances rows columns ∧
      Fits durations rows columns ∧ matrix = combine distances durations := by
  constructor
  · rintro ⟨code, here, there, ft, ft', sh, cells⟩
    refine ⟨_, _, code, here, there, ft, ft', sh.ext (hasShape_combine ft ft') fun i hi j hj => ?_⟩
    obtain ⟨distance, left⟩ := ft.exists_entry hi hj
    obtain ⟨duration, right⟩ := ft'.exists_entry hi hj
    rw [cells i j distance duration left right, at?_combine left right, leg?_eq]
  · rintro ⟨distances, durations, code, here, there, ft, ft', rfl⟩
    exact .mk code here there ft ft' (hasShape_combine ft ft')
      fun i j distance duration left right =>
        (at?_combine left right).trans (congrArg some (leg?_eq distance duration))

/-- The matrix that is computed is the one that the answer gives. -/
theorem matrix_eq_ok_iff {matrix : Matrix Float} :
    answer.matrix rows columns = .ok matrix ↔ answer.Gives rows columns matrix := by
  rw [gives_iff]
  unfold TableAnswer.matrix
  by_cases code : answer.code = "Ok"
  · rw [if_neg (not_not_intro code)]
    cases here : answer.distances with
    | none => exact iff_of_false nofun (by rintro ⟨_, _, -, ⟨⟩, -⟩)
    | some distances =>
      cases there : answer.durations with
      | none => exact iff_of_false nofun (by rintro ⟨_, _, -, -, ⟨⟩, -⟩)
      | some durations =>
        show (if distances.length ≠ rows ∨ durations.length ≠ rows then
            Except.error (.tableRows rows)
          else (distances.zip durations).mapM fun (ds, us) => row columns ds us) = .ok matrix ↔ _
        split
        next no =>
          refine iff_of_false nofun ?_
          rintro ⟨_, _, -, ⟨⟩, ⟨⟩, ft, ft', -⟩
          exact no.elim (· ft.length_eq) (· ft'.length_eq)
        next yes =>
          obtain ⟨rfl, len⟩ : distances.length = rows ∧ durations.length = rows := by
            rw [not_or, not_not, not_not] at yes
            exact yes
          rw [mapM_row_eq_ok_iff len.symm]
          constructor
          · rintro ⟨⟨left, right⟩, rfl⟩
            exact ⟨distances, durations, code, rfl, rfl, ⟨rfl, left⟩, ⟨len, right⟩, rfl⟩
          · rintro ⟨_, _, -, ⟨⟩, ⟨⟩, ft, ft', rfl⟩
            exact ⟨⟨ft.row_length, ft'.row_length⟩, rfl⟩
  · rw [if_pos code]
    exact iff_of_false nofun fun ⟨_, _, ok, _⟩ => code ok

end TableAnswer

namespace TableService

/-- An address asks for the ways between points. The points stand in its last segment, origins first,
and the fields of the query say under which numbers origins and destinations are found there. -/
structure Asks (url : Url) (origins destinations : List (Point Float)) : Prop where
  segment : ∃ front, url.path = .segments (front ++ [places (origins ++ destinations)])
  fields : ∃ query, url.query = some query ∧ query.toList.splitOn '&' =
    ["sources=" ++ numbers 0 origins.length,
      "destinations=" ++ numbers origins.length destinations.length,
      "annotations=distance,duration"].map String.toList
  points : (places (origins ++ destinations)).toList.splitOn ';' =
    (origins ++ destinations).map fun p =>
      (Decimal.fixed 6 p.lon ++ "," ++ Decimal.fixed 6 p.lat).toList
  sources : (numbers 0 origins.length).toList.splitOn ';' =
    (List.range origins.length).map fun n => (toString n).toList
  targets : (numbers origins.length destinations.length).toList.splitOn ';' =
    (List.range destinations.length).map fun n => (toString (origins.length + n)).toList
  origin : ∀ (i : Nat) (p : Point Float), origins[i]? = some p →
    ((numbers 0 origins.length).toList.splitOn ';')[i]? = some (toString i).toList ∧
    ((places (origins ++ destinations)).toList.splitOn ';')[i]? =
      some (coordinates p).toList
  destination : ∀ (j : Nat) (p : Point Float), destinations[j]? = some p →
    ((numbers origins.length destinations.length).toList.splitOn ';')[j]? =
      some (toString (origins.length + j)).toList ∧
    ((places (origins ++ destinations)).toList.splitOn ';')[origins.length + j]? =
      some (coordinates p).toList

section Request

variable {service : TableService} {path : List String} {origins destinations : List (Point Float)}

/-- The service is asked where its address has a path. -/
lemma exists_asks (base : service.base.path = .segments path) (someOrigins : origins ≠ [])
    (someDestinations : destinations ≠ []) :
    ∃ url, service.request origins destinations = .ok url ∧ Asks url origins destinations := by
  have made : ∃ front, service.request origins destinations = .ok _ := request_eq base someOrigins
  obtain ⟨front, made⟩ := made
  have points := splitOn_places (List.append_ne_nil_of_left_ne_nil someOrigins destinations)
  have sources : (numbers 0 origins.length).toList.splitOn ';' =
      (List.range origins.length).map fun n => (toString n).toList := by
    rw [splitOn_numbers (List.length_pos_iff.2 someOrigins), ← List.range_eq_range']
  have targets : (numbers origins.length destinations.length).toList.splitOn ';' =
      (List.range destinations.length).map fun n => (toString (origins.length + n)).toList := by
    rw [splitOn_numbers (List.length_pos_iff.2 someDestinations), List.range'_eq_map_range,
      List.map_map]
    rfl
  refine ⟨_, made, ⟨front, rfl⟩, ⟨_, rfl, splitOn_query _ _⟩, points, sources, targets,
    fun i p here => ?_, fun j p here => ?_⟩
  · have lt := (List.getElem?_eq_some_iff.1 here).1
    rw [sources, points, List.getElem?_map, List.getElem?_map, List.getElem?_range lt,
      List.getElem?_append_left lt, here]
    exact ⟨rfl, rfl⟩
  · have lt := (List.getElem?_eq_some_iff.1 here).1
    rw [targets, points, List.getElem?_map, List.getElem?_map, List.getElem?_range lt,
      List.getElem?_append_right (Nat.le_add_right _ _), Nat.add_sub_cancel_left, here]
    exact ⟨rfl, rfl⟩

/-- A request that is small enough is made, and the answer to it is read. -/
lemma matrix_eq_read {m : Type → Type} [Monad m] [LawfulMonad m]
    (get : Url → m (Option WebResponse))
    (size : checkSize origins.length destinations.length = .ok ()) {url : Url}
    (made : service.request origins destinations = .ok url) :
    (service.router get).matrix origins destinations =
      ExceptT.mk ((read · origins.length destinations.length) <$> get url) := by
  unfold router
  dsimp only
  rw [size, made]
  show ((pure () : ExceptT RoutingError m Unit) >>= fun _ =>
    (pure url : ExceptT RoutingError m Url) >>= fun url => ExceptT.lift (get url) >>= _) = _
  rw [pure_bind, pure_bind]
  apply ExceptT.ext
  rw [ExceptT.run_bind_lift]
  exact bind_pure_comp _ _

/-- The answer to a request that did not fail gives its matrix, or is a bad one. -/
lemma read_eq {response : WebResponse} {answer : TableAnswer} {rows columns : Nat}
    (fine : ¬ (400 ≤ response.status ∧ response.status < 600))
    (decoded : (Json.read response.body).decode TableAnswer.decode = .ok answer) :
    read (some response) rows columns = (answer.matrix rows columns).mapError .badResponse := by
  unfold read
  dsimp only
  rw [if_neg fine, decoded]

end Request

/-- **A table service is asked for the points that its answer is read for.** Take points on both
sides, together not more than a request may have, and any service below an address with a path. Then
the service is asked with an address that lists the origins and then the destinations, and numbers
both of them by their places in this list. An answer to this gives a matrix just where the service
has not failed and both tables have a row for each origin and a cell for each destination; the cells
of the matrix are those of the tables. Any other answer is a bad one. -/
theorem request_answered {service : TableService} {path : List String}
    {origins destinations : List (Point Float)} (base : service.base.path = .segments path)
    (someOrigins : origins ≠ []) (someDestinations : destinations ≠ [])
    (le : origins.length + destinations.length ≤ maxMatrixPoints) :
    ∃ url, service.request origins destinations = .ok url ∧ Asks url origins destinations ∧
      (∀ {m : Type → Type} [Monad m] [LawfulMonad m] (get : Url → m (Option WebResponse)),
        (service.router get).matrix origins destinations =
          ExceptT.mk ((read · origins.length destinations.length) <$> get url)) ∧
      ∀ (response : WebResponse) (answer : TableAnswer),
        ¬ (400 ≤ response.status ∧ response.status < 600) →
        (Json.read response.body).decode TableAnswer.decode = .ok answer →
        (∀ matrix, read (some response) origins.length destinations.length = .ok matrix ↔
          answer.Gives origins.length destinations.length matrix) ∧
        ((∀ matrix, ¬ answer.Gives origins.length destinations.length matrix) → ∃ cause,
          read (some response) origins.length destinations.length =
            .error (.badResponse cause)) := by
  obtain ⟨url, made, asks⟩ := exists_asks base someOrigins someDestinations
  have size := checkSize_eq_ok (List.length_pos_iff.2 someOrigins)
    (List.length_pos_iff.2 someDestinations) le
  refine ⟨url, made, asks, fun get => matrix_eq_read get size made,
    fun response answer fine decoded => ?_⟩
  rw [read_eq fine decoded]
  cases computed : answer.matrix origins.length destinations.length with
  | error cause =>
    have none : ∀ matrix, ¬ answer.Gives origins.length destinations.length matrix :=
      fun matrix gives => nomatch computed.symm.trans (TableAnswer.matrix_eq_ok_iff.2 gives)
    exact ⟨fun matrix => iff_of_false nofun (none matrix), fun _ => ⟨cause, rfl⟩⟩
  | ok given =>
    have gives := TableAnswer.matrix_eq_ok_iff.1 computed
    refine ⟨fun matrix => ?_, fun none => absurd gives (none given)⟩
    rw [← TableAnswer.matrix_eq_ok_iff, computed]
    exact ⟨fun h => congrArg _ (Except.ok.inj h), fun h => congrArg _ (Except.ok.inj h)⟩

/-- A service on this machine. -/
def localService : TableService :=
  ⟨⟨"http", some "localhost:5000", .segments [""], none, none⟩, "foot"⟩

/-- One origin and two destinations are numbered from zero on, and a refusal is a bad response. -/
theorem two_destinations_asked :
    let origins : List (Point Float) := [⟨41.387, 2.1701⟩]
    let destinations : List (Point Float) := [⟨41.3859, 2.164⟩, ⟨41.3866, 2.1707⟩]
    localService.base.path = .segments [""] ∧ origins ≠ [] ∧ destinations ≠ [] ∧
    origins.length + destinations.length ≤ maxMatrixPoints ∧
    (∃ url query, localService.request origins destinations = .ok url ∧
      url.query = some query ∧ query.toList.splitOn '&' =
        ["sources=0", "destinations=1;2", "annotations=distance,duration"].map String.toList) ∧
    ∃ cause, read (some ⟨200, "\x7b\"code\": \"InvalidQuery\"\x7d"⟩) 1 2 =
      .error (.badResponse cause) := by
  intro origins destinations
  have base : localService.base.path = .segments [""] := rfl
  have someOrigins : origins ≠ [] := List.cons_ne_nil _ _
  have someDestinations : destinations ≠ [] := List.cons_ne_nil _ _
  have le : origins.length + destinations.length ≤ maxMatrixPoints := by decide
  obtain ⟨url, made, asks, -, answered⟩ :=
    request_answered base someOrigins someDestinations le
  obtain ⟨query, there, fields⟩ := asks.fields
  have sources : "sources=" ++ numbers 0 1 = "sources=0" := by decide
  have targets : "destinations=" ++ numbers 1 2 = "destinations=1;2" := by decide
  rw [show origins.length = 1 from rfl, show destinations.length = 2 from rfl, sources, targets]
    at fields
  have code : ((Json.read "\x7b\"code\": \"InvalidQuery\"\x7d").decode
      TableAnswer.decode).toOption.map (·.code) = some "InvalidQuery" := by decide +kernel
  refine ⟨base, someOrigins, someDestinations, le, ⟨url, query, made, there, fields⟩, ?_⟩
  cases decoded : (Json.read "\x7b\"code\": \"InvalidQuery\"\x7d").decode TableAnswer.decode with
  | error fault =>
    rw [decoded] at code
    exact absurd code (Option.some_ne_none _).symm
  | ok answer =>
    rw [decoded] at code
    refine (answered ⟨200, _⟩ answer (by decide) decoded).2 fun matrix gives => ?_
    cases gives with
    | mk ok =>
      have differs : "InvalidQuery" = "Ok" := (Option.some.inj code).symm.trans ok
      exact absurd differs (by decide)

end TableService

end Whereabouts
