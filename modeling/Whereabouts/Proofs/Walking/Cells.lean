import Whereabouts.Proofs.Walking.Tiling

/-!
# The cells of a matrix

A matrix is looked at through its shape and through what stands at each place. Putting a chunk over
a matrix keeps the shape, and changes the cells of the chunk only.

* `Matrix.at?_place`, `Matrix.HasShape.place`: what putting a chunk does.
* `Matrix.HasShape.ext`: a matrix is known from its shape and its cells.
* `Matrix.checkShape_cases`: what is found out about the shape of a part.
-/

namespace Whereabouts

namespace Matrix

variable {α : Type}

/-- What stands at a place of a matrix, `none` where the matrix has no such place. -/
def at? (matrix : Matrix α) (row column : Nat) : Option (Option (Leg α)) :=
  (matrix[row]?).bind fun cells => cells[column]?

/-- A matrix with a number of rows, all of which have a number of columns. -/
structure HasShape (matrix : Matrix α) (rows columns : Nat) : Prop where
  length_eq : matrix.length = rows
  row_length : ∀ row ∈ matrix, row.length = columns

variable {matrix part : Matrix α} {rows columns row column : Nat}

/-- A matrix has something at every place within its shape. -/
lemma HasShape.exists_at? (sh : HasShape matrix rows columns) (hr : row < rows)
    (hc : column < columns) : ∃ leg, at? matrix row column = some leg := by
  have lt : row < matrix.length := sh.length_eq ▸ hr
  have lt' : column < matrix[row].length := (sh.row_length _ (List.getElem_mem lt)).symm ▸ hc
  refine ⟨matrix[row][column], ?_⟩
  rw [at?, List.getElem?_eq_getElem lt]
  exact List.getElem?_eq_getElem lt'

/-- A blank matrix has its form. -/
lemma hasShape_blank (rows columns : Nat) :
    HasShape (blank rows columns : Matrix α) rows columns where
  length_eq := List.length_replicate
  row_length row h := by
    rw [List.eq_of_mem_replicate h]
    exact List.length_replicate

/-- The cell of a part is what stands there, if anything does. -/
lemma cell_eq (part : Matrix α) (row column : Nat) :
    cell part row column = (at? part row column).join := rfl

/-- A matrix is known from its shape and its cells. -/
lemma HasShape.ext {other : Matrix α} (sh : HasShape matrix rows columns)
    (sh' : HasShape other rows columns)
    (same : ∀ row < rows, ∀ column < columns, at? matrix row column = at? other row column) :
    matrix = other := by
  apply List.ext_getElem (sh.length_eq.trans sh'.length_eq.symm)
  intro i lt lt'
  have len := sh.row_length _ (List.getElem_mem lt)
  have len' := sh'.row_length _ (List.getElem_mem lt')
  apply List.ext_getElem?
  intro j
  by_cases inside : j < columns
  · have cell := same i (sh.length_eq ▸ lt) j inside
    rw [at?, at?, List.getElem?_eq_getElem lt, List.getElem?_eq_getElem lt'] at cell
    exact cell
  · rw [List.getElem?_eq_none (by omega), List.getElem?_eq_none (by omega)]

/-- The matrix that is computed cell by cell. -/
def ofCells (f : Point α → Point α → Option (Leg α)) (origins destinations : List (Point α)) :
    Matrix α :=
  origins.map fun p => destinations.map (f p)

/-- A matrix of cells has a row for each origin and a column for each destination. -/
lemma hasShape_ofCells (f : Point α → Point α → Option (Leg α))
    (origins destinations : List (Point α)) :
    HasShape (ofCells f origins destinations) origins.length destinations.length where
  length_eq := List.length_map _
  row_length row h := by
    obtain ⟨p, -, rfl⟩ := List.mem_map.1 h
    exact List.length_map _

/-- A matrix of cells has the cell of an origin and a destination at their place. -/
lemma at?_ofCells (f : Point α → Point α → Option (Leg α)) (origins destinations : List (Point α))
    (row column : Nat) : at? (ofCells f origins destinations) row column =
      (origins[row]?).bind fun p => (destinations[column]?).map (f p) := by
  rw [at?, ofCells, List.getElem?_map]
  cases origins[row]? with
  | none => rfl
  | some p => exact List.getElem?_map

/-- A chunk is put over the cells that belong to it, and leaves the others. -/
lemma at?_place (c : Chunk) (part matrix : Matrix α) (row column : Nat) :
    at? (place c part matrix) row column = (at? matrix row column).map fun old =>
      if c.holds row column then cell part (row - c.origins.start) (column - c.destinations.start)
      else old := by
  rw [at?, place, List.getElem?_mapIdx, at?]
  cases matrix[row]? with
  | none => rfl
  | some cells =>
    by_cases inside : c.origins.contains row = true
    · simp [inside, Chunk.holds]
    · simp [inside, Chunk.holds]

/-- A part that is put over a matrix leaves its form as it is. -/
lemma HasShape.place (sh : HasShape matrix rows columns) (c : Chunk) (part : Matrix α) :
    HasShape (Matrix.place c part matrix) rows columns where
  length_eq := List.length_mapIdx.trans sh.length_eq
  row_length cells h := by
    obtain ⟨i, lt, rfl⟩ := List.mem_mapIdx.1 h
    have len := sh.row_length _ (List.getElem_mem lt)
    split
    · exact List.length_mapIdx.trans len
    · exact len

/-- A part has the shape of its chunk, or the first fault of its shape is reported. -/
lemma checkShape_cases (c : Chunk) (part : Matrix α) :
    (HasShape part c.origins.size c.destinations.size ∧ checkShape c part = .ok ()) ∨
      (part.length ≠ c.origins.size ∧
        checkShape c part = .error (.badResponse (.rows c.origins.size part.length))) ∨
      ∃ before cells after, part = before ++ cells :: after ∧ part.length = c.origins.size ∧
        (∀ row ∈ before, row.length = c.destinations.size) ∧
        cells.length ≠ c.destinations.size ∧
        checkShape c part = .error (.badResponse (.columns c.destinations.size cells.length)) := by
  by_cases len : part.length = c.origins.size
  · cases found : part.find? fun row => row.length ≠ c.destinations.size with
    | none =>
      have all := List.find?_eq_none.1 found
      refine .inl ⟨⟨len, fun row h => ?_⟩, ?_⟩
      · simpa using all row h
      · rw [checkShape, if_neg (not_not_intro len), found]
    | some cells =>
      obtain ⟨ne, before, after, rfl, early⟩ := List.find?_eq_some_iff_append.1 found
      refine .inr (.inr ⟨before, cells, after, rfl, len, fun row h => ?_, ?_, ?_⟩)
      · simpa using early row h
      · simpa using ne
      · rw [checkShape, if_neg (not_not_intro len), found]
  · exact .inr (.inl ⟨len, by rw [checkShape, if_pos len]⟩)

end Matrix

end Whereabouts
