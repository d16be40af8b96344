import Mathlib.Data.List.Basic
import Mathlib.Data.List.Nodup
import Whereabouts.Walking.Matrix

/-!
# Chunks tile a matrix

Cutting the two sides of a matrix gives chunks that are small enough for a request and hold every
cell once.

* `Span.apart_cut`, `Span.exists_contains`: the pieces of a side are apart and cover it.
* `Chunk.Tiles`: what it is to tile a matrix.
* `partition_tiles`: the chunks of `partition` do.
-/

namespace Whereabouts

namespace Span

variable {count step : Nat}

/-- A span holds the numbers from its start to its stop. -/
lemma contains_iff {s : Span} {n : Nat} : s.contains n = true ↔ s.start ≤ n ∧ n < s.stop := by
  simp [contains]

/-- The piece with a number begins inside of what is cut. -/
lemma lt_pieces_iff (pos : 0 < step) {k : Nat} :
    k < (count + step - 1) / step ↔ k * step < count := by
  rw [Nat.lt_iff_add_one_le, Nat.le_div_iff_mul_le pos, Nat.add_mul]
  omega

/-- The spans of a cut start at the multiples of the step. -/
lemma mem_cut_iff (pos : 0 < step) {s : Span} :
    s ∈ cut count step ↔
      ∃ k, k * step < count ∧ s = ⟨k * step, min (k * step + step) count⟩ := by
  simp only [cut, List.mem_map, List.mem_range, lt_pieces_iff pos, eq_comm]

/-- The number of the piece that holds a place is the place divided by the step. -/
lemma contains_piece_iff {k n : Nat} (lt : n < count) :
    (⟨k * step, min (k * step + step) count⟩ : Span).contains n = true ↔
      k * step ≤ n ∧ n < (k + 1) * step := by
  rw [contains_iff, Nat.lt_min, Nat.add_mul, Nat.one_mul]
  exact ⟨fun h => ⟨h.1, h.2.1⟩, fun h => ⟨h.1, h.2, lt⟩⟩

/-- No piece is empty or leads past the end, and none is longer than the step. -/
lemma of_mem_cut (pos : 0 < step) {s : Span} (h : s ∈ cut count step) :
    s.start < s.stop ∧ s.stop ≤ count ∧ s.size ≤ step := by
  obtain ⟨k, lt, rfl⟩ := (mem_cut_iff pos).1 h
  refine ⟨?_, Nat.min_le_right _ _, ?_⟩
  · show k * step < min (k * step + step) count
    omega
  · show min (k * step + step) count - k * step ≤ step
    omega

/-- No span of a cut comes twice. -/
lemma nodup_cut (pos : 0 < step) : (cut count step).Nodup := by
  apply List.Nodup.map ?_ List.nodup_range
  intro k l e
  exact Nat.eq_of_mul_eq_mul_right pos (congrArg Span.start e)

/-- Every place stands in a piece. -/
lemma exists_contains (pos : 0 < step) {n : Nat} (lt : n < count) :
    ∃ s ∈ cut count step, s.contains n = true := by
  have le : n / step * step ≤ n := Nat.div_mul_le_self n step
  refine ⟨_, (mem_cut_iff pos).2 ⟨n / step, Nat.lt_of_le_of_lt le lt, rfl⟩, ?_⟩
  rw [contains_piece_iff lt]
  exact ⟨le, Nat.lt_mul_of_div_lt (Nat.lt_succ_self _) pos⟩

/-- A place stands in one piece only. -/
lemma apart_cut (pos : 0 < step) :
    (cut count step).Pairwise fun s t => ∀ n, s.contains n = true → t.contains n = false := by
  apply (nodup_cut pos).imp_of_mem
  intro s t hs ht ne n hsn
  refine Bool.eq_false_iff.2 fun htn => ne ?_
  have lt : n < count := Nat.lt_of_lt_of_le (contains_iff.1 hsn).2 (of_mem_cut pos hs).2.1
  obtain ⟨k, -, rfl⟩ := (mem_cut_iff pos).1 hs
  obtain ⟨l, -, rfl⟩ := (mem_cut_iff pos).1 ht
  obtain ⟨lek, ltk⟩ := (contains_piece_iff lt).1 hsn
  obtain ⟨lel, ltl⟩ := (contains_piece_iff lt).1 htn
  have kl : k < l + 1 := Nat.lt_of_mul_lt_mul_right (Nat.lt_of_le_of_lt lek ltl)
  have lk : l < k + 1 := Nat.lt_of_mul_lt_mul_right (Nat.lt_of_le_of_lt lel ltk)
  have same : k = l := by omega
  rw [same]

/-- A piece of a list has as many items as the piece has places. -/
lemma length_slice {β : Type} {s : Span} {items : List β} (le : s.stop ≤ items.length) :
    (s.slice items).length = s.size := by
  rw [slice, List.length_take, List.length_drop, size]
  omega

/-- A slice has the items of the span. -/
lemma getElem?_slice {β : Type} {s : Span} {items : List β} {n : Nat} (h : s.contains n = true) :
    (s.slice items)[n - s.start]? = items[n]? := by
  obtain ⟨le, lt⟩ := contains_iff.1 h
  rw [slice, List.getElem?_take_of_lt (by rw [size]; omega), List.getElem?_drop]
  congr 1
  omega

end Span

namespace Chunk

/-- Whether a cell belongs to a chunk. -/
def holds (c : Chunk) (row column : Nat) : Bool :=
  c.origins.contains row && c.destinations.contains column

/-- A chunk holds the cells in its origins and destinations. -/
lemma holds_iff {c : Chunk} {row column : Nat} : c.holds row column = true ↔
    c.origins.contains row = true ∧ c.destinations.contains column = true :=
  Bool.and_eq_true_iff

/-- A chunk that is not empty, lies inside of a matrix, and is small enough for a request. -/
structure Fits (c : Chunk) (rows columns maxPoints : Nat) : Prop where
  origins_lt : c.origins.start < c.origins.stop
  origins_le : c.origins.stop ≤ rows
  destinations_lt : c.destinations.start < c.destinations.stop
  destinations_le : c.destinations.stop ≤ columns
  size_le : c.origins.size + c.destinations.size ≤ maxPoints

/-- Chunks that hold every cell of a matrix, and no cell twice. -/
structure Tiles (chunks : List Chunk) (rows columns maxPoints : Nat) : Prop where
  fits : ∀ c ∈ chunks, c.Fits rows columns maxPoints
  apart : chunks.Pairwise fun c d => ∀ row column, c.holds row column = true →
    d.holds row column = false
  covers : ∀ row < rows, ∀ column < columns, ∃ c ∈ chunks, c.holds row column = true

/-- Every cell belongs to exactly one chunk. -/
lemma Tiles.countP_holds {chunks : List Chunk} {rows columns maxPoints row column : Nat}
    (tl : Tiles chunks rows columns maxPoints) (hr : row < rows) (hc : column < columns) :
    chunks.countP (·.holds row column) = 1 := by
  obtain ⟨c, mem, held⟩ := tl.covers row hr column hc
  obtain ⟨before, after, rfl⟩ := List.append_of_mem mem
  obtain ⟨-, rest, cross⟩ := List.pairwise_append.1 tl.apart
  have earlier : ∀ d ∈ before, ¬ d.holds row column = true := by
    intro d hd here
    have off := cross d hd c List.mem_cons_self row column here
    exact Bool.false_ne_true (off.symm.trans held)
  have later : ∀ d ∈ after, ¬ d.holds row column = true := by
    intro d hd here
    have off := (List.pairwise_cons.1 rest).1 d hd row column held
    exact Bool.false_ne_true (off.symm.trans here)
  rw [List.countP_append, List.countP_cons, List.countP_eq_zero.2 earlier,
    List.countP_eq_zero.2 later, if_pos held]

end Chunk

/-- The pieces of the two sides, put together, tile the matrix. -/
lemma tiles_cut {rows columns rowStep columnStep maxPoints : Nat} (hr : 0 < rowStep)
    (hc : 0 < columnStep) (le : rowStep + columnStep ≤ maxPoints) :
    Chunk.Tiles
      ((Span.cut rows rowStep).flatMap fun o => (Span.cut columns columnStep).map fun d => ⟨o, d⟩)
      rows columns maxPoints := by
  constructor
  · intro c mem
    obtain ⟨o, ho, mem⟩ := List.mem_flatMap.1 mem
    obtain ⟨d, hd, rfl⟩ := List.mem_map.1 mem
    obtain ⟨o1, o2, o3⟩ := Span.of_mem_cut hr ho
    obtain ⟨d1, d2, d3⟩ := Span.of_mem_cut hc hd
    exact ⟨o1, o2, d1, d2, Nat.le_trans (Nat.add_le_add o3 d3) le⟩
  · -- chunks of one row of chunks differ in their columns, and others in their rows
    rw [List.pairwise_flatMap]
    constructor
    · intro o _
      apply List.Pairwise.map _ _ (Span.apart_cut hc)
      intro d d' off row column held
      obtain ⟨-, inside⟩ := Chunk.holds_iff.1 held
      exact Bool.and_eq_false_imp.2 fun _ => off column inside
    · apply (Span.apart_cut hr).imp
      intro o o' off c mem c' mem' row column held
      obtain ⟨d, -, rfl⟩ := List.mem_map.1 mem
      obtain ⟨d', -, rfl⟩ := List.mem_map.1 mem'
      obtain ⟨inside, -⟩ := Chunk.holds_iff.1 held
      rw [Chunk.holds, off row inside, Bool.false_and]
  · intro row hrow column hcolumn
    obtain ⟨o, ho, inside⟩ := Span.exists_contains hr hrow
    obtain ⟨d, hd, inside'⟩ := Span.exists_contains hc hcolumn
    exact ⟨⟨o, d⟩, List.mem_flatMap.2 ⟨o, ho, List.mem_map_of_mem hd⟩,
      Chunk.holds_iff.2 ⟨inside, inside'⟩⟩

/-- Where there is something on both sides and a request has room for one of each, the chunks of a
partition tile the matrix. -/
lemma partition_tiles {origins destinations maxPoints : Nat} (ho : 0 < origins)
    (hd : 0 < destinations) (room : 2 ≤ maxPoints) :
    ∃ chunks, partition origins destinations maxPoints = .ok chunks ∧
      Chunk.Tiles chunks origins destinations maxPoints := by
  have some : ¬ (origins = 0 ∨ destinations = 0) := by omega
  rw [partition, if_neg some, if_neg (Nat.not_lt.2 room)]
  refine ⟨_, rfl, tiles_cut (Nat.le_max_right _ _) (Nat.le_max_right _ _) ?_⟩
  -- at least one destination is left room for, so the steps share what a request holds
  have one : 1 ≤ min destinations (maxPoints / 2) := by omega
  omega

end Whereabouts
