import Whereabouts.Proofs.Lists
import Whereabouts.Proofs.Walking.Tiling

/-!
# Partitions in words of a machine

A partition is computed with numbers that are neither negative nor above a greatest one. As long as
a side and the size of a request are together within this range, no step of the computation leaves
it, and the chunks are those of `partition`: none is empty, leads past the matrix or is too large
for a request, and every cell is in one of them.

* `Word.add?`, `Word.sub?`: sums and differences that leave the range are none.
* `partition?`: the computation of a partition with them.
* `partition?_eq`: it gives what `partition` gives.
* `partition_single`: where everything fits into one request, there is one chunk.
* `partition_exact`: the main statement.
-/

namespace Whereabouts

namespace Word

/-- The sum of two numbers, `none` where it is above the greatest number. -/
def add? (greatest a b : Nat) : Option Nat := if a + b ≤ greatest then some (a + b) else none

/-- The difference of two numbers, `none` where it is negative. -/
def sub? (a b : Nat) : Option Nat := if b ≤ a then some (a - b) else none

/-- A sum is computed where it is no greater than the greatest number. -/
lemma add?_eq {greatest a b : Nat} (le : a + b ≤ greatest) : add? greatest a b = some (a + b) :=
  if_pos le

/-- A difference is computed where it is not negative. -/
lemma sub?_eq {a b : Nat} (le : b ≤ a) : sub? a b = some (a - b) := if_pos le

end Word

namespace Span

/-- The places where pieces of `step` numbers begin, `none` where the pieces are empty. -/
def starts? (count step : Nat) : Option (List Nat) :=
  if step = 0 then none else some ((List.range ((count + step - 1) / step)).map (· * step))

/-- The piece of a side that begins at a place. -/
def piece? (greatest count step start : Nat) : Option Span := do
  return ⟨start, min (← Word.add? greatest start step) count⟩

variable {greatest count step : Nat}

/-- The starts of the spans are computed. -/
lemma starts?_eq (pos : 0 < step) : starts? count step = some ((cut count step).map (·.start)) := by
  unfold starts? cut
  rw [if_neg (Nat.ne_of_gt pos), List.map_map]
  rfl

/-- A piece ends within the range where the side and the step are together within it. -/
lemma piece?_eq (pos : 0 < step) (le : count + step ≤ greatest) {s : Span}
    (mem : s ∈ cut count step) : piece? greatest count step s.start = some s := by
  obtain ⟨k, lt, rfl⟩ := (mem_cut_iff pos).1 mem
  unfold piece?
  rw [Word.add?_eq (by dsimp only; omega)]
  rfl

/-- A step that is as long as the side makes one piece of it. -/
lemma cut_of_le (pos : 0 < count) (le : count ≤ step) : cut count step = [⟨0, count⟩] := by
  have one : (count + step - 1) / step = 1 := by
    rw [Nat.div_eq_iff (by omega)]
    omega
  unfold cut
  rw [one]
  show [Span.mk (0 * step) (min (0 * step + step) count)] = _
  rw [Nat.zero_mul, Nat.zero_add, Nat.min_eq_right le]

end Span

/-- The chunks with the origins that begin at a place. -/
def Chunk.row? (greatest origins destinations originStep destinationStep start : Nat) :
    Option (List Chunk) := do
  (← Span.starts? destinations destinationStep).mapM fun d => do
    return ⟨← Span.piece? greatest origins originStep start,
      ← Span.piece? greatest destinations destinationStep d⟩

/-- The chunks of a matrix, `none` where a number leaves the range or a step is empty. -/
def chunks? (greatest origins destinations maxPoints : Nat) : Option (List Chunk) := do
  let originStep := max (min origins (← Word.sub? maxPoints (min destinations (maxPoints / 2)))) 1
  let destinationStep := max (← Word.sub? maxPoints originStep) 1
  let rows ← (← Span.starts? origins originStep).mapM
    (Chunk.row? greatest origins destinations originStep destinationStep)
  return rows.flatten

/-- `partition` as it is computed with numbers up to a greatest one. -/
def partition? (greatest origins destinations maxPoints : Nat) :
    Option (Except RoutingError (List Chunk)) :=
  if origins = 0 ∨ destinations = 0 then some (.error .emptySide)
  else if maxPoints < 2 then some (.error (.requestTooSmall maxPoints))
  else (chunks? greatest origins destinations maxPoints).map .ok

section Partition

variable {greatest origins destinations maxPoints : Nat}

/-- The chunks of a row are computed where no sum is too great. -/
lemma Chunk.row?_eq {originStep destinationStep : Nat} (ho : 0 < originStep)
    (hd : 0 < destinationStep) (leo : origins + originStep ≤ greatest)
    (led : destinations + destinationStep ≤ greatest) {o : Span}
    (mem : o ∈ Span.cut origins originStep) :
    row? greatest origins destinations originStep destinationStep o.start =
      some ((Span.cut destinations destinationStep).map fun d => ⟨o, d⟩) := by
  unfold row?
  rw [Span.starts?_eq hd, Option.bind_eq_bind, Option.bind_some, List.mapM_map]
  apply mapM_eq_pure
  intro d mem'
  rw [Function.comp_apply, Span.piece?_eq ho leo mem, Span.piece?_eq hd led mem']
  rfl

/-- No number leaves the range that a side and the size of a request are together in. -/
lemma partition?_eq (room : 2 ≤ maxPoints) (ho : origins + maxPoints ≤ greatest)
    (hd : destinations + maxPoints ≤ greatest) :
    partition? greatest origins destinations maxPoints =
      some (partition origins destinations maxPoints) := by
  unfold partition? partition
  split
  next => rfl
  next =>
    rw [if_neg (Nat.not_lt.2 room), if_neg (Nat.not_lt.2 room)]
    unfold chunks?
    -- at most half of a request is kept for destinations
    have kept : min destinations (maxPoints / 2) ≤ maxPoints := by omega
    rw [Word.sub?_eq kept, Option.bind_eq_bind, Option.bind_some]
    dsimp only
    generalize eo : max (min origins (maxPoints - min destinations (maxPoints / 2))) 1 = originStep
    have step_le : originStep ≤ maxPoints := by omega
    rw [Word.sub?_eq step_le, Option.bind_some]
    generalize ed : max (maxPoints - originStep) 1 = destinationStep
    have step_pos : 0 < originStep := by omega
    have step_pos' : 0 < destinationStep := by omega
    rw [Span.starts?_eq step_pos, Option.bind_eq_bind, Option.bind_some, List.mapM_map, mapM_eq_pure
      (g := fun o => (Span.cut destinations destinationStep).map fun d => ⟨o, d⟩)]
    · rfl
    · intro o mem
      exact Chunk.row?_eq step_pos step_pos' (by omega) (by omega) mem

/-- Where everything fits into one request, there is one chunk. -/
lemma partition_single (ho : 0 < origins) (hd : 0 < destinations)
    (fits : origins + destinations ≤ maxPoints) :
    partition origins destinations maxPoints = .ok [⟨⟨0, origins⟩, ⟨0, destinations⟩⟩] := by
  have originStep :
      max (min origins (maxPoints - min destinations (maxPoints / 2))) 1 = origins := by
    omega
  have destinationStep : destinations ≤ max (maxPoints - origins) 1 := by omega
  unfold partition
  rw [if_neg (by omega), if_neg (by omega)]
  dsimp only
  rw [originStep, Span.cut_of_le ho (Nat.le_refl _), Span.cut_of_le hd destinationStep]
  rfl

end Partition

/-- The input of a request is refused before anything is asked. -/
inductive RoutingError.InvalidInput : RoutingError → Prop where
  | emptySide : InvalidInput .emptySide
  | requestTooSmall (maxPoints) : InvalidInput (.requestTooSmall maxPoints)
  | noBase (url) : InvalidInput (.noBase url)

/-- The computation is refused just where the partition is. -/
lemma partition?_eq_error_iff {greatest origins destinations maxPoints : Nat} {e : RoutingError} :
    partition? greatest origins destinations maxPoints = some (.error e) ↔
      partition origins destinations maxPoints = .error e := by
  unfold partition? partition
  split
  next => exact Option.some_inj
  next =>
    split
    next => exact Option.some_inj
    next =>
      refine ⟨fun eq => ?_, nofun⟩
      obtain ⟨chunks, -, ⟨⟩⟩ := Option.map_eq_some_iff.1 eq

/-- A partition is refused just where a side is empty or a request has no room for one of each. -/
lemma exists_partition_eq_error_iff {origins destinations maxPoints : Nat} :
    (∃ e, partition origins destinations maxPoints = .error e ∧ e.InvalidInput) ↔
      origins = 0 ∨ destinations = 0 ∨ maxPoints < 2 := by
  unfold partition
  rw [← or_assoc]
  split
  next empty => exact ⟨fun _ => .inl empty, fun _ => ⟨_, rfl, .emptySide⟩⟩
  next some =>
    split
    next small => exact ⟨fun _ => .inr small, fun _ => ⟨_, rfl, .requestTooSmall maxPoints⟩⟩
    next room =>
      refine ⟨?_, fun h => absurd h (not_or.2 ⟨some, room⟩)⟩
      rintro ⟨_, ⟨⟩, -⟩

/-- **Partitions are exact.** The input of a partition is invalid just where a side is empty or a
request has no room for one of each. Else, and as long as a side and the size of a request are
together no greater than the greatest number of a machine, no step of the computation leaves the
numbers of the machine, and there are chunks: every cell of the matrix is in exactly one of them,
and each of them is neither empty nor past the end nor too large for a request. Where everything
fits into one request, there is one chunk. -/
theorem partition_exact (greatest origins destinations maxPoints : Nat) :
    ((∃ e, partition origins destinations maxPoints = .error e ∧ e.InvalidInput) ↔
        origins = 0 ∨ destinations = 0 ∨ maxPoints < 2) ∧
      (∀ e, partition? greatest origins destinations maxPoints = some (.error e) ↔
        partition origins destinations maxPoints = .error e) ∧
      (1 ≤ origins → 1 ≤ destinations → 2 ≤ maxPoints → origins + maxPoints ≤ greatest →
        destinations + maxPoints ≤ greatest →
        ∃ chunks, partition origins destinations maxPoints = .ok chunks ∧
          partition? greatest origins destinations maxPoints = some (.ok chunks) ∧
          (∀ row < origins, ∀ column < destinations, chunks.countP (·.holds row column) = 1) ∧
          (∀ c ∈ chunks, c.Fits origins destinations maxPoints) ∧
          (origins + destinations ≤ maxPoints → chunks.length = 1)) := by
  refine ⟨exists_partition_eq_error_iff, fun _ => partition?_eq_error_iff, ?_⟩
  intro some some' room ho hd
  obtain ⟨chunks, eq, tiles⟩ := partition_tiles some some' room
  have computed := partition?_eq room ho hd
  rw [eq] at computed
  refine ⟨chunks, eq, computed, fun _ hr _ hc => tiles.countP_holds hr hc, tiles.fits, ?_⟩
  intro fits
  cases eq.symm.trans (partition_single some some' fits)
  rfl

/-- Thirty origins and forty destinations are cut into chunks of twenty-five points. -/
theorem thirty_by_forty_partitioned :
    1 ≤ 30 ∧ 1 ≤ 40 ∧ 2 ≤ 25 ∧ 30 + 25 ≤ UInt64.size - 1 ∧ 40 + 25 ≤ UInt64.size - 1 ∧
      ∃ chunks, partition 30 40 25 = .ok chunks ∧
        partition? (UInt64.size - 1) 30 40 25 = some (.ok chunks) ∧
        chunks.countP (·.holds 29 39) = 1 := by
  obtain ⟨-, -, cut⟩ := partition_exact (UInt64.size - 1) 30 40 25
  obtain ⟨chunks, eq, computed, once, -⟩ :=
    cut (by decide) (by decide) (by decide) (by decide) (by decide)
  exact ⟨by decide, by decide, by decide, by decide, by decide, chunks, eq, computed,
    once 29 (by decide) 39 (by decide)⟩

end Whereabouts
