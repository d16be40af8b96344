import Mathlib.Tactic.Linarith
import Mathlib.Tactic.NormNum.Basic
import Whereabouts.Proofs.Geometry.Reals

/-!
# Cutting at the antimeridian

Read over the reals, an envelope around a longitude reaches beyond the map on one side at most, by
less than a turn. Its parts lie on the map, and they hold what the envelope holds there, be it only
after a whole turn.

* `Envelope.Cut`: the ways to cut an envelope.
* `Envelope.Centred.lon_iff`: the longitudes in the parts.
* `Envelope.parts_turned`: the main statement.
-/

namespace Whereabouts.Envelope

/-- The longitudes from the west side to the east side of an envelope. -/
def Spans (e : Envelope ℝ) (lon : ℝ) : Prop := e.minLon ≤ lon ∧ lon ≤ e.maxLon

/-- An envelope that reaches equally far to the west and to the east of a longitude, at most half
round, and whose south is not north of its north. -/
structure Centred (e : Envelope ℝ) (lon reach : ℝ) : Prop where
  on_map : -180 ≤ lon ∧ lon ≤ 180
  half : 0 ≤ reach ∧ reach ≤ 180
  west : e.minLon = lon - reach
  east : e.maxLon = lon + reach
  lats : e.minLat ≤ e.maxLat

/-- The ways to cut an envelope. -/
inductive Cut (e : Envelope ℝ) : List (Envelope ℝ) → Prop where
  | girdle :
    360 ≤ e.maxLon - e.minLon →
    Cut e [⟨-180, e.minLat, 180, e.maxLat⟩]
  | westward :
    e.maxLon - e.minLon < 360 →
    e.minLon < -180 →
    Cut e [⟨e.minLon + 360, e.minLat, 180, e.maxLat⟩, ⟨-180, e.minLat, e.maxLon, e.maxLat⟩]
  | eastward :
    e.maxLon - e.minLon < 360 →
    180 < e.maxLon →
    Cut e [⟨e.minLon, e.minLat, 180, e.maxLat⟩, ⟨-180, e.minLat, e.maxLon - 360, e.maxLat⟩]
  | whole :
    -180 ≤ e.minLon →
    e.maxLon ≤ 180 →
    Cut e [e]

variable {e : Envelope ℝ} {lon reach x : ℝ}

/-- The parts of a real envelope. -/
lemma parts_real (e : Envelope ℝ) : e.parts =
    if 360 ≤ e.maxLon - e.minLon then [⟨-180, e.minLat, 180, e.maxLat⟩]
    else if e.minLon < -180 then
      [⟨e.minLon + 360, e.minLat, 180, e.maxLat⟩, ⟨-180, e.minLat, e.maxLon, e.maxLat⟩]
    else if 180 < e.maxLon then
      [⟨e.minLon, e.minLat, 180, e.maxLat⟩, ⟨-180, e.minLat, e.maxLon - 360, e.maxLat⟩]
    else [e] := by
  norm_num [parts]

/-- An envelope is cut into its parts. -/
lemma cut_parts (e : Envelope ℝ) : e.Cut e.parts := by
  rw [parts_real]
  split_ifs with wide west east
  · exact .girdle wide
  · exact .westward (not_le.1 wide) west
  · exact .eastward (not_le.1 wide) east
  · exact .whole (not_lt.1 west) (not_lt.1 east)

/-- A longitude as it is, and after a whole turn to either side. -/
lemma spans_turned_iff : (∃ k : ℤ, k ∈ [-1, 0, 1] ∧ e.Spans (x + 360 * k)) ↔
    e.Spans (x - 360) ∨ e.Spans x ∨ e.Spans (x + 360) := by
  simp [sub_eq_add_neg]

namespace Centred

variable (c : e.Centred lon reach)

include c

/-- The parts span what the envelope spans, on the map or after a turn. -/
lemma lon_iff (west : -180 < x) (east : x < 180) :
    (∃ part ∈ e.parts, part.Spans x) ↔
      e.Spans (x - 360) ∨ e.Spans x ∨ e.Spans (x + 360) := by
  obtain ⟨⟨from_west, to_east⟩, ⟨narrow, half⟩, left, right, -⟩ := c
  have cut := e.cut_parts
  generalize e.parts = parts at cut
  unfold Spans
  cases cut with
  | girdle wide =>
    simp only [List.mem_singleton, exists_eq_left]
    refine ⟨fun _ => ?_, fun _ => ⟨west.le, east.le⟩⟩
    -- half round on both sides of the centre, so that nothing is left out
    rcases le_or_gt x e.minLon with before | after
    · exact .inr (.inr ⟨by linarith, by linarith⟩)
    rcases le_or_gt x e.maxLon with inside | beyond
    · exact .inr (.inl ⟨after.le, inside⟩)
    · exact .inl ⟨by linarith, by linarith⟩
  | westward short crosses =>
    simp only [List.mem_cons, List.not_mem_nil, or_false, exists_eq_or_imp, exists_eq_left]
    constructor
    · rintro (⟨beyond, -⟩ | ⟨-, within⟩)
      · exact .inl ⟨by linarith, by linarith⟩
      · exact .inr (.inl ⟨by linarith, within⟩)
    · rintro (⟨beyond, -⟩ | ⟨-, within⟩ | ⟨-, within⟩)
      · exact .inl ⟨by linarith, east.le⟩
      · exact .inr ⟨west.le, within⟩
      · exact .inr ⟨west.le, by linarith⟩
  | eastward short crosses =>
    simp only [List.mem_cons, List.not_mem_nil, or_false, exists_eq_or_imp, exists_eq_left]
    constructor
    · rintro (⟨within, -⟩ | ⟨-, beyond⟩)
      · exact .inr (.inl ⟨within, by linarith⟩)
      · exact .inr (.inr ⟨by linarith, by linarith⟩)
    · rintro (⟨within, -⟩ | ⟨within, -⟩ | ⟨-, beyond⟩)
      · exact .inl ⟨by linarith, east.le⟩
      · exact .inl ⟨within, east.le⟩
      · exact .inr ⟨west.le, by linarith⟩
  | whole starts ends =>
    simp only [List.mem_singleton, exists_eq_left]
    constructor
    · exact fun within => .inr (.inl within)
    · rintro (⟨within, -⟩ | within | ⟨-, within⟩)
      · exact absurd within (by linarith)
      · exact within
      · exact absurd within (by linarith)

/-- The parts lie on the map. -/
lemma lon_of_mem {part : Envelope ℝ} (mem : part ∈ e.parts) :
    -180 ≤ part.minLon ∧ part.minLon ≤ part.maxLon ∧ part.maxLon ≤ 180 := by
  obtain ⟨⟨from_west, to_east⟩, ⟨narrow, half⟩, left, right, -⟩ := c
  have cut := e.cut_parts
  generalize e.parts = parts at cut mem
  cases cut with
  | girdle =>
    obtain rfl := List.mem_singleton.1 mem
    norm_num
  | westward =>
    rcases mem with _ | ⟨_, _ | ⟨_, ⟨⟩⟩⟩ <;> dsimp only <;> refine ⟨?_, ?_, ?_⟩ <;> linarith
  | eastward =>
    rcases mem with _ | ⟨_, _ | ⟨_, ⟨⟩⟩⟩ <;> dsimp only <;> refine ⟨?_, ?_, ?_⟩ <;> linarith
  | whole starts ends =>
    obtain rfl := List.mem_singleton.1 mem
    exact ⟨starts, by linarith, ends⟩

end Centred

/-- Two parts share no longitude. -/
lemma apart_parts (e : Envelope ℝ) :
    e.parts.Pairwise fun a b => ∀ x, ¬ (a.Spans x ∧ b.Spans x) := by
  have cut := e.cut_parts
  generalize e.parts = parts at cut
  unfold Spans
  cases cut with
  | girdle => exact List.pairwise_singleton _ _
  | westward short =>
    refine List.pairwise_pair.2 fun x => ?_
    rintro ⟨⟨beyond, -⟩, -, within⟩
    dsimp only at beyond within
    linarith
  | eastward short =>
    refine List.pairwise_pair.2 fun x => ?_
    rintro ⟨⟨within, -⟩, -, beyond⟩
    dsimp only at beyond within
    linarith
  | whole => exact List.pairwise_singleton _ _

/-- To contain a place is to span its longitude, between the latitudes. -/
lemma contains_iff_spans {p : Point ℝ} : e.contains p = true ↔
    e.Spans p.lon ∧ e.minLat ≤ p.lat ∧ p.lat ≤ e.maxLat :=
  contains_iff

/-- A place is in one of the parts where they span its longitude, between the latitudes of all. -/
lemma exists_part_contains_iff {p : Point ℝ} : (∃ part ∈ e.parts, part.contains p = true) ↔
    (∃ part ∈ e.parts, part.Spans p.lon) ∧ e.minLat ≤ p.lat ∧ p.lat ≤ e.maxLat := by
  constructor
  · rintro ⟨part, mem, inside⟩
    obtain ⟨spans, lats⟩ := contains_iff_spans.1 inside
    obtain ⟨south, north⟩ := lat_of_mem_parts mem
    rw [south, north] at lats
    exact ⟨⟨part, mem, spans⟩, lats⟩
  · rintro ⟨⟨part, mem, spans⟩, lats⟩
    obtain ⟨south, north⟩ := lat_of_mem_parts mem
    rw [← south, ← north] at lats
    exact ⟨part, mem, contains_iff_spans.2 ⟨spans, lats⟩⟩

/-- **The parts are the envelope, turned onto the map.** Take an envelope around a longitude of the
map that reaches at most half round, and a place that is not on the antimeridian. The place lies in
one of the parts just where the envelope holds it, as it is or after a whole turn to one side. The
parts are rectangles on the map between the latitudes of the envelope, none of them inverted, and no
two of them share a longitude. -/
theorem parts_turned (c : e.Centred lon reach) :
    (∀ p : Point ℝ, -180 < p.lon → p.lon < 180 →
      ((∃ part ∈ e.parts, part.contains p = true) ↔
        ∃ k : ℤ, k ∈ [-1, 0, 1] ∧ e.contains ⟨p.lat, p.lon + 360 * k⟩ = true)) ∧
    (∀ part ∈ e.parts,
      (-180 ≤ part.minLon ∧ part.minLon ≤ part.maxLon ∧ part.maxLon ≤ 180) ∧
      part.minLat ≤ part.maxLat ∧ part.minLat = e.minLat ∧ part.maxLat = e.maxLat) ∧
    e.parts.Pairwise fun a b => ∀ x, ¬ (a.Spans x ∧ b.Spans x) := by
  refine ⟨fun p west east => ?_, fun part mem => ?_, e.apart_parts⟩
  · have turned : (∃ k : ℤ, k ∈ [-1, 0, 1] ∧ e.contains ⟨p.lat, p.lon + 360 * k⟩ = true) ↔
        (∃ k : ℤ, k ∈ [-1, 0, 1] ∧ e.Spans (p.lon + 360 * k)) ∧
          e.minLat ≤ p.lat ∧ p.lat ≤ e.maxLat := by
      simp only [contains_iff_spans, ← and_assoc, exists_and_right]
    rw [exists_part_contains_iff, turned, c.lon_iff west east, spans_turned_iff]
  · obtain ⟨south, north⟩ := lat_of_mem_parts mem
    refine ⟨c.lon_of_mem mem, ?_, south, north⟩
    rw [south, north]
    exact c.lats

section Sample

/-- A square around a place just west of the antimeridian. -/
noncomputable def overFiji : Envelope ℝ := ⟨178.5, -18, 180.5, -16⟩

/-- A place east of the antimeridian is in one of the parts, as the envelope holds it a turn on. -/
theorem overFiji_turned : overFiji.Centred 179.5 1 ∧
    ∃ part ∈ overFiji.parts, part.contains ⟨-17, -179.75⟩ = true := by
  have c : overFiji.Centred 179.5 1 := by
    constructor <;> norm_num [overFiji]
  refine ⟨c, ((parts_turned c).1 ⟨-17, -179.75⟩ (by norm_num) (by norm_num)).2 ⟨1, by decide, ?_⟩⟩
  apply contains_iff.2
  norm_num [overFiji]

end Sample

end Whereabouts.Envelope
