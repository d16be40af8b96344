import Whereabouts.Proofs.Transit.Stations

/-!
# Stops that share a name

Stops of one station share a name, with one exception: a stop without a name stands for itself, under
its own identifier, and this may be the key of another stop's name. Then the two are taken for one
station although they share no name.

* `StopHit.exists_kept`: why a stop is dropped.
* `StopHit.oneName_iff`: stops are dropped for their names alone where none borrows a name.
* `StopHit.not_borrows`: no name is borrowed by an identifier that is no key.
* `StopHit.dedup_namesakes`: the main statement, over doubles.
-/

namespace Whereabouts

namespace Text

/-- A key consists of characters for keys. -/
lemma isKeyChar_of_mem {name : String} {c : Char} (mem : c ∈ (nameKey name).toList) :
    isKeyChar c = true := by
  rw [nameKey, String.toList_ofList] at mem
  obtain ⟨d, -, mem⟩ := List.mem_flatMap.1 mem
  exact (List.mem_filter.1 mem).2

end Text

namespace StopHit

variable {α : Type} {a b hit kept : StopHit α} {hits : List (StopHit α)}

/-- Whether two stops have one name that can be used. -/
def Namesakes (a b : StopHit α) : Prop := a.stop.nameKey ≠ "" ∧ a.stop.nameKey = b.stop.nameKey

/-- Whether a stop without a usable name has the key of another one's name for its identifier. -/
def Borrows (a b : StopHit α) : Prop :=
  a.stop.nameKey = "" ∧ b.stop.nameKey ≠ "" ∧ a.stop.id = b.stop.nameKey

/-- Whether stops are dropped only for a namesake that is kept and that they do not beat. -/
def OneName [Scalar α] (hits : List (StopHit α)) : Prop :=
  ∀ hit ∈ hits, hit ∉ dedup hits →
    ∃ kept ∈ dedup hits, kept.Namesakes hit ∧ ¬ hit.beats kept = true

/-- A stop with a name is of the station of this name. -/
lemma station_named (h : a.stop.nameKey ≠ "") : a.station = a.stop.nameKey :=
  if_neg (mt String.isEmpty_iff.1 h)

/-- A stop without a name is a station of its own. -/
lemma station_unnamed (h : a.stop.nameKey = "") : a.station = a.stop.id :=
  if_pos (String.isEmpty_iff.2 h)

/-- A stop that borrows the name of another one is of its station. -/
lemma station_eq_of_borrows (h : a.Borrows b) : a.station = b.station := by
  obtain ⟨unnamed, named, same⟩ := h
  rw [station_unnamed unnamed, station_named named, same]

/-- Two stops of one station with identifiers of their own are namesakes, or one of them borrows the
name of the other. -/
lemma namesakes_or_borrows (ids : a.stop.id ≠ b.stop.id) (same : a.station = b.station) :
    a.Namesakes b ∨ a.Borrows b ∨ b.Borrows a := by
  by_cases ha : a.stop.nameKey = "" <;> by_cases hb : b.stop.nameKey = ""
  · rw [station_unnamed ha, station_unnamed hb] at same
    exact absurd same ids
  · rw [station_unnamed ha, station_named hb] at same
    exact .inr (.inl ⟨ha, hb, same⟩)
  · rw [station_named ha, station_unnamed hb] at same
    exact .inr (.inr ⟨hb, ha, same.symm⟩)
  · rw [station_named ha, station_named hb] at same
    exact .inl ⟨ha, same⟩

/-- Whether a stop has the key that its names give. -/
def Named (hit : StopHit α) : Prop :=
  ∃ id names mode location, hit.stop = .ofNames id names mode location

/-- Whether a stop can be told from a name by its identifier, where it has no name. -/
def Marked (hit : StopHit α) : Prop :=
  hit.stop.nameKey = "" → ∃ c ∈ hit.stop.id.toList, Text.isKeyChar c = false

/-- The key of a named stop holds characters of keys only. -/
lemma isKeyChar_of_named (named : hit.Named) {c : Char} (mem : c ∈ hit.stop.nameKey.toList) :
    Text.isKeyChar c = true := by
  obtain ⟨id, names, mode, location, made⟩ := named
  rw [made] at mem
  dsimp only [Stop.ofNames] at mem
  cases display : names.display? with
  | none =>
    rw [display] at mem
    cases mem
  | some name =>
    rw [display] at mem
    exact Text.isKeyChar_of_mem mem

/-- No name is borrowed by an identifier that is no key. -/
lemma not_borrows (marked : a.Marked) (named : b.Named) : ¬ a.Borrows b := by
  rintro ⟨unnamed, -, same⟩
  obtain ⟨c, mem, mark⟩ := marked unnamed
  rw [same] at mem
  rw [isKeyChar_of_named named mem] at mark
  cases mark

variable [Scalar α] [RankedScalar α]

/-- Why a stop is dropped: another one of its station is kept, which it does not beat. -/
lemma exists_kept (ids : (hits.map fun hit => hit.stop.id).Nodup) (mem : hit ∈ hits)
    (dropped : hit ∉ dedup hits) : ∃ kept ∈ dedup hits, kept.stop.id ≠ hit.stop.id ∧
      kept.station = hit.station ∧ ¬ hit.beats kept = true := by
  have keeps := keeps_dedup hits
  obtain ⟨kept, hk, same⟩ := keeps.covers hit mem
  have ne : kept ≠ hit := fun e => dropped (e ▸ hk)
  exact ⟨kept, hk, ids_ne ids (keeps.subset hk) mem ne, same,
    keeps.unbeaten kept hk hit mem same.symm⟩

/-- Stops are dropped for their names alone exactly where none borrows the name of another. -/
lemma oneName_iff (ids : (hits.map fun hit => hit.stop.id).Nodup) :
    OneName hits ↔ ∀ a ∈ hits, ∀ b ∈ hits, ¬ a.Borrows b := by
  have keeps := keeps_dedup hits
  constructor
  · intro law a ha b hb borrows
    by_cases keep : a ∈ dedup hits
    · -- then the stop whose name is borrowed is dropped, for the sake of this one
      have dropped : b ∉ dedup hits := fun keep' => by
        have e := List.inj_on_of_nodup_map keeps.stations keep keep' (station_eq_of_borrows borrows)
        exact borrows.2.1 (e ▸ borrows.1)
      obtain ⟨kept, hk, ⟨named, same⟩, -⟩ := law b hb dropped
      have station : kept.station = a.station := by
        rw [station_eq_of_borrows borrows, station_named named, same, station_named (same ▸ named)]
      have e := List.inj_on_of_nodup_map keeps.stations hk keep station
      exact named (e ▸ borrows.1)
    · obtain ⟨kept, -, ⟨named, same⟩, -⟩ := law a ha keep
      exact named (same.trans borrows.1)
  · intro none hit mem dropped
    obtain ⟨kept, hk, ne, same, unbeaten⟩ := exists_kept ids mem dropped
    rcases namesakes_or_borrows ne same with namesakes | borrows | borrows
    · exact ⟨kept, hk, namesakes, unbeaten⟩
    · exact absurd borrows (none kept (keeps.subset hk) hit mem)
    · exact absurd borrows (none hit mem kept (keeps.subset hk))

section Main

variable {hits : List (StopHit Float)}

/-- A stop is dropped for one of its station that is kept: a namesake, or a stop whose identifier is
the key of this one's name, or the other way round. The one that is kept is not beaten by the one
that is dropped, and beats it where both distances are numbers. So stops are dropped for their names
alone exactly where none borrows the name of another, and that is so where the identifiers of stops
without a name are no keys, such as those with a slash. -/
theorem dedup_namesakes (ids : (hits.map fun hit => hit.stop.id).Nodup) :
    (∀ hit ∈ hits, hit ∉ dedup hits → ∃ kept ∈ dedup hits,
      (kept.Namesakes hit ∨ kept.Borrows hit ∨ hit.Borrows kept) ∧ ¬ hit.beats kept = true ∧
        (kept.distance.isNaN = false → hit.distance.isNaN = false → kept.beats hit = true)) ∧
    (OneName hits ↔ ∀ a ∈ hits, ∀ b ∈ hits, ¬ a.Borrows b) ∧
    ((∀ hit ∈ hits, hit.Named ∧ hit.Marked) → OneName hits) := by
  refine ⟨?why, oneName_iff ids, ?marked⟩
  case why =>
    intro hit mem dropped
    obtain ⟨kept, hk, ne, same, unbeaten⟩ := exists_kept ids mem dropped
    refine ⟨kept, hk, namesakes_or_borrows ne same, unbeaten, fun number number' => ?_⟩
    exact beats_of_not ne (Geometry.beq_self_iff.2 number) (Geometry.beq_self_iff.2 number') unbeaten
  case marked =>
    intro marked
    exact (oneName_iff ids).2 fun a ha b hb => not_borrows (marked a ha).2 (marked b hb).1

end Main

section Sample

/-- The stops by their names and by the slashes of their identifiers. -/
theorem diagonal_stops_one_name :
    (diagonalStops.map fun hit => hit.stop.id).Nodup ∧ OneName diagonalStops := by
  have ids : (diagonalStops.map fun hit => hit.stop.id).Nodup := by decide
  have slash {hit : StopHit Float} (mem : '/' ∈ hit.stop.id.toList) : hit.Marked :=
    fun _ => ⟨'/', mem, by decide⟩
  refine ⟨ids, (dedup_namesakes ids).2.2 ?_⟩
  rintro hit (_ | ⟨_, _ | ⟨_, _ | ⟨_, ⟨⟩⟩⟩⟩)
  all_goals exact ⟨⟨_, _, _, _, rfl⟩, slash (by decide)⟩

/-- A stop without a name, and a nearer one whose name has the key that is its identifier. -/
def poleAndStation : List (StopHit Float) :=
  [busStop "diagonal" .empty 20.0, busStop "node/1" diagonal 10.0]

/-- The stop without a name is dropped, for one that has a name. -/
theorem pole_taken_for_station :
    (poleAndStation.map fun hit => hit.stop.id).Nodup ∧ ¬ OneName poleAndStation ∧
      ∃ pole ∈ poleAndStation, pole.stop.nameKey = "" ∧ pole ∉ dedup poleAndStation := by
  have kept : poleAndStation.foldl keepNearest [] = [busStop "node/1" diagonal 10.0] := by rfl
  have dropped : busStop "diagonal" .empty 20.0 ∉ dedup poleAndStation := by
    rw [(dedup_perm_kept _).mem_iff, kept, List.mem_singleton]
    intro e
    exact absurd (congrArg (fun hit => hit.stop.id) e) (by decide)
  refine ⟨by decide, fun law => ?_, _, List.mem_cons_self, rfl, dropped⟩
  obtain ⟨kept, -, ⟨named, same⟩, -⟩ := law _ List.mem_cons_self dropped
  exact named same

end Sample

end StopHit

end Whereabouts
