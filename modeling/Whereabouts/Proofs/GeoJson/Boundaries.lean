import Whereabouts.Proofs.Admin.Display
import Whereabouts.Proofs.GeoJson.NameTags
import Whereabouts.Proofs.GeoJson.NumberTags
import Whereabouts.Proofs.Lists

/-!
# The boundaries of a collection

A feature with a level, a number, a tag that names it and an area is a boundary. The boundaries of
a collection are those of its features, the country first; within a level they keep their order.

* `GeoJson.Usable`: the features that are boundaries.
* `GeoJson.Extracts`: the boundaries of the features of a list, in their order.
* `GeoJson.boundary?_eq_some_iff`: the boundary of a feature.
* `GeoJson.area_iff`: the features with an area are those with a polygon or several.
* `GeoJson.boundaries_extracted`: the main statement.
-/

namespace Whereabouts.GeoJson

open Json (Members)

/-- A tag gives a name, in a language or without one. -/
def Named (tags : Members) : Prop :=
  ∃ key lang name, Gives key lang ∧ (key, Json.string name) ∈ tags

/-- A feature that is a boundary. -/
structure Usable (f : Feature) : Prop where
  level : ∃ level : Level, TagNat f.tags "admin_level" level.number
  number : ∃ id, Numbered f id
  named : Named f.tags
  area : ∃ area, f.shape = some (.area area)

/-- The boundary that a feature describes. -/
structure Describes (f : Feature) (b : Boundary Float) : Prop where
  level : TagNat f.tags "admin_level" b.level.number
  number : Numbered f b.id
  names : b.names = names f.tags
  population : ∀ n, b.population = some n ↔ TagNat f.tags "population" n
  declared : b.declaredSize = tagFloat? f.tags "area"
  area : f.shape = some (.area b.area)

/-- The boundaries that usable features describe, one for each and in their order. -/
inductive Extracts : List Feature → List (Boundary Float) → Prop where
  | nil :
    Extracts [] []
  | keep {f features b bs} :
    Usable f →
    Describes f b →
    Extracts features bs →
    Extracts (f :: features) (b :: bs)
  | skip {f features bs} :
    ¬ Usable f →
    Extracts features bs →
    Extracts (f :: features) bs

/-- A feature is named where its tags give a name. -/
lemma named_iff {tags : Members} : Named tags ↔ (names tags).isEmpty = false := by
  constructor
  · rintro ⟨key, lang, name, gives, mem⟩
    obtain ⟨last, given⟩ := exists_given mem gives
    obtain ⟨e, mem, -⟩ := Names.exists_entry (Option.isSome_of_eq_some (get?_names_iff.2 given))
    exact List.isEmpty_eq_false_iff.2 (List.ne_nil_of_mem mem)
  · intro named
    obtain ⟨lang, name, -, there, -⟩ := Names.first?_least named
    obtain ⟨key, mem, gives⟩ := (get?_names_iff.1 there).exists_tag
    exact ⟨key, lang, name, gives, mem⟩

variable {f : Feature} {b : Boundary Float}

/-- The boundary of a feature is the one that it describes. -/
lemma boundary?_eq_some_iff : boundary? f = some b ↔ Named f.tags ∧ Describes f b := by
  rw [named_iff]
  constructor
  · intro made
    obtain ⟨level, at_level, made⟩ := Option.bind_eq_some_iff.1 made
    obtain ⟨id, numbered, made⟩ := Option.bind_eq_some_iff.1 made
    cases named : (names f.tags).isEmpty with
    | true =>
      simp only [named] at made
      cases made
    | false =>
      simp only [named] at made
      cases shape : f.shape with
      | none =>
        rw [shape] at made
        cases made
      | some shape' =>
        rw [shape] at made
        cases shape' with
        | area area =>
          cases made
          exact ⟨rfl, level?_eq_some_iff.1 at_level, numericId?_eq_some_iff.1 numbered, rfl,
            fun n => tagNat?_eq_some_iff, rfl, shape⟩
        | _ => cases made
  · rintro ⟨named, level, number, all_names, population, declared, area⟩
    obtain ⟨id, level', names', population', declared', area'⟩ := b
    cases all_names
    cases declared
    have counted : tagNat? f.tags "population" = population' :=
      Option.ext fun n => tagNat?_eq_some_iff.trans (population n).symm
    unfold boundary?
    rw [level?_eq_some_iff.2 level, numericId?_eq_some_iff.2 number, area, counted]
    simp only [Option.bind_eq_bind, Option.bind_some, named]
    rfl

/-- A feature is a boundary if and only if it is usable. -/
lemma usable_iff : Usable f ↔ ∃ b, boundary? f = some b := by
  simp only [boundary?_eq_some_iff]
  constructor
  · rintro ⟨⟨level, at_level⟩, ⟨id, numbered⟩, named, ⟨area, shape⟩⟩
    exact ⟨⟨id, level, names f.tags, tagNat? f.tags "population", tagFloat? f.tags "area", area⟩,
      named, at_level, numbered, rfl, fun n => tagNat?_eq_some_iff, rfl, shape⟩
  · rintro ⟨b, named, d⟩
    exact ⟨⟨_, d.level⟩, ⟨_, d.number⟩, named, ⟨_, d.area⟩⟩

/-- The boundaries of features are those that the usable ones describe. -/
lemma extracts_iff {features : List Feature} {bs : List (Boundary Float)} :
    Extracts features bs ↔ bs = features.filterMap boundary? := by
  constructor
  · intro extracts
    induction extracts with
    | nil => rfl
    | keep usable d _ ih =>
      rw [List.filterMap_cons_some (boundary?_eq_some_iff.2 ⟨usable.named, d⟩), ih]
    | skip unusable _ ih =>
      rw [List.filterMap_cons_none, ih]
      exact Option.eq_none_iff_forall_not_mem.2 fun b made => unusable (usable_iff.2 ⟨b, made⟩)
  · rintro rfl
    induction features with
    | nil => exact .nil
    | cons f features ih =>
      cases made : boundary? f with
      | some b =>
        rw [List.filterMap_cons_some made]
        exact .keep (usable_iff.2 ⟨b, made⟩) (boundary?_eq_some_iff.1 made).2 ih
      | none =>
        rw [List.filterMap_cons_none made]
        refine .skip (fun usable => ?_) ih
        obtain ⟨b, made'⟩ := usable_iff.1 usable
        cases made.symm.trans made'

/-- Sorting puts the boundaries of one level together, in the order of the levels. -/
lemma boundaries_eq (features : List Feature) : boundaries features =
    Level.all.flatMap fun level => (features.filterMap boundary?).filter (·.level = level) := by
  have ascending : Level.all.Pairwise fun a b => a.number < b.number := by decide
  exact mergeSort_rank Boundary.level Level.number ascending fun b _ => Level.mem_all b.level

/-- The type of the geometry of a feature. -/
def geometryType? (value : Json) : Option String :=
  (value.get? "geometry").bind fun geometry => (geometry.get? "type").bind Json.string?

/-- The geometries with an area are polygons and multipolygons. -/
lemma shape?_area_iff {geometry : Json} {shape : Shape} (read : shape? geometry = some shape) :
    (∃ area, shape = .area area) ↔ (geometry.get? "type").bind Json.string? = some "Polygon" ∨
      (geometry.get? "type").bind Json.string? = some "MultiPolygon" := by
  cases geometry with
  | object members =>
    have type : ((Json.object members).get? "type").bind Json.string? = type? members := rfl
    rw [type]
    unfold shape? at read
    obtain ⟨-, read⟩ := Option.ite_none_right_eq_some.1 read
    split at read
    case h_1 e | h_2 e | h_3 e | h_4 e =>
      obtain ⟨c, -, read⟩ := Option.bind_eq_some_iff.1 read
      obtain ⟨_, -, rfl⟩ := Option.map_eq_some_iff.1 read
      simp [e]
    next e =>
      obtain ⟨c, -, read⟩ := Option.bind_eq_some_iff.1 read
      obtain ⟨rings, -, rfl⟩ := Option.map_eq_some_iff.1 read
      exact ⟨fun _ => .inl e, fun _ => ⟨_, rfl⟩⟩
    next e =>
      obtain ⟨c, -, read⟩ := Option.bind_eq_some_iff.1 read
      obtain ⟨items, -, read⟩ := Option.bind_eq_some_iff.1 read
      obtain ⟨polygons, -, ⟨⟩⟩ := Option.bind_eq_some_iff.1 read
      exact ⟨fun _ => .inr e, fun _ => ⟨_, rfl⟩⟩
    next e =>
      obtain ⟨-, ⟨⟩⟩ := Option.ite_none_right_eq_some.1 read
      simp [e]
    next => cases read
  | _ => cases read

/-- The features with an area are those whose geometry is a polygon or a multipolygon. -/
lemma area_iff {value : Json} (read : feature? value = some f) :
    (∃ area, f.shape = some (.area area)) ↔
      geometryType? value = some "Polygon" ∨ geometryType? value = some "MultiPolygon" := by
  obtain ⟨geometry, -, there, place, -, -⟩ := feature?_inv read
  have type : geometryType? value = (geometry.get? "type").bind Json.string? := by
    unfold geometryType?
    rw [there, Option.bind_some]
  rw [type]
  unfold place? at place
  split at place
  · have none := Option.some.inj place
    constructor
    · rintro ⟨area, e⟩
      cases none.trans e
    · rintro (e | e) <;> cases e
  · obtain ⟨shape, shaped, e⟩ := Option.map_eq_some_iff.1 place
    rw [← shape?_area_iff shaped, ← e]
    simp only [Option.some_inj]

/-- A boundary of a collection is the one that one of its usable features describes. -/
lemma exists_feature {features : List Feature} (mem : b ∈ boundaries features) :
    ∃ f ∈ features, Usable f ∧ Describes f b := by
  obtain ⟨f, mem, made⟩ := List.mem_filterMap.1 (List.mem_mergeSort.1 mem)
  exact ⟨f, mem, usable_iff.2 ⟨b, made⟩, (boundary?_eq_some_iff.1 made).2⟩

/-- The name that is reported of a boundary is the preferred one of its names, and the text of a
tag of its feature. -/
lemma reported (usable : Usable f) (d : Describes f b) :
    b.names.Preferred none (BoundaryInfo.ofBoundary b).name ∧
      ∃ key lang, Gives key lang ∧ (key, Json.string (BoundaryInfo.ofBoundary b).name) ∈ f.tags := by
  have named : b.names.isEmpty = false := d.names ▸ named_iff.1 usable.named
  have preferred : b.names.Preferred none (BoundaryInfo.ofBoundary b).name :=
    BoundaryInfo.preferred_localized named none
  have given {l name : String} (there : b.names.get? l = some name) :
      ∃ key lang, Gives key lang ∧ (key, Json.string name) ∈ f.tags := by
    rw [d.names] at there
    obtain ⟨key, mem, gives⟩ := (get?_names_iff.1 there).exists_tag
    exact ⟨key, l, gives, mem⟩
  refine ⟨preferred, ?_⟩
  cases preferred with
  | asked e => cases e
  | plain _ there => exact given there
  | first _ _ there _ => exact given there

/-- **The boundaries of a collection are those of its usable features, in the order of the
levels.** For every list of features they are one boundary for each feature with a level, a number,
a tag that names it and an area, the country first; those of one level come in the order of their
features. Each boundary has a name to show, which is the text of one of the tags. At the levels of a
hierarchy of such boundaries the name is empty if and only if the preferred one of the names is; it
is not where no feature is named with an empty text. The features with an area are those whose
geometry is a polygon or a multipolygon. -/
theorem boundaries_extracted (features : List Feature) :
    (∃ bs, Extracts features bs ∧ (∀ others, Extracts features others → others = bs) ∧
      boundaries features = Level.all.flatMap fun level => bs.filter (·.level = level)) ∧
    (∀ b ∈ boundaries features, b.names.Preferred none (BoundaryInfo.ofBoundary b).name ∧
      ∃ f ∈ features, Usable f ∧ Describes f b ∧ ∃ key lang, Gives key lang ∧
        (key, Json.string (BoundaryInfo.ofBoundary b).name) ∈ f.tags) ∧
    (∀ found h level info, (∀ b ∈ found, b ∈ boundaries features) →
      Hierarchy.ofBoundaries found = some h → h.get? level = some info →
      ∃ b ∈ found, b.level = level ∧ info = BoundaryInfo.ofBoundary b ∧
        (info.name = "" ↔ b.names.Preferred none "") ∧
        ((∀ f ∈ features, ∀ key lang, Gives key lang → (key, Json.string "") ∉ f.tags) →
          info.name ≠ "")) ∧
    ∀ value f, feature? value = some f → ((∃ area, f.shape = some (.area area)) ↔
      geometryType? value = some "Polygon" ∨ geometryType? value = some "MultiPolygon") := by
  refine ⟨⟨_, extracts_iff.2 rfl, fun _ => extracts_iff.1, boundaries_eq features⟩, ?_, ?_,
    fun value f => area_iff⟩
  · intro b mem
    obtain ⟨f, mem, usable, d⟩ := exists_feature mem
    obtain ⟨preferred, tag⟩ := reported usable d
    exact ⟨preferred, f, mem, usable, d, tag⟩
  · intro found h level info all built there
    rw [Hierarchy.get?_ofBoundaries built] at there
    obtain ⟨b, chosen, rfl⟩ := Option.map_eq_some_iff.1 there
    obtain ⟨mem, at_level⟩ := List.mem_filter.1 (Boundary.choose?_least chosen).1
    obtain ⟨f, mem', usable, d⟩ := exists_feature (all b mem)
    obtain ⟨preferred, key, lang, gives, tag⟩ := reported usable d
    refine ⟨b, mem, of_decide_eq_true at_level, rfl, ?_, fun named empty => ?_⟩
    · exact ⟨fun e => e ▸ preferred, fun preferred' => preferred.unique preferred'⟩
    · exact named f mem' key lang gives (empty ▸ tag)

/-- A city with a name in Catalan, whose name without a language is empty. -/
def barcelona : Feature where
  id := some (.text "relation/1")
  tags := [("admin_level", .number (.int 8)), ("name", .string ""), ("name:ca", .string "Barcelona")]
  shape := some (.area [polygon [[⟨0, 0⟩, ⟨0, 3⟩, ⟨3, 3⟩, ⟨3, 0⟩, ⟨0, 0⟩]]])

/-- The city is taken for a boundary and reported with an empty name. -/
theorem barcelona_nameless : ∃ b, boundaries [barcelona] = [b] ∧
    b.names.get? "ca" = some "Barcelona" ∧ b.names.display? = some "" ∧
    ∃ h, Hierarchy.ofBoundaries [b] = some h ∧ (h.get? .city).map (·.name) = some "" := by
  refine ⟨_, List.mergeSort_singleton _, by decide, by decide, _, rfl, by decide⟩

end Whereabouts.GeoJson
