import Mathlib.Data.List.Basic
import Whereabouts.GeoJson.File
import Whereabouts.Proofs.Lists

/-!
# Tags as a dictionary

An object of a value that was read from a text is a dictionary: its members come sorted by name, and
each name occurs once. So do the tags of a feature.

* `Json.Keyed`: all objects of a value are dictionaries.
* `Json.Source.keyed_value?`: what is read from a text is such a value.
* `Json.Members.Distinct.get?_eq_some_iff`: a member of a dictionary is found under its name.
* `GeoJson.keyed_tags`: the tags of the features of a text are sorted by name.
-/

namespace Whereabouts

namespace Json

/-- Members sorted by name, each name once. -/
def Members.Sorted (members : Members) : Prop := members.Pairwise fun a b => a.1 < b.1

/-- Members of which no two have the same name, in any order. -/
def Members.Distinct (members : Members) : Prop := (members.map (·.1)).Nodup

/-- The objects in a value are all sorted. -/
inductive Keyed : Json → Prop where
  | null :
    Keyed .null
  | bool {b} :
    Keyed (.bool b)
  | number {n} :
    Keyed (.number n)
  | string {s} :
    Keyed (.string s)
  | array {items} :
    (∀ item ∈ items, Keyed item) →
    Keyed (.array items)
  | object {members : Members} :
    members.Sorted →
    (∀ m ∈ members, Keyed m.2) →
    Keyed (.object members)

namespace Members

variable {members : Members} {key : String} {value : Json}

/-- Members that are sorted have different keys. -/
lemma Sorted.distinct (sorted : members.Sorted) : members.Distinct :=
  (List.pairwise_map.2 sorted).imp Std.ne_of_lt

/-- A member of a dictionary is found under its name. -/
lemma Distinct.get?_eq_some_iff (distinct : members.Distinct) :
    members.get? key = some value ↔ (key, value) ∈ members := by
  induction members with
  | nil => exact ⟨nofun, nofun⟩
  | cons first rest ih =>
    obtain ⟨fresh, distinct⟩ := List.nodup_cons.1 distinct
    have get : get? (first :: rest) key =
        if first.1 = key then some first.2 else get? rest key := by
      unfold get?
      by_cases e : first.1 = key <;> simp [e]
    rw [get, List.mem_cons]
    split
    next e =>
      subst e
      constructor
      · rintro ⟨⟩
        exact .inl rfl
      · rintro (here | there)
        · exact congrArg (fun m => some m.2) here.symm
        · exact absurd (List.mem_map_of_mem there) fresh
    next ne =>
      rw [ih distinct]
      constructor
      · exact .inr
      · rintro (here | there)
        · exact absurd (congrArg Prod.fst here.symm) ne
        · exact there

/-- What is among members after an insertion was inserted, or was there before. -/
lemma mem_insert {m : String × Json} (mem : m ∈ insert key value members) :
    m = (key, value) ∨ m ∈ members := by
  induction members with
  | nil => exact .inl (List.mem_singleton.1 mem)
  | cons first rest ih =>
    unfold insert at mem
    split at mem
    · exact List.mem_cons.1 mem
    · split at mem
      · exact (List.mem_cons.1 mem).imp_right (List.mem_cons_of_mem first)
      · rcases List.mem_cons.1 mem with rfl | mem
        · exact .inr List.mem_cons_self
        · exact (ih mem).imp_right (List.mem_cons_of_mem first)

/-- Members stay sorted when one is inserted. -/
lemma Sorted.insert (sorted : members.Sorted) (key : String) (value : Json) :
    (insert key value members).Sorted := by
  induction members with
  | nil => exact List.pairwise_singleton _ _
  | cons first rest ih =>
    obtain ⟨before, tail⟩ := List.pairwise_cons.1 sorted
    unfold Members.insert
    split
    next lt =>
      refine List.pairwise_cons.2 ⟨fun m mem => ?_, sorted⟩
      rcases List.mem_cons.1 mem with rfl | mem
      · exact lt
      · exact String.lt_trans lt (before m mem)
    next not_lt =>
      split
      next e => exact List.pairwise_cons.2 ⟨fun m mem => e ▸ before m mem, tail⟩
      next ne =>
        refine List.pairwise_cons.2 ⟨fun m mem => ?_, ih tail⟩
        rcases mem_insert mem with rfl | mem
        · exact Std.lt_of_le_of_ne not_lt (Ne.symm ne)
        · exact before m mem

/-- The dictionary of members is sorted, and holds nothing but these members. -/
lemma sorted_sorted (members : Members) :
    members.sorted.Sorted ∧ ∀ m ∈ members.sorted, m ∈ members := by
  have start (acc : Members) (sorted : acc.Sorted) :
      (members.foldl (fun acc m => insert m.1 m.2 acc) acc).Sorted ∧
        ∀ m ∈ members.foldl (fun acc m => insert m.1 m.2 acc) acc, m ∈ acc ∨ m ∈ members := by
    induction members generalizing acc with
    | nil => exact ⟨sorted, fun m mem => .inl mem⟩
    | cons first rest ih =>
      obtain ⟨sorted', held⟩ := ih _ (sorted.insert first.1 first.2)
      refine ⟨sorted', fun m mem => ?_⟩
      rcases held m mem with new | old
      · rcases mem_insert new with rfl | old
        · exact .inr List.mem_cons_self
        · exact .inl old
      · exact .inr (List.mem_cons_of_mem first old)
  obtain ⟨sorted, held⟩ := start [] .nil
  exact ⟨sorted, fun m mem => (held m mem).resolve_left List.not_mem_nil⟩

end Members

/-- A member of a value whose objects are dictionaries is such a value. -/
lemma Keyed.get? {value member : Json} {key : String} (keyed : value.Keyed)
    (there : value.get? key = some member) : member.Keyed := by
  cases keyed with
  | object _ each =>
    obtain ⟨m, found, rfl⟩ := Option.map_eq_some_iff.1 there
    exact each m (List.mem_of_find?_eq_some found)
  | null => cases there
  | bool => cases there
  | number => cases there
  | string => cases there
  | array => cases there

namespace Source

mutual

/-- The objects in what is read from a text are dictionaries. -/
lemma keyed_value? (source : Source) (depth : Nat) {value : Json}
    (read : source.value? depth = some value) : value.Keyed := by
  cases source with
  | broken => cases read
  | null =>
    cases read
    exact .null
  | bool b =>
    cases read
    exact .bool
  | number n =>
    obtain ⟨_, -, rfl⟩ := Option.map_eq_some_iff.1 read
    exact .number
  | string text =>
    obtain ⟨_, -, rfl⟩ := Option.map_eq_some_iff.1 read
    exact .string
  | array items =>
    unfold value? at read
    split at read
    · cases read
    · obtain ⟨values, each, rfl⟩ := Option.map_eq_some_iff.1 read
      exact .array (keyed_itemValues? items _ each)
  | object members =>
    unfold value? at read
    split at read
    · cases read
    · obtain ⟨ms, each, rfl⟩ := Option.map_eq_some_iff.1 read
      obtain ⟨sorted, held⟩ := ms.sorted_sorted
      exact .object sorted fun m mem => keyed_memberValues? members _ each m (held m mem)

/-- The values of an array that was read are sorted at every depth. -/
lemma keyed_itemValues? (items : List Source) (depth : Nat) {values : List Json}
    (read : itemValues? depth items = some values) : ∀ value ∈ values, value.Keyed := by
  cases items with
  | nil =>
    cases read
    exact nofun
  | cons item rest =>
    unfold itemValues? at read
    obtain ⟨first, here, read⟩ := Option.bind_eq_some_iff.1 read
    obtain ⟨values, there, ⟨⟩⟩ := Option.bind_eq_some_iff.1 read
    rintro value (_ | ⟨_, mem⟩)
    · exact keyed_value? item depth here
    · exact keyed_itemValues? rest depth there value mem

/-- The values of an object that was read are sorted at every depth. -/
lemma keyed_memberValues? (members : List (Option String × Source)) (depth : Nat) {ms : Members}
    (read : memberValues? depth members = some ms) : ∀ m ∈ ms, m.2.Keyed := by
  cases members with
  | nil =>
    cases read
    exact nofun
  | cons member rest =>
    obtain ⟨key?, source⟩ := member
    unfold memberValues? at read
    obtain ⟨key, -, read⟩ := Option.bind_eq_some_iff.1 read
    obtain ⟨value, here, read⟩ := Option.bind_eq_some_iff.1 read
    obtain ⟨values, there, ⟨⟩⟩ := Option.bind_eq_some_iff.1 read
    rintro m (_ | ⟨_, mem⟩)
    · exact keyed_value? source depth here
    · exact keyed_memberValues? rest depth there m mem

end

end Source

/-- The objects in the value of a text are dictionaries. -/
lemma keyed_parse? {text : String} {value : Json} (read : parse? text = some value) :
    value.Keyed := by
  unfold parse? Document.value? at read
  split at read
  · exact Source.keyed_value? _ _ read
  · cases read

end Json

namespace GeoJson

/-- What a feature is read from: its place from the geometry, its tags from the properties. -/
lemma feature?_inv {value : Json} {f : Feature} (read : feature? value = some f) :
    ∃ geometry properties, value.get? "geometry" = some geometry ∧
      place? geometry = some f.shape ∧ value.get? "properties" = some properties ∧
      tags? properties = some f.tags := by
  obtain ⟨members, object, read⟩ := Option.bind_eq_some_iff.1 read
  split at read
  case isFalse => cases read
  obtain ⟨geometry, here, read⟩ := Option.bind_eq_some_iff.1 read
  obtain ⟨shape, place, read⟩ := Option.bind_eq_some_iff.1 read
  obtain ⟨properties, there, read⟩ := Option.bind_eq_some_iff.1 read
  obtain ⟨tags, listed, read⟩ := Option.bind_eq_some_iff.1 read
  obtain ⟨id, -, read⟩ := Option.bind_eq_some_iff.1 read
  split at read
  case isFalse => cases read
  cases read
  refine ⟨geometry, properties, ?_, place, ?_, listed⟩
  · exact Option.bind_eq_some_iff.2 ⟨members, object, here⟩
  · exact Option.bind_eq_some_iff.2 ⟨members, object, there⟩

/-- The features of a collection are read from the items of `features`, one from each. -/
lemma ofJson?_inv {value : Json} {features : List Feature}
    (read : Document.ofJson? value = some (.collection features)) :
    ∃ items, value.get? "features" = some (.array items) ∧ items.mapM feature? = some features := by
  obtain ⟨members, object, read⟩ := Option.bind_eq_some_iff.1 read
  split at read
  · obtain ⟨member, here, read⟩ := Option.bind_eq_some_iff.1 read
    obtain ⟨items, array, read⟩ := Option.bind_eq_some_iff.1 read
    obtain ⟨read', each, read⟩ := Option.bind_eq_some_iff.1 read
    split at read
    case isFalse => cases read
    cases read
    cases member <;> cases array
    exact ⟨items, Option.bind_eq_some_iff.2 ⟨members, object, here⟩, each⟩
  · obtain ⟨_, -, ⟨⟩⟩ := Option.map_eq_some_iff.1 read
  · obtain ⟨_, -, ⟨⟩⟩ := Option.map_eq_some_iff.1 read

/-- The tags of a feature of a value whose objects are dictionaries are a dictionary. -/
lemma keyed_feature? {value : Json} (keyed : value.Keyed) {f : Feature}
    (read : feature? value = some f) : f.tags.Sorted := by
  obtain ⟨-, properties, -, -, there, tags⟩ := feature?_inv read
  obtain ⟨id, tags', shape⟩ := f
  cases keyed.get? there with
  | null =>
    cases tags
    exact .nil
  | object sorted _ =>
    cases tags
    exact sorted
  | bool => cases tags
  | number => cases tags
  | string => cases tags
  | array => cases tags

/-- The tags of the features of a text are sorted by name. -/
lemma keyed_tags {text : String} {features : List Feature}
    (read : Document.ofText? text = some (.collection features)) :
    ∀ f ∈ features, f.tags.Sorted := by
  obtain ⟨value, parsed, read⟩ := Option.bind_eq_some_iff.1 read
  obtain ⟨items, listed, each⟩ := ofJson?_inv read
  cases (Json.keyed_parse? parsed).get? listed with
  | array keyed =>
    intro f mem
    obtain ⟨item, mem, read⟩ := exists_of_mem_mapM each mem
    exact keyed_feature? (keyed item mem) read

end GeoJson

end Whereabouts
