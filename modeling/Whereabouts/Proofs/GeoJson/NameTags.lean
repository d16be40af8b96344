import Whereabouts.Proofs.GeoJson.Tags

/-!
# The names in the tags of a feature

The tag `name` gives the name without a language, a tag such as `name:ca` the name in a language.
Both are kept in one table, in which the name without a language stands under `default`; a tag
`name:default` gives a name for the same place, and the tag that is visited last is kept.

* `GeoJson.Gives`: which tags give the name in a language.
* `GeoJson.get?_names_iff`: the name in a language is the one that was given last.
* `GeoJson.get?_names_translated`: in a language of its own it is the text of one tag.
* `GeoJson.get?_names_plain`: without a language it is the text of `name:default` or of `name`.
* `GeoJson.names_collected`: the main statement.
-/

namespace Whereabouts

namespace Names

/-- Putting a name under a language changes what is found there, and nothing else. -/
lemma find?_put (lang name l : String) (entries : List (String × String)) :
    ((put lang name entries).find? fun e => e.1 == l) =
      if lang = l then some (lang, name) else entries.find? fun e => e.1 == l := by
  have first (e : String × String) (rest : List (String × String)) :
      ((e :: rest).find? fun e => e.1 == l) =
        if e.1 = l then some e else rest.find? fun e => e.1 == l := by
    rw [List.find?_cons]
    by_cases same : e.1 = l
    · rw [if_pos same, beq_iff_eq.2 same]
    · rw [if_neg same, beq_eq_false_iff_ne.2 same]
  induction entries with
  | nil => exact first (lang, name) []
  | cons e entries ih =>
    unfold put
    split
    · exact first (lang, name) (e :: entries)
    · split
      next same =>
        rw [first, first, ← same]
        split <;> rfl
      next other =>
        rw [first, first, ih]
        split
        next there => rw [if_neg (there ▸ other)]
        next => rfl

/-- A name that is put in is found, and the others stay. -/
lemma get?_insert (names : Names) (lang name l : String) :
    (names.insert lang name).get? l = if lang = l then some name else names.get? l := by
  show ((put lang name names.entries).find? fun e => e.1 == l).map (·.2) = _
  rw [find?_put]
  split <;> rfl

end Names

namespace Json.Members

variable {members : Members} {key text : String}

/-- The text of a member. -/
def text? (members : Members) (key : String) : Option String :=
  (members.get? key).bind Json.string?

/-- A tag has a text where its value is one. -/
lemma text?_eq_some_iff :
    members.text? key = some text ↔ members.get? key = some (.string text) := by
  constructor
  · intro there
    obtain ⟨value, there, string⟩ := Option.bind_eq_some_iff.1 there
    cases value <;> cases string
    exact there
  · intro there
    exact Option.bind_eq_some_iff.2 ⟨_, there, rfl⟩

end Json.Members

namespace GeoJson

open Json (Members)

/-- What comes after a word is the rest of a text that begins with it. -/
lemma after?_eq_some_iff {word s rest : String} : after? word s = some rest ↔ s = word ++ rest := by
  have taken (cs : List Char) : (word.toList ++ cs).drop word.length = cs := by
    rw [← String.length_toList, List.drop_left]
  unfold after?
  constructor
  · intro there
    split at there
    next is_prefix =>
      obtain ⟨cs, e⟩ := List.isPrefixOf_iff_prefix.1 is_prefix
      rw [← e, taken] at there
      rw [← Option.some.inj there, ← String.toList_inj, ← e]
      simp
    next => cases there
  · rintro rfl
    rw [String.toList_append, if_pos (List.isPrefixOf_iff_prefix.2 (List.prefix_append _ _)), taken,
      String.ofList_toList]

/-- The tags that give the name in a language, or the one without a language. -/
inductive Gives : String → String → Prop where
  | plain :
    Gives "name" Names.defaultKey
  | translated (lang) :
    Gives ("name:" ++ lang) lang

/-- None of the tags gives the name in a language. -/
def Silent (lang : String) (tags : Members) : Prop :=
  ∀ tag ∈ tags, ∀ name, tag.2 = .string name → ¬ Gives tag.1 lang

/-- The name in a language that is given last. -/
inductive Given (lang : String) : Members → String → Prop where
  | here {key name later} :
    Gives key lang →
    Silent lang later →
    Given lang ((key, .string name) :: later) name
  | later {tag tags name} :
    Given lang tags name →
    Given lang (tag :: tags) name

/-- The tag `name:` with the language after it gives the name in a language of its own. -/
lemma gives_iff {key lang : String} (own : lang ≠ Names.defaultKey) :
    Gives key lang ↔ key = "name:" ++ lang := by
  constructor
  · rintro (_ | _)
    · exact absurd rfl own
    · rfl
  · rintro rfl
    exact .translated lang

/-- The name without a language is given by two tags. -/
lemma gives_defaultKey_iff {key : String} :
    Gives key Names.defaultKey ↔ key = "name" ∨ key = "name:default" := by
  constructor
  · intro gives
    cases gives with
    | plain => exact .inl rfl
    | translated => exact .inr rfl
  · rintro (rfl | rfl)
    · exact .plain
    · exact .translated "default"

variable {tags : Members} {lang : String}

/-- A tag that gives the name in a language sets it. -/
lemma get?_addName_of_gives (names : Names) {key name : String} (gives : Gives key lang) :
    (addName names (key, .string name)).get? lang = some name := by
  cases gives with
  | plain => exact (names.get?_insert ..).trans (if_pos rfl)
  | translated =>
    have other : ("name:" ++ lang == "name") = false := by
      rw [beq_eq_false_iff_ne, ne_eq, ← String.toList_inj, String.toList_append]
      intro e
      cases congrArg (·.drop 4) e
    unfold addName
    rw [other, after?_eq_some_iff.2 rfl]
    exact (names.get?_insert ..).trans (if_pos rfl)

/-- A tag that does not give the name in a language leaves it as it is. -/
lemma get?_addName_of_not (names : Names) {tag : String × Json}
    (silent : ∀ name, tag.2 = .string name → ¬ Gives tag.1 lang) :
    (addName names tag).get? lang = names.get? lang := by
  obtain ⟨key, value⟩ := tag
  unfold addName
  split
  next name text =>
    have silent := silent name text
    split
    next plain =>
      obtain rfl := eq_of_beq plain
      rw [Names.get?_insert, if_neg]
      rintro rfl
      exact silent .plain
    next =>
      split
      next l translated =>
        obtain rfl := after?_eq_some_iff.1 translated
        rw [Names.get?_insert, if_neg]
        rintro rfl
        exact silent (.translated l)
      next => rfl
  next => rfl

/-- Tags that do not give the name in a language leave the one that is there. -/
lemma Silent.get?_foldl (silent : Silent lang tags) (names : Names) :
    (tags.foldl addName names).get? lang = names.get? lang := by
  induction tags generalizing names with
  | nil => rfl
  | cons tag tags ih =>
    obtain ⟨here, there⟩ := List.forall_mem_cons.1 silent
    rw [List.foldl_cons, ih there, get?_addName_of_not names here]

/-- Where no tag gives the name in a language, there is none. -/
lemma Silent.get?_names (silent : Silent lang tags) : (names tags).get? lang = none :=
  silent.get?_foldl Names.empty

/-- The last tag that gives the name in a language sets it, whatever it was before. -/
lemma Given.get?_foldl {name : String} (given : Given lang tags name) (names : Names) :
    (tags.foldl addName names).get? lang = some name := by
  induction given generalizing names with
  | here gives silent => rw [List.foldl_cons, silent.get?_foldl, get?_addName_of_gives _ gives]
  | later _ ih => exact ih _

/-- Tags that give the name in a language have a last one that does. -/
lemma silent_or_given (lang : String) (tags : Members) :
    Silent lang tags ∨ ∃ name, Given lang tags name := by
  induction tags with
  | nil => exact .inl nofun
  | cons tag tags ih =>
    rcases ih with silent | ⟨name, given⟩
    · by_cases here : ∃ name, tag.2 = .string name ∧ Gives tag.1 lang
      · obtain ⟨key, _⟩ := tag
        obtain ⟨name, rfl, gives⟩ := here
        exact .inr ⟨name, .here gives silent⟩
      · refine .inl (List.forall_mem_cons.2 ⟨fun name text gives => ?_, silent⟩)
        exact here ⟨name, text, gives⟩
    · exact .inr ⟨name, .later given⟩

/-- The name in a language is the one that was given last. -/
lemma get?_names_iff {name : String} : (names tags).get? lang = some name ↔ Given lang tags name := by
  refine ⟨fun there => ?_, fun given => given.get?_foldl Names.empty⟩
  rcases silent_or_given lang tags with silent | ⟨last, given⟩
  · cases there.symm.trans silent.get?_names
  · obtain rfl := Option.some.inj (there.symm.trans (given.get?_foldl Names.empty))
    exact given

variable {key name : String}

/-- A name that is given is the text of a tag. -/
lemma Given.exists_tag (given : Given lang tags name) :
    ∃ key, (key, .string name) ∈ tags ∧ Gives key lang := by
  induction given with
  | here gives _ => exact ⟨_, List.mem_cons_self, gives⟩
  | later _ ih =>
    obtain ⟨key, mem, gives⟩ := ih
    exact ⟨key, List.mem_cons_of_mem _ mem, gives⟩

/-- Where a tag gives the name in a language, some tag is the last to do so. -/
lemma exists_given (mem : (key, .string name) ∈ tags) (gives : Gives key lang) :
    ∃ last, Given lang tags last := by
  rcases silent_or_given lang tags with silent | given
  · exact absurd gives (silent _ mem name rfl)
  · exact given

/-- A name is given last where no tag gives another one. -/
lemma given_of_forall (mem : (key, .string name) ∈ tags) (gives : Gives key lang)
    (only : ∀ key other, (key, .string other) ∈ tags → Gives key lang → other = name) :
    Given lang tags name := by
  obtain ⟨last, given⟩ := exists_given mem gives
  obtain ⟨key, mem, gives⟩ := given.exists_tag
  exact only key last mem gives ▸ given

/-- A tag that comes after all others and gives the name is the last to do so. -/
lemma given_concat (gives : Gives key lang) (tags : Members) :
    Given lang (tags ++ [(key, .string name)]) name := by
  induction tags with
  | nil => exact .here gives nofun
  | cons tag tags ih => exact .later ih

/-- Where tags are sorted, the tag `name:default` comes after the tag `name`. -/
lemma given_of_sorted (sorted : tags.Sorted) (mem : ("name:default", .string name) ∈ tags) :
    Given Names.defaultKey tags name := by
  induction tags with
  | nil => cases mem
  | cons tag tags ih =>
    obtain ⟨before, sorted⟩ := List.pairwise_cons.1 sorted
    rcases List.mem_cons.1 mem with rfl | mem
    · refine .here (.translated "default") fun tag mem other _ gives => ?_
      have lt := before tag mem
      rcases gives_defaultKey_iff.1 gives with e | e
      · rw [e] at lt
        exact absurd lt (show ¬ "name:default" < "name" by decide)
      · rw [e] at lt
        exact absurd lt (String.lt_irrefl _)
    · exact .later (ih sorted mem)

/-- In a language of its own the name is the text of one tag. -/
lemma get?_names_translated (distinct : tags.Distinct) (own : lang ≠ Names.defaultKey) :
    (names tags).get? lang = some name ↔ tags.get? ("name:" ++ lang) = some (.string name) := by
  rw [get?_names_iff, distinct.get?_eq_some_iff]
  constructor
  · intro given
    obtain ⟨key, mem, gives⟩ := given.exists_tag
    exact (gives_iff own).1 gives ▸ mem
  · intro mem
    refine given_of_forall mem (.translated lang) fun key other mem' gives => ?_
    obtain rfl := (gives_iff own).1 gives
    cases (distinct.get?_eq_some_iff.2 mem).symm.trans (distinct.get?_eq_some_iff.2 mem')
    rfl

/-- Without a language the name is the text of `name` or that of `name:default`. -/
lemma get?_names_plain (distinct : tags.Distinct)
    (there : (names tags).get? Names.defaultKey = some name) :
    tags.text? "name" = some name ∨ tags.text? "name:default" = some name := by
  obtain ⟨key, mem, gives⟩ := (get?_names_iff.1 there).exists_tag
  have text := Members.text?_eq_some_iff.2 (distinct.get?_eq_some_iff.2 mem)
  rcases gives_defaultKey_iff.1 gives with rfl | rfl
  · exact .inl text
  · exact .inr text

/-- Of sorted tags it is the text of `name:default`, where there is one. -/
lemma get?_names_sorted (sorted : tags.Sorted) :
    (names tags).get? Names.defaultKey = (tags.text? "name:default").or (tags.text? "name") := by
  have distinct := sorted.distinct
  cases reserved : tags.text? "name:default" with
  | some name =>
    have mem := distinct.get?_eq_some_iff.1 (Members.text?_eq_some_iff.1 reserved)
    exact get?_names_iff.2 (given_of_sorted sorted mem)
  | none =>
    rw [Option.none_or]
    have only {name : String} (there : (names tags).get? Names.defaultKey = some name) :
        tags.text? "name" = some name := by
      rcases get?_names_plain distinct there with plain | there
      · exact plain
      · cases reserved.symm.trans there
    cases plain : tags.text? "name" with
    | some name =>
      have mem := distinct.get?_eq_some_iff.1 (Members.text?_eq_some_iff.1 plain)
      obtain ⟨last, given⟩ := exists_given mem .plain
      have there := get?_names_iff.2 given
      rw [there, ← only there, plain]
    | none =>
      cases there : (names tags).get? Names.defaultKey with
      | none => rfl
      | some name => cases plain.symm.trans (only there)

/-- Tags give the text of `name` in every order, where `name:default` gives no other text. -/
lemma plain_in_every_order_iff (distinct : tags.Distinct) :
    (∀ order : Members, order.Perm tags → ∀ name,
      (names order).get? Names.defaultKey = some name ↔ tags.get? "name" = some (.string name)) ↔
    ∀ name, tags.get? "name:default" = some (.string name) →
      tags.get? "name" = some (.string name) := by
  constructor
  · intro plain name reserved
    obtain ⟨before, after, rfl⟩ := List.append_of_mem (distinct.get?_eq_some_iff.1 reserved)
    -- the order in which `name:default` is the last one
    have perm : ((before ++ after) ++ [("name:default", Json.string name)]).Perm
        (before ++ ("name:default", Json.string name) :: after) :=
      (List.perm_append_singleton _ _).trans List.perm_middle.symm
    refine (plain _ perm name).1 (get?_names_iff.2 ?_)
    exact given_concat (.translated "default") _
  · intro same order perm name
    rw [get?_names_iff]
    have only (key other : String) (mem : (key, .string other) ∈ order)
        (gives : Gives key Names.defaultKey) : tags.get? "name" = some (.string other) := by
      have there := distinct.get?_eq_some_iff.2 (perm.mem_iff.1 mem)
      rcases gives_defaultKey_iff.1 gives with rfl | rfl
      · exact there
      · exact same other there
    constructor
    · intro given
      obtain ⟨key, mem, gives⟩ := given.exists_tag
      exact only key name mem gives
    · intro there
      have mem := perm.mem_iff.2 (distinct.get?_eq_some_iff.1 there)
      refine given_of_forall mem .plain fun key other mem gives => ?_
      cases there.symm.trans (only key other mem gives)
      rfl

variable {f : Feature}

/-- A stop is made of the names and the tags of a feature that is a point. -/
lemma stop?_inv {s : Stop Float} (made : stop? f = some s) : ∃ id p, textId? f = some id ∧
    f.shape = some (.point p) ∧ s = Stop.ofNames id (names f.tags) (stopMode f.tags) p := by
  obtain ⟨id, named, made⟩ := Option.bind_eq_some_iff.1 made
  split at made
  next p point => exact ⟨id, p, named, point, (Option.some.inj made).symm⟩
  next => cases made

/-- The key of a stop is the key of its name without a language. -/
lemma nameKey_of_stop? {s : Stop Float} (made : stop? f = some s)
    (there : (names f.tags).get? Names.defaultKey = some name) : s.nameKey = Text.nameKey name := by
  obtain ⟨id, p, -, -, rfl⟩ := stop?_inv made
  show ((names f.tags).display?.map Text.nameKey).getD "" = _
  unfold Names.display?
  rw [there]
  rfl

/-- A feature whose tag `name` is a text has a name without a language. -/
lemma exists_plain (distinct : f.tags.Distinct) (text : f.tags.get? "name" = some (.string name)) :
    ∃ shown, (names f.tags).get? Names.defaultKey = some shown := by
  obtain ⟨shown, given⟩ := exists_given (distinct.get?_eq_some_iff.1 text) .plain
  exact ⟨shown, get?_names_iff.2 given⟩

/-- **The names of a feature are the texts of its name tags, and `name:default` counts as `name`.**
Take a feature with tags in any order, no two of one name. In every language but `default` its name
is exactly the text of the tag `name:` with that language. Its name without a language is the one
that is given last by `name` and `name:default`; it is the text of `name` whatever the order of the
tags if and only if `name:default` gives no other text. The key of its stop is the key of that name
where `name` is a text, and so the key of `name` where `name:default` gives no other text. The tags
of a feature that was read from a text are sorted, and there `name:default` is preferred. -/
theorem names_collected (distinct : f.tags.Distinct) :
    (∀ lang name, lang ≠ Names.defaultKey → ((names f.tags).get? lang = some name ↔
      f.tags.get? ("name:" ++ lang) = some (.string name))) ∧
    (∀ name, (names f.tags).get? Names.defaultKey = some name ↔
      Given Names.defaultKey f.tags name) ∧
    ((∀ order : Members, order.Perm f.tags → ∀ name,
      (names order).get? Names.defaultKey = some name ↔
        f.tags.get? "name" = some (.string name)) ↔
      ∀ name, f.tags.get? "name:default" = some (.string name) →
        f.tags.get? "name" = some (.string name)) ∧
    (∀ s name, stop? f = some s → f.tags.get? "name" = some (.string name) →
      ∃ shown, (names f.tags).get? Names.defaultKey = some shown ∧
        s.nameKey = Text.nameKey shown ∧
        (shown = name ∨ f.tags.get? "name:default" = some (.string shown))) ∧
    ∀ text features, Document.ofText? text = some (.collection features) → f ∈ features →
      (names f.tags).get? Names.defaultKey =
        (f.tags.text? "name:default").or (f.tags.text? "name") ∧
      ∀ s name, stop? f = some s → f.tags.get? "name" = some (.string name) →
        s.nameKey = Text.nameKey ((f.tags.text? "name:default").getD name) := by
  refine ⟨fun lang name own => get?_names_translated distinct own, fun name => get?_names_iff,
    plain_in_every_order_iff distinct, ?_, ?_⟩
  · intro s name made text
    obtain ⟨shown, there⟩ := exists_plain distinct text
    refine ⟨shown, there, nameKey_of_stop? made there, ?_⟩
    rcases get?_names_plain distinct there with plain | reserved
    · cases (Members.text?_eq_some_iff.2 text).symm.trans plain
      exact .inl rfl
    · exact .inr (Members.text?_eq_some_iff.1 reserved)
  · intro text features read mem
    have there := get?_names_sorted (keyed_tags read f mem)
    refine ⟨there, fun s name made plain => nameKey_of_stop? made ?_⟩
    rw [there, Members.text?_eq_some_iff.2 plain]
    cases f.tags.text? "name:default" <;> rfl

/-- A metro station that has a name in Catalan too. -/
def sants : Feature where
  id := some (.text "node/1")
  tags := [("mode", .string "metro"), ("name", .string "Sants"), ("name:ca", .string "Sants Estació")]
  shape := some (.point ⟨41.0, 2.0⟩)

/-- A stop with a name and with one in Catalan has both, in whatever order its tags stand. -/
theorem sants_collected : sants.tags.Distinct ∧
    (names sants.tags).get? "ca" = some "Sants Estació" ∧
    ∀ order : Members, order.Perm sants.tags →
      (names order).get? Names.defaultKey = some "Sants" := by
  have distinct : sants.tags.Distinct := by
    unfold Members.Distinct
    decide
  obtain ⟨translated, -, orders, -⟩ := names_collected distinct
  refine ⟨distinct, (translated "ca" _ (by decide)).2 rfl, fun order perm => ?_⟩
  refine (orders.2 ?_ order perm "Sants").2 rfl
  intro name reserved
  cases reserved

/-- A metro station with a tag for the language `default`. -/
def renamedSants : Feature where
  id := some (.text "node/1")
  tags := [("mode", .string "metro"), ("name", .string "Sants"), ("name:default", .string "Estació")]
  shape := some (.point ⟨41.0, 2.0⟩)

/-- Visited last, the tag takes the place of the name, and the key of the stop is another one. -/
theorem sants_renamed : renamedSants.tags.get? "name" = some (.string "Sants") ∧
    (names renamedSants.tags).get? Names.defaultKey = some "Estació" ∧
    (names renamedSants.tags.reverse).get? Names.defaultKey = some "Sants" ∧
    ∃ s, stop? renamedSants = some s ∧ s.nameKey = "estació" ∧ Text.nameKey "Sants" = "sants" := by
  exact ⟨rfl, by decide, by decide, _, rfl, by decide, by decide⟩

end GeoJson

end Whereabouts
