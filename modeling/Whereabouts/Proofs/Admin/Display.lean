import Whereabouts.Proofs.Admin.Resolution
import Whereabouts.Proofs.Enrich.FrontEnds

/-!
# The names that are shown

A boundary is reported with one name to show and with its names by language, and a hierarchy is
turned into a language level by level. Together they show the name in the language that is asked
for; else the name without a language; else the name in the first of the languages.

* `Names.Preferred`: the name to show, said of the names alone.
* `BoundaryInfo.localized_eq_iff`: what is reported of a boundary shows this name.
* `Hierarchy.get?_localize`: what turning a hierarchy into a language does to a level.
* `Service.preferred_shown`: the main statement.
-/

namespace Whereabouts

namespace Names

/-- The name to show where a language is asked for, or none. -/
inductive Preferred (names : Names) (lang : Option String) : String → Prop where
  | asked {l name} :
    lang = some l →
    names.get? l = some name →
    Preferred names lang name
  | plain {name} :
    lang.bind names.get? = none →
    names.get? defaultKey = some name →
    Preferred names lang name
  | first {l name} :
    lang.bind names.get? = none →
    names.get? defaultKey = none →
    names.get? l = some name →
    (∀ other, (names.get? other).isSome → l ≤ other) →
    Preferred names lang name

variable {names : Names} {lang : Option String}

/-- There is one name to show at most. -/
lemma Preferred.unique {name other : String} (pf : names.Preferred lang name)
    (pf' : names.Preferred lang other) : name = other := by
  have asked {l name : String} (e : lang = some l) (there : names.get? l = some name) :
      lang.bind names.get? = some name := by
    rw [e]
    exact there
  cases pf with
  | asked e there =>
    have some := asked e there
    cases pf' with
    | asked e' there' => exact Option.some.inj (some.symm.trans (asked e' there'))
    | plain none => cases some.symm.trans none
    | first none => cases some.symm.trans none
  | plain none there =>
    cases pf' with
    | asked e' there' => cases none.symm.trans (asked e' there')
    | plain _ there' => exact Option.some.inj (there.symm.trans there')
    | first _ missing => cases there.symm.trans missing
  | first none missing there least =>
    cases pf' with
    | asked e' there' => cases none.symm.trans (asked e' there')
    | plain _ there' => cases missing.symm.trans there'
    | first _ _ there' least' =>
      have le := least _ (Option.isSome_of_eq_some there')
      have ge := least' _ (Option.isSome_of_eq_some there)
      rw [String.le_antisymm le ge] at there
      exact Option.some.inj (there.symm.trans there')

/-- Leaving out the name without a language leaves the others. -/
lemma get?_withoutDefault {l : String} (ne : l ≠ defaultKey) :
    names.withoutDefault.get? l = names.get? l := by
  unfold get? withoutDefault
  rw [List.find?_filter]
  congr 2
  funext e
  by_cases same : e.1 = l
  · simp [same, ne]
  · simp [same]

/-- The names by language hold no name without a language. -/
lemma get?_withoutDefault_defaultKey : names.withoutDefault.get? defaultKey = none := by
  unfold get? withoutDefault
  rw [List.find?_filter, Option.map_eq_none_iff, List.find?_eq_none]
  intro e _
  by_cases same : e.1 = defaultKey
  · simp [same]
  · simp [same]

/-- A name that is found belongs to one of the entries. -/
lemma exists_entry {l : String} (there : (names.get? l).isSome) : ∃ e ∈ names.entries, e.1 = l := by
  obtain ⟨name, there⟩ := Option.isSome_iff_exists.1 there
  obtain ⟨e, found, -⟩ := Option.map_eq_some_iff.1 there
  exact ⟨e, List.mem_of_find?_eq_some found, by simpa using List.find?_some found⟩

/-- The first of the names is that of the language before all others. -/
lemma first?_least (named : names.isEmpty = false) : ∃ l name, names.first? = some name ∧
    names.get? l = some name ∧ ∀ other, (names.get? other).isSome → l ≤ other := by
  obtain ⟨entries, sorted⟩ := names
  cases entries with
  | nil => cases named
  | cons e entries =>
    refine ⟨e.1, e.2, rfl, by simp [get?], fun other there => ?_⟩
    obtain ⟨e', mem, rfl⟩ := exists_entry there
    obtain rfl | later := List.mem_cons.1 mem
    · exact String.le_refl _
    · exact Std.le_of_lt ((List.pairwise_cons.1 sorted).1 e' later)

/-- The name of the first language is shown where there is none without a language. -/
lemma preferred_display (lang : Option String) (named : names.isEmpty = false)
    (none : lang.bind names.get? = none) :
    ∃ name, names.display? = some name ∧ names.Preferred lang name := by
  unfold display?
  cases plain : names.get? defaultKey with
  | some name => exact ⟨name, rfl, .plain none plain⟩
  | none =>
    obtain ⟨l, name, first, there, least⟩ := first?_least named
    exact ⟨name, first, .first none plain there least⟩

end Names

namespace BoundaryInfo

variable {α : Type} {b : Boundary α} {lang : Option String} {name : String}

/-- What is reported of a boundary shows the preferred one of its names. -/
lemma preferred_localized (named : b.names.isEmpty = false) (lang : Option String) :
    b.names.Preferred lang ((ofBoundary b).localized lang) := by
  have shown : (ofBoundary b).localized lang =
      (lang.bind b.names.withoutDefault.get?).getD (b.names.display?.getD "") := rfl
  rw [shown]
  cases lang with
  | none =>
    obtain ⟨name, display, pf⟩ := Names.preferred_display none named rfl
    rw [display]
    exact pf
  | some l =>
    cases there : b.names.get? l with
    | some name =>
      by_cases e : l = Names.defaultKey
      · -- the name without a language is kept apart from the others, as the one to show
        subst e
        have display : b.names.display? = some name := by
          unfold Names.display?
          rw [there]
          rfl
        rw [Option.bind_some, Names.get?_withoutDefault_defaultKey, display]
        exact .asked rfl there
      · rw [Option.bind_some, Names.get?_withoutDefault e, there]
        exact .asked rfl there
    | none =>
      have missing : b.names.withoutDefault.get? l = none := by
        by_cases e : l = Names.defaultKey
        · rw [e, Names.get?_withoutDefault_defaultKey]
        · rw [Names.get?_withoutDefault e, there]
      obtain ⟨name, display, pf⟩ := Names.preferred_display (some l) named there
      rw [Option.bind_some, missing, display]
      exact pf

/-- It shows no other name. -/
lemma localized_eq_iff (named : b.names.isEmpty = false) :
    (ofBoundary b).localized lang = name ↔ b.names.Preferred lang name := by
  refine ⟨fun e => e ▸ preferred_localized named lang, fun pf => ?_⟩
  exact (preferred_localized named lang).unique pf

end BoundaryInfo

namespace Hierarchy

variable (h : Hierarchy)

/-- Turning a level into a language shows the name in this language there. -/
lemma get?_localizeLevel (l : String) (level : Level) :
    (localizeLevel l h level).get? level =
      (h.get? level).map fun info => { info with name := info.localized (some l) } := by
  unfold localizeLevel
  split
  next info there => rw [get?_set, there, Option.map_some]
  next missing => rw [missing, Option.map_none]

/-- Turning a level into a language leaves the other levels as they are. -/
lemma get?_localizeLevel_of_ne (l : String) {level other : Level} (ne : other ≠ level) :
    (localizeLevel l h level).get? other = h.get? other := by
  unfold localizeLevel
  split
  next => exact get?_set_of_ne h _ ne
  next => rfl

/-- The levels that are turned into a language are turned once each. -/
lemma get?_foldl_localizeLevel (l : String) {levels : List Level} (nodup : levels.Nodup)
    (level : Level) : (levels.foldl (localizeLevel l) h).get? level =
      if level ∈ levels then
        (h.get? level).map fun info => { info with name := info.localized (some l) }
      else h.get? level := by
  induction levels generalizing h with
  | nil => rfl
  | cons first levels ih =>
    obtain ⟨fresh, nodup⟩ := List.nodup_cons.1 nodup
    rw [List.foldl_cons, ih _ nodup]
    by_cases e : level = first
    · subst e
      rw [if_neg fresh, if_pos List.mem_cons_self, get?_localizeLevel]
    · simp only [get?_localizeLevel_of_ne h l e, List.mem_cons, e, false_or]

/-- Turning levels into a language leaves the address as visible as it is. -/
lemma addressVisible_foldl_localizeLevel (l : String) (levels : List Level) :
    (levels.foldl (localizeLevel l) h).addressVisible = h.addressVisible := by
  induction levels generalizing h with
  | nil => rfl
  | cons first levels ih =>
    rw [List.foldl_cons, ih]
    unfold localizeLevel
    split
    next => exact addressVisible_set ..
    next => rfl

variable (lang : Option String)

/-- A level of a hierarchy in a language is that level with the name in this language. -/
lemma get?_localize (level : Level) : (h.localize lang).get? level =
    (h.get? level).map fun info => { info with name := info.localized lang } := by
  cases lang with
  | none => exact Option.map_id'.symm
  | some l =>
    have all : Level.all.Nodup := by decide
    unfold localize
    rw [get?_foldl_localizeLevel h l all, if_pos (Level.mem_all level)]

/-- Turning a hierarchy into a language leaves the address as visible as it is. -/
lemma addressVisible_localize : (h.localize lang).addressVisible = h.addressVisible := by
  cases lang with
  | none => rfl
  | some l => exact addressVisible_foldl_localizeLevel h l Level.all

/-- A hierarchy is known from its levels and from whether it shows the address. -/
lemma ext {h h' : Hierarchy} (levels : ∀ level, h.get? level = h'.get? level)
    (address : h.addressVisible = h'.addressVisible) : h = h' := by
  obtain ⟨⟩ := h
  obtain ⟨⟩ := h'
  cases address
  cases levels .country
  cases levels .region
  cases levels .province
  cases levels .subprovince
  cases levels .city
  cases levels .district
  cases levels .subdistrict
  cases levels .neighborhood
  rfl

/-- A hierarchy that was turned into a language stays as it is. -/
lemma localize_localize : (h.localize lang).localize lang = h.localize lang := by
  apply ext
  · intro level
    rw [get?_localize, get?_localize, Option.map_map]
    congr 1
    funext info
    -- the name in the language, or the one to show, is now the one to show
    cases there : lang.bind info.names.get? <;> simp [BoundaryInfo.localized, there]
  · rw [addressVisible_localize]

end Hierarchy

namespace Json.Members

/-- A member is looked for in the first part of an object, then in the second. -/
lemma get?_append (first second : Members) (key : String) :
    get? (first ++ second) key = (get? first key).or (get? second key) := by
  unfold get?
  rw [List.find?_append, Option.map_or]

/-- A member that may be missing is found by its own name only. -/
lemma get?_member? (name key : String) (value : Option Json) :
    get? (Event.member? name value) key = if name = key then value else none := by
  cases value with
  | none => exact (ite_self none).symm
  | some v =>
    by_cases e : name = key
    · simp [get?, Event.member?, e]
    · simp [get?, Event.member?, e]

/-- In members with names of their own each is found under its name. -/
lemma get?_flatMap_member? {β : Type} [DecidableEq β] {name : β → String} (inj : name.Injective)
    (value : β → Option Json) (items : List β) (item : β) :
    get? (items.flatMap fun b => Event.member? (name b) (value b)) (name item) =
      if item ∈ items then value item else none := by
  induction items with
  | nil => rfl
  | cons first items ih =>
    rw [List.flatMap_cons, get?_append, get?_member?, ih]
    by_cases e : item = first
    · subst e
      rw [if_pos rfl, if_pos List.mem_cons_self]
      -- the item may stand in the list once more
      split <;> cases value item <;> rfl
    · rw [if_neg (inj.ne (Ne.symm e)), Option.none_or]
      simp only [List.mem_cons, e, false_or]

end Json.Members

/-- Levels have different names. -/
lemma Level.name_injective : Level.name.Injective := by
  intro a b e
  cases a <;> cases b <;> first | rfl | exact absurd e (by decide)

/-- What is written at a level of a hierarchy. -/
lemma Hierarchy.get?_toJson (h : Hierarchy) (level : Level) :
    h.toJson.get? level.name = (h.get? level).map BoundaryInfo.toJson := by
  have apart : Json.Members.get? [("address_visible", .bool h.addressVisible)] level.name = none := by
    cases level <;> rfl
  show Json.Members.get? (_ ++ _) level.name = _
  rw [Json.Members.get?_append, apart, Option.or_none,
    Json.Members.get?_flatMap_member? Level.name_injective, if_pos (Level.mem_all level)]

/-- A request for the hierarchy around a point, in a language if one is given. -/
structure Http.Request.AsksIn (r : Request) (point : Point Float) (lang : Option String) :
    Prop where
  method : r.method = "GET"
  target : ∃ query, Http.Target.ofText? r.target = some ⟨Endpoint.reverse.path, query⟩ ∧
    Service.point? (Http.fields query) = some point ∧
    Http.optional some "lang" (Http.fields query) = some lang

/-- The name that is written at a level of a hierarchy. -/
def Json.nameAt? (body : Json) (level : Level) : Option Json :=
  (body.get? level.name).bind (·.get? "name")

/-- What is written as the name at a level is the name of the report there. -/
lemma Hierarchy.nameAt?_toJson (h : Hierarchy) (level : Level) :
    h.toJson.nameAt? level = (h.get? level).map fun info => .string info.name := by
  unfold Json.nameAt?
  rw [get?_toJson]
  cases h.get? level <;> rfl

namespace Service

open Http (Request Response Reply)

variable {p : Pipeline Id} {r : Request} {point : Point Float} {lang : Option String}

/-- The response for a valid point that lies in some boundaries. -/
lemma respond_reverse_in {h : Hierarchy} (valid : point.isValid = true)
    (asks : r.AsksIn point lang) (found : p.enricher.gateway.resolve point = pure (some h)) :
    respond p r = .ofReply (.json (h.localize lang).toJson) := by
  obtain ⟨query, target, at_point, at_lang⟩ := asks.target
  rw [respond_eq target]
  unfold dispatch reply reverse
  rw [asks.method]
  dsimp only
  rw [at_point, at_lang]
  dsimp only
  rw [atPoint_of_valid valid, found]
  rfl

/-- **The name that is shown is the preferred one.** Take the hierarchy of any boundaries, and a
boundary with at least one name that stands at one of its levels. In any language the name there is
the one in this language; else the one without a language; else the one in the first language. The
service shows it where a request for a point in these boundaries asks for the language. Turning any
hierarchy into a language changes names only: the levels that are filled, their numbers and their
names by language stay, and so does whether the address is shown; without a language nothing
changes, and doing it twice is doing it once. -/
theorem preferred_shown :
    (∀ (boundaries : List (Boundary Float)) (h : Hierarchy) (level : Level) (b : Boundary Float),
      Hierarchy.ofBoundaries boundaries = some h →
      Boundary.choose? (boundaries.filter fun b => b.level = level) = some b →
      b.names.isEmpty = false →
      (∀ lang name, ((h.localize lang).get? level).map (·.name) = some name ↔
        b.names.Preferred lang name) ∧
      ∀ (p : Pipeline Id) (r : Request) (point : Point Float) (lang : Option String),
        point.isValid = true → r.AsksIn point lang →
        p.enricher.gateway.containing point = pure boundaries →
        ∃ body, respond p r = .ofReply (.json body) ∧
          ∀ name, body.nameAt? level = some (.string name) ↔ b.names.Preferred lang name) ∧
    ∀ (h : Hierarchy) (lang : Option String),
      (∀ level, (h.localize lang).get? level =
        (h.get? level).map fun info => { info with name := info.localized lang }) ∧
      (h.localize lang).addressVisible = h.addressVisible ∧
      h.localize none = h ∧ (h.localize lang).localize lang = h.localize lang := by
  constructor
  · intro boundaries h level b built chosen named
    have shown (lang : Option String) : ((h.localize lang).get? level).map (·.name) =
        some ((BoundaryInfo.ofBoundary b).localized lang) := by
      rw [Hierarchy.get?_localize, Hierarchy.get?_ofBoundaries built, Hierarchy.chosen?, chosen]
      rfl
    constructor
    · intro lang name
      rw [shown, Option.some_inj, BoundaryInfo.localized_eq_iff named]
    · intro p r point lang valid asks around
      have found : p.enricher.gateway.resolve point = pure (some h) := by
        unfold Gateway.resolve
        rw [around, pure_bind, built]
      refine ⟨_, respond_reverse_in valid asks found, fun name => ?_⟩
      have written : (h.localize lang).toJson.nameAt? level =
          (((h.localize lang).get? level).map (·.name)).map Json.string := by
        rw [Hierarchy.nameAt?_toJson, Option.map_map]
        rfl
      rw [written, shown, Option.map_some, Option.some_inj, Json.string.injEq,
        BoundaryInfo.localized_eq_iff named]
  · intro h lang
    exact ⟨h.get?_localize lang, h.addressVisible_localize lang, rfl, h.localize_localize lang⟩

/-- A region without a name that has no language. -/
def catalonia : Boundary Float where
  id := 349053
  level := .region
  names := .ofList [("fr", "Catalogne"), ("ca", "Catalunya"), ("es", "Cataluña")]
  population := none
  declaredSize := none
  area := []

/-- A pipeline on a gateway that finds the region around every point. -/
def regional : Pipeline Id where
  data := .ofFeatures [catalonia] [] []
  enricher := ⟨⟨fun plans => pure (plans.map fun _ => [catalonia]), fun _ => pure [],
    fun _ => pure []⟩, .standard, none⟩

/-- A request for the hierarchy around a place, in German. -/
def askInGerman : Request where
  method := "GET"
  target := (askPlace .reverse).target ++ "&lang=de"
  headers := []
  body := ""

/-- Where a language is missing, the first of the others is shown. -/
theorem catalunya_shown_in_german : ∃ h body,
    Hierarchy.ofBoundaries [catalonia] = some h ∧
    Boundary.choose? ([catalonia].filter fun b => b.level = .region) = some catalonia ∧
    catalonia.names.isEmpty = false ∧ Point.isValid (⟨41.5, 2.5⟩ : Point Float) = true ∧
    askInGerman.AsksIn ⟨41.5, 2.5⟩ (some "de") ∧
    regional.enricher.gateway.containing ⟨41.5, 2.5⟩ = pure [catalonia] ∧
    respond regional askInGerman = .ofReply (.json body) ∧
    body.nameAt? .region = some (.string "Catalunya") ∧
    ((h.localize (some "fr")).get? .region).map (·.name) = some "Catalogne" := by
  have named : catalonia.names.isEmpty = false := by decide
  have valid : Point.isValid (⟨41.5, 2.5⟩ : Point Float) = true := by decide +kernel
  have asks : askInGerman.AsksIn ⟨41.5, 2.5⟩ (some "de") :=
    ⟨rfl, placeFields ++ "&lang=de", by decide +kernel, by decide +kernel, by decide +kernel⟩
  have preferred (lang : Option String) (name : String)
      (shown : (BoundaryInfo.ofBoundary catalonia).localized lang = name) :
      catalonia.names.Preferred lang name := (BoundaryInfo.localized_eq_iff named).1 shown
  obtain ⟨shown, service⟩ := preferred_shown.1 [catalonia] _ .region catalonia rfl rfl named
  obtain ⟨body, answered, name⟩ := service regional askInGerman ⟨41.5, 2.5⟩ (some "de") valid
    asks rfl
  exact ⟨_, body, rfl, rfl, named, valid, asks, rfl, answered,
    (name _).2 (preferred _ _ (by decide)), (shown _ _).2 (preferred _ _ (by decide))⟩

end Service

end Whereabouts
