import Mathlib.Data.List.Induction
import Mathlib.Data.List.Nodup
import Mathlib.Data.List.Sort
import Mathlib.Data.Prod.Lex
import Mathlib.Data.String.Basic
import Whereabouts.Proofs.Lists
import Whereabouts.Transit.Dedup

/-!
# One line of each route

Of the lines of a route the first is kept, and what is kept is sorted. So the answer depends on the
order of the lines only in which line of a route comes first.

* `Line.routeOf_iff`: what a line is recognised by as one of its route.
* `Line.firstOf?`: the first line of a route.
* `Line.keepsFirst_foldl`: what is kept of the lines seen so far.
* `Line.keepsFirst_dedup`: the lines that are kept are the first ones of their routes.
* `Line.before_iff`: the order of lines as one of three parts.
* `Line.dedup_eq_of_first`: lists with the same first lines give the same answer, where each line
  has an identifier of its own.
* `Line.dedup_firsts`: the main statement, for all lists of lines.
-/

namespace Whereabouts.Line

open Std

variable {a b line : Line} {lines kept : List Line} {route : String}

section Route

/-- Whether a text is missing or has an empty key. -/
def Blank (text : Option String) : Prop := ∀ s ∈ text, Text.nameKey s = ""

/-- What a line is recognised by as one of its route: the key of its number, that of its name where
the number is blank, or the line itself where both are. -/
inductive RouteOf (line : Line) : String → Prop where
  | number {number : String} :
    line.reference = some number →
    Text.nameKey number ≠ "" →
    RouteOf line (Text.nameKey number)
  | name :
    Blank line.reference →
    Text.nameKey line.name ≠ "" →
    RouteOf line (Text.nameKey line.name)
  | itself :
    Blank line.reference →
    Text.nameKey line.name = "" →
    RouteOf line line.id

/-- A text whose key is empty gives no key. -/
lemma key?_of_blank {s : String} (blank : Text.nameKey s = "") : key? s = none :=
  if_pos (String.isEmpty_iff.2 blank)

/-- A text whose key is not empty gives this key. -/
lemma key?_of_ne {s : String} (ne : Text.nameKey s ≠ "") : key? s = some (Text.nameKey s) :=
  if_neg (mt String.isEmpty_iff.1 ne)

/-- A missing text gives no key either. -/
lemma bind_key?_of_blank {text : Option String} (blank : Blank text) : text.bind key? = none := by
  cases text with
  | none => rfl
  | some s => exact key?_of_blank (blank s rfl)

/-- Lines have the key of their route. -/
lemma dedupKey_of_routeOf (of : RouteOf line route) : line.dedupKey = route := by
  unfold dedupKey
  cases of with
  | number there ne => rw [there, Option.bind_some, key?_of_ne ne, Option.some_or, Option.getD_some]
  | name blank ne =>
    rw [bind_key?_of_blank blank, Option.none_or, key?_of_ne ne, Option.getD_some]
  | itself blank unnamed =>
    rw [bind_key?_of_blank blank, Option.none_or, key?_of_blank unnamed, Option.getD_none]

/-- Every line is recognised by something. -/
lemma exists_routeOf (line : Line) : ∃ route, RouteOf line route := by
  by_cases blank : Blank line.reference
  · by_cases unnamed : Text.nameKey line.name = ""
    · exact ⟨_, .itself blank unnamed⟩
    · exact ⟨_, .name blank unnamed⟩
  · unfold Blank at blank
    push Not at blank
    obtain ⟨number, there, ne⟩ := blank
    exact ⟨_, .number there ne⟩

/-- A line is of a route where this is its key. -/
lemma routeOf_iff : RouteOf line route ↔ line.dedupKey = route := by
  refine ⟨dedupKey_of_routeOf, ?_⟩
  rintro rfl
  obtain ⟨route, of⟩ := exists_routeOf line
  rwa [dedupKey_of_routeOf of]

end Route

/-- The first line of a route. -/
def firstOf? (lines : List Line) (route : String) : Option Line :=
  lines.find? fun line => line.dedupKey == route

/-- A line that is added is the first of its route where the route had none. -/
lemma firstOf?_append (lines : List Line) (line : Line) (route : String) :
    firstOf? (lines ++ [line]) route =
      (firstOf? lines route).or (if line.dedupKey = route then some line else none) := by
  unfold firstOf?
  rw [List.find?_append, List.find?_singleton]
  simp only [beq_iff_eq]

/-- The first line of a route is of this route. -/
lemma route_of_first {route : String} (first : firstOf? lines route = some line) :
    line.dedupKey = route := by
  unfold firstOf? at first
  have found := List.find?_some first
  exact beq_iff_eq.1 found

/-- The first line of a route is one of the lines. -/
lemma mem_of_first {route : String} (first : firstOf? lines route = some line) : line ∈ lines :=
  List.mem_of_find?_eq_some first

/-- A route of which there is a line has a first one. -/
lemma exists_first (mem : line ∈ lines) :
    ∃ first, firstOf? lines line.dedupKey = some first :=
  Option.isSome_iff_exists.1 (List.find?_isSome.2 ⟨line, mem, beq_self_eq_true _⟩)

section Keeping

/-- What is kept of the lines seen so far: the first line of each route. -/
structure KeepsFirst (lines kept : List Line) : Prop where
  routes : (kept.map dedupKey).Nodup
  mem_iff : ∀ line, line ∈ kept ↔ firstOf? lines line.dedupKey = some line

/-- A line of a route that was seen before is left out. -/
lemma KeepsFirst.skip (keeps : KeepsFirst lines kept)
    (known : ∃ old ∈ kept, old.dedupKey = line.dedupKey) : KeepsFirst (lines ++ [line]) kept where
  routes := keeps.routes
  mem_iff l := by
    obtain ⟨old, ho, same⟩ := known
    have first := (keeps.mem_iff old).1 ho
    rw [keeps.mem_iff, firstOf?_append]
    split
    next e =>
      rw [← e, ← same, first, Option.some_or]
    next => rw [Option.or_none]

/-- The first line of a route is kept. -/
lemma KeepsFirst.append (keeps : KeepsFirst lines kept)
    (new : ∀ old ∈ kept, old.dedupKey ≠ line.dedupKey) :
    KeepsFirst (lines ++ [line]) (kept ++ [line]) where
  routes := nodup_map_concat_iff.2 ⟨keeps.routes, new⟩
  mem_iff l := by
    have none : firstOf? lines line.dedupKey = none := by
      rw [Option.eq_none_iff_forall_ne_some]
      intro old first
      have same := route_of_first first
      exact new old ((keeps.mem_iff old).2 (same ▸ first)) same
    rw [List.mem_append, List.mem_singleton, keeps.mem_iff, firstOf?_append]
    split
    next e =>
      rw [← e, none, Option.none_or, Option.some_inj]
      exact ⟨fun h => (h.resolve_left nofun).symm, fun h => .inr h.symm⟩
    next ne =>
      rw [Option.or_none]
      exact ⟨fun h => h.resolve_right fun e => ne (congrArg dedupKey e.symm), .inl⟩

/-- Adding a line keeps the first line of each route. -/
lemma KeepsFirst.step (keeps : KeepsFirst lines kept) (line : Line) :
    KeepsFirst (lines ++ [line]) (keepFirst kept line) := by
  unfold keepFirst
  split
  next known =>
    obtain ⟨old, ho, same⟩ := List.any_eq_true.1 known
    exact keeps.skip ⟨old, ho, beq_iff_eq.1 same⟩
  next new =>
    exact keeps.append fun old ho same => new (List.any_eq_true.2 ⟨old, ho, beq_iff_eq.2 same⟩)

/-- Of every route exactly the first line is kept, if there is any. -/
lemma KeepsFirst.filter_eq (keeps : KeepsFirst lines kept) (route : String) :
    kept.filter (fun line => line.dedupKey == route) = (firstOf? lines route).toList := by
  have same : (kept.filter fun line => line.dedupKey == route).Perm
      (firstOf? lines route).toList := by
    rw [List.perm_ext_iff_of_nodup ((List.Nodup.of_map _ keeps.routes).filter _)
      (Option.toList_nodup _)]
    intro line
    rw [List.mem_filter, Option.mem_toList, keeps.mem_iff, beq_iff_eq]
    constructor
    · rintro ⟨first, rfl⟩
      exact first
    · intro first
      have e := route_of_first first
      exact ⟨e ▸ first, e⟩
  cases first : firstOf? lines route with
  | none =>
    rw [first] at same
    exact same.eq_nil
  | some line =>
    rw [first] at same
    exact List.perm_singleton.1 same

/-- Lines of different routes are all kept. -/
lemma foldl_keepFirst_of_nodup (routes : (lines.map dedupKey).Nodup) :
    lines.foldl keepFirst [] = lines := by
  refine foldl_eq_self_of_nodup (fun kept line new => ?_) routes
  rw [keepFirst, if_neg]
  intro known
  obtain ⟨old, ho, same⟩ := List.any_eq_true.1 known
  exact new old ho (beq_iff_eq.1 same)

/-- What is kept of all lines. -/
lemma keepsFirst_foldl (lines : List Line) : KeepsFirst lines (lines.foldl keepFirst []) := by
  induction lines using List.reverseRecOn with
  | nil => exact ⟨List.nodup_nil, fun _ => ⟨nofun, nofun⟩⟩
  | append_singleton lines line ih =>
    rw [List.foldl_concat]
    exact ih.step line

/-- Of all lines the first one of each route is kept. -/
lemma keepsFirst_dedup (lines : List Line) : KeepsFirst lines (dedup lines) := by
  have keeps := keepsFirst_foldl lines
  have perm : (dedup lines).Perm (lines.foldl keepFirst []) := List.mergeSort_perm _ _
  exact {
    routes := (perm.map dedupKey).nodup_iff.2 keeps.routes
    mem_iff := fun line => perm.mem_iff.trans (keeps.mem_iff line) }

end Keeping

section Order

/-- Two lines compared by tier, then by label, then by name. -/
def order (a b : Line) : Ordering :=
  (compare a.mode.tier.number b.mode.tier.number).then
    ((compare a.label b.label).then (compare a.id b.id))

instance : TransCmp order :=
  inferInstanceAs (TransCmp (compareLex (compareOn fun line => line.mode.tier.number)
    (compareLex (compareOn label) (compareOn id))))

/-- Lines that are equal in the order have the same id. -/
lemma id_eq_of_order (e : order a b = .eq) : a.id = b.id :=
  LawfulEqCmp.eq_of_compare (Ordering.then_eq_eq.1 (Ordering.then_eq_eq.1 e).2).2

/-- The place of a line among others: the number of its tier, its label and its identifier. -/
def place (line : Line) : ℕ ×ₗ String ×ₗ String :=
  toLex (line.mode.tier.number, toLex (line.label, line.id))

/-- A line stands before another one where its place is no later. -/
lemma before_iff : a.before b = true ↔ a.place ≤ b.place := by
  unfold before place
  rw [Ordering.isLE_then_iff_or, Ordering.isLE_then_iff_or, Prod.Lex.toLex_le_toLex,
    Prod.Lex.toLex_le_toLex, compare_lt_iff_lt, compare_lt_iff_lt, Std.compare_eq_iff_eq,
    Std.compare_eq_iff_eq, Ordering.isLE_iff_ne_gt, ← ne_eq, compare_le_iff_le]

/-- The kept lines come in order. -/
lemma dedup_ascending (lines : List Line) : (dedup lines).Pairwise fun a b => a.place ≤ b.place :=
  (pairwise_mergeSort_isLE order _).imp before_iff.1

/-- Nothing is left to do where there is one line of each route. -/
lemma dedup_dedup (lines : List Line) : dedup (dedup lines) = dedup lines := by
  have kept : (dedup lines).foldl keepFirst [] = dedup lines :=
    foldl_keepFirst_of_nodup (keepsFirst_dedup lines).routes
  show ((dedup lines).foldl keepFirst []).mergeSort before = dedup lines
  rw [kept]
  exact List.mergeSort_of_pairwise ((dedup_ascending lines).imp before_iff.2)

end Order

section First

variable {others : List Line}

/-- Of lists with the same first lines of all routes the same lines are kept. -/
lemma foldl_perm_of_first (same : ∀ route, firstOf? others route = firstOf? lines route) :
    (others.foldl keepFirst []).Perm (lines.foldl keepFirst []) := by
  have keeps := keepsFirst_foldl lines
  have keeps' := keepsFirst_foldl others
  rw [List.perm_ext_iff_of_nodup (List.Nodup.of_map _ keeps'.routes)
    (List.Nodup.of_map _ keeps.routes)]
  intro line
  rw [keeps'.mem_iff, keeps.mem_iff, same]

/-- Lines in another order give the same ones, where the first line of each route is the same. -/
lemma dedup_perm_of_first (same : ∀ route, firstOf? others route = firstOf? lines route) :
    (dedup others).Perm (dedup lines) :=
  (List.mergeSort_perm _ _).trans ((foldl_perm_of_first same).trans (List.mergeSort_perm _ _).symm)

/-- Lines at one place are all that can stand in another order. -/
lemma map_place_of_first (same : ∀ route, firstOf? others route = firstOf? lines route) :
    (dedup others).map place = (dedup lines).map place := by
  have ascending (lines : List Line) : ((dedup lines).map place).Pairwise (· ≤ ·) :=
    List.pairwise_map.2 (dedup_ascending lines)
  exact ((dedup_perm_of_first same).map place).eq_of_pairwise' (ascending others) (ascending lines)

/-- Lists with the same first lines of all routes give the same answer, where each line has an
identifier of its own. -/
lemma dedup_eq_of_first (ids : (lines.map (·.id)).Nodup)
    (same : ∀ route, firstOf? others route = firstOf? lines route) :
    dedup others = dedup lines := by
  have keeps := keepsFirst_foldl lines
  have perm := foldl_perm_of_first same
  have subset {line : Line} (mem : line ∈ others.foldl keepFirst []) : line ∈ lines :=
    mem_of_first ((keeps.mem_iff line).1 (perm.mem_iff.1 mem))
  refine mergeSort_isLE_of_perm order perm fun a ha b hb e => ?_
  exact List.inj_on_of_nodup_map ids (subset ha) (subset hb) (id_eq_of_order e)

end First

/-- Of two lines of a route the first one is kept. -/
lemma dedup_pair (same : b.dedupKey = a.dedupKey) : dedup [a, b] = [a] := by
  have kept : [a, b].foldl keepFirst [] = [a] := by
    show keepFirst [a] b = [a]
    refine if_pos ?_
    rw [List.any_cons, same, beq_self_eq_true, Bool.true_or]
  unfold dedup
  rw [kept, List.mergeSort_singleton]

section Main

/-- **Of each route the first line is kept, and what is kept is in order.** A line is recognised by
the key of its number, by that of its name where the number is blank, or as itself where both are.
Every route of the lines has exactly one line in the answer, its first one, and nothing else is in
it. The answer ascends by tiers, labels and identifiers. Any list with the same first line of each
route, such as the lines in another order, gives the same lines, and in each place one of the same
tier, label and identifier. Going through the answer again changes nothing. -/
theorem dedup_firsts (lines : List Line) :
    (∀ line route, RouteOf line route ↔ line.dedupKey = route) ∧
    (∀ line ∈ lines, ∃ first, firstOf? lines line.dedupKey = some first ∧
      (dedup lines).filter (fun l => l.dedupKey == line.dedupKey) = [first]) ∧
    dedup lines ⊆ lines ∧
    (dedup lines).Pairwise (fun a b => a.place ≤ b.place) ∧
    (∀ others, (∀ route, firstOf? others route = firstOf? lines route) →
      (dedup others).Perm (dedup lines) ∧ (dedup others).map place = (dedup lines).map place) ∧
    dedup (dedup lines) = dedup lines := by
  have keeps := keepsFirst_dedup lines
  refine ⟨fun _ _ => routeOf_iff, ?one, ?subset, dedup_ascending lines,
    fun others same => ⟨dedup_perm_of_first same, map_place_of_first same⟩, dedup_dedup lines⟩
  case one =>
    intro line mem
    obtain ⟨first, here⟩ := exists_first mem
    refine ⟨first, here, ?_⟩
    rw [keeps.filter_eq, here]
    rfl
  case subset =>
    intro line kept
    exact mem_of_first ((keeps.mem_iff line).1 kept)

end Main

section Sample

/-- A tram whose number has no key, and so is recognised by its name. -/
def tram (name : String) : Line := ⟨"relation/1", some "-", name, none, .tram⟩

/-- Two trams and the way back of the first one. -/
def trams : List Line := [tram "Blau", tram "Vermell", tram "BLAU"]

/-- The two trams in the other order. -/
def tramsSwapped : List Line := [tram "Vermell", tram "Blau", tram "BLAU"]

/-- The way back is left out. The trams have one label and one identifier, so they share a place and
stay in the order in which they came. -/
theorem trams_kept :
    tram "Blau" ∈ trams ∧
    (∀ route, firstOf? tramsSwapped route = firstOf? trams route) ∧
    (dedup trams).filter (fun l => l.dedupKey == (tram "Blau").dedupKey) = [tram "Blau"] ∧
    (dedup tramsSwapped).map place = (dedup trams).map place ∧
    dedup tramsSwapped ≠ dedup trams := by
  have swapped (route : String) : firstOf? tramsSwapped route = firstOf? trams route := by
    by_cases blau : (tram "Blau").dedupKey = route
    · subst blau
      rfl
    · by_cases vermell : (tram "Vermell").dedupKey = route
      · subst vermell
        rfl
      · have back : (tram "BLAU").dedupKey ≠ route := blau
        simp [firstOf?, tramsSwapped, trams, blau, vermell, back]
  have sorted (a b : String) : [tram a, tram b].Pairwise fun a b => before a b = true := by
    have place : (tram a).place = (tram b).place := rfl
    exact List.pairwise_pair.2 (before_iff.2 place.le)
  have kept : dedup trams = [tram "Blau", tram "Vermell"] :=
    List.mergeSort_of_pairwise (sorted _ _)
  have kept' : dedup tramsSwapped = [tram "Vermell", tram "Blau"] :=
    List.mergeSort_of_pairwise (sorted _ _)
  obtain ⟨-, one, -, -, reordered, -⟩ := dedup_firsts trams
  obtain ⟨first, here, only⟩ := one (tram "Blau") List.mem_cons_self
  cases here
  refine ⟨List.mem_cons_self, swapped, only, (reordered _ swapped).2, ?_⟩
  rw [kept, kept']
  decide

end Sample

end Whereabouts.Line
